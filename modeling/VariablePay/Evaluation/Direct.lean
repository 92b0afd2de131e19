import VariablePay.Evaluation.Basic
import VariablePay.Payout

set_option autoImplicit false

/-!
# Direct evaluation

Each component is evaluated from its configuration on its own. One that fails pays zero and keeps
the reason, so that its neighbours are paid all the same.
-/

namespace VariablePay

namespace Explanation

/-- Reads a metric and notes what was read. A missing metric reads as zero and is listed; one that
is there has to be finite. -/
def read (metrics : MetricMap) (name : String) (explanation : Explanation) :
    Except EvalFault (Float × Explanation) :=
  match metrics.get? name with
  | none =>
      .ok (0.0, { explanation with
        inputs := explanation.inputs.insert name 0.0
        missingMetrics := explanation.missingMetrics ++ [name] })
  | some value =>
      if value.isFinite then
        .ok (value, { explanation with inputs := explanation.inputs.insert name value })
      else .error (.nonFiniteMetric name value)

end Explanation

namespace MatrixLookup

/-- The grid under a key, with the key. -/
def gridAt? (config : MatrixLookup) (key : String) : Option (String × Grid) :=
  (config.grids.get? key).map fun grid => (key, grid)

/-- The value of the attribute that selects the grid. -/
def wantedGrid? (config : MatrixLookup) (attributes : Attributes) : Option String :=
  config.gridAttribute.bind attributes.get?

def onlyGrid? (config : MatrixLookup) : Option (String × Grid) :=
  match config.grids.entries with
  | [entry] => some entry
  | _ => none

/-- The grid that applies: the wanted one, else the default, else the only one. -/
def selectGrid (config : MatrixLookup) (attributes : Attributes) :
    Except EvalFault (String × Grid) :=
  let wanted := config.wantedGrid? attributes
  EvalFault.require (.gridNotFound (wanted.getD "<none>"))
    ((wanted.bind config.gridAt?).or ((config.defaultGrid.bind config.gridAt?).or config.onlyGrid?))

end MatrixLookup

def Grid.cell? (grid : Grid) (row column : Nat) : Option Float :=
  grid[row]?.bind fun cells => cells[column]?

def BucketedRate.evaluate (config : BucketedRate) (context : EntityContext) :
    Except EvalFault (Float × Explanation) := do
  let (selected, explanation) ← Explanation.empty.read context.metrics config.selector
  let (base, explanation) ← explanation.read context.metrics config.base
  let matched ← EvalFault.require .emptyTable
    (Band.resolve? (config.buckets.map RateBucket.toBand) selected)
  let bucket ← EvalFault.require .emptyTable config.buckets[matched.index]?
  return (bucket.rate * base,
    { explanation with matched := some matched, rate := some bucket.rate })

def ComponentConfig.evaluate (config : ComponentConfig) (context : EntityContext) :
    Except EvalFault (Float × Explanation) :=
  match config with
  | .tierLookup config => do
      let (value, explanation) ← Explanation.empty.read context.metrics config.metric
      let matched ← EvalFault.require .emptyTable
        (Band.resolve? (config.tiers.map Tier.toBand) value)
      let tier ← EvalFault.require .emptyTable config.tiers[matched.index]?
      return (tier.value, { explanation with matched := some matched })
  | .matrixLookup config => do
      let (rowValue, explanation) ← Explanation.empty.read context.metrics config.rowMetric
      let (columnValue, explanation) ← explanation.read context.metrics config.columnMetric
      let (key, grid) ← config.selectGrid context.attributes
      let row ← EvalFault.require .emptyTable (Band.resolve? config.rowBands rowValue)
      let column ← EvalFault.require .emptyTable (Band.resolve? config.columnBands columnValue)
      let payout ← EvalFault.require .emptyTable (grid.cell? row.index column.index)
      return (payout, { explanation with
        grid := some key, matched := some row, matchedColumn := some column })
  | .percentage config => do
      let (base, explanation) ← Explanation.empty.read context.metrics config.metric
      let explanation := { explanation with rate := some config.rate }
      if config.minThreshold.any fun threshold => decide (base < threshold) then
        return (0.0, { explanation with gated := true })
      else return (config.rate * base, explanation)
  | .conditionalPercentage config => config.evaluate context
  | .percentageWithGate config => config.evaluate context
  | .flatPercentage config => do
      let (value, explanation) ← Explanation.empty.read context.metrics config.metric
      return (config.rate * value, { explanation with rate := some config.rate })

namespace Component

/-- Evaluates a component; one that is switched off pays zero. -/
def evaluate (component : Component) (context : EntityContext) :
    Except EvalFault ComponentResult :=
  if component.enabled then
    match component.config.evaluate context with
    | .ok (payout, explanation) => .ok (.of component payout explanation)
    | .error fault => .error fault
  else .ok (.of component 0.0 .ofDisabled)

/-- The result of a component, degraded to zero if its evaluation fails. -/
def result (component : Component) (context : EntityContext) : ComponentResult :=
  match component.evaluate context with
  | .ok result => result
  | .error fault => .ofFault component fault

end Component

def Evaluation.of (components : List Component) (context : EntityContext) : Evaluation :=
  let results := components.map fun component => component.result context
  ⟨results, Payout.total (results.map ComponentResult.payout)⟩

end VariablePay
