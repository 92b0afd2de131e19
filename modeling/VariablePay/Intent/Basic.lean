import VariablePay.Plan.Component

set_option autoImplicit false

/-!
# Intents

An intent says what a component pays in one of four generic operations. Its inputs are named by
their source: a metric, the payout of an earlier intent or a constant.
-/

namespace VariablePay

inductive InputSource where
  | metric (name : String)
  /-- The payout at a position of the execution order, which has to be an earlier one. -/
  | priorComponent (index : Nat)
  | constant (value : Float)
  deriving DecidableEq

/-- Ascending lower boundaries; a branch runs from its boundary up to the next. -/
structure Boundaries where
  lower : List Float
  labels : List (Option String)
  deriving DecidableEq

/-- What chooses a grid: the value of an attribute, or else a fallback. -/
structure GridSelector where
  attributeName : Option String
  fallback : Option String
  deriving DecidableEq

/-- The output attached to the branch that the input falls in. -/
structure BoundedLookup where
  input : InputSource
  boundaries : Boundaries
  outputs : List Float
  deriving DecidableEq

/-- The cell of a grid at two independent branches. -/
structure GridLookup where
  rowInput : InputSource
  rowBoundaries : Boundaries
  columnInput : InputSource
  columnBoundaries : Boundaries
  selector : GridSelector
  grids : StringMap Grid
  deriving DecidableEq

/-- A rate times the input; zero when the input is below the floor. -/
structure ScalarMultiply where
  input : InputSource
  rate : Float
  floor : Option Float
  deriving DecidableEq

/-- The rate at the branch of a condition, times a base. -/
structure ConditionalRate where
  condition : InputSource
  boundaries : Boundaries
  rates : List Float
  base : InputSource
  deriving DecidableEq

inductive IntentOperation where
  | boundedLookup (lookup : BoundedLookup)
  | gridLookup (lookup : GridLookup)
  | scalarMultiply (product : ScalarMultiply)
  | conditionalRate (product : ConditionalRate)
  deriving DecidableEq

structure ComponentIntent where
  componentId : String
  kind : ComponentKind
  ordinal : UInt32
  index : Nat
  enabled : Bool
  operation : IntentOperation
  deriving DecidableEq

namespace Boundaries

def ofBands (bands : List Band) : Boundaries := ⟨bands.map Band.min, bands.map Band.label⟩

end Boundaries

def ConditionalRate.ofBuckets (config : BucketedRate) : ConditionalRate where
  condition := .metric config.selector
  boundaries := .ofBands (config.buckets.map RateBucket.toBand)
  rates := config.buckets.map RateBucket.rate
  base := .metric config.base

def IntentOperation.ofConfig : ComponentConfig → IntentOperation
  | .tierLookup config => .boundedLookup
      { input := .metric config.metric
        boundaries := .ofBands (config.tiers.map Tier.toBand)
        outputs := config.tiers.map Tier.value }
  | .matrixLookup config => .gridLookup
      { rowInput := .metric config.rowMetric
        rowBoundaries := .ofBands config.rowBands
        columnInput := .metric config.columnMetric
        columnBoundaries := .ofBands config.columnBands
        selector := ⟨config.gridAttribute, config.defaultGrid⟩
        grids := config.grids }
  | .percentage config => .scalarMultiply ⟨.metric config.metric, config.rate, config.minThreshold⟩
  | .flatPercentage config => .scalarMultiply ⟨.metric config.metric, config.rate, none⟩
  | .conditionalPercentage config => .conditionalRate (.ofBuckets config)
  | .percentageWithGate config => .conditionalRate (.ofBuckets config)

namespace ComponentIntent

/-- The intent of the component at a position. -/
def ofComponent (component : Component) (index : Nat) : ComponentIntent where
  componentId := component.id
  kind := component.config.kind
  ordinal := component.ordinal
  index := index
  enabled := component.enabled
  operation := .ofConfig component.config

def ofComponents (components : List Component) : List ComponentIntent :=
  components.mapIdx fun index component => ofComponent component index

end ComponentIntent

end VariablePay
