import VariablePay.Evaluation.Basic
import VariablePay.Intent.Basic
import VariablePay.Payout

set_option autoImplicit false

/-!
# Execution of intents

Intents are executed in the order of their ordinals, and each sees the payouts of those before it.
An intent that fails pays zero and leaves the reason in its trace. Execution shares no rule with
the direct evaluation of components, so that each can be held against the other.
-/

namespace VariablePay

structure IntentTrace where
  componentId : String
  index : Nat
  payout : Float
  /-- The values used, by source. -/
  inputs : StringMap Float
  branch : Option Nat
  columnBranch : Option Nat
  grid : Option String
  rate : Option Float
  /-- How many earlier payouts were in sight. -/
  priorResultsSeen : Nat
  error : Option String
  deriving DecidableEq

def IntentTrace.start (intent : ComponentIntent) (prior : List Float) : IntentTrace where
  componentId := intent.componentId
  index := intent.index
  payout := 0.0
  inputs := .empty
  branch := none
  columnBranch := none
  grid := none
  rate := none
  priorResultsSeen := prior.length
  error := none

/-- What executed intents did, their payouts in execution order, and the total. -/
structure Execution where
  traces : List IntentTrace
  payouts : List Float
  total : Float
  deriving DecidableEq

structure ExecutionContext where
  entity : EntityContext
  prior : List Float

/-- Resolves an input and notes it among the values used. A metric has to be finite and reads as
zero if missing; a constant is not noted. -/
def InputSource.resolve (context : ExecutionContext) (used : StringMap Float) :
    InputSource → Except EvalFault (Float × StringMap Float)
  | metric name =>
      let value := context.entity.metrics.valueOf name
      if value.isFinite then .ok (value, used.insert name value)
      else .error (.nonFiniteMetric name value)
  | priorComponent index =>
      match context.prior[index]? with
      | some value => .ok (value, used.insert s!"prior[{index}]" value)
      | none => .error (.priorResultOutOfRange index)
  | constant value => .ok (value, used)

namespace Boundaries

/-- Whether the boundary at a position is at or below the value. -/
def isReached (boundaries : Boundaries) (value : Float) (index : Nat) : Bool :=
  boundaries.lower[index]?.any fun lower => decide (lower ≤ value)

/-- Halves the `size` positions from `base` on until one is left, keeping the upper half whenever
its first boundary is reached. -/
def narrow (boundaries : Boundaries) (value : Float) (size base : Nat) : Nat :=
  if _several : 1 < size then
    let half := size / 2
    boundaries.narrow value (size - half)
      (if boundaries.isReached value (base + half) then base + half else base)
  else base
termination_by size
decreasing_by omega

/-- The number of boundaries reached, found by halving; exact when the boundaries ascend. -/
def reachedCount (boundaries : Boundaries) (value : Float) : Nat :=
  if boundaries.lower.isEmpty then 0
  else
    let last := boundaries.narrow value boundaries.lower.length 0
    if boundaries.isReached value last then last + 1 else last

/-- The branch that a value falls in; a value below all boundaries falls in the first branch. -/
def branchOf (boundaries : Boundaries) (value : Float) : Except EvalFault Nat :=
  if boundaries.lower.isEmpty then .error .emptyTable
  else .ok (boundaries.reachedCount value - 1)

end Boundaries

/-- The grid that a selector picks: under the attribute's value, else under the fallback, else the
only one there is. -/
def GridSelector.pick (selector : GridSelector) (grids : StringMap Grid)
    (attributes : Attributes) : Except EvalFault (String × Grid) :=
  let requested := selector.attributeName.bind attributes.get?
  let candidates := requested.toList ++ selector.fallback.toList
  match candidates.findSome? fun key => (grids.get? key).map fun grid => (key, grid) with
  | some found => .ok found
  | none =>
      match grids.entries with
      | [entry] => .ok entry
      | _ => .error (.gridNotFound (requested.getD "<none>"))

/-- Executes an operation, filling in the trace of its intent. -/
def IntentOperation.execute (context : ExecutionContext) (trace : IntentTrace) :
    IntentOperation → Except EvalFault IntentTrace
  | boundedLookup lookup => do
      let (value, inputs) ← lookup.input.resolve context .empty
      let branch ← lookup.boundaries.branchOf value
      let payout ← EvalFault.require .emptyTable lookup.outputs[branch]?
      return { trace with payout := payout, inputs := inputs, branch := some branch }
  | gridLookup lookup => do
      let (rowValue, inputs) ← lookup.rowInput.resolve context .empty
      let (columnValue, inputs) ← lookup.columnInput.resolve context inputs
      let (key, grid) ← lookup.selector.pick lookup.grids context.entity.attributes
      let row ← lookup.rowBoundaries.branchOf rowValue
      let column ← lookup.columnBoundaries.branchOf columnValue
      let payout ← EvalFault.require .emptyTable (grid[row]?.bind fun cells => cells[column]?)
      return { trace with
        payout := payout, inputs := inputs, grid := some key, branch := some row,
        columnBranch := some column }
  | scalarMultiply product => do
      let (value, inputs) ← product.input.resolve context .empty
      let isBelow := product.floor.any fun floor => decide (value < floor)
      return { trace with
        payout := if isBelow then 0.0 else product.rate * value
        inputs := inputs, rate := some product.rate }
  | conditionalRate product => do
      let (condition, inputs) ← product.condition.resolve context .empty
      let (base, inputs) ← product.base.resolve context inputs
      let branch ← product.boundaries.branchOf condition
      let rate ← EvalFault.require .emptyTable product.rates[branch]?
      return { trace with
        payout := rate * base, inputs := inputs, branch := some branch, rate := some rate }

namespace ComponentIntent

/-- Executes an intent after those that paid `prior`; one that is switched off pays zero. -/
def execute (intent : ComponentIntent) (context : EntityContext) (prior : List Float) :
    Except EvalFault IntentTrace :=
  if intent.enabled then intent.operation.execute ⟨context, prior⟩ (.start intent prior)
  else .ok (.start intent prior)

/-- The trace of an intent, also of one that fails. -/
def trace (intent : ComponentIntent) (context : EntityContext) (prior : List Float) :
    IntentTrace :=
  match intent.execute context prior with
  | .ok trace => trace
  | .error fault => { IntentTrace.start intent prior with error := some fault.message }

/-- Whether an intent is executed before or together with another. -/
def precedes (left right : ComponentIntent) : Bool :=
  decide (left.ordinal < right.ordinal) ||
    (left.ordinal = right.ordinal && decide (left.index ≤ right.index))

/-- The traces of intents in the given order, after those that paid `prior`. -/
def tracesFrom (context : EntityContext) : (prior : List Float) → List ComponentIntent →
    List IntentTrace
  | _, [] => []
  | prior, intent :: rest =>
      let trace := intent.trace context prior
      trace :: tracesFrom context (prior ++ [trace.payout]) rest

end ComponentIntent

/-- Executes intents in the order of ordinal and index. -/
def Execution.of (intents : List ComponentIntent) (context : EntityContext) : Execution :=
  let traces := ComponentIntent.tracesFrom context [] (intents.mergeSort ComponentIntent.precedes)
  let payouts := traces.map IntentTrace.payout
  ⟨traces, payouts, Payout.total payouts⟩

end VariablePay
