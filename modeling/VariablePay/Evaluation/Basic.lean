import VariablePay.Decimal.Layout
import VariablePay.Metrics.Basic
import VariablePay.Plan.RuleSet

set_option autoImplicit false

/-!
# What an evaluation sees and says

An evaluation sees an entity's metrics and attributes. It says what a component pays and how it
came to that amount, or why it has none.
-/

namespace VariablePay

structure EntityContext where
  metrics : MetricMap
  attributes : Attributes
  deriving DecidableEq

inductive EvalFault where
  | nonFiniteMetric (metric : String) (value : Float)
  | gridNotFound (key : String)
  | emptyTable
  | priorResultOutOfRange (index : Nat)
  deriving DecidableEq

namespace EvalFault

def message : EvalFault → String
  | nonFiniteMetric metric value =>
      s!"metric '{metric}' is not a finite number ({messageText value})"
  | gridNotFound key => s!"no grid configured for '{key}'"
  | emptyTable => "lookup table is empty"
  | priorResultOutOfRange index => s!"prior result {index} referenced before it was computed"

def require {α : Type} (fault : EvalFault) : Option α → Except EvalFault α
  | some value => .ok value
  | none => .error fault

end EvalFault

structure Explanation where
  inputs : StringMap Float
  matched : Option MatchedBand
  matchedColumn : Option MatchedBand
  grid : Option String
  rate : Option Float
  /-- The metrics that were not there and read as zero. -/
  missingMetrics : List String
  /-- Whether the base fell below its threshold. -/
  gated : Bool
  disabled : Bool
  /-- Why the payout degraded to zero. -/
  error : Option String
  deriving DecidableEq

namespace Explanation

def empty : Explanation := ⟨.empty, none, none, none, none, [], false, false, none⟩

def ofDisabled : Explanation := { empty with disabled := true }

def ofFault (fault : EvalFault) : Explanation := { empty with error := some fault.message }

end Explanation

structure ComponentResult where
  componentId : String
  componentName : String
  kind : ComponentKind
  ordinal : UInt32
  payout : Float
  explanation : Explanation
  deriving DecidableEq

namespace ComponentResult

def of (component : Component) (payout : Float) (explanation : Explanation) : ComponentResult :=
  ⟨component.id, component.name, component.config.kind, component.ordinal, payout, explanation⟩

/-- The result of a component that could not be evaluated: it pays zero and carries the reason. -/
def ofFault (component : Component) (fault : EvalFault) : ComponentResult :=
  of component 0.0 (.ofFault fault)

def isDegraded (result : ComponentResult) : Bool := result.explanation.error.isSome

end ComponentResult

structure Evaluation where
  results : List ComponentResult
  total : Float
  deriving DecidableEq

end VariablePay
