import VariablePay.Confidence.Surface
import VariablePay.Decimal.Fixed
import VariablePay.Evaluation.Direct
import VariablePay.Intent.Execution

set_option autoImplicit false

/-!
# Comparison of the two ways

Every entity is evaluated directly and through intents. The totals and the payouts of each
component are compared, and each component leaves one event, whatever the totals say.
-/

namespace VariablePay

/-- A variant with its intents and signatures, made once for a run. -/
structure PreparedVariant where
  id : String
  components : List Component
  intents : List ComponentIntent
  signatures : List Signature
  deriving DecidableEq

def PreparedVariant.of (variant : Variant) : PreparedVariant where
  id := variant.id
  components := variant.components
  intents := ComponentIntent.ofComponents variant.components
  signatures := variant.components.map fun component => component.config.signature

structure ComponentComparison where
  componentId : String
  signature : Signature
  direct : Float
  executed : Float
  agrees : Bool
  deriving DecidableEq

namespace ComponentComparison

/-- Compares a direct result with the executed payout at its place; a payout that is not there
reads as zero and never agrees. -/
def of (result : ComponentResult) (signature : Signature) (executed : Option Float) :
    ComponentComparison where
  componentId := result.componentId
  signature := signature
  direct := result.payout
  executed := executed.getD 0.0
  agrees := executed.any fun payout => Payout.agree result.payout payout

def event (entityId : String) (comparison : ComponentComparison) : ConfidenceEvent where
  signature := comparison.signature
  entityId := entityId
  componentId := comparison.componentId
  agrees := comparison.agrees
  value := if comparison.agrees then 1.0 else 0.0
  delta := (comparison.direct - comparison.executed).abs

end ComponentComparison

structure DualOutcome where
  direct : Evaluation
  executed : Execution
  agrees : Bool
  components : List ComponentComparison
  deriving DecidableEq

namespace DualOutcome

def componentMismatches (outcome : DualOutcome) : Nat :=
  outcome.components.countP fun comparison => !comparison.agrees

def events (outcome : DualOutcome) (entityId : String) : List ConfidenceEvent :=
  outcome.components.map (ComponentComparison.event entityId)

def notes (outcome : DualOutcome) (entityId : String) : List Note :=
  if outcome.agrees then []
  else
    [⟨.warn, s!"entity={entityId} dual-path mismatch: path A " ++
      s!"{fixedText 2 outcome.direct.total} vs path B {fixedText 2 outcome.executed.total}"⟩]

end DualOutcome

/-- Evaluates an entity in both ways and compares them. -/
def PreparedVariant.compare (variant : PreparedVariant) (context : EntityContext) : DualOutcome :=
  let direct := Evaluation.of variant.components context
  let executed := Execution.of variant.intents context
  { direct := direct
    executed := executed
    agrees := Payout.agree direct.total executed.total
    components := (direct.results.zip variant.signatures).mapIdx fun index pair =>
      .of pair.1 pair.2 executed.payouts[index]? }

end VariablePay
