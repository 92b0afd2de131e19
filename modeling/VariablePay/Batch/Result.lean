import VariablePay.Comparison
import VariablePay.Evaluation.Codec
import VariablePay.Intent.Codec

set_option autoImplicit false

/-!
# Results of entities

The direct results are the ones that are paid; the other way leaves its total and its traces
beside them.
-/

namespace VariablePay

/-- What the comparison of both ways leaves with a result. -/
structure DualPathRecord where
  agrees : Bool
  executedTotal : Float
  componentMismatches : Nat
  traces : List IntentTrace
  deriving DecidableEq

structure EntityResult where
  entityId : String
  variantId : String
  components : List ComponentResult
  total : Float
  dualPath : DualPathRecord
  deriving DecidableEq

namespace EntityResult

def of (entityId variantId : String) (outcome : DualOutcome) : EntityResult where
  entityId := entityId
  variantId := variantId
  components := outcome.direct.results
  total := outcome.direct.total
  dualPath :=
    { agrees := outcome.agrees
      executedTotal := outcome.executed.total
      componentMismatches := outcome.componentMismatches
      traces := outcome.executed.traces }

def degradedComponents (result : EntityResult) : Nat :=
  result.components.countP ComponentResult.isDegraded

def degradedNotes (result : EntityResult) : List Note :=
  result.components.filterMap fun component =>
    component.explanation.error.map fun reason =>
      ⟨.warn, s!"entity={result.entityId} component {component.componentId} " ++
        s!"degraded to 0: {reason}"⟩

end EntityResult

def DualPathRecord.codec (form : FloatForm) : Codec DualPathRecord :=
  Fields.codec <| DualPathRecord.mk
    <$> .required "matched" .bool DualPathRecord.agrees
    <*> .required "path_b_total" (.float form) DualPathRecord.executedTotal
    <*> .required "component_mismatches" .count DualPathRecord.componentMismatches
    <*> .required "traces" (.list (IntentTrace.codec form)) DualPathRecord.traces

def EntityResult.codec (form : FloatForm) : Codec EntityResult :=
  Fields.codec <| EntityResult.mk
    <$> .required "entity_id" .string EntityResult.entityId
    <*> .required "variant_id" .string EntityResult.variantId
    <*> .required "components" (.list (ComponentResult.codec form)) EntityResult.components
    <*> .required "total_payout" (.float form) EntityResult.total
    <*> .required "dual_path" (DualPathRecord.codec form) EntityResult.dualPath

end VariablePay
