import VariablePay.Evaluation.Basic
import VariablePay.Plan.Codec

set_option autoImplicit false

/-!
# Results as JSON
-/

namespace VariablePay

def Explanation.codec (form : FloatForm) : Codec Explanation :=
  Fields.codec <| Explanation.mk
    <$> .required "inputs" (.stringMap (.float form)) Explanation.inputs
    <*> .sparse "matched" MatchedBand.codec Explanation.matched
    <*> .sparse "matched_column" MatchedBand.codec Explanation.matchedColumn
    <*> .sparse "grid" .string Explanation.grid
    <*> .sparse "rate" (.float form) Explanation.rate
    <*> .sparseList "missing_metrics" .string Explanation.missingMetrics
    <*> .defaulted "gated" .bool false Explanation.gated
    <*> .defaulted "disabled" .bool false Explanation.disabled
    <*> .sparse "error" .string Explanation.error

def ComponentResult.codec (form : FloatForm) : Codec ComponentResult :=
  Fields.codec <| ComponentResult.mk
    <$> .required "component_id" .string ComponentResult.componentId
    <*> .required "component_name" .string ComponentResult.componentName
    <*> .required "kind" ComponentKind.codec ComponentResult.kind
    <*> .required "ordinal" .word32 ComponentResult.ordinal
    <*> .required "payout" (.float form) ComponentResult.payout
    <*> .required "explanation" (Explanation.codec form) ComponentResult.explanation

end VariablePay
