import VariablePay.Confidence.Consolidation

set_option autoImplicit false

/-!
# Density updates as JSON
-/

namespace VariablePay

def ExecutionMode.codec : Codec ExecutionMode := .named ExecutionMode.all ExecutionMode.name

def DensityUpdate.codec (form : FloatForm) : Codec DensityUpdate :=
  Fields.codec <| DensityUpdate.mk
    <$> .required "pattern_signature" .string DensityUpdate.signature
    <*> .optional "prior_density" (.float form) DensityUpdate.priorDensity
    <*> .required "new_density" (.float form) DensityUpdate.newDensity
    <*> .required "observations" .count DensityUpdate.observations
    <*> .required "matches" .count DensityUpdate.hits
    <*> .required "match_ratio" (.float form) DensityUpdate.matchRatio
    <*> .required "anomalous" .bool DensityUpdate.anomalous
    <*> .required "execution_mode" ExecutionMode.codec DensityUpdate.mode

end VariablePay
