import VariablePay.Confidence.Density
import VariablePay.Metrics.Aggregation

set_option autoImplicit false

/-!
# Settings

The settings of a run: how rows are collapsed, how densities follow, and how much is loaded at a
time. Settings are read from a JSON text and checked before they are used.
-/

namespace VariablePay

structure BatchConfig where
  /-- How many entities or rows are loaded at a time. -/
  pageSize : Nat
  /-- How many entities may be evaluated at the same time; zero leaves the choice open. -/
  workerThreads : Nat
  deriving DecidableEq

structure CalcConfig where
  aggregation : AggregationConfig
  density : DensityConfig
  batch : BatchConfig
  deriving DecidableEq

inductive ConfigRefusal where
  | decay (value : Float)
  | score (name : String) (value : Float)
  | thresholdOrder (shadow trusted : Float)
  | pageSize
  | unreadable (path reason : String)
  | malformed
  deriving DecidableEq

namespace ConfigRefusal

def message : ConfigRefusal → String
  | decay value => s!"density.decay must be in (0, 1], got {messageText value}"
  | score name value => s!"density.{name} must be in [0, 1], got {messageText value}"
  | thresholdOrder shadow trusted =>
      s!"density.shadow_threshold ({messageText shadow}) exceeds " ++
        s!"trusted_threshold ({messageText trusted})"
  | pageSize => "batch.page_size must be > 0"
  | unreadable path reason => s!"Cannot read {path}: {reason}"
  | malformed => "Serialization error"

end ConfigRefusal

namespace DensityConfig

/-- The settings that have to be scores from 0 to 1, with their names. -/
def scores (config : DensityConfig) : List (String × Float) :=
  [("initial_density", config.initialDensity), ("anomaly_threshold", config.anomalyThreshold),
    ("trusted_threshold", config.trustedThreshold), ("shadow_threshold", config.shadowThreshold)]

/-- Checks that the decay is above 0 and at most 1, the scores are from 0 to 1, and the threshold of
shadow is not above that of trust. -/
def validate (config : DensityConfig) : Except ConfigRefusal Unit :=
  if !(decide (0.0 < config.decay) && decide (config.decay ≤ 1.0)) then
    .error (.decay config.decay)
  else
    match config.scores.find? fun score => !(decide (0.0 ≤ score.2) && decide (score.2 ≤ 1.0)) with
    | some score => .error (.score score.1 score.2)
    | none =>
        if config.trustedThreshold < config.shadowThreshold then
          .error (.thresholdOrder config.shadowThreshold config.trustedThreshold)
        else .ok ()

end DensityConfig

namespace CalcConfig

def validate (config : CalcConfig) : Except ConfigRefusal Unit := do
  config.density.validate
  if config.batch.pageSize = 0 then .error .pageSize else .ok ()

def aggregationCodec : Codec AggregationConfig :=
  Fields.codec <| AggregationConfig.mk
    <$> .required "first_wins_fields" (.list .string) AggregationConfig.firstWinsFields
    <*> .free "location_key_field" .string AggregationConfig.locationKeyField

def densityCodec (form : FloatForm) : Codec DensityConfig :=
  Fields.codec <| DensityConfig.mk
    <$> .required "decay" (.float form) DensityConfig.decay
    <*> .required "initial_density" (.float form) DensityConfig.initialDensity
    <*> .required "anomaly_threshold" (.float form) DensityConfig.anomalyThreshold
    <*> .required "trusted_threshold" (.float form) DensityConfig.trustedThreshold
    <*> .required "shadow_threshold" (.float form) DensityConfig.shadowThreshold

def batchCodec : Codec BatchConfig :=
  Fields.codec <| BatchConfig.mk
    <$> .required "page_size" .count BatchConfig.pageSize
    <*> .defaulted "worker_threads" .count 0 BatchConfig.workerThreads

def codec (form : FloatForm) : Codec CalcConfig :=
  Fields.codec <| CalcConfig.mk
    <$> .required "aggregation" aggregationCodec CalcConfig.aggregation
    <*> .required "density" (densityCodec form) CalcConfig.density
    <*> .required "batch" batchCodec CalcConfig.batch

def load (text : String) : Except ConfigRefusal CalcConfig :=
  match (codec .number).read? text with
  | none => .error .malformed
  | some config =>
      match config.validate with
      | .ok () => .ok config
      | .error refusal => .error refusal

def standard : CalcConfig where
  aggregation := ⟨["store_id", "location_id", "employee_number"], some "store_id"⟩
  density := ⟨0.3, 0.5, 0.2, 0.95, 0.6⟩
  batch := ⟨500, 2⟩

end CalcConfig

end VariablePay
