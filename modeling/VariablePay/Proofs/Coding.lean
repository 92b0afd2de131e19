import VariablePay.Confidence.Codec
import VariablePay.Config
import VariablePay.Metrics.Codec
import VariablePay.Proofs.Batch.Result
import VariablePay.Proofs.Intent.Coding

set_option autoImplicit false

/-!
# Nothing is lost in texts

A text that is read may have blanks, escapes and members that writing does not choose, or lack
members that have a value of their own. Reading and writing brings it into its normal form. What is
read back from the text of a value of finite numbers differs from it in nothing but the numbers that
are not read as themselves from their own digits. Where there are none the value is restored, and
these values and their texts determine each other.
-/

namespace VariablePay

/-!
## Codecs that lose nothing
-/

namespace Codec

variable {α : Type} {codec : Codec α} {fits : α → Prop} {back : α → α}

/-- The text that is written for what is read from a text. -/
def normal? (codec : Codec α) (text : String) : Option String := (codec.read? text).map codec.write

/-- Whether writing and reading lose nothing of the values that fit, but for what `back` makes of
their numbers. -/
structure IsLossless (codec : Codec α) (fits : α → Prop) (back : α → α) : Prop where
  reads : ∀ value, fits value → codec.read? (codec.write value) = some (back value)
  /-- A value whose numbers are all read back is read back as it was. -/
  restored : ∀ value, fits value → back value = value →
    codec.read? (codec.write value) = some value
  /-- What is read fits. If its numbers are read back, it is read again from its own text, and has
  that text as its normal form. -/
  normalised : ∀ text value, codec.read? text = some value →
    fits value ∧ (back value = value → codec.read? (codec.write value) = some value ∧
      codec.normal? (codec.write value) = some (codec.write value))
  /-- Normal forms of values whose numbers are read back are just their texts. -/
  image : ∀ text, (∃ source value, codec.read? source = some value ∧ back value = value ∧
      codec.normal? source = some text) ↔
    ∃ value, fits value ∧ back value = value ∧ codec.write value = text
  /-- Those are just the texts that are their own normal forms and are written for what they are
  read as. -/
  settled : ∀ text, codec.normal? text = some text ↔
    ∃ value, fits value ∧ back value = value ∧ codec.write value = text

theorem normal?_write {value : α} (restored : codec.read? (codec.write value) = some value) :
    codec.normal? (codec.write value) = some (codec.write value) := by
  unfold normal?
  rw [restored, Option.map_some]

theorem Faithful.isLossless {depth : Nat} (faithful : codec.Faithful depth fits back)
    (shallow : depth ≤ Json.nestingLimit) : codec.IsLossless fits back := by
  have reads (value : α) (fit : fits value) :
      codec.read? (codec.write value) = some (back value) := faithful.read?_write shallow fit
  have restored (value : α) (fit : fits value) (same : back value = value) :
      codec.read? (codec.write value) = some value := (reads value fit).trans (congrArg some same)
  refine ⟨reads, restored, ?normalised, ?image, ?settled⟩
  case normalised =>
    intro text value read
    have fit := faithful.fits_of_read? read
    exact ⟨fit, fun same => ⟨restored value fit same, normal?_write (restored value fit same)⟩⟩
  case image =>
    intro text
    constructor
    · rintro ⟨source, value, read, same, normal⟩
      obtain ⟨other, readOther, written⟩ := Option.map_eq_some_iff.mp normal
      cases read.symm.trans readOther
      exact ⟨value, faithful.fits_of_read? read, same, written⟩
    · rintro ⟨value, fit, same, rfl⟩
      have read := restored value fit same
      exact ⟨codec.write value, value, read, same, normal?_write read⟩
  case settled =>
    intro text
    constructor
    · intro normal
      obtain ⟨value, read, written⟩ := Option.map_eq_some_iff.mp normal
      have fit := faithful.fits_of_read? read
      have again := reads value fit
      rw [written, read] at again
      exact ⟨value, fit, (Option.some.inj again).symm, written⟩
    · rintro ⟨value, fit, same, rfl⟩
      exact normal?_write (restored value fit same)

end Codec

/-!
## Rows and entities
-/

theorem RowScope.faithful (depth : Nat) : RowScope.codec.Faithful depth (fun _ => True) id :=
  Codec.faithful_named depth fun scope => by cases scope <;> decide

def MetricRow.IsFinite (row : MetricRow) : Prop :=
  ∀ entry ∈ row.values.entries, entry.2.isFinite = true

instance (row : MetricRow) : Decidable row.IsFinite :=
  inferInstanceAs (Decidable (∀ entry ∈ row.values.entries, entry.2.isFinite = true))

def MetricRow.reread (row : MetricRow) : MetricRow :=
  { row with values := row.values.mapValues Double.reread }

/-- Whether each number of a row is read as itself from its own digits. -/
def MetricRow.ReadsBack (row : MetricRow) : Prop :=
  ∀ entry ∈ row.values.entries, Double.reread entry.2 = entry.2

instance (row : MetricRow) : Decidable row.ReadsBack :=
  inferInstanceAs (Decidable (∀ entry ∈ row.values.entries, Double.reread entry.2 = entry.2))

theorem MetricRow.reread_eq_self_iff {row : MetricRow} : row.reread = row ↔ row.ReadsBack := by
  unfold ReadsBack
  rw [← StringMap.mapValues_eq_self_iff]
  obtain ⟨scope, scopeId, category, values⟩ := row
  simp only [reread, MetricRow.mk.injEq, true_and]

theorem MetricRow.faithful (depth : Nat) :
    (MetricRow.codec .number).Faithful (depth + 2) MetricRow.IsFinite MetricRow.reread := by
  refine .record (.whole (fun row => ⟨row.scope, row.scopeId, row.category,
    row.values.mapValues Double.reread⟩) ?_ fun _ => rfl) (by decide)
  refine .seq ?_ (.required (Codec.faithful_float depth).stringMap fun _ fit => fit)
  refine .seq ?_ (.required (Codec.faithful_string _) fun _ _ => trivial)
  refine .seq ?_ (.required (Codec.faithful_string _) fun _ _ => trivial)
  refine .map (.required (RowScope.faithful _) fun _ _ => trivial) ?_
  exact fun _ _ _ _ _ _ _ values => values

theorem AssignedEntity.faithful (depth : Nat) :
    AssignedEntity.codec.Faithful (depth + 2) (fun _ => True) fun entity => entity := by
  have attributes := (Codec.faithful_string depth).stringMap_all
  refine .record (.whole (fun entity => ⟨entity.id, entity.location, entity.attributes⟩) ?_
    fun _ => rfl) (by decide)
  refine .seq ?_ (.defaulted attributes trivial fun _ _ => trivial)
  refine .seq ?_ (.free (Codec.faithful_nullable_string _) trivial fun _ _ => trivial)
  refine .map (.required (Codec.faithful_string _) fun _ _ => trivial) ?_
  exact fun _ _ _ _ _ _ => trivial

/-!
## Densities and settings
-/

theorem ExecutionMode.faithful (depth : Nat) :
    ExecutionMode.codec.Faithful depth (fun _ => True) id :=
  Codec.faithful_named depth fun mode => by cases mode <;> decide

structure DensityUpdate.Fits (update : DensityUpdate) : Prop where
  priorDensity : ∀ prior ∈ update.priorDensity, prior.isFinite = true
  newDensity : update.newDensity.isFinite = true
  observations : update.observations < Nat.pow 2 64
  hits : update.hits < Nat.pow 2 64
  matchRatio : update.matchRatio.isFinite = true

def DensityUpdate.reread (update : DensityUpdate) : DensityUpdate :=
  { update with
    priorDensity := update.priorDensity.map Double.reread
    newDensity := Double.reread update.newDensity
    matchRatio := Double.reread update.matchRatio }

theorem DensityUpdate.faithful (depth : Nat) : (DensityUpdate.codec .number).Faithful
    (depth + 1) DensityUpdate.Fits DensityUpdate.reread := by
  have score := Codec.faithful_float depth
  have count := Codec.faithful_count depth
  refine .record (.whole (fun update => ⟨update.signature,
    update.priorDensity.map Double.reread, Double.reread update.newDensity, update.observations,
    update.hits, Double.reread update.matchRatio, update.anomalous, update.mode⟩) ?_
    fun _ => rfl) (by decide)
  refine .seq ?_ (.required (ExecutionMode.faithful _) fun _ _ => trivial)
  refine .seq ?_ (.required (Codec.faithful_bool _) fun _ _ => trivial)
  refine .seq ?_ (.required score fun _ fit => fit.matchRatio)
  refine .seq ?_ (.required count fun _ fit => fit.hits)
  refine .seq ?_ (.required count fun _ fit => fit.observations)
  refine .seq ?_ (.required score fun _ fit => fit.newDensity)
  refine .seq ?_ (.optional (Codec.faithful_nullable_float _) nofun fun _ fit => fit.priorDensity)
  refine .map (.required (Codec.faithful_string _) fun _ _ => trivial) ?_
  exact fun _ _ _ prior _ new _ observations _ hits _ ratio _ _ _ _ =>
    ⟨prior, new, observations, hits, ratio⟩

structure DensityConfig.IsFinite (config : DensityConfig) : Prop where
  decay : config.decay.isFinite = true
  initialDensity : config.initialDensity.isFinite = true
  anomalyThreshold : config.anomalyThreshold.isFinite = true
  trustedThreshold : config.trustedThreshold.isFinite = true
  shadowThreshold : config.shadowThreshold.isFinite = true

def DensityConfig.reread (config : DensityConfig) : DensityConfig where
  decay := Double.reread config.decay
  initialDensity := Double.reread config.initialDensity
  anomalyThreshold := Double.reread config.anomalyThreshold
  trustedThreshold := Double.reread config.trustedThreshold
  shadowThreshold := Double.reread config.shadowThreshold

structure BatchConfig.Fits (config : BatchConfig) : Prop where
  pageSize : config.pageSize < Nat.pow 2 64
  workerThreads : config.workerThreads < Nat.pow 2 64

namespace CalcConfig

theorem faithful_aggregationCodec (depth : Nat) :
    aggregationCodec.Faithful (depth + 2) (fun _ => True) id := by
  have fields := (Codec.faithful_string depth).list_all
  refine .record (.whole (fun config => ⟨config.firstWinsFields, config.locationKeyField⟩) ?_
    fun _ => rfl) (by decide)
  refine .seq ?_ (.free (Codec.faithful_nullable_string _) trivial fun _ _ => trivial)
  refine .map (.required fields fun _ _ => trivial) ?_
  exact fun _ _ _ _ => trivial

theorem faithful_densityCodec (depth : Nat) : (densityCodec .number).Faithful
    (depth + 1) DensityConfig.IsFinite DensityConfig.reread := by
  have number := Codec.faithful_float depth
  refine .record (.whole (fun config => ⟨Double.reread config.decay,
    Double.reread config.initialDensity, Double.reread config.anomalyThreshold,
    Double.reread config.trustedThreshold, Double.reread config.shadowThreshold⟩) ?_ fun _ => rfl)
    (by decide)
  refine .seq ?_ (.required number fun _ fit => fit.shadowThreshold)
  refine .seq ?_ (.required number fun _ fit => fit.trustedThreshold)
  refine .seq ?_ (.required number fun _ fit => fit.anomalyThreshold)
  refine .seq ?_ (.required number fun _ fit => fit.initialDensity)
  refine .map (.required number fun _ fit => fit.decay) ?_
  exact fun _ decay _ initial _ anomaly _ trusted _ shadow =>
    ⟨decay, initial, anomaly, trusted, shadow⟩

theorem faithful_batchCodec (depth : Nat) :
    batchCodec.Faithful (depth + 1) BatchConfig.Fits id := by
  have count := Codec.faithful_count depth
  refine .record (.whole (fun config => ⟨config.pageSize, config.workerThreads⟩) ?_ fun _ => rfl)
    (by decide)
  refine .seq ?_ (.defaulted count (by decide) fun _ fit => fit.workerThreads)
  refine .map (.required count fun _ fit => fit.pageSize) ?_
  exact fun _ pageSize _ workerThreads => ⟨pageSize, workerThreads⟩

structure Fits (config : CalcConfig) : Prop where
  density : config.density.IsFinite
  batch : config.batch.Fits

def reread (config : CalcConfig) : CalcConfig := { config with density := config.density.reread }

theorem faithful (depth : Nat) : (codec .number).Faithful (depth + 3) Fits reread := by
  refine .record (.whole (fun config => ⟨config.aggregation, config.density.reread,
    config.batch⟩) ?_ fun _ => rfl) (by decide)
  refine .seq ?_ (.required (faithful_batchCodec _) fun _ fit => fit.batch)
  refine .seq ?_ (.required (faithful_densityCodec _) fun _ fit => fit.density)
  refine .map (.required (faithful_aggregationCodec depth) fun _ _ => trivial) ?_
  exact fun _ _ _ density _ batch => ⟨density, batch⟩

end CalcConfig

/-!
## The types that are stored
-/

/-- Nothing is lost of what is written of plans, intents, rows, entities, results, updates and
settings whose numbers are finite, and whose positions and counts are words, but for numbers that
are not read as themselves from their own digits. -/
theorem coding_is_lossless :
    (RuleSet.codec .number).IsLossless RuleSet.IsFinite RuleSet.reread ∧
      (Component.codec .number).IsLossless Component.IsFinite Component.reread ∧
      (ComponentConfig.codec .number).IsLossless ComponentConfig.IsFinite ComponentConfig.reread ∧
      (ComponentIntent.codec .number).IsLossless ComponentIntent.Fits ComponentIntent.reread ∧
      (MetricRow.codec .number).IsLossless MetricRow.IsFinite MetricRow.reread ∧
      AssignedEntity.codec.IsLossless (fun _ => True) (fun entity => entity) ∧
      (EntityResult.codec .number).IsLossless (fun result =>
        result.total.isFinite = true ∧ result.IsFinite ∧ result.CountsFit) EntityResult.reread ∧
      (DensityUpdate.codec .number).IsLossless DensityUpdate.Fits DensityUpdate.reread ∧
      (CalcConfig.codec .number).IsLossless CalcConfig.Fits CalcConfig.reread := by
  have ruleSet := (RuleSet.faithful 0).isLossless (by decide)
  have component := (Component.faithful 0).isLossless (by decide)
  have config := (ComponentConfig.faithful 0).isLossless (by decide)
  have intent := (ComponentIntent.faithful 0).isLossless (by decide)
  have row := (MetricRow.faithful 0).isLossless (by decide)
  have entity := (AssignedEntity.faithful 0).isLossless (by decide)
  have result := (EntityResult.faithful 0).isLossless (by decide)
  have update := (DensityUpdate.faithful 0).isLossless (by decide)
  have settings := (CalcConfig.faithful 0).isLossless (by decide)
  exact ⟨ruleSet, component, config, intent, row, entity, result, update, settings⟩

/-- A component given as an array, with an escaped letter and a rate without a point. -/
def arrayText : String :=
  "[\"bonus\", \"Pr\\u00e4mie\", 1, true, [\"flat_percentage\", \"revenue\", 5]]"

def arrayComponent : Component where
  id := "bonus"
  name := "Prämie"
  ordinal := 1
  enabled := true
  config := .flatPercentage ⟨"revenue", 5.0⟩

/-- The array is read as the component, whose own text is another and is read as it again. -/
theorem arrayComponent_coding_is_lossless :
    (Component.codec .number).read? arrayText = some arrayComponent ∧
      (Component.codec .number).write arrayComponent ≠ arrayText ∧
      arrayComponent.IsFinite ∧ arrayComponent.reread = arrayComponent ∧
      (Component.codec .number).read? ((Component.codec .number).write arrayComponent) =
        some arrayComponent := by
  have read : (Component.codec .number).read? arrayText = some arrayComponent := by decide +kernel
  have same : arrayComponent.reread = arrayComponent := by decide +kernel
  obtain ⟨finite, restored⟩ := coding_is_lossless.2.1.normalised arrayText arrayComponent read
  exact ⟨read, by decide +kernel, finite, same, (restored same).1⟩

end VariablePay
