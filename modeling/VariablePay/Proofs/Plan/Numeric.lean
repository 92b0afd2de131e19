import VariablePay.Proofs.Evaluation.Finite
import VariablePay.Proofs.Plan.Checked
import VariablePay.Proofs.Plan.Coding

set_option autoImplicit false

/-!
# Numbers of validated configurations

Validation lets finite numbers pass, and besides them just the infinite maximum of a last band.
-/

namespace VariablePay

/-- Bands with a finite minimum and without a maximum that is `NaN`. -/
structure Band.IsNumeric (band : Band) : Prop where
  min_isFinite : band.min.isFinite = true
  max_isNaN : ∀ max ∈ band.max, max.isNaN = false

structure Tier.IsNumeric (tier : Tier) : Prop where
  band : tier.toBand.IsNumeric
  value_isFinite : tier.value.isFinite = true

structure RateBucket.IsNumeric (bucket : RateBucket) : Prop where
  band : bucket.toBand.IsNumeric
  rate_isFinite : bucket.rate.isFinite = true

namespace ComponentConfig

/-- Configurations whose numbers are finite, but perhaps for the maxima of bands. -/
def IsNumeric : ComponentConfig → Prop
  | tierLookup config => ∀ tier ∈ config.tiers, tier.IsNumeric
  | matrixLookup config =>
      (∀ band ∈ config.rowBands, band.IsNumeric) ∧ (∀ band ∈ config.columnBands, band.IsNumeric) ∧
        ∀ entry ∈ config.grids.entries, Grid.IsFinite entry.2
  | percentage config =>
      config.rate.isFinite = true ∧ ∀ threshold ∈ config.minThreshold, threshold.isFinite = true
  | conditionalPercentage config => ∀ bucket ∈ config.buckets, bucket.IsNumeric
  | percentageWithGate config => ∀ bucket ∈ config.buckets, bucket.IsNumeric
  | flatPercentage config => config.rate.isFinite = true

end ComponentConfig

theorem Band.Ascending.isNumeric {bands : List Band} (ascending : Ascending bands) :
    ∀ band ∈ bands, band.IsNumeric := by
  have notNaN {min max : Float} (above : min < max) : max.isNaN = false :=
    ((Double.lt_iff _ _).mp above).2.1
  induction ascending with
  | last finite above =>
      intro band included
      obtain rfl := List.mem_singleton.mp included
      exact ⟨finite, fun max given => notNaN (above max given)⟩
  | next finite bounded above _ _ ih =>
      refine List.forall_mem_cons.mpr ⟨⟨finite, fun max given => ?_⟩, ih⟩
      obtain rfl := Option.some.inj (bounded.symm.trans given)
      exact notNaN above

theorem BucketedRate.Checked.isNumeric {config : BucketedRate} (checked : config.Checked) :
    ∀ bucket ∈ config.buckets, bucket.IsNumeric := fun bucket member =>
  ⟨checked.ascending.isNumeric bucket.toBand (List.mem_map_of_mem member),
    checked.rates bucket member⟩

theorem ComponentConfig.Checked.isNumeric {config : ComponentConfig} (checked : config.Checked) :
    config.IsNumeric := by
  cases config with
  | tierLookup config =>
      obtain ⟨ascending, values⟩ := checked
      exact fun tier member =>
        ⟨ascending.isNumeric tier.toBand (List.mem_map_of_mem member), values tier member⟩
  | matrixLookup config =>
      obtain ⟨rowsAscending, columnsAscending, gridsChecked⟩ := checked
      exact ⟨rowsAscending.isNumeric, columnsAscending.isNumeric, gridsChecked.cells⟩
  | percentage config => exact checked
  | conditionalPercentage config => exact BucketedRate.Checked.isNumeric checked
  | percentageWithGate config => exact BucketedRate.Checked.isNumeric checked
  | flatPercentage config => exact checked

theorem Component.isNumeric_of_validate {component : Component}
    (valid : component.validate = .ok ()) : component.config.IsNumeric :=
  (checked_of_validate valid).isNumeric

end VariablePay
