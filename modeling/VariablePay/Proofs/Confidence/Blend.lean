import VariablePay.Config
import VariablePay.Proofs.Double.Unsigned
import VariablePay.Proofs.Outcome
import VariablePay.Proofs.StringMap

set_option autoImplicit false

/-!
# The blend of a density and a match ratio

Under settings that pass their checks, all numbers that a blend is made of are from zero to one. So
is the blend, which stands between the density before the run and the match ratio of the run.
-/

namespace VariablePay

open Double

/-- Settings under which densities are scores. -/
structure DensityConfig.Valid (config : DensityConfig) : Prop where
  decay : IsScore config.decay
  initialDensity : IsScore config.initialDensity
  anomalyThreshold : IsScore config.anomalyThreshold
  trustedThreshold : IsScore config.trustedThreshold
  shadowThreshold : IsScore config.shadowThreshold
  ordered : config.shadowThreshold ≤ config.trustedThreshold

theorem DensityConfig.valid_of_validate {config : DensityConfig}
    (accepted : config.validate = .ok ()) : config.Valid := by
  unfold validate at accepted
  split at accepted
  · cases accepted
  rename_i decay
  cases found : config.scores.find? fun score =>
      !(decide (0.0 ≤ score.2) && decide (score.2 ≤ 1.0)) with
  | some score =>
      rw [found] at accepted
      cases accepted
  | none =>
      rw [found] at accepted
      dsimp only at accepted
      split at accepted
      · cases accepted
      rename_i ordered
      have all := List.find?_eq_none.mp found
      have isScore {name : String} {value : Float} (member : (name, value) ∈ config.scores) :
          IsScore value := by
        have inside := all (name, value) member
        simp only [Bool.not_eq_true, Bool.not_eq_false', Bool.and_eq_true, decide_eq_true_eq]
          at inside
        exact ⟨inside.1, inside.2⟩
      have trusted : IsScore config.trustedThreshold :=
        isScore (.tail _ (.tail _ (.head _)))
      have shadow : IsScore config.shadowThreshold :=
        isScore (.tail _ (.tail _ (.tail _ (.head _))))
      simp only [Bool.not_eq_true, Bool.not_eq_false', Bool.and_eq_true, decide_eq_true_eq] at decay
      exact
        { decay := ⟨le_of_lt decay.1, decay.2⟩
          initialDensity := isScore (.head _)
          anomalyThreshold := isScore (.tail _ (.head _))
          trustedThreshold := trusted
          shadowThreshold := shadow
          ordered := (not_lt_iff trusted.isNaN shadow.isNaN).mp ordered }

theorem DensityConfig.decay_pos_of_validate {config : DensityConfig}
    (accepted : config.validate = .ok ()) : 0.0 < config.decay := by
  unfold validate at accepted
  split at accepted
  · cases accepted
  rename_i decay
  simp only [Bool.not_eq_true, Bool.not_eq_false', Bool.and_eq_true, decide_eq_true_eq] at decay
  exact decay.1

theorem CalcConfig.density_valid_of_validate {config : CalcConfig}
    (accepted : config.validate = .ok ()) : config.density.Valid := by
  obtain ⟨_, density, _⟩ := bind_eq_ok_iff.mp accepted
  exact DensityConfig.valid_of_validate density

/-- A number is brought between two bounds. -/
theorem clampFloat_bounds {low high value : Float} (ordered : low ≤ high)
    (number : value.isNaN = false) :
    low ≤ clampFloat low high value ∧ clampFloat low high value ≤ high := by
  obtain ⟨lowNumber, highNumber⟩ := isNaN_of_le ordered
  unfold clampFloat
  split
  · exact ⟨le_refl lowNumber, ordered⟩
  · rename_i aboveLow
    split
    · exact ⟨ordered, le_refl highNumber⟩
    · rename_i belowHigh
      exact ⟨(not_lt_iff number lowNumber).mp aboveLow, (not_lt_iff highNumber number).mp belowHigh⟩

theorem clampFloat_of_isScore {score : Float} (inside : IsScore score) :
    clampFloat 0.0 1.0 score = score := by
  unfold clampFloat
  rw [if_neg fun less => not_le_of_lt less inside.nonneg,
    if_neg fun less => not_le_of_lt less inside.le_one]

namespace Density

variable {density : Density} {signature : Signature}

theorem get?_cleaned (density : Density) (signature : Signature) :
    density.cleaned.get? signature = (density.get? signature).bind fun score =>
      if score.isFinite then some (clampFloat 0.0 1.0 score) else none :=
  StringMap.get?_filterMap density _ signature

/-- Whatever a density holds, it is scores once it is cleaned. -/
theorem isScore_of_cleaned {score : Float} (found : density.cleaned.get? signature = some score) :
    IsScore score := by
  rw [get?_cleaned] at found
  obtain ⟨old, _, cleaned⟩ := Option.bind_eq_some_iff.mp found
  split at cleaned
  · rename_i finite
    cases cleaned
    have bounds := clampFloat_bounds isScore_one.nonneg (isNaN_of_isFinite finite)
    exact ⟨bounds.1, bounds.2⟩
  · cases cleaned

/-- Scores are not touched when a density is cleaned. -/
theorem cleaned_of_isScore {score : Float} (inside : IsScore score)
    (found : density.get? signature = some score) :
    density.cleaned.get? signature = some score := by
  rw [get?_cleaned, found, Option.bind_some, if_pos (isFinite_of_isScore inside),
    clampFloat_of_isScore inside]

theorem cleaned_cleaned (density : Density) : density.cleaned.cleaned = density.cleaned := by
  refine StringMap.eq_of_get?_eq fun signature => ?_
  cases found : density.cleaned.get? signature with
  | none => rw [get?_cleaned, found, Option.bind_none]
  | some score => exact cleaned_of_isScore (isScore_of_cleaned found) found

end Density

private theorem lesser_greater {left right : Float} (leftNumber : left.isNaN = false)
    (rightNumber : right.isNaN = false) :
    (lesser left right = left ∨ lesser left right = right) ∧
      (greater left right = left ∨ greater left right = right) ∧
      lesser left right ≤ greater left right := by
  unfold lesser greater
  rw [leftNumber]
  simp only [Bool.false_eq_true, if_false]
  by_cases below : right < left
  · rw [if_pos below, if_neg fun above => not_le_of_lt above (le_of_lt below)]
    exact ⟨.inr rfl, .inl rfl, le_of_lt below⟩
  · rw [if_neg below]
    split
    · exact ⟨.inl rfl, .inr rfl, (not_lt_iff rightNumber leftNumber).mp below⟩
    · exact ⟨.inl rfl, .inl rfl, le_refl leftNumber⟩

namespace DensityConfig

variable {config : DensityConfig} {base ratio : Float}

private theorem blend_bounds (valid : config.Valid) (baseScore : IsScore base)
    (ratioScore : IsScore ratio) :
    lesser base ratio ≤ config.blend base ratio ∧
      config.blend base ratio ≤ greater base ratio := by
  obtain ⟨_, _, ordered⟩ := lesser_greater baseScore.isNaN ratioScore.isNaN
  refine clampFloat_bounds ordered (isNaN_of_isFinite ?_)
  exact (valid.decay.one_sub.mul baseScore).isFinite_add (valid.decay.mul ratioScore)

/-- A blend goes up to a ratio that is not below the density, and not past it. -/
theorem blend_of_le (valid : config.Valid) (baseScore : IsScore base) (ratioScore : IsScore ratio)
    (ordered : base ≤ ratio) :
    base ≤ config.blend base ratio ∧ config.blend base ratio ≤ ratio := by
  obtain ⟨low, high⟩ := blend_bounds valid baseScore ratioScore
  obtain ⟨least, greatest, _⟩ := lesser_greater baseScore.isNaN ratioScore.isNaN
  constructor
  · rcases least with same | same <;> rw [same] at low
    · exact low
    · exact le_trans ordered low
  · rcases greatest with same | same <;> rw [same] at high
    · exact le_trans high ordered
    · exact high

/-- A blend goes down to a ratio that is not above the density, and not past it. -/
theorem blend_of_ge (valid : config.Valid) (baseScore : IsScore base) (ratioScore : IsScore ratio)
    (ordered : ratio ≤ base) :
    ratio ≤ config.blend base ratio ∧ config.blend base ratio ≤ base := by
  obtain ⟨low, high⟩ := blend_bounds valid baseScore ratioScore
  obtain ⟨least, greatest, _⟩ := lesser_greater baseScore.isNaN ratioScore.isNaN
  constructor
  · rcases least with same | same <;> rw [same] at low
    · exact le_trans ordered low
    · exact low
  · rcases greatest with same | same <;> rw [same] at high
    · exact high
    · exact le_trans high ordered

theorem blend_between (valid : config.Valid) (baseScore : IsScore base)
    (ratioScore : IsScore ratio) :
    base ≤ config.blend base ratio ∧ config.blend base ratio ≤ ratio ∨
      ratio ≤ config.blend base ratio ∧ config.blend base ratio ≤ base := by
  by_cases ordered : base ≤ ratio
  · exact .inl (blend_of_le valid baseScore ratioScore ordered)
  · have below := le_of_lt ((not_le_iff baseScore.isNaN ratioScore.isNaN).mp ordered)
    exact .inr (blend_of_ge valid baseScore ratioScore below)

theorem blend_isScore (valid : config.Valid) (baseScore : IsScore base)
    (ratioScore : IsScore ratio) : IsScore (config.blend base ratio) := by
  rcases blend_between valid baseScore ratioScore with ⟨low, high⟩ | ⟨low, high⟩
  · exact ⟨le_trans baseScore.nonneg low, le_trans high ratioScore.le_one⟩
  · exact ⟨le_trans ratioScore.nonneg low, le_trans high baseScore.le_one⟩

/-- A blend from the negative zero is not the negative zero. -/
private theorem blend_of_negativeZero (valid : config.Valid) (decay : IsUnsigned config.decay)
    (negative : base.toModel.unpack = .zero .negative) (ratioUnsigned : IsUnsigned ratio) :
    (config.blend base ratio).toModel.unpack ≠ .zero .negative := by
  have share := decay.mul ratioUnsigned
  have baseZero := place_of_zero negative
  have baseNumber : base.isNaN = false := by
    change base.toModel.unpack.isNaN = false
    rw [negative]
    rfl
  obtain ⟨least, _⟩ := lesser_greater baseNumber ratioUnsigned.isScore.isNaN
  obtain ⟨_, baseAddsNothing⟩ := valid.decay.one_sub.mul_zero negative
  unfold blend clampFloat
  rw [IsUnsigned.zero_add baseAddsNothing share]
  split
  · rename_i below
    rcases least with same | same <;> rw [same] at below ⊢
    · have nonneg := ((le_iff _ _).mp share.isScore.nonneg).2.2
      rw [← baseZero] at nonneg
      exact absurd ((lt_iff _ _).mp below).2.2 (not_lt.mpr nonneg)
    · exact ratioUnsigned.unsigned
  · split
    · rename_i above
      unfold greater at above ⊢
      rw [baseNumber, if_neg Bool.false_ne_true] at above ⊢
      split at above
      · rename_i less
        rw [if_pos less]
        exact ratioUnsigned.unsigned
      · rename_i notLess
        -- The ratio is zero as well, and so is what it adds.
        obtain ⟨_, _, ordered⟩ := (le_iff _ _).mp
          ((not_lt_iff baseNumber ratioUnsigned.isScore.isNaN).mp notLess)
        have small : ratio ≤ 0.0 :=
          (le_iff _ _).mpr ⟨ratioUnsigned.isScore.isNaN, rfl, baseZero ▸ ordered⟩
        obtain ⟨_, addsNothing⟩ := decay.isScore.mul_zero (ratioUnsigned.unpack_of_le small)
        have less := ((lt_iff _ _).mp above).2.2
        rw [baseZero, place_of_zero addsNothing] at less
        exact less.false.elim
    · exact share.unsigned

/-- A blend is never the negative zero, whatever the density before it. -/
theorem blend_isUnsigned (valid : config.Valid) (positive : 0.0 < config.decay)
    (baseScore : IsScore base) (ratioUnsigned : IsUnsigned ratio) :
    IsUnsigned (config.blend base ratio) := by
  have decay : IsUnsigned config.decay := .of_pos valid.decay positive
  refine ⟨blend_isScore valid baseScore ratioUnsigned.isScore, ?_⟩
  by_cases negative : base.toModel.unpack = .zero .negative
  · exact blend_of_negativeZero valid decay negative ratioUnsigned
  · obtain ⟨least, greatest, _⟩ := lesser_greater baseScore.isNaN ratioUnsigned.isScore.isNaN
    unfold blend clampFloat
    split
    · rcases least with same | same <;> rw [same]
      · exact negative
      · exact ratioUnsigned.unsigned
    · split
      · rcases greatest with same | same <;> rw [same]
        · exact negative
        · exact ratioUnsigned.unsigned
      · exact (decay.mul ratioUnsigned).unpack_add (valid.decay.one_sub.mul baseScore)

/-- A density is not anomalous under a ratio of one. -/
theorem isAnomalous_one (valid : config.Valid) {prior? : Option Float}
    (scores : ∀ prior ∈ prior?, IsScore prior) : config.isAnomalous prior? 1.0 = false := by
  cases prior? with
  | none => rfl
  | some prior =>
      have below := (scores prior rfl).sub_one_le
      refine decide_eq_false fun above => ?_
      exact not_le_of_lt above (le_trans below valid.anomalyThreshold.nonneg)

end DensityConfig

end VariablePay
