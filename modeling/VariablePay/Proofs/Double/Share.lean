import VariablePay.Confidence.Consolidation
import VariablePay.Proofs.Double.Greatest

set_option autoImplicit false

/-!
# Shares of counts

Counts of 64 bits are far from both ends of the range of doubles, and so are their quotients: a
share is a finite number.
-/

open Float.Model

namespace VariablePay

namespace Double

/-- A positive count is read as the double nearest to it. -/
theorem ofNat_eq_ofRat {count : Nat} (positive : 0 < count) : Float.ofNat count = ofRat count := by
  have nearest := @ofScientific_eq count 0 false positive (fun _ => Nat.zero_le _) nofun
  rw [if_neg Bool.false_ne_true, Int.natCast_zero, zpow_zero, mul_one] at nearest
  exact nearest

theorem unpack_ofNat_eq_nearest {count : Nat} (positive : 0 < count) (fits : count < 2 ^ 64) :
    (Float.ofNat count).toModel.unpack = nearest .positive count := by
  rw [ofNat_eq_ofRat positive]
  refine unpack_pack_nearest .positive (by exact_mod_cast positive) ?_
  have cast : (count : ℚ) < 2 ^ 64 := by exact_mod_cast fits
  exact le_greatest (cast.trans (by norm_num))

/-- A positive count of 64 bits is near a double of moderate size. -/
theorem unpack_ofNat {count : Nat} (positive : 0 < count) (fits : count < 2 ^ 64) :
    ∃ mantissa exponent, ∃ some : 0 < mantissa, IsForm mantissa exponent ∧ -52 ≤ exponent ∧
      exponent ≤ 12 ∧
      (Float.ofNat count).toModel.unpack = .finite .positive mantissa exponent some := by
  have cast : (0 : ℚ) < count := by exact_mod_cast positive
  have low : 0 ≤ Int.log 2 (count : ℚ) := by
    rw [← Int.zpow_le_iff_le_log one_lt_two cast, zpow_zero]
    exact_mod_cast positive
  have high : Int.log 2 (count : ℚ) < 64 := by
    rw [← Int.lt_zpow_iff_log_lt one_lt_two cast]
    exact_mod_cast fits
  obtain ⟨_, least⟩ | ⟨mantissa, exponent, some, form, above, close, same⟩ :=
    nearest_cases .positive cast
  · unfold lastPlace at least
    omega
  · unfold lastPlace at above close
    refine ⟨mantissa, exponent, some, form, by omega, by omega, ?_⟩
    rw [unpack_ofNat_eq_nearest positive fits, same]

/-- The quotient of counts of 64 bits is finite. -/
theorem isFinite_div_ofNat {part whole : Nat} (positive : 0 < whole) (partFits : part < 2 ^ 64)
    (wholeFits : whole < 2 ^ 64) : (Float.ofNat part / Float.ofNat whole).isFinite = true := by
  obtain ⟨divisor, divisorExponent, divisorSome, divisorForm, divisorLow, _, divisorSame⟩ :=
    unpack_ofNat positive wholeFits
  change (Float.Model.pack (.div .binary64 (Float.ofNat part).toModel.unpack
    (Float.ofNat whole).toModel.unpack)).unpack.isFinite = true
  rw [divisorSame]
  rcases Nat.eq_zero_or_pos part with rfl | partPositive
  · have zero : (Float.ofNat 0).toModel.unpack = .zero .positive := rfl
    have quotient : UnpackedFloat.div .binary64 (.zero .positive)
        (.finite .positive divisor divisorExponent divisorSome) = .zero .positive := rfl
    rw [zero, quotient]
    decide
  · obtain ⟨dividend, dividendExponent, dividendSome, dividendForm, _, dividendHigh,
      dividendSame⟩ := unpack_ofNat partPositive partFits
    rw [dividendSame, div_eq_nearest]
    have dividendCast : (0 : ℚ) < dividend := by exact_mod_cast dividendSome
    have divisorCast : (1 : ℚ) ≤ divisor := by exact_mod_cast divisorSome
    have dividendSmall : (dividend : ℚ) ≤ 2 ^ 53 := by exact_mod_cast dividendForm.fits.le
    have least : (2 : ℚ) ^ (-52 : Int) ≤ divisor * 2 ^ divisorExponent :=
      (zpow_le_zpow_right₀ one_le_two divisorLow).trans
        (le_mul_of_one_le_left (by positivity) divisorCast)
    have greatest : (dividend : ℚ) * 2 ^ dividendExponent ≤ 2 ^ 53 * 2 ^ (12 : Int) :=
      mul_le_mul dividendSmall (zpow_le_zpow_right₀ one_le_two dividendHigh) (by positivity)
        (by positivity)
    refine isFinite_pack_nearest (by positivity) (le_greatest ?_)
    calc
      (dividend : ℚ) * 2 ^ dividendExponent / (divisor * 2 ^ divisorExponent) ≤
          2 ^ 53 * 2 ^ (12 : Int) / 2 ^ (-52 : Int) :=
        div_le_div₀ (by positivity) greatest (by positivity) least
      _ < 2 ^ (200 : Int) := by norm_num

end Double

theorem share?_isFinite {part whole : Nat} (partFits : part < 2 ^ 64) (wholeFits : whole < 2 ^ 64) :
    ∀ share ∈ share? part whole, share.isFinite = true := by
  intro share found
  unfold share? at found
  split at found
  · rename_i positive
    cases found
    exact Double.isFinite_div_ofNat positive partFits wholeFits
  · cases found

end VariablePay
