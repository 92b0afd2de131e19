import VariablePay.Decimal.Layout
import VariablePay.Proofs.Double.Scientific

set_option autoImplicit false

/-!
# The values of decimals

A decimal is read as the double nearest to its value, so that decimals of one value are read alike,
whatever their coefficients end in.
-/

namespace VariablePay

namespace Digit

theorem count_pos (number : Nat) : 0 < count number := by
  unfold count
  split <;> omega

theorem lt_pow_count (number : Nat) : number < 10 ^ count number := by
  induction number using count.induct with
  | case1 number small =>
      unfold count
      rw [dif_pos small]
      omega
  | case2 number long ih =>
      unfold count
      rw [dif_neg long, pow_succ]
      omega

theorem pow_count_le {number : Nat} (positive : 0 < number) :
    10 ^ (count number - 1) ≤ number := by
  induction number using count.induct with
  | case1 number small =>
      unfold count
      rw [dif_pos small]
      omega
  | case2 number long ih =>
      have shorter := ih (by omega)
      unfold count
      rw [dif_neg long, Nat.add_sub_cancel, ← pow_sub_one_mul (count_pos _).ne']
      omega

theorem count_le_log2 {number : Nat} (positive : 0 < number) : count number ≤ number.log2 + 1 := by
  have binary : 2 ^ (count number - 1) ≤ number :=
    (Nat.pow_le_pow_left (by norm_num) _).trans (pow_count_le positive)
  have := (Nat.le_log2 positive.ne').mpr binary
  omega

end Digit

namespace Decimal

/-- The number that a decimal stands for. -/
def value (decimal : Decimal) : ℚ := decimal.coefficient * 10 ^ decimal.exponent

private theorem pow_le_value {decimal : Decimal} (positive : 0 < decimal.coefficient) :
    (10 : ℚ) ^ (decimal.exponent + Digit.count decimal.coefficient - 1) ≤ decimal.value := by
  have least : (10 : ℚ) ^ (Digit.count decimal.coefficient - 1) ≤ decimal.coefficient := by
    exact_mod_cast Digit.pow_count_le positive
  have place : decimal.exponent + Digit.count decimal.coefficient - 1 =
      (Digit.count decimal.coefficient - 1 : Nat) + decimal.exponent := by
    have := Digit.count_pos decimal.coefficient
    omega
  rw [place, zpow_add₀ (by norm_num), zpow_natCast]
  exact mul_le_mul_of_nonneg_right least (by positivity)

private theorem value_lt_pow (decimal : Decimal) :
    decimal.value < 10 ^ (decimal.exponent + Digit.count decimal.coefficient) := by
  have greatest : (decimal.coefficient : ℚ) < 10 ^ Digit.count decimal.coefficient := by
    exact_mod_cast Digit.lt_pow_count decimal.coefficient
  rw [add_comm, zpow_add₀ (by norm_num), zpow_natCast]
  exact mul_lt_mul_of_pos_right greatest (by positivity)

private theorem two_pow_le : 2 ^ 1023 ≤ 10 ^ 308 :=
  calc
    2 ^ 1023 = (2 ^ 93) ^ 11 := by rw [← pow_mul]
    _ ≤ (10 ^ 28) ^ 11 := Nat.pow_le_pow_left (by decide) 11
    _ = 10 ^ 308 := by rw [← pow_mul]

private theorem greatest_lt : 2 ^ 1024 ≤ 10 ^ 310 :=
  calc
    2 ^ 1024 = 2 ^ 1023 * 2 ^ 1 := by rw [← pow_add]
    _ ≤ 10 ^ 308 * 10 ^ 2 := Nat.mul_le_mul two_pow_le (by decide)
    _ = 10 ^ 310 := by rw [← pow_add]

private theorem least_lt : 2 ^ 1075 ≤ 10 ^ 331 :=
  calc
    2 ^ 1075 = 2 ^ 1023 * 2 ^ 52 := by rw [← pow_add]
    _ ≤ 10 ^ 308 * 10 ^ 23 := Nat.mul_le_mul two_pow_le (by decide)
    _ = 10 ^ 331 := by rw [← pow_add]

/-- A decimal is read as the double nearest to its value. -/
theorem toFloat_eq_ofRat {decimal : Decimal} (positive : 0 < decimal.coefficient) :
    decimal.toFloat = Double.ofRat decimal.value := by
  have low := pow_le_value positive
  have high := value_lt_pow decimal
  have digits := Digit.count_le_log2 positive
  have some := Digit.count_pos decimal.coefficient
  unfold toFloat
  simp only
  rw [if_neg positive.ne']
  by_cases huge : 310 < decimal.exponent + Digit.count decimal.coefficient
  · have beyond : (2 : ℚ) ^ (1024 : Int) ≤ decimal.value :=
      calc
        (2 : ℚ) ^ (1024 : Int) ≤ 10 ^ (310 : Int) := by exact_mod_cast greatest_lt
        _ ≤ 10 ^ (decimal.exponent + Digit.count decimal.coefficient - 1) :=
          zpow_le_zpow_right₀ (by norm_num) (by omega)
        _ ≤ decimal.value := low
    rw [if_pos huge]
    unfold Double.ofRat
    rw [Double.pack_nearest_eq_infinity _ beyond]
    decide
  rw [if_neg huge]
  by_cases tiny : decimal.exponent + Digit.count decimal.coefficient < -330
  · have below : decimal.value < 2 ^ (-1075 : Int) :=
      calc
        decimal.value < 10 ^ (decimal.exponent + Digit.count decimal.coefficient) := high
        _ ≤ 10 ^ (-331 : Int) := zpow_le_zpow_right₀ (by norm_num) (by omega)
        _ ≤ 2 ^ (-1075 : Int) := by
          rw [zpow_neg, zpow_neg]
          exact inv_anti₀ (by positivity) (by exact_mod_cast least_lt)
    rw [if_pos tiny]
    unfold Double.ofRat
    rw [Double.nearest_eq_zero _ (lt_of_lt_of_le (by positivity) low) below]
    decide
  rw [if_neg tiny]
  by_cases below : decimal.exponent < 0
  · rw [if_pos below, Double.ofScientific_eq positive (by simp) (fun _ => by omega), if_pos rfl,
      Int.ofNat_natAbs_of_nonpos below.le, neg_neg]
    rfl
  · rw [if_neg below, Double.ofScientific_eq positive (fun _ => by omega) (by simp),
      if_neg (by simp), Int.natAbs_of_nonneg (Int.not_lt.mp below)]
    rfl

private theorem coefficient_eq_zero_iff (decimal : Decimal) :
    decimal.coefficient = 0 ↔ decimal.value = 0 := by
  unfold value
  rw [mul_eq_zero, Nat.cast_eq_zero]
  exact (or_iff_left (zpow_ne_zero _ (by norm_num))).symm

/-- Decimals of one value are read alike. -/
theorem toFloat_congr {left right : Decimal} (same : left.value = right.value) :
    left.toFloat = right.toFloat := by
  rcases Nat.eq_zero_or_pos left.coefficient with zero | positive
  · have other : right.coefficient = 0 := by
      rw [coefficient_eq_zero_iff] at zero ⊢
      rw [← same, zero]
    unfold toFloat
    simp only
    rw [if_pos zero, if_pos other]
  · have other : 0 < right.coefficient := by
      refine Nat.pos_of_ne_zero fun zero => positive.ne' ?_
      rw [coefficient_eq_zero_iff] at zero ⊢
      rw [same, zero]
    rw [toFloat_eq_ofRat positive, toFloat_eq_ofRat other, same]

end Decimal

end VariablePay
