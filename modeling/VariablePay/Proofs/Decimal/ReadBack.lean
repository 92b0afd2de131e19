import VariablePay.Proofs.Decimal.Value
import VariablePay.Proofs.Double.Share

set_option autoImplicit false

/-!
# Doubles read back from their numerals

The numeral that a finite double is written as is read as that double, its sign included. A numeral
is read as no other than a finite double.
-/

open Float.Model

namespace VariablePay

namespace Digit

theorem ofNat_zero : Digit.ofNat 0 = [0] := by
  simp [Digit.ofNat, count, lastOf]

@[simp]
theorem length_lastOf (width number : Nat) : (lastOf width number).length = width := by
  induction width generalizing number with
  | zero => rfl
  | succ width ih => simp [lastOf, ih]

theorem value_append (start : Nat) (digits : List Digit) (digit : Digit) :
    value start (digits ++ [digit]) = 10 * value start digits + digit.val := by
  simp [value]

/-- The last digits of a number, written after the others, make up the number. -/
@[simp]
theorem value_lastOf (width number : Nat) :
    value (number / 10 ^ width) (lastOf width number) = number := by
  induction width generalizing number with
  | zero => simp [lastOf, value]
  | succ width ih =>
      rw [lastOf, value_append, pow_succ', ← Nat.div_div_eq_div_mul, ih]
      exact Nat.div_add_mod number 10

end Digit

namespace Dyadic

/-- The number that a dyadic stands for. -/
def value (dyadic : Dyadic) : ℚ := dyadic.mantissa * 2 ^ dyadic.exponent

theorem value_toDecimal (dyadic : Dyadic) : dyadic.toDecimal.value = dyadic.value := by
  unfold toDecimal value
  by_cases below : dyadic.exponent < 0
  · obtain ⟨size, size_eq⟩ := Int.exists_eq_neg_ofNat below.le
    rw [if_pos below, size_eq, Decimal.value, zpow_neg, zpow_neg, Int.natAbs_neg,
      Int.natAbs_natCast, zpow_natCast, zpow_natCast, show (10 : ℚ) = 5 * 2 by norm_num, mul_pow,
      Nat.pow_eq]
    push_cast
    field_simp
  · obtain ⟨size, size_eq⟩ := Int.eq_ofNat_of_zero_le (Int.not_lt.mp below)
    rw [if_neg below, size_eq, Decimal.value, Int.natAbs_natCast, zpow_zero, zpow_natCast,
      Nat.pow_eq]
    push_cast
    rw [mul_one]

end Dyadic

namespace Decimal

theorem value_trimmed (coefficient : Nat) (exponent : Int) :
    (trimmed coefficient exponent).value = (Decimal.mk coefficient exponent).value := by
  induction coefficient, exponent using trimmed.induct with
  | case1 coefficient exponent ends ih =>
      have tens : (coefficient : ℚ) = (coefficient / 10 : Nat) * 10 := by
        exact_mod_cast (Nat.div_mul_cancel (Nat.dvd_of_mod_eq_zero ends.2)).symm
      unfold trimmed
      rw [dif_pos ends, ih]
      change ((coefficient / 10 : Nat) : ℚ) * 10 ^ (exponent + 1) = coefficient * 10 ^ exponent
      rw [tens, zpow_add_one₀ (by norm_num)]
      ring
  | case2 coefficient exponent ends =>
      unfold trimmed
      rw [dif_neg ends]

private theorem toFloat_of_onGrid? {value : Float} {grid : Int} {decimal : Decimal}
    (found : onGrid? value grid = some decimal) : decimal.toFloat = value := by
  unfold onGrid? at found
  simp only at found
  split at found
  · rename_i below
    split at found
    · rename_i above
      split at found <;> cases found
      · exact below
      · exact above
    · cases found
      exact below
  · split at found
    · rename_i above
      cases found
      exact above
    · cases found

private theorem toFloat_of_firstOnGrids? {value : Float} {tries : Nat} {grid : Int}
    {decimal : Decimal} (found : firstOnGrids? value tries grid = some decimal) :
    decimal.toFloat = value := by
  induction tries generalizing grid with
  | zero => nomatch found
  | succ tries ih =>
      rw [firstOnGrids?, Option.or_eq_some_iff] at found
      rcases found with here | ⟨_, finer⟩
      · exact toFloat_of_onGrid? here
      · exact ih finer

/-- All digits of a positive double read back as it. -/
theorem toFloat_toDecimal {value : Float} {mantissa : Nat} {exponent : Int}
    {positive : 0 < mantissa}
    (unpacked : value.toModel.unpack = .finite .positive mantissa exponent positive) :
    (Dyadic.ofFloat value).toDecimal.toFloat = value := by
  obtain ⟨form, _⟩ := Double.isForm_of_unpack unpacked
  have number : (Dyadic.mk mantissa exponent).toDecimal.value = mantissa * 2 ^ exponent :=
    Dyadic.value_toDecimal _
  have some : 0 < (Dyadic.mk mantissa exponent).toDecimal.coefficient := by
    unfold Dyadic.toDecimal
    split <;> exact Nat.mul_pos positive (Nat.pow_pos (by norm_num))
  rw [Dyadic.ofFloat_eq unpacked, toFloat_eq_ofRat some, number]
  unfold Double.ofRat
  rw [Double.nearest_eq_self form positive, ← unpacked, Double.ofModel_pack_unpack]

/-- The shortest decimal of a finite double reads back as its size. -/
theorem toFloat_shortest {value : Float} (finite : value.isFinite = true) :
    (shortest value).toFloat = value.abs := by
  change value.toModel.unpack.isFinite = true at finite
  cases unpacked : value.toModel.unpack with
  | notANumber => simp [unpacked, UnpackedFloat.isFinite] at finite
  | infinity => simp [unpacked, UnpackedFloat.isFinite] at finite
  | zero sign =>
      rw [← Double.ofModel_pack_unpack value, unpacked]
      cases sign <;> decide
  | finite sign mantissa exponent positive =>
      have size := Double.unpack_abs unpacked
      unfold shortest
      simp only
      rw [Dyadic.ofFloat_eq size, if_neg positive.ne', toFloat_congr (value_trimmed _ _),
        ← Dyadic.ofFloat_eq size]
      cases found : firstOnGrids? value.abs 17 (Dyadic.ofFloat value.abs).order with
      | none => exact toFloat_toDecimal size
      | some decimal => exact toFloat_of_firstOnGrids? found

end Decimal

namespace Layout

private theorem value_spellOut (layout : Layout) (negative : Bool) (decimal : Decimal) :
    (layout.spellOut negative decimal).magnitude.value = decimal.value := by
  unfold spellOut Numeral.magnitude
  simp only
  by_cases below : decimal.exponent < 0
  · rw [if_pos below]
    simp only [Nat.pow_eq, Digit.value_lastOf, Digit.length_lastOf, Option.getD_none]
    congr 2
    omega
  · obtain ⟨size, size_eq⟩ := Int.eq_ofNat_of_zero_le (Int.not_lt.mp below)
    have digits : Digit.value (decimal.coefficient * 10 ^ size) (Digit.ofNat 0) =
        10 * (decimal.coefficient * 10 ^ size) := by rw [Digit.ofNat_zero]; rfl
    rw [if_neg below, Decimal.value, Decimal.value, size_eq]
    simp only [Int.natAbs_natCast, Nat.pow_eq, Option.getD_none]
    cases layout.pointed with
    | true =>
        rw [if_pos rfl, digits, Digit.ofNat_zero]
        change _ * (10 : ℚ) ^ (-1 : Int) = _
        rw [zpow_neg_one, zpow_natCast]
        push_cast
        field_simp
    | false =>
        rw [if_neg (by simp)]
        change ((decimal.coefficient * 10 ^ size : Nat) : ℚ) * 10 ^ (0 : Int) = _
        rw [zpow_zero, mul_one, zpow_natCast]
        push_cast
        rfl

private theorem value_withPower (negative : Bool) (decimal : Decimal) :
    (withPower negative decimal).magnitude.value = decimal.value := by
  unfold withPower Numeral.magnitude
  simp only [Nat.pow_eq, Digit.value_lastOf, Digit.length_lastOf, Option.getD_some,
    add_sub_cancel_right]

/-- A numeral keeps the value of its decimal, in every layout. -/
theorem value_numeral (layout : Layout) (negative : Bool) (decimal : Decimal) :
    (layout.numeral negative decimal).magnitude.value = decimal.value := by
  unfold numeral
  simp only
  split
  · split
    · exact value_spellOut _ _ _
    · exact value_withPower _ _
  · exact value_spellOut _ _ _

private theorem negative_numeral (layout : Layout) (negative : Bool) (decimal : Decimal) :
    (layout.numeral negative decimal).negative = negative := by
  unfold numeral spellOut withPower
  simp only
  repeat' split
  all_goals rfl

/-- The numeral of a finite double reads back as it, in every layout. -/
theorem toFloat?_ofFloat (layout : Layout) {value : Float} (finite : value.isFinite = true) :
    (layout.ofFloat value).toFloat? = some value := by
  have sign : (layout.ofFloat value).negative = Dyadic.signOf value := negative_numeral _ _ _
  have size : (layout.ofFloat value).magnitude.toFloat = value.abs :=
    (Decimal.toFloat_congr (value_numeral _ _ _)).trans (Decimal.toFloat_shortest finite)
  unfold Numeral.toFloat?
  simp only
  rw [size, if_pos (Double.isFinite_abs finite), sign, Double.signed_abs_eq finite]

end Layout

namespace Numeral

theorem isFinite_of_toFloat? {numeral : Numeral} {value : Float}
    (read : numeral.toFloat? = some value) : value.isFinite = true := by
  unfold toFloat? at read
  simp only at read
  split at read
  · rename_i finite
    cases read
    split
    · exact Double.isFinite_neg finite
    · exact finite
  · cases read

end Numeral

end VariablePay
