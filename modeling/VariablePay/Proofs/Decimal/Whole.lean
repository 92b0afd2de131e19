import Mathlib.Data.Nat.Cast.Field
import VariablePay.Proofs.Decimal.Text

set_option autoImplicit false

/-!
# Whole numbers in digits

The text of an integer is that of its numeral, and numerals of different texts are different. A
double that is a whole number is read back from the digits of its size. The size is below
`2 ^ 63` just when the exponent of the double is below eleven.
-/

open Float.Model

namespace VariablePay

namespace Digit

theorem toChar_eq_digitChar (digit : Digit) : digit.toChar = Nat.digitChar digit.val := by
  revert digit
  decide

private theorem ofNat_of_lt {number : Nat} (small : number < 10) :
    ofNat number = [Fin.ofNat 10 number] := by
  rw [ofNat, count, dif_pos small]
  rfl

private theorem ofNat_of_not_lt {number : Nat} (long : ¬number < 10) :
    ofNat number = ofNat (number / 10) ++ [Fin.ofNat 10 number] := by
  rw [ofNat, count, dif_neg long]
  rfl

/-- The digits of a number are those that it is shown with. -/
theorem map_toChar_ofNat (number : Nat) : (ofNat number).map toChar = Nat.toDigits 10 number := by
  induction number using count.induct with
  | case1 number small =>
      rw [ofNat_of_lt small, Nat.toDigits_of_lt_base small, List.map_singleton,
        toChar_eq_digitChar, Fin.val_ofNat, Nat.mod_eq_of_lt small]
  | case2 number long ih =>
      rw [ofNat_of_not_lt long, List.map_append, ih, List.map_singleton, toChar_eq_digitChar,
        Fin.val_ofNat, Nat.toDigits_eq_if (n := number) (by decide), if_neg long]

end Digit

namespace Numeral

def ofInt (number : Int) : Numeral := ⟨decide (number < 0), number.natAbs, [], none⟩

/-- An integer is shown as its numeral. -/
theorem text_ofInt (number : Int) : (toString number).toList = (ofInt number).text := by
  unfold text ofInt
  simp only [Digit.map_toChar_ofNat, List.isEmpty_nil, if_true, List.append_nil]
  cases number with
  | ofNat size =>
      change (Nat.repr size).toList = _
      simp
  | negSucc size =>
      change ("-" ++ Nat.repr (size + 1)).toList = _
      simp

/-- Numerals of one text are the same. -/
theorem text_injective : Function.Injective text := by
  intro left right same
  have ends : Ends [] := by simp [Ends]
  have first := read?_text left ends
  rw [same, read?_text right ends] at first
  exact (Prod.mk.inj (Option.some.inj first)).1.symm

theorem toFloat?_ofInt {number : Int} {value : Float}
    (read : Decimal.toFloat ⟨number.natAbs, 0⟩ = value.abs) (finite : value.isFinite = true)
    (sign : Dyadic.signOf value = decide (number < 0)) :
    (ofInt number).toFloat? = some value := by
  have size : (ofInt number).magnitude.toFloat = value.abs := read
  unfold toFloat?
  simp only
  rw [size, if_pos (Double.isFinite_abs finite)]
  change some (if decide (number < 0) = true then _ else _) = _
  rw [← sign, Double.signed_abs_eq finite]

end Numeral

namespace Dyadic

/-- A whole number is the value that it is the size of. -/
theorem cast_of_whole? {dyadic : Dyadic} {size : Nat} (whole : dyadic.whole? = some size) :
    (size : ℚ) = dyadic.value := by
  unfold whole? at whole
  unfold value
  simp only [Nat.pow_eq] at whole
  split at whole
  · rename_i above
    cases whole
    obtain ⟨shift, shift_eq⟩ := Int.eq_ofNat_of_zero_le above
    rw [shift_eq, Int.natAbs_natCast, zpow_natCast]
    push_cast
    rfl
  · rename_i below
    split at whole
    · rename_i divides
      cases whole
      obtain ⟨shift, shift_eq⟩ := Int.exists_eq_neg_ofNat (Int.not_le.mp below).le
      rw [shift_eq, Int.natAbs_neg, Int.natAbs_natCast] at divides ⊢
      rw [Nat.cast_div (Nat.dvd_of_mod_eq_zero divides) (by positivity), zpow_neg, zpow_natCast,
        div_eq_mul_inv]
      push_cast
      rfl
    · cases whole

theorem pos_of_whole? {mantissa : Nat} {exponent : Int} (positive : 0 < mantissa) {size : Nat}
    (whole : whole? ⟨mantissa, exponent⟩ = some size) : 0 < size := by
  have above : (0 : ℚ) < size := by
    rw [cast_of_whole? whole]
    exact mul_pos (by exact_mod_cast positive) (by positivity)
  exact_mod_cast above

/-- From the exponent eleven on all doubles are whole and have at least 64 bits. -/
theorem whole?_of_le {mantissa : Nat} {exponent : Int} (form : Double.IsForm mantissa exponent)
    (far : 11 ≤ exponent) :
    ∃ size, whole? ⟨mantissa, exponent⟩ = some size ∧ 2 ^ 63 ≤ size := by
  have full : 2 ^ 52 ≤ mantissa := form.full_or_least.resolve_right (by omega)
  have shift : 2 ^ 11 ≤ 2 ^ exponent.natAbs := Nat.pow_le_pow_right (by norm_num) (by omega)
  refine ⟨mantissa * 2 ^ exponent.natAbs, if_pos (by simp only; omega), ?_⟩
  calc
    2 ^ 63 = 2 ^ 52 * 2 ^ 11 := by norm_num
    _ ≤ mantissa * 2 ^ exponent.natAbs := Nat.mul_le_mul full shift

/-- Below the exponent eleven whole doubles have at most 63 bits. -/
theorem lt_of_whole? {mantissa : Nat} {exponent : Int} (form : Double.IsForm mantissa exponent)
    (near : exponent < 11) {size : Nat} (whole : whole? ⟨mantissa, exponent⟩ = some size) :
    size < 2 ^ 63 := by
  have fits : (mantissa : ℚ) < 2 ^ 53 := by exact_mod_cast form.fits
  have shift : (2 : ℚ) ^ exponent ≤ 2 ^ (10 : Int) :=
    zpow_le_zpow_right₀ (by norm_num) (by omega)
  have below : (size : ℚ) < 2 ^ 63 :=
    calc
      (size : ℚ) = mantissa * 2 ^ exponent := cast_of_whole? whole
      _ ≤ mantissa * 2 ^ (10 : Int) := mul_le_mul_of_nonneg_left shift (by positivity)
      _ < 2 ^ 53 * 2 ^ (10 : Int) := mul_lt_mul_of_pos_right fits (by positivity)
      _ = 2 ^ 63 := by norm_num
  exact_mod_cast below

/-- A double is read back from its size as a whole number. -/
theorem toFloat_of_whole? {number : Float} {sign : UnpackedFloat.Sign} {mantissa : Nat}
    {exponent : Int} {positive : 0 < mantissa}
    (unpacked : number.toModel.unpack = .finite sign mantissa exponent positive) {size : Nat}
    (whole : whole? ⟨mantissa, exponent⟩ = some size) :
    Decimal.toFloat ⟨size, 0⟩ = number.abs := by
  have absolute := Double.unpack_abs unpacked
  have same : Decimal.value ⟨size, 0⟩ = (ofFloat number.abs).toDecimal.value := by
    rw [value_toDecimal, ofFloat_eq absolute, ← cast_of_whole? whole, Decimal.value, zpow_zero,
      mul_one]
  exact (Decimal.toFloat_congr same).trans (Decimal.toFloat_toDecimal absolute)

end Dyadic

end VariablePay
