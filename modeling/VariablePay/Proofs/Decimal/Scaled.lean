import VariablePay.Decimal.Scaled
import VariablePay.Proofs.Decimal.ReadBack
import VariablePay.Proofs.Decimal.Text
import VariablePay.Proofs.Double.Greatest

set_option autoImplicit false

/-!
# Numerals read in two steps

What is read in two steps is always a finite double, and every finite double is read from its own
numeral, if not always as itself: both roundings together do not lead out of the range.
-/

open Float.Model

namespace VariablePay

namespace Digit

private theorem mul_pow_le_value (start : Nat) (digits : List Digit) :
    start * 10 ^ digits.length ≤ value start digits := by
  induction digits generalizing start with
  | nil => exact (Nat.mul_one start).le
  | cons digit rest ih =>
      calc
        start * 10 ^ (rest.length + 1) = 10 * start * 10 ^ rest.length := by
          rw [pow_succ]
          ring
        _ ≤ (10 * start + digit.val) * 10 ^ rest.length :=
          Nat.mul_le_mul_right _ (Nat.le_add_right _ _)
        _ ≤ value (10 * start + digit.val) rest := ih _

private theorem le_value (start : Nat) (digits : List Digit) : start ≤ value start digits :=
  (Nat.le_mul_of_pos_right start (by positivity)).trans (mul_pow_le_value start digits)

/-- Digits are all taken if the number that they make up fits. -/
theorem fill_of_lt {start : Nat} {digits : List Digit} (fits : value start digits < 2 ^ 64) :
    fill start digits = (value start digits, 0) := by
  induction digits generalizing start with
  | nil => rfl
  | cons digit rest ih =>
      have next : 10 * start + digit.val < Nat.pow 2 64 := (le_value _ rest).trans_lt fits
      rw [fill, if_pos next]
      exact ih fits

/-- The digits that are taken fit, and with zeros for those left over they are no more than all. -/
theorem fill_le_value {start : Nat} (digits : List Digit) (fits : start < 2 ^ 64) :
    (fill start digits).1 < 2 ^ 64 ∧
      (fill start digits).1 * 10 ^ (fill start digits).2 ≤ value start digits := by
  induction digits generalizing start with
  | nil => exact ⟨fits, (Nat.mul_one start).le⟩
  | cons digit rest ih =>
      rw [fill]
      split
      · rename_i next
        exact ih next
      · exact ⟨fits, mul_pow_le_value start (digit :: rest)⟩

end Digit

namespace Decimal

open Double

theorem powerOfTen_eq_ofRat (power : Nat) : powerOfTen power = ofRat (10 ^ power) := by
  have value : Decimal.value ⟨1, power⟩ = 10 ^ power := by
    unfold Decimal.value
    rw [Nat.cast_one, one_mul, zpow_natCast]
  rw [powerOfTen, toFloat_eq_ofRat Nat.one_pos, value]

private theorem exponent_le_of_value_le {decimal : Decimal} (positive : 0 < decimal.coefficient)
    (bounded : decimal.value ≤ (2 ^ 53 - 3) * 2 ^ (971 : Int)) : decimal.exponent ≤ 308 := by
  by_contra huge
  have far : (2 ^ 53 - 3) * 2 ^ 971 < 10 ^ 309 := by decide +kernel
  have normal : (1 : ℚ) ≤ decimal.coefficient := by exact_mod_cast positive
  refine absurd bounded (not_le.mpr ?_)
  calc
    ((2 : ℚ) ^ 53 - 3) * 2 ^ (971 : Int) = ((2 ^ 53 - 3 : Nat) : ℚ) * 2 ^ 971 := by norm_num
    _ < 10 ^ (309 : Int) := by exact_mod_cast far
    _ ≤ 10 ^ decimal.exponent := zpow_le_zpow_right₀ (by norm_num) (not_le.mp huge)
    _ ≤ decimal.value := le_mul_of_one_le_left (by positivity) normal

/-- A coefficient of 64 bits is scaled to a finite double if the number is a few places below the
greatest double. -/
theorem isFinite_scaled {decimal : Decimal} (fits : decimal.coefficient < 2 ^ 64)
    (bounded : decimal.value ≤ (2 ^ 53 - 3) * 2 ^ (971 : Int)) :
    decimal.scaled.isFinite = true := by
  unfold scaled
  simp only
  rcases Nat.eq_zero_or_pos decimal.coefficient with none | positive
  · rw [if_pos none]
    rfl
  rw [if_neg positive.ne', ofNat_eq_ofRat positive]
  have normal : (1 : ℚ) ≤ decimal.coefficient := by exact_mod_cast positive
  have small : (decimal.coefficient : ℚ) ≤ greatest := by
    have cast : (decimal.coefficient : ℚ) < 2 ^ 64 := by exact_mod_cast fits
    exact le_greatest (cast.trans (by norm_num))
  have size := isSize_ofRat (one_pos.trans_le normal) small
  have power_le (power : Nat) : (1 : ℚ) ≤ 10 ^ power := one_le_pow₀ (by norm_num)
  have inRange := exponent_le_of_value_le positive bounded
  rw [if_neg (not_lt.mpr inRange)]
  split
  · rename_i whole
    obtain ⟨power, power_eq⟩ := Int.eq_ofNat_of_zero_le whole
    unfold Decimal.value at bounded
    rw [power_eq, zpow_natCast] at bounded
    rw [power_eq, Int.natAbs_natCast, powerOfTen_eq_ofRat]
    exact isFinite_mul_ofRat normal (power_le power) small (powerOfTen_le_greatest (by omega))
      bounded
  split
  · rw [powerOfTen_eq_ofRat]
    exact (size.div_ofRat (power_le _) (powerOfTen_le_greatest (by omega))).isFinite
  split
  · rw [powerOfTen_eq_ofRat, powerOfTen_eq_ofRat]
    have once := size.div_ofRat (power_le 308) (powerOfTen_le_greatest le_rfl)
    exact (once.div_ofRat (power_le _) (powerOfTen_le_greatest (by omega))).isFinite
  · rfl

/-- A coefficient of 53 bits and a power of ten up to the 22nd are exact, so that only one of both
steps rounds. -/
theorem scaled_eq_toFloat {decimal : Decimal} (fits : decimal.coefficient < 2 ^ 53)
    (near : decimal.exponent.natAbs ≤ 22) : decimal.scaled = decimal.toFloat := by
  rcases Nat.eq_zero_or_pos decimal.coefficient with none | positive
  · simp [scaled, toFloat, none]
  rw [toFloat_eq_ofRat positive]
  unfold scaled Decimal.value
  simp only
  rw [if_neg positive.ne', if_neg (by omega), ofNat_eq_ofRat positive, powerOfTen_eq_ofRat]
  split
  · rename_i whole
    rw [ofRat_mul_powerOfTen positive fits near, ← zpow_natCast, Int.natAbs_of_nonneg whole]
  · rename_i below
    rw [if_pos (by omega), ofRat_div_powerOfTen positive fits near, ← zpow_natCast,
      Int.ofNat_natAbs_of_nonpos (by omega), zpow_neg, div_inv_eq_mul]

end Decimal

namespace Numeral

/-- A numeral of few digits, and without an extreme power of ten, is read as the double nearest to
it. -/
theorem scaled?_eq_toFloat? {numeral : Numeral} (fits : numeral.magnitude.coefficient < 2 ^ 53)
    (near : numeral.magnitude.exponent.natAbs ≤ 22) : numeral.scaled? = numeral.toFloat? := by
  have leading_eq : numeral.leading = numeral.magnitude := by
    have all : Digit.value numeral.whole numeral.fraction < 2 ^ 64 := fits.trans (by norm_num)
    have whole : Digit.value 0 (Digit.ofNat numeral.whole) < 2 ^ 64 := by
      rw [Digit.value_ofNat]
      exact (Digit.le_value _ _).trans_lt all
    unfold leading magnitude
    simp only [Digit.fill_of_lt whole, Digit.value_ofNat, Digit.fill_of_lt all]
    congr 1
    omega
  unfold scaled? toFloat?
  rw [leading_eq, Decimal.scaled_eq_toFloat fits near]

/-- The leading digits of a numeral without too many before the point are no more than all. -/
theorem leading_le {numeral : Numeral} (fits : numeral.whole < 2 ^ 64) :
    numeral.leading.coefficient < 2 ^ 64 ∧ numeral.leading.value ≤ numeral.magnitude.value := by
  have whole : Digit.fill 0 (Digit.ofNat numeral.whole) = (numeral.whole, 0) := by
    rw [← Digit.value_ofNat numeral.whole] at fits
    rw [Digit.fill_of_lt fits, Digit.value_ofNat]
  obtain ⟨allFit, below⟩ := Digit.fill_le_value numeral.fraction fits
  unfold leading
  simp only [whole]
  refine ⟨allFit, ?_⟩
  unfold Decimal.value magnitude
  simp only
  generalize Digit.fill numeral.whole numeral.fraction = all at below ⊢
  have exponent : numeral.power.getD 0 + ((0 : Nat) : Int) + all.2 - numeral.fraction.length =
      all.2 + (numeral.power.getD 0 - numeral.fraction.length) := by omega
  rw [exponent, zpow_add₀ (by norm_num), zpow_natCast, ← mul_assoc]
  exact mul_le_mul_of_nonneg_right (by exact_mod_cast below) (by positivity)

theorem isFinite_of_scaled? {numeral : Numeral} {value : Float}
    (read : numeral.scaled? = some value) : value.isFinite = true := by
  unfold scaled? at read
  simp only at read
  split at read
  · rename_i finite
    cases read
    split
    · exact Double.isFinite_neg finite
    · exact finite
  · cases read

theorem isSome_scaled? {numeral : Numeral} (finite : numeral.leading.scaled.isFinite = true) :
    numeral.scaled?.isSome = true := by
  unfold scaled?
  simp only
  rw [if_pos finite]
  rfl

theorem isSome_scaled?_ofNat {number : Nat} (fits : number < 2 ^ 64) :
    (ofNat number).scaled?.isSome = true := by
  obtain ⟨small, below⟩ := @leading_le (ofNat number) fits
  refine isSome_scaled? (Decimal.isFinite_scaled small (below.trans ?_))
  have cast : (number : ℚ) ≤ 2 ^ (64 : Int) := by exact_mod_cast fits.le
  change (number : ℚ) * 10 ^ (0 : Int) ≤ _
  calc
    (number : ℚ) * 10 ^ (0 : Int) = number := by rw [zpow_zero, mul_one]
    _ ≤ 2 ^ (971 : Int) := cast.trans (zpow_le_zpow_right₀ one_le_two (by norm_num))
    _ ≤ (2 ^ 53 - 3) * 2 ^ (971 : Int) := le_mul_of_one_le_left (by positivity) (by norm_num)

end Numeral

namespace Layout

open Double

private theorem whole_spellOut_lt (layout : Layout) (negative : Bool) {decimal : Decimal}
    (short : decimal.coefficient = 0 ∨ decimal.exponent + Digit.count decimal.coefficient ≤ 16) :
    (layout.spellOut negative decimal).whole < 10 ^ 16 := by
  have digits := Digit.lt_pow_count decimal.coefficient
  unfold spellOut
  simp only [Nat.pow_eq]
  obtain none | short := short
  · rw [none]
    split <;> simp
  split
  · refine Nat.div_lt_of_lt_mul ?_
    rw [← pow_add]
    exact digits.trans_le (Nat.pow_le_pow_right (by norm_num) (by omega))
  · calc
      decimal.coefficient * 10 ^ decimal.exponent.natAbs <
          10 ^ Digit.count decimal.coefficient * 10 ^ decimal.exponent.natAbs :=
        Nat.mul_lt_mul_of_pos_right digits (by positivity)
      _ ≤ 10 ^ 16 := by
        rw [← pow_add]
        exact Nat.pow_le_pow_right (by norm_num) (by omega)

private theorem whole_withPower_lt (negative : Bool) (decimal : Decimal) :
    (withPower negative decimal).whole < 10 := by
  unfold withPower
  simp only [Nat.pow_eq]
  refine Nat.div_lt_of_lt_mul ?_
  rw [pow_sub_one_mul (Digit.count_pos decimal.coefficient).ne']
  exact Digit.lt_pow_count decimal.coefficient

/-- What stands before the point in JSON has at most sixteen digits. -/
private theorem whole_numeral_lt (negative : Bool) (decimal : Decimal) :
    (json.numeral negative decimal).whole < 2 ^ 64 := by
  unfold numeral json
  simp only
  split
  · rename_i spelled
    have short : decimal.coefficient = 0 ∨
        decimal.exponent + Digit.count decimal.coefficient ≤ 16 := by omega
    exact (whole_spellOut_lt _ negative short).trans_le (by norm_num)
  · exact (whole_withPower_lt negative decimal).trans_le (by norm_num)

/-- One of the three greatest doubles. -/
private def topmost (below : Fin 3) : Float :=
  .ofModel (.pack (.finite .positive (2 ^ 53 - 1 - below) 971 (by omega)))

-- The bound on both roundings does not cover these three.
private theorem isFinite_scaled_topmost : ∀ (negative : Bool) (below : Fin 3),
    (json.numeral negative (Decimal.shortest (topmost below))).leading.scaled.isFinite = true := by
  decide +kernel

private theorem abs_topmost : ∀ below : Fin 3, (topmost below).abs = topmost below := by
  decide +kernel

private theorem cast_topmost : ((2 : ℚ) ^ 53 - 3) * 2 ^ (971 : Int) =
    ((2 ^ 53 - 3 : Nat) : ℚ) * 2 ^ (971 : Int) := by norm_num

private theorem le_magnitude_nearest {number : ℚ}
    (beyond : (2 ^ 53 - 3) * 2 ^ (971 : Int) < number) :
    (2 ^ 53 - 3) * 2 ^ (971 : Int) ≤ magnitude (nearest .positive number) := by
  have form : IsForm (2 ^ 53 - 3) 971 := by constructor <;> norm_num
  have least : (0 : ℚ) < (2 ^ 53 - 3) * 2 ^ (971 : Int) := mul_pos (by norm_num) (by positivity)
  have size := magnitude_nearest_mono .positive least beyond.le
  rwa [cast_topmost, nearest_eq_self form (by norm_num), magnitude, ← cast_topmost] at size

/-- A form beyond the bound on both roundings has the greatest exponent, and one of the three
greatest mantissas. -/
private theorem topmost_of_isForm {mantissa : Nat} {exponent : Int}
    (form : IsForm mantissa exponent) (inRange : exponent ≤ 971)
    (beyond : (2 ^ 53 - 3) * 2 ^ (971 : Int) ≤ (mantissa : ℚ) * 2 ^ exponent) :
    exponent = 971 ∧ 2 ^ 53 ≤ mantissa + 3 := by
  have fits : (mantissa : ℚ) < 2 ^ 53 := by exact_mod_cast form.fits
  have last : exponent = 971 := by
    refine le_antisymm inRange ?_
    by_contra short
    have unit : (2 : ℚ) ^ exponent ≤ 2 ^ (970 : Int) := zpow_le_zpow_right₀ one_le_two (by omega)
    refine absurd beyond (not_le.mpr ?_)
    calc
      (mantissa : ℚ) * 2 ^ exponent ≤ 2 ^ 53 * 2 ^ (970 : Int) :=
        mul_le_mul fits.le unit (by positivity) (by positivity)
      _ = 2 ^ 52 * 2 ^ (971 : Int) := by
        rw [show (971 : Int) = 1 + 970 from rfl, zpow_add₀ two_ne_zero]
        ring
      _ < (2 ^ 53 - 3) * 2 ^ (971 : Int) := mul_lt_mul_of_pos_right (by norm_num) (by positivity)
  subst last
  refine ⟨rfl, ?_⟩
  have above : (2 : ℚ) ^ 53 - 3 ≤ mantissa := le_of_mul_le_mul_right beyond (by positivity)
  rw [sub_le_iff_le_add] at above
  exact_mod_cast above

/-- A number beyond the bound on both roundings that is not rounded to an infinity is rounded to one
of the three greatest doubles. -/
private theorem exists_topmost_of_lt {number : ℚ}
    (beyond : (2 ^ 53 - 3) * 2 ^ (971 : Int) < number)
    (finite : (ofRat number).isFinite = true) : ∃ below, ofRat number = topmost below := by
  have least : (0 : ℚ) < (2 ^ 53 - 3) * 2 ^ (971 : Int) := mul_pos (by norm_num) (by positivity)
  have size := le_magnitude_nearest beyond
  obtain ⟨zero, _⟩ | ⟨mantissa, exponent, some, form, _, _, same⟩ :=
    nearest_cases .positive (least.trans beyond)
  · rw [zero] at size
    exact absurd size (not_le.mpr least)
  rw [same] at size
  have inRange : exponent ≤ 971 := by
    by_contra huge
    unfold ofRat at finite
    rw [same, pack_eq_infinity (not_le.mp huge)] at finite
    revert finite
    decide
  obtain ⟨rfl, mantissa_ge⟩ := topmost_of_isForm form inRange size
  have mantissa_lt := form.fits
  refine ⟨⟨2 ^ 53 - 1 - mantissa, by omega⟩, ?_⟩
  unfold ofRat topmost
  rw [same]
  congr 3
  simp only
  omega

theorem isSome_scaled?_ofFloat {value : Float} (finite : value.isFinite = true) :
    (json.ofFloat value).scaled?.isSome = true := by
  have small := whole_numeral_lt (Dyadic.signOf value) (Decimal.shortest value)
  obtain ⟨fits, below⟩ := Numeral.leading_le small
  have number : (json.ofFloat value).magnitude.value = (Decimal.shortest value).value :=
    value_numeral _ _ _
  apply Numeral.isSome_scaled?
  by_cases bounded : (Decimal.shortest value).value ≤ (2 ^ 53 - 3) * 2 ^ (971 : Int)
  · exact Decimal.isFinite_scaled fits (below.trans (number.trans_le bounded))
  · have beyond := not_le.mp bounded
    have positive : 0 < (Decimal.shortest value).coefficient := by
      refine Nat.pos_of_ne_zero fun none => absurd beyond (not_lt.mpr ?_)
      rw [Decimal.value, none, Nat.cast_zero, zero_mul]
      exact mul_nonneg (by norm_num) (by positivity)
    have size : Double.ofRat (Decimal.shortest value).value = value.abs := by
      rw [← Decimal.toFloat_eq_ofRat positive, Decimal.toFloat_shortest finite]
    obtain ⟨place, top⟩ := exists_topmost_of_lt beyond (size ▸ isFinite_abs finite)
    have same : Decimal.shortest value = Decimal.shortest (topmost place) := by
      unfold Decimal.shortest
      rw [abs_topmost, ← top, size]
    have finite := isFinite_scaled_topmost (Dyadic.signOf value) place
    rwa [← same] at finite

end Layout

end VariablePay
