import Mathlib.Algebra.Order.Field.Power
import Mathlib.Data.Int.Log
import Mathlib.Data.Rat.Floor
import Mathlib.Tactic.Linarith
import Mathlib.Tactic.NormNum
import VariablePay.Proofs.Double.Form

set_option autoImplicit false

/-!
# Rounding to the nearest double

Products, quotients and decimals are rounded from a mantissa, an exponent and a note on what was cut
off. The result depends on nothing but the number that these three describe: it is the nearest
double, of two equally near ones the one with the even mantissa.
-/

open Float.Model
open Float.Model.UnpackedFloat (Accuracy ExtendedMantissa)

namespace VariablePay.Double

/-!
## What was cut off
-/

/-- The fractions of a unit that an accuracy stands for. -/
def Leaves : Accuracy → ℚ → Prop
  | .exact, rest => rest = 0
  | .inexact .lt, rest => 0 < rest ∧ rest < 1 / 2
  | .inexact .eq, rest => rest = 1 / 2
  | .inexact .gt, rest => 1 / 2 < rest ∧ rest < 1

/-- Whether a mantissa with its two residual bits stands for a number. -/
def StandsFor (extended : ExtendedMantissa) (number : ℚ) : Prop :=
  Leaves extended.accuracy (number - extended.mantissa)

private theorem Leaves.bounds {accuracy : Accuracy} {rest : ℚ} (leaves : Leaves accuracy rest) :
    0 ≤ rest ∧ rest < 1 := by
  cases accuracy with
  | exact => exact ⟨le_of_eq leaves.symm, by rw [show rest = 0 from leaves]; norm_num⟩
  | inexact order =>
      cases order with
      | lt => exact ⟨leaves.1.le, by linarith [leaves.2]⟩
      | eq =>
          have half : rest = 1 / 2 := leaves
          constructor <;> linarith
      | gt => exact ⟨by linarith [leaves.1], leaves.2⟩

private theorem StandsFor.of_accuracy {mantissa : Nat} {accuracy : Accuracy} {number : ℚ}
    (leaves : Leaves accuracy (number - mantissa)) :
    StandsFor (.ofMantissaAndAccuracy mantissa accuracy) number := by
  cases accuracy with
  | exact => exact leaves
  | inexact order => cases order <;> exact leaves

private theorem leaves_half_of_even {mantissa : Nat} {round sticky : Bool} {rest : ℚ}
    (even : mantissa % 2 = 0)
    (leaves : Leaves (ExtendedMantissa.accuracy ⟨mantissa, round, sticky⟩) rest) :
    Leaves (ExtendedMantissa.shiftRightOne ⟨mantissa, round, sticky⟩).accuracy (rest / 2) := by
  have bounds := leaves.bounds
  cases round <;> cases sticky <;>
    simp only [ExtendedMantissa.shiftRightOne, ExtendedMantissa.accuracy, Leaves, even,
      bne_self_eq_false, Bool.or_false, Bool.or_true] at leaves ⊢
  · rw [leaves, zero_div]
  all_goals constructor <;> linarith

private theorem leaves_half_of_odd {mantissa : Nat} {round sticky : Bool} {rest : ℚ}
    (odd : mantissa % 2 = 1)
    (leaves : Leaves (ExtendedMantissa.accuracy ⟨mantissa, round, sticky⟩) rest) :
    Leaves (ExtendedMantissa.shiftRightOne ⟨mantissa, round, sticky⟩).accuracy
      ((rest + 1) / 2) := by
  have bounds := leaves.bounds
  cases round <;> cases sticky <;>
    simp [ExtendedMantissa.shiftRightOne, ExtendedMantissa.accuracy, Leaves, odd] at leaves ⊢
  · rw [leaves]
    norm_num
  all_goals constructor <;> linarith

private theorem StandsFor.shiftRightOne {extended : ExtendedMantissa} {number : ℚ}
    (stands : StandsFor extended number) : StandsFor extended.shiftRightOne (number / 2) := by
  obtain ⟨mantissa, round, sticky⟩ := extended
  have cast : (mantissa : ℚ) = 2 * (mantissa / 2 : Nat) + (mantissa % 2 : Nat) := by
    exact_mod_cast (Nat.div_add_mod mantissa 2).symm
  unfold StandsFor at stands ⊢
  change Leaves _ (number / 2 - (mantissa / 2 : Nat))
  rcases Nat.mod_two_eq_zero_or_one mantissa with even | odd
  · have halved : number / 2 - (mantissa / 2 : Nat) = (number - mantissa) / 2 := by
      rw [even] at cast
      rw [cast]
      push_cast
      ring
    rw [halved]
    exact leaves_half_of_even even stands
  · have halved : number / 2 - (mantissa / 2 : Nat) = (number - mantissa + 1) / 2 := by
      rw [odd] at cast
      rw [cast]
      push_cast
      ring
    rw [halved]
    exact leaves_half_of_odd odd stands

private theorem StandsFor.shiftRight {extended : ExtendedMantissa} {number : ℚ}
    (stands : StandsFor extended number) (places : Nat) :
    StandsFor (extended >>> places) (number / 2 ^ places) := by
  induction places with
  | zero =>
      rw [pow_zero, div_one]
      exact stands
  | succ places ih =>
      have next := ih.shiftRightOne
      rw [div_div, ← pow_succ] at next
      exact next

/-- The whole number next to a number, of two equally near ones the even one. -/
def nearestWhole (number : ℚ) : Nat :=
  let whole := ⌊number⌋₊
  if number - whole < 1 / 2 then whole
  else if number - whole = 1 / 2 then whole + whole % 2
  else whole + 1

private theorem StandsFor.roundedMantissa_eq {extended : ExtendedMantissa} {number : ℚ}
    (stands : StandsFor extended number) :
    extended.roundedMantissa = nearestWhole number := by
  have bounds := Leaves.bounds stands
  have whole : ⌊number⌋₊ = extended.mantissa := by
    have : (0 : ℚ) ≤ extended.mantissa := Nat.cast_nonneg _
    rw [Nat.floor_eq_iff (by linarith)]
    constructor <;> linarith
  unfold StandsFor at stands
  unfold nearestWhole ExtendedMantissa.roundedMantissa
  rw [whole]
  cases accuracy : extended.accuracy with
  | exact =>
      rw [accuracy] at stands
      have none : number - extended.mantissa = 0 := stands
      rw [if_pos (by linarith)]
      rfl
  | inexact order =>
      rw [accuracy] at stands
      cases order with
      | lt =>
          rw [if_pos stands.2]
          rfl
      | eq =>
          have half : number - extended.mantissa = 1 / 2 := stands
          rw [if_neg (by linarith), if_pos half]
          rfl
      | gt =>
          rw [if_neg (by linarith [stands.1]), if_neg (by linarith [stands.1])]
          rfl

/-!
## Where the last place stands
-/

/-- The exponent of the last place that a double next to a positive number has. -/
def lastPlace (number : ℚ) : ℤ := max (Int.log 2 number - 52) (-1074)

private theorem log_eq {number : ℚ} {place : ℤ} (low : (2 : ℚ) ^ place ≤ number)
    (high : number < (2 : ℚ) ^ (place + 1)) : Int.log 2 number = place := by
  have positive : 0 < number := lt_of_lt_of_le (zpow_pos (by norm_num) _) low
  have lower : place ≤ Int.log 2 number := (Int.zpow_le_iff_le_log one_lt_two positive).mp low
  have upper : Int.log 2 number < place + 1 := (Int.lt_zpow_iff_log_lt one_lt_two positive).mp high
  omega

theorem targetExponent_eq (total : Int) :
    Format.binary64.targetExponent total = max (total - 53) (-1074) := by
  have least : Format.binary64.minExponent = -1074 := by decide
  unfold Format.targetExponent
  rw [least]
  rfl

/-- A mantissa that is followed by its fraction leads to the last place of the number. -/
private theorem targetExponent_totalExponent {number : ℚ} {mantissa : Nat} {exponent : Int}
    (low : (mantissa : ℚ) * 2 ^ exponent ≤ number)
    (high : number < (mantissa + 1) * 2 ^ exponent) (positive : 0 < number)
    (fine : exponent ≤ lastPlace number) :
    Format.binary64.targetExponent (totalExponent mantissa exponent) = lastPlace number := by
  rw [targetExponent_eq]
  unfold lastPlace totalExponent at *
  rcases Nat.eq_zero_or_pos mantissa with rfl | some
  · have small : Int.log 2 number < exponent := by
      rw [← Int.lt_zpow_iff_log_lt one_lt_two positive]
      simpa using high
    have none : Nat.log2 0 = 0 := by decide
    rw [none]
    omega
  · have least : (2 : ℚ) ^ mantissa.log2 ≤ mantissa := by
      exact_mod_cast Nat.log2_self_le some.ne'
    have greatest : (mantissa : ℚ) + 1 ≤ 2 ^ (mantissa.log2 + 1) := by
      exact_mod_cast Nat.lt_log2_self
    have unit : (0 : ℚ) < 2 ^ exponent := by positivity
    have log : Int.log 2 number = mantissa.log2 + exponent := by
      apply log_eq
      · rw [zpow_add₀ two_ne_zero, zpow_natCast]
        exact (mul_le_mul_of_nonneg_right least unit.le).trans low
      · rw [add_right_comm, zpow_add₀ two_ne_zero, ← Nat.cast_succ, zpow_natCast]
        exact high.trans_le (mul_le_mul_of_nonneg_right greatest unit.le)
    rw [log]
    omega

theorem zpow_log2_le {mantissa : Nat} (positive : 0 < mantissa) (exponent : Int) :
    (2 : ℚ) ^ (mantissa.log2 + exponent) ≤ mantissa * 2 ^ exponent := by
  rw [zpow_add₀ two_ne_zero, zpow_natCast]
  exact mul_le_mul_of_nonneg_right (by exact_mod_cast Nat.log2_self_le positive.ne') (by positivity)

theorem lt_zpow_log2 (mantissa : Nat) (exponent : Int) :
    (mantissa : ℚ) * 2 ^ exponent < 2 ^ (mantissa.log2 + 1 + exponent) := by
  rw [zpow_add₀ two_ne_zero, ← Nat.cast_succ, zpow_natCast]
  exact mul_lt_mul_of_pos_right (by exact_mod_cast Nat.lt_log2_self) (by positivity)

/-- The last place of a number that is given by a mantissa, of whatever length, and an exponent. -/
theorem targetExponent_eq_lastPlace {mantissa : Nat} (positive : 0 < mantissa) (exponent : Int) :
    Format.binary64.targetExponent (totalExponent mantissa exponent) =
      lastPlace (mantissa * 2 ^ exponent) := by
  have log : Int.log 2 ((mantissa : ℚ) * 2 ^ exponent) = mantissa.log2 + exponent := by
    apply log_eq (zpow_log2_le positive exponent)
    rw [add_right_comm]
    exact lt_zpow_log2 mantissa exponent
  rw [targetExponent_eq]
  unfold lastPlace totalExponent
  omega

/-!
## The nearest double
-/

/-- The form of a rounded mantissa, which may have become one place too long. -/
def carried (sign : UnpackedFloat.Sign) (mantissa : Nat) (exponent : Int) : UnpackedFloat :=
  let shifted := UnpackedFloat.shiftToTargetExponent .binary64 mantissa exponent .exact
  if zero : shifted.1.mantissa = 0 then .zero sign
  else .finite sign shifted.1.mantissa shifted.2 (Nat.pos_of_ne_zero zero)

/-- The form of the double nearest to a positive number, for any range of exponents. -/
def nearest (sign : UnpackedFloat.Sign) (number : ℚ) : UnpackedFloat :=
  carried sign (nearestWhole (number / 2 ^ lastPlace number)) (lastPlace number)

/-- Rounding depends on nothing but the number, as long as its last place is not passed. -/
theorem roundWithAccuracy_eq_nearest {sign : UnpackedFloat.Sign} {mantissa : Nat} {exponent : Int}
    {accuracy : Accuracy} {number : ℚ} (positive : 0 < number)
    (leaves : Leaves accuracy (number / 2 ^ exponent - mantissa))
    (fine : exponent ≤ lastPlace number) :
    UnpackedFloat.roundWithAccuracy .binary64 sign mantissa exponent accuracy =
      nearest sign number := by
  have unit : (0 : ℚ) < 2 ^ exponent := by positivity
  obtain ⟨low, high⟩ := leaves.bounds
  rw [sub_nonneg, le_div_iff₀ unit] at low
  rw [sub_lt_iff_lt_add, div_lt_iff₀ unit, add_comm] at high
  have target := targetExponent_totalExponent low high positive fine
  have shifted : UnpackedFloat.shiftToTargetExponent .binary64 mantissa exponent accuracy =
      (ExtendedMantissa.ofMantissaAndAccuracy mantissa accuracy >>>
        (lastPlace number - exponent).toNat, lastPlace number) := by
    unfold UnpackedFloat.shiftToTargetExponent UnpackedFloat.shiftToExponent
    simp only [target]
    congr 1
    omega
  have stands := (StandsFor.of_accuracy leaves).shiftRight (lastPlace number - exponent).toNat
  have scaled : number / 2 ^ exponent / 2 ^ (lastPlace number - exponent).toNat =
      number / 2 ^ lastPlace number := by
    rw [div_div, ← zpow_natCast, ← zpow_add₀ two_ne_zero]
    congr 2
    omega
  rw [scaled] at stands
  unfold UnpackedFloat.roundWithAccuracy nearest carried
  simp only [shifted, stands.roundedMantissa_eq]

/-- A whole number of units, of whatever size, is rounded to the nearest double. -/
theorem round_eq_nearest {sign : UnpackedFloat.Sign} {mantissa : Nat} (positive : 0 < mantissa)
    (exponent : Int) :
    UnpackedFloat.round .binary64 sign mantissa exponent =
      nearest sign (mantissa * 2 ^ exponent) := by
  have cast : (0 : ℚ) < mantissa := by exact_mod_cast positive
  unfold UnpackedFloat.round UnpackedFloat.decreaseExponent
  simp only [targetExponent_eq_lastPlace positive]
  generalize shift_eq : (exponent - lastPlace (mantissa * 2 ^ exponent)).toNat = shift
  have lengthened : ((mantissa <<< shift : Nat) : ℚ) * 2 ^ (exponent - shift) =
      mantissa * 2 ^ exponent := by
    rw [Nat.shiftLeft_eq, zpow_sub₀ two_ne_zero, zpow_natCast]
    push_cast
    field_simp
  refine roundWithAccuracy_eq_nearest (by positivity) ?_ (by omega)
  change _ = (0 : ℚ)
  rw [← lengthened, mul_div_cancel_right₀ _ (by positivity), sub_self]

private theorem shift_eq_self {mantissa : Nat} {exponent : Int} (fits : mantissa < 2 ^ 53)
    (least : -1074 ≤ exponent) :
    UnpackedFloat.shiftToTargetExponent .binary64 mantissa exponent .exact =
      (⟨mantissa, false, false⟩, exponent) := by
  have short : mantissa.log2 ≤ 52 := by
    rcases Nat.eq_zero_or_pos mantissa with rfl | some
    · decide
    · exact Nat.lt_succ_iff.mp ((Nat.log2_lt some.ne').mpr fits)
  have still : (Format.binary64.targetExponent (totalExponent mantissa exponent) -
      exponent).toNat = 0 := by
    rw [targetExponent_eq]
    unfold totalExponent
    omega
  unfold UnpackedFloat.shiftToTargetExponent UnpackedFloat.shiftToExponent
  simp only [still]
  exact Prod.ext rfl (add_zero exponent)

private theorem carried_zero {sign : UnpackedFloat.Sign} {exponent : Int}
    (least : -1074 ≤ exponent) : carried sign 0 exponent = .zero sign := by
  unfold carried
  simp only [shift_eq_self (show 0 < 2 ^ 53 by norm_num) least]
  rw [dif_pos trivial]

private theorem carried_form {sign : UnpackedFloat.Sign} {mantissa : Nat} {exponent : Int}
    (form : IsForm mantissa exponent) (positive : 0 < mantissa) :
    carried sign mantissa exponent = .finite sign mantissa exponent positive := by
  unfold carried
  simp only [shift_eq_self form.fits form.least_le]
  rw [dif_neg positive.ne']

private theorem carried_long {sign : UnpackedFloat.Sign} {exponent : Int}
    (least : -1074 ≤ exponent) :
    carried sign (2 ^ 53) exponent = .finite sign (2 ^ 52) (exponent + 1) (by norm_num) := by
  have long : Nat.log2 (2 ^ 53) = 53 := Nat.log2_two_pow
  have once : (Format.binary64.targetExponent (totalExponent (2 ^ 53) exponent) -
      exponent).toNat = 1 := by
    rw [targetExponent_eq]
    unfold totalExponent
    rw [long]
    omega
  unfold carried UnpackedFloat.shiftToTargetExponent UnpackedFloat.shiftToExponent
  simp only [once]
  rfl

theorem lastPlace_form {mantissa : Nat} {exponent : Int} (form : IsForm mantissa exponent)
    (positive : 0 < mantissa) : lastPlace (mantissa * 2 ^ exponent) = exponent := by
  obtain ⟨fits, least, full⟩ := form
  have unit : (0 : ℚ) < 2 ^ exponent := by positivity
  have size : (0 : ℚ) < mantissa * 2 ^ exponent := mul_pos (by exact_mod_cast positive) unit
  have upper : Int.log 2 ((mantissa : ℚ) * 2 ^ exponent) < 53 + exponent := by
    rw [← Int.lt_zpow_iff_log_lt one_lt_two size, Nat.cast_ofNat, zpow_add₀ two_ne_zero]
    exact mul_lt_mul_of_pos_right (by exact_mod_cast fits) unit
  have lower (long : 2 ^ 52 ≤ mantissa) :
      52 + exponent ≤ Int.log 2 ((mantissa : ℚ) * 2 ^ exponent) := by
    rw [← Int.zpow_le_iff_le_log one_lt_two size, Nat.cast_ofNat, zpow_add₀ two_ne_zero]
    exact mul_le_mul_of_nonneg_right (by exact_mod_cast long) unit.le
  unfold lastPlace
  omega

/-- A number that a double has is its own nearest. -/
theorem nearest_eq_self {sign : UnpackedFloat.Sign} {mantissa : Nat} {exponent : Int}
    (form : IsForm mantissa exponent) (positive : 0 < mantissa) :
    nearest sign (mantissa * 2 ^ exponent) = .finite sign mantissa exponent positive := by
  have unit : (0 : ℚ) < 2 ^ exponent := by positivity
  have whole : (mantissa : ℚ) * 2 ^ exponent / 2 ^ exponent = mantissa :=
    mul_div_cancel_right₀ _ unit.ne'
  unfold nearest
  rw [lastPlace_form form positive, whole]
  have rounded : nearestWhole mantissa = mantissa := by
    unfold nearestWhole
    simp only [Nat.floor_natCast, sub_self]
    rw [if_pos (by norm_num)]
  rw [rounded]
  exact carried_form form positive

private theorem nearestWhole_le {number : ℚ} {bound : Nat} (positive : 0 < number)
    (below : number < bound) : nearestWhole number ≤ bound := by
  have whole : ⌊number⌋₊ < bound := (Nat.floor_lt positive.le).mpr below
  unfold nearestWhole
  grind

private theorem le_nearestWhole {number : ℚ} {bound : Nat} (above : (bound : ℚ) ≤ number) :
    bound ≤ nearestWhole number := by
  have whole : bound ≤ ⌊number⌋₊ := Nat.le_floor above
  unfold nearestWhole
  grind

/-- In units of its last place a number rounds to a mantissa of 53 bits, or to the next power of
two. -/
private theorem nearestWhole_scaled_le {number : ℚ} (positive : 0 < number) :
    nearestWhole (number / 2 ^ lastPlace number) ≤ 2 ^ 53 := by
  have unit : (0 : ℚ) < 2 ^ lastPlace number := by positivity
  apply nearestWhole_le (div_pos positive unit)
  rw [Nat.cast_pow, Nat.cast_ofNat, div_lt_iff₀ unit, ← zpow_natCast, ← zpow_add₀ two_ne_zero]
  refine (Int.lt_zpow_iff_log_lt one_lt_two positive).mpr ?_
  unfold lastPlace
  omega

/-- Unless its last place is the least, a number rounds to a mantissa of no less than 53 bits. -/
private theorem le_nearestWhole_scaled {number : ℚ} (positive : 0 < number)
    (normal : lastPlace number ≠ -1074) :
    2 ^ 52 ≤ nearestWhole (number / 2 ^ lastPlace number) := by
  have unit : (0 : ℚ) < 2 ^ lastPlace number := by positivity
  apply le_nearestWhole
  rw [Nat.cast_pow, Nat.cast_ofNat, le_div_iff₀ unit, ← zpow_natCast, ← zpow_add₀ two_ne_zero]
  refine (Int.zpow_le_iff_le_log one_lt_two positive).mpr ?_
  unfold lastPlace at normal ⊢
  omega

/-- The nearest double has a form whose last place is that of the number or the one before it,
unless the number is too small for any. -/
theorem nearest_cases (sign : UnpackedFloat.Sign) {number : ℚ} (positive : 0 < number) :
    nearest sign number = .zero sign ∧ lastPlace number = -1074 ∨
      ∃ mantissa exponent, ∃ some : 0 < mantissa, IsForm mantissa exponent ∧
        lastPlace number ≤ exponent ∧ exponent ≤ lastPlace number + 1 ∧
        nearest sign number = .finite sign mantissa exponent some := by
  have least : -1074 ≤ lastPlace number := le_max_right _ _
  have upper := nearestWhole_scaled_le positive
  have lower : 2 ^ 52 ≤ nearestWhole (number / 2 ^ lastPlace number) ∨
      lastPlace number = -1074 := or_iff_not_imp_right.mpr (le_nearestWhole_scaled positive)
  unfold nearest
  generalize nearestWhole (number / 2 ^ lastPlace number) = mantissa at upper lower ⊢
  rcases Nat.eq_zero_or_pos mantissa with rfl | some
  · exact .inl ⟨carried_zero least, lower.resolve_left (by norm_num)⟩
  · right
    rcases Nat.lt_or_eq_of_le upper with fits | rfl
    · have form : IsForm mantissa (lastPlace number) := ⟨fits, least, lower⟩
      exact ⟨_, _, some, form, le_refl _, by omega, carried_form form some⟩
    · exact ⟨_, _, _, ⟨by norm_num, by omega, .inl (le_refl _)⟩, by omega, le_refl _,
        carried_long least⟩

/-!
## The size of the nearest double
-/

private theorem nearestWhole_mono {low high : ℚ} (ordered : low ≤ high) :
    nearestWhole low ≤ nearestWhole high := by
  unfold nearestWhole
  dsimp only
  rcases (Nat.floor_mono ordered).lt_or_eq with less | same
  · split_ifs <;> omega
  · have rests := sub_le_sub_right ordered (⌊low⌋₊ : ℚ)
    rw [← same]
    generalize low - (⌊low⌋₊ : ℚ) = lowRest at rests ⊢
    generalize high - (⌊low⌋₊ : ℚ) = highRest at rests ⊢
    grind

/-- The size of a finite number, and zero for all others. -/
def magnitude : UnpackedFloat → ℚ
  | .finite _ mantissa exponent _ => mantissa * 2 ^ exponent
  | _ => 0

theorem magnitude_nearest (sign : UnpackedFloat.Sign) {number : ℚ} (positive : 0 < number) :
    magnitude (nearest sign number) =
      nearestWhole (number / 2 ^ lastPlace number) * 2 ^ lastPlace number := by
  have least : -1074 ≤ lastPlace number := le_max_right _ _
  have upper := nearestWhole_scaled_le positive
  have lower := le_nearestWhole_scaled positive
  unfold nearest
  generalize nearestWhole (number / 2 ^ lastPlace number) = mantissa at upper lower ⊢
  rcases Nat.eq_zero_or_pos mantissa with rfl | some
  · rw [carried_zero least, Nat.cast_zero, zero_mul]
    rfl
  · rcases Nat.lt_or_eq_of_le upper with fits | rfl
    · rw [carried_form ⟨fits, least, by omega⟩ some]
      rfl
    · rw [carried_long least]
      change ((2 ^ 52 : Nat) : ℚ) * 2 ^ (lastPlace number + 1) = _
      rw [zpow_add₀ two_ne_zero]
      push_cast
      ring

/-- Rounding keeps the order of sizes. -/
theorem magnitude_nearest_mono (sign : UnpackedFloat.Sign) {low high : ℚ}
    (positive : 0 < low) (ordered : low ≤ high) :
    magnitude (nearest sign low) ≤ magnitude (nearest sign high) := by
  have highPositive := positive.trans_le ordered
  have places : lastPlace low ≤ lastPlace high :=
    max_le_max_right _ (Int.sub_le_sub_right (Int.log_mono_right positive ordered) 52)
  rw [magnitude_nearest sign positive, magnitude_nearest sign highPositive]
  rcases places.lt_or_eq with less | same
  · -- The greater number has a longer unit, so it is at least the greatest of the shorter units.
    have normal : lastPlace high ≠ -1074 := by
      have : -1074 ≤ lastPlace low := le_max_right _ _
      omega
    calc
      (nearestWhole (low / 2 ^ lastPlace low) : ℚ) * 2 ^ lastPlace low ≤
          2 ^ 53 * 2 ^ lastPlace low := by
        gcongr
        exact_mod_cast nearestWhole_scaled_le positive
      _ = 2 ^ 52 * 2 ^ (lastPlace low + 1) := by
        rw [zpow_add₀ two_ne_zero]
        ring
      _ ≤ nearestWhole (high / 2 ^ lastPlace high) * 2 ^ lastPlace high := by
        gcongr
        · exact_mod_cast le_nearestWhole_scaled highPositive normal
        · norm_num
        · omega
  · rw [same]
    gcongr
    exact nearestWhole_mono (by gcongr)

/-- Numbers far below the least double are next to zero. -/
theorem nearest_eq_zero (sign : UnpackedFloat.Sign) {number : ℚ} (positive : 0 < number)
    (tiny : number < 2 ^ (-1075 : Int)) : nearest sign number = .zero sign := by
  have log : Int.log 2 number < -1075 :=
    (Int.lt_zpow_iff_log_lt one_lt_two positive).mp (by exact_mod_cast tiny)
  have place : lastPlace number = -1074 := by
    unfold lastPlace
    omega
  have half : number / 2 ^ (-1074 : Int) < 1 / 2 := by
    rw [div_lt_iff₀ (by positivity)]
    calc
      number < 2 ^ (-1075 : Int) := tiny
      _ = 1 / 2 * 2 ^ (-1074 : Int) := by
        rw [one_div, ← zpow_neg_one, ← zpow_add₀ two_ne_zero]
        rfl
  have none : nearestWhole (number / 2 ^ (-1074 : Int)) = 0 := by
    have whole : ⌊number / 2 ^ (-1074 : Int)⌋₊ = 0 := Nat.floor_eq_zero.mpr (by linarith)
    unfold nearestWhole
    simp only [whole]
    rw [if_pos (by simpa using half)]
  unfold nearest
  rw [place, none]
  exact carried_zero (le_refl _)

/-- Numbers beyond the range of doubles are packed as infinite. -/
theorem pack_nearest_eq_infinity (sign : UnpackedFloat.Sign) {number : ℚ}
    (huge : (2 : ℚ) ^ (1024 : Int) ≤ number) :
    Float.Model.pack (nearest sign number) = .pack (.infinity sign) := by
  have positive : 0 < number := lt_of_lt_of_le (by positivity) huge
  have log : 1024 ≤ Int.log 2 number := (Int.zpow_le_iff_le_log one_lt_two positive).mp huge
  have place : 972 ≤ lastPlace number := by
    unfold lastPlace
    omega
  obtain ⟨_, least⟩ | ⟨mantissa, exponent, some, form, above, _, same⟩ :=
    nearest_cases sign positive
  · omega
  · rw [same]
    exact pack_eq_infinity (by omega)

end VariablePay.Double
