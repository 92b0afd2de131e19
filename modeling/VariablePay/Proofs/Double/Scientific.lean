import VariablePay.Proofs.Double.Nearest

set_option autoImplicit false

/-!
# Decimals as doubles

Small decimals are read by one multiplication or division of exact numbers, all others by a single
rounding. Either way a decimal is read as the double nearest to it.
-/

open Float.Model
open Float.Model.UnpackedFloat (Accuracy)

namespace VariablePay.Double

private theorem leaves_accuracyOfFraction {part whole : Nat} (proper : part < whole) :
    Leaves (UnpackedFloat.accuracyOfFraction part whole) (part / whole) := by
  have positive : (0 : ℚ) < whole := by exact_mod_cast Nat.zero_lt_of_lt proper
  unfold UnpackedFloat.accuracyOfFraction
  by_cases none : part = 0
  · rw [if_pos none, none, Nat.cast_zero, zero_div]
    rfl
  · have some : (0 : ℚ) < part := by exact_mod_cast Nat.pos_of_ne_zero none
    rw [if_neg none]
    rcases lt_trichotomy (2 * part) whole with less | same | greater
    · rw [compare_lt_iff_lt.mpr less]
      have : (2 * part : ℚ) < whole := by exact_mod_cast less
      exact ⟨div_pos some positive, by rw [div_lt_iff₀ positive]; linarith⟩
    · rw [compare_eq_iff_eq.mpr same]
      have : (2 * part : ℚ) = whole := by exact_mod_cast same
      change (part : ℚ) / whole = 1 / 2
      rw [div_eq_iff positive.ne']
      linarith
    · rw [compare_gt_iff_gt.mpr greater]
      have : (whole : ℚ) < 2 * part := by exact_mod_cast greater
      have : (part : ℚ) < whole := by exact_mod_cast proper
      constructor
      · rw [lt_div_iff₀ positive]
        linarith
      · rw [div_lt_iff₀ positive]
        linarith

/-- A product is rounded to the nearest double, unless its exact mantissa ends behind the last
place. -/
private theorem mul_eq_nearest_of_le {left right : Nat} {leftExponent rightExponent : Int}
    {leftPositive : 0 < left} {rightPositive : 0 < right}
    (fine : leftExponent + rightExponent ≤
      lastPlace (left * 2 ^ leftExponent * (right * 2 ^ rightExponent))) :
    UnpackedFloat.mul .binary64 (.finite .positive left leftExponent leftPositive)
        (.finite .positive right rightExponent rightPositive) =
      nearest .positive (left * 2 ^ leftExponent * (right * 2 ^ rightExponent)) := by
  have leftCast : (0 : ℚ) < left := by exact_mod_cast leftPositive
  have rightCast : (0 : ℚ) < right := by exact_mod_cast rightPositive
  refine roundWithAccuracy_eq_nearest (by positivity) ?_ fine
  change _ = (0 : ℚ)
  rw [sub_eq_zero, div_eq_iff (by positivity), zpow_add₀ two_ne_zero]
  push_cast
  ring

private theorem add_le_lastPlace_mul {left right : Nat} (leftExponent rightExponent : Int)
    (long : 2 ^ 52 ≤ left) (rightPositive : 0 < right) :
    leftExponent + rightExponent ≤
      lastPlace (left * 2 ^ leftExponent * (right * 2 ^ rightExponent)) := by
  have leftCast : (2 : ℚ) ^ 52 ≤ left := by exact_mod_cast long
  have rightCast : (1 : ℚ) ≤ right := by exact_mod_cast rightPositive
  have log : 52 + (leftExponent + rightExponent) ≤
      Int.log 2 ((left : ℚ) * 2 ^ leftExponent * (right * 2 ^ rightExponent)) := by
    rw [← Int.zpow_le_iff_le_log one_lt_two (by positivity), Nat.cast_ofNat,
      zpow_add₀ two_ne_zero, zpow_add₀ two_ne_zero]
    calc
      (2 : ℚ) ^ (52 : Int) * (2 ^ leftExponent * 2 ^ rightExponent) =
          2 ^ 52 * 1 * (2 ^ leftExponent * 2 ^ rightExponent) := by rw [mul_one]; rfl
      _ ≤ left * right * (2 ^ leftExponent * 2 ^ rightExponent) := by gcongr
      _ = left * 2 ^ leftExponent * (right * 2 ^ rightExponent) := by ring
  unfold lastPlace
  omega

/-- A product of finite numbers, of which one has all places, is rounded to the nearest double. -/
theorem mul_eq_nearest {left right : Nat} {leftExponent rightExponent : Int}
    {leftPositive : 0 < left} {rightPositive : 0 < right} (long : 2 ^ 52 ≤ left) :
    UnpackedFloat.mul .binary64 (.finite .positive left leftExponent leftPositive)
        (.finite .positive right rightExponent rightPositive) =
      nearest .positive (left * 2 ^ leftExponent * (right * 2 ^ rightExponent)) :=
  mul_eq_nearest_of_le (add_le_lastPlace_mul _ _ long rightPositive)

/-- A product of doubles is rounded to the nearest double, however small they are. -/
theorem mul_eq_nearest_of_isForm {left right : Nat} {leftExponent rightExponent : Int}
    {leftPositive : 0 < left} {rightPositive : 0 < right} (leftForm : IsForm left leftExponent)
    (rightForm : IsForm right rightExponent) :
    UnpackedFloat.mul .binary64 (.finite .positive left leftExponent leftPositive)
        (.finite .positive right rightExponent rightPositive) =
      nearest .positive (left * 2 ^ leftExponent * (right * 2 ^ rightExponent)) := by
  apply mul_eq_nearest_of_le
  rcases leftForm.full_or_least with long | leftLeast
  · exact add_le_lastPlace_mul _ _ long rightPositive
  · rcases rightForm.full_or_least with long | rightLeast
    · rw [add_comm, mul_comm]
      exact add_le_lastPlace_mul _ _ long leftPositive
    · have least : -1074 ≤ lastPlace (left * 2 ^ leftExponent * (right * 2 ^ rightExponent)) :=
        le_max_right _ _
      omega

/-- The quotient of two forms is not cut off before its last place. -/
private theorem targetExponent_le_lastPlace {left right : Nat} {leftExponent rightExponent : Int}
    (leftPositive : 0 < left) (rightPositive : 0 < right) :
    Format.binary64.targetExponent
        (totalExponent left leftExponent - totalExponent right rightExponent) ≤
      lastPlace (left * 2 ^ leftExponent / (right * 2 ^ rightExponent)) := by
  have leftCast : (0 : ℚ) < left := by exact_mod_cast leftPositive
  have rightCast : (0 : ℚ) < right := by exact_mod_cast rightPositive
  have log : (left.log2 + leftExponent) - (right.log2 + 1 + rightExponent) ≤
      Int.log 2 ((left : ℚ) * 2 ^ leftExponent / (right * 2 ^ rightExponent)) := by
    rw [← Int.zpow_le_iff_le_log one_lt_two (by positivity), Nat.cast_ofNat, zpow_sub₀ two_ne_zero]
    exact div_le_div₀ (by positivity) (zpow_log2_le leftPositive _) (by positivity)
      (lt_zpow_log2 _ _).le
  rw [targetExponent_eq]
  unfold totalExponent lastPlace
  omega

/-- A quotient of finite numbers is rounded to the nearest double. -/
theorem div_eq_nearest {left right : Nat} {leftExponent rightExponent : Int}
    {leftPositive : 0 < left} {rightPositive : 0 < right} :
    UnpackedFloat.div .binary64 (.finite .positive left leftExponent leftPositive)
        (.finite .positive right rightExponent rightPositive) =
      nearest .positive (left * 2 ^ leftExponent / (right * 2 ^ rightExponent)) := by
  have leftCast : (0 : ℚ) < left := by exact_mod_cast leftPositive
  have rightCast : (0 : ℚ) < right := by exact_mod_cast rightPositive
  refine roundWithAccuracy_eq_nearest (by positivity) ?_
    ((min_le_right _ _).trans (targetExponent_le_lastPlace leftPositive rightPositive))
  -- The dividend is lengthened to `long` before the division of whole numbers.
  generalize place_eq : min (leftExponent - rightExponent) (Format.binary64.targetExponent
    (totalExponent left leftExponent - totalExponent right rightExponent)) = place
  have coarse : place ≤ leftExponent - rightExponent := place_eq ▸ min_le_left _ _
  generalize long_eq : left <<< (leftExponent - rightExponent - place).toNat = long
  have long_cast : (long : ℚ) = left * 2 ^ (leftExponent - rightExponent - place) := by
    obtain ⟨shift, shift_eq⟩ := Int.eq_ofNat_of_zero_le (sub_nonneg.mpr coarse)
    rw [← long_eq, shift_eq, Int.toNat_natCast, Nat.shiftLeft_eq, zpow_natCast]
    push_cast
    rfl
  have quotient : (left : ℚ) * 2 ^ leftExponent / (right * 2 ^ rightExponent) / 2 ^ place =
      long / right := by
    rw [long_cast, zpow_sub₀ two_ne_zero, zpow_sub₀ two_ne_zero]
    field_simp
  have divided : (long : ℚ) = right * (long / right : Nat) + (long % right : Nat) := by
    exact_mod_cast (Nat.div_add_mod long right).symm
  have rest : (long : ℚ) / right - (long / right : Nat) = (long % right : Nat) / right := by
    rw [eq_div_iff rightCast.ne', sub_mul, div_mul_cancel₀ _ rightCast.ne']
    linarith
  rw [quotient, rest]
  exact leaves_accuracyOfFraction (Nat.mod_lt _ rightPositive)

/-- A natural number of at most 53 bits, shifted to the full length of a mantissa. -/
private theorem isForm_shifted {number : Nat} (positive : 0 < number) (fits : number < 2 ^ 53) :
    2 ^ 52 ≤ number <<< (52 - number.log2) ∧
      IsForm (number <<< (52 - number.log2)) (number.log2 - 52) ∧
      ((number <<< (52 - number.log2) : Nat) : ℚ) * 2 ^ ((number.log2 : Int) - 52) = number := by
  have short : number.log2 ≤ 52 := Nat.lt_succ_iff.mp ((Nat.log2_lt positive.ne').mpr fits)
  have long : 2 ^ 52 ≤ number <<< (52 - number.log2) := by
    rw [Nat.shiftLeft_eq]
    calc
      2 ^ 52 = 2 ^ number.log2 * 2 ^ (52 - number.log2) := by
        rw [← pow_add, Nat.add_sub_cancel' short]
      _ ≤ number * 2 ^ (52 - number.log2) :=
        Nat.mul_le_mul_right _ (Nat.log2_self_le positive.ne')
  have fits : number <<< (52 - number.log2) < 2 ^ 53 := by
    rw [Nat.shiftLeft_eq]
    calc
      number * 2 ^ (52 - number.log2) < 2 ^ (number.log2 + 1) * 2 ^ (52 - number.log2) :=
        Nat.mul_lt_mul_of_pos_right Nat.lt_log2_self (by positivity)
      _ = 2 ^ 53 := by
        rw [← pow_add]
        congr 1
        omega
  refine ⟨long, ⟨fits, by omega, .inl long⟩, ?_⟩
  have exponent : (number.log2 : Int) - 52 = -((52 - number.log2 : Nat) : Int) := by omega
  rw [Nat.shiftLeft_eq, exponent, zpow_neg, zpow_natCast]
  push_cast
  exact mul_inv_cancel_right₀ (by positivity) _

/-- A natural number of at most 53 bits is a double. -/
theorem unpack_toFloat {number : Nat} (positive : 0 < number) (fits : number < 2 ^ 53) :
    ∃ mantissa exponent, ∃ some : 0 < mantissa,
      number.toUInt64.toFloat.toModel.unpack = .finite .positive mantissa exponent some ∧
        2 ^ 52 ≤ mantissa ∧ (mantissa : ℚ) * 2 ^ exponent = number := by
  obtain ⟨long, form, value⟩ := isForm_shifted positive fits
  have short : number.log2 ≤ 52 := Nat.lt_succ_iff.mp ((Nat.log2_lt positive.ne').mpr fits)
  have some : 0 < number <<< (52 - number.log2) := Nat.lt_of_lt_of_le (by norm_num) long
  refine ⟨_, _, some, ?_, long, value⟩
  have word : number.toUInt64.toNat = number := by
    exact Nat.mod_eq_of_lt (by omega)
  change (Float.Model.pack (UnpackedFloat.normalize .binary64 (number.toUInt64.toNat : Int) 0
    .positive)).unpack = _
  rw [word]
  have rounded : UnpackedFloat.normalize .binary64 number 0 .positive =
      .finite .positive (number <<< (52 - number.log2)) (number.log2 - 52) some := by
    have above : compare (number : Int) 0 = .gt :=
      compare_gt_iff_gt.mpr (by exact_mod_cast positive)
    unfold UnpackedFloat.normalize
    simp only [above, Int.toNat_natCast]
    rw [round_eq_nearest positive, zpow_zero, mul_one, ← value]
    exact nearest_eq_self form some
  rw [rounded]
  exact unpack_pack form (by omega)

/-- Whether an unpacked double is a power of ten, checked without fractions. -/
private def isPowerOfTen (power : Nat) : UnpackedFloat → Bool
  | .finite .positive mantissa exponent _ =>
      -52 ≤ exponent && mantissa * 2 ^ (exponent + 52).toNat == 10 ^ power * 2 ^ 52
  | _ => false

private theorem isPowerOfTen_table : ∀ power : Fin 23,
    isPowerOfTen power Float.exactlyRepresentablePowersOfTen[power].toModel.unpack = true := by
  decide

/-- The table of powers of ten is exact. -/
theorem unpack_powerOfTen {power : Nat}
    (inTable : power < Float.exactlyRepresentablePowersOfTen.size) :
    ∃ mantissa exponent, ∃ some : 0 < mantissa,
      Float.exactlyRepresentablePowersOfTen[power].toModel.unpack =
          .finite .positive mantissa exponent some ∧
        (mantissa : ℚ) * 2 ^ exponent = 10 ^ power := by
  have checked := isPowerOfTen_table ⟨power, inTable⟩
  change isPowerOfTen power Float.exactlyRepresentablePowersOfTen[power].toModel.unpack = true
    at checked
  generalize Float.exactlyRepresentablePowersOfTen[power].toModel.unpack = unpacked at checked ⊢
  cases unpacked with
  | notANumber => nomatch checked
  | infinity => nomatch checked
  | zero => nomatch checked
  | finite sign mantissa exponent some =>
      cases sign with
      | negative => nomatch checked
      | positive =>
          refine ⟨mantissa, exponent, some, rfl, ?_⟩
          unfold isPowerOfTen at checked
          rw [Bool.and_eq_true, decide_eq_true_eq, beq_iff_eq] at checked
          obtain ⟨low, same⟩ := checked
          obtain ⟨shift, shift_eq⟩ := Int.eq_ofNat_of_zero_le (show 0 ≤ exponent + 52 by omega)
          rw [shift_eq, Int.toNat_natCast] at same
          have cast : (mantissa : ℚ) * 2 ^ shift = 10 ^ power * 2 ^ 52 := by exact_mod_cast same
          rw [show exponent = shift - 52 by omega, zpow_sub₀ two_ne_zero, zpow_natCast,
            ← mul_div_assoc, cast]
          exact mul_div_cancel_right₀ _ (by positivity)

def ofRat (number : ℚ) : Float := .ofModel (.pack (nearest .positive number))

theorem ofRat_of_unpack {value : Float} {mantissa : Nat} {exponent : Int} {some : 0 < mantissa}
    (unpacked : value.toModel.unpack = .finite .positive mantissa exponent some) :
    ofRat (mantissa * 2 ^ exponent) = value := by
  unfold ofRat
  rw [nearest_eq_self (isForm_of_unpack unpacked).1 some, ← unpacked, ofModel_pack_unpack]

private theorem toFloat_mul_powerOfTen {coefficient power : Nat} (positive : 0 < coefficient)
    (fits : coefficient < 2 ^ 53)
    (inTable : power < Float.exactlyRepresentablePowersOfTen.size) :
    coefficient.toUInt64.toFloat * Float.exactlyRepresentablePowersOfTen[power] =
      ofRat (coefficient * 10 ^ power) := by
  obtain ⟨left, leftExponent, leftPositive, leftUnpacked, long, leftValue⟩ :=
    unpack_toFloat positive fits
  obtain ⟨right, rightExponent, rightPositive, rightUnpacked, rightValue⟩ :=
    unpack_powerOfTen inTable
  change Float.ofModel (.pack (.mul .binary64 _ _)) = _
  rw [leftUnpacked, rightUnpacked, mul_eq_nearest long, leftValue, rightValue]
  rfl

private theorem toFloat_div_powerOfTen {coefficient power : Nat} (positive : 0 < coefficient)
    (fits : coefficient < 2 ^ 53)
    (inTable : power < Float.exactlyRepresentablePowersOfTen.size) :
    coefficient.toUInt64.toFloat / Float.exactlyRepresentablePowersOfTen[power] =
      ofRat (coefficient / 10 ^ power) := by
  obtain ⟨left, leftExponent, leftPositive, leftUnpacked, _, leftValue⟩ :=
    unpack_toFloat positive fits
  obtain ⟨right, rightExponent, rightPositive, rightUnpacked, rightValue⟩ :=
    unpack_powerOfTen inTable
  change Float.ofModel (.pack (.div .binary64 _ _)) = _
  rw [leftUnpacked, rightUnpacked, div_eq_nearest, leftValue, rightValue]
  rfl

section

variable {coefficient power : Nat}

private theorem ofRat_natCast (positive : 0 < coefficient) (fits : coefficient < 2 ^ 53) :
    ofRat coefficient = coefficient.toUInt64.toFloat := by
  obtain ⟨mantissa, exponent, some, unpacked, _, value⟩ := unpack_toFloat positive fits
  rw [← value, ofRat_of_unpack unpacked]

private theorem ofRat_powerOfTen (inTable : power < Float.exactlyRepresentablePowersOfTen.size) :
    ofRat (10 ^ power) = Float.exactlyRepresentablePowersOfTen[power] := by
  obtain ⟨mantissa, exponent, some, unpacked, value⟩ := unpack_powerOfTen inTable
  rw [← value, ofRat_of_unpack unpacked]

/-- Of exact numbers only the product is rounded. -/
theorem ofRat_mul_powerOfTen (positive : 0 < coefficient) (fits : coefficient < 2 ^ 53)
    (near : power ≤ 22) :
    ofRat coefficient * ofRat (10 ^ power) = ofRat (coefficient * 10 ^ power) := by
  have inTable : power < Float.exactlyRepresentablePowersOfTen.size :=
    Nat.lt_of_le_of_lt near (by decide)
  rw [ofRat_natCast positive fits, ofRat_powerOfTen inTable,
    toFloat_mul_powerOfTen positive fits inTable]

/-- Of exact numbers only the quotient is rounded. -/
theorem ofRat_div_powerOfTen (positive : 0 < coefficient) (fits : coefficient < 2 ^ 53)
    (near : power ≤ 22) :
    ofRat coefficient / ofRat (10 ^ power) = ofRat (coefficient / 10 ^ power) := by
  have inTable : power < Float.exactlyRepresentablePowersOfTen.size :=
    Nat.lt_of_le_of_lt near (by decide)
  rw [ofRat_natCast positive fits, ofRat_powerOfTen inTable,
    toFloat_div_powerOfTen positive fits inTable]

end

private theorem model_ofScientific_eq {coefficient : Nat} {power : Int}
    (positive : 0 < coefficient) (notHuge : power ≤ 2 ^ 11)
    (notTiny : -(2 ^ 11 + (coefficient.log2 : Int)) ≤ power) :
    Float.ofModel (Float.Model.ofScientific coefficient power) =
      ofRat (coefficient * 10 ^ power) := by
  unfold Float.Model.ofScientific UnpackedFloat.ofScientific ofRat
  congr 2
  rw [dif_neg positive.ne', if_neg (show ¬ power > 2 ^ 11 by omega),
    if_neg (show ¬ power < -(2 ^ 11 + (coefficient.log2 : Int)) by omega)]
  by_cases whole : 0 ≤ power
  · obtain ⟨size, rfl⟩ := Int.eq_ofNat_of_zero_le whole
    have long : 2 ^ 52 ≤ coefficient <<< Format.binary64.mantissaBits := by
      rw [Nat.shiftLeft_eq]
      exact Nat.le_mul_of_pos_left (2 ^ 53) positive |>.trans' (by norm_num)
    rw [if_pos whole, mul_eq_nearest long, Nat.shiftLeft_eq]
    congr 1
    push_cast
    rw [zpow_neg, zpow_natCast, mul_inv_cancel_right₀ (by positivity), mul_one,
      Int.toNat_natCast, zpow_natCast]
  · rw [if_neg whole, div_eq_nearest]
    congr 1
    obtain ⟨size, rfl⟩ := Int.exists_eq_neg_ofNat (Int.not_le.mp whole).le
    rw [neg_neg, Int.toNat_natCast, zpow_neg, zpow_natCast]
    push_cast
    rw [mul_one, mul_one, div_eq_mul_inv]

/-- A decimal without extreme powers of ten is read as the nearest double. -/
theorem ofScientific_eq {coefficient size : Nat} {below : Bool} (positive : 0 < coefficient)
    (notHuge : below = false → size ≤ 2 ^ 11)
    (notTiny : below = true → size ≤ 2 ^ 11 + coefficient.log2) :
    Float.ofScientific coefficient below size =
      ofRat (coefficient * 10 ^ (if below then -size else size : Int)) := by
  unfold Float.ofScientific
  by_cases small : coefficient < 2 ^ 53 ∧ size ≤ 22
  · have inTable : size < Float.exactlyRepresentablePowersOfTen.size :=
      Nat.lt_of_le_of_lt small.2 (by decide)
    rw [dif_pos small]
    cases below with
    | true =>
        simp only [if_true]
        rw [toFloat_div_powerOfTen positive small.1 inTable, zpow_neg, zpow_natCast,
          div_eq_mul_inv]
    | false =>
        simp only [Bool.false_eq_true, if_false]
        rw [toFloat_mul_powerOfTen positive small.1 inTable, zpow_natCast]
  · rw [dif_neg small]
    cases below with
    | true =>
        have bound := notTiny rfl
        simp only [if_true]
        rw [Int.negOfNat_eq, Int.ofNat_eq_natCast]
        refine model_ofScientific_eq positive ?_ ?_ <;> omega
    | false =>
        have bound := notHuge rfl
        simp only [Bool.false_eq_true, if_false, Int.ofNat_eq_natCast]
        refine model_ofScientific_eq positive ?_ ?_ <;> omega

end VariablePay.Double
