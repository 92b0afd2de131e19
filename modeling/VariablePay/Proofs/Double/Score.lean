import VariablePay.Proofs.Double.Order
import VariablePay.Proofs.Double.Share

set_option autoImplicit false

/-!
# Doubles from zero to one

Rounding keeps the order of sizes, and one is a double. So products and complements of doubles from
zero to one stay in that range, and so does the share of a part in a whole of at most 64 bits.
-/

open Float.Model

namespace VariablePay

/-- A number from zero to one. -/
structure IsScore (value : Float) : Prop where
  nonneg : 0.0 ≤ value
  le_one : value ≤ 1.0

namespace Double

/-!
## Sums and differences
-/

/-- The form of the double nearest to a number of any sign. -/
def rounded (number : ℚ) : UnpackedFloat :=
  if number = 0 then .zero .positive
  else if 0 < number then nearest .positive number
  else nearest .negative (-number)

private theorem normalize_eq_rounded (mantissa exponent : Int) :
    UnpackedFloat.normalize .binary64 mantissa exponent .positive =
      rounded (mantissa * 2 ^ exponent) := by
  have unit : (0 : ℚ) < 2 ^ exponent := by positivity
  unfold UnpackedFloat.normalize rounded
  rcases lt_trichotomy mantissa 0 with below | rfl | above
  · obtain ⟨size, rfl⟩ := Int.exists_eq_neg_ofNat below.le
    have positive : 0 < size := by omega
    have cast : (0 : ℚ) < size := by exact_mod_cast positive
    have negative : ((-(size : Int) : Int) : ℚ) * 2 ^ exponent < 0 := by
      push_cast
      linarith [mul_pos cast unit]
    rw [compare_lt_iff_lt.mpr below, if_neg negative.ne, if_neg negative.le.not_gt]
    simp only [neg_neg, Int.toNat_natCast]
    rw [round_eq_nearest positive]
    push_cast
    rw [neg_mul, neg_neg]
  · rw [if_pos (by simp)]
    rfl
  · obtain ⟨size, rfl⟩ := Int.eq_ofNat_of_zero_le above.le
    have positive : 0 < size := by omega
    have cast : (0 : ℚ) < size := by exact_mod_cast positive
    have above : (0 : ℚ) < ((size : Int) : ℚ) * 2 ^ exponent := by
      push_cast
      exact mul_pos cast unit
    rw [compare_gt_iff_gt.mpr (by omega), if_neg above.ne', if_pos above]
    simp only [Int.toNat_natCast]
    rw [round_eq_nearest positive]
    push_cast
    rfl

private theorem lengthened {mantissa : Nat} {exponent least : Int} (below : least ≤ exponent) :
    ((mantissa <<< (exponent - least).toNat : Nat) : ℚ) * 2 ^ least = mantissa * 2 ^ exponent := by
  obtain ⟨shift, shift_eq⟩ := Int.eq_ofNat_of_zero_le (sub_nonneg.mpr below)
  rw [shift_eq, Int.toNat_natCast, Nat.shiftLeft_eq, show exponent = shift + least by omega,
    zpow_add₀ two_ne_zero, zpow_natCast]
  push_cast
  ring

variable {left right : Nat} {leftExponent rightExponent : Int} {leftPositive : 0 < left}
  {rightPositive : 0 < right}

/-- A sum of finite numbers is rounded to the nearest double. -/
theorem add_eq_rounded :
    UnpackedFloat.add .binary64 (.finite .positive left leftExponent leftPositive)
        (.finite .positive right rightExponent rightPositive) =
      rounded (left * 2 ^ leftExponent + right * 2 ^ rightExponent) := by
  refine (normalize_eq_rounded _ _).trans (congrArg rounded ?_)
  simp only [UnpackedFloat.Sign.apply]
  rw [Int.cast_add, Int.cast_natCast, Int.cast_natCast, add_mul,
    lengthened (min_le_left _ _), lengthened (min_le_right _ _)]

/-- A difference of finite numbers is rounded to the nearest double. -/
theorem sub_eq_rounded :
    UnpackedFloat.sub .binary64 (.finite .positive left leftExponent leftPositive)
        (.finite .positive right rightExponent rightPositive) =
      rounded (left * 2 ^ leftExponent - right * 2 ^ rightExponent) := by
  refine (normalize_eq_rounded _ _).trans (congrArg rounded ?_)
  simp only [UnpackedFloat.Sign.apply]
  rw [Int.cast_sub, Int.cast_natCast, Int.cast_natCast, sub_mul,
    lengthened (min_le_left _ _), lengthened (min_le_right _ _)]

/-!
## The forms of scores
-/

private theorem unpack_one :
    (1.0 : Float).toModel.unpack = .finite .positive (2 ^ 52) (-52) (by norm_num) := rfl

/-- A form is at most one just if its place is at most that of one. -/
private theorem place_le_one_iff {mantissa : Nat} {exponent : Int} (form : IsForm mantissa exponent)
    (positive : 0 < mantissa) :
    toLex (exponent, (mantissa : Int)) ≤ toLex (-52, ((2 ^ 52 : Nat) : Int)) ↔
      (mantissa : ℚ) * 2 ^ exponent ≤ 1 := by
  have unit : (0 : ℚ) < 2 ^ exponent := by positivity
  have cast : (0 : ℚ) < mantissa := by exact_mod_cast positive
  rw [Prod.Lex.toLex_le_toLex]
  dsimp only
  rcases lt_trichotomy exponent (-52) with less | rfl | greater
  · refine iff_of_true (.inl less) ?_
    calc
      (mantissa : ℚ) * 2 ^ exponent ≤ 2 ^ 53 * 2 ^ (-53 : Int) := by
        gcongr
        · exact_mod_cast form.fits.le
        · norm_num
        · omega
      _ = 1 := by norm_num
  · have scaled : (mantissa : ℚ) * 2 ^ (-52 : Int) ≤ 1 ↔ (mantissa : ℚ) ≤ (2 ^ 52 : Nat) := by
      rw [← value_one]
      exact mul_le_mul_iff_left₀ unit
    rw [scaled]
    norm_num
  · have long : 2 ^ 52 ≤ mantissa := form.full_or_least.resolve_right (by omega)
    refine iff_of_false (by omega) (not_le.mpr ?_)
    calc
      (1 : ℚ) < 2 ^ 52 * 2 ^ (-51 : Int) := by norm_num
      _ ≤ mantissa * 2 ^ exponent := by
        gcongr
        · exact_mod_cast long
        · norm_num
        · omega

private theorem isScore_zero (sign : UnpackedFloat.Sign) :
    IsScore (.ofModel (.pack (.zero sign))) := by
  cases sign <;> constructor <;> decide

theorem isScore_one : IsScore 1.0 := by constructor <;> decide

private theorem isScore_of_unpack {value : Float} {mantissa : Nat} {exponent : Int}
    {positive : 0 < mantissa}
    (unpacked : value.toModel.unpack = .finite .positive mantissa exponent positive)
    (small : (mantissa : ℚ) * 2 ^ exponent ≤ 1) : IsScore value := by
  have number : value.isNaN = false := by
    change value.toModel.unpack.isNaN = false
    rw [unpacked]
    rfl
  have form := (isForm_of_unpack unpacked).1
  constructor
  · refine (le_iff _ _).mpr ⟨rfl, number, ?_⟩
    unfold place
    rw [unpacked]
    exact (Prod.Lex.toLex_le_toLex.mpr (.inl Int.zero_lt_one))
  · refine (le_iff _ _).mpr ⟨number, rfl, ?_⟩
    unfold place
    rw [unpacked, unpack_one]
    exact Prod.Lex.toLex_le_toLex.mpr (.inr ⟨rfl, (place_le_one_iff form positive).mpr small⟩)

/-- The scores are the zeros and the positive numbers up to one. -/
theorem unpack_of_isScore {value : Float} (score : IsScore value) :
    (∃ sign, value.toModel.unpack = .zero sign) ∨
      ∃ mantissa exponent, ∃ positive : 0 < mantissa,
        value.toModel.unpack = .finite .positive mantissa exponent positive ∧
          IsForm mantissa exponent ∧ (mantissa : ℚ) * 2 ^ exponent ≤ 1 := by
  obtain ⟨_, number, low⟩ := (le_iff _ _).mp score.nonneg
  obtain ⟨_, _, high⟩ := (le_iff _ _).mp score.le_one
  change value.toModel.unpack.isNaN = false at number
  unfold place at low high
  rw [unpack_one] at high
  have zero : (0.0 : Float).toModel.unpack = .zero .positive := rfl
  rw [zero] at low
  cases unpacked : value.toModel.unpack with
  | notANumber =>
      rw [unpacked] at number
      cases number
  | infinity sign =>
      rw [unpacked] at low high
      cases sign
      · exact absurd low (by decide)
      · exact absurd high (by decide)
  | zero sign => exact .inl ⟨sign, rfl⟩
  | finite sign mantissa exponent positive =>
      have form := (isForm_of_unpack unpacked).1
      rw [unpacked] at low high
      cases sign with
      | negative =>
          rcases Prod.Lex.toLex_le_toLex.mp low with less | ⟨same, _⟩
          · exact absurd less (show ¬ (0 : Int) < -1 by decide)
          · cases same
      | positive =>
          rcases Prod.Lex.toLex_le_toLex.mp high with less | ⟨_, rest⟩
          · exact absurd less (lt_irrefl (1 : Int))
          · exact .inr ⟨mantissa, exponent, positive, rfl, form,
              (place_le_one_iff form positive).mp rest⟩

theorem isFinite_of_isScore {value : Float} (score : IsScore value) : value.isFinite = true := by
  change value.toModel.unpack.isFinite = true
  obtain ⟨sign, zero⟩ | ⟨_, _, _, finite, _⟩ := unpack_of_isScore score
  · rw [zero]
    rfl
  · rw [finite]
    rfl

/-- Numbers up to one are rounded to scores. -/
theorem isScore_ofRat {number : ℚ} (positive : 0 < number) (small : number ≤ 1) :
    IsScore (ofRat number) := by
  have size : magnitude (nearest .positive number) ≤ 1 :=
    (magnitude_nearest_mono .positive positive small).trans_eq (magnitude_nearest_one .positive)
  have unpacked : (ofRat number).toModel.unpack = nearest .positive number :=
    unpack_pack_nearest .positive positive (le_greatest (small.trans_lt (by norm_num)))
  obtain ⟨zero, _⟩ | ⟨mantissa, exponent, some, _, _, _, same⟩ := nearest_cases .positive positive
  · unfold ofRat
    rw [zero]
    exact isScore_zero .positive
  · rw [same] at size unpacked
    exact isScore_of_unpack unpacked size

private theorem pack_nearest_negative_le {number : ℚ} (positive : 0 < number)
    (small : number < 2 ^ (200 : Int)) :
    Float.ofModel (.pack (nearest .negative number)) ≤ 0.0 := by
  have unpacked := unpack_pack_nearest .negative positive (le_greatest small)
  have zero : (0.0 : Float).toModel.unpack = .zero .positive := rfl
  refine (le_iff _ _).mpr ?_
  change (Float.Model.pack _).unpack.isNaN = false ∧ _ ∧ placeOf (Float.Model.pack _).unpack ≤ _
  rw [unpacked, place, zero]
  obtain ⟨same, _⟩ | ⟨_, _, _, _, _, _, same⟩ := nearest_cases .negative positive
  · rw [same]
    exact ⟨rfl, rfl, le_rfl⟩
  · rw [same]
    exact ⟨rfl, rfl, Prod.Lex.toLex_le_toLex.mpr (.inl (show (-1 : Int) < 0 by decide))⟩

end Double

open Double

namespace IsScore

variable {left right value : Float}

theorem isNaN (score : IsScore value) : value.isNaN = false :=
  isNaN_of_isFinite (isFinite_of_isScore score)

theorem mul (leftScore : IsScore left) (rightScore : IsScore right) : IsScore (left * right) := by
  change IsScore (.ofModel (.pack (.mul .binary64 left.toModel.unpack right.toModel.unpack)))
  obtain ⟨leftSign, leftZero⟩ | ⟨m, e, mPositive, leftFinite, leftForm, leftSmall⟩ :=
      unpack_of_isScore leftScore <;>
    obtain ⟨rightSign, rightZero⟩ | ⟨n, f, nPositive, rightFinite, rightForm, rightSmall⟩ :=
      unpack_of_isScore rightScore
  · rw [leftZero, rightZero]
    exact isScore_zero _
  · rw [leftZero, rightFinite]
    exact isScore_zero _
  · rw [leftFinite, rightZero]
    exact isScore_zero _
  · rw [leftFinite, rightFinite, mul_eq_nearest_of_isForm leftForm rightForm]
    have mCast : (0 : ℚ) < m := by exact_mod_cast mPositive
    have nCast : (0 : ℚ) < n := by exact_mod_cast nPositive
    exact isScore_ofRat (by positivity) (mul_le_one₀ leftSmall (by positivity) rightSmall)

/-- What a score leaves of one. -/
theorem one_sub (score : IsScore value) : IsScore (1.0 - value) := by
  change IsScore (.ofModel (.pack (.sub .binary64 (1.0 : Float).toModel.unpack
    value.toModel.unpack)))
  obtain ⟨sign, zero⟩ | ⟨m, e, positive, finite, _, small⟩ := unpack_of_isScore score
  · have whole : UnpackedFloat.sub .binary64 (1.0 : Float).toModel.unpack (.zero sign) =
        (1.0 : Float).toModel.unpack := rfl
    rw [zero, whole, ofModel_pack_unpack]
    exact isScore_one
  · have cast : (0 : ℚ) < m := by exact_mod_cast positive
    have above : (0 : ℚ) < m * 2 ^ e := by positivity
    rw [unpack_one, finite, sub_eq_rounded, value_one, rounded]
    split_ifs with none rest
    · exact isScore_zero .positive
    · exact isScore_ofRat rest (by linarith)
    · exact absurd (lt_of_le_of_ne (by linarith) (Ne.symm none)) rest

/-- No score exceeds one. -/
theorem sub_one_le (score : IsScore value) : value - 1.0 ≤ 0.0 := by
  change Float.ofModel (.pack (.sub .binary64 value.toModel.unpack
    (1.0 : Float).toModel.unpack)) ≤ 0.0
  obtain ⟨sign, zero⟩ | ⟨m, e, positive, finite, _, small⟩ := unpack_of_isScore score
  · rw [zero]
    cases sign <;> decide
  · have cast : (0 : ℚ) < m := by exact_mod_cast positive
    have above : (0 : ℚ) < m * 2 ^ e := by positivity
    rw [unpack_one, finite, sub_eq_rounded, value_one, rounded]
    split_ifs with none rest
    · decide
    · linarith
    · have below : (0 : ℚ) < -(m * 2 ^ e - 1) :=
        neg_pos.mpr (lt_of_le_of_ne (not_lt.mp rest) none)
      exact pack_nearest_negative_le below
        (lt_of_le_of_lt (show -((m : ℚ) * 2 ^ e - 1) ≤ 1 by linarith) (by norm_num))

/-- The sum of two scores is finite. -/
theorem isFinite_add (leftScore : IsScore left) (rightScore : IsScore right) :
    (left + right).isFinite = true := by
  change (Float.ofModel (.pack (.add .binary64 left.toModel.unpack right.toModel.unpack))).isFinite
    = true
  obtain ⟨leftSign, leftZero⟩ | ⟨m, e, mPositive, leftFinite, _, leftSmall⟩ :=
      unpack_of_isScore leftScore <;>
    obtain ⟨rightSign, rightZero⟩ | ⟨n, f, nPositive, rightFinite, _, rightSmall⟩ :=
      unpack_of_isScore rightScore
  · rw [leftZero, rightZero]
    cases leftSign <;> cases rightSign <;> decide
  · have other : UnpackedFloat.add .binary64 left.toModel.unpack right.toModel.unpack =
        right.toModel.unpack := by
      rw [leftZero, rightFinite]
      rfl
    rw [other, ofModel_pack_unpack]
    exact isFinite_of_isScore rightScore
  · have other : UnpackedFloat.add .binary64 left.toModel.unpack right.toModel.unpack =
        left.toModel.unpack := by
      rw [leftFinite, rightZero]
      rfl
    rw [other, ofModel_pack_unpack]
    exact isFinite_of_isScore leftScore
  · have mCast : (0 : ℚ) < m := by exact_mod_cast mPositive
    have nCast : (0 : ℚ) < n := by exact_mod_cast nPositive
    have above : (0 : ℚ) < m * 2 ^ e + n * 2 ^ f := by positivity
    rw [leftFinite, rightFinite, add_eq_rounded, rounded, if_neg above.ne', if_pos above]
    exact isFinite_pack_nearest above
      (le_greatest (lt_of_le_of_lt (add_le_add leftSmall rightSmall) (by norm_num)))

end IsScore

/-!
## Shares
-/

variable {part whole : Nat}

/-- The share of a part in a whole is zero or the double nearest to a number up to one. -/
theorem share_cases (positive : 0 < whole) (inside : part ≤ whole) (fits : whole < 2 ^ 64) :
    Float.ofNat part / Float.ofNat whole = 0.0 ∨ ∃ number : ℚ, 0 < number ∧ number ≤ 1 ∧
      Float.ofNat part / Float.ofNat whole = ofRat number := by
  obtain ⟨n, f, nPositive, _, _, _, wholeUnpacked⟩ := unpack_ofNat positive fits
  have wholeSize : (n : ℚ) * 2 ^ f = magnitude (nearest .positive whole) := by
    rw [← unpack_ofNat_eq_nearest positive fits, wholeUnpacked]
    rfl
  have quotient : Float.ofNat part / Float.ofNat whole =
      .ofModel (.pack (.div .binary64 (Float.ofNat part).toModel.unpack
        (Float.ofNat whole).toModel.unpack)) := rfl
  rw [quotient]
  rcases Nat.eq_zero_or_pos part with rfl | partPositive
  · have zero : (Float.ofNat 0).toModel.unpack = .zero .positive := rfl
    rw [zero, wholeUnpacked]
    exact .inl rfl
  · have partFits := Nat.lt_of_le_of_lt inside fits
    obtain ⟨m, e, mPositive, _, _, _, partUnpacked⟩ := unpack_ofNat partPositive partFits
    have partSize : (m : ℚ) * 2 ^ e = magnitude (nearest .positive part) := by
      rw [← unpack_ofNat_eq_nearest partPositive partFits, partUnpacked]
      rfl
    have mCast : (0 : ℚ) < m := by exact_mod_cast mPositive
    have nCast : (0 : ℚ) < n := by exact_mod_cast nPositive
    have ordered : (m : ℚ) * 2 ^ e ≤ n * 2 ^ f := by
      rw [partSize, wholeSize]
      exact magnitude_nearest_mono _ (by exact_mod_cast partPositive) (by exact_mod_cast inside)
    rw [partUnpacked, wholeUnpacked, div_eq_nearest]
    exact .inr ⟨_, by positivity, div_le_one_of_le₀ ordered (by positivity), rfl⟩

/-- The share of a part in a whole is a score. -/
theorem isScore_share (positive : 0 < whole) (inside : part ≤ whole) (fits : whole < 2 ^ 64) :
    IsScore (Float.ofNat part / Float.ofNat whole) := by
  obtain zero | ⟨number, above, small, same⟩ := share_cases positive inside fits
  · rw [zero]
    exact isScore_zero .positive
  · rw [same]
    exact isScore_ofRat above small

/-- The share of all is one. -/
theorem share?_self (positive : 0 < whole) (fits : whole < 2 ^ 64) :
    share? whole whole = some 1.0 := by
  obtain ⟨n, f, nPositive, _, _, _, unpacked⟩ := unpack_ofNat positive fits
  have nCast : (0 : ℚ) < n := by exact_mod_cast nPositive
  rw [share?, if_pos positive]
  change some (Float.ofModel (.pack (.div .binary64 (Float.ofNat whole).toModel.unpack
    (Float.ofNat whole).toModel.unpack))) = _
  rw [unpacked, div_eq_nearest, div_self (by positivity), ← value_one,
    nearest_eq_self isForm_one (by norm_num), ← unpack_one, ofModel_pack_unpack]

/-- The share of nothing is zero. -/
theorem share?_zero (positive : 0 < whole) (fits : whole < 2 ^ 64) :
    share? 0 whole = some 0.0 := by
  obtain ⟨n, f, nPositive, _, _, _, unpacked⟩ := unpack_ofNat positive fits
  have zero : (Float.ofNat 0).toModel.unpack = .zero .positive := rfl
  rw [share?, if_pos positive]
  change some (Float.ofModel (.pack (.div .binary64 (Float.ofNat 0).toModel.unpack
    (Float.ofNat whole).toModel.unpack))) = _
  rw [zero, unpacked]
  rfl

end VariablePay
