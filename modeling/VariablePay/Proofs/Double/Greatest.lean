import VariablePay.Proofs.Double.Scientific

set_option autoImplicit false

/-!
# Numbers up to the greatest double

A number up to the greatest double has a finite nearest double. From one on, rounding adds no more
than a unit of roundoff, so that products stay finite which end a few places below the greatest
double, and dividing by a number from one on never leaves the range.
-/

open Float.Model

namespace VariablePay.Double

def greatest : ℚ := (2 ^ 53 - 1) * 2 ^ (971 : Int)

private theorem isForm_greatest : IsForm (2 ^ 53 - 1) 971 := by
  constructor <;> norm_num

private theorem magnitude_nearest_greatest (sign : UnpackedFloat.Sign) :
    magnitude (nearest sign greatest) = greatest := by
  have cast : greatest = ((2 ^ 53 - 1 : Nat) : ℚ) * 2 ^ (971 : Int) := by
    unfold greatest
    norm_num
  rw [cast, nearest_eq_self isForm_greatest (by norm_num)]
  rfl

private theorem exponent_le_of_le {mantissa : Nat} {exponent : Int}
    (form : IsForm mantissa exponent) (bounded : (mantissa : ℚ) * 2 ^ exponent ≤ greatest) :
    exponent ≤ 971 := by
  by_contra beyond
  have full : (2 : ℚ) ^ 52 ≤ mantissa := by
    exact_mod_cast form.full_or_least.resolve_right (by omega)
  have far : (2 : ℚ) ^ (972 : Int) ≤ 2 ^ exponent := zpow_le_zpow_right₀ one_le_two (by omega)
  have less : greatest < 2 ^ 52 * 2 ^ (972 : Int) := by
    rw [show (972 : Int) = 1 + 971 from rfl, zpow_add₀ two_ne_zero, ← mul_assoc]
    exact mul_lt_mul_of_pos_right (by norm_num) (by positivity)
  have large : (2 : ℚ) ^ 52 * 2 ^ (972 : Int) ≤ mantissa * 2 ^ exponent :=
    mul_le_mul full far (by positivity) (by positivity)
  exact absurd bounded (not_le.mpr (less.trans_le large))

/-- The nearest double of a number up to the greatest comes back out of its bits. -/
theorem unpack_pack_nearest (sign : UnpackedFloat.Sign) {number : ℚ} (positive : 0 < number)
    (bounded : number ≤ greatest) :
    (Float.Model.pack (nearest sign number)).unpack = nearest sign number := by
  have size := magnitude_nearest_mono sign positive bounded
  rw [magnitude_nearest_greatest] at size
  obtain ⟨zero, _⟩ | ⟨mantissa, exponent, some, form, _, _, same⟩ := nearest_cases sign positive
  · rw [zero]
    cases sign <;> rfl
  · rw [same] at size ⊢
    exact unpack_pack form (exponent_le_of_le form size)

theorem isFinite_pack_nearest {sign : UnpackedFloat.Sign} {number : ℚ} (positive : 0 < number)
    (bounded : number ≤ greatest) :
    (Float.Model.pack (nearest sign number)).unpack.isFinite = true := by
  rw [unpack_pack_nearest sign positive bounded]
  obtain ⟨zero, _⟩ | ⟨_, _, _, _, _, _, same⟩ := nearest_cases sign positive
  · rw [zero]
    rfl
  · rw [same]
    rfl

theorem le_greatest {number : ℚ} (small : number < 2 ^ (200 : Int)) : number ≤ greatest := by
  have unit : (2 : ℚ) ^ (200 : Int) ≤ 2 ^ (971 : Int) :=
    zpow_le_zpow_right₀ one_le_two (by norm_num)
  have far : (2 : ℚ) ^ (971 : Int) ≤ greatest :=
    le_mul_of_one_le_left (by positivity) (by norm_num)
  exact small.le.trans (unit.trans far)

theorem powerOfTen_le_greatest {power : Nat} (inTable : power ≤ 308) :
    (10 : ℚ) ^ power ≤ greatest := by
  have last : 10 ^ 308 ≤ (2 ^ 53 - 1) * 2 ^ 971 := by decide +kernel
  calc
    (10 : ℚ) ^ power ≤ 10 ^ 308 := pow_le_pow_right₀ (by norm_num) inTable
    _ ≤ ((2 ^ 53 - 1 : Nat) : ℚ) * 2 ^ 971 := by exact_mod_cast last
    _ = greatest := by
      unfold greatest
      norm_num

/-!
## What rounding adds
-/

/-- The share of a number from one on that rounding may add to it. -/
def roundoff : ℚ := 2 ^ (-53 : Int)

private theorem nearestWhole_le_add_half {number : ℚ} (positive : 0 < number) :
    nearestWhole number ≤ number + 1 / 2 := by
  have whole : (⌊number⌋₊ : ℚ) ≤ number := Nat.floor_le positive.le
  unfold nearestWhole
  dsimp only
  split_ifs with below half
  · linarith
  · have parity : ((⌊number⌋₊ % 2 : Nat) : ℚ) ≤ 1 := by
      exact_mod_cast Nat.lt_succ_iff.mp (Nat.mod_lt _ two_pos)
    push_cast
    linarith
  · have above : 1 / 2 ≤ number - ⌊number⌋₊ := not_lt.mp below
    push_cast
    linarith

theorem magnitude_nearest_le (sign : UnpackedFloat.Sign) {number : ℚ} (normal : 1 ≤ number) :
    magnitude (nearest sign number) ≤ number * (1 + roundoff) := by
  have positive : 0 < number := one_pos.trans_le normal
  have unit : (0 : ℚ) < 2 ^ lastPlace number := by positivity
  have log : 0 ≤ Int.log 2 number := by
    rw [← Int.zpow_le_iff_le_log one_lt_two positive, zpow_zero]
    exact normal
  -- In units of its last place the number has 53 bits, so that half a unit is the roundoff.
  have places : (2 : ℚ) ^ (52 : Int) * 2 ^ lastPlace number ≤ number := by
    rw [← zpow_add₀ two_ne_zero]
    refine (Int.zpow_le_iff_le_log one_lt_two positive).mpr ?_
    unfold lastPlace
    omega
  have half : 1 / 2 * 2 ^ lastPlace number ≤ number * roundoff := by
    calc
      1 / 2 * (2 : ℚ) ^ lastPlace number =
          2 ^ (52 : Int) * 2 ^ lastPlace number * roundoff := by
        unfold roundoff
        norm_num
        ring
      _ ≤ number * roundoff := mul_le_mul_of_nonneg_right places (by unfold roundoff; positivity)
  calc
    magnitude (nearest sign number) =
        nearestWhole (number / 2 ^ lastPlace number) * 2 ^ lastPlace number :=
      magnitude_nearest sign positive
    _ ≤ (number / 2 ^ lastPlace number + 1 / 2) * 2 ^ lastPlace number :=
      mul_le_mul_of_nonneg_right (nearestWhole_le_add_half (div_pos positive unit)) unit.le
    _ = number + 1 / 2 * 2 ^ lastPlace number := by
      rw [add_mul, div_mul_cancel₀ _ unit.ne']
    _ ≤ number * (1 + roundoff) := by
      rw [mul_add, mul_one]
      exact add_le_add_right half number

theorem value_one : ((2 ^ 52 : Nat) : ℚ) * 2 ^ (-52 : Int) = 1 := by norm_num

theorem isForm_one : IsForm (2 ^ 52) (-52) := ⟨by norm_num, by norm_num, .inl le_rfl⟩

theorem magnitude_nearest_one (sign : UnpackedFloat.Sign) : magnitude (nearest sign 1) = 1 := by
  rw [← value_one, nearest_eq_self isForm_one (by norm_num)]
  rfl

/-- The double nearest to a number from one on, and how far it may be above it. -/
theorem unpack_ofRat {number : ℚ} (normal : 1 ≤ number) (bounded : number ≤ greatest) :
    ∃ mantissa exponent, ∃ some : 0 < mantissa, IsForm mantissa exponent ∧
      (ofRat number).toModel.unpack = .finite .positive mantissa exponent some ∧
        1 ≤ (mantissa : ℚ) * 2 ^ exponent ∧
        (mantissa : ℚ) * 2 ^ exponent ≤ number * (1 + roundoff) := by
  have positive : 0 < number := one_pos.trans_le normal
  have unpacked : (ofRat number).toModel.unpack = nearest .positive number :=
    unpack_pack_nearest .positive positive bounded
  have least := magnitude_nearest_mono .positive one_pos normal
  have most := magnitude_nearest_le .positive normal
  rw [magnitude_nearest_one] at least
  obtain ⟨zero, _⟩ | ⟨mantissa, exponent, some, form, _, _, same⟩ :=
    nearest_cases .positive positive
  · rw [zero] at least
    exact absurd least (by norm_num [magnitude])
  · rw [same] at least most unpacked
    exact ⟨mantissa, exponent, some, form, unpacked, least, most⟩

/-!
## Products and quotients
-/

/-- A product that ends a few places below the greatest double is finite, though both factors and
the product are rounded. -/
theorem isFinite_mul_ofRat {left right : ℚ} (leftNormal : 1 ≤ left) (rightNormal : 1 ≤ right)
    (leftBounded : left ≤ greatest) (rightBounded : right ≤ greatest)
    (bounded : left * right ≤ (2 ^ 53 - 3) * 2 ^ (971 : Int)) :
    (ofRat left * ofRat right).isFinite = true := by
  obtain ⟨m, e, mPositive, mForm, leftUnpacked, leftLeast, leftMost⟩ :=
    unpack_ofRat leftNormal leftBounded
  obtain ⟨n, f, nPositive, nForm, rightUnpacked, rightLeast, rightMost⟩ :=
    unpack_ofRat rightNormal rightBounded
  change (Float.Model.pack (.mul .binary64 (ofRat left).toModel.unpack
    (ofRat right).toModel.unpack)).unpack.isFinite = true
  rw [leftUnpacked, rightUnpacked, mul_eq_nearest_of_isForm mForm nForm]
  have leftPositive : (0 : ℚ) < m * 2 ^ e := one_pos.trans_le leftLeast
  have rightPositive : (0 : ℚ) < n * 2 ^ f := one_pos.trans_le rightLeast
  refine isFinite_pack_nearest (mul_pos leftPositive rightPositive) ?_
  calc
    (m : ℚ) * 2 ^ e * (n * 2 ^ f) ≤ left * (1 + roundoff) * (right * (1 + roundoff)) :=
      mul_le_mul leftMost rightMost rightPositive.le (leftPositive.le.trans leftMost)
    _ = left * right * (1 + roundoff) ^ 2 := by ring
    _ ≤ (2 ^ 53 - 3) * 2 ^ (971 : Int) * (1 + roundoff) ^ 2 :=
      mul_le_mul_of_nonneg_right bounded (by positivity)
    _ = (2 ^ 53 - 3) * (1 + roundoff) ^ 2 * 2 ^ (971 : Int) := by ring
    _ ≤ greatest := by
      refine mul_le_mul_of_nonneg_right ?_ (by positivity)
      unfold roundoff
      norm_num

/-- Whether a double is a finite number without a sign. -/
def IsSize (value : Float) : Prop :=
  value.toModel.unpack = .zero .positive ∨
    ∃ mantissa exponent, ∃ some : 0 < mantissa,
      value.toModel.unpack = .finite .positive mantissa exponent some

theorem IsSize.isFinite {value : Float} (size : IsSize value) : value.isFinite = true := by
  change value.toModel.unpack.isFinite = true
  obtain zero | ⟨_, _, _, finite⟩ := size
  · rw [zero]
    rfl
  · rw [finite]
    rfl

theorem isSize_ofRat {number : ℚ} (positive : 0 < number) (bounded : number ≤ greatest) :
    IsSize (ofRat number) := by
  have unpacked : (ofRat number).toModel.unpack = nearest .positive number :=
    unpack_pack_nearest .positive positive bounded
  unfold IsSize
  rw [unpacked]
  obtain ⟨zero, _⟩ | ⟨_, _, some, _, _, _, same⟩ := nearest_cases .positive positive
  · exact .inl zero
  · exact .inr ⟨_, _, some, same⟩

theorem IsSize.div_ofRat {value : Float} (size : IsSize value) {divisor : ℚ}
    (normal : 1 ≤ divisor) (bounded : divisor ≤ greatest) : IsSize (value / ofRat divisor) := by
  obtain ⟨n, f, nPositive, _, divisorUnpacked, least, _⟩ := unpack_ofRat normal bounded
  have quotient : value / ofRat divisor = .ofModel (.pack (.div .binary64 value.toModel.unpack
      (.finite .positive n f nPositive))) := by
    rw [← divisorUnpacked]
    rfl
  rw [quotient]
  obtain zero | ⟨m, e, mPositive, finite⟩ := size
  · have none : UnpackedFloat.div .binary64 (.zero .positive)
        (.finite .positive n f nPositive) = .zero .positive := rfl
    rw [zero, none]
    exact .inl rfl
  · obtain ⟨form, inRange⟩ := isForm_of_unpack finite
    have mCast : (0 : ℚ) < m := by exact_mod_cast mPositive
    rw [finite, div_eq_nearest]
    refine isSize_ofRat (by positivity) ?_
    calc
      (m : ℚ) * 2 ^ e / (n * 2 ^ f) ≤ m * 2 ^ e := div_le_self (by positivity) least
      _ ≤ greatest := by
        have fits : (m : ℚ) ≤ 2 ^ 53 - 1 := by
          rw [le_sub_iff_add_le]
          exact_mod_cast form.fits
        exact mul_le_mul fits (zpow_le_zpow_right₀ one_le_two inRange) (by positivity)
          (by norm_num)

end VariablePay.Double
