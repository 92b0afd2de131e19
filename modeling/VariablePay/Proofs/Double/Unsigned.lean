import VariablePay.Ledger.Column
import VariablePay.Proofs.Double.Score

set_option autoImplicit false

/-!
# Scores without a sign

A column of numbers drops the sign of zero, and keeps every other score as it is. Products and sums
of scores are never the negative zero, unless all they are made of is.
-/

open Float.Model

namespace VariablePay

open Double

/-- A score that is not the negative zero. -/
structure IsUnsigned (value : Float) : Prop where
  isScore : IsScore value
  unsigned : value.toModel.unpack ≠ .zero .negative

private theorem unpack_pack_zero (sign : UnpackedFloat.Sign) :
    (Float.ofModel (.pack (.zero sign))).toModel.unpack = .zero sign := by
  cases sign <;> rfl

theorem IsScore.mul_zero {left right : Float} {sign : UnpackedFloat.Sign}
    (leftScore : IsScore left) (zero : right.toModel.unpack = .zero sign) :
    ∃ sign, (left * right).toModel.unpack = .zero sign := by
  change ∃ sign, (Float.ofModel (.pack (.mul .binary64 left.toModel.unpack
    right.toModel.unpack))).toModel.unpack = .zero sign
  rw [zero]
  obtain ⟨leftSign, leftZero⟩ | ⟨_, _, _, finite, _⟩ := unpack_of_isScore leftScore
  · rw [leftZero]
    exact ⟨_, unpack_pack_zero _⟩
  · rw [finite]
    exact ⟨_, unpack_pack_zero _⟩

theorem place_of_zero {value : Float} {sign : UnpackedFloat.Sign}
    (zero : value.toModel.unpack = .zero sign) : place value = place 0.0 := by
  unfold place
  rw [zero]
  rfl

namespace IsUnsigned

variable {left right value : Float}

/-- A score without a sign is the positive zero or a positive number. -/
theorem unpack (unsigned : IsUnsigned value) :
    value.toModel.unpack = .zero .positive ∨
      ∃ mantissa exponent, ∃ positive : 0 < mantissa,
        value.toModel.unpack = .finite .positive mantissa exponent positive ∧
          IsForm mantissa exponent ∧ (mantissa : ℚ) * 2 ^ exponent ≤ 1 := by
  obtain ⟨sign, zero⟩ | finite := unpack_of_isScore unsigned.isScore
  · cases sign with
    | positive => exact .inl zero
    | negative => exact absurd zero unsigned.unsigned
  · exact .inr finite

theorem of_pos (isScore : IsScore value) (above : 0.0 < value) : IsUnsigned value := by
  refine ⟨isScore, fun zero => ?_⟩
  obtain ⟨_, _, less⟩ := (lt_iff _ _).mp above
  rw [place_of_zero zero] at less
  exact less.false

theorem unpack_of_le (unsigned : IsUnsigned value) (small : value ≤ 0.0) :
    value.toModel.unpack = .zero .positive := by
  obtain zero | ⟨mantissa, exponent, positive, finite, _⟩ := unsigned.unpack
  · exact zero
  · obtain ⟨_, _, below⟩ := (le_iff _ _).mp small
    have zero : (0.0 : Float).toModel.unpack = .zero .positive := rfl
    unfold place at below
    rw [finite, zero] at below
    exact absurd below (not_le.mpr (Prod.Lex.toLex_lt_toLex.mpr (.inl Int.zero_lt_one)))

private theorem unpack_ofRat {number : ℚ} (positive : 0 < number) (small : number ≤ 2) :
    (ofRat number).toModel.unpack ≠ .zero .negative := by
  have unpacked : (ofRat number).toModel.unpack = nearest .positive number :=
    unpack_pack_nearest .positive positive (le_greatest (small.trans_lt (by norm_num)))
  rw [unpacked]
  obtain ⟨zero, _⟩ | ⟨_, _, _, _, _, _, finite⟩ := nearest_cases .positive positive
  · rw [zero]
    nofun
  · rw [finite]
    nofun

theorem zero : IsUnsigned 0.0 := by
  refine ⟨?_, nofun⟩
  constructor <;> decide

theorem mul (leftUnsigned : IsUnsigned left) (rightUnsigned : IsUnsigned right) :
    IsUnsigned (left * right) := by
  refine ⟨leftUnsigned.isScore.mul rightUnsigned.isScore, ?_⟩
  change (Float.ofModel (.pack (.mul .binary64 left.toModel.unpack
    right.toModel.unpack))).toModel.unpack ≠ .zero .negative
  obtain leftZero | ⟨m, e, mPositive, leftFinite, leftForm, leftSmall⟩ := leftUnsigned.unpack <;>
    obtain rightZero | ⟨n, f, nPositive, rightFinite, rightForm, rightSmall⟩ :=
      rightUnsigned.unpack
  · rw [leftZero, rightZero]
    exact zero.unsigned
  · rw [leftZero, rightFinite]
    exact zero.unsigned
  · rw [leftFinite, rightZero]
    exact zero.unsigned
  · rw [leftFinite, rightFinite, mul_eq_nearest_of_isForm leftForm rightForm]
    have mCast : (0 : ℚ) < m := by exact_mod_cast mPositive
    have nCast : (0 : ℚ) < n := by exact_mod_cast nPositive
    refine unpack_ofRat (by positivity) ?_
    exact (mul_le_one₀ leftSmall (by positivity) rightSmall).trans one_le_two

/-- A zero of any sign adds nothing. -/
theorem zero_add {sign : UnpackedFloat.Sign} (isZero : left.toModel.unpack = .zero sign)
    (rightUnsigned : IsUnsigned right) : left + right = right := by
  have sum : UnpackedFloat.add .binary64 (.zero sign) right.toModel.unpack =
      right.toModel.unpack := by
    obtain rightZero | ⟨_, _, _, rightFinite, _⟩ := rightUnsigned.unpack
    · rw [rightZero]
      cases sign <;> rfl
    · rw [rightFinite]
      rfl
  change Float.ofModel (.pack (.add .binary64 left.toModel.unpack right.toModel.unpack)) = right
  rw [isZero, sum, ofModel_pack_unpack]

/-- A sum is not the negative zero if the second number is not. -/
theorem unpack_add (leftScore : IsScore left) (rightUnsigned : IsUnsigned right) :
    (left + right).toModel.unpack ≠ .zero .negative := by
  obtain ⟨sign, leftZero⟩ | ⟨m, e, mPositive, leftFinite, _, leftSmall⟩ :=
    unpack_of_isScore leftScore
  · rw [zero_add leftZero rightUnsigned]
    exact rightUnsigned.unsigned
  · change (Float.ofModel (.pack (.add .binary64 left.toModel.unpack
      right.toModel.unpack))).toModel.unpack ≠ .zero .negative
    obtain rightZero | ⟨n, f, nPositive, rightFinite, _, rightSmall⟩ := rightUnsigned.unpack
    · have sum : UnpackedFloat.add .binary64 left.toModel.unpack right.toModel.unpack =
          left.toModel.unpack := by
        rw [leftFinite, rightZero]
        rfl
      rw [sum, ofModel_pack_unpack, leftFinite]
      nofun
    · have mCast : (0 : ℚ) < m := by exact_mod_cast mPositive
      have nCast : (0 : ℚ) < n := by exact_mod_cast nPositive
      have above : (0 : ℚ) < m * 2 ^ e + n * 2 ^ f := by positivity
      rw [leftFinite, rightFinite, add_eq_rounded, rounded, if_neg above.ne', if_pos above]
      exact unpack_ofRat above (by linarith)

end IsUnsigned

/-- The share of a part in a whole has no sign. -/
theorem isUnsigned_share {part whole : Nat} (positive : 0 < whole) (inside : part ≤ whole)
    (fits : whole < 2 ^ 64) : IsUnsigned (Float.ofNat part / Float.ofNat whole) := by
  refine ⟨isScore_share positive inside fits, ?_⟩
  obtain zero | ⟨number, above, small, same⟩ := share_cases positive inside fits
  · rw [zero]
    exact IsUnsigned.zero.unsigned
  · rw [same]
    exact IsUnsigned.unpack_ofRat above (small.trans one_le_two)

/-- A column keeps scores without a sign as they are. -/
theorem IsUnsigned.realColumn_eq {value : Float} (unsigned : IsUnsigned value) :
    realColumn value = some value := by
  unfold realColumn
  rw [unsigned.isScore.isNaN, if_neg Bool.false_ne_true]
  change (if value.toModel.unpack.beq (.zero .positive) = true then _ else _) = _
  obtain zero | ⟨mantissa, exponent, positive, finite, _⟩ := unsigned.unpack
  · have same : value = 0.0 := by
      rw [← ofModel_pack_unpack value, zero]
      rfl
    rw [same]
    rfl
  · rw [finite]
    rfl

end VariablePay
