import Mathlib

set_option autoImplicit false

/-!
# The order of doubles

Comparison of doubles is comparison of their places in a linear order: by sign, and within a sign
by exponent and mantissa. Both zeros have one place, the infinities stand outside of all finite
numbers, and `NaN` compares with nothing.
-/

open Float.Model

namespace VariablePay.Double

/-- Places of doubles: the sign, then the signed exponent, then the signed mantissa. -/
abbrev Place := Int ×ₗ Int ×ₗ Int

/-- The place of an unpacked double. That of `NaN` means nothing. -/
def placeOf : UnpackedFloat → Place
  | .notANumber => toLex (0, toLex (0, 0))
  | .zero _ => toLex (0, toLex (0, 0))
  | .infinity .positive => toLex (2, toLex (0, 0))
  | .infinity .negative => toLex (-2, toLex (0, 0))
  | .finite .positive mantissa exponent _ => toLex (1, toLex (exponent, (mantissa : Int)))
  | .finite .negative mantissa exponent _ => toLex (-1, toLex (-exponent, -(mantissa : Int)))

def place (value : Float) : Place := placeOf value.toModel.unpack

private theorem compare_neg (left right : Int) :
    compare (-left) (-right) = (compare left right).swap := by
  rcases lt_trichotomy left right with less | same | greater
  · rw [compare_lt_iff_lt.mpr less, compare_gt_iff_gt.mpr (neg_lt_neg less)]
    rfl
  · subst same
    simp
  · rw [compare_gt_iff_gt.mpr greater, compare_lt_iff_lt.mpr (neg_lt_neg greater)]
    rfl

private theorem compare_natCast (left right : Nat) :
    compare (left : Int) (right : Int) = compare left right := by
  rcases lt_trichotomy left right with less | same | greater
  · rw [compare_lt_iff_lt.mpr less, compare_lt_iff_lt.mpr (Int.ofNat_lt.mpr less)]
  · subst same
    simp
  · rw [compare_gt_iff_gt.mpr greater, compare_gt_iff_gt.mpr (Int.ofNat_lt.mpr greater)]

private theorem compare_eq_compare_placeOf {left right : UnpackedFloat}
    (leftNumber : left.isNaN = false) (rightNumber : right.isNaN = false) :
    left.compare right = some (compare (placeOf left) (placeOf right)) := by
  cases left with
  | notANumber => simp [UnpackedFloat.isNaN] at leftNumber
  | infinity leftSign =>
      cases right with
      | notANumber => simp [UnpackedFloat.isNaN] at rightNumber
      | infinity rightSign => cases leftSign <;> cases rightSign <;> rfl
      | zero rightSign => cases leftSign <;> rfl
      | finite rightSign => cases leftSign <;> cases rightSign <;> rfl
  | zero leftSign =>
      cases right with
      | notANumber => simp [UnpackedFloat.isNaN] at rightNumber
      | infinity rightSign => cases rightSign <;> rfl
      | zero rightSign => rfl
      | finite rightSign => cases rightSign <;> rfl
  | finite leftSign =>
      cases right with
      | notANumber => simp [UnpackedFloat.isNaN] at rightNumber
      | infinity rightSign => cases leftSign <;> cases rightSign <;> rfl
      | zero rightSign => cases leftSign <;> rfl
      | finite rightSign =>
          -- Signs that differ decide; equal ones leave exponent and mantissa, turned around below
          -- zero.
          cases leftSign <;> cases rightSign
          · simp [UnpackedFloat.compare, placeOf, Prod.Lex.compare_def, compareLex, compareOn,
              compare_neg, compare_natCast, Ordering.swap_then]
          · rfl
          · rfl
          · simp [UnpackedFloat.compare, placeOf, Prod.Lex.compare_def, compareLex, compareOn,
              compare_natCast]

private theorem compare_eq_none_iff (left right : UnpackedFloat) :
    left.compare right = none ↔ left.isNaN = true ∨ right.isNaN = true := by
  cases leftNumber : left.isNaN with
  | true =>
      cases left <;> simp [UnpackedFloat.isNaN] at leftNumber
      simp [UnpackedFloat.compare]
  | false =>
      cases rightNumber : right.isNaN with
      | true =>
          cases right <;> simp [UnpackedFloat.isNaN] at rightNumber
          cases left <;> simp [UnpackedFloat.isNaN] at leftNumber <;> simp [UnpackedFloat.compare]
      | false => simp [compare_eq_compare_placeOf leftNumber rightNumber]

theorem lt_iff (left right : Float) :
    left < right ↔ left.isNaN = false ∧ right.isNaN = false ∧ place left < place right := by
  have unfolded : left < right ↔ left.toModel.unpack.lt right.toModel.unpack = true :=
    decide_eq_true_iff
  rw [unfolded, UnpackedFloat.lt]
  change _ ↔ left.toModel.unpack.isNaN = false ∧ right.toModel.unpack.isNaN = false ∧ _
  cases compared : left.toModel.unpack.compare right.toModel.unpack with
  | none =>
      rcases (compare_eq_none_iff _ _).mp compared with isNaN | isNaN <;> simp [isNaN]
  | some ordering =>
      have numbers := mt (compare_eq_none_iff _ _).mpr (by rw [compared]; simp)
      simp only [not_or, Bool.not_eq_true] at numbers
      rw [compare_eq_compare_placeOf numbers.1 numbers.2] at compared
      obtain rfl := Option.some.inj compared
      simp [numbers, place, compare_lt_iff_lt]

theorem le_iff (left right : Float) :
    left ≤ right ↔ left.isNaN = false ∧ right.isNaN = false ∧ place left ≤ place right := by
  have unfolded : left ≤ right ↔ left.toModel.unpack.le right.toModel.unpack = true :=
    decide_eq_true_iff
  rw [unfolded, UnpackedFloat.le]
  change _ ↔ left.toModel.unpack.isNaN = false ∧ right.toModel.unpack.isNaN = false ∧ _
  cases compared : left.toModel.unpack.compare right.toModel.unpack with
  | none =>
      rcases (compare_eq_none_iff _ _).mp compared with isNaN | isNaN <;> simp [isNaN]
  | some ordering =>
      have numbers := mt (compare_eq_none_iff _ _).mpr (by rw [compared]; simp)
      simp only [not_or, Bool.not_eq_true] at numbers
      rw [compare_eq_compare_placeOf numbers.1 numbers.2] at compared
      obtain rfl := Option.some.inj compared
      simp [numbers, place, ← Ordering.ne_gt_iff_isLE, compare_le_iff_le]

theorem beq_iff (left right : Float) :
    (left == right) = true ↔
      left.isNaN = false ∧ right.isNaN = false ∧ place left = place right := by
  change (left.toModel.unpack.compare right.toModel.unpack == some .eq) = true ↔
    left.toModel.unpack.isNaN = false ∧ right.toModel.unpack.isNaN = false ∧ _
  cases compared : left.toModel.unpack.compare right.toModel.unpack with
  | none =>
      rcases (compare_eq_none_iff _ _).mp compared with isNaN | isNaN <;> simp [isNaN]
  | some ordering =>
      have numbers := mt (compare_eq_none_iff _ _).mpr (by rw [compared]; simp)
      simp only [not_or, Bool.not_eq_true] at numbers
      rw [compare_eq_compare_placeOf numbers.1 numbers.2] at compared
      obtain rfl := Option.some.inj compared
      simp [numbers, place, compare_eq_iff_eq]

/-- Numbers of one place are the same, up to the sign of zero. -/
theorem eq_of_placeOf_eq {left right : UnpackedFloat} (leftNumber : left.isNaN = false)
    (rightNumber : right.isNaN = false) (same : placeOf left = placeOf right) :
    left = right ∨ ∃ leftSign rightSign, left = .zero leftSign ∧ right = .zero rightSign := by
  cases left with
  | notANumber => simp [UnpackedFloat.isNaN] at leftNumber
  | infinity leftSign =>
      cases right with
      | notANumber => simp [UnpackedFloat.isNaN] at rightNumber
      | infinity rightSign => cases leftSign <;> cases rightSign <;> simp_all [placeOf]
      | zero rightSign => cases leftSign <;> simp [placeOf] at same
      | finite rightSign => cases leftSign <;> cases rightSign <;> simp [placeOf] at same
  | zero leftSign =>
      cases right with
      | notANumber => simp [UnpackedFloat.isNaN] at rightNumber
      | infinity rightSign => cases rightSign <;> simp [placeOf] at same
      | zero rightSign => exact .inr ⟨_, _, rfl, rfl⟩
      | finite rightSign => cases rightSign <;> simp [placeOf] at same
  | finite leftSign =>
      cases right with
      | notANumber => simp [UnpackedFloat.isNaN] at rightNumber
      | infinity rightSign => cases leftSign <;> cases rightSign <;> simp [placeOf] at same
      | zero rightSign => cases leftSign <;> simp [placeOf] at same
      | finite rightSign => cases leftSign <;> cases rightSign <;> simp_all [placeOf]

/-- A finite number is a number. -/
theorem isNaN_of_isFinite {value : Float} (finite : value.isFinite = true) :
    value.isNaN = false := by
  change value.toModel.unpack.isFinite = true at finite
  change value.toModel.unpack.isNaN = false
  cases unpacked : value.toModel.unpack <;> rw [unpacked] at finite <;>
    simp_all [UnpackedFloat.isFinite, UnpackedFloat.isNaN]

variable {a b c : Float}

theorem not_lt_iff (aNumber : a.isNaN = false) (bNumber : b.isNaN = false) :
    ¬ a < b ↔ b ≤ a := by
  rw [lt_iff, le_iff]
  simp only [aNumber, bNumber, true_and, not_lt]

theorem not_le_iff (aNumber : a.isNaN = false) (bNumber : b.isNaN = false) :
    ¬ a ≤ b ↔ b < a := by
  rw [lt_iff, le_iff]
  simp only [aNumber, bNumber, true_and, not_le]

theorem le_of_lt (less : a < b) : a ≤ b := by
  obtain ⟨aNumber, bNumber, less⟩ := (lt_iff a b).mp less
  exact (le_iff a b).mpr ⟨aNumber, bNumber, less.le⟩

theorem le_refl (number : a.isNaN = false) : a ≤ a :=
  (le_iff a a).mpr ⟨number, number, le_rfl⟩

theorem isNaN_of_le (ordered : a ≤ b) : a.isNaN = false ∧ b.isNaN = false := by
  obtain ⟨aNumber, bNumber, _⟩ := (le_iff a b).mp ordered
  exact ⟨aNumber, bNumber⟩

theorem le_trans (first : a ≤ b) (second : b ≤ c) : a ≤ c := by
  obtain ⟨aNumber, _, first⟩ := (le_iff a b).mp first
  obtain ⟨_, cNumber, second⟩ := (le_iff b c).mp second
  exact (le_iff a c).mpr ⟨aNumber, cNumber, first.trans second⟩

theorem lt_of_lt_of_le (first : a < b) (second : b ≤ c) : a < c := by
  obtain ⟨aNumber, _, first⟩ := (lt_iff a b).mp first
  obtain ⟨_, cNumber, second⟩ := (le_iff b c).mp second
  exact (lt_iff a c).mpr ⟨aNumber, cNumber, first.trans_le second⟩

theorem not_le_of_lt (less : a < b) : ¬ b ≤ a := by
  obtain ⟨_, _, less⟩ := (lt_iff a b).mp less
  intro notLess
  exact not_le_of_gt less ((le_iff b a).mp notLess).2.2

end VariablePay.Double
