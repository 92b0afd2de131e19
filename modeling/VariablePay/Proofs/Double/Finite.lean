import Mathlib
import VariablePay.Payout

set_option autoImplicit false

/-!
# Finite doubles

A sum is finite only if both its terms are, and `NaN` if one of them is. A number taken from itself
leaves zero only if it is finite, so that a payout agrees with itself just when it is finite.
-/

open Float.Model

namespace VariablePay

namespace Double

private theorem toModel_add (left right : Float) :
    (left + right).toModel =
      Float.Model.pack (.add .binary64 left.toModel.unpack right.toModel.unpack) := rfl

private theorem isFinite_pack_notANumber :
    (Float.Model.pack .notANumber).unpack.isFinite = false := by decide

private theorem isFinite_pack_infinity (sign : UnpackedFloat.Sign) :
    (Float.Model.pack (.infinity sign)).unpack.isFinite = false := by
  cases sign <;> decide

private theorem finite_sub_self (sign : UnpackedFloat.Sign) (mantissa : Nat) (exponent : Int)
    (positive : 0 < mantissa) :
    UnpackedFloat.sub .binary64 (.finite sign mantissa exponent positive)
      (.finite sign mantissa exponent positive) = .zero .positive := by
  simp only [UnpackedFloat.sub, Int.sub_self]
  rfl

/-- A finite number taken from itself leaves zero, and any other leaves `NaN`. -/
theorem value_sub_self (value : Float) :
    value - value = if value.isFinite then 0.0 else 0.0 / 0.0 := by
  change Float.ofModel (.pack (.sub .binary64 value.toModel.unpack value.toModel.unpack)) =
    if value.toModel.unpack.isFinite then _ else _
  cases value.toModel.unpack with
  | notANumber => rfl
  | infinity sign => cases sign <;> rfl
  | zero sign => cases sign <;> rfl
  | finite sign mantissa exponent positive =>
      rw [finite_sub_self]
      rfl

private theorem isFinite_of_pack_add {left right : UnpackedFloat}
    (finite : (Float.Model.pack (.add .binary64 left right)).unpack.isFinite = true) :
    left.isFinite = true ∧ right.isFinite = true := by
  cases left with
  | notANumber => nomatch isFinite_pack_notANumber.symm.trans finite
  | infinity sign =>
      cases right with
      | notANumber => nomatch isFinite_pack_notANumber.symm.trans finite
      | infinity other =>
          cases sign <;> cases other
          · nomatch (isFinite_pack_infinity _).symm.trans finite
          · nomatch isFinite_pack_notANumber.symm.trans finite
          · nomatch isFinite_pack_notANumber.symm.trans finite
          · nomatch (isFinite_pack_infinity _).symm.trans finite
      | zero | finite => nomatch (isFinite_pack_infinity sign).symm.trans finite
  | zero sign =>
      cases right with
      | notANumber => nomatch isFinite_pack_notANumber.symm.trans finite
      | infinity other => nomatch (isFinite_pack_infinity other).symm.trans finite
      | zero | finite => exact ⟨rfl, rfl⟩
  | finite sign mantissa exponent positive =>
      cases right with
      | notANumber => nomatch isFinite_pack_notANumber.symm.trans finite
      | infinity other => nomatch (isFinite_pack_infinity other).symm.trans finite
      | zero | finite => exact ⟨rfl, rfl⟩

theorem isFinite_of_add {left right : Float} (finite : (left + right).isFinite = true) :
    left.isFinite = true ∧ right.isFinite = true := by
  change (left + right).toModel.unpack.isFinite = true at finite
  rw [toModel_add] at finite
  exact isFinite_of_pack_add finite

private theorem isNaN_pack_notANumber :
    (Float.Model.pack .notANumber).unpack.isNaN = true := by decide

/-- A sum with `NaN` is `NaN`. -/
theorem isNaN_add {left right : Float} (isNaN : left.isNaN = true ∨ right.isNaN = true) :
    (left + right).isNaN = true := by
  change (left + right).toModel.unpack.isNaN = true
  change left.toModel.unpack.isNaN = true ∨ right.toModel.unpack.isNaN = true at isNaN
  rw [toModel_add]
  cases leftForm : left.toModel.unpack with
  | notANumber => exact isNaN_pack_notANumber
  | infinity | zero | finite =>
      cases rightForm : right.toModel.unpack with
      | notANumber => exact isNaN_pack_notANumber
      | infinity | zero | finite =>
          rw [leftForm, rightForm] at isNaN
          rcases isNaN with impossible | impossible <;> cases impossible

end Double

namespace Payout

theorem agree_self (value : Float) : agree value value = value.isFinite := by
  rw [agree, Double.value_sub_self]
  cases value.isFinite with
  | false => decide
  | true => decide

private theorem isFinite_of_foldl {payouts : List Float} :
    ∀ {start : Float}, (payouts.foldl (· + ·) start).isFinite = true →
      start.isFinite = true ∧ ∀ payout ∈ payouts, payout.isFinite = true := by
  induction payouts with
  | nil =>
      intro start finite
      exact ⟨finite, fun _ member => nomatch member⟩
  | cons payout rest ih =>
      intro start finite
      obtain ⟨sumFinite, restFinite⟩ := ih finite
      obtain ⟨startFinite, payoutFinite⟩ := Double.isFinite_of_add sumFinite
      exact ⟨startFinite, List.forall_mem_cons.mpr ⟨payoutFinite, restFinite⟩⟩

/-- Every payout of a finite total is finite. -/
theorem isFinite_of_total {payouts : List Float} (finite : (total payouts).isFinite = true) :
    ∀ payout ∈ payouts, payout.isFinite = true :=
  (isFinite_of_foldl finite).2

private theorem isNaN_foldl {payouts : List Float} :
    ∀ {start : Float}, (start.isNaN = true ∨ ∃ payout ∈ payouts, payout.isNaN = true) →
      (payouts.foldl (· + ·) start).isNaN = true := by
  induction payouts with
  | nil =>
      rintro start (isNaN | ⟨_, none, _⟩)
      · exact isNaN
      · cases none
  | cons payout rest ih =>
      rintro start (isNaN | ⟨found, head | ⟨_, later⟩, isNaN⟩)
      · exact ih (.inl (Double.isNaN_add (.inl isNaN)))
      · exact ih (.inl (Double.isNaN_add (.inr isNaN)))
      · exact ih (.inr ⟨found, later, isNaN⟩)

/-- A total with `NaN` among its payouts is `NaN`. -/
theorem isNaN_total {payouts : List Float} {payout : Float} (member : payout ∈ payouts)
    (isNaN : payout.isNaN = true) : (total payouts).isNaN = true :=
  isNaN_foldl (.inr ⟨payout, member, isNaN⟩)

end Payout

end VariablePay
