import Mathlib.Algebra.BigOperators.Group.List.Basic
import VariablePay.Digest

set_option autoImplicit false

/-!
# Digests in hexadecimal digits

A digest is written in two digits a byte, the high half first, so that the digits determine it and
their number is always the same.
-/

namespace VariablePay.Digest

theorem hexDigit_inj {left right : Nat} (leftSmall : left < 16) (rightSmall : right < 16) :
    hexDigit left = hexDigit right ↔ left = right := by
  have all : ∀ left < 16, ∀ right < 16, hexDigit left = hexDigit right ↔ left = right := by decide
  exact all left leftSmall right rightSmall

private theorem toNat_byte (word amount : UInt32) (small : amount.toNat < 32) :
    ((word >>> amount) &&& 255).toNat = word.toNat / 2 ^ amount.toNat % 256 := by
  rw [UInt32.toNat_and, UInt32.toNat_shiftRight, Nat.mod_eq_of_lt small, Nat.shiftRight_eq_div_pow]
  exact Nat.and_two_pow_sub_one_eq_mod _ 8

private theorem byte_eq_of_digits {left right amount : UInt32} (scale : Nat)
    (small : amount.toNat < 32) (power : 2 ^ amount.toNat = scale)
    (high : hexDigit (((left >>> amount) &&& 255).toNat / 16) =
      hexDigit (((right >>> amount) &&& 255).toNat / 16))
    (low : hexDigit (((left >>> amount) &&& 255).toNat % 16) =
      hexDigit (((right >>> amount) &&& 255).toNat % 16)) :
    left.toNat / scale % 256 = right.toNat / scale % 256 := by
  rw [toNat_byte _ _ small, toNat_byte _ _ small, power] at high low
  have sameHigh := (hexDigit_inj (by omega) (by omega)).mp high
  have sameLow := (hexDigit_inj (by omega) (by omega)).mp low
  omega

theorem wordHex_injective : Function.Injective wordHex := by
  intro left right same
  simp only [wordHex, List.flatMap_cons, List.flatMap_nil, List.cons_append, List.nil_append,
    List.cons.injEq] at same
  -- A word is the number of its four bytes.
  obtain ⟨high0, low0, high1, low1, high2, low2, high3, low3, -⟩ := same
  have byte0 := byte_eq_of_digits 1 (by decide) (by decide) high0 low0
  have byte1 := byte_eq_of_digits 256 (by decide) (by decide) high1 low1
  have byte2 := byte_eq_of_digits 65536 (by decide) (by decide) high2 low2
  have byte3 := byte_eq_of_digits 16777216 (by decide) (by decide) high3 low3
  have leftSmall := left.toNat_lt
  have rightSmall := right.toNat_lt
  refine UInt32.toNat_inj.mp ?_
  omega

theorem length_wordHex (word : UInt32) : (wordHex word).length = 8 := rfl

theorem flatMap_wordHex_injective : Function.Injective (List.flatMap wordHex) := by
  intro left
  induction left with
  | nil =>
      intro right same
      cases right with
      | nil => rfl
      | cons word right => cases same
  | cons word left ih =>
      intro right same
      cases right with
      | nil => cases same
      | cons other right =>
          rw [List.flatMap_cons, List.flatMap_cons] at same
          obtain ⟨first, rest⟩ := List.append_inj same rfl
          rw [wordHex_injective first, ih rest]

theorem toList_hex (text : String) :
    (hex text).toList = (words text.toUTF8.toList).toList.flatMap wordHex :=
  String.toList_ofList

theorem hex_eq_iff {left right : String} :
    hex left = hex right ↔ words left.toUTF8.toList = words right.toUTF8.toList := by
  rw [← String.toList_inj, toList_hex, toList_hex, flatMap_wordHex_injective.eq_iff,
    Vector.toList_inj]

theorem length_hex (text : String) : (hex text).toList.length = 64 := by
  simp [toList_hex, List.length_flatMap, length_wordHex]

end VariablePay.Digest
