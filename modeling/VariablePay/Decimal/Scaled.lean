import VariablePay.Decimal.Numeral

set_option autoImplicit false

/-!
# Numerals read in two steps

Numbers in JSON texts are read in two steps, and each of them rounds: the leading digits, as many as
fit into 64 bits, are a whole number, which is then scaled by a power of ten. For digits and powers
that doubles hold exactly the result is the nearest double; a numeral of sixteen or seventeen digits
may be read as one of its neighbours.
-/

namespace VariablePay

/-- Continues a number by digits as long as it fits into 64 bits. Gives the number and how many
digits are left over. -/
def Digit.fill (start : Nat) : List Digit → Nat × Nat
  | [] => (start, 0)
  | digit :: rest =>
      let next := 10 * start + digit.val
      if next < Nat.pow 2 64 then fill next rest else (start, rest.length + 1)

namespace Decimal

def powerOfTen (power : Nat) : Float := toFloat ⟨1, power⟩

/-- The coefficient as a double, multiplied or divided by a power of ten; powers beyond the range of
doubles are divided by in two parts. -/
def scaled (decimal : Decimal) : Float :=
  let number := Float.ofNat decimal.coefficient
  let size := decimal.exponent.natAbs
  if decimal.coefficient = 0 then 0.0
  else if 308 < decimal.exponent then infinity
  else if 0 ≤ decimal.exponent then number * powerOfTen size
  else if -308 ≤ decimal.exponent then number / powerOfTen size
  else if -616 ≤ decimal.exponent then number / powerOfTen 308 / powerOfTen (size - 308)
  else 0.0

end Decimal

namespace Numeral

/-- The leading digits, as many as fit into 64 bits. Digits of the whole part that are left over
still count as places, those behind the point are dropped. -/
def leading (numeral : Numeral) : Decimal :=
  let whole := Digit.fill 0 (Digit.ofNat numeral.whole)
  let all := Digit.fill whole.1 numeral.fraction
  ⟨all.1, numeral.power.getD 0 + whole.2 + all.2 - numeral.fraction.length⟩

/-- The double that the numeral is read as; a number beyond the range of doubles is refused. -/
def scaled? (numeral : Numeral) : Option Float :=
  let size := numeral.leading.scaled
  if size.isFinite then some (if numeral.negative then -size else size) else none

end Numeral

end VariablePay
