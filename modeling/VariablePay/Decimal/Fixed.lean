import VariablePay.Decimal.Layout

set_option autoImplicit false

/-!
# Fixed places

An amount with a fixed number of places is the exact binary value rounded to that many decimals,
a half going to the even neighbour. A rounded zero keeps its sign.
-/

namespace VariablePay

/-- A quotient rounded to the nearest natural number, a half to the even one. -/
def roundHalfEven (numerator denominator : Nat) : Nat :=
  let quotient := numerator / denominator
  let twice := 2 * (numerator % denominator)
  if twice < denominator ∨ twice = denominator ∧ quotient % 2 = 0 then quotient else quotient + 1

def fixedNumeral (places : Nat) (value : Float) : Numeral :=
  let ratio := (Dyadic.ofFloat value).toRatio
  let scaled := roundHalfEven (ratio.1 * Nat.pow 10 places) ratio.2
  ⟨Dyadic.signOf value, scaled / Nat.pow 10 places, Digit.lastOf places scaled, none⟩

def fixedText (places : Nat) (value : Float) : String :=
  if value.isFinite then String.ofList (fixedNumeral places value).text else nonFiniteText value

end VariablePay
