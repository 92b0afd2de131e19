import VariablePay.Decimal.Shortest

set_option autoImplicit false

/-!
# Writing doubles

Doubles are written in two ways. Messages spell every number out in full, without a power of ten
and without a point behind an integer. JSON texts keep a point in every number and switch to a
power of ten for very small and very large ones. Amounts of fixed places are in
`VariablePay.Decimal.Fixed`.
-/

namespace VariablePay

/-- How the shortest decimal of a double is laid out as a numeral. -/
structure Layout where
  /-- The powers of ten of the leading digit, from lowest to highest, that are written out
  without a power; all of them if absent. -/
  spelledOut : Option (Int × Int)
  /-- Whether a number that is spelled out always has a fractional digit. -/
  pointed : Bool

namespace Layout

/-- Numbers in messages are spelled out, integers without a point. -/
def message : Layout := ⟨none, false⟩

/-- Numbers in JSON are spelled out from 0.00001 to below 10000000000000000, with a point. -/
def json : Layout := ⟨some (-5, 15), true⟩

/-- The numeral without a power of ten. -/
def spellOut (layout : Layout) (negative : Bool) (decimal : Decimal) : Numeral :=
  let shift := decimal.exponent.natAbs
  if decimal.exponent < 0 then
    ⟨negative, decimal.coefficient / Nat.pow 10 shift, Digit.lastOf shift decimal.coefficient, none⟩
  else
    ⟨negative, decimal.coefficient * Nat.pow 10 shift,
      if layout.pointed then Digit.ofNat 0 else [], none⟩

/-- The numeral with one digit before the point and a power of ten. -/
def withPower (negative : Bool) (decimal : Decimal) : Numeral :=
  let after := Digit.count decimal.coefficient - 1
  ⟨negative, decimal.coefficient / Nat.pow 10 after, Digit.lastOf after decimal.coefficient,
    some (decimal.exponent + after)⟩

def numeral (layout : Layout) (negative : Bool) (decimal : Decimal) : Numeral :=
  let leading := decimal.exponent + Digit.count decimal.coefficient - 1
  match layout.spelledOut with
  | some (lowest, highest) =>
      if decimal.coefficient = 0 ∨ lowest ≤ leading ∧ leading ≤ highest then
        layout.spellOut negative decimal
      else withPower negative decimal
  | none => layout.spellOut negative decimal

/-- The numeral of a finite double, which reads back as it. -/
def ofFloat (layout : Layout) (value : Float) : Numeral :=
  layout.numeral (Dyadic.signOf value) (Decimal.shortest value)

end Layout

def nonFiniteText (value : Float) : String :=
  if value.isNaN then "NaN" else if Dyadic.signOf value then "-inf" else "inf"

def messageText (value : Float) : String :=
  if value.isFinite then String.ofList (Layout.message.ofFloat value).text else nonFiniteText value

end VariablePay
