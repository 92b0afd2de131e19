import VariablePay.Decimal.Shortest

set_option autoImplicit false

/-!
# Columns of numbers

A column of real numbers keeps every double but `NaN`, and zero without its sign. A column of whole
numbers keeps numbers of 64 bits; a sum that is beyond these is kept as a double until a later sum
comes back into the range.
-/

namespace VariablePay

/-- A number as a column of real numbers keeps it: none for no number, and zero without a sign. -/
def realColumn (value : Float) : Option Float :=
  if value.isNaN then none else if value == 0.0 then some 0.0 else some value

/-- What a column of whole numbers keeps. -/
inductive WholeColumn where
  | word (value : Int64)
  /-- The double next to a sum that 64 bits do not hold. -/
  | double (value : Float)
  deriving DecidableEq

namespace WholeColumn

/-- A count as it is kept; one beyond 63 bits goes around to the negative numbers. -/
def ofCount (count : Nat) : WholeColumn := word (Int64.ofNat count)

/-- The double next to what is kept. -/
def toFloat : WholeColumn → Float
  | word value => Float.ofInt value.toInt
  | double value => value

/-- A double as it is kept: a whole number of less than 64 bits as such. -/
def ofFloat (value : Float) : WholeColumn :=
  match (Dyadic.ofFloat value).whole? with
  | some size =>
      if size < Nat.pow 2 63 then
        word (Int64.ofInt (if Dyadic.signOf value then -(size : Int) else size))
      else double value
  | none => double value

/-- The sum of two numbers: exact as long as 64 bits hold them and it, otherwise of doubles. -/
def add : WholeColumn → WholeColumn → WholeColumn
  | word left, word right =>
      let sum := left.toInt + right.toInt
      if Int64.minValue.toInt ≤ sum ∧ sum ≤ Int64.maxValue.toInt then word (Int64.ofInt sum)
      else ofFloat ((word left).toFloat + (word right).toFloat)
  | left, right => ofFloat (left.toFloat + right.toFloat)

end WholeColumn

end VariablePay
