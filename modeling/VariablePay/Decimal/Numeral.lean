set_option autoImplicit false

/-!
# Decimal numerals

A numeral is a signed whole part, a row of fractional digits and an optional power of ten. It is
written with an explicit sign of the power, and read with the sign, the mark `e` or `E` and leading
zeros of the power free. A whole part has no leading zero, a point stands between digits.
-/

namespace VariablePay

abbrev Digit := Fin 10

namespace Digit

def toChar (digit : Digit) : Char := Char.ofNat (48 + digit.val)

def ofChar? (char : Char) : Option Digit :=
  if _isDigit : 48 ≤ char.toNat ∧ char.toNat < 58 then some ⟨char.toNat - 48, by omega⟩ else none

/-- The number that a row of digits writes after the digits of `start`. -/
def value (start : Nat) (digits : List Digit) : Nat :=
  digits.foldl (fun number digit => 10 * number + digit.val) start

/-- The last `width` digits of a number. -/
def lastOf : (width : Nat) → (number : Nat) → List Digit
  | 0, _ => []
  | width + 1, number => lastOf width (number / 10) ++ [Fin.ofNat 10 number]

/-- How many digits write a number; zero takes one. -/
def count (number : Nat) : Nat := if _small : number < 10 then 1 else count (number / 10) + 1

/-- The digits of a number, without leading zeros. -/
def ofNat (number : Nat) : List Digit := lastOf (count number) number

/-- Splits a text after its leading digits. -/
def span : List Char → List Digit × List Char
  | [] => ([], [])
  | char :: rest =>
      match ofChar? char with
      | some digit => ((digit :: (span rest).1), (span rest).2)
      | none => ([], char :: rest)

end Digit

/-- The number `coefficient · 10 ^ exponent`. -/
structure Decimal where
  coefficient : Nat
  exponent : Int
  deriving DecidableEq

namespace Decimal

def infinity : Float := 1.0 / 0.0

/-- The double nearest to the number, of two equally near ones the even one; infinite beyond the
range of doubles. -/
def toFloat (decimal : Decimal) : Float :=
  let magnitude := decimal.exponent + Digit.count decimal.coefficient
  if decimal.coefficient = 0 then 0.0
  else if 310 < magnitude then infinity
  else if magnitude < -330 then 0.0
  else if decimal.exponent < 0 then
    Float.ofScientific decimal.coefficient true decimal.exponent.natAbs
  else Float.ofScientific decimal.coefficient false decimal.exponent.natAbs

/-- The same number with a coefficient that does not end in zero. -/
def trimmed (coefficient : Nat) (exponent : Int) : Decimal :=
  if _endsInZero : 0 < coefficient ∧ coefficient % 10 = 0 then
    trimmed (coefficient / 10) (exponent + 1)
  else ⟨coefficient, exponent⟩
termination_by coefficient

end Decimal

/-- A written number: sign, whole part, fractional digits and power of ten. -/
structure Numeral where
  negative : Bool
  whole : Nat
  fraction : List Digit
  power : Option Int
  deriving DecidableEq

namespace Numeral

def ofNat (number : Nat) : Numeral := ⟨false, number, [], none⟩

/-- Whether the numeral has neither a point nor a power. -/
def isInteger (numeral : Numeral) : Bool := numeral.fraction.isEmpty && numeral.power.isNone

def natural? (numeral : Numeral) : Option Nat :=
  if numeral.isInteger && !numeral.negative then some numeral.whole else none

/-- The absolute value of the number written. -/
def magnitude (numeral : Numeral) : Decimal :=
  ⟨Digit.value numeral.whole numeral.fraction, numeral.power.getD 0 - numeral.fraction.length⟩

/-- The double that the numeral writes; a number beyond the range of doubles is refused. -/
def toFloat? (numeral : Numeral) : Option Float :=
  let magnitude := numeral.magnitude.toFloat
  if magnitude.isFinite then some (if numeral.negative then -magnitude else magnitude) else none

/-- The text of the power of ten: its mark, its sign and its digits. -/
def powerText (power : Int) : List Char :=
  'e' :: (if power < 0 then '-' else '+') :: (Digit.ofNat power.natAbs).map Digit.toChar

def text (numeral : Numeral) : List Char :=
  (if numeral.negative then ['-'] else []) ++
  (Digit.ofNat numeral.whole).map Digit.toChar ++
  (if numeral.fraction.isEmpty then [] else '.' :: numeral.fraction.map Digit.toChar) ++
  (match numeral.power with
    | some power => powerText power
    | none => [])

def readPowerDigits? (negative : Bool) (text : List Char) : Option (Option Int × List Char) :=
  match Digit.span text with
  | ([], _) => none
  | (digits, rest) =>
      let size : Int := Digit.value 0 digits
      some (some (if negative then -size else size), rest)

def readPower? : List Char → Option (Option Int × List Char)
  | mark :: rest =>
      if mark = 'e' ∨ mark = 'E' then
        match rest with
        | '+' :: digits => readPowerDigits? false digits
        | '-' :: digits => readPowerDigits? true digits
        | digits => readPowerDigits? false digits
      else some (none, mark :: rest)
  | [] => some (none, [])

/-- Reads fractional digits, if a point follows. -/
def readFraction? : List Char → Option (List Digit × List Char)
  | '.' :: rest =>
      match Digit.span rest with
      | ([], _) => none
      | (digits, after) => some (digits, after)
  | text => some ([], text)

/-- Reads a whole part: digits of which the first is zero only if it is alone. -/
def readWhole? (text : List Char) : Option (Nat × List Char) :=
  match Digit.span text with
  | ([], _) => none
  | (first :: digits, rest) =>
      if first = 0 ∧ digits ≠ [] then none else some (Digit.value 0 (first :: digits), rest)

def readUnsigned? (negative : Bool) (text : List Char) : Option (Numeral × List Char) := do
  let (whole, afterWhole) ← readWhole? text
  let (fraction, afterFraction) ← readFraction? afterWhole
  let (power, rest) ← readPower? afterFraction
  return (⟨negative, whole, fraction, power⟩, rest)

def read? : List Char → Option (Numeral × List Char)
  | '-' :: rest => readUnsigned? true rest
  | text => readUnsigned? false text

end Numeral

end VariablePay
