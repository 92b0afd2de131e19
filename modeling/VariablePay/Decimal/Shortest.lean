import VariablePay.Decimal.Numeral

set_option autoImplicit false

/-!
# The fewest digits that read back

A finite double is `mantissa · 2 ^ exponent` exactly. Its shortest decimal is looked for on coarser
to finer decimal grids: the first grid on which a neighbour of the value reads back as the same
double gives the answer, and of two such neighbours the nearer one.
-/

namespace VariablePay

/-- The number `mantissa · 2 ^ exponent`. -/
structure Dyadic where
  mantissa : Nat
  exponent : Int
  deriving DecidableEq

namespace Dyadic

def signOf (value : Float) : Bool := Nat.pow 2 63 ≤ value.toBits.toNat

/-- The absolute value of a finite double. -/
def ofFloat (value : Float) : Dyadic :=
  let bits := value.toBits.toNat
  let stored : Nat := bits % Nat.pow 2 52
  let field : Nat := bits / Nat.pow 2 52 % Nat.pow 2 11
  if field = 0 then ⟨stored, -1074⟩ else ⟨stored + Nat.pow 2 52, (field : Int) - 1075⟩

def toRatio (value : Dyadic) : Nat × Nat :=
  if value.exponent < 0 then (value.mantissa, Nat.pow 2 value.exponent.natAbs)
  else (value.mantissa * Nat.pow 2 value.exponent.natAbs, 1)

/-- The value divided by `10 ^ grid`, as numerator and denominator. -/
def toRatioOn (value : Dyadic) (grid : Int) : Nat × Nat :=
  let ratio := value.toRatio
  let power := Nat.pow 10 grid.natAbs
  if grid < 0 then (ratio.1 * power, ratio.2) else (ratio.1, ratio.2 * power)

/-- The value in decimal digits, all of them. -/
def toDecimal (value : Dyadic) : Decimal :=
  if value.exponent < 0 then ⟨value.mantissa * Nat.pow 5 value.exponent.natAbs, value.exponent⟩
  else ⟨value.mantissa * Nat.pow 2 value.exponent.natAbs, 0⟩

/-- The power of ten of the leading digit of a positive value. -/
def order (value : Dyadic) : Int :=
  let ratio := value.toRatio
  let guess : Int := (Digit.count ratio.1 : Int) - Digit.count ratio.2
  let onGuess := value.toRatioOn guess
  if onGuess.2 ≤ onGuess.1 then guess else guess - 1

def whole? (value : Dyadic) : Option Nat :=
  let shift := Nat.pow 2 value.exponent.natAbs
  if 0 ≤ value.exponent then some (value.mantissa * shift)
  else if value.mantissa % shift = 0 then some (value.mantissa / shift)
  else none

end Dyadic

namespace Decimal

/-- Whether the decimal, when read, gives the double. -/
def ReadsBackAs (decimal : Decimal) (value : Float) : Prop := decimal.toFloat = value

instance (decimal : Decimal) (value : Float) : Decidable (decimal.ReadsBackAs value) :=
  inferInstanceAs (Decidable (decimal.toFloat = value))

/-- The neighbour of a positive double on the grid of multiples of `10 ^ grid` that reads back as
it; the nearer one if both do, and the even one if they are equally near. -/
def onGrid? (value : Float) (grid : Int) : Option Decimal :=
  let ratio := (Dyadic.ofFloat value).toRatioOn grid
  let below : Decimal := ⟨ratio.1 / ratio.2, grid⟩
  let above : Decimal := ⟨ratio.1 / ratio.2 + 1, grid⟩
  let twice := 2 * (ratio.1 % ratio.2)
  let nearBelow := twice < ratio.2 ∨ twice = ratio.2 ∧ below.coefficient % 2 = 0
  if below.ReadsBackAs value then
    if above.ReadsBackAs value then some (if nearBelow then below else above) else some below
  else if above.ReadsBackAs value then some above
  else none

/-- The first success on `tries` grids, each ten times finer than the one before. -/
def firstOnGrids? (value : Float) : (tries : Nat) → (grid : Int) → Option Decimal
  | 0, _ => none
  | tries + 1, grid => (onGrid? value grid).or (firstOnGrids? value tries (grid - 1))

/-- The decimal of fewest digits that reads back as the absolute value of a finite double. -/
def shortest (value : Float) : Decimal :=
  let size := value.abs
  let exact := Dyadic.ofFloat size
  if exact.mantissa = 0 then ⟨0, 0⟩
  else
    let found := (firstOnGrids? size 17 exact.order).getD exact.toDecimal
    trimmed found.coefficient found.exponent

end Decimal

end VariablePay
