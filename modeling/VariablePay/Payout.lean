set_option autoImplicit false

/-!
# Payouts

Payouts are doubles. They are totalled from left to right, and two of them agree when they differ
by less than the tolerance.
-/

namespace VariablePay.Payout

/-- The amount by which payouts that agree may differ. -/
def tolerance : Float := 0.01

def agree (left right : Float) : Bool := decide ((left - right).abs < tolerance)

/-- The sum from left to right; the sum of nothing is the negative zero. -/
def total (payouts : List Float) : Float := payouts.foldl (· + ·) (-0.0)

end VariablePay.Payout
