set_option autoImplicit false

/-!
# Bands

A band covers the values from its minimum up to, but not including, its maximum. A table of bands
resolves every value: a value below the first band counts in the first, one past the last band in
the last, and one in a gap in the band below the gap.
-/

namespace VariablePay

/-- The values in `[min, max)`; a band without `max` has no upper end. -/
structure Band where
  min : Float
  max : Option Float
  label : Option String
  deriving DecidableEq

/-- A band that pays a flat value. -/
structure Tier extends Band where
  value : Float
  deriving DecidableEq

/-- A band that carries a rate; 0.05 is five percent. -/
structure RateBucket extends Band where
  rate : Float
  deriving DecidableEq

/-- How a value outside the table came to its band. -/
inductive Clamp where
  /-- The value lies below the first band. -/
  | below
  /-- The value lies at or above the maximum of the last band. -/
  | above
  deriving DecidableEq

namespace Clamp

def all : List Clamp := [below, above]

def name : Clamp → String
  | below => "below"
  | above => "above"

end Clamp

structure MatchedBand where
  index : Nat
  label : Option String
  clamped : Option Clamp
  deriving DecidableEq

namespace Band

/-- Whether the value lies in `[min, max)`. -/
def contains (band : Band) (value : Float) : Bool :=
  decide (band.min ≤ value) && band.max.all fun max => decide (value < max)

/-- The position of the last band that starts at or below the value, if any does. -/
def lastStarted? (value : Float) : List Band → Option Nat
  | [] => none
  | band :: rest =>
      match lastStarted? value rest with
      | some index => some (index + 1)
      | none => if band.min ≤ value then some 0 else none

def matched (bands : List Band) (index : Nat) (clamped : Option Clamp) : MatchedBand :=
  ⟨index, bands[index]?.bind Band.label, clamped⟩

/-- Resolves a value in a table. Only the empty table resolves nothing. -/
def resolve? (bands : List Band) (value : Float) : Option MatchedBand :=
  match bands with
  | [] => none
  | first :: rest =>
      match (first :: rest).findIdx? fun band => band.contains value with
      | some index => some (matched bands index none)
      | none =>
          if value < first.min then some (matched bands 0 (some .below))
          else
            let index := (lastStarted? value bands).getD 0
            some (matched bands index (if index = rest.length then some .above else none))

end Band

end VariablePay
