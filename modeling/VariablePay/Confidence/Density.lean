import VariablePay.Decimal.Layout
import VariablePay.Journal
import VariablePay.Plan.Signature

set_option autoImplicit false

/-!
# Density

The density of a pattern is the confidence, from 0 to 1, that both ways of computing its payouts
agree. Densities from elsewhere are cleaned first: finite scores are brought into the range, others
are dropped, and a dropped pattern counts as unseen.
-/

namespace VariablePay

/-- Scores by pattern signature. -/
abbrev Density := StringMap Float

/-- How densities follow the runs. -/
structure DensityConfig where
  /-- The weight of a run's match ratio in the new density. -/
  decay : Float
  /-- The density of a pattern that has none yet. -/
  initialDensity : Float
  /-- A pattern is anomalous when its match ratio falls more than this below its density. -/
  anomalyThreshold : Float
  /-- The density from which a pattern counts as trusted. -/
  trustedThreshold : Float
  /-- The density below which a pattern stays in shadow. -/
  shadowThreshold : Float
  deriving DecidableEq

/-- The nearest number in the range from `low` to `high`. -/
def clampFloat (low high value : Float) : Float :=
  if value < low then low else if high < value then high else value

namespace Density

/-- The density with finite scores only, all of them from 0 to 1. -/
def cleaned (density : Density) : Density :=
  density.filterMap fun _ score => if score.isFinite then some (clampFloat 0.0 1.0 score) else none

def cleaningNotes (density : Density) : List Note :=
  density.entries.filterMap fun entry =>
    if entry.2.isFinite then none
    else some
      ⟨.warn, s!"dropping non-finite prior density {messageText entry.2} for {entry.1}"⟩

end Density

end VariablePay
