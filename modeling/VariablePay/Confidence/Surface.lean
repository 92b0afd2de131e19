import VariablePay.Confidence.Density

set_option autoImplicit false

/-!
# The confidence surface

During a run the surface collects one event for every component of every entity. It holds the
cleaned density from before the run, which does not change, and never scores anything itself.
-/

namespace VariablePay

/-- One component of one entity, computed in both ways. -/
structure ConfidenceEvent where
  signature : Signature
  entityId : String
  componentId : String
  agrees : Bool
  /-- One for agreement, zero for none. -/
  value : Float
  /-- How far the two payouts are apart. -/
  delta : Float
  deriving DecidableEq

/-- The density before a run and the events of the run, in order of arrival. -/
structure Surface where
  prior : Density
  events : List ConfidenceEvent
  deriving DecidableEq

namespace Surface

def ofDensity (density : Density) : Surface := ⟨density.cleaned, []⟩

/-- The density of a pattern before the run. -/
def priorDensity? (surface : Surface) (signature : Signature) : Option Float :=
  surface.prior.get? signature

def append (surface : Surface) (events : List ConfidenceEvent) : Surface :=
  { surface with events := surface.events ++ events }

def eventCount (surface : Surface) : Nat := surface.events.length

end Surface

end VariablePay
