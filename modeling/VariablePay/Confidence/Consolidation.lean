import VariablePay.Confidence.Surface
import VariablePay.Decimal.Fixed

set_option autoImplicit false

/-!
# Consolidation

After a run the events of its surface are counted by pattern, and each pattern's density moves
toward the share of matches: the new density is the blend
`(1 - decay) · density + decay · ratio`, kept between the two. A pattern whose ratio drops sharply
below its density is anomalous.
-/

namespace VariablePay

/-- What a density advises. Both ways are always computed today. -/
inductive ExecutionMode where
  | shadow
  | verify
  | trusted
  deriving DecidableEq

namespace ExecutionMode

/-- All modes, from the least to the most confident. -/
def all : List ExecutionMode := [shadow, verify, trusted]

def name : ExecutionMode → String
  | shadow => "shadow"
  | verify => "verify"
  | trusted => "trusted"

def ofName? (text : String) : Option ExecutionMode := all.find? fun mode => mode.name == text

end ExecutionMode

structure DensityUpdate where
  signature : Signature
  /-- The density before the run, if there was one. -/
  priorDensity : Option Float
  newDensity : Float
  observations : Nat
  hits : Nat
  matchRatio : Float
  anomalous : Bool
  mode : ExecutionMode
  deriving DecidableEq

/-- How often a pattern was seen and how often it matched. -/
structure Tally where
  observations : Nat
  hits : Nat
  deriving DecidableEq

namespace Tally

def count (agrees : Bool) (tally : Option Tally) : Tally :=
  let before := tally.getD ⟨0, 0⟩
  ⟨before.observations + 1, if agrees then before.hits + 1 else before.hits⟩

end Tally

/-- The share of a part in a whole that is not empty. -/
def share? (part whole : Nat) : Option Float :=
  if 0 < whole then some (Float.ofNat part / Float.ofNat whole) else none

/-- The lesser of two numbers, the other one if one of them is none. -/
def lesser (left right : Float) : Float :=
  if left.isNaN then right else if right < left then right else left

/-- The greater of two numbers, the other one if one of them is none. -/
def greater (left right : Float) : Float :=
  if left.isNaN then right else if left < right then right else left

namespace DensityConfig

/-- The density between `base` and `ratio` by the weight of the run. Rounding does not push it out
of the range between the two. -/
def blend (config : DensityConfig) (base ratio : Float) : Float :=
  clampFloat (lesser base ratio) (greater base ratio)
    ((1.0 - config.decay) * base + config.decay * ratio)

def modeOf (config : DensityConfig) (anomalous : Bool) (density : Float) : ExecutionMode :=
  if anomalous || decide (density < config.shadowThreshold) then .shadow
  else if config.trustedThreshold ≤ density then .trusted
  else .verify

/-- Whether a match ratio falls too far below the density before it. -/
def isAnomalous (config : DensityConfig) (prior : Option Float) (ratio : Float) : Bool :=
  prior.any fun density => decide (config.anomalyThreshold < density - ratio)

def update (config : DensityConfig) (prior : Density) (signature : Signature) (tally : Tally) :
    DensityUpdate :=
  let before := prior.get? signature
  let ratio := (share? tally.hits tally.observations).getD 1.0
  let density := config.blend (before.getD config.initialDensity) ratio
  let anomalous := config.isAnomalous before ratio
  { signature := signature
    priorDensity := before
    newDensity := density
    observations := tally.observations
    hits := tally.hits
    matchRatio := ratio
    anomalous := anomalous
    mode := config.modeOf anomalous density }

end DensityConfig

/-- What a run tells about itself for later training. -/
structure TrainingSignal where
  kind : String
  batchId : String
  tenantId : String
  signature : Option Signature
  payload : Json

namespace TrainingSignal

def concordanceKind : String := "dual_path_concordance"

def anomalyKind : String := "density_anomaly"

/-- What the concordance signal says, its members in the order of their names. -/
def concordancePayload (compared agreeing patterns anomalies : Nat) : Json :=
  .object
    [Json.member "anomalies" (.ofNat anomalies),
      Json.member "components_compared" (.ofNat compared),
      Json.member "components_matched" (.ofNat agreeing),
      Json.member "concordance" ((Codec.float .number).nullable.encode (share? agreeing compared)),
      Json.member "patterns" (.ofNat patterns)]

/-- What an anomaly signal says, its members in the order of their names. -/
def anomalyPayload (update : DensityUpdate) : Json :=
  .object
    [Json.member "match_ratio" (FloatForm.number.write update.matchRatio),
      Json.member "new_density" (FloatForm.number.write update.newDensity),
      Json.member "observations" (.ofNat update.observations),
      Json.member "prior_density" ((Codec.float .number).nullable.encode update.priorDensity)]

def ofAnomaly (batchId tenantId : String) (update : DensityUpdate) : TrainingSignal :=
  ⟨anomalyKind, batchId, tenantId, some update.signature, anomalyPayload update⟩

end TrainingSignal

structure Consolidation where
  /-- One update for each pattern of the run, in the order of signatures. -/
  updates : List DensityUpdate
  signals : List TrainingSignal
  eventsTotal : Nat
  eventsMatched : Nat

namespace Consolidation

def anomalies (consolidation : Consolidation) : List DensityUpdate :=
  consolidation.updates.filter DensityUpdate.anomalous

def modeCount (consolidation : Consolidation) (mode : ExecutionMode) : Nat :=
  consolidation.updates.countP fun update => update.mode = mode

/-- The share of events that agree, if there are events. -/
def concordance? (consolidation : Consolidation) : Option Float :=
  share? consolidation.eventsMatched consolidation.eventsTotal

end Consolidation

namespace Surface

def talliesOf (events : List ConfidenceEvent) : StringMap Tally :=
  events.foldl (fun tallies event => tallies.alter event.signature (Tally.count event.agrees))
    .empty

def updates (surface : Surface) (config : DensityConfig) : List DensityUpdate :=
  (talliesOf surface.events).entries.map fun entry => config.update surface.prior entry.1 entry.2

def consolidate (surface : Surface) (config : DensityConfig) (batchId tenantId : String) :
    Consolidation :=
  let updates := surface.updates config
  let anomalies := updates.filter DensityUpdate.anomalous
  let matched := surface.events.countP ConfidenceEvent.agrees
  let concordance : TrainingSignal :=
    ⟨TrainingSignal.concordanceKind, batchId, tenantId, none,
      TrainingSignal.concordancePayload surface.events.length matched updates.length
        anomalies.length⟩
  { updates := updates
    signals := concordance :: anomalies.map (TrainingSignal.ofAnomaly batchId tenantId)
    eventsTotal := surface.events.length
    eventsMatched := matched }

end Surface

namespace DensityUpdate

def base (config : DensityConfig) (update : DensityUpdate) : Float :=
  update.priorDensity.getD config.initialDensity

def anomalyNote (config : DensityConfig) (batchId : String) (update : DensityUpdate) : Note :=
  ⟨.warn, s!"batch={batchId} density anomaly on {update.signature}: " ++
    s!"match ratio {fixedText 3 update.matchRatio} vs prior {fixedText 3 (update.base config)}"⟩

def densityNote (config : DensityConfig) (batchId : String) (update : DensityUpdate) : Note :=
  ⟨.debug, s!"batch={batchId} pattern {update.signature} density " ++
    s!"{fixedText 3 (update.base config)} -> {fixedText 3 update.newDensity} ({update.mode.name})"⟩

end DensityUpdate

/-- The notes on a consolidation: its anomalies, then all updates. -/
def Consolidation.notes (consolidation : Consolidation) (config : DensityConfig)
    (batchId : String) : List Note :=
  consolidation.anomalies.map (DensityUpdate.anomalyNote config batchId) ++
    consolidation.updates.map (DensityUpdate.densityNote config batchId)

end VariablePay
