import Mathlib.Algebra.BigOperators.Group.Finset.Basic
import VariablePay.Proofs.Confidence.Evolution

set_option autoImplicit false

/-!
# The account of a run's events

Every event is counted for its own pattern, so that the counts of the updates add up to the totals
of the run. Whatever the settings and the density before the run are, a pattern is flagged in one
update and told of in one signal.
-/

namespace VariablePay

namespace TrainingSignal

/-- The count that the payload of a signal gives under a name. -/
def count? (signal : TrainingSignal) (name : String) : Option Nat :=
  match signal.payload with
  | .object members =>
      match members.lookup name.toList with
      | some (.number numeral) => numeral.natural?
      | _ => none
  | _ => none

/-- Whether a signal sums up a run. -/
structure SumsUp (signal : TrainingSignal) (consolidation : Consolidation)
    (batchId tenantId : String) : Prop where
  kind : signal.kind = "dual_path_concordance"
  batchId : signal.batchId = batchId
  tenantId : signal.tenantId = tenantId
  signature : signal.signature = none
  compared : signal.count? "components_compared" = some consolidation.eventsTotal
  agreeing : signal.count? "components_matched" = some consolidation.eventsMatched
  patterns : signal.count? "patterns" = some consolidation.updates.length
  anomalies : signal.count? "anomalies" = some consolidation.anomalies.length

/-- Whether a signal tells of an anomaly. -/
structure TellsOf (signal : TrainingSignal) (update : DensityUpdate) (batchId tenantId : String) :
    Prop where
  kind : signal.kind = "density_anomaly"
  batchId : signal.batchId = batchId
  tenantId : signal.tenantId = tenantId
  signature : signal.signature = some update.signature
  observations : signal.count? "observations" = some update.observations

end TrainingSignal

/-- Whether the match ratio of an update is too far below the density before, which counts only if
it is finite, and then as a score. -/
def DensityUpdate.IsDrop (update : DensityUpdate) (config : DensityConfig) (density : Density) :
    Prop :=
  ∃ score, density.get? update.signature = some score ∧ score.isFinite = true ∧
    config.anomalyThreshold < clampFloat 0.0 1.0 score - update.matchRatio

/-- What a consolidation says of the events of a run that starts from a density. -/
structure Consolidation.AccountsFor (consolidation : Consolidation) (config : DensityConfig)
    (density : Density) (events : List ConfidenceEvent) (batchId tenantId : String) : Prop where
  /-- Each pattern that occurs has one update, in the order of signatures. -/
  ascending : consolidation.updates.Pairwise fun left right => left.signature < right.signature
  occurring : ∀ signature, signature ∈ consolidation.updates.map DensityUpdate.signature ↔
    signature ∈ events.map ConfidenceEvent.signature
  /-- An update counts the events of its pattern, and those of them that agree. -/
  counted : ∀ update ∈ consolidation.updates,
    update.observations = (events.countP fun event => event.signature == update.signature) ∧
    update.hits =
      (events.countP fun event => event.signature == update.signature && event.agrees) ∧
    1 ≤ update.observations ∧ update.hits ≤ update.observations ∧
    update.matchRatio = Float.ofNat update.hits / Float.ofNat update.observations
  /-- No event is lost, and none is counted twice. -/
  totals : consolidation.eventsTotal = events.length ∧
    consolidation.eventsMatched = events.countP ConfidenceEvent.agrees ∧
    (consolidation.updates.map DensityUpdate.observations).sum = consolidation.eventsTotal ∧
    (consolidation.updates.map DensityUpdate.hits).sum = consolidation.eventsMatched
  /-- Just the patterns that drop are anomalous, and stay in shadow. -/
  flagged : ∀ update ∈ consolidation.updates,
    (update.anomalous = true ↔ update.IsDrop config density) ∧
    (update.anomalous = true → update.mode = .shadow)
  /-- One signal sums up the run, and one tells of each anomaly, in the order of updates. -/
  signalled : ∃ summary others, consolidation.signals = summary :: others ∧
    summary.SumsUp consolidation batchId tenantId ∧
    List.Forall₂ (fun update signal => signal.TellsOf update batchId tenantId)
      (consolidation.updates.filter DensityUpdate.anomalous) others

namespace Density

variable (density : Density) (config : DensityConfig) (events : List ConfidenceEvent)

theorem ascending_updatesOf :
    (density.updatesOf config events).Pairwise fun left right =>
      left.signature < right.signature :=
  List.pairwise_map.mpr (Surface.talliesOf events).sorted

theorem nodup_signatures_updatesOf :
    ((density.updatesOf config events).map DensityUpdate.signature).Nodup :=
  List.pairwise_map.mpr ((density.ascending_updatesOf config events).imp String.ne_of_lt)

theorem mem_signatures_updatesOf {signature : Signature} :
    signature ∈ (density.updatesOf config events).map DensityUpdate.signature ↔
      signature ∈ events.map ConfidenceEvent.signature := by
  constructor
  · intro member
    obtain ⟨update, inUpdates, rfl⟩ := List.mem_map.mp member
    exact (update_of_mem inUpdates).1
  · intro occurs
    obtain ⟨update, member, same⟩ := density.exists_update config occurs
    exact List.mem_map.mpr ⟨update, member, same⟩

/-- The events of any kind are those of the patterns that have updates, added up. -/
theorem sum_countP_updatesOf (chosen : ConfidenceEvent → Bool) :
    ((density.updatesOf config events).map fun update =>
        events.countP fun event => event.signature == update.signature && chosen event).sum =
      events.countP chosen := by
  let signatures := (density.updatesOf config events).map DensityUpdate.signature
  let found := (events.filter chosen).map ConfidenceEvent.signature
  have counts (signature : Signature) :
      (events.countP fun event => event.signature == signature && chosen event) =
        found.count signature := by
    rw [List.count, List.countP_map, List.countP_filter]
    rfl
  have covered : ∀ signature ∈ (found : Multiset Signature), signature ∈ signatures.toFinset := by
    intro signature member
    obtain ⟨event, inChosen, rfl⟩ := List.mem_map.mp (Multiset.mem_coe.mp member)
    rw [List.mem_toFinset, mem_signatures_updatesOf]
    exact List.mem_map_of_mem (List.mem_of_mem_filter inChosen)
  calc ((density.updatesOf config events).map fun update =>
        events.countP fun event => event.signature == update.signature && chosen event).sum
      = (signatures.map found.count).sum := by
        simp only [counts, signatures, List.map_map]
        rfl
    _ = ∑ signature ∈ signatures.toFinset, (found : Multiset Signature).count signature := by
        simp only [Multiset.coe_count]
        exact (List.sum_toFinset _ (density.nodup_signatures_updatesOf config events)).symm
    _ = found.length := (Multiset.sum_count_eq_card covered).trans (Multiset.coe_card found)
    _ = events.countP chosen := by
        rw [List.length_map, List.countP_eq_length_filter]

variable {density config events} {update : DensityUpdate}

theorem observations_of_mem (member : update ∈ density.updatesOf config events) :
    update.observations =
      events.countP fun event => event.signature == update.signature :=
  congrArg DensityUpdate.observations (update_of_mem member).2

theorem hits_of_mem (member : update ∈ density.updatesOf config events) :
    update.hits =
      events.countP fun event => event.signature == update.signature && event.agrees :=
  congrArg DensityUpdate.hits (update_of_mem member).2

theorem matchRatio_of_mem (member : update ∈ density.updatesOf config events) :
    update.matchRatio = Float.ofNat update.hits / Float.ofNat update.observations := by
  obtain ⟨occurs, made⟩ := update_of_mem member
  have ratio := congrArg DensityUpdate.matchRatio made
  rw [hits_of_mem member, observations_of_mem member]
  unfold DensityConfig.update share? at ratio
  rwa [if_pos (Surface.observations_pos occurs)] at ratio

/-- A pattern without a finite score before the run is never anomalous. -/
theorem anomalous_iff_isDrop (member : update ∈ density.updatesOf config events) :
    update.anomalous = true ↔ update.IsDrop config density := by
  obtain ⟨_, made⟩ := update_of_mem member
  have flagged : update.anomalous =
      config.isAnomalous (density.cleaned.get? update.signature) update.matchRatio := by
    rw [congrArg DensityUpdate.matchRatio made]
    exact congrArg DensityUpdate.anomalous made
  rw [flagged, DensityConfig.isAnomalous, get?_cleaned, DensityUpdate.IsDrop]
  cases density.get? update.signature with
  | none => simp
  | some score => by_cases finite : score.isFinite = true <;> simp [finite]

theorem shadow_of_anomalous (member : update ∈ density.updatesOf config events)
    (anomalous : update.anomalous = true) : update.mode = .shadow := by
  rw [mode_of_mem member, DensityConfig.modeOf, anomalous]
  rfl

end Density

/-- For every density, all settings and every list of events the consolidation counts each event
once, and flags each anomaly once and tells of it once. -/
theorem Surface.consolidate_accountsFor (density : Density) (config : DensityConfig)
    (events : List ConfidenceEvent) (batchId tenantId : String) :
    (((Surface.ofDensity density).append events).consolidate config batchId tenantId).AccountsFor
      config density events batchId tenantId := by
  constructor
  case ascending => exact density.ascending_updatesOf config events
  case occurring => exact fun signature => density.mem_signatures_updatesOf config events
  case counted =>
    intro update member
    have observations := Density.observations_of_mem member
    have hits := Density.hits_of_mem member
    have positive := observations_pos (Density.update_of_mem member).1
    have inside := hits_le_observations events update.signature
    rw [tallyOf, ← observations] at positive inside
    rw [← hits] at inside
    exact ⟨observations, hits, positive, inside, Density.matchRatio_of_mem member⟩
  case totals =>
    refine ⟨rfl, rfl, ?_, ?_⟩
    · have sum := density.sum_countP_updatesOf config events fun _ => true
      simp only [Bool.and_true, List.countP_true] at sum
      exact (congrArg List.sum (List.map_congr_left fun update member =>
        Density.observations_of_mem member)).trans sum
    · exact (congrArg List.sum (List.map_congr_left fun update member =>
        Density.hits_of_mem member)).trans
          (density.sum_countP_updatesOf config events ConfidenceEvent.agrees)
  case flagged =>
    exact fun update member =>
      ⟨Density.anomalous_iff_isDrop member, Density.shadow_of_anomalous member⟩
  case signalled =>
    refine ⟨_, _, rfl, ?_, List.forall₂_map_right_iff.mpr (List.forall₂_same.mpr ?_)⟩
    · constructor <;> rfl
    · intro update _
      constructor <;> rfl

end VariablePay
