import Mathlib.Data.Finset.Card
import Mathlib.Data.List.Induction
import VariablePay.Confidence.Consolidation
import VariablePay.Proofs.StringMap

set_option autoImplicit false

/-!
# What a consolidation counts

The tallies of a run count, for each pattern, the events of that pattern and those among them that
agree. The order of events is lost in them, and with it everything that a consolidation could tell
about the order.
-/

namespace VariablePay

namespace Surface

/-- The events of a pattern, counted. -/
def tallyOf (events : List ConfidenceEvent) (signature : Signature) : Tally where
  observations := events.countP fun event => event.signature == signature
  hits := events.countP fun event => event.signature == signature && event.agrees

private theorem talliesOf_concat (events : List ConfidenceEvent) (event : ConfidenceEvent) :
    talliesOf (events ++ [event]) =
      (talliesOf events).alter event.signature (Tally.count event.agrees) := by
  unfold talliesOf
  rw [List.foldl_append, List.foldl_cons, List.foldl_nil]

private theorem tallyOf_concat_self (events : List ConfidenceEvent) (event : ConfidenceEvent) :
    tallyOf (events ++ [event]) event.signature =
      Tally.count event.agrees (some (tallyOf events event.signature)) := by
  cases agrees : event.agrees <;> simp [tallyOf, Tally.count, agrees]

private theorem tallyOf_concat_of_ne {event : ConfidenceEvent} {signature : Signature}
    (other : event.signature ≠ signature) (events : List ConfidenceEvent) :
    tallyOf (events ++ [event]) signature = tallyOf events signature := by
  simp [tallyOf, other]

private theorem tallyOf_of_not_mem {events : List ConfidenceEvent} {signature : Signature}
    (absent : signature ∉ events.map ConfidenceEvent.signature) :
    tallyOf events signature = ⟨0, 0⟩ := by
  have foreign : ∀ event ∈ events, event.signature ≠ signature := fun event member same =>
    absent (List.mem_map.mpr ⟨event, member, same⟩)
  have none : events.countP (fun event => event.signature == signature) = 0 :=
    List.countP_eq_zero.mpr fun event member => by simpa using foreign event member
  have noHit : events.countP (fun event => event.signature == signature && event.agrees) = 0 :=
    List.countP_eq_zero.mpr fun event member => by simp [foreign event member]
  unfold tallyOf
  rw [none, noHit]

/-- The tallies hold just the patterns that occur, each with its count. -/
theorem get?_talliesOf (events : List ConfidenceEvent) (signature : Signature) :
    (talliesOf events).get? signature =
      if signature ∈ events.map ConfidenceEvent.signature then some (tallyOf events signature)
      else none := by
  induction events using List.reverseRecOn with
  | nil => rfl
  | append_singleton events event ih =>
      simp only [talliesOf_concat, StringMap.get?_alter, List.map_append, List.map_singleton,
        List.mem_append, List.mem_singleton]
      by_cases same : signature = event.signature
      · subst same
        rw [if_pos rfl, if_pos (.inr rfl), ih, tallyOf_concat_self]
        split
        · rfl
        · rename_i absent
          rw [tallyOf_of_not_mem absent]
          rfl
      · rw [if_neg same, ih, tallyOf_concat_of_ne (Ne.symm same)]
        simp [same]

theorem talliesOf_eq_of_perm {events others : List ConfidenceEvent} (perm : events.Perm others) :
    talliesOf events = talliesOf others := by
  refine StringMap.eq_of_get?_eq fun signature => ?_
  have sameCounts : tallyOf events signature = tallyOf others signature := by
    unfold tallyOf
    rw [perm.countP_eq, perm.countP_eq]
  rw [get?_talliesOf, get?_talliesOf, sameCounts]
  simp only [(perm.map ConfidenceEvent.signature).mem_iff]

/-- A consolidation does not depend on the order of events. -/
theorem consolidate_eq_of_perm {surface other : Surface} (prior : surface.prior = other.prior)
    (perm : surface.events.Perm other.events) (config : DensityConfig)
    (batchId tenantId : String) :
    surface.consolidate config batchId tenantId = other.consolidate config batchId tenantId := by
  have updates : surface.updates config = other.updates config := by
    unfold Surface.updates
    rw [talliesOf_eq_of_perm perm, prior]
  unfold consolidate
  rw [updates, perm.countP_eq, perm.length_eq]

/-- There is one update for each pattern that occurs. -/
theorem length_updates (surface : Surface) (config : DensityConfig) :
    (surface.updates config).length =
      (surface.events.map ConfidenceEvent.signature).toFinset.card := by
  have keys : (talliesOf surface.events).keys.toFinset =
      (surface.events.map ConfidenceEvent.signature).toFinset := by
    ext signature
    rw [List.mem_toFinset, List.mem_toFinset, StringMap.mem_keys_iff, get?_talliesOf]
    split <;> simp_all
  rw [← keys, List.toFinset_card_of_nodup (StringMap.nodup_keys _)]
  unfold Surface.updates StringMap.keys
  rw [List.length_map, List.length_map]

theorem batchId_of_mem_signals {surface : Surface} {config : DensityConfig}
    {batchId tenantId : String} {signal : TrainingSignal}
    (member : signal ∈ (surface.consolidate config batchId tenantId).signals) :
    signal.batchId = batchId := by
  rcases List.mem_cons.mp member with rfl | isAnomaly
  · rfl
  · obtain ⟨update, _, rfl⟩ := List.mem_map.mp isAnomaly
    rfl

/-- There is one signal for the run and one for each anomaly, and none of another batch. -/
theorem countP_signals (surface : Surface) (config : DensityConfig) (batchId tenantId : String) :
    let consolidation := surface.consolidate config batchId tenantId
    (consolidation.signals.countP fun signal =>
      signal.batchId == batchId && signal.kind == TrainingSignal.concordanceKind) = 1 ∧
    (consolidation.signals.countP fun signal =>
      signal.batchId == batchId && signal.kind == TrainingSignal.anomalyKind) =
        consolidation.updates.countP DensityUpdate.anomalous ∧
    ∀ other ≠ batchId, ∀ kind, (consolidation.signals.countP fun signal =>
      signal.batchId == other && signal.kind == kind) = 0 := by
  have apart : TrainingSignal.anomalyKind ≠ TrainingSignal.concordanceKind := by decide
  have ofAnomalies (chosen : TrainingSignal → Bool) (anomalies : List DensityUpdate) :
      (anomalies.map (TrainingSignal.ofAnomaly batchId tenantId)).countP chosen =
        anomalies.countP fun update => chosen (.ofAnomaly batchId tenantId update) :=
    List.countP_map
  intro consolidation
  refine ⟨?_, ?_, fun other isOther kind => List.countP_eq_zero.mpr fun signal member => ?_⟩
  case refine_3 => simp [batchId_of_mem_signals member, Ne.symm isOther]
  all_goals
    simp only [consolidation, consolidate, List.countP_cons, ofAnomalies, TrainingSignal.ofAnomaly]
  · simp [apart]
  · simp [apart.symm, List.countP_eq_length_filter]

end Surface

namespace Consolidation

/-- Every pattern is in one mode. -/
theorem modeCount_add (consolidation : Consolidation) :
    consolidation.modeCount .shadow + consolidation.modeCount .verify +
      consolidation.modeCount .trusted = consolidation.updates.length := by
  unfold modeCount
  induction consolidation.updates with
  | nil => rfl
  | cons update rest ih =>
      simp only [List.countP_cons, List.length_cons]
      cases update.mode <;> simp <;> omega

end Consolidation

theorem DensityConfig.mode_of_anomalous {config : DensityConfig} {prior : Density}
    {signature : Signature} {tally : Tally}
    (anomalous : (config.update prior signature tally).anomalous = true) :
    (config.update prior signature tally).mode = .shadow := by
  unfold update modeOf at *
  simp only at anomalous ⊢
  rw [anomalous]
  rfl

/-- An anomalous pattern stays in shadow. -/
theorem Surface.length_anomalies_le (surface : Surface) (config : DensityConfig)
    (batchId tenantId : String) :
    (surface.consolidate config batchId tenantId).anomalies.length ≤
      (surface.consolidate config batchId tenantId).modeCount .shadow := by
  unfold Consolidation.anomalies Consolidation.modeCount
  rw [← List.countP_eq_length_filter]
  refine List.countP_mono_left fun update member anomalous => decide_eq_true ?_
  obtain ⟨entry, _, rfl⟩ := List.mem_map.mp member
  exact DensityConfig.mode_of_anomalous anomalous

end VariablePay
