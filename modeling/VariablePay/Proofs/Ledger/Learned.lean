import VariablePay.Proofs.Confidence.Evolution
import VariablePay.Proofs.Ledger.Loads
import VariablePay.Proofs.Run.Cases

set_option autoImplicit false

/-!
# Densities that a ledger has learned

The updates of a run go to the densities of one tenant, to their history and nowhere else. As a
tenant has one density for a pattern, what is read afterwards is the last update of each pattern.
-/

namespace VariablePay.Ledger

open Activity

/-- There is a place for all that is learned, and one density for a pattern of a tenant. -/
structure HoldsDensities (ledger : Ledger) : Prop where
  densities : ledger.densities.isSome = true
  history : ledger.history.isSome = true
  signals : ledger.signals.isSome = true
  keyed : ((ledger.densities.getD []).map fun row => (row.tenantId, row.signature)).Nodup

def scoresIn (rows : List DensityRow) (tenantId : String) : Density :=
  .ofList ((rows.filter fun row => row.tenantId == tenantId).map fun row =>
    (row.signature, row.density))

def scoresOf (ledger : Ledger) (tenantId : String) : Density :=
  scoresIn (ledger.densities.getD []) tenantId

theorem densityOf_eq (ledger : Ledger) (tenantId : String) :
    ledger.densityOf tenantId = (ledger.scoresOf tenantId).cleaned := rfl

section

variable {rows : List DensityRow} {tenantId signature : String}

theorem isDensityOf_iff {row : DensityRow} : isDensityOf tenantId signature row = true ↔
    (row.tenantId, row.signature) = (tenantId, signature) := by
  simp [isDensityOf]

theorem get?_scoresIn (keyed : (rows.map fun row => (row.tenantId, row.signature)).Nodup) :
    (scoresIn rows tenantId).get? signature =
      (rows.find? (isDensityOf tenantId signature)).map DensityRow.density := by
  induction rows using List.reverseRecOn with
  | nil => rfl
  | append_singleton rows last ih =>
      rw [List.map_append, List.nodup_append] at keyed
      obtain ⟨keyed, _, apart⟩ := keyed
      have ih := ih keyed
      unfold scoresIn at ih ⊢
      rw [List.filter_append, List.map_append, List.find?_append]
      by_cases isOwn : last.tenantId = tenantId
      · have own : [last].filter (fun row => row.tenantId == tenantId) = [last] := by simp [isOwn]
        rw [own, List.map_singleton, StringMap.ofList_concat, StringMap.get?_insert, ih]
        by_cases isMeant : signature = last.signature
        · have none : rows.find? (isDensityOf tenantId signature) = none := by
            refine List.find?_eq_none.mpr fun row member same => ?_
            refine apart _ (List.mem_map_of_mem member) (last.tenantId, last.signature)
              (by simp) ?_
            rw [isDensityOf_iff.mp same, isOwn, isMeant]
          rw [none]
          simp [isMeant, isOwn, isDensityOf]
        · simp [isMeant, Ne.symm isMeant, isDensityOf]
      · have foreign : [last].filter (fun row => row.tenantId == tenantId) = [] := by simp [isOwn]
        rw [foreign, List.map_nil, List.append_nil, ih]
        simp [isDensityOf, isOwn]

end

def densityRow (tenantId : String) (update : DensityUpdate) (old : Option DensityRow) :
    DensityRow :=
  ⟨tenantId, update.signature, update.newDensity, update.mode.name,
    (old.map fun row => row.observations.add (.ofCount update.observations)).getD
      (.ofCount update.observations)⟩

section

variable {rows : List DensityRow}

def learnedRows (tenantId : String) (update : DensityUpdate) : List DensityRow → List DensityRow :=
  upsert (isDensityOf tenantId update.signature) (densityRow tenantId update)

theorem nodup_learnedRows (keyed : (rows.map fun row => (row.tenantId, row.signature)).Nodup)
    (tenantId : String) (update : DensityUpdate) :
    ((learnedRows tenantId update rows).map fun row => (row.tenantId, row.signature)).Nodup := by
  have told : ∀ row, isDensityOf tenantId update.signature row = true ↔
      (row.tenantId, row.signature) = (tenantId, update.signature) := fun row => isDensityOf_iff
  exact nodup_upsert told (fun old => rfl) keyed

/-- One density is replaced, and all others stay. -/
theorem scoresIn_learnedRows (keyed : (rows.map fun row => (row.tenantId, row.signature)).Nodup)
    (tenantId : String) (update : DensityUpdate) (other : String) :
    scoresIn (learnedRows tenantId update rows) other =
      if other = tenantId then (scoresIn rows other).insert update.signature update.newDensity
      else scoresIn rows other := by
  have replaced : ∀ old, isDensityOf tenantId update.signature (densityRow tenantId update old) :=
    fun old => isDensityOf_iff.mpr rfl
  refine StringMap.eq_of_get?_eq fun signature => ?_
  rw [get?_scoresIn (nodup_learnedRows keyed tenantId update)]
  by_cases isMeant : (other, signature) = (tenantId, update.signature)
  · cases isMeant
    rw [if_pos rfl, StringMap.get?_insert, if_pos rfl]
    exact congrArg (Option.map DensityRow.density) (find?_upsert _ _ replaced rows)
  · have apart : ∀ row, isDensityOf tenantId update.signature row = true →
        isDensityOf other signature row = false := fun row same =>
      Bool.eq_false_iff.mpr fun also =>
        isMeant ((isDensityOf_iff.mp also).symm.trans (isDensityOf_iff.mp same))
    unfold learnedRows
    rw [find?_upsert_of_other apart replaced, ← get?_scoresIn keyed]
    split
    · rename_i isOwn
      rw [StringMap.get?_insert, if_neg fun same => isMeant (by rw [isOwn, same])]
    · rfl

end

def historyRow (tenantId : String) (update : DensityUpdate) : HistoryRow :=
  ⟨tenantId, update.signature, update.priorDensity.bind realColumn, update.newDensity,
    update.matchRatio, update.anomalous⟩

def signalRow (signal : TrainingSignal) : SignalRow :=
  ⟨signal.tenantId, signal.batchId, signal.kind, signal.signature, signal.payload.normal.compact⟩

def withUpdate (ledger : Ledger) (tenantId : String) (update : DensityUpdate) : Ledger :=
  { ledger with
    densities := ledger.densities.map (learnedRows tenantId update)
    history := ledger.history.map (· ++ [historyRow tenantId update]) }

section

variable {ledger before after : Ledger} {tenantId : String} {update : DensityUpdate}
  {updates : List DensityUpdate} {signals : List TrainingSignal}

theorem keepUpdate_yields (holds : ledger.HoldsDensities) (unsigned : update.IsUnsigned) :
    (Activity.bind (keepDensity tenantId update) fun _ => keepHistory tenantId update).Yields ledger
      (.ok ()) (ledger.withUpdate tenantId update) := by
  obtain ⟨rows, present⟩ := Option.isSome_iff_exists.mp holds.densities
  obtain ⟨past, pastPresent⟩ := Option.isSome_iff_exists.mp holds.history
  have density : (keepDensity tenantId update).Yields ledger (.ok ())
      { ledger with densities := some (learnedRows tenantId update rows) } := by
    unfold keepDensity
    rw [requiredReal_eq unsigned.newDensity.realColumn_eq]
    exact .bind (rowsOf_yields present) (.bind (.pure _) ⟨rfl, rfl⟩)
  refine .bind density ?_
  unfold keepHistory withUpdate
  rw [requiredReal_eq unsigned.newDensity.realColumn_eq,
    requiredReal_eq unsigned.matchRatio.realColumn_eq, present, pastPresent]
  exact .bind (@rowsOf_yields _ Ledger.history _ past rfl)
    (.bind (.pure _) (.bind (.pure _) ⟨rfl, rfl⟩))

theorem HoldsDensities.withUpdate (holds : ledger.HoldsDensities) (tenantId : String)
    (update : DensityUpdate) : (ledger.withUpdate tenantId update).HoldsDensities := by
  obtain ⟨rows, present⟩ := Option.isSome_iff_exists.mp holds.densities
  have keyed := holds.keyed
  rw [present, Option.getD_some] at keyed
  unfold Ledger.withUpdate
  rw [present]
  constructor
  case densities => rfl
  case history => rw [Option.isSome_map, holds.history]
  case signals => exact holds.signals
  case keyed => exact nodup_learnedRows keyed tenantId update

theorem HoldsDensities.scoresOf_withUpdate (holds : ledger.HoldsDensities) (other : String) :
    (ledger.withUpdate tenantId update).scoresOf other =
      if other = tenantId then (ledger.scoresOf other).insert update.signature update.newDensity
      else ledger.scoresOf other := by
  obtain ⟨rows, present⟩ := Option.isSome_iff_exists.mp holds.densities
  have keyed := holds.keyed
  unfold scoresOf Ledger.withUpdate
  rw [present] at keyed ⊢
  exact scoresIn_learnedRows keyed tenantId update other

/-- A ledger has learned the updates of a tenant, with signals. -/
structure HasLearned (before : Ledger) (tenantId : String) (updates : List DensityUpdate)
    (signals : List TrainingSignal) (after : Ledger) : Prop where
  holds : after.HoldsDensities
  scores : after.scoresOf tenantId = MemoryStore.updated (before.scoresOf tenantId) updates
  others : ∀ other ≠ tenantId, after.scoresOf other = before.scoresOf other
  history : after.history = before.history.map (· ++ updates.map (historyRow tenantId))
  signals : after.signals = before.signals.map (· ++ signals.map signalRow)

theorem HasLearned.nil (holds : before.HoldsDensities) :
    before.HasLearned tenantId [] [] before := by
  refine ⟨holds, rfl, fun _ _ => rfl, ?_, ?_⟩ <;> simp

theorem HasLearned.cons (holds : before.HoldsDensities)
    (learned : (before.withUpdate tenantId update).HasLearned tenantId updates signals after) :
    before.HasLearned tenantId (update :: updates) signals after := by
  constructor
  case holds => exact learned.holds
  case scores =>
    rw [learned.scores, holds.scoresOf_withUpdate, if_pos rfl]
    rfl
  case others =>
    intro other isOther
    rw [learned.others other isOther, holds.scoresOf_withUpdate, if_neg isOther]
  case history =>
    rw [learned.history]
    simp [withUpdate, Function.comp_def]
  case signals => exact learned.signals

/-- Updates of numbers that a column keeps are learned, one after the other. -/
theorem applyUpdates_yields (tenantId : String) (holds : before.HoldsDensities)
    (unsigned : ∀ update ∈ updates, update.IsUnsigned) :
    ∃ after, (applyUpdates tenantId updates).Yields before (.ok ()) after ∧
      before.HasLearned tenantId updates [] after := by
  suffices learns : ∃ after, (Activity.forEach (fun update =>
      Activity.bind (keepDensity tenantId update) fun _ => keepHistory tenantId update)
      updates).Yields before (.ok ()) after ∧ before.HasLearned tenantId updates [] after from
    learns.imp fun _ learns => ⟨learns.1.transaction, learns.2⟩
  induction updates generalizing before with
  | nil => exact ⟨before, .pure (), .nil holds⟩
  | cons update rest ih =>
      obtain ⟨first, later⟩ := List.forall_mem_cons.mp unsigned
      obtain ⟨after, yields, learned⟩ := ih (holds.withUpdate tenantId update) later
      exact ⟨after, .bind (keepUpdate_yields holds first) yields, .cons holds learned⟩

theorem insertSignals_yields {rows : List SignalRow} (present : ledger.signals = some rows)
    (signals : List TrainingSignal) :
    (insertSignals signals).Yields ledger (.ok ())
      { ledger with signals := some (rows ++ signals.map signalRow) } := by
  refine .transaction ?_
  induction signals generalizing ledger rows with
  | nil =>
      rw [List.map_nil, List.append_nil, ← present]
      exact .pure ()
  | cons signal rest ih =>
      have kept : (keepSignal signal).Yields ledger (.ok ())
          { ledger with signals := some (rows ++ [signalRow signal]) } :=
        .bind (rowsOf_yields present) ⟨rfl, rfl⟩
      have later := @ih { ledger with signals := some (rows ++ [signalRow signal]) } _ rfl
      rw [List.append_assoc] at later
      exact kept.bind later

/-- What a run dispatches is learned. -/
theorem exists_hasLearned_of_dispatch (holds : before.HoldsDensities) {batch : CalculationBatch}
    {consolidation : Consolidation}
    (unsigned : ∀ update ∈ consolidation.updates, update.IsUnsigned) :
    ∃ after, (asStore.dispatch batch consolidation).Yields before (.ok ()) after ∧
      before.HasLearned batch.tenantId consolidation.updates consolidation.signals after := by
  obtain ⟨middle, saved, learned⟩ := applyUpdates_yields batch.tenantId holds unsigned
  obtain ⟨rows, present⟩ := Option.isSome_iff_exists.mp holds.signals
  have same := learned.signals
  rw [present, Option.map_some, List.map_nil, List.append_nil] at same
  have sent := insertSignals_yields same consolidation.signals
  refine ⟨_, Store.dispatch_yields saved sent, ?_⟩
  constructor
  case holds => exact ⟨learned.holds.densities, learned.holds.history, rfl, learned.holds.keyed⟩
  case scores => exact learned.scores
  case others => exact learned.others
  case history => exact learned.history
  case signals => rw [present, Option.map_some]

theorem anomalousCount_yields {past : List HistoryRow} (present : ledger.history = some past)
    (tenantId : String) :
    (anomalousCount tenantId).Yields ledger
      (.ok (past.countP fun row => row.tenantId == tenantId && row.anomalous)) ledger :=
  .bind (rowsOf_yields present) (.pure _)

theorem HasLearned.anomalousCount (learned : before.HasLearned tenantId updates signals after)
    (holds : before.HoldsDensities) (other : String) :
    ∃ count, (Ledger.anomalousCount other before).result = .ok count ∧
      (Ledger.anomalousCount other after).result =
        .ok (count + if other = tenantId then updates.countP DensityUpdate.anomalous else 0) := by
  obtain ⟨past, present⟩ := Option.isSome_iff_exists.mp holds.history
  have later := learned.history
  rw [present, Option.map_some] at later
  have added : (updates.map (historyRow tenantId)).countP
      (fun row => row.tenantId == other && row.anomalous) =
        if other = tenantId then updates.countP DensityUpdate.anomalous else 0 := by
    rw [List.countP_map]
    split
    · rename_i isOwn
      simp [historyRow, isOwn, Function.comp_def]
    · rename_i isOther
      simp [historyRow, Ne.symm isOther]
  refine ⟨_, (anomalousCount_yields present other).result, ?_⟩
  rw [(anomalousCount_yields later other).result, List.countP_append, added]

theorem signalCount_yields {rows : List SignalRow} (present : ledger.signals = some rows)
    (batchId kind : String) :
    (signalCount batchId kind).Yields ledger
      (.ok (rows.countP fun row => row.batchId == batchId && row.kind == kind)) ledger :=
  .bind (rowsOf_yields present) (.pure _)

theorem HasLearned.signalCount (learned : before.HasLearned tenantId updates signals after)
    (holds : before.HoldsDensities) (batchId kind : String) :
    ∃ count, (Ledger.signalCount batchId kind before).result = .ok count ∧
      (Ledger.signalCount batchId kind after).result = .ok (count +
        signals.countP fun signal => signal.batchId == batchId && signal.kind == kind) := by
  obtain ⟨rows, present⟩ := Option.isSome_iff_exists.mp holds.signals
  have later := learned.signals
  rw [present, Option.map_some] at later
  refine ⟨_, (signalCount_yields present batchId kind).result, ?_⟩
  rw [(signalCount_yields later batchId kind).result, List.countP_append, List.countP_map]
  rfl

end

end VariablePay.Ledger
