import VariablePay.Proofs.Batch.Latest
import VariablePay.Proofs.Batch.Result
import VariablePay.Proofs.Ledger.Batches
import VariablePay.Proofs.Ledger.Densities
import VariablePay.Proofs.Ledger.Inputs
import VariablePay.Proofs.Outcome

set_option autoImplicit false

/-!
# Results in the ledger

A result is kept unless one of its totals is `NaN`. A batch is kept with all of its results, or not
at all. Results of finite numbers are read back with their totals, but for the sign of a zero, and
with all other numbers as they are read from their own digits.
-/

namespace VariablePay

namespace EntityResult

/-- A result as it is kept: a total of zero has no sign. -/
def asKept (result : EntityResult) : EntityResult :=
  { result with total := if result.total == 0.0 then 0.0 else result.total }

/-- A kept result as it is read: its total stands in a column, all other numbers in texts. -/
def asRead (result : EntityResult) : EntityResult :=
  { result.asKept with
    components := result.components.map ComponentResult.reread
    dualPath := result.dualPath.reread }

/-- Whether all numbers of a result that stand in texts are read as themselves from their own
digits. -/
@[mk_iff]
structure ReadsBack (result : EntityResult) : Prop where
  components : result.components.map ComponentResult.reread = result.components
  dualPath : result.dualPath.reread = result.dualPath

instance (result : EntityResult) : Decidable result.ReadsBack :=
  decidable_of_iff' _ result.readsBack_iff

theorem asRead_eq_asKept_iff {result : EntityResult} :
    result.asRead = result.asKept ↔ result.ReadsBack := by
  rw [readsBack_iff]
  unfold asRead asKept
  simp only [EntityResult.mk.injEq, true_and]

/-- Whether a result comes before another one, or is about the same entity. -/
def precedes (left right : EntityResult) : Bool := decide (left.entityId ≤ right.entityId)

end EntityResult

namespace Ledger

def resultRow (batchId : String) (result : EntityResult) : ResultRow where
  batchId := batchId
  entityId := result.entityId
  variantId := result.variantId
  total := (realColumn result.total).getD 0.0
  components := (ComponentResult.codec .number).list.write result.components
  dualPath := (DualPathRecord.codec .number).write result.dualPath

/-- The rows of results with one more, in the place of an earlier one of the same entity. -/
def keepResult (batchId : String) (rows : List ResultRow) (result : EntityResult) :
    List ResultRow :=
  (rows.filter fun old => !isResultOf batchId result.entityId old) ++ [resultRow batchId result]

/-- Whether both totals of a result are numbers. -/
structure HasTotals (result : EntityResult) : Prop where
  total : result.total.isNaN = false
  executedTotal : result.dualPath.executedTotal.isNaN = false

variable {ledger : Ledger} {batchId : String}

theorem writeResult_yields {rows : List ResultRow} {result : EntityResult}
    (present : ledger.results = some rows) (numbers : HasTotals result) :
    (writeResult batchId result).Yields ledger (.ok ())
      { ledger with results := some (keepResult batchId rows result) } := by
  obtain ⟨total, totalKept⟩ := exists_of_realColumn numbers.total
  obtain ⟨executedTotal, executedKept⟩ := exists_of_realColumn numbers.executedTotal
  unfold writeResult keepResult resultRow
  rw [requiredReal_eq totalKept, requiredReal_eq executedKept, totalKept]
  exact .bind (rowsOf_yields present) (.bind (.pure _) (.bind (.pure _) ⟨rfl, rfl⟩))

theorem writeResults_yields {rows : List ResultRow} {results : List EntityResult}
    (present : ledger.results = some rows) (numbers : ∀ result ∈ results, HasTotals result) :
    (Activity.forEach (writeResult batchId) results).Yields ledger (.ok ())
      { ledger with results := some (results.foldl (keepResult batchId) rows) } := by
  induction results generalizing ledger rows with
  | nil =>
      rw [List.foldl_nil, ← present]
      exact .pure ()
  | cons result rest ih =>
      obtain ⟨first, later⟩ := List.forall_mem_cons.mp numbers
      exact (writeResult_yields present first).bind (ih rfl later)

/-- The last results of a new batch stand behind the rows that are there. -/
theorem foldl_keepResult_latest {rows : List ResultRow}
    (fresh : ∀ row ∈ rows, row.batchId ≠ batchId) (results : List EntityResult) :
    results.foldl (keepResult batchId) rows =
      rows ++ (EntityResult.latest results).map (resultRow batchId) := by
  induction results using List.reverseRecOn with
  | nil => exact (List.append_nil rows).symm
  | append_singleton earlier result ih =>
      have foreign : rows.filter (fun old => !isResultOf batchId result.entityId old) = rows :=
        List.filter_eq_self.mpr fun row member => by simp [isResultOf, fresh row member]
      have own : ((EntityResult.latest earlier).map (resultRow batchId)).filter
            (fun old => !isResultOf batchId result.entityId old) =
          ((EntityResult.latest earlier).filter
            fun other => !(other.entityId == result.entityId)).map (resultRow batchId) := by
        rw [List.filter_map]
        simp [Function.comp_def, isResultOf, resultRow]
      rw [List.foldl_concat, ih, keepResult, List.filter_append, foreign, own,
        EntityResult.latest_concat, List.map_append, List.append_assoc]
      rfl

/-- The results of different entities in a new batch all stand behind the rows that are there. -/
theorem foldl_keepResult {rows : List ResultRow} {results : List EntityResult}
    (fresh : ∀ row ∈ rows, row.batchId ≠ batchId)
    (distinct : (results.map EntityResult.entityId).Nodup) :
    results.foldl (keepResult batchId) rows = rows ++ results.map (resultRow batchId) := by
  rw [foldl_keepResult_latest fresh, EntityResult.latest_eq_self distinct]

variable {batches : List BatchRow} {rows : List ResultRow} {batch : CalculationBatch}
  {results : List EntityResult}

def withCompleted (ledger : Ledger) (batches : List BatchRow) (rows : List ResultRow)
    (batch : CalculationBatch) (results : List EntityResult) (total : Float) : Ledger :=
  { ledger.withRecord batches batch total with
    results := some (results.foldl (keepResult batch.batchId) rows) }

/-- A batch is kept with its results once its total and theirs are numbers. -/
theorem commitCompleted_yields {total : Float} (present : ledger.batches = some batches)
    (resultsPresent : ledger.results = some rows)
    (number : realColumn batch.summary.totalPayout = some total)
    (numbers : ∀ result ∈ results, HasTotals result) :
    (commitCompleted batch results).Yields ledger (.ok ())
      (ledger.withCompleted batches rows batch results total) := by
  have stillPresent : (ledger.withRecord batches batch total).results = some rows := resultsPresent
  unfold commitCompleted
  refine .transaction (.bind (writeBatch_yields present number) ?_)
  exact .bind (rowsOf_yields stillPresent) (writeResults_yields stillPresent numbers)

theorem commitCompleted_yields_error (present : ledger.batches = some batches)
    (notNumber : realColumn batch.summary.totalPayout = none) :
    (commitCompleted batch results).Yields ledger
      (.error (.database (.missingValue "calculation_batch.total_payout"))) ledger := by
  unfold commitCompleted
  exact .transaction_of_error (.bind_error (writeBatch_yields_error present notNumber))

/-- A batch that is kept with its results has a total, and the tables for both are there. -/
theorem exists_of_commitCompleted {before after : Ledger}
    (committed : (commitCompleted batch results).Yields before (.ok ()) after) :
    ∃ batches rows total, before.batches = some batches ∧ before.results = some rows ∧
      realColumn batch.summary.totalPayout = some total := by
  unfold commitCompleted at committed
  obtain ⟨_, middle, written, rest⟩ := committed.of_transaction.exists_of_bind
  obtain ⟨rows, _, found, _⟩ := rest.exists_of_bind
  obtain ⟨resultsPresent, _⟩ := eq_some_of_rowsOf found
  obtain ⟨batches, _, present, rfl⟩ := exists_of_writeBatch written
  cases number : realColumn batch.summary.totalPayout with
  | none => cases (written.unique (writeBatch_yields_error present number)).1
  | some total => exact ⟨batches, rows, total, present, resultsPresent, rfl⟩

private theorem resultOf_resultRow {result : EntityResult} (number : result.total.isNaN = false)
    (finite : result.IsFinite) (fits : result.CountsFit) :
    (resultOf (resultRow batchId result)).Yields ledger (.ok result.asRead) ledger := by
  have kept : (realColumn result.total).getD 0.0 =
      if result.total == 0.0 then 0.0 else result.total := by
    unfold realColumn
    rw [number, if_neg Bool.false_ne_true]
    split <;> rfl
  unfold resultOf resultRow EntityResult.asRead EntityResult.asKept
  rw [kept]
  dsimp only
  rw [result.read?_write_components finite fits, result.read?_write_dualPath finite fits]
  exact .bind (.pure _) (.bind (.pure _) (.pure _))

private theorem resultOf_looksAt (row : ResultRow) : (resultOf row).LooksAt id :=
  .bind (ofText_looksAt _) fun _ => .bind (ofText_looksAt _) fun _ => .pure _

private theorem filter_batchId {rows : List ResultRow} {results : List EntityResult}
    (fresh : ∀ row ∈ rows, row.batchId ≠ batchId) :
    (rows ++ results.map (resultRow batchId)).filter (fun row => row.batchId == batchId) =
      results.map (resultRow batchId) := by
  have foreign : rows.filter (fun row => row.batchId == batchId) = [] :=
    List.filter_eq_nil_iff.mpr fun row member => by simpa using fresh row member
  have own : ∀ row ∈ results.map (resultRow batchId), (row.batchId == batchId) = true := by
    intro row member
    obtain ⟨result, _, rfl⟩ := List.mem_map.mp member
    exact beq_self_eq_true batchId
  rw [List.filter_append, foreign, List.filter_eq_self.mpr own, List.nil_append]

theorem resultsOf_yields_of_rows {rows : List ResultRow} {results : List EntityResult}
    (fresh : ∀ row ∈ rows, row.batchId ≠ batchId)
    (present : ledger.results = some (rows ++ results.map (resultRow batchId)))
    (numbers : ∀ result ∈ results, HasTotals result)
    (finite : ∀ result ∈ results, result.IsFinite)
    (fits : ∀ result ∈ results, result.CountsFit) :
    (resultsOf batchId).Yields ledger
      (.ok ((results.mergeSort EntityResult.precedes).map EntityResult.asRead)) ledger := by
  have sorted : (results.map (resultRow batchId)).mergeSort
        (fun left right => decide (left.entityId ≤ right.entityId)) =
      (results.mergeSort EntityResult.precedes).map (resultRow batchId) := by
    refine (List.map_mergeSort ?_).symm
    intro left _ right _
    rfl
  have each : (((results.mergeSort EntityResult.precedes).map (resultRow batchId)).mapM fun row =>
      (resultOf row ledger).result) =
      .ok ((results.mergeSort EntityResult.precedes).map EntityResult.asRead) := by
    rw [mapM_eq_ok_iff, List.forall₂_map_left_iff, List.forall₂_map_right_iff, List.forall₂_same]
    intro result member
    have inResults := List.mem_mergeSort.mp member
    exact (resultOf_resultRow (numbers result inResults).total (finite result inResults)
      (fits result inResults)).result
  have read := readEach_yields (fun row => (resultOf_looksAt row).state_eq ledger)
    ((results.mergeSort EntityResult.precedes).map (resultRow batchId))
  rw [each] at read
  unfold resultsOf
  refine .bind (rowsOf_yields present) ?_
  dsimp only
  rw [filter_batchId fresh, sorted]
  exact read

/-- What a ledger has of a batch that has been committed: its record, and the rows of its results
behind those of other batches. -/
structure HasCompleted (ledger : Ledger) (batch : CalculationBatch) (results : List EntityResult) :
    Prop where
  recorded : ∃ batches total old, ledger.batches = some batches ∧
    ledger.recordOf? batch.batchId = some (rowOver batch total old) ∧ IsDated old
  kept : ∃ rows, ledger.results = some (rows ++ results.map (resultRow batch.batchId)) ∧
    ∀ row ∈ rows, row.batchId ≠ batch.batchId

/-- The results of different entities are all there once they are committed with a new batch. -/
theorem hasCompleted_of_commitCompleted {before after : Ledger}
    (committed : (commitCompleted batch results).Yields before (.ok ()) after)
    (dated : IsDated (before.recordOf? batch.batchId))
    (fresh : ∀ row ∈ before.results.getD [], row.batchId ≠ batch.batchId)
    (numbers : ∀ result ∈ results, HasTotals result)
    (distinct : (results.map EntityResult.entityId).Nodup) : after.HasCompleted batch results := by
  obtain ⟨batches, rows, total, present, resultsPresent, number⟩ :=
    exists_of_commitCompleted committed
  rw [resultsPresent] at fresh
  have recorded := recordOf?_withRecord before batches batch total present
  obtain ⟨_, rfl⟩ := committed.unique (commitCompleted_yields present resultsPresent number numbers)
  constructor
  · exact ⟨_, total, _, rfl, recorded, dated⟩
  · exact ⟨rows, congrArg some (foldl_keepResult fresh distinct), fresh⟩

namespace HasCompleted

/-- What is written after the commit leaves the batch and its results as they are. -/
theorem of_dispatch {before after : Ledger} {consolidation : Consolidation}
    (has : before.HasCompleted batch results)
    (dispatched : (asStore.dispatch batch consolidation).Yields before (.ok ()) after) :
    after.HasCompleted batch results := by
  have same := dispatch_keeps_batchTables batch consolidation before
  rw [dispatched.state] at same
  have sameBatches : after.batches = before.batches := congrArg Prod.fst same
  have sameResults : after.results = before.results := congrArg Prod.snd same
  obtain ⟨recorded, kept⟩ := has
  unfold recordOf? at recorded
  rw [← sameBatches] at recorded
  rw [← sameResults] at kept
  exact ⟨recorded, kept⟩

theorem exists_batch? (has : ledger.HasCompleted batch results) {summary : BatchSummary}
    (read : (BatchSummary.codec .number).read?
      ((BatchSummary.codec .number).write batch.summary) = some summary) :
    ∃ kept, (batch? batch.batchId ledger).result = .ok (some kept) ∧
      IsReadAs batch summary kept := by
  obtain ⟨batches, total, old, present, recorded, dated⟩ := has.recorded
  obtain ⟨kept, yields, readAs⟩ := batchOf_yields ledger total dated read
  exact ⟨kept, (batch?_yields present recorded yields).result, readAs⟩

theorem exists_read? (has : ledger.HasCompleted batch results) {kept : CalculationBatch}
    (found : (batch? batch.batchId ledger).result = .ok (some kept)) :
    ∃ summary, (BatchSummary.codec .number).read?
      ((BatchSummary.codec .number).write batch.summary) = some summary := by
  obtain ⟨batches, total, old, present, recorded, _⟩ := has.recorded
  by_contra unread
  obtain ⟨fault, yields⟩ := batchOf_yields_error ledger total fun readable => unread readable.2
  rw [(batch?_yields present recorded yields).result] at found
  cases found

/-- The results of finite numbers are found in the order of their entities. -/
theorem resultsOf_yields (has : ledger.HasCompleted batch results)
    (numbers : ∀ result ∈ results, HasTotals result)
    (finite : ∀ result ∈ results, result.IsFinite)
    (fits : ∀ result ∈ results, result.CountsFit) :
    (resultsOf batch.batchId).Yields ledger
      (.ok ((results.mergeSort EntityResult.precedes).map EntityResult.asRead)) ledger := by
  obtain ⟨rows, present, fresh⟩ := has.kept
  exact resultsOf_yields_of_rows fresh present numbers finite fits

end HasCompleted

end Ledger

end VariablePay
