import Mathlib.Data.String.Basic
import VariablePay.Proofs.Ledger.Results

set_option autoImplicit false

/-!
# Commits of batches with their results

A batch and its results are committed together or not at all. The commit fails with the first thing
that cannot be kept, and then nothing of it is left, whatever has been written before. If it
succeeds under an id without results, the record and the last result of each entity are there, and
everything else stands as before. The numbers of those results are found again as they are read from
their own digits.
-/

namespace VariablePay

open EntityResult

/-- What refuses a result: a total that is `NaN`. -/
def EntityResult.refusal? (result : EntityResult) : Option Failure :=
  if result.total.isNaN then some (.database (.missingValue "entity_result.total_payout"))
  else if result.dualPath.executedTotal.isNaN then
    some (.database (.missingValue "entity_result.path_b_total"))
  else none

/-- What the record of a batch says of it. -/
structure BatchRow.Carries (row : BatchRow) (batch : CalculationBatch) : Prop where
  phase : row.phase = batch.phase.name
  lifecycle : row.lifecycle = batch.lifecycle.name
  entityCount : row.entityCount = Int64.ofNat batch.entityCount
  totalPayout : realColumn batch.summary.totalPayout = some row.totalPayout
  summary : row.summary = (BatchSummary.codec .number).write batch.summary
  failureReason : row.failureReason = batch.failureReason
  completedAt : row.completedAt = batch.completedAt.map Timestamp.text

namespace Ledger

/-- What a commit fails with, if it does: its first refusal. -/
def commitFault? (ledger : Ledger) (batch : CalculationBatch) (results : List EntityResult) :
    Option Failure :=
  if ledger.batches.isNone then some (.database .missingTable)
  else if batch.summary.totalPayout.isNaN then
    some (.database (.missingValue "calculation_batch.total_payout"))
  else if ledger.results.isNone then some (.database .missingTable)
  else results.findSome? refusal?

theorem refusal?_eq_none_iff {result : EntityResult} :
    result.refusal? = none ↔ HasTotals result := by
  unfold refusal?
  constructor
  · intro accepted
    split_ifs at accepted with total executedTotal
    exact ⟨Bool.eq_false_iff.mpr total, Bool.eq_false_iff.mpr executedTotal⟩
  · rintro ⟨total, executedTotal⟩
    rw [total, executedTotal]
    rfl

variable {ledger : Ledger} {batchId : String} {rows : List ResultRow} {fault : Failure}

private theorem writeResult_yields_error {result : EntityResult}
    (present : ledger.results = some rows) (refused : result.refusal? = some fault) :
    (writeResult batchId result).Yields ledger (.error fault) ledger := by
  unfold refusal? at refused
  unfold writeResult
  refine .bind (rowsOf_yields present) ?_
  split_ifs at refused with total executedTotal
  · cases refused
    rw [requiredReal_eq_fail (realColumn_eq_none_iff.mpr total)]
    exact .bind_error (.fail _)
  · cases refused
    obtain ⟨kept, number⟩ := exists_of_realColumn (Bool.eq_false_iff.mpr total)
    rw [requiredReal_eq number, requiredReal_eq_fail (realColumn_eq_none_iff.mpr executedTotal)]
    exact .bind (.pure _) (.bind_error (.fail _))

/-- Results are kept up to the first that is refused. -/
theorem writeResults_yields_error {written rest : List EntityResult} {refused : EntityResult}
    (present : ledger.results = some rows) (numbers : ∀ result ∈ written, HasTotals result)
    (refuses : refused.refusal? = some fault) :
    (Activity.forEach (writeResult batchId) (written ++ refused :: rest)).Yields ledger
      (.error fault) { ledger with results := some (written.foldl (keepResult batchId) rows) } := by
  induction written generalizing ledger rows with
  | nil =>
      rw [List.foldl_nil, ← present]
      exact .bind_error (writeResult_yields_error present refuses)
  | cons result written ih =>
      obtain ⟨first, later⟩ := List.forall_mem_cons.mp numbers
      exact (writeResult_yields present first).bind (ih rfl later)

variable {batch : CalculationBatch} {results : List EntityResult}

private theorem exists_rows {α : Type} {table : Table α} (present : ¬table.isNone = true) :
    ∃ rows, table = some rows :=
  Option.ne_none_iff_exists'.mp (mt Option.isNone_iff_eq_none.mpr present)

/-- A commit that comes upon a refusal leaves nothing behind. -/
theorem commitCompleted_yields_fault (fails : commitFault? ledger batch results = some fault) :
    (commitCompleted batch results).Yields ledger (.error fault) ledger := by
  unfold commitFault? at fails
  split_ifs at fails with noBatches isNaN noResults
  · cases fails
    have missing : ledger.batches = none := Option.isNone_iff_eq_none.mp noBatches
    exact .transaction_of_error (.bind_error (.bind_error (rowsOf_yields_error missing)))
  · cases fails
    obtain ⟨batches, present⟩ := exists_rows noBatches
    exact commitCompleted_yields_error present (realColumn_eq_none_iff.mpr isNaN)
  · cases fails
    obtain ⟨batches, present⟩ := exists_rows noBatches
    obtain ⟨total, number⟩ := exists_of_realColumn (Bool.eq_false_iff.mpr isNaN)
    have missing : ledger.results = none := Option.isNone_iff_eq_none.mp noResults
    exact .transaction_of_error ((writeBatch_yields present number).bind
      (.bind_error (rowsOf_yields_error missing)))
  · obtain ⟨batches, present⟩ := exists_rows noBatches
    obtain ⟨rows, resultsPresent⟩ := exists_rows noResults
    obtain ⟨total, number⟩ := exists_of_realColumn (Bool.eq_false_iff.mpr isNaN)
    obtain ⟨kept, refused, rest, rfl, refuses, accepted⟩ := List.findSome?_eq_some_iff.mp fails
    have numbers : ∀ result ∈ kept, HasTotals result := fun result member =>
      refusal?_eq_none_iff.mp (accepted result member)
    -- The record and the results up to the refused one are written before it is all undone.
    exact .transaction_of_error ((writeBatch_yields present number).bind
      (.bind (rowsOf_yields resultsPresent)
        (writeResults_yields_error resultsPresent numbers refuses)))

/-- A commit without a refusal keeps the batch and its results. -/
theorem commitCompleted_yields_of_none (accepted : commitFault? ledger batch results = none) :
    ∃ batches rows total, ledger.batches = some batches ∧ ledger.results = some rows ∧
      realColumn batch.summary.totalPayout = some total ∧
      (∀ result ∈ results, HasTotals result) ∧
      (commitCompleted batch results).Yields ledger (.ok ())
        (ledger.withCompleted batches rows batch results total) := by
  unfold commitFault? at accepted
  split_ifs at accepted with noBatches isNaN noResults
  obtain ⟨batches, present⟩ := exists_rows noBatches
  obtain ⟨rows, resultsPresent⟩ := exists_rows noResults
  obtain ⟨total, number⟩ := exists_of_realColumn (Bool.eq_false_iff.mpr isNaN)
  have numbers : ∀ result ∈ results, HasTotals result := fun result member =>
    refusal?_eq_none_iff.mp (List.findSome?_eq_none_iff.mp accepted result member)
  exact ⟨batches, rows, total, present, resultsPresent, number, numbers,
    commitCompleted_yields present resultsPresent number numbers⟩

/-- What a commit leaves of a batch that had no results, and of everything else. -/
structure Commits (before : Ledger) (batch : CalculationBatch) (results : List EntityResult)
    (after : Ledger) : Prop where
  recorded : ∃ row, after.recordOf? batch.batchId = some row ∧ row.Carries batch
  /-- The batch is found again with its summary, if that has finite numbers. -/
  found : batch.summary.IsFinite → batch.summary.CountsFit →
    IsDated (before.recordOf? batch.batchId) →
    ∃ kept, (batch? batch.batchId after).result = .ok (some kept) ∧
      IsReadAs batch batch.summary.reread kept
  /-- The last result of each entity is found again, if all results have finite numbers. These are
  the results as they were committed just when all of their numbers are read as themselves. -/
  returned : (∀ result ∈ results, result.IsFinite) → (∀ result ∈ results, result.CountsFit) →
    ∃ kept : List EntityResult, (resultsOf batch.batchId after).result = .ok (kept.map asRead) ∧
      ((resultsOf batch.batchId after).result = .ok (kept.map asKept) ↔
        ∀ result ∈ kept, result.ReadsBack) ∧
      (kept.Pairwise fun left right => left.entityId < right.entityId) ∧
      ∀ result, result ∈ kept ↔ result.IsLastIn results
  otherBatches : after.batches.map (List.filter fun row => !(row.batchId == batch.batchId)) =
    before.batches.map (List.filter fun row => !(row.batchId == batch.batchId))
  otherResults : after.results.map (List.filter fun row => !(row.batchId == batch.batchId)) =
    before.results.map (List.filter fun row => !(row.batchId == batch.batchId))
  otherTables : { after with batches := before.batches, results := before.results } = before

/-- The last results stand in the order of their entities, each entity once. -/
theorem pairwise_latest_inOrder (results : List EntityResult) :
    ((latest results).mergeSort precedes).Pairwise fun left right =>
      left.entityId < right.entityId := by
  have ordered : ((latest results).mergeSort precedes).Pairwise fun left right =>
      left.entityId ≤ right.entityId := by
    refine (List.pairwise_mergeSort ?_ ?_ _).imp of_decide_eq_true
    · intro first second third below above
      exact decide_eq_true ((of_decide_eq_true below).trans (of_decide_eq_true above))
    · intro first second
      simpa [precedes] using le_total first.entityId second.entityId
  have distinct : ((latest results).mergeSort precedes).Pairwise fun left right =>
      left.entityId ≠ right.entityId :=
    (List.mergeSort_perm _ _).symm.pairwise (pairwise_latest results) fun apart => apart.symm
  exact (ordered.and distinct).imp fun both => lt_of_le_of_ne both.1 both.2

theorem commits_withCompleted {batches : List BatchRow} {total : Float}
    (present : ledger.batches = some batches) (resultsPresent : ledger.results = some rows)
    (number : realColumn batch.summary.totalPayout = some total)
    (numbers : ∀ result ∈ results, HasTotals result)
    (fresh : ∀ row ∈ rows, row.batchId ≠ batch.batchId) :
    ledger.Commits batch results (ledger.withCompleted batches rows batch results total) := by
  have record : (ledger.withCompleted batches rows batch results total).recordOf? batch.batchId =
      some (rowOver batch total (ledger.recordOf? batch.batchId)) :=
    recordOf?_withRecord ledger batches batch total present
  have kept : (ledger.withCompleted batches rows batch results total).results =
      some (rows ++ (latest results).map (resultRow batch.batchId)) :=
    congrArg some (foldl_keepResult_latest fresh results)
  have among : ∀ result ∈ latest results, result ∈ results := fun _ member =>
    (latest_sublist results).subset member
  constructor
  case recorded => exact ⟨_, record, rfl, rfl, rfl, number, rfl, rfl, rfl⟩
  case found =>
    intro finite fits dated
    have read := BatchSummary.read?_write_eq finite.totalPayout finite.concordanceRate
      finite.componentConcordance fits
    obtain ⟨found, yields, readAs⟩ := batchOf_yields _ total dated read
    exact ⟨found, (batch?_yields rfl record yields).result, readAs⟩
  case returned =>
    intro finite fits
    have found := (resultsOf_yields_of_rows fresh kept
      (fun result member => numbers result (among result member))
      (fun result member => finite result (among result member))
      fun result member => fits result (among result member)).result
    refine ⟨(latest results).mergeSort precedes, found, ?_, pairwise_latest_inOrder results, ?_⟩
    · rw [found, Except.ok.injEq, List.map_inj_left]
      exact forall₂_congr fun _ _ => asRead_eq_asKept_iff
    · intro result
      rw [List.mem_mergeSort, mem_latest_iff]
  case otherBatches =>
    rw [present]
    have keeps (old : Option BatchRow) :
        (fun row : BatchRow => row.batchId == batch.batchId) (rowOver batch total old) = true :=
      beq_self_eq_true batch.batchId
    exact congrArg some (filter_upsert_of_others keeps batches)
  case otherResults =>
    have own : ((latest results).map (resultRow batch.batchId)).filter
        (fun row => !(row.batchId == batch.batchId)) = [] := by
      simp [List.filter_eq_nil_iff, resultRow]
    rw [kept, resultsPresent, Option.map_some, Option.map_some, List.filter_append, own,
      List.append_nil]
  case otherTables => rfl

/-- A commit that fails leaves the ledger as it was. One that succeeds under an id without results
leaves the record of the batch and the last result of each entity, and everything else as it was. -/
theorem commitCompleted_allOrNothing (ledger : Ledger) (batch : CalculationBatch)
    (results : List EntityResult) :
    let done := commitCompleted batch results ledger
    (∀ fault, done.result = .error fault →
      commitFault? ledger batch results = some fault ∧ done.state = ledger) ∧
    (done.result = .ok () →
      commitFault? ledger batch results = none ∧
        ((∀ row ∈ ledger.results.getD [], row.batchId ≠ batch.batchId) →
          ledger.Commits batch results done.state)) := by
  intro done
  cases fails : commitFault? ledger batch results with
  | some refusal =>
      obtain ⟨result, state⟩ := commitCompleted_yields_fault fails
      refine ⟨fun fault failed => ⟨?_, state⟩, fun succeeded => ?_⟩
      · cases result.symm.trans failed
        rfl
      · cases result.symm.trans succeeded
  | none =>
      obtain ⟨batches, rows, total, present, resultsPresent, number, numbers, result, state⟩ :=
        commitCompleted_yields_of_none fails
      refine ⟨fun fault failed => ?_, fun _ => ⟨rfl, fun fresh => ?_⟩⟩
      · cases result.symm.trans failed
      · rw [resultsPresent] at fresh
        rw [state]
        exact commits_withCompleted present resultsPresent number numbers fresh

/-- Two results of one entity, with that of another between them. -/
def repeatedResults : List EntityResult :=
  [⟨"first", "base", [], 1.0, ⟨true, 1.0, 0, []⟩⟩, ⟨"second", "base", [], 2.0, ⟨true, 2.0, 0, []⟩⟩,
    ⟨"first", "base", [], 3.0, ⟨true, 3.0, 0, []⟩⟩]

/-- The results are kept, unless one more of them has no total. -/
theorem repeatedResults_commit :
    let batch := CalculationBatch.start "batch" "tenant" "period" "plan" .epoch
    let done := commitCompleted batch repeatedResults blank.migrated
    let failed := commitCompleted batch
      (repeatedResults ++ [⟨"third", "base", [], 0.0 / 0.0, ⟨true, 0.0, 0, []⟩⟩]) blank.migrated
    (done.result = .ok () ∧ blank.migrated.Commits batch repeatedResults done.state) ∧
      failed.result = .error (.database (.missingValue "entity_result.total_payout")) ∧
        failed.state = blank.migrated := by
  intro batch done failed
  have succeeded : done.result = .ok () := by decide +kernel
  have fresh : ∀ row ∈ blank.migrated.results.getD [], row.batchId ≠ batch.batchId := nofun
  have refused : failed.result =
      .error (.database (.missingValue "entity_result.total_payout")) := by decide +kernel
  have commits := ((commitCompleted_allOrNothing blank.migrated batch _).2 succeeded).2 fresh
  have undone := ((commitCompleted_allOrNothing blank.migrated batch _).1 _ refused).2
  exact ⟨⟨succeeded, commits⟩, refused, undone⟩

/-- A payout of 8.7 times 1.3 is not found again. -/
theorem committedProduct_is_not_returned :
    let batch := CalculationBatch.start "batch" "tenant" "period" "plan" .epoch
    let payout : Float := 11.309999999999999
    let component : ComponentResult := ⟨"share", "Share", .flatPercentage, 1, payout, .empty⟩
    let result : EntityResult := ⟨"entity", "base", [component], payout, ⟨true, payout, 0, []⟩⟩
    let done := commitCompleted batch [result] blank.migrated
    (∀ row ∈ blank.migrated.results.getD [], row.batchId ≠ batch.batchId) ∧
      result.total.isFinite = true ∧ result.IsFinite ∧ result.CountsFit ∧
      done.result = .ok () ∧ (resultsOf batch.batchId done.state).result ≠ .ok [result] := by
  intro batch payout component result done
  have finite : payout.isFinite = true := by decide +kernel
  have componentFinite : component.IsFinite := ⟨finite, Explanation.isFinite_empty⟩
  have allFinite : result.IsFinite := ⟨List.forall_mem_singleton.mpr componentFinite, finite, nofun⟩
  exact ⟨nofun, finite, allFinite, by decide +kernel, by decide +kernel, by decide +kernel⟩

end Ledger

end VariablePay
