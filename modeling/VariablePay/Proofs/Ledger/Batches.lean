import VariablePay.Ledger.Run
import VariablePay.Proofs.Batch.Summary
import VariablePay.Proofs.Double.Order
import VariablePay.Proofs.Ledger.Tables

set_option autoImplicit false

/-!
# Records of batches in the ledger

The record of a batch is kept unless its total is `NaN`, and is then the one that is found. It can
be read again just when its summary can.
-/

namespace VariablePay

theorem LifecycleState.ofName?_name (state : LifecycleState) : ofName? state.name = some state := by
  cases state <;> decide

theorem RunPhase.ofName?_name (phase : RunPhase) : ofName? phase.name = some phase := by
  cases phase <;> decide

namespace Ledger

def rowOver (batch : CalculationBatch) (total : Float) (old : Option BatchRow) : BatchRow where
  batchId := batch.batchId
  tenantId := (old.map BatchRow.tenantId).getD batch.tenantId
  periodId := (old.map BatchRow.periodId).getD batch.periodId
  ruleSetId := (old.map BatchRow.ruleSetId).getD batch.ruleSetId
  lifecycle := batch.lifecycle.name
  phase := batch.phase.name
  entityCount := Int64.ofNat batch.entityCount
  totalPayout := total
  concordanceRate := batch.summary.concordanceRate.bind realColumn
  summary := (BatchSummary.codec .number).write batch.summary
  failureReason := batch.failureReason
  createdAt := (old.map BatchRow.createdAt).getD batch.createdAt.text
  completedAt := batch.completedAt.map Timestamp.text

section

variable (batch : CalculationBatch) (total : Float) (old : Option BatchRow)

@[simp] theorem rowOver_summary :
    (rowOver batch total old).summary = (BatchSummary.codec .number).write batch.summary := rfl

@[simp] theorem rowOver_lifecycle :
    (rowOver batch total old).lifecycle = batch.lifecycle.name := rfl

@[simp] theorem rowOver_phase : (rowOver batch total old).phase = batch.phase.name := rfl

@[simp] theorem rowOver_completedAt :
    (rowOver batch total old).completedAt = batch.completedAt.map Timestamp.text := rfl

end

def withRecord (ledger : Ledger) (rows : List BatchRow) (batch : CalculationBatch)
    (total : Float) : Ledger :=
  { ledger with
    batches := some (upsert (fun old => old.batchId == batch.batchId) (rowOver batch total) rows) }

def recordOf? (ledger : Ledger) (batchId : String) : Option BatchRow :=
  (ledger.batches.getD []).find? fun row => row.batchId == batchId

/-- A batch whose total is a number is kept. -/
theorem writeBatch_yields {ledger : Ledger} {rows : List BatchRow} {batch : CalculationBatch}
    {total : Float} (present : ledger.batches = some rows)
    (number : realColumn batch.summary.totalPayout = some total) :
    (writeBatch batch).Yields ledger (.ok ()) (ledger.withRecord rows batch total) := by
  unfold writeBatch
  rw [requiredReal_eq number]
  refine .bind (rowsOf_yields present) (.bind (.pure total) ?_)
  exact ⟨rfl, rfl⟩

/-- A batch whose total is `NaN` is not kept, and nothing else changes. -/
theorem writeBatch_yields_error {ledger : Ledger} {rows : List BatchRow}
    {batch : CalculationBatch} (present : ledger.batches = some rows)
    (notNumber : realColumn batch.summary.totalPayout = none) :
    (writeBatch batch).Yields ledger
      (.error (.database (.missingValue "calculation_batch.total_payout"))) ledger := by
  unfold writeBatch
  rw [requiredReal_eq_fail notNumber]
  exact .bind (rowsOf_yields present) (.bind_error (.fail _))

theorem exists_of_writeBatch {before after : Ledger} {batch : CalculationBatch}
    (written : (writeBatch batch).Yields before (.ok ()) after) :
    ∃ rows total, before.batches = some rows ∧ after = before.withRecord rows batch total := by
  cases present : before.batches with
  | none =>
      have refused :
          (writeBatch batch).Yields before (.error (.database .missingTable)) before := by
        unfold writeBatch
        exact .bind_error (rowsOf_yields_error present)
      cases (written.unique refused).1
  | some rows =>
      cases number : realColumn batch.summary.totalPayout with
      | none => cases (written.unique (writeBatch_yields_error present number)).1
      | some total =>
          exact ⟨rows, total, rfl, (written.unique (writeBatch_yields present number)).2⟩

theorem recordOf?_withRecord (ledger : Ledger) (rows : List BatchRow) (batch : CalculationBatch)
    (total : Float) (present : ledger.batches = some rows) :
    (ledger.withRecord rows batch total).recordOf? batch.batchId =
      some (rowOver batch total (ledger.recordOf? batch.batchId)) := by
  unfold recordOf? withRecord
  rw [present]
  exact find?_upsert _ (rowOver batch total) (fun _ => by simp [rowOver]) rows

/-- Whether the time of creation of a record, if there is one, can be read. -/
def IsDated (old : Option BatchRow) : Prop :=
  ∀ row ∈ old, Timestamp.isWellFormed row.createdAt = true

theorem isDated_some {row : BatchRow} :
    IsDated (some row) ↔ Timestamp.isWellFormed row.createdAt = true := by
  constructor
  · intro dated
    exact dated row rfl
  · intro wellFormed other same
    cases same
    exact wellFormed

/-- A record keeps the time of creation of an older one. -/
theorem isDated_rowOver (batch : CalculationBatch) (total : Float) (old : Option BatchRow) :
    IsDated (some (rowOver batch total old)) ↔ IsDated old := by
  rw [isDated_some]
  cases old with
  | none => exact iff_of_true batch.createdAt.wellFormed fun row none => by cases none
  | some older => exact (@isDated_some older).symm

/-- A record is read back as the batch it was kept for, but for what an older record keeps and for
what is read of its summary. -/
structure IsReadAs (batch : CalculationBatch) (summary : BatchSummary) (kept : CalculationBatch) :
    Prop where
  phase : kept.phase = batch.phase
  lifecycle : kept.lifecycle = batch.lifecycle
  failureReason : kept.failureReason = batch.failureReason
  summary : kept.summary = summary
  entityCount : kept.entityCount = batch.entityCount % 2 ^ 64

private theorem timestampOf_eq {text : String} (wellFormed : Timestamp.isWellFormed text = true) :
    timestampOf text = Activity.pure ⟨text, wellFormed⟩ := by
  unfold timestampOf Timestamp.ofText?
  rw [dif_pos wellFormed]

private theorem timestampOf_yields_error (ledger : Ledger) {text : String}
    (malformed : ¬Timestamp.isWellFormed text = true) :
    ∃ fault, (timestampOf text).Yields ledger (.error fault) ledger := by
  unfold timestampOf Timestamp.ofText?
  rw [dif_neg malformed]
  exact ⟨_, .fail _⟩

/-- A record is read back once its summary and its time of creation are. -/
theorem batchOf_yields (ledger : Ledger) {batch : CalculationBatch} (total : Float)
    {old : Option BatchRow} {summary : BatchSummary} (dated : IsDated old)
    (read : (BatchSummary.codec .number).read?
      ((BatchSummary.codec .number).write batch.summary) = some summary) :
    ∃ kept, (batchOf (rowOver batch total old)).Yields ledger (.ok kept) ledger ∧
      IsReadAs batch summary kept := by
  have created := isDated_some.mp ((isDated_rowOver batch total old).mpr dated)
  have counted : (Int64.ofNat batch.entityCount).toUInt64.toNat = batch.entityCount % 2 ^ 64 := by
    rw [Int64.toUInt64_ofNat', UInt64.toNat_ofNat']
  simp only [batchOf, rowOver_summary, rowOver_lifecycle, rowOver_phase, rowOver_completedAt,
    ofText, read, LifecycleState.ofName?_name, RunPhase.ofName?_name, timestampOf_eq created]
  cases batch.completedAt with
  | none =>
      exact ⟨_, .bind (.pure _) (.bind (.pure _) (.bind (.pure _) (.bind (.pure _)
        (.bind (.pure _) (.pure _))))), rfl, rfl, rfl, rfl, counted⟩
  | some time =>
      simp only [Option.map_some, timestampOf_eq time.wellFormed]
      exact ⟨_, .bind (.pure _) (.bind (.pure _) (.bind (.pure _) (.bind (.pure _)
        (.bind (.bind (.pure _) (.pure _)) (.pure _))))), rfl, rfl, rfl, rfl, counted⟩

/-- A record is not read back without its summary or its time of creation. -/
theorem batchOf_yields_error (ledger : Ledger) {batch : CalculationBatch} (total : Float)
    {old : Option BatchRow}
    (unread : ¬(IsDated old ∧ ∃ summary, (BatchSummary.codec .number).read?
      ((BatchSummary.codec .number).write batch.summary) = some summary)) :
    ∃ fault, (batchOf (rowOver batch total old)).Yields ledger (.error fault) ledger := by
  cases read : (BatchSummary.codec .number).read?
      ((BatchSummary.codec .number).write batch.summary) with
  | none =>
      simp only [batchOf, rowOver_summary, ofText, read]
      exact ⟨_, .bind_error (.fail _)⟩
  | some summary =>
      have undated : ¬IsDated old := fun dated => unread ⟨dated, summary, read⟩
      rw [← isDated_rowOver batch total, isDated_some] at undated
      obtain ⟨fault, malformed⟩ := timestampOf_yields_error ledger undated
      simp only [batchOf, rowOver_summary, rowOver_lifecycle, rowOver_phase, ofText, read,
        LifecycleState.ofName?_name, RunPhase.ofName?_name]
      exact ⟨fault, .bind (.pure _) (.bind (.pure _) (.bind (.pure _) (.bind_error malformed)))⟩

/-- What is found under an id is what its record is read as. -/
theorem batch?_yields {ledger : Ledger} {rows : List BatchRow} {batchId : String} {row : BatchRow}
    {result : Except Failure CalculationBatch} (present : ledger.batches = some rows)
    (recorded : ledger.recordOf? batchId = some row)
    (read : (batchOf row).Yields ledger result ledger) :
    (batch? batchId).Yields ledger (result.map some) ledger := by
  have found : rows.find? (fun row => row.batchId == batchId) = some row := by
    unfold recordOf? at recorded
    rwa [present] at recorded
  unfold batch?
  refine .bind (rowsOf_yields present) ?_
  rw [found]
  cases result with
  | error fault => exact .bind_error read
  | ok kept => exact .bind read (.pure _)

end Ledger

end VariablePay
