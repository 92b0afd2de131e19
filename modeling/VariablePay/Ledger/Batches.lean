import VariablePay.Batch.Record
import VariablePay.Ledger.Basic

set_option autoImplicit false

/-!
# Batches and results in the ledger

The record of a batch is updated in place and keeps its owner and its time of creation. A complete
batch is kept together with its results or not at all.
-/

namespace VariablePay.Ledger

def writeBatch (batch : CalculationBatch) : LedgerActivity Unit := do
  let rows ← rowsOf Ledger.batches
  let total ← requiredReal "calculation_batch.total_payout" batch.summary.totalPayout
  let row (old : Option BatchRow) : BatchRow :=
    { batchId := batch.batchId
      tenantId := (old.map BatchRow.tenantId).getD batch.tenantId
      periodId := (old.map BatchRow.periodId).getD batch.periodId
      ruleSetId := (old.map BatchRow.ruleSetId).getD batch.ruleSetId
      lifecycle := batch.lifecycle.name
      phase := batch.phase.name
      entityCount := Int64.ofNat batch.entityCount
      totalPayout := total
      concordanceRate := batch.summary.concordanceRate.bind realColumn
      summary := (BatchSummary.codec .number).write batch.summary
      failureReason := batch.failureReason
      createdAt := (old.map BatchRow.createdAt).getD batch.createdAt.text
      completedAt := batch.completedAt.map Timestamp.text }
  Activity.modify fun ledger =>
    { ledger with batches := some (upsert (fun old => old.batchId == batch.batchId) row rows) }

def isResultOf (batchId entityId : String) (row : ResultRow) : Bool :=
  row.batchId == batchId && row.entityId == entityId

/-- Keeps the result of an entity in a batch, in the place of an earlier one. -/
def writeResult (batchId : String) (result : EntityResult) : LedgerActivity Unit := do
  let rows ← rowsOf Ledger.results
  let total ← requiredReal "entity_result.total_payout" result.total
  let _ ← requiredReal "entity_result.path_b_total" result.dualPath.executedTotal
  let row : ResultRow :=
    ⟨batchId, result.entityId, result.variantId, total,
      (ComponentResult.codec .number).list.write result.components,
      (DualPathRecord.codec .number).write result.dualPath⟩
  let others := rows.filter fun old => !isResultOf batchId result.entityId old
  Activity.modify fun ledger => { ledger with results := some (others ++ [row]) }

def commitCompleted (batch : CalculationBatch) (results : List EntityResult) :
    LedgerActivity Unit :=
  Activity.transaction <| do
    writeBatch batch
    let _ ← rowsOf Ledger.results
    Activity.forEach (writeResult batch.batchId) results

/-- A part of a kept batch that cannot be read back. -/
def corrupt {α : Type} (reason : String) : LedgerActivity α :=
  Activity.fail (.persistence "calculation batch" reason)

def timestampOf (text : String) : LedgerActivity Timestamp :=
  match Timestamp.ofText? text with
  | some timestamp => Activity.pure timestamp
  | none => corrupt s!"bad timestamp '{text}'"

def batchOf (row : BatchRow) : LedgerActivity CalculationBatch := do
  let summary ← ofText ((BatchSummary.codec .number).read? row.summary)
  let lifecycle ← match LifecycleState.ofName? row.lifecycle with
    | some state => Activity.pure state
    | none => corrupt s!"unknown lifecycle state '{row.lifecycle}'"
  let phase ← match RunPhase.ofName? row.phase with
    | some phase => Activity.pure phase
    | none => corrupt s!"unknown run phase '{row.phase}'"
  let createdAt ← timestampOf row.createdAt
  let completedAt ← match row.completedAt with
    | some text => some <$> timestampOf text
    | none => Activity.pure none
  return {
    batchId := row.batchId
    tenantId := row.tenantId
    periodId := row.periodId
    ruleSetId := row.ruleSetId
    lifecycle := lifecycle
    phase := phase
    entityCount := row.entityCount.toUInt64.toNat
    summary := summary
    failureReason := row.failureReason
    createdAt := createdAt
    completedAt := completedAt }

def batch? (batchId : String) : LedgerActivity (Option CalculationBatch) := do
  let rows ← rowsOf Ledger.batches
  match rows.find? fun row => row.batchId == batchId with
  | some row => some <$> batchOf row
  | none => return none

def resultOf (row : ResultRow) : LedgerActivity EntityResult := do
  let components ← ofText ((ComponentResult.codec .number).list.read? row.components)
  let dualPath ← ofText ((DualPathRecord.codec .number).read? row.dualPath)
  return ⟨row.entityId, row.variantId, components, row.total, dualPath⟩

/-- The results of a batch, in the order of entity ids. -/
def resultsOf (batchId : String) : LedgerActivity (List EntityResult) := do
  let rows ← rowsOf Ledger.results
  let own := rows.filter fun row => row.batchId == batchId
  readEach resultOf (own.mergeSort fun left right => decide (left.entityId ≤ right.entityId))

def resultCount (batchId : String) : LedgerActivity Nat := do
  let rows ← rowsOf Ledger.results
  return rows.countP fun row => row.batchId == batchId

end VariablePay.Ledger
