import VariablePay.Ledger.Basic
import VariablePay.Metrics.Basic

set_option autoImplicit false

/-!
# Maintenance of a ledger

Access to tables and columns that goes past the calls of a run: rows are written as they are given,
single columns are overwritten and tables removed.
-/

namespace VariablePay.Ledger

inductive BatchColumn where
  | lifecycle
  | phase
  | summary
  | createdAt
  | completedAt
  deriving DecidableEq

namespace BatchColumn

def all : List BatchColumn := [lifecycle, phase, summary, createdAt, completedAt]

def name : BatchColumn → String
  | lifecycle => "lifecycle_state"
  | phase => "run_phase"
  | summary => "summary_json"
  | createdAt => "created_at"
  | completedAt => "completed_at"

def ofName? (text : String) : Option BatchColumn := all.find? fun column => column.name == text

def set (text : String) (row : BatchRow) : BatchColumn → BatchRow
  | lifecycle => { row with lifecycle := text }
  | phase => { row with phase := text }
  | summary => { row with summary := text }
  | createdAt => { row with createdAt := text }
  | completedAt => { row with completedAt := some text }

end BatchColumn

inductive TableName where
  | densities
  | signals
  | results
  | batches
  deriving DecidableEq

namespace TableName

def all : List TableName := [densities, signals, results, batches]

def name : TableName → String
  | densities => "pattern_density"
  | signals => "training_signal"
  | results => "entity_result"
  | batches => "calculation_batch"

def ofName? (text : String) : Option TableName := all.find? fun table => table.name == text

end TableName

/-- Adds a metric row as it is given. Unless `unchecked`, its scope has to be one. -/
def insertRawRow (unchecked : Bool) (row : KeptMetricRow) : LedgerActivity Nat := do
  let rows ← rowsOf Ledger.metricRows
  if unchecked || (RowScope.ofName? row.scope).isSome then
    Activity.modify fun ledger => { ledger with metricRows := some (rows ++ [row]) }
    return 1
  else Activity.fail (.database .refusedValue)

def insertRawRuleSet (row : RuleSetRow) : LedgerActivity Nat := do
  let rows ← rowsOf Ledger.ruleSets
  Activity.modify fun ledger =>
    { ledger with ruleSets := some (upsert (fun old => old.id == row.id) (fun _ => row) rows) }
  return 1

/-- Overwrites a column of a batch and gives the number of records changed. -/
def overwriteBatch (batchId : String) (column : BatchColumn) (text : String) :
    LedgerActivity Nat := do
  let rows ← rowsOf Ledger.batches
  Activity.modify fun ledger =>
    { ledger with batches := some (rows.map fun row =>
        if row.batchId == batchId then column.set text row else row) }
  return rows.countP fun row => row.batchId == batchId

/-- Overwrites the attributes of an entity and gives the number of assignments changed. -/
def overwriteAttributes (entityId text : String) : LedgerActivity Nat := do
  let rows ← rowsOf Ledger.assignments
  Activity.modify fun ledger =>
    { ledger with assignments := some (rows.map fun row =>
        if row.entityId == entityId then { row with attributes := text } else row) }
  return rows.countP fun row => row.entityId == entityId

/-- Removes a table. The table of batches stays as long as results refer to it. -/
def dropTable (table : TableName) : LedgerActivity Nat := do
  match table with
  | .densities =>
      let _ ← rowsOf Ledger.densities
      Activity.modify fun ledger => { ledger with densities := none }
  | .signals =>
      let _ ← rowsOf Ledger.signals
      Activity.modify fun ledger => { ledger with signals := none }
  | .results =>
      let _ ← rowsOf Ledger.results
      Activity.modify fun ledger => { ledger with results := none }
  | .batches =>
      let _ ← rowsOf Ledger.batches
      let results ← Activity.inspect Ledger.results
      if (results.getD []).isEmpty then
        Activity.modify fun ledger => { ledger with batches := none }
      else Activity.fail (.database .missingReference)
  return 0

/-- The rows of a tenant's densities, by signature. -/
def densityRows (tenantId : String) : LedgerActivity (List DensityRow) := do
  let rows ← rowsOf Ledger.densities
  let own := rows.filter fun row => row.tenantId == tenantId
  return own.mergeSort fun left right => decide (left.signature ≤ right.signature)

def historyRows (tenantId : String) : LedgerActivity (List HistoryRow) := do
  return (← rowsOf Ledger.history).filter fun row => row.tenantId == tenantId

def signalRows (tenantId : String) : LedgerActivity (List SignalRow) := do
  return (← rowsOf Ledger.signals).filter fun row => row.tenantId == tenantId

def batchRows (tenantId : String) : LedgerActivity (List BatchRow) := do
  return (← rowsOf Ledger.batches).filter fun row => row.tenantId == tenantId

end VariablePay.Ledger
