import VariablePay.Confidence.Consolidation
import VariablePay.Json.Normal
import VariablePay.Ledger.Basic

set_option autoImplicit false

/-!
# Densities and signals in the ledger

Each tenant has one density for a pattern and the history of its changes. The updates of a run are
kept together or not at all, and so are its signals.
-/

namespace VariablePay.Ledger

def isDensityOf (tenantId signature : String) (row : DensityRow) : Bool :=
  row.tenantId == tenantId && row.signature == signature

/-- The densities of a tenant, cleaned. -/
def density (tenantId : String) : LedgerActivity Density := do
  let rows ← rowsOf Ledger.densities
  let kept := StringMap.ofList ((rows.filter fun row => row.tenantId == tenantId).map fun row =>
    (row.signature, row.density))
  Activity.tell (Density.cleaningNotes kept)
  return Density.cleaned kept

/-- Sets the density of a pattern, as if it had never been seen. -/
def seedDensity (tenantId signature : String) (score : Float) : LedgerActivity Unit := do
  let rows ← rowsOf Ledger.densities
  let kept ← requiredReal "pattern_density.density" score
  let others := rows.filter fun row => !isDensityOf tenantId signature row
  let row : DensityRow := ⟨tenantId, signature, kept, ExecutionMode.verify.name, .ofCount 0⟩
  Activity.modify fun ledger => { ledger with densities := some (others ++ [row]) }

/-- Keeps the density of an update; observations add up. -/
def keepDensity (tenantId : String) (update : DensityUpdate) : LedgerActivity Unit := do
  let rows ← rowsOf Ledger.densities
  let kept ← requiredReal "pattern_density.density" update.newDensity
  let observations := WholeColumn.ofCount update.observations
  let row (old : Option DensityRow) : DensityRow :=
    ⟨tenantId, update.signature, kept, update.mode.name,
      (old.map fun row => row.observations.add observations).getD observations⟩
  Activity.modify fun ledger =>
    { ledger with densities := some (upsert (isDensityOf tenantId update.signature) row rows) }

def keepHistory (tenantId : String) (update : DensityUpdate) : LedgerActivity Unit := do
  let rows ← rowsOf Ledger.history
  let newDensity ← requiredReal "density_history.new_density" update.newDensity
  let matchRatio ← requiredReal "density_history.match_ratio" update.matchRatio
  let row : HistoryRow :=
    ⟨tenantId, update.signature, update.priorDensity.bind realColumn, newDensity, matchRatio,
      update.anomalous⟩
  Activity.modify fun ledger => { ledger with history := some (rows ++ [row]) }

def applyUpdates (tenantId : String) (updates : List DensityUpdate) : LedgerActivity Unit :=
  Activity.transaction <| Activity.forEach
    (fun update => do
      keepDensity tenantId update
      keepHistory tenantId update)
    updates

/-- Keeps a signal, its payload in normal form. -/
def keepSignal (signal : TrainingSignal) : LedgerActivity Unit := do
  let rows ← rowsOf Ledger.signals
  let row : SignalRow :=
    ⟨signal.tenantId, signal.batchId, signal.kind, signal.signature, signal.payload.normal.compact⟩
  Activity.modify fun ledger => { ledger with signals := some (rows ++ [row]) }

def insertSignals (signals : List TrainingSignal) : LedgerActivity Unit :=
  Activity.transaction (Activity.forEach keepSignal signals)

def signalCount (batchId kind : String) : LedgerActivity Nat := do
  let rows ← rowsOf Ledger.signals
  return rows.countP fun row => row.batchId == batchId && row.kind == kind

def anomalousCount (tenantId : String) : LedgerActivity Nat := do
  let rows ← rowsOf Ledger.history
  return rows.countP fun row => row.tenantId == tenantId && row.anomalous

end VariablePay.Ledger
