import VariablePay.Ledger.Batches
import VariablePay.Ledger.Densities
import VariablePay.Ledger.Inputs
import VariablePay.Run.Basic

set_option autoImplicit false

/-!
# Runs on a ledger
-/

namespace VariablePay.Ledger

def asStore : Store Ledger where
  loadRuleSet := ruleSet?
  loadEntities := entities
  loadRows := rows
  loadDensity := density
  saveBatch := writeBatch
  saveCompleted := commitCompleted
  saveDensity := applyUpdates
  saveSignals := insertSignals

/-- More pages than a load from the ledger takes. -/
def pageBound (ledger : Ledger) : Nat :=
  (ledger.assignments.getD []).length + (ledger.metricRows.getD []).length + 2

def run (config : CalcConfig) (request : RunRequest) : Activity RunFault Ledger RunResult :=
  fun ledger => asStore.run config ledger.pageBound request ledger

end VariablePay.Ledger
