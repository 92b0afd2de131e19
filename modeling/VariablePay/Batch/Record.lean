import VariablePay.Batch.Lifecycle
import VariablePay.Batch.Summary
import VariablePay.Timestamp

set_option autoImplicit false

/-!
# The record of a batch

A run works on the record of its batch: it enters phases, and ends either complete, with the
lifecycle one step on, or failed, with the reason and the lifecycle untouched.
-/

namespace VariablePay

structure CalculationBatch where
  batchId : String
  tenantId : String
  periodId : String
  ruleSetId : String
  lifecycle : LifecycleState
  phase : RunPhase
  entityCount : Nat
  summary : BatchSummary
  failureReason : Option String
  createdAt : Timestamp
  completedAt : Option Timestamp
  deriving DecidableEq

namespace CalculationBatch

def start (batchId tenantId periodId ruleSetId : String) (now : Timestamp) : CalculationBatch where
  batchId := batchId
  tenantId := tenantId
  periodId := periodId
  ruleSetId := ruleSetId
  lifecycle := .draft
  phase := .collectingInputs
  entityCount := 0
  summary := .empty
  failureReason := none
  createdAt := now
  completedAt := none

def enter (batch : CalculationBatch) (next : RunPhase) : Except IllegalMove CalculationBatch :=
  if batch.phase.canMoveTo next then .ok { batch with phase := next }
  else .error ⟨batch.phase, next⟩

def phaseNote (batch : CalculationBatch) (next : RunPhase) : Note :=
  ⟨.info, s!"batch={batch.batchId} phase {batch.phase.name} -> {next.name}"⟩

/-- Ends the run for a reason. A run that has failed before gets the new reason. -/
def fail (batch : CalculationBatch) (reason : String) (now : Timestamp) :
    Except IllegalMove CalculationBatch := do
  let failed ← if batch.phase = .failed then .ok batch else batch.enter .failed
  return { failed with failureReason := some reason, completedAt := some now }

def advance? (batch : CalculationBatch) : Option CalculationBatch :=
  batch.lifecycle.next?.map fun next => { batch with lifecycle := next }

end CalculationBatch

end VariablePay
