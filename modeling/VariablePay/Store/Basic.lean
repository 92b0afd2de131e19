import VariablePay.Batch.Record
import VariablePay.Failure
import VariablePay.Metrics.Basic
import VariablePay.Store.Paging

set_option autoImplicit false

/-!
# Stores

A run reads from a store and writes to it through eight calls, each of which may fail. Nothing is
assumed about a store besides these calls.
-/

namespace VariablePay

/-- The calls of a store with states of type `σ`. -/
structure Store (σ : Type) where
  loadRuleSet : (ruleSetId : String) → Activity Failure σ (Option RuleSet)
  loadEntities : (ruleSetId tenantId : String) → Page → Activity Failure σ (List AssignedEntity)
  loadRows : (tenantId periodId : String) → Page → Activity Failure σ (List MetricRow)
  loadDensity : (tenantId : String) → Activity Failure σ Density
  /-- Keeps the record of a batch, before it is complete or when it has failed. -/
  saveBatch : CalculationBatch → Activity Failure σ Unit
  /-- Keeps the record of a complete batch together with its results. -/
  saveCompleted : CalculationBatch → List EntityResult → Activity Failure σ Unit
  saveDensity : (tenantId : String) → List DensityUpdate → Activity Failure σ Unit
  saveSignals : List TrainingSignal → Activity Failure σ Unit

end VariablePay
