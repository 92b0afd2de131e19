import VariablePay.Ledger.Run
import VariablePay.Proofs.Store.Keeping

set_option autoImplicit false

/-!
# Writers and the rest of the ledger

A writer touches its own tables and leaves all others alone, whether it succeeds or not. Densities,
their history and signals are kept apart from the records of batches and the results, so that what a
run writes after its commit does not touch these.
-/

namespace VariablePay.Ledger

open Activity

section

variable {τ : Type} {view : Ledger → τ}

private theorem rowsOf_keeps {α : Type} (table : Ledger → Table α) : (rowsOf table).Keeps view := by
  intro before
  unfold rowsOf
  cases table before <;> rfl

private theorem requiredReal_keeps (column : String) (value : Float) :
    (requiredReal column value).Keeps view := by
  unfold requiredReal
  cases realColumn value with
  | none => exact .fail _
  | some kept => exact .pure kept

/-- Updates touch only the densities and their history. -/
theorem applyUpdates_keeps
    (densities : ∀ (ledger : Ledger) table, view { ledger with densities := table } = view ledger)
    (history : ∀ (ledger : Ledger) table, view { ledger with history := table } = view ledger)
    (tenantId : String) (updates : List DensityUpdate) :
    (applyUpdates tenantId updates).Keeps view := by
  refine .transaction (.forEach (fun update => .bind ?density fun _ => ?history) updates)
  case density =>
    exact .bind (rowsOf_keeps _) fun _ => .bind (requiredReal_keeps _ _) fun _ =>
      .modify fun _ => densities _ _
  case history =>
    exact .bind (rowsOf_keeps _) fun _ => .bind (requiredReal_keeps _ _) fun _ =>
      .bind (requiredReal_keeps _ _) fun _ => .modify fun _ => history _ _

/-- Signals touch only their own table. -/
theorem insertSignals_keeps
    (signals : ∀ (ledger : Ledger) table, view { ledger with signals := table } = view ledger)
    (all : List TrainingSignal) : (insertSignals all).Keeps view := by
  refine .transaction (.forEach (fun _ => ?_) all)
  exact .bind (rowsOf_keeps _) fun _ => .modify fun _ => signals _ _

/-- The record of a batch touches only the records. -/
theorem writeBatch_keeps
    (batches : ∀ (ledger : Ledger) table, view { ledger with batches := table } = view ledger)
    (batch : CalculationBatch) : (writeBatch batch).Keeps view :=
  .bind (rowsOf_keeps _) fun _ => .bind (requiredReal_keeps _ _) fun _ =>
    .modify fun _ => batches _ _

/-- A commit touches only the records and the results. -/
theorem commitCompleted_keeps
    (batches : ∀ (ledger : Ledger) table, view { ledger with batches := table } = view ledger)
    (results : ∀ (ledger : Ledger) table, view { ledger with results := table } = view ledger)
    (batch : CalculationBatch) (all : List EntityResult) :
    (commitCompleted batch all).Keeps view := by
  refine .transaction (.bind (writeBatch_keeps batches batch) fun _ => ?_)
  refine .bind (rowsOf_keeps _) fun _ => .forEach (fun result => ?_) all
  exact .bind (rowsOf_keeps _) fun _ => .bind (requiredReal_keeps _ _) fun _ =>
    .bind (requiredReal_keeps _ _) fun _ => .modify fun _ => results _ _

theorem insertRuleSet_keeps
    (ruleSets : ∀ (ledger : Ledger) table, view { ledger with ruleSets := table } = view ledger)
    (tenantId : String) (ruleSet : RuleSet) : (insertRuleSet tenantId ruleSet).Keeps view :=
  .bind (rowsOf_keeps _) fun _ => .modify fun _ => ruleSets _ _

theorem replaceRows_keeps
    (metricRows : ∀ (ledger : Ledger) table,
      view { ledger with metricRows := table } = view ledger)
    (tenantId periodId : String) (rows : List MetricRow) :
    (replaceRows tenantId periodId rows).Keeps view :=
  .bind (rowsOf_keeps _) fun _ => .bind (.modify fun _ => metricRows _ _) fun _ => .pure _

theorem seedDensity_keeps
    (densities : ∀ (ledger : Ledger) table, view { ledger with densities := table } = view ledger)
    (tenantId signature : String) (score : Float) :
    (seedDensity tenantId signature score).Keeps view :=
  .bind (rowsOf_keeps _) fun _ => .bind (requiredReal_keeps _ _) fun _ =>
    .modify fun _ => densities _ _

end

def batchTables (ledger : Ledger) : Table BatchRow × Table ResultRow :=
  (ledger.batches, ledger.results)

/-- What a run writes after its commit does not touch batches and results. -/
theorem dispatch_keeps_batchTables (batch : CalculationBatch) (consolidation : Consolidation) :
    (asStore.dispatch batch consolidation).Keeps batchTables :=
  Store.dispatch_keeps (applyUpdates_keeps (fun _ _ => rfl) fun _ _ => rfl)
    (insertSignals_keeps fun _ _ => rfl) batch consolidation

end VariablePay.Ledger
