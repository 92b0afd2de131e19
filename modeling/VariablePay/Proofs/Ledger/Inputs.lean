import VariablePay.Ledger.Run
import VariablePay.Proofs.Store.Refusing

set_option autoImplicit false

/-!
# Loads from the ledger

What a run loads from a ledger depends on four of its tables and changes none.
-/

namespace VariablePay.Ledger

structure InputTables where
  ruleSets : Table RuleSetRow
  assignments : Table AssignmentRow
  metricRows : Table KeptMetricRow
  densities : Table DensityRow

def inputTables (ledger : Ledger) : InputTables :=
  ⟨ledger.ruleSets, ledger.assignments, ledger.metricRows, ledger.densities⟩

variable {α β τ : Type} {view : Ledger → τ}

private theorem rowsOf_looksAt {table : Ledger → Table α} (part : τ → Table α)
    (seen : ∀ ledger, table ledger = part (view ledger)) : (rowsOf table).LooksAt view where
  state_eq before := by
    unfold rowsOf
    cases table before <;> rfl
  result_eq {before other} same := by
    unfold rowsOf
    rw [seen before, seen other, same]
    cases part (view other) <;> rfl

theorem ofText_looksAt (value? : Option α) : (ofText value?).LooksAt view := by
  cases value? with
  | none => exact .fail _
  | some value => exact .pure _

private theorem readEach_looksAt {read : α → LedgerActivity β}
    (looks : ∀ item, (read item).LooksAt view) (items : List α) :
    (readEach read items).LooksAt view := by
  induction items with
  | nil => exact .pure _
  | cons item items ih => exact .bind (looks item) fun _ => .bind ih fun _ => .pure _

theorem ruleSet?_looksAt (ruleSetId : String) :
    (ruleSet? ruleSetId).LooksAt inputTables := by
  refine .bind (rowsOf_looksAt InputTables.ruleSets fun _ => rfl) fun rows => ?_
  cases rows.find? fun row => row.id == ruleSetId with
  | none => exact .pure _
  | some row => exact .bind (ofText_looksAt _) fun _ => .pure _

theorem entityOf_looksAt (row : AssignmentRow) : (entityOf row).LooksAt view :=
  .bind (ofText_looksAt _) fun _ => .pure _

private theorem entities_looksAt (ruleSetId tenantId : String) (page : Page) :
    (entities ruleSetId tenantId page).LooksAt inputTables := by
  refine .bind (rowsOf_looksAt InputTables.assignments fun _ => rfl) fun rows => ?_
  exact readEach_looksAt entityOf_looksAt _

theorem rowOf_looksAt (kept : KeptMetricRow) : (rowOf kept).LooksAt view := by
  unfold rowOf
  cases RowScope.ofName? kept.scope with
  | none => exact .fail _
  | some scope => exact .bind (ofText_looksAt _) fun _ => .pure _

private theorem rows_looksAt (tenantId periodId : String) (page : Page) :
    (rows tenantId periodId page).LooksAt inputTables := by
  refine .bind (rowsOf_looksAt InputTables.metricRows fun _ => rfl) fun kept => ?_
  exact readEach_looksAt rowOf_looksAt _

theorem density_looksAt (tenantId : String) :
    (density tenantId).LooksAt inputTables := by
  refine .bind (rowsOf_looksAt InputTables.densities fun _ => rfl) fun rows => ?_
  exact .bind (.tell _) fun _ => .pure _

/-- A run collects its inputs from four tables and leaves the ledger as it is, whatever loads are
refused. -/
theorem collectInputs_refusing_looksAt (refusal? : StoreCall → Option Failure)
    (config : CalcConfig) (pageBound : Nat) (batch : CalculationBatch) :
    ((asStore.refusing refusal?).collectInputs config pageBound batch).LooksAt inputTables :=
  Store.collectInputs_looksAt (fun _ => (ruleSet?_looksAt _).withRefusal _)
    (fun _ _ _ => (entities_looksAt _ _ _).withRefusal _)
    (fun _ _ _ => (rows_looksAt _ _ _).withRefusal _)
    (fun _ => (density_looksAt _).withRefusal _) config pageBound batch

theorem collectInputs_looksAt (config : CalcConfig) (pageBound : Nat) (batch : CalculationBatch) :
    (asStore.collectInputs config pageBound batch).LooksAt inputTables :=
  collectInputs_refusing_looksAt (fun _ => none) config pageBound batch

end VariablePay.Ledger
