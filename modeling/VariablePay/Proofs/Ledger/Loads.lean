import VariablePay.Proofs.Coding
import VariablePay.Proofs.Ledger.Inputs
import VariablePay.Proofs.Ledger.Tables
import VariablePay.Proofs.Run.Cases
import VariablePay.Proofs.Run.Inputs

set_option autoImplicit false

/-!
# What a run loads from a ledger

The entities that a run loads are those of the assignments to its plan, and its rows are the
committed ones of its period, all of them and in their order. What has been kept from an entity is
loaded as it was, and what has been kept from a row of finite numbers with each number as it is read
from its own digits.
-/

namespace VariablePay

theorem RowScope.ofName?_name (scope : RowScope) : ofName? scope.name = some scope := by
  cases scope <;> decide

namespace Ledger

open Activity

variable {α β : Type}

def assignmentsTo (ledger : Ledger) (ruleSetId tenantId : String) : List AssignmentRow :=
  (ledger.assignments.getD []).filter fun row =>
    row.ruleSetId == ruleSetId && row.tenantId == tenantId

def committedRows (ledger : Ledger) (tenantId periodId : String) : List KeptMetricRow :=
  (ledger.metricRows.getD []).filter fun row => isOfPeriod tenantId periodId row && row.committed

def keptAssignment (ruleSetId tenantId : String) (entity : AssignedEntity) : AssignmentRow :=
  ⟨ruleSetId, tenantId, entity.id, entity.location,
    (Codec.stringMap .string).write entity.attributes⟩

def densityOf (ledger : Ledger) (tenantId : String) : Density :=
  Density.cleaned (.ofList (((ledger.densities.getD []).filter fun row =>
    row.tenantId == tenantId).map fun row => (row.signature, row.density)))

/-- Pages of a table of less than 63 bits are its parts. -/
private theorem pageOf_eq_slice {page : Page} {rows : List α}
    (inside : page.offset ≤ rows.length) (short : rows.length < Nat.pow 2 63) :
    pageOf page rows = page.slice rows := by
  unfold pageOf Page.slice
  rw [if_pos (Nat.lt_of_le_of_lt inside short)]
  split
  · rfl
  · rename_i long
    rw [List.take_of_length_le]
    rw [List.length_drop]
    omega

/-- The rows of a table that are meant are loaded as a whole, each as it is read. -/
private theorem loadAll_yields_of_table {table : Ledger → Table α} {isMeant : α → Bool}
    {read : α → LedgerActivity β} (looks : ∀ row, (read row).LooksAt inputTables)
    {ledger : Ledger} {rows : List α} (present : table ledger = some rows)
    (short : (rows.filter isMeant).length < Nat.pow 2 63) {bound : Nat}
    (enough : (rows.filter isMeant).length < bound) (size : Nat) :
    (Store.loadAll (fun page => Activity.bind (rowsOf table) fun rows =>
        readEach read (pageOf page (rows.filter isMeant))) bound size).Yields ledger
      (((rows.filter isMeant).mapM fun row => (read row ledger).result).mapError RunFault.failure)
      ledger := by
  refine Store.loadAll_yields_mapM (fun page inside => ?_) enough size
  rw [← pageOf_eq_slice inside short]
  exact (rowsOf_yields present).bind
    (readEach_yields (fun row => (looks row).state_eq ledger) _)

/-- No row is loaded from a table that is missing. -/
private theorem loadAll_yields_of_missing {table : Ledger → Table α} {isMeant : α → Bool}
    {read : α → LedgerActivity β} {ledger : Ledger} (missing : table ledger = none)
    {bound : Nat} (positive : 0 < bound) (size : Nat) :
    (Store.loadAll (fun page => Activity.bind (rowsOf table) fun rows =>
        readEach read (pageOf page (rows.filter isMeant))) bound size).Yields ledger
      (.error (.failure (.database .missingTable))) ledger := by
  obtain ⟨bound, rfl⟩ := Nat.exists_eq_add_of_le' positive
  have refused := rowsOf_yields_error missing
  exact .bindMapped_error (.bind_error refused.bind_error)

section

variable {ledger : Ledger} {ruleSetId tenantId periodId : String} {bound : Nat}

theorem loadEntities_yields (present : ledger.assignments.isSome = true)
    (short : (ledger.assignmentsTo ruleSetId tenantId).length < Nat.pow 2 63)
    (enough : (ledger.assignmentsTo ruleSetId tenantId).length < bound) (size : Nat) :
    (Store.loadAll (asStore.loadEntities ruleSetId tenantId) bound size).Yields ledger
      (((ledger.assignmentsTo ruleSetId tenantId).mapM fun row =>
        (entityOf row ledger).result).mapError RunFault.failure) ledger := by
  obtain ⟨rows, found⟩ := Option.isSome_iff_exists.mp present
  unfold assignmentsTo at short enough ⊢
  rw [found, Option.getD_some] at short enough ⊢
  exact loadAll_yields_of_table entityOf_looksAt found short enough size

theorem loadRows_yields (present : ledger.metricRows.isSome = true)
    (short : (ledger.committedRows tenantId periodId).length < Nat.pow 2 63)
    (enough : (ledger.committedRows tenantId periodId).length < bound) (size : Nat) :
    (Store.loadAll (asStore.loadRows tenantId periodId) bound size).Yields ledger
      (((ledger.committedRows tenantId periodId).mapM fun row =>
        (rowOf row ledger).result).mapError RunFault.failure) ledger := by
  obtain ⟨rows, found⟩ := Option.isSome_iff_exists.mp present
  unfold committedRows at short enough ⊢
  rw [found, Option.getD_some] at short enough ⊢
  exact loadAll_yields_of_table rowOf_looksAt found short enough size

end

theorem entityOf_keptAssignment (ruleSetId tenantId : String) (entity : AssignedEntity)
    (ledger : Ledger) :
    (entityOf (keptAssignment ruleSetId tenantId entity)).Yields ledger (.ok entity) ledger := by
  have attributes : (Codec.stringMap .string).read?
      ((Codec.stringMap .string).write entity.attributes) = some entity.attributes :=
    (Codec.faithful_string 0).stringMap_all.read?_write (by decide) trivial
  unfold entityOf keptAssignment
  rw [attributes]
  exact .bind (.pure _) (.pure _)

private theorem id_of_entityOf {row : AssignmentRow} {entity : AssignedEntity} {ledger : Ledger}
    (read : (entityOf row ledger).result = .ok entity) : entity.id = row.entityId := by
  obtain ⟨attributes, middle, _, made⟩ := Yields.exists_of_bind ⟨read, rfl⟩
  cases made.result
  rfl

/-- The entities that are loaded are those of the assignments, each as often as it is assigned. -/
theorem entityIds_of_loadEntities {ledger after : Ledger} {ruleSetId tenantId : String}
    {bound size : Nat} {entities : List AssignedEntity}
    (short : (ledger.assignmentsTo ruleSetId tenantId).length < Nat.pow 2 63)
    (enough : (ledger.assignmentsTo ruleSetId tenantId).length < bound)
    (loaded : (Store.loadAll (asStore.loadEntities ruleSetId tenantId) bound size).Yields ledger
      (.ok entities) after) :
    entities.map AssignedEntity.id =
      (ledger.assignmentsTo ruleSetId tenantId).map AssignmentRow.entityId := by
  cases present : ledger.assignments with
  | none =>
      cases (loaded.unique (loadAll_yields_of_missing present (Nat.zero_lt_of_lt enough) size)).1
  | some rows =>
      have isPresent : ledger.assignments.isSome = true := Option.isSome_of_eq_some present
      have read := (loaded.unique (loadEntities_yields isPresent short enough size)).1
      cases found : (ledger.assignmentsTo ruleSetId tenantId).mapM fun row =>
          (entityOf row ledger).result with
      | error fault =>
          rw [found] at read
          cases read
      | ok values =>
          rw [found] at read
          cases read
          have each := mapM_eq_ok_iff.mp found
          rw [← List.forall₂_eq_eq_eq, List.forall₂_map_left_iff, List.forall₂_map_right_iff]
          exact each.flip.imp fun entity row => id_of_entityOf

/-- A row of finite numbers is read from what was kept of it. -/
theorem rowOf_keptRow (tenantId periodId : String) {row : MetricRow}
    (finite : ∀ entry ∈ row.values.entries, entry.2.isFinite = true) (ledger : Ledger) :
    (rowOf (keptRow tenantId periodId row)).Yields ledger (.ok row.reread) ledger := by
  have values : (Codec.stringMap (.float .number)).read?
      ((Codec.stringMap (.float .number)).write row.values) =
        some (row.values.mapValues Double.reread) :=
    (Codec.faithful_float 0).stringMap.read?_write (by decide) finite
  unfold rowOf keptRow
  simp only [RowScope.ofName?_name, values]
  exact .bind (.pure _) (.pure _)

/-- What a run finds in a ledger: a plan, and what has been kept of entities and of rows. -/
structure Holds (ledger : Ledger) (request : RunRequest) (plan : RuleSet)
    (entities : List AssignedEntity) (rows : List MetricRow) : Prop where
  plan_kept : (ruleSet? request.ruleSetId ledger).result = .ok (some plan)
  assignments : ledger.assignments.isSome = true
  entities_kept : ledger.assignmentsTo request.ruleSetId request.tenantId =
    entities.map (keptAssignment request.ruleSetId request.tenantId)
  metricRows : ledger.metricRows.isSome = true
  rows_kept : ledger.committedRows request.tenantId request.periodId =
    rows.map (keptRow request.tenantId request.periodId)
  densities : ledger.densities.isSome = true
  batches : ledger.batches.isSome = true
  results : ledger.results.isSome = true
  -- Positions in a table have 63 bits.
  entities_short : entities.length < Nat.pow 2 63
  rows_short : rows.length < Nat.pow 2 63

theorem length_assignmentsTo_lt_pageBound (ledger : Ledger) (ruleSetId tenantId : String) :
    (ledger.assignmentsTo ruleSetId tenantId).length < ledger.pageBound := by
  have fewer : (ledger.assignmentsTo ruleSetId tenantId).length ≤
      (ledger.assignments.getD []).length := List.length_filter_le _ _
  unfold pageBound
  omega

theorem length_committedRows_lt_pageBound (ledger : Ledger) (tenantId periodId : String) :
    (ledger.committedRows tenantId periodId).length < ledger.pageBound := by
  have fewer : (ledger.committedRows tenantId periodId).length ≤
      (ledger.metricRows.getD []).length := List.length_filter_le _ _
  unfold pageBound
  omega

theorem mapM_entityOf_keptAssignment (ruleSetId tenantId : String) (ledger : Ledger)
    (entities : List AssignedEntity) :
    ((entities.map (keptAssignment ruleSetId tenantId)).mapM fun row =>
      (entityOf row ledger).result) = .ok entities := by
  rw [mapM_eq_ok_iff, List.forall₂_map_left_iff, List.forall₂_same]
  exact fun entity _ => (entityOf_keptAssignment ruleSetId tenantId entity ledger).result

theorem mapM_rowOf_keptRow (tenantId periodId : String) (ledger : Ledger) {rows : List MetricRow}
    (finite : ∀ row ∈ rows, ∀ entry ∈ row.values.entries, entry.2.isFinite = true) :
    ((rows.map (keptRow tenantId periodId)).mapM fun row => (rowOf row ledger).result) =
      .ok (rows.map MetricRow.reread) := by
  rw [mapM_eq_ok_iff, List.forall₂_map_left_iff, List.forall₂_map_right_iff, List.forall₂_same]
  exact fun row member => (rowOf_keptRow tenantId periodId (finite row member) ledger).result

theorem density_yields {ledger : Ledger} (present : ledger.densities.isSome = true)
    (tenantId : String) :
    (density tenantId).Yields ledger (.ok (ledger.densityOf tenantId)) ledger := by
  obtain ⟨rows, found⟩ := Option.isSome_iff_exists.mp present
  unfold density densityOf
  rw [found]
  exact .bind (rowsOf_yields found) (.bind (.tell _) (.pure _))

/-- A run has what a ledger holds for it, once the plan passes its checks. -/
theorem Holds.collectInputs_yields {ledger : Ledger} {request : RunRequest} {plan valid : RuleSet}
    {entities : List AssignedEntity} {rows : List MetricRow}
    (holds : ledger.Holds request plan entities rows) (accepted : plan.validated = .ok valid)
    (finite : ∀ row ∈ rows, ∀ entry ∈ row.values.entries, entry.2.isFinite = true)
    (config : CalcConfig) :
    (asStore.collectInputs config ledger.pageBound request.startBatch).Yields ledger
      (.ok ⟨valid, entities, rows.map MetricRow.reread, ledger.densityOf request.tenantId⟩)
      ledger := by
  have entitiesLoaded := loadEntities_yields holds.assignments
    (by rw [holds.entities_kept, List.length_map]; exact holds.entities_short)
    (ledger.length_assignmentsTo_lt_pageBound _ _) config.batch.pageSize
  have rowsLoaded := loadRows_yields holds.metricRows
    (by rw [holds.rows_kept, List.length_map]; exact holds.rows_short)
    (ledger.length_committedRows_lt_pageBound _ _) config.batch.pageSize
  rw [holds.entities_kept, mapM_entityOf_keptAssignment] at entitiesLoaded
  rw [holds.rows_kept, mapM_rowOf_keptRow _ _ _ finite] at rowsLoaded
  have planLoaded := (ruleSet?_looksAt request.ruleSetId).yields ledger
  rw [holds.plan_kept] at planLoaded
  exact Store.collectInputs_yields_ok_iff.mpr ⟨plan, ledger, ledger, ledger, accepted, planLoaded,
    entitiesLoaded, rowsLoaded, density_yields holds.densities _⟩

end Ledger

end VariablePay
