import VariablePay.Proofs.Ledger.Loads

set_option autoImplicit false

/-!
# What has been imported

Assignments and rows are imported by calls for different tenants, periods and rule sets, in any
order. Each load then gives what the calls for its own key have brought: of every entity the last
assignment, and of the rows those of the last import, each number as it is read from its own digits.
-/

namespace VariablePay

/-- A call that imports data into a ledger. -/
inductive ImportCall where
  | assign (ruleSetId tenantId : String) (entity : AssignedEntity)
  | replaceRows (tenantId periodId : String) (rows : List MetricRow)

namespace ImportCall

def perform : ImportCall → LedgerActivity Unit
  | assign ruleSetId tenantId entity => Ledger.assign ruleSetId tenantId entity
  | replaceRows tenantId periodId rows => do
      let _ ← Ledger.replaceRows tenantId periodId rows

/-- The entity that a call assigns to a rule set of a tenant. -/
def entityFor? (ruleSetId tenantId : String) : ImportCall → Option AssignedEntity
  | assign ownRuleSet ownTenant entity =>
      if ownRuleSet == ruleSetId && ownTenant == tenantId then some entity else none
  | replaceRows .. => none

/-- The rows that a call brings for a period of a tenant. -/
def rowsFor? (tenantId periodId : String) : ImportCall → Option (List MetricRow)
  | assign .. => none
  | replaceRows ownTenant ownPeriod rows =>
      if ownTenant == tenantId && ownPeriod == periodId then some rows else none

def rows : ImportCall → List MetricRow
  | assign .. => []
  | replaceRows _ _ rows => rows

theorem rows_of_rowsFor? {call : ImportCall} {tenantId periodId : String} {rows : List MetricRow}
    (some : call.rowsFor? tenantId periodId = some rows) : call.rows = rows := by
  cases call with
  | assign => cases some
  | replaceRows => simp_all [rowsFor?, ImportCall.rows]

end ImportCall

/-- The entities of some assignments, each as it is assigned last and in that place. -/
def lastOfEach : List AssignedEntity → List AssignedEntity
  | [] => []
  | entity :: later =>
      if later.any fun other => other.id == entity.id then lastOfEach later
      else entity :: lastOfEach later

theorem lastOfEach_concat (entities : List AssignedEntity) (entity : AssignedEntity) :
    lastOfEach (entities ++ [entity]) =
      (lastOfEach entities).filter (fun other => !(other.id == entity.id)) ++ [entity] := by
  induction entities with
  | nil => simp [lastOfEach]
  | cons first later ih =>
      simp only [List.cons_append, lastOfEach, List.any_append, List.any_cons, List.any_nil,
        Bool.or_false, ih]
      cases again : later.any fun other => other.id == first.id with
      | true => simp
      | false =>
          cases same : entity.id == first.id with
          | true => simp [beq_iff_eq.mp same]
          | false => simp [Ne.symm (beq_eq_false_iff_ne.mp same)]

theorem length_lastOfEach_le (entities : List AssignedEntity) :
    (lastOfEach entities).length ≤ entities.length := by
  induction entities with
  | nil => exact Nat.le_refl 0
  | cons first later ih =>
      simp only [lastOfEach, List.length_cons]
      split
      · exact Nat.le_succ_of_le ih
      · exact Nat.succ_le_succ ih

/-- Each entity stands once. -/
theorem nodup_lastOfEach (entities : List AssignedEntity) :
    ((lastOfEach entities).map AssignedEntity.id).Nodup := by
  induction entities using List.reverseRecOn with
  | nil => exact List.nodup_nil
  | append_singleton before entity ih =>
      rw [lastOfEach_concat, List.map_append, List.map_singleton, List.nodup_append]
      refine ⟨ih.sublist (List.filter_sublist.map _), List.nodup_singleton _, ?_⟩
      simp only [List.mem_map, List.mem_filter, List.mem_singleton]
      rintro id ⟨other, ⟨_, different⟩, rfl⟩ last rfl
      simpa using different

namespace Ledger

/-- The entities that calls have assigned to a rule set of a tenant. -/
def importedEntities (ruleSetId tenantId : String) (calls : List ImportCall) :
    List AssignedEntity :=
  lastOfEach (calls.filterMap (ImportCall.entityFor? ruleSetId tenantId))

/-- The rows that calls have left for a period of a tenant: those of the last import. -/
def importedRows (tenantId periodId : String) (calls : List ImportCall) : List MetricRow :=
  (calls.filterMap (ImportCall.rowsFor? tenantId periodId)).getLast?.getD []

variable {before after : Ledger}

def withAssignment (ledger : Ledger) (rows : List AssignmentRow) (ruleSetId tenantId : String)
    (entity : AssignedEntity) : Ledger :=
  { ledger with
    assignments := some
      (rows.filter (fun old =>
        !(old.ruleSetId == ruleSetId && old.tenantId == tenantId && old.entityId == entity.id)) ++
        [keptAssignment ruleSetId tenantId entity]) }

def withRows (ledger : Ledger) (kept : List KeptMetricRow) (tenantId periodId : String)
    (rows : List MetricRow) : Ledger :=
  { ledger with
    metricRows := some
      (kept.filter (fun row => !isOfPeriod tenantId periodId row) ++
        rows.map (keptRow tenantId periodId)) }

theorem exists_of_assign {ruleSetId tenantId : String} {entity : AssignedEntity}
    (assigned : (assign ruleSetId tenantId entity).Yields before (.ok ()) after) :
    ∃ rows, before.assignments = some rows ∧
      after = before.withAssignment rows ruleSetId tenantId entity := by
  unfold assign at assigned
  obtain ⟨rows, middle, found, rest⟩ := assigned.exists_of_bind
  obtain ⟨present, rfl⟩ := eq_some_of_rowsOf found
  obtain ⟨ruleSets, last, ruleSetsFound, written⟩ := rest.exists_of_bind
  obtain ⟨_, rfl⟩ := eq_some_of_rowsOf ruleSetsFound
  split at written
  · exact ⟨rows, present, written.state.symm⟩
  · cases written.result

theorem exists_of_replaceRows {tenantId periodId : String} {rows : List MetricRow}
    (replaced : (ImportCall.replaceRows tenantId periodId rows).perform.Yields before (.ok ())
      after) :
    ∃ kept, before.metricRows = some kept ∧
      after = before.withRows kept tenantId periodId rows := by
  obtain ⟨removed, middle, replaced, rest⟩ := replaced.exists_of_bind
  unfold replaceRows at replaced
  obtain ⟨kept, _, found, written⟩ := replaced.exists_of_bind
  obtain ⟨present, rfl⟩ := eq_some_of_rowsOf found
  exact ⟨kept, present, (written.state.trans rest.state).symm⟩

section

variable {α : Type} {isMeant isReplaced : α → Bool} {rows added : List α}

/-- Rows that are not meant can be replaced by others that are not. -/
private theorem filter_replaced_of_others
    (others : ∀ row, isReplaced row = true → isMeant row = false)
    (addedOthers : ∀ row ∈ added, isMeant row = false) :
    (rows.filter (fun row => !isReplaced row) ++ added).filter isMeant = rows.filter isMeant := by
  have noneAdded : added.filter isMeant = [] := by
    simpa [List.filter_eq_nil_iff] using addedOthers
  rw [List.filter_append, noneAdded, List.append_nil, List.filter_filter]
  refine List.filter_congr fun row _ => ?_
  cases replaced : isReplaced row with
  | false => simp
  | true => simp [others row replaced]

end

/-- An assignment comes last among those to its rule set, and an earlier one of the entity goes. -/
theorem assignmentsTo_withAssignment {rows : List AssignmentRow}
    (present : before.assignments = some rows) (ruleSetId tenantId : String)
    (entity : AssignedEntity) :
    (before.withAssignment rows ruleSetId tenantId entity).assignmentsTo ruleSetId tenantId =
      (before.assignmentsTo ruleSetId tenantId).filter (fun row => !(row.entityId == entity.id)) ++
        [keptAssignment ruleSetId tenantId entity] := by
  unfold assignmentsTo withAssignment
  simp only [present, Option.getD_some, List.filter_append, List.filter_filter]
  congr 1
  · refine List.filter_congr fun row _ => ?_
    cases row.ruleSetId == ruleSetId <;> cases row.tenantId == tenantId <;> simp
  · simp [keptAssignment]

theorem assignmentsTo_withAssignment_of_other {rows : List AssignmentRow}
    (present : before.assignments = some rows) {ruleSetId tenantId ownRuleSet ownTenant : String}
    (other : (ownRuleSet == ruleSetId && ownTenant == tenantId) = false)
    (entity : AssignedEntity) :
    (before.withAssignment rows ownRuleSet ownTenant entity).assignmentsTo ruleSetId tenantId =
      before.assignmentsTo ruleSetId tenantId := by
  unfold assignmentsTo withAssignment
  rw [present]
  refine filter_replaced_of_others (fun row replaced => ?_) fun row added => ?_
  · simp only [Bool.and_eq_true, beq_iff_eq] at replaced
    rw [replaced.1.1, replaced.1.2, other]
  · rw [List.mem_singleton.mp added]
    exact other

theorem committedRows_withRows {kept : List KeptMetricRow} (tenantId periodId : String)
    (rows : List MetricRow) :
    (before.withRows kept tenantId periodId rows).committedRows tenantId periodId =
      rows.map (keptRow tenantId periodId) := by
  have gone : (kept.filter fun row => !isOfPeriod tenantId periodId row).filter
      (fun row => isOfPeriod tenantId periodId row && row.committed) = [] := by
    rw [List.filter_filter, List.filter_eq_nil_iff]
    intro row _
    cases isOfPeriod tenantId periodId row <;> simp
  have all : ∀ row ∈ rows.map (keptRow tenantId periodId),
      (isOfPeriod tenantId periodId row && row.committed) = true := by
    simp [isOfPeriod, keptRow]
  unfold committedRows withRows
  rw [Option.getD_some, List.filter_append, gone, List.filter_eq_self.mpr all, List.nil_append]

theorem committedRows_withRows_of_other {kept : List KeptMetricRow}
    (present : before.metricRows = some kept) {tenantId periodId ownTenant ownPeriod : String}
    (other : (ownTenant == tenantId && ownPeriod == periodId) = false) (rows : List MetricRow) :
    (before.withRows kept ownTenant ownPeriod rows).committedRows tenantId periodId =
      before.committedRows tenantId periodId := by
  unfold committedRows withRows
  rw [present]
  refine filter_replaced_of_others (fun row replaced => ?_) fun row added => ?_
  · simp only [isOfPeriod, Bool.and_eq_true, beq_iff_eq] at replaced
    simp only [isOfPeriod, replaced.1, replaced.2, other, Bool.false_and]
  · obtain ⟨imported, _, rfl⟩ := List.mem_map.mp added
    simp only [isOfPeriod, keptRow, other, Bool.false_and]

section

variable {calls : List ImportCall} {call : ImportCall} {ruleSetId tenantId periodId : String}

theorem importedEntities_concat_of_none (none : call.entityFor? ruleSetId tenantId = none) :
    importedEntities ruleSetId tenantId (calls ++ [call]) =
      importedEntities ruleSetId tenantId calls := by
  simp [importedEntities, none]

theorem importedEntities_concat_of_some {entity : AssignedEntity}
    (some : call.entityFor? ruleSetId tenantId = some entity) :
    importedEntities ruleSetId tenantId (calls ++ [call]) =
      (importedEntities ruleSetId tenantId calls).filter (fun other => !(other.id == entity.id)) ++
        [entity] := by
  simp [importedEntities, some, lastOfEach_concat]

theorem importedRows_concat_of_none (none : call.rowsFor? tenantId periodId = none) :
    importedRows tenantId periodId (calls ++ [call]) = importedRows tenantId periodId calls := by
  simp [importedRows, none]

theorem importedRows_concat_of_some {rows : List MetricRow}
    (some : call.rowsFor? tenantId periodId = some rows) :
    importedRows tenantId periodId (calls ++ [call]) = rows := by
  simp [importedRows, some]

/-- Imports for another rule set or tenant leave the assignments alone. -/
theorem assignmentsTo_of_perform (performed : call.perform.Yields before (.ok ()) after)
    (none : call.entityFor? ruleSetId tenantId = none) :
    after.assignmentsTo ruleSetId tenantId = before.assignmentsTo ruleSetId tenantId := by
  cases call with
  | assign ownRuleSet ownTenant entity =>
      obtain ⟨rows, present, rfl⟩ := exists_of_assign performed
      refine assignmentsTo_withAssignment_of_other present ?_ entity
      simpa [ImportCall.entityFor?] using none
  | replaceRows ownTenant ownPeriod rows =>
      obtain ⟨kept, _, rfl⟩ := exists_of_replaceRows performed
      rfl

theorem assignmentsTo_of_perform_some (performed : call.perform.Yields before (.ok ()) after)
    {entity : AssignedEntity} (some : call.entityFor? ruleSetId tenantId = some entity) :
    after.assignmentsTo ruleSetId tenantId =
      (before.assignmentsTo ruleSetId tenantId).filter (fun row => !(row.entityId == entity.id)) ++
        [keptAssignment ruleSetId tenantId entity] := by
  cases call with
  | assign ownRuleSet ownTenant assigned =>
      obtain ⟨rows, present, rfl⟩ := exists_of_assign performed
      simp only [ImportCall.entityFor?, Option.ite_none_right_eq_some, Bool.and_eq_true,
        beq_iff_eq, Option.some.injEq] at some
      obtain ⟨⟨rfl, rfl⟩, rfl⟩ := some
      exact assignmentsTo_withAssignment present ownRuleSet ownTenant assigned
  | replaceRows ownTenant ownPeriod rows => cases some

/-- Imports for another period or tenant leave the rows alone. -/
theorem committedRows_of_perform (performed : call.perform.Yields before (.ok ()) after)
    (none : call.rowsFor? tenantId periodId = none) :
    after.committedRows tenantId periodId = before.committedRows tenantId periodId := by
  cases call with
  | assign ownRuleSet ownTenant entity =>
      obtain ⟨rows, _, rfl⟩ := exists_of_assign performed
      rfl
  | replaceRows ownTenant ownPeriod rows =>
      obtain ⟨kept, present, rfl⟩ := exists_of_replaceRows performed
      refine committedRows_withRows_of_other present ?_ rows
      simpa [ImportCall.rowsFor?] using none

theorem committedRows_of_perform_some (performed : call.perform.Yields before (.ok ()) after)
    {rows : List MetricRow} (some : call.rowsFor? tenantId periodId = some rows) :
    after.committedRows tenantId periodId = rows.map (keptRow tenantId periodId) := by
  cases call with
  | assign ownRuleSet ownTenant entity => cases some
  | replaceRows ownTenant ownPeriod brought =>
      obtain ⟨kept, _, rfl⟩ := exists_of_replaceRows performed
      simp only [ImportCall.rowsFor?, Option.ite_none_right_eq_some, Bool.and_eq_true,
        beq_iff_eq, Option.some.injEq] at some
      obtain ⟨⟨rfl, rfl⟩, rfl⟩ := some
      exact committedRows_withRows ownTenant ownPeriod brought

theorem tables_of_perform (performed : call.perform.Yields before (.ok ()) after)
    (assignments : before.assignments.isSome = true)
    (metricRows : before.metricRows.isSome = true) :
    after.assignments.isSome = true ∧ after.metricRows.isSome = true := by
  cases call with
  | assign ownRuleSet ownTenant entity =>
      obtain ⟨rows, _, rfl⟩ := exists_of_assign performed
      exact ⟨rfl, metricRows⟩
  | replaceRows ownTenant ownPeriod rows =>
      obtain ⟨kept, _, rfl⟩ := exists_of_replaceRows performed
      exact ⟨assignments, rfl⟩

end

/-- The tables of assignments and rows hold just what some calls have imported. -/
structure HoldsImports (ledger : Ledger) (calls : List ImportCall) : Prop where
  assignments : ledger.assignments.isSome = true
  entities_kept : ∀ ruleSetId tenantId, ledger.assignmentsTo ruleSetId tenantId =
    (importedEntities ruleSetId tenantId calls).map (keptAssignment ruleSetId tenantId)
  metricRows : ledger.metricRows.isSome = true
  rows_kept : ∀ tenantId periodId, ledger.committedRows tenantId periodId =
    (importedRows tenantId periodId calls).map (keptRow tenantId periodId)

namespace HoldsImports

variable {calls : List ImportCall} {call : ImportCall}

theorem nil (assignments : before.assignments = some [])
    (metricRows : before.metricRows = some []) : before.HoldsImports [] := by
  constructor <;> simp [assignments, metricRows, assignmentsTo, committedRows, importedEntities,
    importedRows, lastOfEach]

/-- One more import is held besides those before it. -/
theorem concat (holds : before.HoldsImports calls)
    (performed : call.perform.Yields before (.ok ()) after) :
    after.HoldsImports (calls ++ [call]) := by
  obtain ⟨assignments, metricRows⟩ :=
    tables_of_perform performed holds.assignments holds.metricRows
  refine ⟨assignments, fun ruleSetId tenantId => ?_, metricRows, fun tenantId periodId => ?_⟩
  · cases brought : call.entityFor? ruleSetId tenantId with
    | none =>
        rw [assignmentsTo_of_perform performed brought, importedEntities_concat_of_none brought]
        exact holds.entities_kept ruleSetId tenantId
    | some entity =>
        rw [assignmentsTo_of_perform_some performed brought, holds.entities_kept,
          importedEntities_concat_of_some brought, List.filter_map, List.map_append]
        rfl
  · cases brought : call.rowsFor? tenantId periodId with
    | none =>
        rw [committedRows_of_perform performed brought, importedRows_concat_of_none brought]
        exact holds.rows_kept tenantId periodId
    | some rows =>
        rw [committedRows_of_perform_some performed brought, importedRows_concat_of_some brought]

/-- Imports are held after those that came before. -/
theorem append (holds : before.HoldsImports calls) {later : List ImportCall}
    (performed : (Activity.forEach ImportCall.perform later).Yields before (.ok ()) after) :
    after.HoldsImports (calls ++ later) := by
  induction later generalizing before calls with
  | nil =>
      rw [List.append_nil, ← performed.state]
      exact holds
  | cons call later ih =>
      obtain ⟨_, middle, first, rest⟩ := performed.exists_of_bind
      rw [List.append_cons]
      exact ih (holds.concat first) rest

end HoldsImports

/-- The rows of a period are all of one call, if there are any. -/
private theorem forall_importedRows (holds : List MetricRow → Prop) {calls : List ImportCall}
    (ofNone : holds []) (ofCall : ∀ call ∈ calls, holds call.rows) (tenantId periodId : String) :
    holds (importedRows tenantId periodId calls) := by
  unfold importedRows
  cases last : (calls.filterMap (ImportCall.rowsFor? tenantId periodId)).getLast? with
  | none => exact ofNone
  | some rows =>
      obtain ⟨call, member, brought⟩ := List.mem_filterMap.mp (List.mem_of_getLast? last)
      exact ImportCall.rows_of_rowsFor? brought ▸ ofCall call member

private theorem length_importedEntities_le (ruleSetId tenantId : String)
    (calls : List ImportCall) :
    (importedEntities ruleSetId tenantId calls).length ≤ calls.length :=
  (length_lastOfEach_le _).trans (List.length_filterMap_le _ _)

/-- Every load of the entities of a rule set gives these, whatever the size of its pages. -/
def ReturnsEntities (ledger : Ledger) (ruleSetId tenantId : String)
    (entities : List AssignedEntity) : Prop :=
  ∀ bound size, entities.length < bound →
    (Store.loadAll (asStore.loadEntities ruleSetId tenantId) bound size).Yields ledger
      (.ok entities) ledger

/-- Every load of the rows of a period gives these, whatever the size of its pages. -/
def ReturnsRows (ledger : Ledger) (tenantId periodId : String) (rows : List MetricRow) : Prop :=
  ∀ bound size, rows.length < bound →
    (Store.loadAll (asStore.loadRows tenantId periodId) bound size).Yields ledger (.ok rows) ledger

theorem returnsEntities_of_kept {ledger : Ledger} {ruleSetId tenantId : String}
    {entities : List AssignedEntity} (assignments : ledger.assignments.isSome = true)
    (kept : ledger.assignmentsTo ruleSetId tenantId =
      entities.map (keptAssignment ruleSetId tenantId))
    (short : entities.length < Nat.pow 2 63) :
    ledger.ReturnsEntities ruleSetId tenantId entities := by
  intro bound size enough
  have length : (ledger.assignmentsTo ruleSetId tenantId).length = entities.length := by
    rw [kept, List.length_map]
  rw [← length] at short enough
  have loaded := loadEntities_yields assignments short enough size
  rwa [kept, mapM_entityOf_keptAssignment] at loaded

theorem returnsRows_of_kept {ledger : Ledger} {tenantId periodId : String}
    {rows : List MetricRow} (metricRows : ledger.metricRows.isSome = true)
    (kept : ledger.committedRows tenantId periodId = rows.map (keptRow tenantId periodId))
    (finite : ∀ row ∈ rows, row.IsFinite) (short : rows.length < Nat.pow 2 63) :
    ledger.ReturnsRows tenantId periodId (rows.map MetricRow.reread) := by
  intro bound size enough
  have length : (ledger.committedRows tenantId periodId).length = rows.length := by
    rw [kept, List.length_map]
  rw [List.length_map] at enough
  rw [← length] at short enough
  have loaded := loadRows_yields metricRows short enough size
  rwa [kept, mapM_rowOf_keptRow _ _ _ finite] at loaded

/-- A ledger does not return two lists of rows of one period. -/
private theorem ReturnsRows.unique {ledger : Ledger} {tenantId periodId : String}
    {rows others : List MetricRow} (returned : ledger.ReturnsRows tenantId periodId rows)
    (also : ledger.ReturnsRows tenantId periodId others) : rows = others := by
  have loaded := returned (rows.length + others.length + 1) 1 (by omega)
  have again := also (rows.length + others.length + 1) 1 (by omega)
  exact Except.ok.inj (loaded.unique again).1

/-- After any imports, each load returns what the calls for its key have brought last, every entity
once, and one more call for another key changes nothing of that. Rows are returned with each number
as it is read from its own digits, and so as they were brought just when all of their numbers are
read as themselves. -/
theorem imports_are_returned_as_read {calls : List ImportCall}
    (assignments : before.assignments = some []) (metricRows : before.metricRows = some [])
    (imported : (Activity.forEach ImportCall.perform calls).Yields before (.ok ()) after)
    (finite : ∀ call ∈ calls, ∀ row ∈ call.rows, row.IsFinite)
    -- Positions in a table have 63 bits.
    (entities_short : ∀ ruleSetId tenantId,
      (importedEntities ruleSetId tenantId calls).length < Nat.pow 2 63)
    (rows_short : ∀ tenantId periodId,
      (importedRows tenantId periodId calls).length < Nat.pow 2 63) :
    (∀ ruleSetId tenantId, after.ReturnsEntities ruleSetId tenantId
      (importedEntities ruleSetId tenantId calls)) ∧
    (∀ ruleSetId tenantId,
      ((importedEntities ruleSetId tenantId calls).map AssignedEntity.id).Nodup) ∧
    (∀ tenantId periodId, after.ReturnsRows tenantId periodId
      ((importedRows tenantId periodId calls).map MetricRow.reread)) ∧
    (∀ tenantId periodId,
      after.ReturnsRows tenantId periodId (importedRows tenantId periodId calls) ↔
        ∀ row ∈ importedRows tenantId periodId calls, row.ReadsBack) ∧
    ∀ (call : ImportCall) (later : Ledger), call.perform.Yields after (.ok ()) later →
      (∀ ruleSetId tenantId, call.entityFor? ruleSetId tenantId = none →
        later.ReturnsEntities ruleSetId tenantId (importedEntities ruleSetId tenantId calls)) ∧
      ∀ tenantId periodId, call.rowsFor? tenantId periodId = none →
        later.ReturnsRows tenantId periodId
          ((importedRows tenantId periodId calls).map MetricRow.reread) := by
  have holds := (HoldsImports.nil assignments metricRows).append imported
  rw [List.nil_append] at holds
  have rowsFinite := forall_importedRows (fun rows => ∀ row ∈ rows, row.IsFinite) nofun finite
  have rowsReturned (tenantId periodId : String) := returnsRows_of_kept holds.metricRows
    (holds.rows_kept tenantId periodId) (rowsFinite tenantId periodId)
    (rows_short tenantId periodId)
  refine ⟨fun ruleSetId tenantId => ?entities, fun ruleSetId tenantId => nodup_lastOfEach _,
    rowsReturned, fun tenantId periodId => ?exact, fun call later performed => ?others⟩
  case entities =>
    exact returnsEntities_of_kept holds.assignments (holds.entities_kept ruleSetId tenantId)
      (entities_short ruleSetId tenantId)
  case exact =>
    simp only [← MetricRow.reread_eq_self_iff, ← map_eq_self_iff]
    constructor
    · intro returned
      exact (rowsReturned tenantId periodId).unique returned
    · intro same
      have returned := rowsReturned tenantId periodId
      rwa [same] at returned
  case others =>
    obtain ⟨assignments, metricRows⟩ :=
      tables_of_perform performed holds.assignments holds.metricRows
    refine ⟨fun ruleSetId tenantId other => ?_, fun tenantId periodId other => ?_⟩
    · refine returnsEntities_of_kept assignments ?_ (entities_short ruleSetId tenantId)
      rw [assignmentsTo_of_perform performed other]
      exact holds.entities_kept ruleSetId tenantId
    · refine returnsRows_of_kept metricRows ?_ (rowsFinite tenantId periodId)
        (rows_short tenantId periodId)
      rw [committedRows_of_perform performed other]
      exact holds.rows_kept tenantId periodId

/-- Imports for two tenants, in which an entity moves and a period is imported again. -/
def interleavedImports : List ImportCall :=
  [.assign "plan" "tenant" ⟨"first", some "south", .ofList [("role", "seller")]⟩,
    .assign "plan" "tenant" ⟨"second", none, .empty⟩,
    .replaceRows "tenant" "period" [⟨.entity, "first", "sales", .ofList [("revenue", 1.5)]⟩],
    .assign "plan" "neighbour" ⟨"first", none, .empty⟩,
    .replaceRows "tenant" "next" [⟨.location, "south", "sales", .ofList [("revenue", 7.0)]⟩],
    .assign "plan" "tenant" ⟨"first", some "north", .empty⟩,
    .replaceRows "tenant" "period"
      [⟨.entity, "second", "sales", .ofList [("revenue", 2.5)]⟩,
        ⟨.entity, "first", "visits", .ofList [("count", 3.0)]⟩]]

theorem interleavedImports_are_returned :
    let rules : RuleSetRow := ⟨"plan", "tenant", "Plan", "{}"⟩
    let before : Ledger := { blank.migrated with ruleSets := some [rules] }
    let entities : List AssignedEntity :=
      [⟨"second", none, .empty⟩, ⟨"first", some "north", .empty⟩]
    let rows : List MetricRow :=
      [⟨.entity, "second", "sales", .ofList [("revenue", 2.5)]⟩,
        ⟨.entity, "first", "visits", .ofList [("count", 3.0)]⟩]
    ∃ after,
      (Activity.forEach ImportCall.perform interleavedImports).Yields before (.ok ()) after ∧
        after.ReturnsEntities "plan" "tenant" entities ∧
        after.ReturnsRows "tenant" "period" rows := by
  intro rules before entities rows
  have accepted : (Activity.forEach ImportCall.perform interleavedImports before).result =
      .ok () := by
    decide +kernel
  have entitiesImported : importedEntities "plan" "tenant" interleavedImports = entities := by
    decide +kernel
  have rowsImported : importedRows "tenant" "period" interleavedImports = rows := by
    decide +kernel
  have entitiesShort : ∀ ruleSetId tenantId,
      (importedEntities ruleSetId tenantId interleavedImports).length < Nat.pow 2 63 :=
    fun ruleSetId tenantId =>
      Nat.lt_of_le_of_lt (length_importedEntities_le ruleSetId tenantId _) (by decide)
  have rowsShort : ∀ tenantId periodId,
      (importedRows tenantId periodId interleavedImports).length < Nat.pow 2 63 :=
    forall_importedRows (fun rows => rows.length < Nat.pow 2 63) (by decide) (by decide)
  refine ⟨_, ⟨accepted, rfl⟩, ?_⟩
  have readBack : ∀ row ∈ importedRows "tenant" "period" interleavedImports, row.ReadsBack := by
    decide +kernel
  obtain ⟨entitiesReturned, _, _, rowsReturned, _⟩ :=
    imports_are_returned_as_read rfl rfl ⟨accepted, rfl⟩ (by decide +kernel) entitiesShort
      rowsShort
  rw [← entitiesImported, ← rowsImported]
  exact ⟨entitiesReturned "plan" "tenant", (rowsReturned "tenant" "period").mpr readBack⟩

/-- The product of 8.7 and 1.3 is not returned. -/
theorem importedProduct_is_not_returned :
    let rows : List MetricRow :=
      [⟨.entity, "entity", "sales", .ofList [("revenue", 11.309999999999999)]⟩]
    let calls : List ImportCall := [.replaceRows "tenant" "period" rows]
    (∀ row ∈ rows, row.IsFinite) ∧ importedRows "tenant" "period" calls = rows ∧
      ∃ after, (Activity.forEach ImportCall.perform calls).Yields blank.migrated (.ok ()) after ∧
        ¬after.ReturnsRows "tenant" "period" rows := by
  intro rows calls
  have finite : ∀ row ∈ rows, row.IsFinite := by decide +kernel
  have accepted : (Activity.forEach ImportCall.perform calls blank.migrated).result = .ok () := by
    decide +kernel
  have other : rows.map MetricRow.reread ≠ rows := by decide +kernel
  have imported : importedRows "tenant" "period" calls = rows := rfl
  refine ⟨finite, imported, _, ⟨accepted, rfl⟩, fun returned => other ?_⟩
  have holds := (HoldsImports.nil rfl rfl).append ⟨accepted, rfl⟩
  exact (returnsRows_of_kept holds.metricRows (holds.rows_kept "tenant" "period") finite
    (by decide)).unique returned

end Ledger

end VariablePay
