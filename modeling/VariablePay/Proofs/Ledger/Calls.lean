import VariablePay.Proofs.Ledger.Imports
import VariablePay.Proofs.Run.Leavings

set_option autoImplicit false

/-!
# Ledgers that calls can reach

In every ledger that calls have made of an empty one, the results are those of the complete batches,
whichever calls have failed and wherever a run has been interrupted.
-/

namespace VariablePay

/-- A call on a ledger. In a run the store may refuse what it likes. -/
inductive LedgerCall where
  | insertRuleSet (tenantId : String) (ruleSet : RuleSet)
  | imports (call : ImportCall)
  | seedDensity (tenantId signature : String) (score : Float)
  | run (config : CalcConfig) (request : RunRequest) (refusal? : StoreCall → Option Failure)

namespace LedgerCall

/-- The ledger after a call, be it successful or not. -/
def perform (ledger : Ledger) : LedgerCall → Ledger
  | insertRuleSet tenantId ruleSet => (Ledger.insertRuleSet tenantId ruleSet ledger).state
  | imports call => (call.perform ledger).state
  | seedDensity tenantId signature score =>
      (Ledger.seedDensity tenantId signature score ledger).state
  | run config request refusal? =>
      ((Ledger.asStore.refusing refusal?).run config ledger.pageBound request ledger).state

def batchId? : LedgerCall → Option String
  | run _ request _ => some request.batchId
  | _ => none

end LedgerCall

namespace Ledger

def reached (calls : List LedgerCall) : Ledger := calls.foldl LedgerCall.perform blank.migrated

/-- What the calls so far have made sure of. -/
structure IsOrderly (ledger : Ledger) (calls : List LedgerCall) : Prop where
  assignments : ((ledger.assignments.getD []).map fun row =>
    (row.ruleSetId, row.tenantId, row.entityId)).Nodup
  numbered : (ledger.assignments.getD []).length ≤ calls.length
  batches : ledger.batches.isSome = true
  results : ledger.results.isSome = true
  recorded : ∀ result ∈ ledger.results.getD [], ∃ row ∈ ledger.batches.getD [],
    row.batchId = result.batchId
  started : ∀ row ∈ ledger.batches.getD [], row.batchId ∈ calls.filterMap LedgerCall.batchId?
  settled : ∀ row ∈ ledger.batches.getD [], row.IsSettled
    ((ledger.results.getD []).countP fun result => result.batchId == row.batchId)

variable {before after : Ledger} {calls : List LedgerCall} {call : LedgerCall} {batchId : String}
  {record? : Option BatchRow} {added : List ResultRow}

theorem Leaves.countP_own (leaves : before.Leaves batchId record? added after) :
    added.countP (fun result => result.batchId == batchId) = added.length :=
  List.countP_eq_length.mpr fun result member => beq_iff_eq.mpr (leaves.own result member).1

theorem Leaves.countP_of_other (leaves : before.Leaves batchId record? added after)
    {other : String} (isOther : other ≠ batchId) :
    added.countP (fun result => result.batchId == other) = 0 := by
  refine List.countP_eq_zero.mpr fun result member => ?_
  rw [(leaves.own result member).1, beq_iff_eq]
  exact isOther.symm

namespace IsOrderly

theorem nil : blank.migrated.IsOrderly [] := by
  constructor <;> simp [blank, migrated]

theorem keyed (orderly : before.IsOrderly calls) (few : calls.length < Nat.pow 2 63) :
    before.IsKeyed where
  assignments := orderly.assignments
  results result member := by
    obtain ⟨row, recorded, same⟩ := orderly.recorded result member
    unfold recordOf?
    simpa using ⟨row, recorded, same⟩
  numbered := Nat.lt_of_le_of_lt orderly.numbered few

/-- A call that leaves batches and results alone, and adds an assignment at most. -/
theorem of_same (orderly : before.IsOrderly calls)
    (assignments : ((after.assignments.getD []).map fun row =>
      (row.ruleSetId, row.tenantId, row.entityId)).Nodup)
    (numbered : (after.assignments.getD []).length ≤ (before.assignments.getD []).length + 1)
    (batches : after.batches = before.batches) (results : after.results = before.results) :
    after.IsOrderly (calls ++ [call]) where
  assignments := assignments
  numbered := by
    have before := orderly.numbered
    rw [List.length_append, List.length_singleton]
    omega
  batches := by rw [batches]; exact orderly.batches
  results := by rw [results]; exact orderly.results
  recorded := by rw [batches, results]; exact orderly.recorded
  started row member := by
    rw [batches] at member
    rw [List.filterMap_append]
    exact List.mem_append_left _ (orderly.started row member)
  settled := by rw [batches, results]; exact orderly.settled

theorem of_settled (orderly : before.IsOrderly calls)
    (same : settledTables after = settledTables before) : after.IsOrderly (calls ++ [call]) := by
  simp only [settledTables, Prod.mk.injEq] at same
  obtain ⟨assignments, batches, results⟩ := same
  refine orderly.of_same ?_ ?_ batches results
  · rw [assignments]
    exact orderly.assignments
  · rw [assignments]
    exact Nat.le_succ _

/-- A run under a new id. -/
theorem of_leaves (orderly : before.IsOrderly calls) (id : call.batchId? = some batchId)
    (new : batchId ∉ calls.filterMap LedgerCall.batchId?)
    (leaves : before.Leaves batchId record? added after) :
    after.IsOrderly (calls ++ [call]) := by
  obtain ⟨rows, batchesPresent⟩ := Option.isSome_iff_exists.mp orderly.batches
  obtain ⟨kept, resultsPresent⟩ := Option.isSome_iff_exists.mp orderly.results
  have batches : after.batches = some (rows ++ record?.toList) := by
    rw [leaves.batches, batchesPresent]
    rfl
  have results : after.results = some (kept ++ added) := by
    rw [leaves.results, resultsPresent]
    rfl
  obtain ⟨assignments, numbered, _, _, recorded, started, settled⟩ := orderly
  simp only [batchesPresent, resultsPresent, Option.getD_some] at recorded started settled
  have others : ∀ row ∈ rows, row.batchId ≠ batchId := fun row member same =>
    new (same ▸ started row member)
  have foreign : ∀ result ∈ kept, result.batchId ≠ batchId := by
    intro result member
    obtain ⟨row, inRows, same⟩ := recorded result member
    exact same ▸ others row inRows
  constructor
  case assignments => rwa [leaves.assignments]
  case numbered =>
    rw [leaves.assignments, List.length_append]
    exact Nat.le_add_right_of_le numbered
  case batches => rw [batches]; rfl
  case results => rw [results]; rfl
  case recorded =>
    simp only [batches, results, Option.getD_some, List.mem_append, Option.mem_toList]
    rintro result (old | new)
    · obtain ⟨row, inRows, same⟩ := recorded result old
      exact ⟨row, .inl inRows, same⟩
    · obtain ⟨sameId, present⟩ := leaves.own result new
      obtain ⟨row, isRecord⟩ := Option.isSome_iff_exists.mp present
      exact ⟨row, .inr isRecord, (leaves.settled row isRecord).1.trans sameId.symm⟩
  case started =>
    simp only [batches, Option.getD_some, List.mem_append, Option.mem_toList,
      List.filterMap_append]
    rintro row (old | new)
    · exact .inl (started row old)
    · rw [(leaves.settled row new).1]
      simp [id]
  case settled =>
    simp only [batches, results, Option.getD_some, List.mem_append, Option.mem_toList,
      List.countP_append]
    rintro row (old | new)
    · rw [leaves.countP_of_other (others row old)]
      exact settled row old
    · obtain ⟨sameId, isSettled⟩ := leaves.settled row new
      have noneKept : kept.countP (fun result => result.batchId == batchId) = 0 := by
        simpa [List.countP_eq_zero] using foreign
      rw [sameId, noneKept, leaves.countP_own, Nat.zero_add]
      exact isSettled

end IsOrderly

theorem assign_error {ruleSetId tenantId : String} {entity : AssignedEntity} {fault : Failure}
    (refused : (assign ruleSetId tenantId entity).Yields before (.error fault) after) :
    after = before := by
  obtain ⟨_, missing, _⟩ | ⟨rows, middle, found, rest⟩ := refused.cases_of_bind
  · exact eq_of_rowsOf missing
  obtain rfl := eq_of_rowsOf found
  obtain ⟨_, missing, _⟩ | ⟨ruleSets, last, found, final⟩ := rest.cases_of_bind
  · exact eq_of_rowsOf missing
  obtain rfl := eq_of_rowsOf found
  split at final
  · cases final.result
  · exact final.state.symm

/-- An entity that is assigned again is still assigned once. -/
theorem nodup_withAssignment {rows : List AssignmentRow}
    (nodup : (rows.map fun row => (row.ruleSetId, row.tenantId, row.entityId)).Nodup)
    (ruleSetId tenantId : String) (entity : AssignedEntity) :
    (((before.withAssignment rows ruleSetId tenantId entity).assignments.getD []).map fun row =>
      (row.ruleSetId, row.tenantId, row.entityId)).Nodup := by
  unfold withAssignment
  rw [Option.getD_some, List.map_append, List.nodup_append]
  refine ⟨nodup.sublist (List.filter_sublist.map _), List.nodup_singleton _, ?_⟩
  simp only [List.mem_map, List.mem_filter, List.map_singleton, List.mem_singleton]
  rintro key ⟨row, ⟨_, different⟩, rfl⟩ last rfl same
  simp [keptAssignment, Prod.ext_iff] at same
  simp [same] at different

/-- Every call keeps the ledger orderly, a run if its batch is new. -/
theorem IsOrderly.perform (orderly : before.IsOrderly calls) (few : calls.length < Nat.pow 2 63)
    (new : ∀ batchId, call.batchId? = some batchId →
      batchId ∉ calls.filterMap LedgerCall.batchId?) :
    (call.perform before).IsOrderly (calls ++ [call]) := by
  cases call with
  | insertRuleSet tenantId ruleSet =>
      exact orderly.of_settled (insertRuleSet_keeps (fun _ _ => rfl) tenantId ruleSet before)
  | seedDensity tenantId signature score =>
      exact orderly.of_settled (seedDensity_keeps (fun _ _ => rfl) tenantId signature score before)
  | imports call =>
      cases call with
      | replaceRows tenantId periodId rows =>
          have keeps :
              (ImportCall.replaceRows tenantId periodId rows).perform.Keeps settledTables :=
            .bind (replaceRows_keeps (fun _ _ => rfl) _ _ _) fun _ => .pure ()
          exact orderly.of_settled (keeps before)
      | assign ruleSetId tenantId entity =>
          obtain ⟨result, after, assigned⟩ :=
            Activity.Yields.exists_yields (assign ruleSetId tenantId entity) before
          change (assign ruleSetId tenantId entity before).state.IsOrderly _
          rw [assigned.state]
          cases result with
          | error fault =>
              rw [assign_error assigned]
              exact orderly.of_settled rfl
          | ok _ =>
              obtain ⟨rows, present, rfl⟩ := exists_of_assign assigned
              have nodup := orderly.assignments
              rw [present, Option.getD_some] at nodup
              refine orderly.of_same (nodup_withAssignment nodup ruleSetId tenantId entity) ?_ rfl
                rfl
              rw [present]
              simp [withAssignment, List.length_filter_le]
  | run config request refusal? =>
      have isNew := new request.batchId rfl
      have unrecorded : ∀ row ∈ before.batches.getD [], row.batchId ≠ request.batchId :=
        fun row member same => isNew (same ▸ orderly.started row member)
      obtain ⟨record?, added, leaves⟩ := (orderly.keyed few).exists_leaves_of_run unrecorded
      exact orderly.of_leaves rfl isNew leaves

theorem reached_isOrderly (distinct : (calls.filterMap LedgerCall.batchId?).Nodup)
    (few : calls.length < Nat.pow 2 63) : (reached calls).IsOrderly calls := by
  induction calls using List.reverseRecOn with
  | nil => exact .nil
  | append_singleton calls call ih =>
      rw [List.filterMap_append, List.nodup_append] at distinct
      rw [List.length_append, List.length_singleton] at few
      obtain ⟨distinct, _, apart⟩ := distinct
      unfold reached
      rw [List.foldl_append, List.foldl_cons, List.foldl_nil]
      refine (ih distinct (Nat.lt_of_succ_lt few)).perform (Nat.lt_of_succ_lt few) ?_
      intro batchId makes member
      exact apart batchId member batchId (by simp [makes]) rfl

/-- In every ledger that calls have made of an empty one, each complete batch is in preview and has
as many results as it has entities, and every other batch is a draft and has none. -/
theorem reached_results (calls : List LedgerCall)
    (distinct : (calls.filterMap LedgerCall.batchId?).Nodup)
    -- Rows are numbered with 63 bits.
    (few : calls.length < Nat.pow 2 63) :
    ∀ row ∈ (reached calls).batches.getD [], ∃ count,
      (resultCount row.batchId (reached calls)).result = .ok count ∧ row.IsSettled count := by
  have orderly := reached_isOrderly distinct few
  obtain ⟨results, present⟩ := Option.isSome_iff_exists.mp orderly.results
  intro row member
  have settled := orderly.settled row member
  rw [present] at settled
  have counted : (resultCount row.batchId).Yields (reached calls)
      (.ok (results.countP fun result => result.batchId == row.batchId)) (reached calls) :=
    .bind (rowsOf_yields present) (.pure _)
  exact ⟨_, counted.result, settled⟩

/-- Four runs on one plan: one completes, one is refused its commit, one is refused everything after
its first record, and one asks for a plan that is not there. -/
def interruptedCalls : List LedgerCall :=
  let request (batchId plan : String) : RunRequest := ⟨batchId, "tenant", "period", plan, .epoch⟩
  let lost : Failure := .persistence "store" "connection lost"
  [.insertRuleSet "tenant" shareRuleSet,
    .imports (.assign "plan" "tenant" ⟨"first", none, .empty⟩),
    .imports (.assign "plan" "tenant" ⟨"second", none, .empty⟩),
    .imports (.replaceRows "tenant" "period"
      [⟨.entity, "first", "sales", .ofList [("revenue", 12.5)]⟩]),
    .run .standard (request "completed" "plan") fun _ => none,
    .run .standard (request "uncommitted" "plan") fun call =>
      if call.name == "completed" then some lost else none,
    .run .standard (request "interrupted" "plan") fun
      | .saveBatch batch => if batch.phase = .failed then some lost else none
      | _ => some lost,
    .run .standard (request "unplanned" "missing") fun _ => none]

theorem interruptedCalls_reached_results :
    (interruptedCalls.filterMap LedgerCall.batchId?).Nodup ∧
      interruptedCalls.length < Nat.pow 2 63 ∧
      ((reached interruptedCalls).batches.getD []).map BatchRow.phase =
        ["COMPLETE", "FAILED", "COLLECTING_INPUTS", "FAILED"] ∧
      ∀ row ∈ (reached interruptedCalls).batches.getD [], ∃ count,
        (resultCount row.batchId (reached interruptedCalls)).result = .ok count ∧
          row.IsSettled count := by
  have distinct : (interruptedCalls.filterMap LedgerCall.batchId?).Nodup := by decide +kernel
  have few : interruptedCalls.length < Nat.pow 2 63 := by decide +kernel
  exact ⟨distinct, few, by decide +kernel, reached_results interruptedCalls distinct few⟩

end Ledger

end VariablePay
