import VariablePay.Proofs.Ledger.Batches
import VariablePay.Proofs.Ledger.Loads

set_option autoImplicit false

/-!
# Keys

The keys of a ledger's tables rule out that an entity is assigned twice to the rule set of a tenant,
and that there are results of a batch without a record.
-/

namespace VariablePay.Ledger

/-- What the keys of the tables ensure. -/
structure IsKeyed (ledger : Ledger) : Prop where
  assignments : ((ledger.assignments.getD []).map fun row =>
    (row.ruleSetId, row.tenantId, row.entityId)).Nodup
  results : ∀ row ∈ ledger.results.getD [], ledger.recordOf? row.batchId ≠ none
  -- Rows are numbered with 63 bits.
  numbered : (ledger.assignments.getD []).length < Nat.pow 2 63

variable {ledger : Ledger}

namespace IsKeyed

theorem nodup_assignmentsTo (keyed : ledger.IsKeyed) (ruleSetId tenantId : String) :
    ((ledger.assignmentsTo ruleSetId tenantId).map AssignmentRow.entityId).Nodup := by
  have among : ((ledger.assignmentsTo ruleSetId tenantId).map fun row =>
      (row.ruleSetId, row.tenantId, row.entityId)).Nodup :=
    keyed.assignments.sublist (List.filter_sublist.map _)
  have meant : ∀ row ∈ ledger.assignmentsTo ruleSetId tenantId,
      (row.ruleSetId, row.tenantId, row.entityId) = (ruleSetId, tenantId, row.entityId) := by
    intro row member
    have isMeant := (List.mem_filter.mp member).2
    simp only [Bool.and_eq_true, beq_iff_eq] at isMeant
    rw [isMeant.1, isMeant.2]
  refine List.Nodup.of_map (fun entityId => (ruleSetId, tenantId, entityId)) ?_
  rw [List.map_map]
  rw [List.map_congr_left meant] at among
  exact among

theorem length_assignmentsTo_lt (keyed : ledger.IsKeyed) (ruleSetId tenantId : String) :
    (ledger.assignmentsTo ruleSetId tenantId).length < Nat.pow 2 63 :=
  Nat.lt_of_le_of_lt (List.length_filter_le _ _) keyed.numbered

/-- There are no results of a batch that is new. -/
theorem batchId_ne_of_new (keyed : ledger.IsKeyed) {batchId : String}
    (new : ledger.recordOf? batchId = none) :
    ∀ row ∈ ledger.results.getD [], row.batchId ≠ batchId := by
  rintro row member rfl
  exact keyed.results row member new

section

variable {refusal? : StoreCall → Option Failure} {config : CalcConfig} {request : RunRequest}
  {inputs : RunInputs} {after : Ledger}

/-- A run that finds its entities finds those that are assigned. -/
theorem entityIds_of_collectInputs (keyed : ledger.IsKeyed)
    (collected : ((asStore.refusing refusal?).collectInputs config ledger.pageBound
      request.startBatch).Yields ledger (.ok inputs) after) :
    inputs.entities.map AssignedEntity.id =
      (ledger.assignmentsTo request.ruleSetId request.tenantId).map AssignmentRow.entityId := by
  obtain ⟨_, first, _, _, _, planLoaded, entitiesLoaded, _⟩ :=
    Store.collectInputs_yields_ok_iff.mp collected
  have looks := (ruleSet?_looksAt request.ruleSetId).state_eq ledger
  obtain rfl : ledger = first := looks.symm.trans planLoaded.of_withRefusal.state
  exact entityIds_of_loadEntities (keyed.length_assignmentsTo_lt _ _)
    (ledger.length_assignmentsTo_lt_pageBound _ _) (Store.loadAll_of_withRefusal entitiesLoaded)

/-- A run finds each entity once. -/
theorem nodup_of_collectInputs (keyed : ledger.IsKeyed)
    (collected : ((asStore.refusing refusal?).collectInputs config ledger.pageBound
      request.startBatch).Yields ledger (.ok inputs) after) :
    (inputs.entities.map AssignedEntity.id).Nodup := by
  rw [keyed.entityIds_of_collectInputs collected]
  exact keyed.nodup_assignmentsTo _ _

theorem length_entities_lt (keyed : ledger.IsKeyed)
    (collected : ((asStore.refusing refusal?).collectInputs config ledger.pageBound
      request.startBatch).Yields ledger (.ok inputs) after) :
    inputs.entities.length < Nat.pow 2 63 := by
  have length := congrArg List.length (keyed.entityIds_of_collectInputs collected)
  rw [List.length_map, List.length_map] at length
  rw [length]
  exact keyed.length_assignmentsTo_lt _ _

end

end IsKeyed

end VariablePay.Ledger
