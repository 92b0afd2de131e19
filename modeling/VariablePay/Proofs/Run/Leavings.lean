import VariablePay.Proofs.Ledger.Keys
import VariablePay.Proofs.Run.Containment

set_option autoImplicit false

/-!
# What a run leaves of its batch

Whatever is refused to a run under a new id, it leaves at most one record, and that is either a
draft without results or complete with the result of every entity.
-/

namespace VariablePay

theorem RunPhase.name_eq_iff {phase other : RunPhase} :
    phase.name = other.name ↔ phase = other := by
  constructor
  · intro same
    have found := ofName?_name phase
    rw [same, ofName?_name] at found
    exact (Option.some.inj found).symm
  · exact congrArg name

/-- A record that agrees with the number of results: a complete batch is in preview and has as many
as it has entities, and any other is a draft and has none. -/
structure BatchRow.IsSettled (row : BatchRow) (count : Nat) : Prop where
  complete : row.phase = RunPhase.complete.name →
    row.lifecycle = LifecycleState.preview.name ∧ row.entityCount.toInt = count
  draft : row.phase ≠ RunPhase.complete.name →
    row.lifecycle = LifecycleState.draft.name ∧ count = 0

namespace Ledger

open Activity

variable {before middle after : Ledger} {batchId : String} {refusal? : StoreCall → Option Failure}

/-- A ledger is as before but for the record of a batch, which is a draft. -/
inductive Drafts (before : Ledger) (batchId : String) : Ledger → Prop where
  | unrecorded : Drafts before batchId before
  | recorded {rows : List BatchRow} {row : BatchRow} (present : before.batches = some rows)
      (id : row.batchId = batchId) (phase : row.phase ≠ RunPhase.complete.name)
      (lifecycle : row.lifecycle = LifecycleState.draft.name) :
      Drafts before batchId { before with batches := some (rows ++ [row]) }

theorem writeBatch_error {batch : CalculationBatch} {fault : Failure}
    (written : (writeBatch batch).Yields before (.error fault) after) : after = before := by
  cases present : before.batches with
  | none =>
      have refused : (writeBatch batch).Yields before (.error (.database .missingTable)) before :=
        .bind_error (rowsOf_yields_error present)
      exact (written.unique refused).2
  | some rows =>
      cases number : realColumn batch.summary.totalPayout with
      | none => exact (written.unique (writeBatch_yields_error present number)).2
      | some total => cases (written.unique (writeBatch_yields present number)).1

/-- A batch that is new, or recorded as a draft, has its record behind those of the others. -/
theorem Drafts.withRecord_eq (drafts : before.Drafts batchId middle)
    (new : ∀ row ∈ before.batches.getD [], row.batchId ≠ batchId) {batch : CalculationBatch}
    (id : batch.batchId = batchId) {rows : List BatchRow} (present : middle.batches = some rows)
    (total : Float) :
    ∃ others old, before.batches = some others ∧ middle.withRecord rows batch total =
      { before with batches := some (others ++ [rowOver batch total old]) } := by
  subst id
  unfold withRecord
  cases drafts with
  | unrecorded =>
      have fresh : ∀ row ∈ rows, (row.batchId == batch.batchId) = false := by
        simpa [present] using new
      exact ⟨rows, none, present, by rw [upsert_of_fresh fresh]⟩
  | @recorded others last othersPresent id _ _ =>
      have fresh : ∀ row ∈ others, (row.batchId == batch.batchId) = false := by
        simpa [othersPresent] using new
      obtain rfl : others ++ [last] = rows := Option.some.inj present
      exact ⟨others, some last, othersPresent, by rw [upsert_concat fresh (beq_iff_eq.mpr id)]⟩

/-- A draft is recorded as a draft again, or not at all. -/
theorem Drafts.saveBatch (drafts : before.Drafts batchId middle)
    (new : ∀ row ∈ before.batches.getD [], row.batchId ≠ batchId) {batch : CalculationBatch}
    {answer : Except Failure Unit}
    (saved : ((asStore.refusing refusal?).saveBatch batch).Yields middle answer after)
    (id : batch.batchId = batchId) (phase : batch.phase ≠ .complete)
    (lifecycle : batch.lifecycle = .draft) : before.Drafts batchId after := by
  cases answer with
  | ok _ =>
      obtain ⟨rows, total, present, rfl⟩ := exists_of_writeBatch saved.of_withRefusal
      obtain ⟨others, old, othersPresent, same⟩ := drafts.withRecord_eq new id present total
      rw [same]
      refine .recorded othersPresent id ?_ (congrArg LifecycleState.name lifecycle)
      rwa [rowOver_phase, ne_eq, RunPhase.name_eq_iff]
  | error fault =>
      rw [saved.state_of_withRefusal writeBatch_error]
      exact drafts

/-- What a run has left of its batch: a record or none, and results, each behind those of others. -/
structure Leaves (before : Ledger) (batchId : String) (record? : Option BatchRow)
    (added : List ResultRow) (after : Ledger) : Prop where
  assignments : after.assignments = before.assignments
  batches : after.batches = before.batches.map (· ++ record?.toList)
  results : after.results = before.results.map (· ++ added)
  settled : ∀ row ∈ record?, row.batchId = batchId ∧ row.IsSettled added.length
  own : ∀ row ∈ added, row.batchId = batchId ∧ record?.isSome = true

theorem Drafts.exists_leaves (drafts : before.Drafts batchId after) :
    ∃ record? added, before.Leaves batchId record? added after := by
  cases drafts with
  | unrecorded =>
      refine ⟨none, [], ?_⟩
      constructor <;> simp
  | @recorded rows row present id phase lifecycle =>
      refine ⟨some row, [], rfl, by simp [present], by simp, ?_, nofun⟩
      rintro _ ⟨⟩
      exact ⟨id, fun complete => absurd complete phase, fun _ => ⟨lifecycle, rfl⟩⟩

variable {config : CalcConfig} {request : RunRequest} {ledger : Ledger}

theorem Drafts.inputTables_eq (drafts : before.Drafts batchId after) :
    inputTables after = inputTables before := by
  cases drafts <;> rfl

theorem Drafts.results_eq (drafts : before.Drafts batchId after) :
    after.results = before.results := by
  cases drafts <;> rfl

/-- A commit under a new id leaves the complete record and the result of every entity. -/
private theorem IsKeyed.exists_leaves_of_commit (keyed : ledger.IsKeyed)
    (new : ∀ row ∈ ledger.batches.getD [], row.batchId ≠ request.batchId) {inputs : RunInputs}
    {saved : Ledger} (drafts : ledger.Drafts request.batchId saved)
    (collect : ((asStore.refusing refusal?).collectInputs config ledger.pageBound
      request.startBatch).Yields saved (.ok inputs) saved)
    (commit : (commitCompleted (inputs.completedBatch config request)
      (inputs.evaluate config.aggregation).results).Yields saved (.ok ()) after) :
    ∃ row added, ledger.Leaves request.batchId (some row) added after := by
  have looks :=
    collectInputs_refusing_looksAt refusal? config ledger.pageBound request.startBatch
  have loads := looks.yields_of_view drafts.inputTables_eq
  rw [collect.result] at loads
  obtain ⟨plan, _, _, _, accepted, _⟩ := Store.collectInputs_yields_ok_iff.mp loads
  have ids := (inputs.addsUp config request).ids
  have distinct := keyed.nodup_of_collectInputs loads
  rw [← ids] at distinct
  obtain ⟨batches, rows, total, present, resultsPresent, number⟩ := exists_of_commitCompleted commit
  have isNumber : (inputs.completedBatch config request).summary.totalPayout.isNaN = false := by
    rw [Bool.eq_false_iff, ne_eq, ← realColumn_eq_none_iff, number]
    nofun
  have numbers := RunInputs.hasTotals_of_total accepted isNumber
  obtain ⟨_, rfl⟩ := commit.unique (commitCompleted_yields present resultsPresent number numbers)
  have unrecorded : ledger.recordOf? request.batchId = none :=
    List.find?_eq_none.mpr fun row member => by simpa using new row member
  rw [drafts.results_eq] at resultsPresent
  have fresh : ∀ row ∈ rows, row.batchId ≠ request.batchId := by
    simpa [resultsPresent] using keyed.batchId_ne_of_new unrecorded
  have sameId : (inputs.completedBatch config request).batchId = request.batchId := rfl
  obtain ⟨others, old, othersPresent, recorded⟩ := drafts.withRecord_eq new sameId present total
  refine ⟨rowOver (inputs.completedBatch config request) total old,
    (inputs.evaluate config.aggregation).results.map (resultRow request.batchId), ?_⟩
  unfold withCompleted
  rw [recorded]
  constructor
  case assignments => rfl
  case batches => simp [othersPresent]
  case results =>
    rw [resultsPresent]
    exact congrArg some (foldl_keepResult fresh distinct)
  case settled =>
    rintro _ ⟨⟩
    have length : (inputs.evaluate config.aggregation).results.length = inputs.entities.length :=
      (inputs.addsUp config request).summary_entityCount
    rw [List.length_map, length]
    refine ⟨rfl, fun _ => ⟨rfl, ?_⟩, fun incomplete => absurd rfl incomplete⟩
    exact Int64.toInt_ofNat_of_lt (keyed.length_entities_lt loads)
  case own =>
    intro row member
    obtain ⟨result, _, rfl⟩ := List.mem_map.mp member
    exact ⟨rfl, rfl⟩

/-- The tables that a run leaves alone after its commit. -/
def settledTables (ledger : Ledger) :
    Table AssignmentRow × Table BatchRow × Table ResultRow :=
  (ledger.assignments, ledger.batches, ledger.results)

private theorem Leaves.of_dispatch {record? : Option BatchRow} {added : List ResultRow}
    (leaves : before.Leaves batchId record? added middle) {batch : CalculationBatch}
    {consolidation : Consolidation}
    (dispatched : ((asStore.refusing refusal?).dispatch batch consolidation).Yields middle (.ok ())
      after) : before.Leaves batchId record? added after := by
  have keeps : ((asStore.refusing refusal?).dispatch batch consolidation).Keeps settledTables :=
    Store.dispatch_keeps
      (fun _ _ => (applyUpdates_keeps (fun _ _ => rfl) (fun _ _ => rfl) _ _).withRefusal _)
      (fun _ => (insertSignals_keeps (fun _ _ => rfl) _).withRefusal _) batch consolidation
  have same := keeps middle
  rw [dispatched.state] at same
  simp only [settledTables, Prod.mk.injEq] at same
  obtain ⟨assignments, batches, results⟩ := same
  exact ⟨assignments.trans leaves.assignments, batches.trans leaves.batches,
    results.trans leaves.results, leaves.settled, leaves.own⟩

/-- A run under a new id leaves a draft without results, a complete batch with the results of all
its entities, or nothing, whatever is refused to it. -/
theorem IsKeyed.exists_leaves_of_run (keyed : ledger.IsKeyed)
    (new : ∀ row ∈ ledger.batches.getD [], row.batchId ≠ request.batchId) :
    ∃ record? added, ledger.Leaves request.batchId record? added
      ((asStore.refusing refusal?).run config ledger.pageBound request ledger).state := by
  obtain ⟨result, after, course, yields⟩ := Store.exists_course (asStore.refusing refusal?) config
    ledger.pageBound request ledger
  have looks :=
    collectInputs_refusing_looksAt refusal? config ledger.pageBound request.startBatch
  have untouched : ledger.Drafts request.batchId ledger := .unrecorded
  rw [yields.state]
  cases course with
  | refused save record =>
      have started := untouched.saveBatch new save rfl nofun rfl
      exact (started.saveBatch new record rfl nofun rfl).exists_leaves
  | uncollected save collect record =>
      have started := untouched.saveBatch new save rfl nofun rfl
      obtain rfl := (looks.state_eq _).symm.trans collect.state
      exact (started.saveBatch new record rfl nofun rfl).exists_leaves
  | cutOff save collect =>
      obtain rfl := (looks.state_eq _).symm.trans collect.state
      exact (untouched.saveBatch new save rfl nofun rfl).exists_leaves
  | uncommitted save collect commit record =>
      have started := untouched.saveBatch new save rfl nofun rfl
      obtain rfl := (looks.state_eq _).symm.trans collect.state
      obtain rfl := commit.state_of_withRefusal Yields.transaction_error
      exact (started.saveBatch new record rfl nofun rfl).exists_leaves
  | completed save collect commit dispatch =>
      have started := untouched.saveBatch new save rfl nofun rfl
      obtain rfl := (looks.state_eq _).symm.trans collect.state
      obtain ⟨row, added, leaves⟩ :=
        keyed.exists_leaves_of_commit new started collect commit.of_withRefusal
      exact ⟨some row, added, leaves.of_dispatch dispatch⟩

end Ledger

end VariablePay
