import VariablePay.Proofs.Run.Cases
import VariablePay.Proofs.Run.Inputs

set_option autoImplicit false

/-!
# What a run loads from served lists

Any call of a store may fail. Where a store serves a plan, and two lists by offset and limit, a run
that collects its inputs has the plan and both lists whole, whatever the size of its pages.
-/

namespace VariablePay

namespace Activity

variable {ε σ α : Type} {holds : σ → Prop}

/-- Whenever an activity succeeds from a state of a kind, its value is one that is accepted and the
state it leaves is of that kind. -/
def Answers (activity : Activity ε σ α) (holds : σ → Prop) (accepts : α → Prop) : Prop :=
  ∀ ⦃before value after⦄, holds before → activity.Yields before (.ok value) after →
    accepts value ∧ holds after

/-- Pages of a list that are put together, from a page on, are the rest of the list. -/
theorem Answers.drainFrom? {fetch : Page → Activity ε σ (List α)} {items : List α}
    (served : ∀ page, (fetch page).Answers holds (· = page.slice items)) (bound : Nat)
    (page : Page) :
    (Activity.drainFrom? fetch bound page).Answers holds
      fun rest? => ∀ rest ∈ rest?, rest = items.drop page.offset := by
  induction bound generalizing page with
  | zero =>
      intro before rest? after starts yields
      obtain ⟨same, rfl⟩ := yields.unique (.pure none)
      cases same
      exact ⟨nofun, starts⟩
  | succ bound ih =>
      intro before rest? after starts yields
      obtain ⟨part, middle, fetched, yields⟩ := yields.exists_of_bind
      obtain ⟨rfl, middleHolds⟩ := served page starts fetched
      rw [page.drop_eq_slice_append]
      split at yields
      · rename_i short
        have last : items.drop page.next.offset = [] := by
          rw [page.length_slice] at short
          rw [List.drop_eq_nil_iff, page.next_offset]
          omega
        obtain ⟨same, rfl⟩ := yields.unique (.pure _)
        cases same
        rw [last, List.append_nil]
        exact ⟨fun rest found => (Option.some.inj found).symm, middleHolds⟩
      · obtain ⟨later?, last, drained, yields⟩ := yields.exists_of_bind
        obtain ⟨laterServed, lastHolds⟩ := ih page.next middleHolds drained
        obtain ⟨same, rfl⟩ := yields.unique (.pure _)
        cases same
        refine ⟨fun rest found => ?_, lastHolds⟩
        obtain ⟨later, isLater, rfl⟩ := Option.map_eq_some_iff.mp found
        rw [laterServed later isLater]

end Activity

namespace Store

open Activity

variable {σ : Type} {store : Store σ} {config : CalcConfig} {pageBound : Nat}
  {request : RunRequest} {plan? : Option RuleSet} {entities : List AssignedEntity}
  {rows : List MetricRow} {holds : σ → Prop}

/-- From states of a kind, a store serves a plan, or none, and two lists by offset and limit; and
its reads and the first record of a run leave a state of that kind. -/
structure Serves (store : Store σ) (request : RunRequest) (plan? : Option RuleSet)
    (entities : List AssignedEntity) (rows : List MetricRow) (holds : σ → Prop) : Prop where
  saveBatch : (store.saveBatch request.startBatch).Answers holds fun _ => True
  loadRuleSet : (store.loadRuleSet request.ruleSetId).Answers holds (· = plan?)
  loadEntities : ∀ page,
    (store.loadEntities request.ruleSetId request.tenantId page).Answers holds
      (· = page.slice entities)
  loadRows : ∀ page,
    (store.loadRows request.tenantId request.periodId page).Answers holds (· = page.slice rows)

theorem loadAll_answers {α : Type} {fetch : Page → Activity Failure σ (List α)} {items : List α}
    (served : ∀ page, (fetch page).Answers holds (· = page.slice items)) (bound size : Nat) :
    (loadAll fetch bound size).Answers holds (· = items) := by
  intro before found after starts yields
  obtain ⟨items?, middle, drained, yields⟩ := yields.exists_of_bind
  obtain ⟨whole, middleHolds⟩ :=
    Answers.drainFrom? served bound (.first size) starts drained.of_mapError
  cases items? with
  | none => cases (yields.unique (.fail _)).1
  | some loaded =>
      obtain ⟨same, rfl⟩ := yields.unique (.pure _)
      cases same
      exact ⟨whole found rfl, middleHolds⟩

/-- Inputs that are collected from what a store serves are all that it serves. -/
theorem Serves.collectInputs (serves : store.Serves request plan? entities rows holds)
    {inputs : RunInputs} {before after : σ} (starts : holds before)
    (collected : (store.collectInputs config pageBound request.startBatch).Yields before
      (.ok inputs) after) :
    plan?.map RuleSet.validated = some (.ok inputs.ruleSet) ∧ inputs.entities = entities ∧
      inputs.rows = rows := by
  obtain ⟨plan, _, _, _, accepted, planLoaded, entitiesLoaded, rowsLoaded, _⟩ :=
    collectInputs_yields_ok_iff.mp collected
  obtain ⟨rfl, starts⟩ := serves.loadRuleSet starts planLoaded
  obtain ⟨entitiesEq, starts⟩ := loadAll_answers serves.loadEntities _ _ starts entitiesLoaded
  obtain ⟨rowsEq, _⟩ := loadAll_answers serves.loadRows _ _ starts rowsLoaded
  exact ⟨congrArg some accepted, entitiesEq, rowsEq⟩

/-- The inputs that a run collects from a state, once the record that it starts with is saved. -/
def Loads (store : Store σ) (config : CalcConfig) (pageBound : Nat) (request : RunRequest)
    (before : σ) (inputs : RunInputs) : Prop :=
  ∃ saved collected, (store.saveBatch request.startBatch).Yields before (.ok ()) saved ∧
    (store.collectInputs config pageBound request.startBatch).Yields saved (.ok inputs) collected

theorem Loads.unique {before : σ} {inputs others : RunInputs}
    (loads : store.Loads config pageBound request before inputs)
    (again : store.Loads config pageBound request before others) : inputs = others := by
  obtain ⟨saved, collected, save, collect⟩ := loads
  obtain ⟨savedAgain, collectedAgain, saveAgain, collectAgain⟩ := again
  obtain ⟨_, rfl⟩ := save.unique saveAgain
  exact Except.ok.inj (collect.unique collectAgain).1

/-- What a run loads from a store that serves is all that is served. -/
theorem Serves.loads (serves : store.Serves request plan? entities rows holds)
    {inputs : RunInputs} {before : σ} (starts : holds before)
    (loads : store.Loads config pageBound request before inputs) :
    plan?.map RuleSet.validated = some (.ok inputs.ruleSet) ∧ inputs.entities = entities ∧
      inputs.rows = rows := by
  obtain ⟨saved, collected, save, collect⟩ := loads
  exact serves.collectInputs (serves.saveBatch starts save).2 collect

/-- A run that gives a result has loaded its inputs and evaluated them. -/
theorem exists_loads_of_run {before : σ} {result : RunResult}
    (completed : (store.run config pageBound request before).result = .ok result) :
    ∃ inputs, store.Loads config pageBound request before inputs ∧
      result = .of (inputs.completedBatch config request)
        (inputs.evaluate config.aggregation).results := by
  obtain ⟨outcome, after, course, yields⟩ := exists_course store config pageBound request before
  rw [yields.result] at completed
  cases course with
  | refused | uncollected | cutOff | uncommitted => cases completed
  | completed save collect commit dispatch =>
      cases completed
      exact ⟨_, ⟨_, _, save, collect⟩, rfl⟩

end Store

end VariablePay
