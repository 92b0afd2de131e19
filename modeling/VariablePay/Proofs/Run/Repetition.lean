import VariablePay.Proofs.Run.Served
import VariablePay.Proofs.Run.Workers
import VariablePay.Proofs.Store.Memory

set_option autoImplicit false

/-!
# Payouts do not depend on history or tuning

A run pays by its plan, its entities, its rows and the way it collapses rows. The densities of
earlier runs, the thresholds, the size of pages and the workers have no part in it, so a run that is
repeated pays the same.
-/

namespace VariablePay

namespace PopulationState

/-- Workers that take one entity after the other come to an end. -/
private theorem exists_steps_from (finished rest : List EntityRun) (surface : Surface) :
    ∃ last, Steps (finished ++ rest)
      ⟨finished.map (fun run => .finished run.result) ++ rest.map fun _ => .waiting, surface⟩
      ⟨(finished ++ rest).map fun run => .finished run.result, last⟩ := by
  induction rest generalizing finished surface with
  | nil => exact ⟨surface, by simp only [List.append_nil, List.map_nil]; exact .refl⟩
  | cons run rest ih =>
      obtain ⟨last, steps⟩ := ih (finished ++ [run]) (surface.append run.events)
      refine ⟨last, ?_⟩
      have evaluated : (finished ++ run :: rest)[finished.length]? = some run := by simp
      refine .head (.log evaluated (by simp)) (.head (.finish evaluated (by simp)) ?_)
      simpa using steps

theorem exists_isFinished (runs : List EntityRun) (prior : Density) :
    ∃ state, Steps runs (start runs prior) state ∧
      state.IsFinished (runs.map EntityRun.result) := by
  obtain ⟨last, steps⟩ := exists_steps_from [] runs (.ofDensity prior)
  exact ⟨_, steps, List.map_map.symm⟩

end PopulationState

namespace Store

variable {σ τ : Type} {store : Store σ} {config : CalcConfig} {pageBound : Nat}
  {request : RunRequest} {plan? : Option RuleSet} {entities : List AssignedEntity}
  {rows : List MetricRow} {holds : σ → Prop} {before : σ}

/-- Results that the workers of a run leave once every entity that it loaded is finished, in
whatever order. -/
def WorkersLeave (store : Store σ) (config : CalcConfig) (pageBound : Nat) (request : RunRequest)
    (before : σ) (results : List EntityResult) : Prop :=
  ∃ inputs state, store.Loads config pageBound request before inputs ∧
    PopulationState.Steps (inputs.runs config.aggregation)
      (.start (inputs.runs config.aggregation) inputs.prior) state ∧
    state.IsFinished results

/-- What a plan, or none, pays the entities of a list by the rows of another, each evaluated on its
own. -/
def PaysFor (plan? : Option RuleSet) (entities : List AssignedEntity) (rows : List MetricRow)
    (config : AggregationConfig) (results : List EntityResult) : Prop :=
  ∃ valid, plan?.map RuleSet.validated = some (.ok valid) ∧
    results = entities.map fun entity =>
      ((PreparedRuleSet.of valid).evaluate config rows entity).result

theorem PaysFor.unique {config : AggregationConfig} {results others : List EntityResult}
    (pays : PaysFor plan? entities rows config results)
    (again : PaysFor plan? entities rows config others) : results = others := by
  obtain ⟨valid, accepted, rfl⟩ := pays
  obtain ⟨other, acceptedAgain, rfl⟩ := again
  cases accepted.symm.trans acceptedAgain
  rfl

theorem Serves.paysFor (serves : store.Serves request plan? entities rows holds)
    (starts : holds before) {inputs : RunInputs}
    (loads : store.Loads config pageBound request before inputs) :
    PaysFor plan? entities rows config.aggregation
      ((inputs.runs config.aggregation).map EntityRun.result) := by
  obtain ⟨accepted, entitiesEq, rowsEq⟩ := serves.loads starts loads
  refine ⟨inputs.ruleSet, accepted, ?_⟩
  rw [RunInputs.runs, List.map_map, entitiesEq, rowsEq]
  rfl

/-- A run over served lists pays for them what the plan pays, and in total the sum of that. -/
theorem Serves.run_paysFor (serves : store.Serves request plan? entities rows holds)
    (starts : holds before) {result : RunResult}
    (completed : (store.run config pageBound request before).result = .ok result) :
    PaysFor plan? entities rows config.aggregation result.results ∧
      result.totalPayout = Payout.total (result.results.map EntityResult.total) := by
  obtain ⟨inputs, loads, rfl⟩ := exists_loads_of_run completed
  exact ⟨serves.paysFor starts loads, rfl⟩

/-- Runs over the same lists that collapse rows in the same way pay the same. -/
theorem Serves.payouts_eq {other : Store τ} {tuned : CalcConfig} {otherBound : Nat}
    {asked : RunRequest} {otherHolds : τ → Prop} {otherBefore : τ} {result again : RunResult}
    (serves : store.Serves request plan? entities rows holds) (starts : holds before)
    (otherServes : other.Serves asked plan? entities rows otherHolds)
    (otherStarts : otherHolds otherBefore) (sameWay : config.aggregation = tuned.aggregation)
    (completed : (store.run config pageBound request before).result = .ok result)
    (completedAgain : (other.run tuned otherBound asked otherBefore).result = .ok again) :
    result.results = again.results ∧ result.totalPayout = again.totalPayout := by
  obtain ⟨pays, total⟩ := serves.run_paysFor starts completed
  obtain ⟨paysAgain, totalAgain⟩ := otherServes.run_paysFor otherStarts completedAgain
  rw [← sameWay] at paysAgain
  have same := pays.unique paysAgain
  exact ⟨same, by rw [total, totalAgain, same]⟩

/-- The workers of a run that gives a result can leave what it gives. -/
theorem workersLeave_of_run {result : RunResult}
    (completed : (store.run config pageBound request before).result = .ok result) :
    store.WorkersLeave config pageBound request before result.results := by
  obtain ⟨inputs, loads, rfl⟩ := exists_loads_of_run completed
  obtain ⟨state, steps, finished⟩ :=
    PopulationState.exists_isFinished (inputs.runs config.aggregation) inputs.prior
  exact ⟨inputs, state, loads, steps, finished⟩

theorem Serves.workers_paysFor (serves : store.Serves request plan? entities rows holds)
    (starts : holds before) {results : List EntityResult}
    (left : store.WorkersLeave config pageBound request before results) :
    PaysFor plan? entities rows config.aggregation results := by
  obtain ⟨inputs, state, loads, steps, finished⟩ := left
  obtain ⟨rfl, _⟩ := PopulationState.eq_of_isFinished steps finished
  exact serves.paysFor starts loads

/-- What no call touches, a run leaves as it was, whatever becomes of it. -/
theorem Keeps.run {view : σ → τ} (keeps : store.Keeps view) (config : CalcConfig)
    (pageBound : Nat) (request : RunRequest) :
    (store.run config pageBound request).Keeps view := by
  intro before
  have collectKeeps : (store.collectInputs config pageBound request.startBatch).Keeps view :=
    collectInputs_keeps keeps.loadRuleSet keeps.loadEntities keeps.loadRows keeps.loadDensity _ _ _
  obtain ⟨outcome, after, course, yields⟩ := exists_course store config pageBound request before
  rw [yields.state]
  cases course with
  | refused save record =>
      rw [← record.state, keeps.saveBatch, ← save.state, keeps.saveBatch]
  | uncollected save collect record =>
      rw [← record.state, keeps.saveBatch, ← collect.state, collectKeeps, ← save.state,
        keeps.saveBatch]
  | cutOff save collect => rw [← collect.state, collectKeeps, ← save.state, keeps.saveBatch]
  | uncommitted save collect commit record =>
      rw [← record.state, keeps.saveBatch, ← commit.state, keeps.saveCompleted, ← collect.state,
        collectKeeps, ← save.state, keeps.saveBatch]
  | completed save collect commit dispatch =>
      rw [← dispatch.state, dispatch_keeps keeps.saveDensity keeps.saveSignals, ← commit.state,
        keeps.saveCompleted, ← collect.state, collectKeeps, ← save.state, keeps.saveBatch]

end Store

namespace MemoryStore

/-- A turn of a store: its density is changed, then a run is made. -/
structure Turn where
  change : Density → Density
  config : CalcConfig
  pageBound : Nat
  request : RunRequest

/-- What the turns of a store come to, one after the other. A run that fails is followed by the next
turn like any other. -/
def turns : List Turn → MemoryStore → List (Except RunFault RunResult)
  | [], _ => []
  | turn :: rest, store =>
      let changed := { store with density := turn.change store.density }
      let done := asStore.run turn.config turn.pageBound turn.request changed
      done.result :: turns rest done.state

/-- Each result of a turn comes from a run on the lists that the store had from the start. -/
theorem exists_run_of_mem_turns {steps : List Turn} {store : MemoryStore}
    {outcome : Except RunFault RunResult} (member : outcome ∈ turns steps store) :
    ∃ turn ∈ steps, ∃ before : MemoryStore, before.lists = store.lists ∧
      (asStore.run turn.config turn.pageBound turn.request before).result = outcome := by
  induction steps generalizing store with
  | nil => cases member
  | cons turn rest ih =>
      rcases List.mem_cons.mp member with rfl | later
      · exact ⟨turn, List.mem_cons_self, { store with density := turn.change store.density }, rfl,
          rfl⟩
      · obtain ⟨other, isLater, before, same, ran⟩ := ih later
        refine ⟨other, List.mem_cons_of_mem turn isLater, before, same.trans ?_, ran⟩
        exact asStore_keeps.run turn.config turn.pageBound turn.request _

end MemoryStore

/-- Two runs over the same plan and the same lists, with the same way to collapse rows, pay the
same, whatever else differs: stores, prior densities, requests, page sizes, thresholds and the order
in which workers finish. So do all runs that are repeated on a store in memory, with its density
changed in between. -/
theorem Store.run_payouts_of_any_history :
    (∀ {σ τ : Type} {store : Store σ} {other : Store τ} {config tuned : CalcConfig}
      {pageBound otherBound : Nat} {request asked : RunRequest} {plan? : Option RuleSet}
      {entities : List AssignedEntity} {rows : List MetricRow} {holds : σ → Prop}
      {otherHolds : τ → Prop} {before : σ} {otherBefore : τ} {result again : RunResult},
      (store.run config pageBound request before).result = .ok result →
      (other.run tuned otherBound asked otherBefore).result = .ok again →
      config.aggregation = tuned.aggregation →
      store.Serves request plan? entities rows holds → holds before →
      other.Serves asked plan? entities rows otherHolds → otherHolds otherBefore →
        result.results = again.results ∧ result.totalPayout = again.totalPayout ∧
          ∀ left, store.WorkersLeave config pageBound request before left ↔
            left = again.results) ∧
    ∀ (store : MemoryStore) (steps : List MemoryStore.Turn) (ruleSetId : String)
      (aggregation : AggregationConfig) (result again : RunResult),
      (∀ turn ∈ steps,
        turn.request.ruleSetId = ruleSetId ∧ turn.config.aggregation = aggregation) →
      .ok result ∈ MemoryStore.turns steps store → .ok again ∈ MemoryStore.turns steps store →
        result.results = again.results ∧ result.totalPayout = again.totalPayout := by
  constructor
  · intro σ τ store other config tuned pageBound otherBound request asked plan? entities rows holds
      otherHolds before otherBefore result again completed completedAgain sameWay serves starts
      otherServes otherStarts
    obtain ⟨same, total⟩ :=
      serves.payouts_eq starts otherServes otherStarts sameWay completed completedAgain
    refine ⟨same, total, fun left => ⟨fun workers => ?_, ?_⟩⟩
    · have pays := (serves.run_paysFor starts completed).1
      exact ((serves.workers_paysFor starts workers).unique pays).trans same
    · rintro rfl
      rw [← same]
      exact Store.workersLeave_of_run completed
  · intro store steps ruleSetId aggregation result again alike member memberAgain
    obtain ⟨turn, isTurn, before, same, completed⟩ := MemoryStore.exists_run_of_mem_turns member
    obtain ⟨other, isOther, otherBefore, sameAgain, completedAgain⟩ :=
      MemoryStore.exists_run_of_mem_turns memberAgain
    obtain ⟨plan, way⟩ := alike turn isTurn
    obtain ⟨otherPlan, otherWay⟩ := alike other isOther
    have serves := store.asStore_serves turn.request
    have servesAgain := store.asStore_serves other.request
    rw [plan] at serves
    rw [otherPlan] at servesAgain
    exact serves.payouts_eq same servesAgain sameAgain (way.trans otherWay.symm) completed
      completedAgain

/-- Two entities are paid the same from pages of 500 and from pages of one, over no prior and over
one that is not a number, and by a store that runs twice. -/
theorem MemoryStore.asStore_run_payouts_of_any_history :
    let store : MemoryStore :=
      ⟨[shareRuleSet], [⟨"first", none, .empty⟩, ⟨"second", none, .empty⟩],
        [⟨.entity, "first", "sales", .ofList [("revenue", 70.0)]⟩], .empty, [], []⟩
    let aged : MemoryStore :=
      { store with density := .ofList [("flat_percentage:", 0.0 / 0.0)], refused := ["density"] }
    let tuned : CalcConfig := ⟨CalcConfig.standard.aggregation, ⟨1.0, 1.0, 0.0, 1.0, 1.0⟩, ⟨1, 8⟩⟩
    let request : RunRequest := ⟨"batch", "tenant", "period", "plan", .epoch⟩
    let asked : RunRequest := ⟨"again", "tenant", "later", "plan", .epoch⟩
    let steps : List Turn := [⟨id, .standard, 5, request⟩, ⟨fun _ => aged.density, tuned, 9, asked⟩]
    (∃ result again, (asStore.run .standard 5 request store).result = .ok result ∧
      (asStore.run tuned 9 asked aged).result = .ok again ∧ result.results = again.results ∧
      result.totalPayout = again.totalPayout ∧
      asStore.WorkersLeave .standard 5 request store again.results) ∧
    ∃ result again, turns steps store = [.ok result, .ok again] ∧
      result.results = again.results ∧ result.totalPayout = again.totalPayout := by
  intro store aged tuned request asked steps
  have firstRuns : ((asStore.run .standard 5 request store).result.map
      fun result => decide (result.entityCount = 2)) = .ok true := by decide +kernel
  have secondRuns : ((asStore.run tuned 9 asked aged).result.map
      fun result => decide (result.entityCount = 2)) = .ok true := by decide +kernel
  have turnsRun : ((turns steps store).map fun outcome => outcome.map RunResult.entityCount) =
      [.ok 2, .ok 2] := by decide +kernel
  have alike : ∀ turn ∈ steps, turn.request.ruleSetId = "plan" ∧
      turn.config.aggregation = CalcConfig.standard.aggregation := by
    intro turn member
    simp only [steps, List.mem_cons, List.not_mem_nil, or_false] at member
    rcases member with rfl | rfl <;> exact ⟨rfl, rfl⟩
  constructor
  · obtain ⟨result, completed, _⟩ := exists_of_map_decide firstRuns
    obtain ⟨again, completedAgain, _⟩ := exists_of_map_decide secondRuns
    obtain ⟨same, total, workers⟩ := Store.run_payouts_of_any_history.1 completed completedAgain rfl
      (store.asStore_serves request) rfl (aged.asStore_serves asked) rfl
    exact ⟨result, again, completed, completedAgain, same, total, (workers _).mpr rfl⟩
  · clear_value steps
    obtain ⟨outcome, outcomes, found, first, later⟩ := List.map_eq_cons_iff.mp turnsRun
    obtain ⟨other, rest, rfl, second, none⟩ := List.map_eq_cons_iff.mp later
    rw [List.map_eq_nil_iff.mp none] at found
    cases outcome with
    | error fault => cases first
    | ok result =>
        cases other with
        | error fault => cases second
        | ok again =>
            refine ⟨result, again, found, ?_⟩
            refine Store.run_payouts_of_any_history.2 store steps _ _ result again alike ?_ ?_
            · rw [found]
              exact List.mem_cons_self
            · rw [found]
              exact List.mem_cons_of_mem _ List.mem_cons_self

end VariablePay
