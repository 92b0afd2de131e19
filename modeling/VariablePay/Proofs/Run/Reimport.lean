import VariablePay.Proofs.Ledger.Commits
import VariablePay.Proofs.Ledger.Fixtures
import VariablePay.Proofs.Run.Containment

set_option autoImplicit false

/-!
# Runs on data that is imported again

A fixture that has been imported can be imported again: everything that a run loads is as before.
So the next run pays the same, under whatever batch it is made and at whatever time.
-/

namespace VariablePay

/-- Two requests for the same plan, tenant and period, be it for different batches or at different
times. -/
structure RunRequest.SameSubject (request other : RunRequest) : Prop where
  ruleSetId : request.ruleSetId = other.ruleSetId
  tenantId : request.tenantId = other.tenantId
  periodId : request.periodId = other.periodId

/-- What a run pays to each entity, and in total. -/
def RunResult.payouts (result : RunResult) : List EntityResult × Float :=
  (result.results, result.totalPayout)

theorem Activity.result_bind_eq {ε σ α β : Type} {activity : Activity ε σ α}
    {next other : α → Activity ε σ β}
    (same : ∀ value state, (next value state).result = (other value state).result) (state : σ) :
    (Activity.bind activity next state).result = (Activity.bind activity other state).result := by
  have first := Yields.self activity state
  cases done : (activity state).result with
  | error fault =>
      rw [done] at first
      exact first.bind_error.result.trans first.bind_error.result.symm
  | ok value =>
      rw [done] at first
      have result := (first.bind (.self (next value) _)).result
      exact result.trans ((same value _).trans (first.bind (.self (other value) _)).result.symm)

namespace Store

variable {σ : Type} {store : Store σ} {config : CalcConfig} {pageBound : Nat}
  {request other : RunRequest} {before saved : σ}

/-- What a run loads depends on its subject alone. -/
theorem result_collectInputs_eq (same : request.SameSubject other) (state : σ) :
    (store.collectInputs config pageBound request.startBatch state).result =
      (store.collectInputs config pageBound other.startBatch state).result := by
  obtain ⟨batchId, tenantId, periodId, ruleSetId, now⟩ := request
  obtain ⟨otherId, _, _, _, later⟩ := other
  obtain ⟨rfl, rfl, rfl⟩ := same
  -- Only the note about the inputs names the batch.
  refine Activity.result_bind_eq (fun ruleSet state => ?_) state
  refine Activity.result_bind_eq (fun entities state => ?_) state
  refine Activity.result_bind_eq (fun rows state => ?_) state
  refine Activity.result_bind_eq (fun prior state => ?_) state
  rfl

/-- A run whose first record is refused fails with that. -/
theorem run_result_of_refused {cause : Failure}
    (save : (store.saveBatch request.startBatch).Yields before (.error cause) saved) :
    (store.run config pageBound request before).result = .error (.failure cause) := by
  obtain ⟨result, after, course, yields⟩ := exists_course store config pageBound request before
  refine yields.result.trans ?_
  cases course with
  | refused again =>
      cases (save.unique again).1
      rfl
  | uncollected again | cutOff again | uncommitted again | completed again =>
      cases (save.unique again).1

/-- A run whose inputs cannot be collected fails with the reason. -/
theorem run_result_of_uncollected {fault : RunFault} {collected : σ}
    (save : (store.saveBatch request.startBatch).Yields before (.ok ()) saved)
    (collect : (store.collectInputs config pageBound request.startBatch).Yields saved (.error fault)
      collected) :
    (store.run config pageBound request before).result = .error fault := by
  obtain ⟨result, after, course, yields⟩ := exists_course store config pageBound request before
  refine yields.result.trans ?_
  cases course with
  | refused again => cases (save.unique again).1
  | uncollected again found | cutOff again found =>
      obtain ⟨_, rfl⟩ := save.unique again
      cases (collect.unique found).1
      rfl
  | uncommitted again found | completed again found =>
      obtain ⟨_, rfl⟩ := save.unique again
      cases (collect.unique found).1

/-- Once a run has its inputs, what it pays is decided, unless the store refuses to commit it. -/
theorem payouts_of_commit {inputs : RunInputs} {answer : Except Failure Unit}
    {collected committed : σ}
    (save : (store.saveBatch request.startBatch).Yields before (.ok ()) saved)
    (collect : (store.collectInputs config pageBound request.startBatch).Yields saved (.ok inputs)
      collected)
    (commit : (store.saveCompleted (inputs.completedBatch config request)
      (inputs.evaluate config.aggregation).results).Yields collected answer committed) :
    (store.run config pageBound request before).result.map RunResult.payouts =
      (answer.map fun _ =>
        let results := (inputs.evaluate config.aggregation).results
        (results, Payout.total (results.map EntityResult.total))).mapError RunFault.failure := by
  rw [run_result_of_commit save collect commit]
  cases answer <;> rfl

end Store

namespace Ledger

variable {request other : RunRequest}

theorem result_commitCompleted (ledger : Ledger) (batch : CalculationBatch)
    (results : List EntityResult) :
    (commitCompleted batch results ledger).result =
      match ledger.commitFault? batch results with
      | some fault => .error fault
      | none => .ok () := by
  cases found : ledger.commitFault? batch results with
  | some fault => exact (commitCompleted_yields_fault found).result
  | none =>
      obtain ⟨_, _, _, _, _, _, _, committed⟩ := commitCompleted_yields_of_none found
      exact committed.result

/-- Whether the same inputs can be committed does not depend on the batch. -/
theorem result_commitCompleted_eq (request other : RunRequest) (inputs : RunInputs)
    (config : CalcConfig) {saved again : Ledger}
    (batches : saved.batches.isNone = again.batches.isNone)
    (results : saved.results.isNone = again.results.isNone) :
    (commitCompleted (inputs.completedBatch config request)
        (inputs.evaluate config.aggregation).results saved).result =
      (commitCompleted (inputs.completedBatch config other)
        (inputs.evaluate config.aggregation).results again).result := by
  have total : (inputs.completedBatch config request).summary.totalPayout =
      (inputs.completedBatch config other).summary.totalPayout := rfl
  rw [result_commitCompleted, result_commitCompleted]
  unfold commitFault?
  rw [batches, results, total]

/-- What a ledger pays does not depend on the batch that is made or on the time. -/
theorem run_payouts_eq (same : request.SameSubject other) (config : CalcConfig)
    (ledger : Ledger) :
    (run config request ledger).result.map RunResult.payouts =
      (run config other ledger).result.map RunResult.payouts := by
  unfold run
  cases present : ledger.batches with
  | none =>
      have refused (batch : CalculationBatch) : (asStore.saveBatch batch).Yields ledger
          (.error (.database .missingTable)) ledger := .bind_error (rowsOf_yields_error present)
      rw [Store.run_result_of_refused (refused _), Store.run_result_of_refused (refused _)]
  | some batches =>
      have save (asked : RunRequest) : (asStore.saveBatch asked.startBatch).Yields ledger (.ok ())
          (ledger.withRecord batches asked.startBatch 0.0) := startBatch_yields present
      have collect (asked : RunRequest) :
          (asStore.collectInputs config ledger.pageBound asked.startBatch).Yields
            (ledger.withRecord batches asked.startBatch 0.0)
            (asStore.collectInputs config ledger.pageBound asked.startBatch ledger).result
            (ledger.withRecord batches asked.startBatch 0.0) :=
        (collectInputs_looksAt config ledger.pageBound asked.startBatch).yields_of_view rfl
      have collectFirst := collect request
      have collectOther := collect other
      rw [Store.result_collectInputs_eq same] at collectFirst
      generalize (asStore.collectInputs config ledger.pageBound other.startBatch ledger).result =
        loaded at collectFirst collectOther
      cases loaded with
      | error fault =>
          rw [Store.run_result_of_uncollected (save request) collectFirst,
            Store.run_result_of_uncollected (save other) collectOther]
      | ok inputs =>
          rw [Store.payouts_of_commit (save request) collectFirst (.self _ _),
            Store.payouts_of_commit (save other) collectOther (.self _ _)]
          exact congrArg _ (congrArg _
            (result_commitCompleted_eq request other inputs config rfl rfl))

/-- Every load of a run gives the same from both ledgers, on every page. -/
structure LoadsAlike (ledger other : Ledger) : Prop where
  ruleSet? : ∀ ruleSetId, (ruleSet? ruleSetId ledger).result = (ruleSet? ruleSetId other).result
  entities : ∀ ruleSetId tenantId page,
    (entities ruleSetId tenantId page ledger).result =
      (entities ruleSetId tenantId page other).result
  rows : ∀ tenantId periodId page,
    (rows tenantId periodId page ledger).result = (rows tenantId periodId page other).result
  density : ∀ tenantId, (density tenantId ledger).result = (density tenantId other).result

end Ledger

/-- Whatever a ledger holds, a fixture that has been imported can be imported again. Every load is
then as after the first import, and a run for the same plan, tenant and period pays the same, or
fails for the same reason. -/
theorem Fixture.load_twice (fixture : Fixture) {before once : Ledger}
    (imported : fixture.load.Yields before (.ok ()) once) :
    ∃ twice, fixture.load.Yields once (.ok ()) twice ∧ twice.LoadsAlike once ∧
      ∀ (config : CalcConfig) (request other : RunRequest), request.SameSubject other →
        (Ledger.run config request twice).result.map RunResult.payouts =
          (Ledger.run config other once).result.map RunResult.payouts :=
  ⟨once, fixture.load_yields_again imported,
    ⟨fun _ => rfl, fun _ _ _ => rfl, fun _ _ _ => rfl, fun _ => rfl⟩,
    fun config _ _ same => Ledger.run_payouts_eq same config once⟩

/-- A fixture that assigns an entity twice and brings a density. -/
def reassigningFixture : Fixture where
  tenantId := "tenant"
  periodId := "period"
  ruleSets := [shareRuleSet]
  assignments :=
    [⟨"plan", ⟨"gain", some "south", .empty⟩⟩, ⟨"plan", ⟨"loss", none, .empty⟩⟩,
      ⟨"plan", ⟨"gain", none, .empty⟩⟩]
  rows :=
    [⟨.entity, "gain", "sales", .ofList [("revenue", 300.0)]⟩,
      ⟨.entity, "loss", "sales", .ofList [("revenue", -40.0)]⟩]
  priorDensity := .ofList [("flat", 0.75)]

/-- It is imported into a ledger that holds the plan, one of its entities and other rows. -/
theorem reassigningFixture_load_twice :
    ∃ once twice, reassigningFixture.load.Yields Ledger.overflowingLedger (.ok ()) once ∧
      reassigningFixture.load.Yields once (.ok ()) twice ∧ twice.LoadsAlike once ∧
      (Ledger.entities "plan" "tenant" ⟨0, 10⟩ twice).result =
        .ok [⟨"loss", none, .empty⟩, ⟨"gain", none, .empty⟩] := by
  have accepted : (reassigningFixture.load Ledger.overflowingLedger).result = .ok () := by
    decide +kernel
  obtain ⟨twice, again, alike, _⟩ := reassigningFixture.load_twice ⟨accepted, rfl⟩
  refine ⟨_, twice, ⟨accepted, rfl⟩, again, alike, ?_⟩
  rw [alike.entities]
  decide +kernel

end VariablePay
