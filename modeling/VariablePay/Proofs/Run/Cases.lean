import VariablePay.Proofs.Store.Steps
import VariablePay.Run.Basic

set_option autoImplicit false

/-!
# How a run goes

From any state of any store a run takes one of five courses: the store refuses the first record,
the inputs cannot be collected, their loading is cut off, the store refuses to commit, or the run
completes. Each course determines what the run gives back and which calls it makes.
-/

namespace VariablePay

namespace RunRequest

def startBatch (request : RunRequest) : CalculationBatch :=
  .start request.batchId request.tenantId request.periodId request.ruleSetId request.now

end RunRequest

namespace RunInputs

def consolidation (inputs : RunInputs) (config : CalcConfig) (request : RunRequest) :
    Consolidation :=
  (inputs.evaluate config.aggregation).surface.consolidate config.density request.batchId
    request.tenantId

/-- The record of a batch whose entities are all evaluated. -/
def summedBatch (inputs : RunInputs) (config : CalcConfig) (request : RunRequest) :
    CalculationBatch :=
  { request.startBatch with
    phase := .consolidating
    entityCount := inputs.entities.length
    summary :=
      .of (inputs.evaluate config.aggregation).results (inputs.consolidation config request) }

def completedBatch (inputs : RunInputs) (config : CalcConfig) (request : RunRequest) :
    CalculationBatch :=
  { inputs.summedBatch config request with
    phase := .complete, lifecycle := .preview, completedAt := some request.now }

end RunInputs

/-- The record of a batch that fails for a cause. -/
def CalculationBatch.failedFor (batch : CalculationBatch) (cause : Failure) (now : Timestamp) :
    CalculationBatch :=
  { batch with
    phase := .failed, failureReason := some cause.message, completedAt := some now }

namespace Store

open Activity

variable {σ : Type}

/-- The courses of a run from a state, with what each comes to. -/
inductive Course (store : Store σ) (config : CalcConfig) (pageBound : Nat) (request : RunRequest)
    (before : σ) : Except RunFault RunResult → σ → Prop where
  | refused {cause : Failure} {answer : Except Failure Unit} {saved after : σ}
      (save : (store.saveBatch request.startBatch).Yields before (.error cause) saved)
      (record : (store.saveBatch (request.startBatch.failedFor cause request.now)).Yields saved
        answer after) :
      Course store config pageBound request before (.error (.failure cause)) after
  | uncollected {cause : Failure} {answer : Except Failure Unit} {saved collected after : σ}
      (save : (store.saveBatch request.startBatch).Yields before (.ok ()) saved)
      (collect : (store.collectInputs config pageBound request.startBatch).Yields saved
        (.error (.failure cause)) collected)
      (record : (store.saveBatch (request.startBatch.failedFor cause request.now)).Yields collected
        answer after) :
      Course store config pageBound request before (.error (.failure cause)) after
  | cutOff {saved after : σ}
      (save : (store.saveBatch request.startBatch).Yields before (.ok ()) saved)
      (collect : (store.collectInputs config pageBound request.startBatch).Yields saved
        (.error .endlessPages) after) :
      Course store config pageBound request before (.error .endlessPages) after
  | uncommitted {inputs : RunInputs} {cause : Failure} {answer : Except Failure Unit}
      {saved collected committed after : σ}
      (save : (store.saveBatch request.startBatch).Yields before (.ok ()) saved)
      (collect : (store.collectInputs config pageBound request.startBatch).Yields saved
        (.ok inputs) collected)
      (commit : (store.saveCompleted (inputs.completedBatch config request)
        (inputs.evaluate config.aggregation).results).Yields collected (.error cause) committed)
      (record : (store.saveBatch ((inputs.summedBatch config request).failedFor cause
        request.now)).Yields committed answer after) :
      Course store config pageBound request before (.error (.failure cause)) after
  | completed {inputs : RunInputs} {saved collected committed after : σ}
      (save : (store.saveBatch request.startBatch).Yields before (.ok ()) saved)
      (collect : (store.collectInputs config pageBound request.startBatch).Yields saved
        (.ok inputs) collected)
      (commit : (store.saveCompleted (inputs.completedBatch config request)
        (inputs.evaluate config.aggregation).results).Yields collected (.ok ()) committed)
      (dispatch : (store.dispatch (inputs.completedBatch config request)
        (inputs.consolidation config request)).Yields committed (.ok ()) after) :
      Course store config pageBound request before
        (.ok (.of (inputs.completedBatch config request)
          (inputs.evaluate config.aggregation).results)) after

/-- An activity that fails with a certain fault from no state. -/
def Avoids {α : Type} (activity : Activity RunFault σ α) (fault : RunFault) : Prop :=
  ∀ before, (activity before).result ≠ .error fault

section

variable {α β : Type} {fault : RunFault}

/-- A fault that the first part does not come to, nor the rest in the state that it leaves, is not
what both come to. -/
theorem result_bind_ne {activity : Activity RunFault σ α} {next : α → Activity RunFault σ β}
    {before middle : σ} {result : Except RunFault α} (yields : activity.Yields before result middle)
    (first : result ≠ .error fault)
    (rest : ∀ value, result = .ok value → (next value middle).result ≠ .error fault) :
    (Activity.bind activity next before).result ≠ .error fault := by
  cases result with
  | error found =>
      rw [yields.bind_error.result]
      intro same
      cases same
      exact first rfl
  | ok value =>
      rw [(yields.bind (.self (next value) middle)).result]
      exact rest value rfl

theorem avoids_bind {activity : Activity RunFault σ α} {next : α → Activity RunFault σ β}
    (first : Avoids activity fault) (rest : ∀ value, Avoids (next value) fault) :
    Avoids (Activity.bind activity next) fault := by
  intro before
  have yields := Yields.self activity before
  exact result_bind_ne yields (first before) fun value _ => rest value _

variable (notFailure : ∀ cause, fault ≠ .failure cause)
include notFailure

theorem mapError_ne (result : Except Failure α) :
    result.mapError RunFault.failure ≠ .error fault := by
  cases result with
  | error cause =>
      intro same
      exact notFailure cause (Except.error.inj same).symm
  | ok value =>
      intro same
      cases same

theorem avoids_mapped (activity : Activity Failure σ α) :
    Avoids (activity.mapError RunFault.failure) fault :=
  fun before => mapError_ne notFailure (activity before).result

theorem avoids_loadValidRuleSet (store : Store σ) (ruleSetId : String) :
    Avoids (store.loadValidRuleSet ruleSetId) fault := by
  refine avoids_bind (avoids_mapped notFailure _) fun ruleSet? before => ?_
  cases ruleSet? with
  | none =>
      intro same
      exact notFailure _ (Except.error.inj same).symm
  | some ruleSet =>
      change (ruleSet.validated.mapError _ : Except RunFault RuleSet) ≠ _
      cases ruleSet.validated with
      | error found =>
          intro same
          exact notFailure _ (Except.error.inj same).symm
      | ok valid =>
          intro same
          cases same

theorem avoids_loadAll (notEndless : fault ≠ .endlessPages)
    (fetch : Page → Activity Failure σ (List α)) (bound size : Nat) :
    Avoids (loadAll fetch bound size) fault := by
  refine avoids_bind (avoids_mapped notFailure _) fun items? before => ?_
  cases items? with
  | none =>
      intro same
      exact notEndless (Except.error.inj same).symm
  | some items =>
      intro same
      cases same

theorem avoids_collectInputs (notEndless : fault ≠ .endlessPages) (store : Store σ)
    (config : CalcConfig) (pageBound : Nat) (batch : CalculationBatch) :
    Avoids (store.collectInputs config pageBound batch) fault := by
  refine avoids_bind (avoids_loadValidRuleSet notFailure store _) fun ruleSet => ?_
  refine avoids_bind (avoids_loadAll notFailure notEndless _ _ _) fun entities => ?_
  refine avoids_bind (avoids_loadAll notFailure notEndless _ _ _) fun rows => ?_
  refine avoids_bind (avoids_mapped notFailure _) fun prior before => ?_
  intro same
  cases same

end

/-- Densities and signals are dispatched, whatever the store answers. -/
theorem dispatch_yields {store : Store σ} {batch : CalculationBatch}
    {consolidation : Consolidation} {before middle after : σ}
    {densityAnswer signalsAnswer : Except Failure Unit}
    (saved : (store.saveDensity batch.tenantId consolidation.updates).Yields before densityAnswer
      middle)
    (sent : (store.saveSignals consolidation.signals).Yields middle signalsAnswer after) :
    (store.dispatch batch consolidation).Yields before (.ok ()) after := by
  unfold dispatch
  refine .bindAttempt saved ?_
  cases densityAnswer with
  | ok _ =>
      refine .bind (.pure ()) (.bindAttempt sent ?_)
      cases signalsAnswer with
      | ok _ => exact .pure ()
      | error cause => exact .tell _
  | error cause =>
      refine .bind (.tell _) (.bindAttempt sent ?_)
      cases signalsAnswer with
      | ok _ => exact .pure ()
      | error cause => exact .tell _

private theorem recordFailure_yields (store : Store σ) {batch : CalculationBatch}
    (mayFail : batch.phase.canMoveTo .failed = true) (cause : Failure) (now : Timestamp)
    (before : σ) :
    ∃ answer after, (store.saveBatch (batch.failedFor cause now)).Yields before answer after ∧
      (store.recordFailure now batch cause).Yields before (.ok ()) after := by
  have notFailed : batch.phase ≠ .failed := by
    intro failed
    rw [failed] at mayFail
    cases mayFail
  have failed : batch.fail cause.message now = .ok (batch.failedFor cause now) := by
    rw [CalculationBatch.fail, if_neg notFailed, CalculationBatch.enter, if_pos mayFail]
    rfl
  obtain ⟨answer, after, recorded⟩ :=
    Yields.exists_yields (store.saveBatch (batch.failedFor cause now)) before
  refine ⟨answer, after, recorded, ?_⟩
  unfold recordFailure
  rw [failed]
  refine .bind (.tell _) (.bind (.ofExcept _) ?_)
  rw [if_pos notFailed]
  refine .bind (.tell _) (.bindAttempt recorded ?_)
  cases answer with
  | ok _ => exact .pure ()
  | error refusal => exact .tell _

/-- What an execution comes to, with the calls that decide it. -/
private inductive Execution (store : Store σ) (config : CalcConfig) (pageBound : Nat)
    (request : RunRequest) (before : σ) : Except Interruption RunResult → σ → Prop where
  | refused {cause : Failure} {saved : σ}
      (save : (store.saveBatch request.startBatch).Yields before (.error cause) saved) :
      Execution store config pageBound request before
        (.error (.failure cause, request.startBatch)) saved
  | uncollected {fault : RunFault} {saved collected : σ}
      (save : (store.saveBatch request.startBatch).Yields before (.ok ()) saved)
      (collect : (store.collectInputs config pageBound request.startBatch).Yields saved
        (.error fault) collected) :
      Execution store config pageBound request before (.error (fault, request.startBatch)) collected
  | uncommitted {inputs : RunInputs} {cause : Failure} {saved collected committed : σ}
      (save : (store.saveBatch request.startBatch).Yields before (.ok ()) saved)
      (collect : (store.collectInputs config pageBound request.startBatch).Yields saved
        (.ok inputs) collected)
      (commit : (store.saveCompleted (inputs.completedBatch config request)
        (inputs.evaluate config.aggregation).results).Yields collected (.error cause) committed) :
      Execution store config pageBound request before
        (.error (.failure cause, inputs.summedBatch config request)) committed
  | completed {inputs : RunInputs} {saved collected committed after : σ}
      (save : (store.saveBatch request.startBatch).Yields before (.ok ()) saved)
      (collect : (store.collectInputs config pageBound request.startBatch).Yields saved
        (.ok inputs) collected)
      (commit : (store.saveCompleted (inputs.completedBatch config request)
        (inputs.evaluate config.aggregation).results).Yields collected (.ok ()) committed)
      (dispatch : (store.dispatch (inputs.completedBatch config request)
        (inputs.consolidation config request)).Yields committed (.ok ()) after) :
      Execution store config pageBound request before
        (.ok (.of (inputs.completedBatch config request)
          (inputs.evaluate config.aggregation).results)) after

private theorem enterPhase_yields {batch : CalculationBatch} {next : RunPhase}
    (moves : batch.phase.canMoveTo next = true) (before : σ) :
    (enterPhase batch next : Activity RunFault σ _).Yields before
      (.ok { batch with phase := next }) before := by
  have entered : batch.enter next = .ok { batch with phase := next } := if_pos moves
  unfold enterPhase
  rw [entered]
  exact .bind (.ofExcept _) (.bind (.tell _) (.pure _))

private theorem completeBatch_yields (inputs : RunInputs) (config : CalcConfig)
    (request : RunRequest) (before : σ) :
    (completeBatch (inputs.summedBatch config request) request.now : Activity RunFault σ _).Yields
      before (.ok (inputs.completedBatch config request)) before := by
  have moves : (inputs.summedBatch config request).phase.canMoveTo .complete = true := rfl
  unfold completeBatch
  exact .bind (enterPhase_yields moves before) (.pure _)

private theorem execution (store : Store σ) (config : CalcConfig) (pageBound : Nat)
    (request : RunRequest) (before : σ) :
    ∃ result after, Execution store config pageBound request before result after ∧
      (store.execute config pageBound request.now request.startBatch).Yields before result
        after := by
  obtain ⟨saveAnswer, saved, save⟩ :=
    Yields.exists_yields (store.saveBatch request.startBatch) before
  unfold execute
  cases saveAnswer with
  | error cause =>
      exact ⟨_, _, .refused save, .bindMapped_error (save.mapError RunFault.failure)⟩
  | ok _ =>
      have saveMapped := save.mapError RunFault.failure
      obtain ⟨collectResult, collected, collect⟩ :=
        Yields.exists_yields (store.collectInputs config pageBound request.startBatch) saved
      cases collectResult with
      | error fault =>
          refine ⟨_, _, .uncollected save collect, .bindMapped saveMapped ?_⟩
          exact .bindMapped_error collect
      | ok inputs =>
          let counted : CalculationBatch := { request.startBatch with
            phase := .evaluating, entityCount := inputs.entities.length }
          have mayEvaluate : request.startBatch.phase.canMoveTo .evaluating = true := rfl
          have mayConsolidate : counted.phase.canMoveTo .consolidating = true := rfl
          have evaluate := enterPhase_yields mayEvaluate collected
          have consolidate := enterPhase_yields mayConsolidate collected
          have complete := completeBatch_yields inputs config request collected
          obtain ⟨commitAnswer, committed, commit⟩ :=
            Yields.exists_yields (store.saveCompleted (inputs.completedBatch config request)
              (inputs.evaluate config.aggregation).results) collected
          have commitMapped := commit.mapError RunFault.failure
          cases commitAnswer with
          | error cause =>
              refine ⟨_, _, .uncommitted save collect commit, .bindMapped saveMapped ?_⟩
              refine .bindMapped collect (.bindMapped evaluate (.bind (.tell _) ?_))
              refine .bindMapped consolidate (.bind (.tell _) (.bindMapped complete ?_))
              exact .bindMapped_error commitMapped
          | ok _ =>
              have dispatch : (store.dispatch (inputs.completedBatch config request)
                  (inputs.consolidation config request)).Yields committed (.ok ()) _ :=
                dispatch_yields (.self _ committed) (.self _ _)
              refine ⟨_, _, .completed save collect commit dispatch, .bindMapped saveMapped ?_⟩
              refine .bindMapped collect (.bindMapped evaluate (.bind (.tell _) ?_))
              refine .bindMapped consolidate (.bind (.tell _) (.bindMapped complete ?_))
              exact .bindMapped commitMapped (.bind (.tell _) (.bindMapped dispatch (.pure _)))

/-- Every run takes one of the courses. -/
theorem exists_course (store : Store σ) (config : CalcConfig) (pageBound : Nat)
    (request : RunRequest) (before : σ) :
    ∃ result after, Course store config pageBound request before result after ∧
      (store.run config pageBound request).Yields before result after := by
  obtain ⟨result, executed, execution, yields⟩ := execution store config pageBound request before
  have startMayFail : request.startBatch.phase.canMoveTo .failed = true := rfl
  unfold run
  cases execution with
  | @refused cause _ save =>
      obtain ⟨answer, after, record, recorded⟩ :=
        recordFailure_yields store startMayFail cause request.now executed
      refine ⟨_, _, .refused save record, .bind (.tell _) (.bindAttempt yields ?_)⟩
      exact .bind recorded (.fail _)
  | @uncollected fault saved _ save collect =>
      cases fault with
      | failure cause =>
          obtain ⟨answer, after, record, recorded⟩ :=
            recordFailure_yields store startMayFail cause request.now executed
          refine ⟨_, _, .uncollected save collect record,
            .bind (.tell _) (.bindAttempt yields ?_)⟩
          exact .bind recorded (.fail _)
      | illegalMove move =>
          have notFailure : ∀ cause, RunFault.illegalMove move ≠ .failure cause := nofun
          have avoids := avoids_collectInputs notFailure nofun store config pageBound
            request.startBatch
          exact absurd collect.result (avoids saved)
      | endlessPages =>
          exact ⟨_, _, .cutOff save collect, .bind (.tell _) (.bindAttempt yields (.fail _))⟩
  | @uncommitted inputs cause _ _ _ save collect commit =>
      have mayFail : (inputs.summedBatch config request).phase.canMoveTo .failed = true := rfl
      obtain ⟨answer, after, record, recorded⟩ :=
        recordFailure_yields store mayFail cause request.now executed
      refine ⟨_, _, .uncommitted save collect commit record,
        .bind (.tell _) (.bindAttempt yields ?_)⟩
      exact .bind recorded (.fail _)
  | completed save collect commit dispatch =>
      exact ⟨_, _, .completed save collect commit dispatch,
        .bind (.tell _) (.bindAttempt yields (.pure _))⟩

end Store

end VariablePay
