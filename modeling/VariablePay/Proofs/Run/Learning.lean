import VariablePay.Proofs.Ledger.Densities
import VariablePay.Proofs.Ledger.Inputs
import VariablePay.Proofs.Ledger.Learned
import VariablePay.Proofs.Run.Containment

set_option autoImplicit false

/-!
# What runs learn

Each run of a tenant moves the densities of the patterns that occur in it, from what the runs before
it have left, and tells of its anomalies in the history and in its signals. All else that runs have
learned stays as it is.
-/

namespace VariablePay

/-- A run that gives a result. -/
structure RunTurn where
  config : CalcConfig
  request : RunRequest
  result : RunResult

namespace Ledger

open Activity

/-- The tables of what runs have learned. -/
def learningTables (ledger : Ledger) : Table DensityRow × Table HistoryRow × Table SignalRow :=
  (ledger.densities, ledger.history, ledger.signals)

/-- The densities of all tenants and their history. -/
def densityTables (ledger : Ledger) : Table DensityRow × Table HistoryRow :=
  (ledger.densities, ledger.history)

/-- Runs that give their results, one after the other. -/
inductive RunsTo (start : Ledger) : List RunTurn → Ledger → Prop where
  | nil : RunsTo start [] start
  | concat {turns : List RunTurn} {turn : RunTurn} {before after : Ledger}
      (runs : RunsTo start turns before)
      (completed : (run turn.config turn.request).Yields before (.ok turn.result) after) :
      RunsTo start (turns ++ [turn]) after

/-- A ledger follows a run over the inputs that the run has loaded. -/
structure Follows (before : Ledger) (config : CalcConfig) (request : RunRequest)
    (inputs : RunInputs) (result : RunResult) (after : Ledger) : Prop where
  learns : ∃ prior later, (density request.tenantId before).result = .ok prior ∧
    (density request.tenantId after).result = .ok later ∧
    prior.Becomes config.density (inputs.evaluate config.aggregation).surface.events later
  otherDensities : ∀ tenantId ≠ request.tenantId,
    (density tenantId after).result = (density tenantId before).result
  history : ∃ count, (anomalousCount request.tenantId before).result = .ok count ∧
    (anomalousCount request.tenantId after).result = .ok (count + result.summary.anomalyCount)
  otherHistories : ∀ tenantId ≠ request.tenantId,
    (anomalousCount tenantId after).result = (anomalousCount tenantId before).result
  anomalies : (signalCount request.batchId TrainingSignal.anomalyKind after).result =
    .ok result.summary.anomalyCount
  concordance : (signalCount request.batchId TrainingSignal.concordanceKind after).result = .ok 1
  otherSignals : ∀ batchId ≠ request.batchId, ∀ kind,
    (signalCount batchId kind after).result = (signalCount batchId kind before).result

section

variable {start before after ledger : Ledger} {config : CalcConfig} {request : RunRequest}
  {refusal? : StoreCall → Option Failure}

/-- A run has learned nothing when it dispatches its densities, and nothing at all if it gives no
result. -/
private theorem cases_of_run (refusal? : StoreCall → Option Failure) (config : CalcConfig)
    (request : RunRequest) (ledger : Ledger) :
    (∃ fault left,
      ((asStore.refusing refusal?).run config ledger.pageBound request).Yields ledger
        (.error fault) left ∧ learningTables left = learningTables ledger) ∨
    ∃ inputs committed left,
      ((asStore.refusing refusal?).run config ledger.pageBound request).Yields ledger
        (.ok (.of (inputs.completedBatch config request)
          (inputs.evaluate config.aggregation).results)) left ∧
      ((asStore.refusing refusal?).collectInputs config ledger.pageBound
        request.startBatch).Yields ledger (.ok inputs) ledger ∧
      learningTables committed = learningTables ledger ∧
      ((asStore.refusing refusal?).dispatch (inputs.completedBatch config request)
        (inputs.consolidation config request)).Yields committed (.ok ()) left := by
  obtain ⟨outcome, left, course, yields⟩ := Store.exists_course (asStore.refusing refusal?) config
    ledger.pageBound request ledger
  have looks := collectInputs_refusing_looksAt refusal? config ledger.pageBound request.startBatch
  have saves (batch : CalculationBatch) :
      ((asStore.refusing refusal?).saveBatch batch).Keeps learningTables :=
    (writeBatch_keeps (fun _ _ => rfl) batch).withRefusal _
  have commits (batch : CalculationBatch) (results : List EntityResult) :
      ((asStore.refusing refusal?).saveCompleted batch results).Keeps learningTables :=
    (commitCompleted_keeps (fun _ _ => rfl) (fun _ _ => rfl) batch results).withRefusal _
  cases course with
  | refused save record =>
      refine .inl ⟨_, left, yields, ?_⟩
      rw [← record.state, saves, ← save.state, saves]
  | uncollected save collect record =>
      refine .inl ⟨_, left, yields, ?_⟩
      rw [← record.state, saves, ← collect.state, looks.state_eq, ← save.state, saves]
  | cutOff save collect =>
      refine .inl ⟨_, left, yields, ?_⟩
      rw [← collect.state, looks.state_eq, ← save.state, saves]
  | uncommitted save collect commit record =>
      refine .inl ⟨_, left, yields, ?_⟩
      rw [← record.state, saves, ← commit.state, commits, ← collect.state, looks.state_eq,
        ← save.state, saves]
  | @completed inputs saved collected committed _ save collect commit dispatch =>
      refine .inr ⟨inputs, committed, left, yields, ?_, ?_, dispatch⟩
      · have sameTables : inputTables saved = inputTables ledger := by
          rw [← save.state]
          exact ((writeBatch_keeps (fun _ _ => rfl) _).withRefusal _) ledger
        have loads := looks.yields_of_view sameTables
        rwa [collect.result] at loads
      · rw [← commit.state, commits, ← collect.state, looks.state_eq, ← save.state, saves]

/-! ## One run -/

theorem HoldsDensities.of_tables (holds : before.HoldsDensities)
    (same : learningTables after = learningTables before) : after.HoldsDensities := by
  simp only [learningTables, Prod.mk.injEq] at same
  obtain ⟨densities, history, signals⟩ := same
  constructor
  case densities => rw [densities, holds.densities]
  case history => rw [history, holds.history]
  case signals => rw [signals, holds.signals]
  case keyed =>
    rw [densities]
    exact holds.keyed

theorem HasLearned.of_tables {tenantId : String} {updates : List DensityUpdate}
    {signals : List TrainingSignal} (learned : before.HasLearned tenantId updates signals after)
    (same : learningTables before = learningTables start) :
    start.HasLearned tenantId updates signals after := by
  simp only [learningTables, Prod.mk.injEq] at same
  obtain ⟨densities, history, signals⟩ := same
  have scores (other : String) : before.scoresOf other = start.scoresOf other := by
    unfold scoresOf
    rw [densities]
  constructor
  case holds => exact learned.holds
  case scores => rw [learned.scores, scores]
  case others =>
    intro other isOther
    rw [learned.others other isOther, scores]
  case history => rw [learned.history, history]
  case signals => rw [learned.signals, signals]

theorem HasLearned.density_eq {tenantId other : String} {updates : List DensityUpdate}
    {signals : List TrainingSignal} (learned : before.HasLearned tenantId updates signals after)
    (holds : before.HoldsDensities) (isOther : other ≠ tenantId) :
    (density other after).result = (density other before).result := by
  rw [(density_yields learned.holds.densities other).result,
    (density_yields holds.densities other).result, densityOf_eq, densityOf_eq,
    learned.others other isOther]

private theorem signalCount_of_new (holds : before.HoldsDensities) {batchId : String}
    (new : ∀ row ∈ before.signals.getD [], row.batchId ≠ batchId) (kind : String) :
    (signalCount batchId kind before).result = .ok 0 := by
  obtain ⟨rows, present⟩ := Option.isSome_iff_exists.mp holds.signals
  rw [present, Option.getD_some] at new
  rw [(signalCount_yields present batchId kind).result, List.countP_eq_zero.mpr]
  intro row member
  simp [new row member]

/-- A run loads the densities of its tenant. -/
private theorem prior_eq (holds : before.HoldsDensities) {inputs : RunInputs}
    (loads : (asStore.collectInputs config before.pageBound request.startBatch).Yields before
      (.ok inputs) before) : inputs.prior = before.densityOf request.tenantId := by
  obtain ⟨_, _, _, third, _, _, _, _, loaded⟩ := Store.collectInputs_yields_ok_iff.mp loads
  obtain rfl : third = before :=
    ((density_looksAt request.tenantId).state_eq third).symm.trans loaded.state
  exact Except.ok.inj (loaded.unique (density_yields holds.densities request.tenantId)).1

/-- A run that gives a result has loaded its inputs and learned what comes out of them. -/
private theorem exists_learned_of_run {result : RunResult} (holds : before.HoldsDensities)
    (accepted : config.validate = .ok ())
    (fits : result.summary.componentsCompared < 2 ^ 64)
    (completed : (run config request).Yields before (.ok result) after) :
    ∃ inputs, (asStore.collectInputs config before.pageBound request.startBatch).Yields before
        (.ok inputs) before ∧
      result = .of (inputs.completedBatch config request)
        (inputs.evaluate config.aggregation).results ∧
      (inputs.consolidation config request).updates =
        (before.scoresOf request.tenantId).updatesOf config.density
          (inputs.evaluate config.aggregation).surface.events ∧
      before.HasLearned request.tenantId (inputs.consolidation config request).updates
        (inputs.consolidation config request).signals after := by
  obtain ⟨_, _, failed, _⟩ | ⟨inputs, committed, left, gives, loads, same, dispatched⟩ :=
    cases_of_run (fun _ => none) config request before
  · cases (failed.result.symm.trans completed.result)
  obtain rfl : left = after := gives.state.symm.trans completed.state
  obtain rfl : _ = result := Except.ok.inj (gives.result.symm.trans completed.result)
  have updates : (inputs.consolidation config request).updates =
      (before.scoresOf request.tenantId).updatesOf config.density
        (inputs.evaluate config.aggregation).surface.events := by
    rw [← Density.updatesOf_cleaned, ← densityOf_eq, ← prior_eq holds loads]
    rfl
  obtain ⟨_, density, _⟩ := bind_eq_ok_iff.mp accepted
  have unsigned : ∀ update ∈ (inputs.consolidation config request).updates, update.IsUnsigned := by
    rw [updates]
    exact fun update member => DensityConfig.isUnsigned_of_mem density fits member
  obtain ⟨found, yields, learned⟩ := exists_hasLearned_of_dispatch (holds.of_tables same) unsigned
  obtain rfl : left = found := (dispatched.unique yields).2
  exact ⟨inputs, loads, rfl, updates, learned.of_tables same⟩

/-- A ledger follows the run whose updates and signals it has learned. -/
private theorem HasLearned.follows {inputs : RunInputs} {result : RunResult}
    (learned : before.HasLearned request.tenantId (inputs.consolidation config request).updates
      (inputs.consolidation config request).signals after)
    (holds : before.HoldsDensities) (accepted : config.validate = .ok ())
    (fits : (inputs.evaluate config.aggregation).surface.events.length < 2 ^ 64)
    (updates : (inputs.consolidation config request).updates =
      (before.scoresOf request.tenantId).updatesOf config.density
        (inputs.evaluate config.aggregation).surface.events)
    (new : ∀ row ∈ before.signals.getD [], row.batchId ≠ request.batchId)
    (anomalyCount : (inputs.consolidation config request).updates.countP DensityUpdate.anomalous =
      result.summary.anomalyCount) : before.Follows config request inputs result after := by
  obtain ⟨concordance, anomalies, others⟩ := Surface.countP_signals
    (inputs.evaluate config.aggregation).surface config.density request.batchId request.tenantId
  constructor
  case learns =>
    refine ⟨_, _, (density_yields holds.densities _).result,
      (density_yields learned.holds.densities _).result, ?_⟩
    rw [densityOf_eq, densityOf_eq, learned.scores, updates]
    exact Density.becomes_afterRun (CalcConfig.density_valid_of_validate accepted) fits _
  case otherDensities => exact fun tenantId isOther => learned.density_eq holds isOther
  case history =>
    obtain ⟨count, earlier, later⟩ := learned.anomalousCount holds request.tenantId
    rw [if_pos rfl, anomalyCount] at later
    exact ⟨count, earlier, later⟩
  case otherHistories =>
    intro tenantId isOther
    obtain ⟨count, earlier, later⟩ := learned.anomalousCount holds tenantId
    rw [later, earlier, if_neg isOther, Nat.add_zero]
  case anomalies =>
    obtain ⟨count, earlier, later⟩ :=
      learned.signalCount holds request.batchId TrainingSignal.anomalyKind
    cases earlier.symm.trans (signalCount_of_new holds new _)
    rw [later, Nat.zero_add]
    exact congrArg Except.ok (anomalies.trans anomalyCount)
  case concordance =>
    obtain ⟨count, earlier, later⟩ :=
      learned.signalCount holds request.batchId TrainingSignal.concordanceKind
    cases earlier.symm.trans (signalCount_of_new holds new _)
    rw [later, Nat.zero_add]
    exact congrArg Except.ok concordance
  case otherSignals =>
    intro batchId isOther kind
    obtain ⟨count, earlier, later⟩ := learned.signalCount holds batchId kind
    rw [later, earlier]
    exact congrArg (fun added => Except.ok (count + added)) (others batchId isOther kind)

/-- A run whose densities are not taken leaves all densities and their history as they were. -/
private theorem densityTables_of_refused (config : CalcConfig) (request : RunRequest)
    (ledger : Ledger) (refused : ∀ updates, refusal? (.saveDensity updates) ≠ none) :
    densityTables ((asStore.refusing refusal?).run config ledger.pageBound request ledger).state =
      densityTables ledger := by
  have ofTables {left before : Ledger} (same : learningTables left = learningTables before) :
      densityTables left = densityTables before :=
    congrArg (fun tables => (tables.1, tables.2.1)) same
  obtain ⟨_, left, yields, same⟩ | ⟨inputs, committed, left, yields, _, same, dispatched⟩ :=
    cases_of_run refusal? config request ledger
  · rw [yields.state]
    exact ofTables same
  · have keeps : ((asStore.refusing refusal?).dispatch (inputs.completedBatch config request)
        (inputs.consolidation config request)).Keeps densityTables := by
      refine Store.dispatch_keeps (fun tenantId updates => ?_)
        (fun signals => (insertSignals_keeps (fun _ _ => rfl) signals).withRefusal _) _ _
      obtain ⟨fault, isRefused⟩ := Option.ne_none_iff_exists'.mp (refused updates)
      unfold Store.refusing
      dsimp only
      rw [isRefused]
      exact .fail fault
    rw [yields.state, ← dispatched.state, keeps]
    exact ofTables same

/-! ## All runs -/

/-- Through runs there stays one density for a pattern of a tenant, and all new signals are those of
the runs. -/
theorem RunsTo.holds {turns : List RunTurn} (runs : start.RunsTo turns after)
    (holds : start.HoldsDensities)
    (accepted : ∀ turn ∈ turns, turn.config.validate = .ok ())
    (fits : ∀ turn ∈ turns, turn.result.summary.componentsCompared < 2 ^ 64) :
    after.HoldsDensities ∧ ∀ row ∈ after.signals.getD [], row ∈ start.signals.getD [] ∨
      row.batchId ∈ turns.map fun turn => turn.request.batchId := by
  induction runs with
  | nil => exact ⟨holds, fun row member => .inl member⟩
  | @concat turns turn before after _ completed ih =>
      rw [List.forall_mem_append, List.forall_mem_singleton] at accepted fits
      obtain ⟨heldBefore, earlier⟩ := ih accepted.1 fits.1
      obtain ⟨inputs, _, _, _, learned⟩ :=
        exists_learned_of_run heldBefore accepted.2 fits.2 completed
      obtain ⟨rows, present⟩ := Option.isSome_iff_exists.mp heldBefore.signals
      refine ⟨learned.holds, fun row member => ?_⟩
      rw [learned.signals, present, Option.map_some, Option.getD_some, List.mem_append] at member
      rw [present, Option.getD_some] at earlier
      rw [List.map_append, List.mem_append, ← or_assoc]
      rcases member with old | added
      · exact .inl (earlier row old)
      · obtain ⟨signal, isSignal, rfl⟩ := List.mem_map.mp added
        exact .inr (List.mem_singleton.mpr (Surface.batchId_of_mem_signals isSignal))

end

/-- After each of the runs that follow each other, by any tenants, the densities of its tenant are
those before it but for the patterns that occur, and its anomalies are told of in the history and in
signals. Densities that cannot be kept leave all densities and the history as they were. -/
theorem densities_follow_runs :
    (∀ {start before after : Ledger} {turns : List RunTurn} {turn : RunTurn},
      start.HoldsDensities → start.RunsTo turns before →
      (run turn.config turn.request).Yields before (.ok turn.result) after →
      (∀ each ∈ turns ++ [turn], each.config.validate = .ok ()) →
      -- Events are counted in words of 64 bits.
      (∀ each ∈ turns ++ [turn], each.result.summary.componentsCompared < 2 ^ 64) →
      ((turns ++ [turn]).map fun each => each.request.batchId).Nodup →
      (∀ row ∈ start.signals.getD [], ∀ each ∈ turns ++ [turn],
        row.batchId ≠ each.request.batchId) →
      ∃ inputs, (asStore.collectInputs turn.config before.pageBound
          turn.request.startBatch).Yields before (.ok inputs) before ∧
        turn.result = .of (inputs.completedBatch turn.config turn.request)
          (inputs.evaluate turn.config.aggregation).results ∧
        before.Follows turn.config turn.request inputs turn.result after) ∧
    (∀ (ledger : Ledger) (tenantId : String) (updates : List DensityUpdate) (fault : Failure),
      (applyUpdates tenantId updates ledger).result = .error fault →
        (applyUpdates tenantId updates ledger).state = ledger) ∧
    ∀ (refusal? : StoreCall → Option Failure) (config : CalcConfig) (request : RunRequest)
      (ledger : Ledger), (∀ updates, refusal? (.saveDensity updates) ≠ none) →
        densityTables
          ((asStore.refusing refusal?).run config ledger.pageBound request ledger).state =
            densityTables ledger := by
  refine ⟨?_, ?_, ?_⟩
  · intro start before after turns turn holds runs completed accepted fits distinct foreign
    rw [List.forall_mem_append, List.forall_mem_singleton] at accepted fits
    obtain ⟨heldBefore, earlier⟩ := runs.holds holds accepted.1 fits.1
    obtain ⟨inputs, loads, same, updates, learned⟩ :=
      exists_learned_of_run heldBefore accepted.2 fits.2 completed
    rw [List.map_append, List.nodup_append] at distinct
    have new : ∀ row ∈ before.signals.getD [], row.batchId ≠ turn.request.batchId := by
      intro row member
      rcases earlier row member with old | added
      · exact foreign row old turn (by simp)
      · exact distinct.2.2 _ added _ (List.mem_singleton_self _)
    have counted := congrArg RunResult.summary same
    refine ⟨inputs, loads, same, learned.follows heldBefore accepted.2 ?_ updates new ?_⟩
    · rw [counted] at fits
      exact fits.2
    · rw [counted]
      exact List.countP_eq_length_filter
  · intro ledger tenantId updates fault failed
    exact Yields.transaction_error ⟨failed, rfl⟩
  · intro refusal? config request ledger refused
    exact densityTables_of_refused config request ledger refused

/-- Two runs over an infinite amount, of which the second finds a density that the first has left
and tells of an anomaly; a density that is not a number after one that is; and a run whose densities
are refused. -/
theorem overflowingLedger_densities_follow :
    let again : RunRequest := { planRequest with batchId := "again" }
    let left := (run .standard planRequest overflowingLedger).state
    let update : DensityUpdate := ⟨"pattern", none, 0.5, 1, 1, 1.0, false, .verify⟩
    let updates := [update, { update with newDensity := 0.0 / 0.0 }]
    let refusal? (call : StoreCall) : Option Failure :=
      if call.name == "density" then some (.persistence "density" "store unavailable") else none
    overflowingLedger.HoldsDensities ∧
      (∃ inputs result, (run .standard again left).result = .ok result ∧
        result.summary.anomalyCount = 1 ∧
        left.Follows .standard again inputs result (run .standard again left).state) ∧
      (applyUpdates "tenant" updates overflowingLedger).result.isOk = false ∧
      (applyUpdates "tenant" updates overflowingLedger).state = overflowingLedger ∧
      densityTables ((asStore.refusing refusal?).run .standard left.pageBound again left).state =
        densityTables left := by
  intro again left update updates refusal?
  have holds : overflowingLedger.HoldsDensities := by constructor <;> decide +kernel
  have accepted : CalcConfig.standard.validate = .ok () := by decide +kernel
  have noSignals : overflowingLedger.signals.getD [] = [] := by decide +kernel
  have bothRun : ((run .standard planRequest overflowingLedger).result >>= fun first =>
      (run .standard again left).result.map fun second => decide
        (first.summary.componentsCompared < 2 ^ 64 ∧ second.summary.componentsCompared < 2 ^ 64 ∧
          second.summary.anomalyCount = 1)) = .ok true := by decide +kernel
  obtain ⟨first, firstCompleted, secondRuns⟩ := bind_eq_ok_iff.mp bothRun
  obtain ⟨second, secondCompleted, firstFits, secondFits, anomalous⟩ :=
    exists_of_map_decide secondRuns
  have failed : (applyUpdates "tenant" updates overflowingLedger).result =
      .error (.database (.missingValue "pattern_density.density")) := by decide +kernel
  obtain ⟨follow, undone, refused⟩ := densities_follow_runs
  refine ⟨holds, ?_, by rw [failed]; rfl, undone overflowingLedger "tenant" updates _ failed,
    refused refusal? .standard again left fun updates => nofun⟩
  have runs : overflowingLedger.RunsTo [⟨.standard, planRequest, first⟩] left :=
    @RunsTo.concat _ [] _ _ _ .nil ⟨firstCompleted, rfl⟩
  have distinct : ["batch", "again"].Nodup := by decide
  obtain ⟨inputs, _, _, follows⟩ := @follow overflowingLedger left _ _
    ⟨.standard, again, second⟩ holds runs ⟨secondCompleted, rfl⟩ (by simp [accepted])
    (by simpa using ⟨firstFits, secondFits⟩) distinct (by simp [noSignals])
  exact ⟨inputs, second, secondCompleted, anomalous, follows⟩

end Ledger

end VariablePay
