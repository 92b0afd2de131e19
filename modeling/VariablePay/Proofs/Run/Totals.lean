import VariablePay.Proofs.Agreement
import VariablePay.Proofs.Confidence.Tallies
import VariablePay.Proofs.Run.Cases
import VariablePay.Proofs.Run.Population
import VariablePay.Store.Memory

set_option autoImplicit false

/-!
# The numbers of a run add up

The results of a run and its events are counted apart from each other: the results by entity, the
events by pattern. Both counts are of the same components, so the summary adds up.
-/

namespace VariablePay

/-- A result that leaves out no entity of what was loaded, with a summary that adds up. -/
structure RunResult.AddsUp (result : RunResult) (inputs : RunInputs) : Prop where
  ids : result.results.map EntityResult.entityId = inputs.entities.map AssignedEntity.id
  entityCount : result.entityCount = inputs.entities.length
  summary_entityCount : result.summary.entityCount = inputs.entities.length
  entities : result.summary.entitiesMatched + result.summary.entitiesMismatched =
    inputs.entities.length
  totalPayout : result.totalPayout =
    (result.results.map EntityResult.total).foldl (· + ·) (-0.0)
  summary_totalPayout : result.summary.totalPayout = result.totalPayout
  componentsCompared : result.summary.componentsCompared =
    (inputs.entities.map fun entity => (inputs.componentsOf entity).length).sum
  componentsMatched : result.summary.componentsMatched +
      (result.results.map fun each => each.dualPath.componentMismatches).sum =
    result.summary.componentsCompared
  patterns : result.summary.patternsConsolidated =
    ((inputs.entities.flatMap inputs.componentsOf).map fun component =>
      component.config.signature).toFinset.card
  modes : result.summary.shadowPatterns + result.summary.verifyPatterns +
    result.summary.trustedPatterns = result.summary.patternsConsolidated
  anomalies : result.summary.anomalyCount ≤ result.summary.shadowPatterns
  concordance : result.summary.concordanceRate = none ↔ inputs.entities = []
  concordanceRate : result.concordanceRate = result.summary.concordanceRate
  componentConcordance :
    result.summary.componentConcordance = none ↔ result.summary.componentsCompared = 0

theorem share?_eq_none_iff {part whole : Nat} : share? part whole = none ↔ whole = 0 := by
  rw [share?]
  split
  · simp
    omega
  · simp
    omega

namespace RunInputs

variable (inputs : RunInputs) (config : CalcConfig) (request : RunRequest)

private theorem results_evaluate :
    (inputs.evaluate config.aggregation).results =
      (inputs.runs config.aggregation).map EntityRun.result := rfl

private theorem length_runs :
    (inputs.runs config.aggregation).length = inputs.entities.length := List.length_map _

/-- The result of a run adds up to what was loaded for it. -/
theorem addsUp :
    (RunResult.of (inputs.completedBatch config request)
      (inputs.evaluate config.aggregation).results).AddsUp inputs := by
  have length : (inputs.evaluate config.aggregation).results.length = inputs.entities.length := by
    rw [results_evaluate, List.length_map, length_runs]
  have events : (inputs.evaluate config.aggregation).surface.events =
      (inputs.runs config.aggregation).flatMap EntityRun.events := rfl
  have compared : ((inputs.runs config.aggregation).flatMap EntityRun.events).length =
      (inputs.entities.map fun entity => (inputs.componentsOf entity).length).sum := by
    rw [← List.length_flatMap, ← List.length_map (f := ConfidenceEvent.signature),
      signatures_events_runs, List.length_map]
  have counts := inputs.countP_add_mismatches_runs config.aggregation
  constructor
  case ids =>
    rw [← inputs.entityIds_runs config.aggregation]
    exact List.map_map
  case entityCount => rfl
  case summary_entityCount => exact length
  case entities =>
    refine (Nat.add_sub_cancel' ?_).trans length
    exact List.countP_le_length
  case totalPayout => rfl
  case summary_totalPayout => rfl
  case componentsCompared => exact compared
  case componentsMatched =>
    have mismatches : ((inputs.evaluate config.aggregation).results.map fun each =>
        each.dualPath.componentMismatches) = (inputs.runs config.aggregation).map fun run =>
          run.result.dualPath.componentMismatches := List.map_map
    rw [← mismatches] at counts
    exact counts
  case patterns =>
    refine (Surface.length_updates _ _).trans ?_
    rw [events, signatures_events_runs]
  case modes => exact Consolidation.modeCount_add _
  case anomalies => exact Surface.length_anomalies_le _ _ _ _
  case concordance =>
    refine share?_eq_none_iff.trans ?_
    rw [length, List.length_eq_zero_iff]
  case concordanceRate => rfl
  case componentConcordance => exact share?_eq_none_iff

end RunInputs

/-- Whenever a run gives a result, its inputs have been loaded, and the result adds up to them. -/
theorem Store.run_addsUp {σ : Type} {store : Store σ} {config : CalcConfig} {pageBound : Nat}
    {request : RunRequest} {before : σ} {result : RunResult}
    (completed : (store.run config pageBound request before).result = .ok result) :
    ∃ inputs, (store.collectInputs config pageBound request.startBatch
        (store.saveBatch request.startBatch before).state).result = .ok inputs ∧
      result.AddsUp inputs := by
  obtain ⟨outcome, after, course, yields⟩ :=
    Store.exists_course store config pageBound request before
  rw [yields.result] at completed
  cases course with
  | refused | uncollected | cutOff | uncommitted => cases completed
  | completed save collect commit dispatch =>
      cases completed
      refine ⟨_, ?_, RunInputs.addsUp _ config request⟩
      rw [save.state]
      exact collect.result

/-- Of two entities one is paid an infinite amount, on which both ways are said to differ. -/
theorem MemoryStore.asStore_run_addsUp :
    let store : MemoryStore :=
      ⟨[shareRuleSet], [⟨"first", none, .empty⟩, ⟨"second", none, .empty⟩],
        [⟨.entity, "first", "sales", .ofList [("revenue", 1e308)]⟩], .empty, [], []⟩
    let request : RunRequest := ⟨"batch", "tenant", "period", "plan", .epoch⟩
    ∃ result inputs, (asStore.run .standard store.pageBound request store).result = .ok result ∧
      result.summary.entitiesMatched = 1 ∧ inputs.entities.length = 2 ∧ result.AddsUp inputs := by
  intro store request
  have counted : (asStore.run .standard store.pageBound request store).result.map
      (fun result => (result.entityCount, result.summary.entitiesMatched)) = .ok (2, 1) := by
    decide +kernel
  cases completed : (asStore.run .standard store.pageBound request store).result with
  | error fault =>
      rw [completed] at counted
      cases counted
  | ok result =>
      rw [completed] at counted
      obtain ⟨inputs, _, addsUp⟩ := Store.run_addsUp completed
      have pair := Except.ok.inj counted
      refine ⟨result, inputs, rfl, congrArg Prod.snd pair, ?_, addsUp⟩
      exact addsUp.entityCount.symm.trans (congrArg Prod.fst pair)

end VariablePay
