import VariablePay.Proofs.Double.Share
import VariablePay.Proofs.Evaluation.Finite
import VariablePay.Proofs.Ledger.Keys
import VariablePay.Proofs.Run.Containment

set_option autoImplicit false

/-!
# Completed runs read back

A ledger takes the total of a batch unless it is `NaN`, but the summary is kept as a text in which
an infinite total is lost. So a batch that is complete is found again just when its total is finite,
and then with the results of all its entities. Its numbers are those of the run if all of them are
read as themselves from their own digits.
-/

namespace VariablePay

/-- Whether all counts and positions in the result of a run are words. -/
@[mk_iff]
structure RunResult.CountsFit (result : RunResult) : Prop where
  summary : result.summary.CountsFit
  results : ∀ each ∈ result.results, each.CountsFit

instance (result : RunResult) : Decidable result.CountsFit :=
  decidable_of_iff' _ result.countsFit_iff

/-- Whether all numbers in the result of a run that are kept in texts are read as themselves. -/
@[mk_iff]
structure RunResult.ReadsBack (result : RunResult) : Prop where
  summary : result.summary.reread = result.summary
  results : ∀ each ∈ result.results, each.ReadsBack

instance (result : RunResult) : Decidable result.ReadsBack :=
  decidable_of_iff' _ result.readsBack_iff

theorem BatchSummary.read?_write_of {results : List EntityResult} {consolidation : Consolidation}
    (finite : (BatchSummary.of results consolidation).totalPayout.isFinite = true)
    (fits : (BatchSummary.of results consolidation).CountsFit) :
    (codec .number).read? ((codec .number).write (.of results consolidation)) =
      some (reread (.of results consolidation)) :=
  read?_write_eq finite (share?_isFinite fits.entitiesMatched fits.entityCount)
    (share?_isFinite fits.componentsMatched fits.componentsCompared) fits

namespace RunInputs

/-- If the total of a batch is finite, so are all numbers of its results. -/
theorem results_isFinite {inputs : RunInputs} {config : AggregationConfig} {plan : RuleSet}
    (accepted : plan.validated = .ok inputs.ruleSet)
    (finite : (Payout.total ((inputs.evaluate config).results.map EntityResult.total)).isFinite =
      true) :
    ∀ result ∈ (inputs.evaluate config).results, result.IsFinite := by
  intro result member
  have total := Payout.isFinite_of_total finite _ (List.mem_map_of_mem member)
  obtain ⟨run, inRuns, rfl⟩ := List.mem_map.mp member
  obtain ⟨entity, _, rfl⟩ := List.mem_map.mp inRuns
  unfold PreparedRuleSet.evaluate at total ⊢
  dsimp only at total ⊢
  rw [PreparedRuleSet.select_of] at total ⊢
  exact (RuleSet.appliedVariant_checked accepted entity.attributes).result_isFinite total _ _

end RunInputs

namespace Ledger

open Activity

variable {ledger : Ledger} {config : CalcConfig} {request : RunRequest} {result : RunResult}

/-- Whether a ledger tells of a run what its result says: that its batch is complete and in preview,
with its summary, and what each entity has come to, in the order of the entities. Only the sign of a
total of zero may differ. -/
structure TellsResult (ledger : Ledger) (result : RunResult) : Prop where
  batch : ∃ kept, (batch? result.batchId ledger).result = .ok (some kept) ∧
    kept.phase = .complete ∧ kept.lifecycle = .preview ∧
    kept.entityCount = result.entityCount ∧ kept.summary = result.summary
  results : (resultsOf result.batchId ledger).result =
    .ok ((result.results.mergeSort EntityResult.precedes).map EntityResult.asKept)

/-- What a run that gives a result has loaded, and what it leaves under an id that is new. -/
private theorem IsKeyed.exists_of_run (keyed : ledger.IsKeyed)
    (new : ledger.recordOf? request.batchId = none)
    (completed : (run config request ledger).result = .ok result) :
    ∃ (plan : RuleSet) (inputs : RunInputs), plan.validated = .ok inputs.ruleSet ∧
      result = .of (inputs.completedBatch config request)
        (inputs.evaluate config.aggregation).results ∧
      (run config request ledger).state.HasCompleted (inputs.completedBatch config request)
        (inputs.evaluate config.aggregation).results := by
  obtain ⟨outcome, after, course, yields⟩ :=
    Store.exists_course asStore config ledger.pageBound request ledger
  have runs : (run config request).Yields ledger outcome after := ⟨yields.result, yields.state⟩
  have looks := collectInputs_looksAt config ledger.pageBound request.startBatch
  rw [runs.result] at completed
  rw [runs.state]
  cases course with
  | refused | uncollected | cutOff | uncommitted => cases completed
  | @completed inputs saved collected committed _ save collect commit dispatch =>
      cases completed
      obtain ⟨batches, total, present, rfl⟩ := exists_of_writeBatch save
      have recorded := recordOf?_withRecord ledger batches request.startBatch total present
      -- The first record does not touch what is loaded.
      have sameTables : inputTables ledger =
          inputTables (ledger.withRecord batches request.startBatch total) := rfl
      obtain ⟨found, rfl⟩ := collect.unique (looks.yields_of_view sameTables)
      have loads : ((asStore.refusing fun _ => none).collectInputs config ledger.pageBound
          request.startBatch).Yields ledger (.ok inputs) ledger :=
        ⟨found.symm, looks.state_eq ledger⟩
      obtain ⟨plan, _, _, _, accepted, _⟩ := Store.collectInputs_yields_ok_iff.mp loads
      have distinct := keyed.nodup_of_collectInputs loads
      rw [← (inputs.addsUp config request).ids] at distinct
      obtain ⟨_, _, _, _, _, number⟩ := exists_of_commitCompleted commit
      have isNumber : (inputs.completedBatch config request).summary.totalPayout.isNaN = false := by
        rw [Bool.eq_false_iff, ne_eq, ← realColumn_eq_none_iff, number]
        nofun
      have dated : IsDated ((ledger.withRecord batches request.startBatch total).recordOf?
          request.startBatch.batchId) := by
        rw [recorded]
        refine (isDated_rowOver _ _ _).mpr fun row older => ?_
        cases new.symm.trans older
      have has := hasCompleted_of_commitCompleted commit dated (keyed.batchId_ne_of_new new)
        (RunInputs.hasTotals_of_total accepted isNumber) distinct
      exact ⟨plan, inputs, accepted, rfl, has.of_dispatch dispatch⟩

private theorem HasCompleted.isFinite_of_batch? {batch : CalculationBatch}
    {results : List EntityResult} (has : ledger.HasCompleted batch results)
    {kept : CalculationBatch} (found : (batch? batch.batchId ledger).result = .ok (some kept)) :
    batch.summary.totalPayout.isFinite = true :=
  ((BatchSummary.read?_write_iff _).mp (has.exists_read? found)).1

section

variable {plan : RuleSet} {inputs : RunInputs}
  (has : ledger.HasCompleted (inputs.completedBatch config request)
    (inputs.evaluate config.aggregation).results)
  (accepted : plan.validated = .ok inputs.ruleSet)
  (fits : (RunResult.of (inputs.completedBatch config request)
    (inputs.evaluate config.aggregation).results).CountsFit)
  (finite : (inputs.completedBatch config request).summary.totalPayout.isFinite = true)

include has fits finite

/-- A completed batch with a finite total is found with each number of its summary as it is read
from its own digits. -/
private theorem HasCompleted.exists_batch?_of_isFinite :
    ∃ kept, (batch? request.batchId ledger).result = .ok (some kept) ∧
      kept.phase = .complete ∧ kept.lifecycle = .preview ∧
      kept.entityCount = inputs.entities.length ∧
      kept.summary = (inputs.completedBatch config request).summary.reread := by
  obtain ⟨kept, found, readAs⟩ :=
    has.exists_batch? (BatchSummary.read?_write_of finite fits.summary)
  refine ⟨kept, found, readAs.phase, readAs.lifecycle, ?_, readAs.summary⟩
  rw [readAs.entityCount]
  have length := (inputs.addsUp config request).summary_entityCount
  refine Nat.mod_eq_of_lt ?_
  change inputs.entities.length < Nat.pow 2 64
  rw [← length]
  exact fits.summary.entityCount

include accepted

/-- The results of a completed batch with a finite total are all found, as they are read. -/
private theorem HasCompleted.resultsOf_of_isFinite :
    (resultsOf request.batchId ledger).result =
      .ok (((inputs.evaluate config.aggregation).results.mergeSort EntityResult.precedes).map
        EntityResult.asRead) := by
  have numbers := RunInputs.hasTotals_of_total accepted (Double.isNaN_of_isFinite finite)
  exact (has.resultsOf_yields numbers (RunInputs.results_isFinite accepted finite)
    fits.results).result

/-- A completed batch with a finite total tells what it came to just when its numbers are read as
themselves. -/
private theorem HasCompleted.tells_iff_of_isFinite :
    ledger.TellsResult (.of (inputs.completedBatch config request)
        (inputs.evaluate config.aggregation).results) ↔
      (RunResult.of (inputs.completedBatch config request)
        (inputs.evaluate config.aggregation).results).ReadsBack := by
  obtain ⟨kept, found, phase, lifecycle, entityCount, summary⟩ :=
    has.exists_batch?_of_isFinite fits finite
  have results := has.resultsOf_of_isFinite accepted fits finite
  constructor
  · intro tells
    obtain ⟨other, foundOther, _, _, _, same⟩ := tells.batch
    cases found.symm.trans foundOther
    have sameResults := Except.ok.inj (results.symm.trans tells.results)
    refine ⟨summary.symm.trans same, fun each member => ?_⟩
    exact EntityResult.asRead_eq_asKept_iff.mp
      (List.map_inj_left.mp sameResults each (List.mem_mergeSort.mpr member))
  · intro readsBack
    refine ⟨⟨kept, found, phase, lifecycle, entityCount, summary.trans readsBack.summary⟩, ?_⟩
    refine results.trans (congrArg Except.ok (List.map_inj_left.mpr fun each member => ?_))
    exact EntityResult.asRead_eq_asKept_iff.mpr
      (readsBack.results each (List.mem_mergeSort.mp member))

end

/-- A run that gives a result under a new id can be read back just when its total is finite and all
numbers of its summary and of its results are read as themselves. -/
theorem run_tellsResult_iff (keyed : ledger.IsKeyed) (new : ledger.recordOf? request.batchId = none)
    (completed : (run config request ledger).result = .ok result) (fits : result.CountsFit) :
    (run config request ledger).state.TellsResult result ↔
      result.totalPayout.isFinite = true ∧ result.ReadsBack := by
  obtain ⟨plan, inputs, accepted, rfl, has⟩ := keyed.exists_of_run new completed
  constructor
  · intro tells
    obtain ⟨kept, found, _⟩ := tells.batch
    have finite := has.isFinite_of_batch? found
    exact ⟨finite, (has.tells_iff_of_isFinite accepted fits finite).mp tells⟩
  · rintro ⟨finite, readsBack⟩
    exact (has.tells_iff_of_isFinite accepted fits finite).mpr readsBack

theorem moderateLedger_run_tellsResult :
    moderateLedger.IsKeyed ∧ moderateLedger.recordOf? planRequest.batchId = none ∧
      ∃ result, (run .standard planRequest moderateLedger).result = .ok result ∧
        result.CountsFit ∧ (run .standard planRequest moderateLedger).state.TellsResult result := by
  have keyed : moderateLedger.IsKeyed := by constructor <;> decide +kernel
  have new : moderateLedger.recordOf? planRequest.batchId = none := by decide +kernel
  have moderate : (run .standard planRequest moderateLedger).result.map (fun result =>
      decide (result.CountsFit ∧ result.totalPayout.isFinite = true ∧ result.ReadsBack)) =
      .ok true := by
    decide +kernel
  obtain ⟨result, completed, fits, readable⟩ := exists_of_map_decide moderate
  exact ⟨keyed, new, result, completed, fits,
    (run_tellsResult_iff keyed new completed fits).mpr readable⟩

/-- A batch whose total is infinite is complete, but is not found. -/
theorem overflowingLedger_run_tells_nothing :
    let rows : List MetricRow := [⟨.entity, "gain", "sales", .ofList [("revenue", 1e308)]⟩]
    overflowingLedger.IsKeyed ∧ overflowingLedger.recordOf? planRequest.batchId = none ∧
      overflowingLedger.committedRows "tenant" "period" = rows.map (keptRow "tenant" "period") ∧
      (∀ row ∈ rows, ∀ entry ∈ row.values.entries, entry.2.isFinite = true) ∧
      ∃ result, (run .standard planRequest overflowingLedger).result = .ok result ∧
        result.CountsFit ∧ ∀ kept, (batch? result.batchId
          (run .standard planRequest overflowingLedger).state).result ≠ .ok (some kept) := by
  intro rows
  have keyed : overflowingLedger.IsKeyed := by constructor <;> decide +kernel
  have new : overflowingLedger.recordOf? planRequest.batchId = none := by decide +kernel
  have infinite : (run .standard planRequest overflowingLedger).result.map (fun result =>
      decide (result.CountsFit ∧ ¬result.totalPayout.isFinite = true)) = .ok true := by
    decide +kernel
  obtain ⟨result, completed, fits, notFinite⟩ := exists_of_map_decide infinite
  refine ⟨keyed, new, by decide +kernel, by decide +kernel, result, completed, fits, ?_⟩
  intro kept found
  obtain ⟨plan, inputs, _, rfl, has⟩ := keyed.exists_of_run new completed
  exact notFinite (has.isFinite_of_batch? found)

end Ledger

end VariablePay
