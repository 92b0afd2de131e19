import VariablePay.Proofs.Ledger.Loads
import VariablePay.Proofs.Ledger.Results
import VariablePay.Proofs.Run.FailureRecord
import VariablePay.Proofs.Run.Totals

set_option autoImplicit false

/-!
# What metric values can do to a run

Whatever finite numbers the rows of a ledger carry, every entity is evaluated, and a component that
cannot be has its fault in its own result. Only the total of all entities decides whether the run
completes: amounts that overflow to infinities of both signs add up to `NaN`, which no column of a
batch takes.
-/

namespace VariablePay

namespace RunInputs

/-- If the total of a batch is a number, both totals of every result are. -/
theorem hasTotals_of_total {inputs : RunInputs} {config : AggregationConfig} {plan : RuleSet}
    (accepted : plan.validated = .ok inputs.ruleSet)
    (number : (Payout.total ((inputs.evaluate config).results.map EntityResult.total)).isNaN =
      false) :
    ∀ result ∈ (inputs.evaluate config).results, Ledger.HasTotals result := by
  intro result member
  have total : result.total.isNaN = false := by
    cases isNaN : result.total.isNaN with
    | false => rfl
    | true =>
        rw [Payout.isNaN_total (List.mem_map_of_mem member) isNaN] at number
        exact number
  obtain ⟨run, inRuns, rfl⟩ := List.mem_map.mp member
  refine ⟨total, ?_⟩
  rw [inputs.executedTotal_eq_of_mem_runs config accepted inRuns]
  exact total

end RunInputs

/-- Once a run has its inputs, the store's answer to the commit decides what it comes to. -/
theorem Store.run_result_of_commit {σ : Type} {store : Store σ} {config : CalcConfig}
    {pageBound : Nat} {request : RunRequest} {inputs : RunInputs} {answer : Except Failure Unit}
    {before saved collected committed : σ}
    (save : (store.saveBatch request.startBatch).Yields before (.ok ()) saved)
    (collect : (store.collectInputs config pageBound request.startBatch).Yields saved (.ok inputs)
      collected)
    (commit : (store.saveCompleted (inputs.completedBatch config request)
      (inputs.evaluate config.aggregation).results).Yields collected answer committed) :
    (store.run config pageBound request before).result =
      (answer.map fun _ => .of (inputs.completedBatch config request)
        (inputs.evaluate config.aggregation).results).mapError RunFault.failure := by
  obtain ⟨result, after, course, yields⟩ := exists_course store config pageBound request before
  refine yields.result.trans ?_
  cases course with
  | refused refusal => cases (save.unique refusal).1
  | uncollected again fault | cutOff again fault =>
      obtain ⟨_, rfl⟩ := save.unique again
      cases (collect.unique fault).1
  | uncommitted again found refusal =>
      obtain ⟨_, rfl⟩ := save.unique again
      obtain ⟨same, rfl⟩ := collect.unique found
      cases same
      obtain ⟨rfl, _⟩ := commit.unique refusal
      rfl
  | completed again found completion =>
      obtain ⟨_, rfl⟩ := save.unique again
      obtain ⟨same, rfl⟩ := collect.unique found
      cases same
      obtain ⟨rfl, _⟩ := commit.unique completion
      rfl

namespace Ledger

open Activity

section

variable {ledger : Ledger} {request : RunRequest} {plan valid : RuleSet}
  {entities : List AssignedEntity} {rows : List MetricRow}

/-- A run on what a ledger holds has its inputs after its first record. -/
private theorem Holds.collectInputs_yields_after (holds : ledger.Holds request plan entities rows)
    (accepted : plan.validated = .ok valid)
    (finite : ∀ row ∈ rows, ∀ entry ∈ row.values.entries, entry.2.isFinite = true)
    (config : CalcConfig) (batches : List BatchRow) :
    let saved := ledger.withRecord batches request.startBatch 0.0
    (asStore.collectInputs config ledger.pageBound request.startBatch).Yields saved
      (.ok ⟨valid, entities, rows.map MetricRow.reread, ledger.densityOf request.tenantId⟩)
      saved := by
  intro saved
  have sameTables : inputTables ledger = inputTables saved := rfl
  have collect :=
    (collectInputs_looksAt config ledger.pageBound request.startBatch).yields_of_view sameTables
  rw [(holds.collectInputs_yields accepted finite config).result] at collect
  exact collect

/-- A table of batches takes the record that a run starts with. -/
theorem startBatch_yields {batches : List BatchRow}
    (present : ledger.batches = some batches) :
    (asStore.saveBatch request.startBatch).Yields ledger (.ok ())
      (ledger.withRecord batches request.startBatch 0.0) := by
  have startsAtZero : realColumn BatchSummary.empty.totalPayout = some 0.0 := rfl
  exact writeBatch_yields present startsAtZero

/-- A batch whose total is `NaN` is refused. -/
private theorem Holds.run_result_of_isNaN (holds : ledger.Holds request plan entities rows)
    (accepted : plan.validated = .ok valid)
    (finite : ∀ row ∈ rows, ∀ entry ∈ row.values.entries, entry.2.isFinite = true)
    {config : CalcConfig} {inputs : RunInputs}
    (found : inputs =
      ⟨valid, entities, rows.map MetricRow.reread, ledger.densityOf request.tenantId⟩)
    (isNaN : (Payout.total ((inputs.evaluate config.aggregation).results.map
      EntityResult.total)).isNaN = true) :
    (run config request ledger).result =
      .error (.failure (.database (.missingValue "calculation_batch.total_payout"))) := by
  obtain ⟨batches, present⟩ := Option.isSome_iff_exists.mp holds.batches
  have collect := holds.collectInputs_yields_after accepted finite config batches
  rw [← found] at collect
  exact Store.run_result_of_commit (startBatch_yields present) collect
    (commitCompleted_yields_error rfl (realColumn_eq_none_iff.mpr isNaN))

/-- A batch whose total is a number is kept with all its results. -/
private theorem Holds.run_result_of_number (holds : ledger.Holds request plan entities rows)
    (accepted : plan.validated = .ok valid)
    (finite : ∀ row ∈ rows, ∀ entry ∈ row.values.entries, entry.2.isFinite = true)
    {config : CalcConfig} {inputs : RunInputs}
    (found : inputs =
      ⟨valid, entities, rows.map MetricRow.reread, ledger.densityOf request.tenantId⟩)
    (number : (Payout.total ((inputs.evaluate config.aggregation).results.map
      EntityResult.total)).isNaN = false) :
    (run config request ledger).result = .ok (.of (inputs.completedBatch config request)
      (inputs.evaluate config.aggregation).results) := by
  obtain ⟨batches, present⟩ := Option.isSome_iff_exists.mp holds.batches
  obtain ⟨resultRows, resultsPresent⟩ := Option.isSome_iff_exists.mp holds.results
  have collect := holds.collectInputs_yields_after accepted finite config batches
  rw [← found] at collect
  have checked : plan.validated = .ok inputs.ruleSet := by
    rw [found]
    exact accepted
  obtain ⟨total, kept⟩ := exists_of_realColumn number
  exact Store.run_result_of_commit (startBatch_yields present) collect
    (commitCompleted_yields rfl resultsPresent kept (RunInputs.hasTotals_of_total checked number))

/-- On what a ledger holds a run evaluates every entity, whatever finite numbers the rows carry, on
the rows as they are read. It completes unless the total of the entities is `NaN`, in which case the
batch is refused. -/
theorem run_result_of_holds {config : CalcConfig}
    (holds : ledger.Holds request plan entities rows) (accepted : plan.validated = .ok valid)
    (finite : ∀ row ∈ rows, ∀ entry ∈ row.values.entries, entry.2.isFinite = true) :
    let inputs : RunInputs :=
      ⟨valid, entities, rows.map MetricRow.reread, ledger.densityOf request.tenantId⟩
    let results := (inputs.evaluate config.aggregation).results
    results.map EntityResult.entityId = entities.map AssignedEntity.id ∧
      (run config request ledger).result =
        if (Payout.total (results.map EntityResult.total)).isNaN then
          .error (.failure (.database (.missingValue "calculation_batch.total_payout")))
        else .ok (.of (inputs.completedBatch config request) results) := by
  intro inputs results
  refine ⟨(inputs.addsUp config request).ids, ?_⟩
  split
  · rename_i isNaN
    exact holds.run_result_of_isNaN accepted finite rfl isNaN
  · rename_i number
    exact holds.run_result_of_number accepted finite rfl (Bool.eq_false_iff.mpr number)

end

/-- A ledger with a plan of one rate, and one entity whose amount is infinite. -/
def overflowingLedger : Ledger :=
  let prepare : LedgerActivity Nat := do
    insertRuleSet "tenant" shareRuleSet
    assign "plan" "tenant" ⟨"gain", none, .empty⟩
    replaceRows "tenant" "period" [⟨.entity, "gain", "sales", .ofList [("revenue", 1e308)]⟩]
  (prepare blank.migrated).state

/-- An infinite amount of one entity does not stop the run. -/
theorem overflowingLedger_run_completes :
    let entities : List AssignedEntity := [⟨"gain", none, .empty⟩]
    let rows : List MetricRow := [⟨.entity, "gain", "sales", .ofList [("revenue", 1e308)]⟩]
    overflowingLedger.Holds planRequest shareRuleSet entities rows ∧
      shareRuleSet.validated = .ok shareRuleSet ∧
      (∀ row ∈ rows, ∀ entry ∈ row.values.entries, entry.2.isFinite = true) ∧
      ∃ result, (run .standard planRequest overflowingLedger).result = .ok result ∧
        result.results.map EntityResult.entityId = ["gain"] := by
  intro entities rows
  have holds : overflowingLedger.Holds planRequest shareRuleSet entities rows := by
    constructor <;> decide +kernel
  have finite : ∀ row ∈ rows, ∀ entry ∈ row.values.entries, entry.2.isFinite = true := by
    decide +kernel
  obtain ⟨ids, completed⟩ :=
    @run_result_of_holds _ _ _ _ _ _ .standard holds shareRuleSet_validated finite
  have number : (Payout.total (((⟨shareRuleSet, entities, rows.map MetricRow.reread,
      overflowingLedger.densityOf planRequest.tenantId⟩ : RunInputs).evaluate
        CalcConfig.standard.aggregation).results.map EntityResult.total)).isNaN = false := by
    decide +kernel
  rw [number] at completed
  exact ⟨holds, shareRuleSet_validated, finite, _, completed, ids⟩

/-- Infinite amounts of both signs leave the run without a result. -/
theorem offsettingLedger_run_fails :
    let entities : List AssignedEntity := [⟨"gain", none, .empty⟩, ⟨"loss", none, .empty⟩]
    let rows : List MetricRow :=
      [⟨.entity, "gain", "sales", .ofList [("revenue", 1e308)]⟩,
        ⟨.entity, "loss", "sales", .ofList [("revenue", -1e308)]⟩]
    CalcConfig.standard.validate = .ok () ∧
      offsettingLedger.Holds planRequest shareRuleSet entities rows ∧
      shareRuleSet.validated = .ok shareRuleSet ∧
      (∀ row ∈ rows, ∀ entry ∈ row.values.entries, entry.2.isFinite = true) ∧
      ∀ result, (run .standard planRequest offsettingLedger).result ≠ .ok result := by
  intro entities rows
  have holds : offsettingLedger.Holds planRequest shareRuleSet entities rows := by
    constructor <;> decide +kernel
  have finite : ∀ row ∈ rows, ∀ entry ∈ row.values.entries, entry.2.isFinite = true := by
    decide +kernel
  have isNaN : (Payout.total (((⟨shareRuleSet, entities, rows.map MetricRow.reread,
      offsettingLedger.densityOf planRequest.tenantId⟩ : RunInputs).evaluate
        CalcConfig.standard.aggregation).results.map EntityResult.total)).isNaN = true := by
    decide +kernel
  have failed := holds.run_result_of_isNaN shareRuleSet_validated finite rfl isNaN
  refine ⟨by decide +kernel, holds, shareRuleSet_validated, finite, fun result completed => ?_⟩
  rw [failed] at completed
  cases completed

end Ledger

end VariablePay
