import VariablePay.Proofs.Agreement
import VariablePay.Proofs.Ledger.Batches
import VariablePay.Proofs.Ledger.Inputs
import VariablePay.Proofs.Outcome
import VariablePay.Proofs.Run.Cases

set_option autoImplicit false

/-!
# The record of a failed run

A run on a ledger that fails after its first record leaves a failed record just when the summary it
has come to can be read again. A total that is no finite number is in the way: `NaN` is refused, and
an infinite one is kept in a text that is not read.
-/

namespace VariablePay.Ledger

/-- Whether a ledger tells of a batch that it is a draft whose run failed for a cause. -/
def TellsFailure (ledger : Ledger) (batchId : String) (cause : Failure) : Prop :=
  ∃ kept, (batch? batchId ledger).result = .ok (some kept) ∧ kept.phase = .failed ∧
    kept.lifecycle = .draft ∧ kept.failureReason = some cause.message

private theorem not_finite_of_realColumn {value : Float} (refused : realColumn value = none) :
    ¬value.isFinite = true := by
  intro finite
  have number := Double.isNaN_of_isFinite finite
  rw [realColumn_eq_none_iff.mp refused] at number
  cases number

/-- A ledger tells of a failure just when the batch in its record failed so and can be read. -/
private theorem tellsFailure_iff_of_recorded {ledger : Ledger} {rows : List BatchRow}
    {batch : CalculationBatch} {total : Float} {old : Option BatchRow} {cause : Failure}
    (present : ledger.batches = some rows)
    (recorded : ledger.recordOf? batch.batchId = some (rowOver batch total old)) :
    ledger.TellsFailure batch.batchId cause ↔
      (batch.phase = .failed ∧ batch.lifecycle = .draft ∧
        batch.failureReason = some cause.message) ∧
      IsDated old ∧ ∃ summary, (BatchSummary.codec .number).read?
        ((BatchSummary.codec .number).write batch.summary) = some summary := by
  unfold TellsFailure
  by_cases readable : IsDated old ∧ ∃ summary, (BatchSummary.codec .number).read?
      ((BatchSummary.codec .number).write batch.summary) = some summary
  · rw [and_iff_left readable]
    obtain ⟨dated, summary, read⟩ := readable
    obtain ⟨kept, yields, readAs⟩ := batchOf_yields ledger total dated read
    have found := (batch?_yields present recorded yields).result
    rw [← readAs.phase, ← readAs.lifecycle, ← readAs.failureReason]
    constructor
    · intro ⟨other, foundOther, failed⟩
      rw [found] at foundOther
      cases foundOther
      exact failed
    · intro failed
      exact ⟨kept, found, failed⟩
  · refine iff_of_false ?_ fun tells => readable tells.2
    obtain ⟨fault, yields⟩ := batchOf_yields_error ledger total readable
    have unread := batch?_yields present recorded yields
    intro ⟨kept, found, _⟩
    rw [unread.result] at found
    cases found

/-- What the attempt to record a failure leaves, if the record before it told of no failure. -/
private theorem tellsFailure_iff {saved after : Ledger} {rows : List BatchRow}
    {running failed : CalculationBatch} {total : Float} {old : Option BatchRow} {cause : Failure}
    {answer : Except Failure Unit} (present : saved.batches = some rows)
    (recorded : saved.recordOf? running.batchId = some (rowOver running total old))
    (notFailed : running.phase ≠ .failed)
    (record : (writeBatch failed).Yields saved answer after)
    (sameId : failed.batchId = running.batchId) (phase : failed.phase = .failed)
    (lifecycle : failed.lifecycle = .draft)
    (reason : failed.failureReason = some cause.message) :
    after.TellsFailure running.batchId cause ↔
      IsDated old ∧ failed.summary.totalPayout.isFinite = true ∧ failed.summary.CountsFit := by
  rw [← BatchSummary.read?_write_iff]
  cases number : realColumn failed.summary.totalPayout with
  | none =>
      -- The record is refused, and the one from before the failure stays.
      obtain ⟨_, rfl⟩ := record.unique (writeBatch_yields_error present number)
      rw [tellsFailure_iff_of_recorded present recorded]
      refine iff_of_false (fun tells => notFailed tells.1.1) ?_
      rw [BatchSummary.read?_write_iff]
      exact fun readable => not_finite_of_realColumn number readable.2.1
  | some kept =>
      obtain ⟨_, rfl⟩ := record.unique (writeBatch_yields present number)
      have nowRecorded := recordOf?_withRecord saved rows failed kept present
      have keepsDate := isDated_rowOver running total old
      rw [← recorded, ← sameId] at keepsDate
      rw [← keepsDate, ← sameId, tellsFailure_iff_of_recorded rfl nowRecorded]
      exact and_iff_right ⟨phase, lifecycle, reason⟩

/-- What a run does that fails after its first record: it records the failure of the batch as it
started or, if the inputs could be collected, of the batch as it was summed up. -/
private theorem run_failure_cases {ledger : Ledger} {config : CalcConfig} {request : RunRequest}
    {cause : Failure} (started : (writeBatch request.startBatch ledger).result = .ok ())
    (failed : (run config request ledger).result = .error (.failure cause)) :
    ∃ rows total, ∃ failing : CalculationBatch, ∃ answer, ledger.batches = some rows ∧
      (writeBatch (failing.failedFor cause request.now)).Yields
        (ledger.withRecord rows request.startBatch total) answer (run config request ledger).state ∧
      ((∃ fault, (asStore.collectInputs config ledger.pageBound request.startBatch ledger).result =
            .error fault ∧ failing = request.startBatch) ∨
        ∃ inputs, (asStore.collectInputs config ledger.pageBound request.startBatch ledger).result =
            .ok inputs ∧ failing = inputs.summedBatch config request) := by
  obtain ⟨result, after, course, yields⟩ :=
    Store.exists_course asStore config ledger.pageBound request ledger
  have runs : (run config request).Yields ledger result after := ⟨yields.result, yields.state⟩
  have looks := collectInputs_looksAt config ledger.pageBound request.startBatch
  obtain ⟨rows, total, present, saved_eq⟩ := exists_of_writeBatch ⟨started, rfl⟩
  have saves : (writeBatch request.startBatch).Yields ledger (.ok ())
      (ledger.withRecord rows request.startBatch total) := ⟨started, saved_eq⟩
  have collects : (asStore.collectInputs config ledger.pageBound request.startBatch).Yields
      (ledger.withRecord rows request.startBatch total)
      (asStore.collectInputs config ledger.pageBound request.startBatch ledger).result
      (ledger.withRecord rows request.startBatch total) := looks.yields_of_view rfl
  rw [runs.result] at failed
  rw [runs.state]
  cases course with
  | refused save _ => cases (saves.unique save).1
  | uncollected save collect record =>
      obtain rfl := (saves.unique save).2
      obtain ⟨collected, rfl⟩ := collects.unique collect
      cases failed
      exact ⟨rows, total, _, _, present, record, .inl ⟨_, collected, rfl⟩⟩
  | cutOff save collect => cases failed
  | uncommitted save collect commit record =>
      obtain rfl := (saves.unique save).2
      obtain ⟨collected, rfl⟩ := collects.unique collect
      cases failed
      obtain rfl := Activity.Yields.transaction_error commit
      exact ⟨rows, total, _, _, present, record, .inr ⟨_, collected, rfl⟩⟩
  | completed save collect commit dispatch => cases failed

private theorem emptySummary_reads :
    BatchSummary.empty.totalPayout.isFinite = true ∧ BatchSummary.empty.CountsFit := by
  refine ⟨rfl, ?_⟩
  constructor <;> exact Nat.two_pow_pos 64

/-- After a run that fails once its first record is kept, the ledger tells of the failure just when
the summary of the inputs, if they could be collected, has a finite total and counts of 64 bits, and
no older record of the batch has a time of creation that cannot be read. -/
theorem run_tellsFailure_iff {ledger : Ledger} {config : CalcConfig} {request : RunRequest}
    {cause : Failure} (started : (writeBatch request.startBatch ledger).result = .ok ())
    (failed : (run config request ledger).result = .error (.failure cause)) :
    (run config request ledger).state.TellsFailure request.batchId cause ↔
      IsDated (ledger.recordOf? request.batchId) ∧
        ∀ inputs, (asStore.collectInputs config ledger.pageBound request.startBatch ledger).result =
            .ok inputs →
          (inputs.summedBatch config request).summary.totalPayout.isFinite = true ∧
            (inputs.summedBatch config request).summary.CountsFit := by
  obtain ⟨rows, total, failing, answer, present, record, course⟩ :=
    run_failure_cases started failed
  have recorded := recordOf?_withRecord ledger rows request.startBatch total present
  obtain ⟨fault, collected, rfl⟩ | ⟨found, collected, rfl⟩ := course
  · refine (tellsFailure_iff rfl recorded nofun record rfl rfl rfl rfl).trans ?_
    refine and_congr_right fun _ => iff_of_true emptySummary_reads fun inputs same => ?_
    rw [collected] at same
    cases same
  · refine (tellsFailure_iff rfl recorded nofun record rfl rfl rfl rfl).trans ?_
    rw [collected]
    refine and_congr_right fun _ => ⟨fun reads inputs same => ?_, fun reads => reads _ rfl⟩
    cases same
    exact reads

def planRequest : RunRequest := ⟨"batch", "tenant", "period", "plan", .epoch⟩

/-- A ledger with a plan of one rate, and two entities that are not assigned in the order of their
ids. -/
def moderateLedger : Ledger :=
  let prepare : LedgerActivity Nat := do
    insertRuleSet "tenant" shareRuleSet
    assign "plan" "tenant" ⟨"second", none, .empty⟩
    assign "plan" "tenant" ⟨"first", none, .empty⟩
    replaceRows "tenant" "period"
      [⟨.entity, "first", "sales", .ofList [("revenue", 12.5)]⟩,
        ⟨.entity, "second", "sales", .ofList [("revenue", -100.0)]⟩]
  (prepare blank.migrated).state

/-- A run that cannot keep its results records its failure with what it has come to. -/
theorem moderateLedger_run_tellsFailure :
    let ledger : Ledger := { moderateLedger with results := none }
    (writeBatch planRequest.startBatch ledger).result = .ok () ∧
      (run .standard planRequest ledger).result = .error (.failure (.database .missingTable)) ∧
      (∃ inputs, (asStore.collectInputs .standard ledger.pageBound planRequest.startBatch
        ledger).result = .ok inputs ∧ inputs.entities.map AssignedEntity.id = ["second", "first"]) ∧
      (run .standard planRequest ledger).state.TellsFailure "batch" (.database .missingTable) := by
  intro ledger
  have dated : IsDated (ledger.recordOf? planRequest.batchId) := fun row none => by
    cases none
  have started : (writeBatch planRequest.startBatch ledger).result = .ok () := by decide +kernel
  have failed : (run .standard planRequest ledger).result =
      .error (.failure (.database .missingTable)) := by decide +kernel
  have collects : (asStore.collectInputs .standard ledger.pageBound planRequest.startBatch
      ledger).result.map (fun inputs => decide
        (inputs.entities.map AssignedEntity.id = ["second", "first"] ∧
          (inputs.summedBatch .standard planRequest).summary.totalPayout.isFinite = true ∧
          (inputs.summedBatch .standard planRequest).summary.CountsFit)) = .ok true := by
    decide +kernel
  obtain ⟨inputs, collected, ids, reads⟩ := exists_of_map_decide collects
  refine ⟨started, failed, ⟨inputs, collected, ids⟩,
    (run_tellsFailure_iff started failed).mpr ⟨dated, fun others same => ?_⟩⟩
  rw [collected] at same
  cases same
  exact reads

/-- A ledger with a plan of one rate, and two entities whose amounts are infinite and offset each
other. -/
def offsettingLedger : Ledger :=
  let gain : MetricRow := ⟨.entity, "gain", "sales", .ofList [("revenue", 1e308)]⟩
  let loss : MetricRow := ⟨.entity, "loss", "sales", .ofList [("revenue", -1e308)]⟩
  let prepare : LedgerActivity Nat := do
    insertRuleSet "tenant" shareRuleSet
    assign "plan" "tenant" ⟨"gain", none, .empty⟩
    assign "plan" "tenant" ⟨"loss", none, .empty⟩
    replaceRows "tenant" "period" [gain, loss]
  (prepare blank.migrated).state

/-- The total is `NaN`, so that neither the completed batch nor its failure is kept. -/
theorem offsettingLedger_run_tells_nothing :
    CalcConfig.standard.validate = .ok () ∧
      (writeBatch planRequest.startBatch offsettingLedger).result = .ok () ∧
      (run .standard planRequest offsettingLedger).result =
        .error (.failure (.database (.missingValue "calculation_batch.total_payout"))) ∧
      ¬(run .standard planRequest offsettingLedger).state.TellsFailure "batch"
        (.database (.missingValue "calculation_batch.total_payout")) := by
  have started : (writeBatch planRequest.startBatch offsettingLedger).result = .ok () := by
    decide +kernel
  have failed : (run .standard planRequest offsettingLedger).result =
      .error (.failure (.database (.missingValue "calculation_batch.total_payout"))) := by
    decide +kernel
  have notNumber : (asStore.collectInputs .standard offsettingLedger.pageBound
      planRequest.startBatch offsettingLedger).result.map (fun inputs =>
        (realColumn (inputs.summedBatch .standard planRequest).summary.totalPayout)) =
      .ok none := by
    decide +kernel
  refine ⟨by decide +kernel, started, failed, ?_⟩
  obtain ⟨rows, total, failing, answer, present, record, course⟩ :=
    run_failure_cases started failed
  have recorded := recordOf?_withRecord offsettingLedger rows planRequest.startBatch total present
  obtain ⟨fault, collected, rfl⟩ | ⟨found, collected, rfl⟩ := course
  · rw [collected] at notNumber
    cases notNumber
  · rw [collected] at notNumber
    obtain ⟨_, unchanged⟩ := record.unique (writeBatch_yields_error rfl (Except.ok.inj notNumber))
    rw [unchanged]
    intro tells
    cases ((tellsFailure_iff_of_recorded rfl recorded).mp tells).1.1

end VariablePay.Ledger
