import VariablePay.Config
import VariablePay.Plan.Validation
import VariablePay.Run.Preparation
import VariablePay.Store.Basic

set_option autoImplicit false

/-!
# A run

A run collects its inputs, evaluates every entity, consolidates what it saw and commits the results
together with the completed batch. Densities and signals are written after the commit, and their
failure does not touch the run. A run that fails before the commit leaves the record of its batch
failed, with the reason.
-/

namespace VariablePay

/-- What a run is asked for: the batch to make and whose it is. -/
structure RunRequest where
  batchId : String
  tenantId : String
  periodId : String
  ruleSetId : String
  now : Timestamp
  deriving DecidableEq

structure RunResult where
  batchId : String
  entityCount : Nat
  totalPayout : Float
  concordanceRate : Option Float
  results : List EntityResult
  summary : BatchSummary
  deriving DecidableEq

/-- Why a run gives nothing back. -/
inductive RunFault where
  | failure (cause : Failure)
  /-- The batch would move between phases in a way that no run does. -/
  | illegalMove (move : IllegalMove)
  /-- A load takes more pages than allowed. -/
  | endlessPages
  deriving DecidableEq

structure RunInputs where
  ruleSet : RuleSet
  entities : List AssignedEntity
  rows : List MetricRow
  prior : Density

def percentText (share : Option Float) : String :=
  match share with
  | some rate => fixedText 1 (rate * 100.0) ++ "%"
  | none => "N/A"

namespace RunResult

def of (batch : CalculationBatch) (results : List EntityResult) : RunResult where
  batchId := batch.batchId
  entityCount := batch.entityCount
  totalPayout := batch.summary.totalPayout
  concordanceRate := batch.summary.concordanceRate
  results := results
  summary := batch.summary

def codec (form : FloatForm) : Codec RunResult :=
  Fields.codec <| RunResult.mk
    <$> .required "batch_id" .string batchId
    <*> .required "entity_count" .count entityCount
    <*> .required "total_payout" (.float form) totalPayout
    <*> .optional "concordance_rate" (.float form) concordanceRate
    <*> .required "per_entity_results" (.list (EntityResult.codec form)) results
    <*> .required "summary" (BatchSummary.codec form) summary

end RunResult

namespace CalculationBatch

def startNote (batch : CalculationBatch) : Note :=
  ⟨.info, s!"batch={batch.batchId} starting: tenant={batch.tenantId} period={batch.periodId} " ++
    s!"rule_set={batch.ruleSetId}"⟩

def inputsNote (batch : CalculationBatch) (inputs : RunInputs) : Note :=
  ⟨.info, s!"batch={batch.batchId} inputs: {inputs.ruleSet.variants.length} variants, " ++
    s!"{inputs.ruleSet.componentCount} components, {inputs.entities.length} entities, " ++
    s!"{inputs.rows.length} metric rows, {inputs.prior.size} prior patterns"⟩

def completeNote (batch : CalculationBatch) : Note :=
  ⟨.info, s!"batch={batch.batchId} complete: {batch.entityCount} entities, " ++
    s!"total {fixedText 2 batch.summary.totalPayout}, " ++
    s!"concordance {percentText batch.summary.concordanceRate}, " ++
    s!"{batch.summary.anomalyCount} anomalies"⟩

def failureNote (batch : CalculationBatch) (cause : Failure) : Note :=
  ⟨.error, s!"batch={batch.batchId} failed: {cause.message}"⟩

def unrecordedNote (batch : CalculationBatch) (cause : Failure) : Note :=
  ⟨.error, s!"batch={batch.batchId} could not record FAILED state: {cause.message}"⟩

def densityLostNote (batch : CalculationBatch) (cause : Failure) : Note :=
  ⟨.warn, s!"batch={batch.batchId} density update persistence failed: {cause.message}"⟩

def signalsLostNote (batch : CalculationBatch) (cause : Failure) : Note :=
  ⟨.warn, s!"batch={batch.batchId} training signal persistence failed: {cause.message}"⟩

end CalculationBatch

namespace Store

variable {σ : Type}

def loadAll {α : Type} (fetch : Page → Activity Failure σ (List α)) (bound size : Nat) :
    Activity RunFault σ (List α) := do
  match ← (Activity.drain? fetch bound size).mapError RunFault.failure with
  | some items => return items
  | none => Activity.fail .endlessPages

/-- Loads the rule set of a run and checks it. -/
def loadValidRuleSet (store : Store σ) (ruleSetId : String) : Activity RunFault σ RuleSet := do
  match ← (store.loadRuleSet ruleSetId).mapError RunFault.failure with
  | some ruleSet =>
      Activity.ofExcept (ruleSet.validated.mapError fun fault => .failure (.plan fault))
  | none => Activity.fail (.failure (.ruleSetNotFound ruleSetId))

def collectInputs (store : Store σ) (config : CalcConfig) (pageBound : Nat)
    (batch : CalculationBatch) : Activity RunFault σ RunInputs := do
  let ruleSet ← store.loadValidRuleSet batch.ruleSetId
  let entities ←
    loadAll (store.loadEntities batch.ruleSetId batch.tenantId) pageBound config.batch.pageSize
  let rows ←
    loadAll (store.loadRows batch.tenantId batch.periodId) pageBound config.batch.pageSize
  let prior ← (store.loadDensity batch.tenantId).mapError RunFault.failure
  let inputs : RunInputs := ⟨ruleSet, entities, rows, prior⟩
  Activity.tell [batch.inputsNote inputs]
  return inputs

def enterPhase (batch : CalculationBatch) (next : RunPhase) :
    Activity RunFault σ CalculationBatch := do
  let moved ← Activity.ofExcept ((batch.enter next).mapError RunFault.illegalMove)
  Activity.tell [batch.phaseNote next]
  return moved

/-- Writes densities and signals. Both are tried, and neither failure counts. -/
def dispatch (store : Store σ) (batch : CalculationBatch) (consolidation : Consolidation) :
    Activity RunFault σ Unit := do
  match ← (store.saveDensity batch.tenantId consolidation.updates).attempt with
  | .ok _ => Activity.pure ()
  | .error cause => Activity.tell [batch.densityLostNote cause]
  match ← (store.saveSignals consolidation.signals).attempt with
  | .ok _ => Activity.pure ()
  | .error cause => Activity.tell [batch.signalsLostNote cause]

end Store

/-- A fault and the batch as it stood. -/
abbrev Interruption := RunFault × CalculationBatch

namespace Activity

variable {σ α : Type}

def withBatch (batch : CalculationBatch) (activity : Activity RunFault σ α) :
    Activity Interruption σ α :=
  activity.mapError fun fault => (fault, batch)

end Activity

structure PopulationRun where
  results : List EntityResult
  surface : Surface
  notes : List Note

/-- Evaluates all entities, one after the other, over the density from before the run. -/
def RunInputs.evaluate (inputs : RunInputs) (config : AggregationConfig) : PopulationRun :=
  let prepared := PreparedRuleSet.of inputs.ruleSet
  let runs := inputs.entities.map (prepared.evaluate config inputs.rows)
  { results := runs.map EntityRun.result
    surface := (Surface.ofDensity inputs.prior).append (runs.flatMap EntityRun.events)
    notes := inputs.prior.cleaningNotes ++ runs.flatMap EntityRun.notes }

namespace Store

variable {σ : Type}

def completeBatch (batch : CalculationBatch) (now : Timestamp) :
    Activity RunFault σ CalculationBatch := do
  let entered ← enterPhase batch .complete
  match entered.advance? with
  | some advanced => return { advanced with completedAt := some now }
  | none =>
      Activity.fail (.failure (.persistence "calculation batch"
        s!"lifecycle state {batch.lifecycle.name} cannot advance"))

/-- Carries out a run on the record of its batch. -/
def execute (store : Store σ) (config : CalcConfig) (pageBound : Nat) (now : Timestamp)
    (batch : CalculationBatch) : Activity Interruption σ RunResult := do
  ((store.saveBatch batch).mapError RunFault.failure).withBatch batch
  let inputs ← (store.collectInputs config pageBound batch).withBatch batch
  let evaluating ← (enterPhase batch .evaluating).withBatch batch
  let counted := { evaluating with entityCount := inputs.entities.length }
  let population := inputs.evaluate config.aggregation
  Activity.tell population.notes
  let consolidating ← (enterPhase counted .consolidating).withBatch counted
  let consolidation :=
    population.surface.consolidate config.density batch.batchId batch.tenantId
  Activity.tell (consolidation.notes config.density batch.batchId)
  let summed :=
    { consolidating with summary := .of population.results consolidation }
  let completed ← (completeBatch summed now).withBatch summed
  ((store.saveCompleted completed population.results).mapError RunFault.failure).withBatch summed
  Activity.tell [completed.completeNote]
  (store.dispatch completed consolidation).withBatch completed
  return .of completed population.results

/-- Records that a run has failed, if the store takes the record. -/
def recordFailure (store : Store σ) (now : Timestamp) (batch : CalculationBatch)
    (cause : Failure) : Activity RunFault σ Unit := do
  Activity.tell [batch.failureNote cause]
  let failed ← Activity.ofExcept ((batch.fail cause.message now).mapError RunFault.illegalMove)
  if batch.phase ≠ .failed then Activity.tell [batch.phaseNote .failed]
  match ← (store.saveBatch failed).attempt with
  | .ok _ => Activity.pure ()
  | .error refusal => Activity.tell [batch.unrecordedNote refusal]

/-- Makes a batch. The run comes to a result, or it fails and leaves a failed record. -/
def run (store : Store σ) (config : CalcConfig) (pageBound : Nat) (request : RunRequest) :
    Activity RunFault σ RunResult := do
  let batch := CalculationBatch.start request.batchId request.tenantId request.periodId
    request.ruleSetId request.now
  Activity.tell [batch.startNote]
  match ← (store.execute config pageBound request.now batch).attempt with
  | .ok result => return result
  | .error (.failure cause, stood) =>
      store.recordFailure request.now stood cause
      Activity.fail (.failure cause)
  | .error (fault, _) => Activity.fail fault

end Store

end VariablePay
