import VariablePay.Evaluation.Direct
import VariablePay.Proofs.Intent.Branch
import VariablePay.Proofs.Outcome
import VariablePay.Proofs.Plan.Checked
import VariablePay.Proofs.Plan.Resolution

set_option autoImplicit false

/-!
# Direct evaluation and execution agree

On a checked variant the execution of the compiled intents repeats the direct evaluation: the same
payouts to the bit, the same inputs, branches, grids and rates, and the same reason wherever a
component has no payout.
-/

namespace VariablePay

/-- What a trace has to say for an explanation to be one of the same payout. -/
structure Explanation.AccordsWith (explanation : Explanation) (trace : IntentTrace) : Prop where
  inputs : explanation.inputs = trace.inputs
  branch : explanation.matched.map MatchedBand.index = trace.branch
  columnBranch : explanation.matchedColumn.map MatchedBand.index = trace.columnBranch
  grid : explanation.grid = trace.grid
  rate : explanation.rate = trace.rate
  error : explanation.error = trace.error

/-- A result and a trace that pay the same for the same reasons. -/
structure ComponentResult.AccordsWith (result : ComponentResult) (trace : IntentTrace) : Prop where
  payout : result.payout = trace.payout
  explanation : result.explanation.AccordsWith trace

/-- Both ways have a payout, with explanations that accord, or both have the same fault. -/
inductive Accord :
    Except EvalFault (Float × Explanation) → Except EvalFault IntentTrace → Prop where
  | paid {explanation : Explanation} {trace : IntentTrace}
      (accords : explanation.AccordsWith trace) :
      Accord (.ok (trace.payout, explanation)) (.ok trace)
  | fault (fault : EvalFault) : Accord (.error fault) (.error fault)

namespace Accord

private theorem pure {payout : Float} {explanation : Explanation} {trace : IntentTrace}
    (same : payout = trace.payout) (accords : explanation.AccordsWith trace) :
    Accord (Pure.pure (payout, explanation)) (Pure.pure trace) := by
  subst same
  exact .paid accords

/-- A step that both ways take in common. -/
private theorem bind {α : Type} {step : Except EvalFault α}
    {evaluate : α → Except EvalFault (Float × Explanation)}
    {execute : α → Except EvalFault IntentTrace}
    (after : ∀ value, Accord (evaluate value) (execute value)) :
    Accord (step >>= evaluate) (step >>= execute) := by
  cases step with
  | error found => exact .fault found
  | ok value => exact after value

/-- Both readers of a metric give the same number and note it in the same way, or give the same
fault. -/
private theorem read {explanation : Explanation} {context : EntityContext} {prior : List Float}
    {name : String} {evaluate : Float × Explanation → Except EvalFault (Float × Explanation)}
    {execute : Float × StringMap Float → Except EvalFault IntentTrace}
    (after : ∀ value inputs missing, value.isNaN = false →
      Accord (evaluate (value, { explanation with inputs := inputs, missingMetrics := missing }))
        (execute (value, inputs))) :
    Accord (explanation.read context.metrics name >>= evaluate)
      ((InputSource.metric name).resolve ⟨context, prior⟩ explanation.inputs >>= execute) := by
  rw [Explanation.read, InputSource.resolve, MetricMap.valueOf]
  cases context.metrics.get? name with
  | none =>
      have zeroFinite : (0.0 : Float).isFinite = true := by decide
      rw [Option.getD_none, if_pos zeroFinite]
      exact after _ _ _ (Double.isNaN_of_isFinite zeroFinite)
  | some value =>
      rw [Option.getD_some]
      by_cases finite : value.isFinite = true
      · rw [if_pos finite]
        simp only [if_pos finite]
        exact after _ _ explanation.missingMetrics (Double.isNaN_of_isFinite finite)
      · rw [if_neg finite]
        simp only [if_neg finite]
        exact .fault _

/-- The band that a number resolves to is the branch that it falls in. -/
private theorem resolve {bands : List Band} (ascending : Band.Ascending bands) {value : Float}
    (number : value.isNaN = false)
    {evaluate : MatchedBand → Except EvalFault (Float × Explanation)}
    {execute : Nat → Except EvalFault IntentTrace}
    (after : ∀ matched, Accord (evaluate matched) (execute matched.index)) :
    Accord (EvalFault.require .emptyTable (Band.resolve? bands value) >>= evaluate)
      ((Boundaries.ofBands bands).branchOf value >>= execute) := by
  obtain ⟨clamped, resolved, _⟩ := ascending.resolve?_eq number
  rw [resolved, Boundaries.branchOf_ofBands ascending]
  exact after _

/-- An entry of a table and the same column of it. -/
private theorem entry {α : Type} {fault : EvalFault} {table : List α} {column : α → Float}
    {index : Nat} {evaluate : α → Except EvalFault (Float × Explanation)}
    {execute : Float → Except EvalFault IntentTrace}
    (after : ∀ entry, Accord (evaluate entry) (execute (column entry))) :
    Accord (fault.require table[index]? >>= evaluate)
      (fault.require (table.map column)[index]? >>= execute) := by
  rw [List.getElem?_map]
  cases table[index]? with
  | none => exact .fault fault
  | some found => exact after found

end Accord

private theorem findSome?_toList_append {α β : Type} (find : α → Option β)
    (first second : Option α) :
    (first.toList ++ second.toList).findSome? find = (first.bind find).or (second.bind find) := by
  cases first with
  | none => cases second <;> simp
  | some first =>
      cases second with
      | none => simp
      | some second => cases found : find first <;> simp [found]

/-- Both fallbacks end at the same grid: the wanted one, the default, or the only one. -/
private theorem pick_eq_selectGrid (config : MatrixLookup) (attributes : Attributes) :
    GridSelector.pick ⟨config.gridAttribute, config.defaultGrid⟩ config.grids attributes =
      config.selectGrid attributes := by
  have listed := findSome?_toList_append config.gridAt? (config.wantedGrid? attributes)
    config.defaultGrid
  unfold MatrixLookup.gridAt? MatrixLookup.wantedGrid? at listed
  unfold GridSelector.pick MatrixLookup.selectGrid MatrixLookup.wantedGrid? MatrixLookup.gridAt?
  dsimp only
  rw [listed, ← Option.or_assoc]
  generalize (Option.bind _ _).or (Option.bind _ _) = chosen
  cases chosen with
  | some found => rfl
  | none =>
      rcases entries : config.grids.entries with _ | ⟨entry, _ | ⟨next, rest⟩⟩ <;>
        simp only [MatrixLookup.onlyGrid?, entries] <;> rfl

/-- The executed operation of a bucketed rate accords with its direct evaluation. -/
private theorem bucketedRate_accord {config : BucketedRate} (checked : config.Checked)
    (context : EntityContext) (intent : ComponentIntent) (prior : List Float) :
    Accord (config.evaluate context)
      ((IntentOperation.conditionalRate (.ofBuckets config)).execute ⟨context, prior⟩
        (.start intent prior)) := by
  refine .read fun selected inputs missing number => .read fun base inputs missing _ => ?_
  refine .resolve checked.ascending number fun matched => .entry fun bucket => ?_
  exact .pure rfl ⟨rfl, rfl, rfl, rfl, rfl, rfl⟩

/-- The executed operation of a configuration accords with its direct evaluation. -/
private theorem config_accord {config : ComponentConfig} (checked : config.Checked)
    (context : EntityContext) (intent : ComponentIntent) (prior : List Float) :
    Accord (config.evaluate context)
      ((IntentOperation.ofConfig config).execute ⟨context, prior⟩ (.start intent prior)) := by
  cases config with
  | tierLookup config =>
      obtain ⟨ascending, _⟩ := checked
      refine .read fun value inputs missing number => ?_
      refine .resolve ascending number fun matched => .entry fun tier => ?_
      exact .pure rfl ⟨rfl, rfl, rfl, rfl, rfl, rfl⟩
  | matrixLookup config =>
      obtain ⟨rowsAscending, columnsAscending, _⟩ := checked
      refine .read fun row inputs missing rowNumber => ?_
      refine .read fun column inputs missing columnNumber => ?_
      rw [pick_eq_selectGrid]
      refine .bind fun grid => .resolve rowsAscending rowNumber fun rowBand =>
        .resolve columnsAscending columnNumber fun columnBand => .bind fun payout => ?_
      exact .pure rfl ⟨rfl, rfl, rfl, rfl, rfl, rfl⟩
  | percentage config =>
      refine .read fun base inputs missing _ => ?_
      dsimp only
      split
      · exact .pure rfl ⟨rfl, rfl, rfl, rfl, rfl, rfl⟩
      · exact .pure rfl ⟨rfl, rfl, rfl, rfl, rfl, rfl⟩
  | conditionalPercentage config => exact bucketedRate_accord checked context intent prior
  | percentageWithGate config => exact bucketedRate_accord checked context intent prior
  | flatPercentage config =>
      refine .read fun value inputs missing _ => ?_
      exact .pure rfl ⟨rfl, rfl, rfl, rfl, rfl, rfl⟩

/-- The intent of a checked component fails whenever the component does, and with the same fault. -/
theorem Component.execute_eq_error_iff {component : Component}
    (valid : component.validate = .ok ()) (context : EntityContext) (index : Nat)
    (prior : List Float) (fault : EvalFault) :
    (ComponentIntent.ofComponent component index).execute context prior = .error fault ↔
      component.evaluate context = .error fault := by
  rw [Component.evaluate, ComponentIntent.execute]
  cases enabled : component.enabled with
  | false => simp [ComponentIntent.ofComponent, enabled]
  | true =>
      have accord := config_accord (Component.checked_of_validate valid) context
        (.ofComponent component index) prior
      simp only [ComponentIntent.ofComponent, enabled, if_true] at accord ⊢
      generalize component.config.evaluate context = evaluated at accord
      generalize IntentOperation.execute _ _ _ = executed at accord
      cases accord with
      | paid => exact iff_of_false nofun nofun
      | fault found => simp

private theorem result_accordsWith {component : Component} (valid : component.validate = .ok ())
    (context : EntityContext) (index : Nat) (prior : List Float) :
    (component.result context).AccordsWith
      ((ComponentIntent.ofComponent component index).trace context prior) := by
  rw [Component.result, Component.evaluate, ComponentIntent.trace, ComponentIntent.execute]
  cases enabled : component.enabled with
  | false =>
      simp only [ComponentIntent.ofComponent, enabled, Bool.false_eq_true, if_false]
      exact ⟨rfl, rfl, rfl, rfl, rfl, rfl, rfl⟩
  | true =>
      have accord := config_accord (Component.checked_of_validate valid) context
        (.ofComponent component index) prior
      simp only [ComponentIntent.ofComponent, enabled, if_true] at accord ⊢
      generalize component.config.evaluate context = evaluated at accord
      generalize IntentOperation.execute _ _ _ = executed at accord
      cases accord with
      | paid accords => exact ⟨rfl, accords⟩
      | fault found => exact ⟨rfl, rfl, rfl, rfl, rfl, rfl, rfl⟩

/-- Whatever was paid before, traces taken in order accord with the results in order. -/
private theorem tracesFrom_accord (context : EntityContext) (components : List Component)
    (valid : ∀ component ∈ components, component.validate = .ok ()) :
    ∀ (position : Nat → Nat) (prior : List Float),
      List.Forall₂ ComponentResult.AccordsWith
        (components.map fun component => component.result context)
        (ComponentIntent.tracesFrom context prior
          (components.mapIdx fun index component =>
            .ofComponent component (position index))) := by
  induction components with
  | nil =>
      intro position prior
      exact .nil
  | cons component rest ih =>
      intro position prior
      obtain ⟨headValid, restValid⟩ := List.forall_mem_cons.mp valid
      rw [List.map_cons, List.mapIdx_cons, ComponentIntent.tracesFrom]
      exact .cons (result_accordsWith headValid context (position 0) prior)
        (ih restValid (fun index => position (index + 1)) _)

private theorem mergeSort_ofComponents {components : List Component}
    (ascending : components.Pairwise fun left right => left.ordinal < right.ordinal) :
    (ComponentIntent.ofComponents components).mergeSort ComponentIntent.precedes =
      ComponentIntent.ofComponents components := by
  have ordinals : (ComponentIntent.ofComponents components).map ComponentIntent.ordinal =
      components.map Component.ordinal := by
    refine List.ext_getElem? fun index => ?_
    simp only [ComponentIntent.ofComponents, List.getElem?_map, List.getElem?_mapIdx,
      Option.map_map]
    rfl
  have sorted : (ComponentIntent.ofComponents components).Pairwise fun left right =>
      left.ordinal < right.ordinal := by
    rw [← List.pairwise_map (R := (· < ·)), ordinals]
    exact List.pairwise_map.mpr ascending
  refine List.mergeSort_of_pairwise (sorted.imp fun less => ?_)
  simp [ComponentIntent.precedes, less]

theorem Variant.Checked.execution_accords {variant : Variant} (checked : variant.Checked)
    (context : EntityContext) :
    List.Forall₂ ComponentResult.AccordsWith (Evaluation.of variant.components context).results
      (Execution.of (ComponentIntent.ofComponents variant.components) context).traces := by
  rw [Execution.of, mergeSort_ofComponents checked.ascending]
  exact tracesFrom_accord context variant.components checked.valid (fun index => index) []

private theorem payouts_eq_of_accord {results : List ComponentResult} {traces : List IntentTrace}
    (accords : List.Forall₂ ComponentResult.AccordsWith results traces) :
    traces.map IntentTrace.payout = results.map ComponentResult.payout := by
  induction accords with
  | nil => rfl
  | cons accord _ ih => rw [List.map_cons, List.map_cons, accord.payout, ih]

theorem Variant.Checked.execution_payouts_eq {variant : Variant} (checked : variant.Checked)
    (context : EntityContext) :
    (Execution.of (ComponentIntent.ofComponents variant.components) context).payouts =
      (Evaluation.of variant.components context).results.map ComponentResult.payout :=
  payouts_eq_of_accord (checked.execution_accords context)

/-- For every variant of a validated rule set, and whatever the metrics and attributes are, the
execution of the compiled components pays what their direct evaluation pays, component by
component and in total, and each trace gives the account of its explanation. -/
theorem RuleSet.execution_accords_of_validated {ruleSet valid : RuleSet}
    (accepted : ruleSet.validated = .ok valid) {variant : Variant}
    (member : variant ∈ valid.variants) (context : EntityContext) :
    let direct := Evaluation.of variant.components context
    let executed := Execution.of (ComponentIntent.ofComponents variant.components) context
    executed.payouts = direct.results.map ComponentResult.payout ∧
      executed.total = direct.total ∧
      List.Forall₂ ComponentResult.AccordsWith direct.results executed.traces := by
  have checked := checked_of_validated accepted member
  have payouts := checked.execution_payouts_eq context
  refine ⟨payouts, ?_, checked.execution_accords context⟩
  exact congrArg Payout.total payouts

/-- A variant with its components out of order, a gap in its tiers and rates on other metrics. -/
def sampleVariant : Variant where
  id := "base"
  name := "Base"
  eligibility := none
  isDefault := true
  components := [
    { id := "bonus", name := "Bonus", ordinal := 3, enabled := true
      config := .tierLookup ⟨"revenue", [⟨⟨0.0, some 100.0, none⟩, 5.0⟩,
        ⟨⟨200.0, none, some "top"⟩, 25.0⟩]⟩ },
    { id := "share", name := "Share", ordinal := 1, enabled := true
      config := .flatPercentage ⟨"margin", 0.5⟩ },
    { id := "growth", name := "Growth", ordinal := 2, enabled := true
      config := .percentage ⟨"growth", 0.25, none⟩ }]

def sampleRuleSet : RuleSet := ⟨"plan", "Plan", [sampleVariant]⟩

/-- Metrics in a gap, not a number and not there. -/
def sampleContext : EntityContext :=
  ⟨.ofList [("revenue", 150.0), ("margin", 0.0 / 0.0)], .empty⟩

theorem sampleRuleSet_execution_accords :
    sampleRuleSet.validated = .ok { sampleRuleSet with variants := [sampleVariant.inOrder] } ∧
      sampleVariant.inOrder ∈ [sampleVariant.inOrder] ∧
      let direct := Evaluation.of sampleVariant.inOrder.components sampleContext
      let executed := Execution.of (ComponentIntent.ofComponents sampleVariant.inOrder.components)
        sampleContext
      executed.payouts = direct.results.map ComponentResult.payout ∧
        executed.total = direct.total ∧
        List.Forall₂ ComponentResult.AccordsWith direct.results executed.traces := by
  have accepted : sampleRuleSet.validated =
      .ok { sampleRuleSet with variants := [sampleVariant.inOrder] } := rfl
  have member : sampleVariant.inOrder ∈ [sampleVariant.inOrder] := List.mem_singleton.mpr rfl
  exact ⟨accepted, member, RuleSet.execution_accords_of_validated accepted member sampleContext⟩

end VariablePay
