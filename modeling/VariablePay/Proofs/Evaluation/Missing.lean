import VariablePay.Proofs.Evaluation.Failing

set_option autoImplicit false

/-!
# Metrics that are not there

A component sees no more of the metrics than the values of those its configuration names, where a
metric that is not there has the value zero. Which of them were not there shows in its list of
missing metrics and nowhere else; its intent does not show it at all.
-/

namespace VariablePay

namespace MetricMap

/-- Each of the names has the same value in both, be it there or read as zero. -/
def AgreeOn (names : List String) (metrics other : MetricMap) : Prop :=
  ∀ name ∈ names, metrics.valueOf name = other.valueOf name

/-- Those of the names that are not there, each as often as it stands among them. -/
def missing (metrics : MetricMap) (names : List String) : List String :=
  names.filter fun name => (metrics.get? name).isNone

theorem missing_pair (metrics : MetricMap) (first second : String) :
    metrics.missing [first, second] = metrics.missing [first] ++ metrics.missing [second] :=
  List.filter_append [first] [second]

theorem missing_of_get?_none {metrics : MetricMap} {name : String}
    (absent : metrics.get? name = none) : metrics.missing [name] = [name] := by
  simp [missing, absent]

theorem missing_of_get?_some {metrics : MetricMap} {name : String} {value : Float}
    (found : metrics.get? name = some value) : metrics.missing [name] = [] := by
  simp [missing, found]

end MetricMap

/-- The named metrics that a component misses; one that is switched off reads none. -/
def Component.missing (component : Component) (metrics : MetricMap) : List String :=
  if component.enabled then metrics.missing component.config.metrics else []

namespace Explanation

/-- The explanation with another list of missing metrics. -/
def withMissing (names : List String) (explanation : Explanation) : Explanation :=
  { explanation with missingMetrics := names }

/-- What reading a metric comes to depends on its value alone, but for the list of missing ones. -/
theorem read_eq (explanation : Explanation) (metrics : MetricMap) (name : String) :
    explanation.read metrics name =
      if (metrics.valueOf name).isFinite then
        .ok (metrics.valueOf name, { explanation with
          inputs := explanation.inputs.insert name (metrics.valueOf name)
          missingMetrics := explanation.missingMetrics ++ metrics.missing [name] })
      else .error (.nonFiniteMetric name (metrics.valueOf name)) := by
  rw [read, MetricMap.valueOf]
  cases found : metrics.get? name with
  | none =>
      have zeroFinite : (0.0 : Float).isFinite = true := by decide
      rw [MetricMap.missing_of_get?_none found, Option.getD_none, if_pos zeroFinite]
  | some value =>
      rw [MetricMap.missing_of_get?_some found, List.append_nil, Option.getD_some]

end Explanation

def ComponentResult.withMissing (names : List String) (result : ComponentResult) :
    ComponentResult :=
  { result with explanation := result.explanation.withMissing names }

/-- Both pay the same for the same reasons, each with its own list of missing metrics, or both have
the same fault. -/
inductive Alike (missing otherMissing : List String) :
    Except EvalFault (Float × Explanation) → Except EvalFault (Float × Explanation) → Prop where
  | paid {payout : Float} {explanation : Explanation}
      (lists : explanation.missingMetrics = missing) :
      Alike missing otherMissing (.ok (payout, explanation))
        (.ok (payout, explanation.withMissing otherMissing))
  | fault (fault : EvalFault) : Alike missing otherMissing (.error fault) (.error fault)

namespace Alike

variable {missing otherMissing : List String}

private theorem pure {payout : Float} {explanation otherExplanation : Explanation}
    (lists : explanation.missingMetrics = missing)
    (same : explanation.withMissing otherMissing = otherExplanation) :
    Alike missing otherMissing (Pure.pure (payout, explanation))
      (Pure.pure (payout, otherExplanation)) := by
  subst same
  exact .paid lists

/-- A step that both take in common. -/
theorem bind {α : Type} {step : Except EvalFault α}
    {next otherNext : α → Except EvalFault (Float × Explanation)}
    (after : ∀ value, Alike missing otherMissing (next value) (otherNext value)) :
    Alike missing otherMissing (step >>= next) (step >>= otherNext) := by
  cases step with
  | error found => exact .fault found
  | ok value => exact after value

/-- Both read the same value of a metric and note it, and each lists it if it is missing. -/
theorem read {metrics other : MetricMap} {name : String}
    (agree : metrics.valueOf name = other.valueOf name) (explanation : Explanation)
    (before otherBefore : List String)
    {next otherNext : Float × Explanation → Except EvalFault (Float × Explanation)}
    (after : ∀ value inputs,
      Alike missing otherMissing
        (next (value, { explanation with
          inputs := inputs, missingMetrics := before ++ metrics.missing [name] }))
        (otherNext (value, { explanation with
          inputs := inputs, missingMetrics := otherBefore ++ other.missing [name] }))) :
    Alike missing otherMissing
      ((explanation.withMissing before).read metrics name >>= next)
      ((explanation.withMissing otherBefore).read other name >>= otherNext) := by
  rw [Explanation.read_eq, Explanation.read_eq, agree]
  split
  · exact after _ _
  · exact .fault _

end Alike

section TwoMaps

variable {metrics other : MetricMap}

theorem BucketedRate.evaluate_alike (config : BucketedRate) (attributes : Attributes)
    (selectorAgrees : metrics.valueOf config.selector = other.valueOf config.selector)
    (baseAgrees : metrics.valueOf config.base = other.valueOf config.base) :
    Alike (metrics.missing [config.selector, config.base])
      (other.missing [config.selector, config.base])
      (config.evaluate ⟨metrics, attributes⟩) (config.evaluate ⟨other, attributes⟩) := by
  refine .read selectorAgrees .empty [] [] fun selected inputs => ?_
  refine .read baseAgrees { Explanation.empty with inputs := inputs } _ _ fun base inputs => ?_
  refine .bind fun matched => .bind fun bucket => ?_
  rw [metrics.missing_pair, other.missing_pair]
  exact .pure rfl rfl

theorem ComponentConfig.evaluate_alike {config : ComponentConfig} (attributes : Attributes)
    (agree : metrics.AgreeOn config.metrics other) :
    Alike (metrics.missing config.metrics) (other.missing config.metrics)
      (config.evaluate ⟨metrics, attributes⟩) (config.evaluate ⟨other, attributes⟩) := by
  cases config with
  | tierLookup config =>
      refine .read (agree config.metric List.mem_cons_self) .empty [] []
        fun value inputs => ?_
      exact .bind fun matched => .bind fun tier => .pure rfl rfl
  | matrixLookup config =>
      refine .read (agree config.rowMetric List.mem_cons_self) .empty [] []
        fun row inputs => ?_
      refine .read (agree config.columnMetric (List.mem_cons_of_mem _ List.mem_cons_self))
        { Explanation.empty with inputs := inputs } _ _ fun column inputs => ?_
      refine .bind fun grid => .bind fun rowBand => .bind fun columnBand => .bind fun payout => ?_
      rw [ComponentConfig.metrics, metrics.missing_pair, other.missing_pair]
      exact .pure rfl rfl
  | percentage config =>
      refine .read (agree config.metric List.mem_cons_self) .empty [] []
        fun base inputs => ?_
      dsimp only
      split
      · exact .pure rfl rfl
      · exact .pure rfl rfl
  | conditionalPercentage config =>
      exact config.evaluate_alike attributes (agree config.selector List.mem_cons_self)
        (agree config.base (List.mem_cons_of_mem _ List.mem_cons_self))
  | percentageWithGate config =>
      exact config.evaluate_alike attributes (agree config.selector List.mem_cons_self)
        (agree config.base (List.mem_cons_of_mem _ List.mem_cons_self))
  | flatPercentage config =>
      refine .read (agree config.metric List.mem_cons_self) .empty [] []
        fun value inputs => ?_
      exact .pure rfl rfl

/-- A metric is resolved from its value alone. -/
theorem InputSource.resolve_metric_eq {name : String}
    (agree : metrics.valueOf name = other.valueOf name) (attributes : Attributes)
    (prior : List Float) (used : StringMap Float) :
    (metric name).resolve ⟨⟨metrics, attributes⟩, prior⟩ used =
      (metric name).resolve ⟨⟨other, attributes⟩, prior⟩ used := by
  rw [resolve, resolve, agree]

theorem ConditionalRate.execute_ofBuckets_eq (config : BucketedRate) (attributes : Attributes)
    (selectorAgrees : metrics.valueOf config.selector = other.valueOf config.selector)
    (baseAgrees : metrics.valueOf config.base = other.valueOf config.base) (prior : List Float)
    (trace : IntentTrace) :
    (IntentOperation.conditionalRate (.ofBuckets config)).execute ⟨⟨metrics, attributes⟩, prior⟩
        trace =
      (IntentOperation.conditionalRate (.ofBuckets config)).execute ⟨⟨other, attributes⟩, prior⟩
        trace := by
  simp only [IntentOperation.execute, ConditionalRate.ofBuckets,
    InputSource.resolve_metric_eq selectorAgrees, InputSource.resolve_metric_eq baseAgrees]

theorem IntentOperation.execute_ofConfig_eq {config : ComponentConfig} (attributes : Attributes)
    (agree : metrics.AgreeOn config.metrics other) (prior : List Float) (trace : IntentTrace) :
    (ofConfig config).execute ⟨⟨metrics, attributes⟩, prior⟩ trace =
      (ofConfig config).execute ⟨⟨other, attributes⟩, prior⟩ trace := by
  cases config with
  | tierLookup config | percentage config | flatPercentage config =>
      have same := InputSource.resolve_metric_eq (agree config.metric List.mem_cons_self)
      simp only [ofConfig, execute, same]
  | matrixLookup config =>
      have sameRow := InputSource.resolve_metric_eq (agree config.rowMetric List.mem_cons_self)
      have sameColumn := InputSource.resolve_metric_eq
        (agree config.columnMetric (List.mem_cons_of_mem _ List.mem_cons_self))
      simp only [ofConfig, execute, sameRow, sameColumn]
  | conditionalPercentage config | percentageWithGate config =>
      exact ConditionalRate.execute_ofBuckets_eq config attributes
        (agree config.selector List.mem_cons_self)
        (agree config.base (List.mem_cons_of_mem _ List.mem_cons_self)) prior trace

/-- On both maps a component has the same fault, or results that differ in nothing but what they
list as missing. -/
theorem Component.evaluate_cases (component : Component) (attributes : Attributes)
    (agree : metrics.AgreeOn component.config.metrics other) :
    (∃ fault, component.evaluate ⟨metrics, attributes⟩ = .error fault ∧
      component.evaluate ⟨other, attributes⟩ = .error fault) ∨
    ∃ result, component.evaluate ⟨metrics, attributes⟩ = .ok result ∧
      result.explanation.missingMetrics = component.missing metrics ∧
      component.evaluate ⟨other, attributes⟩ =
        .ok (result.withMissing (component.missing other)) := by
  unfold Component.evaluate Component.missing
  cases component.enabled with
  | false => exact .inr ⟨_, rfl, rfl, rfl⟩
  | true =>
      have alike := ComponentConfig.evaluate_alike attributes agree
      simp only [if_true]
      generalize component.config.evaluate ⟨metrics, attributes⟩ = evaluated at alike
      generalize component.config.evaluate ⟨other, attributes⟩ = otherEvaluated at alike
      cases alike with
      | paid lists => exact .inr ⟨_, rfl, lists, rfl⟩
      | fault fault => exact .inl ⟨fault, rfl, rfl⟩

end TwoMaps

/-- Of two maps that give the metrics named by a component the same values, be they there or read
as zero, a component makes the same: the same fault, or the same result but for the missing
metrics, which are the named ones that are not there, in the order in which they are read. Its
intent makes no difference at all. No other metric matters to either. -/
theorem Component.evaluate_of_agreeOn (component : Component) (attributes : Attributes)
    {metrics other : MetricMap} (agree : metrics.AgreeOn component.config.metrics other) :
    (∀ fault, component.evaluate ⟨metrics, attributes⟩ = .error fault ↔
      component.evaluate ⟨other, attributes⟩ = .error fault) ∧
    (∀ result, component.evaluate ⟨metrics, attributes⟩ = .ok result →
      result.explanation.missingMetrics = component.missing metrics ∧
      component.evaluate ⟨other, attributes⟩ =
        .ok (result.withMissing (component.missing other))) ∧
    ∀ index prior,
      (ComponentIntent.ofComponent component index).execute ⟨metrics, attributes⟩ prior =
        (ComponentIntent.ofComponent component index).execute ⟨other, attributes⟩ prior := by
  have intents (index : Nat) (prior : List Float) :
      (ComponentIntent.ofComponent component index).execute ⟨metrics, attributes⟩ prior =
        (ComponentIntent.ofComponent component index).execute ⟨other, attributes⟩ prior := by
    unfold ComponentIntent.execute
    split
    · exact IntentOperation.execute_ofConfig_eq attributes agree prior _
    · rfl
  obtain ⟨fault, failed, otherFailed⟩ | ⟨result, paid, lists, otherPaid⟩ :=
    component.evaluate_cases attributes agree
  · refine ⟨fun other => by rw [failed, otherFailed], fun result paid => ?_, intents⟩
    rw [failed] at paid
    cases paid
  · refine ⟨fun fault => ?_, fun found same => ?_, intents⟩
    · rw [paid, otherPaid]
      exact iff_of_false nofun nofun
    · rw [paid] at same
      cases same
      exact ⟨lists, otherPaid⟩

/-- A rate on revenue, chosen by revenue itself. -/
def selfGated : Component where
  id := "self-gated"
  name := "Self-gated"
  ordinal := 1
  enabled := true
  config := .percentageWithGate
    { selector := "revenue"
      base := "revenue"
      buckets := [⟨⟨-1.0, some 1.0, none⟩, 0.5⟩, ⟨⟨1.0, none, none⟩, 0.25⟩] }

/-- Without any metrics it pays what it pays on a revenue of zero, with an unnamed metric that is
no number beside it, and lists its metric twice. -/
theorem selfGated_evaluate :
    let zero : MetricMap := .ofList [("margin", 0.0 / 0.0), ("revenue", 0.0)]
    MetricMap.AgreeOn selfGated.config.metrics .empty zero ∧
      ∃ result, selfGated.evaluate ⟨.empty, .empty⟩ = .ok result ∧ result.payout = 0.0 ∧
        result.explanation.missingMetrics = ["revenue", "revenue"] ∧
        selfGated.evaluate ⟨zero, .empty⟩ = .ok (result.withMissing []) := by
  intro zero
  have agree : MetricMap.AgreeOn selfGated.config.metrics .empty zero := by
    intro name named
    obtain rfl : name = "revenue" := by simpa [selfGated, ComponentConfig.metrics] using named
    decide
  have pays : ∃ result, selfGated.evaluate ⟨.empty, .empty⟩ = .ok result ∧ result.payout = 0.0 :=
    exists_of_map_decide (by decide)
  obtain ⟨result, evaluated, payout⟩ := pays
  exact ⟨agree, result, evaluated, payout,
    (selfGated.evaluate_of_agreeOn .empty agree).2.1 result evaluated⟩

end VariablePay
