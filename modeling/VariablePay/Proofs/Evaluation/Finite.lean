import VariablePay.Proofs.Agreement
import VariablePay.Proofs.Batch.Result

set_option autoImplicit false

/-!
# Numbers in explanations

An explanation names the metrics that were read, and only finite ones are, and a rate of the plan,
which was checked. All its numbers are finite, also where the payout is not.
-/

namespace VariablePay

theorem EvalFault.require_eq_ok_iff {α : Type} {fault : EvalFault} {value? : Option α} {value : α} :
    fault.require value? = .ok value ↔ value? = some value := by
  cases value? with
  | none => exact iff_of_false nofun nofun
  | some found =>
      constructor
      · intro same
        rw [Except.ok.inj same]
      · rintro ⟨rfl⟩
        rfl

namespace Explanation

variable {explanation after : Explanation}

private theorem inputs_insert (finite : explanation.IsFinite) (name : String) {value : Float}
    (valueFinite : value.isFinite = true) :
    ∀ entry ∈ (explanation.inputs.insert name value).entries, entry.2.isFinite = true :=
  @StringMap.forall_mem_insert _ (fun noted : Float => noted.isFinite = true) _ _ _ finite.inputs
    valueFinite

/-- A metric that is read is noted as a finite number. -/
theorem IsFinite.read (finite : explanation.IsFinite) {metrics : MetricMap} {name : String}
    {value : Float} (read : explanation.read metrics name = .ok (value, after)) :
    after.IsFinite := by
  unfold Explanation.read at read
  cases found : metrics.get? name with
  | none =>
      rw [found] at read
      cases read
      exact ⟨inputs_insert finite name (by decide), finite.rate⟩
  | some metric =>
      rw [found] at read
      dsimp only at read
      split at read
      · rename_i metricFinite
        cases read
        exact ⟨inputs_insert finite name metricFinite, finite.rate⟩
      · cases read

private theorem rate_some {rate : Float} (finite : rate.isFinite = true) :
    ∀ named ∈ some rate, named.isFinite = true := by
  intro named same
  cases same
  exact finite

end Explanation

private theorem bucketedRate_isFinite {config : BucketedRate} (checked : config.Checked)
    {context : EntityContext} {payout : Float} {explanation : Explanation}
    (evaluated : config.evaluate context = .ok (payout, explanation)) :
    explanation.IsFinite := by
  obtain ⟨⟨_, selectorNoted⟩, selectorRead, evaluated⟩ := bind_eq_ok_iff.mp evaluated
  obtain ⟨⟨_, noted⟩, baseRead, evaluated⟩ := bind_eq_ok_iff.mp evaluated
  obtain ⟨matched, _, evaluated⟩ := bind_eq_ok_iff.mp evaluated
  obtain ⟨bucket, found, evaluated⟩ := bind_eq_ok_iff.mp evaluated
  have finite := (Explanation.isFinite_empty.read selectorRead).read baseRead
  have member := List.mem_of_getElem? (EvalFault.require_eq_ok_iff.mp found)
  cases evaluated
  exact ⟨finite.inputs, Explanation.rate_some (checked.rates bucket member)⟩

/-- What a checked configuration is evaluated to is explained by finite numbers. -/
private theorem config_isFinite {config : ComponentConfig} (checked : config.Checked)
    {context : EntityContext} {payout : Float} {explanation : Explanation}
    (evaluated : config.evaluate context = .ok (payout, explanation)) :
    explanation.IsFinite := by
  cases config with
  | tierLookup config =>
      obtain ⟨⟨_, noted⟩, metricRead, evaluated⟩ := bind_eq_ok_iff.mp evaluated
      obtain ⟨matched, _, evaluated⟩ := bind_eq_ok_iff.mp evaluated
      obtain ⟨tier, _, evaluated⟩ := bind_eq_ok_iff.mp evaluated
      have finite := Explanation.isFinite_empty.read metricRead
      cases evaluated
      exact ⟨finite.inputs, finite.rate⟩
  | matrixLookup config =>
      obtain ⟨⟨_, rowNoted⟩, rowRead, evaluated⟩ := bind_eq_ok_iff.mp evaluated
      obtain ⟨⟨_, noted⟩, columnRead, evaluated⟩ := bind_eq_ok_iff.mp evaluated
      obtain ⟨⟨key, grid⟩, _, evaluated⟩ := bind_eq_ok_iff.mp evaluated
      obtain ⟨row, _, evaluated⟩ := bind_eq_ok_iff.mp evaluated
      obtain ⟨column, _, evaluated⟩ := bind_eq_ok_iff.mp evaluated
      obtain ⟨cell, _, evaluated⟩ := bind_eq_ok_iff.mp evaluated
      have finite := (Explanation.isFinite_empty.read rowRead).read columnRead
      cases evaluated
      exact ⟨finite.inputs, finite.rate⟩
  | percentage config =>
      obtain ⟨rateFinite, _⟩ := checked
      obtain ⟨⟨base, noted⟩, baseRead, evaluated⟩ := bind_eq_ok_iff.mp evaluated
      have finite := Explanation.isFinite_empty.read baseRead
      have rate := Explanation.rate_some rateFinite
      dsimp only at evaluated
      split at evaluated
      · cases evaluated
        exact ⟨finite.inputs, rate⟩
      · cases evaluated
        exact ⟨finite.inputs, rate⟩
  | conditionalPercentage config =>
      exact bucketedRate_isFinite checked evaluated
  | percentageWithGate config =>
      exact bucketedRate_isFinite checked evaluated
  | flatPercentage config =>
      obtain ⟨⟨base, noted⟩, baseRead, evaluated⟩ := bind_eq_ok_iff.mp evaluated
      have finite := Explanation.isFinite_empty.read baseRead
      cases evaluated
      exact ⟨finite.inputs, Explanation.rate_some checked⟩

/-- The result of a checked component is explained by finite numbers. -/
theorem Component.explanation_isFinite {component : Component}
    (valid : component.validate = .ok ()) (context : EntityContext) :
    (component.result context).explanation.IsFinite := by
  unfold result evaluate
  cases component.enabled with
  | false => exact ⟨nofun, nofun⟩
  | true =>
      simp only [if_true]
      cases evaluated : component.config.evaluate context with
      | error fault => exact ⟨nofun, nofun⟩
      | ok done => exact config_isFinite (Component.checked_of_validate valid) evaluated

private theorem traces_isFinite {results : List ComponentResult} {traces : List IntentTrace}
    (accords : List.Forall₂ ComponentResult.AccordsWith results traces)
    (finite : ∀ result ∈ results, result.IsFinite) : ∀ trace ∈ traces, trace.IsFinite := by
  induction accords with
  | nil => nofun
  | cons accord _ ih =>
      obtain ⟨first, rest⟩ := List.forall_mem_cons.mp finite
      refine List.forall_mem_cons.mpr ⟨⟨?_, ?_, ?_⟩, ih rest⟩
      · rw [← accord.payout]
        exact first.payout
      · rw [← accord.explanation.inputs]
        exact first.explanation.inputs
      · rw [← accord.explanation.rate]
        exact first.explanation.rate

/-- If the total of an entity is finite, so are all numbers of its result. -/
theorem Variant.Checked.result_isFinite {variant : Variant} (checked : variant.Checked)
    {context : EntityContext}
    (finite : ((PreparedVariant.of variant).compare context).direct.total.isFinite = true)
    (entityId variantId : String) :
    (EntityResult.of entityId variantId
      ((PreparedVariant.of variant).compare context)).IsFinite := by
  have components : ∀ component ∈ (Evaluation.of variant.components context).results,
      component.IsFinite := by
    intro result member
    refine ⟨Payout.isFinite_of_total finite _ (List.mem_map_of_mem member), ?_⟩
    obtain ⟨component, inVariant, rfl⟩ := List.mem_map.mp member
    exact Component.explanation_isFinite (checked.valid component inVariant) context
  constructor
  · exact components
  · change ((PreparedVariant.of variant).compare context).executed.total.isFinite = true
    rw [checked.executed_total_eq]
    exact finite
  · exact traces_isFinite (checked.execution_accords context) components

end VariablePay
