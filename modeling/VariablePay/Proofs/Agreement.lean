import VariablePay.Comparison
import VariablePay.Proofs.Double.Finite
import VariablePay.Proofs.DualPath

set_option autoImplicit false

/-!
# When both ways are reported to agree

Both ways of a checked variant pay the same to the bit, but payouts are compared by their
difference, and an infinite payout differs from itself. The comparison reports agreement of a
component just when its payout is finite, and agreement throughout just when the total is finite.
-/

namespace VariablePay

namespace Variant.Checked

variable {variant : Variant}

theorem executed_total_eq (checked : variant.Checked) (context : EntityContext) :
    ((PreparedVariant.of variant).compare context).executed.total =
      ((PreparedVariant.of variant).compare context).direct.total :=
  congrArg Payout.total (checked.execution_payouts_eq context)

theorem compare_agrees_eq (checked : variant.Checked) (context : EntityContext) :
    ((PreparedVariant.of variant).compare context).agrees =
      ((PreparedVariant.of variant).compare context).direct.total.isFinite := by
  change Payout.agree _ ((PreparedVariant.of variant).compare context).executed.total = _
  rw [checked.executed_total_eq context]
  exact Payout.agree_self _

/-- A component of a checked variant is reported to agree just when its payout is finite. -/
theorem compare_component_agrees_eq (checked : variant.Checked) (context : EntityContext)
    {comparison : ComponentComparison}
    (member : comparison ∈ ((PreparedVariant.of variant).compare context).components) :
    comparison.agrees = comparison.direct.isFinite ∧
      comparison.direct ∈ (Evaluation.of variant.components context).results.map
        ComponentResult.payout := by
  obtain ⟨index, inZip, rfl⟩ := List.mem_mapIdx.mp member
  have inResults : index < (Evaluation.of variant.components context).results.length := by
    rw [List.length_zip] at inZip
    exact Nat.lt_of_lt_of_le inZip (Nat.min_le_left _ _)
  have executed : (Execution.of (PreparedVariant.of variant).intents context).payouts[index]? =
      some ((Evaluation.of variant.components context).results[index]).payout := by
    change
      (Execution.of (ComponentIntent.ofComponents variant.components) context).payouts[index]? = _
    rw [checked.execution_payouts_eq context, List.getElem?_map,
      List.getElem?_eq_getElem inResults, Option.map_some]
  rw [executed, List.getElem_zip]
  refine ⟨Payout.agree_self _, List.mem_map.mpr ⟨_, List.getElem_mem inResults, rfl⟩⟩

end Variant.Checked

/-- For every variant of a validated rule set, and whatever the metrics and attributes are, the
comparison reports agreement of the totals and of every component, and every event says so, just
when the total is finite. -/
theorem RuleSet.compare_agrees_iff_total_isFinite {ruleSet valid : RuleSet}
    (accepted : ruleSet.validated = .ok valid) {variant : Variant}
    (member : variant ∈ valid.variants) (context : EntityContext) (entityId : String) :
    let outcome := (PreparedVariant.of variant).compare context
    (outcome.agrees = true ∧ outcome.componentMismatches = 0 ∧
        ∀ event ∈ outcome.events entityId, event.agrees = true) ↔
      outcome.direct.total.isFinite = true := by
  have checked := checked_of_validated accepted member
  intro outcome
  have totals : outcome.agrees = outcome.direct.total.isFinite := checked.compare_agrees_eq context
  constructor
  · intro ⟨agrees, _⟩
    rw [← totals]
    exact agrees
  · intro finite
    have everyAgrees : ∀ comparison ∈ outcome.components, comparison.agrees = true := by
      intro comparison inComponents
      obtain ⟨agrees, inPayouts⟩ := checked.compare_component_agrees_eq context inComponents
      rw [agrees]
      exact Payout.isFinite_of_total finite _ inPayouts
    refine ⟨totals.trans finite, ?_, ?_⟩
    · refine List.countP_eq_zero.mpr fun comparison inComponents => ?_
      simp [everyAgrees comparison inComponents]
    · intro event inEvents
      obtain ⟨comparison, inComponents, rfl⟩ := List.mem_map.mp inEvents
      exact everyAgrees comparison inComponents

/-- A variant with one rate, on a metric without bound. -/
def shareVariant : Variant where
  id := "base"
  name := "Base"
  eligibility := none
  isDefault := true
  components := [
    { id := "share", name := "Share", ordinal := 1, enabled := true
      config := .flatPercentage ⟨"revenue", 10.0⟩ }]

def shareRuleSet : RuleSet := ⟨"plan", "Plan", [shareVariant]⟩

theorem shareRuleSet_validated : shareRuleSet.validated = .ok shareRuleSet := by
  have sorted : shareVariant.inOrder = shareVariant := by
    simp [Variant.inOrder, shareVariant]
  have accepted : shareRuleSet.validated =
    .ok { shareRuleSet with variants := [shareVariant.inOrder] } := rfl
  rw [accepted, sorted]
  rfl

theorem shareRuleSet_compare_agrees :
    let context : EntityContext := ⟨.ofList [("revenue", 300.0)], .empty⟩
    let outcome := (PreparedVariant.of shareVariant).compare context
    shareRuleSet.validated = .ok shareRuleSet ∧ shareVariant ∈ shareRuleSet.variants ∧
      outcome.agrees = true ∧ outcome.componentMismatches = 0 ∧
        ∀ event ∈ outcome.events "entity", event.agrees = true := by
  have member : shareVariant ∈ shareRuleSet.variants := List.mem_singleton.mpr rfl
  have finite : ((PreparedVariant.of shareVariant).compare
      ⟨.ofList [("revenue", 300.0)], .empty⟩).direct.total.isFinite = true := by
    decide +kernel
  exact ⟨shareRuleSet_validated, member, (RuleSet.compare_agrees_iff_total_isFinite
    shareRuleSet_validated member _ "entity").mpr finite⟩

/-- Both ways pay the same infinite amount, and are reported to disagree. -/
theorem shareRuleSet_compare_disagrees_on_overflow :
    let context : EntityContext := ⟨.ofList [("revenue", 1e308)], .empty⟩
    let outcome := (PreparedVariant.of shareVariant).compare context
    shareRuleSet.validated = .ok shareRuleSet ∧ shareVariant ∈ shareRuleSet.variants ∧
      outcome.executed.payouts = outcome.direct.results.map ComponentResult.payout ∧
      outcome.agrees = false ∧ outcome.componentMismatches = 1 ∧
      ∃ event ∈ outcome.events "entity", event.agrees = false := by
  refine ⟨shareRuleSet_validated, List.mem_singleton.mpr rfl, ?_, ?_, ?_, ?_⟩
  · decide +kernel
  · decide +kernel
  · decide +kernel
  · exact ⟨_, List.mem_singleton.mpr rfl, by decide +kernel⟩

end VariablePay
