import VariablePay.Proofs.Agreement
import VariablePay.Run.Basic

set_option autoImplicit false

/-!
# What each entity of a run leaves

An entity is evaluated under the variant that applies to it. It leaves one event for each component
of that variant, which carries the signature of the component; those that do not agree are the
mismatches of its result.
-/

namespace VariablePay

namespace RuleSet

/-- The variant that an entity is evaluated under; without variants, one that has no components. -/
def appliedVariant (ruleSet : RuleSet) (attributes : Attributes) : Variant :=
  (ruleSet.variantFor? attributes).getD ⟨"", "", none, false, []⟩

theorem appliedVariant_checked {ruleSet valid : RuleSet}
    (accepted : ruleSet.validated = .ok valid) (attributes : Attributes) :
    (valid.appliedVariant attributes).Checked := by
  obtain ⟨variant, member, applies⟩ :=
    exists_variantFor? (variants_ne_nil_of_validated accepted) attributes
  rw [appliedVariant, applies]
  exact checked_of_validated accepted member

end RuleSet

theorem PreparedRuleSet.select_of (ruleSet : RuleSet) (attributes : Attributes) :
    (PreparedRuleSet.of ruleSet).select attributes = .of (ruleSet.appliedVariant attributes) := by
  unfold select RuleSet.appliedVariant RuleSet.variantFor? PreparedRuleSet.of
  dsimp only
  cases ruleSet.variantIndexFor? attributes with
  | none => rfl
  | some index =>
      rw [Option.bind_some, Option.bind_some, List.getElem?_map]
      cases ruleSet.variants[index]? <;> rfl

/-- The events of an entity carry the signatures of the components, in their order. -/
theorem PreparedVariant.signatures_compare (variant : Variant) (context : EntityContext)
    (entityId : String) :
    (((PreparedVariant.of variant).compare context).events entityId).map
        ConfidenceEvent.signature =
      variant.components.map fun component => component.config.signature := by
  have sameLength : (variant.components.map fun component => component.config.signature).length ≤
      (Evaluation.of variant.components context).results.length := by
    simp [Evaluation.of]
  rw [← List.map_snd_zip sameLength]
  refine List.ext_getElem? fun index => ?_
  simp only [DualOutcome.events, compare, List.getElem?_map, List.getElem?_mapIdx,
    Option.map_map]
  rfl

theorem DualOutcome.countP_add_componentMismatches (outcome : DualOutcome) (entityId : String) :
    (outcome.events entityId).countP ConfidenceEvent.agrees + outcome.componentMismatches =
      (outcome.events entityId).length := by
  unfold events componentMismatches
  rw [List.countP_map, List.length_map]
  rw [List.length_eq_countP_add_countP ComponentComparison.agrees]
  simp only [Bool.not_eq_true, Bool.decide_eq_false]
  rfl

namespace RunInputs

/-- What the entities of a run are evaluated to, in the order in which they are loaded. -/
def runs (inputs : RunInputs) (config : AggregationConfig) : List EntityRun :=
  inputs.entities.map ((PreparedRuleSet.of inputs.ruleSet).evaluate config inputs.rows)

def componentsOf (inputs : RunInputs) (entity : AssignedEntity) : List Component :=
  (inputs.ruleSet.appliedVariant entity.attributes).components

variable (inputs : RunInputs) (config : AggregationConfig)

theorem entityIds_runs :
    (inputs.runs config).map (fun run => run.result.entityId) =
      inputs.entities.map AssignedEntity.id := by
  rw [runs, List.map_map]
  rfl

/-- Both ways come to the same total for every entity, if the plan passed its checks. -/
theorem executedTotal_eq_of_mem_runs {plan : RuleSet}
    (accepted : plan.validated = .ok inputs.ruleSet) {run : EntityRun}
    (member : run ∈ inputs.runs config) :
    run.result.dualPath.executedTotal = run.result.total := by
  obtain ⟨entity, _, rfl⟩ := List.mem_map.mp member
  change (((PreparedRuleSet.of inputs.ruleSet).select entity.attributes).compare
      (entity.context config inputs.rows)).executed.total =
    (((PreparedRuleSet.of inputs.ruleSet).select entity.attributes).compare
      (entity.context config inputs.rows)).direct.total
  rw [PreparedRuleSet.select_of]
  exact (RuleSet.appliedVariant_checked accepted entity.attributes).executed_total_eq _

private theorem signatures_evaluate (entity : AssignedEntity) :
    ((PreparedRuleSet.of inputs.ruleSet).evaluate config inputs.rows entity).events.map
        ConfidenceEvent.signature =
      (inputs.componentsOf entity).map fun component => component.config.signature := by
  unfold PreparedRuleSet.evaluate
  dsimp only
  rw [PreparedRuleSet.select_of]
  exact PreparedVariant.signatures_compare _ _ _

/-- The events of a run carry the signatures of the components evaluated in it. -/
theorem signatures_events_runs :
    ((inputs.runs config).flatMap EntityRun.events).map ConfidenceEvent.signature =
      (inputs.entities.flatMap inputs.componentsOf).map fun component =>
        component.config.signature := by
  rw [runs, List.flatMap_map, List.map_flatMap, List.map_flatMap]
  simp only [signatures_evaluate]

private theorem countP_add_mismatches_evaluate (entity : AssignedEntity) :
    let run := (PreparedRuleSet.of inputs.ruleSet).evaluate config inputs.rows entity
    run.events.countP ConfidenceEvent.agrees + run.result.dualPath.componentMismatches =
      run.events.length :=
  DualOutcome.countP_add_componentMismatches _ _

/-- Every event of a run agrees or is a mismatch of the entity that it is about. -/
theorem countP_add_mismatches_runs :
    ((inputs.runs config).flatMap EntityRun.events).countP ConfidenceEvent.agrees +
        ((inputs.runs config).map fun run => run.result.dualPath.componentMismatches).sum =
      ((inputs.runs config).flatMap EntityRun.events).length := by
  unfold runs
  induction inputs.entities with
  | nil => rfl
  | cons entity rest ih =>
      rw [List.map_cons, List.flatMap_cons, List.map_cons, List.sum_cons, List.countP_append,
        List.length_append, ← ih, ← countP_add_mismatches_evaluate]
      exact Nat.add_add_add_comm _ _ _ _

end RunInputs

end VariablePay
