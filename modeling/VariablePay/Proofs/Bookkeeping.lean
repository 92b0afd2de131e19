import VariablePay.Comparison
import VariablePay.Proofs.Intent.Order

set_option autoImplicit false

/-!
# The books of a comparison

Components and intents meet only by place: each component is held against the payout that is
executed at its place, whatever intent that is of, and leaves one event. Payouts beyond the last
component count in the total alone, and no intent has to belong to a component.
-/

namespace VariablePay

/-- A comparison of a component with the payout that was executed at its place, if there is one. -/
structure ComponentComparison.Pairs (comparison : ComponentComparison) (component : Component)
    (context : EntityContext) (payout? : Option Float) : Prop where
  componentId : comparison.componentId = component.id
  signature : comparison.signature = component.config.signature
  direct : comparison.direct = (component.result context).payout
  executed : comparison.executed = payout?.getD 0.0
  agrees : comparison.agrees = true ↔
    ∃ payout, payout? = some payout ∧ (comparison.direct - payout).abs < 0.01

/-- An event that tells of a comparison. -/
structure ConfidenceEvent.TellsOf (event : ConfidenceEvent) (comparison : ComponentComparison)
    (entityId : String) : Prop where
  signature : event.signature = comparison.signature
  entityId : event.entityId = entityId
  componentId : event.componentId = comparison.componentId
  agrees : event.agrees = comparison.agrees
  value : event.value = if comparison.agrees then 1.0 else 0.0
  delta : event.delta = (comparison.direct - comparison.executed).abs

/-- What the comparison of an entity says of components beside which intents are executed, and what
it leaves on a surface. -/
structure DualOutcome.KeepsBooks (outcome : DualOutcome) (components : List Component)
    (intents : List ComponentIntent) (context : EntityContext) (entityId : String)
    (surface : Surface) : Prop where
  /-- The intents are executed in the order of ordinals and indices, and each pays once. -/
  executed : (ComponentIntent.inOrder intents).Perm intents ∧
    (ComponentIntent.inOrder intents).Pairwise ComponentIntent.ComesBefore ∧
    outcome.executed.payouts.length = intents.length ∧
    ∀ (place : Nat) (intent : ComponentIntent),
      (ComponentIntent.inOrder intents)[place]? = some intent →
      ∃ trace, intent.Leaves context (outcome.executed.payouts.take place) trace ∧
        outcome.executed.payouts[place]? = some trace.payout
  /-- Each component is held against the payout at its place. -/
  paired : outcome.components.length = components.length ∧
    ∀ (place : Nat) (component : Component), components[place]? = some component →
      ∃ comparison, outcome.components[place]? = some comparison ∧
        comparison.Pairs component context outcome.executed.payouts[place]?
  /-- The surface gets one event of each component behind all that it has. -/
  recorded : ∃ events, List.Forall₂ (fun comparison event => event.TellsOf comparison entityId)
      outcome.components events ∧
    surface.append (outcome.events entityId) = ⟨surface.prior, surface.events ++ events⟩ ∧
    (surface.append (outcome.events entityId)).eventCount =
      surface.eventCount + components.length ∧
    outcome.componentMismatches = events.countP fun event => !event.agrees
  /-- The verdict goes by the totals and by nothing else. -/
  verdict : outcome.direct.total =
      Payout.total (components.map fun component => (component.result context).payout) ∧
    outcome.executed.total = Payout.total outcome.executed.payouts ∧
    (outcome.agrees = true ↔ (outcome.direct.total - outcome.executed.total).abs < 0.01)

theorem Payout.agree_iff (left right : Float) :
    agree left right = true ↔ (left - right).abs < 0.01 := decide_eq_true_iff

theorem Component.componentId_result (component : Component) (context : EntityContext) :
    (component.result context).componentId = component.id := by
  unfold result evaluate
  cases component.enabled with
  | false => rfl
  | true => cases component.config.evaluate context <;> rfl

namespace ComponentComparison

theorem pairs_of (component : Component) (context : EntityContext) (payout? : Option Float) :
    (ComponentComparison.of (component.result context) component.config.signature payout?).Pairs
      component context payout? where
  componentId := component.componentId_result context
  signature := rfl
  direct := rfl
  executed := rfl
  agrees := by
    cases payout? with
    | none => simp [of]
    | some payout => simp [of, Payout.agree_iff]

theorem tellsOf_event (comparison : ComponentComparison) (entityId : String) :
    (comparison.event entityId).TellsOf comparison entityId := by
  constructor <;> rfl

end ComponentComparison

namespace DualOutcome

variable (outcome : DualOutcome) (entityId : String)

theorem events_tellOf :
    List.Forall₂ (fun comparison event => event.TellsOf comparison entityId)
      outcome.components (outcome.events entityId) :=
  List.forall₂_map_right_iff.mpr (List.forall₂_same.mpr fun comparison _ =>
    comparison.tellsOf_event entityId)

theorem componentMismatches_eq_countP :
    outcome.componentMismatches = (outcome.events entityId).countP fun event => !event.agrees := by
  rw [events, List.countP_map]
  rfl

end DualOutcome

theorem Evaluation.total_of (components : List Component) (context : EntityContext) :
    (Evaluation.of components context).total =
      Payout.total (components.map fun component => (component.result context).payout) := by
  rw [Evaluation.of, List.map_map]
  rfl

namespace PreparedVariant

variable (variant : Variant) (intents : List ComponentIntent) (context : EntityContext)

/-- A variant with other intents in the place of those of its components. -/
def withIntents : PreparedVariant := { of variant with intents := intents }

theorem getElem?_components_compare {place : Nat} {component : Component}
    (stands : variant.components[place]? = some component) :
    ((withIntents variant intents).compare context).components[place]? =
      some (.of (component.result context) component.config.signature
        (Execution.of intents context).payouts[place]?) := by
  simp [compare, withIntents, of, Evaluation.of, List.zip_map', stands]

theorem length_components_compare :
    ((withIntents variant intents).compare context).components.length =
      variant.components.length := by
  simp [compare, withIntents, of, Evaluation.of]

end PreparedVariant

namespace Execution

variable {intents : List ComponentIntent} (context : EntityContext)

theorem length_payouts : (Execution.of intents context).payouts.length = intents.length :=
  List.length_map _ |>.trans length_traces

theorem getElem?_payouts {place : Nat} {intent : ComponentIntent}
    (stands : (ComponentIntent.inOrder intents)[place]? = some intent) :
    ∃ trace, intent.Leaves context ((Execution.of intents context).payouts.take place) trace ∧
      (Execution.of intents context).payouts[place]? = some trace.payout := by
  refine ⟨_, ComponentIntent.leaves_trace intent _, ?_⟩
  change ((Execution.of intents context).traces.map IntentTrace.payout)[place]? = _
  rw [List.getElem?_map, getElem?_traces stands]
  rfl

/-- Intents that stand in their order are executed as they stand. -/
theorem of_eq_of_pairwise (ordered : intents.Pairwise fun left right => left.precedes right) :
    Execution.of intents context =
      let traces := ComponentIntent.tracesFrom context [] intents
      ⟨traces, traces.map IntentTrace.payout, Payout.total (traces.map IntentTrace.payout)⟩ := by
  rw [Execution.of, List.mergeSort_of_pairwise ordered]

end Execution

/-- Half of the revenue and half of the margin. -/
def salesVariant : Variant where
  id := "base"
  name := "Base"
  eligibility := none
  isDefault := true
  components := [
    { id := "revenue", name := "Revenue", ordinal := 1, enabled := true
      config := .flatPercentage ⟨"revenue", 0.5⟩ },
    { id := "margin", name := "Margin", ordinal := 2, enabled := true
      config := .flatPercentage ⟨"margin", 0.5⟩ }]

/-- An intent that pays half of a metric. -/
def halfOf (metric : String) (ordinal : UInt32) : ComponentIntent where
  componentId := metric
  kind := .flatPercentage
  ordinal := ordinal
  index := 0
  enabled := true
  operation := .scalarMultiply ⟨.metric metric, 0.5, none⟩

/-- Whatever the components of a variant are, and whatever intents are executed beside them, the
comparison of an entity keeps its books by place. So the totals can agree where no component does,
and disagree where all do. -/
theorem PreparedVariant.compare_keepsBooks :
    (∀ (variant : Variant) (intents : List ComponentIntent) (context : EntityContext)
        (entityId : String) (surface : Surface),
      ((withIntents variant intents).compare context).KeepsBooks variant.components intents
        context entityId surface) ∧
    (∃ variant intents context,
      let outcome := (withIntents variant intents).compare context
      outcome.agrees = true ∧ 0 < outcome.components.length ∧
        ∀ comparison ∈ outcome.components, comparison.agrees = false) ∧
    ∃ variant intents context,
      let outcome := (withIntents variant intents).compare context
      outcome.agrees = false ∧ 0 < outcome.components.length ∧
        ∀ comparison ∈ outcome.components, comparison.agrees = true := by
  let context : EntityContext := ⟨.ofList [("revenue", 300.0), ("margin", 100.0)], .empty⟩
  refine ⟨fun variant intents context entityId surface => ?_, ?exchanged, ?surplus⟩
  case exchanged =>
    have ordered : [halfOf "margin" 1, halfOf "revenue" 2].Pairwise fun left right =>
        left.precedes right := by decide
    refine ⟨salesVariant, [halfOf "margin" 1, halfOf "revenue" 2], context, ?_⟩
    unfold compare withIntents
    dsimp only
    rw [Execution.of_eq_of_pairwise context ordered]
    decide +kernel
  case surplus =>
    have ordered : [halfOf "revenue" 1, halfOf "margin" 2, halfOf "margin" 3].Pairwise
        fun left right => left.precedes right := by decide
    refine ⟨salesVariant, [halfOf "revenue" 1, halfOf "margin" 2, halfOf "margin" 3], context, ?_⟩
    unfold compare withIntents
    dsimp only
    rw [Execution.of_eq_of_pairwise context ordered]
    decide +kernel
  constructor
  case executed =>
    exact ⟨ComponentIntent.inOrder_perm intents, ComponentIntent.pairwise_inOrder intents,
      Execution.length_payouts context, fun place intent stands =>
        Execution.getElem?_payouts context stands⟩
  case paired =>
    refine ⟨length_components_compare variant intents context, ?_⟩
    intro place component stands
    exact ⟨_, getElem?_components_compare variant intents context stands,
      ComponentComparison.pairs_of component context _⟩
  case recorded =>
    refine ⟨_, DualOutcome.events_tellOf _ entityId, rfl, ?_,
      DualOutcome.componentMismatches_eq_countP _ entityId⟩
    rw [Surface.eventCount, Surface.append, List.length_append, DualOutcome.events,
      List.length_map, length_components_compare]
    rfl
  case verdict =>
    exact ⟨Evaluation.total_of variant.components context, rfl, Payout.agree_iff _ _⟩

end VariablePay
