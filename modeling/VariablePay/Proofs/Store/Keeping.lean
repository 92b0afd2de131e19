import VariablePay.Run.Basic

set_option autoImplicit false

/-!
# Activities that leave a part of the state alone

What an activity does not touch, it leaves as it was, also where it fails.
-/

namespace VariablePay.Activity

variable {ε ε' σ τ α β : Type} {view : σ → τ}

/-- An activity leaves a part of the state as it is. -/
def Keeps (activity : Activity ε σ α) (view : σ → τ) : Prop :=
  ∀ before, view (activity before).state = view before

namespace Keeps

theorem pure (value : α) : (Activity.pure value : Activity ε σ α).Keeps view := fun _ => rfl

theorem fail (fault : ε) : (Activity.fail fault : Activity ε σ α).Keeps view := fun _ => rfl

theorem tell (notes : List Note) : (Activity.tell notes : Activity ε σ Unit).Keeps view :=
  fun _ => rfl

theorem modify {change : σ → σ} (keeps : ∀ state, view (change state) = view state) :
    (Activity.modify change : Activity ε σ Unit).Keeps view := keeps

theorem bind {activity : Activity ε σ α} {next : α → Activity ε σ β}
    (first : activity.Keeps view) (rest : ∀ value, (next value).Keeps view) :
    (Activity.bind activity next).Keeps view := by
  intro before
  have kept := first before
  unfold Activity.bind
  dsimp only
  cases (activity before).result with
  | error fault => exact kept
  | ok value => exact (rest value _).trans kept

theorem attempt {activity : Activity ε σ α} (keeps : activity.Keeps view) :
    (activity.attempt : Activity ε' σ _).Keeps view := keeps

theorem mapError {activity : Activity ε σ α} (rename : ε → ε') (keeps : activity.Keeps view) :
    (activity.mapError rename).Keeps view := keeps

theorem ofExcept (result : Except ε α) :
    (Activity.ofExcept result : Activity ε σ α).Keeps view := fun _ => rfl

theorem transaction {activity : Activity ε σ α} (keeps : activity.Keeps view) :
    activity.transaction.Keeps view := by
  intro before
  unfold Activity.transaction
  dsimp only
  cases (activity before).result with
  | error fault => rfl
  | ok value => exact keeps before

theorem forEach {activity : α → Activity ε σ Unit} (keeps : ∀ item, (activity item).Keeps view)
    (items : List α) : (Activity.forEach activity items).Keeps view := by
  induction items with
  | nil => exact .pure ()
  | cons item rest ih => exact .bind (keeps item) fun _ => ih

theorem drainFrom? {fetch : Page → Activity ε σ (List α)} (keeps : ∀ page, (fetch page).Keeps view)
    (bound : Nat) (page : Page) : (Activity.drainFrom? fetch bound page).Keeps view := by
  induction bound generalizing page with
  | zero => exact .pure none
  | succ bound ih =>
      refine .bind (keeps page) fun items => ?_
      split
      · exact .pure _
      · exact .bind (ih page.next) fun rest? => .pure _

end Keeps

end VariablePay.Activity

namespace VariablePay.Store

variable {σ τ : Type} {view : σ → τ}

/-- What the loads of a store leave alone, collecting inputs does. -/
theorem collectInputs_keeps {store : Store σ}
    (ruleSets : ∀ ruleSetId, (store.loadRuleSet ruleSetId).Keeps view)
    (entities : ∀ ruleSetId tenantId page,
      (store.loadEntities ruleSetId tenantId page).Keeps view)
    (rows : ∀ tenantId periodId page, (store.loadRows tenantId periodId page).Keeps view)
    (density : ∀ tenantId, (store.loadDensity tenantId).Keeps view) (config : CalcConfig)
    (pageBound : Nat) (batch : CalculationBatch) :
    (store.collectInputs config pageBound batch).Keeps view := by
  have all {α : Type} {fetch : Page → Activity Failure σ (List α)}
      (keeps : ∀ page, (fetch page).Keeps view) (size : Nat) :
      (loadAll fetch pageBound size).Keeps view := by
    refine .bind (.mapError _ (.drainFrom? keeps _ _)) fun items? => ?_
    cases items? with
    | none => exact .fail _
    | some items => exact .pure _
  refine .bind (.bind (.mapError _ (ruleSets _)) fun ruleSet? => ?_) fun ruleSet => ?_
  · cases ruleSet? with
    | none => exact .fail _
    | some ruleSet => exact .ofExcept _
  refine .bind (all (entities _ _) _) fun entities => .bind (all (rows _ _) _) fun rows => ?_
  exact .bind (.mapError _ (density _)) fun prior => .bind (.tell _) fun _ => .pure _

/-- What the writers of densities and signals leave alone, their dispatch does. -/
theorem dispatch_keeps {store : Store σ}
    (density : ∀ tenantId updates, (store.saveDensity tenantId updates).Keeps view)
    (signals : ∀ signals, (store.saveSignals signals).Keeps view) (batch : CalculationBatch)
    (consolidation : Consolidation) : (store.dispatch batch consolidation).Keeps view := by
  unfold dispatch
  refine .bind (.attempt (density _ _)) fun answer => ?_
  cases answer
  case' ok => refine .bind (.pure ()) fun _ => ?_
  case' error cause => refine .bind (.tell _) fun _ => ?_
  all_goals
    refine .bind (.attempt (signals _)) fun answer => ?_
    cases answer with
    | ok _ => exact .pure ()
    | error cause => exact .tell _

/-- No call of a store touches a part of its state. -/
structure Keeps (store : Store σ) (view : σ → τ) : Prop where
  loadRuleSet : ∀ ruleSetId, (store.loadRuleSet ruleSetId).Keeps view
  loadEntities : ∀ ruleSetId tenantId page,
    (store.loadEntities ruleSetId tenantId page).Keeps view
  loadRows : ∀ tenantId periodId page, (store.loadRows tenantId periodId page).Keeps view
  loadDensity : ∀ tenantId, (store.loadDensity tenantId).Keeps view
  saveBatch : ∀ batch, (store.saveBatch batch).Keeps view
  saveCompleted : ∀ batch results, (store.saveCompleted batch results).Keeps view
  saveDensity : ∀ tenantId updates, (store.saveDensity tenantId updates).Keeps view
  saveSignals : ∀ signals, (store.saveSignals signals).Keeps view

end VariablePay.Store
