import VariablePay.Proofs.Store.Steps
import VariablePay.Run.Basic

set_option autoImplicit false

/-!
# Activities that only look

An activity may look at a part of the state and leave all of it alone. The loading of a run is such
an activity if the loads of its store are.
-/

namespace VariablePay

namespace Activity

variable {ε ε' σ τ α β : Type} {view : σ → τ}

/-- An activity leaves the state alone, and its result depends only on a part of it. -/
structure LooksAt (activity : Activity ε σ α) (view : σ → τ) : Prop where
  state_eq : ∀ before, (activity before).state = before
  result_eq : ∀ {before other}, view before = view other →
    (activity before).result = (activity other).result

namespace LooksAt

theorem pure (value : α) : (Activity.pure value : Activity ε σ α).LooksAt view :=
  ⟨fun _ => rfl, fun _ => rfl⟩

theorem fail (fault : ε) : (Activity.fail fault : Activity ε σ α).LooksAt view :=
  ⟨fun _ => rfl, fun _ => rfl⟩

theorem tell (notes : List Note) : (Activity.tell notes : Activity ε σ Unit).LooksAt view :=
  ⟨fun _ => rfl, fun _ => rfl⟩

theorem ofExcept (result : Except ε α) :
    (Activity.ofExcept result : Activity ε σ α).LooksAt view := ⟨fun _ => rfl, fun _ => rfl⟩

theorem yields {activity : Activity ε σ α} (looks : activity.LooksAt view) (before : σ) :
    activity.Yields before (activity before).result before := ⟨rfl, looks.state_eq before⟩

theorem yields_of_view {activity : Activity ε σ α} (looks : activity.LooksAt view)
    {before other : σ} (seen : view before = view other) :
    activity.Yields other (activity before).result other :=
  ⟨(looks.result_eq seen).symm, looks.state_eq other⟩

theorem bind {activity : Activity ε σ α} {next : α → Activity ε σ β}
    (first : activity.LooksAt view) (rest : ∀ value, (next value).LooksAt view) :
    (Activity.bind activity next).LooksAt view where
  state_eq before := by
    have here := first.yields before
    cases result : (activity before).result with
    | error fault =>
        rw [result] at here
        exact here.bind_error.state
    | ok value =>
        rw [result] at here
        exact (here.bind ((rest value).yields before)).state
  result_eq {before other} seen := by
    have here := first.yields before
    have there := first.yields_of_view seen
    cases result : (activity before).result with
    | error fault =>
        rw [result] at here there
        exact here.bind_error.result.trans there.bind_error.result.symm
    | ok value =>
        rw [result] at here there
        exact (here.bind ((rest value).yields before)).result.trans
          (there.bind ((rest value).yields_of_view seen)).result.symm

theorem mapError {activity : Activity ε σ α} (rename : ε → ε') (looks : activity.LooksAt view) :
    (activity.mapError rename).LooksAt view where
  state_eq := looks.state_eq
  result_eq seen := congrArg (Except.mapError rename) (looks.result_eq seen)

theorem drainFrom? {fetch : Page → Activity ε σ (List α)}
    (looks : ∀ page, (fetch page).LooksAt view) (bound : Nat) (page : Page) :
    (Activity.drainFrom? fetch bound page).LooksAt view := by
  induction bound generalizing page with
  | zero => exact .pure none
  | succ bound ih =>
      refine .bind (looks page) fun items => ?_
      split
      · exact .pure _
      · exact .bind (ih page.next) fun rest? => .pure _

end LooksAt

end Activity

namespace Store

variable {σ τ : Type} {view : σ → τ}

private theorem loadAll_looksAt {α : Type} {fetch : Page → Activity Failure σ (List α)}
    (looks : ∀ page, (fetch page).LooksAt view) (bound size : Nat) :
    (loadAll fetch bound size).LooksAt view := by
  refine .bind (.mapError _ (.drainFrom? looks bound _)) fun items? => ?_
  cases items? with
  | none => exact .fail _
  | some items => exact .pure _

/-- Inputs are collected by looking only, if each load is. -/
theorem collectInputs_looksAt {store : Store σ}
    (ruleSets : ∀ ruleSetId, (store.loadRuleSet ruleSetId).LooksAt view)
    (entities : ∀ ruleSetId tenantId page,
      (store.loadEntities ruleSetId tenantId page).LooksAt view)
    (rows : ∀ tenantId periodId page, (store.loadRows tenantId periodId page).LooksAt view)
    (density : ∀ tenantId, (store.loadDensity tenantId).LooksAt view) (config : CalcConfig)
    (pageBound : Nat) (batch : CalculationBatch) :
    (store.collectInputs config pageBound batch).LooksAt view := by
  refine .bind (.bind (.mapError _ (ruleSets _)) fun ruleSet? => ?_) fun ruleSet => ?_
  · cases ruleSet? with
    | none => exact .fail _
    | some ruleSet => exact .ofExcept _
  refine .bind (loadAll_looksAt (entities _ _) _ _) fun entities => ?_
  refine .bind (loadAll_looksAt (rows _ _) _ _) fun rows => ?_
  refine .bind (.mapError _ (density _)) fun prior => ?_
  exact .bind (.tell _) fun _ => .pure _

end Store

end VariablePay
