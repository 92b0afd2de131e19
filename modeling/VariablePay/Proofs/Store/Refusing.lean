import VariablePay.Proofs.Store.Keeping
import VariablePay.Proofs.Store.Looking
import VariablePay.Proofs.Store.Steps
import VariablePay.Store.Memory

set_option autoImplicit false

/-!
# Stores that refuse calls

A store may refuse any of the calls of a run. A call that is refused does nothing; every other call
is answered as before. As no run makes the same call twice, the call alone tells whether it is
refused.
-/

namespace VariablePay

namespace Activity

variable {ε σ τ α : Type} {view : σ → τ} {activity : Activity ε σ α} {before after : σ}

/-- An activity that fails and does nothing where there is a refusal. -/
def withRefusal (refusal : Option ε) (activity : Activity ε σ α) : Activity ε σ α :=
  match refusal with
  | some fault => fail fault
  | none => activity

theorem Yields.of_withRefusal {refusal : Option ε} {value : α}
    (yields : (activity.withRefusal refusal).Yields before (.ok value) after) :
    activity.Yields before (.ok value) after := by
  cases refusal with
  | some fault => cases yields.result
  | none => exact yields

/-- A call that does nothing when it fails does nothing when it is refused either. -/
theorem Yields.state_of_withRefusal {refusal : Option ε} {fault : ε}
    (undone : activity.Yields before (.error fault) after → after = before)
    (yields : (activity.withRefusal refusal).Yields before (.error fault) after) :
    after = before := by
  cases refusal with
  | some refused => exact yields.state.symm
  | none => exact undone yields

theorem Keeps.withRefusal (keeps : activity.Keeps view) (refusal : Option ε) :
    (activity.withRefusal refusal).Keeps view := by
  cases refusal with
  | some fault => exact .fail fault
  | none => exact keeps

theorem LooksAt.withRefusal (looks : activity.LooksAt view) (refusal : Option ε) :
    (activity.withRefusal refusal).LooksAt view := by
  cases refusal with
  | some fault => exact .fail fault
  | none => exact looks

/-- Pages that are all given are drained as from a source that refuses none. -/
theorem Yields.drainFrom?_of_withRefusal {fetch : Page → Activity ε σ (List α)}
    {refusal? : Page → Option ε} {bound : Nat} {page : Page} {items : Option (List α)}
    (drained : (drainFrom? (fun page => (fetch page).withRefusal (refusal? page)) bound page).Yields
      before (.ok items) after) :
    (drainFrom? fetch bound page).Yields before (.ok items) after := by
  induction bound generalizing page before after items with
  | zero => exact drained
  | succ bound ih =>
      obtain ⟨first, middle, fetched, rest⟩ := drained.exists_of_bind
      refine .bind fetched.of_withRefusal ?_
      split at rest
      · rename_i short
        rw [if_pos short]
        exact rest
      · rename_i full
        rw [if_neg full]
        obtain ⟨later, last, drained, put⟩ := rest.exists_of_bind
        exact .bind (ih drained) put

end Activity

namespace Store

variable {σ : Type}

/-- The store that refuses some calls. -/
def refusing (store : Store σ) (refusal? : StoreCall → Option Failure) : Store σ where
  loadRuleSet ruleSetId :=
    (store.loadRuleSet ruleSetId).withRefusal (refusal? (.loadRuleSet ruleSetId))
  loadEntities ruleSetId tenantId page :=
    (store.loadEntities ruleSetId tenantId page).withRefusal (refusal? (.loadEntities page))
  loadRows tenantId periodId page :=
    (store.loadRows tenantId periodId page).withRefusal (refusal? (.loadRows page))
  loadDensity tenantId :=
    (store.loadDensity tenantId).withRefusal (refusal? (.loadDensity tenantId))
  saveBatch batch := (store.saveBatch batch).withRefusal (refusal? (.saveBatch batch))
  saveCompleted batch results :=
    (store.saveCompleted batch results).withRefusal (refusal? (.saveCompleted batch results))
  saveDensity tenantId updates :=
    (store.saveDensity tenantId updates).withRefusal (refusal? (.saveDensity updates))
  saveSignals signals := (store.saveSignals signals).withRefusal (refusal? (.saveSignals signals))

/-- A load of which no page is refused gives what it gives without refusals. -/
theorem loadAll_of_withRefusal {α : Type} {fetch : Page → Activity Failure σ (List α)}
    {refusal? : Page → Option Failure} {bound size : Nat} {items : List α} {before after : σ}
    (loaded : (loadAll (fun page => (fetch page).withRefusal (refusal? page)) bound size).Yields
      before (.ok items) after) :
    (loadAll fetch bound size).Yields before (.ok items) after := by
  obtain ⟨found, middle, drained, given⟩ := loaded.exists_of_bind
  exact .bindMapped drained.of_mapError.drainFrom?_of_withRefusal given

end Store

end VariablePay
