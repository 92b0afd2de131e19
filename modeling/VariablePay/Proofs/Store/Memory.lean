import VariablePay.Proofs.Run.Served
import VariablePay.Proofs.Store.Keeping
import VariablePay.Store.Memory

set_option autoImplicit false

/-!
# What a store in memory serves

No call touches the plans, entities and rows of a store in memory, so it serves them from any state
that it comes to.
-/

namespace VariablePay.MemoryStore

open Activity

def lists (store : MemoryStore) : List RuleSet × List AssignedEntity × List MetricRow :=
  (store.ruleSets, store.entities, store.rows)

theorem serve_keeps {α : Type} {call : StoreCall} {change : MemoryStore → MemoryStore}
    {view : MemoryStore → α} (keeps : ∀ store, (change store).lists = store.lists) :
    (serve call change view).Keeps lists := by
  intro store
  rw [serve]
  split
  · rfl
  · exact keeps _

theorem serve_answers {α : Type} {call : StoreCall} (given : MemoryStore) (view : MemoryStore → α)
    (same : ∀ {store : MemoryStore}, store.lists = given.lists → view store = view given) :
    (serve call id view).Answers (fun store => store.lists = given.lists) (· = view given) := by
  intro store value after starts yields
  have kept := (serve_keeps fun _ => rfl : (serve call id view).Keeps lists) store
  rw [yields.state] at kept
  refine ⟨?_, kept.trans starts⟩
  have result := yields.result
  rw [serve] at result
  split at result
  · cases result
  · cases result
    exact same starts

theorem asStore_keeps : asStore.Keeps lists where
  loadRuleSet _ := serve_keeps fun _ => rfl
  loadEntities _ _ _ := serve_keeps fun _ => rfl
  loadRows _ _ _ := serve_keeps fun _ => rfl
  loadDensity _ := serve_keeps fun _ => rfl
  saveBatch _ := serve_keeps fun _ => rfl
  saveCompleted _ _ := serve_keeps fun _ => rfl
  saveDensity _ _ := serve_keeps fun _ => rfl
  saveSignals _ := serve_keeps fun _ => rfl

/-- Whatever its density and its record of calls, a store in memory serves its lists. -/
theorem asStore_serves (store : MemoryStore) (request : RunRequest) :
    asStore.Serves request (store.ruleSets.find? fun ruleSet => ruleSet.id == request.ruleSetId)
      store.entities store.rows fun other => other.lists = store.lists where
  saveBatch := by
    intro before _ after starts yields
    have kept := asStore_keeps.saveBatch request.startBatch before
    rw [yields.state] at kept
    exact ⟨trivial, kept.trans starts⟩
  loadRuleSet := serve_answers store (fun other => other.ruleSets.find? _) fun same => by
    rw [(Prod.mk.inj same).1]
  loadEntities page := serve_answers store (fun other => page.slice other.entities) fun same => by
    rw [(Prod.mk.inj (Prod.mk.inj same).2).1]
  loadRows page := serve_answers store (fun other => page.slice other.rows) fun same => by
    rw [(Prod.mk.inj (Prod.mk.inj same).2).2]

end VariablePay.MemoryStore
