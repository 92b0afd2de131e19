import VariablePay.Proofs.Store.Paging
import VariablePay.Run.Basic

set_option autoImplicit false

/-!
# The inputs of a run

A run has its inputs once each of its four loads succeeds and the plan passes its checks.
-/

namespace VariablePay

namespace Store

open Activity

variable {σ : Type}

/-- All pages are loaded when each can be read from a list. -/
theorem loadAll_yields_mapM {α β : Type} {fetch : Page → Activity Failure σ (List β)}
    {read : α → Except Failure β} {items : List α} {before : σ}
    (fetched : ∀ page : Page, page.offset ≤ items.length →
      (fetch page).Yields before ((page.slice items).mapM read) before) {bound : Nat}
    (enough : items.length < bound) (size : Nat) :
    (loadAll fetch bound size).Yields before ((items.mapM read).mapError RunFault.failure)
      before := by
  have positive : 0 < (Page.first size).limit := Nat.le_max_right size 1
  have drained := drainFrom?_yields fetched positive (Nat.zero_le _)
    (Nat.lt_of_le_of_lt (Nat.sub_le _ _) enough)
  change (Activity.drain? fetch bound size).Yields before ((items.mapM read).map some) before
    at drained
  unfold loadAll
  cases found : items.mapM read with
  | error fault =>
      rw [found] at drained
      exact .bindMapped_error drained
  | ok values =>
      rw [found] at drained
      exact .bindMapped drained (.pure _)

private theorem loadValidRuleSet_yields_ok_iff {store : Store σ} {ruleSetId : String}
    {valid : RuleSet} {before after : σ} :
    (store.loadValidRuleSet ruleSetId).Yields before (.ok valid) after ↔
      ∃ ruleSet : RuleSet, ruleSet.validated = .ok valid ∧
        (store.loadRuleSet ruleSetId).Yields before (.ok (some ruleSet)) after := by
  unfold loadValidRuleSet
  constructor
  · intro yields
    obtain ⟨ruleSet?, middle, loaded, checked⟩ := yields.exists_of_bind
    have loaded := loaded.of_mapError
    cases ruleSet? with
    | none => cases (checked.unique (.fail _)).1
    | some ruleSet =>
        obtain ⟨same, rfl⟩ := checked.unique (.ofExcept _)
        cases accepted : ruleSet.validated with
        | error fault =>
            rw [accepted] at same
            cases same
        | ok found =>
            rw [accepted] at same
            cases same
            exact ⟨ruleSet, accepted, loaded⟩
  · rintro ⟨ruleSet, accepted, loaded⟩
    refine .bindMapped loaded ?_
    change (Activity.ofExcept _).Yields _ _ _
    rw [accepted]
    exact .ofExcept _

/-- A run has its inputs just when every load succeeds, in its turn, and the plan is accepted. -/
theorem collectInputs_yields_ok_iff {store : Store σ} {config : CalcConfig} {pageBound : Nat}
    {batch : CalculationBatch} {inputs : RunInputs} {before after : σ} :
    (store.collectInputs config pageBound batch).Yields before (.ok inputs) after ↔
      ∃ (ruleSet : RuleSet) (first second third : σ), ruleSet.validated = .ok inputs.ruleSet ∧
        (store.loadRuleSet batch.ruleSetId).Yields before (.ok (some ruleSet)) first ∧
        (loadAll (store.loadEntities batch.ruleSetId batch.tenantId) pageBound
          config.batch.pageSize).Yields first (.ok inputs.entities) second ∧
        (loadAll (store.loadRows batch.tenantId batch.periodId) pageBound
          config.batch.pageSize).Yields second (.ok inputs.rows) third ∧
        (store.loadDensity batch.tenantId).Yields third (.ok inputs.prior) after := by
  unfold collectInputs
  constructor
  · intro yields
    obtain ⟨valid, first, ruleSetLoaded, yields⟩ := yields.exists_of_bind
    obtain ⟨ruleSet, accepted, ruleSetLoaded⟩ := loadValidRuleSet_yields_ok_iff.mp ruleSetLoaded
    obtain ⟨entities, second, entitiesLoaded, yields⟩ := yields.exists_of_bind
    obtain ⟨rows, third, rowsLoaded, yields⟩ := yields.exists_of_bind
    obtain ⟨prior, fourth, densityLoaded, yields⟩ := yields.exists_of_bind
    obtain ⟨same, rfl⟩ := yields.unique (.bind (.tell _) (.pure _))
    cases same
    exact ⟨ruleSet, first, second, third, accepted, ruleSetLoaded, entitiesLoaded, rowsLoaded,
      densityLoaded.of_mapError⟩
  · rintro ⟨ruleSet, first, second, third, accepted, ruleSetLoaded, entitiesLoaded, rowsLoaded,
      densityLoaded⟩
    have validLoaded := loadValidRuleSet_yields_ok_iff.mpr ⟨ruleSet, accepted, ruleSetLoaded⟩
    refine .bind validLoaded (.bind entitiesLoaded (.bind rowsLoaded ?_))
    exact .bindMapped densityLoaded (.bind (.tell _) (.pure _))

end Store

end VariablePay
