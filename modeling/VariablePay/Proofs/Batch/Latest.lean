import Mathlib.Data.List.Pairwise
import Mathlib.Tactic.ByContra
import VariablePay.Batch.Result

set_option autoImplicit false

/-!
# The last results of entities

A list may have several results of one entity, of which the last one stands for it.
-/

namespace VariablePay.EntityResult

/-- Whether a result is the last of its entity in a list. -/
def IsLastIn (result : EntityResult) (results : List EntityResult) : Prop :=
  ∃ earlier later, results = earlier ++ result :: later ∧
    ∀ other ∈ later, other.entityId ≠ result.entityId

/-- The last result of each entity in a list. -/
def latest (results : List EntityResult) : List EntityResult :=
  results.pwFilter fun left right => left.entityId ≠ right.entityId

variable {result first : EntityResult} {results rest : List EntityResult}

theorem pairwise_latest (results : List EntityResult) :
    (latest results).Pairwise fun left right => left.entityId ≠ right.entityId :=
  List.pairwise_pwFilter results

theorem latest_sublist (results : List EntityResult) : (latest results).Sublist results :=
  List.pwFilter_sublist results

theorem latest_eq_self (distinct : (results.map entityId).Nodup) : latest results = results :=
  List.pwFilter_eq_self.mpr (List.pairwise_map.mp distinct)

/-- An entity that has a result has a last one. -/
private theorem forall_mem_latest_iff :
    (∀ other ∈ latest rest, first.entityId ≠ other.entityId) ↔
      ∀ other ∈ rest, first.entityId ≠ other.entityId := by
  refine List.forall_mem_pwFilter ?_ first rest
  intro left middle right apart
  by_contra! same
  exact apart (same.1.trans same.2)

theorem latest_cons_of_last (last : ∀ other ∈ rest, first.entityId ≠ other.entityId) :
    latest (first :: rest) = first :: latest rest :=
  List.pwFilter_cons_of_pos (forall_mem_latest_iff.mpr last)

theorem latest_cons_of_again (again : ¬∀ other ∈ rest, first.entityId ≠ other.entityId) :
    latest (first :: rest) = latest rest :=
  List.pwFilter_cons_of_neg (mt forall_mem_latest_iff.mp again)

/-- One more result takes the place of an earlier one of its entity. -/
theorem latest_concat (results : List EntityResult) (result : EntityResult) :
    latest (results ++ [result]) =
      (latest results).filter (fun other => !(other.entityId == result.entityId)) ++ [result] := by
  induction results with
  | nil => rfl
  | cons first rest ih =>
      rw [List.cons_append]
      by_cases last : ∀ other ∈ rest, first.entityId ≠ other.entityId
      · rw [latest_cons_of_last last]
        by_cases same : first.entityId = result.entityId
        · rw [latest_cons_of_again (by simp [same]), ih, List.filter_cons_of_neg (by simp [same])]
        · rw [latest_cons_of_last (by simpa [or_imp, forall_and, same] using last), ih,
            List.filter_cons_of_pos (by simp [same]), List.cons_append]
      · have again : ¬∀ other ∈ rest ++ [result], first.entityId ≠ other.entityId := fun apart =>
          last fun other member => apart other (List.mem_append_left _ member)
        rw [latest_cons_of_again last, latest_cons_of_again again, ih]

theorem isLastIn_cons_iff : result.IsLastIn (first :: rest) ↔
    (result = first ∧ ∀ other ∈ rest, first.entityId ≠ other.entityId) ∨ result.IsLastIn rest := by
  constructor
  · rintro ⟨earlier, later, split, last⟩
    cases earlier with
    | nil =>
        obtain ⟨rfl, rfl⟩ := List.cons.inj split
        exact .inl ⟨rfl, fun other member => (last other member).symm⟩
    | cons head earlier =>
        obtain ⟨_, same⟩ := List.cons.inj split
        exact .inr ⟨earlier, later, same, last⟩
  · rintro (⟨rfl, last⟩ | ⟨earlier, later, rfl, last⟩)
    · exact ⟨[], rest, rfl, fun other member => (last other member).symm⟩
    · exact ⟨first :: earlier, later, rfl, last⟩

theorem mem_latest_iff : result ∈ latest results ↔ result.IsLastIn results := by
  induction results with
  | nil => simp [latest, IsLastIn]
  | cons first rest ih =>
      rw [isLastIn_cons_iff, ← ih]
      by_cases last : ∀ other ∈ rest, first.entityId ≠ other.entityId
      · rw [latest_cons_of_last last, List.mem_cons, and_iff_left last]
      · rw [latest_cons_of_again last]
        refine ⟨.inr, ?_⟩
        rintro (⟨_, isLast⟩ | later)
        · exact absurd isLast last
        · exact later

end VariablePay.EntityResult
