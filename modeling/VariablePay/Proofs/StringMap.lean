import Mathlib.Data.List.Induction
import Mathlib.Data.List.Nodup
import Mathlib.Data.List.Sort
import VariablePay.StringMap

set_option autoImplicit false

/-!
# Maps and their entries

A map is determined by what it says about each key, and the list of its entries makes it again.
-/

namespace VariablePay

variable {α : Type}

/-- A list is left as it is just when each of its items is. -/
theorem map_eq_self_iff {change : α → α} {items : List α} :
    items.map change = items ↔ ∀ item ∈ items, change item = item := by
  have same := @List.map_inj_left _ _ items change id
  rwa [List.map_id] at same

namespace StringMap

def mapValues {β : Type} (change : α → β) (map : StringMap α) : StringMap β where
  entries := map.entries.map fun entry => (entry.1, change entry.2)
  sorted := List.pairwise_map.mpr map.sorted

theorem mapValues_eq_self_iff {change : α → α} {map : StringMap α} :
    map.mapValues change = map ↔ ∀ entry ∈ map.entries, change entry.2 = entry.2 := by
  obtain ⟨entries, sorted⟩ := map
  unfold mapValues
  rw [StringMap.mk.injEq, map_eq_self_iff]
  simp only [Prod.ext_iff, true_and]

theorem nodup_keys (map : StringMap α) : map.keys.Nodup :=
  List.pairwise_map.mpr (map.sorted.imp String.ne_of_lt)

theorem mem_entries_iff {map : StringMap α} {key : String} {value : α} :
    (key, value) ∈ map.entries ↔ map.get? key = some value := by
  unfold get?
  constructor
  · intro member
    cases found : map.entries.find? fun entry => entry.1 == key with
    | none =>
        have absent := List.find?_eq_none.mp found _ member
        simp at absent
    | some entry =>
        have sameKey : entry.1 = key := by simpa using List.find?_some found
        have same : entry = (key, value) := List.inj_on_of_nodup_map map.nodup_keys
          (List.mem_of_find?_eq_some found) member sameKey
        rw [same]
        rfl
  · intro mapped
    obtain ⟨entry, found, rfl⟩ := Option.map_eq_some_iff.mp mapped
    have sameKey : entry.1 = key := by simpa using List.find?_some found
    rw [← sameKey]
    exact List.mem_of_find?_eq_some found

theorem mem_keys_iff {map : StringMap α} {key : String} :
    key ∈ map.keys ↔ (map.get? key).isSome = true := by
  constructor
  · intro member
    obtain ⟨entry, inEntries, rfl⟩ := List.mem_map.mp member
    rw [mem_entries_iff.mp inEntries]
    rfl
  · intro present
    obtain ⟨value, found⟩ := Option.isSome_iff_exists.mp present
    exact List.mem_map.mpr ⟨(key, value), mem_entries_iff.mpr found, rfl⟩

/-- Maps that say the same about each key are the same. -/
theorem eq_of_get?_eq {left right : StringMap α} (same : ∀ key, left.get? key = right.get? key) :
    left = right := by
  have distinct (map : StringMap α) : map.entries.Nodup := map.nodup_keys.of_map
  have members : ∀ entry, entry ∈ left.entries ↔ entry ∈ right.entries := by
    intro entry
    rw [← Prod.mk.eta (p := entry), mem_entries_iff, mem_entries_iff, same]
  have entries : left.entries = right.entries := by
    refine ((List.perm_ext_iff_of_nodup (distinct left) (distinct right)).mpr
      members).eq_of_pairwise (fun first second _ _ less greater => ?_) left.sorted right.sorted
    exact absurd greater (String.lt_asymm less)
  cases left
  cases right
  cases entries
  rfl

/-- The entries whose keys are wanted are those of the map that says nothing about other keys. -/
theorem filter_entries_eq {map part : StringMap α} (wanted : String → Bool)
    (holds : ∀ key, part.get? key = if wanted key then map.get? key else none) :
    (map.entries.filter fun entry => wanted entry.1) = part.entries := by
  let filtered : StringMap α :=
    ⟨map.entries.filter fun entry => wanted entry.1, map.sorted.filter _⟩
  have same : filtered = part := by
    refine eq_of_get?_eq fun key => Option.ext fun value => ?_
    rw [holds, ← mem_entries_iff, List.mem_filter, mem_entries_iff]
    cases wanted key <;> simp
  exact congrArg entries same

theorem get?_filterMap {β : Type} (map : StringMap α) (keep : String → α → Option β)
    (key : String) : (map.filterMap keep).get? key = (map.get? key).bind (keep key) := by
  refine Option.ext fun value => ?_
  rw [← mem_entries_iff, Option.bind_eq_some_iff]
  simp only [filterMap, List.mem_filterMap, Option.map_eq_some_iff]
  constructor
  · rintro ⟨entry, member, _, kept, same⟩
    cases same
    exact ⟨entry.2, mem_entries_iff.mp member, kept⟩
  · rintro ⟨old, found, kept⟩
    exact ⟨(key, old), mem_entries_iff.mpr found, value, kept, rfl⟩

private theorem flatMap_of_sorted {β : Type} (key : String) (each : α → List β)
    {entries : List (String × α)}
    (sorted : entries.Pairwise fun left right => left.1 < right.1) :
    (entries.flatMap fun entry => if entry.1 = key then each entry.2 else []) =
      ((entries.find? fun entry => entry.1 == key).map Prod.snd).elim [] each := by
  induction entries with
  | nil => rfl
  | cons entry rest ih =>
      obtain ⟨less, restSorted⟩ := List.pairwise_cons.mp sorted
      rw [List.flatMap_cons, ih restSorted]
      by_cases isKey : entry.1 = key
      · have absent : (rest.find? fun other => other.1 == key) = none :=
          List.find?_eq_none.mpr fun other member => by
            simpa [← isKey] using (String.ne_of_lt (less other member)).symm
        simp [isKey, absent]
      · simp [isKey]

/-- What all entries give for one key is what its value gives. -/
theorem flatMap_entries_eq {β : Type} (map : StringMap α) (key : String) (each : α → List β) :
    (map.entries.flatMap fun entry => if entry.1 = key then each entry.2 else []) =
      (map.get? key).elim [] each :=
  flatMap_of_sorted key each map.sorted

theorem forall_mem_insert {holds : α → Prop} {map : StringMap α} {key : String} {value : α}
    (before : ∀ entry ∈ map.entries, holds entry.2) (inserted : holds value) :
    ∀ entry ∈ (map.insert key value).entries, holds entry.2 := by
  intro entry member
  rw [← Prod.mk.eta (p := entry), mem_entries_iff, get?_insert] at member
  split at member
  · cases member
    exact inserted
  · exact before entry (mem_entries_iff.mpr member)

private theorem alterEntries_eq_append {key : String} {change : Option α → α}
    {entries : List (String × α)} (above : ∀ entry ∈ entries, entry.1 < key) :
    alterEntries key change entries = entries ++ [(key, change none)] := by
  induction entries with
  | nil => rfl
  | cons entry rest ih =>
      obtain ⟨headLess, restLess⟩ := List.forall_mem_cons.mp above
      unfold alterEntries
      rw [if_neg (String.lt_asymm headLess), if_neg (String.ne_of_lt headLess).symm, ih restLess]
      rfl

/-- Entries that stand in order are inserted one after the other. -/
private theorem entries_foldl_insert {map : StringMap α} {entries : List (String × α)}
    (sorted : (map.entries ++ entries).Pairwise fun left right => left.1 < right.1) :
    (entries.foldl (fun map entry => map.insert entry.1 entry.2) map).entries =
      map.entries ++ entries := by
  induction entries generalizing map with
  | nil => exact (List.append_nil _).symm
  | cons entry rest ih =>
      have inserted : (map.insert entry.1 entry.2).entries = map.entries ++ [entry] :=
        alterEntries_eq_append fun before member =>
          (List.pairwise_append.mp sorted).2.2 before member entry (.head _)
      rw [List.foldl_cons, ih (by rwa [inserted, List.append_assoc]), inserted, List.append_assoc]
      rfl

theorem ofList_entries (map : StringMap α) : ofList map.entries = map := by
  have entries : (ofList map.entries).entries = map.entries := entries_foldl_insert map.sorted
  cases map
  cases made : ofList _
  rw [made] at entries
  cases entries
  rfl

theorem ofList_concat (entries : List (String × α)) (last : String × α) :
    ofList (entries ++ [last]) = (ofList entries).insert last.1 last.2 := by
  unfold ofList
  rw [List.foldl_append, List.foldl_cons, List.foldl_nil]

theorem forall_mem_ofList {holds : α → Prop} {entries : List (String × α)}
    (each : ∀ entry ∈ entries, holds entry.2) :
    ∀ entry ∈ (ofList entries).entries, holds entry.2 := by
  induction entries using List.reverseRecOn with
  | nil => nofun
  | append_singleton rest last ih =>
      rw [ofList_concat]
      exact forall_mem_insert (ih fun entry member => each entry (List.mem_append_left _ member))
        (each last (by simp))

end StringMap

end VariablePay
