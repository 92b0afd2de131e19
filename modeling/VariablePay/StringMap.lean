set_option autoImplicit false

/-!
# Finite maps keyed by text

A map is the list of its entries in strictly increasing order of keys, so two maps with the same
entries are equal, and walking a map visits its keys in the order of their UTF-8 bytes. Every
change goes through `StringMap.alter`; `get?_alter` says what it does to every key.
-/

namespace VariablePay

/-- A finite map from texts to values; its entries stand in strictly increasing order of keys. -/
structure StringMap (α : Type) where
  entries : List (String × α)
  sorted : entries.Pairwise (fun left right => left.1 < right.1)
  deriving DecidableEq

namespace StringMap

variable {α β : Type}

def empty : StringMap α := ⟨[], List.Pairwise.nil⟩

instance : Inhabited (StringMap α) := ⟨empty⟩

/-- Sets the value at `key` to `change` of the value found there, keeping the entries in order. -/
def alterEntries (key : String) (change : Option α → α) : List (String × α) → List (String × α)
  | [] => [(key, change none)]
  | entry :: rest =>
      if key < entry.1 then (key, change none) :: entry :: rest
      else if key = entry.1 then (key, change (some entry.2)) :: rest
      else entry :: alterEntries key change rest

theorem key_of_mem_alterEntries {key : String} {change : Option α → α}
    {entries : List (String × α)} {entry : String × α}
    (member : entry ∈ alterEntries key change entries) :
    entry.1 = key ∨ ∃ old ∈ entries, old.1 = entry.1 := by
  induction entries with
  | nil => simp [alterEntries] at member; exact .inl (by rw [member])
  | cons head rest ih =>
      unfold alterEntries at member
      split at member
      · rcases List.mem_cons.mp member with rfl | inOld
        · exact .inl rfl
        · exact .inr ⟨entry, inOld, rfl⟩
      · split at member
        · rcases List.mem_cons.mp member with rfl | inRest
          · exact .inl rfl
          · exact .inr ⟨entry, List.mem_cons_of_mem _ inRest, rfl⟩
        · rcases List.mem_cons.mp member with rfl | inRest
          · exact .inr ⟨entry, List.mem_cons_self, rfl⟩
          · rcases ih inRest with same | ⟨old, inOld, same⟩
            · exact .inl same
            · exact .inr ⟨old, List.mem_cons_of_mem _ inOld, same⟩

theorem lt_of_not_lt_of_ne {a b : String} (notLess : ¬ a < b) (different : a ≠ b) : b < a := by
  rcases String.le_total a b with less | greater
  · exact absurd (String.le_antisymm less (String.not_lt.mp notLess)) different
  · exact String.not_le.mp fun lessOrEqual => different (String.le_antisymm lessOrEqual greater)

theorem sorted_alterEntries (key : String) (change : Option α → α) {entries : List (String × α)}
    (sorted : entries.Pairwise (fun left right => left.1 < right.1)) :
    (alterEntries key change entries).Pairwise (fun left right => left.1 < right.1) := by
  induction entries with
  | nil => simp [alterEntries]
  | cons head rest ih =>
      obtain ⟨headLess, restSorted⟩ := List.pairwise_cons.mp sorted
      unfold alterEntries
      split
      · rename_i less
        refine List.pairwise_cons.mpr ⟨fun entry member => ?_, sorted⟩
        rcases List.mem_cons.mp member with rfl | inRest
        · exact less
        · exact String.lt_trans less (headLess entry inRest)
      · split
        · rename_i same
          refine List.pairwise_cons.mpr ⟨fun entry member => ?_, restSorted⟩
          rw [same]
          exact headLess entry member
        · rename_i notLess different
          refine List.pairwise_cons.mpr ⟨fun entry member => ?_, ih restSorted⟩
          rcases key_of_mem_alterEntries member with same | ⟨old, inRest, same⟩
          · rw [same]
            exact lt_of_not_lt_of_ne notLess different
          · rw [← same]
            exact headLess old inRest

def alter (key : String) (change : Option α → α) (map : StringMap α) : StringMap α :=
  ⟨alterEntries key change map.entries, sorted_alterEntries key change map.sorted⟩

def insert (key : String) (value : α) (map : StringMap α) : StringMap α :=
  map.alter key fun _ => value

/-- The map of a list of entries; of several entries with one key the last counts. -/
def ofList (entries : List (String × α)) : StringMap α :=
  entries.foldl (fun map entry => map.insert entry.1 entry.2) empty

def get? (map : StringMap α) (key : String) : Option α :=
  (map.entries.find? fun entry => entry.1 == key).map Prod.snd

def contains (map : StringMap α) (key : String) : Bool := (map.get? key).isSome

def size (map : StringMap α) : Nat := map.entries.length

def keys (map : StringMap α) : List String := map.entries.map Prod.fst

/-- Keeps the entries that `keep` gives a value, with that value. -/
def filterMap (keep : String → α → Option β) (map : StringMap α) : StringMap β where
  entries := map.entries.filterMap fun entry =>
    (keep entry.1 entry.2).map fun value => (entry.1, value)
  sorted := by
    refine List.pairwise_filterMap.mpr
      (map.sorted.imp fun {left right} less a fromLeft b fromRight => ?_)
    obtain ⟨_, _, rfl⟩ := Option.map_eq_some_iff.mp fromLeft
    obtain ⟨_, _, rfl⟩ := Option.map_eq_some_iff.mp fromRight
    exact less

@[simp] theorem get?_empty (key : String) : (empty : StringMap α).get? key = none := rfl

private theorem find?_eq_none_of_lt {bound : String} {entries : List (String × α)}
    (above : ∀ entry ∈ entries, bound < entry.1) {key : String} (notAbove : ¬ bound < key) :
    entries.find? (fun entry => entry.1 == key) = none := by
  refine List.find?_eq_none.mpr fun entry member same => notAbove ?_
  rw [← beq_iff_eq.mp same]
  exact above entry member

private theorem find?_alterEntries (key other : String) (change : Option α → α)
    {entries : List (String × α)}
    (sorted : entries.Pairwise (fun left right => left.1 < right.1)) :
    ((alterEntries key change entries).find? fun entry => entry.1 == other).map Prod.snd =
      if other = key then
        some (change ((entries.find? fun entry => entry.1 == key).map Prod.snd))
      else (entries.find? fun entry => entry.1 == other).map Prod.snd := by
  induction entries with
  | nil =>
      by_cases same : other = key
      · simp [alterEntries, same]
      · have notKey : (key == other) = false := by simpa using Ne.symm same
        simp [alterEntries, same, notKey]
  | cons head rest ih =>
      obtain ⟨headLess, restSorted⟩ := List.pairwise_cons.mp sorted
      have ih := ih restSorted
      unfold alterEntries
      split
      · rename_i less
        have absent := find?_eq_none_of_lt headLess fun greater => String.lt_asymm less greater
        have notHead : (head.1 == key) = false := by
          simpa using fun same : head.1 = key => String.ne_of_lt less same.symm
        by_cases same : other = key
        · subst same
          simp [notHead, absent]
        · have notKey : (key == other) = false := by simpa using Ne.symm same
          simp [same, List.find?_cons, notKey]
      · split
        · rename_i notLess isHead
          by_cases same : other = key
          · subst same
            simp [← isHead]
          · have notKey : (key == other) = false := by simpa using Ne.symm same
            simp [same, ← isHead, notKey]
        · rename_i notLess different
          have notHead : (head.1 == key) = false := by simpa using Ne.symm different
          by_cases same : other = key
          · subst same
            simpa [List.find?_cons, notHead] using ih
          · cases isOther : head.1 == other with
            | true => simp [same, isOther]
            | false => simpa [same, List.find?_cons, isOther] using ih

/-- A changed map holds the changed value at its key and is as before at every other. -/
theorem get?_alter (map : StringMap α) (key other : String) (change : Option α → α) :
    (map.alter key change).get? other =
      if other = key then some (change (map.get? key)) else map.get? other :=
  find?_alterEntries key other change map.sorted

theorem get?_insert (map : StringMap α) (key other : String) (value : α) :
    (map.insert key value).get? other = if other = key then some value else map.get? other :=
  map.get?_alter key other _

end StringMap

end VariablePay
