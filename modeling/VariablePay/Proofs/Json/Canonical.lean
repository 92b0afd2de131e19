import VariablePay.Plan.Signature
import VariablePay.Proofs.Json.Record

set_option autoImplicit false

/-!
# What canonical trees tell apart

The canonical form of a tree keeps its strings and items, orders the members of its objects and
knows a single zero. Two records whose members have names that differ have one canonical form just
when they say the same about each name.
-/

namespace VariablePay

namespace Json

theorem mem_insertMember {member other : List Char × Json} {members : List (List Char × Json)} :
    other ∈ insertMember member members ↔ other = member ∨ other ∈ members := by
  induction members with
  | nil => simp [insertMember]
  | cons next rest ih =>
      unfold insertMember
      split
      · exact List.mem_cons
      · rw [List.mem_cons, ih, List.mem_cons, or_left_comm]

theorem canonicalItems_eq_map (items : List Json) : canonicalItems items = items.map canonical := by
  induction items with
  | nil => rfl
  | cons item rest ih => rw [canonicalItems, ih, List.map_cons]

theorem canonicalMembers_eq_foldr (members : List (List Char × Json)) :
    canonicalMembers members = (members.map canonicalMember).foldr insertMember [] := by
  induction members with
  | nil => rfl
  | cons member rest ih => rw [canonicalMembers, ih, List.map_cons, List.foldr_cons]

theorem mem_canonicalMembers {member : List Char × Json} {members : List (List Char × Json)} :
    member ∈ canonicalMembers members ↔ member ∈ members.map canonicalMember := by
  induction members with
  | nil => rfl
  | cons next rest ih => rw [canonicalMembers, mem_insertMember, ih, List.map_cons, List.mem_cons]

theorem canonical_eq_null_iff {tree : Json} : tree.canonical = .null ↔ tree = .null := by
  cases tree with
  | number numeral =>
      rw [canonical]
      split <;> exact iff_of_false nofun nofun
  | null | bool | string | array | object => simp [canonical]

theorem Legible.canonical {tree : Json} (legible : tree.Legible) : tree.canonical.Legible := by
  induction legible with
  | null => exact .null
  | bool value => exact .bool value
  | number numeral =>
      rw [Json.canonical]
      split <;> exact .number _
  | string written => exact .string written
  | array _ each =>
      rw [Json.canonical, canonicalItems_eq_map]
      refine .array fun item included => ?_
      obtain ⟨original, member, rfl⟩ := List.mem_map.mp included
      exact each original member
  | object names _ values =>
      rw [Json.canonical]
      refine .object (fun member included => ?_) fun member included => ?_
      · obtain ⟨⟨name, value⟩, inOriginal, rfl⟩ :=
          List.mem_map.mp (mem_canonicalMembers.mp included)
        exact names (name, value) inOriginal
      · obtain ⟨⟨name, value⟩, inOriginal, rfl⟩ :=
          List.mem_map.mp (mem_canonicalMembers.mp included)
        exact values (name, value) inOriginal

/-- Legible trees differ in their compact texts if they differ at all. -/
theorem Legible.compact_eq_iff {left right : Json} (leftLegible : left.Legible)
    (rightLegible : right.Legible) : left.compact = right.compact ↔ left = right := by
  constructor
  · intro same
    have parsed := leftLegible.parse?_compact
    rw [same, rightLegible.parse?_compact] at parsed
    exact (Option.some.inj parsed).symm
  · rintro rfl
    rfl

theorem ofString_inj {left right : String} : ofString left = ofString right ↔ left = right := by
  constructor
  · intro same
    have read := congrArg text? same
    simpa [ofString, text?] using read
  · rintro rfl
    rfl

theorem member_inj {leftName rightName : String} {left right : Json} :
    member leftName left = member rightName right ↔ leftName = rightName ∧ left = right := by
  have names : Quoted.escape leftName.toList = Quoted.escape rightName.toList ↔
      leftName = rightName := by
    rw [← ofString_inj, ofString, ofString, Json.string.injEq]
  rw [member, member, Prod.mk.injEq, names]

@[simp]
theorem canonicalMember_member (name : String) (value : Json) :
    canonicalMember (member name value) = member name value.canonical := rfl

/-!
## Objects of named members
-/

/-- What is said about a member, with a canonical value. -/
def Slot.canonical : Slot → Slot
  | given value => given value.canonical
  | omitted => omitted
  | cut => cut

theorem map_canonicalMember_membersOfSlots (names : List String) (slots : List Slot) :
    (membersOfSlots names slots).map canonicalMember =
      membersOfSlots names (slots.map Slot.canonical) := by
  induction names generalizing slots with
  | nil => cases slots <;> rfl
  | cons name names ih =>
      cases slots with
      | nil => rfl
      | cons slot slots =>
          cases slot with
          | given value => exact congrArg (member name value.canonical :: ·) (ih slots)
          | omitted => exact ih slots
          | cut => exact ih slots

theorem exists_name_of_mem_membersOfSlots {names : List String} {slots : List Slot}
    {given : List Char × Json} (included : given ∈ membersOfSlots names slots) :
    ∃ name ∈ names, ∃ value, given = member name value := by
  induction names generalizing slots with
  | nil => cases slots <;> cases included
  | cons name names ih =>
      cases slots with
      | nil => cases included
      | cons slot slots =>
          have later (rest : given ∈ membersOfSlots names slots) :
              ∃ other ∈ name :: names, ∃ value, given = member other value := by
            obtain ⟨other, known, value, same⟩ := ih rest
            exact ⟨other, .tail _ known, value, same⟩
          cases slot with
          | given value =>
              cases included with
              | head => exact ⟨name, .head _, value, rfl⟩
              | tail _ rest => exact later rest
          | omitted => exact later included
          | cut => exact later included

theorem name_mem_of_member_mem {names : List String} {slots : List Slot} {name : String}
    {value : Json} (included : member name value ∈ membersOfSlots names slots) : name ∈ names := by
  obtain ⟨other, known, _, same⟩ := exists_name_of_mem_membersOfSlots included
  exact (member_inj.mp same).1 ▸ known

/-- Whether something legible, or nothing, is said about each name. -/
structure AreSaid (names : List String) (slots : List Slot) : Prop where
  length : slots.length = names.length
  isSaid : ∀ slot ∈ slots, slot.IsSaid

namespace AreSaid

variable {name : String} {names : List String} {slot : Slot} {slots left right : List Slot}

theorem cons {value : Json} (legible : value.Legible) (said : AreSaid names slots) (name : String) :
    AreSaid (name :: names) (.given value :: slots) where
  length := congrArg (· + 1) said.length
  isSaid := List.forall_mem_cons.mpr ⟨.given legible, said.isSaid⟩

theorem rest (said : AreSaid (name :: names) (slot :: slots)) : AreSaid names slots where
  length := Nat.succ.inj said.length
  isSaid := (List.forall_mem_cons.mp said.isSaid).2

theorem legible_object (said : AreSaid names slots) :
    (object (membersOfSlots names slots)).Legible := Json.legible_object said.isSaid

theorem canonical (said : AreSaid names slots) : AreSaid names (slots.map Slot.canonical) where
  length := by rw [List.length_map, said.length]
  isSaid := by
    intro slot included
    obtain ⟨original, member, rfl⟩ := List.mem_map.mp included
    cases said.isSaid original member with
    | given legible => exact .given legible.canonical
    | omitted => exact .omitted

/-- What is said about differing names can be told from the members that are given. -/
theorem eq_of_forall_mem_iff (leftSaid : AreSaid names left) (rightSaid : AreSaid names right)
    (distinct : names.Nodup)
    (same : ∀ given, given ∈ membersOfSlots names left ↔ given ∈ membersOfSlots names right) :
    left = right := by
  induction names generalizing left right with
  | nil =>
      rw [List.eq_nil_of_length_eq_zero leftSaid.length,
        List.eq_nil_of_length_eq_zero rightSaid.length]
  | cons name names ih =>
      obtain ⟨fresh, distinct⟩ := List.nodup_cons.mp distinct
      obtain ⟨leftSlot, left, rfl⟩ := List.exists_cons_of_length_eq_add_one leftSaid.length
      obtain ⟨rightSlot, right, rfl⟩ := List.exists_cons_of_length_eq_add_one rightSaid.length
      have absent {slots : List Slot} {value : Json} :
          member name value ∉ membersOfSlots names slots :=
        fun included => fresh (name_mem_of_member_mem included)
      -- The first name stands in no later member, so that the first slots alone speak of it.
      cases leftSaid.isSaid leftSlot (.head _) with
      | @given leftValue =>
          cases rightSaid.isSaid rightSlot (.head _) with
          | @given rightValue =>
              have first := (same (member name leftValue)).mp (.head _)
              obtain ⟨_, rfl⟩ := member_inj.mp ((List.mem_cons.mp first).resolve_right absent)
              rw [ih leftSaid.rest rightSaid.rest distinct fun given => ?_]
              by_cases head : given = member name leftValue
              · subst head
                exact iff_of_false absent absent
              · have tails := same given
                rwa [membersOfSlots, membersOfSlots, List.mem_cons, List.mem_cons,
                  or_iff_right head, or_iff_right head] at tails
          | omitted => exact absurd ((same (member name leftValue)).mp (.head _)) absent
      | omitted =>
          cases rightSaid.isSaid rightSlot (.head _) with
          | @given rightValue =>
              exact absurd ((same (member name rightValue)).mpr (.head _)) absent
          | omitted => rw [ih leftSaid.rest rightSaid.rest distinct same]

/-- Objects with members of the same names have one canonical form just when they say the same
about each name. -/
theorem canonical_object_eq_iff (leftSaid : AreSaid names left) (rightSaid : AreSaid names right)
    (distinct : names.Nodup) :
    (object (membersOfSlots names left)).canonical =
        (object (membersOfSlots names right)).canonical ↔
      left.map Slot.canonical = right.map Slot.canonical := by
  rw [Json.canonical, Json.canonical, object.injEq]
  constructor
  · intro same
    refine leftSaid.canonical.eq_of_forall_mem_iff rightSaid.canonical distinct fun given => ?_
    rw [← map_canonicalMember_membersOfSlots, ← map_canonicalMember_membersOfSlots,
      ← mem_canonicalMembers, ← mem_canonicalMembers, same]
  · intro same
    rw [canonicalMembers_eq_foldr, canonicalMembers_eq_foldr, map_canonicalMember_membersOfSlots,
      map_canonicalMember_membersOfSlots, same]

end AreSaid

/-- Objects with one canonical form have one value under a name that stands once in each. -/
theorem value_eq_of_canonical_eq {name : String} {leftValue rightValue : Json}
    {leftNames rightNames : List String} {left right : List Slot} (fresh : name ∉ rightNames)
    (same : (object (member name leftValue :: membersOfSlots leftNames left)).canonical =
      (object (member name rightValue :: membersOfSlots rightNames right)).canonical) :
    leftValue.canonical = rightValue.canonical := by
  rw [canonical, canonical, object.injEq] at same
  have first : member name leftValue.canonical ∈
      canonicalMembers (member name leftValue :: membersOfSlots leftNames left) :=
    mem_canonicalMembers.mpr (.head _)
  rw [same, mem_canonicalMembers, List.map_cons, map_canonicalMember_membersOfSlots,
    List.mem_cons] at first
  have absent : member name leftValue.canonical ∉
      membersOfSlots rightNames (right.map Slot.canonical) :=
    fun included => fresh (name_mem_of_member_mem included)
  exact (member_inj.mp (first.resolve_right absent)).2

/-!
## Objects of ordered members
-/

theorem orderText_member (name : String) (value : Json) : orderText (member name value) = name := by
  rw [orderText, member, Quoted.unescape?_escape, Option.getD_some, String.ofList_toList]

theorem canonicalMembers_of_sorted {α : Type} {entries : List (String × α)} (tree : α → Json)
    (sorted : entries.Pairwise fun left right => left.1 < right.1) :
    canonicalMembers (entries.map fun entry => member entry.1 (tree entry.2)) =
      entries.map fun entry => member entry.1 (tree entry.2).canonical := by
  induction entries with
  | nil => rfl
  | cons entry rest ih =>
      obtain ⟨less, sorted⟩ := List.pairwise_cons.mp sorted
      rw [List.map_cons, canonicalMembers, ih sorted, canonicalMember_member, List.map_cons]
      -- The rest stands in order already, so the entry goes before the first of it.
      cases rest with
      | nil => rfl
      | cons next rest =>
          rw [List.map_cons, insertMember, orderText_member, orderText_member,
            if_pos (less next (.head _))]

end Json

/-!
## Numbers
-/

/-- The number, with zero for negative zero. -/
def Double.foldZero (value : Float) : Float := if value = -0.0 then 0.0 else value

namespace Json

/-- The canonical number of a double is nearest to the double, with zero for negative zero. -/
theorem exists_canonical_ofFloat {value : Float} (finite : value.isFinite = true) :
    ∃ numeral, (number (Layout.json.ofFloat value)).canonical = number numeral ∧
      numeral.toFloat? = some (Double.foldZero value) := by
  have back := Layout.toFloat?_ofFloat .json finite
  rw [canonical]
  by_cases zero : (Layout.json.ofFloat value).magnitude.coefficient = 0
  · have magnitude : (Layout.json.ofFloat value).magnitude.toFloat = 0.0 := if_pos zero
    have signed : value = if (Layout.json.ofFloat value).negative then -0.0 else 0.0 := by
      rw [Numeral.toFloat?, magnitude] at back
      exact (Option.some.inj back).symm
    have folded : Double.foldZero value = 0.0 := by
      rw [signed]
      cases (Layout.json.ofFloat value).negative <;> decide
    rw [if_pos zero, folded]
    exact ⟨_, rfl, rfl⟩
  · have positive : value ≠ -0.0 := by
      rintro rfl
      exact zero (by decide +kernel)
    rw [if_neg zero, Double.foldZero, if_neg positive]
    exact ⟨_, rfl, back⟩

theorem canonical_ofFloat_foldZero (value : Float) :
    (number (Layout.json.ofFloat (Double.foldZero value))).canonical =
      (number (Layout.json.ofFloat value)).canonical := by
  by_cases negative : value = -0.0
  · rw [Double.foldZero, if_pos negative, negative, canonical, canonical,
      if_pos (by decide +kernel), if_pos (by decide +kernel)]
  · rw [Double.foldZero, if_neg negative]

end Json

end VariablePay
