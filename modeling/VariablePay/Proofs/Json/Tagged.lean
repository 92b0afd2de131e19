import VariablePay.Proofs.Json.Faithful

set_option autoImplicit false

/-!
# Tagged values that are read back, and no others read

A tagged value is written as its tag and the members of its shape. Its shape is found again by the
tag, no member has the name of the tag, and everything inside is sound, so that the guard of reading
lets it pass.
-/

namespace VariablePay

variable {α ρ : Type}

/-- Whether what is written of a value in a shape is what is said about its names, and is read back
from there if the value fits. -/
structure Shape.Writes (shape : Shape α) (depth : Nat) (back : α) (fits : Prop)
    (slots : List Json.Slot) : Prop where
  distinct : shape.names.Nodup
  length : slots.length = shape.names.length
  isSaid : ∀ slot ∈ slots, slot.IsSaid
  isSound : ∀ {room}, fits → depth ≤ room → ∀ slot ∈ slots, slot.IsSound room
  reads : ∀ {room}, fits → depth ≤ room → shape.ofSlots? room slots = some back

/-- Whether all values that a shape reads fit. -/
def Shape.ReadsOnly (shape : Shape α) (fits : α → Prop) : Prop :=
  ∀ room slots value, shape.ofSlots? room slots = some value → fits value

namespace Fields.Faithful

variable {fields : Fields ρ ρ} {depth : Nat} {fits : ρ → Prop} {back : ρ → ρ}

theorem writes (faithful : fields.Faithful depth fits back fits) (distinct : fields.names.Nodup)
    (tag : String) (wrap : ρ → α) (record : ρ) :
    (fields.shape tag wrap).Writes depth (wrap (back record)) (fits record)
      (fields.write record) where
  distinct := distinct
  length := faithful.legible.length_write record
  isSaid := faithful.legible.isSaid record
  isSound fit enough := faithful.isSound fit enough
  reads {room} fit enough := by
    change (fields.ofSlots? room (fields.write record)).map wrap = some (wrap (back record))
    rw [faithful.ofSlots?_write fit enough]
    rfl

theorem readsOnly (faithful : fields.Faithful depth fits back fits) (tag : String) (wrap : ρ → α)
    {wrapped : α → Prop} (fit : ∀ record, fits record → wrapped (wrap record)) :
    (fields.shape tag wrap).ReadsOnly wrapped := by
  intro room slots value read
  obtain ⟨record, found, rfl⟩ := Option.map_eq_some_iff.mp read
  exact fit record (faithful.fits_of_ofSlots? found)

end Fields.Faithful

namespace Json

variable {tagName : String} {tag : Json} {names : List String} {slots : List Slot}

theorem namedMembers?_tagged :
    namedMembers? (member tagName tag :: membersOfSlots names slots) =
      some ((tagName, tag) :: givenOf names slots) :=
  namedMembers?_membersOfSlots (tagName :: names) (.given tag :: slots)

/-- The tag is found under its name, if no other member has it. -/
theorem slotOf?_tagged (foreign : tagName ∉ names) :
    slotOf? ((tagName, tag) :: givenOf names slots) tagName = some (.given tag) := by
  have others : ∀ member ∈ givenOf names slots, member.1 ≠ tagName :=
    fun member included same => foreign (same ▸ name_mem_of_givenOf included)
  exact @slotOf?_given [] (givenOf names slots) tagName tag nofun others

/-- What is left without the tag says what was written about the other names. -/
theorem slotsOfMembers?_tagged (tag : Json) (foreign : tagName ∉ names) (distinct : names.Nodup)
    (length : slots.length = names.length) (said : ∀ slot ∈ slots, slot.IsSaid) :
    slotsOfMembers? names
      (((tagName, tag) :: givenOf names slots).filter fun member => member.1 != tagName) =
      some slots := by
  have others : (givenOf names slots).filter (fun member => member.1 != tagName) =
      givenOf names slots := by
    refine List.filter_eq_self.mpr fun member included => bne_iff_ne.mpr fun same => ?_
    exact foreign (same ▸ name_mem_of_givenOf included)
  rw [List.filter_cons, others]
  simpa using slotsOfMembers?_givenOf distinct length said [] nofun

end Json

namespace Codec

variable {tagName : String} {byPosition : Bool} {tagOf : α → String}
  {membersOf : α → List (List Char × Json)} {shapes : List (Shape α)} {depth : Nat}
  {fits : α → Prop} {back : α → α}

private theorem isSaid_tagged {slots : List Json.Slot} (said : ∀ slot ∈ slots, slot.IsSaid)
    (tag : String) : ∀ slot ∈ Json.Slot.given (Json.ofString tag) :: slots, slot.IsSaid :=
  List.forall_mem_cons.mpr ⟨.given (isLegible_string tag), said⟩

private theorem areMembersSound_tagged {room : Nat} {slots : List Json.Slot}
    (sound : ∀ slot ∈ slots, slot.IsSound room) (tagName tag : String) (names : List String) :
    Json.areMembersSound room (Json.member tagName (Json.ofString tag) ::
      Json.membersOfSlots names slots) = true := by
  have tagSound : (Json.ofString tag).isSound room = true :=
    (faithful_string 0).isSound trivial (Nat.zero_le room)
  exact @Json.areMembersSound_membersOfSlots room (.given (Json.ofString tag) :: slots)
    (List.forall_mem_cons.mpr ⟨tagSound, sound⟩) (tagName :: names)

private theorem shape?_ofString (tag : String) :
    shape? shapes byPosition (Json.ofString tag) = shapes.find? fun shape => shape.tag == tag := by
  change (Json.Quoted.unescape? (Json.Quoted.escape tag.toList)).bind _ = _
  rw [Json.Quoted.unescape?_escape, Option.bind_some, String.ofList_toList]

private theorem mem_of_shape? {tag : Json} {shape : Shape α}
    (found : shape? shapes byPosition tag = some shape) : shape ∈ shapes := by
  cases tag with
  | string written =>
      obtain ⟨text, _, found⟩ := Option.bind_eq_some_iff.mp found
      exact List.mem_of_find?_eq_some found
  | number numeral =>
      unfold shape? at found
      simp only at found
      split at found
      · obtain ⟨place, _, found⟩ := Option.bind_eq_some_iff.mp found
        exact List.mem_of_getElem? found
      · cases found
  | null | bool | array | object => cases found

/-- What is read is read by one of the shapes. -/
private theorem exists_shape_of_decode? {room : Nat} {tree : Json} {value : α}
    (decoded : (tagged tagName byPosition tagOf membersOf shapes).decode? room tree = some value) :
    ∃ shape ∈ shapes, ∃ room slots, shape.ofSlots? room slots = some value := by
  cases room with
  | zero => cases tree <;> cases decoded
  | succ room =>
      cases tree with
      | object members =>
          obtain ⟨_, _, decoded⟩ := Option.bind_eq_some_iff.mp decoded
          obtain ⟨named, _, decoded⟩ := Option.bind_eq_some_iff.mp decoded
          obtain ⟨slot, _, decoded⟩ := Option.bind_eq_some_iff.mp decoded
          cases slot with
          | given tag =>
              obtain ⟨shape, found, decoded⟩ := Option.bind_eq_some_iff.mp decoded
              obtain ⟨slots, _, read⟩ := Option.bind_eq_some_iff.mp decoded
              exact ⟨shape, mem_of_shape? found, room, slots, read⟩
          | omitted | cut => cases decoded
      | array items =>
          cases items with
          | nil => cases decoded
          | cons tag items =>
              obtain ⟨_, _, decoded⟩ := Option.bind_eq_some_iff.mp decoded
              obtain ⟨shape, found, decoded⟩ := Option.bind_eq_some_iff.mp decoded
              obtain ⟨slots, _, read⟩ := Option.bind_eq_some_iff.mp decoded
              exact ⟨shape, mem_of_shape? found, room, slots, read⟩
      | null | bool | number | string => cases decoded

/-- Tagged values are read back if each is written in a shape that its tag leads to. -/
theorem faithful_tagged (foreign : ∀ shape ∈ shapes, tagName ∉ shape.names)
    (writes : ∀ value, ∃ shape slots,
      shapes.find? (fun shape => shape.tag == tagOf value) = some shape ∧
        membersOf value = Json.membersOfSlots shape.names slots ∧
        shape.Writes depth (back value) (fits value) slots)
    (readsOnly : ∀ shape ∈ shapes, shape.ReadsOnly fits) :
    (Codec.tagged tagName byPosition tagOf membersOf shapes).Faithful (depth + 1) fits back where
  legible value := by
    obtain ⟨shape, slots, _, written, writes⟩ := writes value
    change (Json.object (Json.member tagName (Json.ofString (tagOf value)) ::
      membersOf value)).Legible
    rw [written]
    exact @Json.legible_object (tagName :: shape.names) _ (isSaid_tagged writes.isSaid _)
  isSound {value room} fit enough := by
    obtain ⟨room, rfl⟩ := Nat.exists_eq_add_of_le' (show 1 ≤ room by omega)
    obtain ⟨shape, slots, _, written, writes⟩ := writes value
    change Json.areMembersSound room (_ :: membersOf value) = true
    rw [written]
    exact areMembersSound_tagged (writes.isSound fit (Nat.le_of_succ_le_succ enough)) _ _ _
  reads {value} fit room enough := by
    obtain ⟨room, rfl⟩ := Nat.exists_eq_add_of_le' (show 1 ≤ room by omega)
    have inside := Nat.le_of_succ_le_succ enough
    obtain ⟨shape, slots, found, written, writes⟩ := writes value
    have foreign := foreign shape (List.mem_of_find?_eq_some found)
    -- The guard of reading looks at the members of the shape and at the tag.
    have sound := areMembersSound_tagged (writes.isSound fit inside) tagName (tagOf value)
      shape.names
    have said := Json.slotsOfMembers?_tagged (Json.ofString (tagOf value)) foreign writes.distinct
      writes.length writes.isSaid
    unfold tagged
    simp only [written, sound, Json.namedMembers?_tagged, Json.slotOf?_tagged foreign,
      shape?_ofString, found, said, Option.bind_eq_bind, Option.bind_some, guard, if_true]
    exact writes.reads fit inside
  fits_of_decode? {_ _ value} decoded := by
    obtain ⟨shape, member, room, slots, read⟩ := exists_shape_of_decode? decoded
    exact readsOnly shape member room slots value read

end Codec

end VariablePay
