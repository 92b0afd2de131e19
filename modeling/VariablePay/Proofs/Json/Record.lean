import VariablePay.Json.Record
import VariablePay.Proofs.Json.Codec

set_option autoImplicit false

/-!
# Records read back from their trees

A record is written member by member under names that differ, so that reading finds for each name
what was written for it. What the members say then goes through the fields in their order.
-/

namespace VariablePay

namespace Json

/-- What is written about a member: a legible value or nothing. -/
inductive Slot.IsSaid : Slot → Prop where
  | given {value : Json} : value.Legible → IsSaid (.given value)
  | omitted : IsSaid .omitted

/-- The members that are given, under their names. -/
def givenOf : List String → List Slot → List (String × Json)
  | name :: names, .given value :: slots => (name, value) :: givenOf names slots
  | _ :: names, _ :: slots => givenOf names slots
  | _, _ => []

theorem namedMembers?_membersOfSlots (names : List String) (slots : List Slot) :
    namedMembers? (membersOfSlots names slots) = some (givenOf names slots) := by
  induction names generalizing slots with
  | nil => cases slots <;> rfl
  | cons name names ih =>
      cases slots with
      | nil => rfl
      | cons slot slots =>
          cases slot with
          | given value =>
              rw [membersOfSlots, member, namedMembers?, Quoted.unescape?_escape, ih, givenOf]
              change some ((String.ofList name.toList, value) :: _) = _
              rw [String.ofList_toList]
          | omitted => exact ih slots
          | cut => exact ih slots

theorem name_mem_of_givenOf {names : List String} {slots : List Slot}
    {member : String × Json} (given : member ∈ givenOf names slots) : member.1 ∈ names := by
  induction names generalizing slots with
  | nil => cases slots <;> cases given
  | cons name names ih =>
      cases slots with
      | nil => cases given
      | cons slot slots =>
          cases slot with
          | given value =>
              cases given with
              | head => exact .head _
              | tail _ later => exact .tail _ (ih later)
          | omitted => exact .tail _ (ih given)
          | cut => exact .tail _ (ih given)

theorem filter_name_eq_nil {members : List (String × Json)} {name : String}
    (absent : ∀ member ∈ members, member.1 ≠ name) :
    members.filter (fun member => member.1 == name) = [] := by
  rw [List.filter_eq_nil_iff]
  intro member included
  simpa using absent member included

/-- A name that stands once has its value. -/
theorem slotOf?_given {before behind : List (String × Json)} {name : String} (value : Json)
    (first : ∀ member ∈ before, member.1 ≠ name) (last : ∀ member ∈ behind, member.1 ≠ name) :
    slotOf? (before ++ (name, value) :: behind) name = some (.given value) := by
  unfold slotOf?
  rw [List.filter_append, filter_name_eq_nil first, List.filter_cons, filter_name_eq_nil last]
  simp

theorem slotOf?_omitted {members : List (String × Json)} {name : String}
    (absent : ∀ member ∈ members, member.1 ≠ name) : slotOf? members name = some .omitted := by
  unfold slotOf?
  rw [filter_name_eq_nil absent]

/-- What the members say about the first name, and the members that later names are looked for
among. -/
theorem slotsOfMembers?_givenOf {names : List String} {slots : List Slot}
    (distinct : names.Nodup) (length : slots.length = names.length)
    (said : ∀ slot ∈ slots, slot.IsSaid) (others : List (String × Json))
    (foreign : ∀ member ∈ others, member.1 ∉ names) :
    slotsOfMembers? names (others ++ givenOf names slots) = some slots := by
  induction names generalizing slots others with
  | nil =>
      cases slots with
      | nil => rfl
      | cons slot slots => cases length
  | cons name names ih =>
      cases slots with
      | nil => cases length
      | cons slot slots =>
          obtain ⟨fresh, distinct⟩ := List.nodup_cons.mp distinct
          have before : ∀ member ∈ others, member.1 ≠ name :=
            fun member included same => foreign member included (same ▸ .head _)
          have behind : ∀ member ∈ givenOf names slots, member.1 ≠ name :=
            fun member included same => fresh (same ▸ name_mem_of_givenOf included)
          have later (more : List (String × Json)) (extra : ∀ member ∈ more, member.1 = name) :
              slotsOfMembers? names (others ++ more ++ givenOf names slots) = some slots := by
            refine ih distinct (Nat.succ.inj length)
              (fun slot included => said slot (.tail _ included)) _ fun member included => ?_
            rcases List.mem_append.mp included with old | new
            · exact fun known => foreign member old (.tail _ known)
            · rw [extra member new]
              exact fresh
          unfold slotsOfMembers? at later ⊢
          rw [List.mapM_cons]
          cases said slot (.head _) with
          | @given value =>
              have rest := later [(name, value)] (by simp)
              rw [List.append_assoc, List.singleton_append] at rest
              rw [givenOf, slotOf?_given value before behind, rest]
              rfl
          | omitted =>
              have absent : ∀ member ∈ others ++ givenOf names slots, member.1 ≠ name :=
                List.forall_mem_append.mpr ⟨before, behind⟩
              have rest := later [] (by simp)
              rw [List.append_nil] at rest
              rw [givenOf, slotOf?_omitted absent, rest]
              · rfl
              · intro value same
                cases same

/-- An object says what was written under each name. -/
theorem slots?_object {names : List String} {slots : List Slot} (distinct : names.Nodup)
    (length : slots.length = names.length) (said : ∀ slot ∈ slots, slot.IsSaid) :
    (Json.object (membersOfSlots names slots)).slots? names = some slots := by
  change (namedMembers? (membersOfSlots names slots)).bind (slotsOfMembers? names) = some slots
  rw [namedMembers?_membersOfSlots]
  exact slotsOfMembers?_givenOf distinct length said [] (by simp)

theorem legible_object {names : List String} {slots : List Slot}
    (said : ∀ slot ∈ slots, slot.IsSaid) : (Json.object (membersOfSlots names slots)).Legible := by
  have each : ∀ member ∈ membersOfSlots names slots,
      Quoted.Legible member.1 ∧ member.2.Legible := by
    induction names generalizing slots with
    | nil => cases slots <;> simp [membersOfSlots]
    | cons name names ih =>
        cases slots with
        | nil => simp [membersOfSlots]
        | cons slot slots =>
            have rest := @ih slots fun slot included => said slot (.tail _ included)
            cases said slot (.head _) with
            | @given value legible =>
                intro other included
                cases included with
                | head => exact ⟨Quoted.legible_escape _, legible⟩
                | tail _ later => exact rest other later
            | omitted => exact rest
  exact .object (fun member included => (each member included).1)
    fun member included => (each member included).2

end Json

namespace Fields

variable {ρ α β : Type}

private theorem read?_seq {function : Fields ρ (α → β)} {argument : Fields ρ α} {room : Nat}
    {slots rest : List Json.Slot} {apply : α → β}
    (read : function.read? room slots = some (apply, rest)) :
    (function <*> argument).read? room slots =
      (argument.read? room rest).map fun found => (apply found.1, found.2) := by
  change (function.ap argument).read? room slots = _
  unfold ap
  simp only [read]
  cases argument.read? room rest <;> rfl

private theorem read?_seq_eq_none {function : Fields ρ (α → β)} {argument : Fields ρ α}
    {room : Nat} {slots : List Json.Slot} (failed : function.read? room slots = none) :
    (function <*> argument).read? room slots = none := by
  change (function.ap argument).read? room slots = none
  unfold ap
  simp only [failed]

private theorem write_seq (function : Fields ρ (α → β)) (argument : Fields ρ α) (record : ρ)
    (after : List Json.Slot) :
    (function <*> argument).write record ++ after =
      function.write record ++ (argument.write record ++ after) :=
  List.append_assoc _ _ _

private theorem rest_eq_of_map {found? : Option α} {value : α} {after rest : List Json.Slot}
    (read : found?.map (fun value => (value, after)) = some (value, rest)) : rest = after := by
  obtain ⟨_, _, same⟩ := Option.map_eq_some_iff.mp read
  exact (Prod.mk.inj same).2.symm

/-- Whether each member of every record is written as a legible value or left out. -/
structure IsLegible (fields : Fields ρ α) : Prop where
  length_write : ∀ record, (fields.write record).length = fields.names.length
  /-- What stands behind a record is left to those who come after. -/
  rest_eq : ∀ {room record after value rest},
    fields.read? room (fields.write record ++ after) = some (value, rest) → rest = after
  isSaid : ∀ record, ∀ slot ∈ fields.write record, slot.IsSaid

/-- Whether reading what is written for a record gives a value, at every place where containers may
still be nested to a depth. -/
def ReadsAs (fields : Fields ρ α) (depth : Nat) (record : ρ) (value : α) : Prop :=
  ∀ room, depth ≤ room → ∀ after,
    fields.read? room (fields.write record ++ after) = some (value, after)

/-- Whether what is written for a record is not read. -/
def Fails (fields : Fields ρ α) (record : ρ) : Prop :=
  ∀ room after, fields.read? room (fields.write record ++ after) = none

theorem IsLegible.pure (value : α) : (Fields.pure value : Fields ρ α).IsLegible where
  length_write _ := rfl
  rest_eq read := (Prod.mk.inj (Option.some.inj read)).2.symm
  isSaid _ _ included := by cases included

theorem IsLegible.seq {function : Fields ρ (α → β)} {argument : Fields ρ α}
    (left : function.IsLegible) (right : argument.IsLegible) :
    (function <*> argument).IsLegible where
  length_write record := by
    change (function.write record ++ argument.write record).length =
      (function.names ++ argument.names).length
    rw [List.length_append, List.length_append, left.length_write, right.length_write]
  rest_eq {room record after value rest} read := by
    rw [write_seq] at read
    cases first :
        function.read? room (function.write record ++ (argument.write record ++ after)) with
    | none =>
        rw [read?_seq_eq_none first] at read
        cases read
    | some found =>
        obtain ⟨apply, middle⟩ := found
        obtain rfl := left.rest_eq first
        rw [read?_seq first] at read
        obtain ⟨⟨_, last⟩, second, same⟩ := Option.map_eq_some_iff.mp read
        obtain rfl := right.rest_eq second
        exact (Prod.mk.inj same).2.symm
  isSaid record slot included := by
    rcases List.mem_append.mp included with first | second
    · exact left.isSaid record slot first
    · exact right.isSaid record slot second

theorem IsLegible.map {argument : Fields ρ α} (apply : α → β) (legible : argument.IsLegible) :
    (apply <$> argument).IsLegible := .seq (.pure apply) legible

theorem ReadsAs.pure (value : α) (depth : Nat) (record : ρ) :
    (Fields.pure value : Fields ρ α).ReadsAs depth record value := fun _ _ _ => rfl

theorem ReadsAs.seq {function : Fields ρ (α → β)} {argument : Fields ρ α} {depth : Nat}
    {record : ρ} {apply : α → β} {value : α} (left : function.ReadsAs depth record apply)
    (right : argument.ReadsAs depth record value) :
    (function <*> argument).ReadsAs depth record (apply value) := by
  intro room enough after
  rw [write_seq, read?_seq (left room enough _), right room enough]
  rfl

theorem ReadsAs.map {argument : Fields ρ α} {depth : Nat} {record : ρ} {value : α}
    (apply : α → β) (reads : argument.ReadsAs depth record value) :
    (apply <$> argument).ReadsAs depth record (apply value) := .seq (.pure apply _ _) reads

theorem Fails.seq_left {function : Fields ρ (α → β)} {record : ρ} (fails : function.Fails record)
    (argument : Fields ρ α) : (function <*> argument).Fails record := by
  intro room after
  rw [write_seq]
  exact read?_seq_eq_none (fails room _)

theorem Fails.seq_right {function : Fields ρ (α → β)} {argument : Fields ρ α} {record : ρ}
    (legible : function.IsLegible) (fails : argument.Fails record) :
    (function <*> argument).Fails record := by
  intro room after
  rw [write_seq]
  cases read : function.read? room (function.write record ++ (argument.write record ++ after)) with
  | none => exact read?_seq_eq_none read
  | some found =>
      obtain ⟨apply, rest⟩ := found
      obtain rfl := legible.rest_eq read
      rw [read?_seq read, fails room after]
      rfl

/-- Whether what is written for records is legible, and that for one read just under a condition. -/
structure ReadsWhen (fields : Fields ρ α) (depth : Nat) (record : ρ) (condition : Prop) :
    Prop where
  legible : fields.IsLegible
  reads : condition → ∃ value, fields.ReadsAs depth record value
  fails : ¬condition → fields.Fails record

theorem ReadsWhen.seq {function : Fields ρ (α → β)} {argument : Fields ρ α} {depth : Nat}
    {record : ρ} {first second : Prop} (left : function.ReadsWhen depth record first)
    (right : argument.ReadsWhen depth record second) :
    (function <*> argument).ReadsWhen depth record (first ∧ second) where
  legible := left.legible.seq right.legible
  reads both := by
    obtain ⟨apply, leftReads⟩ := left.reads both.1
    obtain ⟨value, rightReads⟩ := right.reads both.2
    exact ⟨apply value, leftReads.seq rightReads⟩
  fails notBoth := by
    by_cases firstHolds : first
    · refine .seq_right left.legible (right.fails fun secondHolds => ?_)
      exact notBoth ⟨firstHolds, secondHolds⟩
    · exact .seq_left (left.fails firstHolds) _

theorem ReadsWhen.map {argument : Fields ρ α} {depth : Nat} {record : ρ} {condition : Prop}
    (apply : α → β) (splits : argument.ReadsWhen depth record condition) :
    (apply <$> argument).ReadsWhen depth record condition where
  legible := splits.legible.map apply
  reads holds := by
    obtain ⟨value, reads⟩ := splits.reads holds
    exact ⟨apply value, reads.map apply⟩
  fails broken := .seq_right (.pure apply) (splits.fails broken)

/-!
## Single members
-/

theorem IsLegible.single {write : ρ → Json.Slot} {read? : Nat → Json.Slot → Option α}
    (name : String) (said : ∀ record, (write record).IsSaid) :
    (Fields.single name write read?).IsLegible where
  length_write _ := rfl
  rest_eq read := rest_eq_of_map read
  isSaid record slot included := by
    cases List.mem_singleton.mp included
    exact said record

theorem IsLegible.required {codec : Codec α} (name : String) (get : ρ → α)
    (legible : codec.IsLegible) : (Fields.required name codec get).IsLegible :=
  .single name fun record => .given (legible (get record))

theorem ReadsAs.required {codec : Codec α} (name : String) (get : ρ → α) {depth : Nat}
    {record : ρ} {value : α} (reads : codec.ReadsAs depth (get record) value) :
    (Fields.required name codec get).ReadsAs depth record value := by
  intro room enough after
  change (codec.decode? room (codec.encode (get record))).map (fun value => (value, after)) = _
  rw [reads room enough]
  rfl

theorem ReadsWhen.required {codec : Codec α} (name : String) (get : ρ → α) {depth : Nat}
    {record : ρ} {condition : Prop} (splits : codec.ReadsWhen depth (get record) condition) :
    (Fields.required name codec get).ReadsWhen depth record condition where
  legible := .required name get splits.legible
  reads holds := by
    obtain ⟨value, reads⟩ := splits.reads holds
    exact ⟨value, .required name get reads⟩
  fails broken room after := by
    change (codec.decode? room (codec.encode (get record))).map (fun value => (value, after)) = none
    rw [splits.fails broken room]
    rfl

theorem IsLegible.optional {codec : Codec α} (name : String) (get : ρ → Option α)
    (legible : codec.IsLegible) : (Fields.optional name codec get).IsLegible :=
  .single name fun record => .given (Codec.isLegible_nullable legible (get record))

theorem IsLegible.defaulted {codec : Codec α} (name : String) (default : α) (get : ρ → α)
    (legible : codec.IsLegible) : (Fields.defaulted name codec default get).IsLegible :=
  .single name fun record => .given (legible (get record))

theorem IsLegible.sparse {codec : Codec α} (name : String) (get : ρ → Option α)
    (legible : codec.IsLegible) : (Fields.sparse name codec get).IsLegible :=
  .single name fun record => by
    cases get record with
    | none => exact .omitted
    | some value => exact .given (legible value)

theorem ReadsAs.optional {codec : Codec α} (name : String) (get : ρ → Option α) {depth : Nat}
    {record : ρ} {value : Option α} (reads : codec.nullable.ReadsAs depth (get record) value) :
    (Fields.optional name codec get).ReadsAs depth record value := by
  intro room enough after
  change (codec.nullable.decode? room (codec.nullable.encode (get record))).map
    (fun value => (value, after)) = _
  rw [reads room enough]
  rfl

/-- A double that may be absent is always read, but one that is not finite as absent. -/
theorem ReadsWhen.optional_float (name : String) (get : ρ → Option Float) (record : ρ) :
    (Fields.optional name (.float .number) get).ReadsWhen 0 record True where
  legible := .optional name get Codec.isLegible_float
  reads _ := ⟨_, .optional name get (Codec.nullable_float_reads _)⟩
  fails never := absurd trivial never

/-!
## Whole records
-/

theorem isLegible_codec {fields : Fields ρ ρ} (legible : fields.IsLegible) :
    fields.codec.IsLegible := fun record => Json.legible_object (legible.isSaid record)

private theorem slots?_encode {fields : Fields ρ ρ} (distinct : fields.names.Nodup)
    (legible : fields.IsLegible) (record : ρ) :
    (fields.codec.encode record).slots? fields.names = some (fields.write record) :=
  Json.slots?_object distinct (legible.length_write record) (legible.isSaid record)

theorem codec_readsAs {fields : Fields ρ ρ} (distinct : fields.names.Nodup)
    (legible : fields.IsLegible) {depth : Nat} {record back : ρ}
    (reads : fields.ReadsAs depth record back) :
    fields.codec.ReadsAs (depth + 1) record back := by
  intro room enough
  obtain ⟨room, rfl⟩ := Nat.exists_eq_add_of_le' (show 1 ≤ room by omega)
  have read := reads room (by omega) []
  rw [List.append_nil] at read
  change ((fields.codec.encode record).slots? fields.names).bind (fields.ofSlots? room) = some back
  rw [slots?_encode distinct legible]
  change (fields.read? room (fields.write record)).map Prod.fst = some back
  rw [read]
  rfl

theorem codec_readsWhen {fields : Fields ρ ρ} (distinct : fields.names.Nodup)
    {depth : Nat} {record : ρ} {condition : Prop}
    (splits : fields.ReadsWhen depth record condition) :
    fields.codec.ReadsWhen (depth + 1) record condition where
  legible := isLegible_codec splits.legible
  reads holds := by
    obtain ⟨back, reads⟩ := splits.reads holds
    exact ⟨back, codec_readsAs distinct splits.legible reads⟩
  fails broken room := by
    cases room with
    | zero => rfl
    | succ room =>
        have read := splits.fails broken room []
        rw [List.append_nil] at read
        change ((fields.codec.encode record).slots? fields.names).bind (fields.ofSlots? room) = none
        rw [slots?_encode distinct splits.legible]
        change (fields.read? room (fields.write record)).map Prod.fst = none
        rw [read]
        rfl

end Fields

end VariablePay
