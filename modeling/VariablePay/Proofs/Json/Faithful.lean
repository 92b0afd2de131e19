import VariablePay.Proofs.Json.Record

set_option autoImplicit false

/-!
# Values that are read back, and no others read

A codec is faithful to the values that fit if it reads each of them back, with all but its numbers
restored, and reads no others. So what is read can be written and read again. A record is faithful,
member by member, if each member is: one that is left out when absent comes back as absent, and one
that is missing gets a value that fits.
-/

namespace VariablePay

/-- Whether what is written about a member, if anything, has texts and doubles throughout. -/
def Json.Slot.IsSound (room : Nat) : Json.Slot → Prop
  | .given value => value.isSound room = true
  | .omitted | .cut => True

namespace Codec

variable {α : Type}

/-- A codec reads each value that fits back as `back` says, wherever containers may still be nested
to a depth, and reads no others. -/
structure Faithful (codec : Codec α) (depth : Nat) (fits : α → Prop) (back : α → α) : Prop where
  legible : codec.IsLegible
  isSound : ∀ {value room}, fits value → depth ≤ room → (codec.encode value).isSound room = true
  reads : ∀ {value}, fits value → codec.ReadsAs depth value (back value)
  fits_of_decode? : ∀ {room tree value}, codec.decode? room tree = some value → fits value

namespace Faithful

variable {codec : Codec α} {depth : Nat} {fits other : α → Prop} {back otherBack : α → α}

theorem read?_write (faithful : codec.Faithful depth fits back)
    (shallow : depth ≤ Json.nestingLimit) {value : α} (fit : fits value) :
    codec.read? (codec.write value) = some (back value) :=
  (faithful.reads fit).read?_write faithful.legible shallow

theorem fits_of_read? (faithful : codec.Faithful depth fits back) {text : String} {value : α}
    (read : codec.read? text = some value) : fits value := by
  obtain ⟨_, _, decoded⟩ := Option.bind_eq_some_iff.mp read
  exact faithful.fits_of_decode? decoded

theorem congr (faithful : codec.Faithful depth fits back)
    (same : ∀ value, fits value ↔ other value) (sameBack : ∀ value, back value = otherBack value) :
    codec.Faithful depth other otherBack := by
  rwa [← funext fun value => propext (same value), ← funext sameBack]

theorem nullable (faithful : codec.Faithful depth fits back)
    (given : ∀ {value}, fits value → codec.encode value ≠ .null) :
    codec.nullable.Faithful depth (fun value? => ∀ value ∈ value?, fits value)
      (Option.map back) where
  legible := isLegible_nullable faithful.legible
  isSound {value? room} fit enough := by
    cases value? with
    | none => cases room <;> rfl
    | some value => exact faithful.isSound (fit value rfl) enough
  reads {value?} fit := by
    cases value? with
    | none => exact nullable_none_readsAs codec depth
    | some value =>
        have fit := fit value rfl
        exact nullable_readsAs (faithful.reads fit) (given fit)
  fits_of_decode? {room tree value?} decoded := by
    cases tree with
    | null =>
        cases decoded
        nofun
    | bool | number | string | array | object =>
        obtain ⟨value, read, rfl⟩ := Option.map_eq_some_iff.mp decoded
        rintro _ ⟨⟩
        exact faithful.fits_of_decode? read

private theorem fits_of_decodeItems? (faithful : codec.Faithful depth fits back) {room : Nat}
    {items : List Json} {values : List α} (decoded : codec.decodeItems? room items = some values) :
    ∀ value ∈ values, fits value := by
  induction items generalizing values with
  | nil =>
      cases decoded
      nofun
  | cons item rest ih =>
      obtain ⟨value, read, decoded⟩ := Option.bind_eq_some_iff.mp decoded
      obtain ⟨others, later, same⟩ := Option.bind_eq_some_iff.mp decoded
      cases same
      exact List.forall_mem_cons.mpr ⟨faithful.fits_of_decode? read, ih later⟩

private theorem areItemsSound_map (faithful : codec.Faithful depth fits back) {room : Nat}
    (enough : depth ≤ room) {values : List α} (fit : ∀ value ∈ values, fits value) :
    Json.areItemsSound room (values.map codec.encode) = true := by
  induction values with
  | nil => rfl
  | cons value rest ih =>
      obtain ⟨first, later⟩ := List.forall_mem_cons.mp fit
      rw [List.map_cons, Json.areItemsSound, faithful.isSound first enough, ih later]
      rfl

theorem list (faithful : codec.Faithful depth fits back) :
    codec.list.Faithful (depth + 1) (fun values => ∀ value ∈ values, fits value)
      (List.map back) where
  legible := isLegible_list faithful.legible
  isSound {values room} fit enough := by
    obtain ⟨room, rfl⟩ := Nat.exists_eq_add_of_le' (show 1 ≤ room by omega)
    exact faithful.areItemsSound_map (Nat.le_of_succ_le_succ enough) fit
  reads fit := list_readsAs fun value member => faithful.reads (fit value member)
  fits_of_decode? {room tree values} decoded := by
    cases room with
    | zero => cases decoded
    | succ room =>
        cases tree with
        | array items => exact faithful.fits_of_decodeItems? decoded
        | null | bool | number | string | object => cases decoded

private theorem fits_of_decodeMembers? (faithful : codec.Faithful depth fits back) {room : Nat}
    {members : List (List Char × Json)} {entries : List (String × α)}
    (decoded : codec.decodeMembers? room members = some entries) :
    ∀ entry ∈ entries, fits entry.2 := by
  induction members generalizing entries with
  | nil =>
      cases decoded
      nofun
  | cons member rest ih =>
      obtain ⟨name, _, decoded⟩ := Option.bind_eq_some_iff.mp decoded
      obtain ⟨value, read, decoded⟩ := Option.bind_eq_some_iff.mp decoded
      obtain ⟨others, later, same⟩ := Option.bind_eq_some_iff.mp decoded
      cases same
      exact List.forall_mem_cons.mpr ⟨faithful.fits_of_decode? read, ih later⟩

private theorem areMembersSound_map (faithful : codec.Faithful depth fits back) {room : Nat}
    (enough : depth ≤ room) {entries : List (String × α)} (fit : ∀ entry ∈ entries, fits entry.2) :
    Json.areMembersSound room
      (entries.map fun entry => Json.member entry.1 (codec.encode entry.2)) = true := by
  induction entries with
  | nil => rfl
  | cons entry rest ih =>
      obtain ⟨first, later⟩ := List.forall_mem_cons.mp fit
      rw [List.map_cons, Json.areMembersSound, Json.member, Json.isMemberSound,
        Json.Quoted.unescape?_escape, faithful.isSound first enough, ih later]
      rfl

theorem stringMap (faithful : codec.Faithful depth fits back) :
    codec.stringMap.Faithful (depth + 1) (fun map => ∀ entry ∈ map.entries, fits entry.2)
      (StringMap.mapValues back) where
  legible := isLegible_stringMap faithful.legible
  isSound {map room} fit enough := by
    obtain ⟨room, rfl⟩ := Nat.exists_eq_add_of_le' (show 1 ≤ room by omega)
    exact faithful.areMembersSound_map (Nat.le_of_succ_le_succ enough) fit
  reads fit := stringMap_readsAs fun entry member => faithful.reads (fit entry member)
  fits_of_decode? {room tree map} decoded := by
    cases room with
    | zero => cases decoded
    | succ room =>
        cases tree with
        | object members =>
            obtain ⟨entries, read, rfl⟩ := Option.map_eq_some_iff.mp decoded
            exact StringMap.forall_mem_ofList (faithful.fits_of_decodeMembers? read)
        | null | bool | number | string | array => cases decoded

section All

variable {codec : Codec α} {depth : Nat} (faithful : codec.Faithful depth (fun _ => True) id)

include faithful

/-! A codec that restores all values passes that on. -/

theorem nullable_all (given : ∀ value, codec.encode value ≠ .null) :
    codec.nullable.Faithful depth (fun _ => True) id :=
  (faithful.nullable fun _ => given _).congr (fun _ => by simp) (congrFun Option.map_id)

theorem list_all : codec.list.Faithful (depth + 1) (fun _ => True) id :=
  faithful.list.congr (fun _ => by simp) List.map_id

theorem stringMap_all : codec.stringMap.Faithful (depth + 1) (fun _ => True) id :=
  faithful.stringMap.congr (fun _ => by simp) fun map => by
    unfold StringMap.mapValues
    simp

end All

end Faithful

/-!
## Texts, numbers and names
-/

private theorem ReadsAs.deeper {codec : Codec α} {value back : α}
    (reads : codec.ReadsAs 0 value back) (depth : Nat) : codec.ReadsAs depth value back :=
  fun room _ => reads room (Nat.zero_le room)

private theorem isSound_ofString (room : Nat) (text : String) :
    (Json.ofString text).isSound room = true := by
  have named : (Json.Quoted.unescape? (Json.Quoted.escape text.toList)).isSome = true := by
    rw [Json.Quoted.unescape?_escape]
    rfl
  cases room <;> exact named

theorem faithful_string (depth : Nat) : Codec.string.Faithful depth (fun _ => True) id where
  legible := isLegible_string
  isSound {text room} _ _ := isSound_ofString room text
  reads {text} _ := (string_readsAs text).deeper depth
  fits_of_decode? _ := trivial

theorem faithful_bool (depth : Nat) : Codec.bool.Faithful depth (fun _ => True) id where
  legible := isLegible_bool
  isSound {value room} _ _ := by cases room <;> rfl
  reads {value} _ := (bool_readsAs value).deeper depth
  fits_of_decode? _ := trivial

private theorem isSound_ofNat {number : Nat} (fits : number < Nat.pow 2 64) (room : Nat) :
    (Json.ofNat number).isSound room = true := by
  have inRange := Numeral.isSome_scaled?_ofNat fits
  cases room <;> exact inRange

private theorem lt_of_decode?_natBelow {bound room : Nat} {tree : Json} {number : Nat}
    (decoded : (natBelow bound).decode? room tree = some number) : number < bound := by
  cases tree with
  | number numeral => simpa using (Option.filter_eq_some_iff.mp decoded).2
  | null | bool | string | array | object => cases decoded

theorem faithful_count (depth : Nat) :
    Codec.count.Faithful depth (fun number => number < Nat.pow 2 64) id where
  legible := isLegible_natBelow _
  isSound fits _ := isSound_ofNat fits _
  reads fits := (natBelow_readsAs fits).deeper depth
  fits_of_decode? decoded := lt_of_decode?_natBelow decoded

theorem faithful_word32 (depth : Nat) : Codec.word32.Faithful depth (fun _ => True) id where
  legible _ := .number _
  isSound {word room} _ _ := isSound_ofNat (word.toNat_lt.trans (by decide)) room
  reads {word} _ room _ := by
    have below : word.toNat < Nat.pow 2 32 := word.toNat_lt
    have read := natBelow_readsAs below room (Nat.zero_le room)
    change ((natBelow (Nat.pow 2 32)).decode? room ((natBelow (Nat.pow 2 32)).encode
      word.toNat)).map UInt32.ofNat = some word
    rw [read, Option.map_some, UInt32.ofNat_toNat]
  fits_of_decode? _ := trivial

theorem faithful_float (depth : Nat) :
    (Codec.float .number).Faithful depth (fun value => value.isFinite = true) Double.reread where
  legible := isLegible_float
  isSound {value room} finite _ := by
    have written := Layout.isSome_scaled?_ofFloat finite
    rw [encode_float finite]
    cases room <;> exact written
  reads finite := (float_readsAs finite).deeper depth
  fits_of_decode? {room tree value} decoded := by
    cases tree with
    | number numeral => exact Numeral.isFinite_of_scaled? decoded
    | null | bool | string | array | object => cases decoded

/-- Names are told apart if each leads to the value that it names. -/
theorem faithful_named {values : List α} {name : α → String} (depth : Nat)
    (found : ∀ value, values.find? (fun other => name other == name value) = some value) :
    (named values name).Faithful depth (fun _ => True) id where
  legible _ := .string (Json.Quoted.legible_escape _)
  isSound {value room} _ _ := isSound_ofString room (name value)
  reads {value} _ room _ := by
    have byText : (named values name).decode? room ((named values name).encode value) =
        (Codec.string.decode? room (Codec.string.encode (name value))).bind fun text =>
          values.find? fun other => name other == text := by
      cases room <;> rfl
    rw [byText, string_readsAs (name value) room (Nat.zero_le room)]
    exact found value
  fits_of_decode? _ := trivial

theorem faithful_nullable_string (depth : Nat) :
    Codec.string.nullable.Faithful depth (fun _ => True) id :=
  (faithful_string depth).nullable_all fun _ => Json.noConfusion

theorem faithful_nullable_float (depth : Nat) : (Codec.float .number).nullable.Faithful depth
    (fun value? => ∀ value ∈ value?, value.isFinite = true) (Option.map Double.reread) :=
  (faithful_float depth).nullable encode_float_ne_null

end Codec

/-!
## Members and records
-/

namespace Fields

variable {ρ α β : Type} {depth : Nat} {fits : ρ → Prop} {get : ρ → α} {given : α → Prop}

/-- The members of a part of a record are read back as what `get` takes from the records that fit,
and no others are read. -/
structure Faithful (fields : Fields ρ α) (depth : Nat) (fits : ρ → Prop) (get : ρ → α)
    (given : α → Prop) : Prop where
  legible : fields.IsLegible
  isSound : ∀ {record room}, fits record → depth ≤ room →
    ∀ slot ∈ fields.write record, slot.IsSound room
  reads : ∀ {record}, fits record → fields.ReadsAs depth record (get record)
  given_of_read? : ∀ {room slots value rest},
    fields.read? room slots = some (value, rest) → given value

namespace Faithful

theorem seq {function : Fields ρ (α → β)} {argument : Fields ρ α} {apply : ρ → α → β}
    {made : β → Prop}
    (left : function.Faithful depth fits apply fun apply =>
      ∀ value, given value → made (apply value))
    (right : argument.Faithful depth fits get given) :
    (function <*> argument).Faithful depth fits (fun record => apply record (get record)) made where
  legible := left.legible.seq right.legible
  isSound fit enough slot member := by
    rcases List.mem_append.mp member with first | second
    · exact left.isSound fit enough slot first
    · exact right.isSound fit enough slot second
  reads fit := (left.reads fit).seq (right.reads fit)
  given_of_read? {room slots value rest} read := by
    change (function.ap argument).read? room slots = _ at read
    unfold ap at read
    dsimp only at read
    split at read
    · cases read
    · rename_i first
      split at read
      · cases read
      · rename_i second
        cases read
        -- What is known of a function that is read is what it makes of any argument given to it.
        exact left.given_of_read? first _ (right.given_of_read? second)

theorem map {argument : Fields ρ α} {apply : α → β} {made : β → Prop}
    (faithful : argument.Faithful depth fits get given)
    (makes : ∀ value, given value → made (apply value)) :
    (apply <$> argument).Faithful depth fits (fun record => apply (get record)) made :=
  .seq
    { legible := .pure apply
      isSound _ _ _ member := by cases member
      reads _ := .pure apply depth _
      given_of_read? read := by
        cases read
        exact makes }
    faithful

private theorem single {write : ρ → Json.Slot} {read? : Nat → Json.Slot → Option α} (name : String)
    (said : ∀ record, (write record).IsSaid)
    (isSound : ∀ {record room}, fits record → depth ≤ room → (write record).IsSound room)
    (reads : ∀ {record room}, fits record → depth ≤ room →
      read? room (write record) = some (get record))
    (given_of_read? : ∀ {room slot value}, read? room slot = some value → given value) :
    (Fields.single name write read?).Faithful depth fits get given where
  legible := .single name said
  isSound fit enough slot member := by
    cases List.mem_singleton.mp member
    exact isSound fit enough
  reads {record} fit room enough after := by
    change (read? room (write record)).map (fun value => (value, after)) = _
    rw [reads fit enough]
    rfl
  given_of_read? {room slots value rest} read := by
    cases slots with
    | nil => cases read
    | cons slot slots =>
        obtain ⟨_, found, same⟩ := Option.map_eq_some_iff.mp read
        cases same
        exact given_of_read? found

section Members

variable {codec : Codec α} {name : String} {back : α → α}

theorem required (faithful : codec.Faithful depth given back)
    (part : ∀ record, fits record → given (get record)) :
    (Fields.required name codec get).Faithful depth fits (fun record => back (get record)) given :=
  single name (fun record => .given (faithful.legible (get record)))
    (fun {record _} fit enough => faithful.isSound (part record fit) enough)
    (fun {record _} fit enough => faithful.reads (part record fit) _ enough)
    fun {_ slot _} read => by
      cases slot with
      | given tree => exact faithful.fits_of_decode? read
      | omitted | cut => cases read

theorem defaulted {default : α} (faithful : codec.Faithful depth given back)
    (missing : given default) (part : ∀ record, fits record → given (get record)) :
    (Fields.defaulted name codec default get).Faithful depth fits (fun record => back (get record))
      given :=
  single name (fun record => .given (faithful.legible (get record)))
    (fun {record _} fit enough => faithful.isSound (part record fit) enough)
    (fun {record _} fit enough => faithful.reads (part record fit) _ enough)
    fun {_ slot _} read => by
      cases slot with
      | given tree => exact faithful.fits_of_decode? read
      | omitted | cut =>
          cases read
          exact missing

variable {get? : ρ → Option α} {given? : Option α → Prop} {back? : Option α → Option α}

theorem free (faithful : codec.nullable.Faithful depth given? back?) (missing : given? none)
    (part : ∀ record, fits record → given? (get? record)) :
    (Fields.free name codec get?).Faithful depth fits (fun record => back? (get? record)) given? :=
  defaulted faithful missing part

theorem optional (faithful : codec.nullable.Faithful depth given? back?) (missing : given? none)
    (part : ∀ record, fits record → given? (get? record)) :
    (Fields.optional name codec get?).Faithful depth fits (fun record => back? (get? record))
      given? :=
  single name (fun record => .given (faithful.legible (get? record)))
    (fun {record _} fit enough => faithful.isSound (part record fit) enough)
    (fun {record _} fit enough => faithful.reads (part record fit) _ enough)
    fun {_ slot _} read => by
      cases slot with
      | given tree => exact faithful.fits_of_decode? read
      | omitted =>
          cases read
          exact missing
      | cut => cases read

theorem sparse (faithful : codec.nullable.Faithful depth given? back?) (missing : given? none)
    (part : ∀ record, fits record → given? (get? record)) :
    (Fields.sparse name codec get?).Faithful depth fits (fun record => back? (get? record))
      given? := by
  refine single name (fun record => ?_) (fun {record room} fit enough => ?_)
    (fun {record room} fit enough => ?_) fun {_ slot _} read => ?_
  · cases get? record with
    | none => exact .omitted
    | some value => exact .given (faithful.legible (some value))
  · have sound := faithful.isSound (part record fit) enough
    cases found : get? record with
    | none => trivial
    | some value =>
        rw [found] at sound
        exact sound
  · have back := faithful.reads (part record fit) room enough
    cases found : get? record with
    | none | some =>
        rw [found] at back
        exact back
  · cases slot with
    | given tree => exact faithful.fits_of_decode? read
    | omitted | cut =>
        cases read
        exact missing

theorem sparseList {get : ρ → List α} {given : List α → Prop} {back : List α → List α}
    (faithful : codec.list.Faithful depth given back) (missing : given [])
    (part : ∀ record, fits record → given (get record)) :
    (Fields.sparseList name codec get).Faithful depth fits (fun record => back (get record))
      given := by
  refine single name (fun record => ?_) (fun {record room} fit enough => ?_)
    (fun {record room} fit enough => ?_) fun {_ slot _} read => ?_
  · split
    · exact .omitted
    · exact .given (faithful.legible (get record))
  · split
    · trivial
    · exact faithful.isSound (part record fit) enough
  · have back := faithful.reads (part record fit) room enough
    by_cases empty : (get record).isEmpty = true
    · rw [if_pos empty]
      rw [List.isEmpty_iff.mp empty] at back ⊢
      cases room with
      | zero => cases back
      | succ room => exact back
    · rw [if_neg empty]
      exact back
  · cases slot with
    | given tree => exact faithful.fits_of_decode? read
    | omitted | cut =>
        cases read
        exact missing

end Members

/-- Members that are read back as the parts of a value are read back as it. -/
theorem whole {fields : Fields ρ α} (rebuilt : ρ → α)
    (faithful : fields.Faithful depth fits rebuilt given)
    (same : ∀ record, rebuilt record = get record) : fields.Faithful depth fits get given := by
  rwa [funext same] at faithful

variable {fields : Fields ρ ρ} {back : ρ → ρ}

theorem ofSlots?_write (faithful : fields.Faithful depth fits back fits) {record : ρ}
    (fit : fits record) {room : Nat} (enough : depth ≤ room) :
    fields.ofSlots? room (fields.write record) = some (back record) := by
  have read := faithful.reads fit room enough []
  rw [List.append_nil] at read
  unfold ofSlots?
  rw [read]
  rfl

theorem fits_of_ofSlots? (faithful : fields.Faithful depth fits back fits) {room : Nat}
    {slots : List Json.Slot} {record : ρ} (read : fields.ofSlots? room slots = some record) :
    fits record := by
  obtain ⟨⟨_, _⟩, found, rfl⟩ := Option.map_eq_some_iff.mp read
  exact faithful.given_of_read? found

end Faithful

end Fields

theorem Json.areMembersSound_membersOfSlots {room : Nat} {slots : List Slot}
    (sound : ∀ slot ∈ slots, slot.IsSound room) (names : List String) :
    areMembersSound room (membersOfSlots names slots) = true := by
  induction names generalizing slots with
  | nil => cases slots <;> rfl
  | cons name names ih =>
      cases slots with
      | nil => rfl
      | cons slot slots =>
          obtain ⟨first, later⟩ := List.forall_mem_cons.mp sound
          cases slot with
          | given value =>
              rw [membersOfSlots, areMembersSound, member, isMemberSound, Quoted.unescape?_escape,
                first, ih later]
              rfl
          | omitted | cut => exact ih later

/-- A record is read back from its members if their names differ. -/
theorem Codec.Faithful.record {ρ : Type} {depth : Nat} {fits : ρ → Prop} {back : ρ → ρ}
    {fields : Fields ρ ρ} (members : fields.Faithful depth fits back fits)
    (distinct : fields.names.Nodup) : fields.codec.Faithful (depth + 1) fits back where
  legible := Fields.isLegible_codec members.legible
  isSound {record room} fit enough := by
    obtain ⟨room, rfl⟩ := Nat.exists_eq_add_of_le' (show 1 ≤ room by omega)
    exact Json.areMembersSound_membersOfSlots
      (members.isSound fit (Nat.le_of_succ_le_succ enough)) _
  reads {record} fit :=
    Fields.codec_readsAs distinct members.legible (members.reads fit)
  fits_of_decode? {room tree record} decoded := by
    cases room with
    | zero => cases decoded
    | succ room =>
        obtain ⟨slots, _, read⟩ := Option.bind_eq_some_iff.mp decoded
        exact members.fits_of_ofSlots? read

end VariablePay
