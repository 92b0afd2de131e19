import VariablePay.Json.Codec

set_option autoImplicit false

/-!
# Records and tagged values

A record is an object with known member names, or the array of its members in their order. Members
of other names are passed over, a repeated name is refused. A tagged value is a record with one
more member, the tag, that names its shape; in an array the tag comes first. Everything inside a
tagged value has to be sound, also the members that are passed over.
-/

namespace VariablePay

namespace Json

/-- What a record says about one of its members. -/
inductive Slot where
  | given (value : Json)
  /-- The object has no member of this name. -/
  | omitted
  /-- The array ends before this member. -/
  | cut
  deriving Inhabited

/-- The value under a name that stands at most once. -/
def slotOf? (members : List (String × Json)) (name : String) : Option Slot :=
  match members.filter fun member => member.1 == name with
  | [] => some .omitted
  | [member] => some (.given member.2)
  | _ => none

/-- What named members say about each name. -/
def slotsOfMembers? (names : List String) (members : List (String × Json)) : Option (List Slot) :=
  names.mapM (slotOf? members)

/-- What an array of at most as many items says about each name. -/
def slotsOfItems? (names : List String) (items : List Json) : Option (List Slot) :=
  if items.length ≤ names.length then
    some (items.map Slot.given ++ List.replicate (names.length - items.length) .cut)
  else none

/-- What a tree says about each name. -/
def slots? (names : List String) : Json → Option (List Slot)
  | .object members => (namedMembers? members).bind (slotsOfMembers? names)
  | .array items => slotsOfItems? names items
  | _ => none

/-- The members that are given. -/
def membersOfSlots : List String → List Slot → List (List Char × Json)
  | name :: names, .given value :: slots => member name value :: membersOfSlots names slots
  | _ :: names, _ :: slots => membersOfSlots names slots
  | _, _ => []

end Json

/-- The members of a record of type `ρ` that make up a value of type `α`. -/
structure Fields (ρ α : Type) where
  names : List String
  write : ρ → List Json.Slot
  read? : (room : Nat) → List Json.Slot → Option (α × List Json.Slot)

namespace Fields

variable {ρ α β : Type}

def pure (value : α) : Fields ρ α where
  names := []
  write _ := []
  read? _ slots := some (value, slots)

/-- The members of a function followed by those of its argument. -/
def ap (function : Fields ρ (α → β)) (argument : Fields ρ α) : Fields ρ β where
  names := function.names ++ argument.names
  write record := function.write record ++ argument.write record
  read? room slots :=
    match function.read? room slots with
    | none => none
    | some (apply, rest) =>
        match argument.read? room rest with
        | none => none
        | some (value, after) => some (apply value, after)

/-- A single member, written and read as a slot. -/
def single (name : String) (write : ρ → Json.Slot) (read? : Nat → Json.Slot → Option α) :
    Fields ρ α where
  names := [name]
  write record := [write record]
  read? room
    | [] => none
    | slot :: rest => (read? room slot).map fun value => (value, rest)

/-- A member that has to be given. -/
def required (name : String) (codec : Codec α) (get : ρ → α) : Fields ρ α :=
  single name (fun record => .given (codec.encode (get record))) fun
    | room, .given tree => codec.decode? room tree
    | _, _ => none

/-- A member that may be `null` or, in an object, left out. -/
def optional (name : String) (codec : Codec α) (get : ρ → Option α) : Fields ρ (Option α) :=
  single name (fun record => .given (codec.nullable.encode (get record))) fun
    | room, .given tree => codec.nullable.decode? room tree
    | _, .omitted => some none
    | _, .cut => none

/-- A member with a value of its own when it is not given. -/
def defaulted (name : String) (codec : Codec α) (default : α) (get : ρ → α) : Fields ρ α :=
  single name (fun record => .given (codec.encode (get record))) fun
    | room, .given tree => codec.decode? room tree
    | _, _ => some default

/-- A member that may be `null` or not given. -/
def free (name : String) (codec : Codec α) (get : ρ → Option α) : Fields ρ (Option α) :=
  defaulted name codec.nullable none get

/-- A member that may be `null` or not given, and is left out when absent. -/
def sparse (name : String) (codec : Codec α) (get : ρ → Option α) : Fields ρ (Option α) :=
  single name
    (fun record =>
      match get record with
      | some value => .given (codec.encode value)
      | none => .omitted)
    fun
    | room, .given tree => codec.nullable.decode? room tree
    | _, _ => some none

/-- A list that may be missing, and is left out when empty. -/
def sparseList (name : String) (codec : Codec α) (get : ρ → List α) : Fields ρ (List α) :=
  single name
    (fun record =>
      if (get record).isEmpty then .omitted else .given (codec.list.encode (get record)))
    fun
    | room, .given tree => codec.list.decode? room tree
    | _, _ => some []

instance : Functor (Fields ρ) where
  map apply fields := (pure apply).ap fields

instance : Seq (Fields ρ) where
  seq function argument := function.ap (argument ())

def members (fields : Fields ρ α) (record : ρ) : List (List Char × Json) :=
  Json.membersOfSlots fields.names (fields.write record)

/-- Reads a record from what is said about its members. -/
def ofSlots? (fields : Fields ρ α) (room : Nat) (slots : List Json.Slot) : Option α :=
  (fields.read? room slots).map Prod.fst

def codec (fields : Fields ρ ρ) : Codec ρ where
  encode record := .object (fields.members record)
  decode?
    | 0, _ => none
    | room + 1, tree => (tree.slots? fields.names).bind (fields.ofSlots? room)

end Fields

/-- One shape of a tagged value: its tag and the members that belong to it. -/
structure Shape (α : Type) where
  tag : String
  names : List String
  ofSlots? : (room : Nat) → List Json.Slot → Option α

/-- The shape of values that `wrap` makes of a record. -/
def Fields.shape {ρ α : Type} (fields : Fields ρ ρ) (tag : String) (wrap : ρ → α) : Shape α where
  tag := tag
  names := fields.names
  ofSlots? room slots := (fields.ofSlots? room slots).map wrap

namespace Codec

variable {α : Type}

/-- The shape that a tag names: by its text or, if `byPosition`, by its position. -/
def shape? (shapes : List (Shape α)) (byPosition : Bool) : Json → Option (Shape α)
  | .string written =>
      (Json.Quoted.unescape? written).bind fun text =>
        shapes.find? fun shape => shape.tag == String.ofList text
  | .number numeral =>
      if byPosition then numeral.natural?.bind fun place => shapes[place]? else none
  | _ => none

/-- Values of several shapes, told apart by a tag. -/
def tagged (tagName : String) (byPosition : Bool) (tagOf : α → String)
    (membersOf : α → List (List Char × Json)) (shapes : List (Shape α)) : Codec α where
  encode value :=
    .object (Json.member tagName (Json.ofString (tagOf value)) :: membersOf value)
  decode?
    | room + 1, .object members => do
        guard (Json.areMembersSound room members)
        let named ← Json.namedMembers? members
        let .given tag ← Json.slotOf? named tagName | none
        let shape ← shape? shapes byPosition tag
        let slots ←
          Json.slotsOfMembers? shape.names (named.filter fun member => member.1 != tagName)
        shape.ofSlots? room slots
    | room + 1, .array (tag :: items) => do
        guard (Json.areItemsSound room items)
        let shape ← shape? shapes byPosition tag
        let slots ← Json.slotsOfItems? shape.names items
        shape.ofSlots? room slots
    | _, _ => none

end Codec

end VariablePay
