import VariablePay.Decimal.Scaled
import VariablePay.Json.Parser
import VariablePay.StringMap

set_option autoImplicit false

/-!
# Codecs between values and JSON trees

A codec writes every value and reads some trees. Reading is told how many containers may still be
nested in one another; a text may nest 127 of them. Parts of a tree that no codec asks for are not
looked at, except inside tagged values (`VariablePay.Json.Record`).
-/

namespace VariablePay

namespace Json

def ofString (text : String) : Json := .string (Quoted.escape text.toList)

def ofNat (number : Nat) : Json := .number (.ofNat number)

def text? : Json → Option String
  | .string written => (Quoted.unescape? written).map String.ofList
  | _ => none

def member (name : String) (value : Json) : List Char × Json := (Quoted.escape name.toList, value)

/-- The members of an object under the texts of their names. -/
def namedMembers? : List (List Char × Json) → Option (List (String × Json))
  | [] => some []
  | (written, value) :: rest => do
      let name ← Quoted.unescape? written
      let others ← namedMembers? rest
      return (String.ofList name, value) :: others

mutual

/-- Whether every string in the tree has a text and every number a double, with at most `room`
containers nested in one another. -/
def isSound : (room : Nat) → Json → Bool
  | _, .null => true
  | _, .bool _ => true
  | _, .number numeral => numeral.scaled?.isSome
  | _, .string written => (Quoted.unescape? written).isSome
  | 0, .array _ => false
  | room + 1, .array items => areItemsSound room items
  | 0, .object _ => false
  | room + 1, .object members => areMembersSound room members

def areItemsSound (room : Nat) : List Json → Bool
  | [] => true
  | item :: rest => isSound room item && areItemsSound room rest

def areMembersSound (room : Nat) : List (List Char × Json) → Bool
  | [] => true
  | member :: rest => isMemberSound room member && areMembersSound room rest

/-- Whether a member has a name and a sound value. -/
def isMemberSound (room : Nat) : List Char × Json → Bool
  | (name, value) => (Quoted.unescape? name).isSome && isSound room value

end

/-- How many containers a text may nest. -/
def nestingLimit : Nat := 127

end Json

/-- How doubles are written in a tree and read from it. -/
structure FloatForm where
  write : Float → Json
  read? : Json → Option Float

/-- Doubles as JSON numbers, written with the fewest digits and read in two steps. A double that is
no finite number is written `null` and so is not read back. -/
def FloatForm.number : FloatForm where
  write value := if value.isFinite then .number (Layout.json.ofFloat value) else .null
  read?
    | .number numeral => numeral.scaled?
    | _ => none

/-- A way to write values of a type as trees and to read them back. -/
structure Codec (α : Type) where
  encode : α → Json
  decode? : (room : Nat) → Json → Option α

namespace Codec

variable {α β : Type}

def string : Codec String where
  encode := Json.ofString
  decode? _ tree := tree.text?

def bool : Codec Bool where
  encode := .bool
  decode?
    | _, .bool value => some value
    | _, _ => none

def natBelow (bound : Nat) : Codec Nat where
  encode := Json.ofNat
  decode?
    | _, .number numeral => numeral.natural?.filter (· < bound)
    | _, _ => none

def count : Codec Nat := natBelow (Nat.pow 2 64)

def word32 : Codec UInt32 where
  encode value := Json.ofNat value.toNat
  decode? room tree := ((natBelow (Nat.pow 2 32)).decode? room tree).map UInt32.ofNat

def float (form : FloatForm) : Codec Float where
  encode := form.write
  decode? _ tree := form.read? tree

def nullable (codec : Codec α) : Codec (Option α) where
  encode
    | some value => codec.encode value
    | none => .null
  decode?
    | _, .null => some none
    | room, tree => (codec.decode? room tree).map some

def decodeItems? (codec : Codec α) (room : Nat) : List Json → Option (List α)
  | [] => some []
  | item :: rest => do
      let value ← codec.decode? room item
      let others ← decodeItems? codec room rest
      return value :: others

def list (codec : Codec α) : Codec (List α) where
  encode values := .array (values.map codec.encode)
  decode?
    | room + 1, .array items => codec.decodeItems? room items
    | _, _ => none

def decodeMembers? (codec : Codec α) (room : Nat) :
    List (List Char × Json) → Option (List (String × α))
  | [] => some []
  | (written, tree) :: rest => do
      let name ← Json.Quoted.unescape? written
      let value ← codec.decode? room tree
      let others ← decodeMembers? codec room rest
      return (String.ofList name, value) :: others

/-- Maps as objects with ordered names; of several members with one name the last counts. -/
def stringMap (codec : Codec α) : Codec (StringMap α) where
  encode map := .object (map.entries.map fun entry => Json.member entry.1 (codec.encode entry.2))
  decode?
    | room + 1, .object members => (codec.decodeMembers? room members).map StringMap.ofList
    | _, _ => none

/-- A closed set of names. A name may also stand as the only member of an object, with `null`. -/
def named (values : List α) (name : α → String) : Codec α where
  encode value := .string (Json.Quoted.escape (name value).toList)
  decode?
    | _ + 1, .object [(written, .null)] =>
        (Json.Quoted.unescape? written).bind fun text =>
          values.find? fun value => name value == String.ofList text
    | _, tree => tree.text?.bind fun text => values.find? fun value => name value == text

def write (codec : Codec α) (value : α) : String := (codec.encode value).compact

def read? (codec : Codec α) (text : String) : Option α :=
  (Json.parse? text).bind (codec.decode? Json.nestingLimit)

end Codec

end VariablePay
