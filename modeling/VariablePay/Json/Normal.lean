import VariablePay.Json.Codec

set_option autoImplicit false

/-!
# Normal forms of trees

The normal form of a tree says the same in one way: the members of an object stand once each, in
the order of their names, of several members with one name the last counts; strings are escaped
where they have to be and nowhere else; a number is an integer of 64 bits or stands in the layout of
doubles. Strings without a text and numbers beyond the doubles stay as they are.
-/

namespace VariablePay.Json

/-- Whether a numeral is an integer of 64 bits, with or without a sign. -/
def isWord (numeral : Numeral) : Bool :=
  numeral.isInteger &&
    if numeral.negative then decide (0 < numeral.whole ∧ numeral.whole ≤ Nat.pow 2 63)
    else decide (numeral.whole < Nat.pow 2 64)

def normalNumber (numeral : Numeral) : Numeral :=
  if isWord numeral then numeral
  else
    match numeral.scaled? with
    | some value => Layout.json.ofFloat value
    | none => numeral

def normalString (written : List Char) : List Char :=
  match Quoted.unescape? written with
  | some text => Quoted.escape text
  | none => written

/-- The text of a name, or the name as written if it has none. -/
def nameText (written : List Char) : String :=
  String.ofList ((Quoted.unescape? written).getD written)

/-- Members in the order of their names, the last one under each. -/
def ordered (members : List (String × Json)) : List (List Char × Json) :=
  (StringMap.ofList members).entries.map fun entry => member entry.1 entry.2

mutual

/-- The normal form of a tree. -/
def normal : Json → Json
  | .null => .null
  | .bool value => .bool value
  | .number numeral => .number (normalNumber numeral)
  | .string written => .string (normalString written)
  | .array items => .array (normalItems items)
  | .object members => .object (ordered (normalMembers members))

def normalItems : List Json → List Json
  | [] => []
  | item :: rest => normal item :: normalItems rest

def normalMembers : List (List Char × Json) → List (String × Json)
  | [] => []
  | member :: rest => normalMember member :: normalMembers rest

def normalMember : List Char × Json → String × Json
  | (written, value) => (nameText written, normal value)

end

end VariablePay.Json
