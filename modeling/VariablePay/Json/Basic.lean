import VariablePay.Decimal.Layout

set_option autoImplicit false

/-!
# JSON trees and their texts

A tree keeps what a JSON text says without deciding what it means: the members of an object stand
in written order with repetitions, and a string keeps its escapes until its text is asked for
(`VariablePay.Json.Quoted`). Trees are written compactly or with one member or item a line.
-/

namespace VariablePay

/-- A JSON value as written. -/
inductive Json where
  | null
  | bool (value : Bool)
  | number (numeral : Numeral)
  /-- The characters between the quotes, with their escapes. -/
  | string (written : List Char)
  | array (items : List Json)
  | object (members : List (List Char × Json))
  deriving Inhabited

namespace Json

def quoted (written : List Char) : List Char := '"' :: written ++ ['"']

mutual

def text : Json → List Char
  | null => "null".toList
  | bool true => "true".toList
  | bool false => "false".toList
  | number numeral => numeral.text
  | string written => quoted written
  | array items => '[' :: itemsText items ++ [']']
  | object members => '{' :: membersText members ++ ['}']

def itemsText : List Json → List Char
  | [] => []
  | [item] => item.text
  | item :: next :: rest => item.text ++ ',' :: itemsText (next :: rest)

def membersText : List (List Char × Json) → List Char
  | [] => []
  | [member] => memberText member
  | member :: next :: rest => memberText member ++ ',' :: membersText (next :: rest)

/-- The text of a member: its name, a colon and its value. -/
def memberText : List Char × Json → List Char
  | (name, value) => quoted name ++ ':' :: value.text

end

/-- A new line, indented by two blanks a level. -/
def newLine (level : Nat) : List Char := '\n' :: List.replicate (2 * level) ' '

mutual

/-- The text of a tree with every item and member on a line of its own. -/
def linesText (level : Nat) : Json → List Char
  | array [] => "[]".toList
  | array (item :: rest) =>
      '[' :: (itemLines (level + 1) (item :: rest) ++ newLine level ++ [']'])
  | object [] => "{}".toList
  | object (member :: rest) =>
      '{' :: (memberLines (level + 1) (member :: rest) ++ newLine level ++ ['}'])
  | null => "null".toList
  | bool true => "true".toList
  | bool false => "false".toList
  | number numeral => numeral.text
  | string written => quoted written

def itemLines (level : Nat) : List Json → List Char
  | [] => []
  | [item] => newLine level ++ item.linesText level
  | item :: next :: rest =>
      newLine level ++ item.linesText level ++ ',' :: itemLines level (next :: rest)

def memberLines (level : Nat) : List (List Char × Json) → List Char
  | [] => []
  | [member] => newLine level ++ memberLine level member
  | member :: next :: rest =>
      newLine level ++ memberLine level member ++ ',' :: memberLines level (next :: rest)

/-- A member with a blank after its colon. -/
def memberLine (level : Nat) : List Char × Json → List Char
  | (name, value) => quoted name ++ ':' :: ' ' :: value.linesText level

end

def compact (tree : Json) : String := String.ofList tree.text

def pretty (tree : Json) : String := String.ofList (tree.linesText 0)

end Json

end VariablePay
