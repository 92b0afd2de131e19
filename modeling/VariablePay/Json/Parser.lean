import VariablePay.Json.Basic
import VariablePay.Json.Quoted

set_option autoImplicit false

/-!
# Reading JSON texts

A text is one value between blanks. Reading is by descent, with a bound on the number of steps that
the length of the text supplies.
-/

namespace VariablePay.Json

/-- Whether a character may stand between the parts of a JSON text. -/
def isBlank (char : Char) : Bool := char = ' ' || char = '\n' || char = '\t' || char = '\r'

def skipBlanks (text : List Char) : List Char := text.dropWhile isBlank

def readNumber? (text : List Char) : Option (Json × List Char) :=
  (Numeral.read? text).map fun split => (number split.1, split.2)

mutual

/-- Reads a value from the start of a text, in at most `steps` steps. -/
def readValue? : (steps : Nat) → List Char → Option (Json × List Char)
  | 0, _ => none
  | steps + 1, text =>
      match skipBlanks text with
      | 'n' :: 'u' :: 'l' :: 'l' :: rest => some (null, rest)
      | 't' :: 'r' :: 'u' :: 'e' :: rest => some (bool true, rest)
      | 'f' :: 'a' :: 'l' :: 's' :: 'e' :: rest => some (bool false, rest)
      | '"' :: rest => (Quoted.read? rest).map fun split => (string split.1, split.2)
      | '[' :: rest =>
          match skipBlanks rest with
          | ']' :: after => some (array [], after)
          | items => (readItems? steps items).map fun split => (array split.1, split.2)
      | '{' :: rest =>
          match skipBlanks rest with
          | '}' :: after => some (object [], after)
          | members => (readMembers? steps members).map fun split => (object split.1, split.2)
      | other => readNumber? other

/-- Reads items up to the closing bracket. -/
def readItems? : (steps : Nat) → List Char → Option (List Json × List Char)
  | 0, _ => none
  | steps + 1, text =>
      match readValue? steps text with
      | none => none
      | some (item, rest) =>
          match skipBlanks rest with
          | ',' :: more => (readItems? steps more).map fun split => (item :: split.1, split.2)
          | ']' :: after => some ([item], after)
          | _ => none

/-- Reads members up to the closing brace. -/
def readMembers? : (steps : Nat) → List Char → Option (List (List Char × Json) × List Char)
  | 0, _ => none
  | steps + 1, text =>
      match skipBlanks text with
      | '"' :: afterQuote =>
          match Quoted.read? afterQuote with
          | none => none
          | some (name, afterName) =>
              match skipBlanks afterName with
              | ':' :: afterColon =>
                  match readValue? steps afterColon with
                  | none => none
                  | some (value, rest) =>
                      match skipBlanks rest with
                      | ',' :: more =>
                          (readMembers? steps more).map fun split =>
                            ((name, value) :: split.1, split.2)
                      | '}' :: after => some ([(name, value)], after)
                      | _ => none
              | _ => none
      | _ => none

end

/-- The tree of a text that is one JSON value and nothing else. -/
def ofChars? (text : List Char) : Option Json :=
  match readValue? (2 * text.length + 2) text with
  | some (tree, rest) => if (skipBlanks rest).isEmpty then some tree else none
  | none => none

def parse? (text : String) : Option Json := ofChars? text.toList

end VariablePay.Json
