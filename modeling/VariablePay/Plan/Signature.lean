import VariablePay.Digest
import VariablePay.Plan.Codec

set_option autoImplicit false

/-!
# Pattern signatures

A signature identifies the shape of a component: its kind and configuration, not its id, name,
ordinal or whether it is enabled. It is the digest of the configuration's canonical text, in which
members are ordered by name and every zero is written `0`.
-/

namespace VariablePay

abbrev Signature := String

namespace Json

/-- The text that orders a member: its name without escapes. -/
def orderText (member : List Char × Json) : String :=
  String.ofList ((Quoted.unescape? member.1).getD member.1)

/-- Inserts a member before the first one with a greater name. -/
def insertMember (member : List Char × Json) : List (List Char × Json) → List (List Char × Json)
  | [] => [member]
  | next :: rest =>
      if orderText member < orderText next then member :: next :: rest
      else next :: insertMember member rest

mutual

/-- The tree with the members of every object in the order of their names and every number of
value zero written `0`. -/
def canonical : Json → Json
  | .null => .null
  | .bool value => .bool value
  | .number numeral =>
      if numeral.magnitude.coefficient = 0 then .number (.ofNat 0) else .number numeral
  | .string written => .string written
  | .array items => .array (canonicalItems items)
  | .object members => .object (canonicalMembers members)

def canonicalItems : List Json → List Json
  | [] => []
  | item :: rest => canonical item :: canonicalItems rest

/-- Canonical members, ordered by name. -/
def canonicalMembers : List (List Char × Json) → List (List Char × Json)
  | [] => []
  | member :: rest => insertMember (canonicalMember member) (canonicalMembers rest)

def canonicalMember : List Char × Json → List Char × Json
  | (name, value) => (name, canonical value)

end

end Json

namespace ComponentConfig

def canonicalText (config : ComponentConfig) : String :=
  ((codec .number).encode config).canonical.compact

/-- The signature of a configuration: its kind and the digest of its canonical text. -/
def signature (config : ComponentConfig) : Signature :=
  config.kind.name ++ ":" ++ Digest.hex config.canonicalText

end ComponentConfig

end VariablePay
