set_option autoImplicit false

/-!
# Arguments of a command

A flag takes the word that follows its first occurrence, whatever that word is; words that belong
to no flag are passed over.
-/

namespace VariablePay

structure Arguments where
  database : String
  settings : String
  fixture : Option String
  tenant : Option String
  period : Option String
  ruleSet : Option String
  asJson : Bool
  deriving DecidableEq

namespace Arguments

/-- The word after the first occurrence of a flag that has a word after it. -/
def wordAfter? (flag : String) : List String → Option String
  | word :: next :: rest => if word = flag then some next else wordAfter? flag (next :: rest)
  | _ => none

/-- The name of the ledger that is not kept anywhere. -/
def inMemory : String := ":memory:"

def ofWords (words : List String) : Arguments where
  database := (wordAfter? "--db" words).getD inMemory
  settings := (wordAfter? "--config" words).getD "./data/calc_config.json"
  fixture := wordAfter? "--fixture" words
  tenant := wordAfter? "--tenant" words
  period := wordAfter? "--period" words
  ruleSet := wordAfter? "--rule-set" words
  asJson := words.contains "--json"

end Arguments

end VariablePay
