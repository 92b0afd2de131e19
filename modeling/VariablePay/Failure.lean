import VariablePay.Plan.Fault

set_option autoImplicit false

/-!
# Failures of runs and stores
-/

namespace VariablePay

/-- Why tables refuse an access. -/
inductive TableFault where
  | missingTable
  | missingValue (column : String)
  | missingReference
  | refusedValue
  | readOnly
  /-- What is kept are no tables, or they cannot be reached. -/
  | unreachable
  deriving DecidableEq

def TableFault.message : TableFault → String
  | missingTable => "no such table"
  | missingValue column => s!"NOT NULL constraint failed: {column}"
  | missingReference => "FOREIGN KEY constraint failed"
  | refusedValue => "CHECK constraint failed"
  | readOnly => "attempt to write a readonly database"
  | unreachable => "unable to open database file"

inductive Failure where
  | database (fault : TableFault)
  /-- A stored text does not hold what it should. -/
  | serialization
  | ruleSetNotFound (ruleSetId : String)
  | plan (fault : PlanFault)
  | persistence (subject reason : String)
  /-- A failure that a store puts in its own words. -/
  | other (text : String)
  deriving DecidableEq

namespace Failure

def message : Failure → String
  | database fault => s!"Database error: {fault.message}"
  | serialization => "Serialization error"
  | ruleSetNotFound ruleSetId => s!"Rule set '{ruleSetId}' not found"
  | plan fault => fault.message
  | persistence subject reason => s!"Persistence of {subject} failed: {reason}"
  | other text => text

end Failure

end VariablePay
