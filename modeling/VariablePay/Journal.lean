set_option autoImplicit false

/-!
# Journal notes

What a run has to tell besides its result: lines of text with a level.
-/

namespace VariablePay

inductive NoteLevel where
  | debug
  | info
  | warn
  | error
  deriving DecidableEq

structure Note where
  level : NoteLevel
  text : String
  deriving DecidableEq

end VariablePay
