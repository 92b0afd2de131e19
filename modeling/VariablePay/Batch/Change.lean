import VariablePay.Batch.Record

set_option autoImplicit false

/-!
# Changes of a batch

What can happen to the record of a batch, as data: a history is a list of changes.
-/

namespace VariablePay

inductive BatchChange where
  | enter (phase : RunPhase)
  | fail (reason : String)
  /-- The lifecycle moves on, unless it is at its end. -/
  | advance
  | measure (entityCount : Nat) (summary : BatchSummary)
  deriving DecidableEq

namespace CalculationBatch

def apply (batch : CalculationBatch) (now : Timestamp) :
    BatchChange → Except IllegalMove CalculationBatch
  | .enter phase => batch.enter phase
  | .fail reason => batch.fail reason now
  | .advance => .ok (batch.advance?.getD batch)
  | .measure entityCount summary =>
      .ok { batch with entityCount := entityCount, summary := summary }

/-- The notes on a change that the record can make. -/
def changeNotes (batch : CalculationBatch) : BatchChange → List Note
  | .enter phase => [batch.phaseNote phase]
  | .fail _ => if batch.phase = .failed then [] else [batch.phaseNote .failed]
  | .advance => []
  | .measure .. => []

end CalculationBatch

end VariablePay
