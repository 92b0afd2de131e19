set_option autoImplicit false

/-!
# Lifecycle and phase of a batch

The lifecycle is the business state of a batch; a run that succeeds moves it one step. The phase is
where the run stands; it only moves forward, and a run can fail from every phase that is not final.
-/

namespace VariablePay

/-- The business state of a batch. -/
inductive LifecycleState where
  | draft
  | preview
  | reconcile
  | official
  | pendingApproval
  | approved
  | posted
  | closed
  | paid
  | published
  deriving DecidableEq

namespace LifecycleState

def all : List LifecycleState :=
  [draft, preview, reconcile, official, pendingApproval, approved, posted, closed, paid, published]

def name : LifecycleState → String
  | draft => "DRAFT"
  | preview => "PREVIEW"
  | reconcile => "RECONCILE"
  | official => "OFFICIAL"
  | pendingApproval => "PENDING_APPROVAL"
  | approved => "APPROVED"
  | posted => "POSTED"
  | closed => "CLOSED"
  | paid => "PAID"
  | published => "PUBLISHED"

def ofName? (text : String) : Option LifecycleState := all.find? fun state => state.name == text

def next? : LifecycleState → Option LifecycleState
  | draft => some preview
  | preview => some reconcile
  | reconcile => some official
  | official => some pendingApproval
  | pendingApproval => some approved
  | approved => some posted
  | posted => some closed
  | closed => some paid
  | paid => some published
  | published => none

end LifecycleState

inductive RunPhase where
  | collectingInputs
  | evaluating
  | consolidating
  | complete
  | failed
  deriving DecidableEq

namespace RunPhase

def all : List RunPhase := [collectingInputs, evaluating, consolidating, complete, failed]

def name : RunPhase → String
  | collectingInputs => "COLLECTING_INPUTS"
  | evaluating => "EVALUATING"
  | consolidating => "CONSOLIDATING"
  | complete => "COMPLETE"
  | failed => "FAILED"

def ofName? (text : String) : Option RunPhase := all.find? fun phase => phase.name == text

def canMoveTo : RunPhase → RunPhase → Bool
  | collectingInputs, evaluating => true
  | evaluating, consolidating => true
  | consolidating, complete => true
  | collectingInputs, failed => true
  | evaluating, failed => true
  | consolidating, failed => true
  | _, _ => false

end RunPhase

structure IllegalMove where
  current : RunPhase
  next : RunPhase
  deriving DecidableEq

def IllegalMove.message (move : IllegalMove) : String :=
  s!"illegal run phase transition {move.current.name} -> {move.next.name}"

end VariablePay
