import VariablePay.CommandLine.Arguments
import VariablePay.CommandLine.Fixture
import VariablePay.CommandLine.Report
import VariablePay.Ledger.Run

set_option autoImplicit false

/-!
# Commands

A command reads its settings, opens its ledger, imports its fixture if it has one, and makes one
batch. What it prints before a failure stays printed, and what it has kept in the ledger stays kept.
-/

namespace VariablePay

inductive FileFault where
  | missing
  | folder
  | notFolder
  | nameTooLong
  | notText
  /-- Another reason, in the words of the system. -/
  | other (reason : String)
  deriving DecidableEq

def FileFault.message : FileFault → String
  | missing => "No such file or directory (os error 2)"
  | folder => "Is a directory (os error 21)"
  | notFolder => "Not a directory (os error 20)"
  | nameTooLong => "File name too long (os error 36)"
  | notText => "stream did not contain valid UTF-8"
  | other reason => reason

inductive Opening where
  | refused
  | readOnly (ledger : Ledger)
  | writable (ledger : Ledger)

/-- What the arguments of a command lead to outside of it. -/
structure CommandInputs where
  settings : Except FileFault String
  fixture : Except FileFault String
  opening : Opening
  batchId : String
  now : Timestamp

inductive CommandFault where
  | settings (refusal : ConfigRefusal)
  | unreadable (path : String) (fault : FileFault)
  | malformedFixture
  /-- A flag is missing that no fixture stands in for. -/
  | missing (flag : String)
  /-- The ledger cannot be opened or does not take the fixture. -/
  | ledger (cause : Failure)
  | run (fault : RunFault)

def CommandFault.message : CommandFault → String
  | settings refusal => refusal.message
  | unreadable path fault => s!"Cannot read {path}: {fault.message}"
  | malformedFixture => "Serialization error"
  | missing flag => s!"{flag} is required without a fixture"
  | ledger cause => cause.message
  | run (.failure cause) => cause.message
  | run (.illegalMove move) => move.message
  | run .endlessPages => "pages without end"

structure CommandOutcome where
  output : String
  fault : Option CommandFault
  /-- The ledger afterwards, if it was opened for writing. -/
  ledger : Option Ledger

namespace Arguments

def loadSettings (arguments : Arguments) (inputs : CommandInputs) :
    Except CommandFault CalcConfig :=
  match inputs.settings with
  | .error fault => .error (.settings (.unreadable arguments.settings fault.message))
  | .ok text => (CalcConfig.load text).mapError .settings

def loadFixture (arguments : Arguments) (inputs : CommandInputs) :
    Except CommandFault (Option Fixture) :=
  match arguments.fixture with
  | none => .ok none
  | some path =>
      match inputs.fixture with
      | .error fault => .error (.unreadable path fault)
      | .ok text =>
          match (Fixture.codec .number).read? text with
          | some fixture => .ok (some fixture)
          | none => .error .malformedFixture

def wordOr (flag : String) (word fromFixture : Option String) : Except CommandFault String :=
  match word.or fromFixture with
  | some text => .ok text
  | none => .error (.missing flag)

/-- The batch to make: what a flag does not say, the fixture says. -/
def runRequest (arguments : Arguments) (inputs : CommandInputs) (fixture : Option Fixture) :
    Except CommandFault RunRequest := do
  let tenant ← wordOr "--tenant" arguments.tenant (fixture.map Fixture.tenantId)
  let period ← wordOr "--period" arguments.period (fixture.map Fixture.periodId)
  let ruleSet ← wordOr "--rule-set" arguments.ruleSet
    ((fixture.bind fun fixture => fixture.ruleSets.head?).map RuleSet.id)
  return ⟨inputs.batchId, tenant, period, ruleSet, inputs.now⟩

/-- Imports the fixture into a ledger that is open, and gives the batch to make. -/
def prepare (arguments : Arguments) (inputs : CommandInputs) :
    Activity CommandFault Ledger RunRequest := do
  Activity.modify Ledger.migrated
  match ← Activity.ofExcept (arguments.loadFixture inputs) with
  | none => Activity.ofExcept (arguments.runRequest inputs none)
  | some fixture =>
      fixture.load.mapError CommandFault.ledger
      Activity.ofExcept (arguments.runRequest inputs (some fixture))

def headerText (arguments : Arguments) (request : RunRequest) : String :=
  if arguments.asJson then ""
  else Report.header arguments.database request.tenantId request.periodId request.ruleSetId

def resultText (arguments : Arguments) (result : RunResult) : String :=
  if arguments.asJson then ((RunResult.codec .number).encode result).pretty ++ "\n"
  else Report.ofResult result

/-- Carries out a command on a ledger that is open for writing. -/
def executeOn (arguments : Arguments) (inputs : CommandInputs) (config : CalcConfig)
    (ledger : Ledger) : CommandOutcome :=
  let prepared := arguments.prepare inputs ledger
  match prepared.result with
  | .error fault => ⟨"", some fault, some prepared.state⟩
  | .ok request =>
      let done := Ledger.run config request prepared.state
      match done.result with
      | .error fault => ⟨arguments.headerText request, some (.run fault), some done.state⟩
      | .ok result =>
          ⟨arguments.headerText request ++ arguments.resultText result, none, some done.state⟩

/-- What is printed by a command on a ledger that is only read. A missing table cannot be made, a
fixture cannot be imported, and a run fails with its first write. -/
def readOnlyOutput (arguments : Arguments) (inputs : CommandInputs) (ledger : Ledger) :
    Except CommandFault String :=
  if ledger.migrated ≠ ledger then .error (.ledger (.database .readOnly))
  else do
    match ← arguments.loadFixture inputs with
    | some _ => throw (.ledger (.database .readOnly))
    | none => return arguments.headerText (← arguments.runRequest inputs none)

def execute (arguments : Arguments) (inputs : CommandInputs) : CommandOutcome :=
  match arguments.loadSettings inputs, inputs.opening with
  | .error fault, _ => ⟨"", some fault, none⟩
  | .ok config, .writable ledger => arguments.executeOn inputs config ledger
  | .ok _, .readOnly ledger =>
      match arguments.readOnlyOutput inputs ledger with
      | .error fault => ⟨"", some fault, none⟩
      | .ok output => ⟨output, some (.ledger (.database .readOnly)), none⟩
  | .ok _, .refused => ⟨"", some (.ledger (.database .unreachable)), none⟩

end Arguments

end VariablePay
