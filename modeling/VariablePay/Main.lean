import Std.Time.DateTime.Timestamp
import VariablePay.Batch.Id
import VariablePay.CommandLine.Command
import VariablePay.CommandLine.DatabaseName
import VariablePay.CommandLine.Location
import VariablePay.Ledger.Archive

set_option autoImplicit false

/-!
# The command line

Reads the files that the arguments name, carries out the command, prints what it prints and keeps
its ledger.
-/

namespace VariablePay.CommandLine

/-- Why the system does not read a file. -/
def faultOf : IO.Error → FileFault
  | .noFileOrDirectory .. => .missing
  | .inappropriateType _ _ details =>
      if details.toLower = "is a directory" then .folder
      else if details.toLower = "not a directory" then .notFolder
      else .other details
  | error => .other (toString error)

def readText (path : String) : BaseIO (Except FileFault String) := do
  match ← (IO.FS.readBinFile path).toBaseIO with
  | .error error => return .error (faultOf error)
  | .ok bytes =>
      match String.fromUTF8? bytes with
      | some text => return .ok text
      | none => return .error .notText

/-- The path of the file of a database; none for one without a file and for one whose path is no
text. -/
def pathOf? (name : DatabaseName) : Option String :=
  if name.isPassing then none else (Location.ofPath name.path).path.text?

/-- Whether the file is there that lends its permissions, if one is named. -/
def isModelThere (name : DatabaseName) : BaseIO Bool := do
  match name.model with
  | none => return true
  | some path =>
      match path.text? with
      | some text => return (← (IO.FS.realPath text).toBaseIO).toOption.isSome
      | none => return false

/-- Opens the ledger of a database, whose file is made if it is missing. -/
def openLedger (name : DatabaseName) : BaseIO Opening := do
  let access (ledger : Ledger) : Opening :=
    if name.isReadOnly then .readOnly ledger else .writable ledger
  if name.isPassing then return access .blank
  let some path := pathOf? name | return .refused
  if !(← isModelThere name) then return .refused
  match ← readText path with
  | .ok text =>
      if text.utf8ByteSize ≤ 1 then return access .blank
      else return ((Ledger.ofArchive? text).map access).getD .refused
  | .error .missing =>
      if name.mode ≠ .creating then return .refused
      match ← (IO.FS.writeFile path "").toBaseIO with
      | .ok _ => return access .blank
      | .error _ => return .refused
  | .error _ => return .refused

def keepLedger (name : DatabaseName) (ledger : Ledger) : IO Unit := do
  match pathOf? name with
  | some path => IO.FS.writeFile path ledger.archive
  | none => pure ()

/-- Opens the ledger that the arguments name. It is there before the fixture is read. -/
def openNamed (arguments : Arguments) : IO Opening := do
  match DatabaseName.ofText? arguments.database with
  | none => return .refused
  | some name =>
      let opening ← openLedger name
      match opening with
      | .writable ledger => keepLedger name ledger.migrated
      | _ => pure ()
      return opening

/-- What the arguments lead to. The ledger is opened only for good settings. -/
def collectInputs (arguments : Arguments) : IO CommandInputs := do
  let settings ← readText arguments.settings
  let batchId := BatchId.ofBytes (← IO.getRandomBytes 16).toList
  let seconds := (← Std.Time.Timestamp.now).toSecondsSinceUnixEpoch.val.toNat
  let inputs : CommandInputs := ⟨settings, .error .missing, .refused, batchId, .ofSeconds seconds⟩
  match arguments.loadSettings inputs with
  | .error _ => return inputs
  | .ok _ =>
      let opening ← openNamed arguments
      let fixture ← readText (arguments.fixture.getD "")
      return { inputs with opening := opening, fixture := fixture }

end VariablePay.CommandLine

open VariablePay in
def main (words : List String) : IO UInt32 := do
  let arguments := Arguments.ofWords words
  let outcome := arguments.execute (← CommandLine.collectInputs arguments)
  IO.print outcome.output
  match outcome.ledger, DatabaseName.ofText? arguments.database with
  | some ledger, some name => CommandLine.keepLedger name ledger
  | _, _ => pure ()
  match outcome.fault with
  | none => return 0
  | some fault =>
      IO.eprintln s!"Error: {fault.message}"
      return 1
