import VariablePay.CommandLine.Command
import VariablePay.CommandLine.DatabaseName
import VariablePay.CommandLine.Location

set_option autoImplicit false

/-!
# Folders in memory

The working folder and its surroundings hold texts and ledgers at locations. Folders exist as far as
locations lead through them; the usual folders stand under the root, and every folder above the
working folder exists.

A text is read along its path, step by step, and every step has to be there. A database is located
by its path as a whole: a step that `..` takes back does not have to be there. While a shared
database is open, a log and an index stand beside it.
-/

namespace VariablePay

inductive FolderEntry where
  | text (content : String)
  | ledger (ledger : Ledger) (isShared : Bool)
  /-- Bytes that are neither a text nor a database. -/
  | binary
  /-- A file of the system, with nothing in it that a command could use. -/
  | foreign
  deriving DecidableEq

/-- The working folder with everything in it and around it. -/
structure Folder where
  entries : List (Location × FolderEntry)
  deriving DecidableEq

namespace Folder

/-- The files that stand in every system. -/
def systemFiles : List Location :=
  ["/dev/null", "/dev/stderr", "/dev/stdin", "/dev/stdout", "/etc/hostname", "/etc/hosts",
    "/etc/passwd"].map Location.ofText

/-- The folders that stand in every system. -/
def systemFolders : List Location :=
  ["/bin", "/boot", "/dev", "/dev/shm", "/etc", "/home", "/lib", "/media", "/mnt", "/opt", "/proc",
    "/root", "/run", "/sbin", "/srv", "/sys", "/tmp", "/usr", "/usr/bin", "/usr/lib", "/usr/local",
    "/var", "/var/lib", "/var/log", "/var/tmp"].map Location.ofText

/-- The folders in which no file can be made. -/
def closedFolders : List Location := ["/proc", "/sys"].map Location.ofText

def fresh : Folder := ⟨systemFiles.map fun location => (location, .foreign)⟩

def find? (folder : Folder) (location : Location) : Option FolderEntry :=
  folder.entries.lookup location

def remove (folder : Folder) (location : Location) : Folder :=
  ⟨folder.entries.filter fun entry => entry.1 != location⟩

def put (folder : Folder) (location : Location) (content : FolderEntry) : Folder :=
  ⟨(location, content) :: (folder.remove location).entries⟩

def isFolder (folder : Folder) (location : Location) : Bool :=
  location.steps.isEmpty || folder.entries.any (fun entry => entry.1.isBelow location) ||
    systemFolders.contains location

/-- Whether a location is that of a folder in which files can be made. -/
def isOpenFolder (folder : Folder) (location : Location) : Bool :=
  folder.isFolder location && !closedFolders.contains location

def contains (folder : Folder) (location : Location) : Bool :=
  folder.isFolder location || (folder.find? location).isSome

/-! ## Reading -/

def longestName : Nat := 255

def longestPath : Nat := 4095

/-- Goes a step from what is there to what is there. -/
def enter (folder : Folder) (here : Location) (step : Bytes) : Except FileFault Location :=
  if !folder.isFolder here then .error .notFolder
  else if longestName < step.length then .error .nameTooLong
  else
    let next := here.follow step
    if folder.contains next then .ok next else .error .missing

def locate (folder : Folder) (path : Bytes) : Except FileFault Location :=
  if path.isEmpty then .error .missing
  else if longestPath < path.length then .error .nameTooLong
  else (Location.stepsOf path).foldlM folder.enter (Location.startOf path)

def read (folder : Folder) (path : String) : Except FileFault String := do
  match folder.find? (← folder.locate (Bytes.ofText path)) with
  | some (.text content) => return content
  | some (.ledger ..) => throw .notText
  | some .binary => throw .notText
  | some .foreign => return ""
  | none => throw .folder

/-! ## Databases -/

/-- The longest path from the root to a database, in bytes; a journal beside it takes eight more. -/
def longestDatabasePath : Nat := 504

/-- The longest path from the root on the way to a database, in bytes. -/
def longestPathToDatabase : Nat := 511

/-- The longest name of a database beside which there is room for the name of a journal. -/
def longestDatabaseName : Nat := longestName - 8

/-- Goes a step on the path of a database. A step that is not there is gone all the same, but
nothing is looked for in a file and no name or path too long is looked up. -/
def enterDatabase? (folder : Folder) (here : Location) (step : Bytes) : Option Location :=
  let next := here.follow step
  if next.steps.length ≤ here.steps.length then some next
  else if (folder.find? here).isSome then none
  else if folder.isFolder here && longestName < step.length then none
  else if longestPathToDatabase < next.byteLength then none
  else some next

def databaseLocation? (folder : Folder) (path : Bytes) : Option Location :=
  ((Location.stepsOf path).foldlM folder.enterDatabase? (Location.startOf path)).filter
    fun location => location.byteLength ≤ longestDatabasePath

/-! ### What stands beside a database -/

/-- Where the journal of a database stands while it changes. -/
def journalOf (location : Location) : Location := location.beside "-journal"

/-- Where the log of a shared database stands while it is open. -/
def logOf (location : Location) : Location := location.beside "-wal"

/-- Where the index of a shared database stands while it is open. -/
def indexOf (location : Location) : Location := location.beside "-shm"

/-- Whether there is something at a location other than an empty file. -/
def isFilled (folder : Folder) (location : Location) : Bool :=
  folder.isFolder location ||
    match folder.find? location with
    | some (.text content) => !content.isEmpty
    | some _ => true
    | none => false

/-- Whether a folder stands in the way of what an access needs beside a database. One that keeps
others out needs no index. -/
def isObstructed (folder : Folder) (name : DatabaseName) (location : Location) : Bool :=
  folder.isFolder (journalOf location) || folder.isFolder (logOf location) ||
    (name.isShared && decide (name.layer = .shared) && folder.isFolder (indexOf location))

/-- Whether a shared ledger stands at a location. -/
def hasSharedLedger (folder : Folder) (location : Location) : Bool :=
  match folder.find? location with
  | some (.ledger _ isShared) => isShared
  | _ => false

/-- The folder without what stood beside a database before it was opened for writing. An empty
journal is left alone as long as no journal is needed: one is for a change outside of a log, and for
keeping a ledger in the shared form from now on. -/
def withoutRemains (folder : Folder) (name : DatabaseName) (location : Location)
    (isWritten : Bool) : Folder :=
  let isUsed := isWritten || (name.isShared && !folder.hasSharedLedger location)
  let cleared :=
    if isUsed || folder.isFilled (journalOf location) then folder.remove (journalOf location)
    else folder
  if !name.isShared && folder.isFilled (logOf location) then cleared.remove (logOf location)
  else cleared

/-- The folder while a shared database is open. The log is there before anything is written to it.
An access that keeps others out makes no index. -/
def withCompanions (folder : Folder) (name : DatabaseName) (location : Location)
    (isWritten : Bool) : Folder :=
  if !name.isShared then folder
  else
    let log :=
      if isWritten then .binary else (folder.find? (logOf location)).getD (.text "")
    let logged := folder.put (logOf location) log
    if name.layer = .exclusive then logged else logged.put (indexOf location) .binary

def withoutCompanions (folder : Folder) (name : DatabaseName) (location : Location)
    (isWritten : Bool) : Folder :=
  if !name.isShared then if isWritten then folder.remove (journalOf location) else folder
  else
    let rest := folder.remove (logOf location)
    if name.layer = .exclusive then rest else rest.remove (indexOf location)

/-! ### Opening and closing -/

/-- A database as it was opened, and its location if something stands beside it or changes. -/
structure OpenDatabase where
  opening : Opening
  location : Option Location

def OpenDatabase.refused : OpenDatabase := ⟨.refused, none⟩

/-- Opens a database in which nothing is kept yet. -/
def openBlank (folder : Folder) (name : DatabaseName) (location : Location) : OpenDatabase :=
  if name.isReadOnly then ⟨.readOnly .blank, none⟩
  else if folder.isObstructed name location || longestDatabaseName < location.name.length then
    .refused
  else ⟨.writable .blank, some location⟩

/-- Opens a ledger in its file. A log can be read only by a shared access. A journal tells of a
change that has to be taken back, which is not done when the ledger is only read. -/
def openLedger (folder : Folder) (name : DatabaseName) (location : Location) (ledger : Ledger)
    (isShared : Bool) : OpenDatabase :=
  let isLogged := isShared || folder.isFilled (logOf location)
  if name.isImmutable then ⟨.readOnly ledger, none⟩
  else if (isLogged && !name.isShared) || folder.isObstructed name location then .refused
  else if !name.isReadOnly then ⟨.writable ledger, some location⟩
  else if folder.isFilled (journalOf location) then .refused
  else ⟨.readOnly ledger, if isLogged then some location else none⟩

/-- Opens the database at a location and gives the folder afterwards, in which a missing file is
made. A text of a single byte counts as none. -/
def openAt (folder : Folder) (name : DatabaseName) (location : Location) : Folder × OpenDatabase :=
  match folder.find? location with
  | some (.ledger ledger isShared) => (folder, folder.openLedger name location ledger isShared)
  | some (.text content) =>
      (folder, if content.utf8ByteSize ≤ 1 then folder.openBlank name location else .refused)
  | some _ => (folder, .refused)
  | none =>
      if folder.isFolder location || !folder.isOpenFolder location.parent ||
          decide (name.mode ≠ .creating) then
        (folder, .refused)
      else (folder.put location (.text ""), folder.openBlank name location)

/-- Opens a database and gives the folder afterwards. -/
def openDatabase (folder : Folder) (name : DatabaseName) : Folder × OpenDatabase :=
  if name.isPassing then
    (folder, ⟨if name.isReadOnly then .readOnly .blank else .writable .blank, none⟩)
  else if name.model.any fun path => (folder.locate path).toOption.isNone then (folder, .refused)
  else
    match folder.databaseLocation? name.path with
    | some location => folder.openAt name location
    | none => (folder, .refused)

def keepOpen (folder : Folder) (name : DatabaseName) : OpenDatabase → Folder
  | ⟨.writable ledger, some location⟩ =>
      let isWritten := decide (ledger.migrated ≠ ledger)
      ((folder.withoutRemains name location isWritten).put location
        (.ledger ledger.migrated name.isShared)).withCompanions name location isWritten
  | ⟨.readOnly _, some location⟩ => folder.withCompanions name location false
  | _ => folder

/-- The folder after a database was closed. What is only read leaves log and index behind. -/
def close (folder : Folder) (name : DatabaseName) (database : OpenDatabase)
    (outcome : CommandOutcome) : Folder :=
  match database, outcome.ledger with
  | ⟨.writable opened, some location⟩, some ledger =>
      (folder.put location (.ledger ledger name.isShared)).withoutCompanions name location
        (decide (ledger ≠ opened))
  | _, _ => folder

/-! ## Commands -/

/-- Carries out a command on the database that its name describes. The ledger is open when the
fixture is read. -/
def executeOn (folder : Folder) (arguments : Arguments) (name : DatabaseName)
    (inputs : CommandInputs) : Folder × CommandOutcome :=
  let (found, database) := folder.openDatabase name
  let during := found.keepOpen name database
  let outcome := arguments.execute
    { inputs with
      fixture := during.read (arguments.fixture.getD "")
      opening := database.opening }
  (during.close name database outcome, outcome)

/-- Carries out a command in a folder. No database is touched unless the settings are good. -/
def execute (folder : Folder) (arguments : Arguments) (batchId : String) (now : Timestamp) :
    Folder × CommandOutcome :=
  let inputs : CommandInputs :=
    { settings := folder.read arguments.settings
      fixture := .error .missing
      opening := .refused
      batchId := batchId
      now := now }
  match arguments.loadSettings inputs, DatabaseName.ofText? arguments.database with
  | .ok _, some name => folder.executeOn arguments name inputs
  | _, _ => (folder, arguments.execute inputs)

end Folder

end VariablePay
