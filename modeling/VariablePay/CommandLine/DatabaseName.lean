import VariablePay.CommandLine.Arguments
import VariablePay.CommandLine.Bytes

set_option autoImplicit false

/-!
# Names of databases

The name of a database is the path of its file, or a reference that starts with `file:`. In a
reference the path ends before `?` or `#`; after `?` stand options, each a name and a value, up to
`#`. Parts may contain bytes in the form `%HH`. Options that mean nothing are passed over, but an
option that asks for what there is not makes the whole reference unusable.
-/

namespace VariablePay

/-- What may be done to the file of a database. -/
inductive AccessMode where
  | readOnly
  /-- Reading and writing, if the file is there. -/
  | existing
  /-- Reading and writing; a missing file is made. -/
  | creating
  /-- Everything happens in memory. -/
  | inMemory
  deriving DecidableEq

namespace AccessMode

def ofWord? (word : Bytes) : Option AccessMode :=
  match word.text? with
  | some "ro" => some readOnly
  | some "rw" => some existing
  | some "rwc" => some creating
  | some "memory" => some inMemory
  | _ => none

/-- How much a mode allows. Memory may always be asked for, and anything may follow it. -/
def rank : AccessMode → Nat
  | readOnly => 1
  | existing => 2
  | creating => 3
  | inMemory => 4

/-- The mode after an option for another one, which must not allow more. -/
def change? (current next : AccessMode) : Option AccessMode :=
  if next = inMemory ∨ next.rank ≤ current.rank then some next else none

end AccessMode

/-- By what means the file of a database is reached. -/
inductive FileLayer where
  | shared
  | exclusive
  | lockFile
  | unlocked
  | memory
  deriving DecidableEq

def FileLayer.ofWord? (word : Bytes) : Option FileLayer :=
  match word.text? with
  | some "unix" => some shared
  | some "unix-excl" => some exclusive
  | some "unix-dotfile" => some lockFile
  | some "unix-none" => some unlocked
  | some "memdb" => some memory
  | _ => none

structure DatabaseName where
  path : Bytes
  mode : AccessMode
  layer : FileLayer
  /-- Whether nobody else is told of accesses to the file. -/
  isUnlocked : Bool
  /-- Whether the file is taken to be one that never changes. -/
  isImmutable : Bool
  /-- The path of a file that lends the permissions for a new one, and so has to be there. -/
  model : Option Bytes
  deriving DecidableEq

namespace DatabaseName

def ofPath (path : Bytes) : DatabaseName := ⟨path, .creating, .shared, false, false, none⟩

/-- The reference after its authority, which is empty or the system itself. -/
def afterAuthority? (reference : Bytes) : Option Bytes :=
  match Bytes.parts '/'.toUInt8 reference with
  | [] :: [] :: authority :: _ =>
      if authority = [] ∨ authority = Bytes.ofText "localhost" then
        some (reference.drop (2 + authority.length))
      else none
  | _ => some reference

def option (written : Bytes) : Bytes × Bytes :=
  ((written.before '='.toUInt8).unescaped, (written.after '='.toUInt8).unescaped)

/-- The options of a query. Those without a name say nothing. -/
def optionsOf (query : Bytes) : List (Bytes × Bytes) :=
  ((query.parts '&'.toUInt8).map option).filter fun entry => entry.1 ≠ []

def valuesOf (options : List (Bytes × Bytes)) (name : String) : List Bytes :=
  (options.filter fun entry => entry.1 == Bytes.ofText name).map Prod.snd

/-- The mode that options leave. -/
def modeOf? (options : List (Bytes × Bytes)) : Option AccessMode :=
  (valuesOf options "mode").foldlM
    (fun mode word => (AccessMode.ofWord? word).bind mode.change?) .creating

/-- The layer that options name; the last one counts. -/
def layerOf? (options : List (Bytes × Bytes)) : Option FileLayer :=
  match (valuesOf options "vfs").getLast? with
  | some word => FileLayer.ofWord? word
  | none => some .shared

/-- Whether all options for a cache name one. -/
def areCachesKnown (options : List (Bytes × Bytes)) : Bool :=
  (valuesOf options "cache").all fun word =>
    word == Bytes.ofText "shared" || word == Bytes.ofText "private"

/-- The number that a word starts with: a hexadecimal one after `0x`, or else a decimal one. -/
def numberOf : Bytes → Nat
  | zero :: mark :: digit :: rest =>
      if zero = '0'.toUInt8 ∧ (mark = 'x'.toUInt8 ∨ mark = 'X'.toUInt8) ∧
          (Bytes.hexValue? digit).isSome then
        Bytes.leadingNumber Bytes.hexValue? 16 0 (digit :: rest)
      else Bytes.leadingNumber Bytes.digitValue? 10 0 (zero :: mark :: digit :: rest)
  | word => Bytes.leadingNumber Bytes.digitValue? 10 0 word

/-- Whether a word says yes. A number does unless it is zero in its last eight bits or beyond 31
bits. -/
def isYes (word : Bytes) : Bool :=
  if (word.head?.bind Bytes.digitValue?).isSome then
    let number := numberOf word
    number < Nat.pow 2 31 && number % 256 != 0
  else
    match word.text? with
    | some text => ["on", "yes", "true"].contains (String.ofList (text.toList.map Char.toLower))
    | none => false

/-- Whether an option is set; the first one counts. -/
def isSet (options : List (Bytes × Bytes)) (name : String) : Bool :=
  (valuesOf options name).head?.any isYes

def ofParts? (path : Bytes) (options : List (Bytes × Bytes)) : Option DatabaseName := do
  let mode ← modeOf? options
  let layer ← layerOf? options
  if areCachesKnown options then
    some
      { path := path
        mode := mode
        layer := layer
        isUnlocked := isSet options "nolock"
        isImmutable := isSet options "immutable"
        model := (valuesOf options "modeof").head? }
  else none

/-- The database of a reference, without the word that starts it. -/
def ofReference? (reference : Bytes) : Option DatabaseName := do
  let body := (← afterAuthority? reference).before '#'.toUInt8
  ofParts? (body.before '?'.toUInt8).unescaped (optionsOf (body.after '?'.toUInt8))

/-- The word that starts a reference. -/
def scheme : Bytes := Bytes.ofText "file:"

def ofText? (text : String) : Option DatabaseName :=
  let bytes := Bytes.ofText text
  if scheme.isPrefixOf bytes then ofReference? (bytes.drop scheme.length) else some (ofPath bytes)

def isUnfiled (name : DatabaseName) : Bool :=
  name.path.isEmpty || name.path == Bytes.ofText Arguments.inMemory ||
    decide (name.mode = .inMemory)

/-- Whether the database lasts only as long as a command works on it. -/
def isPassing (name : DatabaseName) : Bool := name.isUnfiled || decide (name.layer = .memory)

def isReadOnly (name : DatabaseName) : Bool :=
  decide (name.mode = .readOnly) || (name.isImmutable && !name.isUnfiled)

/-- Whether the file is used together with others. It is then kept in a form that only another such
access can read, or one to a file that never changes. -/
def isShared (name : DatabaseName) : Bool :=
  (decide (name.layer = .shared) || decide (name.layer = .exclusive)) && !name.isUnlocked

end DatabaseName

end VariablePay
