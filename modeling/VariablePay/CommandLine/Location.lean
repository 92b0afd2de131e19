import VariablePay.CommandLine.Bytes

set_option autoImplicit false

/-!
# Locations

A location is reached from the root of all folders or from a folder above the working folder. A
path has its steps between slashes.
-/

namespace VariablePay

inductive Origin where
  | root
  /-- The folder so many levels above the working folder. -/
  | above (levels : Nat)
  deriving DecidableEq

structure Location where
  origin : Origin
  steps : List Bytes
  deriving DecidableEq

namespace Location

def working : Location := ⟨.above 0, []⟩

/-- The folder that contains a location; the root contains itself. -/
def parent : Location → Location
  | ⟨.above levels, []⟩ => ⟨.above (levels + 1), []⟩
  | ⟨origin, steps⟩ => ⟨origin, steps.dropLast⟩

/-- What a folder contains under a name. -/
def child (location : Location) (step : Bytes) : Location :=
  { location with steps := location.steps ++ [step] }

/-- The last step; none at the origin. -/
def name (location : Location) : Bytes := (location.steps.getLast?).getD []

/-- What stands beside a file, under its name with something added. -/
def beside (location : Location) (suffix : String) : Location :=
  location.parent.child (location.name ++ Bytes.ofText suffix)

def isBelow (location folder : Location) : Bool :=
  decide (location.origin = folder.origin) && folder.steps.isPrefixOf location.steps &&
    decide (folder.steps.length < location.steps.length)

/-- The steps of a path; a slash at its start and every further slash give empty ones. -/
def stepsOf (path : Bytes) : List Bytes := path.parts '/'.toUInt8

def startOf (path : Bytes) : Location :=
  if path.head? = some '/'.toUInt8 then ⟨.root, []⟩ else working

/-- The step that leads nowhere. -/
def hereStep : Bytes := Bytes.ofText "."

/-- The step that leads to the folder around. -/
def parentStep : Bytes := Bytes.ofText ".."

/-- Goes a step further, whether or not there is anything. -/
def follow (location : Location) (step : Bytes) : Location :=
  if step = [] ∨ step = hereStep then location
  else if step = parentStep then location.parent
  else location.child step

/-- Where a path leads if all of its steps are there. -/
def ofPath (path : Bytes) : Location := (stepsOf path).foldl follow (startOf path)

def ofText (text : String) : Location := ofPath (Bytes.ofText text)

/-- The shortest path to a location. -/
def path (location : Location) : Bytes :=
  match location.origin with
  | .root => '/'.toUInt8 :: List.intercalate ['/'.toUInt8] location.steps
  | .above levels =>
      List.intercalate ['/'.toUInt8] (List.replicate levels parentStep ++ location.steps)

/-- The length of the path of the working folder, as far as limits are concerned. -/
def workingLength : Nat := 32

def byteLength (location : Location) : Nat :=
  let start :=
    match location.origin with
    | .root => 0
    | .above _ => workingLength
  location.steps.foldl (fun length step => length + 1 + step.length) start

end Location

end VariablePay
