import VariablePay.Plan.Fault
import VariablePay.Plan.RuleSet

set_option autoImplicit false

/-!
# Validation of rule sets

A rule set is checked as a whole before any entity is evaluated: variant by variant, component by
component, and the first fault is reported. What passes comes back with the components of every
variant in the order of their ordinals, and evaluation relies on what was checked.
-/

namespace VariablePay

namespace Band

/-- The first fault of a band whose successor is `next?`. -/
def fault? (component : String) (index : Nat) (band : Band) (next? : Option Band) :
    Option PlanFault :=
  if !band.min.isFinite then some (.invalidConfiguration component (.nonFiniteMin index))
  else
    let against (next : Band) : Option PlanFault :=
      if next.min < band.min then
        some (.nonMonotonicBands component (.minBelowPrevious index next.min band.min))
      else if band.max.any fun max => decide (next.min < max) then
        some (.nonMonotonicBands component (.overlapsNext index))
      else none
    match band.max, next? with
    | some max, next? =>
        if band.min < max then next?.bind against
        else some (.nonMonotonicBands component (.maxNotAboveMin index max band.min))
    | none, some _ => some (.nonMonotonicBands component (.unboundedBeforeLast index))
    | none, none => none

/-- The first fault of bands that follow `index` others. -/
def firstFault? (component : String) : (index : Nat) → List Band → Option PlanFault
  | _, [] => none
  | index, band :: rest =>
      (fault? component index band rest.head?).or (firstFault? component (index + 1) rest)

end Band

def refuse? (fault? : Option PlanFault) : Except PlanFault Unit :=
  match fault? with
  | some fault => .error fault
  | none => .ok ()

/-- Bands have to be there, with finite minima, each maximum above its minimum and at most the
next minimum, and only the last band may be without a maximum. -/
def Band.validate (component : String) (bands : List Band) : Except PlanFault Unit :=
  if bands.isEmpty then .error (.invalidConfiguration component .noBands)
  else refuse? (Band.firstFault? component 0 bands)

/-- A rate has to be finite and not negative. -/
def validateRate (component : String) (rate : Float) : Except PlanFault Unit :=
  if !rate.isFinite || decide (rate < 0.0) then
    .error (.invalidConfiguration component (.badRate rate))
  else .ok ()

def validateAmount (component : String) (role : AmountRole) (value : Float) :
    Except PlanFault Unit :=
  if value.isFinite then .ok ()
  else .error (.invalidConfiguration component (.nonFiniteAmount role value))

/-- Succeeds if the check does on every item, else fails as on the first item it fails on. -/
def validateEach {α : Type} (check : α → Except PlanFault Unit) : List α → Except PlanFault Unit
  | [] => .ok ()
  | item :: rest =>
      match check item with
      | .ok () => validateEach check rest
      | .error fault => .error fault

namespace MatrixLookup

/-- A row of a grid needs a finite cell for every column band. -/
def validateRow (component : String) (config : MatrixLookup) (key : String)
    (row : List Float × Nat) : Except PlanFault Unit :=
  if row.1.length ≠ config.columnBands.length then
    .error (.invalidConfiguration component
      (.wrongColumnCount key row.2 row.1.length config.columnBands.length))
  else validateEach (validateAmount component .gridValue) row.1

/-- A grid needs a row for every row band. -/
def validateGrid (component : String) (config : MatrixLookup) (entry : String × Grid) :
    Except PlanFault Unit :=
  if entry.2.length ≠ config.rowBands.length then
    .error (.invalidConfiguration component
      (.wrongRowCount entry.1 entry.2.length config.rowBands.length))
  else validateEach (config.validateRow component entry.1) entry.2.zipIdx

/-- There has to be a grid, and the default grid has to be one of them. -/
def validateGrids (component : String) (config : MatrixLookup) : Except PlanFault Unit :=
  if config.grids.entries.isEmpty then .error (.invalidConfiguration component .noGrids)
  else
    match config.defaultGrid.filter fun key => !config.grids.contains key with
    | some key => .error (.invalidConfiguration component (.unknownDefaultGrid key))
    | none => validateEach (config.validateGrid component) config.grids.entries

end MatrixLookup

/-- The buckets have to be bands with good rates. -/
def BucketedRate.validate (component : String) (config : BucketedRate) : Except PlanFault Unit := do
  Band.validate component (config.buckets.map RateBucket.toBand)
  validateEach (fun bucket => validateRate component bucket.rate) config.buckets

def Component.validate (component : Component) : Except PlanFault Unit :=
  match component.config with
  | .tierLookup config => do
      Band.validate component.id (config.tiers.map Tier.toBand)
      validateEach (fun tier => validateAmount component.id .tierValue tier.value) config.tiers
  | .matrixLookup config => do
      Band.validate component.id config.rowBands
      Band.validate component.id config.columnBands
      config.validateGrids component.id
  | .percentage config => do
      validateRate component.id config.rate
      validateEach (validateAmount component.id .minThreshold) config.minThreshold.toList
  | .conditionalPercentage config => config.validate component.id
  | .percentageWithGate config => config.validate component.id
  | .flatPercentage config => validateRate component.id config.rate

namespace Variant

/-- Checks components in order; `seen` are the ordinals of those before. -/
def validateFrom (variant : String) : (seen : List UInt32) → List Component → Except PlanFault Unit
  | _, [] => .ok ()
  | seen, component :: rest =>
      if component.ordinal ∈ seen then .error (.duplicateOrdinal variant component.ordinal)
      else
        match component.validate with
        | .ok () => validateFrom variant (component.ordinal :: seen) rest
        | .error fault => .error fault

/-- A variant needs components, of distinct ordinals, that are all well configured. -/
def validate (variant : Variant) : Except PlanFault Unit :=
  if variant.components.isEmpty then .error (.emptyComponents variant.id)
  else validateFrom variant.id [] variant.components

/-- The variant with its components in the order of their ordinals. -/
def inOrder (variant : Variant) : Variant :=
  { variant with components := variant.components.mergeSort fun a b => a.ordinal ≤ b.ordinal }

end Variant

/-- The rule set with all components in order, if every variant passes its checks. -/
def RuleSet.validated (ruleSet : RuleSet) : Except PlanFault RuleSet :=
  if ruleSet.variants.isEmpty then .error (.noVariants ruleSet.id)
  else
    match validateEach Variant.validate ruleSet.variants with
    | .ok () => .ok { ruleSet with variants := ruleSet.variants.map Variant.inOrder }
    | .error fault => .error fault

end VariablePay
