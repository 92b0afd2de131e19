import VariablePay.Decimal.Layout

set_option autoImplicit false

/-!
# Faults of a plan

Each fault names what is wrong and where; its message is put together in one place.
-/

namespace VariablePay

/-- A table whose bands are out of order. -/
inductive BandFault where
  | maxNotAboveMin (index : Nat) (max min : Float)
  | unboundedBeforeLast (index : Nat)
  | minBelowPrevious (index : Nat) (next min : Float)
  | overlapsNext (index : Nat)
  deriving DecidableEq

namespace BandFault

def message : BandFault → String
  | maxNotAboveMin index max min =>
      s!"band {index} has max {messageText max} <= min {messageText min}"
  | unboundedBeforeLast index => s!"band {index} is unbounded but is not the last band"
  | minBelowPrevious index next min =>
      s!"band {index + 1} min {messageText next} is below band {index} min {messageText min}"
  | overlapsNext index => s!"band {index} overlaps band {index + 1}"

end BandFault

inductive AmountRole where
  | tierValue
  | minThreshold
  | gridValue
  deriving DecidableEq

def AmountRole.name : AmountRole → String
  | tierValue => "tier value"
  | minThreshold => "min_threshold"
  | gridValue => "grid value"

inductive ConfigFault where
  | noBands
  | nonFiniteMin (index : Nat)
  | badRate (rate : Float)
  | nonFiniteAmount (role : AmountRole) (value : Float)
  | noGrids
  | unknownDefaultGrid (key : String)
  | wrongRowCount (key : String) (rows expected : Nat)
  | wrongColumnCount (key : String) (row columns expected : Nat)
  deriving DecidableEq

namespace ConfigFault

def message : ConfigFault → String
  | noBands => "no bands configured"
  | nonFiniteMin index => s!"band {index} has a non-finite min"
  | badRate rate => s!"rate {messageText rate} must be a finite, non-negative number"
  | nonFiniteAmount role value => s!"{role.name} {messageText value} is not finite"
  | noGrids => "no grids configured"
  | unknownDefaultGrid key => s!"default grid '{key}' is not defined"
  | wrongRowCount key rows expected => s!"grid '{key}' has {rows} rows, expected {expected}"
  | wrongColumnCount key row columns expected =>
      s!"grid '{key}' row {row} has {columns} columns, expected {expected}"

end ConfigFault

/-- Why a rule set is refused. -/
inductive PlanFault where
  | noVariants (ruleSet : String)
  | emptyComponents (variant : String)
  | duplicateOrdinal (variant : String) (ordinal : UInt32)
  | nonMonotonicBands (component : String) (fault : BandFault)
  | invalidConfiguration (component : String) (fault : ConfigFault)
  deriving DecidableEq

namespace PlanFault

def message : PlanFault → String
  | noVariants ruleSet => s!"Rule set '{ruleSet}' has no variants"
  | emptyComponents variant => s!"Variant '{variant}' has no components"
  | duplicateOrdinal variant ordinal => s!"Variant '{variant}' has duplicate ordinal {ordinal}"
  | nonMonotonicBands component fault =>
      s!"Component '{component}' has non-monotonic bands: {fault.message}"
  | invalidConfiguration component fault =>
      s!"Component '{component}' is misconfigured: {fault.message}"

end PlanFault

end VariablePay
