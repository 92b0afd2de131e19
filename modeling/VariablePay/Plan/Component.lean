import VariablePay.Plan.Band
import VariablePay.StringMap

set_option autoImplicit false

/-!
# Components of a plan

A component pays an amount out of an entity's metrics. Its configuration is one of six kinds.
-/

namespace VariablePay

/-- A flat value picked by the tier of a metric. -/
structure TierLookup where
  metric : String
  tiers : List Tier
  deriving DecidableEq

/-- The cells of a grid, row by row. -/
abbrev Grid := List (List Float)

/-- A value picked from a grid by the bands of two metrics. There is a grid for each
sub-population; an attribute of the entity says which one applies. -/
structure MatrixLookup where
  rowMetric : String
  columnMetric : String
  rowBands : List Band
  columnBands : List Band
  grids : StringMap Grid
  gridAttribute : Option String
  defaultGrid : Option String
  deriving DecidableEq

/-- A rate on a metric; a metric strictly below the threshold pays nothing. -/
structure Percentage where
  metric : String
  rate : Float
  minThreshold : Option Float
  deriving DecidableEq

/-- A rate, picked by the bucket of one metric, on another metric. -/
structure BucketedRate where
  /-- The metric that selects the bucket. -/
  selector : String
  /-- The metric that the rate is applied to. -/
  base : String
  buckets : List RateBucket
  deriving DecidableEq

/-- A rate on a metric. -/
structure FlatPercentage where
  metric : String
  rate : Float
  deriving DecidableEq

inductive ComponentKind where
  | tierLookup
  | matrixLookup
  | percentage
  | conditionalPercentage
  | percentageWithGate
  | flatPercentage
  deriving DecidableEq

namespace ComponentKind

def all : List ComponentKind :=
  [tierLookup, matrixLookup, percentage, conditionalPercentage, percentageWithGate, flatPercentage]

def name : ComponentKind → String
  | tierLookup => "tier_lookup"
  | matrixLookup => "matrix_lookup"
  | percentage => "percentage"
  | conditionalPercentage => "conditional_percentage"
  | percentageWithGate => "percentage_with_gate"
  | flatPercentage => "flat_percentage"

end ComponentKind

inductive ComponentConfig where
  | tierLookup (config : TierLookup)
  | matrixLookup (config : MatrixLookup)
  | percentage (config : Percentage)
  | conditionalPercentage (config : BucketedRate)
  | percentageWithGate (config : BucketedRate)
  | flatPercentage (config : FlatPercentage)
  deriving DecidableEq

def ComponentConfig.kind : ComponentConfig → ComponentKind
  | tierLookup _ => .tierLookup
  | matrixLookup _ => .matrixLookup
  | percentage _ => .percentage
  | conditionalPercentage _ => .conditionalPercentage
  | percentageWithGate _ => .percentageWithGate
  | flatPercentage _ => .flatPercentage

/-- A component; components of a variant are evaluated in the order of their ordinals. -/
structure Component where
  id : String
  name : String
  ordinal : UInt32
  enabled : Bool
  config : ComponentConfig
  deriving DecidableEq

end VariablePay
