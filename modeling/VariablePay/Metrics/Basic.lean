import VariablePay.StringMap

set_option autoImplicit false

/-!
# Metrics, rows and entities

A committed row carries metric values of one category for an entity or a location. Rows are
collapsed into one metric map for each entity (`VariablePay.Metrics.Aggregation`).
-/

namespace VariablePay

/-- Metric values by name. -/
abbrev MetricMap := StringMap Float

/-- A metric that is not in the map reads as zero. -/
def MetricMap.valueOf (metrics : MetricMap) (name : String) : Float :=
  (metrics.get? name).getD 0.0

/-- Texts that describe an entity, by name. -/
abbrev Attributes := StringMap String

inductive RowScope where
  | entity
  | location
  deriving DecidableEq

namespace RowScope

def all : List RowScope := [entity, location]

def name : RowScope → String
  | entity => "entity"
  | location => "location"

def ofName? (text : String) : Option RowScope := all.find? fun scope => scope.name == text

end RowScope

/-- One committed row. -/
structure MetricRow where
  scope : RowScope
  /-- The id of the entity or location, as the scope says. -/
  scopeId : String
  category : String
  values : StringMap Float
  deriving DecidableEq

/-- An entity that is assigned to a rule set. -/
structure AssignedEntity where
  id : String
  location : Option String
  attributes : Attributes
  deriving DecidableEq

end VariablePay
