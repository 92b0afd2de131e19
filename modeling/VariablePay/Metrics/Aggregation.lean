import VariablePay.Decimal.Layout
import VariablePay.Journal
import VariablePay.Metrics.Basic

set_option autoImplicit false

/-!
# Aggregation of rows

Every field of a row contributes to two keys, the field's own and one that is qualified by the
row's category; location rows contribute under the namespace `location.`. Additive fields are
summed in row order, from zero; identity fields keep their first value. Keys of entity rows that
fall in the namespace of locations are dropped.
-/

namespace VariablePay

structure AggregationConfig where
  /-- The identity fields: their first occurrence wins and they are never summed. -/
  firstWinsFields : List String
  /-- The entity field that names the location of an entity assigned without one. -/
  locationKeyField : Option String
  deriving DecidableEq

/-- Whether a field keeps its first value. -/
def AggregationConfig.isFirstWins (config : AggregationConfig) (field : String) : Bool :=
  config.firstWinsFields.contains field

/-- The namespace of metrics that come from location rows. -/
def locationNamespace : String := "location"

def isLocationKey (key : String) : Bool := (locationNamespace ++ ".").toList.isPrefixOf key.toList

/-- A value that a field of a row gives to a key. -/
structure Contribution where
  key : String
  field : String
  value : Float
  deriving DecidableEq

/-- The map with a contribution added: a first value is kept, other values are summed from zero. -/
def Contribution.addTo (config : AggregationConfig) (metrics : MetricMap)
    (contribution : Contribution) : MetricMap :=
  metrics.alter contribution.key fun old =>
    if config.isFirstWins contribution.field then old.getD contribution.value
    else old.getD 0.0 + contribution.value

namespace MetricRow

/-- All keys to which a row contributes, with the keys of a location in their namespace. -/
def allContributions (scope : RowScope) (row : MetricRow) : List Contribution :=
  let space := match scope with
    | .entity => ""
    | .location => locationNamespace ++ "."
  row.values.entries.flatMap fun entry =>
    [⟨space ++ entry.1, entry.1, entry.2⟩,
      ⟨space ++ row.category ++ "." ++ entry.1, entry.1, entry.2⟩]

def isShadowed (scope : RowScope) (contribution : Contribution) : Bool :=
  scope = .entity && isLocationKey contribution.key

def contributions (scope : RowScope) (row : MetricRow) : List Contribution :=
  (row.allContributions scope).filter fun contribution => !isShadowed scope contribution

/-- The warning about the dropped keys of an entity row, if there are any. -/
def shadowNote? (row : MetricRow) : Option Note :=
  let dropped := ((row.allContributions .entity).filter (isShadowed .entity)).length
  if dropped = 0 then none
  else some ⟨.warn, s!"entity {row.scopeId} row '{row.category}': {dropped} key(s) fall in the " ++
    s!"reserved '{locationNamespace}.' namespace, dropped"⟩

end MetricRow

/-- One metric map of the rows of an entity and the rows of its location. -/
def aggregate (config : AggregationConfig) (entityRows locationRows : List MetricRow) : MetricMap :=
  let contributions := entityRows.flatMap (MetricRow.contributions .entity) ++
    locationRows.flatMap (MetricRow.contributions .location)
  contributions.foldl (Contribution.addTo config) .empty

def aggregationNotes (entityRows : List MetricRow) : List Note :=
  entityRows.filterMap MetricRow.shadowNote?

/-- The text of a number as a location key: a whole number is written as a 64-bit integer, the
nearest there is. -/
def locationKeyText (value : Float) : String :=
  if value.isFinite then
    match (Dyadic.ofFloat value).whole? with
    | some size =>
        if Dyadic.signOf value then toString (-(min size (Nat.pow 2 63) : Nat) : Int)
        else toString (min size (Nat.pow 2 63 - 1))
    | none => messageText value
  else messageText value

/-- The location key of an entity: the first value of the key field in its rows. -/
def locationKey? (config : AggregationConfig) (entityRows : List MetricRow) : Option String :=
  config.locationKeyField.bind fun field =>
    (entityRows.findSome? fun row => row.values.get? field).map locationKeyText

end VariablePay
