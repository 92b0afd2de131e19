import VariablePay.Batch.Result
import VariablePay.Metrics.Aggregation

set_option autoImplicit false

/-!
# Evaluation of a population

Before entities are evaluated, each variant is prepared once. An entity is evaluated from the rows
that carry its id and the rows of its location; no other entity or row plays a part.
-/

namespace VariablePay

structure PreparedRuleSet where
  ruleSet : RuleSet
  variants : List PreparedVariant
  deriving DecidableEq

namespace PreparedRuleSet

def of (ruleSet : RuleSet) : PreparedRuleSet := ⟨ruleSet, ruleSet.variants.map PreparedVariant.of⟩

/-- The variant that applies to an entity; a rule set without variants gives an empty one. -/
def select (prepared : PreparedRuleSet) (attributes : Attributes) : PreparedVariant :=
  ((prepared.ruleSet.variantIndexFor? attributes).bind fun index => prepared.variants[index]?).getD
    ⟨"", [], [], []⟩

end PreparedRuleSet

namespace MetricRow

/-- The rows of a scope that carry an id, in their order. -/
def under (rows : List MetricRow) (scope : RowScope) (id : String) : List MetricRow :=
  rows.filter fun row => row.scope == scope && row.scopeId == id

end MetricRow

namespace AssignedEntity

def ownRows (entity : AssignedEntity) (rows : List MetricRow) : List MetricRow :=
  MetricRow.under rows .entity entity.id

/-- The location of an entity: the assigned one, else the one its own rows name. -/
def effectiveLocation? (entity : AssignedEntity) (config : AggregationConfig)
    (rows : List MetricRow) : Option String :=
  entity.location.or (locationKey? config (entity.ownRows rows))

def locationRows (entity : AssignedEntity) (config : AggregationConfig) (rows : List MetricRow) :
    List MetricRow :=
  match entity.effectiveLocation? config rows with
  | some location => MetricRow.under rows .location location
  | none => []

def context (entity : AssignedEntity) (config : AggregationConfig) (rows : List MetricRow) :
    EntityContext :=
  ⟨aggregate config (entity.ownRows rows) (entity.locationRows config rows), entity.attributes⟩

end AssignedEntity

structure EntityRun where
  result : EntityResult
  events : List ConfidenceEvent
  notes : List Note

namespace PreparedRuleSet

def evaluate (prepared : PreparedRuleSet) (config : AggregationConfig) (rows : List MetricRow)
    (entity : AssignedEntity) : EntityRun :=
  let variant := prepared.select entity.attributes
  let outcome := variant.compare (entity.context config rows)
  let result := EntityResult.of entity.id variant.id outcome
  { result := result
    events := outcome.events entity.id
    notes := aggregationNotes (entity.ownRows rows) ++ outcome.notes entity.id ++
      result.degradedNotes }

end PreparedRuleSet

end VariablePay
