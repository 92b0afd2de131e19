import VariablePay.Json.Record
import VariablePay.Metrics.Basic

set_option autoImplicit false

/-!
# Rows and entities as JSON
-/

namespace VariablePay

def RowScope.codec : Codec RowScope := .named RowScope.all RowScope.name

def MetricRow.codec (form : FloatForm) : Codec MetricRow :=
  Fields.codec <| MetricRow.mk
    <$> .required "scope" RowScope.codec MetricRow.scope
    <*> .required "scope_id" .string MetricRow.scopeId
    <*> .required "category" .string MetricRow.category
    <*> .required "values" (.stringMap (.float form)) MetricRow.values

/-- The members of an assigned entity, of a record that contains one. -/
def AssignedEntity.fieldsOf {ρ : Type} (entity : ρ → AssignedEntity) : Fields ρ AssignedEntity :=
  AssignedEntity.mk
    <$> .required "entity_id" .string (fun record => (entity record).id)
    <*> .free "location_id" .string (fun record => (entity record).location)
    <*> .defaulted "attributes" (.stringMap .string) .empty
      (fun record => (entity record).attributes)

def AssignedEntity.codec : Codec AssignedEntity :=
  (AssignedEntity.fieldsOf fun entity => entity).codec

end VariablePay
