import VariablePay.Ledger.Densities
import VariablePay.Ledger.Inputs

set_option autoImplicit false

/-!
# Fixtures

A fixture is one JSON text with everything that the runs of a tenant need. It is imported into a
ledger part by part, and an import that fails leaves the parts before the failure.
-/

namespace VariablePay

structure Assignment where
  ruleSetId : String
  entity : AssignedEntity
  deriving DecidableEq

structure Fixture where
  tenantId : String
  periodId : String
  ruleSets : List RuleSet
  assignments : List Assignment
  rows : List MetricRow
  priorDensity : Density
  deriving DecidableEq

/-- The members of an assignment: those of the entity stand beside the rule set. -/
def Assignment.fields : Fields Assignment Assignment :=
  Assignment.mk
    <$> .required "rule_set_id" .string Assignment.ruleSetId
    <*> AssignedEntity.fieldsOf Assignment.entity

/-- Assignments. They stand as objects only, and all of their members have to be sound. -/
def Assignment.codec : Codec Assignment where
  encode := Assignment.fields.codec.encode
  decode?
    | room + 1, .object members =>
        if Json.areMembersSound room members then
          Assignment.fields.codec.decode? (room + 1) (.object members)
        else none
    | _, _ => none

namespace Fixture

def codec (form : FloatForm) : Codec Fixture :=
  Fields.codec <| Fixture.mk
    <$> .required "tenant_id" .string tenantId
    <*> .required "period_id" .string periodId
    <*> .required "rule_sets" (.list (RuleSet.codec form)) ruleSets
    <*> .required "assignments" (.list Assignment.codec) assignments
    <*> .required "metric_rows" (.list (MetricRow.codec form)) rows
    <*> .defaulted "prior_density" (.stringMap (.float form)) .empty priorDensity

/-- Imports a fixture: rule sets, assignments, rows in the place of those of the period, and
densities. -/
def load (fixture : Fixture) : LedgerActivity Unit := do
  Activity.forEach (Ledger.insertRuleSet fixture.tenantId) fixture.ruleSets
  Activity.forEach
    (fun assignment => Ledger.assign assignment.ruleSetId fixture.tenantId assignment.entity)
    fixture.assignments
  let _ ← Ledger.replaceRows fixture.tenantId fixture.periodId fixture.rows
  Activity.forEach (fun entry => Ledger.seedDensity fixture.tenantId entry.1 entry.2)
    fixture.priorDensity.entries

end Fixture

end VariablePay
