import VariablePay.Ledger.Basic
import VariablePay.Metrics.Codec
import VariablePay.Plan.Codec

set_option autoImplicit false

/-!
# Rule sets, assignments and rows in the ledger

Rule sets are updated in place. An entity that is assigned again moves to the end. The rows of a
tenant's period are replaced together.
-/

namespace VariablePay.Ledger

/-- Keeps a rule set of a tenant, in the place of one with the same id. -/
def insertRuleSet (tenantId : String) (ruleSet : RuleSet) : LedgerActivity Unit := do
  let rows ← rowsOf Ledger.ruleSets
  let row : RuleSetRow :=
    ⟨ruleSet.id, tenantId, ruleSet.name, (RuleSet.codec .number).write ruleSet⟩
  Activity.modify fun ledger =>
    { ledger with ruleSets := some (upsert (fun old => old.id == ruleSet.id) (fun _ => row) rows) }

def ruleSet? (ruleSetId : String) : LedgerActivity (Option RuleSet) := do
  let rows ← rowsOf Ledger.ruleSets
  match rows.find? fun row => row.id == ruleSetId with
  | some row => some <$> ofText ((RuleSet.codec .number).read? row.definition)
  | none => return none

/-- Assigns an entity to a rule set that is kept. -/
def assign (ruleSetId tenantId : String) (entity : AssignedEntity) : LedgerActivity Unit := do
  let rows ← rowsOf Ledger.assignments
  let ruleSets ← rowsOf Ledger.ruleSets
  let row : AssignmentRow :=
    ⟨ruleSetId, tenantId, entity.id, entity.location,
      (Codec.stringMap .string).write entity.attributes⟩
  if ruleSets.any fun ruleSet => ruleSet.id == ruleSetId then
    let others := rows.filter fun old =>
      !(old.ruleSetId == ruleSetId && old.tenantId == tenantId && old.entityId == entity.id)
    Activity.modify fun ledger => { ledger with assignments := some (others ++ [row]) }
  else Activity.fail (.database .missingReference)

def entityOf (row : AssignmentRow) : LedgerActivity AssignedEntity := do
  let attributes ← ofText ((Codec.stringMap .string).read? row.attributes)
  return ⟨row.entityId, row.location, attributes⟩

/-- A page of the entities assigned to a rule set, in the order of their last assignment. -/
def entities (ruleSetId tenantId : String) (page : Page) :
    LedgerActivity (List AssignedEntity) := do
  let rows ← rowsOf Ledger.assignments
  readEach entityOf (pageOf page (rows.filter fun row =>
    row.ruleSetId == ruleSetId && row.tenantId == tenantId))

def keptRow (tenantId periodId : String) (row : MetricRow) : KeptMetricRow :=
  ⟨tenantId, periodId, row.scope.name, row.scopeId, row.category,
    (Codec.stringMap (.float .number)).write row.values, true⟩

def isOfPeriod (tenantId periodId : String) (row : KeptMetricRow) : Bool :=
  row.tenantId == tenantId && row.periodId == periodId

/-- Replaces the rows of a tenant's period and gives the number of rows that were there. -/
def replaceRows (tenantId periodId : String) (rows : List MetricRow) : LedgerActivity Nat := do
  let kept ← rowsOf Ledger.metricRows
  let others := kept.filter fun row => !isOfPeriod tenantId periodId row
  Activity.modify fun ledger =>
    { ledger with metricRows := some (others ++ rows.map (keptRow tenantId periodId)) }
  return kept.length - others.length

def rowCount (tenantId periodId : String) : LedgerActivity Nat := do
  let kept ← rowsOf Ledger.metricRows
  return kept.countP (isOfPeriod tenantId periodId)

def rowOf (kept : KeptMetricRow) : LedgerActivity MetricRow := do
  match RowScope.ofName? kept.scope with
  | some scope =>
      let values ← ofText ((Codec.stringMap (.float .number)).read? kept.values)
      return ⟨scope, kept.scopeId, kept.category, values⟩
  | none =>
      Activity.fail (.persistence "metric rows" s!"unknown row scope '{kept.scope}'")

/-- A page of the committed rows of a tenant's period, in the order of insertion. -/
def rows (tenantId periodId : String) (page : Page) : LedgerActivity (List MetricRow) := do
  let kept ← rowsOf Ledger.metricRows
  readEach rowOf (pageOf page (kept.filter fun row =>
    isOfPeriod tenantId periodId row && row.committed))

end VariablePay.Ledger
