import VariablePay.Failure
import VariablePay.Ledger.Column
import VariablePay.Store.Paging

set_option autoImplicit false

/-!
# The ledger and its tables

A ledger keeps everything in tables of plain columns; structured values are kept as JSON texts and
are read when they are asked for. Rows stand in the order in which they were inserted. A table may
be missing, and then every access to it fails.
-/

namespace VariablePay

/-- A table: its rows in the order of insertion, unless the table is missing. -/
abbrev Table (α : Type) := Option (List α)

structure RuleSetRow where
  id : String
  tenantId : String
  name : String
  definition : String
  deriving DecidableEq

structure AssignmentRow where
  ruleSetId : String
  tenantId : String
  entityId : String
  location : Option String
  attributes : String
  deriving DecidableEq

structure KeptMetricRow where
  tenantId : String
  periodId : String
  scope : String
  scopeId : String
  category : String
  values : String
  committed : Bool
  deriving DecidableEq

structure BatchRow where
  batchId : String
  tenantId : String
  periodId : String
  ruleSetId : String
  lifecycle : String
  phase : String
  entityCount : Int64
  totalPayout : Float
  concordanceRate : Option Float
  summary : String
  failureReason : Option String
  createdAt : String
  completedAt : Option String
  deriving DecidableEq

structure ResultRow where
  batchId : String
  entityId : String
  variantId : String
  total : Float
  components : String
  dualPath : String
  deriving DecidableEq

structure DensityRow where
  tenantId : String
  signature : String
  density : Float
  mode : String
  observations : WholeColumn
  deriving DecidableEq

/-- A past change of a pattern's density. -/
structure HistoryRow where
  tenantId : String
  signature : String
  priorDensity : Option Float
  newDensity : Float
  matchRatio : Float
  anomalous : Bool
  deriving DecidableEq

structure SignalRow where
  tenantId : String
  batchId : String
  kind : String
  signature : Option String
  payload : String
  deriving DecidableEq

structure Ledger where
  ruleSets : Table RuleSetRow
  assignments : Table AssignmentRow
  metricRows : Table KeptMetricRow
  batches : Table BatchRow
  results : Table ResultRow
  densities : Table DensityRow
  history : Table HistoryRow
  signals : Table SignalRow
  deriving DecidableEq

abbrev LedgerActivity (α : Type) := Activity Failure Ledger α

namespace Ledger

def blank : Ledger := ⟨none, none, none, none, none, none, none, none⟩

/-- The ledger with the tables that are missing created. -/
def migrated (ledger : Ledger) : Ledger where
  ruleSets := some (ledger.ruleSets.getD [])
  assignments := some (ledger.assignments.getD [])
  metricRows := some (ledger.metricRows.getD [])
  batches := some (ledger.batches.getD [])
  results := some (ledger.results.getD [])
  densities := some (ledger.densities.getD [])
  history := some (ledger.history.getD [])
  signals := some (ledger.signals.getD [])

def rowsOf {α : Type} (table : Ledger → Table α) : LedgerActivity (List α) := fun ledger =>
  match table ledger with
  | some rows => ⟨.ok rows, ledger, []⟩
  | none => ⟨.error (.database .missingTable), ledger, []⟩

def requiredReal (column : String) (value : Float) : LedgerActivity Float :=
  match realColumn value with
  | some kept => Activity.pure kept
  | none => Activity.fail (.database (.missingValue column))

def ofText {α : Type} (value? : Option α) : LedgerActivity α :=
  match value? with
  | some value => Activity.pure value
  | none => Activity.fail .serialization

def readEach {α β : Type} (read : α → LedgerActivity β) : List α → LedgerActivity (List β)
  | [] => Activity.pure []
  | item :: rest =>
      Activity.bind (read item) fun value =>
        Activity.bind (readEach read rest) fun values => Activity.pure (value :: values)

/-- The rows on a page. A position or limit beyond 63 bits does not restrict anything. -/
def pageOf {α : Type} (page : Page) (rows : List α) : List α :=
  let after := if page.offset < Nat.pow 2 63 then rows.drop page.offset else rows
  if page.limit < Nat.pow 2 63 then after.take page.limit else after

/-- Replaces the first row that is meant by `isSame`, or else adds a row at the end. -/
def upsert {α : Type} (isSame : α → Bool) (change : Option α → α) : List α → List α
  | [] => [change none]
  | row :: rest =>
      if isSame row then change (some row) :: rest else row :: upsert isSame change rest

end Ledger

end VariablePay
