import VariablePay.Json.Record
import VariablePay.Ledger.Basic

set_option autoImplicit false

/-!
# Ledgers as text

A ledger is kept between commands as one JSON text: each table is the list of its rows, or `null` if
it is missing. Numbers in columns are kept exactly; they may be infinite, and those are written as
words.
-/

namespace VariablePay

/-- Doubles in columns: finite ones as JSON numbers, infinite ones as words. -/
def FloatForm.column : FloatForm where
  write value :=
    if value.isFinite then FloatForm.number.write value
    else .ofString (nonFiniteText value)
  read?
    | .string written =>
        if written = "inf".toList then some (1.0 / 0.0)
        else if written = "-inf".toList then some (-1.0 / 0.0)
        else none
    | .number numeral => numeral.toFloat?
    | _ => none

def Codec.integer : Codec Int where
  encode value := .number ⟨decide (value < 0), value.natAbs, [], none⟩
  decode?
    | _, .number numeral =>
        if numeral.isInteger then
          some (if numeral.negative then -(numeral.whole : Int) else numeral.whole)
        else none
    | _, _ => none

def Codec.word64 : Codec Int64 where
  encode value := Codec.integer.encode value.toInt
  decode? room tree := (Codec.integer.decode? room tree).map Int64.ofInt

/-- Whole numbers in columns; a double has a fraction or an exponent. -/
def WholeColumn.codec : Codec WholeColumn where
  encode
    | word value => Codec.word64.encode value
    | double value => FloatForm.number.write value
  decode? room tree :=
    match tree with
    | .number numeral =>
        if numeral.isInteger then (Codec.word64.decode? room tree).map word
        else numeral.toFloat?.map double
    | _ => none

def Codec.real : Codec Float := .float .column

def RuleSetRow.codec : Codec RuleSetRow :=
  Fields.codec <| RuleSetRow.mk
    <$> .required "rule_set_id" .string id
    <*> .required "tenant_id" .string tenantId
    <*> .required "name" .string name
    <*> .required "definition_json" .string definition

def AssignmentRow.codec : Codec AssignmentRow :=
  Fields.codec <| AssignmentRow.mk
    <$> .required "rule_set_id" .string ruleSetId
    <*> .required "tenant_id" .string tenantId
    <*> .required "entity_id" .string entityId
    <*> .optional "location_id" .string location
    <*> .required "attributes_json" .string attributes

def KeptMetricRow.codec : Codec KeptMetricRow :=
  Fields.codec <| KeptMetricRow.mk
    <$> .required "tenant_id" .string tenantId
    <*> .required "period_id" .string periodId
    <*> .required "scope" .string scope
    <*> .required "scope_id" .string scopeId
    <*> .required "category" .string category
    <*> .required "values_json" .string values
    <*> .required "committed" .bool committed

def BatchRow.codec : Codec BatchRow :=
  Fields.codec <| BatchRow.mk
    <$> .required "batch_id" .string batchId
    <*> .required "tenant_id" .string tenantId
    <*> .required "period_id" .string periodId
    <*> .required "rule_set_id" .string ruleSetId
    <*> .required "lifecycle_state" .string lifecycle
    <*> .required "run_phase" .string phase
    <*> .required "entity_count" .word64 entityCount
    <*> .required "total_payout" .real totalPayout
    <*> .optional "concordance_rate" .real concordanceRate
    <*> .required "summary_json" .string summary
    <*> .optional "failure_reason" .string failureReason
    <*> .required "created_at" .string createdAt
    <*> .optional "completed_at" .string completedAt

def ResultRow.codec : Codec ResultRow :=
  Fields.codec <| ResultRow.mk
    <$> .required "batch_id" .string batchId
    <*> .required "entity_id" .string entityId
    <*> .required "variant_id" .string variantId
    <*> .required "total_payout" .real total
    <*> .required "components_json" .string components
    <*> .required "dual_path_json" .string dualPath

def DensityRow.codec : Codec DensityRow :=
  Fields.codec <| DensityRow.mk
    <$> .required "tenant_id" .string tenantId
    <*> .required "pattern_signature" .string signature
    <*> .required "density" .real density
    <*> .required "execution_mode" .string mode
    <*> .required "observations" WholeColumn.codec observations

def HistoryRow.codec : Codec HistoryRow :=
  Fields.codec <| HistoryRow.mk
    <$> .required "tenant_id" .string tenantId
    <*> .required "pattern_signature" .string signature
    <*> .optional "prior_density" .real priorDensity
    <*> .required "new_density" .real newDensity
    <*> .required "match_ratio" .real matchRatio
    <*> .required "anomalous" .bool anomalous

def SignalRow.codec : Codec SignalRow :=
  Fields.codec <| SignalRow.mk
    <$> .required "tenant_id" .string tenantId
    <*> .required "batch_id" .string batchId
    <*> .required "signal_type" .string kind
    <*> .optional "pattern_signature" .string signature
    <*> .required "payload_json" .string payload

namespace Ledger

def codec : Codec Ledger :=
  Fields.codec <| Ledger.mk
    <$> .optional "rule_set" RuleSetRow.codec.list ruleSets
    <*> .optional "entity_assignment" AssignmentRow.codec.list assignments
    <*> .optional "metric_row" KeptMetricRow.codec.list metricRows
    <*> .optional "calculation_batch" BatchRow.codec.list batches
    <*> .optional "entity_result" ResultRow.codec.list results
    <*> .optional "pattern_density" DensityRow.codec.list densities
    <*> .optional "density_history" HistoryRow.codec.list history
    <*> .optional "training_signal" SignalRow.codec.list signals

def archive (ledger : Ledger) : String := codec.write ledger

/-- The ledger of a text; of no text a blank one. -/
def ofArchive? (text : String) : Option Ledger :=
  if text.isEmpty then some blank else codec.read? text

end Ledger

end VariablePay
