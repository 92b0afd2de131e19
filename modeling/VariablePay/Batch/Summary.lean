import VariablePay.Batch.Result
import VariablePay.Confidence.Consolidation

set_option autoImplicit false

/-!
# Summaries of batches
-/

namespace VariablePay

structure BatchSummary where
  totalPayout : Float
  entityCount : Nat
  entitiesMatched : Nat
  entitiesMismatched : Nat
  /-- The share of entities whose totals agree, if there are entities. -/
  concordanceRate : Option Float
  componentsCompared : Nat
  componentsMatched : Nat
  componentConcordance : Option Float
  entitiesWithErrors : Nat
  patternsConsolidated : Nat
  anomalyCount : Nat
  shadowPatterns : Nat
  verifyPatterns : Nat
  trustedPatterns : Nat
  deriving DecidableEq

namespace BatchSummary

/-- The summary of a batch that has not got anywhere yet. -/
def empty : BatchSummary := ⟨0.0, 0, 0, 0, none, 0, 0, none, 0, 0, 0, 0, 0, 0⟩

/-- Sums up the results and the consolidation of a run. -/
def of (results : List EntityResult) (consolidation : Consolidation) : BatchSummary :=
  let matched := results.countP fun result => result.dualPath.agrees
  { totalPayout := Payout.total (results.map EntityResult.total)
    entityCount := results.length
    entitiesMatched := matched
    entitiesMismatched := results.length - matched
    concordanceRate := share? matched results.length
    componentsCompared := consolidation.eventsTotal
    componentsMatched := consolidation.eventsMatched
    componentConcordance := consolidation.concordance?
    entitiesWithErrors := results.countP fun result => 0 < result.degradedComponents
    patternsConsolidated := consolidation.updates.length
    anomalyCount := consolidation.anomalies.length
    shadowPatterns := consolidation.modeCount .shadow
    verifyPatterns := consolidation.modeCount .verify
    trustedPatterns := consolidation.modeCount .trusted }

def codec (form : FloatForm) : Codec BatchSummary :=
  Fields.codec <| BatchSummary.mk
    <$> .required "total_payout" (.float form) totalPayout
    <*> .required "entity_count" .count entityCount
    <*> .required "entities_matched" .count entitiesMatched
    <*> .required "entities_mismatched" .count entitiesMismatched
    <*> .optional "concordance_rate" (.float form) concordanceRate
    <*> .required "components_compared" .count componentsCompared
    <*> .required "components_matched" .count componentsMatched
    <*> .optional "component_concordance" (.float form) componentConcordance
    <*> .required "entities_with_errors" .count entitiesWithErrors
    <*> .required "patterns_consolidated" .count patternsConsolidated
    <*> .required "anomaly_count" .count anomalyCount
    <*> .required "shadow_patterns" .count shadowPatterns
    <*> .required "verify_patterns" .count verifyPatterns
    <*> .required "trusted_patterns" .count trustedPatterns

end BatchSummary

end VariablePay
