import Mathlib.Tactic.MkIffOfInductiveProp
import VariablePay.Batch.Summary
import VariablePay.Proofs.Json.Faithful

set_option autoImplicit false

/-!
# Summaries read back from their texts

A summary can be read back just when its total is a finite number and its counts are words. A share
that is no finite number would be lost, but does not stand in the way. Each finite number is read
back as it is read from its own digits.
-/

namespace VariablePay.BatchSummary

/-- Whether all counts of a summary fit into 64 bits. -/
@[mk_iff]
structure CountsFit (summary : BatchSummary) : Prop where
  entityCount : summary.entityCount < Nat.pow 2 64
  entitiesMatched : summary.entitiesMatched < Nat.pow 2 64
  entitiesMismatched : summary.entitiesMismatched < Nat.pow 2 64
  componentsCompared : summary.componentsCompared < Nat.pow 2 64
  componentsMatched : summary.componentsMatched < Nat.pow 2 64
  entitiesWithErrors : summary.entitiesWithErrors < Nat.pow 2 64
  patternsConsolidated : summary.patternsConsolidated < Nat.pow 2 64
  anomalyCount : summary.anomalyCount < Nat.pow 2 64
  shadowPatterns : summary.shadowPatterns < Nat.pow 2 64
  verifyPatterns : summary.verifyPatterns < Nat.pow 2 64
  trustedPatterns : summary.trustedPatterns < Nat.pow 2 64

instance (summary : BatchSummary) : Decidable summary.CountsFit :=
  decidable_of_iff' _ summary.countsFit_iff

/-- A summary is read back just when its total is finite and its counts fit. -/
theorem read?_write_iff (summary : BatchSummary) :
    (∃ back, (codec .number).read? ((codec .number).write summary) = some back) ↔
      summary.totalPayout.isFinite = true ∧ summary.CountsFit := by
  have count (name : String) (get : BatchSummary → Nat) :
      (Fields.required name .count get).ReadsWhen 0 summary (get summary < Nat.pow 2 64) :=
    .required name get (Codec.natBelow_readsWhen _ _)
  have members :=
    (Fields.ReadsWhen.required "total_payout" totalPayout
        (Codec.float_readsWhen summary.totalPayout)).map BatchSummary.mk
      |>.seq (count "entity_count" entityCount)
      |>.seq (count "entities_matched" entitiesMatched)
      |>.seq (count "entities_mismatched" entitiesMismatched)
      |>.seq (.optional_float "concordance_rate" concordanceRate summary)
      |>.seq (count "components_compared" componentsCompared)
      |>.seq (count "components_matched" componentsMatched)
      |>.seq (.optional_float "component_concordance" componentConcordance summary)
      |>.seq (count "entities_with_errors" entitiesWithErrors)
      |>.seq (count "patterns_consolidated" patternsConsolidated)
      |>.seq (count "anomaly_count" anomalyCount)
      |>.seq (count "shadow_patterns" shadowPatterns)
      |>.seq (count "verify_patterns" verifyPatterns)
      |>.seq (count "trusted_patterns" trustedPatterns)
  have exact := (Fields.codec_readsWhen (by decide) members).read?_write (by decide)
  refine exact.trans ⟨fun holds => ?_, fun holds => ?_⟩
  · obtain ⟨⟨⟨⟨⟨⟨⟨⟨⟨⟨⟨⟨⟨finite, a⟩, b⟩, c⟩, _⟩, d⟩, e⟩, _⟩, f⟩, g⟩, h⟩, i⟩, j⟩, k⟩ := holds
    exact ⟨finite, a, b, c, d, e, f, g, h, i, j, k⟩
  · obtain ⟨finite, a, b, c, d, e, f, g, h, i, j, k⟩ := holds
    exact ⟨⟨⟨⟨⟨⟨⟨⟨⟨⟨⟨⟨⟨finite, a⟩, b⟩, c⟩, trivial⟩, d⟩, e⟩, trivial⟩, f⟩, g⟩, h⟩, i⟩, j⟩, k⟩

/-- Whether the total and the shares of a summary are finite. -/
structure IsFinite (summary : BatchSummary) : Prop where
  totalPayout : summary.totalPayout.isFinite = true
  concordanceRate : ∀ share ∈ summary.concordanceRate, share.isFinite = true
  componentConcordance : ∀ share ∈ summary.componentConcordance, share.isFinite = true

def reread (summary : BatchSummary) : BatchSummary :=
  { summary with
    totalPayout := Double.reread summary.totalPayout
    concordanceRate := summary.concordanceRate.map Double.reread
    componentConcordance := summary.componentConcordance.map Double.reread }

theorem faithful (depth : Nat) : (codec .number).Faithful (depth + 1)
    (fun summary => summary.IsFinite ∧ summary.CountsFit) reread := by
  have count := Codec.faithful_count depth
  have share := Codec.faithful_nullable_float depth
  refine .record (.whole (fun summary => ⟨Double.reread summary.totalPayout, summary.entityCount,
    summary.entitiesMatched, summary.entitiesMismatched,
    summary.concordanceRate.map Double.reread, summary.componentsCompared,
    summary.componentsMatched, summary.componentConcordance.map Double.reread,
    summary.entitiesWithErrors, summary.patternsConsolidated, summary.anomalyCount,
    summary.shadowPatterns, summary.verifyPatterns, summary.trustedPatterns⟩) ?_ fun _ => rfl)
    (by decide)
  refine .seq ?_ (.required count fun _ fit => fit.2.trustedPatterns)
  refine .seq ?_ (.required count fun _ fit => fit.2.verifyPatterns)
  refine .seq ?_ (.required count fun _ fit => fit.2.shadowPatterns)
  refine .seq ?_ (.required count fun _ fit => fit.2.anomalyCount)
  refine .seq ?_ (.required count fun _ fit => fit.2.patternsConsolidated)
  refine .seq ?_ (.required count fun _ fit => fit.2.entitiesWithErrors)
  refine .seq ?_ (.optional share nofun fun _ fit => fit.1.componentConcordance)
  refine .seq ?_ (.required count fun _ fit => fit.2.componentsMatched)
  refine .seq ?_ (.required count fun _ fit => fit.2.componentsCompared)
  refine .seq ?_ (.optional share nofun fun _ fit => fit.1.concordanceRate)
  refine .seq ?_ (.required count fun _ fit => fit.2.entitiesMismatched)
  refine .seq ?_ (.required count fun _ fit => fit.2.entitiesMatched)
  refine .seq ?_ (.required count fun _ fit => fit.2.entityCount)
  refine .map (.required (Codec.faithful_float _) fun _ fit => fit.1.totalPayout) ?_
  exact fun _ total _ a _ b _ c _ rate _ d _ e _ components _ f _ g _ h _ i _ j _ k =>
    ⟨⟨total, rate, components⟩, a, b, c, d, e, f, g, h, i, j, k⟩

theorem read?_write_eq {summary : BatchSummary} (total : summary.totalPayout.isFinite = true)
    (concordance : ∀ share ∈ summary.concordanceRate, share.isFinite = true)
    (componentConcordance : ∀ share ∈ summary.componentConcordance, share.isFinite = true)
    (fits : summary.CountsFit) :
    (codec .number).read? ((codec .number).write summary) = some summary.reread :=
  (faithful 0).read?_write (by decide) ⟨⟨total, concordance, componentConcordance⟩, fits⟩

end VariablePay.BatchSummary
