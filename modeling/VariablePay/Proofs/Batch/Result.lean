import Mathlib.Tactic.MkIffOfInductiveProp
import VariablePay.Batch.Result
import VariablePay.Proofs.Plan.Coding

set_option autoImplicit false

/-!
# Results read back from their texts

Explanations and traces carry numbers and positions. If the numbers are finite and the positions are
words, what has been written of a result is read back, each number as it is read from its own
digits.
-/

namespace VariablePay

namespace Explanation

/-- Whether all numbers of an explanation are finite. -/
structure IsFinite (explanation : Explanation) : Prop where
  inputs : ∀ entry ∈ explanation.inputs.entries, entry.2.isFinite = true
  rate : ∀ rate ∈ explanation.rate, rate.isFinite = true

/-- Whether all positions in an explanation are words. -/
@[mk_iff]
structure CountsFit (explanation : Explanation) : Prop where
  matched : ∀ band ∈ explanation.matched, band.index < Nat.pow 2 64
  matchedColumn : ∀ band ∈ explanation.matchedColumn, band.index < Nat.pow 2 64

instance (explanation : Explanation) : Decidable explanation.CountsFit :=
  decidable_of_iff' _ explanation.countsFit_iff

def reread (explanation : Explanation) : Explanation :=
  { explanation with
    inputs := explanation.inputs.mapValues Double.reread
    rate := explanation.rate.map Double.reread }

theorem faithful (depth : Nat) : (codec .number).Faithful (depth + 2)
    (fun explanation => explanation.IsFinite ∧ explanation.CountsFit) reread := by
  have band : MatchedBand.codec.nullable.Faithful (depth + 1)
      (fun band? => ∀ band ∈ band?, band.index < Nat.pow 2 64) id :=
    ((MatchedBand.faithful depth).nullable fun _ => Json.noConfusion).congr (fun _ => .rfl)
      (congrFun Option.map_id)
  have text := Codec.faithful_nullable_string (depth + 1)
  have flag := Codec.faithful_bool (depth + 1)
  have missing := (Codec.faithful_string depth).list_all
  refine .record (.whole (fun explanation => ⟨explanation.inputs.mapValues Double.reread,
    explanation.matched, explanation.matchedColumn, explanation.grid,
    explanation.rate.map Double.reread, explanation.missingMetrics, explanation.gated,
    explanation.disabled, explanation.error⟩) ?_ fun _ => rfl) (by decide)
  refine .seq ?_ (.sparse text trivial fun _ _ => trivial)
  refine .seq ?_ (.defaulted flag trivial fun _ _ => trivial)
  refine .seq ?_ (.defaulted flag trivial fun _ _ => trivial)
  refine .seq ?_ (.sparseList missing trivial fun _ _ => trivial)
  refine .seq ?_ (.sparse (Codec.faithful_nullable_float _) nofun fun _ fit => fit.1.rate)
  refine .seq ?_ (.sparse text trivial fun _ _ => trivial)
  refine .seq ?_ (.sparse band nofun fun _ fit => fit.2.matchedColumn)
  refine .seq ?_ (.sparse band nofun fun _ fit => fit.2.matched)
  refine .map (.required (Codec.faithful_float depth).stringMap fun _ fit => fit.1.inputs) ?_
  exact fun _ inputs _ row _ column _ _ _ rate _ _ _ _ _ _ _ _ => ⟨⟨inputs, rate⟩, row, column⟩

theorem isFinite_empty : empty.IsFinite := ⟨nofun, nofun⟩

end Explanation

namespace ComponentResult

structure IsFinite (result : ComponentResult) : Prop where
  payout : result.payout.isFinite = true
  explanation : result.explanation.IsFinite

def reread (result : ComponentResult) : ComponentResult :=
  { result with
    payout := Double.reread result.payout
    explanation := result.explanation.reread }

theorem faithful (depth : Nat) : (codec .number).Faithful (depth + 3)
    (fun result => result.IsFinite ∧ result.explanation.CountsFit) reread := by
  refine .record (.whole (fun result => ⟨result.componentId, result.componentName, result.kind,
    result.ordinal, Double.reread result.payout, result.explanation.reread⟩) ?_ fun _ => rfl)
    (by decide)
  refine .seq ?_ (.required (Explanation.faithful depth) fun _ fit => ⟨fit.1.explanation, fit.2⟩)
  refine .seq ?_ (.required (Codec.faithful_float _) fun _ fit => fit.1.payout)
  refine .seq ?_ (.required (Codec.faithful_word32 _) fun _ _ => trivial)
  refine .seq ?_ (.required (ComponentKind.faithful _) fun _ _ => trivial)
  refine .seq ?_ (.required (Codec.faithful_string _) fun _ _ => trivial)
  refine .map (.required (Codec.faithful_string _) fun _ _ => trivial) ?_
  exact fun _ _ _ _ _ _ _ _ _ payout _ explanation => ⟨⟨payout, explanation.1⟩, explanation.2⟩

end ComponentResult

namespace IntentTrace

structure IsFinite (trace : IntentTrace) : Prop where
  payout : trace.payout.isFinite = true
  inputs : ∀ entry ∈ trace.inputs.entries, entry.2.isFinite = true
  rate : ∀ rate ∈ trace.rate, rate.isFinite = true

@[mk_iff]
structure CountsFit (trace : IntentTrace) : Prop where
  index : trace.index < Nat.pow 2 64
  branch : ∀ branch ∈ trace.branch, branch < Nat.pow 2 64
  columnBranch : ∀ branch ∈ trace.columnBranch, branch < Nat.pow 2 64
  priorResultsSeen : trace.priorResultsSeen < Nat.pow 2 64

instance (trace : IntentTrace) : Decidable trace.CountsFit :=
  decidable_of_iff' _ trace.countsFit_iff

def reread (trace : IntentTrace) : IntentTrace :=
  { trace with
    payout := Double.reread trace.payout
    inputs := trace.inputs.mapValues Double.reread
    rate := trace.rate.map Double.reread }

theorem faithful (depth : Nat) : (codec .number).Faithful (depth + 2)
    (fun trace => trace.IsFinite ∧ trace.CountsFit) reread := by
  have text := Codec.faithful_nullable_string (depth + 1)
  have branch : Codec.count.nullable.Faithful (depth + 1)
      (fun branch? => ∀ branch ∈ branch?, branch < Nat.pow 2 64) id :=
    ((Codec.faithful_count _).nullable fun _ => Json.noConfusion).congr (fun _ => .rfl)
      (congrFun Option.map_id)
  refine .record (.whole (fun trace => ⟨trace.componentId, trace.index, Double.reread trace.payout,
    trace.inputs.mapValues Double.reread, trace.branch, trace.columnBranch, trace.grid,
    trace.rate.map Double.reread, trace.priorResultsSeen, trace.error⟩) ?_ fun _ => rfl)
    (by decide)
  refine .seq ?_ (.sparse text trivial fun _ _ => trivial)
  refine .seq ?_ (.required (Codec.faithful_count _) fun _ fit => fit.2.priorResultsSeen)
  refine .seq ?_ (.sparse (Codec.faithful_nullable_float _) nofun fun _ fit => fit.1.rate)
  refine .seq ?_ (.sparse text trivial fun _ _ => trivial)
  refine .seq ?_ (.sparse branch nofun fun _ fit => fit.2.columnBranch)
  refine .seq ?_ (.sparse branch nofun fun _ fit => fit.2.branch)
  refine .seq ?_ (.required (Codec.faithful_float depth).stringMap fun _ fit => fit.1.inputs)
  refine .seq ?_ (.required (Codec.faithful_float _) fun _ fit => fit.1.payout)
  refine .seq ?_ (.required (Codec.faithful_count _) fun _ fit => fit.2.index)
  refine .map (.required (Codec.faithful_string _) fun _ _ => trivial) ?_
  exact fun _ _ _ index _ payout _ inputs _ branch _ column _ _ _ rate _ seen _ _ =>
    ⟨⟨payout, inputs, rate⟩, index, branch, column, seen⟩

end IntentTrace

/-- Whether the numbers that the comparison left are finite, and the positions and counts words. -/
structure DualPathRecord.Fits (dualPath : DualPathRecord) : Prop where
  executedTotal : dualPath.executedTotal.isFinite = true
  mismatches : dualPath.componentMismatches < Nat.pow 2 64
  traces : ∀ trace ∈ dualPath.traces, trace.IsFinite ∧ trace.CountsFit

def DualPathRecord.reread (dualPath : DualPathRecord) : DualPathRecord :=
  { dualPath with
    executedTotal := Double.reread dualPath.executedTotal
    traces := dualPath.traces.map IntentTrace.reread }

theorem DualPathRecord.faithful (depth : Nat) : (DualPathRecord.codec .number).Faithful
    (depth + 4) DualPathRecord.Fits DualPathRecord.reread := by
  refine .record (.whole (fun dualPath => ⟨dualPath.agrees, Double.reread dualPath.executedTotal,
    dualPath.componentMismatches, dualPath.traces.map IntentTrace.reread⟩) ?_ fun _ => rfl)
    (by decide)
  refine .seq ?_ (.required (IntentTrace.faithful depth).list fun _ fit => fit.traces)
  refine .seq ?_ (.required (Codec.faithful_count _) fun _ fit => fit.mismatches)
  refine .seq ?_ (.required (Codec.faithful_float _) fun _ fit => fit.executedTotal)
  refine .map (.required (Codec.faithful_bool _) fun _ _ => trivial) ?_
  exact fun _ _ _ executedTotal _ mismatches _ traces => ⟨executedTotal, mismatches, traces⟩

namespace EntityResult

structure IsFinite (result : EntityResult) : Prop where
  components : ∀ component ∈ result.components, component.IsFinite
  executedTotal : result.dualPath.executedTotal.isFinite = true
  traces : ∀ trace ∈ result.dualPath.traces, trace.IsFinite

@[mk_iff]
structure CountsFit (result : EntityResult) : Prop where
  components : ∀ component ∈ result.components, component.explanation.CountsFit
  mismatches : result.dualPath.componentMismatches < Nat.pow 2 64
  traces : ∀ trace ∈ result.dualPath.traces, trace.CountsFit

instance (result : EntityResult) : Decidable result.CountsFit :=
  decidable_of_iff' _ result.countsFit_iff

variable {result : EntityResult}

theorem fits_dualPath (finite : result.IsFinite) (fits : result.CountsFit) :
    result.dualPath.Fits where
  executedTotal := finite.executedTotal
  mismatches := fits.mismatches
  traces trace member := ⟨finite.traces trace member, fits.traces trace member⟩

theorem read?_write_components (finite : result.IsFinite) (fits : result.CountsFit) :
    (ComponentResult.codec .number).list.read?
      ((ComponentResult.codec .number).list.write result.components) =
        some (result.components.map ComponentResult.reread) :=
  (ComponentResult.faithful 0).list.read?_write (by decide) fun component member =>
    ⟨finite.components component member, fits.components component member⟩

theorem read?_write_dualPath (finite : result.IsFinite) (fits : result.CountsFit) :
    (DualPathRecord.codec .number).read?
      ((DualPathRecord.codec .number).write result.dualPath) = some result.dualPath.reread :=
  (DualPathRecord.faithful 0).read?_write (by decide) (fits_dualPath finite fits)

def reread (result : EntityResult) : EntityResult :=
  { result with
    components := result.components.map ComponentResult.reread
    total := Double.reread result.total
    dualPath := result.dualPath.reread }

/-- A result is read back if its total is finite as well. -/
theorem faithful (depth : Nat) : (codec .number).Faithful (depth + 5)
    (fun result => result.total.isFinite = true ∧ result.IsFinite ∧ result.CountsFit) reread := by
  refine .record (.whole (fun result => ⟨result.entityId, result.variantId,
    result.components.map ComponentResult.reread, Double.reread result.total,
    result.dualPath.reread⟩) ?_ fun _ => rfl) (by decide)
  refine .seq ?_ (.required (DualPathRecord.faithful depth) fun _ fit =>
    fits_dualPath fit.2.1 fit.2.2)
  refine .seq ?_ (.required (Codec.faithful_float _) fun _ fit => fit.1)
  refine .seq ?_ (.required (ComponentResult.faithful depth).list fun _ fit component member =>
    ⟨fit.2.1.components component member, fit.2.2.components component member⟩)
  refine .seq ?_ (.required (Codec.faithful_string _) fun _ _ => trivial)
  refine .map (.required (Codec.faithful_string _) fun _ _ => trivial) ?_
  intro _ _ _ _ components componentsFit total totalFinite dualPath dualPathFits
  exact ⟨totalFinite,
    ⟨fun component member => (componentsFit component member).1, dualPathFits.executedTotal,
      fun trace member => (dualPathFits.traces trace member).1⟩,
    fun component member => (componentsFit component member).2, dualPathFits.mismatches,
    fun trace member => (dualPathFits.traces trace member).2⟩

end EntityResult

end VariablePay
