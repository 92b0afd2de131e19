import Mathlib.Data.List.Nodup
import VariablePay.Proofs.DualPath
import VariablePay.Run.Preparation

set_option autoImplicit false

/-!
# Validation as a normal form

Validation accepts a rule set whatever the order of the components in its variants, and gives the
one arrangement with ascending ordinals. Rule sets that differ in that order only come out the same,
and what has come out once is left as it is.
-/

namespace VariablePay

/-- The other variant has the same components, perhaps in another order. -/
structure Variant.Reorders (variant other : Variant) : Prop where
  components : other.components.Perm variant.components
  rest : other = { variant with components := other.components }

/-- The other rule set has the same variants, perhaps with their components in another order. -/
structure RuleSet.Reorders (ruleSet other : RuleSet) : Prop where
  variants : List.Forall₂ Variant.Reorders ruleSet.variants other.variants
  rest : other = { ruleSet with variants := other.variants }

namespace Variant

variable {variant other : Variant}

theorem reorders_inOrder (variant : Variant) : variant.Reorders variant.inOrder :=
  ⟨variant.inOrder_perm, rfl⟩

theorem WellFormed.inOrder_eq (wellFormed : variant.WellFormed)
    (reorders : variant.Reorders other) : other.inOrder = variant.inOrder := by
  have permuted : other.inOrder.components.Perm variant.inOrder.components :=
    other.inOrder_perm.trans (reorders.components.trans variant.inOrder_perm.symm)
  have same : other.inOrder.components = variant.inOrder.components := by
    -- Distinct ordinals leave one ascending arrangement only.
    refine List.Perm.eq_of_pairwise ?_ other.pairwise_inOrder variant.pairwise_inOrder permuted
    intro left right inOther inVariant before after
    exact List.inj_on_of_nodup_map wellFormed.inOrder.distinct (permuted.mem_iff.mp inOther)
      inVariant (UInt32.le_antisymm before after)
  calc other.inOrder
      _ = { variant with components := other.inOrder.components } := by
        rw [Variant.inOrder, reorders.rest]
      _ = variant.inOrder := by rw [same, Variant.inOrder]

end Variant

namespace RuleSet

variable {ruleSet other : RuleSet}

theorem reorders_inOrder (ruleSet : RuleSet) :
    ruleSet.Reorders { ruleSet with variants := ruleSet.variants.map Variant.inOrder } := by
  refine ⟨?_, rfl⟩
  rw [List.forall₂_map_right_iff]
  exact List.forall₂_same.mpr fun variant _ => variant.reorders_inOrder

private theorem wellFormed_of_reorders {variants others : List Variant}
    (reorders : List.Forall₂ Variant.Reorders variants others)
    (wellFormed : ∀ variant ∈ variants, variant.WellFormed) :
    (∀ variant ∈ others, variant.WellFormed) ∧
      others.map Variant.inOrder = variants.map Variant.inOrder := by
  induction reorders with
  | nil => simp
  | cons head _ ih =>
      obtain ⟨first, rest⟩ := List.forall_mem_cons.mp wellFormed
      obtain ⟨restWellFormed, same⟩ := ih rest
      refine ⟨List.forall_mem_cons.mpr ⟨first.of_perm head.components, restWellFormed⟩, ?_⟩
      rw [List.map_cons, List.map_cons, first.inOrder_eq head, same]

theorem Reorders.validated_eq {valid : RuleSet} (reorders : ruleSet.Reorders other)
    (accepted : ruleSet.validated = .ok valid) : other.validated = .ok valid := by
  obtain ⟨nonempty, wellFormed, rfl⟩ := validated_eq_ok_iff.mp accepted
  obtain ⟨othersWellFormed, same⟩ := wellFormed_of_reorders reorders.variants wellFormed
  refine validated_eq_ok_iff.mpr ⟨fun empty => nonempty ?_, othersWellFormed, ?_⟩
  · have lengths := reorders.variants.length_eq
    rw [empty] at lengths
    exact List.eq_nil_of_length_eq_zero lengths
  · rw [same, reorders.rest]

/-- A search that looks at eligibility and default only does not see the components. -/
private theorem findIdx?_of_reorders {variants others : List Variant}
    (reorders : List.Forall₂ Variant.Reorders variants others) {wanted : Variant → Bool}
    (blind : ∀ (variant : Variant) components,
      wanted { variant with components := components } = wanted variant) :
    others.findIdx? wanted = variants.findIdx? wanted := by
  induction reorders with
  | nil => rfl
  | cons head _ ih => rw [List.findIdx?_cons, List.findIdx?_cons, ih, head.rest, blind]

theorem Reorders.variantIndexFor?_eq (reorders : ruleSet.Reorders other)
    (attributes : Attributes) :
    other.variantIndexFor? attributes = ruleSet.variantIndexFor? attributes := by
  have empty : other.variants.isEmpty = ruleSet.variants.isEmpty := by
    have lengths := reorders.variants.length_eq
    rw [Bool.eq_iff_iff, List.isEmpty_iff_length_eq_zero, List.isEmpty_iff_length_eq_zero, lengths]
  unfold variantIndexFor?
  rw [findIdx?_of_reorders reorders.variants fun _ _ => rfl,
    findIdx?_of_reorders reorders.variants fun _ _ => rfl, empty]

/-- Validation accepts just the rule sets with well-formed variants. It changes nothing but the
order of components, to that of strictly ascending ordinals, and a second time nothing at all. Any
other order of the components is accepted with the same result: variants are selected alike, and
every entity is evaluated alike. -/
theorem validated_isNormalForm (ruleSet : RuleSet) :
    ((∃ valid, ruleSet.validated = .ok valid) ↔
      ruleSet.variants ≠ [] ∧ ∀ variant ∈ ruleSet.variants, variant.WellFormed) ∧
    ∀ valid, ruleSet.validated = .ok valid →
      ruleSet.Reorders valid ∧
      (∀ variant ∈ valid.variants, variant.components.Pairwise fun left right =>
        left.ordinal < right.ordinal) ∧
      valid.validated = .ok valid ∧
      ∀ other, ruleSet.Reorders other →
        other.validated = .ok valid ∧
        (∀ attributes, other.variantIndexFor? attributes = valid.variantIndexFor? attributes) ∧
        ∀ config rows entity,
          (other.validated.map fun result =>
              let prepared := PreparedRuleSet.of result
              (prepared.select entity.attributes, prepared.evaluate config rows entity)) =
            .ok ((PreparedRuleSet.of valid).select entity.attributes,
              (PreparedRuleSet.of valid).evaluate config rows entity) := by
  refine ⟨⟨?_, ?_⟩, fun valid accepted => ?_⟩
  · rintro ⟨valid, accepted⟩
    obtain ⟨nonempty, wellFormed, _⟩ := validated_eq_ok_iff.mp accepted
    exact ⟨nonempty, wellFormed⟩
  · rintro ⟨nonempty, wellFormed⟩
    exact ⟨_, validated_eq_ok_iff.mpr ⟨nonempty, wellFormed, rfl⟩⟩
  · have reordered : ruleSet.Reorders valid := by
      obtain ⟨_, _, rfl⟩ := validated_eq_ok_iff.mp accepted
      exact ruleSet.reorders_inOrder
    refine ⟨reordered, fun variant member => (checked_of_validated accepted member).ascending,
      reordered.validated_eq accepted, fun other reorders => ?_⟩
    have again := reorders.validated_eq accepted
    refine ⟨again, fun attributes => ?_, fun config rows entity => ?_⟩
    · rw [reorders.variantIndexFor?_eq, reordered.variantIndexFor?_eq]
    · rw [again]
      rfl

end RuleSet

theorem sampleRuleSet_isNormalForm :
    let reversed : RuleSet := { sampleRuleSet with
      variants := [{ sampleVariant with components := sampleVariant.components.reverse }] }
    ∃ valid, sampleRuleSet.validated = .ok valid ∧ reversed.validated = .ok valid ∧
      valid.validated = .ok valid := by
  intro reversed
  have accepted : sampleRuleSet.validated =
      .ok { sampleRuleSet with variants := [sampleVariant.inOrder] } := rfl
  have reorders : sampleRuleSet.Reorders reversed :=
    ⟨.cons ⟨List.reverse_perm sampleVariant.components, rfl⟩ .nil, rfl⟩
  obtain ⟨_, _, again, anyOrder⟩ := sampleRuleSet.validated_isNormalForm.2 _ accepted
  exact ⟨_, accepted, (anyOrder reversed reorders).1, again⟩

end VariablePay
