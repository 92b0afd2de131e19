import VariablePay.Proofs.Outcome
import VariablePay.Proofs.Plan.Bands

set_option autoImplicit false

/-!
# What validated rule sets promise

Every variant of a validated rule set has its components in strictly increasing order of ordinals,
and every component passes its own check. Evaluation, execution and comparison rely on nothing
else about a plan.
-/

namespace VariablePay

/-- A variant whose components are well configured and in strictly increasing order. -/
structure Variant.Checked (variant : Variant) : Prop where
  nonempty : variant.components ≠ []
  valid : ∀ component ∈ variant.components, component.validate = .ok ()
  ascending : variant.components.Pairwise fun left right => left.ordinal < right.ordinal

theorem validateEach_eq_ok_iff {α : Type} {check : α → Except PlanFault Unit} {items : List α} :
    validateEach check items = .ok () ↔ ∀ item ∈ items, check item = .ok () := by
  induction items with
  | nil => simp [validateEach]
  | cons item rest ih =>
      cases checked : check item <;> simp [validateEach, checked, ih]

theorem isFinite_of_validateRate {component : String} {rate : Float}
    (valid : validateRate component rate = .ok ()) : rate.isFinite = true := by
  unfold validateRate at valid
  cases finite : rate.isFinite with
  | true => rfl
  | false =>
      rw [finite, Bool.not_false, Bool.true_or, if_pos rfl] at valid
      cases valid

theorem isFinite_of_validateAmount {component : String} {role : AmountRole} {value : Float}
    (valid : validateAmount component role value = .ok ()) : value.isFinite = true := by
  unfold validateAmount at valid
  by_contra infinite
  rw [if_neg infinite] at valid
  cases valid

namespace MatrixLookup

/-- Grids that have a finite cell for each pair of a row band and a column band. -/
structure GridsChecked (config : MatrixLookup) : Prop where
  nonempty : config.grids.entries ≠ []
  default : ∀ key, config.defaultGrid = some key → config.grids.contains key = true
  rows : ∀ entry ∈ config.grids.entries, entry.2.length = config.rowBands.length
  columns : ∀ entry ∈ config.grids.entries, ∀ row ∈ entry.2,
    row.length = config.columnBands.length
  cells : ∀ entry ∈ config.grids.entries, ∀ row ∈ entry.2, ∀ cell ∈ row, cell.isFinite = true

variable {component : String} {config : MatrixLookup}

private theorem row_checked {key : String} {row : List Float × Nat}
    (valid : config.validateRow component key row = .ok ()) :
    row.1.length = config.columnBands.length ∧ ∀ cell ∈ row.1, cell.isFinite = true := by
  unfold validateRow at valid
  split at valid
  · cases valid
  · rename_i sameLength
    refine ⟨not_not.mp sameLength, fun cell inRow => ?_⟩
    exact isFinite_of_validateAmount (validateEach_eq_ok_iff.mp valid cell inRow)

private theorem grid_checked {entry : String × Grid}
    (valid : config.validateGrid component entry = .ok ()) :
    entry.2.length = config.rowBands.length ∧ ∀ row ∈ entry.2,
      row.length = config.columnBands.length ∧ ∀ cell ∈ row, cell.isFinite = true := by
  unfold validateGrid at valid
  split at valid
  · cases valid
  · rename_i sameLength
    refine ⟨not_not.mp sameLength, fun row inGrid => ?_⟩
    obtain ⟨place, inside, rfl⟩ := List.mem_iff_getElem.mp inGrid
    exact row_checked (validateEach_eq_ok_iff.mp valid (entry.2[place], place)
      (List.mk_mem_zipIdx_iff_getElem?.mpr (List.getElem?_eq_getElem inside)))

theorem gridsChecked_of_validate (valid : config.validateGrids component = .ok ()) :
    config.GridsChecked := by
  unfold validateGrids at valid
  split at valid
  · cases valid
  · rename_i nonempty
    split at valid
    · cases valid
    · rename_i defined
      have grids := fun entry inGrids =>
        grid_checked (validateEach_eq_ok_iff.mp valid entry inGrids)
      refine ⟨by simpa using nonempty, fun key isDefault => ?_, fun entry inGrids => ?_,
        fun entry inGrids row inGrid => ?_, fun entry inGrids row inGrid => ?_⟩
      · simpa [isDefault] using defined
      · exact (grids entry inGrids).1
      · exact ((grids entry inGrids).2 row inGrid).1
      · exact ((grids entry inGrids).2 row inGrid).2

end MatrixLookup

/-- Buckets in an ascending table, with finite rates. -/
structure BucketedRate.Checked (config : BucketedRate) : Prop where
  ascending : Band.Ascending (config.buckets.map RateBucket.toBand)
  rates : ∀ bucket ∈ config.buckets, bucket.rate.isFinite = true

theorem BucketedRate.checked_of_validate {component : String} {config : BucketedRate}
    (valid : config.validate component = .ok ()) : config.Checked := by
  obtain ⟨_, bandsValid, ratesValid⟩ := bind_eq_ok_iff.mp valid
  refine ⟨(Band.validate_eq_ok_iff _ _).mp bandsValid, fun bucket member => ?_⟩
  exact isFinite_of_validateRate (validateEach_eq_ok_iff.mp ratesValid bucket member)

/-- What the check of a component promises of its configuration. -/
def ComponentConfig.Checked : ComponentConfig → Prop
  | tierLookup config =>
      Band.Ascending (config.tiers.map Tier.toBand) ∧
        ∀ tier ∈ config.tiers, tier.value.isFinite = true
  | matrixLookup config =>
      Band.Ascending config.rowBands ∧ Band.Ascending config.columnBands ∧ config.GridsChecked
  | percentage config =>
      config.rate.isFinite = true ∧ ∀ threshold ∈ config.minThreshold, threshold.isFinite = true
  | conditionalPercentage config => config.Checked
  | percentageWithGate config => config.Checked
  | flatPercentage config => config.rate.isFinite = true

theorem Component.checked_of_validate {component : Component}
    (valid : component.validate = .ok ()) : component.config.Checked := by
  unfold validate at valid
  cases configured : component.config with
  | tierLookup config =>
      rw [configured] at valid
      obtain ⟨_, bandsValid, amountsValid⟩ := bind_eq_ok_iff.mp valid
      refine ⟨(Band.validate_eq_ok_iff _ _).mp bandsValid, fun tier member => ?_⟩
      exact isFinite_of_validateAmount (validateEach_eq_ok_iff.mp amountsValid tier member)
  | matrixLookup config =>
      rw [configured] at valid
      obtain ⟨_, rowsValid, valid⟩ := bind_eq_ok_iff.mp valid
      obtain ⟨_, columnsValid, gridsValid⟩ := bind_eq_ok_iff.mp valid
      exact ⟨(Band.validate_eq_ok_iff _ _).mp rowsValid,
        (Band.validate_eq_ok_iff _ _).mp columnsValid,
        MatrixLookup.gridsChecked_of_validate gridsValid⟩
  | percentage config =>
      rw [configured] at valid
      obtain ⟨_, rateValid, thresholdValid⟩ := bind_eq_ok_iff.mp valid
      refine ⟨isFinite_of_validateRate rateValid, fun threshold given => ?_⟩
      exact isFinite_of_validateAmount
        (validateEach_eq_ok_iff.mp thresholdValid threshold (Option.mem_toList.mpr given))
  | conditionalPercentage config =>
      rw [configured] at valid
      exact BucketedRate.checked_of_validate valid
  | percentageWithGate config =>
      rw [configured] at valid
      exact BucketedRate.checked_of_validate valid
  | flatPercentage config =>
      rw [configured] at valid
      exact isFinite_of_validateRate valid

namespace Variant

/-- A variant with components, all well configured, of which no two have the same ordinal. -/
structure WellFormed (variant : Variant) : Prop where
  nonempty : variant.components ≠ []
  valid : ∀ component ∈ variant.components, component.validate = .ok ()
  distinct : (variant.components.map Component.ordinal).Nodup

private theorem validateFrom_eq_ok_iff {variant : String} {components : List Component} :
    ∀ {seen : List UInt32}, validateFrom variant seen components = .ok () ↔
      (∀ component ∈ components, component.validate = .ok ()) ∧
      (∀ component ∈ components, component.ordinal ∉ seen) ∧
      (components.map Component.ordinal).Nodup := by
  induction components with
  | nil => simp [validateFrom]
  | cons component rest ih =>
      intro seen
      by_cases repeated : component.ordinal ∈ seen
      · simp [validateFrom, repeated]
      · cases checked : component.validate with
        | error fault => simp [validateFrom, repeated, checked]
        | ok =>
            have fresh : (∀ other ∈ rest, other.ordinal ∉ component.ordinal :: seen) ↔
                (∀ other ∈ rest, other.ordinal ∉ seen) ∧
                  component.ordinal ∉ rest.map Component.ordinal := by
              simp only [List.mem_cons, not_or, List.mem_map, not_exists, not_and]
              constructor
              · intro unseen
                exact ⟨fun other member => (unseen other member).2,
                  fun other member => (unseen other member).1⟩
              · rintro ⟨unseen, different⟩ other member
                exact ⟨different other member, unseen other member⟩
            rw [validateFrom, if_neg repeated, checked]
            dsimp only
            rw [ih, fresh, List.forall_mem_cons, List.forall_mem_cons, List.map_cons,
              List.nodup_cons]
            tauto

theorem validate_eq_ok_iff {variant : Variant} :
    variant.validate = .ok () ↔ variant.WellFormed := by
  rw [validate]
  split
  · rename_i isEmpty
    exact iff_of_false nofun fun wellFormed =>
      wellFormed.nonempty (List.isEmpty_iff.mp isEmpty)
  · rename_i notEmpty
    rw [validateFrom_eq_ok_iff]
    exact ⟨fun ⟨valid, _, distinct⟩ => ⟨by simpa using notEmpty, valid, distinct⟩,
      fun wellFormed => ⟨wellFormed.valid, by simp, wellFormed.distinct⟩⟩

theorem inOrder_perm (variant : Variant) : variant.inOrder.components.Perm variant.components :=
  List.mergeSort_perm variant.components _

theorem pairwise_inOrder (variant : Variant) :
    variant.inOrder.components.Pairwise fun left right => left.ordinal ≤ right.ordinal := by
  have sorted : variant.inOrder.components.Pairwise fun left right =>
      decide (left.ordinal ≤ right.ordinal) = true := by
    refine List.pairwise_mergeSort ?_ ?_ variant.components
    · intro a b c first second
      simp only [decide_eq_true_eq] at first second ⊢
      exact UInt32.le_trans first second
    · intro a b
      simpa using UInt32.le_total a.ordinal b.ordinal
  exact sorted.imp of_decide_eq_true

namespace WellFormed

variable {variant : Variant}

theorem of_perm (wellFormed : variant.WellFormed) {other : Variant}
    (permuted : other.components.Perm variant.components) : other.WellFormed := by
  refine ⟨fun empty => wellFormed.nonempty ?_, fun component member => ?_, ?_⟩
  · rw [empty] at permuted
    exact permuted.nil_eq.symm
  · exact wellFormed.valid component (permuted.mem_iff.mp member)
  · exact (permuted.map Component.ordinal).nodup_iff.mpr wellFormed.distinct

theorem inOrder (wellFormed : variant.WellFormed) : variant.inOrder.WellFormed :=
  wellFormed.of_perm variant.inOrder_perm

theorem checked_inOrder (wellFormed : variant.WellFormed) : variant.inOrder.Checked := by
  have ordered := wellFormed.inOrder
  refine ⟨ordered.nonempty, ordered.valid, ?_⟩
  refine (variant.pairwise_inOrder.and (List.pairwise_map.mp ordered.distinct)).imp ?_
  intro left right ⟨lessOrEqual, different⟩
  exact UInt32.lt_of_le_of_ne lessOrEqual different

end WellFormed

end Variant

namespace RuleSet

theorem validated_eq_ok_iff {ruleSet valid : RuleSet} :
    ruleSet.validated = .ok valid ↔
      ruleSet.variants ≠ [] ∧ (∀ variant ∈ ruleSet.variants, variant.WellFormed) ∧
        valid = { ruleSet with variants := ruleSet.variants.map Variant.inOrder } := by
  have each : validateEach Variant.validate ruleSet.variants = .ok () ↔
      ∀ variant ∈ ruleSet.variants, variant.WellFormed := by
    rw [validateEach_eq_ok_iff]
    exact forall₂_congr fun variant _ => Variant.validate_eq_ok_iff
  rw [validated]
  split
  · rename_i isEmpty
    exact iff_of_false nofun fun ⟨nonempty, _⟩ => nonempty (List.isEmpty_iff.mp isEmpty)
  · rename_i notEmpty
    have nonempty : ruleSet.variants ≠ [] := by simpa using notEmpty
    rw [← each]
    cases validateEach Variant.validate ruleSet.variants with
    | error fault => simp
    | ok => simp [nonempty, eq_comm]

theorem checked_of_validated {ruleSet valid : RuleSet} (accepted : ruleSet.validated = .ok valid)
    {variant : Variant} (member : variant ∈ valid.variants) : variant.Checked := by
  obtain ⟨_, wellFormed, rfl⟩ := validated_eq_ok_iff.mp accepted
  obtain ⟨original, inOriginal, rfl⟩ := List.mem_map.mp member
  exact (wellFormed original inOriginal).checked_inOrder

theorem variants_ne_nil_of_validated {ruleSet valid : RuleSet}
    (accepted : ruleSet.validated = .ok valid) : valid.variants ≠ [] := by
  obtain ⟨nonempty, _, rfl⟩ := validated_eq_ok_iff.mp accepted
  exact fun empty => nonempty (List.map_eq_nil_iff.mp empty)

/-- Some variant applies to every entity, if there are any variants. -/
theorem exists_variantFor? {ruleSet : RuleSet} (notEmpty : ruleSet.variants ≠ [])
    (attributes : StringMap String) :
    ∃ variant ∈ ruleSet.variants, ruleSet.variantFor? attributes = some variant := by
  have inRange : ∃ index, ruleSet.variantIndexFor? attributes = some index ∧
      index < ruleSet.variants.length := by
    unfold variantIndexFor?
    cases met : ruleSet.variants.findIdx? fun variant =>
        variant.eligibility.any fun e => e.isMetBy attributes with
    | some index => exact ⟨index, rfl, (List.findIdx?_eq_some_iff_getElem.mp met).1⟩
    | none =>
        cases default : ruleSet.variants.findIdx? Variant.isDefault with
        | some index => exact ⟨index, rfl, (List.findIdx?_eq_some_iff_getElem.mp default).1⟩
        | none =>
            refine ⟨0, ?_, List.length_pos_of_ne_nil notEmpty⟩
            rw [Option.or_none, Option.none_or, if_neg (by simpa using notEmpty)]
  obtain ⟨index, applies, less⟩ := inRange
  refine ⟨ruleSet.variants[index], List.getElem_mem less, ?_⟩
  rw [variantFor?, applies, Option.bind_some, List.getElem?_eq_getElem less]

end RuleSet

end VariablePay
