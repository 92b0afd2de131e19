import VariablePay.Proofs.Double.Finite
import VariablePay.Proofs.Metrics.Fields

set_option autoImplicit false

/-!
# First values of identity fields

An identity field is never added to itself, but other fields may come to the key of its name. It
keeps its first value there whatever values the rows have, just when it comes to the key first and
no additive field comes to it.
-/

namespace VariablePay

open MetricRow Contribution

variable {config : AggregationConfig}

/-- Whether contributions to a key begin with one of the field, and none of them is added. -/
structure LedBy (config : AggregationConfig) (field : String)
    (contributions : List Contribution) : Prop where
  first : contributions.head?.map Contribution.field = some field
  identity : ∀ contribution ∈ contributions, config.isFirstWins contribution.field = true

/-- Changes a value as its field says. -/
def Contribution.revalued (change : String → Float → Float) (contribution : Contribution) :
    Contribution :=
  { contribution with value := change contribution.field contribution.value }

/-- The row with each value changed as its field says. -/
def MetricRow.revalued (change : String → Float → Float) (row : MetricRow) : MetricRow :=
  { row with values := row.values.filterMap fun field value => some (change field value) }

theorem contributions_revalued (scope : RowScope) (change : String → Float → Float)
    (row : MetricRow) :
    (row.revalued change).contributions scope =
      (row.contributions scope).map (Contribution.revalued change) := by
  have all : (row.revalued change).allContributions scope =
      (row.allContributions scope).map (Contribution.revalued change) := by
    rw [allContributions_eq, allContributions_eq, List.map_flatMap]
    simp only [MetricRow.revalued, StringMap.filterMap, Option.map_some, List.filterMap_eq_map']
    rw [List.flatMap_map]
    rfl
  rw [contributions, all, List.filter_map]
  rfl

theorem contributionsTo_revalued (scope : RowScope) (key : String)
    (change : String → Float → Float) (rows : List MetricRow) :
    contributionsTo scope key (rows.map (MetricRow.revalued change)) =
      (contributionsTo scope key rows).map (Contribution.revalued change) := by
  induction rows with
  | nil => rfl
  | cons row rows ih =>
      rw [List.map_cons, contributionsTo_cons, contributionsTo_cons, ih, contributions_revalued,
        List.filter_map, List.map_append]
      rfl

theorem MetricRow.map_revalued_self (rows : List MetricRow) :
    rows.map (MetricRow.revalued fun _ value => value) = rows := by
  refine List.map_id'' (fun row => ?_) rows
  have same : row.values.filterMap (fun _ value => some value) = row.values :=
    StringMap.eq_of_get?_eq fun key => by simp [StringMap.get?_filterMap]
  rw [MetricRow.revalued, same]

private theorem settle_some_of_identity {contributions : List Contribution} {value : Float}
    (identity : ∀ contribution ∈ contributions, config.isFirstWins contribution.field = true) :
    settle config (some value) contributions = some value := by
  induction contributions with
  | nil => rfl
  | cons contribution rest ih =>
      obtain ⟨keeps, restKeep⟩ := List.forall_mem_cons.mp identity
      rw [settle_cons, onto, if_pos keeps]
      exact ih restKeep

theorem LedBy.revalued {field : String} {contributions : List Contribution}
    (led : LedBy config field contributions) (change : String → Float → Float) :
    LedBy config field (contributions.map (Contribution.revalued change)) where
  first := by
    rw [List.head?_map, Option.map_map]
    exact led.first
  identity := by
    rintro _ member
    obtain ⟨contribution, inList, rfl⟩ := List.mem_map.mp member
    exact led.identity contribution inList

theorem LedBy.settle_eq {field : String} {contributions : List Contribution}
    (led : LedBy config field contributions) :
    settle config none contributions = contributions.head?.map Contribution.value := by
  cases contributions with
  | nil => rfl
  | cons contribution rest =>
      obtain ⟨keeps, restKeep⟩ := List.forall_mem_cons.mp led.identity
      rw [settle_cons, onto, if_pos keeps]
      exact settle_some_of_identity restKeep

private theorem isNaN_settle_some {contributions : List Contribution} {value : Float}
    (isNaN : value.isNaN = true) :
    ∃ left, settle config (some value) contributions = some left ∧ left.isNaN = true := by
  induction contributions generalizing value with
  | nil => exact ⟨value, rfl, isNaN⟩
  | cons contribution rest ih =>
      rw [settle_cons]
      refine ih ?_
      rw [onto]
      split
      · exact isNaN
      · exact Double.isNaN_add (.inl isNaN)

/-- What stands at a key is `NaN` if one is added to it; likewise if one comes first. -/
theorem isNaN_settle {contributions : List Contribution} (old : Option Float)
    {contribution : Contribution} (isNaN : contribution.value.isNaN = true)
    (member : contribution ∈ contributions)
    (added : config.isFirstWins contribution.field = false) :
    ∃ left, settle config old contributions = some left ∧ left.isNaN = true := by
  induction contributions generalizing old with
  | nil => cases member
  | cons first rest ih =>
      rw [settle_cons]
      rcases List.mem_cons.mp member with rfl | later
      · refine isNaN_settle_some ?_
        rw [onto, added]
        exact Double.isNaN_add (.inr isNaN)
      · exact ih _ later

theorem isNaN_settle_of_head (config : AggregationConfig) {contribution : Contribution}
    (rest : List Contribution) (isNaN : contribution.value.isNaN = true) :
    ∃ left, settle config none (contribution :: rest) = some left ∧ left.isNaN = true := by
  rw [settle_cons]
  refine isNaN_settle_some ?_
  rw [onto]
  split
  · exact isNaN
  · exact Double.isNaN_add (.inr isNaN)

/-- Zero for the field, and `NaN` for all others. -/
def spoilOthers (field : String) : String → Float → Float :=
  fun other _ => if other = field then 0.0 else 0.0 / 0.0

theorem ledBy_of_settle_spoiled {field : String} (identity : config.isFirstWins field = true)
    {contributions : List Contribution}
    (settled : settle config none (contributions.map (Contribution.revalued (spoilOthers field))) =
      some 0.0) : LedBy config field contributions := by
  have notZero {left : Float} (isNaN : left.isNaN = true) : some left ≠ some 0.0 := by
    rintro ⟨⟩
    revert isNaN
    decide
  have spoiled {contribution : Contribution} (other : contribution.field ≠ field) :
      (contribution.revalued (spoilOthers field)).value.isNaN = true := by
    simp only [Contribution.revalued, spoilOthers, if_neg other]
    decide
  constructor
  case first =>
    cases contributions with
    | nil => cases settled
    | cons first rest =>
        by_contra other
        obtain ⟨left, leaves, isNaN⟩ := isNaN_settle_of_head config
          (rest.map (Contribution.revalued (spoilOthers field)))
          (spoiled fun same => other (congrArg some same))
        exact notZero isNaN (leaves.symm.trans settled)
  case identity =>
    intro contribution member
    by_contra added
    have other : contribution.field ≠ field := fun same => added (same ▸ identity)
    obtain ⟨left, leaves, isNaN⟩ := isNaN_settle none (spoiled other)
      (List.mem_map_of_mem member) (Bool.eq_false_iff.mpr added)
    exact notZero isNaN (leaves.symm.trans settled)

/-- Where the contributions to the key of a name begin with its field, the first of them carries the
first value of the rows. -/
theorem FieldName.head?_contributionsTo {scope : RowScope} {name : FieldName}
    (admitted : name.IsAdmitted scope) {rows : List MetricRow}
    (led : LedBy config name.field (contributionsTo scope (name.key scope) rows)) :
    (contributionsTo scope (name.key scope) rows).head?.map Contribution.value =
      rows.findSome? name.valueIn? := by
  have own := name.filter_contributionsTo admitted rows
  rw [← List.head?_filterMap]
  cases reaching : contributionsTo scope (name.key scope) rows with
  | nil => cases reaching ▸ led.first
  | cons first rest =>
      have isOwn : first.field = name.field := by simpa [reaching] using led.first
      rw [reaching, List.filter_cons, if_pos (decide_eq_true isOwn)] at own
      cases values : rows.filterMap name.valueIn? with
      | nil => rw [values] at own; cases own
      | cons value others =>
          rw [values, List.map_cons] at own
          obtain ⟨rfl, _⟩ := List.cons.inj own
          rfl

/-- An identity field keeps its first value at its name, for the values that the rows have and for
any others, just when it is the first that comes to the key and no additive field comes to it. -/
theorem aggregate_keeps_first_iff {config : AggregationConfig} {scope : RowScope} {name : FieldName}
    (entityRows locationRows : List MetricRow) {value : Float}
    (identity : config.isFirstWins name.field = true) (admitted : name.IsAdmitted scope)
    (first : (scope.pick entityRows locationRows).findSome? name.valueIn? = some value) :
    (∀ change : String → Float → Float,
      (aggregate config (entityRows.map (MetricRow.revalued change))
        (locationRows.map (MetricRow.revalued change))).get? (name.key scope) =
          some (change name.field value)) ↔
      LedBy config name.field
        (contributionsTo scope (name.key scope) (scope.pick entityRows locationRows)) := by
  have settled (change : String → Float → Float) :
      (aggregate config (entityRows.map (MetricRow.revalued change))
        (locationRows.map (MetricRow.revalued change))).get? (name.key scope) =
      settle config none ((contributionsTo scope (name.key scope)
        (scope.pick entityRows locationRows)).map (Contribution.revalued change)) := by
    rw [get?_aggregate_of_scope _ admitted.isLocationKey_eq, ← contributionsTo_revalued]
    cases scope <;> rfl
  constructor
  · intro keeps
    refine ledBy_of_settle_spoiled identity ?_
    rw [← settled, keeps, spoilOthers, if_pos rfl]
  · intro led change
    have carried := name.head?_contributionsTo admitted led
    rw [first] at carried
    obtain ⟨contribution, isHead, rfl⟩ := Option.map_eq_some_iff.mp carried
    have own : contribution.field = name.field := by simpa [isHead] using led.first
    rw [settled, (led.revalued change).settle_eq, List.head?_map, isHead, ← own]
    rfl

/-- A badge number in the rows of the staff, and a field of other rows that has its qualified
name. -/
def badgeRows : List MetricRow := [
  ⟨.entity, "entity", "staff", .ofList [("badge", 7.0)]⟩,
  ⟨.entity, "entity", "extra", .ofList [("staff.badge", 5.0)]⟩]

theorem badgeRows_keep_first :
    let config : AggregationConfig := ⟨["badge", "staff.badge"], none⟩
    let name : FieldName := ⟨some "staff", "badge"⟩
    config.isFirstWins name.field = true ∧ name.IsAdmitted .entity ∧
      badgeRows.findSome? name.valueIn? = some 7.0 ∧
      (aggregate config badgeRows []).get? "staff.badge" = some 7.0 := by
  intro config name
  have identity : config.isFirstWins name.field = true := by decide +kernel
  have admitted : name.IsAdmitted .entity := fun _ => by decide +kernel
  have first : badgeRows.findSome? name.valueIn? = some 7.0 := by decide +kernel
  have led : LedBy config "badge" (contributionsTo .entity (name.key .entity) badgeRows) := by
    constructor <;> decide +kernel
  have keeps := (aggregate_keeps_first_iff badgeRows [] identity admitted first).mpr led
    fun _ value => value
  rw [map_revalued_self] at keeps
  exact ⟨identity, admitted, first, keeps⟩

/-- If the other field is additive, the badge number is added to. -/
theorem badgeRows_add_to_identity :
    let config : AggregationConfig := ⟨["badge"], none⟩
    let name : FieldName := ⟨some "staff", "badge"⟩
    config.isFirstWins name.field = true ∧ name.IsAdmitted .entity ∧
      name.key .entity = "staff.badge" ∧ badgeRows.findSome? name.valueIn? = some 7.0 ∧
      (aggregate config badgeRows []).get? "staff.badge" = some 12.0 ∧ (12.0 : Float) ≠ 7.0 := by
  refine ⟨?_, fun _ => ?_, ?_, ?_, ?_, ?_⟩ <;> decide +kernel

end VariablePay
