import Mathlib.Data.List.Basic
import VariablePay.Metrics.Aggregation
import VariablePay.Proofs.StringMap

set_option autoImplicit false

/-!
# What stands at a key

Contributions to other keys leave a key alone, so what stands there is settled by the contributions
to that key, in their order. Entity rows reach no key in the namespace of locations, and location
rows reach no other key; so the two kinds of rows never meet at a key.
-/

namespace VariablePay

variable {config : AggregationConfig} {key : String}

namespace Contribution

/-- What a contribution leaves at its key, where `old` was. -/
def onto (config : AggregationConfig) (old : Option Float) (contribution : Contribution) : Float :=
  if config.isFirstWins contribution.field then old.getD contribution.value
  else old.getD 0.0 + contribution.value

/-- What contributions to one key leave there, where `old` was. -/
def settle (config : AggregationConfig) (old : Option Float) (contributions : List Contribution) :
    Option Float :=
  contributions.foldl (fun old contribution => some (contribution.onto config old)) old

@[simp] theorem settle_nil (old : Option Float) : settle config old [] = old := rfl

@[simp] theorem settle_cons (old : Option Float) (contribution : Contribution)
    (rest : List Contribution) :
    settle config old (contribution :: rest) =
      settle config (some (contribution.onto config old)) rest := rfl

theorem get?_addTo (metrics : MetricMap) (contribution : Contribution) :
    (contribution.addTo config metrics).get? key =
      if contribution.key = key then some (contribution.onto config (metrics.get? key))
      else metrics.get? key := by
  rw [addTo, StringMap.get?_alter]
  by_cases same : contribution.key = key
  · subst same
    simp [onto]
  · simp [same, Ne.symm same]

theorem get?_foldl_addTo (contributions : List Contribution) (metrics : MetricMap) :
    (contributions.foldl (addTo config) metrics).get? key =
      settle config (metrics.get? key)
        (contributions.filter fun contribution => contribution.key = key) := by
  induction contributions generalizing metrics with
  | nil => rfl
  | cons contribution rest ih =>
      rw [List.foldl_cons, ih, get?_addTo]
      by_cases same : contribution.key = key <;> simp [same]

end Contribution

/-- The beginning of the keys to which rows of a scope contribute. -/
def RowScope.space : RowScope → String
  | entity => ""
  | location => locationNamespace ++ "."

theorem isLocationKey_space_append (rest : String) :
    isLocationKey (RowScope.location.space ++ rest) = true := by
  simp only [isLocationKey, RowScope.space, String.toList_append, List.isPrefixOf_iff_prefix]
  exact List.prefix_append _ _

namespace MetricRow

/-- What a field of a row contributes, to its own key and to the qualified one. -/
def pair (scope : RowScope) (row : MetricRow) (entry : String × Float) : List Contribution :=
  [⟨scope.space ++ entry.1, entry.1, entry.2⟩,
    ⟨scope.space ++ row.category ++ "." ++ entry.1, entry.1, entry.2⟩]

theorem allContributions_eq (scope : RowScope) (row : MetricRow) :
    row.allContributions scope = row.values.entries.flatMap (row.pair scope) := by
  cases scope <;> rfl

theorem mem_allContributions {scope : RowScope} {row : MetricRow} {contribution : Contribution}
    (member : contribution ∈ row.allContributions scope) :
    row.values.contains contribution.field = true ∧
      (contribution.key = scope.space ++ contribution.field ∨
        contribution.key = scope.space ++ row.category ++ "." ++ contribution.field) := by
  rw [allContributions_eq] at member
  obtain ⟨entry, inRow, inPair⟩ := List.mem_flatMap.mp member
  have present : row.values.contains entry.1 = true := by
    rw [StringMap.contains, StringMap.mem_entries_iff.mp inRow]
    rfl
  rcases List.mem_pair.mp inPair with rfl | rfl
  · exact ⟨present, .inl rfl⟩
  · exact ⟨present, .inr rfl⟩

/-- Every row keeps to the keys of its scope. -/
theorem isLocationKey_of_mem {scope : RowScope} {row : MetricRow} {contribution : Contribution}
    (member : contribution ∈ row.contributions scope) :
    isLocationKey contribution.key = decide (scope = .location) := by
  obtain ⟨reaches, kept⟩ := List.mem_filter.mp member
  cases scope with
  | entity => simpa [isShadowed] using kept
  | location =>
      rcases (mem_allContributions reaches).2 with same | same <;> rw [same]
      · exact isLocationKey_space_append _
      · simp only [String.append_assoc, isLocationKey_space_append]
        rfl

/-- The contributions of rows to one key, in their order. -/
def contributionsTo (scope : RowScope) (key : String) (rows : List MetricRow) :
    List Contribution :=
  (rows.flatMap (contributions scope)).filter fun contribution => contribution.key = key

@[simp] theorem contributionsTo_nil (scope : RowScope) : contributionsTo scope key [] = [] := rfl

theorem contributionsTo_cons (scope : RowScope) (row : MetricRow) (rows : List MetricRow) :
    contributionsTo scope key (row :: rows) =
      ((row.contributions scope).filter fun contribution => contribution.key = key) ++
        contributionsTo scope key rows := by
  simp [contributionsTo]

theorem mem_contributionsTo {scope : RowScope} {rows : List MetricRow}
    {contribution : Contribution} (member : contribution ∈ contributionsTo scope key rows) :
    contribution.key = key ∧ ∃ row ∈ rows, contribution ∈ row.contributions scope := by
  obtain ⟨contributed, same⟩ := List.mem_filter.mp member
  exact ⟨of_decide_eq_true same, List.mem_flatMap.mp contributed⟩

theorem contributionsTo_eq_nil (scope : RowScope)
    (apart : isLocationKey key ≠ decide (scope = .location)) (rows : List MetricRow) :
    contributionsTo scope key rows = [] := by
  refine List.eq_nil_iff_forall_not_mem.mpr fun contribution member => ?_
  obtain ⟨same, row, _, contributed⟩ := mem_contributionsTo member
  exact apart (same ▸ isLocationKey_of_mem contributed)

end MetricRow

open MetricRow Contribution

theorem get?_aggregate (config : AggregationConfig) (entityRows locationRows : List MetricRow)
    (key : String) :
    (aggregate config entityRows locationRows).get? key =
      settle config none (contributionsTo .entity key entityRows ++
        contributionsTo .location key locationRows) := by
  rw [aggregate, get?_foldl_addTo, StringMap.get?_empty, List.filter_append]
  rfl

/-- The rows of a scope among those of an entity and those of its location. -/
def RowScope.pick (entityRows locationRows : List MetricRow) : RowScope → List MetricRow
  | entity => entityRows
  | location => locationRows

/-- What stands at a key depends on the rows of one scope. -/
theorem get?_aggregate_of_scope (scope : RowScope)
    (inScope : isLocationKey key = decide (scope = .location))
    (entityRows locationRows : List MetricRow) :
    (aggregate config entityRows locationRows).get? key =
      settle config none (contributionsTo scope key (scope.pick entityRows locationRows)) := by
  rw [get?_aggregate]
  cases scope with
  | entity =>
      rw [contributionsTo_eq_nil .location (by simp [inScope]), List.append_nil]
      rfl
  | location =>
      rw [contributionsTo_eq_nil .entity (by simp [inScope]), List.nil_append]
      rfl

/-- The metrics of a location are those that its rows give alone, and all others are those that the
rows of the entity give alone. -/
theorem aggregate_keeps_scopes_apart (config : AggregationConfig)
    (entityRows locationRows : List MetricRow) :
    ((aggregate config entityRows locationRows).entries.filter fun entry =>
        "location.".toList.isPrefixOf entry.1.toList) =
      (aggregate config [] locationRows).entries ∧
    ((aggregate config entityRows locationRows).entries.filter fun entry =>
        !"location.".toList.isPrefixOf entry.1.toList) =
      (aggregate config entityRows []).entries := by
  have prefixed (key : String) :
      "location.".toList.isPrefixOf key.toList = isLocationKey key := rfl
  simp only [prefixed]
  constructor
  case left =>
    refine StringMap.filter_entries_eq isLocationKey fun key => ?_
    cases inScope : isLocationKey key with
    | true => simp [get?_aggregate_of_scope .location inScope, RowScope.pick]
    | false => simp [get?_aggregate_of_scope .entity inScope, RowScope.pick]
  case right =>
    refine StringMap.filter_entries_eq (fun key => !isLocationKey key) fun key => ?_
    cases inScope : isLocationKey key with
    | true => simp [get?_aggregate_of_scope .location inScope, RowScope.pick]
    | false => simp [get?_aggregate_of_scope .entity inScope, RowScope.pick]

end VariablePay
