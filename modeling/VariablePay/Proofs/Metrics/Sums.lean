import VariablePay.Proofs.Metrics.Fields

set_option autoImplicit false

/-!
# Sums of additive fields

A key that one additive field comes to holds the sum of that field over its own rows, each of them
counted once, in their order. What entity rows leave there does not depend on location rows.
-/

namespace VariablePay

open MetricRow Contribution

/-- The sum of values from left to right, from zero, if there are any. -/
def sumOf? (values : List Float) : Option Float :=
  if values.isEmpty then none else some (values.foldl (· + ·) 0.0)

variable {config : AggregationConfig}

private theorem settle_some_of_additive (key field : String)
    (additive : config.isFirstWins field = false) (values : List Float) (start : Float) :
    settle config (some start) (values.map fun value => ⟨key, field, value⟩) =
      some (values.foldl (· + ·) start) := by
  induction values generalizing start with
  | nil => rfl
  | cons value rest ih => simp [onto, additive, ih]

theorem settle_of_additive (key field : String) (additive : config.isFirstWins field = false)
    (values : List Float) :
    settle config none (values.map fun value => ⟨key, field, value⟩) = sumOf? values := by
  cases values with
  | nil => rfl
  | cons value rest => simp [onto, additive, settle_some_of_additive, sumOf?]

/-- Whether a key holds the sum of values that entity rows have, whatever location rows there are.
In the namespace of locations entity rows leave nothing. -/
structure HoldsSum (config : AggregationConfig) (entityRows : List MetricRow) (key : String)
    (values : List Float) : Prop where
  sum : isLocationKey key = false →
    ∀ locationRows, (aggregate config entityRows locationRows).get? key = sumOf? values
  reserved : isLocationKey key = true → (aggregate config entityRows []).get? key = none

private theorem exists_row_of_mem {key : String} {entityRows : List MetricRow}
    {contribution : Contribution}
    (member : contribution ∈ contributionsTo .entity key entityRows) :
    ∃ row ∈ entityRows, row.values.contains contribution.field = true ∧
      (contribution.field = key ∨ row.category ++ "." ++ contribution.field = key) := by
  obtain ⟨same, row, inRows, contributed⟩ := mem_contributionsTo member
  obtain ⟨present, reached⟩ := mem_allContributions (List.mem_filter.mp contributed).1
  simp only [same, RowScope.space, String.empty_append] at reached
  exact ⟨row, inRows, present, reached.imp Eq.symm Eq.symm⟩

/-- An additive field is summed at its name if no other field comes to that key. -/
theorem FieldName.holdsSum (name : FieldName) (additive : config.isFirstWins name.field = false)
    {entityRows : List MetricRow}
    (alone : ∀ contribution ∈ contributionsTo .entity (name.key .entity) entityRows,
      contribution.field = name.field) :
    HoldsSum config entityRows (name.key .entity) (entityRows.filterMap name.valueIn?) where
  sum free locationRows := by
    have admitted : name.IsAdmitted .entity := fun _ => free
    have own := name.filter_contributionsTo admitted entityRows
    rw [List.filter_eq_self.mpr fun contribution member =>
      decide_eq_true (alone contribution member)]
      at own
    rw [get?_aggregate_of_scope _ admitted.isLocationKey_eq]
    exact (congrArg (settle config none) own).trans (settle_of_additive _ _ additive _)
  reserved inSpace := by
    rw [get?_aggregate_of_scope .location inSpace]
    rfl

/-- An additive field holds, under its own name, the sum over all rows that have it if no qualified
name is the same, and under a qualified name the sum over the rows of the category if no other name
is the same. -/
theorem aggregate_sums_additive_fields {config : AggregationConfig} {field : String}
    (additive : config.isFirstWins field = false) (entityRows : List MetricRow)
    (category : String) :
    ((∀ row ∈ entityRows, ∀ other, row.values.contains other = true →
        row.category ++ "." ++ other ≠ field) →
      HoldsSum config entityRows field
        (entityRows.filterMap fun row => row.values.get? field)) ∧
    ((∀ row ∈ entityRows, row.values.contains (category ++ "." ++ field) = false) →
      (∀ row ∈ entityRows, ∀ other, row.values.contains other = true →
        row.category ++ "." ++ other = category ++ "." ++ field →
          row.category = category ∧ other = field) →
      HoldsSum config entityRows (category ++ "." ++ field)
        ((entityRows.filter fun row => row.category = category).filterMap fun row =>
          row.values.get? field)) := by
  constructor
  · intro noQualified
    have isKey : FieldName.key .entity ⟨none, field⟩ = field := by
      simp [FieldName.key, RowScope.space]
    rw [← isKey]
    refine FieldName.holdsSum ⟨none, field⟩ additive fun contribution member => ?_
    rw [isKey] at member
    obtain ⟨row, inRows, present, plain | qualified⟩ := exists_row_of_mem member
    · exact plain
    · exact absurd qualified (noQualified row inRows _ present)
  · intro noPlain noQualified
    have isKey : FieldName.key .entity ⟨some category, field⟩ = category ++ "." ++ field := by
      simp [FieldName.key, RowScope.space]
    have values : (entityRows.filter fun row => row.category = category).filterMap
        (fun row => row.values.get? field) =
          entityRows.filterMap (FieldName.valueIn? ⟨some category, field⟩) := by
      rw [List.filterMap_filter]
      refine List.filterMap_congr fun row _ => ?_
      simp [FieldName.valueIn?, eq_comm]
    rw [← isKey, values]
    refine FieldName.holdsSum ⟨some category, field⟩ additive fun contribution member => ?_
    rw [isKey] at member
    obtain ⟨row, inRows, present, plain | qualified⟩ := exists_row_of_mem member
    · rw [plain, noPlain row inRows] at present
      cases present
    · exact (noQualified row inRows _ present qualified).2

/-- Rows of three categories, with a revenue each, and a field whose name looks qualified. -/
def salesRows : List MetricRow := [
  ⟨.entity, "entity", "sales", .ofList [("badge", 7.0), ("revenue", 10.0)]⟩,
  ⟨.entity, "entity", "location", .ofList [("revenue", 2.0)]⟩,
  ⟨.entity, "entity", "", .ofList [("net.sales.revenue", 40.0), ("revenue", 3.0)]⟩,
  ⟨.entity, "entity", "sales", .ofList [("badge", 7.0), ("revenue", 5.0)]⟩]

theorem salesRows_sum_revenue :
    let config : AggregationConfig := ⟨["badge"], none⟩
    config.isFirstWins "revenue" = false ∧ ∀ locationRows,
      (aggregate config salesRows locationRows).get? "revenue" = some 20.0 ∧
      (aggregate config salesRows locationRows).get? "sales.revenue" = some 15.0 := by
  intro config
  have additive : config.isFirstWins "revenue" = false := by decide +kernel
  have notPlain : ∀ row ∈ salesRows, ∀ other ∈ row.values.keys,
      row.category ++ "." ++ other ≠ "revenue" := by decide +kernel
  have noField : ∀ row ∈ salesRows, row.values.contains "sales.revenue" = false := by
    decide +kernel
  have notOther : ∀ row ∈ salesRows, ∀ other ∈ row.values.keys,
      row.category ++ "." ++ other = "sales" ++ "." ++ "revenue" →
        row.category = "sales" ∧ other = "revenue" := by decide +kernel
  obtain ⟨plain, qualified⟩ := aggregate_sums_additive_fields additive salesRows "sales"
  have all := plain fun row inRows other present =>
    notPlain row inRows other (StringMap.mem_keys_iff.mpr present)
  have ofSales := qualified noField fun row inRows other present =>
    notOther row inRows other (StringMap.mem_keys_iff.mpr present)
  refine ⟨additive, fun locationRows => ⟨?_, ?_⟩⟩
  · rw [all.sum (by decide +kernel)]
    decide +kernel
  · exact (ofSales.sum (by decide +kernel) locationRows).trans (by decide +kernel)

end VariablePay
