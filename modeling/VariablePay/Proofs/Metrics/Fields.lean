import VariablePay.Proofs.Metrics.Contributions

set_option autoImplicit false

/-!
# Fields of rows

A field contributes under its own name and under a name qualified by the category of its row. These
names are texts with dots in between, so several fields may come to one key; but what one field
contributes to the key of a name are its values under that name, in the order of the rows.
-/

namespace VariablePay

open MetricRow

/-- A name for a field of rows: of all rows, or of the rows of one category. -/
structure FieldName where
  category? : Option String
  field : String

namespace FieldName

def key (scope : RowScope) (name : FieldName) : String :=
  scope.space ++ name.category?.elim "" (· ++ ".") ++ name.field

def valueIn? (name : FieldName) (row : MetricRow) : Option Float :=
  if name.category?.all (· = row.category) then row.values.get? name.field else none

/-- Whether rows of a scope may write to the key of a name. Location rows always may. -/
def IsAdmitted (scope : RowScope) (name : FieldName) : Prop :=
  scope = .entity → isLocationKey (name.key .entity) = false

variable {scope : RowScope} {name : FieldName}

theorem IsAdmitted.isLocationKey_eq (admitted : name.IsAdmitted scope) :
    isLocationKey (name.key scope) = decide (scope = .location) := by
  cases scope with
  | entity => exact admitted rfl
  | location =>
      rw [key, String.append_assoc]
      exact isLocationKey_space_append _

private theorem append_dot_ne (space category : String) : space ++ category ++ "." ≠ space := by
  intro same
  have lengths := congrArg String.length same
  have dot : ".".length = 1 := rfl
  simp only [String.length_append] at lengths
  omega

/-- Of what a field of a row contributes, its name takes one value or none. -/
private theorem filter_pair (scope : RowScope) (name : FieldName) (row : MetricRow)
    (entry : String × Float) :
    ((row.pair scope entry).filter fun contribution =>
        contribution.key = name.key scope ∧ contribution.field = name.field) =
      if entry.1 = name.field then
        if name.category?.all (· = row.category) then [⟨name.key scope, name.field, entry.2⟩]
        else []
      else [] := by
  obtain ⟨category?, field⟩ := name
  obtain ⟨other, value⟩ := entry
  by_cases same : other = field
  · subst same
    cases category? with
    | none => simp [MetricRow.pair, key, append_dot_ne]
    | some category =>
        have plain := (append_dot_ne scope.space category).symm
        by_cases isOwn : category = row.category
        · simp [MetricRow.pair, key, ← String.append_assoc, plain, ← isOwn]
        · simp [MetricRow.pair, key, ← String.append_assoc, plain, isOwn, Ne.symm isOwn]
  · simp [MetricRow.pair, same]

private theorem filter_contributions (admitted : name.IsAdmitted scope) (row : MetricRow) :
    ((row.contributions scope).filter fun contribution =>
        contribution.key = name.key scope ∧ contribution.field = name.field) =
      (name.valueIn? row).toList.map fun value => ⟨name.key scope, name.field, value⟩ := by
  have inScope := admitted.isLocationKey_eq
  have kept : ∀ contribution ∈ row.allContributions scope,
      (decide (contribution.key = name.key scope ∧ contribution.field = name.field) &&
          !isShadowed scope contribution) =
        decide (contribution.key = name.key scope ∧ contribution.field = name.field) := by
    intro contribution _
    by_cases same : contribution.key = name.key scope
    · cases scope <;> simp_all [isShadowed]
    · simp [same]
  rw [contributions, List.filter_filter, List.filter_congr kept, allContributions_eq,
    List.filter_flatMap]
  simp only [filter_pair]
  rw [StringMap.flatMap_entries_eq row.values name.field fun value =>
    if name.category?.all (· = row.category) then
      [(⟨name.key scope, name.field, value⟩ : Contribution)]
    else [], valueIn?]
  cases row.values.get? name.field <;> split <;> rfl

/-- What a field contributes to the key of its name are its values, in the order of rows. -/
theorem filter_contributionsTo (admitted : name.IsAdmitted scope) (rows : List MetricRow) :
    ((contributionsTo scope (name.key scope) rows).filter fun contribution =>
        contribution.field = name.field) =
      (rows.filterMap name.valueIn?).map fun value => ⟨name.key scope, name.field, value⟩ := by
  induction rows with
  | nil => rfl
  | cons row rows ih =>
      have own := filter_contributions admitted row
      simp only [Bool.decide_and, Bool.and_comm] at own
      rw [contributionsTo_cons, List.filter_append, ih, List.filter_filter, own,
        List.filterMap_cons]
      cases name.valueIn? row <;> rfl

end FieldName

end VariablePay
