import VariablePay.Ledger.Basic
import VariablePay.Proofs.Store.Steps

set_option autoImplicit false

/-!
# Tables and columns

A table gives its rows unless it is missing, and a column that has to have a number refuses only
`NaN`.
-/

namespace VariablePay.Ledger

variable {α β : Type}

theorem find?_upsert (isSame : α → Bool) (change : Option α → α)
    (keeps : ∀ old, isSame (change old) = true) (rows : List α) :
    (upsert isSame change rows).find? isSame = some (change (rows.find? isSame)) := by
  induction rows with
  | nil => simp [upsert, keeps]
  | cons row rows ih =>
      unfold upsert
      cases same : isSame row with
      | true => simp [same, keeps]
      | false => simp [same, ih]

/-- What is not meant is found as before. -/
theorem find?_upsert_of_other {isSame isOther : α → Bool} {change : Option α → α}
    (apart : ∀ row, isSame row = true → isOther row = false)
    (keeps : ∀ old, isSame (change old) = true) (rows : List α) :
    (upsert isSame change rows).find? isOther = rows.find? isOther := by
  induction rows with
  | nil => simp [upsert, apart _ (keeps none)]
  | cons row rows ih =>
      unfold upsert
      cases same : isSame row with
      | true => simp [apart _ same, apart _ (keeps (some row))]
      | false => simp [List.find?_cons, ih]

/-- What is not meant stands as before. -/
theorem filter_upsert_of_others {isSame : α → Bool} {change : Option α → α}
    (keeps : ∀ old, isSame (change old) = true) (rows : List α) :
    (upsert isSame change rows).filter (fun row => !isSame row) =
      rows.filter fun row => !isSame row := by
  induction rows with
  | nil => simp [upsert, keeps]
  | cons row rows ih =>
      unfold upsert
      cases same : isSame row with
      | true => simp [same, keeps]
      | false => simp [same, ih]

theorem mem_of_mem_upsert {isSame : α → Bool} {change : Option α → α} {rows : List α} {row : α}
    (member : row ∈ upsert isSame change rows) : (∃ old, row = change old) ∨ row ∈ rows := by
  induction rows with
  | nil => exact .inl ⟨none, List.mem_singleton.mp member⟩
  | cons first rest ih =>
      unfold upsert at member
      split at member
      · rcases List.mem_cons.mp member with changed | later
        · exact .inl ⟨some first, changed⟩
        · exact .inr (.tail _ later)
      · rcases List.mem_cons.mp member with rfl | later
        · exact .inr (.head _)
        · exact (ih later).imp_right (.tail _)

/-- Rows under distinct keys stay so if the row that is meant is told by its key. -/
theorem nodup_upsert {isSame : α → Bool} {key : α → β} {meant : β}
    (told : ∀ row, isSame row = true ↔ key row = meant) {change : Option α → α}
    (keeps : ∀ old, key (change old) = meant) {rows : List α} (distinct : (rows.map key).Nodup) :
    ((upsert isSame change rows).map key).Nodup := by
  induction rows with
  | nil => simp [upsert]
  | cons row rows ih =>
      obtain ⟨new, distinct⟩ := List.nodup_cons.mp distinct
      unfold upsert
      split
      · rename_i same
        rw [List.map_cons, keeps, ← (told row).mp same]
        exact List.nodup_cons.mpr ⟨new, distinct⟩
      · rename_i other
        refine List.nodup_cons.mpr ⟨fun member => ?_, ih distinct⟩
        obtain ⟨found, inRows, sameKey⟩ := List.mem_map.mp member
        rcases mem_of_mem_upsert inRows with ⟨old, rfl⟩ | earlier
        · exact other ((told row).mpr (sameKey.symm.trans (keeps old)))
        · exact new (List.mem_map.mpr ⟨found, earlier, sameKey⟩)

theorem upsert_of_fresh {isSame : α → Bool} {rows : List α}
    (fresh : ∀ row ∈ rows, isSame row = false) (change : Option α → α) :
    upsert isSame change rows = rows ++ [change none] := by
  induction rows with
  | nil => rfl
  | cons row rows ih =>
      obtain ⟨other, fresh⟩ := List.forall_mem_cons.mp fresh
      simp [upsert, other, ih fresh]

theorem upsert_concat {isSame : α → Bool} {rows : List α}
    (fresh : ∀ row ∈ rows, isSame row = false) {last : α} (same : isSame last = true)
    (change : Option α → α) :
    upsert isSame change (rows ++ [last]) = rows ++ [change (some last)] := by
  induction rows with
  | nil => simp [upsert, same]
  | cons row rows ih =>
      obtain ⟨other, fresh⟩ := List.forall_mem_cons.mp fresh
      simp [upsert, other, ih fresh]

theorem rowsOf_yields {table : Ledger → Table α} {ledger : Ledger} {rows : List α}
    (present : table ledger = some rows) : (rowsOf table).Yields ledger (.ok rows) ledger := by
  constructor <;> simp only [rowsOf, present]

theorem rowsOf_yields_error {table : Ledger → Table α} {ledger : Ledger}
    (missing : table ledger = none) :
    (rowsOf table).Yields ledger (.error (.database .missingTable)) ledger := by
  constructor <;> simp only [rowsOf, missing]

theorem eq_some_of_rowsOf {table : Ledger → Table α} {ledger after : Ledger} {rows : List α}
    (given : (rowsOf table).Yields ledger (.ok rows) after) :
    table ledger = some rows ∧ after = ledger := by
  cases present : table ledger with
  | none => cases (given.unique (rowsOf_yields_error present)).1
  | some found =>
      obtain ⟨same, rfl⟩ := given.unique (rowsOf_yields present)
      cases same
      exact ⟨rfl, rfl⟩

theorem eq_of_rowsOf {table : Ledger → Table α} {ledger after : Ledger}
    {result : Except Failure (List α)} (read : (rowsOf table).Yields ledger result after) :
    after = ledger := by
  cases present : table ledger with
  | none => exact (read.unique (rowsOf_yields_error present)).2
  | some rows => exact (read.unique (rowsOf_yields present)).2

theorem realColumn_eq_none_iff {value : Float} : realColumn value = none ↔ value.isNaN = true := by
  unfold realColumn
  split
  · rename_i isNaN
    exact iff_of_true rfl isNaN
  · rename_i number
    refine iff_of_false ?_ number
    split <;> nofun

theorem exists_of_realColumn {value : Float} (number : value.isNaN = false) :
    ∃ kept, realColumn value = some kept := by
  rw [← Option.ne_none_iff_exists', ne_eq, realColumn_eq_none_iff, number]
  nofun

theorem requiredReal_eq {column : String} {value kept : Float}
    (number : realColumn value = some kept) :
    requiredReal column value = Activity.pure kept := by
  unfold requiredReal
  rw [number]

theorem requiredReal_eq_fail {column : String} {value : Float}
    (notNumber : realColumn value = none) :
    requiredReal column value = Activity.fail (.database (.missingValue column)) := by
  unfold requiredReal
  rw [notNumber]

/-- Items that are read without a change of the ledger are read up to the first that cannot be. -/
theorem readEach_yields {read : α → LedgerActivity β} {ledger : Ledger}
    (unchanged : ∀ item, (read item ledger).state = ledger) (items : List α) :
    (readEach read items).Yields ledger (items.mapM fun item => (read item ledger).result)
      ledger := by
  induction items with
  | nil => exact .pure []
  | cons item rest ih =>
      have first : (read item).Yields ledger (read item ledger).result ledger :=
        ⟨rfl, unchanged item⟩
      rw [List.mapM_cons]
      cases found : (read item ledger).result with
      | error fault =>
          rw [found] at first
          exact first.bind_error
      | ok value =>
          rw [found] at first
          refine first.bind ?_
          cases later : rest.mapM fun item => (read item ledger).result with
          | error fault =>
              rw [later] at ih
              exact ih.bind_error
          | ok values =>
              rw [later] at ih
              exact ih.bind (.pure _)

end VariablePay.Ledger
