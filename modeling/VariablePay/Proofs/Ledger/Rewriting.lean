import Mathlib.Data.List.Induction
import VariablePay.Proofs.Ledger.Tables

set_option autoImplicit false

/-!
# Rows that are written again

Rows are written one after the other, each in the place of an earlier one or at the end of the
table. To write all of them again changes nothing, whatever the table held before and however often
a row stands among them.
-/

namespace VariablePay.Ledger

variable {α β κ : Type}

/-! ## Rows that move to the end -/

/-- Adds a row at the end and removes those that it replaces. -/
def moveLast (replaces : α → α → Bool) (rows : List α) (row : α) : List α :=
  rows.filter (fun old => !replaces row old) ++ [row]

/-- What none of the written rows replaces stays in front of them. -/
theorem foldl_moveLast (replaces : α → α → Bool) (rows written : List α) :
    written.foldl (moveLast replaces) rows =
      rows.filter (fun old => written.all fun row => !replaces row old) ++
        written.foldl (moveLast replaces) [] := by
  induction written using List.reverseRecOn with
  | nil => exact ((List.append_nil _).trans (List.filter_eq_self.mpr fun _ _ => rfl)).symm
  | append_singleton written row ih =>
      rw [List.foldl_append, List.foldl_append, ih]
      simp only [List.foldl_cons, List.foldl_nil]
      rw [moveLast, moveLast, List.filter_append, List.filter_filter, List.append_assoc]
      congr 2
      funext old
      simp [Bool.and_comm]

theorem mem_of_mem_foldl_moveLast {replaces : α → α → Bool} {written : List α} {row : α}
    (member : row ∈ written.foldl (moveLast replaces) []) : row ∈ written := by
  induction written using List.reverseRecOn with
  | nil => exact member
  | append_singleton written last ih =>
      rw [List.foldl_append, List.foldl_cons, List.foldl_nil, moveLast, List.mem_append] at member
      rcases member with earlier | isLast
      · exact List.mem_append_left _ (ih (List.mem_filter.mp earlier).1)
      · exact List.mem_append_right _ isLast

theorem foldl_moveLast_again {replaces : α → α → Bool} (itself : ∀ row, replaces row row = true)
    (rows written : List α) :
    written.foldl (moveLast replaces) (written.foldl (moveLast replaces) rows) =
      written.foldl (moveLast replaces) rows := by
  have noneStays : (written.foldl (moveLast replaces) []).filter
      (fun old => written.all fun row => !replaces row old) = [] := by
    rw [List.filter_eq_nil_iff]
    intro row member kept
    have apart := List.all_eq_true.mp kept row (mem_of_mem_foldl_moveLast member)
    rw [itself] at apart
    cases apart
  rw [foldl_moveLast replaces (written.foldl _ rows), foldl_moveLast replaces rows,
    List.filter_append, List.filter_filter, noneStays, List.append_nil]
  simp only [Bool.and_self]

/-! ## Rows that are updated in place -/

section

variable [DecidableEq κ] {key : α → κ} {rows : List α} {row other : α}

/-- Puts a row in the place of the first one under its key, or else at the end. -/
def put (key : α → κ) (rows : List α) (row : α) : List α :=
  upsert (fun old => key old == key row) (fun _ => row) rows

theorem find?_put (key : α → κ) (rows : List α) (row : α) :
    (put key rows row).find? (fun old => key old == key row) = some row :=
  find?_upsert (fun old => key old == key row) _ (fun _ => beq_self_eq_true (key row)) rows

theorem find?_put_of_ne (different : key other ≠ key row) (rows : List α) :
    (put key rows other).find? (fun old => key old == key row) =
      rows.find? fun old => key old == key row := by
  have apart (old : α) (same : (key old == key other) = true) : (key old == key row) = false := by
    rw [beq_iff_eq.mp same]
    exact beq_eq_false_iff_ne.mpr different
  exact find?_upsert_of_other apart (fun _ => beq_self_eq_true (key other)) rows

theorem put_of_find? (found : rows.find? (fun old => key old == key row) = some row) :
    put key rows row = rows := by
  unfold put
  induction rows with
  | nil => cases found
  | cons first rest ih =>
      rw [List.find?_cons] at found
      unfold upsert
      cases same : key first == key row with
      | true =>
          rw [same] at found
          rw [Option.some.inj found, if_pos rfl]
      | false =>
          rw [same] at found
          rw [if_neg Bool.false_ne_true, ih found]

theorem mem_keys_put {meant : κ} (member : meant ∈ rows.map key) (row : α) :
    meant ∈ (put key rows row).map key := by
  unfold put
  induction rows with
  | nil => cases member
  | cons first rest ih =>
      unfold upsert
      cases same : key first == key row with
      | true => simpa [beq_iff_eq.mp same] using member
      | false =>
          rcases List.mem_cons.mp member with rfl | later
          · exact List.mem_cons_self
          · exact List.mem_cons_of_mem _ (ih later)

/-- The later one of two rows under one key is the one that stays. -/
theorem put_put_of_same (same : key other = key row) :
    put key (put key rows other) row = put key rows row := by
  unfold put
  induction rows with
  | nil => simp [upsert, same]
  | cons first rest ih =>
      by_cases isMeant : key first = key row
      · simp [upsert, isMeant, same]
      · simpa [upsert, isMeant, same] using ih

/-- A row that has its place already can be put before or after one under another key. -/
theorem put_comm (different : key other ≠ key row) (present : key row ∈ rows.map key) :
    put key (put key rows other) row = put key (put key rows row) other := by
  unfold put
  induction rows with
  | nil => cases present
  | cons first rest ih =>
      by_cases isRow : key first = key row
      · simp [upsert, isRow, different.symm]
      · by_cases isOther : key first = key other
        · simp [upsert, isOther, different]
        · have later := (List.mem_cons.mp present).resolve_left (Ne.symm isRow)
          simpa [upsert, isRow, isOther] using ih later

/-- A row that is to be written again under its key need not be written before. -/
theorem foldl_put_of_put {written : List α} (present : key row ∈ rows.map key)
    (again : key row ∈ written.map key) :
    written.foldl (put key) (put key rows row) = written.foldl (put key) rows := by
  induction written generalizing rows with
  | nil => cases again
  | cons next written ih =>
      rw [List.foldl_cons, List.foldl_cons]
      by_cases same : key row = key next
      · rw [put_put_of_same same]
      · have later := (List.mem_cons.mp again).resolve_left same
        rw [← put_comm (Ne.symm same) present]
        exact ih (mem_keys_put present next) later

theorem mem_keys_foldl_put {meant : κ} (member : meant ∈ rows.map key) (written : List α) :
    meant ∈ (written.foldl (put key) rows).map key := by
  induction written generalizing rows with
  | nil => exact member
  | cons next written ih => exact ih (mem_keys_put member next)

/-- Rows under other keys leave a row as it is found. -/
theorem find?_foldl_put {written : List α} (different : key row ∉ written.map key)
    (rows : List α) :
    (written.foldl (put key) rows).find? (fun old => key old == key row) =
      rows.find? fun old => key old == key row := by
  induction written generalizing rows with
  | nil => rfl
  | cons next written ih =>
      rw [List.map_cons, List.mem_cons, not_or] at different
      rw [List.foldl_cons, ih different.2, find?_put_of_ne (Ne.symm different.1)]

theorem foldl_put_again (rows written : List α) :
    written.foldl (put key) (written.foldl (put key) rows) = written.foldl (put key) rows := by
  induction written generalizing rows with
  | nil => rfl
  | cons row written ih =>
      rw [List.foldl_cons, List.foldl_cons]
      -- Either a later row takes the place of this one, or this one stands in its place already.
      by_cases again : key row ∈ written.map key
      · have present : key row ∈ (put key rows row).map key := by
          have found := find?_put key rows row
          exact List.mem_map.mpr ⟨row, List.mem_of_find?_eq_some found, rfl⟩
        rw [foldl_put_of_put (mem_keys_foldl_put present written) again, ih]
      · have found := (find?_foldl_put again (put key rows row)).trans (find?_put key rows row)
        rw [put_of_find? found, ih]

end

end VariablePay.Ledger
