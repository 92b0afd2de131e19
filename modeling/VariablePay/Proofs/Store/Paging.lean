import VariablePay.Proofs.Outcome
import VariablePay.Proofs.Store.Steps

set_option autoImplicit false

/-!
# Loading all pages of a list

A list that is read page by page is read as a whole: its items in their order, or the fault of the
first that cannot be read.
-/

namespace VariablePay

namespace Page

variable {α : Type}

theorem next_offset (page : Page) : page.next.offset = page.offset + page.limit := rfl

theorem length_slice (page : Page) (items : List α) :
    (page.slice items).length = min page.limit (items.length - page.offset) := by
  rw [slice, List.length_take, List.length_drop]

theorem drop_eq_slice_append (page : Page) (items : List α) :
    items.drop page.offset = page.slice items ++ items.drop page.next.offset := by
  rw [slice, next_offset, ← List.drop_drop, List.take_append_drop]

end Page

namespace Activity

variable {ε σ α β : Type}

/-- Pages that are read from a list without a change of state come to the whole list, read. -/
theorem drainFrom?_yields {fetch : Page → Activity ε σ (List β)} {read : α → Except ε β}
    {items : List α} {before : σ} (fetched : ∀ page : Page, page.offset ≤ items.length →
      (fetch page).Yields before ((page.slice items).mapM read) before) {bound : Nat} {page : Page}
    (positive : 0 < page.limit) (inside : page.offset ≤ items.length)
    (enough : items.length - page.offset < bound) :
    (drainFrom? fetch bound page).Yields before
      (((items.drop page.offset).mapM read).map some) before := by
  induction bound generalizing page with
  | zero => omega
  | succ bound ih =>
      have first := fetched page inside
      have nextOffset := page.next_offset
      rw [page.drop_eq_slice_append, List.mapM_append]
      unfold drainFrom?
      cases found : (page.slice items).mapM read with
      | error fault =>
          rw [found] at first
          exact first.bind_error
      | ok values =>
          rw [found] at first
          refine first.bind ?_
          have length := length_eq_of_mapM_eq_ok found
          rw [page.length_slice] at length
          by_cases short : values.length < page.limit
          · have last : items.drop page.next.offset = [] := by
              rw [List.drop_eq_nil_iff]
              omega
            rw [if_pos short, last, List.mapM_nil]
            change (Activity.pure (some values)).Yields before (.ok (some (values ++ []))) before
            rw [List.append_nil]
            exact .pure _
          · have rest := @ih page.next positive (by omega) (by omega)
            rw [if_neg short]
            cases later : (items.drop page.next.offset).mapM read with
            | error fault =>
                rw [later] at rest
                exact rest.bind_error
            | ok others =>
                rw [later] at rest
                exact rest.bind (.pure _)

end Activity

end VariablePay
