import VariablePay.Store.Activity

set_option autoImplicit false

/-!
# Loading page by page

A list is loaded in pages of one size until a page comes back short. As a source may go on without
end, the number of pages is bounded, and a load that reaches the bound gives nothing.
-/

namespace VariablePay

/-- A part of a list: at most `limit` items from position `offset` on. -/
structure Page where
  offset : Nat
  limit : Nat
  deriving DecidableEq

namespace Page

/-- The first page of a size, which is at least one. -/
def first (size : Nat) : Page := ⟨0, max size 1⟩

def next (page : Page) : Page := { page with offset := page.offset + page.limit }

def slice {α : Type} (page : Page) (items : List α) : List α :=
  (items.drop page.offset).take page.limit

end Page

namespace Activity

variable {ε σ α : Type}

/-- The items of this page and all that follow, up to a short page; nothing after `bound` pages. -/
def drainFrom? (fetch : Page → Activity ε σ (List α)) :
    (bound : Nat) → Page → Activity ε σ (Option (List α))
  | 0, _ => Activity.pure none
  | bound + 1, page =>
      Activity.bind (fetch page) fun items =>
        if items.length < page.limit then Activity.pure (some items)
        else
          Activity.bind (drainFrom? fetch bound page.next) fun rest? =>
            Activity.pure (rest?.map (items ++ ·))

/-- The items of all pages of a size. -/
def drain? (fetch : Page → Activity ε σ (List α)) (bound size : Nat) :
    Activity ε σ (Option (List α)) :=
  drainFrom? fetch bound (.first size)

end Activity

end VariablePay
