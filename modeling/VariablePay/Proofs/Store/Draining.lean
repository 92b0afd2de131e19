import Mathlib.Data.Nat.Find
import VariablePay.Proofs.Store.Paging

set_option autoImplicit false

/-!
# The requests of a load

A load asks for page after page and stops at the first answer that is a fault or a short page.
Here the requests are recorded beside the state, so that what is asked for, in which order and how
often, can be held against the pages of a list or of a source that answers as it likes.
-/

namespace VariablePay

namespace Page

variable {ε α : Type}

def nth (size index : Nat) : Page := ⟨index * max size 1, max size 1⟩

theorem first_eq_nth (size : Nat) : first size = nth size 0 := by
  rw [first, nth, Nat.zero_mul]

@[simp]
theorem next_nth (size index : Nat) : (nth size index).next = nth size (index + 1) := by
  rw [next, nth, nth, Nat.succ_mul]

/-- The pages before an index hold the items before its offset. -/
theorem flatten_slices (size : Nat) (items : List α) (index : Nat) :
    ((List.range index).map fun earlier => (nth size earlier).slice items).flatten =
      items.take (nth size index).offset := by
  induction index with
  | zero => rw [nth, Nat.zero_mul, List.take_zero]; rfl
  | succ index ih =>
      rw [List.range_succ, List.map_append, List.flatten_append, ih, ← next_nth, next_offset,
        List.take_add]
      simp only [List.map_cons, List.map_nil, List.flatten_cons, List.flatten_nil,
        List.append_nil, slice]

/-- A load stops at this answer: a fault, or a page shorter than the size. -/
def Stops (size : Nat) : Except ε (List α) → Prop
  | .error _ => True
  | .ok items => items.length < max size 1

instance (size : Nat) : (answer : Except ε (List α)) → Decidable (Stops size answer)
  | .error _ => inferInstanceAs (Decidable True)
  | .ok items => inferInstanceAs (Decidable (items.length < max size 1))

end Page

namespace Activity

variable {ε σ α : Type}

/-- Asks for a page and records that it was asked for. -/
def recording (fetch : Page → Activity ε σ (List α)) (page : Page) :
    Activity ε (σ × List Page) (List α) := fun state =>
  let done := fetch page state.1
  ⟨done.result, (done.state, state.2 ++ [page]), done.notes⟩

/-- The state in which the page of an index is asked for, if all before it are. -/
def stateAt (fetch : Page → Activity ε σ (List α)) (size : Nat) (before : σ) : Nat → σ
  | 0 => before
  | index + 1 => (fetch (.nth size index) (stateAt fetch size before index)).state

/-- What the request for the page of an index is answered, if all before it are made. -/
def answerAt (fetch : Page → Activity ε σ (List α)) (size : Nat) (before : σ) (index : Nat) :
    Except ε (List α) :=
  (fetch (.nth size index) (stateAt fetch size before index)).result

/-- The items of so many pages from an index on, or the first fault among their answers. -/
def itemsFrom (fetch : Page → Activity ε σ (List α)) (size : Nat) (before : σ)
    (index count : Nat) : Except ε (List α) :=
  ((List.range' index count).mapM (answerAt fetch size before)).map List.flatten

/-- A load makes just so many requests, for the pages from the first on in their order, and comes
to the result, whatever bound it is given that allows for them. -/
structure Drains (fetch : Page → Activity ε σ (List α)) (size : Nat) (before : σ)
    (requests : Nat) (result : Except ε (List α)) : Prop where
  loads : ∀ bound, requests ≤ bound →
    (drain? fetch bound size).Yields before (result.map some) (stateAt fetch size before requests)
  asks : ∀ bound asked, requests ≤ bound →
    (drain? (recording fetch) bound size).Yields (before, asked) (result.map some)
      (stateAt fetch size before requests, asked ++ (List.range requests).map (Page.nth size))

/-- A recorded activity does what the plain one does, whatever has been recorded before. -/
def Mirrors {β : Type} (recorded : Activity ε (σ × List Page) β) (plain : Activity ε σ β) : Prop :=
  ∀ state asked, ∃ requests,
    recorded (state, asked) =
      ⟨(plain state).result, ((plain state).state, requests), (plain state).notes⟩

namespace Mirrors

variable {β γ : Type} {recorded : Activity ε (σ × List Page) β} {plain : Activity ε σ β}

theorem pure (value : β) :
    Mirrors (Activity.pure value : Activity ε (σ × List Page) β) (Activity.pure value) :=
  fun _ asked => ⟨asked, rfl⟩

theorem recording (fetch : Page → Activity ε σ (List α)) (page : Page) :
    Mirrors (recording fetch page) (fetch page) :=
  fun _ asked => ⟨asked ++ [page], rfl⟩

theorem bind {recordedNext : β → Activity ε (σ × List Page) γ} {plainNext : β → Activity ε σ γ}
    (first : Mirrors recorded plain)
    (next : ∀ value, Mirrors (recordedNext value) (plainNext value)) :
    Mirrors (Activity.bind recorded recordedNext) (Activity.bind plain plainNext) := by
  intro state asked
  obtain ⟨requests, same⟩ := first state asked
  simp only [Activity.bind, same]
  cases (plain state).result with
  | error fault => exact ⟨requests, rfl⟩
  | ok value =>
      obtain ⟨later, sameNext⟩ := next value (plain state).state requests
      exact ⟨later, by simp only [sameNext]⟩

theorem drainFrom? (fetch : Page → Activity ε σ (List α)) (bound : Nat) (page : Page) :
    Mirrors (drainFrom? (Activity.recording fetch) bound page)
      (Activity.drainFrom? fetch bound page) := by
  induction bound generalizing page with
  | zero => exact pure none
  | succ bound ih =>
      refine (recording fetch page).bind fun items => ?_
      split
      · exact pure (some items)
      · exact (ih page.next).bind fun _ => pure _

theorem yields (mirrors : Mirrors recorded plain) {before after : σ} {asked requests : List Page}
    {result : Except ε β} (came : recorded.Yields (before, asked) result (after, requests)) :
    plain.Yields before result after := by
  obtain ⟨found, same⟩ := mirrors before asked
  obtain ⟨sameResult, sameState⟩ := came
  rw [same] at sameResult sameState
  exact ⟨sameResult, congrArg Prod.fst sameState⟩

end Mirrors

section Loads

variable {fetch : Page → Activity ε σ (List α)} {size : Nat} {before : σ} {index : Nat}
  {answer : Except ε (List α)} {items : List α}

theorem itemsFrom_one (fetch : Page → Activity ε σ (List α)) (size : Nat) (before : σ)
    (index : Nat) : itemsFrom fetch size before index 1 = answerAt fetch size before index := by
  rw [itemsFrom, List.range'_one, List.mapM_cons, List.mapM_nil]
  cases answerAt fetch size before index with
  | error fault => rfl
  | ok items => exact congrArg Except.ok (List.append_nil items)

theorem itemsFrom_succ (answered : answerAt fetch size before index = .ok items) (count : Nat) :
    itemsFrom fetch size before index (count + 1) =
      (itemsFrom fetch size before (index + 1) count).map (items ++ ·) := by
  rw [itemsFrom, itemsFrom, List.range'_succ, List.mapM_cons, answered]
  cases (List.range' (index + 1) count).mapM (answerAt fetch size before) <;> rfl

theorem recording_yields (answered : answerAt fetch size before index = answer)
    (asked : List Page) :
    (recording fetch (.nth size index)).Yields (stateAt fetch size before index, asked) answer
      (stateAt fetch size before (index + 1), asked ++ [Page.nth size index]) :=
  ⟨answered, rfl⟩

/-- At an answer it stops at, a load comes to that answer. -/
theorem drainFrom?_of_stops (stops : Page.Stops size (answerAt fetch size before index))
    (bound : Nat) (asked : List Page) :
    (drainFrom? (recording fetch) (bound + 1) (.nth size index)).Yields
      (stateAt fetch size before index, asked) ((answerAt fetch size before index).map some)
      (stateAt fetch size before (index + 1), asked ++ [Page.nth size index]) := by
  cases answered : answerAt fetch size before index with
  | error fault => exact (recording_yields answered asked).bind_error
  | ok items =>
      rw [answered] at stops
      refine (recording_yields answered asked).bind ?_
      rw [if_pos (show items.length < (Page.nth size index).limit from stops)]
      exact .pure _

/-- After a page that is not short, a load goes on with the next. -/
theorem drainFrom?_of_full (answered : answerAt fetch size before index = .ok items)
    (full : max size 1 ≤ items.length) {bound : Nat} {asked : List Page}
    {rest : Except ε (List α)} {after : σ × List Page}
    (later : (drainFrom? (recording fetch) bound (.nth size (index + 1))).Yields
      (stateAt fetch size before (index + 1), asked ++ [Page.nth size index]) (rest.map some)
      after) :
    (drainFrom? (recording fetch) (bound + 1) (.nth size index)).Yields
      (stateAt fetch size before index, asked) ((rest.map (items ++ ·)).map some) after := by
  refine (recording_yields answered asked).bind ?_
  rw [if_neg (show ¬ items.length < (Page.nth size index).limit from Nat.not_lt.mpr full),
    Page.next_nth]
  cases rest with
  | error fault => exact later.bind_error
  | ok others => exact later.bind (.pure _)

/-- From the page of an index on, a load goes through the answers up to the first it stops at,
whatever it has to spare of its bound. -/
theorem drainFrom?_recording_yields {more : Nat}
    (goesOn : ∀ earlier, index ≤ earlier → earlier < index + more →
      ¬ Page.Stops size (answerAt fetch size before earlier))
    (stops : Page.Stops size (answerAt fetch size before (index + more)))
    (spare : Nat) (asked : List Page) :
    (drainFrom? (recording fetch) (spare + more + 1) (.nth size index)).Yields
      (stateAt fetch size before index, asked)
      ((itemsFrom fetch size before index (more + 1)).map some)
      (stateAt fetch size before (index + more + 1),
        asked ++ (List.range' index (more + 1)).map (Page.nth size)) := by
  induction more generalizing index asked with
  | zero =>
      rw [itemsFrom_one]
      exact drainFrom?_of_stops stops spare asked
  | succ more ih =>
      have following : index + 1 + more = index + (more + 1) := by omega
      have first := goesOn index (Nat.le_refl index) (by omega)
      cases answered : answerAt fetch size before index with
      | error fault =>
          rw [answered] at first
          exact absurd trivial first
      | ok items =>
          rw [answered] at first
          rw [← following] at goesOn stops
          have later := ih (fun earlier above => goesOn earlier (Nat.le_of_succ_le above)) stops
            (asked ++ [Page.nth size index])
          rw [following] at later
          rw [itemsFrom_succ answered, List.range'_succ, List.map_cons, List.append_cons]
          exact drainFrom?_of_full answered (Nat.not_lt.mp first) later

/-- A load makes the requests up to the first answer it stops at, and no more. -/
theorem drains_of_stops {last : Nat}
    (goesOn : ∀ earlier < last, ¬ Page.Stops size (answerAt fetch size before earlier))
    (stops : Page.Stops size (answerAt fetch size before last)) :
    Drains fetch size before (last + 1) (itemsFrom fetch size before 0 (last + 1)) := by
  rw [← Nat.zero_add last] at goesOn stops
  have recorded := drainFrom?_recording_yields (fun earlier _ => goesOn earlier) stops
  rw [Nat.zero_add, ← List.range_eq_range', ← Page.first_eq_nth] at recorded
  constructor
  · intro bound enough
    obtain ⟨spare, rfl⟩ := Nat.exists_eq_add_of_le' enough
    exact (Mirrors.drainFrom? fetch _ (.first size)).yields (recorded spare [])
  · intro bound asked enough
    obtain ⟨spare, rfl⟩ := Nat.exists_eq_add_of_le' enough
    exact recorded spare asked

end Loads

/-- A page of a list is short just from the index on at which fewer items than a page are left. -/
theorem stops_slice_iff (size index : Nat) (items : List α) :
    Page.Stops size (.ok ((Page.nth size index).slice items) : Except ε (List α)) ↔
      items.length / max size 1 ≤ index := by
  have positive : 0 < max size 1 := by omega
  change ((Page.nth size index).slice items).length < max size 1 ↔ _
  rw [Page.length_slice, ← Nat.lt_succ_iff, Nat.div_lt_iff_lt_mul positive, Nat.succ_mul]
  change min (max size 1) (items.length - index * max size 1) < max size 1 ↔ _
  omega

theorem itemsFrom_of_slices {fetch : Page → Activity ε σ (List α)} {items : List α} (size : Nat)
    (before : σ) (slices : ∀ page state, (fetch page state).result = .ok (page.slice items))
    (count : Nat) :
    itemsFrom fetch size before 0 count = .ok (items.take (Page.nth size count).offset) := by
  have answers : answerAt fetch size before = fun index =>
      .ok ((Page.nth size index).slice items) := funext fun index => slices _ _
  rw [itemsFrom, answers, ← List.range_eq_range', ← Page.flatten_slices]
  exact congrArg (Except.map List.flatten) (List.mapM_pure (m := Except ε))

/-- A source that gives the pages of a list is loaded as that list, with one request for each full
page and one for the short page behind them. A source that answers as it likes is loaded up to the
first short page or fault, and is asked for nothing after it. -/
theorem load_drains (fetch : Page → Activity ε σ (List α)) (size : Nat) (before : σ) :
    (∀ items : List α, (∀ page state, (fetch page state).result = .ok (page.slice items)) →
      Drains fetch size before (items.length / max size 1 + 1) (.ok items)) ∧
    ((∃ index, Page.Stops size (answerAt fetch size before index)) →
      ∃ last, Page.Stops size (answerAt fetch size before last) ∧
        (∀ earlier < last, ¬ Page.Stops size (answerAt fetch size before earlier)) ∧
        Drains fetch size before (last + 1) (itemsFrom fetch size before 0 (last + 1))) := by
  constructor
  · intro items slices
    have answers (index : Nat) : answerAt fetch size before index =
        .ok ((Page.nth size index).slice items) := slices _ _
    have drained : Drains fetch size before (items.length / max size 1 + 1) _ :=
      drains_of_stops (fun earlier below => by
          rw [answers, stops_slice_iff]
          omega)
        (by rw [answers, stops_slice_iff])
    have all : items.length ≤ (Page.nth size (items.length / max size 1 + 1)).offset := by
      have positive : 0 < max size 1 := by omega
      exact Nat.le_of_lt ((Nat.div_lt_iff_lt_mul positive).mp (Nat.lt_succ_self _))
    rwa [itemsFrom_of_slices size before slices, List.take_of_length_le all] at drained
  · intro stopping
    exact ⟨Nat.find stopping, Nat.find_spec stopping,
      fun earlier below => Nat.find_min stopping below,
      drains_of_stops (fun earlier below => Nat.find_min stopping below) (Nat.find_spec stopping)⟩

/-- Four items in pages of two take a third request, which finds nothing. A source whose first page
is longer than was asked for and whose second fails is asked twice and loads nothing. -/
theorem load_drains_four_items :
    Drains (fun page => (Activity.pure (page.slice [10, 20, 30, 40]) : Activity String Unit _))
        2 () 3 (.ok [10, 20, 30, 40]) ∧
      Drains (fun _ asked =>
          if asked = 0 then ⟨.ok [10, 20, 30], 1, []⟩ else ⟨.error "gone", 2, []⟩)
        2 0 2 (.error "gone") := by
  constructor
  · exact (load_drains (fun page => Activity.pure (page.slice [10, 20, 30, 40])) 2 ()).1
      [10, 20, 30, 40] fun _ _ => rfl
  · obtain ⟨last, stops, goesOn, drained⟩ := (load_drains
      (fun _ asked => if asked = 0 then ⟨.ok [10, 20, 30], 1, []⟩ else ⟨.error "gone", 2, []⟩)
      2 0).2 ⟨1, by decide⟩
    obtain below | rfl | above := Nat.lt_trichotomy last 1
    · obtain rfl : last = 0 := by omega
      exact absurd stops (by decide)
    · exact drained
    · exact absurd (by decide) (goesOn 1 above)

end Activity

end VariablePay
