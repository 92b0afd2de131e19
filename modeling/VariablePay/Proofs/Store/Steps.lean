import VariablePay.Store.Paging

set_option autoImplicit false

/-!
# Steps of activities

What an activity yields from a state, composed step by step; and loading page by page, which does
not depend on its bound once the bound is high enough.
-/

namespace VariablePay.Activity

variable {ε ε' σ α β : Type}

/-- From one state an activity comes to a result and another state, whatever it notes. -/
structure Yields (activity : Activity ε σ α) (before : σ) (result : Except ε α) (after : σ) :
    Prop where
  result : (activity before).result = result
  state : (activity before).state = after

namespace Yields

variable {activity : Activity ε σ α} {next : α → Activity ε σ β} {before middle after : σ}

theorem self (activity : Activity ε σ α) (before : σ) :
    activity.Yields before (activity before).result (activity before).state := ⟨rfl, rfl⟩

theorem exists_yields (activity : Activity ε σ α) (before : σ) :
    ∃ result after, activity.Yields before result after := ⟨_, _, self activity before⟩

theorem pure (value : α) :
    (Activity.pure value : Activity ε σ α).Yields before (.ok value) before :=
  ⟨rfl, rfl⟩

theorem fail (fault : ε) :
    (Activity.fail fault : Activity ε σ α).Yields before (.error fault) before :=
  ⟨rfl, rfl⟩

theorem tell (notes : List Note) :
    (Activity.tell notes : Activity ε σ Unit).Yields before (.ok ()) before := ⟨rfl, rfl⟩

theorem ofExcept (result : Except ε α) :
    (Activity.ofExcept result : Activity ε σ α).Yields before result before := ⟨rfl, rfl⟩

theorem unique {result other : Except ε α} {otherAfter : σ}
    (yields : activity.Yields before result after)
    (again : activity.Yields before other otherAfter) : result = other ∧ after = otherAfter :=
  ⟨yields.result.symm.trans again.result, yields.state.symm.trans again.state⟩

theorem bind {value : α} {result : Except ε β} (first : activity.Yields before (.ok value) middle)
    (rest : (next value).Yields middle result after) :
    (Activity.bind activity next).Yields before result after := by
  constructor
  · simp only [Activity.bind, first.result, first.state, rest.result]
  · simp only [Activity.bind, first.result, first.state, rest.state]

theorem bind_error {fault : ε} (first : activity.Yields before (.error fault) after) :
    (Activity.bind activity next).Yields before (.error fault) after := by
  constructor
  · simp only [Activity.bind, first.result]
  · simp only [Activity.bind, first.result, first.state]

theorem mapError {result : Except ε α} (rename : ε → ε')
    (yields : activity.Yields before result after) :
    (activity.mapError rename).Yields before (result.mapError rename) after :=
  ⟨by rw [Activity.mapError, yields.result], yields.state⟩

theorem attempt {result : Except ε α} (yields : activity.Yields before result after) :
    (activity.attempt : Activity ε' σ _).Yields before (.ok result) after :=
  ⟨by rw [Activity.attempt, yields.result], yields.state⟩

theorem bindAttempt {next : Except ε α → Activity ε' σ β} {answer : Except ε α}
    {result : Except ε' β} (first : activity.Yields before answer middle)
    (rest : (next answer).Yields middle result after) :
    (Activity.bind activity.attempt next).Yields before result after :=
  first.attempt.bind rest

theorem bindMapped {next : α → Activity ε' σ β} {rename : ε → ε'} {value : α}
    {result : Except ε' β} (first : activity.Yields before (.ok value) middle)
    (rest : (next value).Yields middle result after) :
    (Activity.bind (activity.mapError rename) next).Yields before result after :=
  (first.mapError rename).bind rest

theorem bindMapped_error {next : α → Activity ε' σ β} {rename : ε → ε'} {fault : ε}
    (first : activity.Yields before (.error fault) after) :
    (Activity.bind (activity.mapError rename) next).Yields before (.error (rename fault)) after :=
  (first.mapError rename).bind_error

theorem transaction {value : α} (yields : activity.Yields before (.ok value) after) :
    activity.transaction.Yields before (.ok value) after := by
  obtain ⟨result, state⟩ := yields
  unfold Activity.transaction
  constructor <;> simp only [result, state]

theorem transaction_of_error {fault : ε} (yields : activity.Yields before (.error fault) after) :
    activity.transaction.Yields before (.error fault) before := by
  obtain ⟨result, _⟩ := yields
  unfold Activity.transaction
  constructor <;> simp only [result]

/-- A transaction that fails leaves the state as it was. -/
theorem transaction_error {fault : ε}
    (yields : activity.transaction.Yields before (.error fault) after) : after = before := by
  obtain ⟨result, state⟩ := yields
  unfold Activity.transaction at result state
  cases done : (activity before).result with
  | ok value =>
      simp only [done] at result
      cases result
  | error found =>
      simp only [done] at state
      exact state.symm

theorem cases_of_bind {result : Except ε β}
    (yields : (Activity.bind activity next).Yields before result after) :
    (∃ fault, activity.Yields before (.error fault) after ∧ result = .error fault) ∨
      ∃ first middle, activity.Yields before (.ok first) middle ∧
        (next first).Yields middle result after := by
  obtain ⟨answer, middle, firstYields⟩ := exists_yields activity before
  cases answer with
  | error fault =>
      obtain ⟨rfl, rfl⟩ := yields.unique firstYields.bind_error
      exact .inl ⟨fault, firstYields, rfl⟩
  | ok first =>
      have rest := self (next first) middle
      obtain ⟨rfl, rfl⟩ := yields.unique (firstYields.bind rest)
      exact .inr ⟨first, middle, firstYields, rest⟩

theorem exists_of_bind {value : β}
    (yields : (Activity.bind activity next).Yields before (.ok value) after) :
    ∃ first middle, activity.Yields before (.ok first) middle ∧
      (next first).Yields middle (.ok value) after := by
  obtain ⟨fault, _, failed⟩ | went := yields.cases_of_bind
  · cases failed
  · exact went

theorem of_mapError {rename : ε → ε'} {value : α}
    (yields : (activity.mapError rename).Yields before (.ok value) after) :
    activity.Yields before (.ok value) after := by
  obtain ⟨result, middle, firstYields⟩ := exists_yields activity before
  cases result with
  | error fault => cases (yields.unique (firstYields.mapError rename)).1
  | ok found =>
      obtain ⟨same, rfl⟩ := yields.unique (firstYields.mapError rename)
      cases same
      exact firstYields

theorem of_transaction {value : α}
    (yields : activity.transaction.Yields before (.ok value) after) :
    activity.Yields before (.ok value) after := by
  obtain ⟨result, middle, inner⟩ := exists_yields activity before
  cases result with
  | error fault => cases (yields.unique inner.transaction_of_error).1
  | ok found =>
      obtain ⟨same, rfl⟩ := yields.unique inner.transaction
      cases same
      exact inner

end Yields

/-- Loading comes to an end from a page on: some page is short or fails. -/
inductive Ends (fetch : Page → Activity ε σ (List α)) : Page → σ → Prop where
  | failed {page : Page} {before after : σ} {fault : ε}
      (fetched : (fetch page).Yields before (.error fault) after) : Ends fetch page before
  | short {page : Page} {before after : σ} {items : List α}
      (fetched : (fetch page).Yields before (.ok items) after)
      (short : items.length < page.limit) : Ends fetch page before
  | full {page : Page} {before after : σ} {items : List α}
      (fetched : (fetch page).Yields before (.ok items) after)
      (full : ¬ items.length < page.limit) (rest : Ends fetch page.next after) :
      Ends fetch page before

end VariablePay.Activity
