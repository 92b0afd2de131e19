import VariablePay.Journal

set_option autoImplicit false

/-!
# Activities

An activity works on a state, adds notes to the journal, and succeeds or fails. What it did before
it failed stays done.
-/

namespace VariablePay

structure Outcome (ε σ α : Type) where
  result : Except ε α
  state : σ
  notes : List Note

/-- An activity on states of type `σ` that gives a value of type `α` or fails with an `ε`. -/
def Activity (ε σ α : Type) : Type := σ → Outcome ε σ α

namespace Activity

variable {ε ε' σ τ α β : Type}

def pure (value : α) : Activity ε σ α := fun state => ⟨.ok value, state, []⟩

def bind (first : Activity ε σ α) (next : α → Activity ε σ β) : Activity ε σ β := fun state =>
  let done := first state
  match done.result with
  | .error failure => ⟨.error failure, done.state, done.notes⟩
  | .ok value =>
      let after := next value done.state
      ⟨after.result, after.state, done.notes ++ after.notes⟩

instance : Monad (Activity ε σ) where
  pure := pure
  bind := bind

def fail (failure : ε) : Activity ε σ α := fun state => ⟨.error failure, state, []⟩

def tell (notes : List Note) : Activity ε σ Unit := fun state => ⟨.ok (), state, notes⟩

def ofExcept (result : Except ε α) : Activity ε σ α := fun state => ⟨result, state, []⟩

def mapError (rename : ε → ε') (activity : Activity ε σ α) : Activity ε' σ α := fun state =>
  let done := activity state
  ⟨done.result.mapError rename, done.state, done.notes⟩

/-- Succeeds with what the activity comes to, be it a failure. -/
def attempt (activity : Activity ε σ α) : Activity ε' σ (Except ε α) := fun state =>
  let done := activity state
  ⟨.ok done.result, done.state, done.notes⟩

/-- Undoes everything if the activity fails. -/
def transaction (activity : Activity ε σ α) : Activity ε σ α := fun state =>
  let done := activity state
  match done.result with
  | .ok _ => done
  | .error _ => { done with state := state }

/-- Carries out an activity for each item in turn, up to the first failure. -/
def forEach (activity : α → Activity ε σ Unit) : List α → Activity ε σ Unit
  | [] => Activity.pure ()
  | item :: rest => Activity.bind (activity item) fun _ => forEach activity rest

def inspect (view : σ → α) : Activity ε σ α := fun state => ⟨.ok (view state), state, []⟩

def modify (change : σ → σ) : Activity ε σ Unit := fun state => ⟨.ok (), change state, []⟩

end Activity

end VariablePay
