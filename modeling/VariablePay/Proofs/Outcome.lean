import Mathlib.Data.List.Forall2

set_option autoImplicit false

/-! Inversion of steps that may fail. -/

namespace VariablePay

variable {ε α β : Type}

theorem bind_eq_ok_iff {first : Except ε α} {next : α → Except ε β} {result : β} :
    first >>= next = .ok result ↔ ∃ value, first = .ok value ∧ next value = .ok result := by
  cases first with
  | error fault =>
      constructor
      · intro impossible
        nomatch impossible
      · intro ⟨_, impossible, _⟩
        nomatch impossible
  | ok value =>
      constructor
      · intro succeeded
        exact ⟨value, rfl, succeeded⟩
      · intro ⟨_, rfl, succeeded⟩
        exact succeeded

theorem mapM_eq_ok_iff {ε α β : Type} {read : α → Except ε β} {items : List α}
    {values : List β} :
    items.mapM read = .ok values ↔
      List.Forall₂ (fun item value => read item = .ok value) items values := by
  induction items generalizing values with
  | nil =>
      rw [List.mapM_nil, List.forall₂_nil_left_iff]
      constructor
      · intro same
        exact (Except.ok.inj same).symm
      · rintro rfl
        rfl
  | cons item rest ih =>
      rw [List.mapM_cons, bind_eq_ok_iff, List.forall₂_cons_left_iff]
      constructor
      · rintro ⟨value, first, done⟩
        obtain ⟨others, later, same⟩ := bind_eq_ok_iff.mp done
        exact ⟨value, others, first, ih.mp later, (Except.ok.inj same).symm⟩
      · rintro ⟨value, others, first, later, rfl⟩
        exact ⟨value, first, bind_eq_ok_iff.mpr ⟨others, ih.mpr later, rfl⟩⟩

theorem length_eq_of_mapM_eq_ok {ε α β : Type} {read : α → Except ε β} {items : List α}
    {values : List β} (read : items.mapM read = .ok values) : values.length = items.length :=
  (mapM_eq_ok_iff.mp read).length_eq.symm

def faultOf? : Except ε α → Option ε
  | .ok _ => none
  | .error fault => some fault

@[simp] theorem faultOf?_eq_some_iff {outcome : Except ε α} {fault : ε} :
    faultOf? outcome = some fault ↔ outcome = .error fault := by
  cases outcome <;> simp [faultOf?]

/-- A sequence of steps fails with the fault of the first, or else with that of the second. -/
theorem faultOf?_bind {first : Except ε α} {next : α → Except ε β} {later? : Option ε}
    (after : ∀ value, first = .ok value → faultOf? (next value) = later?) :
    faultOf? (first >>= next) = (faultOf? first).or later? := by
  cases first with
  | error fault => rfl
  | ok value => exact after value rfl

/-- An outcome that passes a test has a value. -/
theorem exists_of_map_decide {outcome : Except ε α} {holds : α → Prop} [DecidablePred holds]
    (tested : (outcome.map fun value => decide (holds value)) = .ok true) :
    ∃ value, outcome = .ok value ∧ holds value := by
  cases outcome with
  | error fault => cases tested
  | ok value => exact ⟨value, rfl, of_decide_eq_true (Except.ok.inj tested)⟩

end VariablePay
