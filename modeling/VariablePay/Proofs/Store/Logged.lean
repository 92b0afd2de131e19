import VariablePay.Store.Basic

set_option autoImplicit false

/-!
# Stores that log their calls

A logged store answers exactly as the store it is made from, and writes down every call with all
it was given and what was answered. Whatever is carried out on a logged store is carried out
unchanged; the log can then be held against what the calls were to be.
-/

namespace VariablePay

namespace Store

/-- A call of a store with all it is given. -/
inductive Call where
  | loadRuleSet (ruleSetId : String)
  | loadEntities (ruleSetId tenantId : String) (page : Page)
  | loadRows (tenantId periodId : String) (page : Page)
  | loadDensity (tenantId : String)
  | saveBatch (batch : CalculationBatch)
  | saveCompleted (batch : CalculationBatch) (results : List EntityResult)
  | saveDensity (tenantId : String) (updates : List DensityUpdate)
  | saveSignals (signals : List TrainingSignal)

def Call.Answer : Call → Type
  | loadRuleSet _ => Option RuleSet
  | loadEntities .. => List AssignedEntity
  | loadRows .. => List MetricRow
  | loadDensity _ => Density
  | saveBatch _ => Unit
  | saveCompleted .. => Unit
  | saveDensity .. => Unit
  | saveSignals _ => Unit

/-- A call and how it was answered. -/
structure Event where
  call : Call
  answer : Except Failure call.Answer

end Store

namespace Activity

variable {ε ε' σ α β : Type}

/-- Carries out a call and writes it down. -/
def logging (call : Store.Call) (activity : Activity Failure σ call.Answer) :
    Activity Failure (σ × List Store.Event) call.Answer := fun state =>
  let done := activity state.1
  ⟨done.result, (done.state, state.2 ++ [⟨call, done.result⟩]), done.notes⟩

end Activity

/-- The store with a log beside its state. -/
def Store.logged {σ : Type} (store : Store σ) : Store (σ × List Store.Event) where
  loadRuleSet ruleSetId := Activity.logging (.loadRuleSet ruleSetId) (store.loadRuleSet ruleSetId)
  loadEntities ruleSetId tenantId page :=
    Activity.logging (.loadEntities ruleSetId tenantId page)
      (store.loadEntities ruleSetId tenantId page)
  loadRows tenantId periodId page :=
    Activity.logging (.loadRows tenantId periodId page) (store.loadRows tenantId periodId page)
  loadDensity tenantId := Activity.logging (.loadDensity tenantId) (store.loadDensity tenantId)
  saveBatch batch := Activity.logging (.saveBatch batch) (store.saveBatch batch)
  saveCompleted batch results :=
    Activity.logging (.saveCompleted batch results) (store.saveCompleted batch results)
  saveDensity tenantId updates :=
    Activity.logging (.saveDensity tenantId updates) (store.saveDensity tenantId updates)
  saveSignals signals := Activity.logging (.saveSignals signals) (store.saveSignals signals)

namespace Activity

variable {ε ε' σ α β : Type}

/-- The logged activity does what the plain one does, and what it adds to the log meets `spec`. -/
def Records (logged : Activity ε (σ × List Store.Event) α) (plain : Activity ε σ α)
    (spec : List Store.Event → Except ε α → Prop) : Prop :=
  ∀ state log, ∃ events,
    logged (state, log) =
      ⟨(plain state).result, ((plain state).state, log ++ events), (plain state).notes⟩ ∧
    spec events (plain state).result

namespace Records

variable {logged : Activity ε (σ × List Store.Event) α} {plain : Activity ε σ α}
  {spec weaker : List Store.Event → Except ε α → Prop}

theorem imp (records : Records logged plain spec)
    (weaken : ∀ events result, spec events result → weaker events result) :
    Records logged plain weaker := by
  intro state log
  obtain ⟨events, same, meets⟩ := records state log
  exact ⟨events, same, weaken events _ meets⟩

theorem logging (call : Store.Call) (activity : Activity Failure σ call.Answer) :
    Records (Activity.logging call activity) activity
      (fun events answer => events = [⟨call, answer⟩]) :=
  fun state _ => ⟨[⟨call, (activity state).result⟩], rfl, rfl⟩

theorem pure (value : α) (meets : spec [] (.ok value)) :
    Records (σ := σ) (Activity.pure value) (Activity.pure value) spec :=
  fun state log => ⟨[], by rw [List.append_nil]; rfl, meets⟩

theorem fail (fault : ε) (meets : spec [] (.error fault)) :
    Records (σ := σ) (Activity.fail fault) (Activity.fail fault) spec :=
  fun state log => ⟨[], by rw [List.append_nil]; rfl, meets⟩

theorem ofExcept (result : Except ε α) (meets : spec [] result) :
    Records (σ := σ) (Activity.ofExcept result) (Activity.ofExcept result) spec :=
  fun state log => ⟨[], by rw [List.append_nil]; rfl, meets⟩

theorem tell {spec : List Store.Event → Except ε Unit → Prop} (notes : List Note)
    (meets : spec [] (.ok ())) :
    Records (σ := σ) (Activity.tell notes) (Activity.tell notes) spec :=
  fun state log => ⟨[], by rw [List.append_nil]; rfl, meets⟩

theorem mapError (rename : ε → ε') (records : Records logged plain spec) :
    Records (logged.mapError rename) (plain.mapError rename) fun events result =>
      ∃ answer, spec events answer ∧ result = answer.mapError rename := by
  intro state log
  obtain ⟨events, same, meets⟩ := records state log
  exact ⟨events, by rw [Activity.mapError, same]; rfl, _, meets, rfl⟩

theorem attempt (records : Records logged plain spec) :
    Records (ε := ε') logged.attempt plain.attempt fun events result =>
      ∃ answer, spec events answer ∧ result = .ok answer := by
  intro state log
  obtain ⟨events, same, meets⟩ := records state log
  exact ⟨events, by rw [Activity.attempt, same]; rfl, _, meets, rfl⟩

/-- Either the first activity stops the whole, or the second adds to what the first has logged. -/
theorem bind {first : List Store.Event → Except ε α → Prop}
    {spec : List Store.Event → Except ε β → Prop}
    {loggedNext : α → Activity ε (σ × List Store.Event) β} {plainNext : α → Activity ε σ β}
    (records : Records logged plain first)
    (stops : ∀ events fault, first events (.error fault) → spec events (.error fault))
    (goesOn : ∀ events value, first events (.ok value) →
      Records (loggedNext value) (plainNext value) fun later result =>
        spec (events ++ later) result) :
    Records (Activity.bind logged loggedNext) (Activity.bind plain plainNext) spec := by
  intro state log
  obtain ⟨events, same, meets⟩ := records state log
  simp only [Activity.bind, same]
  cases done : (plain state).result with
  | error fault =>
      rw [done] at meets
      exact ⟨events, rfl, stops events fault meets⟩
  | ok value =>
      rw [done] at meets
      obtain ⟨later, sameLater, meetsLater⟩ :=
        goesOn events value meets (plain state).state (log ++ events)
      refine ⟨events ++ later, ?_, meetsLater⟩
      simp only [sameLater, List.append_assoc]

/-- As `bind`, with the failures of the first activity put in other terms. -/
theorem bindMapped {first : List Store.Event → Except ε α → Prop}
    {spec : List Store.Event → Except ε' β → Prop} {rename : ε → ε'}
    {loggedNext : α → Activity ε' (σ × List Store.Event) β} {plainNext : α → Activity ε' σ β}
    (records : Records logged plain first)
    (stops : ∀ events cause, first events (.error cause) → spec events (.error (rename cause)))
    (goesOn : ∀ events value, first events (.ok value) →
      Records (loggedNext value) (plainNext value) fun later result =>
        spec (events ++ later) result) :
    Records (Activity.bind (logged.mapError rename) loggedNext)
      (Activity.bind (plain.mapError rename) plainNext) spec := by
  refine bind (records.mapError rename) ?_ ?_
  · intro events result outcome
    obtain ⟨answer, meets, same⟩ := outcome
    cases answer with
    | error cause =>
        cases same
        exact stops events cause meets
    | ok value => cases same
  · intro events result outcome
    obtain ⟨answer, meets, same⟩ := outcome
    cases answer with
    | error cause => cases same
    | ok value =>
        cases same
        exact goesOn events _ meets

/-- As `bind`, with the failures of the first activity handed on. -/
theorem bindAttempt {first : List Store.Event → Except ε α → Prop}
    {spec : List Store.Event → Except ε' β → Prop}
    {loggedNext : Except ε α → Activity ε' (σ × List Store.Event) β}
    {plainNext : Except ε α → Activity ε' σ β}
    (records : Records logged plain first)
    (goesOn : ∀ events answer, first events answer →
      Records (loggedNext answer) (plainNext answer) fun later result =>
        spec (events ++ later) result) :
    Records (Activity.bind logged.attempt loggedNext) (Activity.bind plain.attempt plainNext)
      spec := by
  refine bind records.attempt ?_ ?_
  · intro events fault outcome
    obtain ⟨_, _, impossible⟩ := outcome
    cases impossible
  · intro events result outcome
    obtain ⟨answer, meets, same⟩ := outcome
    cases same
    exact goesOn events _ meets

end Records

end Activity

end VariablePay
