import Mathlib.Data.List.Nodup
import VariablePay.Intent.Execution
import VariablePay.Proofs.Outcome

set_option autoImplicit false

/-!
# The order of execution

Intents are executed by ordinal and index, whatever their order in the list. A trace depends on the
intent and the payouts before it and on nothing behind it, so executions that begin with the same
intents begin with the same traces. A payout can be read only once it is there.
-/

namespace VariablePay

/-- The inputs of an operation, in the order in which they are read. -/
def IntentOperation.inputs : IntentOperation → List InputSource
  | boundedLookup lookup => [lookup.input]
  | gridLookup lookup => [lookup.rowInput, lookup.columnInput]
  | scalarMultiply product => [product.input]
  | conditionalRate product => [product.condition, product.base]

/-- Why an input has no value. -/
def InputSource.fault? (context : ExecutionContext) (source : InputSource) : Option EvalFault :=
  faultOf? (source.resolve context .empty)

namespace ComponentIntent

def inOrder (intents : List ComponentIntent) : List ComponentIntent := intents.mergeSort precedes

def rank (intent : ComponentIntent) : UInt32 × Nat := (intent.ordinal, intent.index)

/-- The ordinal is lower or, among equal ordinals, the index is not higher. -/
def ComesBefore (left right : ComponentIntent) : Prop :=
  left.ordinal < right.ordinal ∨ left.ordinal = right.ordinal ∧ left.index ≤ right.index

/-- What an intent leaves that sees the payouts `prior`: the trace of its execution, or one without
a payout that gives the reason. -/
inductive Leaves (intent : ComponentIntent) (context : EntityContext) (prior : List Float) :
    IntentTrace → Prop where
  | executed {trace : IntentTrace} (executed : intent.execute context prior = .ok trace) :
      Leaves intent context prior trace
  | failed {fault : EvalFault} (failed : intent.execute context prior = .error fault) :
      Leaves intent context prior
        { IntentTrace.start intent prior with payout := 0.0, error := some fault.message }

/-! ## Sorting -/

theorem precedes_iff {left right : ComponentIntent} :
    left.precedes right = true ↔ ComesBefore left right := by
  simp [precedes, ComesBefore]

theorem inOrder_perm (intents : List ComponentIntent) : (inOrder intents).Perm intents :=
  List.mergeSort_perm intents _

theorem ComesBefore.trans {first second third : ComponentIntent}
    (before : ComesBefore first second) (after : ComesBefore second third) :
    ComesBefore first third := by
  unfold ComesBefore at *
  rw [UInt32.lt_iff_toNat_lt, ← UInt32.toNat_inj] at *
  omega

theorem comesBefore_total (left right : ComponentIntent) :
    ComesBefore left right ∨ ComesBefore right left := by
  unfold ComesBefore
  rw [UInt32.lt_iff_toNat_lt, UInt32.lt_iff_toNat_lt, ← UInt32.toNat_inj, ← UInt32.toNat_inj]
  omega

theorem ComesBefore.rank_eq {left right : ComponentIntent} (before : ComesBefore left right)
    (after : ComesBefore right left) : left.rank = right.rank := by
  unfold ComesBefore at *
  rw [UInt32.lt_iff_toNat_lt, ← UInt32.toNat_inj] at *
  rw [rank, rank, Prod.mk.injEq, ← UInt32.toNat_inj]
  omega

theorem pairwise_inOrder (intents : List ComponentIntent) :
    (inOrder intents).Pairwise ComesBefore := by
  have sorted : (inOrder intents).Pairwise fun left right => left.precedes right = true := by
    refine List.pairwise_mergeSort ?_ ?_ intents
    · intro first second third before after
      exact precedes_iff.mpr ((precedes_iff.mp before).trans (precedes_iff.mp after))
    · intro left right
      simpa [precedes_iff] using comesBefore_total left right
  exact sorted.imp precedes_iff.mp

theorem inOrder_eq_of_perm {intents other : List ComponentIntent}
    (distinct : (intents.map rank).Nodup) (permuted : other.Perm intents) :
    inOrder other = inOrder intents := by
  have same : (inOrder other).Perm (inOrder intents) :=
    (inOrder_perm other).trans (permuted.trans (inOrder_perm intents).symm)
  -- Two sorted arrangements of one list are equal where no two of its intents can change places.
  refine List.Perm.eq_of_pairwise ?_ (pairwise_inOrder other) (pairwise_inOrder intents) same
  intro left right inOther inIntents before after
  have leftMember : left ∈ intents :=
    permuted.mem_iff.mp ((inOrder_perm other).mem_iff.mp inOther)
  have rightMember : right ∈ intents := (inOrder_perm intents).mem_iff.mp inIntents
  exact List.inj_on_of_nodup_map distinct leftMember rightMember (before.rank_eq after)

/-! ## Traces -/

variable {context : EntityContext}

theorem length_tracesFrom (intents : List ComponentIntent) :
    ∀ prior, (tracesFrom context prior intents).length = intents.length := by
  induction intents with
  | nil => simp [tracesFrom]
  | cons intent rest ih => simp [tracesFrom, ih]

theorem take_tracesFrom (intents : List ComponentIntent) :
    ∀ prior count, (tracesFrom context prior intents).take count =
      tracesFrom context prior (intents.take count) := by
  induction intents with
  | nil => simp [tracesFrom]
  | cons intent rest ih =>
      intro prior count
      cases count with
      | zero => simp [tracesFrom]
      | succ count => simp [tracesFrom, ih]

/-- Each intent sees the payouts of the traces before its own. -/
theorem getElem?_tracesFrom {intents : List ComponentIntent} :
    ∀ {prior : List Float} {place : Nat} {intent : ComponentIntent},
      intents[place]? = some intent →
      (tracesFrom context prior intents)[place]? = some (intent.trace context
        (prior ++ ((tracesFrom context prior intents).map IntentTrace.payout).take place)) := by
  induction intents with
  | nil => nofun
  | cons head rest ih =>
      -- The payout of the head is the first of those that the rest has seen.
      intro prior place intent stands
      cases place with
      | zero =>
          cases stands
          simp [tracesFrom]
      | succ place =>
          rw [tracesFrom, List.getElem?_cons_succ, ih stands]
          simp

theorem leaves_trace (intent : ComponentIntent) (prior : List Float) :
    intent.Leaves context prior (intent.trace context prior) := by
  rw [trace]
  cases executed : intent.execute context prior with
  | ok trace => exact .executed executed
  | error fault => exact .failed executed

end ComponentIntent

/-! ## Inputs -/

namespace InputSource

variable {context : ExecutionContext}

theorem faultOf?_resolve (source : InputSource) (used : StringMap Float) :
    faultOf? (source.resolve context used) = source.fault? context := by
  rw [fault?]
  cases source with
  | metric name =>
      simp only [resolve]
      split <;> rfl
  | priorComponent index =>
      simp only [resolve]
      split <;> rfl
  | constant value => rfl

theorem fault?_priorComponent {index : Nat} (ahead : context.prior.length ≤ index) :
    (priorComponent index).fault? context = some (.priorResultOutOfRange index) := by
  simp [fault?, resolve, List.getElem?_eq_none ahead, faultOf?]

private theorem resolve_bind_of_fault {α : Type} {source : InputSource} {others : List InputSource}
    {fault : EvalFault} {used : StringMap Float}
    {next : Float × StringMap Float → Except EvalFault α}
    (faulty : (source :: others).findSome? (fault? context) = some fault)
    (after : ∀ value, others.findSome? (fault? context) = some fault →
      next value = .error fault) :
    source.resolve context used >>= next = .error fault := by
  rw [List.findSome?_cons, ← source.faultOf?_resolve used] at faulty
  cases resolved : source.resolve context used with
  | error found =>
      rw [resolved] at faulty
      cases faulty
      rfl
  | ok value =>
      rw [resolved] at faulty
      exact after value faulty

end InputSource

theorem IntentOperation.execute_of_fault {operation : IntentOperation} {context : ExecutionContext}
    {fault : EvalFault} (trace : IntentTrace)
    (faulty : operation.inputs.findSome? (InputSource.fault? context) = some fault) :
    operation.execute context trace = .error fault := by
  cases operation with
  | boundedLookup lookup => exact InputSource.resolve_bind_of_fault faulty nofun
  | gridLookup lookup =>
      exact InputSource.resolve_bind_of_fault faulty fun _ faulty =>
        InputSource.resolve_bind_of_fault faulty nofun
  | scalarMultiply product => exact InputSource.resolve_bind_of_fault faulty nofun
  | conditionalRate product =>
      exact InputSource.resolve_bind_of_fault faulty fun _ faulty =>
        InputSource.resolve_bind_of_fault faulty nofun

namespace ComponentIntent

variable {intent : ComponentIntent} {context : EntityContext} {prior : List Float}

/-- An intent that reads a payout which is not there yet pays nothing. The reason is that payout,
unless an input read before it has a fault of its own. -/
theorem execute_of_unpaid {before after : List InputSource} {index : Nat}
    (enabled : intent.enabled = true)
    (reads : intent.operation.inputs = before ++ .priorComponent index :: after)
    (ahead : prior.length ≤ index) :
    ∃ fault, intent.execute context prior = .error fault ∧
      ((∀ source ∈ before, source.fault? ⟨context, prior⟩ = none) →
        fault = .priorResultOutOfRange index) := by
  have unpaid : (InputSource.priorComponent index).fault? ⟨context, prior⟩ =
      some (.priorResultOutOfRange index) := InputSource.fault?_priorComponent ahead
  have faulty : intent.operation.inputs.findSome? (InputSource.fault? ⟨context, prior⟩) =
      (before.findSome? (InputSource.fault? ⟨context, prior⟩)).or
        (some (.priorResultOutOfRange index)) := by
    rw [reads, List.findSome?_append, List.findSome?_cons, unpaid]
  rw [execute, if_pos enabled]
  -- Inputs are read in order, so a fault in one before hides that of the payout.
  cases earlier : before.findSome? (InputSource.fault? ⟨context, prior⟩) with
  | none =>
      rw [earlier, Option.none_or] at faulty
      exact ⟨_, IntentOperation.execute_of_fault _ faulty, fun _ => rfl⟩
  | some fault =>
      rw [earlier, Option.some_or] at faulty
      refine ⟨fault, IntentOperation.execute_of_fault _ faulty, fun sound => ?_⟩
      rw [List.findSome?_eq_none_iff.mpr sound] at earlier
      cases earlier

end ComponentIntent

namespace Execution

variable {intents : List ComponentIntent} {context : EntityContext}

theorem length_traces : (Execution.of intents context).traces.length = intents.length :=
  (ComponentIntent.length_tracesFrom _ []).trans (List.length_mergeSort intents)

theorem getElem?_traces {place : Nat} {intent : ComponentIntent}
    (stands : (ComponentIntent.inOrder intents)[place]? = some intent) :
    (Execution.of intents context).traces[place]? =
      some (intent.trace context ((Execution.of intents context).payouts.take place)) :=
  ComponentIntent.getElem?_tracesFrom stands

/-- Executions that begin with the same intents begin with the same traces. -/
theorem take_traces_eq {other : List ComponentIntent} {count : Nat}
    (same : (ComponentIntent.inOrder other).take count =
      (ComponentIntent.inOrder intents).take count) :
    (Execution.of other context).traces.take count =
      (Execution.of intents context).traces.take count := by
  change (ComponentIntent.tracesFrom context [] (ComponentIntent.inOrder other)).take count =
    (ComponentIntent.tracesFrom context [] (ComponentIntent.inOrder intents)).take count
  rw [ComponentIntent.take_tracesFrom, ComponentIntent.take_tracesFrom, same]

theorem resolve_priorComponent {place index : Nat}
    (inRange : place < (Execution.of intents context).traces.length) (earlier : index < place)
    (used : StringMap Float) :
    ∃ payout, (Execution.of intents context).payouts[index]? = some payout ∧
      (InputSource.priorComponent index).resolve
          ⟨context, (Execution.of intents context).payouts.take place⟩ used =
        .ok (payout, used.insert s!"prior[{index}]" payout) := by
  have paid : index < (Execution.of intents context).payouts.length := by
    change index < ((Execution.of intents context).traces.map IntentTrace.payout).length
    rw [List.length_map]
    exact Nat.lt_trans earlier inRange
  refine ⟨_, List.getElem?_eq_getElem paid, ?_⟩
  simp [InputSource.resolve, List.getElem?_take_of_lt earlier, List.getElem?_eq_getElem paid]

end Execution

/-- What the execution of a list of intents keeps to. -/
structure Execution.KeepsOrder (intents : List ComponentIntent) (context : EntityContext) :
    Prop where
  /-- The order is that of ordinals and, among equal ordinals, of indices. -/
  ordered : (ComponentIntent.inOrder intents).Perm intents ∧
    (ComponentIntent.inOrder intents).Pairwise ComponentIntent.ComesBefore
  /-- Each intent leaves one trace, at its place, having seen just the payouts before it. -/
  traced : (Execution.of intents context).traces.length = intents.length ∧
    ∀ (place : Nat) (intent : ComponentIntent),
      (ComponentIntent.inOrder intents)[place]? = some intent →
      ∃ trace, (Execution.of intents context).traces[place]? = some trace ∧
        intent.Leaves context ((Execution.of intents context).payouts.take place) trace
  /-- The total adds up the payouts of the traces from left to right. -/
  totalled :
    (Execution.of intents context).payouts =
      (Execution.of intents context).traces.map IntentTrace.payout ∧
    (Execution.of intents context).total =
      (Execution.of intents context).payouts.foldl (· + ·) (-0.0)
  /-- Whatever comes behind the first intents in place of what does, their traces stay. -/
  stable : ∀ (other : List ComponentIntent) (count : Nat),
    (ComponentIntent.inOrder other).take count = (ComponentIntent.inOrder intents).take count →
    (Execution.of other context).traces.take count =
      (Execution.of intents context).traces.take count
  /-- An intent reads an earlier payout as it is. -/
  earlier : ∀ (place index : Nat), place < (Execution.of intents context).traces.length →
    index < place → ∀ used,
    ∃ payout, (Execution.of intents context).payouts[index]? = some payout ∧
      (InputSource.priorComponent index).resolve
          ⟨context, (Execution.of intents context).payouts.take place⟩ used =
        .ok (payout, used.insert s!"prior[{index}]" payout)
  /-- An intent that reads its own payout or a later one pays nothing, for that reason or for the
  fault of an input read before. -/
  later : ∀ (place index : Nat) (intent : ComponentIntent) (before after : List InputSource),
    (ComponentIntent.inOrder intents)[place]? = some intent → intent.enabled = true →
    intent.operation.inputs = before ++ .priorComponent index :: after → place ≤ index →
    ∃ trace fault, (Execution.of intents context).traces[place]? = some trace ∧
      trace.payout = 0.0 ∧ trace.error = some (EvalFault.message fault) ∧
      ((∀ source ∈ before,
          source.fault? ⟨context, (Execution.of intents context).payouts.take place⟩ = none) →
        fault = .priorResultOutOfRange index)
  /-- The order of the list plays no part, if no two intents have both ordinal and index in
  common. -/
  unordered : (intents.map ComponentIntent.rank).Nodup →
    ∀ other : List ComponentIntent, other.Perm intents →
      Execution.of other context = Execution.of intents context

/-- For every list of intents and every entity the execution goes by ordinal and index, each intent
sees the payouts before it and no others, and nothing that comes later changes a trace. -/
theorem Execution.of_keepsOrder (intents : List ComponentIntent) (context : EntityContext) :
    Execution.KeepsOrder intents context := by
  constructor
  case ordered =>
    exact ⟨ComponentIntent.inOrder_perm intents, ComponentIntent.pairwise_inOrder intents⟩
  case traced =>
    exact ⟨length_traces, fun place intent stands =>
      ⟨_, getElem?_traces stands, ComponentIntent.leaves_trace intent _⟩⟩
  case totalled => exact ⟨rfl, rfl⟩
  case stable => exact fun other count same => take_traces_eq same
  case earlier => exact fun place index inRange before used =>
    resolve_priorComponent inRange before used
  case later =>
    intro place index intent before after stands enabled reads ahead
    have seen : ((Execution.of intents context).payouts.take place).length ≤ index :=
      Nat.le_trans (List.length_take_le place _) ahead
    obtain ⟨fault, failed, reason⟩ := ComponentIntent.execute_of_unpaid enabled reads seen
    refine ⟨_, fault, getElem?_traces stands, ?_, ?_, reason⟩
    · rw [ComponentIntent.trace, failed]
      rfl
    · rw [ComponentIntent.trace, failed]
  case unordered =>
    intro distinct other permuted
    have same : ComponentIntent.tracesFrom context [] (ComponentIntent.inOrder other) =
        ComponentIntent.tracesFrom context [] (ComponentIntent.inOrder intents) := by
      rw [ComponentIntent.inOrder_eq_of_perm distinct permuted]
    unfold ComponentIntent.inOrder at same
    rw [Execution.of, Execution.of, same]

/-- Intents of which the last to be executed stands first, and one reads a payout ahead. -/
def chainedIntents : List ComponentIntent := [
  { componentId := "bonus", kind := .percentage, ordinal := 3, index := 2, enabled := true
    operation := .scalarMultiply ⟨.priorComponent 0, 0.5, none⟩ },
  { componentId := "base", kind := .flatPercentage, ordinal := 1, index := 0, enabled := true
    operation := .scalarMultiply ⟨.metric "revenue", 0.25, none⟩ },
  { componentId := "ahead", kind := .percentage, ordinal := 2, index := 1, enabled := true
    operation := .scalarMultiply ⟨.priorComponent 2, 2.0, none⟩ }]

theorem chainedIntents_keepsOrder :
    let context : EntityContext := ⟨.ofList [("revenue", 400.0)], .empty⟩
    (Execution.of chainedIntents context).payouts = [100.0, 0.0, 50.0] ∧
      (Execution.of chainedIntents.reverse context).payouts = [100.0, 0.0, 50.0] ∧
      ∃ trace fault, (Execution.of chainedIntents context).traces[1]? = some trace ∧
        trace.error = some (EvalFault.message fault) ∧ fault = .priorResultOutOfRange 2 := by
  intro context
  have keeps := Execution.of_keepsOrder chainedIntents context
  have ordered : ComponentIntent.inOrder chainedIntents =
      chainedIntents.tail ++ chainedIntents.take 1 := by
    simp [ComponentIntent.inOrder, chainedIntents, List.mergeSort, ComponentIntent.precedes,
      List.MergeSort.Internal.splitInTwo]
  have paid : (Execution.of chainedIntents context).payouts = [100.0, 0.0, 50.0] := by
    change (ComponentIntent.tracesFrom context []
      (ComponentIntent.inOrder chainedIntents)).map IntentTrace.payout = _
    rw [ordered]
    decide
  have distinct : (chainedIntents.map ComponentIntent.rank).Nodup := by decide
  have second : (ComponentIntent.inOrder chainedIntents)[1]? = chainedIntents[2]? := by
    rw [ordered]
    rfl
  obtain ⟨trace, fault, stands, _, error, reason⟩ :=
    keeps.later 1 2 _ [] [] second rfl rfl (by decide)
  refine ⟨paid, ?_, trace, fault, stands, error, reason nofun⟩
  rw [keeps.unordered distinct _ (List.reverse_perm chainedIntents), paid]

end VariablePay
