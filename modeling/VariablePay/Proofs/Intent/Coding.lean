import VariablePay.Intent.Codec
import VariablePay.Proofs.Plan.Coding

set_option autoImplicit false

/-!
# Intents read back from their texts

An input is one of three kinds and an operation one of four. What is written of them is read back if
it fits, each number as it is read from its own digits: if its numbers are finite and its positions
are words.
-/

namespace VariablePay

namespace InputSource

def Fits : InputSource → Prop
  | metric _ => True
  | priorComponent index => index < Nat.pow 2 64
  | constant value => value.isFinite = true

private theorem faithful_nameField (depth : Nat) :
    nameField.Faithful depth (fun _ => True) id fun _ => True :=
  .required (Codec.faithful_string depth) fun _ fit => fit

private theorem faithful_indexField (depth : Nat) :
    indexField.Faithful depth (fun index => index < Nat.pow 2 64) id
      fun index => index < Nat.pow 2 64 :=
  .required (Codec.faithful_count depth) fun _ fit => fit

private theorem faithful_valueField (depth : Nat) :
    (valueField .number).Faithful depth (fun value => value.isFinite = true) Double.reread
      fun value => value.isFinite = true :=
  .required (Codec.faithful_float depth) fun _ fit => fit

def reread : InputSource → InputSource
  | metric name => metric name
  | priorComponent index => priorComponent index
  | constant value => constant (Double.reread value)

theorem faithful (depth : Nat) : (codec .number).Faithful (depth + 1) Fits reread := by
  have name := faithful_nameField depth
  have index := faithful_indexField depth
  have value := faithful_valueField depth
  refine Codec.faithful_tagged (by decide) (fun source => ?_) ?_
  · cases source with
    | metric given => exact ⟨_, _, rfl, rfl, name.writes (by decide) _ metric given⟩
    | priorComponent given =>
        exact ⟨_, _, rfl, rfl, index.writes (by decide) _ priorComponent given⟩
    | constant given => exact ⟨_, _, rfl, rfl, value.writes (by decide) _ constant given⟩
  · refine List.forall_mem_cons.mpr ⟨name.readsOnly _ metric fun _ fit => fit, ?_⟩
    refine List.forall_mem_cons.mpr ⟨index.readsOnly _ priorComponent fun _ fit => fit, ?_⟩
    exact List.forall_mem_singleton.mpr (value.readsOnly _ constant fun _ fit => fit)

end InputSource

def Boundaries.IsFinite (boundaries : Boundaries) : Prop :=
  ∀ boundary ∈ boundaries.lower, boundary.isFinite = true

def Boundaries.reread (boundaries : Boundaries) : Boundaries :=
  { boundaries with lower := boundaries.lower.map Double.reread }

theorem Boundaries.faithful (depth : Nat) :
    (Boundaries.codec .number).Faithful (depth + 2) Boundaries.IsFinite Boundaries.reread := by
  have labels := (Codec.faithful_nullable_string depth).list_all
  refine .record (.whole (fun boundaries => ⟨boundaries.lower.map Double.reread,
    boundaries.labels⟩) ?_ fun _ => rfl) (by decide)
  refine .seq ?_ (.required labels fun _ _ => trivial)
  refine .map (.required (Codec.faithful_float depth).list fun _ fit => fit) ?_
  exact fun _ lower _ _ => lower

theorem GridSelector.faithful (depth : Nat) :
    GridSelector.codec.Faithful (depth + 1) (fun _ => True) id := by
  have text := Codec.faithful_nullable_string depth
  refine .record (.whole (fun selector => ⟨selector.attributeName, selector.fallback⟩) ?_
    fun _ => rfl) (by decide)
  refine .seq ?_ (.optional text trivial fun _ _ => trivial)
  refine .map (.optional text trivial fun _ _ => trivial) ?_
  exact fun _ _ _ _ => trivial

structure BoundedLookup.Fits (lookup : BoundedLookup) : Prop where
  input : lookup.input.Fits
  boundaries : lookup.boundaries.IsFinite
  outputs : ∀ output ∈ lookup.outputs, output.isFinite = true

def BoundedLookup.reread (lookup : BoundedLookup) : BoundedLookup :=
  ⟨lookup.input.reread, lookup.boundaries.reread, lookup.outputs.map Double.reread⟩

theorem BoundedLookup.faithful_fields (depth : Nat) : (BoundedLookup.fields .number).Faithful
    (depth + 2) BoundedLookup.Fits BoundedLookup.reread BoundedLookup.Fits := by
  refine .whole (fun lookup => ⟨lookup.input.reread, lookup.boundaries.reread,
    lookup.outputs.map Double.reread⟩) ?_ fun _ => rfl
  refine .seq ?_ (.required (Codec.faithful_float _).list fun _ fit => fit.outputs)
  refine .seq ?_ (.required (Boundaries.faithful depth) fun _ fit => fit.boundaries)
  refine .map (.required (InputSource.faithful _) fun _ fit => fit.input) ?_
  exact fun _ input _ boundaries _ outputs => ⟨input, boundaries, outputs⟩

structure GridLookup.Fits (lookup : GridLookup) : Prop where
  rowInput : lookup.rowInput.Fits
  rowBoundaries : lookup.rowBoundaries.IsFinite
  columnInput : lookup.columnInput.Fits
  columnBoundaries : lookup.columnBoundaries.IsFinite
  grids : ∀ entry ∈ lookup.grids.entries, Grid.IsFinite entry.2

def GridLookup.reread (lookup : GridLookup) : GridLookup where
  rowInput := lookup.rowInput.reread
  rowBoundaries := lookup.rowBoundaries.reread
  columnInput := lookup.columnInput.reread
  columnBoundaries := lookup.columnBoundaries.reread
  selector := lookup.selector
  grids := lookup.grids.mapValues Grid.reread

theorem GridLookup.faithful_fields (depth : Nat) : (GridLookup.fields .number).Faithful
    (depth + 3) GridLookup.Fits GridLookup.reread GridLookup.Fits := by
  have input := InputSource.faithful (depth + 2)
  have boundaries := Boundaries.faithful (depth + 1)
  refine .whole (fun lookup => ⟨lookup.rowInput.reread, lookup.rowBoundaries.reread,
    lookup.columnInput.reread, lookup.columnBoundaries.reread, lookup.selector,
    lookup.grids.mapValues Grid.reread⟩) ?_ fun _ => rfl
  refine .seq ?_ (.required (Grid.faithful_mapCodec depth) fun _ fit => fit.grids)
  refine .seq ?_ (.required (GridSelector.faithful _) fun _ _ => trivial)
  refine .seq ?_ (.required boundaries fun _ fit => fit.columnBoundaries)
  refine .seq ?_ (.required input fun _ fit => fit.columnInput)
  refine .seq ?_ (.required boundaries fun _ fit => fit.rowBoundaries)
  refine .map (.required input fun _ fit => fit.rowInput) ?_
  exact fun _ row _ rows _ column _ columns _ _ _ grids => ⟨row, rows, column, columns, grids⟩

structure ScalarMultiply.Fits (product : ScalarMultiply) : Prop where
  input : product.input.Fits
  rate : product.rate.isFinite = true
  floor : ∀ floor ∈ product.floor, floor.isFinite = true

def ScalarMultiply.reread (product : ScalarMultiply) : ScalarMultiply :=
  ⟨product.input.reread, Double.reread product.rate, product.floor.map Double.reread⟩

theorem ScalarMultiply.faithful_fields (depth : Nat) : (ScalarMultiply.fields .number).Faithful
    (depth + 1) ScalarMultiply.Fits ScalarMultiply.reread ScalarMultiply.Fits := by
  refine .whole (fun product => ⟨product.input.reread, Double.reread product.rate,
    product.floor.map Double.reread⟩) ?_ fun _ => rfl
  refine .seq ?_ (.optional (Codec.faithful_nullable_float _) nofun fun _ fit => fit.floor)
  refine .seq ?_ (.required (Codec.faithful_float _) fun _ fit => fit.rate)
  refine .map (.required (InputSource.faithful depth) fun _ fit => fit.input) ?_
  exact fun _ input _ rate _ floor => ⟨input, rate, floor⟩

structure ConditionalRate.Fits (product : ConditionalRate) : Prop where
  condition : product.condition.Fits
  boundaries : product.boundaries.IsFinite
  rates : ∀ rate ∈ product.rates, rate.isFinite = true
  base : product.base.Fits

def ConditionalRate.reread (product : ConditionalRate) : ConditionalRate where
  condition := product.condition.reread
  boundaries := product.boundaries.reread
  rates := product.rates.map Double.reread
  base := product.base.reread

theorem ConditionalRate.faithful_fields (depth : Nat) : (ConditionalRate.fields .number).Faithful
    (depth + 2) ConditionalRate.Fits ConditionalRate.reread ConditionalRate.Fits := by
  have input := InputSource.faithful (depth + 1)
  refine .whole (fun product => ⟨product.condition.reread, product.boundaries.reread,
    product.rates.map Double.reread, product.base.reread⟩) ?_ fun _ => rfl
  refine .seq ?_ (.required input fun _ fit => fit.base)
  refine .seq ?_ (.required (Codec.faithful_float _).list fun _ fit => fit.rates)
  refine .seq ?_ (.required (Boundaries.faithful depth) fun _ fit => fit.boundaries)
  refine .map (.required input fun _ fit => fit.condition) ?_
  exact fun _ condition _ boundaries _ rates _ base => ⟨condition, boundaries, rates, base⟩

namespace IntentOperation

def Fits : IntentOperation → Prop
  | boundedLookup lookup => lookup.Fits
  | gridLookup lookup => lookup.Fits
  | scalarMultiply product => product.Fits
  | conditionalRate product => product.Fits

def reread : IntentOperation → IntentOperation
  | boundedLookup lookup => boundedLookup lookup.reread
  | gridLookup lookup => gridLookup lookup.reread
  | scalarMultiply product => scalarMultiply product.reread
  | conditionalRate product => conditionalRate product.reread

theorem faithful (depth : Nat) : (codec .number).Faithful (depth + 4) Fits reread := by
  have bounded := BoundedLookup.faithful_fields (depth + 1)
  have grid := GridLookup.faithful_fields depth
  have scalar := ScalarMultiply.faithful_fields (depth + 2)
  have conditional := ConditionalRate.faithful_fields (depth + 1)
  refine Codec.faithful_tagged (by decide) (fun operation => ?_) ?_
  · cases operation with
    | boundedLookup lookup =>
        exact ⟨_, _, rfl, rfl, bounded.writes (by decide) _ boundedLookup lookup⟩
    | gridLookup lookup => exact ⟨_, _, rfl, rfl, grid.writes (by decide) _ gridLookup lookup⟩
    | scalarMultiply product =>
        exact ⟨_, _, rfl, rfl, scalar.writes (by decide) _ scalarMultiply product⟩
    | conditionalRate product =>
        exact ⟨_, _, rfl, rfl, conditional.writes (by decide) _ conditionalRate product⟩
  · refine List.forall_mem_cons.mpr ⟨bounded.readsOnly _ boundedLookup fun _ fit => fit, ?_⟩
    refine List.forall_mem_cons.mpr ⟨grid.readsOnly _ gridLookup fun _ fit => fit, ?_⟩
    refine List.forall_mem_cons.mpr ⟨scalar.readsOnly _ scalarMultiply fun _ fit => fit, ?_⟩
    exact List.forall_mem_singleton.mpr (conditional.readsOnly _ conditionalRate fun _ fit => fit)

end IntentOperation

structure ComponentIntent.Fits (intent : ComponentIntent) : Prop where
  index : intent.index < Nat.pow 2 64
  operation : intent.operation.Fits

def ComponentIntent.reread (intent : ComponentIntent) : ComponentIntent :=
  { intent with operation := intent.operation.reread }

theorem ComponentIntent.faithful (depth : Nat) : (ComponentIntent.codec .number).Faithful
    (depth + 5) ComponentIntent.Fits ComponentIntent.reread := by
  refine .record (.whole (fun intent => ⟨intent.componentId, intent.kind, intent.ordinal,
    intent.index, intent.enabled, intent.operation.reread⟩) ?_ fun _ => rfl) (by decide)
  refine .seq ?_ (.required (IntentOperation.faithful depth) fun _ fit => fit.operation)
  refine .seq ?_ (.required (Codec.faithful_bool _) fun _ _ => trivial)
  refine .seq ?_ (.required (Codec.faithful_count _) fun _ fit => fit.index)
  refine .seq ?_ (.required (Codec.faithful_word32 _) fun _ _ => trivial)
  refine .seq ?_ (.required (ComponentKind.faithful _) fun _ _ => trivial)
  refine .map (.required (Codec.faithful_string _) fun _ _ => trivial) ?_
  exact fun _ _ _ _ _ _ _ index _ _ _ operation => ⟨index, operation⟩

end VariablePay
