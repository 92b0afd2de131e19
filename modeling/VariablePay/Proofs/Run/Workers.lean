import Mathlib.Data.List.Perm.Basic
import Mathlib.Logic.Relation
import VariablePay.Proofs.Agreement
import VariablePay.Proofs.Confidence.Tallies
import VariablePay.Proofs.Run.Cases
import VariablePay.Proofs.Run.Population

set_option autoImplicit false

/-!
# Evaluation by several workers

Workers take up the entities of a population in any order and share one surface. A worker appends
the events of an entity in one piece and hands in its result later; in between, other workers do
the same. Once every result is in, nothing tells in which order the entities were finished: the
results stand at the places of their entities, and the surface is consolidated as if the entities
had been evaluated one after the other.
-/

namespace VariablePay

/-- How far the evaluation of an entity has come. -/
inductive EntityProgress where
  | waiting
  /-- The events of the entity are on the surface. -/
  | logged
  | finished (result : EntityResult)

/-- A population under evaluation: the progress of each entity, and the shared surface. -/
structure PopulationState where
  progress : List EntityProgress
  surface : Surface

namespace PopulationState

/-- What a worker does next, in a population whose entities are evaluated to `runs`. -/
inductive Step (runs : List EntityRun) : PopulationState → PopulationState → Prop where
  | log {state : PopulationState} {place : Nat} {run : EntityRun}
      (evaluated : runs[place]? = some run) (waiting : state.progress[place]? = some .waiting) :
      Step runs state ⟨state.progress.set place .logged, state.surface.append run.events⟩
  | finish {state : PopulationState} {place : Nat} {run : EntityRun}
      (evaluated : runs[place]? = some run) (logged : state.progress[place]? = some .logged) :
      Step runs state ⟨state.progress.set place (.finished run.result), state.surface⟩

abbrev Steps (runs : List EntityRun) : PopulationState → PopulationState → Prop :=
  Relation.ReflTransGen (Step runs)

/-- A population before any worker has started. -/
def start (runs : List EntityRun) (prior : Density) : PopulationState :=
  ⟨runs.map fun _ => .waiting, .ofDensity prior⟩

/-- Whether every entity is finished, with these results. -/
def IsFinished (state : PopulationState) (results : List EntityResult) : Prop :=
  state.progress = results.map EntityProgress.finished

/-- The events of the entity at a place. -/
def eventsAt (runs : List EntityRun) (place : Nat) : List ConfidenceEvent :=
  (runs[place]?.map EntityRun.events).getD []

/-- A state in which the events of some places have been logged, in the order of the list. -/
structure IsLogged (runs : List EntityRun) (prior : Density) (order : List Nat)
    (state : PopulationState) : Prop where
  surface_eq : state.surface = ⟨prior.cleaned, order.flatMap (eventsAt runs)⟩
  length_eq : state.progress.length = runs.length
  nodup : order.Nodup
  /-- Just the places that no longer wait have been logged. -/
  mem_iff : ∀ {place : Nat} {progress}, state.progress[place]? = some progress →
    (place ∈ order ↔ progress ≠ .waiting)
  lt_length : ∀ place ∈ order, place < runs.length
  /-- A result stands at the place of its entity. -/
  result_eq : ∀ {place : Nat} {result}, state.progress[place]? = some (.finished result) →
    runs[place]?.map EntityRun.result = some result

variable {runs : List EntityRun} {prior : Density} {state after : PopulationState}

theorem isLogged_start : IsLogged runs prior [] (start runs prior) where
  surface_eq := rfl
  length_eq := List.length_map _
  nodup := .nil
  mem_iff {place progress} found := by
    rw [start, List.getElem?_map] at found
    obtain ⟨_, _, rfl⟩ := Option.map_eq_some_iff.mp found
    simp
  lt_length place member := by cases member
  result_eq {place result} found := by
    rw [start, List.getElem?_map] at found
    obtain ⟨_, _, impossible⟩ := Option.map_eq_some_iff.mp found
    cases impossible

private theorem eventsAt_of_getElem? {place : Nat} {run : EntityRun}
    (evaluated : runs[place]? = some run) : eventsAt runs place = run.events := by
  unfold eventsAt
  rw [evaluated]
  rfl

private theorem progress_of_set {entities : List EntityProgress} {place other : Nat}
    {next progress : EntityProgress}
    (found : (entities.set place next)[other]? = some progress) :
    other = place ∧ progress = next ∨ other ≠ place ∧ entities[other]? = some progress := by
  rw [List.getElem?_set] at found
  split at found
  · rename_i same
    split at found
    · cases found
      exact .inl ⟨same.symm, rfl⟩
    · cases found
  · rename_i different
    exact .inr ⟨Ne.symm different, found⟩

/-- A place that waits is logged behind the others. -/
private theorem IsLogged.log {order : List Nat} {place : Nat} {run : EntityRun}
    (logged : IsLogged runs prior order state) (evaluated : runs[place]? = some run)
    (waiting : state.progress[place]? = some .waiting) :
    IsLogged runs prior (order ++ [place])
      ⟨state.progress.set place .logged, state.surface.append run.events⟩ where
  surface_eq := by
    rw [logged.surface_eq, List.flatMap_append, List.flatMap_singleton,
      eventsAt_of_getElem? evaluated]
    rfl
  length_eq := by
    rw [List.length_set]
    exact logged.length_eq
  nodup := by
    have fresh : place ∉ order := fun member => (logged.mem_iff waiting).mp member rfl
    rw [List.nodup_append]
    refine ⟨logged.nodup, List.nodup_singleton place, fun other member last isPlace same => ?_⟩
    rw [List.mem_singleton] at isPlace
    exact fresh (isPlace ▸ same ▸ member)
  mem_iff {other progress} found := by
    rw [List.mem_append, List.mem_singleton]
    obtain ⟨rfl, rfl⟩ | ⟨different, before⟩ := progress_of_set found
    · exact iff_of_true (.inr rfl) nofun
    · rw [← logged.mem_iff before, or_iff_left different]
  lt_length other member := by
    rcases List.mem_append.mp member with old | new
    · exact logged.lt_length other old
    · cases List.mem_singleton.mp new
      exact (List.getElem?_eq_some_iff.mp evaluated).1
  result_eq {other result} found := by
    obtain ⟨_, impossible⟩ | ⟨_, before⟩ := progress_of_set found
    · cases impossible
    · exact logged.result_eq before

/-- A result that is handed in does not touch the surface. -/
private theorem IsLogged.finish {order : List Nat} {place : Nat} {run : EntityRun}
    (logged : IsLogged runs prior order state) (evaluated : runs[place]? = some run)
    (isLogged : state.progress[place]? = some .logged) :
    IsLogged runs prior order
      ⟨state.progress.set place (.finished run.result), state.surface⟩ where
  surface_eq := logged.surface_eq
  length_eq := by
    rw [List.length_set]
    exact logged.length_eq
  nodup := logged.nodup
  mem_iff {other progress} found := by
    obtain ⟨rfl, rfl⟩ | ⟨_, before⟩ := progress_of_set found
    · exact iff_of_true ((logged.mem_iff isLogged).mpr nofun) nofun
    · exact logged.mem_iff before
  lt_length := logged.lt_length
  result_eq {other result} found := by
    obtain ⟨rfl, same⟩ | ⟨_, before⟩ := progress_of_set found
    · cases same
      rw [evaluated]
      rfl
    · exact logged.result_eq before

theorem IsLogged.step {order : List Nat} (logged : IsLogged runs prior order state)
    (step : Step runs state after) : ∃ longer, IsLogged runs prior longer after := by
  cases step with
  | log evaluated waiting => exact ⟨_, logged.log evaluated waiting⟩
  | finish evaluated isLogged => exact ⟨order, logged.finish evaluated isLogged⟩

/-- Whatever the workers have done, the surface holds the events of some entities, each block in
one piece, in the order in which these entities were logged. -/
theorem exists_isLogged (steps : Steps runs (start runs prior) state) :
    ∃ order, IsLogged runs prior order state := by
  induction steps with
  | refl => exact ⟨[], isLogged_start⟩
  | tail _ step ih =>
      obtain ⟨order, logged⟩ := ih
      exact logged.step step

private theorem results_eq {results : List EntityResult} {order : List Nat}
    (logged : IsLogged runs prior order state) (finished : state.IsFinished results) :
    results = runs.map EntityRun.result := by
  refine List.ext_getElem? fun place => ?_
  rw [List.getElem?_map]
  cases found : results[place]? with
  | some result =>
      refine (logged.result_eq ?_).symm
      rw [finished, List.getElem?_map, found]
      rfl
  | none =>
      have length := logged.length_eq
      rw [finished, List.length_map] at length
      rw [List.getElem?_eq_none_iff, length] at found
      rw [List.getElem?_eq_none found]
      rfl

/-- At the end all places have been logged, each once. -/
private theorem order_perm {results : List EntityResult} {order : List Nat}
    (logged : IsLogged runs prior order state) (finished : state.IsFinished results) :
    order.Perm (List.range runs.length) := by
  rw [List.perm_ext_iff_of_nodup logged.nodup List.nodup_range]
  intro place
  rw [List.mem_range]
  constructor
  · intro member
    exact logged.lt_length place member
  · intro inRange
    rw [← logged.length_eq, finished, List.length_map] at inRange
    have found : state.progress[place]? = some (.finished results[place]) := by
      rw [finished, List.getElem?_map, List.getElem?_eq_getElem inRange]
      rfl
    exact (logged.mem_iff found).mpr nofun

private theorem flatMap_eventsAt (runs : List EntityRun) :
    (List.range runs.length).flatMap (eventsAt runs) = runs.flatMap EntityRun.events := by
  have blocks : (List.range runs.length).map (eventsAt runs) = runs.map EntityRun.events := by
    refine List.ext_getElem (by simp) fun place inRange _ => ?_
    rw [List.length_map, List.length_range] at inRange
    rw [List.getElem_map, List.getElem_map, List.getElem_range,
      eventsAt_of_getElem? (List.getElem?_eq_getElem inRange)]
  rw [List.flatMap_def, List.flatMap_def, blocks]

/-- At the end every result stands at the place of its entity, and the surface holds the events of
all entities in some order. -/
theorem eq_of_isFinished {results : List EntityResult}
    (steps : Steps runs (start runs prior) state) (finished : state.IsFinished results) :
    results = runs.map EntityRun.result ∧ state.surface.prior = prior.cleaned ∧
      state.surface.events.Perm (runs.flatMap EntityRun.events) := by
  obtain ⟨order, logged⟩ := exists_isLogged steps
  refine ⟨results_eq logged finished, ?_, ?_⟩
  · rw [logged.surface_eq]
  · rw [logged.surface_eq, ← flatMap_eventsAt]
    exact (order_perm logged finished).flatMap_right _

end PopulationState

private theorem foldl_append_eq (prior : Density) (blocks : List (List ConfidenceEvent)) :
    blocks.foldl Surface.append (.ofDensity prior) = ⟨prior.cleaned, blocks.flatten⟩ := by
  induction blocks using List.reverseRecOn with
  | nil => rfl
  | append_singleton blocks block ih =>
      rw [List.foldl_append, ih, List.flatten_append, List.flatten_singleton]
      rfl

namespace RunInputs

/-- Blocks of events consolidate to the same in whatever order they, or the events in them, are
appended to a surface. Whatever order the workers of a run finish its entities in, they leave the
results, the consolidation with its updates and signals, and the summary of the run. -/
theorem consolidation_of_any_order :
    (∀ (prior : Density) (config : DensityConfig) (batchId tenantId : String)
      (blocks others : List (List ConfidenceEvent)), blocks.flatten.Perm others.flatten →
        (blocks.foldl Surface.append (.ofDensity prior)).consolidate config batchId tenantId =
          (others.foldl Surface.append (.ofDensity prior)).consolidate config batchId tenantId) ∧
    ∀ (inputs : RunInputs) (config : CalcConfig) (request : RunRequest)
      (state : PopulationState) (results : List EntityResult),
      let runs := inputs.runs config.aggregation
      let consolidation :=
        state.surface.consolidate config.density request.batchId request.tenantId
      PopulationState.Steps runs (.start runs inputs.prior) state → state.IsFinished results →
        results = (inputs.evaluate config.aggregation).results ∧
          consolidation = inputs.consolidation config request ∧
          BatchSummary.of results consolidation = (inputs.summedBatch config request).summary := by
  constructor
  · intro prior config batchId tenantId blocks others perm
    rw [foldl_append_eq, foldl_append_eq]
    apply Surface.consolidate_eq_of_perm
    · rfl
    · exact perm
  · intro inputs config request state results runs consolidation steps finished
    obtain ⟨rfl, prior, events⟩ := PopulationState.eq_of_isFinished steps finished
    have consolidated : consolidation = inputs.consolidation config request :=
      Surface.consolidate_eq_of_perm prior events _ _ _
    refine ⟨rfl, consolidated, ?_⟩
    rw [consolidated]
    rfl

/-- Two entities without rows in a plan of one rate. -/
def ofPair : RunInputs :=
  ⟨shareRuleSet, [⟨"first", none, .empty⟩, ⟨"second", none, .empty⟩], [], .empty⟩

/-- The second entity is logged before the first, and its result comes in after the other. -/
theorem ofPair_consolidation_of_reverse_order :
    let request : RunRequest := ⟨"batch", "tenant", "period", "plan", .epoch⟩
    let runs := ofPair.runs CalcConfig.standard.aggregation
    let blocks := runs.map EntityRun.events
    let results := runs.map EntityRun.result
    let state : PopulationState :=
      ⟨results.map .finished, (PopulationState.start runs ofPair.prior).surface.append
        blocks.reverse.flatten⟩
    blocks.flatten.Perm blocks.reverse.flatten ∧
      PopulationState.Steps runs (.start runs ofPair.prior) state ∧ state.IsFinished results ∧
      state.surface.consolidate CalcConfig.standard.density request.batchId request.tenantId =
        ofPair.consolidation .standard request ∧
      (blocks.foldl Surface.append (.ofDensity ofPair.prior)).consolidate
          CalcConfig.standard.density request.batchId request.tenantId =
        (blocks.reverse.foldl Surface.append (.ofDensity ofPair.prior)).consolidate
          CalcConfig.standard.density request.batchId request.tenantId := by
  intro request runs blocks results state
  have perm : blocks.flatten.Perm blocks.reverse.flatten := (List.reverse_perm blocks).symm.flatten
  have steps : PopulationState.Steps runs (.start runs ofPair.prior) state := by
    refine .head (.log (show runs[1]? = some _ from rfl) rfl) ?_
    refine .head (.log (show runs[0]? = some _ from rfl) rfl) ?_
    refine .head (.finish (show runs[0]? = some _ from rfl) rfl) ?_
    refine .head (.finish (show runs[1]? = some _ from rfl) rfl) ?_
    exact .refl
  have finished : state.IsFinished results := rfl
  obtain ⟨_, consolidated, _⟩ := consolidation_of_any_order.2 ofPair .standard request state results
    steps finished
  exact ⟨perm, steps, finished, consolidated,
    consolidation_of_any_order.1 ofPair.prior CalcConfig.standard.density request.batchId
      request.tenantId blocks blocks.reverse perm⟩

end RunInputs

end VariablePay
