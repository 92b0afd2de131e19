import Mathlib.Data.List.Induction
import VariablePay.Proofs.Run.Population
import VariablePay.Proofs.Store.Memory

set_option autoImplicit false

/-!
# Entities are evaluated apart from each other

The result of an entity depends on the plan, on the way rows are collapsed, on its assignment, on
the rows that carry its id and on the rows of its location. Rows may be looked up in an index that
is built in one pass, which keeps apart scopes and ids and keeps the order of rows.
-/

namespace VariablePay

/-- Rows by the id that they carry, with a map for each scope. -/
structure RowIndex where
  entities : StringMap (List MetricRow)
  locations : StringMap (List MetricRow)

namespace RowIndex

def add (index : RowIndex) (row : MetricRow) : RowIndex :=
  match row.scope with
  | .entity =>
      { index with entities := index.entities.alter row.scopeId fun old => old.getD [] ++ [row] }
  | .location =>
      { index with locations := index.locations.alter row.scopeId fun old => old.getD [] ++ [row] }

def of (rows : List MetricRow) : RowIndex := rows.foldl add ⟨.empty, .empty⟩

def rowsUnder (index : RowIndex) : RowScope → String → List MetricRow
  | .entity, id => (index.entities.get? id).getD []
  | .location, id => (index.locations.get? id).getD []

def context (index : RowIndex) (config : AggregationConfig) (entity : AssignedEntity) :
    EntityContext :=
  let own := index.rowsUnder .entity entity.id
  let location? := entity.location.or (locationKey? config own)
  let shared := (location?.map (index.rowsUnder .location)).getD []
  ⟨aggregate config own shared, entity.attributes⟩

private theorem getD_alter (map : StringMap (List MetricRow)) (row : MetricRow) (id : String) :
    ((map.alter row.scopeId fun old => old.getD [] ++ [row]).get? id).getD [] =
      (map.get? id).getD [] ++ if row.scopeId = id then [row] else [] := by
  rw [StringMap.get?_alter]
  by_cases same : id = row.scopeId
  · rw [if_pos same, if_pos same.symm, same]
    rfl
  · rw [if_neg same, if_neg (Ne.symm same), List.append_nil]

/-- A row that is added is found under its own scope and id, and nowhere else. -/
theorem rowsUnder_add (index : RowIndex) (row : MetricRow) (scope : RowScope) (id : String) :
    (index.add row).rowsUnder scope id =
      index.rowsUnder scope id ++ MetricRow.under [row] scope id := by
  have single : MetricRow.under [row] scope id =
      if row.scope = scope then if row.scopeId = id then [row] else [] else [] := by
    simp only [MetricRow.under, List.filter_cons, List.filter_nil, Bool.and_eq_true, beq_iff_eq,
      ite_and]
  rw [single, add]
  cases scope <;> cases row.scope
  case entity.entity | location.location => exact getD_alter _ row id
  case entity.location | location.entity => exact (List.append_nil _).symm

/-- The rows under an id are the rows of the scope that carry it, in their order. -/
theorem rowsUnder_of (rows : List MetricRow) (scope : RowScope) (id : String) :
    (of rows).rowsUnder scope id = MetricRow.under rows scope id := by
  induction rows using List.reverseRecOn with
  | nil => cases scope <;> rfl
  | append_singleton rows row ih =>
      rw [of, List.foldl_append, List.foldl_cons, List.foldl_nil, rowsUnder_add, ← of, ih]
      exact (List.filter_append ..).symm

/-- By way of an index an entity sees what it sees in all rows. -/
theorem context_of (rows : List MetricRow) (config : AggregationConfig)
    (entity : AssignedEntity) : (of rows).context config entity = entity.context config rows := by
  have lookUp : (of rows).rowsUnder .location = MetricRow.under rows .location :=
    funext fun id => rowsUnder_of rows .location id
  unfold context AssignedEntity.context AssignedEntity.locationRows
    AssignedEntity.effectiveLocation? AssignedEntity.ownRows
  rw [rowsUnder_of, lookUp]
  dsimp only
  cases entity.location.or (locationKey? config (MetricRow.under rows .entity entity.id)) <;> rfl

end RowIndex

/-- Of all rows an entity sees its own and those of its location. -/
theorem AssignedEntity.context_eq {entity : AssignedEntity} {config : AggregationConfig}
    {rows others : List MetricRow} (own : entity.ownRows rows = entity.ownRows others)
    (shared : ∀ location, entity.effectiveLocation? config rows = some location →
      MetricRow.under rows .location location = MetricRow.under others .location location) :
    entity.context config rows = entity.context config others := by
  have sameLocation :
      entity.effectiveLocation? config rows = entity.effectiveLocation? config others := by
    unfold effectiveLocation?
    rw [own]
  have locationRows : entity.locationRows config rows = entity.locationRows config others := by
    unfold AssignedEntity.locationRows
    rw [← sameLocation]
    cases found : entity.effectiveLocation? config rows with
    | none => rfl
    | some location => exact shared location found
  unfold context
  rw [own, locationRows]

/-- The result of an entity from what it sees. -/
def RuleSet.resultOf (ruleSet : RuleSet) (entity : AssignedEntity) (context : EntityContext) :
    EntityResult :=
  let variant := (PreparedRuleSet.of ruleSet).select entity.attributes
  .of entity.id variant.id (variant.compare context)

/-- At the place of an entity stands its result from what it sees. -/
theorem RunInputs.results_getElem? (inputs : RunInputs) (config : AggregationConfig)
    {place : Nat} {entity : AssignedEntity} (present : inputs.entities[place]? = some entity) :
    (inputs.evaluate config).results[place]? =
      some (inputs.ruleSet.resultOf entity (entity.context config inputs.rows)) := by
  change ((inputs.runs config).map EntityRun.result)[place]? = _
  rw [RunInputs.runs, List.map_map, List.getElem?_map, present]
  rfl

namespace Store

variable {σ τ : Type} {store : Store σ} {other : Store τ} {config tuned : CalcConfig}
  {pageBound otherBound : Nat} {request asked : RunRequest} {before : σ} {otherBefore : τ}
  {result again : RunResult} {inputs others : RunInputs}

theorem results_getElem?_of_run
    (completed : (store.run config pageBound request before).result = .ok result)
    (loads : store.Loads config pageBound request before inputs) {place : Nat}
    {entity : AssignedEntity} (present : inputs.entities[place]? = some entity) :
    result.results[place]? = some (inputs.ruleSet.resultOf entity
      (entity.context config.aggregation inputs.rows)) := by
  obtain ⟨loaded, loadsToo, rfl⟩ := exists_loads_of_run completed
  rw [loadsToo.unique loads]
  exact inputs.results_getElem? config.aggregation present

/-- Two runs under the same plan that collapse rows in the same way have the same result for an
entity with the same assignment, if its own rows and the rows of its location are the same, in their
order. It is the result that follows from an index of either's rows. -/
theorem run_isolates_entities
    (completed : (store.run config pageBound request before).result = .ok result)
    (completedAgain : (other.run tuned otherBound asked otherBefore).result = .ok again)
    (loads : store.Loads config pageBound request before inputs)
    (loadsAgain : other.Loads tuned otherBound asked otherBefore others)
    (samePlan : inputs.ruleSet = others.ruleSet)
    (sameWay : config.aggregation = tuned.aggregation) {place otherPlace : Nat}
    {entity : AssignedEntity} (present : inputs.entities[place]? = some entity)
    (presentAgain : others.entities[otherPlace]? = some entity)
    (own : entity.ownRows inputs.rows = entity.ownRows others.rows)
    (shared : ∀ location,
      entity.effectiveLocation? config.aggregation inputs.rows = some location →
        MetricRow.under inputs.rows .location location =
          MetricRow.under others.rows .location location) :
    ∃ ownResult, result.results[place]? = some ownResult ∧
      again.results[otherPlace]? = some ownResult ∧ ownResult.entityId = entity.id ∧
      ∀ rows ∈ [inputs.rows, others.rows], ownResult = inputs.ruleSet.resultOf entity
        ((RowIndex.of rows).context config.aggregation entity) := by
  have first := results_getElem?_of_run completed loads present
  have second := results_getElem?_of_run completedAgain loadsAgain presentAgain
  have seen := AssignedEntity.context_eq own shared
  rw [← samePlan, ← sameWay, ← seen] at second
  refine ⟨_, first, second, rfl, fun rows isEither => ?_⟩
  rw [RowIndex.context_of]
  rcases List.mem_pair.mp isEither with rfl | rfl
  · rfl
  · rw [seen]

end Store

/-- A shop without an assigned location, in two populations. In the second there are another entity,
whose id is that of the shop's location, and rows of others in between, with values that are not
numbers. -/
theorem MemoryStore.asStore_run_isolates_entities :
    let shop : AssignedEntity := ⟨"shop", none, .empty⟩
    let sales : MetricRow :=
      ⟨.entity, "shop", "sales", .ofList [("revenue", 70.0), ("store_id", 7.0)]⟩
    let shared : MetricRow := ⟨.location, "7", "traffic", .ofList [("visits", 12.0)]⟩
    let store : MemoryStore := ⟨[shareRuleSet], [shop], [sales, shared], .empty, [], []⟩
    let crowded : MemoryStore :=
      ⟨[shareRuleSet], [⟨"7", some "shop", .empty⟩, shop],
        [⟨.entity, "7", "sales", .ofList [("revenue", 0.0 / 0.0)]⟩, shared,
          ⟨.location, "shop", "traffic", .ofList [("visits", 1.0 / 0.0)]⟩, sales], .empty, [], []⟩
    let request : RunRequest := ⟨"batch", "tenant", "period", "plan", .epoch⟩
    ∃ result again ownResult, (asStore.run .standard 9 request store).result = .ok result ∧
      (asStore.run .standard 9 request crowded).result = .ok again ∧
      shop.effectiveLocation? CalcConfig.standard.aggregation store.rows = some "7" ∧
      result.results[0]? = some ownResult ∧ again.results[1]? = some ownResult := by
  intro shop sales shared store crowded request
  have firstRuns : ((asStore.run .standard 9 request store).result.map
      fun result => decide (result.entityCount = 1)) = .ok true := by decide +kernel
  have secondRuns : ((asStore.run .standard 9 request crowded).result.map
      fun result => decide (result.entityCount = 2)) = .ok true := by decide +kernel
  have location : shop.effectiveLocation? CalcConfig.standard.aggregation store.rows =
      some "7" := by decide +kernel
  have own : shop.ownRows store.rows = shop.ownRows crowded.rows := by decide +kernel
  have atLocation : MetricRow.under store.rows .location "7" =
      MetricRow.under crowded.rows .location "7" := by decide +kernel
  obtain ⟨result, completed, _⟩ := exists_of_map_decide firstRuns
  obtain ⟨again, completedAgain, _⟩ := exists_of_map_decide secondRuns
  obtain ⟨inputs, loads, _⟩ := Store.exists_loads_of_run completed
  obtain ⟨others, loadsAgain, _⟩ := Store.exists_loads_of_run completedAgain
  obtain ⟨plan, entities, rows⟩ := (store.asStore_serves request).loads rfl loads
  obtain ⟨planAgain, entitiesAgain, rowsAgain⟩ :=
    (crowded.asStore_serves request).loads rfl loadsAgain
  have samePlan : inputs.ruleSet = others.ruleSet :=
    Except.ok.inj (Option.some.inj (plan.symm.trans planAgain))
  obtain ⟨ownResult, stands, standsAgain, _⟩ := Store.run_isolates_entities completed completedAgain
    loads loadsAgain samePlan rfl (show inputs.entities[0]? = some shop by rw [entities]; rfl)
    (show others.entities[1]? = some shop by rw [entitiesAgain]; rfl)
    (by rw [rows, rowsAgain]; exact own) (by
      rw [rows, rowsAgain]
      intro found isLocation
      cases location.symm.trans isLocation
      exact atLocation)
  exact ⟨result, again, ownResult, completed, completedAgain, location, stands, standsAgain⟩

end VariablePay
