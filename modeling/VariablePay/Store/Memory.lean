import VariablePay.Store.Basic

set_option autoImplicit false

/-!
# A store in memory

A store of plain lists that keeps a record of its calls. It serves every tenant, period and rule
set alike, writes densities back, and refuses the calls that it is told to refuse.
-/

namespace VariablePay

inductive StoreCall where
  | loadRuleSet (ruleSetId : String)
  | loadEntities (page : Page)
  | loadRows (page : Page)
  | loadDensity (tenantId : String)
  | saveBatch (batch : CalculationBatch)
  | saveCompleted (batch : CalculationBatch) (results : List EntityResult)
  | saveDensity (updates : List DensityUpdate)
  | saveSignals (signals : List TrainingSignal)

def StoreCall.name : StoreCall → String
  | loadRuleSet _ => "rule_set"
  | loadEntities _ => "entities"
  | loadRows _ => "rows"
  | loadDensity _ => "prior"
  | saveBatch _ => "batch"
  | saveCompleted .. => "completed"
  | saveDensity _ => "density"
  | saveSignals _ => "signals"

structure RecordedCall where
  call : StoreCall
  refused : Bool

/-- The contents of a store in memory and the calls it has seen. -/
structure MemoryStore where
  ruleSets : List RuleSet
  entities : List AssignedEntity
  rows : List MetricRow
  density : Density
  /-- The names of the calls to refuse. -/
  refused : List String
  calls : List RecordedCall

namespace MemoryStore

/-- Records a call and answers it with a change and a view of the contents, unless it is one to
refuse. -/
def serve {α : Type} (call : StoreCall) (change : MemoryStore → MemoryStore)
    (view : MemoryStore → α) : Activity Failure MemoryStore α := fun store =>
  let isRefused := store.refused.contains call.name
  let recorded := { store with calls := store.calls ++ [⟨call, isRefused⟩] }
  if isRefused then
    ⟨.error (.persistence call.name "store unavailable"), recorded, []⟩
  else ⟨.ok (view recorded), change recorded, []⟩

def updated (density : Density) (updates : List DensityUpdate) : Density :=
  updates.foldl (fun density update => density.insert update.signature update.newDensity) density

def asStore : Store MemoryStore where
  loadRuleSet ruleSetId :=
    serve (.loadRuleSet ruleSetId) id fun store =>
      store.ruleSets.find? fun ruleSet => ruleSet.id == ruleSetId
  loadEntities _ _ page := serve (.loadEntities page) id fun store => page.slice store.entities
  loadRows _ _ page := serve (.loadRows page) id fun store => page.slice store.rows
  loadDensity tenantId := serve (.loadDensity tenantId) id MemoryStore.density
  saveBatch batch := serve (.saveBatch batch) id fun _ => ()
  saveCompleted batch results := serve (.saveCompleted batch results) id fun _ => ()
  saveDensity _ updates :=
    serve (.saveDensity updates)
      (fun store => { store with density := updated store.density updates }) fun _ => ()
  saveSignals signals := serve (.saveSignals signals) id fun _ => ()

/-- More pages than a load from the store takes. -/
def pageBound (store : MemoryStore) : Nat := store.entities.length + store.rows.length + 2

end MemoryStore

end VariablePay
