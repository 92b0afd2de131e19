import VariablePay.Proofs.DualPath
import VariablePay.Proofs.StringMap

set_option autoImplicit false

/-!
# When the evaluation of a component fails

Of a checked component only two things can fail: a named metric may be there without being a finite
number, and a matrix of several grids may be left without one. Tables are never empty, and no row,
column or entry lies outside of them. The intent of the component fails in the same cases.
-/

namespace VariablePay

namespace MetricMap

/-- A metric that is there has to be a finite number. -/
def IsReadable (metrics : MetricMap) (name : String) : Prop :=
  ∀ value, metrics.get? name = some value → value.isFinite = true

def fault? (metrics : MetricMap) (name : String) : Option EvalFault :=
  (metrics.get? name).bind fun value =>
    if value.isFinite then none else some (.nonFiniteMetric name value)

variable {metrics : MetricMap} {name : String}

theorem fault?_eq_none_iff : metrics.fault? name = none ↔ metrics.IsReadable name := by
  cases found : metrics.get? name <;> simp [fault?, IsReadable, found]

theorem fault?_eq_some_iff {fault : EvalFault} :
    metrics.fault? name = some fault ↔ ∃ value, metrics.get? name = some value ∧
      value.isFinite = false ∧ fault = .nonFiniteMetric name value := by
  cases found : metrics.get? name with
  | none => simp [fault?, found]
  | some value =>
      cases finite : value.isFinite with
      | true => simp [fault?, found, finite]
      | false =>
          simp only [fault?, found, finite, Option.bind_some, Bool.false_eq_true, if_false,
            Option.some.injEq]
          constructor
          · intro same
            exact ⟨value, rfl, finite, same.symm⟩
          · rintro ⟨_, rfl, _, rfl⟩
            rfl

end MetricMap

namespace ComponentConfig

/-- The metrics that a configuration names, in the order in which they are read. -/
def metrics : ComponentConfig → List String
  | tierLookup config => [config.metric]
  | matrixLookup config => [config.rowMetric, config.columnMetric]
  | percentage config => [config.metric]
  | conditionalPercentage config => [config.selector, config.base]
  | percentageWithGate config => [config.selector, config.base]
  | flatPercentage config => [config.metric]

end ComponentConfig

/-- The attributes of an entity give the key of none of the grids. -/
inductive MatrixLookup.Misses (config : MatrixLookup) (attributes : Attributes) :
    (key : String) → Prop where
  | unselected (unselected : config.gridAttribute = none) : Misses config attributes "<none>"
  | absent {name : String} (selected : config.gridAttribute = some name)
      (absent : attributes.get? name = none) : Misses config attributes "<none>"
  | unknown {name key : String} (selected : config.gridAttribute = some name)
      (wanted : attributes.get? name = some key) (unknown : config.grids.contains key = false) :
      Misses config attributes key

/-- Why a component that is switched on has no payout: the first metric that is there without being
a finite number or, if there is none, a matrix of several grids of which none applies. -/
inductive Component.FailsWith (component : Component) (context : EntityContext) :
    EvalFault → Prop where
  | metric {before after : List String} {name : String} {value : Float}
      (enabled : component.enabled = true)
      (named : component.config.metrics = before ++ name :: after)
      (readable : ∀ earlier ∈ before, context.metrics.IsReadable earlier)
      (found : context.metrics.get? name = some value) (infinite : value.isFinite = false) :
      FailsWith component context (.nonFiniteMetric name value)
  | grid {config : MatrixLookup} {key : String}
      (enabled : component.enabled = true)
      (readable : ∀ name ∈ component.config.metrics, context.metrics.IsReadable name)
      (isMatrix : component.config = .matrixLookup config) (several : 2 ≤ config.grids.size)
      (noDefault : config.defaultGrid = none) (misses : config.Misses context.attributes key) :
      FailsWith component context (.gridNotFound key)

/-! ## Steps of an evaluation -/

theorem Explanation.faultOf?_read (explanation : Explanation) (metrics : MetricMap)
    (name : String) : faultOf? (explanation.read metrics name) = metrics.fault? name := by
  unfold Explanation.read MetricMap.fault?
  cases metrics.get? name with
  | none => rfl
  | some value => cases finite : value.isFinite <;> simp [faultOf?, finite]

theorem Explanation.isNaN_of_read {explanation after : Explanation} {metrics : MetricMap}
    {name : String} {value : Float} (read : explanation.read metrics name = .ok (value, after)) :
    value.isNaN = false := by
  unfold Explanation.read at read
  cases found : metrics.get? name with
  | none =>
      rw [found] at read
      cases read
      decide
  | some metric =>
      rw [found] at read
      dsimp only at read
      split at read
      · rename_i finite
        cases read
        exact Double.isNaN_of_isFinite finite
      · cases read

private theorem faultOf?_read_bind {β : Type} {explanation : Explanation} {metrics : MetricMap}
    {name : String} {next : Float × Explanation → Except EvalFault β}
    {later? : Option EvalFault}
    (after : ∀ value noted, value.isNaN = false → faultOf? (next (value, noted)) = later?) :
    faultOf? (explanation.read metrics name >>= next) = (metrics.fault? name).or later? := by
  rw [← explanation.faultOf?_read metrics name]
  exact faultOf?_bind fun read succeeded =>
    after read.1 read.2 (Explanation.isNaN_of_read succeeded)

private theorem faultOf?_require_bind {α β : Type} {fault : EvalFault} {found? : Option α}
    {next : α → Except EvalFault β} {value : α} (found : found? = some value) :
    faultOf? (EvalFault.require fault found? >>= next) = faultOf? (next value) := by
  rw [found]
  rfl

private theorem faultOf?_resolve_bind {β : Type} {bands : List Band}
    (ascending : Band.Ascending bands) {value : Float} (number : value.isNaN = false)
    {next : MatchedBand → Except EvalFault β}
    (after : ∀ found, found.index < bands.length → faultOf? (next found) = none) :
    faultOf? (EvalFault.require .emptyTable (Band.resolve? bands value) >>= next) = none := by
  -- What is not NaN resolves, if only to the nearest band.
  obtain ⟨found, resolved, resolves⟩ := ascending.exists_resolves number
  obtain ⟨band, stands, _⟩ := resolves.stands
  rw [faultOf?_require_bind resolved]
  exact after found (List.getElem?_eq_some_iff.mp stands).1

/-! ## The choice of a grid -/

namespace MatrixLookup

variable {config : MatrixLookup} {attributes : Attributes}

theorem misses_iff {key : String} :
    config.Misses attributes key ↔
      (config.wantedGrid? attributes).bind config.gridAt? = none ∧
        key = (config.wantedGrid? attributes).getD "<none>" := by
  have gridAt?_eq_none (key : String) : config.gridAt? key = none ↔
      config.grids.contains key = false := by
    simp [gridAt?, StringMap.contains]
  constructor
  · rintro (unselected | ⟨selected, absent⟩ | ⟨selected, wanted, unknown⟩)
    · simp [wantedGrid?, unselected]
    · simp [wantedGrid?, selected, absent]
    · simp [wantedGrid?, selected, wanted, gridAt?_eq_none, unknown]
  · rintro ⟨missing, rfl⟩
    cases selected : config.gridAttribute with
    | none => simpa [wantedGrid?, selected] using Misses.unselected selected
    | some name =>
        cases wanted : attributes.get? name with
        | none => simpa [wantedGrid?, selected, wanted] using Misses.absent selected wanted
        | some key =>
            simp only [wantedGrid?, selected, wanted, Option.bind_some, gridAt?_eq_none] at missing
            simpa [wantedGrid?, selected, wanted] using Misses.unknown selected wanted missing

theorem onlyGrid?_eq_none_iff (nonempty : config.grids.entries ≠ []) :
    config.onlyGrid? = none ↔ 2 ≤ config.grids.size := by
  rcases entries : config.grids.entries with _ | ⟨entry, _ | ⟨next, rest⟩⟩
  · exact absurd entries nonempty
  · simp [onlyGrid?, StringMap.size, entries]
  · simp [onlyGrid?, StringMap.size, entries]

theorem default_eq_none_iff (checked : config.GridsChecked) :
    config.defaultGrid.bind config.gridAt? = none ↔ config.defaultGrid = none := by
  cases isDefault : config.defaultGrid with
  | none => simp
  | some key =>
      have defined := checked.default key isDefault
      rw [StringMap.contains, Option.isSome_iff_exists] at defined
      obtain ⟨grid, found⟩ := defined
      simp [gridAt?, found]

theorem selectGrid_eq_error_iff (checked : config.GridsChecked) {fault : EvalFault} :
    config.selectGrid attributes = .error fault ↔
      ∃ key, 2 ≤ config.grids.size ∧ config.defaultGrid = none ∧
        config.Misses attributes key ∧ fault = .gridNotFound key := by
  have failing : config.selectGrid attributes = .error fault ↔
      ((config.wantedGrid? attributes).bind config.gridAt?).or
          ((config.defaultGrid.bind config.gridAt?).or config.onlyGrid?) = none ∧
        fault = .gridNotFound ((config.wantedGrid? attributes).getD "<none>") := by
    unfold selectGrid
    dsimp only
    cases ((config.wantedGrid? attributes).bind config.gridAt?).or
        ((config.defaultGrid.bind config.gridAt?).or config.onlyGrid?) with
    | none => simp [EvalFault.require, eq_comm]
    | some found => simp [EvalFault.require]
  rw [failing]
  simp only [Option.or_eq_none_iff, default_eq_none_iff checked,
    onlyGrid?_eq_none_iff checked.nonempty, misses_iff]
  constructor
  · rintro ⟨⟨missing, noDefault, several⟩, rfl⟩
    exact ⟨_, several, noDefault, ⟨missing, rfl⟩, rfl⟩
  · rintro ⟨_, several, noDefault, ⟨missing, rfl⟩, rfl⟩
    exact ⟨⟨missing, noDefault, several⟩, rfl⟩

theorem mem_of_gridAt? {key : String} {entry : String × Grid}
    (found : config.gridAt? key = some entry) : entry ∈ config.grids.entries := by
  obtain ⟨grid, held, rfl⟩ := Option.map_eq_some_iff.mp found
  exact StringMap.mem_entries_iff.mpr held

theorem mem_of_selectGrid {entry : String × Grid}
    (selected : config.selectGrid attributes = .ok entry) : entry ∈ config.grids.entries := by
  have found : ((config.wantedGrid? attributes).bind config.gridAt?).or
      ((config.defaultGrid.bind config.gridAt?).or config.onlyGrid?) = some entry := by
    unfold selectGrid EvalFault.require at selected
    dsimp only at selected
    split at selected
    · cases selected
      assumption
    · cases selected
  rcases Option.or_eq_some_iff.mp found with wanted | ⟨_, found⟩
  · obtain ⟨key, _, found⟩ := Option.bind_eq_some_iff.mp wanted
    exact mem_of_gridAt? found
  · rcases Option.or_eq_some_iff.mp found with default | ⟨_, only⟩
    · obtain ⟨key, _, found⟩ := Option.bind_eq_some_iff.mp default
      exact mem_of_gridAt? found
    · unfold onlyGrid? at only
      split at only
      · rename_i entries
        cases only
        rw [entries]
        exact List.mem_singleton_self _
      · cases only

theorem GridsChecked.exists_cell (checked : config.GridsChecked) {entry : String × Grid}
    (member : entry ∈ config.grids.entries) {row column : Nat}
    (inRows : row < config.rowBands.length) (inColumns : column < config.columnBands.length) :
    ∃ cell, entry.2.cell? row column = some cell := by
  rw [← checked.rows entry member] at inRows
  rw [← checked.columns entry member _ (List.getElem_mem inRows)] at inColumns
  refine ⟨entry.2[row][column], ?_⟩
  rw [Grid.cell?, List.getElem?_eq_getElem inRows, Option.bind_some,
    List.getElem?_eq_getElem inColumns]

end MatrixLookup

/-! ## The fault of a configuration -/

def ComponentConfig.gridFault? (attributes : Attributes) : ComponentConfig → Option EvalFault
  | matrixLookup config => faultOf? (config.selectGrid attributes)
  | _ => none

private theorem bucketedRate_faultOf? {config : BucketedRate} (checked : config.Checked)
    (context : EntityContext) :
    faultOf? (config.evaluate context) =
      (context.metrics.fault? config.selector).or (context.metrics.fault? config.base) := by
  refine faultOf?_read_bind fun selected noted number => ?_
  -- Nothing fails behind the second metric: each place in the table has its bucket.
  rw [← (context.metrics.fault? config.base).or_none]
  refine faultOf?_read_bind fun base noted _ => ?_
  refine faultOf?_resolve_bind checked.ascending number fun found inTable => ?_
  rw [List.length_map] at inTable
  exact faultOf?_require_bind (List.getElem?_eq_getElem inTable)

/-- A checked configuration fails with the first fault of its metrics, in the order in which they
are read, or else with that of choosing a grid. -/
private theorem config_faultOf? {config : ComponentConfig} (checked : config.Checked)
    (context : EntityContext) :
    faultOf? (config.evaluate context) =
      (config.metrics.findSome? context.metrics.fault?).or
        (config.gridFault? context.attributes) := by
  have single (name : String) : [name].findSome? context.metrics.fault? =
      context.metrics.fault? name := by
    cases found : context.metrics.fault? name <;> simp [found]
  have pair (first second : String) : [first, second].findSome? context.metrics.fault? =
      (context.metrics.fault? first).or (context.metrics.fault? second) := by
    rw [List.findSome?_cons, single]
    cases context.metrics.fault? first <;> rfl
  cases config with
  | tierLookup config =>
      obtain ⟨ascending, _⟩ := checked
      rw [ComponentConfig.metrics, single]
      refine faultOf?_read_bind fun value noted number => ?_
      refine faultOf?_resolve_bind ascending number fun found inTable => ?_
      rw [List.length_map] at inTable
      exact faultOf?_require_bind (List.getElem?_eq_getElem inTable)
  | matrixLookup config =>
      obtain ⟨rowsAscending, columnsAscending, gridsChecked⟩ := checked
      rw [ComponentConfig.metrics, pair, Option.or_assoc]
      refine faultOf?_read_bind fun row noted rowNumber => ?_
      refine faultOf?_read_bind fun column noted columnNumber => ?_
      -- Nothing fails behind the choice of a grid: there is a cell for each pair of places.
      rw [← (ComponentConfig.gridFault? _ _).or_none]
      refine faultOf?_bind fun entry selected => ?_
      refine faultOf?_resolve_bind rowsAscending rowNumber fun rowFound inRows => ?_
      refine faultOf?_resolve_bind columnsAscending columnNumber fun columnFound inColumns => ?_
      obtain ⟨cell, found⟩ := gridsChecked.exists_cell
        (MatrixLookup.mem_of_selectGrid selected) inRows inColumns
      exact faultOf?_require_bind found
  | percentage config =>
      rw [ComponentConfig.metrics, single]
      refine faultOf?_read_bind fun base noted _ => ?_
      dsimp only
      split <;> rfl
  | conditionalPercentage config =>
      rw [ComponentConfig.metrics, pair]
      exact (bucketedRate_faultOf? checked context).trans Option.or_none.symm
  | percentageWithGate config =>
      rw [ComponentConfig.metrics, pair]
      exact (bucketedRate_faultOf? checked context).trans Option.or_none.symm
  | flatPercentage config =>
      rw [ComponentConfig.metrics, single]
      exact faultOf?_read_bind fun value noted _ => rfl

private theorem gridFault?_eq_some_iff {config : ComponentConfig} (checked : config.Checked)
    {attributes : Attributes} {fault : EvalFault} :
    config.gridFault? attributes = some fault ↔
      ∃ matrix key, config = .matrixLookup matrix ∧ 2 ≤ matrix.grids.size ∧
        matrix.defaultGrid = none ∧ matrix.Misses attributes key ∧
        fault = .gridNotFound key := by
  cases config with
  | matrixLookup matrix =>
      obtain ⟨_, _, gridsChecked⟩ := checked
      rw [ComponentConfig.gridFault?, faultOf?_eq_some_iff,
        MatrixLookup.selectGrid_eq_error_iff gridsChecked]
      simp
  | tierLookup | percentage | conditionalPercentage | percentageWithGate | flatPercentage =>
      simp [ComponentConfig.gridFault?]

private theorem failsWith_iff {component : Component} (valid : component.validate = .ok ())
    {context : EntityContext} {fault : EvalFault} :
    component.FailsWith context fault ↔ component.enabled = true ∧
      (component.config.metrics.findSome? context.metrics.fault?).or
        (component.config.gridFault? context.attributes) = some fault := by
  have readable : component.config.metrics.findSome? context.metrics.fault? = none ↔
      ∀ name ∈ component.config.metrics, context.metrics.IsReadable name := by
    simp only [List.findSome?_eq_none_iff, MetricMap.fault?_eq_none_iff]
  have checked := Component.checked_of_validate valid
  rw [Option.or_eq_some_iff, readable, gridFault?_eq_some_iff checked, List.findSome?_eq_some_iff]
  constructor
  · rintro (⟨enabled, named, before, found, infinite⟩ |
      ⟨enabled, readable, isMatrix, several, noDefault, misses⟩)
    · exact ⟨enabled, .inl ⟨_, _, _, named,
        MetricMap.fault?_eq_some_iff.mpr ⟨_, found, infinite, rfl⟩,
        fun earlier member => MetricMap.fault?_eq_none_iff.mpr (before earlier member)⟩⟩
    · exact ⟨enabled, .inr ⟨readable, _, _, isMatrix, several, noDefault, misses, rfl⟩⟩
  · rintro ⟨enabled, ⟨before, name, after, named, faulty, passed⟩ |
      ⟨readable, config, key, isMatrix, several, noDefault, misses, rfl⟩⟩
    · obtain ⟨value, found, infinite, rfl⟩ := MetricMap.fault?_eq_some_iff.mp faulty
      have readable := fun earlier member =>
        MetricMap.fault?_eq_none_iff.mp (passed earlier member)
      exact .metric enabled named readable found infinite
    · exact .grid enabled readable isMatrix several noDefault misses

private theorem evaluate_eq_error_iff {component : Component}
    (valid : component.validate = .ok ()) {context : EntityContext} {fault : EvalFault} :
    component.evaluate context = .error fault ↔ component.FailsWith context fault := by
  have checked := Component.checked_of_validate valid
  rw [failsWith_iff valid, ← config_faultOf? checked, faultOf?_eq_some_iff, Component.evaluate]
  cases component.enabled with
  | false => simp
  | true => cases component.config.evaluate context <;> simp

/-- For every metrics and attributes, a checked component fails just with a named metric that is no
finite number, the first one read, or with a grid that is not found; never for a table without the
place that is looked up. Its intent, at any index and after any payouts, fails with the same. -/
theorem Component.fails_exactly {component : Component} (valid : component.validate = .ok ())
    (context : EntityContext) :
    (∀ fault, component.evaluate context = .error fault ↔ component.FailsWith context fault) ∧
    component.evaluate context ≠ .error .emptyTable ∧
    ∀ index prior fault,
      (ComponentIntent.ofComponent component index).execute context prior = .error fault ↔
        component.FailsWith context fault := by
  refine ⟨fun fault => evaluate_eq_error_iff valid, fun failed => ?_, fun index prior fault => ?_⟩
  · nomatch (evaluate_eq_error_iff valid).mp failed
  · rw [Component.execute_eq_error_iff valid]
    exact evaluate_eq_error_iff valid

/-- A grid for each of two regions, and none for the rest. -/
def regionalMatrix : Component where
  id := "matrix"
  name := "Matrix"
  ordinal := 1
  enabled := true
  config := .matrixLookup
    { rowMetric := "revenue"
      columnMetric := "margin"
      rowBands := [⟨0.0, some 100.0, none⟩, ⟨100.0, none, none⟩]
      columnBands := [⟨0.0, none, none⟩]
      grids := .ofList [("north", [[1.0], [2.0]]), ("south", [[3.0], [4.0]])]
      gridAttribute := some "region"
      defaultGrid := none }

theorem regionalMatrix_fails :
    let west : EntityContext := ⟨.ofList [("revenue", 50.0)], .ofList [("region", "west")]⟩
    let spoiled : EntityContext := ⟨.ofList [("margin", 0.0 / 0.0)], .empty⟩
    regionalMatrix.validate = .ok () ∧
      regionalMatrix.FailsWith west (.gridNotFound "west") ∧
      (∀ index prior, (ComponentIntent.ofComponent regionalMatrix index).execute west prior =
        .error (.gridNotFound "west")) ∧
      regionalMatrix.FailsWith spoiled (.nonFiniteMetric "margin" (0.0 / 0.0)) := by
  intro west spoiled
  have valid : regionalMatrix.validate = .ok () := by decide +kernel
  have misses : regionalMatrix.FailsWith west (.gridNotFound "west") :=
    ((Component.fails_exactly valid west).1 _).mp (by decide +kernel)
  refine ⟨valid, misses, fun index prior => ?_, ?_⟩
  · exact ((Component.fails_exactly valid west).2.2 index prior _).mpr misses
  · exact ((Component.fails_exactly valid spoiled).1 _).mp (by decide +kernel)

end VariablePay
