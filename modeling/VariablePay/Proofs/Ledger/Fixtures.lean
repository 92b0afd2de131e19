import VariablePay.CommandLine.Fixture
import VariablePay.Proofs.Ledger.Loads
import VariablePay.Proofs.Ledger.Rewriting

set_option autoImplicit false

/-!
# What the import of a fixture leaves

Each part of a fixture is written to a table of its own. An import succeeds just if the tables are
there, every assignment is to a rule set that is kept by then, and every density is a number; and
then it leaves the tables with its rows written to them. So an import that has succeeded succeeds
again, and leaves everything as it is.
-/

namespace VariablePay

theorem Activity.bind_yields_ok_iff {ε σ α β : Type} {activity : Activity ε σ α}
    {next : α → Activity ε σ β} {before after : σ} {value : β} :
    (Activity.bind activity next).Yields before (.ok value) after ↔
      ∃ first middle, activity.Yields before (.ok first) middle ∧
        (next first).Yields middle (.ok value) after :=
  ⟨Yields.exists_of_bind, fun ⟨_, _, first, rest⟩ => first.bind rest⟩

namespace Ledger

/-- A table of a ledger, with the ledger that has other rows in it. -/
structure Place (α : Type) where
  table : Ledger → Table α
  fill : Ledger → Table α → Ledger
  table_fill : ∀ ledger rows, table (fill ledger rows) = rows
  fill_fill : ∀ ledger rows later, fill (fill ledger rows) later = fill ledger later
  fill_table : ∀ ledger, fill ledger (table ledger) = ledger

namespace Place

def ruleSets : Place RuleSetRow where
  table := Ledger.ruleSets
  fill ledger rows := { ledger with ruleSets := rows }
  table_fill _ _ := rfl
  fill_fill _ _ _ := rfl
  fill_table _ := rfl

def assignments : Place AssignmentRow where
  table := Ledger.assignments
  fill ledger rows := { ledger with assignments := rows }
  table_fill _ _ := rfl
  fill_fill _ _ _ := rfl
  fill_table _ := rfl

def densities : Place DensityRow where
  table := Ledger.densities
  fill ledger rows := { ledger with densities := rows }
  table_fill _ _ := rfl
  fill_fill _ _ _ := rfl
  fill_table _ := rfl

variable {α β : Type}

/-- Activities that each write one row to a table. They need the table, and allow an item or not
whatever is in the table. -/
structure IsWrittenBy (place : Place α) (activity : β → LedgerActivity Unit)
    (allows : β → Ledger → Prop) (row : β → α) (write : List α → α → List α) : Prop where
  yields_ok_iff : ∀ item before after, (activity item).Yields before (.ok ()) after ↔
    ((place.table before).isSome = true ∧ allows item before) ∧
      after = place.fill before ((place.table before).map fun rows => write rows (row item))
  allows_fill : ∀ item ledger rows, allows item (place.fill ledger rows) ↔ allows item ledger

/-- Activities that read the table and then write one row to what they have read. -/
theorem isWrittenBy_of_reads {place : Place α} {activity : β → LedgerActivity Unit}
    {allows : β → Ledger → Prop} {row : β → α} {write : List α → α → List α}
    {next : β → List α → LedgerActivity Unit}
    (reads : ∀ item, activity item = Activity.bind (rowsOf place.table) (next item))
    (writes : ∀ item rows before after, (next item rows).Yields before (.ok ()) after ↔
      allows item before ∧ after = place.fill before (some (write rows (row item))))
    (allows_fill : ∀ item ledger rows, allows item (place.fill ledger rows) ↔ allows item ledger) :
    place.IsWrittenBy activity allows row write where
  allows_fill := allows_fill
  yields_ok_iff item before after := by
    rw [reads, Activity.bind_yields_ok_iff]
    constructor
    · rintro ⟨rows, middle, found, written⟩
      obtain ⟨present, rfl⟩ := eq_some_of_rowsOf found
      obtain ⟨allowed, filled⟩ := (writes item rows middle after).mp written
      rw [present]
      exact ⟨⟨rfl, allowed⟩, filled⟩
    · rintro ⟨⟨isThere, allowed⟩, filled⟩
      obtain ⟨rows, present⟩ := Option.isSome_iff_exists.mp isThere
      rw [present] at filled
      exact ⟨rows, before, rowsOf_yields present,
        (writes item rows before after).mpr ⟨allowed, filled⟩⟩

/-- To write several rows is to write one after the other. -/
theorem IsWrittenBy.forEach_yields_ok_iff {place : Place α} {activity : β → LedgerActivity Unit}
    {allows : β → Ledger → Prop} {row : β → α} {write : List α → α → List α}
    (written : place.IsWrittenBy activity allows row write) (items : List β)
    (before after : Ledger) :
    (Activity.forEach activity items).Yields before (.ok ()) after ↔
      (∀ item ∈ items, (place.table before).isSome = true ∧ allows item before) ∧
        after = place.fill before
          ((place.table before).map fun rows => (items.map row).foldl write rows) := by
  induction items generalizing before with
  | nil =>
      have unchanged : place.fill before
          ((place.table before).map fun rows => ([].map row).foldl write rows) = before :=
        (congrArg (place.fill before) Option.map_id').trans (place.fill_table before)
      rw [unchanged]
      exact ⟨fun yields => ⟨nofun, yields.state.symm⟩, fun ⟨_, same⟩ => ⟨rfl, same.symm⟩⟩
  | cons item rest ih =>
      have first := written.yields_ok_iff item before
      -- What the first row leaves needs and leaves the same for the others.
      have needs (middle : Ledger) (filled : middle = place.fill before
          ((place.table before).map fun rows => write rows (row item))) (other : β) :
          (place.table middle).isSome = true ∧ allows other middle ↔
            (place.table before).isSome = true ∧ allows other before := by
        rw [filled, place.table_fill, Option.isSome_map, written.allows_fill]
      have leaves (middle : Ledger) (filled : middle = place.fill before
          ((place.table before).map fun rows => write rows (row item))) :
          place.fill middle
              ((place.table middle).map fun rows => (rest.map row).foldl write rows) =
            place.fill before ((place.table before).map fun rows =>
              ((item :: rest).map row).foldl write rows) := by
        rw [filled, place.table_fill, place.fill_fill, Option.map_map]
        rfl
      rw [Activity.forEach, Activity.bind_yields_ok_iff, List.forall_mem_cons]
      constructor
      · rintro ⟨_, middle, done, later⟩
        obtain ⟨allowed, filled⟩ := (first middle).mp done
        obtain ⟨laterAllowed, rfl⟩ := (ih middle).mp later
        exact ⟨⟨allowed, fun other member => (needs middle filled other).mp
          (laterAllowed other member)⟩, leaves middle filled⟩
      · rintro ⟨⟨allowed, laterAllowed⟩, rfl⟩
        refine ⟨(), _, (first _).mpr ⟨allowed, rfl⟩, (ih _).mpr ⟨fun other member => ?_, ?_⟩⟩
        · exact (needs _ rfl other).mpr (laterAllowed other member)
        · exact (leaves _ rfl).symm

end Place

/-! ## What is written -/

def keptRuleSet (tenantId : String) (ruleSet : RuleSet) : RuleSetRow :=
  ⟨ruleSet.id, tenantId, ruleSet.name, (RuleSet.codec .number).write ruleSet⟩

/-- A density as it is kept that has never been seen. -/
def seededDensity (tenantId : String) (entry : String × Float) : DensityRow :=
  ⟨tenantId, entry.1, (realColumn entry.2).getD 0.0, ExecutionMode.verify.name, .ofCount 0⟩

/-- Whether an assignment takes the place of an older one. -/
def replacesAssignment (row old : AssignmentRow) : Bool :=
  old.ruleSetId == row.ruleSetId && old.tenantId == row.tenantId && old.entityId == row.entityId

/-- Whether a density takes the place of an older one. -/
def replacesDensity (row old : DensityRow) : Bool := isDensityOf row.tenantId row.signature old

def KeepsRuleSet (ledger : Ledger) (ruleSetId : String) : Prop :=
  ∃ rows, ledger.ruleSets = some rows ∧ (rows.any fun row => row.id == ruleSetId) = true

theorem modify_yields_ok_iff {change : Ledger → Ledger} {before after : Ledger} :
    (Activity.modify change : LedgerActivity Unit).Yields before (.ok ()) after ↔
      after = change before :=
  ⟨fun changed => changed.state.symm, fun same => ⟨rfl, same.symm⟩⟩

theorem ruleSets_isWrittenBy (tenantId : String) :
    Place.ruleSets.IsWrittenBy (insertRuleSet tenantId) (fun _ _ => True) (keptRuleSet tenantId)
      (put RuleSetRow.id) := by
  refine Place.isWrittenBy_of_reads (fun _ => rfl) (fun ruleSet rows before after => ?_)
    fun _ _ _ => .rfl
  rw [true_and]
  exact modify_yields_ok_iff

theorem assignments_isWrittenBy (tenantId : String) :
    Place.assignments.IsWrittenBy
      (fun assignment : Assignment => assign assignment.ruleSetId tenantId assignment.entity)
      (fun assignment ledger => ledger.KeepsRuleSet assignment.ruleSetId)
      (fun assignment => keptAssignment assignment.ruleSetId tenantId assignment.entity)
      (moveLast replacesAssignment) := by
  refine Place.isWrittenBy_of_reads (fun _ => rfl) (fun assignment rows before after => ?_)
    fun _ _ _ => .rfl
  constructor
  · intro yields
    obtain ⟨ruleSets, middle, found, written⟩ := yields.exists_of_bind
    obtain ⟨present, rfl⟩ := eq_some_of_rowsOf found
    split at written
    · rename_i kept
      exact ⟨⟨ruleSets, present, kept⟩, modify_yields_ok_iff.mp written⟩
    · cases written.result
  · rintro ⟨⟨ruleSets, present, kept⟩, filled⟩
    refine (rowsOf_yields present).bind ?_
    rw [if_pos kept]
    exact modify_yields_ok_iff.mpr filled

theorem densities_isWrittenBy (tenantId : String) :
    Place.densities.IsWrittenBy
      (fun entry : String × Float => seedDensity tenantId entry.1 entry.2)
      (fun entry _ => entry.2.isNaN = false) (seededDensity tenantId)
      (moveLast replacesDensity) := by
  refine Place.isWrittenBy_of_reads (fun _ => rfl) (fun entry rows before after => ?_)
    fun _ _ _ => .rfl
  cases number : realColumn entry.2 with
  | none =>
      rw [requiredReal_eq_fail number, realColumn_eq_none_iff.mp number]
      refine iff_of_false (fun written => ?_) nofun
      cases (written.unique (Activity.Yields.bind_error (.fail _))).1
  | some kept =>
      have isNumber : entry.2.isNaN = false := by
        rw [← Bool.not_eq_true, ← realColumn_eq_none_iff, number]
        nofun
      have row : seededDensity tenantId entry =
          ⟨tenantId, entry.1, kept, ExecutionMode.verify.name, .ofCount 0⟩ := by
        rw [seededDensity, number, Option.getD_some]
      rw [requiredReal_eq number, row]
      exact ⟨fun written => ⟨isNumber, written.state.symm⟩, fun written => ⟨rfl, written.2.symm⟩⟩

theorem replacesAssignment_self (row : AssignmentRow) : replacesAssignment row row = true := by
  simp [replacesAssignment]

theorem replacesDensity_self (row : DensityRow) : replacesDensity row row = true := by
  simp [replacesDensity, isDensityOf]

/-- Rows of a period that are replaced by themselves stay as they are. -/
theorem replacedRows_again (tenantId periodId : String) (rows : List MetricRow)
    (kept : List KeptMetricRow) :
    (kept.filter (fun row => !isOfPeriod tenantId periodId row) ++
          rows.map (keptRow tenantId periodId)).filter
        (fun row => !isOfPeriod tenantId periodId row) ++ rows.map (keptRow tenantId periodId) =
      kept.filter (fun row => !isOfPeriod tenantId periodId row) ++
        rows.map (keptRow tenantId periodId) := by
  have noneStays : (rows.map (keptRow tenantId periodId)).filter
      (fun row => !isOfPeriod tenantId periodId row) = [] := by
    simp [List.filter_eq_nil_iff, isOfPeriod, keptRow]
  rw [List.filter_append, List.filter_filter, noneStays, List.append_nil]
  simp only [Bool.and_self]

theorem replaceRows_yields_ok_iff (tenantId periodId : String) (rows : List MetricRow)
    (before after : Ledger) :
    (∃ count, (replaceRows tenantId periodId rows).Yields before (.ok count) after) ↔
      before.metricRows.isSome = true ∧ after = { before with
        metricRows := before.metricRows.map fun kept =>
          kept.filter (fun row => !isOfPeriod tenantId periodId row) ++
            rows.map (keptRow tenantId periodId) } := by
  unfold replaceRows
  constructor
  · rintro ⟨count, yields⟩
    obtain ⟨kept, middle, found, written⟩ := yields.exists_of_bind
    obtain ⟨present, rfl⟩ := eq_some_of_rowsOf found
    refine ⟨Option.isSome_of_eq_some present, written.state.symm.trans ?_⟩
    rw [present]
    rfl
  · rintro ⟨isThere, rfl⟩
    obtain ⟨kept, present⟩ := Option.isSome_iff_exists.mp isThere
    rw [present]
    exact ⟨_, (rowsOf_yields present).bind ⟨rfl, rfl⟩⟩

end Ledger

/-! ## Fixtures -/

namespace Fixture

open Ledger

variable (fixture : Fixture) {before after : Ledger}

def withRuleSets (ledger : Ledger) : Ledger :=
  { ledger with
    ruleSets := ledger.ruleSets.map fun rows =>
      (fixture.ruleSets.map (keptRuleSet fixture.tenantId)).foldl (put RuleSetRow.id) rows }

def withAssignments (ledger : Ledger) : Ledger :=
  { ledger with
    assignments := ledger.assignments.map fun rows =>
      (fixture.assignments.map fun assignment =>
        keptAssignment assignment.ruleSetId fixture.tenantId assignment.entity).foldl
          (moveLast replacesAssignment) rows }

/-- The ledger with the rows of a fixture in the place of those of the period. -/
def withPeriod (ledger : Ledger) : Ledger :=
  { ledger with
    metricRows := ledger.metricRows.map fun kept =>
      kept.filter (fun row => !isOfPeriod fixture.tenantId fixture.periodId row) ++
        fixture.rows.map (keptRow fixture.tenantId fixture.periodId) }

def withDensities (ledger : Ledger) : Ledger :=
  { ledger with
    densities := ledger.densities.map fun rows =>
      (fixture.priorDensity.entries.map (seededDensity fixture.tenantId)).foldl
        (moveLast replacesDensity) rows }

def written (ledger : Ledger) : Ledger :=
  fixture.withDensities (fixture.withPeriod (fixture.withAssignments (fixture.withRuleSets ledger)))

/-- What the import of a fixture needs: the tables that it writes to, the rule sets that it assigns
to, among its own or kept before, and densities that are numbers. -/
structure IsAdmittedTo (ledger : Ledger) : Prop where
  ruleSets : ∀ ruleSet ∈ fixture.ruleSets, ledger.ruleSets.isSome = true
  assignments : ∀ assignment ∈ fixture.assignments, ledger.assignments.isSome = true ∧
    (fixture.withRuleSets ledger).KeepsRuleSet assignment.ruleSetId
  metricRows : ledger.metricRows.isSome = true
  densities : ∀ entry ∈ fixture.priorDensity.entries,
    ledger.densities.isSome = true ∧ entry.2.isNaN = false

/-- An import succeeds just with what it needs, and then the rows of the fixture are written. -/
theorem load_yields_ok_iff :
    fixture.load.Yields before (.ok ()) after ↔
      fixture.IsAdmittedTo before ∧ after = fixture.written before := by
  have ruleSets := (ruleSets_isWrittenBy fixture.tenantId).forEach_yields_ok_iff fixture.ruleSets
  have assignments :=
    (assignments_isWrittenBy fixture.tenantId).forEach_yields_ok_iff fixture.assignments
  have densities :=
    (densities_isWrittenBy fixture.tenantId).forEach_yields_ok_iff fixture.priorDensity.entries
  constructor
  · intro loaded
    obtain ⟨_, first, ruleSetsLoaded, loaded⟩ := loaded.exists_of_bind
    obtain ⟨ruleSetsNeed, rfl⟩ := (ruleSets before first).mp ruleSetsLoaded
    obtain ⟨_, second, assignmentsLoaded, loaded⟩ := loaded.exists_of_bind
    obtain ⟨assignmentsNeed, rfl⟩ := (assignments _ second).mp assignmentsLoaded
    obtain ⟨count, third, rowsLoaded, densitiesLoaded⟩ := loaded.exists_of_bind
    obtain ⟨rowsNeed, rfl⟩ := (replaceRows_yields_ok_iff _ _ _ _ third).mp ⟨count, rowsLoaded⟩
    obtain ⟨densitiesNeed, rfl⟩ := (densities _ after).mp densitiesLoaded
    exact ⟨⟨fun ruleSet member => (ruleSetsNeed ruleSet member).1, assignmentsNeed, rowsNeed,
      densitiesNeed⟩, rfl⟩
  · rintro ⟨needs, rfl⟩
    have ruleSetsLoaded := (ruleSets before (fixture.withRuleSets before)).mpr
      ⟨fun ruleSet member => ⟨needs.ruleSets ruleSet member, trivial⟩, rfl⟩
    have assignmentsLoaded := (assignments (fixture.withRuleSets before)
      (fixture.withAssignments (fixture.withRuleSets before))).mpr ⟨needs.assignments, rfl⟩
    obtain ⟨count, rowsLoaded⟩ := (replaceRows_yields_ok_iff fixture.tenantId fixture.periodId
      fixture.rows (fixture.withAssignments (fixture.withRuleSets before)) _).mpr
        ⟨needs.metricRows, rfl⟩
    have densitiesLoaded := (densities (fixture.withPeriod
      (fixture.withAssignments (fixture.withRuleSets before))) (fixture.written before)).mpr
        ⟨needs.densities, rfl⟩
    exact ruleSetsLoaded.bind (assignmentsLoaded.bind (rowsLoaded.bind densitiesLoaded))

theorem withRuleSets_withRuleSets (ledger : Ledger) :
    fixture.withRuleSets (fixture.withRuleSets ledger) = fixture.withRuleSets ledger := by
  simp only [withRuleSets, Option.map_map, Function.comp_def, foldl_put_again]

theorem written_written (ledger : Ledger) :
    fixture.written (fixture.written ledger) = fixture.written ledger := by
  simp only [written, withRuleSets, withAssignments, withPeriod, withDensities, Option.map_map,
    Function.comp_def, foldl_put_again, foldl_moveLast_again replacesAssignment_self,
    foldl_moveLast_again replacesDensity_self, replacedRows_again]

theorem isAdmittedTo_written {ledger : Ledger} (admitted : fixture.IsAdmittedTo ledger) :
    fixture.IsAdmittedTo (fixture.written ledger) where
  ruleSets ruleSet member := Option.isSome_map.trans (admitted.ruleSets ruleSet member)
  assignments assignment member := by
    obtain ⟨isThere, rows, present, kept⟩ := admitted.assignments assignment member
    refine ⟨Option.isSome_map.trans isThere, rows, ?_, kept⟩
    exact (congrArg Ledger.ruleSets (fixture.withRuleSets_withRuleSets ledger)).trans present
  metricRows := Option.isSome_map.trans admitted.metricRows
  densities entry member :=
    ⟨Option.isSome_map.trans (admitted.densities entry member).1,
      (admitted.densities entry member).2⟩

/-- An import that succeeds succeeds again, and leaves everything as it is. -/
theorem load_yields_again (loaded : fixture.load.Yields before (.ok ()) after) :
    fixture.load.Yields after (.ok ()) after := by
  obtain ⟨admitted, rfl⟩ := fixture.load_yields_ok_iff.mp loaded
  exact fixture.load_yields_ok_iff.mpr
    ⟨fixture.isAdmittedTo_written admitted, (fixture.written_written before).symm⟩

end Fixture

end VariablePay
