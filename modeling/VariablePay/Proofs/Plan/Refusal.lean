import Mathlib.Data.Nat.Find
import VariablePay.Proofs.Plan.Bands

set_option autoImplicit false

/-!
# Which tables are accepted, and why others are refused

The checks of a table look at one band and its successor. Tables that pass them all are ordered as a
whole: each band ends before any later one starts. Of any other table the first check that fails, by
band and then by kind, decides the fault.
-/

namespace VariablePay.Band

/-- Bands with finite minima, each maximum above its own minimum. All but the last have a maximum,
at most the minimum of the next. -/
structure IsTable (bands : List Band) : Prop where
  nonempty : bands ≠ []
  finite : ∀ band ∈ bands, band.min.isFinite = true
  above : ∀ band ∈ bands, ∀ max, band.max = some max → band.min < max
  chained : bands.IsChain fun band next => ∃ max, band.max = some max ∧ max ≤ next.min

/-- The band ends where the later one starts, or before. -/
def EndsBefore (band later : Band) : Prop :=
  ∃ max, band.max = some max ∧ band.min < max ∧ max ≤ later.min

/-- The checks of a band, in their order. -/
inductive Check where
  | minimum
  | maximum
  | successor
  deriving DecidableEq

namespace Check

def rank : Check → Nat
  | minimum => 0
  | maximum => 1
  | successor => 2

/-- Whether a band passes a check, where `next?` is its successor. A successor whose minimum is not
a number starts below nothing: it fails the first check of its own. -/
def Passes (band : Band) (next? : Option Band) : Check → Prop
  | minimum => band.min.isFinite = true
  | maximum => (∀ max, band.max = some max → band.min < max) ∧ (band.max = none → next? = none)
  | successor => ∀ next, next? = some next →
      ¬ next.min < band.min ∧ ∀ max, band.max = some max → ¬ next.min < max

def fault (component : String) (index : Nat) (band : Band) (next? : Option Band) :
    Check → PlanFault
  | minimum => .invalidConfiguration component (.nonFiniteMin index)
  | maximum => .nonMonotonicBands component
      (match band.max with
        | some max => .maxNotAboveMin index max band.min
        | none => .unboundedBeforeLast index)
  | successor => .nonMonotonicBands component
      (match next?.filter fun next => decide (next.min < band.min) with
        | some next => .minBelowPrevious index next.min band.min
        | none => .overlapsNext index)

theorem eq_of_rank_eq {check other : Check} (same : check.rank = other.rank) : check = other := by
  cases check <;> cases other <;> first | rfl | cases same

end Check

/-- The check that a table fails first: those of earlier bands and the earlier ones of the same band
are passed. -/
structure FailsFirst (bands : List Band) (index : Nat) (check : Check) : Prop where
  fails : ∃ band, bands[index]? = some band ∧ ¬ check.Passes band bands[index + 1]?
  passes : ∀ (place : Nat) (other : Check),
    place < index ∨ place = index ∧ other.rank < check.rank →
    ∀ band, bands[place]? = some band → other.Passes band bands[place + 1]?

theorem FailsFirst.unique {bands : List Band} {index place : Nat} {check other : Check}
    (first : FailsFirst bands index check) (second : FailsFirst bands place other) :
    index = place ∧ check = other := by
  obtain ⟨band, stands, fails⟩ := first.fails
  obtain ⟨found, found_stands, failsToo⟩ := second.fails
  have notBefore : ¬ (index < place ∨ index = place ∧ check.rank < other.rank) := fun before =>
    fails (second.passes index check before band stands)
  have notAfter : ¬ (place < index ∨ place = index ∧ other.rank < check.rank) := fun after =>
    failsToo (first.passes place other after found found_stands)
  exact ⟨by omega, Check.eq_of_rank_eq (by omega)⟩

section Faults

variable (component : String) (index : Nat) (band : Band) (next? : Option Band)

private theorem fault?_of_passes (passes : ∀ check : Check, check.Passes band next?) :
    fault? component index band next? = none := by
  have finite : band.min.isFinite = true := passes .minimum
  obtain ⟨above, unbounded⟩ := passes .maximum
  have beside := passes .successor
  cases bounded : band.max with
  | none => simp [fault?, finite, bounded, unbounded bounded]
  | some max =>
      cases next? with
      | none => simp [fault?, finite, bounded, above max bounded]
      | some next =>
          obtain ⟨notBelow, apart⟩ := beside next rfl
          simp [fault?, finite, bounded, above max bounded, notBelow, apart max bounded]

private theorem fault?_of_fails {check : Check} (fails : ¬ check.Passes band next?)
    (passes : ∀ other : Check, other.rank < check.rank → other.Passes band next?) :
    fault? component index band next? = some (check.fault component index band next?) := by
  cases check with
  | minimum =>
      have infinite : band.min.isFinite = false := Bool.eq_false_iff.mpr fails
      simp [fault?, Check.fault, infinite]
  | maximum =>
      have finite : band.min.isFinite = true := passes .minimum (by decide)
      cases bounded : band.max with
      | none =>
          cases next? with
          | none => simp [Check.Passes, bounded] at fails
          | some next => simp [fault?, Check.fault, finite, bounded]
      | some max =>
          have notAbove : ¬ band.min < max := by simpa [Check.Passes, bounded] using fails
          simp [fault?, Check.fault, finite, bounded, notAbove]
  | successor =>
      have finite : band.min.isFinite = true := passes .minimum (by decide)
      obtain ⟨above, unbounded⟩ := passes .maximum (by decide)
      cases next? with
      | none => simp [Check.Passes] at fails
      | some next =>
          cases bounded : band.max with
          | none => cases unbounded bounded
          | some max =>
              have above := above max bounded
              by_cases below : next.min < band.min
              · simp [fault?, Check.fault, Option.filter, finite, bounded, above, below]
              · have overlaps : next.min < max := by
                  simpa [Check.Passes, bounded, below] using fails
                simp [fault?, Check.fault, Option.filter, finite, bounded, above, below, overlaps]

private theorem exists_first_failing (failing : ¬ ∀ check : Check, check.Passes band next?) :
    ∃ check : Check, ¬ check.Passes band next? ∧
      ∀ other : Check, other.rank < check.rank → other.Passes band next? := by
  by_cases finite : Check.minimum.Passes band next?
  · by_cases ordered : Check.maximum.Passes band next?
    · refine ⟨.successor, fun apart => failing ?_, ?_⟩
      · rintro (_ | _ | _)
        · exact finite
        · exact ordered
        · exact apart
      · rintro (_ | _ | _) before
        · exact finite
        · exact ordered
        · exact absurd before (by decide)
    · refine ⟨.maximum, ordered, ?_⟩
      rintro (_ | _ | _) before
      · exact finite
      · exact absurd before (by decide)
      · exact absurd before (by decide)
  · exact ⟨.minimum, finite, fun other before => absurd before (Nat.not_lt_zero _)⟩

end Faults

private theorem firstFault?_of_first {component : String} {fault : PlanFault} {bands : List Band}
    {place : Nat} {band : Band} (stands : bands[place]? = some band) :
    ∀ start, fault? component (start + place) band bands[place + 1]? = some fault →
      (∀ earlier found, earlier < place → bands[earlier]? = some found →
        fault? component (start + earlier) found bands[earlier + 1]? = none) →
      firstFault? component start bands = some fault := by
  induction bands generalizing place with
  | nil => cases stands
  | cons head rest ih =>
      -- Places count from the head of what is left, indices in faults from the first band.
      intro start faulty passed
      rw [firstFault?, List.head?_eq_getElem?]
      cases place with
      | zero =>
          cases stands
          exact Option.or_eq_some_iff.mpr (.inl faulty)
      | succ place =>
          have headPassed : fault? component start head rest[0]? = none :=
            passed 0 head (Nat.succ_pos place) rfl
          rw [headPassed, Option.none_or]
          refine ih stands (start + 1) (by rwa [Nat.add_right_comm]) fun earlier found before => ?_
          have passed := passed (earlier + 1) found (Nat.succ_lt_succ before)
          rwa [Nat.add_right_comm]

private theorem firstFault?_of_none {component : String} {bands : List Band} :
    ∀ start, (∀ place band, bands[place]? = some band →
        fault? component (start + place) band bands[place + 1]? = none) →
      firstFault? component start bands = none := by
  induction bands with
  | nil => simp [firstFault?]
  | cons head rest ih =>
      intro start passed
      rw [firstFault?, List.head?_eq_getElem?]
      refine Option.or_eq_none_iff.mpr ⟨passed 0 head rfl, ih (start + 1) fun place band => ?_⟩
      have passed := passed (place + 1) band
      rwa [Nat.add_right_comm]

private theorem exists_failsFirst {bands : List Band}
    (failing : ∃ place band, bands[place]? = some band ∧
      ¬ ∀ check : Check, check.Passes band bands[place + 1]?) :
    ∃ index check, FailsFirst bands index check := by
  classical
  -- The first band that fails one of its checks, and of these the first.
  obtain ⟨band, stands, fails⟩ := Nat.find_spec failing
  obtain ⟨check, fails, passes⟩ := exists_first_failing _ _ fails
  refine ⟨Nat.find failing, check, ⟨band, stands, fails⟩, ?_⟩
  rintro place other (before | ⟨rfl, before⟩) found foundStands
  · by_contra failsToo
    exact Nat.find_min failing before
      ⟨found, foundStands, fun passes => failsToo (passes other)⟩
  · cases stands.symm.trans foundStands
    exact passes other before

private theorem FailsFirst.validate_eq {component : String} {bands : List Band} {index : Nat}
    {check : Check} (first : FailsFirst bands index check) {band : Band}
    (stands : bands[index]? = some band) :
    validate component bands = .error (check.fault component index band bands[index + 1]?) := by
  obtain ⟨found, foundStands, fails⟩ := first.fails
  cases stands.symm.trans foundStands
  have faulty : fault? component index band bands[index + 1]? =
      some (check.fault component index band bands[index + 1]?) :=
    fault?_of_fails component index band _ fails fun other before =>
      first.passes index other (.inr ⟨rfl, before⟩) band stands
  have earlier : ∀ place found, place < index → bands[place]? = some found →
      fault? component place found bands[place + 1]? = none := fun place found before stands =>
    fault?_of_passes component place found _ fun other =>
      first.passes place other (.inl before) found stands
  have decided := firstFault?_of_first stands 0 (by rwa [Nat.zero_add]) (by simpa using earlier)
  cases bands with
  | nil => cases stands
  | cons head rest => simp [validate, refuse?, decided]

/-- A refused table has no bands, or is refused for the check that it fails first. -/
theorem validate_eq_error_iff (component : String) (bands : List Band) (fault : PlanFault) :
    validate component bands = .error fault ↔
      bands = [] ∧ fault = .invalidConfiguration component .noBands ∨
      ∃ index check band, FailsFirst bands index check ∧ bands[index]? = some band ∧
        fault = check.fault component index band bands[index + 1]? := by
  constructor
  · intro refused
    cases bands with
    | nil =>
        cases refused
        exact .inl ⟨rfl, rfl⟩
    | cons head rest =>
        refine .inr ?_
        have failing : ∃ place band, (head :: rest)[place]? = some band ∧
            ¬ ∀ check : Check, check.Passes band (head :: rest)[place + 1]? := by
          by_contra passing
          simp only [not_exists, not_and, not_not] at passing
          have accepted : firstFault? component 0 (head :: rest) = none :=
            firstFault?_of_none 0 fun place band stands =>
              fault?_of_passes component (0 + place) band _ (passing place band stands)
          simp [validate, refuse?, accepted] at refused
        obtain ⟨index, check, first⟩ := exists_failsFirst failing
        obtain ⟨band, stands, _⟩ := first.fails
        rw [first.validate_eq stands] at refused
        exact ⟨index, check, band, first, stands, (Except.error.inj refused).symm⟩
  · rintro (⟨rfl, rfl⟩ | ⟨index, check, band, first, stands, rfl⟩)
    · rfl
    · exact first.validate_eq stands

namespace Ascending

variable {bands : List Band}

theorem isTable (ascending : Ascending bands) : IsTable bands := by
  induction ascending with
  | last finite above =>
      exact ⟨List.cons_ne_nil _ _, by simpa, by simpa, .singleton _⟩
  | next finite bounded above before _ ih =>
      refine ⟨List.cons_ne_nil _ _, List.forall_mem_cons.mpr ⟨finite, ih.finite⟩,
        List.forall_mem_cons.mpr ⟨fun max given => ?_, ih.above⟩,
        ih.chained.cons_cons ⟨_, bounded, before⟩⟩
      cases bounded.symm.trans given
      exact above

theorem pairwise_endsBefore (ascending : Ascending bands) : bands.Pairwise EndsBefore := by
  induction ascending with
  | last => exact List.pairwise_singleton _ _
  | next _ bounded above before _ ih =>
      refine List.pairwise_cons.mpr ⟨fun later member => ?_, ih⟩
      rcases List.mem_cons.mp member with rfl | inRest
      · exact ⟨_, bounded, above, before⟩
      · -- Between the end of the band and the later one lies the next band, minimum to maximum.
        obtain ⟨end_, _, nextAbove, nextBefore⟩ := List.rel_of_pairwise_cons ih inRest
        exact ⟨_, bounded, above,
          Double.le_trans before (Double.le_trans (Double.le_of_lt nextAbove) nextBefore)⟩

end Ascending

theorem IsTable.ascending {bands : List Band} (table : IsTable bands) : Ascending bands := by
  obtain ⟨nonempty, finite, above, chained⟩ := table
  induction chained with
  | nil => exact absurd rfl nonempty
  | singleton band => exact .last (finite band (by simp)) (above band (by simp))
  | @cons_cons band next rest bounded _ ih =>
      obtain ⟨max, bounded, before⟩ := bounded
      obtain ⟨headFinite, restFinite⟩ := List.forall_mem_cons.mp finite
      obtain ⟨headAbove, restAbove⟩ := List.forall_mem_cons.mp above
      exact .next headFinite bounded (headAbove max bounded) before
        (ih (List.cons_ne_nil _ _) restFinite restAbove)

namespace EndsBefore

variable {band later : Band}

theorem min_lt (ends : EndsBefore band later) : band.min < later.min := by
  obtain ⟨max, _, above, before⟩ := ends
  exact Double.lt_of_lt_of_le above before

theorem apart (ends : EndsBefore band later) (value : Float) :
    ¬ (band.contains value = true ∧ later.contains value = true) := by
  obtain ⟨max, bounded, _, before⟩ := ends
  rintro ⟨inBand, inLater⟩
  simp only [contains, bounded, Option.all_some, Bool.and_eq_true, decide_eq_true_eq]
    at inBand inLater
  exact Double.not_le_of_lt (Double.lt_of_lt_of_le inBand.2 before) inLater.1

end EndsBefore

/-- Validation accepts just the tables, whose minima increase strictly and whose bands have no value
in common. It refuses others as misconfigured if there are no bands or the first check that fails is
that of a minimum, and as out of order otherwise. -/
theorem validate_decides (component : String) (bands : List Band) :
    (validate component bands = .ok () ↔ IsTable bands) ∧
    (IsTable bands → bands.Pairwise (fun band later => band.min < later.min) ∧
      bands.Pairwise fun band later => ∀ value,
        ¬ (band.contains value = true ∧ later.contains value = true)) ∧
    ∀ fault, validate component bands = .error fault →
      ((bands = [] ∨ ∃ index, FailsFirst bands index .minimum) →
        ∃ reason, fault = .invalidConfiguration component reason) ∧
      (¬ (bands = [] ∨ ∃ index, FailsFirst bands index .minimum) →
        ∃ reason, fault = .nonMonotonicBands component reason) := by
  refine ⟨?_, fun table => ?_, fun fault refused => ?_⟩
  · rw [validate_eq_ok_iff]
    exact ⟨Ascending.isTable, IsTable.ascending⟩
  · have ordered := table.ascending.pairwise_endsBefore
    exact ⟨ordered.imp EndsBefore.min_lt, ordered.imp EndsBefore.apart⟩
  · rcases (validate_eq_error_iff component bands fault).mp refused with
      ⟨rfl, rfl⟩ | ⟨index, check, band, first, stands, rfl⟩
    · exact ⟨fun _ => ⟨_, rfl⟩, fun given => absurd (.inl rfl) given⟩
    · cases check with
      | minimum => exact ⟨fun _ => ⟨_, rfl⟩, fun given => absurd (.inr ⟨index, first⟩) given⟩
      | maximum | successor =>
          refine ⟨?_, fun _ => ⟨_, rfl⟩⟩
          rintro (rfl | ⟨place, other⟩)
          · cases stands
          · cases (first.unique other).2

/-- Bands of which the second starts nowhere. -/
def spoiledBands : List Band := [⟨0.0, some 10.0, none⟩, ⟨0.0 / 0.0, none, none⟩]

theorem spoiledBands_refused :
    ∃ fault, validate "bonus" spoiledBands = .error fault ∧
      FailsFirst spoiledBands 1 .minimum ∧
      ∃ reason, fault = .invalidConfiguration "bonus" reason := by
  have refused : validate "bonus" spoiledBands =
      .error (.invalidConfiguration "bonus" (.nonFiniteMin 1)) := by decide +kernel
  have first : FailsFirst spoiledBands 1 .minimum := by
    refine ⟨⟨_, rfl, by unfold Check.Passes; decide +kernel⟩, ?_⟩
    rintro place other (before | ⟨_, before⟩) band stands
    · obtain rfl : place = 0 := Nat.lt_one_iff.mp before
      cases stands
      cases other with
      | minimum => unfold Check.Passes; decide +kernel
      | maximum =>
          refine ⟨fun max given => ?_, nofun⟩
          cases given
          decide +kernel
      | successor =>
          intro next isNext
          cases isNext
          refine ⟨by decide +kernel, fun max given => ?_⟩
          cases given
          decide +kernel
    · exact absurd before (Nat.not_lt_zero _)
  exact ⟨_, refused, first,
    ((validate_decides "bonus" spoiledBands).2.2 _ refused).1 (.inr ⟨1, first⟩)⟩

end VariablePay.Band
