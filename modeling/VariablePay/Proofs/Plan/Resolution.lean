import VariablePay.Proofs.Plan.Bands

set_option autoImplicit false

/-!
# Resolution in a table

A value lies below the first band of an ascending table, or at or past the end of the last, or in
the table between them, where gaps are. The clamp that comes with a band tells the three apart. In
each of them a value resolves to the last band that starts at or below it, or else to the first
band; so a larger value never resolves to an earlier band.
-/

namespace VariablePay.Band

variable {value : Float} {bands : List Band}

/-- Whether the first band of a table starts above the value. -/
def StartsAbove (bands : List Band) (value : Float) : Prop :=
  ∃ first, bands.head? = some first ∧ value < first.min

/-- Whether the last band of a table ends at or below the value. -/
def EndsBy (bands : List Band) (value : Float) : Prop :=
  ∃ last max, bands.getLast? = some last ∧ last.max = some max ∧ max ≤ value

namespace Ascending

theorem length_pos (ascending : Ascending bands) : 0 < bands.length := by
  cases ascending <;> exact Nat.succ_pos _

theorem min_lt_max (ascending : Ascending bands) {band : Band} (member : band ∈ bands)
    {max : Float} (bounded : band.max = some max) : band.min < max := by
  induction ascending with
  | last _ above =>
      cases List.mem_singleton.mp member
      exact above max bounded
  | next _ nextBounded above _ _ ih =>
      rcases List.mem_cons.mp member with rfl | later
      · cases nextBounded.symm.trans bounded
        exact above
      · exact ih later

theorem min_le_iff (ascending : Ascending bands) {index : Nat} {band : Band}
    (stands : bands[index]? = some band) :
    band.min ≤ value ↔ index < startedCount value bands := by
  have started : (bands[index]?.any fun band => decide (band.min ≤ value)) =
      decide (index < startedCount value bands) := ascending.starts_iff_lt_startedCount index
  simpa [stands] using started

theorem startedCount_of_startsAbove (above : StartsAbove bands value) :
    startedCount value bands = 0 := by
  obtain ⟨first, isFirst, less⟩ := above
  cases bands with
  | nil => cases isFirst
  | cons head rest =>
      cases isFirst
      exact startedCount_cons_of_not_le (Double.not_le_of_lt less)

theorem startedCount_of_endsBy (ascending : Ascending bands) (ends : EndsBy bands value) :
    startedCount value bands = bands.length := by
  obtain ⟨last, max, isLast, bounded, reached⟩ := ends
  have least := ascending.min_lt_max (List.mem_of_getLast? isLast) bounded
  rw [List.getLast?_eq_getElem?] at isLast
  have started := (ascending.min_le_iff isLast).mp (Double.le_trans (Double.le_of_lt least) reached)
  have bound : startedCount value bands ≤ bands.length := startedCount_le_length
  omega

/-- Outside of the table no band contains the value. -/
private theorem findIdx?_eq_none (ascending : Ascending bands)
    (outside : StartsAbove bands value ∨ EndsBy bands value) :
    (bands.findIdx? fun band => band.contains value) = none := by
  refine List.findIdx?_eq_none_iff.mpr fun band member => Bool.eq_false_iff.mpr fun contains => ?_
  obtain ⟨index, stands⟩ := List.mem_iff_getElem?.mp member
  have started := ascending.startedCount_of_contains stands contains
  rcases outside with above | ends
  · rw [startedCount_of_startsAbove above] at started
    cases started
  · -- The band would be the last, and end above the value.
    have whole := ascending.startedCount_of_endsBy ends
    obtain ⟨last, max, isLast, bounded, reached⟩ := ends
    have place : bands.length - 1 = index := by omega
    rw [List.getLast?_eq_getElem?, place, stands] at isLast
    cases isLast
    simp only [Band.contains, bounded, Option.all_some, Bool.and_eq_true, decide_eq_true_eq]
      at contains
    exact Double.not_le_of_lt contains.2 reached

/-- A value that the last band starts below and does not contain lies past its end. -/
private theorem endsBy_of_started (ascending : Ascending bands) (number : value.isNaN = false)
    (whole : startedCount value bands = bands.length)
    (noneContains : (bands.findIdx? fun band => band.contains value) = none) :
    EndsBy bands value := by
  have inTable : bands.length - 1 < bands.length := by
    have positive := ascending.length_pos
    omega
  obtain ⟨last, stands⟩ : ∃ last, bands[bands.length - 1]? = some last :=
    ⟨_, List.getElem?_eq_getElem inTable⟩
  have member := List.mem_of_getElem? stands
  have starts : last.min ≤ value := (ascending.min_le_iff stands).mpr (by omega)
  have notContained := List.findIdx?_eq_none_iff.mp noneContains last member
  cases bounded : last.max with
  | none => simp [contains, starts, bounded] at notContained
  | some max =>
      have notLess : ¬ value < max := by simpa [contains, starts, bounded] using notContained
      have maxNumber := ((Double.lt_iff _ _).mp (ascending.min_lt_max member bounded)).2.1
      exact ⟨last, max, List.getLast?_eq_getElem?.trans stands, bounded,
        (Double.not_lt_iff number maxNumber).mp notLess⟩

theorem resolve?_of_startsAbove (ascending : Ascending bands) (above : StartsAbove bands value) :
    resolve? bands value = some (matched bands 0 (some .below)) := by
  have noneContains := ascending.findIdx?_eq_none (.inl above)
  obtain ⟨first, isFirst, less⟩ := above
  cases bands with
  | nil => cases isFirst
  | cons head rest =>
      cases isFirst
      simp [resolve?, noneContains, less]

theorem resolve?_of_endsBy (ascending : Ascending bands) (ends : EndsBy bands value) :
    resolve? bands value = some (matched bands (bands.length - 1) (some .above)) := by
  have noneContains := ascending.findIdx?_eq_none (.inr ends)
  have whole := ascending.startedCount_of_endsBy ends
  have lastStarted := ascending.lastStarted?_eq value
  cases bands with
  | nil => nomatch ascending
  | cons first rest =>
      have notBelow : ¬ value < first.min := fun below => by
        rw [startedCount_of_startsAbove ⟨first, rfl, below⟩] at whole
        cases whole
      simp [resolve?, noneContains, notBelow, lastStarted, whole]

theorem resolve?_of_inside (ascending : Ascending bands) (number : value.isNaN = false)
    (notAbove : ¬ StartsAbove bands value) (notEnded : ¬ EndsBy bands value) :
    resolve? bands value = some (matched bands (startedCount value bands - 1) none) := by
  have lastStarted := ascending.lastStarted?_eq value
  cases bands with
  | nil => nomatch ascending
  | cons first rest =>
      have notBelow : ¬ value < first.min := fun below => notAbove ⟨first, rfl, below⟩
      have starts := (Double.not_lt_iff number
        (Double.isNaN_of_isFinite ascending.min_isFinite)).mp notBelow
      have started : 0 < startedCount value (first :: rest) :=
        (ascending.min_le_iff List.getElem?_cons_zero).mp starts
      cases found : (first :: rest).findIdx? fun band => band.contains value with
      | some index =>
          obtain ⟨inTable, contains, _⟩ := List.findIdx?_eq_some_iff_getElem.mp found
          have count :=
            ascending.startedCount_of_contains (List.getElem?_eq_getElem inTable) contains
          simp [resolve?, found, count]
      | none =>
          have notLast : startedCount value (first :: rest) - 1 ≠ rest.length := fun atLast => by
            refine notEnded (ascending.endsBy_of_started number ?_ found)
            rw [List.length_cons]
            omega
          simp [resolve?, found, notBelow, lastStarted, started.ne', notLast]

end Ascending

/-- What an ascending table makes of a value. -/
structure Resolves (bands : List Band) (value : Float) (found : MatchedBand) : Prop where
  /-- The band starts at or below the value, or is the first. -/
  stands : ∃ band, bands[found.index]? = some band ∧ found.label = band.label ∧
    (band.min ≤ value ∨ found.index = 0)
  /-- No later band starts at or below the value. -/
  latest : ∀ index band, bands[index]? = some band → band.min ≤ value → index ≤ found.index
  below : found.clamped = some .below ↔ StartsAbove bands value
  above : found.clamped = some .above ↔ EndsBy bands value
  /-- No other band contains the value. -/
  covers : ∀ index band, bands[index]? = some band → band.contains value = true →
    index = found.index

namespace Ascending

/-- The band of a value, and the clamp that comes with it. -/
theorem resolve?_eq (ascending : Ascending bands) (number : value.isNaN = false) :
    ∃ clamped, resolve? bands value =
        some (matched bands (startedCount value bands - 1) clamped) ∧
      (clamped = some .below ↔ StartsAbove bands value) ∧
      (clamped = some .above ↔ EndsBy bands value) := by
  by_cases above : StartsAbove bands value
  · have noneStarted := startedCount_of_startsAbove above
    have notEnded : ¬ EndsBy bands value := fun ends => by
      have whole := ascending.startedCount_of_endsBy ends
      have positive := ascending.length_pos
      omega
    refine ⟨some .below, ?_, by simp [above], by simp [notEnded]⟩
    rw [ascending.resolve?_of_startsAbove above, noneStarted]
  · by_cases ends : EndsBy bands value
    · refine ⟨some .above, ?_, by simp [above], by simp [ends]⟩
      rw [ascending.resolve?_of_endsBy ends, ascending.startedCount_of_endsBy ends]
    · exact ⟨none, ascending.resolve?_of_inside number above ends, by simp [above], by simp [ends]⟩

theorem exists_resolves (ascending : Ascending bands) (number : value.isNaN = false) :
    ∃ found, resolve? bands value = some found ∧ Resolves bands value found := by
  obtain ⟨clamped, resolved, below, above⟩ := ascending.resolve?_eq number
  refine ⟨_, resolved, ?_⟩
  constructor
  case stands =>
    have positive := ascending.length_pos
    have bound : startedCount value bands ≤ bands.length := startedCount_le_length
    have inTable : startedCount value bands - 1 < bands.length := by omega
    have stands := List.getElem?_eq_getElem inTable
    refine ⟨_, stands, by simp [matched, stands], ?_⟩
    rw [ascending.min_le_iff stands]
    change startedCount value bands - 1 < startedCount value bands ∨
      startedCount value bands - 1 = 0
    omega
  case latest =>
    intro index band stands starts
    have started := (ascending.min_le_iff stands).mp starts
    exact Nat.le_sub_one_of_lt started
  case below => exact below
  case above => exact above
  case covers =>
    intro index band stands contains
    rw [matched, ascending.startedCount_of_contains stands contains]
    rfl

theorem startedCount_mono (ascending : Ascending bands) {lower upper : Float}
    (ordered : lower ≤ upper) : startedCount lower bands ≤ startedCount upper bands := by
  by_contra fewer
  rw [Nat.not_le] at fewer
  have bound : startedCount lower bands ≤ bands.length := startedCount_le_length
  have stands := List.getElem?_eq_getElem (Nat.lt_of_lt_of_le fewer bound)
  -- The band behind those that have started for the larger value has started for the smaller one.
  have starts := (ascending.min_le_iff stands).mpr fewer
  have started := (ascending.min_le_iff stands).mp (Double.le_trans starts ordered)
  exact Nat.lt_irrefl _ started

end Ascending

/-- In a table that passes validation every number resolves to the last band that starts at or below
it, or else to the first, clamped just when it lies outside of the table; and larger numbers resolve
to no earlier bands. Tables of tiers and of rate buckets are resolved as tables of their bands. -/
theorem resolve?_of_validate {component : String} {bands : List Band}
    (accepted : validate component bands = .ok ()) :
    (∀ value : Float, value.isNaN = false →
      ∃ found, resolve? bands value = some found ∧ Resolves bands value found) ∧
    ∀ lower upper : Float, lower ≤ upper → ∀ left right,
      resolve? bands lower = some left → resolve? bands upper = some right →
        left.index ≤ right.index := by
  have ascending := (validate_eq_ok_iff component bands).mp accepted
  refine ⟨fun value number => ascending.exists_resolves number, ?_⟩
  intro lower upper ordered left right leftResolved rightResolved
  obtain ⟨lowerNumber, upperNumber⟩ := Double.isNaN_of_le ordered
  obtain ⟨_, leftFound, _⟩ := ascending.resolve?_eq lowerNumber
  obtain ⟨_, rightFound, _⟩ := ascending.resolve?_eq upperNumber
  cases leftResolved.symm.trans leftFound
  cases rightResolved.symm.trans rightFound
  exact Nat.sub_le_sub_right (ascending.startedCount_mono ordered) 1

/-- Tiers with a gap, and without values from 40 on. -/
def gappedTiers : List Tier := [
  ⟨⟨0.0, some 10.0, some "low"⟩, 1.0⟩,
  ⟨⟨10.0, some 20.0, some "middle"⟩, 2.0⟩,
  ⟨⟨30.0, some 40.0, none⟩, 3.0⟩]

theorem gappedTiers_resolve :
    let bands := gappedTiers.map Tier.toBand
    validate "bonus" bands = .ok () ∧
      (∃ found, resolve? bands 25.0 = some found ∧ found = ⟨1, some "middle", none⟩ ∧
        Resolves bands 25.0 found) ∧
      ∃ left right, resolve? bands 25.0 = some left ∧ resolve? bands 40.0 = some right ∧
        right.clamped = some .above ∧ left.index ≤ right.index := by
  intro bands
  have accepted : validate "bonus" bands = .ok () := by decide +kernel
  have atGap : resolve? bands 25.0 = some ⟨1, some "middle", none⟩ := by decide +kernel
  have atEnd : resolve? bands 40.0 = some ⟨2, none, some .above⟩ := by decide +kernel
  obtain ⟨resolves, ordered⟩ := resolve?_of_validate accepted
  refine ⟨accepted, ?_, _, _, atGap, atEnd, rfl,
    ordered 25.0 40.0 (by decide +kernel) _ _ atGap atEnd⟩
  obtain ⟨found, resolved, holds⟩ := resolves 25.0 (by decide +kernel)
  cases resolved.symm.trans atGap
  exact ⟨_, atGap, rfl, holds⟩

end VariablePay.Band
