import VariablePay.Plan.Validation
import VariablePay.Proofs.Double.Order

set_option autoImplicit false

/-!
# Tables of bands that pass validation

Validation accepts exactly the ascending tables. In such a table the bands that start at or below
a value come before all others, and only the last of them can contain the value.
-/

namespace VariablePay.Band

/-- Bands with finite minima, each maximum above its own minimum and at most the next minimum.
Only the last band may be without a maximum. -/
inductive Ascending : List Band → Prop where
  | last {band : Band} (finite : band.min.isFinite = true)
      (above : ∀ max, band.max = some max → band.min < max) : Ascending [band]
  | next {band next : Band} {rest : List Band} {max : Float} (finite : band.min.isFinite = true)
      (bounded : band.max = some max) (above : band.min < max) (before : max ≤ next.min)
      (ascending : Ascending (next :: rest)) : Ascending (band :: next :: rest)

theorem Ascending.min_isFinite {first : Band} {rest : List Band}
    (ascending : Ascending (first :: rest)) : first.min.isFinite = true := by
  cases ascending with
  | last finite => exact finite
  | next finite => exact finite

private theorem fault?_last_eq_none_iff (component : String) (index : Nat) (band : Band) :
    fault? component index band none = none ↔
      band.min.isFinite = true ∧ ∀ max, band.max = some max → band.min < max := by
  cases finite : band.min.isFinite with
  | false => simp [fault?, finite]
  | true =>
      cases bounded : band.max with
      | none => simp [fault?, finite, bounded]
      | some max =>
          by_cases above : band.min < max <;> simp [fault?, finite, bounded, above]

private theorem fault?_next_eq_none_iff (component : String) (index : Nat) (band next : Band)
    (nextFinite : next.min.isFinite = true) :
    fault? component index band (some next) = none ↔
      band.min.isFinite = true ∧
        ∃ max, band.max = some max ∧ band.min < max ∧ max ≤ next.min := by
  have nextNumber := Double.isNaN_of_isFinite nextFinite
  cases finite : band.min.isFinite with
  | false => simp [fault?, finite]
  | true =>
      cases bounded : band.max with
      | none => simp [fault?, finite, bounded]
      | some max =>
          by_cases above : band.min < max
          · have maxNumber := ((Double.lt_iff _ _).mp above).2.1
            have notLess : ¬ next.min < max ↔ max ≤ next.min :=
              Double.not_lt_iff nextNumber maxNumber
            by_cases before : max ≤ next.min
            · have notBelow : ¬ next.min < band.min := fun below =>
                Double.not_le_of_lt below (Double.le_trans (Double.le_of_lt above) before)
              simp [fault?, finite, bounded, above, before, notBelow, notLess]
            · have overlaps : next.min < max := (Double.not_le_iff maxNumber nextNumber).mp before
              by_cases below : next.min < band.min <;>
                simp [fault?, finite, bounded, above, before, below, overlaps]
          · simp [fault?, finite, bounded, above]

private theorem firstFault?_eq_none_iff (component : String) (first : Band) (rest : List Band) :
    ∀ index, firstFault? component index (first :: rest) = none ↔ Ascending (first :: rest) := by
  induction rest generalizing first with
  | nil =>
      intro index
      rw [firstFault?, Option.or_eq_none_iff]
      simp only [List.head?_nil, fault?_last_eq_none_iff, firstFault?, and_true]
      constructor
      · intro ⟨finite, above⟩
        exact .last finite above
      · intro ascending
        cases ascending with
        | last finite above => exact ⟨finite, above⟩
  | cons next rest ih =>
      intro index
      rw [firstFault?, Option.or_eq_none_iff, ih next (index + 1), List.head?_cons]
      constructor
      · intro ⟨noFault, ascending⟩
        obtain ⟨finite, max, bounded, above, before⟩ :=
          (fault?_next_eq_none_iff component index first next ascending.min_isFinite).mp noFault
        exact .next finite bounded above before ascending
      · intro ascending
        cases ascending with
        | next finite bounded above before ascending =>
            exact ⟨(fault?_next_eq_none_iff component index first next
              ascending.min_isFinite).mpr ⟨finite, _, bounded, above, before⟩, ascending⟩

/-- Validation accepts exactly the ascending tables. -/
theorem validate_eq_ok_iff (component : String) (bands : List Band) :
    validate component bands = .ok () ↔ Ascending bands := by
  cases bands with
  | nil =>
      simp only [validate, List.isEmpty_nil, if_true]
      exact ⟨fun impossible => (nomatch impossible), fun ascending => (nomatch ascending)⟩
  | cons first rest =>
      rw [← firstFault?_eq_none_iff component first rest 0]
      cases fault : firstFault? component 0 (first :: rest) <;>
        simp [validate, refuse?, fault]

/-- The number of bands before the first that starts above the value. -/
def startedCount (value : Float) (bands : List Band) : Nat :=
  (bands.takeWhile fun band => decide (band.min ≤ value)).length

variable {value : Float} {first : Band} {rest bands : List Band}

theorem startedCount_cons_of_le (starts : first.min ≤ value) :
    startedCount value (first :: rest) = startedCount value rest + 1 := by
  simp [startedCount, starts]

theorem startedCount_cons_of_not_le (notStarts : ¬ first.min ≤ value) :
    startedCount value (first :: rest) = 0 := by
  simp [startedCount, notStarts]

theorem startedCount_le_length : startedCount value bands ≤ bands.length :=
  (List.takeWhile_sublist _).length_le

namespace Ascending

/-- Below the maximum of the first band no later band starts. -/
private theorem startedCount_rest_of_lt_max (ascending : Ascending (first :: rest))
    (below : first.max.all fun max => decide (value < max)) : startedCount value rest = 0 := by
  cases ascending with
  | last => rfl
  | next _ bounded _ before =>
      simp only [bounded, Option.all_some, decide_eq_true_eq] at below
      exact startedCount_cons_of_not_le
        (Double.not_le_of_lt (Double.lt_of_lt_of_le below before))

private theorem min_le_of_startedCount_pos (ascending : Ascending (first :: rest))
    (started : 0 < startedCount value rest) : first.min ≤ value := by
  cases ascending with
  | last => simp [startedCount] at started
  | @next _ next _ _ _ _ above before =>
      by_cases starts : next.min ≤ value
      · exact Double.le_trans (Double.le_trans (Double.le_of_lt above) before) starts
      · rw [startedCount_cons_of_not_le starts] at started
        exact absurd started (Nat.lt_irrefl 0)

/-- Exactly the bands at positions below the count start at or below the value. -/
theorem starts_iff_lt_startedCount (ascending : Ascending bands) :
    ∀ index, (bands[index]?.any fun band => decide (band.min ≤ value)) =
      decide (index < startedCount value bands) := by
  induction ascending with
  | @last band =>
      intro index
      by_cases starts : band.min ≤ value <;> cases index with
      | zero => simp [startedCount, starts]
      | succ index => simp [startedCount, starts]
  | @next band next rest max finite bounded above before ascending ih =>
      intro index
      have whole : Ascending (band :: next :: rest) := .next finite bounded above before ascending
      by_cases starts : band.min ≤ value
      · rw [startedCount_cons_of_le starts]
        cases index with
        | zero => simp [starts]
        | succ index => simpa using ih index
      · have noneStarted : startedCount value (next :: rest) = 0 :=
          Nat.eq_zero_of_not_pos fun started =>
            starts (whole.min_le_of_startedCount_pos started)
        rw [startedCount_cons_of_not_le starts]
        cases index with
        | zero => simp [starts]
        | succ index => simpa [noneStarted] using ih index

theorem lastStarted?_eq (ascending : Ascending bands) (value : Float) :
    lastStarted? value bands =
      if startedCount value bands = 0 then none else some (startedCount value bands - 1) := by
  induction ascending with
  | @last band => by_cases starts : band.min ≤ value <;> simp [lastStarted?, startedCount, starts]
  | @next band next rest max finite bounded above before ascending ih =>
      have whole : Ascending (band :: next :: rest) := .next finite bounded above before ascending
      rw [lastStarted?, ih]
      by_cases noneStarted : startedCount value (next :: rest) = 0
      · rw [if_pos noneStarted]
        by_cases starts : band.min ≤ value
        · simp [starts, startedCount_cons_of_le starts, noneStarted]
        · simp [starts, startedCount_cons_of_not_le starts]
      · have starts := whole.min_le_of_startedCount_pos (Nat.pos_of_ne_zero noneStarted)
        rw [if_neg noneStarted, startedCount_cons_of_le starts]
        simp only [Nat.add_eq_zero_iff, Nat.one_ne_zero, and_false, if_false, Option.some.injEq]
        omega

/-- The band that contains a value is the last that starts at or below it. -/
theorem startedCount_of_contains (ascending : Ascending bands) {index : Nat} {found : Band}
    (stands : bands[index]? = some found) (contains : found.contains value = true) :
    startedCount value bands = index + 1 := by
  have covers {band : Band} {rest : List Band} (whole : Ascending (band :: rest))
      (contains : band.contains value = true) : startedCount value (band :: rest) = 1 := by
    simp only [Band.contains, Bool.and_eq_true, decide_eq_true_eq] at contains
    rw [startedCount_cons_of_le contains.1, whole.startedCount_rest_of_lt_max contains.2]
  induction ascending generalizing index with
  | @last band finite above =>
      cases index with
      | zero =>
          obtain rfl : band = found := by simpa using stands
          exact covers (.last finite above) contains
      | succ index => cases stands
  | @next band next rest max finite bounded above before ascending ih =>
      have whole : Ascending (band :: next :: rest) := .next finite bounded above before ascending
      cases index with
      | zero =>
          obtain rfl : band = found := by simpa using stands
          exact covers whole contains
      | succ index =>
          have started := ih stands
          have starts :=
            whole.min_le_of_startedCount_pos (by rw [started]; exact Nat.succ_pos index)
          rw [startedCount_cons_of_le starts, started]

end Ascending

end VariablePay.Band
