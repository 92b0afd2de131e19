import VariablePay.Intent.Execution
import VariablePay.Proofs.Plan.Bands

set_option autoImplicit false

/-!
# The search for a branch

Halving counts the boundaries that a value has reached whenever those come before all others. For
the boundaries of an ascending table the branch is then the place of the band that the value
resolves to.
-/

namespace VariablePay.Boundaries

variable {boundaries : Boundaries} {value : Float} {count : Nat}

/-- The last reached position among the `size` positions from `base` on, or `base` itself. -/
private theorem narrow_eq
    (reached : ∀ index, boundaries.isReached value index = decide (index < count)) :
    ∀ size base, 0 < size →
      boundaries.narrow value size base = max base (min (count - 1) (base + size - 1)) := by
  intro size
  induction size using Nat.strongRecOn with
  | ind size ih =>
      intro base positive
      rw [narrow]
      split
      · rename_i several
        have smaller : size - size / 2 < size := by omega
        have rest := ih (size - size / 2) smaller
        simp only [reached, decide_eq_true_eq]
        split
        · rw [rest _ (by omega)]
          omega
        · rw [rest _ (by omega)]
          omega
      · omega

theorem reachedCount_eq
    (reached : ∀ index, boundaries.isReached value index = decide (index < count))
    (bounded : count ≤ boundaries.lower.length) : boundaries.reachedCount value = count := by
  cases empty : boundaries.lower with
  | nil =>
      rw [empty] at bounded
      simp only [reachedCount, empty, List.isEmpty_nil, if_true]
      exact (Nat.le_zero.mp bounded).symm
  | cons first rest =>
      rw [empty] at bounded
      have narrowed := narrow_eq reached (rest.length + 1) 0 (Nat.succ_pos _)
      simp only [reachedCount, empty, List.isEmpty_cons, Bool.false_eq_true, if_false,
        List.length_cons, narrowed, reached, decide_eq_true_eq]
      simp only [List.length_cons] at bounded
      split <;> omega

private theorem isReached_ofBands {bands : List Band} (ascending : Band.Ascending bands)
    (index : Nat) :
    (ofBands bands).isReached value index = decide (index < Band.startedCount value bands) := by
  rw [← ascending.starts_iff_lt_startedCount index]
  simp only [isReached, ofBands, List.getElem?_map, Option.any_map]

/-- In the boundaries of an ascending table every value falls in the branch of the last band that
starts at or below it, or else in the first. -/
theorem branchOf_ofBands {bands : List Band} (ascending : Band.Ascending bands) :
    (ofBands bands).branchOf value = .ok (Band.startedCount value bands - 1) := by
  have counted : (ofBands bands).reachedCount value = Band.startedCount value bands :=
    reachedCount_eq (isReached_ofBands ascending)
      (by simpa [ofBands] using Band.startedCount_le_length)
  cases bands with
  | nil => nomatch ascending
  | cons first rest =>
      rw [branchOf, counted]
      exact if_neg Bool.false_ne_true

end VariablePay.Boundaries
