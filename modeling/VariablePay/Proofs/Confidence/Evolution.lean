import VariablePay.Proofs.Confidence.Blend
import VariablePay.Proofs.Confidence.Tallies
import VariablePay.Store.Memory

set_option autoImplicit false

/-!
# Densities over runs

Each run writes its new densities back, and the next run starts from them. Whatever the first run
starts from and whatever the runs see, each new density is a score between the density before the
run and the match ratio of the run; and as long as a pattern agrees, its mode does not fall.
-/

namespace VariablePay

open Double

/-- How much confidence a mode stands for. -/
def ExecutionMode.rank (mode : ExecutionMode) : Nat := ExecutionMode.all.idxOf mode

/-- Whether all events of a pattern agree. -/
def AllAgree (events : List ConfidenceEvent) (signature : Signature) : Prop :=
  ∀ event ∈ events, event.signature = signature → event.agrees = true

/-- Whether no event of a pattern agrees. -/
def NoneAgrees (events : List ConfidenceEvent) (signature : Signature) : Prop :=
  ∀ event ∈ events, event.signature = signature → event.agrees = false

namespace Density

def updatesOf (density : Density) (config : DensityConfig) (events : List ConfidenceEvent) :
    List DensityUpdate :=
  ((Surface.ofDensity density).append events).updates config

/-- The density that a run leaves: its new densities are written back. -/
def afterRun (config : DensityConfig) (density : Density) (events : List ConfidenceEvent) :
    Density :=
  MemoryStore.updated density (density.updatesOf config events)

def afterRuns (config : DensityConfig) (density : Density) (runs : List (List ConfidenceEvent)) :
    Density :=
  runs.foldl (afterRun config) density

end Density

/-- An update that follows the events of a run from the density before it. -/
structure DensityUpdate.Follows (update : DensityUpdate) (config : DensityConfig)
    (density : Density) (events : List ConfidenceEvent) : Prop where
  priorDensity : update.priorDensity = density.cleaned.get? update.signature
  matchRatio : some update.matchRatio =
    share? (events.countP fun event => event.signature == update.signature && event.agrees)
      (events.countP fun event => event.signature == update.signature)
  isScore : IsScore update.newDensity
  between : update.base config ≤ update.newDensity ∧ update.newDensity ≤ update.matchRatio ∨
    update.matchRatio ≤ update.newDensity ∧ update.newDensity ≤ update.base config
  allAgree : AllAgree events update.signature →
    update.base config ≤ update.newDensity ∧ update.anomalous = false
  noneAgrees : NoneAgrees events update.signature → update.newDensity ≤ update.base config

section

variable {config : DensityConfig} {density : Density} {events : List ConfidenceEvent}
  {signature : Signature} {update : DensityUpdate}

/-- Every update of a run is that of a pattern that occurs in it. -/
theorem Density.update_of_mem (member : update ∈ density.updatesOf config events) :
    update.signature ∈ events.map ConfidenceEvent.signature ∧
      update = config.update density.cleaned update.signature
        (Surface.tallyOf events update.signature) := by
  obtain ⟨⟨signature, tally⟩, counted, rfl⟩ := List.mem_map.mp member
  have found := StringMap.mem_entries_iff.mp counted
  change (Surface.talliesOf events).get? signature = some tally at found
  rw [Surface.get?_talliesOf] at found
  split at found
  · rename_i occurs
    cases found
    exact ⟨occurs, rfl⟩
  · cases found

theorem Density.mode_of_mem (member : update ∈ density.updatesOf config events) :
    update.mode = config.modeOf update.anomalous update.newDensity := by
  obtain ⟨_, made⟩ := Density.update_of_mem member
  rw [made]
  rfl

/-- A pattern that occurs in a run has an update. -/
theorem Density.exists_update (density : Density) (config : DensityConfig)
    (occurs : signature ∈ events.map ConfidenceEvent.signature) :
    ∃ update ∈ density.updatesOf config events, update.signature = signature := by
  have counted : (Surface.talliesOf events).get? signature =
      some (Surface.tallyOf events signature) := by
    rw [Surface.get?_talliesOf, if_pos occurs]
  exact ⟨_, List.mem_map.mpr ⟨_, StringMap.mem_entries_iff.mpr counted, rfl⟩, rfl⟩

namespace Surface

theorem observations_pos (occurs : signature ∈ events.map ConfidenceEvent.signature) :
    0 < (tallyOf events signature).observations := by
  obtain ⟨event, member, rfl⟩ := List.mem_map.mp occurs
  exact List.countP_pos_iff.mpr ⟨event, member, beq_self_eq_true _⟩

theorem hits_le_observations (events : List ConfidenceEvent) (signature : Signature) :
    (tallyOf events signature).hits ≤ (tallyOf events signature).observations :=
  List.countP_mono_left fun _ _ both => (Bool.and_eq_true_iff.mp both).1

theorem observations_le_length (events : List ConfidenceEvent) (signature : Signature) :
    (tallyOf events signature).observations ≤ events.length := List.countP_le_length

/-- A pattern that occurs has a match ratio, which a column keeps as it is. -/
theorem exists_ratio (occurs : signature ∈ events.map ConfidenceEvent.signature)
    (fits : events.length < 2 ^ 64) :
    ∃ ratio, share? (tallyOf events signature).hits (tallyOf events signature).observations =
      some ratio ∧ IsUnsigned ratio := by
  have positive := observations_pos occurs
  exact ⟨_, if_pos positive, isUnsigned_share positive (hits_le_observations events signature)
    (Nat.lt_of_le_of_lt (observations_le_length events signature) fits)⟩

theorem hits_of_allAgree (agree : AllAgree events signature) :
    (tallyOf events signature).hits = (tallyOf events signature).observations := by
  refine List.countP_congr fun event member => ?_
  rw [Bool.and_eq_true, beq_iff_eq]
  exact ⟨And.left, fun same => ⟨same, agree event member same⟩⟩

theorem hits_of_noneAgrees (none : NoneAgrees events signature) :
    (tallyOf events signature).hits = 0 := by
  refine List.countP_eq_zero.mpr fun event member both => ?_
  rw [Bool.and_eq_true, beq_iff_eq] at both
  have disagrees := none event member both.1
  rw [both.2] at disagrees
  cases disagrees

end Surface

theorem DensityConfig.Valid.isScore_base (valid : config.Valid) (density : Density)
    (signature : Signature) :
    IsScore ((density.cleaned.get? signature).getD config.initialDensity) := by
  cases prior : density.cleaned.get? signature with
  | none => exact valid.initialDensity
  | some score => exact Density.isScore_of_cleaned prior

/-- An update whose numbers a column keeps as they are. -/
structure DensityUpdate.IsUnsigned (update : DensityUpdate) : Prop where
  newDensity : VariablePay.IsUnsigned update.newDensity
  matchRatio : VariablePay.IsUnsigned update.matchRatio

theorem DensityConfig.isUnsigned_of_mem (accepted : config.validate = .ok ())
    (fits : events.length < 2 ^ 64) (member : update ∈ density.updatesOf config events) :
    update.IsUnsigned := by
  obtain ⟨occurs, made⟩ := Density.update_of_mem member
  generalize update.signature = signature at occurs made
  obtain rfl := made
  obtain ⟨ratio, found, unsigned⟩ := Surface.exists_ratio occurs fits
  have valid := valid_of_validate accepted
  unfold DensityConfig.update
  rw [found]
  exact ⟨blend_isUnsigned valid (decay_pos_of_validate accepted)
    (valid.isScore_base density signature) unsigned, unsigned⟩

/-- What an update of a run says, under settings that passed their checks. -/
theorem DensityConfig.Valid.follows (valid : config.Valid) (fits : events.length < 2 ^ 64)
    (member : update ∈ density.updatesOf config events) :
    update.Follows config density events := by
  obtain ⟨occurs, made⟩ := Density.update_of_mem member
  generalize update.signature = signature at occurs made
  obtain rfl := made
  have positive := Surface.observations_pos occurs
  have counted : (Surface.tallyOf events signature).observations < 2 ^ 64 :=
    Nat.lt_of_le_of_lt (Surface.observations_le_length events signature) fits
  obtain ⟨ratio, found, ⟨ratioScore, _⟩⟩ := Surface.exists_ratio occurs fits
  have baseScore := valid.isScore_base density signature
  unfold DensityConfig.update
  rw [found]
  constructor
  case priorDensity => rfl
  case matchRatio => exact found.symm
  case isScore => exact blend_isScore valid baseScore ratioScore
  case between => exact blend_between valid baseScore ratioScore
  case allAgree =>
    intro agree
    rw [Surface.hits_of_allAgree agree, share?_self positive counted] at found
    cases found
    exact ⟨(blend_of_le valid baseScore ratioScore baseScore.le_one).1,
      isAnomalous_one valid fun prior found => Density.isScore_of_cleaned found⟩
  case noneAgrees =>
    intro none
    rw [Surface.hits_of_noneAgrees none, share?_zero positive counted] at found
    cases found
    exact (blend_of_ge valid baseScore ratioScore baseScore.nonneg).2

namespace Density

/-- What is written back of a pattern is its last update; without one it keeps its density. -/
theorem get?_updated (density : Density) (updates : List DensityUpdate) (signature : Signature) :
    (∃ update ∈ updates, update.signature = signature ∧
        (MemoryStore.updated density updates).get? signature = some update.newDensity) ∨
      (∀ update ∈ updates, update.signature ≠ signature) ∧
        (MemoryStore.updated density updates).get? signature = density.get? signature := by
  induction updates using List.reverseRecOn with
  | nil => exact .inr ⟨nofun, rfl⟩
  | append_singleton updates last ih =>
      have written : MemoryStore.updated density (updates ++ [last]) =
          (MemoryStore.updated density updates).insert last.signature last.newDensity := by
        unfold MemoryStore.updated
        rw [List.foldl_append, List.foldl_cons, List.foldl_nil]
      rw [written, StringMap.get?_insert]
      by_cases same : signature = last.signature
      · rw [if_pos same]
        exact .inl ⟨last, List.mem_append_right _ (List.mem_singleton_self last), same.symm, rfl⟩
      · rw [if_neg same]
        rcases ih with ⟨update, member, isSame, found⟩ | ⟨others, found⟩
        · exact .inl ⟨update, List.mem_append_left _ member, isSame, found⟩
        · refine .inr ⟨fun update member => ?_, found⟩
          rcases List.mem_append.mp member with earlier | isLast
          · exact others update earlier
          · rw [List.mem_singleton.mp isLast]
            exact Ne.symm same

/-- The new density of a pattern is what the next run starts from. -/
theorem get?_afterRun (member : update ∈ density.updatesOf config events) :
    (density.afterRun config events).get? update.signature = some update.newDensity := by
  rcases density.get?_updated (density.updatesOf config events) update.signature with
    ⟨other, otherMember, same, found⟩ | ⟨others, _⟩
  · have made := (update_of_mem member).2
    have otherMade := (update_of_mem otherMember).2
    rw [same] at otherMade
    rwa [otherMade.trans made.symm] at found
  · exact absurd rfl (others update member)

theorem updatesOf_cleaned (density : Density) :
    density.cleaned.updatesOf config events = density.updatesOf config events := by
  unfold updatesOf Surface.ofDensity
  rw [cleaned_cleaned]

/-- The density of a run becomes another one: the patterns that occur have what the run makes of
them, and all others have what they had. -/
structure Becomes (density : Density) (config : DensityConfig) (events : List ConfidenceEvent)
    (later : Density) : Prop where
  occurring : ∀ signature ∈ events.map ConfidenceEvent.signature, later.get? signature =
    some (config.update density signature (Surface.tallyOf events signature)).newDensity
  others : ∀ signature ∉ events.map ConfidenceEvent.signature,
    later.get? signature = density.get? signature
  kept : ∀ signature ∈ density.keys, signature ∈ later.keys

theorem becomes_afterRun (valid : config.Valid) (fits : events.length < 2 ^ 64)
    (density : Density) :
    density.cleaned.Becomes config events (density.afterRun config events).cleaned := by
  have occurring : ∀ signature ∈ events.map ConfidenceEvent.signature,
      (density.afterRun config events).cleaned.get? signature =
        some (config.update density.cleaned signature
          (Surface.tallyOf events signature)).newDensity := by
    intro signature occurs
    obtain ⟨update, member, rfl⟩ := density.exists_update config occurs
    rw [← (update_of_mem member).2]
    exact cleaned_of_isScore (valid.follows fits member).isScore (get?_afterRun member)
  have others : ∀ signature ∉ events.map ConfidenceEvent.signature,
      (density.afterRun config events).cleaned.get? signature =
        density.cleaned.get? signature := by
    intro signature absent
    rcases density.get?_updated (density.updatesOf config events) signature with
      ⟨update, member, rfl, _⟩ | ⟨_, same⟩
    · exact absurd (update_of_mem member).1 absent
    · rw [get?_cleaned, get?_cleaned, afterRun, same]
  refine ⟨occurring, others, fun signature present => ?_⟩
  rw [StringMap.mem_keys_iff] at present ⊢
  by_cases occurs : signature ∈ events.map ConfidenceEvent.signature
  · rw [occurring signature occurs]
    rfl
  · rwa [others signature occurs]

def HoldsAtLeast (density : Density) (signature : Signature) (least : Float) : Prop :=
  ∃ score, density.get? signature = some score ∧ IsScore score ∧ least ≤ score

theorem HoldsAtLeast.le_newDensity {least : Float}
    (holds : density.HoldsAtLeast update.signature least) (valid : config.Valid)
    (fits : events.length < 2 ^ 64) (member : update ∈ density.updatesOf config events)
    (agree : AllAgree events update.signature) : least ≤ update.newDensity := by
  obtain ⟨score, found, isScore, above⟩ := holds
  have follows := valid.follows fits member
  have base : update.base config = score := by
    rw [DensityUpdate.base, follows.priorDensity, cleaned_of_isScore isScore found]
    rfl
  have rises := (follows.allAgree agree).1
  rw [base] at rises
  exact le_trans above rises

/-- A run in which a pattern agrees throughout, or does not occur, does not lower its density. -/
theorem HoldsAtLeast.afterRun {least : Float} (holds : density.HoldsAtLeast signature least)
    (valid : config.Valid) (fits : events.length < 2 ^ 64) (agree : AllAgree events signature) :
    (density.afterRun config events).HoldsAtLeast signature least := by
  rcases density.get?_updated (density.updatesOf config events) signature with
    ⟨update, member, rfl, written⟩ | ⟨_, kept⟩
  · exact ⟨_, written, (valid.follows fits member).isScore,
      holds.le_newDensity valid fits member agree⟩
  · obtain ⟨score, found, isScore, above⟩ := holds
    exact ⟨score, kept.trans found, isScore, above⟩

theorem HoldsAtLeast.afterRuns {least : Float} {runs : List (List ConfidenceEvent)}
    (holds : density.HoldsAtLeast signature least) (valid : config.Valid)
    (fits : ∀ events ∈ runs, events.length < 2 ^ 64)
    (agree : ∀ events ∈ runs, AllAgree events signature) :
    (density.afterRuns config runs).HoldsAtLeast signature least := by
  induction runs generalizing density with
  | nil => exact holds
  | cons events rest ih =>
      obtain ⟨fitsHere, fitsLater⟩ := List.forall_mem_cons.mp fits
      obtain ⟨agreeHere, agreeLater⟩ := List.forall_mem_cons.mp agree
      exact ih (holds.afterRun valid fitsHere agreeHere) fitsLater agreeLater

end Density

/-- A higher density without an anomaly gives no lesser mode. -/
theorem DensityConfig.Valid.rank_modeOf_le (valid : config.Valid) {anomalous : Bool}
    {low high : Float} (ordered : low ≤ high) :
    (config.modeOf anomalous low).rank ≤ (config.modeOf false high).rank := by
  unfold modeOf
  by_cases lowShadow : (anomalous || decide (low < config.shadowThreshold)) = true
  · rw [if_pos lowShadow]
    exact Nat.zero_le _
  · have lowNotShadow : ¬ low < config.shadowThreshold := fun less =>
      lowShadow (Bool.or_eq_true_iff.mpr (.inr (decide_eq_true less)))
    have above := (not_lt_iff (isNaN_of_le ordered).1 valid.shadowThreshold.isNaN).mp lowNotShadow
    have highNotShadow : decide (high < config.shadowThreshold) = false :=
      decide_eq_false fun less => not_le_of_lt less (le_trans above ordered)
    rw [if_neg lowShadow, highNotShadow, Bool.or_false, if_neg Bool.false_ne_true]
    by_cases lowTrusted : config.trustedThreshold ≤ low
    · rw [if_pos lowTrusted, if_pos (le_trans lowTrusted ordered)]
    · rw [if_neg lowTrusted]
      split <;> decide

end

/-- However many runs come before it, and whatever the first of them starts from, a run updates each
pattern that occurs in it, and each update follows its events. From a run to a later one, if a
pattern agrees throughout in all runs that come after the first, its mode does not fall. Events are
counted in words of 64 bits, which a run does not exceed. -/
theorem CalcConfig.densities_evolve {config : CalcConfig} (accepted : config.validate = .ok ())
    (start : Density) (earlier : List (List ConfidenceEvent)) :
    (∀ events, events.length < 2 ^ 64 →
      let before := start.afterRuns config.density earlier
      (∀ signature ∈ events.map ConfidenceEvent.signature,
        ∃ update ∈ before.updatesOf config.density events, update.signature = signature) ∧
      ∀ update ∈ before.updatesOf config.density events,
        update.Follows config.density before events) ∧
    ∀ first between last, (∀ events ∈ first :: (between ++ [last]), events.length < 2 ^ 64) →
      let before := start.afterRuns config.density earlier
      let later := start.afterRuns config.density (earlier ++ first :: between)
      ∀ update ∈ before.updatesOf config.density first,
        ∀ next ∈ later.updatesOf config.density last, next.signature = update.signature →
          (∀ events ∈ between ++ [last], AllAgree events update.signature) →
            update.mode.rank ≤ next.mode.rank := by
  have valid := CalcConfig.density_valid_of_validate accepted
  constructor
  · intro events fits before
    exact ⟨fun signature occurs => before.exists_update config.density occurs,
      fun update member => valid.follows fits member⟩
  · intro first between last fits before later update member next nextMember same agree
    obtain ⟨firstFits, laterFits⟩ := List.forall_mem_cons.mp fits
    obtain ⟨betweenFits, lastFits⟩ := List.forall_mem_append.mp laterFits
    obtain ⟨betweenAgree, lastAgree⟩ := List.forall_mem_append.mp agree
    have lastFits := lastFits last (List.mem_singleton_self last)
    have lastAgree := lastAgree last (List.mem_singleton_self last)
    have follows := valid.follows firstFits member
    have written : (before.afterRun config.density first).HoldsAtLeast update.signature
        update.newDensity :=
      ⟨_, Density.get?_afterRun member, follows.isScore, le_refl follows.isScore.isNaN⟩
    have held : later.HoldsAtLeast next.signature update.newDensity := by
      have runs : later = (before.afterRun config.density first).afterRuns config.density between :=
        List.foldl_append
      rw [runs, same]
      exact written.afterRuns valid betweenFits betweenAgree
    rw [← same] at lastAgree
    rw [Density.mode_of_mem member, Density.mode_of_mem nextMember,
      ((valid.follows lastFits nextMember).allAgree lastAgree).2]
    exact valid.rank_modeOf_le (held.le_newDensity valid lastFits nextMember lastAgree)

/-- A density above one, one that is not a number, and a pattern that is not known: after a run with
a mismatch, two in which everything agrees. -/
theorem CalcConfig.standard_densities_evolve :
    let config := CalcConfig.standard.density
    let event (signature : Signature) (agrees : Bool) : ConfidenceEvent :=
      ⟨signature, "entity", "component", agrees, if agrees then 1.0 else 0.0, 0.0⟩
    let start : Density := .ofList [("capped", 7.0), ("lost", 0.0 / 0.0)]
    let earlier := [[event "capped" false, event "new" true]]
    let run := [event "capped" true, event "lost" true]
    CalcConfig.standard.validate = .ok () ∧
      ∃ update ∈ (start.afterRuns config earlier).updatesOf config run,
        update.Follows config (start.afterRuns config earlier) run ∧
        ∃ next ∈ (start.afterRuns config (earlier ++ [run])).updatesOf config run,
          update.signature = "capped" ∧ next.signature = "capped" ∧
            update.mode.rank ≤ next.mode.rank := by
  intro config event start earlier run
  have accepted : CalcConfig.standard.validate = .ok () := by decide +kernel
  have fits : run.length < 2 ^ 64 := by decide
  have agree : AllAgree run "capped" := by
    simp [AllAgree, run, event]
  have evolves := CalcConfig.densities_evolve accepted start earlier
  obtain ⟨updates, follow⟩ := evolves.1 run fits
  obtain ⟨update, member, isCapped⟩ := updates "capped" (.head _)
  obtain ⟨next, nextMember, nextCapped⟩ :=
    (start.afterRuns config (earlier ++ [run])).exists_update config
      (show "capped" ∈ run.map ConfidenceEvent.signature from .head _)
  refine ⟨accepted, update, member, follow update member, next, nextMember, isCapped, nextCapped,
    evolves.2 run [] run ?_ update member next nextMember (nextCapped.trans isCapped.symm) ?_⟩
  · intro events isRun
    simp only [List.nil_append, List.mem_cons, List.not_mem_nil, or_false, or_self] at isRun
    exact isRun ▸ fits
  · intro events isRun
    rw [List.nil_append, List.mem_singleton] at isRun
    rw [isRun, isCapped]
    exact agree

end VariablePay
