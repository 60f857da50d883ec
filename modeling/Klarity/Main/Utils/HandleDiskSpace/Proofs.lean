import Mathlib.Tactic.Linarith
import Mathlib.Tactic.NormNum
import Klarity.Main.Utils.HandleDiskSpace

set_option autoImplicit false

/-! # The interval and the timer of the disk space poller

As long as the probes answer, one timer is active, with the period that is recorded, and the flag goes with
the short interval. A probe that fails stops the timer without starting another one. -/

namespace Klarity.HandleDiskSpace

variable {isTest : Bool} {prettysize : ℚ → String} {s : State} {available : ℕ} {required : ℚ}

/-! ## What is promised -/

def IsLow (available : ℕ) (required : ℚ) : Prop :=
  (available : ℚ) ≤ diskSpaceRequiredMargin required

/-- What the check of a space makes of the interval and the flag. -/
structure Classified (isTest : Bool) (s s' : State) (available : ℕ) (required : ℚ) : Prop where
  short : IsLow available required → s'.diskSpaceCheckIntervalLength = shortInterval isTest
  long : required * 2 ≤ available → s'.diskSpaceCheckIntervalLength = longInterval
  medium : required ≤ available → available < required * 2 →
    s'.diskSpaceCheckIntervalLength = mediumInterval
  band : ¬ IsLow available required → available < required →
    s'.diskSpaceCheckIntervalLength = s.diskSpaceCheckIntervalLength
  isNotEnough : s'.isNotEnoughDiskSpace = true ↔
    IsLow available required ∨ s.isNotEnoughDiskSpace = true ∧ available < required

/-- Exactly one timer is active, and its period is the recorded one. -/
def OneTimer (s : State) : Prop :=
  ∃ timer, s.timers = [(timer, s.diskSpaceCheckIntervalLength)]

structure Polled (isTest : Bool) (s s' : State) (check : Check) : Prop where
  oneTimer : OneTimer s'
  classified : ∀ free size, check.probe = .space free size →
    Classified isTest s s' free (diskSpaceRequired check.forceDiskSpaceRequired)
  failed : check.probe = .failed → s'.diskSpaceCheckIntervalLength = longInterval ∧
    s'.isNotEnoughDiskSpace = s.isNotEnoughDiskSpace

/-- Every check of a run leaves the poller as promised. -/
def PolledAll (isTest : Bool) (prettysize : ℚ → String) (s : State) : List Check → Prop
  | [] => True
  | check :: checks =>
      Polled isTest s (handleCheckDiskSpace isTest prettysize s check) check ∧
        PolledAll isTest prettysize (handleCheckDiskSpace isTest prettysize s check) checks

/-! ## The invariant -/

structure Invariant (isTest : Bool) (s : State) : Prop where
  timer : ∃ timer, s.diskSpaceCheckInterval = some timer ∧
    s.timers = [(timer, s.diskSpaceCheckIntervalLength)]
  short : s.isNotEnoughDiskSpace = true → s.diskSpaceCheckIntervalLength = shortInterval isTest

theorem Invariant.oneTimer (h : Invariant isTest s) : OneTimer s := by
  obtain ⟨timer, _, htimers⟩ := h.timer
  exact ⟨timer, htimers⟩

/-- The timer that the variable holds is the one that is replaced. -/
theorem Invariant.timers_cleared (h : Invariant isTest s) : (clearInterval s).timers = [] := by
  obtain ⟨timer, hinterval, htimers⟩ := h.timer
  simp [clearInterval, htimers, hinterval]

theorem Invariant.setDiskSpaceIntervalChecking (h : Invariant isTest s) (interval : ℕ)
    {isNotEnoughDiskSpace : Bool}
    (hshort : isNotEnoughDiskSpace = true → interval = shortInterval isTest) :
    Invariant isTest
      { setDiskSpaceIntervalChecking s interval with isNotEnoughDiskSpace := isNotEnoughDiskSpace } where
  timer := by
    refine ⟨s.started, rfl, ?_⟩
    show (clearInterval s).timers ++ _ = _
    rw [h.timers_cleared]
    rfl
  short := hshort

theorem invariant_start : Invariant isTest start where
  timer := ⟨0, rfl, rfl⟩
  short h := nomatch h

theorem Invariant.send (h : Invariant isTest s) (response : Response) :
    Invariant isTest { s with sent := s.sent ++ [response] } :=
  ⟨h.timer, h.short⟩

/-! ## Checks -/

theorem diskSpaceRequired_ne_zero (forced : Option ℚ) : diskSpaceRequired forced ≠ 0 := by
  cases forced with
  | none =>
      show diskSpaceRequiredDefault ≠ 0
      norm_num [diskSpaceRequiredDefault]
  | some required =>
      by_cases hzero : required = 0
      · rw [diskSpaceRequired, if_pos hzero]
        norm_num [diskSpaceRequiredDefault]
      · rw [diskSpaceRequired, if_neg hzero]
        exact hzero

theorem isLow_iff : IsLow available required ↔ (available : ℚ) ≤ required * 9 / 10 := by
  unfold IsLow diskSpaceRequiredMargin diskSpaceRequiredMarginPercentage
  constructor
  · intro hlow
    linarith
  · intro hlow
    linarith

/-- A negative requirement is always met, and it is never low then. -/
theorem not_isLow_of_le (hrequired : required ≠ 0) (h : required ≤ available) :
    ¬ IsLow available required := by
  have hnonneg : (0 : ℚ) ≤ available := Nat.cast_nonneg available
  rw [isLow_iff, not_le]
  rcases lt_or_gt_of_ne hrequired with hneg | hpos
  · linarith
  · linarith

theorem le_of_twice_le (h : required * 2 ≤ available) : required ≤ available := by
  have hnonneg : (0 : ℚ) ≤ available := Nat.cast_nonneg available
  linarith

theorem enoughInterval_eq_long (h : required * 2 ≤ available) :
    enoughInterval available required = longInterval :=
  if_pos h

theorem enoughInterval_eq_medium (h : available < required * 2) :
    enoughInterval available required = mediumInterval :=
  if_neg (not_le.2 h)

/-- The three ways a check of a space can go: low, enough, or between the two. -/
theorem classify_of_isLow (hlow : IsLow available required) :
    classify isTest s available required =
      if s.isNotEnoughDiskSpace then s
      else { setDiskSpaceIntervalChecking s (shortInterval isTest) with isNotEnoughDiskSpace := true } :=
  if_pos hlow

theorem classify_of_le (hlow : ¬ IsLow available required) (hle : required ≤ available) :
    classify isTest s available required =
      if s.isNotEnoughDiskSpace then
        { setDiskSpaceIntervalChecking s (enoughInterval available required) with
          isNotEnoughDiskSpace := false }
      else if enoughInterval available required ≠ s.diskSpaceCheckIntervalLength then
        setDiskSpaceIntervalChecking s (enoughInterval available required)
      else s := by
  unfold IsLow at hlow
  rw [classify, if_neg hlow, if_pos hle]

theorem classify_of_between (hlow : ¬ IsLow available required) (hlt : available < required) :
    classify isTest s available required = s := by
  unfold IsLow at hlow
  rw [classify, if_neg hlow, if_neg (not_le.2 hlt)]

theorem Invariant.classify (h : Invariant isTest s) :
    Invariant isTest (classify isTest s available required) := by
  by_cases hlow : IsLow available required
  · rw [classify_of_isLow hlow]
    split
    · exact h
    · exact h.setDiskSpaceIntervalChecking _ fun _ => rfl
  · by_cases hle : required ≤ available
    · rw [classify_of_le hlow hle]
      split
      · exact h.setDiskSpaceIntervalChecking _ fun hfalse => nomatch hfalse
      · next hoff =>
          split
          · exact h.setDiskSpaceIntervalChecking _ fun hon => absurd hon hoff
          · exact h
    · rw [classify_of_between hlow (not_le.1 hle)]
      exact h

/-- With enough space the recorded interval is the one for it, replaced or not. -/
theorem length_classify_of_le (hlow : ¬ IsLow available required) (hle : required ≤ available) :
    (classify isTest s available required).diskSpaceCheckIntervalLength =
      enoughInterval available required := by
  rw [classify_of_le hlow hle]
  split
  · rfl
  · split
    · rfl
    · next hsame => exact (not_not.1 hsame).symm

theorem isNotEnough_classify_of_le (hlow : ¬ IsLow available required) (hle : required ≤ available) :
    (classify isTest s available required).isNotEnoughDiskSpace = false := by
  rw [classify_of_le hlow hle]
  split
  · rfl
  · next hoff =>
      split
      · exact Bool.eq_false_iff.2 hoff
      · exact Bool.eq_false_iff.2 hoff

theorem isNotEnough_classify_of_isLow (hlow : IsLow available required) :
    (classify isTest s available required).isNotEnoughDiskSpace = true := by
  rw [classify_of_isLow hlow]
  split
  · assumption
  · rfl

theorem Invariant.length_classify_of_isLow (h : Invariant isTest s) (hlow : IsLow available required) :
    (HandleDiskSpace.classify isTest s available required).diskSpaceCheckIntervalLength =
      shortInterval isTest := by
  rw [classify_of_isLow hlow]
  split
  · next hon => exact h.short hon
  · rfl

theorem Invariant.classified (h : Invariant isTest s) (hrequired : required ≠ 0) :
    Classified isTest s (HandleDiskSpace.classify isTest s available required) available required where
  short hlow := h.length_classify_of_isLow hlow
  long htwice := by
    have hle := le_of_twice_le htwice
    rw [length_classify_of_le (not_isLow_of_le hrequired hle) hle]
    exact enoughInterval_eq_long htwice
  medium hle hlt := by
    rw [length_classify_of_le (not_isLow_of_le hrequired hle) hle]
    exact enoughInterval_eq_medium hlt
  band hlow hlt := by
    rw [classify_of_between hlow hlt]
  isNotEnough := by
    by_cases hlow : IsLow available required
    · exact iff_of_true (isNotEnough_classify_of_isLow hlow) (.inl hlow)
    · by_cases hle : required ≤ available
      · rw [isNotEnough_classify_of_le hlow hle]
        constructor
        · intro hfalse
          exact nomatch hfalse
        · rintro (hlow' | ⟨_, hlt⟩)
          · exact absurd hlow' hlow
          · exact absurd hle (not_le.2 hlt)
      · have hlt := not_le.1 hle
        rw [classify_of_between hlow hlt]
        constructor
        · intro hon
          exact .inr ⟨hon, hlt⟩
        · rintro (hlow' | ⟨hon, _⟩)
          · exact absurd hlow' hlow
          · exact hon

/-! ## Runs -/

theorem handleCheckDiskSpace_of_space {check : Check} {free size : ℕ}
    (hprobe : check.probe = .space free size) :
    ∃ response, handleCheckDiskSpace isTest prettysize s check =
      let classified := classify isTest s free (diskSpaceRequired check.forceDiskSpaceRequired)
      { classified with sent := classified.sent ++ [response] } := by
  unfold handleCheckDiskSpace
  rw [hprobe]
  exact ⟨_, rfl⟩

theorem Invariant.handleCheckDiskSpace {check : Check} (h : Invariant isTest s)
    (hprobe : check.probe ≠ .failed) :
    Invariant isTest (handleCheckDiskSpace isTest prettysize s check) := by
  cases hspace : check.probe with
  | failed => exact absurd hspace hprobe
  | space free size =>
      obtain ⟨response, hs⟩ := handleCheckDiskSpace_of_space (s := s) hspace
      rw [hs]
      exact h.classify.send response

/-- A check whose probe answers keeps the promise. -/
theorem Invariant.polled {check : Check} (h : Invariant isTest s) (hprobe : check.probe ≠ .failed) :
    Polled isTest s (HandleDiskSpace.handleCheckDiskSpace isTest prettysize s check) check where
  oneTimer := (h.handleCheckDiskSpace hprobe).oneTimer
  classified free size hspace := by
    obtain ⟨response, hs⟩ := handleCheckDiskSpace_of_space hspace
    have hclassified : Classified isTest s (HandleDiskSpace.classify isTest s free
        (diskSpaceRequired check.forceDiskSpaceRequired)) free (diskSpaceRequired check.forceDiskSpaceRequired) :=
      h.classified (diskSpaceRequired_ne_zero check.forceDiskSpaceRequired)
    rw [hs]
    exact ⟨hclassified.short, hclassified.long, hclassified.medium, hclassified.band,
      hclassified.isNotEnough⟩
  failed hfailed := absurd hfailed hprobe

/-- The `catch` block clears the timer and sets no other. -/
theorem Invariant.timers_probeFailed (h : Invariant isTest s) : (probeFailed s).timers = [] := by
  obtain ⟨timer, hinterval, _⟩ := h.timer
  unfold probeFailed
  rw [hinterval]
  exact h.timers_cleared

theorem Invariant.not_polled {check : Check} (h : Invariant isTest s) (hprobe : check.probe = .failed) :
    ¬ Polled isTest s (HandleDiskSpace.handleCheckDiskSpace isTest prettysize s check) check := by
  intro hpolled
  obtain ⟨timer, htimers⟩ := hpolled.oneTimer
  have hnone : (HandleDiskSpace.handleCheckDiskSpace isTest prettysize s check).timers = [] := by
    unfold HandleDiskSpace.handleCheckDiskSpace
    rw [hprobe]
    exact h.timers_probeFailed
  rw [hnone] at htimers
  exact nomatch htimers

/-- The promise is kept up to the first probe that fails, and broken by it. -/
theorem Invariant.polledAll_iff {checks : List Check} (h : Invariant isTest s) :
    PolledAll isTest prettysize s checks ↔ ∀ check ∈ checks, check.probe ≠ .failed := by
  induction checks generalizing s with
  | nil => simp [PolledAll]
  | cons check checks ih =>
      rw [PolledAll, List.forall_mem_cons]
      by_cases hprobe : check.probe = .failed
      · refine iff_of_false ?_ ?_
        · rintro ⟨hpolled, _⟩
          exact h.not_polled hprobe hpolled
        · rintro ⟨hanswered, _⟩
          exact hanswered hprobe
      · rw [ih (h.handleCheckDiskSpace hprobe)]
        exact and_congr_left fun _ => iff_of_true (h.polled hprobe) hprobe

/-- Every check leaves one timer, with the period for the space found, exactly when no probe fails. -/
theorem polledAll_iff_no_probe_failed (isTest : Bool) (prettysize : ℚ → String) (checks : List Check) :
    PolledAll isTest prettysize start checks ↔ ∀ check ∈ checks, check.probe ≠ .failed :=
  invariant_start.polledAll_iff

/-- One failed probe at the default interval, and nothing polls any more. -/
theorem not_polledAll_of_failed_probe :
    ¬ ∀ checks, PolledAll false (fun _ => "") start checks := by
  intro hpolled
  obtain ⟨⟨⟨timer, htimers⟩, _, _⟩, _⟩ := hpolled [⟨none, .failed⟩]
  have hnone : (handleCheckDiskSpace false (fun _ => "") start ⟨none, .failed⟩).timers = [] := rfl
  rw [hnone] at htimers
  exact nomatch htimers

end Klarity.HandleDiskSpace
