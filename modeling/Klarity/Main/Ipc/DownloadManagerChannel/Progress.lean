import Klarity.Library.Number.Numeral
import Klarity.Main.Utils.DownloadManager

set_option autoImplicit false

/-! # The progress that is reported

A listener of `requestDownload()` forwards an event if the integer that `parseInt` reads from its percentage is not
the number of events forwarded before. A resumed download has a listener of its own, which starts with a higher
percentage. -/

namespace Klarity.DownloadManagerChannel

open JsNumber (Numeral parseInt)

structure DownloadInfoProgress where
  total : ℚ
  downloaded : ℚ
  progress : Numeral
  speed : ℚ
  deriving DecidableEq, Repr

structure ProgressListener where
  currentDownloadData : ℕ := 0
  forwarded : List DownloadInfoProgress := []
  deriving DecidableEq, Repr

def ProgressListener.onProgress (s : ProgressListener) : Option DownloadInfoProgress → ProgressListener
  | none => s
  | some evt =>
      if parseInt evt.progress.toString = some (s.currentDownloadData : ℤ) then s
      else
        { currentDownloadData := s.currentDownloadData + 1
          forwarded := s.forwarded ++ [evt] }

/-- The listener after the events. -/
def reported (events : List DownloadInfoProgress) : ProgressListener :=
  events.foldl (fun s evt => s.onProgress (some evt)) {}

/-- Percentages that do not decrease. -/
structure IsProgress (events : List DownloadInfoProgress) : Prop where
  sorted : events.Pairwise fun evt later => evt.progress.value ≤ later.progress.value
  le_hundred : ∀ evt ∈ events, evt.progress.value ≤ 100

/-- What `progressEvent()` makes of the event ends with the timer for a download without an end. -/
def ArmsCheckNoEndEvent (evt : DownloadInfoProgress) : Prop :=
  ∀ (Info : Type) (persistLocalData : Bool) (s : DownloadManager.State Info) (data : DownloadData),
    DownloadManager.resume persistLocalData s (.written (.progressEvent evt.progress.value) data) =
      DownloadManager.armCheckNoEndEvent (s.send .progress data none)

/-- At each event: the events forwarded so far are at most as many as its percentage, it is forwarded if it is the
    first one of a percentage, and one that arms the timer is forwarded by then if it is at the end. -/
structure Throttles (events : List DownloadInfoProgress) : Prop where
  counter_le {before after : List DownloadInfoProgress} {evt : DownloadInfoProgress}
    (h : events = before ++ evt :: after) :
    ((reported (before ++ [evt])).currentDownloadData : ℤ) ≤ ⌊evt.progress.value⌋
  first_forwarded {before after : List DownloadInfoProgress} {evt : DownloadInfoProgress}
    (h : events = before ++ evt :: after) (hone : 1 ≤ ⌊evt.progress.value⌋)
    (hfirst : ∀ earlier ∈ before, ⌊earlier.progress.value⌋ ≠ ⌊evt.progress.value⌋) :
    (reported (before ++ [evt])).forwarded = (reported before).forwarded ++ [evt]
  hundred_forwarded {before after : List DownloadInfoProgress} {evt : DownloadInfoProgress}
    (h : events = before ++ evt :: after) (hundred : evt.progress.value = 100) :
    ∃ last ∈ (reported (before ++ [evt])).forwarded, ArmsCheckNoEndEvent last

/-- No percentage is written in exponential notation. -/
def WrittenInFull (events : List DownloadInfoProgress) : Prop := ∀ evt ∈ events, ¬ evt.progress.IsTiny

/-! ## One event -/

variable {before after events : List DownloadInfoProgress} {evt : DownloadInfoProgress}

theorem reported_concat (before : List DownloadInfoProgress) (evt : DownloadInfoProgress) :
    reported (before ++ [evt]) = (reported before).onProgress (some evt) := by
  unfold reported
  rw [List.foldl_append]
  rfl

theorem reported_of_ne (h : parseInt evt.progress.toString ≠ some ((reported before).currentDownloadData : ℤ)) :
    reported (before ++ [evt]) =
      ⟨(reported before).currentDownloadData + 1, (reported before).forwarded ++ [evt]⟩ := by
  rw [reported_concat]
  exact if_neg h

theorem reported_of_eq (h : parseInt evt.progress.toString = some ((reported before).currentDownloadData : ℤ)) :
    reported (before ++ [evt]) = reported before := by
  rw [reported_concat]
  exact if_pos h

/-- What was forwarded stays so. -/
theorem mem_forwarded_concat {earlier : DownloadInfoProgress} (h : earlier ∈ (reported before).forwarded) :
    earlier ∈ (reported (before ++ [evt])).forwarded := by
  by_cases heq : parseInt evt.progress.toString = some ((reported before).currentDownloadData : ℤ)
  · rwa [reported_of_eq heq]
  · rw [reported_of_ne heq]
    exact List.mem_append_left _ h

theorem WrittenInFull.of_append (h : WrittenInFull (before ++ after)) : WrittenInFull before :=
  fun evt hevt => h evt (List.mem_append_left _ hevt)

namespace IsProgress

theorem parseInt_progress (h : IsProgress events) (hfull : WrittenInFull events) (hevt : evt ∈ events) :
    parseInt evt.progress.toString = some ⌊evt.progress.value⌋ := by
  refine Numeral.parseInt_toString_of_not_isTiny (hfull evt hevt) ((h.le_hundred evt hevt).trans ?_)
  norm_num

theorem of_append (h : IsProgress (before ++ after)) : IsProgress before :=
  ⟨(List.pairwise_append.1 h.sorted).1, fun evt hevt => h.le_hundred evt (List.mem_append_left _ hevt)⟩

theorem floor_le (h : IsProgress (before ++ evt :: after)) {earlier : DownloadInfoProgress}
    (hearlier : earlier ∈ before) : ⌊earlier.progress.value⌋ ≤ ⌊evt.progress.value⌋ :=
  Int.floor_le_floor ((List.pairwise_append.1 h.sorted).2.2 earlier hearlier evt List.mem_cons_self)

end IsProgress

/-! ## Runs of the listener -/

/-- The events forwarded are no more than any percentage that has not been exceeded. -/
theorem currentDownloadData_le (h : IsProgress events) (hfull : WrittenInFull events) {bound : ℤ}
    (hbound : 0 ≤ bound) (hle : ∀ evt ∈ events, ⌊evt.progress.value⌋ ≤ bound) :
    ((reported events).currentDownloadData : ℤ) ≤ bound := by
  induction events using List.reverseRecOn generalizing bound with
  | nil => exact hbound
  | append_singleton before evt ih =>
    have hevt : evt ∈ before ++ [evt] := List.mem_append_right _ (List.mem_singleton_self evt)
    have hread := h.parseInt_progress hfull hevt
    have hcounter := ih h.of_append hfull.of_append evt.progress.floor_nonneg fun earlier hearlier =>
      h.floor_le hearlier
    by_cases heq : parseInt evt.progress.toString = some ((reported before).currentDownloadData : ℤ)
    · rw [reported_of_eq heq]
      exact hcounter.trans (hle evt hevt)
    · -- The percentage is ahead of the counter, which may go on.
      rw [reported_of_ne heq]
      have hne : ⌊evt.progress.value⌋ ≠ (reported before).currentDownloadData := fun hfloor =>
        heq (by rw [hread, hfloor])
      have hlt := hle evt hevt
      push_cast
      omega

theorem forwarded_of_first (h : IsProgress (before ++ evt :: after)) (hfull : WrittenInFull (before ++ evt :: after))
    (hone : 1 ≤ ⌊evt.progress.value⌋)
    (hfirst : ∀ earlier ∈ before, ⌊earlier.progress.value⌋ ≠ ⌊evt.progress.value⌋) :
    (reported (before ++ [evt])).forwarded = (reported before).forwarded ++ [evt] := by
  have hread := h.parseInt_progress hfull (List.mem_append_right _ List.mem_cons_self)
  have hcounter := currentDownloadData_le h.of_append hfull.of_append (sub_nonneg.2 hone) fun earlier hearlier =>
    Int.le_sub_one_of_lt (lt_of_le_of_ne (h.floor_le hearlier) (hfirst earlier hearlier))
  have hne : parseInt evt.progress.toString ≠ some ((reported before).currentDownloadData : ℤ) := by
    rw [hread]
    intro heq
    have hfloor := Option.some.inj heq
    omega
  rw [reported_of_ne hne]

/-- The end of the download is reported. -/
theorem exists_forwarded_hundred (h : IsProgress events) (hfull : WrittenInFull events)
    (hundred : ∃ evt ∈ events, evt.progress.value = 100) :
    ∃ evt ∈ (reported events).forwarded, evt.progress.value = 100 := by
  induction events using List.reverseRecOn with
  | nil => exact absurd hundred (by simp)
  | append_singleton before evt ih =>
    by_cases hbefore : ∃ earlier ∈ before, earlier.progress.value = 100
    · obtain ⟨earlier, hmem, hvalue⟩ := ih h.of_append hfull.of_append hbefore
      exact ⟨earlier, mem_forwarded_concat hmem, hvalue⟩
    · have hvalue : evt.progress.value = 100 := by
        obtain ⟨last, hlast, hvalue⟩ := hundred
        rcases List.mem_append.1 hlast with hmem | hmem
        · exact absurd ⟨last, hmem, hvalue⟩ hbefore
        · rwa [← List.mem_singleton.1 hmem]
      have hfloor : ⌊evt.progress.value⌋ = 100 := by
        rw [hvalue]
        norm_num
      have hfirst : ∀ earlier ∈ before, ⌊earlier.progress.value⌋ ≠ ⌊evt.progress.value⌋ := by
        intro earlier hearlier heq
        have hge : (100 : ℚ) ≤ earlier.progress.value := by
          have hcast := Int.floor_le earlier.progress.value
          rw [heq, hfloor] at hcast
          exact_mod_cast hcast
        exact hbefore ⟨earlier, hearlier, le_antisymm (h.le_hundred earlier (List.mem_append_left _ hearlier)) hge⟩
      rw [forwarded_of_first h hfull (by omega) hfirst]
      exact ⟨evt, List.mem_append_right _ (List.mem_singleton_self evt), hvalue⟩

theorem armsCheckNoEndEvent_of_hundred (h : evt.progress.value = 100) : ArmsCheckNoEndEvent evt := by
  intro Info persistLocalData s data
  exact if_pos h

theorem throttles_of_writtenInFull (h : IsProgress events) (hfull : WrittenInFull events) : Throttles events := by
  have hsplit {before after : List DownloadInfoProgress} {evt : DownloadInfoProgress}
      (heq : events = before ++ evt :: after) :
      IsProgress (before ++ [evt]) ∧ WrittenInFull (before ++ [evt]) := by
    rw [List.append_cons] at heq
    subst heq
    exact ⟨h.of_append, hfull.of_append⟩
  constructor
  · intro before after evt heq
    obtain ⟨h, hfull⟩ := hsplit heq
    refine currentDownloadData_le h hfull evt.progress.floor_nonneg fun earlier hearlier => ?_
    rcases List.mem_append.1 hearlier with hmem | hmem
    · exact h.floor_le hmem
    · rw [List.mem_singleton.1 hmem]
  · intro before after evt heq hone hfirst
    obtain ⟨h, hfull⟩ := hsplit heq
    exact forwarded_of_first h hfull hone hfirst
  · intro before after evt heq hundred
    obtain ⟨h, hfull⟩ := hsplit heq
    obtain ⟨last, hmem, hvalue⟩ := exists_forwarded_hundred h hfull
      ⟨evt, List.mem_append_right _ (List.mem_singleton_self evt), hundred⟩
    exact ⟨last, hmem, armsCheckNoEndEvent_of_hundred hvalue⟩

/-! ## Percentages in exponential notation -/

/-- The first tiny percentage is counted, though its integer part is zero. -/
theorem writtenInFull_of_throttles (h : IsProgress events) (hthrottles : Throttles events) :
    WrittenInFull events := by
  intro evt hevt htiny
  obtain ⟨first, hfind⟩ := Option.isSome_iff_exists.1
    (List.find?_isSome.2 ⟨evt, hevt, decide_eq_true htiny⟩ :
      (events.find? fun evt => decide evt.progress.IsTiny).isSome = true)
  obtain ⟨hfirst, before, after, heq, hbefore⟩ := List.find?_eq_some_iff_append.1 hfind
  have htinyFirst := of_decide_eq_true hfirst
  have hzero := Numeral.floor_eq_zero_of_isTiny htinyFirst
  have hfull : WrittenInFull before := by
    intro earlier hearlier
    simpa using hbefore earlier hearlier
  subst heq
  have hcounter := currentDownloadData_le h.of_append hfull (le_refl 0) fun earlier hearlier =>
    (h.floor_le hearlier).trans_eq hzero
  obtain ⟨n, hn, hread⟩ := Numeral.parseInt_toString_of_isTiny htinyFirst
  have hne : parseInt first.progress.toString ≠ some ((reported before).currentDownloadData : ℤ) := by
    rw [hread]
    intro heq
    have hcount := Option.some.inj heq
    omega
  have hle := hthrottles.counter_le rfl
  rw [reported_of_ne hne, hzero] at hle
  push_cast at hle
  omega

/-- The percentages are throttled as meant as long as each of them is written in full. -/
theorem throttles_iff (h : IsProgress events) : Throttles events ↔ WrittenInFull events :=
  ⟨writtenInFull_of_throttles h, throttles_of_writtenInFull h⟩

/-- The first byte of 200 MB. -/
def oneByte : DownloadInfoProgress := ⟨200000000, 1, ⟨5, 7, .inr (by decide)⟩, 1⟩

def onePercent : DownloadInfoProgress := ⟨200000000, 2000000, ⟨1, 0, .inl rfl⟩, 1000000⟩

theorem floor_oneByte : ⌊oneByte.progress.value⌋ = 0 := Numeral.floor_value _

theorem floor_onePercent : ⌊onePercent.progress.value⌋ = 1 := Numeral.floor_value _

theorem isProgress_oneByte : IsProgress [oneByte, onePercent] := by
  constructor
  · rw [List.pairwise_pair]
    norm_num [oneByte, onePercent, Numeral.value]
  · intro evt hevt
    rcases List.mem_pair.1 hevt with rfl | rfl
    · norm_num [oneByte, Numeral.value]
    · norm_num [onePercent, Numeral.value]

/-- The event at one percent is not forwarded. -/
theorem not_throttles_oneByte :
    IsProgress [oneByte, onePercent] ∧ ¬ Throttles [oneByte, onePercent] := by
  refine ⟨isProgress_oneByte, fun h => ?_⟩
  have hforwarded : (reported ([oneByte] ++ [onePercent])).forwarded =
      (reported [oneByte]).forwarded ++ [onePercent] := by
    refine h.first_forwarded rfl floor_onePercent.ge fun earlier hearlier => ?_
    rw [List.mem_singleton.1 hearlier, floor_oneByte, floor_onePercent]
    decide
  revert hforwarded
  decide

/-- A download that is resumed at 57.3 per cent. -/
def resumedDownload : List DownloadInfoProgress :=
  [⟨1000, 573, ⟨573, 1, .inr (by decide)⟩, 6⟩, ⟨1000, 579, ⟨579, 1, .inr (by decide)⟩, 6⟩,
    ⟨1000, 580, ⟨58, 0, .inl rfl⟩, 1⟩, ⟨1000, 1000, ⟨100, 0, .inl rfl⟩, 420⟩]

theorem throttles_resumedDownload : Throttles resumedDownload ↔ WrittenInFull resumedDownload := by
  refine throttles_iff ⟨?_, fun evt hevt => ?_⟩
  · norm_num [resumedDownload, Numeral.value]
  · simp only [resumedDownload, List.mem_cons, List.not_mem_nil, or_false] at hevt
    rcases hevt with rfl | rfl | rfl | rfl <;> norm_num [Numeral.value]

end Klarity.DownloadManagerChannel
