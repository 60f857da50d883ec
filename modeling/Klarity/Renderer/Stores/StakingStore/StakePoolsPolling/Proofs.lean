import Klarity.Library.Streak
import Klarity.Renderer.Stores.StakingStore.StakePoolsPolling

set_option autoImplicit false

/-! # What polls the stake pools

`pollers_of_reaches`: no interval is ever lost, so that at most one fetches the pools and at most one counts them.
`polled_of_reaches`: as long as the network is synced, the pools are fetched again. `tracker_stopped_iff`: when the
tracker stops. -/

namespace Klarity.StakePoolsPolling

variable {s s' : State}

/-! ## The intervals -/

/-- Every interval that is alive is under its handle, every handle that is set is alive, and the two that fetch
    the pools are never both set. The handle of the tracker stays when the tracker has stopped. -/
structure Inv (s : State) : Prop where
  owned : ∀ p ∈ s.timers.alive,
    (some p.1 = s.pollingStakePoolsInterval ∧ ∃ isSmash, p.2 = pollingInterval isSmash) ∨
      (some p.1 = s.refreshPolling ∧ p.2 = refreshInterval) ∨
      (s.isFetchingStakePools = true ∧ some p.1 = s.stakePoolsFetchTrackerInterval ∧ p.2 = trackerInterval)
  polling : ∀ id, s.pollingStakePoolsInterval = some id → ∃ isSmash, (id, pollingInterval isSmash) ∈ s.timers.alive
  refresh : ∀ id, s.refreshPolling = some id → (id, refreshInterval) ∈ s.timers.alive
  tracker : s.isFetchingStakePools = true →
    ∃ id, s.stakePoolsFetchTrackerInterval = some id ∧ (id, trackerInterval) ∈ s.timers.alive
  tracker_ne : ∀ id, s.stakePoolsFetchTrackerInterval = some id →
    id < s.timers.next ∧ s.pollingStakePoolsInterval ≠ some id ∧ s.refreshPolling ≠ some id
  exclusive : s.pollingStakePoolsInterval = none ∨ s.refreshPolling = none

theorem pollingInterval_ne_tracker (isSmash : Bool) : pollingInterval isSmash ≠ trackerInterval := by
  simp [pollingInterval, trackerInterval]

theorem refreshInterval_ne_tracker : refreshInterval ≠ trackerInterval := by decide

theorem refreshInterval_ne_polling (isSmash : Bool) : refreshInterval ≠ pollingInterval isSmash := by
  cases isSmash <;> decide

/-- Two handles are of different intervals. -/
theorem Inv.polling_ne_refresh (h : Inv s) {id : ℕ} (hid : s.pollingStakePoolsInterval = some id) :
    s.refreshPolling ≠ some id := by
  rcases h.exclusive with hnone | hnone
  · exact absurd hid (by simp [hnone])
  · simp [hnone]

theorem Inv.clearPolling (h : Inv s) : Inv s.clearPolling where
  owned p hp := by
    obtain ⟨hmem, hne⟩ := Timers.mem_clearInterval _ |>.1 hp
    exact (h.owned p hmem).imp_left fun hpolling => absurd hpolling.1 hne
  polling id hid := by cases hid
  refresh id hid := Timers.mem_clearInterval _ |>.2 ⟨h.refresh id hid, fun hpolling =>
    h.polling_ne_refresh hpolling.symm hid⟩
  tracker hfetching := by
    obtain ⟨id, hid, hmem⟩ := h.tracker hfetching
    exact ⟨id, hid, Timers.mem_clearInterval _ |>.2 ⟨hmem, fun hpolling => (h.tracker_ne id hid).2.1 hpolling.symm⟩⟩
  tracker_ne id hid := ⟨(h.tracker_ne id hid).1, by simp [State.clearPolling], (h.tracker_ne id hid).2.2⟩
  exclusive := .inl rfl

theorem Inv.clearRefresh (h : Inv s) : Inv s.clearRefresh where
  owned p hp := by
    obtain ⟨hmem, hne⟩ := Timers.mem_clearInterval _ |>.1 hp
    exact (h.owned p hmem).imp_right (Or.imp_left fun hrefresh => absurd hrefresh.1 hne)
  polling id hid := by
    obtain ⟨isSmash, hmem⟩ := h.polling id hid
    exact ⟨isSmash, Timers.mem_clearInterval _ |>.2 ⟨hmem, fun hrefresh => h.polling_ne_refresh hid hrefresh.symm⟩⟩
  refresh id hid := by cases hid
  tracker hfetching := by
    obtain ⟨id, hid, hmem⟩ := h.tracker hfetching
    exact ⟨id, hid, Timers.mem_clearInterval _ |>.2 ⟨hmem, fun hrefresh => (h.tracker_ne id hid).2.2 hrefresh.symm⟩⟩
  tracker_ne id hid := ⟨(h.tracker_ne id hid).1, (h.tracker_ne id hid).2.1, by simp [State.clearRefresh]⟩
  exclusive := .inr rfl

theorem Inv.setRefresh (h : Inv s) (hpolling : s.pollingStakePoolsInterval = none) (hrefresh : s.refreshPolling = none) :
    Inv s.setRefresh where
  owned p hp := by
    rcases Timers.mem_setInterval _ |>.1 hp with hmem | rfl
    · refine (h.owned p hmem).imp_right (Or.imp_left fun hold => absurd hold.1 ?_)
      simp [hrefresh]
    · exact .inr (.inl ⟨rfl, rfl⟩)
  polling id hid := by
    obtain ⟨isSmash, hmem⟩ := h.polling id hid
    exact ⟨isSmash, Timers.mem_setInterval _ |>.2 (.inl hmem)⟩
  refresh id hid := by
    obtain rfl := Option.some.inj hid
    exact Timers.mem_setInterval _ |>.2 (.inr rfl)
  tracker hfetching := by
    obtain ⟨id, hid, hmem⟩ := h.tracker hfetching
    exact ⟨id, hid, Timers.mem_setInterval _ |>.2 (.inl hmem)⟩
  tracker_ne id hid := by
    have hlt := (h.tracker_ne id hid).1
    refine ⟨Nat.lt_succ_of_lt hlt, (h.tracker_ne id hid).2.1, fun hnew => ?_⟩
    exact absurd (Option.some.inj hnew) (Nat.ne_of_gt hlt)
  exclusive := .inl hpolling

theorem Inv.setPolling (h : Inv s) (isSmash : Bool) (hpolling : s.pollingStakePoolsInterval = none)
    (hrefresh : s.refreshPolling = none) : Inv (s.setPolling isSmash) where
  owned p hp := by
    rcases Timers.mem_setInterval _ |>.1 hp with hmem | rfl
    · refine (h.owned p hmem).imp_left fun hold => absurd hold.1 ?_
      simp [hpolling]
    · exact .inl ⟨rfl, isSmash, rfl⟩
  polling id hid := by
    obtain rfl := Option.some.inj hid
    exact ⟨isSmash, Timers.mem_setInterval _ |>.2 (.inr rfl)⟩
  refresh id hid := Timers.mem_setInterval _ |>.2 (.inl (h.refresh id hid))
  tracker hfetching := by
    obtain ⟨id, hid, hmem⟩ := h.tracker hfetching
    exact ⟨id, hid, Timers.mem_setInterval _ |>.2 (.inl hmem)⟩
  tracker_ne id hid := by
    have hlt := (h.tracker_ne id hid).1
    refine ⟨Nat.lt_succ_of_lt hlt, fun hnew => ?_, (h.tracker_ne id hid).2.2⟩
    exact absurd (Option.some.inj hnew) (Nat.ne_of_gt hlt)
  exclusive := .inr hrefresh

theorem Inv.resetPolling (h : Inv s) (type : ResetType) : Inv (resetPolling s type) := by
  have hflag : ∀ failed, Inv ({ s with fetchingStakePoolsFailed := failed } : State) := fun _ =>
    ⟨h.owned, h.polling, h.refresh, h.tracker, h.tracker_ne, h.exclusive⟩
  cases type with
  | kill => exact (hflag true).clearPolling.clearRefresh
  | failed =>
      simp only [StakePoolsPolling.resetPolling]
      split
      · next hnone => exact (hflag true).clearPolling.setRefresh rfl hnone
      · exact (hflag true).clearPolling
  | regular => exact (hflag false).clearRefresh.clearPolling.setPolling _ rfl rfl
  | smash => exact (hflag false).clearRefresh.clearPolling.setPolling _ rfl rfl

theorem Inv.getStakePoolsData (h : Inv s) (isSmash : Bool) : Inv (getStakePoolsData s isSmash) := by
  unfold StakePoolsPolling.getStakePoolsData
  split
  · exact ⟨h.owned, h.polling, h.refresh, h.tracker, h.tracker_ne, h.exclusive⟩
  · exact ⟨h.owned, h.polling, h.refresh, h.tracker, h.tracker_ne, h.exclusive⟩

theorem Inv.settle (h : Inv s) (isSmash ok : Bool) : Inv (settle s isSmash ok) := by
  have hreset := h.resetPolling (if ok then if isSmash then .smash else .regular else .failed)
  exact ⟨hreset.owned, hreset.polling, hreset.refresh, hreset.tracker, hreset.tracker_ne, hreset.exclusive⟩

/-- The store without its tracker. -/
def State.clearTracker (s : State) : State :=
  { s with
    timers := s.timers.clearInterval s.stakePoolsFetchTrackerInterval
    numberOfStakePoolsFetched := 0
    cyclesWithoutIncreasingStakePools := 0
    isFetchingStakePools := false }

theorem Inv.clearTracker (h : Inv s) : Inv s.clearTracker where
  owned p hp := by
    obtain ⟨hmem, hne⟩ := Timers.mem_clearInterval _ |>.1 hp
    rcases h.owned p hmem with hpolling | hrefresh | htracker
    · exact .inl hpolling
    · exact .inr (.inl hrefresh)
    · exact absurd htracker.2.1 hne
  polling id hid := by
    obtain ⟨isSmash, hmem⟩ := h.polling id hid
    exact ⟨isSmash, Timers.mem_clearInterval _ |>.2 ⟨hmem, fun htracker => (h.tracker_ne id htracker.symm).2.1 hid⟩⟩
  refresh id hid := Timers.mem_clearInterval _ |>.2 ⟨h.refresh id hid, fun htracker =>
    (h.tracker_ne id htracker.symm).2.2 hid⟩
  tracker hfetching := by cases hfetching
  tracker_ne := h.tracker_ne
  exclusive := h.exclusive

theorem Inv.stopStakePoolsFetchTracker (h : Inv s) : Inv (stopStakePoolsFetchTracker s) :=
  h.clearTracker.getStakePoolsData false

/-- The store with a new tracker. -/
def State.setTracker (s : State) : State :=
  { s with
    isFetchingStakePools := true
    timers := s.timers.setInterval trackerInterval
    stakePoolsFetchTrackerInterval := some s.timers.next }

theorem Inv.setTracker (h : Inv s) (hstopped : s.isFetchingStakePools = false) : Inv s.setTracker where
  owned p hp := by
    rcases Timers.mem_setInterval _ |>.1 hp with hmem | rfl
    · rcases h.owned p hmem with hpolling | hrefresh | htracker
      · exact .inl hpolling
      · exact .inr (.inl hrefresh)
      · exact absurd htracker.1 (by simp [hstopped])
    · exact .inr (.inr ⟨rfl, rfl, rfl⟩)
  polling id hid := by
    obtain ⟨isSmash, hmem⟩ := h.polling id hid
    exact ⟨isSmash, Timers.mem_setInterval _ |>.2 (.inl hmem)⟩
  refresh id hid := Timers.mem_setInterval _ |>.2 (.inl (h.refresh id hid))
  tracker _ := ⟨s.timers.next, rfl, Timers.mem_setInterval _ |>.2 (.inr rfl)⟩
  tracker_ne id hid := by
    obtain rfl := Option.some.inj hid
    refine ⟨Nat.lt_succ_self _, fun hpolling => ?_, fun hrefresh => ?_⟩
    · obtain ⟨isSmash, hmem⟩ := h.polling _ hpolling
      exact s.timers.next_not_mem _ hmem
    · exact s.timers.next_not_mem _ (h.refresh _ hrefresh)
  exclusive := h.exclusive

theorem isFetchingStakePools_getStakePoolsData (s : State) (isSmash : Bool) :
    (getStakePoolsData s isSmash).isFetchingStakePools = s.isFetchingStakePools := by
  unfold getStakePoolsData
  split <;> rfl

theorem Inv.startStakePoolsFetchTracker (h : Inv s) : Inv (startStakePoolsFetchTracker s) :=
  (h.stopStakePoolsFetchTracker.setTracker
    (isFetchingStakePools_getStakePoolsData s.clearTracker false)).getStakePoolsData true

theorem Inv.stakePoolsFetchTracker (h : Inv s) (count : ℕ) : Inv (stakePoolsFetchTracker s count) := by
  have hcounted : Inv (countStakePools s count) :=
    ⟨h.owned, h.polling, h.refresh, h.tracker, h.tracker_ne, h.exclusive⟩
  unfold StakePoolsPolling.stakePoolsFetchTracker
  dsimp only
  split
  · exact hcounted.stopStakePoolsFetchTracker
  · exact hcounted

theorem Inv.pollOnSync (h : Inv s) : Inv (pollOnSync s) := by
  unfold StakePoolsPolling.pollOnSync
  split
  · exact h.getStakePoolsData false
  · have hranking : Inv (resetIsRanking s) :=
      ⟨h.owned, h.polling, h.refresh, h.tracker, h.tracker_ne, h.exclusive⟩
    exact hranking.resetPolling .kill

theorem Inv.step (h : Inv s) {e : Event} (hs : step s e = some s') : Inv s' := by
  cases e with
  | tick id count =>
      simp only [StakePoolsPolling.step] at hs
      split at hs
      · exact Option.some.inj hs ▸ h.getStakePoolsData _
      · exact Option.some.inj hs ▸ h.stakePoolsFetchTracker count
      · cases hs
  | settled k ok =>
      simp only [StakePoolsPolling.step] at hs
      split at hs
      · have hfetches : Inv { s with fetches := s.fetches.eraseIdx k } :=
          ⟨h.owned, h.polling, h.refresh, h.tracker, h.tracker_ne, h.exclusive⟩
        exact Option.some.inj hs ▸ hfetches.settle _ ok
      · cases hs
  | networkStatus networkStatus =>
      obtain rfl := Option.some.inj hs
      have hstatus : Inv { s with networkStatus := networkStatus } :=
        ⟨h.owned, h.polling, h.refresh, h.tracker, h.tracker_ne, h.exclusive⟩
      unfold onNetworkStatus
      dsimp only
      split
      · exact hstatus.pollOnSync
      · exact hstatus
  | rankStakePools =>
      have hranking : Inv { s with isRanking := true } :=
        ⟨h.owned, h.polling, h.refresh, h.tracker, h.tracker_ne, h.exclusive⟩
      exact Option.some.inj hs ▸ hranking.getStakePoolsData false
  | smashServerUpdated => exact Option.some.inj hs ▸ (h.getStakePoolsData false).startStakePoolsFetchTracker

theorem inv_setup (networkStatus : NetworkStatus) : Inv (setup networkStatus) := by
  have hempty : Inv { networkStatus := networkStatus } :=
    ⟨fun p hp => absurd hp List.not_mem_nil, fun id hid => (by cases hid), fun id hid => (by cases hid),
      fun hfetching => (by cases hfetching), fun id hid => (by cases hid), .inl rfl⟩
  exact (hempty.setRefresh rfl rfl).pollOnSync.startStakePoolsFetchTracker

theorem inv_of_reaches {networkStatus : NetworkStatus}
    (hr : (machine networkStatus).Reaches Machine.anyStep s) : Inv s :=
  hr.invariant (inv_setup networkStatus) fun _ _ _ _ _ h hs => h.step hs

/-- An interval that fetches the pools. -/
def isPoller (p : ℕ × Interval) : Bool :=
  match p.2.callback with
  | .getStakePoolsData _ => true
  | .stakePoolsFetchTracker => false

theorem Inv.poller_mem (h : Inv s) {p : ℕ × Interval} (hp : p ∈ s.timers.alive) (hpoller : isPoller p = true) :
    p.1 ∈ (s.pollingStakePoolsInterval.or s.refreshPolling).toList := by
  rcases h.owned p hp with ⟨hpolling, -⟩ | ⟨hrefresh, -⟩ | ⟨-, -, htracker⟩
  · simp [← hpolling]
  · have hnone : s.pollingStakePoolsInterval = none := h.exclusive.resolve_right (by simp [← hrefresh])
    simp [hnone, ← hrefresh]
  · exact absurd hpoller (by simp [isPoller, htracker, trackerInterval])

theorem Inv.tracker_mem (h : Inv s) {p : ℕ × Interval} (hp : p ∈ s.timers.alive) (htracker : isPoller p = false) :
    s.isFetchingStakePools = true ∧ p.1 ∈ s.stakePoolsFetchTrackerInterval.toList ∧ p.2 = trackerInterval := by
  rcases h.owned p hp with ⟨-, isSmash, hpolling⟩ | ⟨-, hrefresh⟩ | ⟨hfetching, hid, htracker⟩
  · exact absurd htracker (by simp [isPoller, hpolling, pollingInterval])
  · exact absurd htracker (by simp [isPoller, hrefresh, refreshInterval])
  · exact ⟨hfetching, by simp [← hid], htracker⟩

theorem length_toList_le (o : Option ℕ) : o.toList.length ≤ 1 := by
  cases o <;> simp

/-- In every reachable state at most one interval fetches the pools and at most one counts them, and the counting
    one is alive exactly while the store says that it is fetching. -/
theorem pollers_of_reaches {networkStatus : NetworkStatus}
    (hr : (machine networkStatus).Reaches Machine.anyStep s) :
    (s.timers.alive.filter isPoller).length ≤ 1 ∧ (s.timers.alive.filter (! isPoller ·)).length ≤ 1 ∧
      (s.isFetchingStakePools = true ↔ ∃ id, (id, trackerInterval) ∈ s.timers.alive) := by
  have h := inv_of_reaches hr
  have htracker : ∀ p ∈ s.timers.alive, (! isPoller p) = true → p.1 ∈ s.stakePoolsFetchTrackerInterval.toList :=
    fun p hp hnot => (h.tracker_mem hp (by simpa using hnot)).2.1
  refine ⟨?_, ?_, fun hfetching => ?_, ?_⟩
  · exact Nat.le_trans (Timers.length_alive_le fun p hp hpoller => h.poller_mem hp hpoller) (length_toList_le _)
  · exact Nat.le_trans (Timers.length_alive_le htracker) (length_toList_le _)
  · obtain ⟨id, -, hmem⟩ := h.tracker hfetching
    exact ⟨id, hmem⟩
  · rintro ⟨id, hmem⟩
    exact (h.tracker_mem hmem rfl).1

/-! ## The pools are fetched again -/

/-- While the network is synced, an interval is set or a request is awaited. -/
def Polled (s : State) : Prop :=
  s.networkStatus.isSynced = true → s.networkStatus.isSophieActivated = true →
    s.pollingStakePoolsInterval ≠ none ∨ s.refreshPolling ≠ none ∨ s.fetches ≠ []

theorem polled_getStakePoolsData (s : State) (isSmash : Bool) : Polled (getStakePoolsData s isSmash) := by
  unfold getStakePoolsData
  split
  · next hstopped =>
      intro hsynced hsophie
      have hconnected := s.networkStatus.connected_of_synced hsynced
      simp only [resetIsRanking] at hsynced hsophie
      simp [hsynced, hsophie, hconnected] at hstopped
  · exact fun _ _ => .inr (.inr (by simp))

theorem polled_resetPolling (s : State) {type : ResetType} (htype : type ≠ .kill) : Polled (resetPolling s type) := by
  intro _ _
  cases type with
  | kill => exact absurd rfl htype
  | failed =>
      simp only [resetPolling]
      split
      · exact .inr (.inl (by simp [State.setRefresh]))
      · next hsome => exact .inr (.inl hsome)
  | regular => exact .inl (by simp [resetPolling, State.setPolling])
  | smash => exact .inl (by simp [resetPolling, State.setPolling])

theorem polled_pollOnSync (s : State) : Polled (pollOnSync s) := by
  unfold pollOnSync
  split
  · exact polled_getStakePoolsData s false
  · next hstopped =>
      intro hsynced hsophie
      exact absurd (Bool.and_eq_true_iff.2 ⟨hsynced, hsophie⟩) hstopped

theorem Polled.step (h : Polled s) {e : Event} (hs : step s e = some s') : Polled s' := by
  cases e with
  | tick id count =>
      simp only [StakePoolsPolling.step] at hs
      split at hs
      · exact Option.some.inj hs ▸ polled_getStakePoolsData s _
      · refine Option.some.inj hs ▸ ?_
        unfold stakePoolsFetchTracker
        dsimp only
        split
        · exact polled_getStakePoolsData _ false
        · exact h
      · cases hs
  | settled k ok =>
      simp only [StakePoolsPolling.step] at hs
      split at hs
      · next isSmash _ =>
          have hkind : (if ok then if isSmash then ResetType.smash else .regular else .failed) ≠ .kill := by
            cases ok <;> cases isSmash <;> decide
          exact Option.some.inj hs ▸ polled_resetPolling { s with fetches := s.fetches.eraseIdx k } hkind
      · cases hs
  | networkStatus networkStatus =>
      obtain rfl := Option.some.inj hs
      unfold onNetworkStatus
      dsimp only
      split
      · exact polled_pollOnSync _
      · next hsame =>
          rw [not_or, not_not, not_not] at hsame
          intro hsynced hsophie
          exact h (hsame.1.trans hsynced) (hsame.2.trans hsophie)
  | rankStakePools => exact Option.some.inj hs ▸ polled_getStakePoolsData _ false
  | smashServerUpdated => exact Option.some.inj hs ▸ polled_getStakePoolsData _ true

/-- As long as the network is synced and active, the pools are fetched again: a request is awaited, or an
    interval is alive that starts one. -/
theorem polled_of_reaches {networkStatus : NetworkStatus}
    (hr : (machine networkStatus).Reaches Machine.anyStep s) (hsynced : s.networkStatus.isSynced = true)
    (hsophie : s.networkStatus.isSophieActivated = true) :
    s.fetches ≠ [] ∨ ∃ p ∈ s.timers.alive, isPoller p = true := by
  have h := inv_of_reaches hr
  have hpolled : Polled s :=
    hr.invariant (polled_getStakePoolsData _ true) fun _ _ _ _ _ hi hs => hi.step hs
  rcases hpolled hsynced hsophie with hpolling | hrefresh | hfetches
  · obtain ⟨id, hid⟩ := Option.ne_none_iff_exists'.1 hpolling
    obtain ⟨isSmash, hmem⟩ := h.polling id hid
    exact .inr ⟨_, hmem, rfl⟩
  · obtain ⟨id, hid⟩ := Option.ne_none_iff_exists'.1 hrefresh
    exact .inr ⟨_, h.refresh id hid, rfl⟩
  · exact .inl hfetches

/-! ## The tracker -/

/-- What the store knows of its tracker. -/
def State.tracker (s : State) : Option ℕ × Bool × ℕ × ℕ :=
  (s.stakePoolsFetchTrackerInterval, s.isFetchingStakePools, s.numberOfStakePoolsFetched,
    s.cyclesWithoutIncreasingStakePools)

theorem tracker_getStakePoolsData (s : State) (isSmash : Bool) : (getStakePoolsData s isSmash).tracker = s.tracker := by
  unfold getStakePoolsData
  split <;> rfl

theorem tracker_resetPolling (s : State) (type : ResetType) : (resetPolling s type).tracker = s.tracker := by
  cases type with
  | failed =>
      simp only [resetPolling]
      split <;> rfl
  | _ => rfl

theorem tracker_pollOnSync (s : State) : (pollOnSync s).tracker = s.tracker := by
  unfold pollOnSync
  split
  · exact tracker_getStakePoolsData s false
  · exact tracker_resetPolling (resetIsRanking s) .kill

/-- The numbers of pools that the tracker with an id was told. -/
def counts (id : ℕ) (es : List Event) : List ℕ :=
  es.filterMap fun
    | .tick j count => if j = id then some count else none
    | _ => none

/-- A tracker that has been told some numbers: it counts until it has stopped. -/
structure Tracking (id : ℕ) (told : List ℕ) (s : State) : Prop where
  inv : Inv s
  handle : s.stakePoolsFetchTrackerInterval = some id
  counting : s.isFetchingStakePools = true →
    (s.numberOfStakePoolsFetched, s.cyclesWithoutIncreasingStakePools) = Streak.run told ∧
      s.cyclesWithoutIncreasingStakePools < stakePoolsFetchTrackerCycles
  stopped : s.isFetchingStakePools = false → stakePoolsFetchTrackerCycles ≤ (Streak.run told).2

theorem Tracking.of_tracker_eq {id : ℕ} {told : List ℕ} (h : Tracking id told s) (hinv : Inv s')
    (heq : s'.tracker = s.tracker) : Tracking id told s' := by
  simp only [State.tracker, Prod.mk.injEq] at heq
  obtain ⟨hhandle, hfetching, hnumber, hcycles⟩ := heq
  refine ⟨hinv, hhandle.trans h.handle, fun hs => ?_, fun hs => h.stopped (hfetching ▸ hs)⟩
  rw [hnumber, hcycles]
  exact h.counting (hfetching ▸ hs)

theorem Tracking.tick {id count : ℕ} {told : List ℕ} (h : Tracking id told s) (hs' : Inv (stakePoolsFetchTracker s count))
    (hfetching : s.isFetchingStakePools = true) :
    Tracking id (told ++ [count]) (stakePoolsFetchTracker s count) := by
  have hrun : ((countStakePools s count).numberOfStakePoolsFetched,
      (countStakePools s count).cyclesWithoutIncreasingStakePools) = Streak.run (told ++ [count]) := by
    rw [Streak.run_concat, ← (h.counting hfetching).1]
    rfl
  have hcycles := congrArg Prod.snd hrun
  unfold stakePoolsFetchTracker at hs' ⊢
  dsimp only at hs' ⊢
  split at hs'
  · next hstop =>
      rw [if_pos hstop]
      have hsame := tracker_getStakePoolsData (countStakePools s count).clearTracker false
      simp only [State.tracker, Prod.mk.injEq] at hsame
      refine ⟨hs', hsame.1.trans h.handle, fun hs => ?_, fun _ => hcycles ▸ hstop⟩
      exact absurd (hsame.2.1.symm.trans hs) (by simp [State.clearTracker])
  · next hstop =>
      rw [if_neg hstop]
      refine ⟨hs', h.handle, fun _ => ⟨hrun, Nat.lt_of_not_le hstop⟩, fun hs => ?_⟩
      exact absurd (hfetching.symm.trans hs) (by simp)

theorem Tracking.step {id : ℕ} {told : List ℕ} (h : Tracking id told s) {e : Event} (hs : step s e = some s')
    (hrestart : e ≠ .smashServerUpdated) : Tracking id (told ++ counts id [e]) s' := by
  have hinv := h.inv.step hs
  cases e with
  | tick j count =>
      simp only [StakePoolsPolling.step] at hs
      split at hs
      · next isSmash period hcallback =>
          obtain rfl := Option.some.inj hs
          have hmem := Timers.mem_of_callback_eq_some hcallback
          have hne : j ≠ id := by
            rintro rfl
            obtain ⟨-, hpolling, hrefresh⟩ := h.inv.tracker_ne j h.handle
            rcases h.inv.owned _ hmem with ⟨howned, -⟩ | ⟨howned, -⟩ | ⟨-, -, howned⟩
            · exact hpolling howned.symm
            · exact hrefresh howned.symm
            · cases howned
          have hcounts : counts id [.tick j count] = [] := by simp [counts, hne]
          rw [hcounts, List.append_nil]
          exact h.of_tracker_eq hinv (tracker_getStakePoolsData s isSmash)
      · next period hcallback =>
          obtain rfl := Option.some.inj hs
          have hmem := Timers.mem_of_callback_eq_some hcallback
          obtain ⟨hfetching, hid, -⟩ := h.inv.tracker_mem hmem rfl
          rw [h.handle] at hid
          obtain rfl : j = id := by simpa using hid
          have hcounts : counts j [.tick j count] = [count] := by simp [counts]
          rw [hcounts]
          exact h.tick hinv hfetching
      · cases hs
  | settled k ok =>
      rw [show counts id [.settled k ok] = [] from rfl, List.append_nil]
      refine h.of_tracker_eq hinv ?_
      simp only [StakePoolsPolling.step] at hs
      split at hs
      · obtain rfl := Option.some.inj hs
        exact tracker_resetPolling { s with fetches := s.fetches.eraseIdx k } _
      · cases hs
  | networkStatus networkStatus =>
      rw [show counts id [.networkStatus networkStatus] = [] from rfl, List.append_nil]
      refine h.of_tracker_eq hinv ?_
      obtain rfl := Option.some.inj hs
      unfold onNetworkStatus
      dsimp only
      split
      · exact tracker_pollOnSync _
      · rfl
  | rankStakePools =>
      rw [show counts id [.rankStakePools] = [] from rfl, List.append_nil]
      exact h.of_tracker_eq hinv (Option.some.inj hs ▸ tracker_getStakePoolsData { s with isRanking := true } false)
  | smashServerUpdated => exact absurd rfl hrestart

theorem Tracking.exec {networkStatus : NetworkStatus} {id : ℕ} {told : List ℕ} (es : List Event) (h : Tracking id told s)
    (hrestart : ∀ e ∈ es, e ≠ .smashServerUpdated) (hs : (machine networkStatus).exec s es = some s') :
    Tracking id (told ++ counts id es) s' := by
  induction es generalizing s told with
  | nil =>
      obtain rfl := Option.some.inj hs
      rw [show counts id [] = [] from rfl, List.append_nil]
      exact h
  | cons e es ih =>
      obtain ⟨t, ht, hrest⟩ := Machine.exec_cons_eq_some.1 hs
      obtain ⟨he, hes⟩ := List.forall_mem_cons.1 hrestart
      have hcounts : counts id (e :: es) = counts id [e] ++ counts id es := by
        rw [← List.singleton_append, counts, List.filterMap_append]
        rfl
      rw [hcounts, ← List.append_assoc]
      exact ih (h.step ht he) hes hrest

/-- Whatever else happens after a start of the tracker that is not another start, it stops exactly when it has seen
    the same number of pools above zero seven times in a row. -/
theorem tracker_stopped_iff {networkStatus networkStatus' : NetworkStatus} {es : List Event}
    (hr : (machine networkStatus).Reaches Machine.anyStep s)
    (hs : (machine networkStatus').exec (startStakePoolsFetchTracker s) es = some s')
    (hrestart : ∀ e ∈ es, e ≠ .smashServerUpdated) :
    s'.isFetchingStakePools = false ↔
      ∃ n, 0 < n ∧ List.replicate (stakePoolsFetchTrackerCycles + 1) n <:+
        counts (stopStakePoolsFetchTracker s).timers.next es := by
  have hinv := inv_of_reaches hr
  have hstart : Tracking (stopStakePoolsFetchTracker s).timers.next [] (startStakePoolsFetchTracker s) := by
    have hsame := tracker_getStakePoolsData (stopStakePoolsFetchTracker s).setTracker true
    have hzero := tracker_getStakePoolsData s.clearTracker false
    simp only [State.tracker, Prod.mk.injEq] at hsame hzero
    refine ⟨hinv.startStakePoolsFetchTracker, hsame.1, fun _ => ?_, fun hstopped => ?_⟩
    · have hnumber : (startStakePoolsFetchTracker s).numberOfStakePoolsFetched = 0 :=
        hsame.2.2.1.trans hzero.2.2.1
      have hcycles : (startStakePoolsFetchTracker s).cyclesWithoutIncreasingStakePools = 0 :=
        hsame.2.2.2.trans hzero.2.2.2
      rw [hnumber, hcycles]
      exact ⟨rfl, by decide⟩
    · exact absurd (hsame.2.1.symm.trans hstopped) (by simp [State.setTracker])
  have htracking := hstart.exec es hrestart hs
  rw [List.nil_append] at htracking
  have hstreak := Streak.le_run_iff (counts (stopStakePoolsFetchTracker s).timers.next es) 5
  constructor
  · exact fun hstopped => hstreak.1 (htracking.stopped hstopped)
  · intro hsuffix
    by_contra hfetching
    obtain ⟨hrun, hlt⟩ := htracking.counting (by simpa using hfetching)
    have hle := hstreak.2 hsuffix
    rw [← hrun] at hle
    exact absurd hle (Nat.not_le_of_lt hlt)

/-! ## A network that is synced -/

def synced : NetworkStatus where
  isConnected := true
  isSynced := true
  isSophieActivated := true
  connected_of_synced _ := rfl

/-- The first request succeeds, and the second one fails. -/
def fetched : State :=
  ((machine synced).exec (setup synced) [.settled 0 true, .settled 0 false]).get (by decide)

theorem reaches_fetched : (machine synced).Reaches Machine.anyStep fetched :=
  Machine.reaches_of_exec [.settled 0 true, .settled 0 false] (Option.some_get _).symm

theorem pollers_of_reaches_fetched :
    (fetched.timers.alive.filter isPoller).length ≤ 1 ∧ (fetched.timers.alive.filter (! isPoller ·)).length ≤ 1 ∧
      (fetched.isFetchingStakePools = true ↔ ∃ id, (id, trackerInterval) ∈ fetched.timers.alive) :=
  pollers_of_reaches reaches_fetched

theorem polled_of_reaches_fetched : fetched.fetches ≠ [] ∨ ∃ p ∈ fetched.timers.alive, isPoller p = true :=
  polled_of_reaches reaches_fetched (by decide) (by decide)

/-- The tracker is told of five pools, seven times. -/
def sevenTimes : List Event := List.replicate 7 (.tick 2 5)

def tracked : State :=
  ((machine synced).exec (startStakePoolsFetchTracker (setup synced)) sevenTimes).get (by decide)

theorem exec_sevenTimes :
    (machine synced).exec (startStakePoolsFetchTracker (setup synced)) sevenTimes = some tracked :=
  (Option.some_get _).symm

theorem tracker_stopped_iff_tracked : tracked.isFetchingStakePools = false :=
  (tracker_stopped_iff (.init : (machine synced).Reaches Machine.anyStep _) exec_sevenTimes
    (by simp [sevenTimes])).2 ⟨5, by decide, List.suffix_refl _⟩

end Klarity.StakePoolsPolling
