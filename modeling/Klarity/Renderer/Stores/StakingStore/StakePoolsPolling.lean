import Klarity.Library.Machine
import Klarity.Library.Timers

set_option autoImplicit false

/-! # Polling the stake pools

The list of the stake pools is fetched at intervals: a fast one until the first success and after a failure, a
regular or a fast one after a success, depending on what was asked for. While a new metadata server fills the
list, a tracker counts the pools and stops when their number has not changed for some time. -/

namespace Klarity.StakePoolsPolling

/-! ## Constants, in milliseconds -/

def stakePoolsInterval : ℕ := 60 * 1000

def stakePoolsFastInterval : ℕ := 1000

def stakePoolsFetchTrackerInterval : ℕ := 30 * 1000

def stakePoolsFetchTrackerCycles : ℕ := 6

/-! ## The store -/

inductive Callback
  | getStakePoolsData (isSmash : Bool)
  | stakePoolsFetchTracker
  deriving DecidableEq

structure Interval where
  callback : Callback
  period : ℕ
  deriving DecidableEq

/-- What `getStakePoolsData()` reads of the network. `isSynced` is computed of `isConnected` and more. -/
structure NetworkStatus where
  isConnected : Bool
  isSynced : Bool
  isSophieActivated : Bool
  connected_of_synced : isSynced = true → isConnected = true

/-- `fetches` are the calls of `getStakePoolsData()` that await their request. -/
structure State where
  timers : Timers Interval := {}
  networkStatus : NetworkStatus
  pollingStakePoolsInterval : Option ℕ := none
  refreshPolling : Option ℕ := none
  stakePoolsFetchTrackerInterval : Option ℕ := none
  fetchingStakePoolsFailed : Bool := false
  isRanking : Bool := false
  isFetchingStakePools : Bool := false
  numberOfStakePoolsFetched : ℕ := 0
  cyclesWithoutIncreasingStakePools : ℕ := 0
  fetches : List Bool := []

inductive ResetType
  | regular | failed | kill | smash
  deriving DecidableEq

/-- What an interval that was cleared is set to. -/
def State.clearPolling (s : State) : State :=
  { s with timers := s.timers.clearInterval s.pollingStakePoolsInterval, pollingStakePoolsInterval := none }

def State.clearRefresh (s : State) : State :=
  { s with timers := s.timers.clearInterval s.refreshPolling, refreshPolling := none }

def refreshInterval : Interval := { callback := .getStakePoolsData false, period := stakePoolsFastInterval }

def pollingInterval (isSmash : Bool) : Interval where
  callback := .getStakePoolsData isSmash
  period := if isSmash then stakePoolsFetchTrackerInterval else stakePoolsInterval

def State.setRefresh (s : State) : State :=
  { s with timers := s.timers.setInterval refreshInterval, refreshPolling := some s.timers.next }

def State.setPolling (s : State) (isSmash : Bool) : State :=
  { s with
    timers := s.timers.setInterval (pollingInterval isSmash)
    pollingStakePoolsInterval := some s.timers.next }

def resetPolling (s : State) : ResetType → State
  | .kill => ({ s with fetchingStakePoolsFailed := true } : State).clearPolling.clearRefresh
  | .failed =>
      let cleared := ({ s with fetchingStakePoolsFailed := true } : State).clearPolling
      if cleared.refreshPolling = none then cleared.setRefresh else cleared
  | type =>
      ({ s with fetchingStakePoolsFailed := false } : State).clearRefresh.clearPolling.setPolling (type = .smash)

def resetIsRanking (s : State) : State := { s with isRanking := false }

/-- Up to its request. -/
def getStakePoolsData (s : State) (isSmash : Bool) : State :=
  if ! s.networkStatus.isSophieActivated || ! s.networkStatus.isConnected || ! s.networkStatus.isSynced then
    resetIsRanking s
  else { s with fetches := s.fetches ++ [isSmash] }

/-- From the answer of its request on. -/
def settle (s : State) (isSmash ok : Bool) : State :=
  let type : ResetType := if ok then if isSmash then .smash else .regular else .failed
  resetIsRanking (resetPolling s type)

def stopStakePoolsFetchTracker (s : State) : State :=
  getStakePoolsData
    { s with
      timers := s.timers.clearInterval s.stakePoolsFetchTrackerInterval
      numberOfStakePoolsFetched := 0
      cyclesWithoutIncreasingStakePools := 0
      isFetchingStakePools := false }
    false

def trackerInterval : Interval :=
  { callback := .stakePoolsFetchTracker, period := stakePoolsFetchTrackerInterval }

def startStakePoolsFetchTracker (s : State) : State :=
  let stopped := stopStakePoolsFetchTracker s
  getStakePoolsData
    { stopped with
      isFetchingStakePools := true
      timers := stopped.timers.setInterval trackerInterval
      stakePoolsFetchTrackerInterval := some stopped.timers.next }
    true

/-- `count` is `this.stakePools.length`. -/
def countStakePools (s : State) (count : ℕ) : State :=
  { s with
    numberOfStakePoolsFetched := count
    cyclesWithoutIncreasingStakePools :=
      if s.numberOfStakePoolsFetched = count ∧ count > 0 then s.cyclesWithoutIncreasingStakePools + 1 else 0 }

def stakePoolsFetchTracker (s : State) (count : ℕ) : State :=
  let counted := countStakePools s count
  if counted.cyclesWithoutIncreasingStakePools ≥ stakePoolsFetchTrackerCycles then
    stopStakePoolsFetchTracker counted
  else counted

def pollOnSync (s : State) : State :=
  if s.networkStatus.isSynced && s.networkStatus.isSophieActivated then getStakePoolsData s false
  else resetPolling (resetIsRanking s) .kill

def setup (networkStatus : NetworkStatus) : State :=
  startStakePoolsFetchTracker (pollOnSync (State.setRefresh { networkStatus := networkStatus }))

/-! ## The machine -/

inductive Event
  | tick (id count : ℕ)
  | settled (k : ℕ) (ok : Bool)
  | networkStatus (networkStatus : NetworkStatus)
  | rankStakePools
  | smashServerUpdated

/-- `_pollOnSync` is a reaction: it runs when one of the two values that it reads changes. -/
def onNetworkStatus (s : State) (networkStatus : NetworkStatus) : State :=
  let changed := s.networkStatus.isSynced ≠ networkStatus.isSynced ∨
    s.networkStatus.isSophieActivated ≠ networkStatus.isSophieActivated
  let s' := { s with networkStatus := networkStatus }
  if changed then pollOnSync s' else s'

def step (s : State) : Event → Option State
  | .tick id count =>
      match s.timers.callback id with
      | some ⟨.getStakePoolsData isSmash, _⟩ => some (getStakePoolsData s isSmash)
      | some ⟨.stakePoolsFetchTracker, _⟩ => some (stakePoolsFetchTracker s count)
      | none => none
  | .settled k ok =>
      match s.fetches[k]? with
      | some isSmash => some (settle { s with fetches := s.fetches.eraseIdx k } isSmash ok)
      | none => none
  | .networkStatus networkStatus => some (onNetworkStatus s networkStatus)
  | .rankStakePools => some (getStakePoolsData { s with isRanking := true } false)
  -- a new metadata server was accepted
  | .smashServerUpdated => some (startStakePoolsFetchTracker (getStakePoolsData s false))

def machine (networkStatus : NetworkStatus) : Machine State Event where
  init := setup networkStatus
  step := step

end Klarity.StakePoolsPolling
