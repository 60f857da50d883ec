import Klarity.Library.Machine
import Klarity.Library.Timers

set_option autoImplicit false

/-! # Polling the news

The news are fetched when Klarity starts and then at intervals: every thirty minutes, every ten minutes while an
incident is among them, and every minute while none have been fetched at all. Calls of `getNews()` overlap, since
each awaits its requests, and each sets the intervals when its request is answered.

`one_interval` says that exactly one interval is alive at any time, and which one after an answer. -/

namespace Klarity.NewsFeedPolling

/-- A news item: whether it is an incident, and whether it is an alert that is repeated on startup. -/
structure NewsItem where
  isIncident : Bool
  isRepeatable : Bool
  deriving DecidableEq

/-! ## Intervals in milliseconds -/

def newsPollInterval : ℕ := 30 * 60 * 1000

def newsPollIntervalOnError : ℕ := 60 * 1000

def newsPollIntervalOnIncident : ℕ := 10 * 60 * 1000

/-- How far a call of `getNews()` has come: its request, the request that marks an alert as unread, and the request
    of the read news, after which the news that it got are stored. -/
inductive Phase
  | fetching (isInit : Bool)
  | markingAsUnread (news : List NewsItem)
  | gettingReadNews (news : Option (List NewsItem))
  | done
  deriving DecidableEq

/-- Every interval calls `getNews()`; `alive` has their periods. -/
structure State where
  timers : Timers ℕ := {}
  pollingNewsIntervalId : Option ℕ := none
  pollingNewsOnErrorIntervalId : Option ℕ := none
  pollingNewsOnIncidentIntervalId : Option ℕ := none
  rawNews : Option (List NewsItem) := none
  fetchingNewsFailed : Bool := false
  calls : List Phase := []

namespace State

def call (s : State) (isInit : Bool) : State := { s with calls := s.calls ++ [.fetching isInit] }

def setPhase (s : State) (k : ℕ) (phase : Phase) : State := { s with calls := s.calls.set k phase }

def clearRegular (s : State) : State :=
  { s with timers := s.timers.clearInterval s.pollingNewsIntervalId, pollingNewsIntervalId := none }

def clearOnError (s : State) : State :=
  { s with timers := s.timers.clearInterval s.pollingNewsOnErrorIntervalId, pollingNewsOnErrorIntervalId := none }

def clearOnIncident (s : State) : State :=
  { s with
    timers := s.timers.clearInterval s.pollingNewsOnIncidentIntervalId
    pollingNewsOnIncidentIntervalId := none }

def setRegular (s : State) : State :=
  { s with timers := s.timers.setInterval newsPollInterval, pollingNewsIntervalId := some s.timers.next }

def setOnError (s : State) : State :=
  { s with
    timers := s.timers.setInterval newsPollIntervalOnError
    pollingNewsOnErrorIntervalId := some s.timers.next }

def setOnIncident (s : State) : State :=
  { s with
    timers := s.timers.setInterval newsPollIntervalOnIncident
    pollingNewsOnIncidentIntervalId := some s.timers.next }

end State

def hasIncident (news : List NewsItem) : Bool := news.any (·.isIncident)

def resetOnError (s : State) (hasIncident : Bool) : State :=
  if s.pollingNewsOnErrorIntervalId.isSome then
    if hasIncident then s.clearOnError else s.clearOnError.setRegular
  else s

def enterIncident (s : State) (hasIncident : Bool) : State :=
  if hasIncident && s.pollingNewsOnIncidentIntervalId.isNone then s.clearRegular.setOnIncident else s

def leaveIncident (s : State) (hasIncident : Bool) : State :=
  if ! hasIncident && s.pollingNewsOnIncidentIntervalId.isSome then s.clearOnIncident.setRegular else s

/-- What `getNews()` does once it has the news. -/
def onNews (s : State) (news : List NewsItem) : State :=
  let incident := hasIncident news
  { leaveIncident (enterIncident (resetOnError s incident) incident) incident with fetchingNewsFailed := false }

def resetIntervals (s : State) : State :=
  let cleared := s.clearRegular.clearOnIncident
  if cleared.pollingNewsOnErrorIntervalId.isNone then cleared.setOnError else cleared

/-- What `getNews()` does when something has failed. -/
def onError (s : State) : State :=
  { if s.rawNews.isNone then resetIntervals s else s with fetchingNewsFailed := true }

def setup : State := (State.call {} true).setRegular

/-- `fetched` and `markedAsUnread` are the answers of the two requests, with nothing for an error; `gotReadNews` is
    the answer of the last request, which makes the call end without storing anything when it is an error. -/
inductive Event
  | tick (id : ℕ)
  | fetched (k : ℕ) (news : Option (List NewsItem))
  | markedAsUnread (k : ℕ) (ok : Bool)
  | gotReadNews (k : ℕ) (ok : Bool)

def step (s : State) : Event → Option State
  | .tick id => (s.timers.callback id).map fun _ => s.call false
  | .fetched k answer =>
      match s.calls[k]? with
      | some (.fetching isInit) =>
          match answer with
          | some news =>
              if isInit && news.any (·.isRepeatable) then some (s.setPhase k (.markingAsUnread news))
              else some ((onNews s news).setPhase k (.gettingReadNews (some news)))
          | none => some ((onError s).setPhase k (.gettingReadNews none))
      | _ => none
  | .markedAsUnread k ok =>
      match s.calls[k]? with
      | some (.markingAsUnread news) =>
          if ok then some ((onNews s news).setPhase k (.gettingReadNews (some news)))
          -- the news are there, and yet it counts as an error
          else some ((onError s).setPhase k (.gettingReadNews (some news)))
      | _ => none
  | .gotReadNews k ok =>
      match s.calls[k]? with
      | some (.gettingReadNews news) =>
          some { s.setPhase k .done with rawNews := if ok then news.or s.rawNews else s.rawNews }
      | _ => none

def machine : Machine State Event where
  init := setup
  step := step

/-! ## One interval -/

/-- The only interval that is alive is under the handle of its period, and the other handles are not set. -/
inductive Alive (s : State) : ℕ → Prop
  | regular {id : ℕ} : s.timers.alive = [(id, newsPollInterval)] → s.pollingNewsIntervalId = some id →
      s.pollingNewsOnErrorIntervalId = none → s.pollingNewsOnIncidentIntervalId = none → Alive s newsPollInterval
  | onError {id : ℕ} : s.timers.alive = [(id, newsPollIntervalOnError)] → s.pollingNewsIntervalId = none →
      s.pollingNewsOnErrorIntervalId = some id → s.pollingNewsOnIncidentIntervalId = none →
      Alive s newsPollIntervalOnError
  | onIncident {id : ℕ} : s.timers.alive = [(id, newsPollIntervalOnIncident)] → s.pollingNewsIntervalId = none →
      s.pollingNewsOnErrorIntervalId = none → s.pollingNewsOnIncidentIntervalId = some id →
      Alive s newsPollIntervalOnIncident

variable {s s' : State}

theorem Alive.periods {period : ℕ} (h : Alive s period) : s.timers.alive.map Prod.snd = [period] := by
  cases h with
  | regular halive => rw [halive]; rfl
  | onError halive => rw [halive]; rfl
  | onIncident halive => rw [halive]; rfl

/-- Only the intervals and their handles matter. -/
theorem Alive.congr {period : ℕ} (h : Alive s period) (ht : s'.timers = s.timers)
    (hr : s'.pollingNewsIntervalId = s.pollingNewsIntervalId)
    (he : s'.pollingNewsOnErrorIntervalId = s.pollingNewsOnErrorIntervalId)
    (hi : s'.pollingNewsOnIncidentIntervalId = s.pollingNewsOnIncidentIntervalId) : Alive s' period := by
  cases h with
  | regular halive hregular herror hincident =>
      exact .regular (ht ▸ halive) (hr.trans hregular) (he.trans herror) (hi.trans hincident)
  | onError halive hregular herror hincident =>
      exact .onError (ht ▸ halive) (hr.trans hregular) (he.trans herror) (hi.trans hincident)
  | onIncident halive hregular herror hincident =>
      exact .onIncident (ht ▸ halive) (hr.trans hregular) (he.trans herror) (hi.trans hincident)

/-- No interval is alive, and no handle is set. -/
structure Idle (s : State) : Prop where
  alive : s.timers.alive = []
  regular : s.pollingNewsIntervalId = none
  onError : s.pollingNewsOnErrorIntervalId = none
  onIncident : s.pollingNewsOnIncidentIntervalId = none

theorem alive_clearInterval_self {t : Timers ℕ} {id period : ℕ} (h : t.alive = [(id, period)]) :
    (t.clearInterval (some id)).alive = [] := by
  simp [Timers.clearInterval, h]

theorem alive_setInterval_of_nil {t : Timers ℕ} (h : t.alive = []) (period : ℕ) :
    (t.setInterval period).alive = [(t.next, period)] := by
  simp [h]

theorem Idle.setRegular (h : Idle s) : Alive s.setRegular newsPollInterval :=
  .regular (alive_setInterval_of_nil h.alive _) rfl h.onError h.onIncident

theorem Idle.setOnError (h : Idle s) : Alive s.setOnError newsPollIntervalOnError :=
  .onError (alive_setInterval_of_nil h.alive _) h.regular rfl h.onIncident

theorem Idle.setOnIncident (h : Idle s) : Alive s.setOnIncident newsPollIntervalOnIncident :=
  .onIncident (alive_setInterval_of_nil h.alive _) h.regular h.onError rfl

theorem idle_clearRegular {id : ℕ} (halive : s.timers.alive = [(id, newsPollInterval)])
    (hregular : s.pollingNewsIntervalId = some id) (herror : s.pollingNewsOnErrorIntervalId = none)
    (hincident : s.pollingNewsOnIncidentIntervalId = none) : Idle s.clearRegular :=
  ⟨by
    show (s.timers.clearInterval s.pollingNewsIntervalId).alive = []
    rw [hregular, alive_clearInterval_self halive], rfl, herror, hincident⟩

theorem idle_clearOnError {id : ℕ} (halive : s.timers.alive = [(id, newsPollIntervalOnError)])
    (hregular : s.pollingNewsIntervalId = none) (herror : s.pollingNewsOnErrorIntervalId = some id)
    (hincident : s.pollingNewsOnIncidentIntervalId = none) : Idle s.clearOnError :=
  ⟨by
    show (s.timers.clearInterval s.pollingNewsOnErrorIntervalId).alive = []
    rw [herror, alive_clearInterval_self halive], hregular, rfl, hincident⟩

theorem idle_clearOnIncident {id : ℕ} (halive : s.timers.alive = [(id, newsPollIntervalOnIncident)])
    (hregular : s.pollingNewsIntervalId = none) (herror : s.pollingNewsOnErrorIntervalId = none)
    (hincident : s.pollingNewsOnIncidentIntervalId = some id) : Idle s.clearOnIncident :=
  ⟨by
    show (s.timers.clearInterval s.pollingNewsOnIncidentIntervalId).alive = []
    rw [hincident, alive_clearInterval_self halive], hregular, herror, rfl⟩

theorem alive_clearInterval_none (t : Timers ℕ) : (t.clearInterval none).alive = t.alive := by
  simp [Timers.clearInterval]

/-- A handle that is not set clears nothing. -/
theorem Idle.clearRegular (h : Idle s) : Idle s.clearRegular :=
  ⟨by
    show (s.timers.clearInterval s.pollingNewsIntervalId).alive = []
    rw [h.regular, alive_clearInterval_none, h.alive], rfl, h.onError, h.onIncident⟩

theorem Idle.clearOnIncident (h : Idle s) : Idle s.clearOnIncident :=
  ⟨by
    show (s.timers.clearInterval s.pollingNewsOnIncidentIntervalId).alive = []
    rw [h.onIncident, alive_clearInterval_none, h.alive], h.regular, h.onError, rfl⟩

/-- After an answer with news the interval is the regular one or the one for incidents. -/
theorem alive_onNews {period : ℕ} (h : Alive s period) (news : List NewsItem) :
    Alive (onNews s news) (if hasIncident news then newsPollIntervalOnIncident else newsPollInterval) := by
  have hintervals : Alive (leaveIncident (enterIncident (resetOnError s (hasIncident news)) (hasIncident news))
      (hasIncident news)) (if hasIncident news then newsPollIntervalOnIncident else newsPollInterval) := by
    cases h with
    | regular halive hregular herror hincident =>
        have hreset : resetOnError s (hasIncident news) = s := by simp [resetOnError, herror]
        rw [hreset]
        cases hasIncident news with
        | true =>
            have henter : enterIncident s true = s.clearRegular.setOnIncident := by simp [enterIncident, hincident]
            rw [henter]
            exact (idle_clearRegular halive hregular herror hincident).setOnIncident
        | false =>
            have hleave : leaveIncident (enterIncident s false) false = s := by
              simp [enterIncident, leaveIncident, hincident]
            rw [hleave]
            exact .regular halive hregular herror hincident
    | onError halive hregular herror hincident =>
        have hidle := idle_clearOnError halive hregular herror hincident
        cases hasIncident news with
        | true =>
            have henter : enterIncident (resetOnError s true) true = s.clearOnError.clearRegular.setOnIncident := by
              simp [resetOnError, herror, enterIncident, hidle.onIncident]
            rw [henter]
            exact hidle.clearRegular.setOnIncident
        | false =>
            have hreset : resetOnError s false = s.clearOnError.setRegular := by simp [resetOnError, herror]
            have hleave : leaveIncident (enterIncident s.clearOnError.setRegular false) false =
                s.clearOnError.setRegular := by
              simp [enterIncident, leaveIncident, State.setRegular, hidle.onIncident]
            rw [hreset, hleave]
            exact hidle.setRegular
    | onIncident halive hregular herror hincident =>
        have hreset : resetOnError s (hasIncident news) = s := by simp [resetOnError, herror]
        rw [hreset]
        cases hasIncident news with
        | true =>
            have hstay : leaveIncident (enterIncident s true) true = s := by
              simp [enterIncident, leaveIncident, hincident]
            rw [hstay]
            exact .onIncident halive hregular herror hincident
        | false =>
            have hleave : leaveIncident (enterIncident s false) false = s.clearOnIncident.setRegular := by
              simp [enterIncident, leaveIncident, hincident]
            rw [hleave]
            exact (idle_clearOnIncident halive hregular herror hincident).setRegular
  exact hintervals.congr rfl rfl rfl rfl

/-- After an error the interval is the one for errors, as long as no news have been stored, and stays otherwise. -/
theorem alive_onError {period : ℕ} (h : Alive s period) :
    Alive (onError s) (if s.rawNews = none then newsPollIntervalOnError else period) := by
  have hintervals : Alive (if s.rawNews.isNone then resetIntervals s else s)
      (if s.rawNews = none then newsPollIntervalOnError else period) := by
    cases hraw : s.rawNews with
    | some news => exact h
    | none =>
        simp only [Option.isNone_none, if_true]
        cases h with
        | regular halive hregular herror hincident =>
            have hidle := (idle_clearRegular halive hregular herror hincident).clearOnIncident
            have hreset : resetIntervals s = s.clearRegular.clearOnIncident.setOnError := by
              simp [resetIntervals, hidle.onError]
            rw [hreset]
            exact hidle.setOnError
        | onError halive hregular herror hincident =>
            have hreset : resetIntervals s = s.clearRegular.clearOnIncident := by
              simp [resetIntervals, State.clearRegular, State.clearOnIncident, herror]
            rw [hreset]
            refine .onError ?_ rfl herror rfl
            show ((s.timers.clearInterval s.pollingNewsIntervalId).clearInterval
              s.pollingNewsOnIncidentIntervalId).alive = _
            rw [hregular, hincident, alive_clearInterval_none, alive_clearInterval_none, halive]
        | @onIncident id halive hregular herror hincident =>
            have hcleared : s.clearRegular.timers.alive = [(id, newsPollIntervalOnIncident)] := by
              show (s.timers.clearInterval s.pollingNewsIntervalId).alive = _
              rw [hregular, alive_clearInterval_none, halive]
            have hidle := idle_clearOnIncident hcleared rfl herror hincident
            have hreset : resetIntervals s = s.clearRegular.clearOnIncident.setOnError := by
              simp [resetIntervals, hidle.onError]
            rw [hreset]
            exact hidle.setOnError
  exact hintervals.congr rfl rfl rfl rfl

/-- The period of the interval after an event. -/
def periodAfter (s : State) (e : Event) (period : ℕ) : ℕ :=
  let afterNews (news : List NewsItem) := if hasIncident news then newsPollIntervalOnIncident else newsPollInterval
  let afterError := if s.rawNews = none then newsPollIntervalOnError else period
  match e with
  | .fetched k (some news) =>
      if s.calls[k]? = some (.fetching true) ∧ news.any (·.isRepeatable) = true then period else afterNews news
  | .fetched _ none => afterError
  | .markedAsUnread k ok =>
      match s.calls[k]? with
      | some (.markingAsUnread news) => if ok then afterNews news else afterError
      | _ => period
  | _ => period

theorem alive_step {period : ℕ} (h : Alive s period) {e : Event} (hs : step s e = some s') :
    Alive s' (periodAfter s e period) := by
  cases e with
  | tick id =>
      obtain ⟨_, -, rfl⟩ := Option.map_eq_some_iff.1 hs
      exact h.congr rfl rfl rfl rfl
  | fetched k answer =>
      simp only [step] at hs
      split at hs
      · next isInit hk =>
          cases answer with
          | none =>
              obtain rfl := Option.some.inj hs
              exact (alive_onError h).congr rfl rfl rfl rfl
          | some news =>
              simp only [Bool.and_eq_true] at hs
              split at hs
              · next hmark =>
                  obtain rfl := Option.some.inj hs
                  simp only [periodAfter]
                  rw [if_pos ⟨by rw [hk, hmark.1], hmark.2⟩]
                  exact h.congr rfl rfl rfl rfl
              · next hmark =>
                  obtain rfl := Option.some.inj hs
                  simp only [periodAfter]
                  rw [if_neg fun hcond => hmark ⟨by simpa [hk] using hcond.1, hcond.2⟩]
                  exact (alive_onNews h news).congr rfl rfl rfl rfl
      · cases hs
  | markedAsUnread k ok =>
      simp only [step] at hs
      split at hs
      · next news hk =>
          simp only [periodAfter, hk]
          cases ok with
          | true =>
              obtain rfl := Option.some.inj hs
              exact (alive_onNews h news).congr rfl rfl rfl rfl
          | false =>
              obtain rfl := Option.some.inj hs
              exact (alive_onError h).congr rfl rfl rfl rfl
      · cases hs
  | gotReadNews k ok =>
      simp only [step] at hs
      split at hs
      · obtain rfl := Option.some.inj hs
        exact h.congr rfl rfl rfl rfl
      · cases hs

theorem alive_setup : Alive setup newsPollInterval := .regular rfl rfl rfl rfl

theorem alive_of_reaches {ok : State → Event → Prop} (hr : machine.Reaches ok s) : ∃ period, Alive s period :=
  hr.invariant (P := fun s => ∃ period, Alive s period) ⟨_, alive_setup⟩
    fun _ _ _ _ _ ⟨_, h⟩ hs => ⟨_, alive_step h hs⟩

/-- However the calls overlap, exactly one interval is alive at any time, and `periodAfter` says which one comes
    after which. -/
theorem one_interval (hr : machine.Reaches Machine.anyStep s) :
    ∃ period, s.timers.alive.map Prod.snd = [period] ∧
      ∀ e s', step s e = some s' → s'.timers.alive.map Prod.snd = [periodAfter s e period] := by
  obtain ⟨period, h⟩ := alive_of_reaches hr
  exact ⟨period, h.periods, fun e s' hs => (alive_step h hs).periods⟩

/-- The first request fails, and the next one brings an incident. -/
def firstEvents : List Event := [.fetched 0 none, .tick 1, .fetched 1 (some [⟨true, false⟩])]

theorem one_interval_firstEvents :
    ∃ s, machine.exec setup firstEvents = some s ∧ ∃ period, s.timers.alive.map Prod.snd = [period] :=
  ⟨(machine.exec setup firstEvents).get (by decide), (Option.some_get _).symm, _,
    (one_interval (Machine.reaches_of_exec firstEvents (Option.some_get _).symm)).choose_spec.1⟩

end Klarity.NewsFeedPolling
