import Klarity.Renderer.Stores.NetworkStatusStore

set_option autoImplicit false

/-! # The state of the node as the renderer shows it

The handler of `RUNNING` awaits the TLS config before it sets the state, and whatever is broadcast in the
meantime is overtaken. What is shown is what was broadcast last in the runs in which only `RUNNING` is
broadcast while such a handler is suspended and a TLS config arrives while the node is not stopping. A poll
from before a shutdown is ignored in the runs in which it is over before there is a TLS config again. -/

namespace Klarity.NetworkStatusStore

open BccNode (BccNodeState)
open Request (Awaited settled openCall settled_eq_none openCall_eq_some)

variable {Config : Type} {s s' : State Config} {e : Event Config} {answer : Answer Config}

/-! ## What is promised -/

/-- A handler of a broadcast is suspended. -/
def Task.isHandler : Task → Bool
  | .tlsConfig _ | .bccStatus (some _) => true
  | _ => false

/-- What is shown is what was broadcast last. -/
structure Shows (s : State Config) : Prop where
  bccNodeState : s.bccNodeState = s.lastBroadcast
  isNodeStopping : s.isNodeStopping = s.lastBroadcast.any isStopping
  isNodeStopped : s.isNodeStopped = s.lastBroadcast.any isStopped

/-- A poll whose call was made before the last shutdown is ignored. -/
def IgnoresOutdated (s : State Config) : Prop :=
  ∀ i wasConnected p call syncProgress stalling,
    s.tasks[i]? = some (.networkInfo wasConnected (some p)) →
    s.getNetworkInfoRequest.calls[p]? = some call → call.outcome = some (.ok syncProgress) →
    call.args ≠ s.shutdowns →
    step s (.resume i (.settled stalling)) = some { s with tasks := s.tasks.eraseIdx i }

structure AgreesWithNode (s : State Config) : Prop where
  shows : (∀ task ∈ s.tasks, task.isHandler = false) → Shows s
  tlsConfig : (∀ task ∈ s.tasks, task.isHandler = false) → s.lastBroadcast.any isStopping = true →
    s.tlsConfig = none
  ignoresOutdated : IgnoresOutdated s

/-- No poll from before the last shutdown is awaited. -/
def PollsUpToDate (s : State Config) : Prop :=
  ∀ wasConnected p call, .networkInfo wasConnected (some p) ∈ s.tasks →
    s.getNetworkInfoRequest.calls[p]? = some call → call.args = s.shutdowns

/-- Only `RUNNING` is broadcast while a handler is suspended, and a TLS config arrives when no poll from
    before the last shutdown is awaited and, where it is broadcast, while the node is not stopping. -/
def InTurn (s : State Config) : Event Config → Prop
  | .broadcast state => (∀ task ∈ s.tasks, task.isHandler = false) ∨ state = .running
  | .tlsConfigReceived (some _) => s.lastBroadcast.any isStopping = false ∧ PollsUpToDate s
  | .resume _ (.tlsConfig _) => PollsUpToDate s
  | _ => True

/-! ## The invariant -/

def waits (s : State Config) (p : ℕ) : Prop :=
  ∃ wasConnected, .networkInfo wasConnected (some p) ∈ s.tasks

/-- What holds while a handler is about to set the state. -/
structure Core (s : State Config) : Prop where
  running : ∀ task ∈ s.tasks, task.isHandler = true → s.lastBroadcast = some .running
  handled : ∀ handled, .tlsConfig handled ∈ s.tasks ∨ .bccStatus (some handled) ∈ s.tasks →
    handled = .running
  stopping : s.lastBroadcast.any isStopping = true → s.tlsConfig = none
  polls : Awaited s.getNetworkInfoRequest (waits s) fun epoch =>
    s.tlsConfig ≠ none → epoch = s.shutdowns

structure Invariant (s : State Config) : Prop extends Core s where
  shows : (∀ task ∈ s.tasks, task.isHandler = false) → Shows s

theorem invariant_init : Invariant ({} : State Config) where
  running _ h := absurd h List.not_mem_nil
  handled _ h := by simp at h
  stopping _ := rfl
  polls := Awaited.init.resume (fun _ ⟨_, h⟩ => absurd h List.not_mem_nil) fun _ _ h => h.elim
  shows _ := ⟨rfl, rfl, rfl⟩

/-- Only fields that show the connection have changed. -/
structure SameStatus (s s' : State Config) : Prop where
  tlsConfig : s'.tlsConfig = s.tlsConfig
  bccNodeState : s'.bccNodeState = s.bccNodeState
  isNodeStopping : s'.isNodeStopping = s.isNodeStopping
  isNodeStopped : s'.isNodeStopped = s.isNodeStopped
  tasks : s'.tasks = s.tasks
  lastBroadcast : s'.lastBroadcast = s.lastBroadcast
  shutdowns : s'.shutdowns = s.shutdowns
  getNetworkInfoRequest : s'.getNetworkInfoRequest = s.getNetworkInfoRequest

theorem Core.of_same (h : Core s) (hs : SameStatus s s') : Core s' := by
  have hwaits : waits s' = waits s := by
    funext p
    simp only [waits, hs.tasks]
  refine ⟨?_, ?_, ?_, ?_⟩
  · rw [hs.tasks, hs.lastBroadcast]
    exact h.running
  · rw [hs.tasks]
    exact h.handled
  · rw [hs.tlsConfig, hs.lastBroadcast]
    exact h.stopping
  · rw [hwaits, hs.tlsConfig, hs.shutdowns, hs.getNetworkInfoRequest]
    exact h.polls

theorem Shows.of_same (h : Shows s) (hs : SameStatus s s') : Shows s' where
  bccNodeState := by rw [hs.bccNodeState, hs.lastBroadcast, h.bccNodeState]
  isNodeStopping := by rw [hs.isNodeStopping, hs.lastBroadcast, h.isNodeStopping]
  isNodeStopped := by rw [hs.isNodeStopped, hs.lastBroadcast, h.isNodeStopped]

theorem Invariant.of_same (h : Invariant s) (hs : SameStatus s s') : Invariant s' where
  toCore := h.toCore.of_same hs
  shows hnone := (h.shows (hs.tasks ▸ hnone)).of_same hs

theorem Invariant.resetRequest (h : Invariant s) :
    Invariant { s with getNetworkInfoRequest := s.getNetworkInfoRequest.reset } where
  running := h.running
  handled := h.handled
  stopping := h.stopping
  polls := h.polls.reset
  shows hnone :=
    have hshows := h.shows hnone
    ⟨hshows.bccNodeState, hshows.isNodeStopping, hshows.isNodeStopped⟩

/-! ## Tasks that come and go -/

theorem Core.await (h : Core s) {task : Task}
    (hhandler : task.isHandler = true → s.lastBroadcast = some .running)
    (hhandled : ∀ handled, task = .tlsConfig handled ∨ task = .bccStatus (some handled) →
      handled = .running)
    (hpoll : ∀ wasConnected p, task ≠ .networkInfo wasConnected (some p)) : Core (s.await task) where
  running other hmem hother := by
    rcases List.mem_append.1 hmem with hmem | hmem
    · exact h.running other hmem hother
    · obtain rfl := List.mem_singleton.1 hmem
      exact hhandler hother
  handled handled hmem := by
    rcases hmem with hmem | hmem
    · rcases List.mem_append.1 hmem with hmem | hmem
      · exact h.handled handled (.inl hmem)
      · exact hhandled handled (.inl (List.mem_singleton.1 hmem).symm)
    · rcases List.mem_append.1 hmem with hmem | hmem
      · exact h.handled handled (.inr hmem)
      · exact hhandled handled (.inr (List.mem_singleton.1 hmem).symm)
  stopping := h.stopping
  polls := h.polls.resume
    (fun _ ⟨wasConnected, hmem⟩ => by
      rcases List.mem_append.1 hmem with hmem | hmem
      · exact ⟨wasConnected, hmem⟩
      · exact absurd (List.mem_singleton.1 hmem).symm (hpoll _ _))
    fun _ _ ⟨wasConnected, hmem⟩ _ _ => ⟨wasConnected, List.mem_append_left _ hmem⟩

/-- With a handler suspended nothing is said about what is shown. -/
theorem Core.await_handler (h : Core s) {task : Task} (hlast : s.lastBroadcast = some .running)
    (htask : task = .tlsConfig .running ∨ task = .bccStatus (some .running)) :
    Invariant (s.await task) where
  toCore := by
    refine h.await (fun _ => hlast) ?_ ?_
    · intro handled hhandled
      rcases htask with rfl | rfl
      · exact Task.tlsConfig.inj (hhandled.resolve_right fun hnot => nomatch hnot).symm
      · exact Option.some.inj
          (Task.bccStatus.inj (hhandled.resolve_left fun hnot => nomatch hnot).symm)
    · rcases htask with rfl | rfl
      · exact fun _ _ hnot => nomatch hnot
      · exact fun _ _ hnot => nomatch hnot
  shows hnone := by
    have hmem : task ∈ (s.await task).tasks := List.mem_append_right _ List.mem_cons_self
    have hfalse := hnone task hmem
    rcases htask with rfl | rfl
    · cases hfalse
    · cases hfalse

theorem Core.erase (h : Core s) {i : ℕ} {task : Task} (hi : s.tasks[i]? = some task)
    (hsettled : ∀ wasConnected p, task = .networkInfo wasConnected (some p) →
      settled s.getNetworkInfoRequest (some p) ≠ none) :
    Core { s with tasks := s.tasks.eraseIdx i } where
  running other hmem := h.running other (List.mem_of_mem_eraseIdx hmem)
  handled handled hmem := h.handled handled
    (hmem.imp List.mem_of_mem_eraseIdx List.mem_of_mem_eraseIdx)
  stopping := h.stopping
  polls := h.polls.resume
    (fun _ ⟨wasConnected, hmem⟩ => ⟨wasConnected, List.mem_of_mem_eraseIdx hmem⟩)
    (by
      rintro p call ⟨wasConnected, hmem⟩ hcall hopen
      refine ⟨wasConnected, List.mem_eraseIdx_of_ne hi hmem ?_⟩
      rintro rfl
      exact hsettled wasConnected p rfl (settled_eq_none hcall hopen))

/-- A task that is no handler is done. -/
theorem Invariant.erase (h : Invariant s) {i : ℕ} {task : Task} (hi : s.tasks[i]? = some task)
    (htask : task.isHandler = false)
    (hsettled : ∀ wasConnected p, task = .networkInfo wasConnected (some p) →
      settled s.getNetworkInfoRequest (some p) ≠ none) :
    Invariant { s with tasks := s.tasks.eraseIdx i } where
  toCore := h.toCore.erase hi hsettled
  shows hnone := by
    have hall : ∀ other ∈ s.tasks, other.isHandler = false := by
      intro other hmem
      rcases List.mem_cons.1 ((List.perm_cons_eraseIdx hi).mem_iff.2 hmem) with rfl | hmem
      · exact htask
      · exact hnone other hmem
    obtain ⟨hstate, hstopping, hstopped⟩ := h.shows hall
    exact ⟨hstate, hstopping, hstopped⟩

/-! ## Broadcasts -/

/-- The state that is set is the one that was broadcast last. -/
theorem Core.setBccNodeState (h : Core s) {state : BccNodeState}
    (hlast : s.lastBroadcast = some state) : Invariant (setBccNodeState s state) where
  running := h.running
  handled := h.handled
  stopping := h.stopping
  polls := h.polls
  shows _ := by
    refine ⟨hlast.symm, ?_, ?_⟩
    · show isStopping state = s.lastBroadcast.any isStopping
      rw [hlast]
      rfl
    · show isStopped state = s.lastBroadcast.any isStopped
      rw [hlast]
      rfl

theorem sameStatus_setDisconnected (s : State Config) (wasConnected : Bool) :
    SameStatus s (setDisconnected s wasConnected) :=
  ⟨rfl, rfl, rfl, rfl, rfl, rfl, rfl, rfl⟩

theorem sameStatus_assignStatus (s : State Config) (status : Option BccStatus) :
    SameStatus s (assignStatus s status) := by
  cases status <;> exact ⟨rfl, rfl, rfl, rfl, rfl, rfl, rfl, rfl⟩

/-- A broadcast that is in turn, with the TLS config gone where the node is stopping. -/
theorem Core.broadcast (h : Core s) {state : BccNodeState}
    (hturn : (∀ task ∈ s.tasks, task.isHandler = false) ∨ state = .running) {tlsConfig : Option Config}
    (htls : tlsConfig = none ∨ tlsConfig = s.tlsConfig)
    (hstopping : isStopping state = true → tlsConfig = none) :
    Core
      { s with
        tlsConfig := tlsConfig
        lastBroadcast := some state
        shutdowns := if isStopping state then s.shutdowns + 1 else s.shutdowns } where
  running task hmem htask := by
    rcases hturn with hnone | rfl
    · rw [hnone task hmem] at htask
      cases htask
    · rfl
  handled := h.handled
  stopping := hstopping
  polls := by
    refine h.polls.imp fun p call _ _ hepoch hsome => ?_
    have hon : isStopping state = false := by
      rw [← Bool.not_eq_true]
      exact fun hstop => hsome (hstopping hstop)
    rcases htls with rfl | rfl
    · exact absurd rfl hsome
    · rw [hon]
      exact hepoch hsome

theorem Invariant.receiveBroadcast (h : Invariant s) {state : BccNodeState}
    (hturn : (∀ task ∈ s.tasks, task.isHandler = false) ∨ state = .running) :
    Invariant (receiveBroadcast s state) := by
  show Invariant (if s.bccNodeState = some state then _ else _)
  by_cases hsame : s.bccNodeState = some state
  · rw [if_pos hsame]
    refine ⟨h.toCore.broadcast hturn (.inr rfl) ?_, ?_⟩
    · intro hstop
      rcases hturn with hnone | rfl
      · have hlast := (h.shows hnone).bccNodeState
        refine h.stopping ?_
        rw [← hlast, hsame]
        exact hstop
      · cases hstop
    · intro hnone
      obtain ⟨hstate, hstopping, hstopped⟩ := h.shows hnone
      rw [← hstate, hsame] at hstopping hstopped
      exact ⟨hsame, hstopping, hstopped⟩
  · rw [if_neg hsame]
    cases state with
    | running =>
        have hcore := h.toCore.broadcast hturn (.inr rfl) fun hstop => nomatch hstop
        exact hcore.await_handler rfl (.inl rfl)
    | starting =>
        have hcore := h.toCore.broadcast hturn (.inr rfl) fun hstop => nomatch hstop
        exact hcore.setBccNodeState rfl
    | stopping | exiting | updating =>
        have hcore := h.toCore.broadcast hturn (.inl rfl) fun _ => rfl
        exact (hcore.of_same (sameStatus_setDisconnected _ _)).setBccNodeState rfl
    | stopped | updated | crashed | errored | unrecoverable =>
        have hcore := h.toCore.broadcast hturn (.inr rfl) fun hstop => nomatch hstop
        exact (hcore.of_same (sameStatus_setDisconnected _ _)).setBccNodeState rfl

/-! ## TLS configs and polls -/

theorem Core.updateTlsConfig (h : Core s) (config : Config)
    (hlast : s.lastBroadcast.any isStopping = false) (hpolls : PollsUpToDate s) :
    Core { s with tlsConfig := some config } where
  running := h.running
  handled := h.handled
  stopping hstop := by
    rw [show s.lastBroadcast.any isStopping = true from hstop] at hlast
    cases hlast
  polls := h.polls.imp fun p call ⟨wasConnected, hmem⟩ hcall _ _ => hpolls wasConnected p call hmem hcall

theorem Invariant.updateNetworkStatus (h : Invariant s) : Invariant (updateNetworkStatus s) := by
  unfold NetworkStatusStore.updateNetworkStatus
  split
  · exact h
  · refine ⟨⟨?_, ?_, h.stopping, ?_⟩, ?_⟩
    · intro task hmem htask
      rcases List.mem_append.1 hmem with hmem | hmem
      · exact h.running task hmem htask
      · obtain rfl := List.mem_singleton.1 hmem
        cases htask
    · intro handled hmem
      refine h.handled handled (hmem.imp (fun hmem => ?_) fun hmem => ?_)
      · exact (List.mem_append.1 hmem).resolve_right fun hnew => nomatch List.mem_singleton.1 hnew
      · exact (List.mem_append.1 hmem).resolve_right fun hnew => nomatch List.mem_singleton.1 hnew
    · refine h.polls.execute (fun _ => rfl) ?_ ?_
      · rintro p ⟨wasConnected, hmem⟩
        rcases List.mem_append.1 hmem with hmem | hmem
        · exact .inl ⟨wasConnected, hmem⟩
        · exact .inr (Task.networkInfo.inj (List.mem_singleton.1 hmem)).2.symm
      · rintro p (⟨wasConnected, hmem⟩ | hp)
        · exact ⟨wasConnected, List.mem_append_left _ hmem⟩
        · refine ⟨s.isConnected, List.mem_append_right _ ?_⟩
          rw [hp]
          exact List.mem_cons_self
    · intro hnone
      obtain ⟨hstate, hstopping, hstopped⟩ := h.shows fun task hmem =>
        hnone task (List.mem_append_left _ hmem)
      exact ⟨hstate, hstopping, hstopped⟩

theorem sameStatus_checkConnection (s : State Config) (wasConnected : Bool) :
    SameStatus s (checkConnection s wasConnected) := by
  unfold checkConnection
  split <;> exact ⟨rfl, rfl, rfl, rfl, rfl, rfl, rfl, rfl⟩

theorem Invariant.resetRequestErrors (h : Invariant s) : Invariant (resetRequestErrors s) := by
  unfold NetworkStatusStore.resetRequestErrors
  split
  · exact h.resetRequest
  · exact h

theorem Invariant.networkInfoReceived (h : Invariant s) (wasConnected stalling : Bool)
    (outcome : Except Failure ℕ) : Invariant (networkInfoReceived s wasConnected stalling outcome) := by
  cases outcome with
  | ok syncProgress =>
      show Invariant (if s.tlsConfig.isNone then s else _)
      split
      · exact h
      · have hsynced : Invariant
            { s with
              isNodeResponding := true
              syncProgress := some syncProgress
              isNodeInSync := decide (syncProgress = 100)
              isNodeSyncing := !stalling } := h.of_same ⟨rfl, rfl, rfl, rfl, rfl, rfl, rfl, rfl⟩
        exact (hsynced.of_same (sameStatus_checkConnection _ wasConnected)).resetRequestErrors
  | error error =>
      have hdisconnected := h.of_same (sameStatus_setDisconnected s wasConnected)
      cases error with
      | tlsCertificateNotValid =>
          exact hdisconnected.of_same ⟨rfl, rfl, rfl, rfl, rfl, rfl, rfl, rfl⟩
      | other => exact hdisconnected

/-! ## Runs -/

theorem Invariant.resume (h : Invariant s) {i : ℕ} {task : Task} (hi : s.tasks[i]? = some task)
    (hturn : InTurn s (.resume i answer))
    (hs : resume { s with tasks := s.tasks.eraseIdx i } task answer = some s') : Invariant s' := by
  have hmem := List.mem_of_getElem? hi
  cases task with
  | tlsConfig handled =>
      obtain rfl := h.handled handled (.inl hmem)
      have hlast := h.running _ hmem rfl
      have herased := h.toCore.erase hi fun _ _ hnot => nomatch hnot
      cases answer with
      | tlsConfig config =>
          obtain rfl := Option.some.inj hs
          have hon : s.lastBroadcast.any isStopping = false := by
            rw [hlast]
            rfl
          have hpolls : PollsUpToDate { s with tasks := s.tasks.eraseIdx i } :=
            fun wasConnected p call hpoll => hturn wasConnected p call (List.mem_of_mem_eraseIdx hpoll)
          exact (herased.updateTlsConfig config hon hpolls).await_handler hlast (.inr rfl)
      | failed =>
          obtain rfl := Option.some.inj hs
          exact herased.await_handler hlast (.inr rfl)
      | _ => cases hs
  | bccStatus handled =>
      cases handled with
      | none =>
          have herased := h.erase hi rfl fun _ _ hnot => nomatch hnot
          cases answer with
          | status status =>
              obtain rfl := Option.some.inj hs
              exact herased.of_same (sameStatus_assignStatus _ status)
          | failed =>
              obtain rfl := Option.some.inj hs
              exact herased
          | _ => cases hs
      | some handled =>
          obtain rfl := h.handled handled (.inr hmem)
          have hlast := h.running _ hmem rfl
          have herased := h.toCore.erase hi fun _ _ hnot => nomatch hnot
          cases answer with
          | status status =>
              obtain rfl := Option.some.inj hs
              have hsame := sameStatus_assignStatus { s with tasks := s.tasks.eraseIdx i } status
              exact (herased.of_same hsame).setBccNodeState (hsame.lastBroadcast.trans hlast)
          | failed =>
              obtain rfl := Option.some.inj hs
              exact herased.setBccNodeState hlast
          | _ => cases hs
  | networkInfo wasConnected promise =>
      cases answer with
      | settled stalling =>
          obtain ⟨outcome, hsettled, rfl⟩ := Option.map_eq_some_iff.1 hs
          refine (h.erase hi rfl ?_).networkInfoReceived wasConnected stalling outcome
          intro _ p hpoll
          rw [← (Task.networkInfo.inj hpoll).2]
          exact Option.ne_none_iff_exists'.2 ⟨outcome, hsettled⟩
      | _ => cases hs

theorem Invariant.step (h : Invariant s) (hturn : InTurn s e) (hs : step s e = some s') :
    Invariant s' := by
  cases e with
  | broadcast state =>
      obtain rfl := Option.some.inj hs
      exact h.receiveBroadcast hturn
  | tlsConfigReceived config =>
      obtain rfl := Option.some.inj hs
      cases config with
      | none => exact h
      | some config =>
          refine ⟨h.toCore.updateTlsConfig config hturn.1 hturn.2, fun hnone => ?_⟩
          obtain ⟨hstate, hstopping, hstopped⟩ := h.shows hnone
          exact ⟨hstate, hstopping, hstopped⟩
  | requestBccStatus =>
      obtain rfl := Option.some.inj hs
      refine ⟨h.toCore.await (fun hnot => nomatch hnot) ?_ fun _ _ hnot => (nomatch hnot), fun hnone => ?_⟩
      · intro handled hhandled
        rcases hhandled with hhandled | hhandled <;> cases hhandled
      · obtain ⟨hstate, hstopping, hstopped⟩ := h.shows fun task hmem =>
          hnone task (List.mem_append_left _ hmem)
        exact ⟨hstate, hstopping, hstopped⟩
  | updateNetworkStatus =>
      obtain rfl := Option.some.inj hs
      exact h.updateNetworkStatus
  | networkInfoAnswered call outcome =>
      obtain ⟨epoch, _, rfl⟩ := Option.map_eq_some_iff.1 hs
      refine ⟨⟨h.running, h.handled, h.stopping, h.polls.respond call outcome⟩, fun hnone => ?_⟩
      obtain ⟨hstate, hstopping, hstopped⟩ := h.shows hnone
      exact ⟨hstate, hstopping, hstopped⟩
  | resume i answer =>
      obtain ⟨task, hi, hs⟩ := Option.bind_eq_some_iff.1 hs
      exact h.resume hi hturn hs

/-- Without a TLS config the poll is ignored, and with one it is not from before a shutdown. -/
theorem Invariant.ignoresOutdated (h : Invariant s) : IgnoresOutdated s := by
  intro i wasConnected p call syncProgress stalling hi hcall houtcome hepoch
  have htls : s.tlsConfig = none := by
    by_contra hsome
    obtain ⟨called, hcalled, hargs⟩ := h.polls.called p ⟨wasConnected, List.mem_of_getElem? hi⟩
    rw [hcall] at hcalled
    obtain rfl := Option.some.inj hcalled
    exact hepoch (hargs hsome)
  have hsettled : settled s.getNetworkInfoRequest (some p) = some (.ok syncProgress) := by
    simp [settled, hcall, houtcome]
  have hresumed : NetworkStatusStore.resume { s with tasks := s.tasks.eraseIdx i }
      (.networkInfo wasConnected (some p)) (.settled stalling : Answer Config) =
        some { s with tasks := s.tasks.eraseIdx i } := by
    show (settled s.getNetworkInfoRequest (some p)).map _ = _
    rw [hsettled]
    show some (if s.tlsConfig.isNone then _ else _) = _
    rw [htls]
    rfl
  show (s.tasks[i]?.bind fun task => NetworkStatusStore.resume _ task _) = _
  rw [hi]
  exact hresumed

/-- **The renderer shows the state that was broadcast last**, without a TLS config where it is a stopping
    one, and ignores the polls from before a shutdown, in every run in which only `RUNNING` is broadcast
    while a handler is suspended, and a TLS config arrives while no poll from before the last shutdown is
    awaited and, where it is broadcast, while the node is not stopping. -/
theorem agreesWithNode_of_inTurn (hr : (machine Config).Reaches InTurn s) : AgreesWithNode s :=
  have hinv : Invariant s := hr.invariant invariant_init fun _ _ _ _ hok h hs => h.step hok hs
  ⟨hinv.shows, fun _ => hinv.stopping, hinv.ignoresOutdated⟩

/-- The node runs, is polled, and stops while a poll is answered. -/
def polledAndStopped : List (Event ℕ) :=
  [.broadcast .starting, .broadcast .running, .resume 0 (.tlsConfig 1), .resume 0 (.status none),
    .updateNetworkStatus, .networkInfoAnswered 0 (.ok 100), .broadcast .stopping]

theorem agreesWithNode_of_polledAndStopped :
    ∃ s, (machine ℕ).Reaches InTurn s ∧ s.bccNodeState = some .stopping ∧ s.tlsConfig = none ∧
      AgreesWithNode s := by
  have hsteps : (machine ℕ).allSteps InTurn (machine ℕ).init polledAndStopped := by
    refine ⟨.inl fun _ h => absurd h List.not_mem_nil, .inr rfl, ?_, trivial, trivial, trivial, .inl ?_,
      trivial⟩
    · exact fun _ _ _ h => nomatch List.mem_singleton.1 h
    · intro task hmem
      obtain rfl := List.mem_singleton.1 hmem
      rfl
  have hr : (machine ℕ).Reaches InTurn _ := .exec polledAndStopped .init hsteps rfl
  exact ⟨_, hr, rfl, rfl, agreesWithNode_of_inTurn hr⟩

/-- The node stops while the handler of `RUNNING` awaits the TLS config. -/
def stoppedWhileHandled : List (Event ℕ) :=
  [.broadcast .running, .broadcast .stopping, .resume 0 (.tlsConfig 1), .resume 0 (.status none)]

theorem not_agreesWithNode_of_stoppedWhileHandled :
    ¬ ∀ s, (machine ℕ).Reaches Machine.anyStep s → AgreesWithNode s := by
  intro h
  have hr : (machine ℕ).Reaches Machine.anyStep _ := Machine.reaches_of_exec stoppedWhileHandled rfl
  have hshows := (h _ hr).shows fun _ hmem => absurd hmem List.not_mem_nil
  have hstate : some BccNodeState.running = some .stopping := hshows.bccNodeState
  cases hstate

end Klarity.NetworkStatusStore
