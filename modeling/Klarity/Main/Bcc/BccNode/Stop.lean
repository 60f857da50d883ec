import Klarity.Main.Bcc.BccNode.Invariant

set_option autoImplicit false

/-! # Stopped nodes

`stop()` sees the launcher in `_node`, and only if it is connected: otherwise it resolves at once. When
every launcher that is alive is the one it sees, and `kill()` does not resolve before the processes have
exited (`StopsNode`), no launcher created before a call of `stop()` is alive once the call resolves.
This needs no care for what else is under way: a launcher that is dead stays dead. -/

namespace Klarity.BccNode

variable {s s' : BccNode} {p q : Point} {c : List Frame}

/-! ## What is claimed -/

/-- The launchers created first, `spawned` of them, are dead. -/
def Gone (s : BccNode) (spawned : ℕ) : Prop :=
  spawned ≤ s.launchers.length ∧ ∀ l, l < spawned → s.alive l = false

/-- Of two notes in the order of time: a launcher that makes the node run after a `stop()` resolved was
    created after that call. -/
def Fresh : Note → Note → Prop
  | .stopped spawned, .running l => spawned ≤ l
  | _, _ => True

/-- What `stop()` saw when it was called is every launcher that was alive. -/
def SeesNode (s : BccNode) : Point → Prop
  | .stopIsDead node connected spawned =>
      ∀ l, l < spawned → s.alive l = true → connected = true ∧ node = some l
  | _ => True

/-- Every launcher alive at a call of `stop()` is the connected node, and `kill()`, which does not wait
    for the processes it kills, goes on once they have exited. -/
def StopsNode (s : BccNode) (e : Event) : Prop :=
  (∀ t ∈ s.tasks, SeesNode s t.point) ∧
    match e with
    | .resume k _ => ∀ t ∈ s.tasks[k]?, t.point = .killWait → ∀ x ∈ s.launchers, x.alive = false
    | _ => True

instance decidableSeesNode (s : BccNode) : (p : Point) → Decidable (SeesNode s p)
  | .stopIsDead _ _ spawned => Nat.decidableBallLT spawned _
  | .canBeStarted .. | .walletLauncher _ | .nodeStart _ | .nodeStop .. | .stopWait ..
  | .stopStored _ | .killIsDead _ | .killWait | .killStored _ | .restartWait .. | .exitWait ..
  | .exitKill .. | .exitStored _ | .settled _ => isTrue trivial

instance decidableStopsNode (s : BccNode) (e : Event) : Decidable (StopsNode s e) :=
  match e with
  | .resume _ _ => inferInstanceAs (Decidable (_ ∧ ∀ t ∈ _, _ → _))
  | .die _ | .start .. | .stop | .restart _ | .exitOnStop | .exit .. | .probe _
  | .unreadableTls _ => inferInstanceAs (Decidable (_ ∧ True))

/-! ## The invariant -/

/-- What a call of `stop()` has found out. -/
def Found (s : BccNode) : Point → Prop
  | .stopIsDead _ _ spawned => spawned ≤ s.launchers.length
  | .nodeStop l spawned =>
      spawned ≤ s.launchers.length ∧ ∀ m, m < spawned → s.alive m = true → m = l
  | .stopWait _ spawned | .stopStored spawned => Gone s spawned
  | _ => True

/-- `kill()` has not succeeded, or has failed. -/
def Point.unsure : Point → Bool
  | .killIsDead _ | .killWait | .killStored false | .settled false => true
  | _ => false

/-- The calls of `stop()` that wait for `kill()` are right to resolve if it does. -/
def Awaited (s : BccNode) (p : Point) (c : List Frame) : Prop :=
  ∀ spawned, Frame.stopKill spawned ∈ c →
    spawned ≤ s.launchers.length ∧ (p.unsure = false → Gone s spawned)

structure Halted (s : BccNode) : Prop where
  found : ∀ t ∈ s.tasks, Found s t.point
  awaited : ∀ t ∈ s.tasks, Awaited s t.point t.callers
  stopped : ∀ spawned, .stopped spawned ∈ s.notes → Gone s spawned
  order : s.notes.Pairwise fun later earlier => Fresh earlier later

theorem halted_init : Halted {} := by
  refine ⟨?_, ?_, ?_, ?_⟩ <;> simp

/-! ## Launchers only die -/

/-- Launchers were created or died. -/
structure Later (s s' : BccNode) : Prop where
  length : s.launchers.length ≤ s'.launchers.length
  alive : ∀ l, l < s.launchers.length → s'.alive l = true → s.alive l = true

theorem Gone.later {spawned : ℕ} (h : Gone s spawned) (hs : Later s s') : Gone s' spawned := by
  refine ⟨Nat.le_trans h.1 hs.length, fun l hl => Bool.eq_false_iff.2 fun ha => ?_⟩
  exact absurd ((hs.alive l (by have h := h.1; omega) ha).symm.trans (h.2 l hl)) (by decide)

theorem Found.later (h : Found s p) (hs : Later s s') : Found s' p := by
  cases p
  case stopIsDead => exact Nat.le_trans h hs.length
  case nodeStop =>
      refine ⟨Nat.le_trans h.1 hs.length, fun m hm ha => h.2 m hm (hs.alive m ?_ ha)⟩
      have h := h.1
      omega
  case stopWait | stopStored => exact Gone.later h hs
  all_goals trivial

theorem Awaited.later (h : Awaited s p c) (hs : Later s s') : Awaited s' p c := by
  intro spawned hc
  obtain ⟨hlen, hgone⟩ := h spawned hc
  exact ⟨Nat.le_trans hlen hs.length, fun hu => (hgone hu).later hs⟩

theorem Halted.later (h : Halted s) (hs : Later s s') (ht : s'.tasks = s.tasks)
    (hn : s'.notes = s.notes) : Halted s' where
  found t htm := (h.found t (ht ▸ htm)).later hs
  awaited t htm := (h.awaited t (ht ▸ htm)).later hs
  stopped spawned hm := (h.stopped spawned (hn ▸ hm)).later hs
  order := hn ▸ h.order

theorem Later.of_eq (h : s'.launchers = s.launchers) : Later s s' := by
  refine ⟨Nat.le_of_eq (by rw [h]), fun l _ ha => ?_⟩
  unfold BccNode.alive at ha ⊢
  rwa [h] at ha

theorem Later.of_alive {l : ℕ} {f : Launcher → Launcher}
    (h : ∀ m, (s.setLauncher l f).alive m = true → s.alive m = true) :
    Later s (s.setLauncher l f) :=
  ⟨Nat.le_of_eq (length_setLauncher ..).symm, fun m _ ha => h m ha⟩

/-! ## Calls come and go -/

theorem Halted.takeOut {k : ℕ} {t : Task} (h : Halted s) (ht : s.tasks[k]? = some t) :
    Halted ((s.takeOut k).push t.point t.callers) where
  found u hu := h.found u ((List.perm_cons_eraseIdx ht).mem_iff.1 hu)
  awaited u hu := h.awaited u ((List.perm_cons_eraseIdx ht).mem_iff.1 hu)
  stopped := h.stopped
  order := h.order

theorem Halted.drop (h : Halted (s.push p c)) : Halted s :=
  ⟨fun t ht => h.found t (List.mem_cons_of_mem _ ht),
    fun t ht => h.awaited t (List.mem_cons_of_mem _ ht), h.stopped, h.order⟩

theorem Halted.push (h : Halted s) (hp : Found s p) (hc : Awaited s p c) : Halted (s.push p c) :=
  ⟨List.forall_mem_cons.2 ⟨hp, h.found⟩, List.forall_mem_cons.2 ⟨hc, h.awaited⟩, h.stopped, h.order⟩

/-- Fields that launchers and notes do not depend on. -/
theorem Halted.frame (h : Halted s) (hl : s'.launchers = s.launchers) (ht : s'.tasks = s.tasks)
    (hn : s'.notes = s.notes) : Halted s' :=
  h.later (.of_eq hl) ht hn

/-- The callers of a call that has not called `kill()` are right to resolve anyway. -/
theorem Awaited.of_sure (h : Awaited s p c) (hp : p.unsure = false) : Awaited s q c :=
  fun spawned hc => ⟨(h spawned hc).1, fun _ => (h spawned hc).2 hp⟩

/-- Nothing is claimed of a `kill()` that has not succeeded. -/
theorem Awaited.of_unsure (h : Awaited s p c) (hq : q.unsure = true) : Awaited s q c :=
  fun spawned hc => ⟨(h spawned hc).1, fun hu => absurd (hq.symm.trans hu) (by decide)⟩

theorem awaited_nil : Awaited s p [] :=
  fun _ hc => absurd hc (by simp)

theorem Awaited.restart (h : Awaited s p c) {f : Frame} (hf : ∀ spawned, f ≠ .stopKill spawned) :
    Awaited s p (f :: c) := by
  intro spawned hc
  refine h spawned ((List.mem_cons.1 hc).resolve_left fun hs => hf spawned hs.symm)

theorem Awaited.tail {f : Frame} (h : Awaited s p (f :: c)) : Awaited s p c :=
  fun spawned hc => h spawned (List.mem_cons_of_mem _ hc)

/-! ## The methods -/

theorem Halted.stop (h : Halted s) (hc : Awaited s (.settled true) c) : Halted (s.stop c) :=
  h.push (Nat.le_refl _) (hc.of_sure rfl)

theorem Halted.restart (h : Halted s) (hc : Awaited s (.settled true) c) (isForced : Bool) :
    Halted (s.restart isForced c) := by
  unfold BccNode.restart
  split
  · exact h.stop (hc.restart nofun)
  · exact h.push trivial (hc.of_sure rfl)

theorem Halted.handleBccNodeError (h : Halted s) : Halted s.handleBccNodeError := by
  unfold BccNode.handleBccNodeError
  split
  · exact h
  · split
    · exact h.frame rfl rfl rfl
    · have herrored : Halted (s.changeToState .errored) := h.frame rfl rfl rfl
      exact herrored.restart awaited_nil false

/-- The error handler creates no launcher. -/
theorem later_handleBccNodeError : Later s s.handleBccNodeError := by
  refine .of_eq ?_
  unfold BccNode.handleBccNodeError
  split
  · rfl
  · split
    · rfl
    · unfold BccNode.restart
      split <;> rfl

theorem Halted.failStart (h : Halted s) (hc : Awaited s (.settled false) c) :
    Halted (s.failStart c) :=
  h.handleBccNodeError.push trivial (hc.later later_handleBccNodeError)

theorem Halted.handleBccNodeExit (h : Halted s) (l : ℕ) (code : Option ℕ) :
    Halted (s.handleBccNodeExit l code) := by
  have hexit : Halted (if s.state = .running then s.changeToState .exiting else s) := by
    split
    · exact h.frame rfl rfl rfl
    · exact h
  unfold BccNode.handleBccNodeExit
  dsimp only
  split
  · exact hexit
  · exact hexit.push trivial awaited_nil

/-- A call of `stop()` resolves when the launchers created before it are dead. -/
theorem Halted.resolveStop {spawned : ℕ} (h : Halted s) (hg : Gone s spawned)
    (hc : Awaited s (.settled true) c) : Halted (s.resolveStop spawned c) := by
  have hnoted : Halted { s with notes := .stopped spawned :: s.notes } := by
    refine ⟨h.found, h.awaited, ?_, List.pairwise_cons.2 ⟨?_, h.order⟩⟩
    · intro m hm
      rcases List.mem_cons.1 hm with hm | hm
      · rw [Note.stopped.inj hm]
        exact hg
      · exact h.stopped m hm
    · intro n _
      cases n <;> trivial
  exact hnoted.push trivial hc

theorem Halted.catchRestart (h : Halted s) (hc : Awaited s (.settled false) c) :
    Halted (s.catchRestart c) := by
  unfold BccNode.catchRestart
  split
  · exact h.push trivial hc
  · have herrored : Halted (s.changeToState .errored) := h.frame rfl rfl rfl
    exact herrored.push trivial hc

theorem Halted.settle {resolved : Bool} (h : Halted s) (hc : Awaited s (.settled resolved) c) :
    Halted (s.settle resolved c) := by
  unfold BccNode.settle
  split
  · exact h
  · cases resolved with
    | true => exact h.push trivial (hc.tail.of_sure rfl)
    | false => exact h.catchRestart hc.tail
  · cases resolved with
    | true => exact h.push trivial hc.tail
    | false => exact h.catchRestart hc.tail
  · next spawned callers =>
      cases resolved with
      | true => exact h.resolveStop ((hc spawned (List.mem_cons_self ..)).2 rfl) hc.tail
      | false => exact h.push trivial hc.tail

theorem Halted.startSetup {config : Option BccNodeConfig} {isForced : Bool} (h : Halted s)
    (hc : Awaited s (.settled true) c) : Halted (s.startSetup config isForced c) := by
  unfold BccNode.startSetup
  split
  · exact h.push trivial (hc.of_sure rfl)
  · next config =>
      split
      · exact h.push trivial (hc.of_sure rfl)
      · have hstarting : Halted ({ s with
            config := some config, startupTries := s.startupTries + 1 }.changeToState .starting) :=
          h.frame rfl rfl rfl
        exact hstarting.push trivial (hc.of_sure rfl)

theorem Halted.store (h : Halted s) (hs : s.storeProcessStates = some s') :
    Halted s' ∧ Later s s' := by
  rw [storeProcessStates_eq_some hs]
  exact ⟨h.frame rfl rfl rfl, .of_eq rfl⟩

theorem Halted.catchKill (h : Halted s) (hc : Awaited s (.killStored false) c) :
    Halted (s.catchKill c) := by
  unfold BccNode.catchKill
  split
  · next hs =>
      obtain ⟨hstored, hlater⟩ := h.store hs
      exact hstored.push trivial (hc.later hlater)
  · exact h

/-- `kill()` is called for a `stop()` that may resolve if it succeeds. -/
theorem Halted.kill {spawned : ℕ} (h : Halted s) (hlen : spawned ≤ s.launchers.length)
    (hc : Awaited s p c) : Halted (s.kill (.stopKill spawned :: c)) := by
  refine h.push trivial fun m hm => ?_
  rcases List.mem_cons.1 hm with hm | hm
  · rw [Frame.stopKill.inj hm]
    exact ⟨hlen, by simp [Point.unsure]⟩
  · exact ⟨(hc m hm).1, by simp [Point.unsure]⟩

theorem Halted.exitReally (h : Halted s) (l : ℕ) (config : BccNodeConfig) (code : Option ℕ) :
    Halted (s.exitReally l config code) := by
  obtain ⟨state, _, ⟨s', hs, heq⟩ | ⟨_, heq⟩⟩ := exitReally_cases s l config code
  · have hstate : Halted (s.changeToState state) := h.frame rfl rfl rfl
    rw [heq]
    exact (hstate.store hs).1.push trivial awaited_nil
  · rw [heq]
    exact h.frame rfl rfl rfl

/-- A launcher that makes the node run is alive, so no `stop()` that resolved was called after it was
    created. -/
theorem Halted.handleBccReplyPortMessage {l : ℕ} (h : Halted s) (ha : s.alive l = true) :
    Halted (s.handleBccReplyPortMessage l) := by
  have hstopped : ∀ m, .stopped m ∈ Note.running l :: s.notes → Gone s m :=
    fun m hm => h.stopped m ((List.mem_cons.1 hm).resolve_left nofun)
  unfold BccNode.handleBccReplyPortMessage
  split
  · refine ⟨h.found, h.awaited, hstopped, List.pairwise_cons.2 ⟨fun n hn => ?_, h.order⟩⟩
    cases n with
    | stopped spawned =>
        by_contra hl
        have hdead := (h.stopped spawned hn).2 l (Nat.lt_of_not_le hl)
        exact absurd (ha.symm.trans hdead) (by decide)
    | running => trivial
  · exact h.frame rfl rfl rfl

theorem later_handleBccReplyPortMessage {l : ℕ} : Later s (s.handleBccReplyPortMessage l) := by
  refine .of_eq ?_
  unfold BccNode.handleBccReplyPortMessage
  split <;> rfl

/-! ## Steps and runs -/

theorem halted_goOn {ok : Bool} (h : Halted (s.push p c)) (hsees : SeesNode s p)
    (hkill : p = .killWait → ∀ x ∈ s.launchers, x.alive = false) (hs : s.goOn c ok p = some s') :
    Halted s' := by
  have hdrop := h.drop
  have hfound : Found s p := h.found _ (List.mem_cons_self ..)
  have hc : Awaited s p c := h.awaited _ (List.mem_cons_self ..)
  unfold goOn at hs
  split at hs
  -- canBeStarted
  · split at hs
    · exact Option.some.inj hs ▸ hdrop.push trivial (hc.of_sure rfl)
    · split at hs
      · exact Option.some.inj hs ▸ hdrop.startSetup (hc.of_sure rfl)
      · exact absurd hs (by simp)
  -- walletLauncher
  · split at hs
    · have hlater : Later s { s with
          launchers := s.launchers ++ [({} : Launcher)], node := some s.launchers.length } := by
        refine ⟨by simp, fun l hl ha => ?_⟩
        unfold alive at ha ⊢
        rwa [List.getElem?_append_left hl] at ha
      refine Option.some.inj hs ▸ (hdrop.later hlater rfl rfl).push trivial ?_
      exact (hc.later hlater).of_sure rfl
    · exact Option.some.inj hs ▸ hdrop.failStart (hc.of_sure rfl)
  -- nodeStart
  · next l =>
      split at hs
      · split at hs
        · next ha =>
            have hlater : Later s (s.setLauncher l .connect) := .of_alive (by simp)
            have hrun := (hdrop.later hlater rfl rfl).handleBccReplyPortMessage
              (show (s.setLauncher l .connect).alive l = true by rw [alive_connect]; exact ha)
            refine Option.some.inj hs ▸ hrun.push trivial ?_
            exact ((hc.later hlater).later later_handleBccReplyPortMessage).of_sure rfl
        · exact absurd hs (by simp)
      · have hlater : Later s (s.setLauncher l .die) := .of_alive (by simp +contextual)
        refine Option.some.inj hs ▸ (hdrop.later hlater rfl rfl).failStart ?_
        exact (hc.later hlater).of_sure rfl
  -- stopIsDead
  · next node connected spawned =>
      split at hs
      · next hconn =>
          have hstop : Halted (s.changeToState .stopping) := hdrop.frame rfl rfl rfl
          dsimp only at hs
          split at hs
          · next l =>
              refine Option.some.inj hs ▸ hstop.push ⟨hfound, fun m hm ha => ?_⟩
                (hc.of_sure rfl)
              exact (Option.some.inj (hsees m hm ha).2).symm
          · refine Option.some.inj hs ▸ hstop.push ⟨hfound, fun m hm => ?_⟩
                (hc.of_sure rfl)
            exact Bool.eq_false_iff.2 fun ha => absurd (hsees m hm ha).2 (by simp)
      · next hconn =>
          refine Option.some.inj hs ▸ hdrop.resolveStop ⟨hfound, fun m hm => ?_⟩
            (hc.of_sure rfl)
          exact Bool.eq_false_iff.2 fun ha => hconn (hsees m hm ha).1
  -- nodeStop
  · next l spawned =>
      split at hs
      · split at hs
        · exact absurd hs (by simp)
        · next hl =>
            refine Option.some.inj hs ▸ hdrop.push ⟨hfound.1, fun m hm => ?_⟩ (hc.of_sure rfl)
            refine Bool.eq_false_iff.2 fun ha => hl ?_
            rw [← hfound.2 m hm ha]
            exact ha
      · exact Option.some.inj hs ▸ hdrop.kill hfound.1 hc
  -- stopWait
  · next probed spawned =>
      split at hs
      · split at hs
        · split at hs
          · next hs₁ =>
              obtain ⟨hstored, hlater⟩ := hdrop.store hs₁
              exact Option.some.inj hs ▸
                hstored.push (Gone.later hfound hlater) ((hc.later hlater).of_sure rfl)
          · exact Option.some.inj hs ▸ hdrop.kill hfound.1 hc
        · exact absurd hs (by simp)
      · exact Option.some.inj hs ▸ hdrop.kill hfound.1 hc
  -- stopStored
  · have hreset : Halted s.reset := hdrop.frame rfl rfl rfl
    exact Option.some.inj hs ▸ hreset.resolveStop hfound (hc.of_sure rfl)
  -- killIsDead
  · split at hs
    · exact Option.some.inj hs ▸ hdrop
    · split at hs
      · exact Option.some.inj hs ▸ hdrop.push trivial (hc.of_unsure rfl)
      · exact Option.some.inj hs ▸ hdrop.catchKill (hc.of_unsure rfl)
  -- killWait
  · have hdead : ∀ l, s.alive l = false := by
      intro l
      unfold alive
      cases hx : s.launchers[l]? with
      | none => rfl
      | some x => exact hkill rfl x (List.mem_of_getElem? hx)
    split at hs
    · next hs₁ =>
        obtain ⟨hstored, hlater⟩ := hdrop.store hs₁
        have hc' : Awaited s (.killStored true) c :=
          fun spawned hm => ⟨(hc spawned hm).1, fun _ => ⟨(hc spawned hm).1, fun l _ => hdead l⟩⟩
        exact Option.some.inj hs ▸ hstored.push trivial (hc'.later hlater)
    · exact Option.some.inj hs ▸ hdrop.catchKill (hc.of_unsure rfl)
  -- killStored
  · split at hs
    · next hk =>
        subst hk
        have hreset : Halted (s.changeToState .stopped).reset := hdrop.frame rfl rfl rfl
        exact Option.some.inj hs ▸ hreset.push trivial (hc.of_sure rfl)
    · have hreset : Halted s.reset := hdrop.frame rfl rfl rfl
      exact Option.some.inj hs ▸ hreset.push trivial (hc.of_unsure rfl)
  -- restartWait
  · split at hs
    · exact Option.some.inj hs ▸ hdrop.push trivial (hc.of_sure rfl)
    · exact Option.some.inj hs ▸ hdrop.push trivial ((hc.of_sure rfl).restart nofun)
  -- exitWait
  · split at hs
    · split at hs
      · exact Option.some.inj hs ▸ hdrop.exitReally _ _ _
      · exact absurd hs (by simp)
    · split at hs
      · exact Option.some.inj hs ▸ hdrop.push trivial (hc.of_sure rfl)
      · exact Option.some.inj hs ▸ hdrop.exitReally _ _ _
  -- exitKill
  · exact Option.some.inj hs ▸ hdrop.exitReally _ _ _
  -- exitStored
  · exact Option.some.inj hs ▸ hdrop.frame rfl rfl rfl
  -- settled
  · exact Option.some.inj hs ▸ hdrop.settle hc

theorem halted_pollAgain (h : Halted (s.push p c)) (hs : s.pollAgain c p = some s') : Halted s' := by
  have hfound : Found s p := h.found _ (List.mem_cons_self ..)
  have hc : Awaited s p c := h.awaited _ (List.mem_cons_self ..)
  unfold pollAgain at hs
  split at hs
  · exact Option.some.inj hs ▸ h.drop.push hfound (hc.of_sure rfl)
  · exact Option.some.inj hs ▸ h.drop.push trivial (hc.of_sure rfl)
  · exact absurd hs (by simp)

theorem halted_failTls (h : Halted (s.push p c)) (hs : s.failTls c p = some s') : Halted s' := by
  have hc : Awaited s p c := h.awaited _ (List.mem_cons_self ..)
  unfold failTls at hs
  split at hs
  · next l =>
      split at hs
      · have hlater : Later s (s.setLauncher l .connect) := .of_alive (by simp)
        refine Option.some.inj hs ▸ (h.drop.later hlater rfl rfl).failStart ?_
        exact (hc.later hlater).of_sure rfl
      · exact absurd hs (by simp)
  · exact absurd hs (by simp)

theorem halted_step {e : Event} (h : Halted s) (hok : StopsNode s e) (hs : s.step e = some s') :
    Halted s' := by
  cases e with
  | start config isForced => exact Option.some.inj hs ▸ h.push trivial awaited_nil
  | stop => exact Option.some.inj hs ▸ h.stop awaited_nil
  | restart isForced => exact Option.some.inj hs ▸ h.restart awaited_nil _
  | exitOnStop => exact Option.some.inj hs ▸ h.frame rfl rfl rfl
  | die l =>
      unfold step at hs
      dsimp only at hs
      split at hs
      · exact Option.some.inj hs ▸ h.later (.of_alive (by simp +contextual)) rfl rfl
      · exact absurd hs (by simp)
  | exit l code =>
      unfold step at hs
      dsimp only at hs
      split at hs
      · have hexited : Halted (s.setLauncher l .emitExit) := h.later (.of_alive (by simp)) rfl rfl
        exact Option.some.inj hs ▸ hexited.handleBccNodeExit l code
      · exact absurd hs (by simp)
  | resume k ok =>
      obtain ⟨t, ht, hs⟩ := Option.bind_eq_some_iff.1 hs
      refine halted_goOn (h.takeOut ht) ?_ (hok.2 t ht) hs
      have hsees := hok.1 t (List.mem_of_getElem? ht)
      exact hsees
  | probe k =>
      obtain ⟨t, ht, hs⟩ := Option.bind_eq_some_iff.1 hs
      exact halted_pollAgain (h.takeOut ht) hs
  | unreadableTls k =>
      obtain ⟨t, ht, hs⟩ := Option.bind_eq_some_iff.1 hs
      exact halted_failTls (h.takeOut ht) hs

theorem halted_reaches (h : machine.Reaches StopsNode s) : Halted s :=
  h.invariant halted_init fun _ _ _ _ hok hh hs => halted_step hh hok hs

/-- **Stop means stopped.** When `stop()` sees every launcher that is alive, and `kill()` goes on once they
    have exited, the launchers created before a call that resolved are dead and make the node run no
    more. -/
theorem stopped_of_stopsNode (h : machine.Reaches StopsNode s) :
    (∀ spawned, .stopped spawned ∈ s.notes → ∀ l, l < spawned → s.alive l = false) ∧
      s.notes.Pairwise fun later earlier => Fresh earlier later := by
  have hh := halted_reaches h
  exact ⟨fun spawned hm => (hh.stopped spawned hm).2, hh.order⟩

/-- A node that runs is stopped, and started again. -/
def stopAndStart : List Event :=
  [.start ⟨5⟩ false, .resume 0 true, .resume 0 true, .resume 0 true, .resume 0 true,
    .stop, .resume 0 true, .die 0, .resume 0 true, .resume 0 true, .resume 0 true, .resume 0 true,
    .start ⟨5⟩ false, .resume 0 true, .resume 0 true, .resume 0 true]

theorem stopped_after_stop : ∃ s, machine.Reaches StopsNode s ∧
    s.notes = [.running 1, .stopped 1, .running 0] ∧ ∀ l, l < 1 → s.alive l = false :=
  have h : machine.Reaches StopsNode _ := .exec stopAndStart .init (by decide) rfl
  ⟨_, h, rfl, (stopped_of_stopsNode h).1 1 (by decide)⟩

/-- A launcher that starts up is not connected, so `stop()` takes it for dead. -/
def stopDuringStart : List Event :=
  [.start ⟨5⟩ false, .resume 0 true, .resume 0 true, .stop, .resume 0 true]

theorem stop_during_start_leaves_launcher : ∃ s s', machine.Reaches Machine.anyStep s ∧
    s.notes = [.stopped 1] ∧ s.alive 0 = true ∧ machine.exec s [.resume 1 true] = some s' ∧
    s'.state = .running ∧ s'.notes = [.running 0, .stopped 1] :=
  ⟨_, _, machine.reaches_of_exec stopDuringStart rfl, rfl, rfl, rfl, rfl, rfl⟩

end Klarity.BccNode
