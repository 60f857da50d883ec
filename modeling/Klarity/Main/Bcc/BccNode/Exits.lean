import Klarity.Main.Bcc.BccNode.SingleNode

set_option autoImplicit false

/-! # Whose exit

The exit handler does not know which launcher it is called for: it changes the state and resets the node
and the TLS config whatever they are by then. While `start()` is undisturbed they are those of the
launcher that exited (`Attributed`). It reports a crash unless the state is still the `STOPPING` of the
`stop()` that made the node exit (`Tidy.calm`). -/

namespace Klarity.BccNode

variable {s s' : BccNode} {p q : Point} {c d : List Frame}

/-! ## Attribution -/

/-- The launcher whose exit the exit handler is called for. -/
def Point.exited : Point → Option ℕ
  | .exitWait l _ _ _ _ | .exitKill l _ _ | .exitStored l => some l
  | _ => none

/-- The launcher whose exit is handled in a step. -/
def handled (s : BccNode) : Event → Option ℕ
  | .exit l _ => some l
  | .resume k _ | .probe k => s.tasks[k]?.bind fun t => t.point.exited
  | _ => none

/-- No launcher was created after `l`, and the node and the TLS config are its own, if any. -/
def Attributed (s : BccNode) (l : ℕ) : Prop :=
  l + 1 = s.launchers.length ∧ (∀ m, s.node = some m → m = l) ∧ ∀ m, s.tlsConfig = some m → m = l

theorem Inv.attributed {l : ℕ} (h : Inv s) (hl : l + 1 = s.launchers.length) : Attributed s l := by
  have hnode : ∀ m, s.node = some m → m = l := fun m hm => by
    have hm := h.node_last m hm
    omega
  exact ⟨hl, hnode, fun m hm => hnode m (h.tls_node m hm).1⟩

theorem Inv.last_of_exited {t : Task} {l : ℕ} (h : Inv s) (ht : t ∈ s.tasks)
    (hl : t.point.exited = some l) :
    l + 1 = s.launchers.length ∧ s.launchers[l]? = some ⟨false, true, true⟩ := by
  have hhold := h.task t ht
  cases hp : t.point <;> rw [hp] at hl hhold <;> simp only [Point.exited, reduceCtorEq] at hl
  all_goals
    obtain rfl := Option.some.inj hl
    exact hhold

theorem Inv.attributed_of_handled {e : Event} {l : ℕ} (h : Inv s) (hs : s.step e = some s')
    (hl : s.handled e = some l) : Attributed s l := by
  have htask : ∀ {k : ℕ}, (s.tasks[k]?.bind fun t => t.point.exited) = some l →
      Attributed s l := by
    intro k hk
    obtain ⟨t, ht, hl⟩ := Option.bind_eq_some_iff.1 hk
    exact h.attributed (h.last_of_exited (List.mem_of_getElem? ht) hl).1
  cases e with
  | exit m code =>
      obtain rfl := Option.some.inj hl
      unfold step at hs
      dsimp only at hs
      split at hs
      · next hd => exact h.attributed (h.due_last _ hd)
      · exact absurd hs (by simp)
  | resume k ok => exact htask hl
  | probe k => exact htask hl
  | _ => exact absurd hl (by simp [handled])

/-! ## What stops the node -/

/-- The launcher that `stop()` is waiting for. -/
def Point.stops : Point → Option ℕ
  | .nodeStop l _ => some l
  | _ => none

def Point.isKill : Point → Bool
  | .killIsDead _ | .killWait | .killStored _ => true
  | _ => false

/-- The `catch` block of a `restart()` is next. -/
def Task.givesUp : Task → Bool
  | ⟨.settled false, .restartStop .. :: _⟩ | ⟨.settled false, .restartStart :: _⟩ => true
  | _ => false

/-- The node dies only while `stop()` is waiting for it to. -/
def OnlyStopped (s : BccNode) : Event → Prop
  | .die l => ∃ t ∈ s.tasks, t.point.stops = some l
  | _ => True

/-- `kill()` is not needed, and no `restart()` gives up while the node is being stopped. -/
def Unforced (s : BccNode) (e : Event) : Prop :=
  (∀ t ∈ s.tasks, t.point.isKill = false) ∧
    match e with
    | .resume k _ => ∀ t ∈ s.tasks[k]?, t.givesUp = true → s.state ≠ .stopping
    | _ => True

instance decidableOnlyStopped (s : BccNode) : (e : Event) → Decidable (OnlyStopped s e)
  | .die _ => inferInstanceAs (Decidable (∃ t ∈ _, _))
  | .resume .. | .start .. | .stop | .restart _ | .exitOnStop | .exit .. | .probe _
  | .unreadableTls _ => isTrue trivial

instance decidableUnforced (s : BccNode) (e : Event) : Decidable (Unforced s e) :=
  match e with
  | .resume _ _ => inferInstanceAs (Decidable (_ ∧ ∀ t ∈ _, _))
  | .die _ | .start .. | .stop | .restart _ | .exitOnStop | .exit .. | .probe _
  | .unreadableTls _ => inferInstanceAs (Decidable (_ ∧ True))

/-- No exit is to come or to be reported. -/
structure Calm (s : BccNode) : Prop where
  not_due : ∀ l, s.exitDue l = false
  stops : ∀ t ∈ s.tasks, ∀ l, t.point.stops = some l → s.alive l = false
  waits : ∀ t ∈ s.tasks, t.point.waits = false

/-- One of two calls at most is an exit handler that has not changed the state yet. -/
def Apart (t u : Task) : Prop :=
  t.point.waits = false ∨ u.point.waits = false

structure Tidy (s : BccNode) : Prop where
  apart : s.tasks.Pairwise Apart
  /-- The exits that are to come or to be reported are those that `stop()` caused. -/
  calm : s.state = .stopping ∨ Calm s
  not_crashed : s.state ≠ .crashed

theorem tidy_init : Tidy {} := by
  refine ⟨List.Pairwise.nil, Or.inr ⟨?_, ?_, ?_⟩, by decide⟩ <;> simp [exitDue]

/-! ## Calls come and go -/

theorem Tidy.takeOut {k : ℕ} {t : Task} (h : Tidy s) (ht : s.tasks[k]? = some t) :
    Tidy ((s.takeOut k).push t.point t.callers) where
  apart := h.apart.perm (List.perm_cons_eraseIdx ht).symm fun h => h.symm
  calm := h.calm.imp_right fun hc =>
    ⟨hc.not_due, fun u hu => hc.stops u ((List.perm_cons_eraseIdx ht).mem_iff.1 hu),
      fun u hu => hc.waits u ((List.perm_cons_eraseIdx ht).mem_iff.1 hu)⟩
  not_crashed := h.not_crashed

theorem Calm.drop (h : Calm (s.push p c)) : Calm s :=
  ⟨h.not_due, fun t ht => h.stops t (List.mem_cons_of_mem _ ht),
    fun t ht => h.waits t (List.mem_cons_of_mem _ ht)⟩

theorem Calm.push (h : Calm s) (hp : p.stops = none) (hw : p.waits = false) : Calm (s.push p c) :=
  ⟨h.not_due, List.forall_mem_cons.2 ⟨fun l hl => absurd (hp.symm.trans hl) (by simp), h.stops⟩,
    List.forall_mem_cons.2 ⟨hw, h.waits⟩⟩

theorem Tidy.drop (h : Tidy (s.push p c)) : Tidy s :=
  ⟨(List.pairwise_cons.1 h.apart).2, h.calm.imp_right Calm.drop, h.not_crashed⟩

theorem Tidy.push (h : Tidy s) (hp : p.stops = none) (hw : p.waits = false) : Tidy (s.push p c) :=
  ⟨List.pairwise_cons.2 ⟨fun _ _ => Or.inl hw, h.apart⟩, h.calm.imp_right fun hc => hc.push hp hw,
    h.not_crashed⟩

theorem Tidy.stopping_of_waits (h : Tidy (s.push p c)) (hw : p.waits = true) : s.state = .stopping :=
  h.calm.resolve_right fun hc =>
    absurd (hw.symm.trans (hc.waits _ (List.mem_cons_self ..))) (by decide)

/-- A call that stops the node or handles an exit goes on with it. -/
theorem Tidy.replace (h : Tidy (s.push p c)) (hs : s.state = .stopping)
    (hw : p.waits = false → q.waits = false) : Tidy (s.push q d) where
  apart := by
    obtain ⟨hp, ht⟩ := List.pairwise_cons.1 h.apart
    exact List.pairwise_cons.2 ⟨fun t ht => (hp t ht).imp_left hw, ht⟩
  calm := Or.inl hs
  not_crashed := h.not_crashed

/-- Once nothing is to be reported the state may change. -/
theorem Calm.changeToState (h : Calm s) (ha : s.tasks.Pairwise Apart) {state : BccNodeState}
    (hs : state ≠ .crashed) : Tidy (s.changeToState state) :=
  ⟨ha, Or.inr ⟨h.not_due, h.stops, h.waits⟩, hs⟩

theorem Tidy.frame (h : Tidy s) (ht : s'.tasks = s.tasks) (hs : s'.state = s.state)
    (hl : s'.launchers = s.launchers) : Tidy s' := by
  have halive : s'.alive = s.alive := by
    unfold alive
    rw [hl]
  have hdue : s'.exitDue = s.exitDue := by
    unfold exitDue
    rw [hl]
  refine ⟨ht ▸ h.apart, ?_, hs ▸ h.not_crashed⟩
  rw [hs]
  refine h.calm.imp_right fun hc => ⟨?_, ?_, ?_⟩
  · exact hdue ▸ hc.not_due
  · rw [ht, halive]
    exact hc.stops
  · rw [ht]
    exact hc.waits

/-- Idle calls report nothing. -/
theorem calm_of_idle (hidle : ∀ t ∈ s.tasks, t.point.kind = .idle) (hdue : ∀ l, s.exitDue l = false) :
    Calm s where
  not_due := hdue
  stops t ht l hl := by
    have hk := hidle t ht
    cases htp : t.point <;> rw [htp] at hl hk <;> simp [Point.stops, Point.kind] at hl hk
  waits t ht := by
    have hk := hidle t ht
    cases htp : t.point <;> rw [htp] at hk <;> simp [Point.waits, Point.kind] at hk ⊢

/-- While `start()` is past its guard nothing is to be reported. -/
theorem Inv.calm_of_starting (h : Inv (s.push p c)) (hp : p.kind = .starting) : Calm s :=
  calm_of_idle (h.others_idle hp) (h.not_due _ (List.mem_cons_self ..) hp)

theorem Quiet.calm (h : Quiet s) : Calm s := by
  refine calm_of_idle h.1 fun l => ?_
  unfold exitDue
  cases hx : s.launchers[l]? with
  | none => rfl
  | some x => exact h.2 x (List.mem_of_getElem? hx)

/-! ## The methods -/

theorem Tidy.restart (h : Tidy s) (isForced : Bool) : Tidy (s.restart isForced c) := by
  unfold BccNode.restart
  split
  · exact h.push rfl rfl
  · exact h.push rfl rfl

theorem Calm.failStart (hc : Calm s) (h : Tidy s) : Tidy (s.failStart c) := by
  have herror : Tidy s.handleBccNodeError := by
    unfold handleBccNodeError
    split
    · exact h
    · split
      · exact hc.changeToState h.apart (by decide)
      · exact (hc.changeToState h.apart (by decide)).restart false
  exact herror.push rfl rfl

theorem Tidy.resolveStop (h : Tidy s) (spawned : ℕ) : Tidy (s.resolveStop spawned c) :=
  (h.frame rfl rfl rfl : Tidy { s with notes := .stopped spawned :: s.notes }).push rfl rfl

/-- A `restart()` that gives up does not hide that the node is being stopped. -/
theorem Tidy.catchRestart (h : Tidy s) (hs : s.state ≠ .stopping) : Tidy (s.catchRestart c) := by
  unfold BccNode.catchRestart
  split
  · exact h.push rfl rfl
  · exact ((h.calm.resolve_left hs).changeToState h.apart (by decide)).push rfl rfl

theorem Tidy.settle {resolved : Bool} (h : Tidy s)
    (hg : Task.givesUp ⟨.settled resolved, c⟩ = true → s.state ≠ .stopping) :
    Tidy (s.settle resolved c) := by
  unfold BccNode.settle
  split
  · exact h
  · cases resolved with
    | true => exact h.push rfl rfl
    | false => exact h.catchRestart (hg rfl)
  · cases resolved with
    | true => exact h.push rfl rfl
    | false => exact h.catchRestart (hg rfl)
  · split
    · exact h.resolveStop _
    · exact h.push rfl rfl

theorem Quiet.startSetup {config : Option BccNodeConfig} {isForced : Bool} (hq : Quiet s)
    (h : Tidy s) : Tidy (s.startSetup config isForced c) := by
  unfold BccNode.startSetup
  split
  · exact h.push rfl rfl
  · next config =>
      split
      · exact h.push rfl rfl
      · have hcalm : Calm { s with config := some config, startupTries := s.startupTries + 1 } :=
          ⟨hq.calm.not_due, hq.calm.stops, hq.calm.waits⟩
        exact (hcalm.changeToState h.apart (by decide)).push rfl rfl

/-- Nothing is left to be reported of the last launcher once its exit is. -/
theorem Inv.calm_of_exit {l : ℕ} (h : Inv (s.push p c)) (ht : Tidy (s.push p c)) (hw : p.waits = true)
    (hl : l + 1 = s.launchers.length ∧ s.launchers[l]? = some ⟨false, true, true⟩) : Calm s where
  not_due m := by
    refine Bool.eq_false_iff.2 fun hm => ?_
    have hml : m + 1 = s.launchers.length := h.due_last m hm
    rw [show m = l by omega] at hm
    unfold exitDue at hm
    rw [hl.2] at hm
    exact absurd hm (by decide)
  stops t _ m _ := by
    refine Bool.eq_false_iff.2 fun hm => ?_
    have hml : m + 1 = s.launchers.length := h.alive_last m hm
    rw [show m = l by omega] at hm
    unfold alive at hm
    rw [hl.2] at hm
    exact absurd hm (by decide)
  waits t htm := ((List.pairwise_cons.1 ht.apart).1 t htm).resolve_left (by rw [hw]; decide)

/-- The exit of a node that was stopped is no crash. -/
theorem Tidy.exitReally {l : ℕ} (h : Tidy (s.push p c)) (hinv : Inv (s.push p c)) (hw : p.waits = true)
    (hl : l + 1 = s.launchers.length ∧ s.launchers[l]? = some ⟨false, true, true⟩)
    (config : BccNodeConfig) (code : Option ℕ) : Tidy (s.exitReally l config code) := by
  have hcalm := hinv.calm_of_exit h hw hl
  have hstate := h.stopping_of_waits hw
  have hstopped : Tidy (s.changeToState .stopped) :=
    hcalm.changeToState h.drop.apart (by decide)
  unfold BccNode.exitReally
  dsimp only
  rw [if_pos hstate]
  split
  · next s' hs =>
      have hstored : Tidy s' := by
        rw [storeProcessStates_eq_some hs]
        exact hstopped.frame rfl rfl rfl
      exact hstored.push rfl rfl
  · exact hstopped

theorem Tidy.handleBccNodeExit {l : ℕ} (h : Tidy s) (hinv : Inv s) (hd : s.exitDue l = true)
    (code : Option ℕ) : Tidy ((s.setLauncher l .emitExit).handleBccNodeExit l code) := by
  have hstate : s.state = .stopping :=
    h.calm.resolve_right fun hc => absurd (hd.symm.trans (hc.not_due l)) (by decide)
  have hwaits : ∀ t ∈ s.tasks, t.point.waits = false := by
    intro t ht
    refine Bool.eq_false_iff.2 fun hw => ?_
    -- the exit of the last launcher would be handled already
    obtain ⟨m, hm⟩ : ∃ m, t.point.exited = some m := by
      cases hp : t.point <;> rw [hp] at hw <;> simp_all [Point.waits, Point.exited]
    obtain ⟨hlen, hx⟩ := hinv.last_of_exited ht hm
    have hl := hinv.due_last l hd
    rw [show l = m by omega] at hd
    unfold exitDue at hd
    rw [hx] at hd
    exact absurd hd (by decide)
  unfold BccNode.handleBccNodeExit
  dsimp only
  rw [if_neg (show (s.setLauncher l .emitExit).state ≠ .running by
    rw [show (s.setLauncher l .emitExit).state = .stopping from hstate]
    decide)]
  split
  · exact ⟨h.apart, Or.inl hstate, h.not_crashed⟩
  · refine ⟨List.pairwise_cons.2 ⟨fun t ht => Or.inr (hwaits t ht), h.apart⟩, Or.inl hstate, ?_⟩
    exact h.not_crashed

/-- A launcher that gets ready had no exit to report, nor has any other. -/
theorem Inv.calm_of_connect {l : ℕ} (h : Inv (s.push (.nodeStart l) c)) (ha : s.alive l = true) :
    Calm (s.setLauncher l .connect) := by
  refine calm_of_idle (h.others_idle rfl) fun m => ?_
  rw [exitDue_connect ha]
  exact h.not_due _ (List.mem_cons_self ..) rfl m

theorem Calm.handleBccReplyPortMessage {l : ℕ} (hc : Calm s)
    (h : s.tasks.Pairwise Apart ∧ s.state ≠ .crashed) : Tidy (s.handleBccReplyPortMessage l) := by
  unfold BccNode.handleBccReplyPortMessage
  split
  · exact ⟨h.1, Or.inr ⟨hc.not_due, hc.stops, hc.waits⟩, nofun⟩
  · exact ⟨h.1, Or.inr ⟨hc.not_due, hc.stops, hc.waits⟩, h.2⟩

theorem Tidy.push_stopping (h : Tidy s) (hw : p.waits = false) :
    Tidy ((s.changeToState .stopping).push p c) :=
  ⟨List.pairwise_cons.2 ⟨fun _ _ => Or.inl hw, h.apart⟩, Or.inl rfl, nofun⟩

/-! ## Steps and runs -/

theorem tidy_goOn {ok : Bool} (h : Tidy (s.push p c)) (hinv : Inv (s.push p c))
    (hfree : ok = true → StillFree s p) (hkill : p.isKill = false)
    (hg : Task.givesUp ⟨p, c⟩ = true → s.state ≠ .stopping) (hs : s.goOn c ok p = some s') :
    Tidy s' := by
  have hdrop := h.drop
  have hhold : Holds s p := hinv.task _ (List.mem_cons_self ..)
  unfold goOn at hs
  split at hs
  -- canBeStarted
  · next config isForced connected previousPid =>
      split at hs
      · exact Option.some.inj hs ▸ hdrop.push rfl rfl
      · next hgo =>
          split at hs
          · obtain ⟨rfl, rfl⟩ : connected = false ∧ ok = true := by simpa using hgo
            exact Option.some.inj hs ▸ (hfree rfl).1.startSetup hdrop
          · exact absurd hs (by simp)
  -- walletLauncher
  · split at hs
    · have hcalm := hinv.spawn.calm_of_starting rfl
      refine Option.some.inj hs ▸ Tidy.push ?_ rfl rfl
      exact ⟨hdrop.apart, Or.inr hcalm, h.not_crashed⟩
    · exact Option.some.inj hs ▸ (hinv.calm_of_starting rfl).failStart hdrop
  -- nodeStart
  · next l =>
      split at hs
      · split at hs
        · next ha =>
            refine Option.some.inj hs ▸ Tidy.push ?_ rfl rfl
            exact (hinv.calm_of_connect ha).handleBccReplyPortMessage ⟨hdrop.apart, h.not_crashed⟩
        · exact absurd hs (by simp)
      · have hdie : Inv ((s.setLauncher l .die).push (.nodeStart l) c) := hinv.die
        have hcalm := hdie.calm_of_starting rfl
        exact Option.some.inj hs ▸ hcalm.failStart ⟨hdrop.apart, Or.inr hcalm, h.not_crashed⟩
  -- stopIsDead
  · split at hs
    · dsimp only at hs
      split at hs
      · exact Option.some.inj hs ▸ hdrop.push_stopping rfl
      · exact Option.some.inj hs ▸ hdrop.push_stopping rfl
    · exact Option.some.inj hs ▸ hdrop.resolveStop _
  -- nodeStop
  · split at hs
    · split at hs
      · exact absurd hs (by simp)
      · exact Option.some.inj hs ▸ hdrop.push rfl rfl
    · exact Option.some.inj hs ▸ hdrop.push rfl rfl
  -- stopWait
  · split at hs
    · split at hs
      · split at hs
        · next s₁ hs₁ =>
            have hstored : Tidy s₁ := by
              rw [storeProcessStates_eq_some hs₁]
              exact hdrop.frame rfl rfl rfl
            exact Option.some.inj hs ▸ hstored.push rfl rfl
        · exact Option.some.inj hs ▸ hdrop.push rfl rfl
      · exact absurd hs (by simp)
    · exact Option.some.inj hs ▸ hdrop.push rfl rfl
  -- stopStored
  · have hreset : Tidy s.reset := hdrop.frame rfl rfl rfl
    exact Option.some.inj hs ▸ hreset.resolveStop _
  -- killIsDead, killWait, killStored
  · exact absurd hkill (by simp [Point.isKill])
  · exact absurd hkill (by simp [Point.isKill])
  · exact absurd hkill (by simp [Point.isKill])
  -- restartWait
  · split at hs
    · exact Option.some.inj hs ▸ hdrop.push rfl rfl
    · exact Option.some.inj hs ▸ hdrop.push rfl rfl
  -- exitWait
  · next l node config code probed =>
      split at hs
      · split at hs
        · exact Option.some.inj hs ▸ h.exitReally hinv rfl hhold config code
        · exact absurd hs (by simp)
      · split at hs
        · exact Option.some.inj hs ▸ h.replace (h.stopping_of_waits rfl) (by simp [Point.waits])
        · exact Option.some.inj hs ▸ h.exitReally hinv rfl hhold config code
  -- exitKill
  · next l config code => exact Option.some.inj hs ▸ h.exitReally hinv rfl hhold config code
  -- exitStored
  · exact Option.some.inj hs ▸ hdrop.frame rfl rfl rfl
  -- settled
  · exact Option.some.inj hs ▸ hdrop.settle hg

theorem tidy_pollAgain (h : Tidy (s.push p c)) (hs : s.pollAgain c p = some s') : Tidy s' := by
  unfold pollAgain at hs
  split at hs
  · exact Option.some.inj hs ▸ h.drop.push rfl rfl
  · exact Option.some.inj hs ▸ h.replace (h.stopping_of_waits rfl) (by simp [Point.waits])
  · exact absurd hs (by simp)

theorem tidy_failTls (h : Tidy (s.push p c)) (hinv : Inv (s.push p c))
    (hs : s.failTls c p = some s') : Tidy s' := by
  unfold failTls at hs
  split at hs
  · split at hs
    · next ha =>
        have hcalm := hinv.calm_of_connect ha
        exact Option.some.inj hs ▸ hcalm.failStart ⟨h.drop.apart, Or.inr hcalm, h.not_crashed⟩
    · exact absurd hs (by simp)
  · exact absurd hs (by simp)

theorem tidy_step {e : Event} (h : Tidy s) (hinv : Inv s) (hok : Undisturbed s e)
    (hstop : OnlyStopped s e) (hunforced : Unforced s e) (hs : s.step e = some s') : Tidy s' := by
  cases e with
  | start config isForced => exact Option.some.inj hs ▸ h.push rfl rfl
  | stop => exact Option.some.inj hs ▸ h.push rfl rfl
  | restart isForced => exact Option.some.inj hs ▸ h.restart _
  | exitOnStop => exact Option.some.inj hs ▸ h.frame rfl rfl rfl
  | die l =>
      unfold step at hs
      dsimp only at hs
      split at hs
      · next ha =>
          obtain ⟨t, ht, hl⟩ := hstop
          have hstopping : s.state = .stopping := h.calm.resolve_right fun hc =>
            absurd (ha.symm.trans (hc.stops t ht l hl)) (by decide)
          exact Option.some.inj hs ▸ ⟨h.apart, Or.inl hstopping, h.not_crashed⟩
      · exact absurd hs (by simp)
  | exit l code =>
      unfold step at hs
      dsimp only at hs
      split at hs
      · next hd => exact Option.some.inj hs ▸ h.handleBccNodeExit hinv hd code
      · exact absurd hs (by simp)
  | resume k ok =>
      obtain ⟨t, ht, hs⟩ := Option.bind_eq_some_iff.1 hs
      refine tidy_goOn (h.takeOut ht) (hinv.takeOut ht) ?_ (hunforced.1 t (List.mem_of_getElem? ht))
        (hunforced.2 t ht) hs
      rintro rfl
      exact (hok t ht).takeOut
  | probe k =>
      obtain ⟨t, ht, hs⟩ := Option.bind_eq_some_iff.1 hs
      exact tidy_pollAgain (h.takeOut ht) hs
  | unreadableTls k =>
      obtain ⟨t, ht, hs⟩ := Option.bind_eq_some_iff.1 hs
      exact tidy_failTls (h.takeOut ht) (hinv.takeOut ht) hs

/-- The runs in which the node only exits because it was stopped, and stopping it goes well. -/
def Stopped (s : BccNode) (e : Event) : Prop :=
  Undisturbed s e ∧ OnlyStopped s e ∧ Unforced s e

instance decidableStopped (s : BccNode) (e : Event) : Decidable (Stopped s e) :=
  inferInstanceAs (Decidable (_ ∧ _ ∧ _))

theorem tidy_reaches (h : machine.Reaches Stopped s) : Tidy s := by
  refine h.invariant tidy_init fun s e s' hr hok ht hs => ?_
  exact tidy_step ht (inv_reaches (hr.mono fun _ _ h => h.1)) hok.1 hok.2.1 hok.2.2 hs

/-- The poll of the exit handler goes on after `restart()` has created the next launcher. -/
def lateExit : List Event :=
  [.start ⟨5⟩ false, .resume 0 true, .resume 0 true, .resume 0 true, .resume 0 true,
    .restart true, .resume 0 true, .die 0, .resume 0 true, .exit 0 none,
    -- `stop()` is through
    .resume 1 true, .resume 0 true, .resume 0 true,
    -- `start()` of `restart()`
    .resume 0 true, .resume 0 true, .resume 0 true]

end Klarity.BccNode
