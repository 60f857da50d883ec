import Klarity.Main.Bcc.BccNode.Invariant

set_option autoImplicit false

/-! # One node

Every step keeps the invariant as long as `start()` is undisturbed. So at most one launcher is alive, and
an exit is handled before the next launcher is created. -/

namespace Klarity.BccNode

variable {s s' : BccNode} {p : Point} {c : List Frame}

/-! ## The methods up to their first `await` -/

theorem Inv.not_connected (h : Inv s) {t : Task} (ht : t ∈ s.tasks)
    (hk : t.point.kind = .starting) : s.isConnected = false := by
  have hhold := h.task t ht
  cases hp : t.point with
  | walletLauncher => rw [hp] at hhold; exact hhold.2
  | nodeStart m =>
      rw [hp] at hhold
      unfold isConnected
      rw [hhold.1]
      exact hhold.2
  | stopIsDead node connected spawned =>
      rw [hp] at hk
      cases connected <;> simp [Point.kind] at hk
  | _ => rw [hp] at hk; exact absurd hk (by simp [Point.kind])

theorem Inv.start (h : Inv s) (config : Option BccNodeConfig) (isForced : Bool) :
    Inv (s.start config isForced c) :=
  h.push_idle rfl trivial

theorem Inv.stop (h : Inv s) : Inv (s.stop c) := by
  unfold BccNode.stop
  cases hc : s.isConnected with
  | false => exact h.push_idle rfl trivial
  | true =>
      refine h.push (by simp [Point.kind]) (Or.inr fun t ht hk => ?_) (by simp [Point.kind]) trivial
      exact absurd (hc.symm.trans (h.not_connected ht hk)) (by decide)

theorem Inv.restart (h : Inv s) (isForced : Bool) : Inv (s.restart isForced c) := by
  unfold BccNode.restart
  split
  · exact h.stop
  · exact h.push_idle rfl trivial

theorem Inv.handleBccNodeError (h : Inv s) : Inv s.handleBccNodeError := by
  unfold BccNode.handleBccNodeError
  split
  · exact h
  · split
    · exact h.changeToState (by decide)
    · exact (h.changeToState (by decide)).restart false

theorem Inv.failStart (h : Inv s) : Inv (s.failStart c) :=
  h.handleBccNodeError.push_idle rfl trivial

theorem Inv.handleBccNodeExit {l : ℕ} (h : Inv s) (hd : s.exitDue l = true) (code : Option ℕ) :
    Inv ((s.setLauncher l .emitExit).handleBccNodeExit l code) := by
  have hstart : ∀ t ∈ s.tasks, t.point.kind ≠ .starting := fun t ht hk =>
    absurd (hd.symm.trans (h.not_due t ht hk l)) (by decide)
  have hexit : Inv (if (s.setLauncher l .emitExit).state = .running
      then (s.setLauncher l .emitExit).changeToState .exiting else s.setLauncher l .emitExit) := by
    split
    · exact h.emitExit.changeToState (by decide)
    · exact h.emitExit
  unfold BccNode.handleBccNodeExit
  dsimp only
  split
  · exact hexit
  · refine hexit.push (by simp [Point.kind]) (Or.inr ?_) (fun _ => ?_) ?_
    · split <;> exact hstart
    · split
      · show BccNodeState.exiting ≠ .running
        decide
      · assumption
    · split <;> exact ⟨(h.due_last l hd).trans (length_setLauncher ..).symm, emitExit_of_exitDue hd⟩

/-! ## The methods after an `await` -/

theorem Inv.resolveStop (h : Inv s) (spawned : ℕ) : Inv (s.resolveStop spawned c) :=
  (h.others s.config s.startupTries s.exitOnStop (.stopped spawned :: s.notes)).push_idle rfl trivial

theorem Inv.catchRestart (h : Inv s) : Inv (s.catchRestart c) := by
  unfold BccNode.catchRestart
  split
  · exact h.push_idle rfl trivial
  · exact (h.changeToState (by decide)).push_idle rfl trivial

theorem Inv.settle (h : Inv s) (resolved : Bool) : Inv (s.settle resolved c) := by
  unfold BccNode.settle
  split
  · exact h
  · split
    · exact h.push_idle rfl trivial
    · exact h.catchRestart
  · split
    · exact h.push_idle rfl trivial
    · exact h.catchRestart
  · split
    · exact h.resolveStop _
    · exact h.push_idle rfl trivial

/-- `start()` past its guard: a launcher that runs would be the node or the previous one. -/
theorem Inv.startSetup {config : Option BccNodeConfig} {isForced : Bool} (h : Inv s) (hq : Quiet s)
    (hc : s.isConnected = false) (hp : s.notRunning s.previousPid = true) :
    Inv (s.startSetup config isForced c) := by
  have hdead : ∀ l, s.alive l = false := by
    intro l
    by_contra hl
    have ha : s.alive l = true := by simpa using hl
    rcases h.known l ha with ⟨hs, hn | hprev⟩ | ⟨t, ht, htp⟩
    · unfold isConnected at hc
      rw [hn] at hc
      exact absurd (hs.symm.trans hc) (by decide)
    · unfold notRunning at hp
      rw [hprev] at hp
      simp [ha] at hp
    · exact absurd (hq.1 t ht) (by simp [htp, Point.kind])
  have hdue : ∀ l, s.exitDue l = false := by
    intro l
    unfold exitDue
    cases hx : s.launchers[l]? with
    | none => rfl
    | some x => exact hq.2 x (List.mem_of_getElem? hx)
  unfold BccNode.startSetup
  split
  · exact h.push_idle rfl trivial
  · next config =>
      split
      · exact h.push_idle rfl trivial
      · refine Inv.push_starting ?_ hq.1 hdue rfl ⟨hdead, hc⟩
        exact (h.others (some config) (s.startupTries + 1) s.exitOnStop s.notes).changeToState (by decide)

/-- What can be said of a launcher after a new one is created. -/
theorem any_concat {g : Launcher → Bool} {l : ℕ}
    (h : (s.launchers ++ [({} : Launcher)])[l]?.any g = true) :
    s.launchers[l]?.any g = true ∨ (l = s.launchers.length ∧ g {} = true) := by
  cases hx : (s.launchers ++ [({} : Launcher)])[l]? with
  | none => simp [hx] at h
  | some x =>
      rw [hx] at h
      rcases List.getElem?_concat_eq_some.1 hx with hx | ⟨hl, rfl⟩
      · exact Or.inl (by rw [hx]; exact h)
      · exact Or.inr ⟨hl, h⟩

/-- A launcher is created: it is the only one that is alive. -/
theorem Inv.spawn {config : BccNodeConfig} (h : Inv (s.push (.walletLauncher config) c)) :
    Inv ({ s with
      launchers := s.launchers ++ [({} : Launcher)]
      node := some s.launchers.length }.push (.nodeStart s.launchers.length) c) := by
  have hs : Inv s := h.drop (by simp)
  obtain ⟨hdead, hconn⟩ : (∀ l, s.alive l = false) ∧ s.isConnected = false :=
    h.task _ (List.mem_cons_self ..)
  have hidle := h.others_idle rfl
  have hdue : ∀ l, s.exitDue l = false := h.not_due _ (List.mem_cons_self ..) rfl
  have htls : s.tlsConfig = none := by
    by_contra ht
    obtain ⟨l, hl⟩ := Option.ne_none_iff_exists'.1 ht
    obtain ⟨hn, hstarted⟩ := hs.tls_node l hl
    unfold isConnected at hconn
    rw [hn] at hconn
    exact absurd (hstarted.symm.trans hconn) (by decide)
  -- what holds of no launcher holds at most of the new one
  have hnew : ∀ (l : ℕ) {g : Launcher → Bool}, s.launchers[l]?.any g = false →
      (s.launchers ++ [({} : Launcher)])[l]?.any g = true → l = s.launchers.length ∧ g {} = true :=
    fun l g hold hl => (any_concat hl).resolve_left fun h => absurd (h.symm.trans hold) (by decide)
  refine ⟨?_, ?_, ?_, ?_, ?_, ?_, ?_, ?_, ?_⟩
  · refine List.pairwise_cons.2 ⟨fun t ht => ⟨fun _ => hidle t ht, fun hk => ?_⟩, hs.compatible⟩
    exact absurd (hk.symm.trans (hidle t ht)) (by decide)
  · refine List.forall_mem_cons.2 ⟨⟨rfl, ?_⟩, fun t ht => holds_of_idle (hidle t ht)⟩
    show (s.launchers ++ [({} : Launcher)])[s.launchers.length]?.any _ = false
    simp
  · exact fun t _ _ l =>
      Bool.eq_false_iff.2 fun hl => absurd (hnew l (hdue l) hl).2 (by decide)
  · intro l hl
    rw [← Option.some.inj hl]
    simp [BccNode.push]
  · intro l hl
    rw [(hnew l (hdead l) hl).1]
    simp [BccNode.push]
  · intro l hl
    exact absurd (hnew l (hdue l) hl).2 (by decide)
  · intro l hl
    refine Or.inr ⟨_, List.mem_cons_self .., ?_⟩
    rw [(hnew l (hdead l) hl).1]
  · intro l hl
    exact absurd (htls.symm.trans hl) (by simp)
  · intro hr
    exact absurd ((hs.running hr).2.1) (by rw [htls]; decide)

/-- A launcher that gets ready is the node. -/
theorem Inv.connect {l : ℕ} (h : Inv (s.push (.nodeStart l) c)) (ha : s.alive l = true) :
    Inv (s.setLauncher l .connect) := by
  obtain ⟨hn, -⟩ : s.node = some l ∧ s.started l = false := h.task _ (List.mem_cons_self ..)
  have hidle := h.others_idle rfl
  have hdue : ∀ m, s.exitDue m = false := h.not_due _ (List.mem_cons_self ..) rfl
  have hlen : ∀ m, m + 1 = s.launchers.length → m + 1 = (s.setLauncher l .connect).launchers.length :=
    fun m hm => hm.trans (length_setLauncher ..).symm
  refine ⟨(List.pairwise_cons.1 h.compatible).2, fun t ht => holds_of_idle (hidle t ht), ?_, ?_, ?_, ?_,
    ?_, ?_, ?_⟩
  · intro t _ _ m
    rw [exitDue_connect ha]
    exact hdue m
  · exact fun m hm => hlen m (h.node_last m hm)
  · intro m hm
    rw [alive_connect] at hm
    exact hlen m (h.alive_last m hm)
  · intro m hm
    rw [exitDue_connect ha] at hm
    exact hlen m (h.due_last m hm)
  · intro m hm
    have hml : m = l := by
      rw [alive_connect] at hm
      have hm := h.alive_last m hm
      have hl := h.node_last l hn
      omega
    subst hml
    exact Or.inl ⟨started_connect_self (lt_of_alive ha), Or.inl hn⟩
  · exact fun m hm => ⟨(h.tls_node m hm).1, started_of_connect (h.tls_node m hm).2⟩
  · intro hr
    obtain ⟨hn, ht, -⟩ := h.running hr
    exact ⟨hn, ht, fun t ht hk => absurd (hk.symm.trans (hidle t ht)) (by decide)⟩

/-- The node gets its TLS config. -/
theorem Inv.handleBccReplyPortMessage {l : ℕ} (h : Inv s)
    (hidle : ∀ t ∈ s.tasks, t.point.kind = .idle) (hn : s.node = some l)
    (hs : s.started l = true) : Inv (s.handleBccReplyPortMessage l) := by
  have htls : ∀ m, some l = some m → s.node = some m ∧ s.started m = true := by
    rintro m hm
    obtain rfl := Option.some.inj hm
    exact ⟨hn, hs⟩
  have hrun : s.node.isSome ∧ (some l).isSome ∧ ∀ t ∈ s.tasks, t.point.kind ≠ .ending :=
    ⟨by rw [hn]; rfl, rfl, fun t ht hk => absurd (hk.symm.trans (hidle t ht)) (by decide)⟩
  unfold BccNode.handleBccReplyPortMessage
  split
  · exact ⟨h.compatible, h.task, h.not_due, h.node_last, h.alive_last, h.due_last, h.known, htls,
      fun _ => hrun⟩
  · exact ⟨h.compatible, h.task, h.not_due, h.node_last, h.alive_last, h.due_last, h.known, htls,
      fun _ => hrun⟩

/-! ## Stopping the node -/

/-- The state with the pid stored, of which the invariant still holds with the call in front. -/
theorem Inv.stored (h : Inv (s.push p c)) (hs : s.storeProcessStates = some s') : Inv (s'.push p c) := by
  rw [storeProcessStates_eq_some hs]
  exact h.store

theorem Inv.kill (h : Inv (s.push p c)) (hp : p.kind = .ending) {d : List Frame} : Inv (s.kill d) :=
  h.replace hp rfl trivial

theorem Inv.catchKill (h : Inv (s.push p c)) (hp : p.kind = .ending) {d : List Frame} :
    Inv (s.catchKill d) := by
  unfold BccNode.catchKill
  split
  · next s' hs =>
      refine (h.stored hs).replace hp rfl fun l hl _ => ?_
      rw [storeProcessStates_eq_some hs] at hl ⊢
      show s.node.or s.previousPid = some l
      rw [show s.node = some l from hl, Option.some_or]
  · exact h.drop fun l hl => by simp [hl, Point.kind] at hp

/-- While no launcher is starting up, a poll for the current pid looks for the node. -/
theorem Inv.pid_eq (h : Inv s) (hstart : ∀ t ∈ s.tasks, t.point.kind ≠ .starting) :
    ∀ l, s.node = some l → s.alive l = true → s.pid = some l := by
  intro l hn ha
  unfold pid
  rw [hn, Option.filter_some]
  rcases h.known l ha with ⟨hs, -⟩ | ⟨t, ht, htp⟩
  · rw [hs]
    rfl
  · exact absurd (by rw [htp]; rfl) (hstart t ht)

/-- A dead node is forgotten. -/
theorem Inv.reset_stopped (h : Inv (s.push p c)) (hp : p.kind = .ending)
    (hdead : ∀ l, s.node = some l → s.alive l = true → s.previousPid = some l) : Inv s.reset := by
  have hdrop : Inv s := h.drop fun l hl => by simp [hl, Point.kind] at hp
  exact hdrop.reset (h.not_starting (by rw [hp]; decide)) (h.not_running hp) hdead

/-- The exit handler changes the state and stores the pid. -/
theorem Inv.exitReally {l : ℕ} (h : Inv (s.push p c)) (hp : p.kind = .ending)
    (hl : l + 1 = s.launchers.length ∧ s.launchers[l]? = some ⟨false, true, true⟩)
    (config : BccNodeConfig) (code : Option ℕ) : Inv (s.exitReally l config code) := by
  have hstate : ∀ {state : BccNodeState}, state ≠ .running → Inv ((s.changeToState state).push p c) :=
    fun hs => h.changeToState hs
  obtain ⟨state, hne, ⟨s', hs, heq⟩ | ⟨_, heq⟩⟩ := exitReally_cases s l config code
  · rw [heq]
    refine ((hstate hne).stored hs).replace hp rfl ?_
    rw [storeProcessStates_eq_some hs]
    exact hl
  · rw [heq]
    exact (hstate hne).drop fun l hl => by simp [hl, Point.kind] at hp

/-! ## Steps and runs -/

theorem StillFree.takeOut {k : ℕ} (h : StillFree s p) : StillFree (s.takeOut k) p := by
  unfold StillFree at h ⊢
  split
  · obtain ⟨hq, hc, hp⟩ := h
    exact ⟨⟨fun t ht => hq.1 t (List.mem_of_mem_eraseIdx ht), hq.2⟩, hc, hp⟩
  · trivial

/-- A call that was taken out goes on. -/
theorem inv_goOn {ok : Bool} (h : Inv (s.push p c))
    (hfree : ok = true → StillFree s p) (hs : s.goOn c ok p = some s') : Inv s' := by
  have hhold : Holds s p := h.task _ (List.mem_cons_self ..)
  unfold goOn at hs
  split at hs
  -- canBeStarted
  · next config isForced connected previousPid =>
      have hdrop : Inv s := h.drop (by simp)
      split at hs
      · exact Option.some.inj hs ▸ hdrop.push_idle rfl trivial
      · next hgo =>
          split at hs
          · next hprev =>
              obtain ⟨rfl, rfl⟩ : connected = false ∧ ok = true := by simpa using hgo
              obtain ⟨hq, hc, rfl⟩ := hfree rfl
              exact Option.some.inj hs ▸ hdrop.startSetup hq hc hprev
          · exact absurd hs (by simp)
  -- walletLauncher
  · split at hs
    · exact Option.some.inj hs ▸ h.spawn
    · exact Option.some.inj hs ▸ (h.drop (by simp)).failStart
  -- nodeStart
  · next l =>
      split at hs
      · split at hs
        · next ha =>
            refine Option.some.inj hs ▸ Inv.push_idle ?_ rfl trivial
            exact (h.connect ha).handleBccReplyPortMessage (h.others_idle rfl) hhold.1
              (started_connect_self (lt_of_alive ha))
        · exact absurd hs (by simp)
      · have hdie : Inv ((s.setLauncher l .die).push (.nodeStart l) c) := h.die
        refine Option.some.inj hs ▸ (hdie.drop ?_).failStart
        rintro m hm
        obtain rfl := Point.nodeStart.inj hm
        simp
  -- stopIsDead
  · next node connected spawned =>
      have hdrop : Inv s := h.drop (by simp)
      split at hs
      · next hc =>
          have hstop := hdrop.changeToState (show BccNodeState.stopping ≠ .running by decide)
          have hne : Kind.ending = .ending → (s.changeToState .stopping).state ≠ .running := fun _ =>
            show BccNodeState.stopping ≠ .running by decide
          have halone := h.not_starting (by simp [Point.kind, hc])
          split at hs
          · exact Option.some.inj hs ▸
              hstop.push (by simp [Point.kind]) (Or.inr halone) hne trivial
          · refine Option.some.inj hs ▸
              hstop.push (by simp [Point.kind]) (Or.inr halone) hne ?_
            exact hstop.pid_eq halone
      · exact Option.some.inj hs ▸ hdrop.resolveStop spawned
  -- nodeStop
  · next l spawned =>
      have halone := h.not_starting (by simp [Point.kind])
      split at hs
      · split at hs
        · exact absurd hs (by simp)
        · exact Option.some.inj hs ▸ h.replace rfl rfl ((h.drop (by simp)).pid_eq halone)
      · exact Option.some.inj hs ▸ h.kill rfl
  -- stopWait
  · next probed spawned =>
      split at hs
      · split at hs
        · next hprobed =>
            split at hs
            · next s₁ hs₁ =>
                refine Option.some.inj hs ▸ (h.stored hs₁).replace rfl rfl ?_
                rw [storeProcessStates_eq_some hs₁]
                intro l hn
                refine Bool.eq_false_iff.2 fun ha => ?_
                have ha : s.alive l = true := ha
                -- the node would be the process that the poll did not find
                rw [hhold l hn ha] at hprobed
                simp [notRunning, ha] at hprobed
            · exact Option.some.inj hs ▸ h.kill rfl
        · exact absurd hs (by simp)
      · exact Option.some.inj hs ▸ h.kill rfl
  -- stopStored
  · next spawned =>
      refine Option.some.inj hs ▸ (h.reset_stopped rfl fun l hn ha => ?_).resolveStop spawned
      exact absurd (ha.symm.trans (hhold l hn)) (by decide)
  -- killIsDead
  · split at hs
    · exact Option.some.inj hs ▸ h.drop (by simp)
    · split at hs
      · exact Option.some.inj hs ▸ h.replace rfl rfl trivial
      · exact Option.some.inj hs ▸ h.catchKill rfl
  -- killWait
  · split at hs
    · next s₁ hs₁ =>
        refine Option.some.inj hs ▸ (h.stored hs₁).replace rfl rfl fun l hn _ => ?_
        rw [storeProcessStates_eq_some hs₁] at hn ⊢
        show s.node.or s.previousPid = some l
        rw [show s.node = some l from hn, Option.some_or]
    · exact Option.some.inj hs ▸ h.catchKill rfl
  -- killStored
  · split at hs
    · have hstop : Inv ((s.changeToState .stopped).push _ c) := 
        h.changeToState (show BccNodeState.stopped ≠ .running by decide)
      exact Option.some.inj hs ▸ (hstop.reset_stopped rfl hhold).push_idle rfl trivial
    · exact Option.some.inj hs ▸ (h.reset_stopped rfl hhold).push_idle rfl trivial
  -- restartWait
  · split at hs
    · exact Option.some.inj hs ▸ (h.drop (by simp)).push_idle rfl trivial
    · exact Option.some.inj hs ▸ (h.drop (by simp)).start _ _
  -- exitWait
  · next l node config code probed =>
      split at hs
      · split at hs
        · exact Option.some.inj hs ▸ h.exitReally rfl hhold config code
        · exact absurd hs (by simp)
      · split at hs
        · exact Option.some.inj hs ▸ h.replace rfl rfl hhold
        · exact Option.some.inj hs ▸ h.exitReally rfl hhold config code
  -- exitKill
  · next l config code => exact Option.some.inj hs ▸ h.exitReally rfl hhold config code
  -- exitStored
  · next l =>
      refine Option.some.inj hs ▸ h.reset_stopped rfl fun m hn ha => ?_
      -- the node is the launcher that exited
      have hm : m + 1 = s.launchers.length := h.node_last m hn
      rw [show m = l by have hl := hhold.1; omega] at ha
      unfold alive at ha
      rw [show s.launchers[l]? = _ from hhold.2] at ha
      exact absurd ha (by decide)
  -- settled
  · next resolved => exact Option.some.inj hs ▸ (h.drop (by simp)).settle resolved

theorem inv_pollAgain (h : Inv (s.push p c)) (hs : s.pollAgain c p = some s') : Inv s' := by
  have hhold : Holds s p := h.task _ (List.mem_cons_self ..)
  unfold pollAgain at hs
  split at hs
  · have halone := h.not_starting (by simp [Point.kind])
    exact Option.some.inj hs ▸ h.replace rfl rfl ((h.drop (by simp)).pid_eq halone)
  · exact Option.some.inj hs ▸ h.replace rfl rfl hhold
  · exact absurd hs (by simp)

theorem inv_failTls (h : Inv (s.push p c)) (hs : s.failTls c p = some s') : Inv s' := by
  unfold failTls at hs
  split at hs
  · split at hs
    · next ha => exact Option.some.inj hs ▸ (h.connect ha).failStart
    · exact absurd hs (by simp)
  · exact absurd hs (by simp)

theorem inv_step {e : Event} (h : Inv s) (hok : Undisturbed s e) (hs : s.step e = some s') :
    Inv s' := by
  cases e with
  | start config isForced => exact Option.some.inj hs ▸ h.start _ _
  | stop => exact Option.some.inj hs ▸ h.stop
  | restart isForced => exact Option.some.inj hs ▸ h.restart _
  | exitOnStop => exact Option.some.inj hs ▸ h.others s.config s.startupTries true s.notes
  | die l =>
      unfold step at hs
      dsimp only at hs
      split at hs
      · exact Option.some.inj hs ▸ h.die
      · exact absurd hs (by simp)
  | exit l code =>
      unfold step at hs
      dsimp only at hs
      split at hs
      · next hd => exact Option.some.inj hs ▸ h.handleBccNodeExit hd code
      · exact absurd hs (by simp)
  | resume k ok =>
      obtain ⟨t, ht, hs⟩ := Option.bind_eq_some_iff.1 hs
      refine inv_goOn (h.takeOut ht) ?_ hs
      rintro rfl
      exact (hok t ht).takeOut
  | probe k =>
      obtain ⟨t, ht, hs⟩ := Option.bind_eq_some_iff.1 hs
      exact inv_pollAgain (h.takeOut ht) hs
  | unreadableTls k =>
      obtain ⟨t, ht, hs⟩ := Option.bind_eq_some_iff.1 hs
      exact inv_failTls (h.takeOut ht) hs

theorem inv_reaches (h : machine.Reaches Undisturbed s) : Inv s :=
  h.invariant inv_init fun _ _ _ _ hok hinv hs => inv_step hinv hok hs

/-- The node is started and, once it runs, restarted. -/
def startAndRestart : List Event :=
  [.start ⟨5⟩ false, .resume 0 true, .resume 0 true, .resume 0 true, .resume 0 true,
    -- `stop()` of `restart()`, and the exit of the first launcher
    .restart true, .resume 0 true, .die 0, .resume 0 true, .exit 0 none, .resume 0 true,
    .resume 0 true, .resume 0 true, .resume 0 true, .resume 0 true,
    -- `start()` of `restart()`
    .resume 0 true, .resume 0 true, .resume 0 true, .resume 0 true]

/-- A node that starts up is not connected yet: a restart meanwhile starts a second one. -/
def restartDuringStart : List Event :=
  [.start ⟨5⟩ false, .resume 0 true, .resume 0 true,
    .restart true, .resume 0 true, .resume 0 true, .resume 0 true]

end Klarity.BccNode
