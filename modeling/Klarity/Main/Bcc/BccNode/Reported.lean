import Klarity.Main.Bcc.BccNode.Exits

set_option autoImplicit false

/-! # A live node is reported as running

The reply port of a launcher changes the state to `RUNNING`, and broadcasts the TLS config, only from
`STARTING`. So the state must stay `STARTING` while a launch is under way, and nothing but a call that
ends the node may change it once the node is live. The `catch` block of `restart()` writes `ERRORED`
whoever owns the state by then: it must come while neither is the case (`Spares`). -/

namespace Klarity.BccNode

variable {s s' : BccNode} {p q : Point} {c d : List Frame} {l : ℕ}

/-! ## Live nodes -/

/-- The current launcher has started and is alive. -/
def live (s : BccNode) : Bool :=
  s.node.any fun l => s.started l && s.alive l

/-- The node is being stopped or killed, or an exit is handled. -/
def Ending (s : BccNode) : Prop :=
  ∃ t ∈ s.tasks, t.point.kind = .asking ∨ t.point.kind = .ending

instance decidableEnding (s : BccNode) : Decidable (Ending s) :=
  inferInstanceAs (Decidable (∃ t ∈ _, _))

/-- `restart()` gives up only while no launch is under way and no node is live, unless it is ended; the
    TLS files can be read, or the node is restarted. -/
def Spares (s : BccNode) : Event → Prop
  | .resume k _ => ∀ t ∈ s.tasks[k]?, t.givesUp = true →
      (∀ u ∈ s.tasks, u.point.kind ≠ .starting) ∧ (s.live = true → Ending s)
  | .unreadableTls _ => s.config.any (fun config => !s.isUnrecoverable config) = true
  | _ => True

instance decidableSpares (s : BccNode) : (e : Event) → Decidable (Spares s e)
  | .resume .. => inferInstanceAs (Decidable (∀ t ∈ _, _))
  | .unreadableTls _ => inferInstanceAs (Decidable (_ = _))
  | .start .. | .stop | .restart _ | .exitOnStop | .die _ | .exit .. | .probe _ => isTrue trivial

/-- `start()` is undisturbed, and spared what else it may overlap with. -/
def Spared (s : BccNode) (e : Event) : Prop :=
  Undisturbed s e ∧ Spares s e

instance decidableSpared (s : BccNode) (e : Event) : Decidable (Spared s e) :=
  inferInstanceAs (Decidable (_ ∧ _))

theorem live_eq_true : s.live = true ↔ ∃ l, s.node = some l ∧ s.started l = true ∧ s.alive l = true := by
  unfold live
  simp [Option.any_eq_true]

/-- A node that is not connected is not live. -/
theorem not_live_of_not_connected (h : s.isConnected = false) : s.live = false := by
  refine Bool.eq_false_iff.2 fun hl => ?_
  obtain ⟨l, hn, hs, -⟩ := live_eq_true.1 hl
  unfold isConnected at h
  rw [hn] at h
  exact absurd (hs.symm.trans h) (by decide)

theorem not_live_of_dead (h : ∀ l, s.node = some l → s.alive l = false) : s.live = false := by
  refine Bool.eq_false_iff.2 fun hl => ?_
  obtain ⟨l, hn, -, ha⟩ := live_eq_true.1 hl
  exact absurd (ha.symm.trans (h l hn)) (by decide)

/-- What cannot be stored has not started. -/
theorem not_live_of_storeProcessStates (h : s.storeProcessStates = none) : s.live = false := by
  unfold storeProcessStates at h
  split at h
  · exact absurd h (by simp)
  · next l hn =>
      split at h
      · exact absurd h (by simp)
      · next hs =>
          refine not_live_of_not_connected ?_
          unfold isConnected
          rw [hn]
          exact Bool.eq_false_iff.2 hs

/-! ## The invariant -/

/-- No launch is under way, and a `kill()` that found no node has none to kill. -/
structure Landed (s : BccNode) : Prop where
  starting : ∀ t ∈ s.tasks, t.point.kind ≠ .starting
  dead : ∀ t ∈ s.tasks, t.point = .killIsDead false → s.isConnected = false

structure Reported (s : BccNode) : Prop where
  live : s.live = true → Ending s ∨ (s.state = .running ∧ ∀ l ∈ s.node, Note.running l ∈ s.notes)
  starting : ∀ t ∈ s.tasks, t.point.kind = .starting → s.state = .starting
  dead : ∀ t ∈ s.tasks, t.point = .killIsDead false → s.isConnected = false

theorem reported_init : Reported {} := by
  refine ⟨?_, ?_, ?_⟩ <;> simp [BccNode.live]

/-- What the invariant is about stays, or gets less. -/
theorem Reported.frame (h : Reported s) (ht : s'.tasks = s.tasks) (hs : s'.state = s.state)
    (hn : s'.node = s.node) (hnotes : ∀ note ∈ s.notes, note ∈ s'.notes)
    (hlive : s'.live = true → s.live = true) (hc : s'.isConnected = s.isConnected) : Reported s' where
  live hl := by
    unfold Ending
    rw [ht, hs, hn]
    exact (h.live (hlive hl)).imp_right fun ⟨hr, hm⟩ => ⟨hr, fun l hl => hnotes _ (hm l hl)⟩
  starting := by
    rw [ht, hs]
    exact h.starting
  dead := by
    rw [ht, hc]
    exact h.dead

/-! ## Calls come and go -/

theorem Reported.takeOut {k : ℕ} {t : Task} (h : Reported s) (ht : s.tasks[k]? = some t) :
    Reported ((s.takeOut k).push t.point t.callers) := by
  have hperm := List.perm_cons_eraseIdx ht
  refine ⟨fun hl => (h.live hl).imp_left ?_, fun u hu => h.starting u (hperm.mem_iff.1 hu),
    fun u hu => h.dead u (hperm.mem_iff.1 hu)⟩
  rintro ⟨u, hu, hk⟩
  exact ⟨u, hperm.mem_iff.2 hu, hk⟩

theorem Reported.drop (h : Reported (s.push p c)) (hp : p.kind = .idle) : Reported s where
  live hl := by
    refine (h.live hl).imp_left ?_
    rintro ⟨t, ht, hk⟩
    rcases List.mem_cons.1 ht with rfl | ht
    · exact absurd hk (by simp [hp])
    · exact ⟨t, ht, hk⟩
  starting t ht := h.starting t (List.mem_cons_of_mem _ ht)
  dead t ht := h.dead t (List.mem_cons_of_mem _ ht)

theorem Reported.push (h : Reported s) (hp : p.kind = .idle) : Reported (s.push p c) where
  live hl := (h.live hl).imp_left fun ⟨t, ht, hk⟩ => ⟨t, List.mem_cons_of_mem _ ht, hk⟩
  starting := List.forall_mem_cons.2 ⟨fun hk => absurd (hp.symm.trans hk) (by decide), h.starting⟩
  dead := List.forall_mem_cons.2 ⟨fun hk => absurd hp (by simp [show p = _ from hk, Point.kind]), h.dead⟩

/-- A call that ends the node is under way; the state is its own. -/
theorem Landed.push (h : Landed s) (hp : p.kind = .asking ∨ p.kind = .ending)
    (hdead : p = .killIsDead false → s.isConnected = false) : Reported (s.push p c) where
  live _ := .inl ⟨_, List.mem_cons_self, hp⟩
  starting := by
    refine List.forall_mem_cons.2 ⟨fun hk => ?_, fun t ht hk => absurd hk (h.starting t ht)⟩
    rcases hp with hp | hp
    · exact absurd (hp.symm.trans hk) (by decide)
    · exact absurd (hp.symm.trans hk) (by decide)
  dead := List.forall_mem_cons.2 ⟨hdead, h.dead⟩

/-- No node is live. -/
theorem Landed.reported (h : Landed s) (hl : s.live = false) : Reported s :=
  ⟨fun ht => absurd (ht.symm.trans hl) (by decide), fun t ht hk => absurd hk (h.starting t ht), h.dead⟩

theorem landed_of_idle (h : ∀ t ∈ s.tasks, t.point.kind = .idle) : Landed s := by
  refine ⟨fun t ht hk => ?_, fun t ht hk => ?_⟩
  · exact absurd ((h t ht).symm.trans hk) (by decide)
  · exact absurd (h t ht) (by simp [hk, Point.kind])

/-- What a call that ends the node leaves behind. -/
theorem Reported.landed (h : Reported (s.push p c)) (hinv : Inv (s.push p c)) (hp : p.kind ≠ .idle) :
    Landed s :=
  ⟨hinv.not_starting hp, fun t ht => h.dead t (List.mem_cons_of_mem _ ht)⟩

theorem Landed.changeToState (h : Landed s) (state : BccNodeState) : Landed (s.changeToState state) :=
  ⟨h.starting, h.dead⟩

theorem Landed.reset (h : Landed s) : Reported s.reset :=
  Landed.reported ⟨h.starting, fun _ _ _ => rfl⟩ rfl

theorem Landed.storeProcessStates (h : Landed s) (hs : s.storeProcessStates = some s') : Landed s' := by
  rw [storeProcessStates_eq_some hs]
  exact ⟨h.starting, h.dead⟩

/-! ## The methods -/

theorem Landed.stop (h : Landed s) (hc : s.isConnected = true) : Reported (s.stop c) := by
  refine h.push (.inl ?_) (by simp)
  rw [hc]
  rfl

theorem Reported.stop (h : Reported s) (hinv : Inv s) : Reported (s.stop c) := by
  by_cases hc : s.isConnected = true
  · refine Landed.stop ⟨fun t ht hk => ?_, h.dead⟩ hc
    exact absurd (hc.symm.trans (hinv.not_connected ht hk)) (by decide)
  · refine h.push ?_
    rw [Bool.eq_false_iff.2 hc]
    rfl

theorem Reported.restart (h : Reported s) (hinv : Inv s) (isForced : Bool) :
    Reported (s.restart isForced c) := by
  unfold BccNode.restart
  split
  · exact h.stop hinv
  · exact h.push rfl

theorem Landed.restart (h : Landed s) (isForced : Bool) : Reported (s.restart isForced c) := by
  unfold BccNode.restart
  split
  · next hc => exact h.stop hc
  · next hc => exact (h.reported (not_live_of_not_connected (Bool.eq_false_iff.2 hc))).push rfl

/-- A launch failed, and nothing else is under way. -/
theorem Landed.failStart (h : Landed s)
    (hlive : s.live = true → s.config.any (fun config => !s.isUnrecoverable config) = true) :
    Reported (s.failStart c) := by
  have herror : Reported s.handleBccNodeError := by
    unfold handleBccNodeError
    split
    · next hconfig =>
        refine h.reported (Bool.eq_false_iff.2 fun hl => ?_)
        exact absurd (hlive hl) (by simp [hconfig])
    · next config hconfig =>
        split
        · next hover =>
            refine (h.changeToState _).reported (Bool.eq_false_iff.2 fun hl => ?_)
            exact absurd (hlive hl) (by simp [hconfig, hover])
        · exact (h.changeToState _).restart false
  exact herror.push rfl

theorem Reported.resolveStop (h : Reported s) (spawned : ℕ) : Reported (s.resolveStop spawned c) := by
  refine Reported.push ?_ rfl
  exact h.frame rfl rfl rfl (fun _ => List.mem_cons_of_mem _) id rfl

theorem Reported.catchRestart (h : Reported s)
    (hspare : (∀ t ∈ s.tasks, t.point.kind ≠ .starting) ∧ (s.live = true → Ending s)) :
    Reported (s.catchRestart c) := by
  refine Reported.push ?_ rfl
  split
  · exact h
  · exact ⟨fun hl => .inl (hspare.2 hl), fun t ht hk => absurd hk (hspare.1 t ht), h.dead⟩

theorem Reported.settle {resolved : Bool} (h : Reported s)
    (hspare : Task.givesUp ⟨.settled resolved, c⟩ = true →
      (∀ t ∈ s.tasks, t.point.kind ≠ .starting) ∧ (s.live = true → Ending s)) :
    Reported (s.settle resolved c) := by
  unfold BccNode.settle
  split
  · exact h
  · cases resolved with
    | true => exact h.push rfl
    | false => exact h.catchRestart (hspare rfl)
  · cases resolved with
    | true => exact h.push rfl
    | false => exact h.catchRestart (hspare rfl)
  · split
    · exact h.resolveStop _
    · exact h.push rfl

theorem Reported.startSetup {config : Option BccNodeConfig} {isForced : Bool} (h : Reported s)
    (hq : Quiet s) (hc : s.isConnected = false) : Reported (s.startSetup config isForced c) := by
  unfold BccNode.startSetup
  split
  · exact h.push rfl
  · split
    · exact h.push rfl
    · refine ⟨fun hl => ?_, fun _ _ _ => rfl, ?_⟩
      · exact absurd (hl.symm.trans (not_live_of_not_connected hc)) (by decide)
      · exact List.forall_mem_cons.2 ⟨fun hk => absurd hk (by simp), (landed_of_idle hq.1).dead⟩

theorem Landed.catchKill (h : Landed s) : Reported (s.catchKill c) := by
  unfold BccNode.catchKill
  split
  · next s' hs => exact (h.storeProcessStates hs).push (.inr rfl) (by simp)
  · next hs => exact h.reported (not_live_of_storeProcessStates hs)

theorem Landed.exitReally (h : Landed s) (l : ℕ) (config : BccNodeConfig) (code : Option ℕ) :
    Reported (s.exitReally l config code) := by
  obtain ⟨state, _, ⟨s', hs, heq⟩ | ⟨hs, heq⟩⟩ := exitReally_cases s l config code
  · rw [heq]
    exact ((h.changeToState _).storeProcessStates hs).push (.inr rfl) (by simp)
  · rw [heq]
    exact (h.changeToState _).reported (not_live_of_storeProcessStates hs)

/-- The launcher that exited was the last one, so no node is live. -/
theorem Reported.handleBccNodeExit (h : Reported s) (hinv : Inv s) (hd : s.exitDue l = true)
    (code : Option ℕ) : Reported ((s.setLauncher l .emitExit).handleBccNodeExit l code) := by
  have hlanded : Landed (s.setLauncher l .emitExit) := by
    refine ⟨fun t ht hk => ?_, fun t ht hk => isConnected_emitExit.trans (h.dead t ht hk)⟩
    exact absurd (hd.symm.trans (hinv.not_due t ht hk l)) (by decide)
  have hlive : (s.setLauncher l .emitExit).live = false := by
    refine not_live_of_dead fun m hm => ?_
    have hml := hinv.node_last m hm
    have hl := hinv.due_last l hd
    rw [show m = l by omega]
    unfold alive
    rw [emitExit_of_exitDue hd]
    rfl
  unfold BccNode.handleBccNodeExit
  dsimp only
  split
  · split
    · exact (hlanded.changeToState _).reported hlive
    · exact hlanded.reported hlive
  · refine Landed.push ?_ (.inr rfl) (by simp)
    split
    · exact hlanded.changeToState _
    · exact hlanded

/-! ## A launch -/

/-- The state is still the `STARTING` of this launch. -/
theorem Reported.spawn {config : BccNodeConfig} (h : Reported (s.push (.walletLauncher config) c))
    (hinv : Inv (s.push (.walletLauncher config) c)) :
    Reported ({ s with
      launchers := s.launchers ++ [({} : Launcher)]
      node := some s.launchers.length }.push (.nodeStart s.launchers.length) c) := by
  have hholds : Holds _ (.nodeStart s.launchers.length) :=
    hinv.spawn.task ⟨_, c⟩ List.mem_cons_self
  refine ⟨fun hl => ?_, fun _ _ _ => h.starting _ List.mem_cons_self rfl, ?_⟩
  · obtain ⟨l, hn, hs, -⟩ := live_eq_true.1 hl
    obtain rfl := Option.some.inj (hholds.1.symm.trans hn)
    exact absurd (hs.symm.trans hholds.2) (by decide)
  · refine List.forall_mem_cons.2 ⟨fun hk => absurd hk (by simp), fun t ht hk => ?_⟩
    exact absurd (hinv.others_idle rfl t ht) (by simp [hk, Point.kind])

/-- The launch is through: the node runs, and its TLS config is broadcast. -/
theorem Reported.connect (h : Reported (s.push (.nodeStart l) c)) (hinv : Inv (s.push (.nodeStart l) c)) :
    Reported ((s.setLauncher l .connect).handleBccReplyPortMessage l) := by
  have hstate : (s.setLauncher l .connect).state = .starting := h.starting _ List.mem_cons_self rfl
  have hholds : Holds s (.nodeStart l) := hinv.task _ List.mem_cons_self
  have hidle := hinv.others_idle rfl
  unfold handleBccReplyPortMessage
  rw [if_pos hstate]
  refine ⟨fun _ => .inr ⟨rfl, fun m hm => ?_⟩, fun t ht hk => ?_, fun t ht hk => ?_⟩
  · obtain rfl := Option.some.inj (hholds.1.symm.trans hm)
    exact List.mem_cons_self
  · exact absurd ((hidle t ht).symm.trans hk) (by decide)
  · exact absurd (hidle t ht) (by simp [hk, Point.kind])

theorem Inv.not_live_of_starting (h : Inv (s.push p c)) (hp : p.kind = .starting) : s.live = false :=
  not_live_of_not_connected (h.not_connected List.mem_cons_self hp)

/-! ## Steps and runs -/

theorem reported_goOn {ok : Bool} (h : Reported (s.push p c)) (hinv : Inv (s.push p c))
    (hfree : ok = true → StillFree s p)
    (hspare : Task.givesUp ⟨p, c⟩ = true →
      (∀ t ∈ s.tasks, t.point.kind ≠ .starting) ∧ (s.live = true → Ending s))
    (hs : s.goOn c ok p = some s') : Reported s' := by
  unfold goOn at hs
  split at hs
  -- canBeStarted
  · have hdrop := h.drop rfl
    split at hs
    · exact Option.some.inj hs ▸ hdrop.push rfl
    · next hgo =>
        split at hs
        · next config isForced connected previousPid _ =>
            obtain ⟨rfl, rfl⟩ : connected = false ∧ ok = true := by simpa using hgo
            obtain ⟨hq, hc, -⟩ := hfree rfl
            exact Option.some.inj hs ▸ hdrop.startSetup hq hc
        · exact absurd hs (by simp)
  -- walletLauncher
  · split at hs
    · exact Option.some.inj hs ▸ h.spawn hinv
    · refine Option.some.inj hs ▸ (landed_of_idle (hinv.others_idle rfl)).failStart fun hl => ?_
      exact absurd (hl.symm.trans (hinv.not_live_of_starting rfl)) (by decide)
  -- nodeStart
  · next l =>
      split at hs
      · split at hs
        · exact Option.some.inj hs ▸ (h.connect hinv).push rfl
        · exact absurd hs (by simp)
      · have hdie : Inv ((s.setLauncher l .die).push (.nodeStart l) c) := hinv.die
        refine Option.some.inj hs ▸ (landed_of_idle (hdie.others_idle rfl)).failStart fun hl => ?_
        exact absurd (hl.symm.trans (hdie.not_live_of_starting rfl)) (by decide)
  -- stopIsDead
  · split at hs
    · next hc =>
        have hlanded := (h.landed hinv (by simp [Point.kind, hc])).changeToState .stopping
        split at hs
        · exact Option.some.inj hs ▸ hlanded.push (.inr rfl) (by simp)
        · exact Option.some.inj hs ▸ hlanded.push (.inr rfl) (by simp)
    · next hc => exact Option.some.inj hs ▸ (h.drop (by simp [Point.kind, hc])).resolveStop _
  -- nodeStop
  · have hlanded := h.landed hinv (by simp [Point.kind])
    split at hs
    · split at hs
      · exact absurd hs (by simp)
      · exact Option.some.inj hs ▸ hlanded.push (.inr rfl) (by simp)
    · exact Option.some.inj hs ▸ hlanded.push (.inr rfl) fun hk => by injection hk
  -- stopWait
  · have hlanded := h.landed hinv (by simp [Point.kind])
    split at hs
    · split at hs
      · split at hs
        · next s₁ hs₁ =>
            exact Option.some.inj hs ▸ (hlanded.storeProcessStates hs₁).push (.inr rfl) (by simp)
        · exact Option.some.inj hs ▸ hlanded.push (.inr rfl) fun hk => by injection hk
      · exact absurd hs (by simp)
    · exact Option.some.inj hs ▸ hlanded.push (.inr rfl) fun hk => by injection hk
  -- stopStored
  · exact Option.some.inj hs ▸ (h.landed hinv (by simp [Point.kind])).reset.resolveStop _
  -- killIsDead
  · next connected =>
      have hlanded := h.landed hinv (by simp [Point.kind])
      split at hs
      · next hc =>
          obtain rfl : connected = false := by simpa using hc
          have hdead : s.isConnected = false := h.dead _ List.mem_cons_self rfl
          exact Option.some.inj hs ▸ hlanded.reported (not_live_of_not_connected hdead)
      · split at hs
        · exact Option.some.inj hs ▸ hlanded.push (.inr rfl) (by simp)
        · exact Option.some.inj hs ▸ hlanded.catchKill
  -- killWait
  · have hlanded := h.landed hinv (by simp [Point.kind])
    split at hs
    · next s₁ hs₁ =>
        exact Option.some.inj hs ▸ (hlanded.storeProcessStates hs₁).push (.inr rfl) (by simp)
    · exact Option.some.inj hs ▸ hlanded.catchKill
  -- killStored
  · have hlanded := h.landed hinv (by simp [Point.kind])
    split at hs
    · exact Option.some.inj hs ▸ (hlanded.changeToState .stopped).reset.push rfl
    · exact Option.some.inj hs ▸ hlanded.reset.push rfl
  -- restartWait
  · have hdrop := h.drop rfl
    split at hs
    · exact Option.some.inj hs ▸ hdrop.push rfl
    · exact Option.some.inj hs ▸ hdrop.push rfl
  -- exitWait
  · have hlanded := h.landed hinv (by simp [Point.kind])
    split at hs
    · split at hs
      · exact Option.some.inj hs ▸ hlanded.exitReally ..
      · exact absurd hs (by simp)
    · split at hs
      · exact Option.some.inj hs ▸ hlanded.push (.inr rfl) (by simp)
      · exact Option.some.inj hs ▸ hlanded.exitReally ..
  -- exitKill
  · exact Option.some.inj hs ▸ (h.landed hinv (by simp [Point.kind])).exitReally ..
  -- exitStored
  · exact Option.some.inj hs ▸ (h.landed hinv (by simp [Point.kind])).reset
  -- settled
  · exact Option.some.inj hs ▸ (h.drop rfl).settle hspare

theorem reported_pollAgain (h : Reported (s.push p c)) (hinv : Inv (s.push p c))
    (hs : s.pollAgain c p = some s') : Reported s' := by
  unfold pollAgain at hs
  split at hs
  · have hlanded := h.landed hinv (by simp [Point.kind])
    exact Option.some.inj hs ▸ hlanded.push (.inr rfl) (by simp)
  · have hlanded := h.landed hinv (by simp [Point.kind])
    exact Option.some.inj hs ▸ hlanded.push (.inr rfl) (by simp)
  · exact absurd hs (by simp)

theorem reported_failTls (hinv : Inv (s.push p c))
    (hconfig : s.config.any (fun config => !s.isUnrecoverable config) = true)
    (hs : s.failTls c p = some s') : Reported s' := by
  unfold failTls at hs
  split at hs
  · next l =>
      split at hs
      · have hlanded : Landed (s.setLauncher l .connect) := landed_of_idle (hinv.others_idle rfl)
        exact Option.some.inj hs ▸ hlanded.failStart fun _ => hconfig
      · exact absurd hs (by simp)
  · exact absurd hs (by simp)

/-- The call that gives up counts for neither. -/
theorem spare_takeOut {k : ℕ} {t : Task} (ht : s.tasks[k]? = some t) (hg : t.givesUp = true)
    (h : (∀ u ∈ s.tasks, u.point.kind ≠ .starting) ∧ (s.live = true → Ending s)) :
    (∀ u ∈ (s.takeOut k).tasks, u.point.kind ≠ .starting) ∧
      ((s.takeOut k).live = true → Ending (s.takeOut k)) := by
  refine ⟨fun u hu => h.1 u (List.mem_of_mem_eraseIdx hu), fun hl => ?_⟩
  obtain ⟨u, hu, hk⟩ := h.2 hl
  rcases List.mem_cons.1 ((List.perm_cons_eraseIdx ht).mem_iff.2 hu) with rfl | hu
  · have hidle : u.point.kind = .idle := by
      unfold Task.givesUp at hg
      split at hg
      · rfl
      · rfl
      · exact absurd hg (by decide)
    exact absurd hk (by simp [hidle])
  · exact ⟨u, hu, hk⟩

theorem reported_step {e : Event} (h : Reported s) (hinv : Inv s) (hok : Spared s e)
    (hs : s.step e = some s') : Reported s' := by
  obtain ⟨hfree, hspare⟩ := hok
  cases e with
  | start config isForced => exact Option.some.inj hs ▸ h.push rfl
  | stop => exact Option.some.inj hs ▸ h.stop hinv
  | restart isForced => exact Option.some.inj hs ▸ h.restart hinv _
  | exitOnStop => exact Option.some.inj hs ▸ h.frame rfl rfl rfl (fun _ => id) id rfl
  | die l =>
      unfold step at hs
      dsimp only at hs
      split at hs
      · refine Option.some.inj hs ▸ h.frame rfl rfl rfl (fun _ => id) (fun hl => ?_) isConnected_die
        obtain ⟨m, hn, hs, ha⟩ := live_eq_true.1 hl
        rw [started_die] at hs
        rw [alive_die, Bool.and_eq_true] at ha
        exact live_eq_true.2 ⟨m, hn, hs, ha.1⟩
      · exact absurd hs (by simp)
  | exit l code =>
      unfold step at hs
      dsimp only at hs
      split at hs
      · next hd => exact Option.some.inj hs ▸ h.handleBccNodeExit hinv hd code
      · exact absurd hs (by simp)
  | resume k ok =>
      obtain ⟨t, ht, hs⟩ := Option.bind_eq_some_iff.1 hs
      refine reported_goOn (h.takeOut ht) (hinv.takeOut ht) ?_ (fun hg => ?_) hs
      · rintro rfl
        exact (hfree t ht).takeOut
      · exact spare_takeOut ht hg (hspare t ht hg)
  | probe k =>
      obtain ⟨t, ht, hs⟩ := Option.bind_eq_some_iff.1 hs
      exact reported_pollAgain (h.takeOut ht) (hinv.takeOut ht) hs
  | unreadableTls k =>
      obtain ⟨t, ht, hs⟩ := Option.bind_eq_some_iff.1 hs
      exact reported_failTls (hinv.takeOut ht) hspare hs

theorem reported_reaches (h : machine.Reaches Spared s) : Reported s := by
  refine h.invariant reported_init fun s e s' hr hok hrep hs => ?_
  exact reported_step hrep (inv_reaches (hr.mono fun _ _ h => h.1)) hok hs

/-- A `restart()` during the only launch that the limit allows gives up. -/
def restartAtLimit : List Event :=
  [.start ⟨1⟩ false, .resume 0 true, .resume 0 true,
    .restart false, .resume 0 true, .resume 0 true, .resume 0 true, .resume 0 true,
    -- the launcher gets ready
    .resume 0 true]

end Klarity.BccNode
