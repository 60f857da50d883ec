import Klarity.Main.Bcc.BccNode.Restarts
import Mathlib.Algebra.GroupWithZero.Nat

set_option autoImplicit false

/-! # When every launch fails

From a state in which no node runs and none is being stopped (`Down`), let every launch fail. Each
failure is followed by the next launch until the limit is reached, so something is left to do until the
state is `UNRECOVERABLE` (`Next`). A measure that every step lowers says that this ends. -/

namespace Klarity.BccNode

variable {s s' s₀ : BccNode} {p : Point} {c : List Frame} {n : ℕ}

def Point.Fails (ok : Bool) : Point → Prop
  | .canBeStarted .. => ok = true
  | .nodeStart _ => ok = false
  | _ => True

/-- Every `start()` that its guard does not refuse gets to launch, and the launch fails. -/
def LaunchesFail (s : BccNode) : Event → Prop
  | .start _ isForced | .restart isForced => isForced = false
  | .exitOnStop | .unreadableTls _ => False
  | .resume k ok => ∀ t ∈ s.tasks[k]?, t.point.Fails ok
  | _ => True

instance decidableFails (ok : Bool) : (p : Point) → Decidable (p.Fails ok)
  | .canBeStarted .. | .nodeStart _ => inferInstanceAs (Decidable (_ = _))
  | .walletLauncher _ | .stopIsDead .. | .nodeStop .. | .stopWait .. | .stopStored _ | .killIsDead _
  | .killWait | .killStored _ | .restartWait .. | .exitWait .. | .exitKill .. | .exitStored _
  | .settled _ => isTrue trivial

instance decidableLaunchesFail (s : BccNode) : (e : Event) → Decidable (LaunchesFail s e)
  | .start .. | .restart _ => inferInstanceAs (Decidable (_ = _))
  | .exitOnStop | .unreadableTls _ => isFalse id
  | .resume .. => inferInstanceAs (Decidable (∀ t ∈ _, _))
  | .stop | .die _ | .exit .. | .probe _ => isTrue trivial

/-! ## What is left to do -/

/-- The call leads to a `start()` with the config. -/
def Point.Retries (config : BccNodeConfig) : Point → Prop
  | .restartWait config' _ => config' = some config
  | .canBeStarted config' _ connected _ => config' = some config ∧ connected = false
  | _ => False

/-- What follows a launch that failed: another one, a restart that leads to one, or nothing. -/
inductive Next (s : BccNode) : Prop
  | launch (h : ∃ t ∈ s.tasks, t.point.kind = .starting)
  | again (config : BccNodeConfig) (hconfig : s.config = some config)
      (hmore : s.isUnrecoverable config = false) (h : ∃ t ∈ s.tasks, t.point.Retries config)
  | ended (config : BccNodeConfig) (hconfig : s.config = some config)
      (hover : s.isUnrecoverable config = true) (hstate : s.state = .unrecoverable)

/-- No node runs, and none is being stopped. -/
structure Down (s : BccNode) : Prop where
  exitOnStop : s.exitOnStop = false
  points : ∀ t ∈ s.tasks, t.point.kind = .idle ∨ t.point.kind = .starting
  unconnected : ∀ l, s.node = some l → s.started l = false
  gone : ∀ l, s.started l = true → s.alive l = false
  not_due : ∀ l, s.exitDue l = false

/-- Since the counter was `n` every launch failed. -/
structure Failing (n : ℕ) (s : BccNode) : Prop extends Down s where
  voluntary : Voluntary s
  launched : n < s.startupTries → s.config.isSome
  next : n < s.startupTries → Next s

theorem Down.isConnected (h : Down s) : s.isConnected = false := by
  unfold BccNode.isConnected
  cases hn : s.node with
  | none => rfl
  | some l => exact h.unconnected l hn

theorem Next.mono (h : Next s) (hconfig : s'.config = s.config)
    (htries : s'.startupTries = s.startupTries) (htasks : ∀ t ∈ s.tasks, t ∈ s'.tasks)
    (hstate : s.state = .unrecoverable → s'.state = .unrecoverable) : Next s' := by
  have hlimit : ∀ config, s'.isUnrecoverable config = s.isUnrecoverable config := fun config => by
    unfold isUnrecoverable
    rw [htries]
  cases h with
  | launch h =>
      obtain ⟨t, ht, hk⟩ := h
      exact .launch ⟨t, htasks t ht, hk⟩
  | again config hc hmore h =>
      obtain ⟨t, ht, hr⟩ := h
      exact .again config (hconfig.trans hc) ((hlimit config).trans hmore) ⟨t, htasks t ht, hr⟩
  | ended config hc hover hs => exact .ended config (hconfig.trans hc) ((hlimit config).trans hover) (hstate hs)

/-- What is left once a call is taken out. -/
theorem Next.drop (h : Next (s.push p c)) : Next s ∨ p.kind = .starting ∨
    ∃ config, s.config = some config ∧ s.isUnrecoverable config = false ∧ p.Retries config := by
  cases h with
  | launch h =>
      obtain ⟨t, ht, hk⟩ := h
      rcases List.mem_cons.1 ht with rfl | ht
      · exact .inr (.inl hk)
      · exact .inl (.launch ⟨t, ht, hk⟩)
  | again config hc hmore h =>
      obtain ⟨t, ht, hr⟩ := h
      rcases List.mem_cons.1 ht with rfl | ht
      · exact .inr (.inr ⟨config, hc, hmore, hr⟩)
      · exact .inl (.again config hc hmore ⟨t, ht, hr⟩)
  | ended config hc hover hs => exact .inl (.ended config hc hover hs)

/-! ## Calls come and go -/

theorem Down.perm {ts : List Task} (h : Down s) (hts : ts.Perm s.tasks) :
    Down { s with tasks := ts } :=
  ⟨h.exitOnStop, fun t ht => h.points t (hts.mem_iff.1 ht), h.unconnected, h.gone, h.not_due⟩

theorem Failing.takeOut {k : ℕ} {t : Task} (h : Failing n s) (ht : s.tasks[k]? = some t) :
    Failing n ((s.takeOut k).push t.point t.callers) := by
  have hperm := List.perm_cons_eraseIdx ht
  refine ⟨h.toDown.perm hperm, fun u hu => h.voluntary u (hperm.mem_iff.1 hu), h.launched, fun hn => ?_⟩
  exact (h.next hn).mono rfl rfl (fun u hu => hperm.mem_iff.2 hu) id

theorem Down.push (h : Down s) (hp : p.kind = .idle ∨ p.kind = .starting) : Down (s.push p c) :=
  ⟨h.exitOnStop, List.forall_mem_cons.2 ⟨hp, h.points⟩, h.unconnected, h.gone, h.not_due⟩

theorem Failing.push (h : Failing n s) (hp : p.kind = .idle ∨ p.kind = .starting)
    (hf : Task.isForced ⟨p, c⟩ = false) : Failing n (s.push p c) :=
  ⟨h.toDown.push hp, List.forall_mem_cons.2 ⟨hf, h.voluntary⟩, h.launched, fun hn =>
    (h.next hn).mono rfl rfl (fun _ => List.mem_cons_of_mem _) id⟩

theorem Down.drop (h : Down (s.push p c)) : Down s :=
  ⟨h.exitOnStop, fun t ht => h.points t (List.mem_cons_of_mem _ ht), h.unconnected, h.gone, h.not_due⟩

theorem Voluntary.drop (h : Voluntary (s.push p c)) : Voluntary s :=
  fun t ht => h t (List.mem_cons_of_mem _ ht)

theorem Failing.drop (h : Failing n (s.push p c)) (hp : p.kind ≠ .starting)
    (hr : ∀ config, ¬ p.Retries config) : Failing n s := by
  refine ⟨h.toDown.drop, h.voluntary.drop, h.launched, fun hn => ?_⟩
  rcases (h.next hn).drop with hnext | hk | ⟨config, -, -, hconfig⟩
  · exact hnext
  · exact absurd hk hp
  · exact absurd hconfig (hr config)

theorem Down.changeToState (h : Down s) (state : BccNodeState) : Down (s.changeToState state) :=
  ⟨h.exitOnStop, h.points, h.unconnected, h.gone, h.not_due⟩

/-! ## The measure -/

variable {N m : ℕ}

/-- A caller counts for the calls that it can still make. -/
def Frame.weight : Frame → ℕ
  | .restartStop .. => 5
  | .restartStart | .stopKill _ => 1

def Point.weight : Point → ℕ
  | .canBeStarted .. | .stopIsDead .. => 2
  | .restartWait .. => 4
  | .nodeStart _ => 6
  | .walletLauncher _ => 8
  | _ => 1

def Task.weight (t : Task) : ℕ :=
  t.point.weight + (t.callers.map Frame.weight).sum

/-- A launch makes use of one of the tries that are left, which count for all that can follow it. -/
def measure (N : ℕ) (s : BccNode) : ℕ :=
  7 * (N - s.startupTries) + (s.tasks.map Task.weight).sum + s.launchers.countP (·.alive)

def WithinConfig (N : ℕ) (config : Option BccNodeConfig) : Prop :=
  ∀ config', config = some config' → config'.startupMaxRetries ≤ N

def Frame.Within (N : ℕ) : Frame → Prop
  | .restartStop config _ => WithinConfig N config
  | _ => True

def Point.Within (N : ℕ) : Point → Prop
  | .canBeStarted config _ _ _ | .restartWait config _ => WithinConfig N config
  | _ => True

/-- No config that is in use allows more than `N` tries. -/
structure Within (N : ℕ) (s : BccNode) : Prop where
  config : WithinConfig N s.config
  points : ∀ t ∈ s.tasks, t.point.Within N
  callers : ∀ t ∈ s.tasks, ∀ f ∈ t.callers, f.Within N

/-- A step that gets closer to the end. -/
structure Progress (N n m : ℕ) (s : BccNode) : Prop where
  failing : Failing n s
  within : Within N s
  lt : measure N s < m

theorem measure_push : measure N (s.push p c) = measure N s + Task.weight ⟨p, c⟩ := by
  unfold measure BccNode.push
  dsimp only
  rw [List.map_cons, List.sum_cons]
  omega

theorem measure_takeOut {k : ℕ} {t : Task} (ht : s.tasks[k]? = some t) :
    measure N ((s.takeOut k).push t.point t.callers) = measure N s := by
  have hsum : ((⟨t.point, t.callers⟩ :: s.tasks.eraseIdx k).map Task.weight).sum =
      (s.tasks.map Task.weight).sum := ((List.perm_cons_eraseIdx ht).map Task.weight).sum_nat
  unfold measure
  exact congrArg (fun sum => 7 * (N - s.startupTries) + sum + s.launchers.countP (·.alive)) hsum

theorem Within.takeOut {k : ℕ} {t : Task} (h : Within N s) (ht : s.tasks[k]? = some t) :
    Within N ((s.takeOut k).push t.point t.callers) := by
  have hperm := List.perm_cons_eraseIdx ht
  exact ⟨h.config, fun u hu => h.points u (hperm.mem_iff.1 hu), fun u hu => h.callers u (hperm.mem_iff.1 hu)⟩

theorem Within.drop (h : Within N (s.push p c)) : Within N s :=
  ⟨h.config, fun t ht => h.points t (List.mem_cons_of_mem _ ht),
    fun t ht => h.callers t (List.mem_cons_of_mem _ ht)⟩

theorem Within.push (h : Within N s) (hp : p.Within N) (hc : ∀ f ∈ c, f.Within N) :
    Within N (s.push p c) :=
  ⟨h.config, List.forall_mem_cons.2 ⟨hp, h.points⟩, List.forall_mem_cons.2 ⟨hc, h.callers⟩⟩

theorem Progress.push (h : Failing n s) (hw : Within N s) (hp : p.kind = .idle)
    (hf : Task.isForced ⟨p, c⟩ = false) (hpw : p.Within N) (hcw : ∀ f ∈ c, f.Within N)
    (hlt : measure N s + Task.weight ⟨p, c⟩ < m) : Progress N n m (s.push p c) :=
  ⟨h.push (.inl hp) hf, hw.push hpw hcw, by rw [measure_push]; exact hlt⟩

/-! ## The methods -/

section Methods

variable (hf : c.any Frame.isForced = false) (hcw : ∀ f ∈ c, f.Within N)

include hf hcw

theorem Progress.settled (h : Failing n s) (hw : Within N s) (resolved : Bool)
    (hlt : measure N s + (c.map Frame.weight).sum + 1 < m) :
    Progress N n m (s.push (.settled resolved) c) := by
  refine .push h hw rfl (by simpa [Task.isForced, Point.isForced] using hf) trivial hcw ?_
  simp only [Task.weight, Point.weight]
  omega

theorem Progress.resolveStop (h : Failing n s) (hw : Within N s) (spawned : ℕ)
    (hlt : measure N s + (c.map Frame.weight).sum + 1 < m) :
    Progress N n m (s.resolveStop spawned c) := by
  have hnotes : Failing n { s with notes := .stopped spawned :: s.notes } :=
    ⟨⟨h.exitOnStop, h.points, h.unconnected, h.gone, h.not_due⟩, h.voluntary, h.launched,
      fun hn => (h.next hn).mono rfl rfl (fun _ => id) id⟩
  exact Progress.settled hf hcw hnotes ⟨hw.config, hw.points, hw.callers⟩ true hlt

/-- The `catch` block of a `restart()` leaves `UNRECOVERABLE` alone. -/
theorem Progress.catchRestart (h : Failing n s) (hw : Within N s)
    (hlt : measure N s + (c.map Frame.weight).sum + 1 < m) :
    Progress N n m (s.catchRestart c) := by
  unfold BccNode.catchRestart
  split
  · exact Progress.settled hf hcw h hw false hlt
  · next hs =>
      have herrored : Failing n (s.changeToState .errored) :=
        ⟨h.toDown.changeToState _, h.voluntary, h.launched,
          fun hn => (h.next hn).mono rfl rfl (fun _ => id) fun hu => absurd hu hs⟩
      exact Progress.settled hf hcw herrored ⟨hw.config, hw.points, hw.callers⟩ false hlt

theorem Progress.settle (h : Failing n s) (hw : Within N s) (resolved : Bool)
    (hlt : measure N s + (c.map Frame.weight).sum < m) : Progress N n m (s.settle resolved c) := by
  unfold BccNode.settle
  split
  · exact ⟨h, hw, by simpa using hlt⟩
  · next config isForced callers =>
      obtain ⟨hforced, hf⟩ : isForced = false ∧ callers.any Frame.isForced = false := by
        simpa [Frame.isForced] using hf
      obtain ⟨hconfig, hcw⟩ := List.forall_mem_cons.1 hcw
      simp only [List.map_cons, List.sum_cons, Frame.weight] at hlt
      split
      · refine .push h hw rfl (by simp [Task.isForced, Point.isForced, hforced, hf]) hconfig hcw ?_
        simp only [Task.weight, Point.weight]
        omega
      · exact Progress.catchRestart hf hcw h hw (by omega)
  · next callers =>
      have hf : callers.any Frame.isForced = false := by simpa [Frame.isForced] using hf
      obtain ⟨-, hcw⟩ := List.forall_mem_cons.1 hcw
      simp only [List.map_cons, List.sum_cons, Frame.weight] at hlt
      split
      · exact Progress.settled hf hcw h hw true (by omega)
      · exact Progress.catchRestart hf hcw h hw (by omega)
  · next spawned callers =>
      have hf : callers.any Frame.isForced = false := by simpa [Frame.isForced] using hf
      obtain ⟨-, hcw⟩ := List.forall_mem_cons.1 hcw
      simp only [List.map_cons, List.sum_cons, Frame.weight] at hlt
      split
      · exact Progress.resolveStop hf hcw h hw spawned (by omega)
      · exact Progress.settled hf hcw h hw false (by omega)

/-- A launch fails: at the limit the state gets `UNRECOVERABLE`, before it the next launch follows. -/
theorem Progress.failStart (h : Down s) (hv : Voluntary s) (hl : n < s.startupTries → s.config.isSome)
    (hw : Within N s) (hlt : measure N s + (c.map Frame.weight).sum + 5 < m) :
    Progress N n m (s.failStart c) := by
  unfold BccNode.failStart handleBccNodeError
  split
  · next hconfig =>
      refine Progress.settled hf hcw ⟨h, hv, hl, fun hn => ?_⟩ hw false (by omega)
      exact absurd (hl hn) (by simp [hconfig])
  · next config hconfig =>
      split
      · next hover =>
          have hfailing : Failing n (s.changeToState .unrecoverable) :=
            ⟨h.changeToState _, hv, hl, fun _ => .ended config hconfig hover rfl⟩
          refine Progress.settled hf hcw hfailing ⟨hw.config, hw.points, hw.callers⟩ false ?_
          exact Nat.lt_of_le_of_lt (show measure N s + _ + 1 ≤ measure N s + _ + 5 by omega) hlt
      · next hmore =>
          have hdown : Down (s.changeToState .errored) := h.changeToState _
          unfold BccNode.restart
          rw [if_neg (by rw [hdown.isConnected]; decide)]
          have hmore : s.isUnrecoverable config = false := Bool.eq_false_iff.2 hmore
          have hfailing : Failing n ((s.changeToState .errored).push (.restartWait s.config false) []) :=
            ⟨hdown.push (.inl rfl), List.forall_mem_cons.2 ⟨rfl, hv⟩, hl,
              fun _ => .again config hconfig hmore ⟨_, List.mem_cons_self, hconfig⟩⟩
          have hwithin : Within N ((s.changeToState .errored).push (.restartWait s.config false) []) :=
            Within.push (p := .restartWait s.config false) ⟨hw.config, hw.points, hw.callers⟩ hw.config
              (by simp)
          refine Progress.settled hf hcw hfailing hwithin false ?_
          rw [measure_push]
          have hweight : Task.weight ⟨.restartWait s.config false, []⟩ = 4 := rfl
          rw [hweight]
          exact Nat.lt_of_le_of_lt (show measure N s + 4 + _ + 1 ≤ measure N s + _ + 5 by omega) hlt

end Methods

/-! ## The steps -/

theorem started_concat {l : ℕ} (h : ({ s with
    launchers := s.launchers ++ [({} : Launcher)] } : BccNode).started l = true) :
    s.started l = true :=
  (any_concat h).resolve_right fun h => absurd h.2 (by decide)

theorem alive_concat {l : ℕ} (h : s.alive l = false) (hl : l < s.launchers.length) :
    ({ s with launchers := s.launchers ++ [({} : Launcher)] } : BccNode).alive l = false := by
  unfold alive at h ⊢
  dsimp only
  rw [List.getElem?_append_left hl]
  exact h

theorem lt_of_started {l : ℕ} (h : s.started l = true) : l < s.launchers.length := by
  unfold started at h
  by_contra hl
  rw [List.getElem?_eq_none (by omega)] at h
  exact absurd h (by simp)

/-- A launcher is created; it has not started. -/
theorem Down.spawn (h : Down s) : Down { s with
    launchers := s.launchers ++ [({} : Launcher)]
    node := some s.launchers.length } where
  exitOnStop := h.exitOnStop
  points := h.points
  unconnected l hl := by
    refine Bool.eq_false_iff.2 fun hs => ?_
    have hold : s.started l = true := started_concat hs
    rw [← Option.some.inj hl] at hold
    exact Nat.lt_irrefl _ (lt_of_started hold)
  gone l hs := alive_concat (h.gone l (started_concat hs)) (lt_of_started (started_concat hs))
  not_due l := by
    refine Bool.eq_false_iff.2 fun hd => ?_
    rcases any_concat hd with hd | hd
    · exact absurd (hd.symm.trans (h.not_due l)) (by decide)
    · exact absurd hd.2 (by decide)

theorem Down.die (h : Down s) (l : ℕ) : Down (s.setLauncher l .die) where
  exitOnStop := h.exitOnStop
  points := h.points
  unconnected m hm := by simpa using h.unconnected m hm
  gone m hm := by
    have hdead := h.gone m (by simpa using hm)
    simp [hdead]
  not_due m := by
    refine Bool.eq_false_iff.2 fun hd => ?_
    rcases exitDue_die hd with hd | ⟨rfl, ha, hs⟩
    · exact absurd (hd.symm.trans (h.not_due m)) (by decide)
    · exact absurd (ha.symm.trans (h.gone m hs)) (by decide)

theorem measure_die_of_alive {l : ℕ} (h : s.alive l = true) :
    measure N (s.setLauncher l .die) < measure N s := by
  obtain ⟨x, hx, ha⟩ := Option.any_eq_true _ _ |>.1 h
  exact Nat.add_lt_add_left (List.countP_modify_lt hx ha rfl) _

theorem measure_die_le (l : ℕ) : measure N (s.setLauncher l .die) ≤ measure N s :=
  Nat.add_le_add_left (List.countP_modify_le (fun _ h => absurd h (by simp [Launcher.die])) ..) _

/-- `start()` goes past its guard: one of the tries that are left is used. -/
theorem Progress.startSetup {config : Option BccNodeConfig} {previousPid : Option ℕ}
    (h : Failing n (s.push (.canBeStarted config false false previousPid) c))
    (hw : Within N (s.push (.canBeStarted config false false previousPid) c))
    (hf : c.any Frame.isForced = false) : Progress N n
      (measure N (s.push (.canBeStarted config false false previousPid) c))
      (s.startSetup config false c) := by
  have hcw : ∀ f ∈ c, f.Within N := hw.callers _ List.mem_cons_self
  have hweight : Task.weight ⟨.canBeStarted config false false previousPid, c⟩ =
      2 + (c.map Frame.weight).sum := rfl
  rw [measure_push, hweight]
  -- what was left to do besides the call that is refused
  have hrefused : (∀ config', config = some config' → s.isUnrecoverable config' = true) →
      Failing n s := fun hlimit => by
    refine ⟨h.toDown.drop, h.voluntary.drop, h.launched, fun hn => ?_⟩
    rcases (h.next hn).drop with hnext | hk | ⟨config', -, hmore, rfl, -⟩
    · exact hnext
    · exact absurd hk (by simp [Point.kind])
    · exact absurd ((hlimit config' rfl).symm.trans hmore) (by decide)
  unfold BccNode.startSetup
  split
  · exact Progress.settled hf hcw (hrefused (by simp)) hw.drop false (by omega)
  · next config =>
      split
      · next hlimit =>
          refine Progress.settled hf hcw (hrefused fun config' hc => ?_) hw.drop false (by omega)
          rw [← Option.some.inj hc]
          simpa using hlimit
      · next hlimit =>
          have hlt : s.startupTries < config.startupMaxRetries := by simpa [isUnrecoverable] using hlimit
          have hmax : config.startupMaxRetries ≤ N := hw.points _ List.mem_cons_self config rfl
          refine ⟨⟨?_, ?_, fun _ => rfl, fun _ => .launch ⟨_, List.mem_cons_self, rfl⟩⟩, ?_, ?_⟩
          · have hdown := h.toDown.drop
            exact ⟨hdown.exitOnStop, List.forall_mem_cons.2 ⟨.inr rfl, hdown.points⟩,
              hdown.unconnected, hdown.gone, hdown.not_due⟩
          · exact List.forall_mem_cons.2 ⟨by simp [Task.isForced, Point.isForced, hf], h.voluntary.drop⟩
          · refine Within.push ⟨fun config' hc => ?_, hw.drop.points, hw.drop.callers⟩ trivial hcw
            rw [← Option.some.inj hc]
            exact hmax
          · rw [measure_push]
            simp only [Task.weight, Point.weight, measure, changeToState]
            omega

/-- A call that was taken out goes on. -/
theorem progress_goOn {ok : Bool} (h : Failing n (s.push p c)) (hw : Within N (s.push p c))
    (hfails : p.Fails ok) (hs : s.goOn c ok p = some s') :
    Progress N n (measure N (s.push p c)) s' := by
  obtain ⟨hp, hf⟩ : p.isForced = false ∧ c.any Frame.isForced = false := by
    simpa [Task.isForced] using h.voluntary _ List.mem_cons_self
  have hcw : ∀ f ∈ c, f.Within N := hw.callers _ List.mem_cons_self
  have hdown := h.toDown.drop
  have hv := h.voluntary.drop
  have hkind := h.points _ List.mem_cons_self
  cases p with
  | canBeStarted config isForced connected previousPid =>
      obtain rfl : isForced = false := hp
      obtain rfl : ok = true := hfails
      unfold goOn at hs
      dsimp only at hs
      split at hs
      · next hc =>
          have hc : connected = true := by simpa using hc
          refine Option.some.inj hs ▸ Progress.settled hf hcw (h.drop (by simp [Point.kind]) ?_) hw.drop false ?_
          · exact fun config' hr => absurd (hr.2.symm.trans hc) (by decide)
          · rw [measure_push]
            simp only [Task.weight, Point.weight]
            omega
      · next hc =>
          obtain rfl : connected = false := by simpa using hc
          split at hs
          · exact Option.some.inj hs ▸ Progress.startSetup h hw hf
          · exact absurd hs (by simp)
  | walletLauncher config =>
      rw [measure_push]
      unfold goOn at hs
      dsimp only at hs
      split at hs
      · refine Option.some.inj hs ▸ ⟨⟨hdown.spawn.push (.inr rfl), ?_, h.launched, ?_⟩, ?_, ?_⟩
        · exact List.forall_mem_cons.2 ⟨by simp [Task.isForced, Point.isForced, hf], hv⟩
        · exact fun _ => .launch ⟨_, List.mem_cons_self, rfl⟩
        · exact Within.push ⟨hw.config, hw.drop.points, hw.drop.callers⟩ trivial hcw
        · rw [measure_push]
          simp only [Task.weight, Point.weight, measure, List.countP_append, List.countP_singleton, if_true]
          omega
      · refine Option.some.inj hs ▸ Progress.failStart hf hcw hdown hv h.launched hw.drop ?_
        simp only [Task.weight, Point.weight]
        omega
  | nodeStart l =>
      obtain rfl : ok = false := hfails
      refine Option.some.inj hs ▸ Progress.failStart hf hcw (hdown.die l) hv h.launched
        ⟨hw.config, hw.drop.points, hw.drop.callers⟩ ?_
      have hle := measure_die_le (s := s) (N := N) l
      rw [measure_push]
      simp only [Task.weight, Point.weight]
      omega
  | stopIsDead node connected spawned =>
      obtain rfl : connected = false := by
        cases connected
        · rfl
        · exact absurd hkind (by simp [Point.kind])
      refine Option.some.inj hs ▸ Progress.resolveStop hf hcw (h.drop (by simp [Point.kind]) ?_) hw.drop spawned ?_
      · exact fun _ => id
      · rw [measure_push]
        simp only [Task.weight, Point.weight]
        omega
  | restartWait config isForced =>
      obtain rfl : isForced = false := hp
      unfold goOn at hs
      dsimp only at hs
      rw [if_neg (by rw [hdown.exitOnStop]; decide)] at hs
      have hf' : (Frame.restartStart :: c).any Frame.isForced = false := by simpa [Frame.isForced] using hf
      refine Option.some.inj hs ▸ ⟨⟨hdown.push (.inl rfl), ?_, h.launched, fun hn => ?_⟩, ?_, ?_⟩
      · exact List.forall_mem_cons.2 ⟨by simp [Task.isForced, Point.isForced, hf'], hv⟩
      · rcases (h.next hn).drop with hnext | hk | ⟨config', hconfig, hmore, hr⟩
        · exact hnext.mono rfl rfl (fun _ => List.mem_cons_of_mem _) id
        · exact absurd hk (by simp [Point.kind])
        · exact .again config' hconfig hmore ⟨_, List.mem_cons_self, hr, hdown.isConnected⟩
      · exact hw.drop.push (hw.points _ List.mem_cons_self) (List.forall_mem_cons.2 ⟨trivial, hcw⟩)
      · rw [BccNode.start, measure_push, measure_push]
        simp only [Task.weight, Point.weight, List.map_cons, List.sum_cons, Frame.weight]
        omega
  | settled resolved =>
      have hfailing : Failing n s := h.drop (by simp [Point.kind]) fun _ => id
      refine Option.some.inj hs ▸ Progress.settle hf hcw hfailing hw.drop resolved ?_
      rw [measure_push]
      simp only [Task.weight, Point.weight]
      omega
  | _ => exact absurd hkind (by simp [Point.kind])

theorem WithinConfig.mono {config : Option BccNodeConfig} (hN : N ≤ m) (h : WithinConfig N config) :
    WithinConfig m config :=
  fun config' hc => Nat.le_trans (h config' hc) hN

theorem exists_withinConfig (config : Option BccNodeConfig) : ∃ N, WithinConfig N config := by
  cases config with
  | none => exact ⟨0, by simp [WithinConfig]⟩
  | some config =>
      refine ⟨config.startupMaxRetries, fun config' hc => ?_⟩
      exact Nat.le_of_eq (congrArg BccNodeConfig.startupMaxRetries (Option.some.inj hc).symm)

theorem Point.Within.mono (hN : N ≤ m) (h : p.Within N) : p.Within m := by
  unfold Point.Within at h ⊢
  split
  · exact WithinConfig.mono hN h
  · exact WithinConfig.mono hN h
  · trivial

theorem Frame.Within.mono {f : Frame} (hN : N ≤ m) (h : f.Within N) : f.Within m := by
  unfold Frame.Within at h ⊢
  split
  · exact WithinConfig.mono hN h
  · trivial

theorem exists_within (s : BccNode) : ∃ N, Within N s := by
  obtain ⟨N₁, h₁⟩ := exists_withinConfig s.config
  have hpoint : ∀ p : Point, ∃ N, p.Within N := by
    intro p
    unfold Point.Within
    split
    · exact exists_withinConfig _
    · exact exists_withinConfig _
    · exact ⟨0, trivial⟩
  have hframe : ∀ f : Frame, ∃ N, f.Within N := by
    intro f
    unfold Frame.Within
    split
    · exact exists_withinConfig _
    · exact ⟨0, trivial⟩
  obtain ⟨N₂, h₂⟩ := List.exists_forall_mem_of_mono (P := fun N (t : Task) => t.point.Within N)
    (fun _ _ _ hN h => h.mono hN) (l := s.tasks) fun t _ => hpoint t.point
  obtain ⟨N₃, h₃⟩ := List.exists_forall_mem_of_mono (P := fun N (f : Frame) => f.Within N)
    (fun _ _ _ hN h => h.mono hN) (l := s.tasks.flatMap (·.callers)) fun f _ => hframe f
  refine ⟨N₁ + N₂ + N₃, h₁.mono (by omega), fun t ht => (h₂ t ht).mono (by omega), fun t ht f hf => ?_⟩
  exact (h₃ f (List.mem_flatMap.2 ⟨t, ht, hf⟩)).mono (by omega)

/-- A step other than a call from outside. -/
theorem progress_step {e : Event} (h : Failing n s) (hw : Within N s) (hcall : e.isCall = false)
    (hok : LaunchesFail s e) (hs : s.step e = some s') : Progress N n (measure N s) s' := by
  cases e with
  | die l =>
      unfold step at hs
      dsimp only at hs
      split at hs
      · next ha =>
          refine Option.some.inj hs ▸ ⟨⟨h.toDown.die l, h.voluntary, h.launched, fun hn => ?_⟩,
            ⟨hw.config, hw.points, hw.callers⟩, measure_die_of_alive ha⟩
          exact (h.next hn).mono rfl rfl (fun _ => id) id
      · exact absurd hs (by simp)
  | exit l code =>
      unfold step at hs
      dsimp only at hs
      rw [h.not_due l] at hs
      exact absurd hs (by simp)
  | resume k ok =>
      obtain ⟨t, ht, hs⟩ := Option.bind_eq_some_iff.1 hs
      rw [← measure_takeOut ht]
      exact progress_goOn (h.takeOut ht) (hw.takeOut ht) (hok t ht) hs
  | probe k =>
      obtain ⟨t, ht, hs⟩ := Option.bind_eq_some_iff.1 hs
      have hk := h.points t (List.mem_of_getElem? ht)
      cases hp : t.point <;> rw [hp] at hs hk <;> simp [pollAgain, Point.kind] at hs hk
  | unreadableTls k => exact absurd hok id
  | _ => exact absurd hcall (by simp [Event.isCall])

theorem failing_step {e : Event} (h : Failing n s) (hok : LaunchesFail s e) (hs : s.step e = some s') :
    Failing n s' := by
  cases e with
  | start config isForced =>
      obtain rfl : isForced = false := hok
      exact Option.some.inj hs ▸ h.push (.inl rfl) rfl
  | stop =>
      refine Option.some.inj hs ▸ h.push (.inl ?_) rfl
      rw [h.isConnected]
      rfl
  | restart isForced =>
      obtain rfl : isForced = false := hok
      refine Option.some.inj hs ▸ ?_
      unfold BccNode.restart
      rw [if_neg (by rw [h.isConnected]; decide)]
      exact h.push (.inl rfl) rfl
  | exitOnStop => exact absurd hok id
  | _ =>
      obtain ⟨N, hw⟩ := exists_within s
      exact (progress_step h hw rfl hok hs).failing

theorem failing_reaches (hd : Down s) (hv : Voluntary s)
    (h : (machine.startingAt s).Reaches LaunchesFail s') : Failing s.startupTries s' :=
  h.invariant ⟨hd, hv, fun hn => absurd hn (Nat.lt_irrefl _), fun hn => absurd hn (Nat.lt_irrefl _)⟩
    fun _ _ _ _ hok hf hs => failing_step hf hok hs

/-- As long as a call is under way something can go on. -/
theorem Failing.tasks_eq_nil (h : Failing n s)
    (hstuck : ∀ e : Event, e.isCall = false → LaunchesFail s e → s.step e = none) : s.tasks = [] := by
  have hdead : ∀ l, s.alive l = false := by
    intro l
    refine Bool.eq_false_iff.2 fun ha => ?_
    have hdie := hstuck (.die l) rfl trivial
    unfold step at hdie
    simp [ha] at hdie
  cases ht : s.tasks with
  | nil => rfl
  | cons t ts =>
      have hget : s.tasks[0]? = some t := by rw [ht]; rfl
      have hgo : ∀ ok, t.point.Fails ok → (s.takeOut 0).goOn t.callers ok t.point = none := by
        intro ok hfails
        have hnone := hstuck (.resume 0 ok) rfl fun u hu => by
          obtain rfl := Option.some.inj (hget.symm.trans hu)
          exact hfails
        unfold step at hnone
        dsimp only at hnone
        rw [hget] at hnone
        exact hnone
      have hk := h.points t (List.mem_of_getElem? hget)
      cases hp : t.point with
      | canBeStarted config isForced connected previousPid =>
          have hnone := hgo true (by rw [hp]; exact rfl)
          have hprevious : (s.takeOut 0).notRunning previousPid = true := by
            unfold notRunning
            cases previousPid with
            | none => rfl
            | some l => simp [show (s.takeOut 0).alive l = false from hdead l]
          rw [hp] at hnone
          unfold goOn at hnone
          dsimp only at hnone
          rw [if_pos hprevious] at hnone
          split at hnone <;> exact absurd hnone (by simp)
      | nodeStart l =>
          have hnone := hgo false (by rw [hp]; exact rfl)
          rw [hp] at hnone
          simp [goOn] at hnone
      | walletLauncher config =>
          have hnone := hgo false (by rw [hp]; trivial)
          rw [hp] at hnone
          simp [goOn] at hnone
      | stopIsDead node connected spawned =>
          have hnone := hgo false (by rw [hp]; trivial)
          rw [hp] at hnone hk
          obtain rfl : connected = false := by
            cases connected
            · rfl
            · exact absurd hk (by simp [Point.kind])
          simp [goOn] at hnone
      | restartWait config isForced =>
          have hnone := hgo false (by rw [hp]; trivial)
          rw [hp] at hnone
          unfold goOn at hnone
          dsimp only at hnone
          split at hnone <;> exact absurd hnone (by simp)
      | settled resolved =>
          have hnone := hgo false (by rw [hp]; trivial)
          rw [hp] at hnone
          exact absurd hnone (by simp [goOn])
      | _ => rw [hp] at hk; exact absurd hk (by simp [Point.kind])

/-! ## Bounded restarts -/

/-- The `catch` block of a `restart()` does not overwrite `UNRECOVERABLE`. -/
theorem unrecoverable_of_givesUp {k : ℕ} {t : Task} {ok : Bool} (ht : s.tasks[k]? = some t)
    (hg : t.givesUp = true) (hstate : s.state = .unrecoverable) (hs : s.step (.resume k ok) = some s') :
    s'.state = .unrecoverable := by
  obtain ⟨u, hu, hs⟩ := Option.bind_eq_some_iff.1 hs
  obtain rfl := Option.some.inj (ht.symm.trans hu)
  have hcatch : ∀ c, ((s.takeOut k).catchRestart c).state = .unrecoverable := by
    intro c
    unfold catchRestart
    rw [if_pos (show (s.takeOut k).state = .unrecoverable from hstate)]
    exact hstate
  unfold Task.givesUp at hg
  split at hg
  · exact Option.some.inj hs ▸ hcatch _
  · exact Option.some.inj hs ▸ hcatch _
  · exact absurd hg (by decide)

/-- Two launches fail, which is all that the limit allows. -/
def failTwice : List Event :=
  [.start ⟨2⟩ false, .resume 0 true, .resume 0 true, .resume 0 false,
    -- `start()` rejects, and `_handleBccNodeError` calls `restart()`
    .resume 0 true, .resume 0 true, .resume 0 true, .resume 0 true, .resume 0 false,
    .resume 0 true, .resume 0 true]

theorem down_init : Down {} := by
  refine ⟨rfl, ?_, ?_, ?_, ?_⟩ <;> simp [started, exitDue]

end Klarity.BccNode
