import Klarity.Main.Bcc.BccNode.Exits

set_option autoImplicit false

/-! # Bounded restarts

`start()` counts itself in `_startupTries` as it goes past its guard, in the same turn that compared the
counter with the limit; only a node that gets `RUNNING` sets the counter back. So without forced
restarts the launches since then are at most as many as the limit (`Counted`).

When every launch fails, each failure leads to the next `start()` until the limit is reached. The calls
that are left unwind through the `catch` blocks of `restart()`, which leave `UNRECOVERABLE` alone
(`Failing`). -/

namespace Klarity.BccNode

variable {s s' s₀ : BccNode} {p : Point} {c : List Frame}

/-! ## Launches -/

/-- `start()` is past its guard and creates a launcher. -/
def Point.launches : Point → Bool
  | .walletLauncher _ => true
  | _ => false

def launching (s : BccNode) : ℕ :=
  s.tasks.countP fun t => t.point.launches

/-- The launch attempts since the node last got `RUNNING`, after one more step. -/
def attempts (s s' : BccNode) (n : ℕ) : ℕ :=
  if s'.state = .running ∧ s.state ≠ .running then 0
  else if s.launching < s'.launching then n + 1
  else n

def limit (s : BccNode) : ℕ :=
  match s.config with
  | some config => config.startupMaxRetries
  | none => 0

/-! ## Forced restarts -/

def Frame.isForced : Frame → Bool
  | .restartStop _ isForced => isForced
  | _ => false

def Point.isForced : Point → Bool
  | .canBeStarted _ isForced _ _ | .restartWait _ isForced => isForced
  | _ => false

def Task.isForced (t : Task) : Bool :=
  t.point.isForced || t.callers.any Frame.isForced

theorem Task.isForced_eq_false {t : Task} :
    t.isForced = false ↔ t.point.isForced = false ∧ t.callers.any Frame.isForced = false :=
  Bool.or_eq_false_iff

/-- Nobody forces a restart. -/
def NotForced (_ : BccNode) : Event → Prop
  | .start _ isForced | .restart isForced => isForced = false
  | _ => True

instance decidableNotForced (s : BccNode) : (e : Event) → Decidable (NotForced s e)
  | .start _ isForced | .restart isForced => inferInstanceAs (Decidable (isForced = false))
  | .stop | .exitOnStop | .die _ | .exit .. | .resume .. | .probe _ | .unreadableTls _ => isTrue trivial

/-- No call under way ignores the limit. -/
def Voluntary (s : BccNode) : Prop :=
  ∀ t ∈ s.tasks, t.isForced = false

/-! ## The counter -/

/-- From `s₀` to `s` nothing was launched, and the node did not get `RUNNING`. -/
structure Keeps (s₀ s : BccNode) : Prop where
  config : s.config = s₀.config
  tries : s.startupTries = s₀.startupTries
  launching : s.launching = s₀.launching
  running : s.state = .running → s₀.state = .running
  voluntary : Voluntary s₀ → Voluntary s

/-- What a step does to the counter. -/
inductive Counted (s s' : BccNode) : Prop
  | keeps (h : Keeps s s')
  | launches (config : BccNodeConfig) (hconfig : s'.config = some config)
      (htries : s'.startupTries = s.startupTries + 1)
      (hlimit : s.startupTries < config.startupMaxRetries)
      (hlaunching : s'.launching = s.launching + 1) (hstate : s'.state = .starting)
      (hvoluntary : Voluntary s → Voluntary s')
  | runs (hconfig : s'.config = s.config) (htries : s'.startupTries = 0)
      (hlaunching : s'.launching = s.launching) (hstate : s.state = .starting)
      (hstate' : s'.state = .running) (hvoluntary : Voluntary s → Voluntary s')

theorem Keeps.refl (s : BccNode) : Keeps s s :=
  ⟨rfl, rfl, rfl, id, id⟩

/-- Other fields are written. -/
theorem Keeps.write (h : Keeps s₀ s) (hconfig : s'.config = s.config)
    (htries : s'.startupTries = s.startupTries) (htasks : s'.tasks = s.tasks)
    (hstate : s'.state = .running → s.state = .running) : Keeps s₀ s' := by
  refine ⟨hconfig.trans h.config, htries.trans h.tries, ?_, fun hs => h.running (hstate hs), ?_⟩
  · unfold BccNode.launching
    rw [htasks]
    exact h.launching
  · unfold Voluntary
    rw [htasks]
    exact h.voluntary

theorem Keeps.push (h : Keeps s₀ s) (hp : p.launches = false) (hf : p.isForced = false)
    (hc : c.any Frame.isForced = false) : Keeps s₀ (s.push p c) := by
  refine ⟨h.config, h.tries, ?_, h.running, fun hv => List.forall_mem_cons.2 ⟨?_, h.voluntary hv⟩⟩
  · rw [← h.launching]
    exact List.countP_cons_of_neg (by simp [hp])
  · simp [Task.isForced, hf, hc]

theorem Keeps.changeToState (h : Keeps s₀ s) {state : BccNodeState} (hs : state ≠ .running) :
    Keeps s₀ (s.changeToState state) :=
  h.write rfl rfl rfl fun hr => absurd hr hs

theorem Keeps.restart (h : Keeps s₀ s) (hc : c.any Frame.isForced = false) :
    Keeps s₀ (s.restart false c) := by
  unfold BccNode.restart
  split
  · exact h.push rfl rfl (by simp [Frame.isForced, hc])
  · exact h.push rfl rfl hc

theorem Keeps.failStart (h : Keeps s₀ s) (hc : c.any Frame.isForced = false) :
    Keeps s₀ (s.failStart c) := by
  have herror : Keeps s₀ s.handleBccNodeError := by
    unfold handleBccNodeError
    split
    · exact h
    · split
      · exact h.changeToState (by decide)
      · exact (h.changeToState (by decide)).restart rfl
  exact herror.push rfl rfl hc

theorem Keeps.resolveStop (h : Keeps s₀ s) (spawned : ℕ) (hc : c.any Frame.isForced = false) :
    Keeps s₀ (s.resolveStop spawned c) :=
  (h.write rfl rfl rfl id : Keeps s₀ { s with notes := .stopped spawned :: s.notes }).push rfl rfl hc

theorem Keeps.catchRestart (h : Keeps s₀ s) (hc : c.any Frame.isForced = false) :
    Keeps s₀ (s.catchRestart c) := by
  unfold BccNode.catchRestart
  split
  · exact h.push rfl rfl hc
  · exact (h.changeToState (by decide)).push rfl rfl hc

theorem Keeps.settle (h : Keeps s₀ s) (resolved : Bool) (hc : c.any Frame.isForced = false) :
    Keeps s₀ (s.settle resolved c) := by
  unfold BccNode.settle
  split
  · exact h
  · next config isForced callers =>
      obtain ⟨hf, hcallers⟩ : isForced = false ∧ callers.any Frame.isForced = false := by
        simpa [Frame.isForced] using hc
      split
      · exact h.push rfl hf hcallers
      · exact h.catchRestart hcallers
  · next callers =>
      have hcallers : callers.any Frame.isForced = false := by simpa [Frame.isForced] using hc
      split
      · exact h.push rfl rfl hcallers
      · exact h.catchRestart hcallers
  · next spawned callers =>
      have hcallers : callers.any Frame.isForced = false := by simpa [Frame.isForced] using hc
      split
      · exact h.resolveStop spawned hcallers
      · exact h.push rfl rfl hcallers

theorem Keeps.storeProcessStates (h : Keeps s₀ s) (hs : s.storeProcessStates = some s') :
    Keeps s₀ s' := by
  rw [storeProcessStates_eq_some hs]
  exact h.write rfl rfl rfl id

theorem Keeps.catchKill (h : Keeps s₀ s) (hc : c.any Frame.isForced = false) :
    Keeps s₀ (s.catchKill c) := by
  unfold BccNode.catchKill
  split
  · next s' hs => exact (h.storeProcessStates hs).push rfl rfl hc
  · exact h

theorem Keeps.exitReally (h : Keeps s₀ s) (l : ℕ) (config : BccNodeConfig) (code : Option ℕ) :
    Keeps s₀ (s.exitReally l config code) := by
  obtain ⟨state, hne, ⟨s', hs, heq⟩ | ⟨_, heq⟩⟩ := exitReally_cases s l config code
  · rw [heq]
    exact ((h.changeToState hne).storeProcessStates hs).push rfl rfl rfl
  · rw [heq]
    exact h.changeToState hne

theorem Keeps.handleBccNodeExit (h : Keeps s₀ s) (l : ℕ) (code : Option ℕ) :
    Keeps s₀ (s.handleBccNodeExit l code) := by
  have hexit : Keeps s₀ (if s.state = .running then s.changeToState .exiting else s) := by
    split
    · exact h.changeToState (by decide)
    · exact h
  unfold BccNode.handleBccNodeExit
  dsimp only
  split
  · exact hexit
  · exact hexit.push rfl rfl rfl

theorem Counted.of_push (h : Counted s s') (hp : p.launches = false) (hf : p.isForced = false)
    (hc : c.any Frame.isForced = false) : Counted s (s'.push p c) := by
  have hvoluntary : Voluntary s' → Voluntary (s'.push p c) := fun hv =>
    List.forall_mem_cons.2 ⟨by simp [Task.isForced, hf, hc], hv⟩
  have hlaunching : (s'.push p c).launching = s'.launching := List.countP_cons_of_neg (by simp [hp])
  cases h with
  | keeps h => exact .keeps (h.push hp hf hc)
  | launches config hconfig htries hlimit hl hstate hv =>
      exact .launches config hconfig htries hlimit (hlaunching.trans hl) hstate fun h => hvoluntary (hv h)
  | runs hconfig htries hl hstate hstate' hv =>
      exact .runs hconfig htries (hlaunching.trans hl) hstate hstate' fun h => hvoluntary (hv h)

/-- `start()` compares the counter with the limit and counts itself in one go. -/
theorem counted_startSetup (config : Option BccNodeConfig) (hc : c.any Frame.isForced = false) :
    Counted s (s.startSetup config false c) := by
  unfold startSetup
  split
  · exact .keeps ((Keeps.refl s).push rfl rfl hc)
  · next config =>
      split
      · exact .keeps ((Keeps.refl s).push rfl rfl hc)
      · next hlimit =>
          refine .launches config rfl rfl ?_ (List.countP_cons_of_pos rfl) rfl fun hv => ?_
          · simpa [isUnrecoverable] using hlimit
          · exact List.forall_mem_cons.2 ⟨by simp [Task.isForced, Point.isForced, hc], hv⟩

theorem counted_connect (l : ℕ) :
    Counted s ((s.setLauncher l .connect).handleBccReplyPortMessage l) := by
  unfold handleBccReplyPortMessage
  split
  · next hs => exact .runs rfl rfl rfl hs rfl id
  · exact .keeps ((Keeps.refl s).write rfl rfl rfl id)

theorem keeps_walletLauncher {ok : Bool} {config : BccNodeConfig} (hc : c.any Frame.isForced = false)
    (hs : s.goOn c ok (.walletLauncher config) = some s') : Keeps s s' := by
  unfold goOn at hs
  dsimp only at hs
  split at hs
  · refine Option.some.inj hs ▸ Keeps.push ?_ rfl rfl hc
    exact (Keeps.refl s).write rfl rfl rfl id
  · exact Option.some.inj hs ▸ (Keeps.refl s).failStart hc

/-- A call that was taken out goes on. -/
theorem counted_goOn {ok : Bool} (hf : Task.isForced ⟨p, c⟩ = false) (hs : s.goOn c ok p = some s') :
    Counted s s' := by
  obtain ⟨hp, hc⟩ := Task.isForced_eq_false.mp hf
  have hrefl := Keeps.refl s
  unfold goOn at hs
  split at hs
  -- canBeStarted
  · next config isForced connected previousPid =>
      obtain rfl : isForced = false := hp
      split at hs
      · exact Option.some.inj hs ▸ .keeps (hrefl.push rfl rfl hc)
      · split at hs
        · exact Option.some.inj hs ▸ counted_startSetup config hc
        · exact absurd hs (by simp)
  -- walletLauncher
  · next config =>
      have hs : s.goOn c ok (.walletLauncher config) = some s' := hs
      exact .keeps (keeps_walletLauncher hc hs)
  -- nodeStart
  · next l =>
      split at hs
      · split at hs
        · refine Option.some.inj hs ▸ Counted.of_push ?_ rfl rfl hc
          exact counted_connect l
        · exact absurd hs (by simp)
      · refine Option.some.inj hs ▸ .keeps (Keeps.failStart ?_ hc)
        exact hrefl.write rfl rfl rfl id
  -- stopIsDead
  · have hstop := hrefl.changeToState (show BccNodeState.stopping ≠ .running by decide)
    split at hs
    · split at hs
      · exact Option.some.inj hs ▸ .keeps (hstop.push rfl rfl hc)
      · exact Option.some.inj hs ▸ .keeps (hstop.push rfl rfl hc)
    · exact Option.some.inj hs ▸ .keeps (hrefl.resolveStop _ hc)
  -- nodeStop
  · have hkill : ∀ spawned, (Frame.stopKill spawned :: c).any Frame.isForced = false := by
      simpa [Frame.isForced] using hc
    split at hs
    · split at hs
      · exact absurd hs (by simp)
      · exact Option.some.inj hs ▸ .keeps (hrefl.push rfl rfl hc)
    · exact Option.some.inj hs ▸ .keeps (hrefl.push rfl rfl (hkill _))
  -- stopWait
  · have hkill : ∀ spawned, (Frame.stopKill spawned :: c).any Frame.isForced = false := by
      simpa [Frame.isForced] using hc
    split at hs
    · split at hs
      · split at hs
        · next s₁ hs₁ => exact Option.some.inj hs ▸ .keeps ((hrefl.storeProcessStates hs₁).push rfl rfl hc)
        · exact Option.some.inj hs ▸ .keeps (hrefl.push rfl rfl (hkill _))
      · exact absurd hs (by simp)
    · exact Option.some.inj hs ▸ .keeps (hrefl.push rfl rfl (hkill _))
  -- stopStored
  · refine Option.some.inj hs ▸ .keeps (Keeps.resolveStop ?_ _ hc)
    exact hrefl.write rfl rfl rfl id
  -- killIsDead
  · split at hs
    · exact Option.some.inj hs ▸ .keeps hrefl
    · split at hs
      · exact Option.some.inj hs ▸ .keeps (hrefl.push rfl rfl hc)
      · exact Option.some.inj hs ▸ .keeps (hrefl.catchKill hc)
  -- killWait
  · split at hs
    · next s₁ hs₁ => exact Option.some.inj hs ▸ .keeps ((hrefl.storeProcessStates hs₁).push rfl rfl hc)
    · exact Option.some.inj hs ▸ .keeps (hrefl.catchKill hc)
  -- killStored
  · split at hs
    · refine Option.some.inj hs ▸ .keeps (Keeps.push ?_ rfl rfl hc)
      exact (hrefl.changeToState (show BccNodeState.stopped ≠ .running by decide)).write rfl rfl rfl id
    · refine Option.some.inj hs ▸ .keeps (Keeps.push ?_ rfl rfl hc)
      exact hrefl.write rfl rfl rfl id
  -- restartWait
  · next config isForced =>
      obtain rfl : isForced = false := hp
      split at hs
      · exact Option.some.inj hs ▸ .keeps (hrefl.push rfl rfl hc)
      · exact Option.some.inj hs ▸ .keeps (hrefl.push rfl rfl (by simpa [Frame.isForced] using hc))
  -- exitWait
  · split at hs
    · split at hs
      · exact Option.some.inj hs ▸ .keeps (hrefl.exitReally ..)
      · exact absurd hs (by simp)
    · split at hs
      · exact Option.some.inj hs ▸ .keeps (hrefl.push rfl rfl hc)
      · exact Option.some.inj hs ▸ .keeps (hrefl.exitReally ..)
  -- exitKill
  · exact Option.some.inj hs ▸ .keeps (hrefl.exitReally ..)
  -- exitStored
  · exact Option.some.inj hs ▸ .keeps (hrefl.write rfl rfl rfl id)
  -- settled
  · next resolved => exact Option.some.inj hs ▸ .keeps (hrefl.settle resolved hc)

theorem Voluntary.takeOut (h : Voluntary s) (k : ℕ) : Voluntary (s.takeOut k) :=
  fun t ht => h t (List.mem_of_mem_eraseIdx ht)

/-- The calls that create a launcher, with the one that goes on put in front. -/
theorem launching_takeOut {k : ℕ} {t : Task} (ht : s.tasks[k]? = some t) :
    (s.takeOut k).launching + (if t.point.launches then 1 else 0) = s.launching := by
  have hperm := (List.perm_cons_eraseIdx ht).countP_eq fun t => t.point.launches
  rw [List.countP_cons] at hperm
  exact hperm

/-! ## Steps and runs -/

/-- The counter is the number of launches since the node last got `RUNNING`. -/
structure Bounded (s : BccNode) (n : ℕ) : Prop where
  voluntary : Voluntary s
  tries : s.startupTries = n
  limit : n ≤ s.limit

theorem bounded_init : Bounded {} 0 :=
  ⟨fun t ht => absurd ht (by simp), rfl, Nat.le_refl _⟩

theorem Keeps.bounded {n : ℕ} (h : Keeps s₀ s') (hb : Bounded s₀ n) : Bounded s' n := by
  refine ⟨h.voluntary hb.voluntary, h.tries.trans hb.tries, ?_⟩
  unfold BccNode.limit
  rw [h.config]
  exact hb.limit

theorem attempts_of_keeps {n : ℕ} (h : Keeps s₀ s') (hstate : s₀.state = s.state)
    (hlaunching : s₀.launching ≤ s.launching) : attempts s s' n = n := by
  unfold attempts
  rw [if_neg fun hr => hr.2 (hstate ▸ h.running hr.1), if_neg (by rw [h.launching]; omega)]

theorem Keeps.bounded_attempts {n : ℕ} (h : Keeps s s') (hb : Bounded s n) :
    Bounded s' (attempts s s' n) := by
  rw [attempts_of_keeps h rfl (Nat.le_refl _)]
  exact h.bounded hb

theorem Bounded.takeOut {n : ℕ} (h : Bounded s n) (k : ℕ) : Bounded (s.takeOut k) n :=
  ⟨h.voluntary.takeOut k, h.tries, h.limit⟩

/-- A call goes on. -/
theorem Counted.bounded {n : ℕ} {k : ℕ} {t : Task} (h : Counted (s.takeOut k) s')
    (hkeeps : t.point.launches = true → Keeps (s.takeOut k) s') (ht : s.tasks[k]? = some t)
    (hb : Bounded s n) : Bounded s' (attempts s s' n) := by
  have hout := launching_takeOut ht
  have hk : ∀ hk : Keeps (s.takeOut k) s', Bounded s' (attempts s s' n) := fun hk => by
    rw [attempts_of_keeps (s := s) hk rfl (by omega)]
    exact hk.bounded (hb.takeOut k)
  by_cases hl : t.point.launches = true
  · exact hk (hkeeps hl)
  · rw [if_neg hl] at hout
    cases h with
    | keeps h => exact hk h
    | launches config hconfig htries hlimit hlaunching hstate hv =>
        have hn : attempts s s' n = n + 1 := by
          unfold attempts
          rw [if_neg (by simp [hstate]), if_pos (by omega)]
        rw [hn]
        refine ⟨hv (hb.voluntary.takeOut k), htries.trans (congrArg (· + 1) hb.tries), ?_⟩
        unfold BccNode.limit
        rw [hconfig, ← hb.tries]
        exact hlimit
    | runs hconfig htries hlaunching hstate hstate' hv =>
        have hn : attempts s s' n = 0 := by
          unfold attempts
          rw [if_pos ⟨hstate', by rw [show s.state = .starting from hstate]; decide⟩]
        rw [hn]
        exact ⟨hv (hb.voluntary.takeOut k), htries, Nat.zero_le _⟩

theorem bounded_step {n : ℕ} {e : Event} (hok : NotForced s e) (hs : s.step e = some s')
    (hb : Bounded s n) : Bounded s' (attempts s s' n) := by
  have hrefl := Keeps.refl s
  cases e with
  | start config isForced =>
      obtain rfl : isForced = false := hok
      exact Option.some.inj hs ▸ (hrefl.push rfl rfl rfl).bounded_attempts hb
  | stop => exact Option.some.inj hs ▸ (hrefl.push rfl rfl rfl).bounded_attempts hb
  | restart isForced =>
      obtain rfl : isForced = false := hok
      exact Option.some.inj hs ▸ (hrefl.restart rfl).bounded_attempts hb
  | exitOnStop =>
      refine Option.some.inj hs ▸ Keeps.bounded_attempts ?_ hb
      exact hrefl.write rfl rfl rfl id
  | die l =>
      unfold step at hs
      dsimp only at hs
      split at hs
      · refine Option.some.inj hs ▸ Keeps.bounded_attempts ?_ hb
        exact hrefl.write rfl rfl rfl id
      · exact absurd hs (by simp)
  | exit l code =>
      unfold step at hs
      dsimp only at hs
      split at hs
      · refine Option.some.inj hs ▸ (Keeps.handleBccNodeExit ?_ l code).bounded_attempts hb
        exact hrefl.write rfl rfl rfl id
      · exact absurd hs (by simp)
  | resume k ok =>
      obtain ⟨t, ht, hs⟩ := Option.bind_eq_some_iff.1 hs
      have hf : t.isForced = false := hb.voluntary t (List.mem_of_getElem? ht)
      refine (counted_goOn (p := t.point) hf hs).bounded (fun hl => ?_) ht hb
      cases hp : t.point with
      | walletLauncher config =>
          rw [hp] at hs
          exact keeps_walletLauncher (Task.isForced_eq_false.mp hf).2 hs
      | _ => rw [hp] at hl; exact absurd hl (by simp [Point.launches])
  | probe k =>
      obtain ⟨t, ht, hs⟩ := Option.bind_eq_some_iff.1 hs
      have hf : t.isForced = false := hb.voluntary t (List.mem_of_getElem? ht)
      have hc := (Task.isForced_eq_false.mp hf).2
      have hkeeps : Keeps (s.takeOut k) s' := by
        unfold pollAgain at hs
        split at hs
        · exact Option.some.inj hs ▸ (Keeps.refl _).push rfl rfl hc
        · exact Option.some.inj hs ▸ (Keeps.refl _).push rfl rfl hc
        · exact absurd hs (by simp)
      exact (Counted.keeps hkeeps).bounded (fun _ => hkeeps) ht hb
  | unreadableTls k =>
      obtain ⟨t, ht, hs⟩ := Option.bind_eq_some_iff.1 hs
      have hf : t.isForced = false := hb.voluntary t (List.mem_of_getElem? ht)
      have hc := (Task.isForced_eq_false.mp hf).2
      have hkeeps : Keeps (s.takeOut k) s' := by
        unfold failTls at hs
        split at hs
        · split at hs
          · refine Option.some.inj hs ▸ Keeps.failStart ?_ hc
            exact (Keeps.refl _).write rfl rfl rfl id
          · exact absurd hs (by simp)
        · exact absurd hs (by simp)
      exact (Counted.keeps hkeeps).bounded (fun _ => hkeeps) ht hb

theorem bounded_reaches {n : ℕ}
    (h : (machine.observe 0 attempts).Reaches (fun s e => NotForced s.1 e) (s, n)) : Bounded s n :=
  Machine.Reaches.invariant (P := fun s => Bounded s.1 s.2) bounded_init
    (fun _ _ _ _ hok hb hs => by
      obtain ⟨hs, hn⟩ := Machine.observe_step_eq_some hs
      rw [hn]
      exact bounded_step hok hs hb) h

end Klarity.BccNode
