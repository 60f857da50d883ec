import Klarity.Main.Bcc.BccNode.Restarts
import Klarity.Main.Index

set_option autoImplicit false

/-! # No relaunch during shutdown

Only a `restart()` that gets past its own `stop()` calls `start()`, and it looks at `_exitOnStop` before
it does. `safeExit()` sets that field only when it finds the node `STOPPING` already, not when it stops
the node itself. As long as each `restart()` that comes to this check finds the field set, no call comes
to the guard of `start()` during the shutdown (`Told`). -/

namespace Klarity

namespace BccNode

variable {s s' s₀ : BccNode} {p : Point} {c : List Frame} {f : Point → Bool}

/-! ## Calls on the way to a launch -/

/-- `start()` is at its guard. -/
def Point.atGuard : Point → Bool
  | .canBeStarted .. => true
  | _ => false

/-- `restart()` is about to look at `_exitOnStop`. -/
def Point.atCheck : Point → Bool
  | .restartWait .. => true
  | _ => false

/-- The property holds only of calls that are on their way from the guard of `start()` to a launch. -/
def OnWay (f : Point → Bool) : Prop :=
  ∀ p : Point, p.atGuard = false → p.launches = false → f p = false

def calls (s : BccNode) (f : Point → Bool) : ℕ :=
  s.tasks.countP fun t => f t.point

/-- No call with the property was added. -/
def Fewer (f : Point → Bool) (s₀ s : BccNode) : Prop :=
  s.calls f ≤ s₀.calls f

theorem Fewer.refl (s : BccNode) : Fewer f s s :=
  Nat.le_refl _

theorem Fewer.storeProcessStates (h : Fewer f s₀ s) (hs : s.storeProcessStates = some s') :
    Fewer f s₀ s' := by
  rw [storeProcessStates_eq_some hs]
  exact h

theorem fewer_handleBccReplyPortMessage (l : ℕ) : Fewer f s (s.handleBccReplyPortMessage l) := by
  unfold BccNode.handleBccReplyPortMessage
  split
  · exact Fewer.refl s
  · exact Fewer.refl s

theorem fewer_takeOut (k : ℕ) : Fewer f s (s.takeOut k) :=
  (List.eraseIdx_sublist ..).countP_le

section Fewer

variable (hf : OnWay f)

include hf

theorem Fewer.push (h : Fewer f s₀ s) (hg : p.atGuard = false) (hl : p.launches = false) :
    Fewer f s₀ (s.push p c) := by
  have hp : (s.push p c).calls f = s.calls f :=
    List.countP_cons_of_neg (by rw [hf p hg hl]; decide)
  unfold Fewer
  rw [hp]
  exact h

theorem Fewer.restart (h : Fewer f s₀ s) (isForced : Bool) : Fewer f s₀ (s.restart isForced c) := by
  unfold BccNode.restart
  split
  · exact h.push hf rfl rfl
  · exact h.push hf rfl rfl

theorem Fewer.failStart (h : Fewer f s₀ s) : Fewer f s₀ (s.failStart c) := by
  have herror : Fewer f s₀ s.handleBccNodeError := by
    unfold handleBccNodeError
    split
    · exact h
    · split
      · exact h
      · exact Fewer.restart (s := s.changeToState .errored) hf h false
  exact herror.push hf rfl rfl

theorem Fewer.resolveStop (h : Fewer f s₀ s) (spawned : ℕ) : Fewer f s₀ (s.resolveStop spawned c) :=
  Fewer.push (s := { s with notes := .stopped spawned :: s.notes }) hf h rfl rfl

theorem Fewer.catchRestart (h : Fewer f s₀ s) : Fewer f s₀ (s.catchRestart c) := by
  unfold BccNode.catchRestart
  split
  · exact h.push hf rfl rfl
  · exact Fewer.push (s := s.changeToState .errored) hf h rfl rfl

theorem Fewer.settle (h : Fewer f s₀ s) (resolved : Bool) : Fewer f s₀ (s.settle resolved c) := by
  unfold BccNode.settle
  split
  · exact h
  · split
    · exact h.push hf rfl rfl
    · exact h.catchRestart hf
  · split
    · exact h.push hf rfl rfl
    · exact h.catchRestart hf
  · split
    · exact h.resolveStop hf _
    · exact h.push hf rfl rfl

theorem Fewer.catchKill (h : Fewer f s₀ s) : Fewer f s₀ (s.catchKill c) := by
  unfold BccNode.catchKill
  split
  · next s' hs => exact (h.storeProcessStates hs).push hf rfl rfl
  · exact h

theorem Fewer.exitReally (h : Fewer f s₀ s) (l : ℕ) (config : BccNodeConfig) (code : Option ℕ) :
    Fewer f s₀ (s.exitReally l config code) := by
  unfold BccNode.exitReally
  dsimp only
  split
  · next s' hs =>
      refine Fewer.push hf (Fewer.storeProcessStates ?_ hs) rfl rfl
      exact h
  · exact h

theorem Fewer.handleBccNodeExit (h : Fewer f s₀ s) (l : ℕ) (code : Option ℕ) :
    Fewer f s₀ (s.handleBccNodeExit l code) := by
  have hexit : Fewer f s₀ (if s.state = .running then s.changeToState .exiting else s) := by
    split
    · exact h
    · exact h
  unfold BccNode.handleBccNodeExit
  dsimp only
  split
  · exact hexit
  · exact hexit.push hf rfl rfl

/-- A call goes on, other than one at the guard of `start()` or at the check of `restart()`. -/
theorem fewer_goOn {ok : Bool} (hg : p.atGuard = false)
    (hcheck : p.atCheck = true → s.exitOnStop = true) (hs : s.goOn c ok p = some s') : Fewer f s s' := by
  have hrefl : Fewer f s s := Fewer.refl s
  unfold goOn at hs
  split at hs
  -- canBeStarted
  · exact absurd hg (by simp [Point.atGuard])
  -- walletLauncher
  · split at hs
    · refine Option.some.inj hs ▸ Fewer.push hf ?_ rfl rfl
      exact hrefl
    · exact Option.some.inj hs ▸ hrefl.failStart hf
  -- nodeStart
  · next l =>
      split at hs
      · split at hs
        · refine Option.some.inj hs ▸ Fewer.push hf ?_ rfl rfl
          exact fewer_handleBccReplyPortMessage (s := s.setLauncher l .connect) l
        · exact absurd hs (by simp)
      · exact Option.some.inj hs ▸ Fewer.failStart (s := s.setLauncher l .die) hf hrefl
  -- stopIsDead
  · split at hs
    · split at hs
      · exact Option.some.inj hs ▸ Fewer.push (s := s.changeToState .stopping) hf hrefl rfl rfl
      · exact Option.some.inj hs ▸ Fewer.push (s := s.changeToState .stopping) hf hrefl rfl rfl
    · exact Option.some.inj hs ▸ hrefl.resolveStop hf _
  -- nodeStop
  · split at hs
    · split at hs
      · exact absurd hs (by simp)
      · exact Option.some.inj hs ▸ hrefl.push hf rfl rfl
    · exact Option.some.inj hs ▸ hrefl.push hf rfl rfl
  -- stopWait
  · split at hs
    · split at hs
      · split at hs
        · next s₁ hs₁ => exact Option.some.inj hs ▸ (hrefl.storeProcessStates hs₁).push hf rfl rfl
        · exact Option.some.inj hs ▸ hrefl.push hf rfl rfl
      · exact absurd hs (by simp)
    · exact Option.some.inj hs ▸ hrefl.push hf rfl rfl
  -- stopStored
  · exact Option.some.inj hs ▸ Fewer.resolveStop (s := s.reset) hf hrefl _
  -- killIsDead
  · split at hs
    · exact Option.some.inj hs ▸ hrefl
    · split at hs
      · exact Option.some.inj hs ▸ hrefl.push hf rfl rfl
      · exact Option.some.inj hs ▸ hrefl.catchKill hf
  -- killWait
  · split at hs
    · next s₁ hs₁ => exact Option.some.inj hs ▸ (hrefl.storeProcessStates hs₁).push hf rfl rfl
    · exact Option.some.inj hs ▸ hrefl.catchKill hf
  -- killStored
  · split at hs
    · exact Option.some.inj hs ▸ Fewer.push (s := (s.changeToState .stopped).reset) hf hrefl rfl rfl
    · exact Option.some.inj hs ▸ Fewer.push (s := s.reset) hf hrefl rfl rfl
  -- restartWait
  · rw [if_pos (hcheck rfl)] at hs
    exact Option.some.inj hs ▸ hrefl.push hf rfl rfl
  -- exitWait
  · split at hs
    · split at hs
      · exact Option.some.inj hs ▸ hrefl.exitReally hf ..
      · exact absurd hs (by simp)
    · split at hs
      · exact Option.some.inj hs ▸ hrefl.push hf rfl rfl
      · exact Option.some.inj hs ▸ hrefl.exitReally hf ..
  -- exitKill
  · exact Option.some.inj hs ▸ hrefl.exitReally hf ..
  -- exitStored
  · exact Option.some.inj hs ▸ hrefl
  -- settled
  · exact Option.some.inj hs ▸ hrefl.settle hf _

/-- What goes on inside the node. -/
theorem fewer_step {e : Event} (he : e.isCall = false)
    (hgo : ∀ k ok, e = .resume k ok → ∀ t ∈ s.tasks[k]?,
      t.point.atGuard = false ∧ (t.point.atCheck = true → s.exitOnStop = true))
    (hs : s.step e = some s') : Fewer f s s' := by
  cases e with
  | start | stop | restart | exitOnStop => exact absurd he (by simp [Event.isCall])
  | die l =>
      unfold step at hs
      dsimp only at hs
      split at hs
      · exact Option.some.inj hs ▸ Fewer.refl s
      · exact absurd hs (by simp)
  | exit l code =>
      unfold step at hs
      dsimp only at hs
      split at hs
      · refine Option.some.inj hs ▸ Fewer.handleBccNodeExit hf ?_ l code
        exact Fewer.refl s
      · exact absurd hs (by simp)
  | resume k ok =>
      obtain ⟨t, ht, hs⟩ := Option.bind_eq_some_iff.1 hs
      obtain ⟨hg, hcheck⟩ := hgo k ok rfl t ht
      exact Nat.le_trans (fewer_goOn (s := s.takeOut k) hf hg hcheck hs) (fewer_takeOut k)
  | probe k =>
      obtain ⟨t, ht, hs⟩ := Option.bind_eq_some_iff.1 hs
      have hout : Fewer f s (s.takeOut k) := fewer_takeOut k
      unfold pollAgain at hs
      split at hs
      · exact Option.some.inj hs ▸ hout.push hf rfl rfl
      · exact Option.some.inj hs ▸ hout.push hf rfl rfl
      · exact absurd hs (by simp)
  | unreadableTls k =>
      obtain ⟨t, ht, hs⟩ := Option.bind_eq_some_iff.1 hs
      have hout : Fewer f s (s.takeOut k) := fewer_takeOut k
      unfold failTls at hs
      split at hs
      · next l _ =>
          split at hs
          · exact Option.some.inj hs ▸
              Fewer.failStart (s := (s.takeOut k).setLauncher l .connect) hf hout
          · exact absurd hs (by simp)
      · exact absurd hs (by simp)

end Fewer

end BccNode

namespace App

open BccNode (Point BccNodeConfig)

variable {s s' : App}

/-! ## Shutting down -/

/-- The calls of `start()` that are past the guard and have not created their launcher yet. -/
def launching (s : App) : ℕ :=
  (s.bccNode.map BccNode.launching).getD 0

/-- `safeExit()` is about to stop the node itself. -/
def wouldStop (node : BccNode) : Bool :=
  decide (node.state ≠ .stopped) && decide (node.state ≠ .stopping)

/-- When `safeExit()` starts to stop the node no `start()` is at its guard, and from then on every
    `restart()` that comes to its check finds `_exitOnStop` set. -/
def Told (s : App) : Event → Prop
  | .safeExit => ∀ node ∈ s.bccNode, wouldStop node = true → ∀ t ∈ node.tasks, t.point.atGuard = false
  | .node (.resume k _) => s.stopping = true → ∀ node ∈ s.bccNode, ∀ t ∈ node.tasks[k]?,
      t.point.atCheck = true → node.exitOnStop = true
  | _ => True

instance decidableTold (s : App) : (e : Event) → Decidable (Told s e)
  | .safeExit => inferInstanceAs (Decidable (∀ node ∈ s.bccNode, _))
  | .node (.resume ..) => inferInstanceAs (Decidable (_ → _))
  | .setupBccNode _ | .onCheckDiskSpace _ | .crashTimer | .restart | .exit | .node (.start ..)
  | .node .stop | .node (.restart _) | .node .exitOnStop | .node (.die _) | .node (.exit ..)
  | .node (.probe _) | .node (.unreadableTls _) => isTrue trivial

/-- During the shutdown there is a node, and no `start()` is at its guard. -/
def Closing (s : App) : Prop :=
  s.stopping = true → ∃ node, s.bccNode = some node ∧ node.calls Point.atGuard = 0

theorem onWay_atGuard : BccNode.OnWay Point.atGuard :=
  fun _ hg _ => hg

theorem onWay_launches : BccNode.OnWay Point.launches :=
  fun _ _ hl => hl

theorem calls_atGuard {node : BccNode} :
    node.calls Point.atGuard = 0 ↔ ∀ t ∈ node.tasks, t.point.atGuard = false := by
  unfold BccNode.calls
  rw [List.countP_eq_zero]
  simp

/-- A step during the shutdown acts on the node that was there, and brings no `start()` closer to a
    launch. -/
theorem fewer_step {f : Point → Bool} (hf : BccNode.OnWay f) {e : Event} {node : BccNode}
    (hok : Told s e) (hn : s.bccNode = some node) (hd : s.stopping = true)
    (hguard : node.calls Point.atGuard = 0) (hs : s.step e = some s') :
    ∃ node', s'.bccNode = some node' ∧ BccNode.Fewer f node node' := by
  have hrefl : BccNode.Fewer f node node := BccNode.Fewer.refl node
  unfold step at hs
  split at hs
  · exact absurd hs (by simp)
  · split at hs
    -- setupBccNode
    · split at hs
      · next hnone => exact absurd hnone (by simp [hn])
      · exact absurd hs (by simp)
    -- safeExit
    · obtain rfl := Option.some.inj hs
      unfold safeExit
      rw [hn]
      dsimp only
      split
      · exact ⟨node, rfl, hrefl⟩
      · split
        · exact ⟨_, rfl, hrefl⟩
        · exact ⟨_, rfl, hrefl.push hf rfl rfl⟩
    -- onCheckDiskSpace
    · obtain rfl := Option.some.inj hs
      rw [hn]
      refine ⟨_, rfl, ?_⟩
      unfold onCheckDiskSpace
      split
      · split
        · exact hrefl.push hf rfl rfl
        · exact hrefl
      · split
        · exact hrefl.restart hf _
        · exact hrefl
    -- crashTimer
    · split at hs
      · obtain rfl := Option.some.inj hs
        rw [hn]
        exact ⟨_, rfl, hrefl.restart hf _⟩
      · exact absurd hs (by simp)
    -- restart
    · obtain rfl := Option.some.inj hs
      rw [hn]
      exact ⟨_, rfl, hrefl.restart hf _⟩
    -- node
    · next e =>
        split at hs
        · exact absurd hs (by simp)
        · next he =>
            rw [hn] at hs
            obtain ⟨node', hstep, rfl⟩ := Option.map_eq_some_iff.1 hs
            refine ⟨node', rfl, BccNode.fewer_step hf (Bool.eq_false_iff.2 he) ?_ hstep⟩
            rintro k ok rfl t ht
            exact ⟨calls_atGuard.1 hguard t (List.mem_of_getElem? ht), hok hd node hn t ht⟩
    -- exit
    · split at hs
      · obtain rfl := Option.some.inj hs
        exact ⟨node, hn, hrefl⟩
      · exact absurd hs (by simp)

/-- Only `safeExit()` starts the shutdown. -/
theorem stopping_step {e : Event} (hs : s.step e = some s') (hd : s.stopping = false)
    (hd' : s'.stopping = true) :
    e = .safeExit ∧ ∃ node, s.bccNode = some node ∧ wouldStop node = true ∧
      s'.bccNode = some (node.stop []) := by
  have hstay : ∀ s₁, some s₁ = some s' → s₁.stopping = s.stopping → False := fun s₁ h₁ hs₁ => by
    obtain rfl := Option.some.inj h₁
    exact absurd (hd'.symm.trans (hs₁.trans hd)) (by decide)
  unfold step at hs
  split at hs
  · exact absurd hs (by simp)
  · split at hs
    · split at hs
      · exact absurd (hstay _ hs rfl) id
      · exact absurd hs (by simp)
    · refine ⟨rfl, ?_⟩
      unfold safeExit at hs
      split at hs
      · exact absurd (hstay _ hs rfl) id
      · next node hn =>
          split at hs
          · exact absurd (hstay _ hs rfl) id
          · next hstopped =>
              split at hs
              · exact absurd (hstay _ hs rfl) id
              · next hstopping =>
                  obtain rfl := Option.some.inj hs
                  exact ⟨node, hn, by simp [wouldStop, hstopped, hstopping], rfl⟩
    · exact absurd (hstay _ hs rfl) id
    · split at hs
      · exact absurd (hstay _ hs rfl) id
      · exact absurd hs (by simp)
    · exact absurd (hstay _ hs rfl) id
    · split at hs
      · exact absurd hs (by simp)
      · obtain ⟨node, hn, hs⟩ := Option.bind_eq_some_iff.1 hs
        obtain ⟨node', -, hs⟩ := Option.map_eq_some_iff.1 hs
        exact absurd (hstay _ (congrArg some hs) rfl) id
    · split at hs
      · exact absurd (hstay _ hs rfl) id
      · exact absurd hs (by simp)

theorem closing_step {e : Event} (h : Closing s) (hok : Told s e) (hs : s.step e = some s') :
    Closing s' := by
  intro hd'
  by_cases hd : s.stopping = true
  · obtain ⟨node, hn, hguard⟩ := h hd
    obtain ⟨node', hn', hfewer⟩ := fewer_step onWay_atGuard hok hn hd hguard hs
    refine ⟨node', hn', Nat.le_zero.1 ?_⟩
    rw [← hguard]
    exact hfewer
  · obtain ⟨rfl, node, hn, hstop, hn'⟩ := stopping_step hs (Bool.eq_false_iff.2 hd) hd'
    refine ⟨_, hn', calls_atGuard.2 (List.forall_mem_cons.2 ⟨rfl, ?_⟩)⟩
    exact hok node hn hstop

theorem closing_reaches (h : machine.Reaches Told s) : Closing s :=
  h.invariant (fun hd => absurd hd (by decide)) fun _ _ _ _ hok hc hs => closing_step hc hok hs

/-- **No relaunch.** Once `safeExit()` has started to stop the node, no step launches a new one, if every
    `restart()` is told to exit. -/
theorem no_relaunch_of_told (h : machine.Reaches Told s) {e : Event} (hok : Told s e)
    (hs : s.step e = some s') (hd : s.stopping = true) : s'.launching ≤ s.launching := by
  obtain ⟨node, hn, hguard⟩ := closing_reaches h hd
  obtain ⟨node', hn', hfewer⟩ := fewer_step onWay_launches hok hn hd hguard hs
  unfold launching
  rw [hn, hn']
  exact hfewer

def startUp : List Event :=
  [.setupBccNode ⟨5⟩, .node (.resume 0 true), .node (.resume 0 true), .node (.resume 0 true),
    .node (.resume 0 true)]

/-- A disk-space check restarts the node that `safeExit()` is stopping; its own `stop()` is through first. -/
def checkWhileStopping : List Event :=
  [.onCheckDiskSpace false, .node (.die 0), .node (.resume 1 true),
    .node (.resume 1 true), .node (.resume 0 true), .node (.resume 0 true), .node (.resume 0 true),
    .node (.resume 0 true)]

/-- The window is closed once more, which sets `_exitOnStop`. -/
theorem no_relaunch_after_second_close : ∃ s s', machine.Reaches Told s ∧ s.stopping = true ∧
    machine.step s (.node (.resume 0 true)) = some s' ∧ s'.launching ≤ s.launching := by
  have h : machine.Reaches Told _ :=
    .exec (startUp ++ [.safeExit, .node (.resume 0 true), .safeExit] ++ checkWhileStopping) .init
      (by decide) rfl
  refine ⟨_, _, h, rfl, rfl, no_relaunch_of_told h (e := .node (.resume 0 true)) ?_ rfl rfl⟩
  decide

/-- The `stop()` of `safeExit()` still looks for the process when the next launch begins. -/
theorem disk_check_relaunches : ∃ s s', machine.Reaches Machine.anyStep s ∧
    machine.step s (.node (.resume 0 true)) = some s' ∧ s.stopping = true ∧
    (∃ node, s'.bccNode = some node ∧ ⟨.stopWait (some 0) 1, []⟩ ∈ node.tasks) ∧
    s.launching < s'.launching := by
  refine ⟨_, _, machine.reaches_of_exec (startUp ++ [.safeExit, .node (.resume 0 true)] ++
    checkWhileStopping ++ [.node (.resume 0 true)]) rfl, rfl, rfl, ⟨_, rfl, ?_⟩, ?_⟩
  · exact List.mem_cons_of_mem _ List.mem_cons_self
  · exact Nat.zero_lt_one

end App

end Klarity
