import Klarity.Main.Bcc.BccNode.Kill
import Mathlib.Tactic.Common

set_option autoImplicit false

/-! # When `kill()` settles, and what that means

The executor has four ends: the node is found dead and nothing settles the promise, the node is killed
and it resolves, the node cannot be killed and it rejects, or the pid cannot be stored in the `catch`
block either and nothing settles it. Which one is reached is decided by what the calls come back with
(`KillGoesWell`). The probe before the promise resolves is not waited for, so its answer decides nothing. -/

namespace Klarity.BccNode.Kill

variable (w : World)

/-! ## What the steps do -/

/-- The answer of a probe of the node process. -/
def Run.nodeRuns (r : Run) : Bool :=
  r.s.node.isSome && w.running r.probes.length

def Run.probed (r : Run) : Run :=
  { r with probes := r.nodeRuns w :: r.probes }

def Run.foundDead (r : Run) : Bool :=
  !r.s.isConnected && !r.nodeRuns w

/-- After `isDead()`. -/
def Run.asked (r : Run) : Run :=
  (if r.s.isConnected then r else r.probed w).await w

/-- After the pid was stored, or could not be. -/
def Run.written (r : Run) : Run :=
  if r.canStore w then
    Run.await w
      { r with s := { r.s with previousPid := r.s.node.or r.s.previousPid }, writes := r.writes + 1 }
  else Run.await w { r with writes := r.writes + 1 }

theorem isNodeProcessStillRunning_run (r : Run) :
    isNodeProcessStillRunning w r = (.returns (r.nodeRuns w), r.probed w) := by
  unfold isNodeProcessStillRunning Run.probed Run.nodeRuns
  rw [Async.get_bind_run]
  by_cases hn : r.s.node.isSome = true
  · rw [if_pos hn, hn]
    rfl
  · rw [if_neg hn, Bool.eq_false_iff.2 hn]
    rfl

theorem isNodeProcessNotRunningAnymore_run (r : Run) :
    isNodeProcessNotRunningAnymore w r = (.returns (!r.nodeRuns w), r.probed w) :=
  Async.bind_run_of_returns (isNodeProcessStillRunning_run w r)

theorem isDead_run (r : Run) :
    isDead w r = (.returns (r.foundDead w), if r.s.isConnected then r else r.probed w) := by
  unfold isDead Run.foundDead
  rw [Async.get_bind_run]
  by_cases hc : r.s.isConnected = true
  · rw [if_pos hc, if_pos hc, hc]
    rfl
  · rw [if_neg hc, if_neg hc, isNodeProcessNotRunningAnymore_run, Bool.eq_false_iff.2 hc]
    rfl

theorem waitForBccToExitOrKillIt_run (r : Run) :
    waitForBccToExitOrKillIt w r = (.returns (), r.probed w) :=
  Async.bind_run_of_returns (isNodeProcessNotRunningAnymore_run w r)

theorem storeProcessStates_run (r : Run) :
    storeProcessStates w r = (if r.canStore w then .returns () else .throws, r.written w) := by
  unfold storeProcessStates Run.written
  rw [Async.get_bind_run]
  by_cases hs : r.canStore w = true
  · rw [if_pos hs, if_pos hs, if_pos hs]
    rfl
  · rw [if_neg hs, if_neg hs, if_neg hs]
    rfl

/-! ## The two blocks of the executor -/

/-- When the pid is about to be stored. -/
def Run.waited (r : Run) : Run :=
  (r.probed w).await w

def Run.killed (r : Run) : Run :=
  { r with s := (r.s.changeToState .stopped).reset, settled := true :: r.settled }

def Run.notKilled (r : Run) : Run :=
  { r with s := r.s.reset, settled := false :: r.settled }

theorem killNode_run_of_throws {node : Option ℕ} (r : Run) (h : (node.isSome && !w.nodeKills) = true) :
    killNode w node r = (.throws, r) := by
  unfold killNode
  rw [if_pos h]
  rfl

theorem killNode_run {node : Option ℕ} (r : Run) (h : (node.isSome && !w.nodeKills) = false) :
    killNode w node r =
      if (r.waited w).canStore w then (.returns (), ((r.waited w).written w).killed)
      else (.throws, (r.waited w).written w) := by
  unfold killNode
  rw [if_neg (by rw [h]; decide), Async.bind_run_of_returns (waitForBccToExitOrKillIt_run w r)]
  show (storeProcessStates w >>= _) (r.waited w) = _
  have hstore := storeProcessStates_run w (r.waited w)
  by_cases hs : (r.waited w).canStore w = true
  · rw [if_pos hs] at hstore ⊢
    rw [Async.bind_run_of_returns hstore]
    rfl
  · rw [if_neg hs] at hstore ⊢
    rw [Async.bind_run_of_throws hstore]

theorem couldNotKill_run (r : Run) :
    couldNotKill w r =
      if r.canStore w then (.returns (), (r.written w).notKilled) else (.throws, r.written w) := by
  unfold couldNotKill
  have hstore := storeProcessStates_run w r
  by_cases hs : r.canStore w = true
  · rw [if_pos hs] at hstore ⊢
    rw [Async.bind_run_of_returns hstore]
    rfl
  · rw [if_neg hs] at hstore ⊢
    rw [Async.bind_run_of_throws hstore]

theorem executor_run_of_dead {r : Run} (h : r.foundDead w = true) :
    executor w r = (.returns (), r.asked w) := by
  unfold executor
  rw [Async.get_bind_run, Async.bind_run_of_returns (isDead_run w r), h]
  rfl

theorem executor_run {r : Run} (h : r.foundDead w = false) :
    executor w r = (killNode w r.s.node).tryCatch (couldNotKill w) (r.asked w) := by
  unfold executor
  rw [Async.get_bind_run, Async.bind_run_of_returns (isDead_run w r), h]
  rfl

/-! ## The attempts at settling the promise -/

section Settled

variable (r : Run)

@[simp] theorem settled_asked : (r.asked w).settled = r.settled := by
  unfold Run.asked
  split <;> rfl

@[simp] theorem settled_waited : (r.waited w).settled = r.settled := rfl

@[simp] theorem settled_written : (r.written w).settled = r.settled := by
  unfold Run.written
  split <;> rfl

@[simp] theorem settled_killed : r.killed.settled = true :: r.settled := rfl

@[simp] theorem settled_notKilled : r.notKilled.settled = false :: r.settled := rfl

@[simp] theorem probes_waited : (r.waited w).probes = r.nodeRuns w :: r.probes := rfl

@[simp] theorem probes_written : (r.written w).probes = r.probes := by
  unfold Run.written
  split <;> rfl

@[simp] theorem probes_killed : r.killed.probes = r.probes := rfl

end Settled

/-- `_node.kill()` throws. -/
def Run.killThrows (r : Run) : Bool :=
  r.s.node.isSome && !w.nodeKills

/-- The node is not found dead, the pid can be stored in the `catch` block if that is reached, and
    otherwise the probe that `kill()` does not wait for finds the process gone. -/
structure KillGoesWell (r : Run) : Prop where
  alive : r.foundDead w = false
  caught : r.killThrows w = true → (r.asked w).canStore w = true
  stored : r.killThrows w = false → ((r.asked w).waited w).canStore w = false →
    (((r.asked w).waited w).written w).canStore w = true
  gone : r.killThrows w = false → ((r.asked w).waited w).canStore w = true →
    (r.asked w).nodeRuns w = false

/-- Settled once, and resolved only if the last probe did not find the process. -/
def Settles (r : Run) : Prop :=
  r.settled.length = 1 ∧ (r.settled = [true] → r.probes.head? = some false)

theorem settles_executor {r : Run} (hr : r.settled = []) :
    Settles (executor w r).2 ↔ KillGoesWell w r := by
  unfold Settles
  by_cases hd : r.foundDead w = true
  · rw [executor_run_of_dead w hd]
    constructor
    · intro h
      exact absurd h.1 (by simp [hr])
    · intro h
      exact absurd (hd.symm.trans h.alive) (by decide)
  · have hd : r.foundDead w = false := Bool.eq_false_iff.2 hd
    rw [executor_run w hd]
    by_cases ht : r.killThrows w = true
    · rw [Async.tryCatch_run_of_throws (killNode_run_of_throws w _ ht), couldNotKill_run]
      by_cases hs : (r.asked w).canStore w = true
      · rw [if_pos hs]
        refine ⟨fun _ => ⟨hd, fun _ => hs, ?_, ?_⟩, fun _ => by simp [hr]⟩
        · exact fun hf => absurd (ht.symm.trans hf) (by decide)
        · exact fun hf => absurd (ht.symm.trans hf) (by decide)
      · rw [if_neg hs]
        exact ⟨fun h => absurd h.1 (by simp [hr]), fun h => absurd (h.caught ht) hs⟩
    · have ht : r.killThrows w = false := Bool.eq_false_iff.2 ht
      have hrun := killNode_run w (r.asked w) ht
      by_cases hs : ((r.asked w).waited w).canStore w = true
      · rw [if_pos hs] at hrun
        rw [Async.tryCatch_run_of_returns hrun]
        constructor
        · intro h
          have hgone : (r.asked w).nodeRuns w = false := by simpa [hr] using h
          refine ⟨hd, fun hf => ?_, fun _ hf => ?_, fun _ _ => hgone⟩
          · exact absurd (hf.symm.trans ht) (by decide)
          · exact absurd (hs.symm.trans hf) (by decide)
        · intro h
          simp [hr, h.gone ht hs]
      · rw [if_neg hs] at hrun
        rw [Async.tryCatch_run_of_throws hrun, couldNotKill_run]
        have hs : ((r.asked w).waited w).canStore w = false := Bool.eq_false_iff.2 hs
        by_cases hc : (((r.asked w).waited w).written w).canStore w = true
        · rw [if_pos hc]
          refine ⟨fun _ => ⟨hd, ?_, fun _ _ => hc, ?_⟩, fun _ => by simp [hr]⟩
          · exact fun hf => absurd (hf.symm.trans ht) (by decide)
          · exact fun _ hf => absurd (hf.symm.trans hs) (by decide)
        · rw [if_neg hc]
          exact ⟨fun h => absurd h.1 (by simp [hr]), fun h => absurd (h.stored ht hs) hc⟩

/-! ## Methods that end -/

theorem ends_isNodeProcessNotRunningAnymore : Async.Ends (isNodeProcessNotRunningAnymore w) := by
  intro r
  rw [isNodeProcessNotRunningAnymore_run]
  simp

theorem ends_storeProcessStates : Async.Ends (storeProcessStates w) := by
  intro r
  rw [storeProcessStates_run]
  split
  · simp
  · simp

theorem ends_timeout (f : Timeouts → ℕ) : Async.Ends (timeout w f) := by
  unfold timeout
  split
  · exact Async.ends_pure _
  · exact Async.ends_throw

/-- A poll looks again only while its time is not up. -/
theorem ends_checkCondition {condition : Method Bool} (h : Async.Ends condition) (timeout timeWaited : ℕ) :
    Async.Ends (checkCondition w condition timeout timeWaited) := by
  induction timeWaited using checkCondition.induct timeout with
  | case1 timeWaited ih =>
      unfold checkCondition
      refine h.bind fun result => (Async.ends_modify _).bind fun _ => ?_
      refine (Async.ends_pure _).ite ?_
      by_cases ht : timeout ≤ timeWaited
      · rw [if_pos ht]
        exact Async.ends_throw
      · rw [if_neg ht]
        exact (Async.ends_modify _).bind fun _ => ih ht

theorem ends_executor : Async.Ends (executor w) := by
  have hkill : ∀ node, Async.Ends (killNode w node) := fun node => by
    refine Async.ends_throw.ite (Async.Ends.bind (fun r => ?_) fun _ => ?_)
    · rw [waitForBccToExitOrKillIt_run]
      simp
    · exact (Async.ends_modify _).bind fun _ => (ends_storeProcessStates w).bind fun _ =>
        (Async.ends_modify _).bind fun _ => (Async.ends_modify _).bind fun _ => Async.ends_modify _
  have hcatch : Async.Ends (couldNotKill w) :=
    (ends_storeProcessStates w).bind fun _ => (Async.ends_modify _).bind fun _ => Async.ends_modify _
  intro r
  by_cases hd : r.foundDead w = true
  · rw [executor_run_of_dead w hd]
    simp
  · rw [executor_run w (Bool.eq_false_iff.2 hd)]
    exact (hkill _).tryCatch hcatch _

theorem ends_stopNode (node : Option ℕ) : Async.Ends (stopNode w node) := by
  refine (Async.ends_modify _).bind fun _ => (ends_timeout w _).bind fun shutdownTimeout => ?_
  have hrest : Async.Ends (do
      waitForNodeProcessToExit w shutdownTimeout
      storeProcessStates w
      reset) :=
    (ends_checkCondition w (ends_isNodeProcessNotRunningAnymore w) _ _).bind fun _ =>
      (ends_storeProcessStates w).bind fun _ => Async.ends_modify _
  refine Async.Ends.ite ((Async.ends_modify _).bind fun _ => ?_) ?_
  · exact Async.Ends.ite hrest Async.ends_throw
  · exact hrest

/-! ## The callers -/

/-- What `kill()` finds when it is called. -/
def Run.called (r : Run) : Run :=
  { r with settled := [] }

/-- `stop()`, called in `r₀`, calls `kill()` in `r`. -/
def StopFallsBack (r₀ r : Run) : Prop :=
  ∃ r₁, isDead w r₀ = (.returns false, r₁) ∧ stopNode w r₀.s.node (r₁.await w) = (.throws, r)

/-- `expectNodeUpdate()`, called in `r₀`, calls `kill()` in `r`. -/
def UpdateFallsBack (r₀ r : Run) : Prop :=
  awaitUpdate w { r₀ with s := r₀.s.changeToState .updating } = (.throws, r)

/-- The promise of `kill()` settles when the executor has made an attempt at it. -/
theorem kill_ends_of_settles {r : Run} (h : Settles (executor w r.called).2) : (kill w r).1 ≠ .hangs := by
  have hcatch : ((executor w).tryCatch (pure ())) r.called =
      (.returns (), (executor w r.called).2) := by
    rcases hx : executor w r.called with ⟨_ | _ | _, r'⟩
    · exact Async.tryCatch_run_of_returns hx
    · exact Async.tryCatch_run_of_throws hx
    · exact absurd (congrArg Prod.fst hx) (ends_executor w _)
  obtain ⟨resolved, hsettled⟩ := List.length_eq_one_iff.1 h.1
  unfold kill
  rw [Async.modify_bind_run]
  show (((executor w).tryCatch (pure ()) >>= _) r.called).1 ≠ _
  rw [Async.bind_run_of_returns hcatch, Async.get_bind_run, hsettled]
  cases resolved with
  | true => simp
  | false => simp

theorem stop_run_of_fallsBack {r₀ r : Run} (h : StopFallsBack w r₀ r) : stop w r₀ = kill w r := by
  obtain ⟨r₁, hdead, hnode⟩ := h
  unfold stop
  rw [Async.get_bind_run, Async.bind_run_of_returns hdead]
  exact Async.tryCatch_run_of_throws hnode

theorem expectNodeUpdate_run_of_fallsBack {r₀ r : Run} (h : UpdateFallsBack w r₀ r) :
    expectNodeUpdate w r₀ = kill w r :=
  Async.tryCatch_run_of_throws h

/-- `kill()`, called in `r`, settles, means dead when it resolves, and lets its callers go on. -/
structure MeansDead (r : Run) : Prop where
  settles : Settles (executor w r.called).2
  stop : ∀ r₀, StopFallsBack w r₀ r → (stop w r₀).1 ≠ .hangs
  update : ∀ r₀, UpdateFallsBack w r₀ r → (expectNodeUpdate w r₀).1 ≠ .hangs

/-- **`kill()` settles and means dead** exactly when it goes well. -/
theorem kill_means_dead_iff (r : Run) : MeansDead w r ↔ KillGoesWell w r.called := by
  constructor
  · intro h
    exact (settles_executor w rfl).1 h.settles
  · intro h
    have hsettles : Settles (executor w r.called).2 := (settles_executor w rfl).2 h
    refine ⟨hsettles, fun r₀ hr => ?_, fun r₀ hr => ?_⟩
    · rw [stop_run_of_fallsBack w hr]
      exact kill_ends_of_settles w hsettles
    · rw [expectNodeUpdate_run_of_fallsBack w hr]
      exact kill_ends_of_settles w hsettles

/-- A node that is connected. -/
def connectedNode : BccNode :=
  { node := some 0, launchers := [{ started := true }], state := .running }

/-- The process runs throughout; `others` is what the other methods do. -/
def processRuns (others : ℕ → BccNode → BccNode) : World where
  config := some ⟨0, 0, 0⟩
  running _ := true
  nodeStops := false
  nodeKills := true
  processKills := true
  stores _ := true
  others := others

/-- The exit handler resets the node while `stop()` waits for the launcher. -/
def resetMeanwhile : World :=
  processRuns fun k s => if k = 1 then s.reset else s

theorem stop_hangs_and_kill_resolves_alive :
    (∃ r, StopFallsBack resetMeanwhile ⟨connectedNode, [], 0, 0, []⟩ r ∧
      (executor resetMeanwhile r.called).2.settled = [] ∧ ¬ MeansDead resetMeanwhile r) ∧
    (stop resetMeanwhile ⟨connectedNode, [], 0, 0, []⟩).1 = .hangs ∧
    (executor (processRuns fun _ s => s) ⟨connectedNode, [], 0, 0, []⟩).2.settled = [true] ∧
    ¬ MeansDead (processRuns fun _ s => s) ⟨connectedNode, [], 0, 0, []⟩ := by
  refine ⟨⟨_, ⟨_, rfl, rfl⟩, rfl, fun h => ?_⟩, rfl, rfl, fun h => ?_⟩
  · exact absurd h.settles.1 (by decide)
  · exact absurd (h.settles.2 rfl) (by decide)

/-- `stop()` hangs only in a `kill()` that does not go well. -/
theorem stop_ends_of_meansDead {r₀ : Run} (h : ∀ r, StopFallsBack w r₀ r → MeansDead w r) :
    (stop w r₀).1 ≠ .hangs := by
  rcases hd : isDead w r₀ with ⟨dead | _ | _, r₁⟩
  · by_cases hdead : dead = true
    · subst hdead
      unfold stop
      rw [Async.get_bind_run, Async.bind_run_of_returns hd]
      exact Async.ends_pure () (r₁.await w)
    · obtain rfl : dead = false := Bool.eq_false_iff.2 hdead
      rcases hnode : stopNode w r₀.s.node (r₁.await w) with ⟨_ | _ | _, r⟩
      · unfold stop
        rw [Async.get_bind_run, Async.bind_run_of_returns hd]
        show ((stopNode w r₀.s.node).tryCatch (kill w) (r₁.await w)).1 ≠ _
        rw [Async.tryCatch_run_of_returns hnode]
        simp
      · have hfalls : StopFallsBack w r₀ r := ⟨r₁, hd, hnode⟩
        exact (h r hfalls).stop r₀ hfalls
      · exact absurd (congrArg Prod.fst hnode) (ends_stopNode w _ _)
  · rw [isDead_run] at hd
    exact absurd (congrArg Prod.fst hd) (by simp)
  · rw [isDead_run] at hd
    exact absurd (congrArg Prod.fst hd) (by simp)

end Klarity.BccNode.Kill
