import Klarity.Library.Lists
import Klarity.Main.Bcc.BccNode
import Mathlib.Tactic.Common

set_option autoImplicit false

/-! # One activity at a time

The methods of `BccNode` read its fields before an `await` and write them after it. What they assume is
still true by then if `start()` acts on its guard only while nothing else is under way (`Undisturbed`).

Under that condition the launchers follow each other: the only one that can be alive, or whose exit can
still be handled, is the last (`Inv.alive_last`, `Inv.due_last`), and while `start()` is past its guard
no call is stopping the node and no exit is being handled (`Inv.compatible`). -/

namespace Klarity.BccNode

/-! ## Launchers -/

section Launchers

variable (s : BccNode) (l m : ℕ)

theorem getElem?_setLauncher (f : Launcher → Launcher) :
    (s.setLauncher l f).launchers[m]? = if l = m then s.launchers[m]?.map f else s.launchers[m]? := by
  unfold setLauncher
  rw [List.getElem?_modify]
  split <;> simp

@[simp] theorem length_setLauncher (f : Launcher → Launcher) :
    (s.setLauncher l f).launchers.length = s.launchers.length := by
  unfold setLauncher
  exact List.length_modify ..

/-- What an update does not change about a launcher stays. -/
theorem any_setLauncher {f : Launcher → Launcher} {g : Launcher → Bool} (hf : ∀ x, g (f x) = g x) :
    (s.setLauncher l f).launchers[m]?.any g = s.launchers[m]?.any g := by
  rw [getElem?_setLauncher]
  split
  · rw [Option.any_map]
    exact congrArg (fun p => s.launchers[m]?.any p) (funext hf)
  · rfl

@[simp] theorem alive_connect : (s.setLauncher l .connect).alive m = s.alive m :=
  any_setLauncher s l m fun _ => rfl

@[simp] theorem alive_emitExit : (s.setLauncher l .emitExit).alive m = s.alive m :=
  any_setLauncher s l m fun _ => rfl

@[simp] theorem started_die : (s.setLauncher l .die).started m = s.started m :=
  any_setLauncher s l m fun _ => rfl

@[simp] theorem started_emitExit : (s.setLauncher l .emitExit).started m = s.started m :=
  any_setLauncher s l m fun _ => rfl

@[simp] theorem alive_die : (s.setLauncher l .die).alive m = (s.alive m && decide (l ≠ m)) := by
  unfold alive
  rw [getElem?_setLauncher]
  split <;> simp_all [Option.any_map, Launcher.die]

variable {s l m}

theorem lt_of_alive (h : s.alive l = true) : l < s.launchers.length := by
  unfold alive at h
  by_contra hl
  rw [List.getElem?_eq_none (by omega)] at h
  exact absurd h (by simp)

theorem started_of_connect (h : s.started m = true) :
    (s.setLauncher l .connect).started m = true := by
  unfold started at h ⊢
  rw [getElem?_setLauncher]
  split
  · cases hx : s.launchers[m]? with
    | none => simp [hx] at h
    | some x => simp [Launcher.connect]
  · exact h

theorem started_connect_self (h : l < s.launchers.length) :
    (s.setLauncher l .connect).started l = true := by
  unfold started
  rw [getElem?_setLauncher]
  simp [h, Launcher.connect]

/-- A launcher that is connected while it runs has no exit to be handled. -/
theorem exitDue_connect (h : s.alive l = true) :
    (s.setLauncher l .connect).exitDue m = s.exitDue m := by
  unfold exitDue alive at *
  rw [getElem?_setLauncher]
  split
  · next hlm =>
      subst hlm
      cases hx : s.launchers[l]? with
      | none => simp
      | some x => simp_all [Launcher.connect, Launcher.exitDue]
  · rfl

/-- A death makes an exit due only if the launcher had started. -/
theorem exitDue_die (h : (s.setLauncher l .die).exitDue m = true) :
    s.exitDue m = true ∨ (m = l ∧ s.alive l = true ∧ s.started l = true) := by
  unfold exitDue alive started at *
  rw [getElem?_setLauncher] at h
  split at h
  · next hlm =>
      subst hlm
      cases hx : s.launchers[l]? with
      | none => simp [hx] at h
      | some x =>
          cases ha : x.alive <;> simp_all [Launcher.die, Launcher.exitDue]
  · exact Or.inl h

theorem exitDue_emitExit (h : (s.setLauncher l .emitExit).exitDue m = true) :
    s.exitDue m = true ∧ m ≠ l := by
  unfold exitDue at *
  rw [getElem?_setLauncher] at h
  split at h
  · next hlm =>
      subst hlm
      cases hx : s.launchers[l]? with
      | none => simp [hx] at h
      | some x => simp [hx, Launcher.emitExit, Launcher.exitDue] at h
  · next hlm => exact ⟨h, fun hml => hlm hml.symm⟩

/-- What is known of a launcher whose exit is handled. -/
theorem emitExit_of_exitDue (h : s.exitDue l = true) :
    (s.setLauncher l .emitExit).launchers[l]? = some ⟨false, true, true⟩ := by
  unfold exitDue at h
  rw [getElem?_setLauncher]
  cases hx : s.launchers[l]? with
  | none => simp [hx] at h
  | some x =>
      obtain ⟨alive, started, exited⟩ := x
      simp_all [Launcher.emitExit, Launcher.exitDue]

end Launchers

/-! ## What the calls under way do -/

/-- `starting`: `start()` is past its guard. `asking`: `stop()` found the node connected. `ending`: the
    node is being stopped or killed, or an exit handled. -/
inductive Kind
  | idle
  | starting
  | asking
  | ending
  deriving DecidableEq, Repr

def Point.kind : Point → Kind
  | .walletLauncher _ | .nodeStart _ => .starting
  | .stopIsDead _ connected _ => if connected then .asking else .idle
  | .nodeStop .. | .stopWait .. | .stopStored _ | .killIsDead _ | .killWait | .killStored _
  | .exitWait .. | .exitKill .. | .exitStored _ => .ending
  | .canBeStarted .. | .restartWait .. | .settled _ => .idle

/-- Nothing but calls that neither start nor stop the node is under way, and no exit is due. -/
def Quiet (s : BccNode) : Prop :=
  (∀ t ∈ s.tasks, t.point.kind = .idle) ∧ ∀ x ∈ s.launchers, x.exitDue = false

/-- What the guard of `start()` has found is still so, and nothing else is under way. -/
def StillFree (s : BccNode) : Point → Prop
  | .canBeStarted _ _ false previousPid =>
      Quiet s ∧ s.isConnected = false ∧ s.previousPid = previousPid
  | _ => True

/-- `start()` passes its guard only while that is still so and nothing else is under way. -/
def Undisturbed (s : BccNode) : Event → Prop
  | .resume k true => ∀ t ∈ s.tasks[k]?, StillFree s t.point
  | _ => True

instance decidableQuiet (s : BccNode) : Decidable (Quiet s) :=
  inferInstanceAs (Decidable (_ ∧ _))

instance decidableStillFree (s : BccNode) : (p : Point) → Decidable (StillFree s p)
  | .canBeStarted _ _ false _ => inferInstanceAs (Decidable (_ ∧ _ ∧ _))
  | .canBeStarted _ _ true _ | .walletLauncher _ | .nodeStart _ | .stopIsDead .. | .nodeStop ..
  | .stopWait .. | .stopStored _ | .killIsDead _ | .killWait | .killStored _ | .restartWait ..
  | .exitWait .. | .exitKill .. | .exitStored _ | .settled _ => isTrue trivial

instance decidableUndisturbed (s : BccNode) : (e : Event) → Decidable (Undisturbed s e)
  | .resume _ true => inferInstanceAs (Decidable (∀ t ∈ _, _))
  | .resume _ false | .start .. | .stop | .restart _ | .exitOnStop | .die _ | .exit .. | .probe _
  | .unreadableTls _ => isTrue trivial

/-! ## The invariant -/

/-- What a call relies on when it goes on. -/
def Holds (s : BccNode) : Point → Prop
  | .walletLauncher _ => (∀ l, s.alive l = false) ∧ s.isConnected = false
  | .nodeStart l => s.node = some l ∧ s.started l = false
  | .stopWait probed _ => ∀ l, s.node = some l → s.alive l = true → probed = some l
  | .stopStored _ => ∀ l, s.node = some l → s.alive l = false
  | .killStored _ => ∀ l, s.node = some l → s.alive l = true → s.previousPid = some l
  | .exitWait l _ _ _ _ | .exitKill l _ _ | .exitStored l =>
      l + 1 = s.launchers.length ∧ s.launchers[l]? = some ⟨false, true, true⟩
  | _ => True

/-- A call that starts the node is the only one that is not idle. -/
def Compatible (t u : Task) : Prop :=
  (t.point.kind = .starting → u.point.kind = .idle) ∧
    (u.point.kind = .starting → t.point.kind = .idle)

structure Inv (s : BccNode) : Prop where
  compatible : s.tasks.Pairwise Compatible
  task : ∀ t ∈ s.tasks, Holds s t.point
  not_due : ∀ t ∈ s.tasks, t.point.kind = .starting → ∀ l, s.exitDue l = false
  node_last : ∀ l, s.node = some l → l + 1 = s.launchers.length
  alive_last : ∀ l, s.alive l = true → l + 1 = s.launchers.length
  due_last : ∀ l, s.exitDue l = true → l + 1 = s.launchers.length
  /-- A launcher that runs can be found: it is starting up, or it is the node or the previous one. -/
  known : ∀ l, s.alive l = true →
    (s.started l = true ∧ (s.node = some l ∨ s.previousPid = some l)) ∨
      ∃ t ∈ s.tasks, t.point = .nodeStart l
  tls_node : ∀ l, s.tlsConfig = some l → s.node = some l ∧ s.started l = true
  running : s.state = .running →
    s.node.isSome ∧ s.tlsConfig.isSome ∧ ∀ t ∈ s.tasks, t.point.kind ≠ .ending

theorem inv_init : Inv {} := by
  refine ⟨?_, ?_, ?_, ?_, ?_, ?_, ?_, ?_, ?_⟩ <;> simp [alive, exitDue]

/-! ## Calls come and go -/

section Tasks

variable {s : BccNode} {p q : Point} {c d : List Frame}

theorem Inv.perm {ts : List Task} (h : Inv s) (hts : ts.Perm s.tasks) :
    Inv { s with tasks := ts } where
  compatible := h.compatible.perm hts.symm fun ⟨htu, hut⟩ => ⟨hut, htu⟩
  task t ht := h.task t (hts.mem_iff.1 ht)
  not_due t ht := h.not_due t (hts.mem_iff.1 ht)
  node_last := h.node_last
  alive_last := h.alive_last
  due_last := h.due_last
  known l hl := (h.known l hl).imp_right fun ⟨t, ht, hp⟩ => ⟨t, hts.mem_iff.2 ht, hp⟩
  tls_node := h.tls_node
  running hs := by
    obtain ⟨hn, ht, he⟩ := h.running hs
    exact ⟨hn, ht, fun t ht => he t (hts.mem_iff.1 ht)⟩

/-- The task that goes on, put in front of the others. -/
theorem Inv.takeOut {k : ℕ} {t : Task} (h : Inv s) (ht : s.tasks[k]? = some t) :
    Inv ((s.takeOut k).push t.point t.callers) :=
  h.perm (List.perm_cons_eraseIdx ht)

theorem Inv.drop (h : Inv (s.push p c)) (hp : ∀ l, p = .nodeStart l → s.alive l = false) :
    Inv s where
  compatible := (List.pairwise_cons.1 h.compatible).2
  task t ht := h.task t (List.mem_cons_of_mem _ ht)
  not_due t ht := h.not_due t (List.mem_cons_of_mem _ ht)
  node_last := h.node_last
  alive_last := h.alive_last
  due_last := h.due_last
  known l hl := by
    refine (h.known l hl).imp_right ?_
    rintro ⟨t, ht, htp⟩
    rcases List.mem_cons.1 ht with rfl | ht
    · exact absurd (hl.symm.trans (hp l htp)) (by decide)
    · exact ⟨t, ht, htp⟩
  tls_node := h.tls_node
  running hs := by
    obtain ⟨hn, ht, he⟩ := h.running hs
    exact ⟨hn, ht, fun t ht => he t (List.mem_cons_of_mem _ ht)⟩

/-- A call that is not starting the node comes; it may disturb only when none is. -/
theorem Inv.push (h : Inv s) (hstart : p.kind ≠ .starting)
    (halone : p.kind = .idle ∨ ∀ t ∈ s.tasks, t.point.kind ≠ .starting)
    (hrun : p.kind = .ending → s.state ≠ .running) (hp : Holds s p) : Inv (s.push p c) where
  compatible := by
    refine List.pairwise_cons.2 ⟨fun t ht => ⟨fun hk => absurd hk hstart, fun hk => ?_⟩, h.compatible⟩
    exact halone.resolve_right fun hno => hno t ht hk
  task := List.forall_mem_cons.2 ⟨hp, h.task⟩
  not_due := List.forall_mem_cons.2 ⟨fun hk => absurd hk hstart, h.not_due⟩
  node_last := h.node_last
  alive_last := h.alive_last
  due_last := h.due_last
  known l hl := (h.known l hl).imp_right fun ⟨t, ht, htp⟩ => ⟨t, List.mem_cons_of_mem _ ht, htp⟩
  tls_node := h.tls_node
  running hs := by
    obtain ⟨hn, ht, he⟩ := h.running hs
    exact ⟨hn, ht, List.forall_mem_cons.2 ⟨fun hk => hrun hk hs, he⟩⟩

theorem Inv.push_idle (h : Inv s) (hk : p.kind = .idle) (hp : Holds s p) : Inv (s.push p c) :=
  h.push (by rw [hk]; decide) (Or.inl hk) (fun he => absurd (hk.symm.trans he) (by decide)) hp

/-- No call is starting the node while another one stops it. -/
theorem Inv.not_starting (h : Inv (s.push p c)) (hp : p.kind ≠ .idle) :
    ∀ t ∈ s.tasks, t.point.kind ≠ .starting :=
  fun t ht hk => hp (((List.pairwise_cons.1 h.compatible).1 t ht).2 hk)

theorem Inv.not_running (h : Inv (s.push p c)) (hp : p.kind = .ending) : s.state ≠ .running :=
  fun hs => (h.running hs).2.2 _ (List.mem_cons_self ..) hp

/-- A call that stops the node goes on with stopping it. -/
theorem Inv.replace (h : Inv (s.push p c)) (hp : p.kind = .ending) (hq : q.kind = .ending)
    (hhold : Holds s q) : Inv (s.push q d) := by
  have hdrop : Inv s := h.drop fun l hl => by simp [hl, Point.kind] at hp
  refine hdrop.push (by rw [hq]; decide) (Or.inr (h.not_starting ?_)) (fun _ => h.not_running hp) hhold
  rw [hp]
  decide

theorem Inv.others_idle (h : Inv (s.push p c)) (hp : p.kind = .starting) :
    ∀ t ∈ s.tasks, t.point.kind = .idle :=
  fun t ht => ((List.pairwise_cons.1 h.compatible).1 t ht).1 hp

theorem holds_of_idle (hp : p.kind = .idle) : Holds s p := by
  cases p <;> simp_all [Point.kind, Holds]

/-- `start()` goes past its guard. -/
theorem Inv.push_starting (h : Inv s) (hidle : ∀ t ∈ s.tasks, t.point.kind = .idle)
    (hdue : ∀ l, s.exitDue l = false) (hk : p.kind = .starting) (hp : Holds s p) :
    Inv (s.push p c) where
  compatible := by
    refine List.pairwise_cons.2 ⟨fun t ht => ⟨fun _ => hidle t ht, fun hs => ?_⟩, h.compatible⟩
    exact absurd (hs.symm.trans (hidle t ht)) (by decide)
  task := List.forall_mem_cons.2 ⟨hp, h.task⟩
  not_due := List.forall_mem_cons.2 ⟨fun _ => hdue, h.not_due⟩
  node_last := h.node_last
  alive_last := h.alive_last
  due_last := h.due_last
  known l hl := (h.known l hl).imp_right fun ⟨t, ht, htp⟩ => ⟨t, List.mem_cons_of_mem _ ht, htp⟩
  tls_node := h.tls_node
  running hs := by
    obtain ⟨hn, ht, he⟩ := h.running hs
    exact ⟨hn, ht, List.forall_mem_cons.2 ⟨by rw [hk]; decide, he⟩⟩

end Tasks

/-! ## The fields are written -/

section Fields

variable {s s' : BccNode} {p : Point} {c : List Frame} {l : ℕ}

/-- The fields that the invariant is not about. -/
theorem Inv.others (h : Inv s) (config : Option BccNodeConfig) (startupTries : ℕ) (exitOnStop : Bool)
    (notes : List Note) :
    Inv { s with
      config := config, startupTries := startupTries, exitOnStop := exitOnStop, notes := notes } :=
  ⟨h.compatible, h.task, h.not_due, h.node_last, h.alive_last, h.due_last, h.known, h.tls_node,
    h.running⟩

theorem Inv.changeToState (h : Inv s) {state : BccNodeState} (hs : state ≠ .running) :
    Inv (s.changeToState state) :=
  ⟨h.compatible, h.task, h.not_due, h.node_last, h.alive_last, h.due_last, h.known, h.tls_node,
    fun hr => absurd hr hs⟩

theorem storeProcessStates_eq_some (hs : s.storeProcessStates = some s') :
    s' = { s with previousPid := s.node.or s.previousPid } := by
  unfold storeProcessStates at hs
  split at hs
  · next hn =>
      have hp : s.node.or s.previousPid = s.previousPid := by rw [hn, Option.none_or]
      rw [hp]
      exact (Option.some.inj hs).symm
  · next l hn =>
      split at hs
      · have hp : s.node.or s.previousPid = some l := by rw [hn, Option.some_or]
        rw [hp]
        exact (Option.some.inj hs).symm
      · exact absurd hs (by simp)

/-- A node that has exited is not running, and its pid is stored if it can be. -/
theorem exitReally_cases (s : BccNode) (l : ℕ) (config : BccNodeConfig) (code : Option ℕ) :
    ∃ state, state ≠ .running ∧
      ((∃ s', (s.changeToState state).storeProcessStates = some s' ∧
          s.exitReally l config code = s'.push (.exitStored l) []) ∨
        ((s.changeToState state).storeProcessStates = none ∧
          s.exitReally l config code = s.changeToState state)) := by
  unfold exitReally
  dsimp only
  generalize hst : (if s.state = .stopping then BccNodeState.stopped
    else if s.state = .updating ∧ code = some BCC_UPDATE_EXIT_CODE then .updated
    else if s.isUnrecoverable config then .unrecoverable else .crashed) = state
  refine ⟨state, ?_, ?_⟩
  · rw [← hst]
    split
    · decide
    · split
      · decide
      · split <;> decide
  · split
    · next s' hs => exact .inl ⟨s', hs, rfl⟩
    · next hs => exact .inr ⟨hs, rfl⟩

theorem holds_store (h : Holds s p) :
    Holds { s with previousPid := s.node.or s.previousPid } p := by
  cases p
  case killStored =>
      intro l hl _
      show s.node.or s.previousPid = some l
      rw [show s.node = some l from hl, Option.some_or]
  all_goals exact h

theorem Inv.store (h : Inv s) : Inv { s with previousPid := s.node.or s.previousPid } where
  compatible := h.compatible
  task t ht := holds_store (h.task t ht)
  not_due := h.not_due
  node_last := h.node_last
  alive_last := h.alive_last
  due_last := h.due_last
  known l hl := by
    refine (h.known l hl).imp_left fun ⟨hs, hl'⟩ => ⟨hs, ?_⟩
    show s.node = some l ∨ s.node.or s.previousPid = some l
    cases hn : s.node with
    | none => exact Or.inr (by simpa [hn] using hl')
    | some m =>
        -- both are the last launcher
        have hm := h.node_last m hn
        have hl := h.alive_last l hl
        exact Or.inl (by rw [show m = l by omega])
  tls_node := h.tls_node
  running := h.running

theorem holds_reset (h : Holds s p) (hp : p.kind ≠ .starting) : Holds s.reset p := by
  cases p <;> simp_all [Holds, Point.kind, reset]

/-- The node is forgotten: unless it is dead, it must be stored as the previous one. -/
theorem Inv.reset (h : Inv s) (hstart : ∀ t ∈ s.tasks, t.point.kind ≠ .starting)
    (hrun : s.state ≠ .running)
    (hprev : ∀ l, s.node = some l → s.alive l = true → s.previousPid = some l) : Inv s.reset where
  compatible := h.compatible
  task t ht := holds_reset (h.task t ht) (hstart t ht)
  not_due := h.not_due
  node_last _ hn := absurd hn (by simp [BccNode.reset])
  alive_last := h.alive_last
  due_last := h.due_last
  known l hl := by
    refine (h.known l hl).imp_left fun ⟨hs, hl'⟩ => ⟨hs, Or.inr ?_⟩
    exact hl'.elim (fun hn => hprev l hn hl) id
  tls_node _ ht := absurd ht (by simp [BccNode.reset])
  running hs := absurd hs hrun

theorem isConnected_die : (s.setLauncher l .die).isConnected = s.isConnected := by
  unfold isConnected
  rw [show (s.setLauncher l .die).started = s.started from funext fun m => started_die s l m]
  rfl

theorem isConnected_emitExit : (s.setLauncher l .emitExit).isConnected = s.isConnected := by
  unfold isConnected
  rw [show (s.setLauncher l .emitExit).started = s.started from funext fun m => started_emitExit s l m]
  rfl

/-- What is known of a launcher whose exit is handled stays so. -/
theorem exited_setLauncher {f : Launcher → Launcher} (hf : f ⟨false, true, true⟩ = ⟨false, true, true⟩)
    {m : ℕ} (h : s.launchers[m]? = some ⟨false, true, true⟩) :
    (s.setLauncher l f).launchers[m]? = some ⟨false, true, true⟩ := by
  rw [getElem?_setLauncher, h]
  split
  · exact congrArg some hf
  · rfl

theorem holds_die (h : Holds s p) : Holds (s.setLauncher l .die) p := by
  cases p
  case walletLauncher => exact ⟨fun m => by simp [h.1 m], isConnected_die.trans h.2⟩
  case nodeStart => exact ⟨h.1, (started_die ..).trans h.2⟩
  case stopWait => exact fun m hm ha => h m hm (by simp at ha; exact ha.1)
  case stopStored => exact fun m hm => by simp [h m hm]
  case killStored => exact fun m hm ha => h m hm (by simp at ha; exact ha.1)
  case exitWait | exitKill | exitStored =>
      exact ⟨h.1.trans (length_setLauncher ..).symm, exited_setLauncher rfl h.2⟩
  all_goals trivial

theorem holds_emitExit (h : Holds s p) : Holds (s.setLauncher l .emitExit) p := by
  cases p
  case walletLauncher => exact ⟨fun m => by simp [h.1 m], isConnected_emitExit.trans h.2⟩
  case nodeStart => exact ⟨h.1, (started_emitExit ..).trans h.2⟩
  case stopWait => exact fun m hm ha => h m hm (by simpa using ha)
  case stopStored => exact fun m hm => by simp [h m hm]
  case killStored => exact fun m hm ha => h m hm (by simpa using ha)
  case exitWait | exitKill | exitStored =>
      exact ⟨h.1.trans (length_setLauncher ..).symm, exited_setLauncher rfl h.2⟩
  all_goals trivial

/-- No launcher that has started is alive while another one is being started. -/
theorem Inv.not_started (h : Inv s) {t : Task} (ht : t ∈ s.tasks) (hk : t.point.kind = .starting)
    (ha : s.alive l = true) : s.started l = false := by
  have hhold := h.task t ht
  cases hp : t.point with
  | walletLauncher => rw [hp] at hhold; exact absurd (ha.symm.trans (hhold.1 l)) (by decide)
  | nodeStart m =>
      rw [hp] at hhold
      have hm := h.node_last m hhold.1
      have hl := h.alive_last l ha
      rw [show l = m by omega]
      exact hhold.2
  | stopIsDead node connected spawned =>
      rw [hp] at hk
      cases connected <;> simp [Point.kind] at hk
  | _ => rw [hp] at hk; exact absurd hk (by simp [Point.kind])

theorem Inv.die (h : Inv s) : Inv (s.setLauncher l .die) where
  compatible := h.compatible
  task t ht := holds_die (h.task t ht)
  not_due t ht hk m := by
    by_contra hm
    rcases exitDue_die (by simpa using hm) with hm | ⟨rfl, ha, hs⟩
    · exact absurd (hm.symm.trans (h.not_due t ht hk m)) (by decide)
    · exact absurd (hs.symm.trans (h.not_started ht hk ha)) (by decide)
  node_last m hm := (h.node_last m hm).trans (length_setLauncher ..).symm
  alive_last m hm := by
    rw [length_setLauncher]
    exact h.alive_last m (by simp at hm; exact hm.1)
  due_last m hm := by
    rw [length_setLauncher]
    rcases exitDue_die hm with hm | ⟨rfl, ha, -⟩
    · exact h.due_last m hm
    · exact h.alive_last m ha
  known m hm := by
    refine (h.known m (by simp at hm; exact hm.1)).imp_left fun ⟨hs, hm'⟩ => ⟨?_, hm'⟩
    simpa using hs
  tls_node m hm := ⟨(h.tls_node m hm).1, by simpa using (h.tls_node m hm).2⟩
  running := h.running

theorem Inv.emitExit (h : Inv s) : Inv (s.setLauncher l .emitExit) where
  compatible := h.compatible
  task t ht := holds_emitExit (h.task t ht)
  not_due t ht hk m := by
    by_contra hm
    have hm' := (exitDue_emitExit (by simpa using hm)).1
    exact absurd (hm'.symm.trans (h.not_due t ht hk m)) (by decide)
  node_last m hm := (h.node_last m hm).trans (length_setLauncher ..).symm
  alive_last m hm := by
    rw [length_setLauncher]
    exact h.alive_last m (by simpa using hm)
  due_last m hm := by
    rw [length_setLauncher]
    exact h.due_last m (exitDue_emitExit hm).1
  known m hm := by
    refine (h.known m (by simpa using hm)).imp_left fun ⟨hs, hm'⟩ => ⟨?_, hm'⟩
    simpa using hs
  tls_node m hm := ⟨(h.tls_node m hm).1, by simpa using (h.tls_node m hm).2⟩
  running := h.running

end Fields

end Klarity.BccNode
