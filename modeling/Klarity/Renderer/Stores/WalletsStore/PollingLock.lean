import Klarity.Library.Lists
import Klarity.Renderer.Stores.WalletsStore

set_option autoImplicit false

/-! # The polling lock

One boolean blocks the polling, and each operation sets it and takes it back by hand. It says whether some
operation is at work in the runs in which no operation is over without resuming the polling, and none
resumes it while another one is at work. -/

namespace Klarity.WalletsStore

variable {s s' : State} {e : Event} {task : Task} {answer : Answer}

/-! ## What is promised -/

/-- The operation is between its pause and its end. -/
def Task.holdsPolling (task : Task) : Bool :=
  match task.operation, task.phase with
  | .restoreWalletEnd, _ => false
  | _, .pausing => false
  | _, _ => true

/-- A deletion that has not come to the point where it takes the flag back. -/
def Task.isDeleting (task : Task) : Bool :=
  match task.operation, task.phase with
  | .deleteWallet _, .pausing | .deleteWallet _, .paused | .deleteWallet _, .deleteWallet _ => true
  | .deleteWallet _, .patchDeleted _ | .deleteWallet _, .hanging => true
  | _, _ => false

/-- The polling is blocked as long as some operation is at work, and a deletion is shown only while there
    is one. -/
structure PollingLock (s : State) : Prop where
  blocked : s.pollingBlocked = true ↔ ∃ task ∈ s.tasks, task.holdsPolling = true
  deleting : s.isDeleting = true → ∃ task ∈ s.tasks, task.isDeleting = true

/-- The operation is over and leaves the polling blocked, or the flag set. -/
def GivesUp (s : State) (task : Task) (answer : Answer) : Prop :=
  match task.operation, task.phase, answer with
  | .deleteWallet _, _, .failed => True
  | .deleteWallet walletId, .paused, _ => ∀ wallet ∈ s.all, wallet.id ≠ walletId
  | .deleteWallet _, .patchDeleted index, _ => ∀ result, s.result = some result →
      let patched := { s with result := some (result.eraseIdx index) }
      patched.hasAnyWallets = true ∧ nextWallet patched index = none
  | .restore, .unscramble, .failed => True
  | _, _, _ => False

/-- The operation resumes the polling. -/
def ResumesPolling (s : State) (task : Task) (answer : Answer) : Prop :=
  match task.operation, task.phase, answer with
  | .deleteWallet _, .unsetHardwareWalletLocalData, .done => True
  | .restore, .restoreWallet, .noWallet | .restore, .restoreWallet, .failed => True
  | .createHardwareWallet, .createHardwareWallet, .noWallet => True
  | .createHardwareWallet, .patchNewWallet _, .done => s.result ≠ none
  | .createHardwareWallet, _, .failed => True
  | .generateCertificate, .downloadCertificate, .done | .generateCertificate, _, .failed => True
  | .generateCsv, .downloadRewardsCsv, .done | .generateCsv, _, .failed => True
  | _, _, _ => False

def Alone (s : State) : Prop :=
  ∀ task ∈ s.tasks, task.holdsPolling = false

/-- No operation is over without resuming the polling, and none resumes it while another is at work; a
    restore that has succeeded is closed by `restoreWalletEnd`. -/
def InTurn (s : State) : Event → Prop
  | .resume i answer => ∀ task, s.tasks[i]? = some task →
      ¬ GivesUp s task answer ∧ (ResumesPolling s task answer → Alone { s with tasks := s.tasks.eraseIdx i })
  | .restoreWalletEnd => Alone (endRestored s)
  | .restoreWalletClose => closes s = true → ∀ task ∈ s.tasks, task.phase ≠ .restored
  | _ => True

/-! ## What a task can do -/

/-- The operation goes on to its next await. -/
structure GoesOn (s : State) (task next : Task) (s' : State) : Prop where
  tasks : s'.tasks = s.tasks ++ [next]
  pollingBlocked : s'.pollingBlocked = s.pollingBlocked
  holdsPolling : next.holdsPolling = task.holdsPolling
  isDeleting : s'.isDeleting = true → s.isDeleting = true ∧ (task.isDeleting = true → next.isDeleting = true)

/-- The polling is paused, and the operation goes on. -/
structure Pauses (s : State) (task next : Task) (s' : State) : Prop where
  tasks : s'.tasks = s.tasks ++ [next]
  pollingBlocked : s'.pollingBlocked = true
  holdsPolling : next.holdsPolling = true
  isDeleting : s'.isDeleting = true → s.isDeleting = true ∧ (task.isDeleting = true → next.isDeleting = true)

/-- The operation is over. -/
structure IsOver (s : State) (task : Task) (s' : State) : Prop where
  tasks : s'.tasks = s.tasks
  isDeleting : s'.isDeleting = s.isDeleting
  task : task.isDeleting = false

/-- Everything that a task which does not give up can do. -/
def Outcome (s : State) (task : Task) (answer : Answer) (s' : State) : Prop :=
  (∃ next, Pauses s task next s' ∨ GoesOn s task next s') ∨
    IsOver s task s' ∧
      (ResumesPolling s task answer ∧ s'.pollingBlocked = false ∨
        task.holdsPolling = false ∧ s'.pollingBlocked = s.pollingBlocked)

theorem refreshWalletsData_fields (s : State) :
    (refreshWalletsData s).tasks = s.tasks ∧
      (refreshWalletsData s).pollingBlocked = s.pollingBlocked ∧
      (refreshWalletsData s).isDeleting = s.isDeleting := by
  unfold refreshWalletsData
  split <;> exact ⟨rfl, rfl, rfl⟩

theorem outcome_pause {operation : Operation} (hoperation : operation ≠ .restoreWalletEnd) :
    Outcome s ⟨operation, .pausing⟩ answer (pausePolling s operation) := by
  refine .inl ⟨_, .inl ⟨rfl, rfl, ?_, fun hdeleting => ⟨hdeleting, ?_⟩⟩⟩
  · cases operation with
    | restoreWalletEnd => exact absurd rfl hoperation
    | _ => rfl
  · cases operation with
    | deleteWallet walletId => exact fun _ => rfl
    | _ => exact fun hnot => nomatch hnot

theorem outcome_await {operation : Operation} {phase next : Phase}
    (hholds : Task.holdsPolling ⟨operation, next⟩ = Task.holdsPolling ⟨operation, phase⟩)
    (hdeleting : Task.isDeleting ⟨operation, phase⟩ = true → Task.isDeleting ⟨operation, next⟩ = true)
    (htasks : s'.tasks = s.tasks) (hblocked : s'.pollingBlocked = s.pollingBlocked)
    (hflag : s'.isDeleting = s.isDeleting) :
    Outcome s ⟨operation, phase⟩ answer (s'.await operation next) := by
  refine .inl ⟨⟨operation, next⟩, .inr ⟨?_, hblocked, hholds, fun h => ⟨hflag ▸ h, hdeleting⟩⟩⟩
  show s'.tasks ++ _ = _
  rw [htasks]

theorem outcome_resumePolling (hresumes : ResumesPolling s task answer)
    (hnot : task.isDeleting = false) : Outcome s task answer (resumePolling s) :=
  .inr ⟨⟨rfl, rfl, hnot⟩, .inl ⟨hresumes, rfl⟩⟩

theorem outcome_refresh (hresumes : ResumesPolling s task answer) (hnot : task.isDeleting = false)
    (htasks : s'.tasks = s.tasks) (hblocked : s'.pollingBlocked = false)
    (hflag : s'.isDeleting = s.isDeleting) : Outcome s task answer (refreshWalletsData s') := by
  obtain ⟨htasks', hblocked', hflag'⟩ := refreshWalletsData_fields s'
  exact .inr ⟨⟨htasks'.trans htasks, hflag'.trans hflag, hnot⟩, .inl ⟨hresumes, hblocked'.trans hblocked⟩⟩

theorem outcome_walletDeleted {walletId : String} {index : ℕ}
    (hkeeps : ¬ GivesUp s ⟨.deleteWallet walletId, .patchDeleted index⟩ answer) :
    Outcome s ⟨.deleteWallet walletId, .patchDeleted index⟩ answer (walletDeleted s walletId index) := by
  unfold walletDeleted
  split
  · exact outcome_await rfl (fun _ => rfl) rfl rfl rfl
  · next result hresult =>
      dsimp only
      split
      · next hmissing =>
          refine absurd ?_ hkeeps
          rw [Bool.and_eq_true, Option.isNone_iff_eq_none] at hmissing
          cases answer with
          | failed => trivial
          | _ =>
              intro other hother
              rw [hresult] at hother
              obtain rfl := Option.some.inj hother
              exact hmissing
      · exact .inl ⟨_, .inr ⟨rfl, rfl, rfl, fun h => nomatch h⟩⟩

theorem outcome_deleteWallet {walletId : String} {phase : Phase}
    (hs : resumeDeleteWallet s walletId phase answer = some s')
    (hkeeps : ¬ GivesUp s ⟨.deleteWallet walletId, phase⟩ answer) :
    Outcome s ⟨.deleteWallet walletId, phase⟩ answer s' := by
  cases answer with
  | failed => exact absurd trivial hkeeps
  | done =>
      cases phase with
      | pausing =>
          obtain rfl := Option.some.inj hs
          exact outcome_pause (fun h => nomatch h)
      | paused =>
          obtain rfl := Option.some.inj hs
          cases hfound : s.all.findIdx? fun wallet => wallet.id = walletId with
          | none =>
              refine absurd ?_ hkeeps
              intro wallet hmem
              simpa using List.findIdx?_eq_none_iff.1 hfound wallet hmem
          | some index => exact outcome_await rfl (fun _ => rfl) rfl rfl rfl
      | deleteWallet index =>
          obtain rfl := Option.some.inj hs
          exact outcome_await rfl (fun _ => rfl) rfl rfl rfl
      | patchDeleted index =>
          obtain rfl := Option.some.inj hs
          exact outcome_walletDeleted hkeeps
      | unsetHardwareWalletLocalData =>
          obtain rfl := Option.some.inj hs
          exact outcome_refresh trivial rfl rfl rfl rfl
      | _ => cases hs
  | _ => cases phase <;> cases hs

theorem outcome_restore {phase : Phase} (hs : resumeRestore s phase answer = some s')
    (hkeeps : ¬ GivesUp s ⟨.restore, phase⟩ answer) : Outcome s ⟨.restore, phase⟩ answer s' := by
  cases phase with
  | pausing =>
      cases answer with
      | done =>
          obtain rfl := Option.some.inj hs
          exact outcome_pause (fun h => nomatch h)
      | failed =>
          obtain rfl := Option.some.inj hs
          exact .inr ⟨⟨rfl, rfl, rfl⟩, .inr ⟨rfl, rfl⟩⟩
      | _ => cases hs
  | paused =>
      cases answer with
      | done =>
          obtain rfl := Option.some.inj hs
          refine outcome_await ?_ (fun h => nomatch h) rfl rfl rfl
          split <;> rfl
      | _ => cases hs
  | unscramble =>
      cases answer with
      | done =>
          obtain rfl := Option.some.inj hs
          exact outcome_await rfl (fun h => nomatch h) rfl rfl rfl
      | failed => exact absurd trivial hkeeps
      | _ => cases hs
  | restoreWallet =>
      cases answer with
      | done => cases hs
      | wallet wallet =>
          obtain rfl := Option.some.inj hs
          exact outcome_await rfl (fun h => nomatch h) rfl rfl rfl
      | _ =>
          obtain rfl := Option.some.inj hs
          exact outcome_resumePolling trivial rfl
  | _ => cases answer <;> cases hs

theorem outcome_restoreWalletEnd {phase : Phase}
    (hs : resumeRestoreWalletEnd s phase answer = some s') :
    Outcome s ⟨.restoreWalletEnd, phase⟩ answer s' := by
  cases phase with
  | patchNewWallet wallet =>
      cases answer with
      | done =>
          obtain rfl := Option.some.inj hs
          split
          · exact outcome_await rfl (fun h => nomatch h) rfl rfl rfl
          · next result hresult =>
              obtain ⟨htasks, hblocked, hflag⟩ := refreshWalletsData_fields
                { s with result := some (addNewWallet wallet result) }
              exact .inr ⟨⟨htasks, hflag, rfl⟩, .inr ⟨rfl, hblocked⟩⟩
      | _ => cases hs
  | _ => cases answer <;> cases hs

theorem outcome_createHardwareWallet {phase : Phase}
    (hs : resumeCreateHardwareWallet s phase answer = some s') :
    Outcome s ⟨.createHardwareWallet, phase⟩ answer s' := by
  cases answer with
  | failed =>
      cases phase with
      | pausing | createHardwareWallet | setHardwareWalletLocalData wallet
      | setHardwareWalletDevice wallet =>
          obtain rfl := Option.some.inj hs
          exact outcome_resumePolling trivial rfl
      | _ => cases hs
  | done =>
      cases phase with
      | pausing =>
          obtain rfl := Option.some.inj hs
          exact outcome_pause (fun h => nomatch h)
      | patchNewWallet wallet =>
          obtain rfl := Option.some.inj hs
          split
          · exact outcome_await rfl (fun h => nomatch h) rfl rfl rfl
          · next result hresult =>
              obtain ⟨htasks, _, hflag⟩ := refreshWalletsData_fields
                { s with result := some (addNewWallet wallet result) }
              refine .inr ⟨⟨htasks, hflag, rfl⟩, .inl ⟨?_, rfl⟩⟩
              show s.result ≠ none
              rw [hresult]
              exact fun h => nomatch h
      | paused | setHardwareWalletLocalData wallet | setHardwareWalletDevice wallet =>
          obtain rfl := Option.some.inj hs
          exact outcome_await rfl (fun h => nomatch h) rfl rfl rfl
      | _ => cases hs
  | wallet wallet =>
      cases phase with
      | createHardwareWallet =>
          obtain rfl := Option.some.inj hs
          exact outcome_await rfl (fun h => nomatch h) rfl rfl rfl
      | _ => cases hs
  | noWallet =>
      cases phase with
      | createHardwareWallet =>
          obtain rfl := Option.some.inj hs
          exact outcome_resumePolling trivial rfl
      | _ => cases hs

theorem outcome_generateCertificate {phase : Phase}
    (hs : resumeGenerateCertificate s phase answer = some s') :
    Outcome s ⟨.generateCertificate, phase⟩ answer s' := by
  cases answer with
  | failed =>
      cases phase with
      | pausing | walletRecoveryPhrase | additionalMnemonics | certificateRecoveryPhrase
      | createPaperWallet | walletAddresses wallet | deletePaperWallet | downloadCertificate =>
          obtain rfl := Option.some.inj hs
          exact outcome_resumePolling trivial rfl
      | _ => cases hs
  | done =>
      cases phase with
      | pausing =>
          obtain rfl := Option.some.inj hs
          exact outcome_pause (fun h => nomatch h)
      | downloadCertificate =>
          obtain rfl := Option.some.inj hs
          exact outcome_resumePolling trivial rfl
      | paused | walletRecoveryPhrase | additionalMnemonics | certificateRecoveryPhrase
      | walletAddresses wallet | deletePaperWallet =>
          obtain rfl := Option.some.inj hs
          exact outcome_await rfl (fun h => nomatch h) rfl rfl rfl
      | _ => cases hs
  | _ =>
      cases phase with
      | createPaperWallet =>
          obtain rfl := Option.some.inj hs
          exact outcome_await rfl (fun h => nomatch h) rfl rfl rfl
      | _ => cases hs

theorem outcome_generateCsv {phase : Phase} (hs : resumeGenerateCsv s phase answer = some s') :
    Outcome s ⟨.generateCsv, phase⟩ answer s' := by
  cases answer with
  | failed =>
      cases phase with
      | pausing | downloadRewardsCsv =>
          obtain rfl := Option.some.inj hs
          exact outcome_resumePolling trivial rfl
      | _ => cases hs
  | done =>
      cases phase with
      | pausing =>
          obtain rfl := Option.some.inj hs
          exact outcome_pause (fun h => nomatch h)
      | paused =>
          obtain rfl := Option.some.inj hs
          exact outcome_await rfl (fun h => nomatch h) rfl rfl rfl
      | downloadRewardsCsv =>
          obtain rfl := Option.some.inj hs
          exact outcome_resumePolling trivial rfl
      | _ => cases hs
  | _ => cases phase <;> cases hs

theorem outcome_of_resume (hs : resume s task answer = some s') (hkeeps : ¬ GivesUp s task answer) :
    Outcome s task answer s' := by
  obtain ⟨operation, phase⟩ := task
  cases operation with
  | deleteWallet walletId => exact outcome_deleteWallet hs hkeeps
  | restore => exact outcome_restore hs hkeeps
  | restoreWalletEnd => exact outcome_restoreWalletEnd hs
  | createHardwareWallet => exact outcome_createHardwareWallet hs
  | generateCertificate => exact outcome_generateCertificate hs
  | generateCsv => exact outcome_generateCsv hs

/-! ## Steps -/

theorem pollingLock_init : PollingLock machine.init where
  blocked := by simp [machine]
  deleting h := nomatch h

/-- The tasks before a task went on are the task and the others. -/
theorem exists_task_iff {i : ℕ} (hi : s.tasks[i]? = some task) (p : Task → Bool) :
    (∃ t ∈ s.tasks, p t = true) ↔ p task = true ∨ ∃ t ∈ s.tasks.eraseIdx i, p t = true := by
  constructor
  · rintro ⟨t, hmem, ht⟩
    rcases List.mem_cons.1 ((List.perm_cons_eraseIdx hi).mem_iff.2 hmem) with rfl | hmem
    · exact .inl ht
    · exact .inr ⟨t, hmem, ht⟩
  · rintro (ht | ⟨t, hmem, ht⟩)
    · exact ⟨task, List.mem_of_getElem? hi, ht⟩
    · exact ⟨t, List.mem_of_mem_eraseIdx hmem, ht⟩

theorem exists_task_append {tasks : List Task} {next : Task} {p : Task → Bool} :
    (∃ t ∈ tasks ++ [next], p t = true) ↔ p next = true ∨ ∃ t ∈ tasks, p t = true := by
  simp only [List.mem_append, List.mem_singleton, or_and_right, exists_or, exists_eq_left]
  exact Or.comm

theorem PollingLock.resume (h : PollingLock s) {i : ℕ} (hi : s.tasks[i]? = some task)
    (hturn : InTurn s (.resume i answer))
    (hs : resume { s with tasks := s.tasks.eraseIdx i } task answer = some s') : PollingLock s' := by
  obtain ⟨hkeeps, halone⟩ := hturn task hi
  have hholds := exists_task_iff hi Task.holdsPolling
  have hdeleting := exists_task_iff hi Task.isDeleting
  rcases outcome_of_resume hs hkeeps with
    ⟨next, hpauses | hgoes⟩ | ⟨hover, ⟨hresumes, hblocked⟩ | ⟨hfree, hblocked⟩⟩
  · refine ⟨?_, fun hflag => ?_⟩
    · rw [hpauses.pollingBlocked, hpauses.tasks, exists_task_append]
      exact ⟨fun _ => .inl hpauses.holdsPolling, fun _ => rfl⟩
    · obtain ⟨hbefore, hnext⟩ := hpauses.isDeleting hflag
      rw [hpauses.tasks, exists_task_append]
      exact (hdeleting.1 (h.deleting hbefore)).imp hnext id
  · refine ⟨?_, fun hflag => ?_⟩
    · rw [hgoes.pollingBlocked, hgoes.tasks, exists_task_append, hgoes.holdsPolling, ← hholds]
      exact h.blocked
    · obtain ⟨hbefore, hnext⟩ := hgoes.isDeleting hflag
      rw [hgoes.tasks, exists_task_append]
      exact (hdeleting.1 (h.deleting hbefore)).imp hnext id
  · refine ⟨?_, fun hflag => ?_⟩
    · rw [hblocked, hover.tasks]
      refine ⟨fun hfalse => (nomatch hfalse), fun ⟨t, hmem, ht⟩ => ?_⟩
      rw [halone hresumes t hmem] at ht
      cases ht
    · rw [hover.isDeleting] at hflag
      rw [hover.tasks]
      exact (hdeleting.1 (h.deleting hflag)).resolve_left (by simp [hover.task])
  · refine ⟨?_, fun hflag => ?_⟩
    · rw [hblocked, hover.tasks]
      refine h.blocked.trans (hholds.trans (or_iff_right ?_))
      simp [hfree]
    · rw [hover.isDeleting] at hflag
      rw [hover.tasks]
      exact (hdeleting.1 (h.deleting hflag)).resolve_left (by simp [hover.task])

/-- An operation that starts waits for the wallets, or has the polling blocked at once. -/
theorem PollingLock.start (h : PollingLock s) (operation : Operation)
    (hoperation : operation ≠ .restoreWalletEnd) {isDeleting : Bool}
    (hdeleting : isDeleting = true → s.isDeleting = true ∨ Task.isDeleting ⟨operation, .pausing⟩ = true) :
    PollingLock (start { s with isDeleting := isDeleting } operation) := by
  have hpausing : Task.holdsPolling ⟨operation, .pausing⟩ = false := by
    cases operation <;> rfl
  have hpaused : Task.holdsPolling ⟨operation, .paused⟩ = true := by
    cases operation with
    | restoreWalletEnd => exact absurd rfl hoperation
    | _ => rfl
  have hsame : Task.isDeleting ⟨operation, .paused⟩ = Task.isDeleting ⟨operation, .pausing⟩ := by
    cases operation <;> rfl
  unfold WalletsStore.start
  split
  · refine ⟨h.blocked.trans ?_, fun hflag => exists_task_append.2 ?_⟩
    · refine Iff.trans (or_iff_right ?_).symm exists_task_append.symm
      simp [hpausing]
    · rcases hdeleting hflag with hflag | hnew
      · exact .inr (h.deleting hflag)
      · exact .inl hnew
  · refine ⟨⟨fun _ => exists_task_append.2 (.inl hpaused), fun _ => rfl⟩, fun hflag =>
      exists_task_append.2 ?_⟩
    rcases hdeleting hflag with hflag | hnew
    · exact .inr (h.deleting hflag)
    · exact .inl (hsame.trans hnew)

theorem PollingLock.of_same (h : PollingLock s) (htasks : s'.tasks = s.tasks)
    (hblocked : s'.pollingBlocked = s.pollingBlocked) (hdeleting : s'.isDeleting = s.isDeleting) :
    PollingLock s' := by
  refine ⟨?_, ?_⟩
  · rw [hblocked, htasks]
    exact h.blocked
  · rw [hdeleting, htasks]
    exact h.deleting

/-- No deletion is taken off the tasks with the restores that have succeeded. -/
theorem PollingLock.deleting_endRestored (h : PollingLock s) (hflag : s.isDeleting = true) :
    ∃ t ∈ (endRestored s).tasks, t.isDeleting = true := by
  obtain ⟨⟨operation, phase⟩, hmem, ht⟩ := h.deleting hflag
  refine ⟨_, List.mem_filter.2 ⟨hmem, decide_eq_true ?_⟩, ht⟩
  rintro rfl
  cases operation <;> cases ht

theorem PollingLock.restoreWalletEnd (h : PollingLock s) (halone : Alone (endRestored s)) :
    PollingLock (restoreWalletEnd s) := by
  have hresumed : PollingLock (resumePolling (endRestored s)) := by
    refine ⟨⟨fun hfalse => (nomatch hfalse), fun ⟨t, hmem, ht⟩ => ?_⟩, h.deleting_endRestored⟩
    rw [halone t hmem] at ht
    cases ht
  unfold WalletsStore.restoreWalletEnd
  split
  · exact hresumed
  · refine ⟨hresumed.blocked.trans ?_, fun hflag => ?_⟩
    · refine Iff.trans (or_iff_right ?_).symm exists_task_append.symm
      exact fun hholds => nomatch hholds
    · exact exists_task_append.2 (.inr (hresumed.deleting hflag))

theorem PollingLock.restoreWalletClose (h : PollingLock s)
    (hnone : closes s = true → ∀ task ∈ s.tasks, task.phase ≠ .restored) :
    PollingLock (restoreWalletClose s) := by
  unfold WalletsStore.restoreWalletClose
  split
  · next hcloses =>
      have htasks : (endRestored s).tasks = s.tasks :=
        List.filter_eq_self.2 fun task hmem => decide_eq_true (hnone hcloses task hmem)
      exact h.of_same htasks rfl rfl
  · exact h.of_same rfl rfl rfl

theorem PollingLock.step (h : PollingLock s) (hturn : InTurn s e) (hs : step s e = some s') :
    PollingLock s' := by
  cases e with
  | deleteWallet walletId =>
      obtain rfl := Option.some.inj hs
      exact h.start (.deleteWallet walletId) (fun hnot => nomatch hnot) fun _ => .inr rfl
  | restore =>
      obtain rfl := Option.some.inj hs
      exact h.start .restore (fun hnot => nomatch hnot) fun hflag => .inl hflag
  | createHardwareWallet =>
      obtain rfl := Option.some.inj hs
      exact h.start .createHardwareWallet (fun hnot => nomatch hnot) fun hflag => .inl hflag
  | generateCertificate =>
      obtain rfl := Option.some.inj hs
      exact h.start .generateCertificate (fun hnot => nomatch hnot) fun hflag => .inl hflag
  | generateCsv =>
      obtain rfl := Option.some.inj hs
      exact h.start .generateCsv (fun hnot => nomatch hnot) fun hflag => .inl hflag
  | resume i answer =>
      obtain ⟨task, hi, hs⟩ := Option.bind_eq_some_iff.1 hs
      exact h.resume hi hturn hs
  | restoreWalletEnd =>
      obtain rfl := Option.some.inj hs
      exact h.restoreWalletEnd hturn
  | restoreWalletClose =>
      obtain rfl := Option.some.inj hs
      exact h.restoreWalletClose hturn
  | restoreWalletChangeStep isBack =>
      obtain rfl := Option.some.inj hs
      unfold restoreWalletChangeStep
      dsimp only
      split <;> exact h.of_same rfl rfl rfl
  | refreshWalletsData =>
      obtain rfl := Option.some.inj hs
      obtain ⟨htasks, hblocked, hdeleting⟩ := refreshWalletsData_fields s
      exact h.of_same htasks hblocked hdeleting
  | _ =>
      obtain rfl := Option.some.inj hs
      exact h.of_same rfl rfl rfl

/-- **The polling is blocked exactly while an operation is at work**, in every run in which no operation is
    over without resuming it, none resumes it while another is at work, and a restore that has succeeded is
    closed by `restoreWalletEnd`. -/
theorem pollingLock_of_inTurn (hr : machine.Reaches InTurn s) : PollingLock s :=
  hr.invariant pollingLock_init fun _ _ _ _ hok h hs => h.step hok hs

theorem inTurn_resume {i : ℕ} (hi : s.tasks[i]? = some task) (hkeeps : ¬ GivesUp s task answer)
    (halone : ResumesPolling s task answer → Alone { s with tasks := s.tasks.eraseIdx i }) :
    InTurn s (.resume i answer) := by
  intro other hother
  rw [hi] at hother
  obtain rfl := Option.some.inj hother
  exact ⟨hkeeps, halone⟩

/-- A wallet is deleted while the wallets are loaded, and another one is restored. -/
def deletedAndRestored : List Event :=
  [.walletsRequest (some [⟨"first", false⟩, ⟨"second", false⟩]) true true, .deleteWallet "second",
    .resume 0 .done, .resume 0 .done, .resume 0 .done, .resume 0 .done, .resume 0 .done,
    .walletsRequest (some [⟨"first", false⟩]) true false, .restore, .resume 0 .done,
    .resume 0 (.wallet ⟨"third", false⟩), .restoreWalletEnd]

theorem pollingLock_of_deletedAndRestored :
    ∃ s, machine.Reaches InTurn s ∧ s.pollingBlocked = false ∧ PollingLock s := by
  have hsteps : machine.allSteps InTurn machine.init deletedAndRestored := by
    refine ⟨trivial, trivial, ?_, ?_, ?_, ?_, ?_, trivial, trivial, ?_, ?_, ?_, trivial⟩
    · exact inTurn_resume rfl id fun h => h.elim
    · exact inTurn_resume rfl (fun h => h ⟨"second", false⟩ (by decide) rfl) fun h => h.elim
    · exact inTurn_resume rfl id fun h => h.elim
    · exact inTurn_resume rfl (fun h => absurd (h _ rfl).2 (by decide)) fun h => h.elim
    · exact inTurn_resume rfl id fun _ _ hmem => absurd hmem List.not_mem_nil
    · exact inTurn_resume rfl id fun h => h.elim
    · exact inTurn_resume rfl id fun h => h.elim
    · exact fun _ hmem => absurd hmem List.not_mem_nil
  have hr : machine.Reaches InTurn _ := .exec deletedAndRestored .init hsteps rfl
  exact ⟨_, hr, rfl, pollingLock_of_inTurn hr⟩

/-- The deletion of a wallet is refused by the node. -/
def refusedDeletion : List Event :=
  [.walletsRequest (some [⟨"first", false⟩]) true false, .deleteWallet "first", .resume 0 .done,
    .resume 0 .failed]

theorem not_pollingLock_of_refusedDeletion :
    ¬ ∀ s, machine.Reaches Machine.anyStep s → PollingLock s := by
  intro h
  have hr : machine.Reaches Machine.anyStep _ := Machine.reaches_of_exec refusedDeletion rfl
  obtain ⟨task, hmem, _⟩ := (h _ hr).deleting rfl
  exact absurd hmem List.not_mem_nil

end Klarity.WalletsStore
