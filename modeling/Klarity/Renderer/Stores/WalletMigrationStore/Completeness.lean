import Klarity.Renderer.Stores.WalletMigrationStore.Attribution

set_option autoImplicit false

/-! # What a finished migration has restored

A run of restores starts by forgetting what the runs before it have restored and what has failed in them, and
a reset forgets it too. As long as nothing is forgotten that still counts, and the migration is not finished
over a restore that is open or a wallet that is selected, a migration recorded as completed has restored
every wallet that was chosen, and the report lists what was restored. -/

namespace Klarity.WalletMigrationStore

variable {env : Environment} {s s' : State}

/-! ## What is promised -/

/-- A completed migration has restored all that was chosen, and reports list what was restored. -/
structure MigrationComplete (s : State) : Prop where
  records : ∀ record ∈ s.records, record.status = .completed →
    ∀ id ∈ record.chosen, id ∈ record.restored.map (·.1)
  reports : ∀ report ∈ s.reports,
    report.1.restoredWalletsData = report.2.map fun restored => restoredWalletData restored.2

/-- Starting a migration resets the one before. -/
def resetsOnStart (env : Environment) : Bool :=
  env.isAutomaticWalletMigrationEnabled &&
    (env.isMainnet || env.isTestnet || (env.isTest && env.isTestMigrationEnabled))

/-- A run forgets no restored wallet, and tries again what has failed. -/
def RetriesAll (s : State) : Prop :=
  s.restoredWallets = [] ∧
    ∀ failure ∈ s.restorationErrors, failure.wallet.id ∈ (pendingImportWallets s).map (·.id)

def NothingToForget (s : State) : Prop :=
  s.restoredWallets = [] ∧ s.restorationErrors = []

/-- What is forgotten does not count, and a migration that looks successful is finished when nothing is
    open or selected. -/
def KeepsAccount (env : Environment) (s : State) : Event → Prop
  | .nextStep => s.walletMigrationStep = some .walletImportFile ∨ RetriesAll s
  | .resetMigration => NothingToForget s
  | .startMigration => resetsOnStart env = true → NothingToForget s
  | .resume k (.status .running) =>
      s.tasks[k]? = some .finishStatus → succeeded s = true →
        s.restores = [] ∧ pendingImportWallets s = []
  | _ => True

/-! ## The invariant -/

/-- What a wallet that was handed to a restore has come to. -/
def Accounted (s : State) (id : String) : Prop :=
  id ∈ s.migration.restored.map (·.1) ∨ (∃ failure ∈ s.restorationErrors, failure.wallet.id = id) ∨
    ∃ restore ∈ s.restores, restore.exportedWallet.id = id

structure Account (s : State) : Prop where
  complete : MigrationComplete s
  submitted : ∀ id ∈ s.migration.submitted, Accounted s id
  restored : s.restoredWallets = s.migration.restored.map (·.2)

theorem account_init : Account {} :=
  ⟨⟨fun _ h => absurd h List.not_mem_nil, fun _ h => absurd h List.not_mem_nil⟩,
    fun _ h => absurd h List.not_mem_nil, rfl⟩

/-- Nothing of the account changes, apart from the wallets of open restores, which keep their ids. -/
structure SameAccount (s s' : State) : Prop where
  restoredWallets : s'.restoredWallets = s.restoredWallets
  restorationErrors : s'.restorationErrors = s.restorationErrors
  restores : s'.restores.map (·.exportedWallet.id) = s.restores.map (·.exportedWallet.id)
  migration : s'.migration = s.migration
  records : s'.records = s.records
  reports : s'.reports = s.reports

theorem Account.of_same (h : Account s) (hsame : SameAccount s s') : Account s' := by
  refine ⟨⟨?_, ?_⟩, ?_, ?_⟩
  · rw [hsame.records]
    exact h.complete.records
  · rw [hsame.reports]
    exact h.complete.reports
  · intro id hid
    rw [hsame.migration] at hid
    unfold Accounted
    rw [hsame.migration, hsame.restorationErrors]
    rcases h.submitted id hid with hdone | hfailed | ⟨restore, hrestore, rfl⟩
    · exact .inl hdone
    · exact .inr (.inl hfailed)
    · have hmem : restore.exportedWallet.id ∈ s'.restores.map (·.exportedWallet.id) :=
        hsame.restores ▸ List.mem_map.2 ⟨restore, hrestore, rfl⟩
      exact .inr (.inr (List.mem_map.1 hmem))
  · rw [hsame.restoredWallets, hsame.migration]
    exact h.restored

theorem Account.resetMigration (h : Account s) (hforget : NothingToForget s) : Account (resetMigration s) :=
  h.of_same ⟨hforget.1.symm, hforget.2.symm, rfl, rfl, rfl, rfl⟩

theorem Account.migrationFinished (h : Account s) : Account (migrationFinished s) :=
  ⟨⟨h.complete.records, h.complete.reports⟩, fun _ hid => absurd hid List.not_mem_nil, rfl⟩

/-! ## Restores -/

theorem Account.restoreWallets (h : Account s) (hretries : RetriesAll s) : Account (restoreWallets s) := by
  obtain ⟨hnone, hfailed⟩ := hretries
  have hstarted := started_restoreWallets s
  obtain ⟨restores, happend, hwallets⟩ := hstarted.wallets
  have hrestored : s.migration.restored = [] := by
    have hmap := h.restored
    rw [hnone] at hmap
    exact List.map_eq_nil_iff.1 hmap.symm
  have hpending : ∀ id ∈ (pendingImportWallets s).map (·.id), Accounted (WalletMigrationStore.restoreWallets s) id := by
    intro id hid
    rw [← hwallets, List.map_map] at hid
    obtain ⟨restore, hrestore, rfl⟩ := List.mem_map.1 hid
    exact .inr (.inr ⟨restore, happend ▸ List.mem_append.2 (.inr hrestore), rfl⟩)
  refine ⟨⟨?_, ?_⟩, ?_, ?_⟩
  · rw [hstarted.records]
    exact h.complete.records
  · rw [hstarted.reports]
    exact h.complete.reports
  · intro id hid
    rw [hstarted.migration] at hid
    rcases List.mem_append.1 hid with hid | hid
    · rcases h.submitted id hid with hdone | ⟨failure, hfailure, rfl⟩ | ⟨restore, hrestore, rfl⟩
      · rw [hrestored] at hdone
        exact absurd hdone List.not_mem_nil
      · exact hpending _ (hfailed failure hfailure)
      · exact .inr (.inr ⟨restore, happend ▸ List.mem_append.2 (.inl hrestore), rfl⟩)
    · exact hpending id hid
  · rw [hstarted.restored, hstarted.migration]
    show [] = s.migration.restored.map _
    rw [hrestored]
    rfl

/-- The other restores are still open when one of them goes on. -/
theorem mem_restores_of_ne {k : ℕ} {restore other : Restore} (hk : s.restores[k]? = some restore)
    (hother : other ∈ s.restores) (hne : other.exportedWallet.id ≠ restore.exportedWallet.id) :
    other ∈ s.restores.eraseIdx k :=
  List.mem_eraseIdx_of_ne hk hother fun heq => hne (congrArg (·.exportedWallet.id) heq)

theorem Account.walletRestored (h : Account s) {k : ℕ} {restore : Restore}
    (hk : s.restores[k]? = some restore) (restoredWallet : RestoredWallet) :
    Account (walletRestored { s with restores := s.restores.eraseIdx k } restore restoredWallet) := by
  refine ⟨⟨h.complete.records, h.complete.reports⟩, ?_, ?_⟩
  · intro id hid
    have hown : restore.exportedWallet.id ∈
        (s.migration.restored ++ [(restore.exportedWallet.id, restoredWallet)]).map (·.1) :=
      List.mem_map.2 ⟨_, List.mem_append.2 (.inr (List.mem_singleton_self _)), rfl⟩
    rcases h.submitted id hid with hdone | hfailed | ⟨other, hother, rfl⟩
    · refine .inl ?_
      show id ∈ (s.migration.restored ++ _).map _
      rw [List.map_append]
      exact List.mem_append.2 (.inl hdone)
    · exact .inr (.inl hfailed)
    · by_cases hne : other.exportedWallet.id = restore.exportedWallet.id
      · rw [hne]
        exact .inl hown
      · exact .inr (.inr ⟨other, mem_restores_of_ne hk hother hne, rfl⟩)
  · show s.restoredWallets ++ _ = (s.migration.restored ++ _).map _
    rw [List.map_append, h.restored]
    rfl

theorem Account.restoreFailed (h : Account s) {k : ℕ} {restore : Restore}
    (hk : s.restores[k]? = some restore) (error : RestorationError) :
    Account (restoreFailed { s with restores := s.restores.eraseIdx k } restore error) := by
  refine ⟨⟨h.complete.records, h.complete.reports⟩, fun id hid => ?_, h.restored⟩
  have hkept : ∀ failure ∈ s.restorationErrors, failure ∈ s.restorationErrors ++
      [⟨error, exportedWalletData restore.exportedWallet⟩] :=
    fun _ hfailure => List.mem_append.2 (.inl hfailure)
  rcases h.submitted id hid with hdone | ⟨failure, hfailure, rfl⟩ | ⟨other, hother, rfl⟩
  · exact .inl hdone
  · exact .inr (.inl ⟨failure, hkept failure hfailure, rfl⟩)
  · by_cases hne : other.exportedWallet.id = restore.exportedWallet.id
    · rw [hne]
      exact .inr (.inl ⟨_, List.mem_append.2 (.inr (List.mem_singleton_self _)), rfl⟩)
    · exact .inr (.inr ⟨other, mem_restores_of_ne hk hother hne, rfl⟩)

/-- A restore that has gone on is accounted for by what it has left. -/
theorem Account.restoreEnded (h : Account s) {k : ℕ} {restore : Restore}
    (hk : s.restores[k]? = some restore)
    (outcome : Except RestorationError (Option RestoredWallet)) :
    Account (restoreEnded { s with restores := s.restores.eraseIdx k } restore outcome) := by
  unfold WalletMigrationStore.restoreEnded
  split
  · exact h.walletRestored hk _
  · exact h.restoreFailed hk _

/-! ## Finishing -/

theorem Account.record (h : Account s) (status : WalletMigrationStatus)
    (hcompleted : status = .completed →
      ∀ id ∈ chosen s, id ∈ s.migration.restored.map (·.1)) : Account (record s status) := by
  refine ⟨⟨?_, h.complete.reports⟩, h.submitted, h.restored⟩
  intro entry hentry hstatus
  rcases List.mem_append.1 hentry with hold | hnew
  · exact h.complete.records entry hold hstatus
  · obtain rfl := List.mem_singleton.1 hnew
    exact hcompleted hstatus

/-- What looks successful has restored what was chosen, when nothing is open or selected. -/
theorem Account.chosen_restored (h : Account s) (hsucceeded : succeeded s = true) (hopen : s.restores = [])
    (hpending : pendingImportWallets s = []) :
    ∀ id ∈ chosen s, id ∈ s.migration.restored.map (·.1) := by
  intro id hid
  unfold chosen at hid
  rw [hpending, List.map_nil, List.append_nil] at hid
  have hnone : s.restorationErrors = [] :=
    List.isEmpty_iff.1 (Bool.and_eq_true_iff.1 hsucceeded).2
  rcases h.submitted id hid with hdone | ⟨failure, hfailure, _⟩ | ⟨restore, hrestore, _⟩
  · exact hdone
  · rw [hnone] at hfailure
    exact absurd hfailure List.not_mem_nil
  · rw [hopen] at hrestore
    exact absurd hrestore List.not_mem_nil

theorem Account.report (h : Account s) (status : WalletMigrationStatus) :
    Account { s with
      reports := s.reports ++ [(generateMigrationReport s status, s.migration.restored)] } := by
  refine ⟨⟨h.complete.records, ?_⟩, h.submitted, h.restored⟩
  intro report hreport
  rcases List.mem_append.1 hreport with hold | hnew
  · exact h.complete.reports report hold
  · obtain rfl := List.mem_singleton.1 hnew
    show s.restoredWallets.map restoredWalletData = _
    rw [h.restored, List.map_map]
    rfl

/-! ## Runs -/

theorem sameAccount_await (s : State) (phase : Phase) : SameAccount s (s.await phase) :=
  ⟨rfl, rfl, rfl, rfl, rfl, rfl⟩

theorem Account.await (h : Account s) (phase : Phase) : Account (s.await phase) :=
  h.of_same (sameAccount_await s phase)

theorem sameAccount_afterExport (s : State) (caller : ExportCaller) :
    SameAccount s (afterExport s caller) := by
  cases caller with
  | nextStep =>
      simp only [afterExport]
      split <;> exact ⟨rfl, rfl, rfl, rfl, rfl, rfl⟩
  | startMigration =>
      simp only [afterExport]
      split
      · exact sameAccount_await s .finishStatus
      · exact ⟨rfl, rfl, rfl, rfl, rfl, rfl⟩

theorem sameAccount_toggle (s : State) (index : ℕ) :
    SameAccount s (toggleWalletImportSelection s index) := by
  unfold toggleWalletImportSelection
  split <;> exact ⟨rfl, rfl, rfl, rfl, rfl, rfl⟩

theorem sameAccount_updateWalletName (s : State) (index : ℕ) (name : String) :
    SameAccount s (updateWalletName s index name) := by
  unfold updateWalletName
  split
  · exact ⟨rfl, rfl, rfl, rfl, rfl, rfl⟩
  · refine ⟨rfl, rfl, ?_, rfl, rfl, rfl⟩
    show (s.restores.map _).map _ = _
    rw [List.map_map]
    refine List.map_congr_left fun restore _ => ?_
    simp only [Function.comp_apply]
    split <;> rfl

theorem Account.resume (h : Account s) {phase : Phase} {answer : Answer}
    (hfinish : phase = .finishStatus → answer = .status .running → succeeded s = true →
      s.restores = [] ∧ pendingImportWallets s = [])
    (hs : resume s phase answer = some s') : Account s' := by
  unfold WalletMigrationStore.resume at hs
  split at hs <;> cases hs
  · next caller wallets errors all =>
      have hexported : Account (exported s wallets errors all) :=
        h.of_same ⟨rfl, rfl, rfl, rfl, rfl, rfl⟩
      exact hexported.of_same (sameAccount_afterExport _ caller)
  · exact h
  · split
    · exact h.await _
    · exact h
  · exact h
  · exact (h.record .running fun hstatus => nomatch hstatus).await _
  · exact h
  · exact h.of_same ⟨rfl, rfl, rfl, rfl, rfl, rfl⟩
  · exact h
  · next status =>
      by_cases hrunning : status = .running
      · rw [if_pos hrunning]
        refine (h.record _ ?_).await _
        intro hstatus
        have hsucceeded : succeeded s = true := by
          by_contra hfailed
          rw [if_neg hfailed] at hstatus
          cases hstatus
        obtain ⟨hopen, hpending⟩ := hfinish rfl (congrArg Answer.status hrunning) hsucceeded
        exact h.chosen_restored hsucceeded hopen hpending
      · rw [if_neg hrunning]
        exact h.migrationFinished
  · exact h
  · exact h.await _
  · exact h
  · exact (h.report _).await _
  · exact h
  · exact h.migrationFinished
  · exact h.migrationFinished

theorem Account.startMigration (h : Account s)
    (hforget : resetsOnStart env = true → NothingToForget s) : Account (startMigration env s) := by
  unfold WalletMigrationStore.startMigration
  by_cases hoff : env.isAutomaticWalletMigrationEnabled = true
  · rw [hoff, Bool.not_true, if_neg Bool.false_ne_true]
    split
    · next hnetwork =>
        have hresets : resetsOnStart env = true := by
          rw [resetsOnStart, hoff, hnetwork]
          rfl
        exact (h.resetMigration (hforget hresets)).await _
    · exact h.record .skipped fun hstatus => nomatch hstatus
  · rw [Bool.not_eq_true] at hoff
    rw [hoff, Bool.not_false, if_pos rfl]
    exact h

theorem Account.nextStep (h : Account s)
    (hretries : s.walletMigrationStep = some .walletImportFile ∨ RetriesAll s) : Account (nextStep s) := by
  unfold WalletMigrationStore.nextStep
  split
  · exact h.of_same ⟨rfl, rfl, rfl, rfl, rfl, rfl⟩
  · next hstep => exact h.restoreWallets (hretries.resolve_left hstep)

theorem Account.step (h : Account s) {e : Event} (hok : KeepsAccount env s e)
    (hs : step env s e = some s') : Account s' := by
  cases e with
  | initiateMigration => cases hs; exact h.of_same ⟨rfl, rfl, rfl, rfl, rfl, rfl⟩
  | startMigration => cases hs; exact h.startMigration hok
  | finishMigration => cases hs; exact h.await _
  | resetMigration => cases hs; exact h.resetMigration hok
  | toggleWalletImportSelection index => cases hs; exact h.of_same (sameAccount_toggle s index)
  | updateWalletName index name => cases hs; exact h.of_same (sameAccount_updateWalletName s index name)
  | nextStep => cases hs; exact h.nextStep hok
  | selectExportSourcePath filePath => cases hs; exact h.of_same ⟨rfl, rfl, rfl, rfl, rfl, rfl⟩
  | resetExportSourcePath => cases hs; exact h.of_same ⟨rfl, rfl, rfl, rfl, rfl, rfl⟩
  | tick i =>
      obtain ⟨request, _, hs⟩ := Option.bind_eq_some_iff.1 hs
      cases hs
      exact h.of_same ⟨rfl, rfl, rfl, rfl, rfl, rfl⟩
  | respond i outcome =>
      obtain ⟨request, _, hs⟩ := Option.bind_eq_some_iff.1 hs
      cases hs
      exact h.of_same ⟨rfl, rfl, rfl, rfl, rfl, rfl⟩
  | resumeRestore k =>
      obtain ⟨restore, hk, hs⟩ := Option.bind_eq_some_iff.1 hs
      obtain ⟨outcome, _, hs⟩ := Option.bind_eq_some_iff.1 hs
      cases hs
      exact h.restoreEnded hk outcome
  | endRestoration run =>
      obtain ⟨_, hs⟩ := Option.ite_none_right_eq_some.1 hs
      cases hs
      exact h.of_same ⟨rfl, rfl, rfl, rfl, rfl, rfl⟩
  | resume k answer =>
      obtain ⟨phase, hk, hs⟩ := Option.bind_eq_some_iff.1 hs
      have hrest : Account { s with tasks := s.tasks.eraseIdx k } :=
        h.of_same ⟨rfl, rfl, rfl, rfl, rfl, rfl⟩
      refine hrest.resume ?_ hs
      rintro rfl rfl
      exact hok hk

/-- In runs that forget nothing that counts, a completed migration has restored all that was chosen and the
    report lists what was restored. -/
theorem migrationComplete_of_keepsAccount (env : Environment) {s : State}
    (hr : (machine env).Reaches (KeepsAccount env) s) : MigrationComplete s :=
  (hr.invariant (P := Account) account_init fun _ _ _ _ hok h hs => h.step hok hs).complete

/-- Two wallets are exported, named, selected and restored in one run. -/
def bothRestored : List Event :=
  [.initiateMigration, .nextStep,
    .resume 0 (.exported [⟨"key", none, "a", "hash", true⟩, ⟨"key", none, "b", "hash", true⟩] "" []),
    .updateWalletName 1 "A", .toggleWalletImportSelection 1, .updateWalletName 2 "B",
    .toggleWalletImportSelection 2, .nextStep, .tick 0, .tick 1,
    .respond 0 (.ok (some ⟨"legacy_a", "A", false⟩)), .resumeRestore 0,
    .respond 1 (.ok (some ⟨"legacy_b", "B", false⟩)), .resumeRestore 0, .endRestoration 0,
    .finishMigration, .resume 0 (.status .running), .resume 0 .done, .resume 0 (.status .completed)]

theorem migrationComplete_of_bothRestored :
    ∃ s, (machine {}).Reaches (KeepsAccount {}) s ∧
      s.records.map (fun record => (record.status, record.chosen)) = [(.completed, ["a", "b"])] ∧
      MigrationComplete s := by
  have hsteps : (machine {}).allSteps (KeepsAccount {}) (machine {}).init bothRestored := by
    refine ⟨trivial, .inl rfl, trivial, trivial, trivial, trivial, trivial, .inr ⟨rfl, ?_⟩, trivial, trivial,
      trivial, trivial, trivial, trivial, trivial, trivial, fun _ _ => ⟨rfl, rfl⟩, trivial, trivial, trivial⟩
    exact fun _ h => absurd h List.not_mem_nil
  have hr : (machine {}).Reaches (KeepsAccount {}) _ := .exec bothRestored .init hsteps rfl
  exact ⟨_, hr, rfl, migrationComplete_of_keepsAccount {} hr⟩

/-- The first wallet fails to be restored, the second is restored in a run of its own, and the migration is
    finished. -/
def failedAndSkipped : List Event :=
  [.initiateMigration, .nextStep,
    .resume 0 (.exported [⟨"key", none, "a", "hash", true⟩, ⟨"key", none, "b", "hash", true⟩] "" []),
    .updateWalletName 1 "A", .toggleWalletImportSelection 1, .nextStep, .tick 0,
    .respond 0 (.error (.localizable ⟨"id", "message"⟩)), .resumeRestore 0, .endRestoration 0,
    .updateWalletName 2 "B", .toggleWalletImportSelection 2, .nextStep, .tick 1,
    .respond 1 (.ok (some ⟨"legacy_b", "B", false⟩)), .resumeRestore 0, .endRestoration 1,
    .finishMigration, .resume 0 (.status .running)]

theorem not_migrationComplete_of_failedAndSkipped :
    ¬ ∀ s, (machine {}).Reaches Machine.anyStep s → MigrationComplete s := by
  intro hcomplete
  have hr := Machine.reaches_of_exec (M := machine {}) failedAndSkipped rfl
  have hids := (hcomplete _ hr).records _ (List.mem_singleton_self _) rfl "a" (List.mem_cons_self ..)
  exact absurd hids (by decide)

end Klarity.WalletMigrationStore
