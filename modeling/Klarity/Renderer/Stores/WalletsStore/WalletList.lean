import Mathlib.Data.List.Nodup
import Klarity.Library.Lists
import Klarity.Renderer.Stores.WalletsStore

set_option autoImplicit false

/-! # The list of wallets

The result of `walletsRequest` is replaced by its answers, and patched when a wallet is created, restored or
deleted. A deletion takes the index of its wallet before it calls the API, and removes what stands at that
index afterwards: it removes its own wallet as long as nothing has moved it in between.

`newWallets` are the wallets of `_finishWalletBackup()` and `_importWalletFromFile()`, which do not pause the
polling, between their creation and the timer of their patch. -/

namespace Klarity.WalletsStore

/-! ## The model -/

structure ListState where
  store : State := {}
  newWallets : List ListedWallet := []
  deriving DecidableEq, Repr

/-- `walletsRequest` sets the flags of the request alone. -/
inductive ListEvent
  | operation (event : Event)
  | walletsRequest (wasExecuted isExecuting : Bool)
  | walletsAnswered (wallets legacyWallets : List String)
  | resetWalletsData
  | newWallet (wallet : ListedWallet)
  | patchNewWallet (k : ℕ)
  deriving DecidableEq, Repr

/-- `_createWalletFromServerData()` prefixes the id of a legacy wallet. -/
def createWalletFromServerData (isLegacy : Bool) (id : String) : ListedWallet :=
  ⟨if isLegacy then "legacy_" ++ id else id, isLegacy⟩

/-- The ids of the wallets and of the legacy wallets are those of the answers of the API. -/
def getWallets (wallets legacyWallets : List String) : List ListedWallet :=
  wallets.map (createWalletFromServerData false) ++ legacyWallets.map (createWalletFromServerData true)

/-- The timer of the patch throws where there is no list. -/
def patchWalletRequestWithNewWallet (s : State) (wallet : ListedWallet) : State :=
  { s with result := s.result.map (addNewWallet wallet) }

/-- The answers of `walletsRequest` are events of their own here. -/
def Event.isWalletsRequest : Event → Bool
  | .walletsRequest _ _ _ => true
  | _ => false

def listStep (s : ListState) : ListEvent → Option ListState
  | .operation event =>
      if event.isWalletsRequest then none
      else (step s.store event).map fun store => { s with store := store }
  | .walletsRequest wasExecuted isExecuting =>
      some { s with store := { s.store with wasExecuted := wasExecuted, isExecuting := isExecuting } }
  | .walletsAnswered wallets legacyWallets =>
      some { s with
        store := { s.store with
          result := some (getWallets wallets legacyWallets)
          wasExecuted := true
          isExecuting := false } }
  | .resetWalletsData =>
      some { s with store := { s.store with result := none, wasExecuted := false, isExecuting := false } }
  | .newWallet wallet => some { s with newWallets := s.newWallets ++ [wallet] }
  | .patchNewWallet k => do
      let wallet ← s.newWallets[k]?
      some { s with
        store := patchWalletRequestWithNewWallet s.store wallet
        newWallets := s.newWallets.eraseIdx k }

def listMachine : Machine ListState ListEvent :=
  ⟨{}, listStep⟩

variable {s s' : State} {wallet : ListedWallet} {result : List ListedWallet}

/-! ## What is promised -/

/-- No id twice, and no legacy wallet before one that is not. -/
structure ListIntegrity (result : List ListedWallet) : Prop where
  ids : (result.map (·.id)).Nodup
  legacyLast : result.Pairwise fun a b => a.isLegacy = true → b.isLegacy = true

/-- The wallet that an event adds to the list, unless it is there already. -/
def Patches (s : ListState) (wallet : ListedWallet) : ListEvent → Prop
  | .patchNewWallet k => s.newWallets[k]? = some wallet
  | .operation (.resume i .done) => s.store.tasks[i]? = some ⟨.restoreWalletEnd, .patchNewWallet wallet⟩ ∨
      s.store.tasks[i]? = some ⟨.createHardwareWallet, .patchNewWallet wallet⟩
  | _ => False

/-- The event is the timer of the patch of a deletion. -/
def Deletes (s : ListState) (walletId : String) (index : ℕ) : ListEvent → Prop
  | .operation (.resume i .done) => s.store.tasks[i]? = some ⟨.deleteWallet walletId, .patchDeleted index⟩
  | _ => False

/-- What a patch makes of the list. -/
structure Patched (s s' : ListState) (e : ListEvent) : Prop where
  added : ∀ wallet result, Patches s wallet e → s.store.result = some result →
    ∃ result', s'.store.result = some result' ∧
      (wallet.id ∈ result.map (·.id) → result' = result) ∧
      (wallet.id ∉ result.map (·.id) → result'.Perm (wallet :: result))
  deleted : ∀ walletId index, Deletes s walletId index e → ∃ result, s.store.result = some result ∧
    walletId ∈ result.map (·.id) ∧ s'.store.result = some (result.filter fun listed => listed.id ≠ walletId)

/-- The answers of the API have distinct ids. -/
def DistinctIds (_ : ListState) : ListEvent → Prop
  | .walletsAnswered wallets legacyWallets => ((getWallets wallets legacyWallets).map (·.id)).Nodup
  | _ => True

/-! ## Deletions in flight -/

/-- The wallet and the index of a deletion that has taken its index and not removed it yet. -/
def Task.deletion (task : Task) : Option (String × ℕ) :=
  match task.operation, task.phase with
  | .deleteWallet walletId, .deleteWallet index | .deleteWallet walletId, .patchDeleted index =>
      some (walletId, index)
  | _, _ => none

def Deleting (s : State) (walletId : String) (index : ℕ) : Prop :=
  ∃ task ∈ s.tasks, task.deletion = some (walletId, index)

/-- A new wallet goes behind those that are being deleted. -/
def GoesBehind (s : State) (wallet : ListedWallet) : Prop :=
  ∀ result, s.result = some result →
    wallet.id ∈ result.map (·.id) ∨ wallet.isLegacy = true ∨
      ∀ walletId index, Deleting s walletId index →
        ∀ listed ∈ result, listed.id = walletId → listed.isLegacy = false

/-- The answers of the API have distinct ids, and what changes the list leaves the wallets that are being
    deleted at their indices. -/
def LeavesInPlace (s : ListState) : ListEvent → Prop
  | .walletsAnswered wallets legacyWallets =>
      ((getWallets wallets legacyWallets).map (·.id)).Nodup ∧
        ∀ walletId index, Deleting s.store walletId index →
          (getWallets wallets legacyWallets)[index]?.map (·.id) = some walletId
  | .resetWalletsData => ∀ walletId index, ¬ Deleting s.store walletId index
  | .patchNewWallet k => ∀ wallet, s.newWallets[k]? = some wallet → GoesBehind s.store wallet
  | .operation (.resume i .done) => ∀ task, s.store.tasks[i]? = some task →
      match task.operation, task.phase with
      | .deleteWallet _, .patchDeleted removed =>
          ∀ walletId index, Deleting { s.store with tasks := s.store.tasks.eraseIdx i } walletId index →
            index < removed
      | _, .patchNewWallet wallet => GoesBehind s.store wallet
      | _, _ => True
  | _ => True

/-! ## Lists of wallets -/

theorem legacyLast_getWallets (wallets legacyWallets : List String) :
    (getWallets wallets legacyWallets).Pairwise fun a b => a.isLegacy = true → b.isLegacy = true := by
  refine List.pairwise_append.2 ⟨?_, ?_, ?_⟩
  · exact List.pairwise_map.2 (List.pairwise_of_forall fun _ _ h => nomatch h)
  · exact List.pairwise_map.2 (List.pairwise_of_forall fun _ _ _ => rfl)
  · intro a _ b hb _
    obtain ⟨id, _, rfl⟩ := List.mem_map.1 hb
    rfl

/-- In a list with the legacy wallets last, the wallets are listed in their order. -/
theorem filter_append_filter_of_legacyLast
    (h : result.Pairwise fun a b => a.isLegacy = true → b.isLegacy = true) :
    result.filter (fun wallet => !wallet.isLegacy) ++ result.filter (·.isLegacy) = result := by
  induction result with
  | nil => rfl
  | cons listed result ih =>
      obtain ⟨hhead, htail⟩ := List.pairwise_cons.1 h
      cases hlegacy : listed.isLegacy with
      | false => simp [hlegacy, ih htail]
      | true =>
          have hall : ∀ b ∈ result, b.isLegacy = true := fun b hb => hhead b hb hlegacy
          rw [List.filter_eq_nil_iff.2, List.filter_eq_self.2, List.nil_append]
          · exact fun b hb => (List.mem_cons.1 hb).elim (fun heq => heq ▸ hlegacy) (hall b)
          · intro b hb
            rcases List.mem_cons.1 hb with rfl | hb
            · simp [hlegacy]
            · simp [hall b hb]

theorem any_id_eq_true_iff (id : String) :
    result.any (fun listed => listed.id = id) = true ↔ id ∈ result.map (·.id) := by
  simp [List.any_eq_true, List.mem_map]

theorem addNewWallet_of_mem (h : wallet.id ∈ result.map (·.id)) : addNewWallet wallet result = result := by
  rw [addNewWallet, if_pos ((any_id_eq_true_iff wallet.id).2 h)]

/-- A new wallet is put between two parts of the list: a legacy wallet goes to the end, another one before
    the legacy wallets. -/
theorem exists_addNewWallet (h : wallet.id ∉ result.map (·.id))
    (hlast : result.Pairwise fun a b => a.isLegacy = true → b.isLegacy = true) :
    ∃ before after, result = before ++ after ∧ addNewWallet wallet result = before ++ wallet :: after ∧
      (wallet.isLegacy = true → after = []) ∧ (∀ listed ∈ after, listed.isLegacy = true) ∧
      (wallet.isLegacy = false → ∀ listed ∈ before, listed.isLegacy = false) := by
  have hnone : ¬ result.any (fun listed => listed.id = wallet.id) = true :=
    fun hany => h ((any_id_eq_true_iff wallet.id).1 hany)
  unfold addNewWallet
  rw [if_neg hnone]
  cases hlegacy : wallet.isLegacy with
  | true =>
      exact ⟨result, [], (List.append_nil _).symm, rfl, fun _ => rfl, fun _ h => absurd h List.not_mem_nil,
        fun h => nomatch h⟩
  | false =>
      obtain ⟨before, after, heq, hinsert, hbefore, hhead⟩ :=
        List.exists_insertIdx_findIdx (·.isLegacy) result wallet
      refine ⟨before, after, heq, hinsert, (fun h => nomatch h), ?_, fun _ => hbefore⟩
      subst heq
      have hafter := (List.pairwise_append.1 hlast).2.1
      cases after with
      | nil => exact fun _ h => absurd h List.not_mem_nil
      | cons first after =>
          have hfirst : first.isLegacy = true := hhead first rfl
          exact List.forall_mem_cons.2 ⟨hfirst, fun b hb => (List.pairwise_cons.1 hafter).1 b hb hfirst⟩

theorem ListIntegrity.perm_addNewWallet (h : ListIntegrity result) (hnew : wallet.id ∉ result.map (·.id)) :
    (addNewWallet wallet result).Perm (wallet :: result) := by
  obtain ⟨before, after, rfl, heq, _⟩ := exists_addNewWallet hnew h.legacyLast
  rw [heq]
  exact List.perm_middle

theorem ListIntegrity.addNewWallet (h : ListIntegrity result) (wallet : ListedWallet) :
    ListIntegrity (addNewWallet wallet result) := by
  by_cases hmem : wallet.id ∈ result.map (·.id)
  · rw [addNewWallet_of_mem hmem]
    exact h
  · refine ⟨?_, ?_⟩
    · refine ((h.perm_addNewWallet hmem).map _).nodup_iff.2 ?_
      rw [List.map_cons, List.nodup_cons]
      exact ⟨hmem, h.ids⟩
    · obtain ⟨before, after, rfl, heq, hempty, hafter, hbefore⟩ := exists_addNewWallet hmem h.legacyLast
      obtain ⟨hpre, hpost, hcross⟩ := List.pairwise_append.1 h.legacyLast
      rw [heq]
      refine List.pairwise_append.2 ⟨hpre, List.pairwise_cons.2 ⟨fun b hb _ => hafter b hb, hpost⟩, ?_⟩
      intro a ha b hb hlegacy
      rcases List.mem_cons.1 hb with rfl | hb
      · by_contra hnot
        rw [Bool.not_eq_true] at hnot
        exact absurd (hlegacy.symm.trans (hbefore hnot a ha)) (by decide)
      · exact hcross a ha b hb hlegacy

/-- What stands before a new wallet stays where it is. -/
theorem ListIntegrity.getElem?_addNewWallet (h : ListIntegrity result) {walletId : String} {index : ℕ}
    (hat : result[index]?.map (·.id) = some walletId)
    (hbehind : wallet.id ∈ result.map (·.id) ∨ wallet.isLegacy = true ∨
      ∀ listed ∈ result, listed.id = walletId → listed.isLegacy = false) :
    (WalletsStore.addNewWallet wallet result)[index]?.map (·.id) = some walletId := by
  by_cases hmem : wallet.id ∈ result.map (·.id)
  · rw [addNewWallet_of_mem hmem]
    exact hat
  · obtain ⟨before, after, rfl, heq, hempty, hafter, _⟩ := exists_addNewWallet hmem h.legacyLast
    obtain ⟨listed, hlisted, hid⟩ := Option.map_eq_some_iff.1 hat
    have hlt : index < before.length := by
      by_contra hge
      rw [List.getElem?_append_right (not_lt.1 hge)] at hlisted
      have hin := List.mem_of_getElem? hlisted
      rcases hbehind.resolve_left hmem with hlegacy | hnot
      · rw [hempty hlegacy] at hin
        exact absurd hin List.not_mem_nil
      · have hlegacy := hnot listed (List.mem_append.2 (.inr hin)) hid
        exact absurd ((hafter listed hin).symm.trans hlegacy) (by decide)
    rw [List.getElem?_append_left hlt] at hlisted
    rw [heq, List.getElem?_append_left hlt, hlisted]
    exact congrArg some hid

theorem ListIntegrity.eraseIdx (h : ListIntegrity result) (index : ℕ) :
    ListIntegrity (result.eraseIdx index) :=
  ⟨h.ids.sublist ((List.eraseIdx_sublist ..).map _), h.legacyLast.sublist (List.eraseIdx_sublist ..)⟩

theorem listIntegrity_getWallets {wallets legacyWallets : List String}
    (hids : ((getWallets wallets legacyWallets).map (·.id)).Nodup) :
    ListIntegrity (getWallets wallets legacyWallets) :=
  ⟨hids, legacyLast_getWallets wallets legacyWallets⟩

/-! ## What steps make of the list and of the deletions -/

/-- The list is left alone, and no deletion takes an index. -/
structure KeepsList (s s' : State) : Prop where
  result : s'.result = s.result
  deleting : ∀ walletId index, Deleting s' walletId index → Deleting s walletId index

/-- A wallet is added to the list, and no deletion takes an index. -/
structure PatchesList (s s' : State) (wallet : ListedWallet) : Prop where
  result : s'.result = s.result.map (addNewWallet wallet)
  deleting : ∀ walletId index, Deleting s' walletId index → Deleting s walletId index

theorem Deleting.of_subset {walletId : String} {index : ℕ} (hsub : s'.tasks ⊆ s.tasks)
    (h : Deleting s' walletId index) : Deleting s walletId index := by
  obtain ⟨task, htask, hdeletion⟩ := h
  exact ⟨task, hsub htask, hdeletion⟩

theorem Deleting.of_await {operation : Operation} {phase : Phase} {walletId : String} {index : ℕ}
    (hnone : Task.deletion ⟨operation, phase⟩ = none)
    (h : Deleting (s.await operation phase) walletId index) : Deleting s walletId index := by
  obtain ⟨task, htask, hdeletion⟩ := h
  rcases List.mem_append.1 htask with htask | htask
  · exact ⟨task, htask, hdeletion⟩
  · obtain rfl := List.mem_singleton.1 htask
    exact absurd (hnone.symm.trans hdeletion) (fun h => nomatch h)

theorem keepsList_of_subset (hresult : s'.result = s.result) (hsub : s'.tasks ⊆ s.tasks) : KeepsList s s' :=
  ⟨hresult, fun _ _ h => h.of_subset hsub⟩

theorem KeepsList.refl (s : State) : KeepsList s s :=
  keepsList_of_subset rfl fun _ h => h

theorem KeepsList.await (h : KeepsList s s') {operation : Operation} {phase : Phase}
    (hnone : Task.deletion ⟨operation, phase⟩ = none) : KeepsList s (s'.await operation phase) :=
  ⟨h.result, fun walletId index hdeleting => h.deleting walletId index (hdeleting.of_await hnone)⟩

theorem keepsList_pausePolling (s : State) (operation : Operation) :
    KeepsList s (pausePolling s operation) := by
  have hblocked : KeepsList s { s with pollingBlocked := true } := keepsList_of_subset rfl fun _ h => h
  refine hblocked.await ?_
  cases operation <;> rfl

theorem keepsList_start (s : State) (operation : Operation) : KeepsList s (start s operation) := by
  unfold start
  split
  · refine (KeepsList.refl s).await ?_
    cases operation <;> rfl
  · exact keepsList_pausePolling s operation

theorem keepsList_refreshWalletsData (s : State) : KeepsList s (refreshWalletsData s) := by
  unfold refreshWalletsData
  split
  · exact KeepsList.refl s
  · exact keepsList_of_subset rfl fun _ h => h

theorem KeepsList.trans {s'' : State} (h : KeepsList s s') (h' : KeepsList s' s'') : KeepsList s s'' :=
  ⟨h'.result.trans h.result, fun walletId index hd => h.deleting walletId index (h'.deleting walletId index hd)⟩

theorem endRestored_subset (s : State) : (endRestored s).tasks ⊆ s.tasks :=
  List.filter_subset_self _

theorem keepsList_restoreWalletEnd (s : State) : KeepsList s (restoreWalletEnd s) := by
  have hresumed : KeepsList s (resumePolling (endRestored s)) :=
    keepsList_of_subset rfl (endRestored_subset s)
  unfold restoreWalletEnd
  dsimp only
  split
  · exact hresumed
  · exact hresumed.await rfl

theorem keepsList_restoreWalletClose (s : State) : KeepsList s (restoreWalletClose s) := by
  unfold restoreWalletClose
  split
  · exact keepsList_of_subset rfl (endRestored_subset s)
  · exact keepsList_of_subset rfl fun _ h => h

theorem keepsList_restoreWalletChangeStep (s : State) (isBack : Bool) :
    KeepsList s (restoreWalletChangeStep s isBack) := by
  unfold restoreWalletChangeStep
  dsimp only
  split
  · exact keepsList_of_subset rfl fun _ h => h
  · exact keepsList_of_subset rfl fun _ h => h

theorem keepsList_resumeRestore {phase : Phase} {answer : Answer}
    (hs : resumeRestore s phase answer = some s') : KeepsList s s' := by
  unfold resumeRestore at hs
  split at hs <;> cases hs
  · exact keepsList_pausePolling s .restore
  · exact KeepsList.refl s
  · refine (KeepsList.refl s).await ?_
    split <;> rfl
  · exact (KeepsList.refl s).await rfl
  · exact KeepsList.refl s
  · next wallet =>
      have hrestored : KeepsList s { s with restoredWallet := some wallet, restoreWalletStep := some 3 } :=
        keepsList_of_subset rfl fun _ h => h
      exact hrestored.await rfl
  · exact keepsList_of_subset rfl fun _ h => h
  · exact keepsList_of_subset rfl fun _ h => h

theorem keepsList_resumeGenerateCertificate {phase : Phase} {answer : Answer}
    (hs : resumeGenerateCertificate s phase answer = some s') : KeepsList s s' := by
  unfold resumeGenerateCertificate at hs
  split at hs <;> cases hs
  · exact keepsList_pausePolling s .generateCertificate
  all_goals first
    | exact (KeepsList.refl s).await rfl
    | exact keepsList_of_subset rfl fun _ h => h

theorem keepsList_resumeGenerateCsv {phase : Phase} {answer : Answer}
    (hs : resumeGenerateCsv s phase answer = some s') : KeepsList s s' := by
  unfold resumeGenerateCsv at hs
  split at hs <;> cases hs
  · exact keepsList_pausePolling s .generateCsv
  · exact (KeepsList.refl s).await rfl
  · exact keepsList_of_subset rfl fun _ h => h
  · exact keepsList_of_subset rfl fun _ h => h
  · exact keepsList_of_subset rfl fun _ h => h

theorem patchesList_hanging (hresult : s.result = none) {operation : Operation}
    (hnone : Task.deletion ⟨operation, .hanging⟩ = none) :
    PatchesList s (s.await operation .hanging) wallet := by
  have hhangs : KeepsList s (s.await operation .hanging) := (KeepsList.refl s).await hnone
  refine ⟨hhangs.result.trans ?_, hhangs.deleting⟩
  rw [hresult]
  rfl

theorem patchesList_refreshWalletsData (wallet : ListedWallet) (hresult : s.result = some result) :
    PatchesList s (refreshWalletsData { s with result := some (addNewWallet wallet result) }) wallet := by
  have hrefreshed := keepsList_refreshWalletsData { s with result := some (addNewWallet wallet result) }
  refine ⟨hrefreshed.result.trans ?_, fun walletId index h => hrefreshed.deleting walletId index h⟩
  rw [hresult]
  rfl

theorem patchesList_resumeRestoreWalletEnd {phase : Phase} {answer : Answer}
    (hs : resumeRestoreWalletEnd s phase answer = some s') :
    ∃ wallet, phase = .patchNewWallet wallet ∧ answer = .done ∧ PatchesList s s' wallet := by
  unfold resumeRestoreWalletEnd at hs
  split at hs <;> cases hs
  next wallet =>
    refine ⟨wallet, rfl, rfl, ?_⟩
    cases hresult : s.result with
    | none => exact patchesList_hanging hresult rfl
    | some result =>
        have hpatched := patchesList_refreshWalletsData wallet hresult
        exact ⟨hpatched.result, hpatched.deleting⟩

theorem keepsOrPatches_resumeCreateHardwareWallet {phase : Phase} {answer : Answer}
    (hs : resumeCreateHardwareWallet s phase answer = some s') :
    (∃ wallet, phase = .patchNewWallet wallet ∧ answer = .done ∧ PatchesList s s' wallet) ∨
      KeepsList s s' := by
  unfold resumeCreateHardwareWallet at hs
  split at hs <;> cases hs
  · exact .inr (keepsList_pausePolling s .createHardwareWallet)
  · exact .inr ((KeepsList.refl s).await rfl)
  · exact .inr ((KeepsList.refl s).await rfl)
  · exact .inr (keepsList_of_subset rfl fun _ h => h)
  · exact .inr ((KeepsList.refl s).await rfl)
  · exact .inr ((KeepsList.refl s).await rfl)
  · next wallet =>
      refine .inl ⟨wallet, rfl, rfl, ?_⟩
      cases hresult : s.result with
      | none => exact patchesList_hanging hresult rfl
      | some result =>
          have hpatched := patchesList_refreshWalletsData wallet hresult
          exact ⟨hpatched.result, hpatched.deleting⟩
  all_goals exact .inr (keepsList_of_subset rfl fun _ h => h)

/-- The list is left alone, and a deletion goes on with the index it has, or takes that of its wallet. -/
structure TakesIndex (s s' : State) (task : Task) : Prop where
  result : s'.result = s.result
  deleting : ∀ walletId index, Deleting s' walletId index → Deleting s walletId index ∨
    task.deletion = some (walletId, index) ∨
      s.all.findIdx? (fun wallet => wallet.id = walletId) = some index

theorem KeepsList.takesIndex (h : KeepsList s s') (task : Task) : TakesIndex s s' task :=
  ⟨h.result, fun walletId index hdeleting => .inl (h.deleting walletId index hdeleting)⟩

/-- A deletion that has its index goes on with it. -/
theorem deleting_await {operation : Operation} {phase : Phase} {walletId : String} {index : ℕ}
    (h : Deleting (s.await operation phase) walletId index) :
    Deleting s walletId index ∨ Task.deletion ⟨operation, phase⟩ = some (walletId, index) := by
  obtain ⟨task, htask, hdeletion⟩ := h
  rcases List.mem_append.1 htask with htask | htask
  · exact .inl ⟨task, htask, hdeletion⟩
  · obtain rfl := List.mem_singleton.1 htask
    exact .inr hdeletion

theorem takesIndex_resumeDeleteWallet {deleted : String} {phase : Phase} {answer : Answer}
    (hs : resumeDeleteWallet s deleted phase answer = some s') :
    (∃ index, phase = .patchDeleted index ∧ answer = .done ∧ s' = walletDeleted s deleted index) ∨
      TakesIndex s s' ⟨.deleteWallet deleted, phase⟩ := by
  unfold resumeDeleteWallet at hs
  split at hs <;> cases hs
  · exact .inr ((keepsList_pausePolling s _).takesIndex _)
  · exact .inr ((KeepsList.refl s).takesIndex _)
  · refine .inr ?_
    split
    · have hreset : KeepsList s { s with isDeleting := false } := keepsList_of_subset rfl fun _ h => h
      exact hreset.takesIndex _
    · next index hfound =>
        refine ⟨rfl, fun walletId index' hdeleting => ?_⟩
        rcases deleting_await hdeleting with hold | hnew
        · exact .inl hold
        · obtain ⟨rfl, rfl⟩ := Prod.mk.inj (Option.some.inj hnew)
          exact .inr (.inr hfound)
  · refine .inr ⟨rfl, fun walletId index' hdeleting => ?_⟩
    rcases deleting_await hdeleting with hold | hnew
    · exact .inl hold
    · exact .inr (.inl hnew)
  · exact .inr ((KeepsList.refl s).takesIndex _)
  · exact .inl ⟨_, rfl, rfl, rfl⟩
  · have hresumed : KeepsList s (resumePolling s) := keepsList_of_subset rfl fun _ h => h
    exact .inr ((hresumed.trans (keepsList_refreshWalletsData _)).takesIndex _)
  · exact .inr ((KeepsList.refl s).takesIndex _)

/-- Everything that an operation that goes on can make of the list and of the deletions. -/
theorem resume_cases {task : Task} {answer : Answer} (hs : resume s task answer = some s') :
    (∃ wallet, task.phase = .patchNewWallet wallet ∧ answer = .done ∧ PatchesList s s' wallet) ∨
      (∃ walletId index, task = ⟨.deleteWallet walletId, .patchDeleted index⟩ ∧ answer = .done ∧
        s' = walletDeleted s walletId index) ∨
      TakesIndex s s' task := by
  obtain ⟨operation, phase⟩ := task
  cases operation with
  | deleteWallet walletId =>
      rcases takesIndex_resumeDeleteWallet hs with ⟨index, rfl, rfl, rfl⟩ | htakes
      · exact .inr (.inl ⟨walletId, index, rfl, rfl, rfl⟩)
      · exact .inr (.inr htakes)
  | restore => exact .inr (.inr ((keepsList_resumeRestore hs).takesIndex _))
  | restoreWalletEnd => exact .inl (patchesList_resumeRestoreWalletEnd hs)
  | createHardwareWallet =>
      rcases keepsOrPatches_resumeCreateHardwareWallet hs with hpatches | hkeeps
      · exact .inl hpatches
      · exact .inr (.inr (hkeeps.takesIndex _))
  | generateCertificate => exact .inr (.inr ((keepsList_resumeGenerateCertificate hs).takesIndex _))
  | generateCsv => exact .inr (.inr ((keepsList_resumeGenerateCsv hs).takesIndex _))

/-! ## The invariant -/

/-- The list is as it should be, and every deletion has the index of its wallet. -/
structure ListInvariant (s : State) : Prop where
  integrity : ∀ result, s.result = some result → ListIntegrity result
  deleting : ∀ walletId index, Deleting s walletId index →
    ∃ result, s.result = some result ∧ result[index]?.map (·.id) = some walletId

theorem ListInvariant.of_keeps (h : ListInvariant s) (hkeeps : KeepsList s s') : ListInvariant s' := by
  refine ⟨?_, fun walletId index hdeleting => ?_⟩
  · rw [hkeeps.result]
    exact h.integrity
  · rw [hkeeps.result]
    exact h.deleting walletId index (hkeeps.deleting walletId index hdeleting)

theorem ListInvariant.of_patches (h : ListInvariant s) (hpatches : PatchesList s s' wallet)
    (hbehind : GoesBehind s wallet) : ListInvariant s' := by
  refine ⟨fun result' hresult' => ?_, fun walletId index hdeleting => ?_⟩
  · rw [hpatches.result] at hresult'
    obtain ⟨result, hresult, rfl⟩ := Option.map_eq_some_iff.1 hresult'
    exact (h.integrity result hresult).addNewWallet wallet
  · have hbefore := hpatches.deleting walletId index hdeleting
    obtain ⟨result, hresult, hat⟩ := h.deleting walletId index hbefore
    refine ⟨addNewWallet wallet result, ?_, ?_⟩
    · rw [hpatches.result, hresult]
      rfl
    · refine (h.integrity result hresult).getElem?_addNewWallet hat ?_
      exact (hbehind result hresult).imp_right fun hnot =>
        hnot.imp_right fun hnot => hnot walletId index hbefore

theorem ListInvariant.all_eq (h : ListInvariant s) (hresult : s.result = some result) : s.all = result := by
  unfold State.all
  rw [hresult]
  exact filter_append_filter_of_legacyLast (h.integrity result hresult).legacyLast

/-- The index that a deletion takes is that of its wallet. -/
theorem ListInvariant.at_findIdx? (h : ListInvariant s) {walletId : String} {index : ℕ}
    (hfound : s.all.findIdx? (fun wallet => wallet.id = walletId) = some index) :
    ∃ result, s.result = some result ∧ result[index]?.map (·.id) = some walletId := by
  obtain ⟨hlt, hid, _⟩ := List.findIdx?_eq_some_iff_getElem.1 hfound
  cases hresult : s.result with
  | none =>
      have hall : s.all = [] := by
        unfold State.all
        rw [hresult]
        rfl
      rw [hall] at hlt
      exact absurd hlt (Nat.not_lt_zero _)
  | some result =>
      have hall := h.all_eq hresult
      refine ⟨result, rfl, ?_⟩
      rw [← hall, List.getElem?_eq_getElem hlt]
      exact congrArg some (of_decide_eq_true hid)

theorem result_walletDeleted (walletId : String) (index : ℕ) (hresult : s.result = some result) :
    (walletDeleted s walletId index).result = some (result.eraseIdx index) := by
  unfold walletDeleted
  rw [hresult]
  dsimp only
  split <;> rfl

/-- A deletion whose index is that of its wallet removes it, and nothing else. -/
theorem ListInvariant.result_walletDeleted (h : ListInvariant s) {walletId : String} {index : ℕ}
    (hresult : s.result = some result) (hat : result[index]?.map (·.id) = some walletId) :
    (walletDeleted s walletId index).result = some (result.filter fun listed => listed.id ≠ walletId) := by
  obtain ⟨listed, hlisted, hid⟩ := Option.map_eq_some_iff.1 hat
  have herase : result.eraseIdx index = result.filter fun other => other.id ≠ walletId := by
    rw [← hid]
    exact List.eraseIdx_eq_filter_of_nodup_map (h.integrity result hresult).ids hlisted
  rw [WalletsStore.result_walletDeleted walletId index hresult, herase]

theorem deleting_of_walletDeleted {walletId deleted : String} {index removed : ℕ}
    (h : Deleting (walletDeleted s deleted removed) walletId index) : Deleting s walletId index := by
  unfold walletDeleted at h
  split at h
  · exact h.of_await rfl
  · dsimp only at h
    split at h
    · exact h
    · exact h.of_await rfl

theorem ListInvariant.walletDeleted (h : ListInvariant s) {deleted : String} {removed : ℕ}
    (hresult : s.result = some result)
    (hbefore : ∀ walletId index, Deleting s walletId index → index < removed) :
    ListInvariant (walletDeleted s deleted removed) := by
  have hremoved := WalletsStore.result_walletDeleted deleted removed hresult
  refine ⟨fun result' hresult' => ?_, fun walletId index hdeleting => ?_⟩
  · obtain rfl := Option.some.inj (hremoved.symm.trans hresult')
    exact (h.integrity result hresult).eraseIdx removed
  · have hold := deleting_of_walletDeleted hdeleting
    obtain ⟨result', hresult', hat⟩ := h.deleting walletId index hold
    obtain rfl := Option.some.inj (hresult.symm.trans hresult')
    refine ⟨_, hremoved, ?_⟩
    rw [List.getElem?_eraseIdx_of_lt (hbefore walletId index hold)]
    exact hat

theorem keepsList_eraseIdx (s : State) (i : ℕ) : KeepsList s { s with tasks := s.tasks.eraseIdx i } :=
  keepsList_of_subset rfl (List.eraseIdx_subset ..)

theorem ListInvariant.takesIndex (h : ListInvariant s) {i : ℕ} {task : Task} (hi : s.tasks[i]? = some task)
    (htakes : TakesIndex { s with tasks := s.tasks.eraseIdx i } s' task) : ListInvariant s' := by
  have hrest := h.of_keeps (keepsList_eraseIdx s i)
  refine ⟨?_, fun walletId index hdeleting => ?_⟩
  · rw [htakes.result]
    exact h.integrity
  · rw [htakes.result]
    rcases htakes.deleting walletId index hdeleting with hold | hown | hfound
    · exact hrest.deleting walletId index hold
    · exact h.deleting walletId index ⟨task, List.mem_of_getElem? hi, hown⟩
    · exact hrest.at_findIdx? hfound

/-- What the condition says of an operation that goes on. -/
theorem goesBehind_of_leavesInPlace {t : ListState} {i : ℕ} {operation : Operation}
    (hok : LeavesInPlace t (.operation (.resume i .done)))
    (hi : t.store.tasks[i]? = some ⟨operation, .patchNewWallet wallet⟩) : GoesBehind t.store wallet := by
  have hgoes := hok _ hi
  cases operation <;> exact hgoes

theorem ListInvariant.resume {t : ListState} (h : ListInvariant t.store) {i : ℕ} {task : Task} {answer : Answer}
    (hok : LeavesInPlace t (.operation (.resume i answer))) (hi : t.store.tasks[i]? = some task)
    (hs : resume { t.store with tasks := t.store.tasks.eraseIdx i } task answer = some s') :
    ListInvariant s' := by
  have hrest := h.of_keeps (keepsList_eraseIdx t.store i)
  rcases resume_cases hs with ⟨wallet, hphase, rfl, hpatches⟩ | ⟨walletId, index, rfl, rfl, rfl⟩ | htakes
  · obtain ⟨operation, phase⟩ := task
    obtain rfl : phase = .patchNewWallet wallet := hphase
    refine hrest.of_patches hpatches fun result hresult => ?_
    refine (goesBehind_of_leavesInPlace hok hi result hresult).imp_right fun hnot => hnot.imp_right ?_
    intro hnot walletId index hdeleting
    exact hnot walletId index (hdeleting.of_subset (List.eraseIdx_subset ..))
  · obtain ⟨result, hresult, _⟩ := h.deleting walletId index ⟨_, List.mem_of_getElem? hi, rfl⟩
    exact hrest.walletDeleted hresult (hok _ hi)
  · exact h.takesIndex hi htakes

/-- The steps of the operations other than those of a task leave the list alone. -/
theorem keepsList_step {event : Event} (hrequest : event.isWalletsRequest = false)
    (hresume : ∀ i answer, event ≠ .resume i answer) (hs : step s event = some s') : KeepsList s s' := by
  cases event with
  | deleteWallet walletId =>
      cases hs
      have hflag : KeepsList s { s with isDeleting := true } := keepsList_of_subset rfl fun _ h => h
      exact hflag.trans (keepsList_start _ _)
  | restore => cases hs; exact keepsList_start s .restore
  | createHardwareWallet => cases hs; exact keepsList_start s .createHardwareWallet
  | generateCertificate => cases hs; exact keepsList_start s .generateCertificate
  | generateCsv => cases hs; exact keepsList_start s .generateCsv
  | resume i answer => exact absurd rfl (hresume i answer)
  | restoreWalletBegin => cases hs; exact keepsList_of_subset rfl fun _ h => h
  | restoreWalletEnd => cases hs; exact keepsList_restoreWalletEnd s
  | restoreWalletClose => cases hs; exact keepsList_restoreWalletClose s
  | restoreWalletCancelClose => cases hs; exact keepsList_of_subset rfl fun _ h => h
  | restoreWalletChangeStep isBack => cases hs; exact keepsList_restoreWalletChangeStep s isBack
  | restoreWalletSetKind isCertificateRestore => cases hs; exact keepsList_of_subset rfl fun _ h => h
  | restoreWalletSetMnemonics mnemonics => cases hs; exact keepsList_of_subset rfl fun _ h => h
  | restoreWalletSetConfig walletName spendingPassword => cases hs; exact keepsList_of_subset rfl fun _ h => h
  | refreshWalletsData => cases hs; exact keepsList_refreshWalletsData s
  | walletsRequest result wasExecuted isExecuting => cases hrequest
  | connection isConnected => cases hs; exact keepsList_of_subset rfl fun _ h => h

/-! ## Runs -/

theorem listStep_operation {t t' : ListState} {event : Event} (hs : listStep t (.operation event) = some t') :
    event.isWalletsRequest = false ∧
      ∃ store, step t.store event = some store ∧ t' = { t with store := store } := by
  obtain ⟨hrequest, hs⟩ := Option.ite_none_left_eq_some.1 hs
  obtain ⟨store, hstore, rfl⟩ := Option.map_eq_some_iff.1 hs
  exact ⟨Bool.eq_false_iff.2 hrequest, store, hstore, rfl⟩

theorem ListInvariant.operation {t : ListState} (h : ListInvariant t.store) {event : Event}
    (hok : LeavesInPlace t (.operation event)) (hrequest : event.isWalletsRequest = false)
    (hs : step t.store event = some s') : ListInvariant s' := by
  by_cases hresume : ∃ i answer, event = .resume i answer
  · obtain ⟨i, answer, rfl⟩ := hresume
    obtain ⟨task, hi, hs⟩ := Option.bind_eq_some_iff.1 hs
    exact h.resume hok hi hs
  · refine h.of_keeps (keepsList_step hrequest (fun i answer heq => ?_) hs)
    exact hresume ⟨i, answer, heq⟩

theorem ListInvariant.step {t t' : ListState} (h : ListInvariant t.store) {e : ListEvent}
    (hok : LeavesInPlace t e) (hs : listStep t e = some t') : ListInvariant t'.store := by
  cases e with
  | operation event =>
      obtain ⟨hrequest, store, hstore, rfl⟩ := listStep_operation hs
      exact h.operation hok hrequest hstore
  | walletsRequest wasExecuted isExecuting =>
      cases hs
      exact h.of_keeps (keepsList_of_subset rfl fun _ h => h)
  | walletsAnswered wallets legacyWallets =>
      cases hs
      obtain ⟨hids, hinplace⟩ := hok
      refine ⟨fun result hresult => ?_, fun walletId index hdeleting => ?_⟩
      · obtain rfl := Option.some.inj hresult
        exact listIntegrity_getWallets hids
      · exact ⟨_, rfl, hinplace walletId index hdeleting⟩
  | resetWalletsData =>
      cases hs
      refine ⟨fun _ hresult => (nomatch hresult), fun walletId index hdeleting => ?_⟩
      exact absurd hdeleting (hok walletId index)
  | newWallet wallet => cases hs; exact h
  | patchNewWallet k =>
      obtain ⟨wallet, hk, hs⟩ := Option.bind_eq_some_iff.1 hs
      cases hs
      have hpatches : PatchesList t.store (patchWalletRequestWithNewWallet t.store wallet) wallet :=
        ⟨rfl, fun _ _ hdeleting => hdeleting⟩
      exact h.of_patches hpatches (hok wallet hk)

theorem listInvariant_init : ListInvariant {} := by
  refine ⟨fun _ hresult => (nomatch hresult), ?_⟩
  rintro walletId index ⟨task, htask, _⟩
  exact absurd htask List.not_mem_nil

theorem listInvariant_of_leavesInPlace {t : ListState} (hr : listMachine.Reaches LeavesInPlace t) :
    ListInvariant t.store :=
  hr.invariant (P := fun t => ListInvariant t.store) listInvariant_init
    fun _ _ _ _ hok h hs => h.step hok hs

/-- The patch of an operation that goes on. -/
theorem result_of_resume_patchNewWallet {operation : Operation}
    (hs : resume s ⟨operation, .patchNewWallet wallet⟩ .done = some s') :
    s'.result = s.result.map (addNewWallet wallet) := by
  cases operation with
  | restoreWalletEnd =>
      obtain rfl := Option.some.inj hs
      cases hresult : s.result with
      | none => exact hresult
      | some result => exact (keepsList_refreshWalletsData _).result
  | createHardwareWallet =>
      obtain rfl := Option.some.inj hs
      cases hresult : s.result with
      | none => exact hresult
      | some result => exact (keepsList_refreshWalletsData _).result
  | deleteWallet walletId => cases hs
  | restore => cases hs
  | generateCertificate => cases hs
  | generateCsv => cases hs

theorem result_of_patches {t t' : ListState} {e : ListEvent} (hpatches : Patches t wallet e)
    (hs : listStep t e = some t') : t'.store.result = t.store.result.map (addNewWallet wallet) := by
  cases e with
  | patchNewWallet k =>
      obtain ⟨wallet', hk, hs⟩ := Option.bind_eq_some_iff.1 hs
      cases hs
      obtain rfl := Option.some.inj (hk.symm.trans hpatches)
      rfl
  | operation event =>
      obtain ⟨_, store, hstore, rfl⟩ := listStep_operation hs
      cases event with
      | resume i answer =>
          obtain ⟨task, hi, hstore⟩ := Option.bind_eq_some_iff.1 hstore
          cases answer with
          | done =>
              rcases hpatches with hi' | hi'
              · obtain rfl := Option.some.inj (hi.symm.trans hi')
                have hadded := result_of_resume_patchNewWallet hstore
                exact hadded
              · obtain rfl := Option.some.inj (hi.symm.trans hi')
                have hadded := result_of_resume_patchNewWallet hstore
                exact hadded
          | wallet _ => exact hpatches.elim
          | noWallet => exact hpatches.elim
          | failed => exact hpatches.elim
      | _ => exact hpatches.elim
  | walletsRequest _ _ => exact hpatches.elim
  | walletsAnswered _ _ => exact hpatches.elim
  | resetWalletsData => exact hpatches.elim
  | newWallet _ => exact hpatches.elim

theorem ListInvariant.deleted {t t' : ListState} (h : ListInvariant t.store) {e : ListEvent}
    {walletId : String} {index : ℕ} (hdeletes : Deletes t walletId index e) (hs : listStep t e = some t') :
    ∃ result, t.store.result = some result ∧ walletId ∈ result.map (·.id) ∧
      t'.store.result = some (result.filter fun listed => listed.id ≠ walletId) := by
  cases e with
  | operation event =>
      obtain ⟨_, store, hstore, rfl⟩ := listStep_operation hs
      cases event with
      | resume i answer =>
          obtain ⟨task, hi, hstore⟩ := Option.bind_eq_some_iff.1 hstore
          cases answer with
          | done =>
              obtain rfl := Option.some.inj (hi.symm.trans hdeletes)
              obtain rfl := Option.some.inj hstore
              obtain ⟨result, hresult, hat⟩ := h.deleting walletId index ⟨_, List.mem_of_getElem? hi, rfl⟩
              obtain ⟨listed, hlisted, hid⟩ := Option.map_eq_some_iff.1 hat
              have hrest := h.of_keeps (keepsList_eraseIdx t.store i)
              refine ⟨result, hresult, ?_, hrest.result_walletDeleted hresult hat⟩
              exact List.mem_map.2 ⟨listed, List.mem_of_getElem? hlisted, hid⟩
          | wallet _ => exact hdeletes.elim
          | noWallet => exact hdeletes.elim
          | failed => exact hdeletes.elim
      | _ => exact hdeletes.elim
  | walletsRequest _ _ => exact hdeletes.elim
  | walletsAnswered _ _ => exact hdeletes.elim
  | resetWalletsData => exact hdeletes.elim
  | newWallet _ => exact hdeletes.elim
  | patchNewWallet _ => exact hdeletes.elim

theorem ListInvariant.patched {t t' : ListState} (h : ListInvariant t.store) {e : ListEvent}
    (hs : listStep t e = some t') : Patched t t' e where
  added wallet result hpatches hresult := by
    refine ⟨WalletsStore.addNewWallet wallet result, ?_, addNewWallet_of_mem, fun hnew => ?_⟩
    · rw [result_of_patches hpatches hs, hresult]
      rfl
    · exact (h.integrity result hresult).perm_addNewWallet hnew
  deleted walletId index hdeletes := h.deleted hdeletes hs

/-- In runs in which nothing moves a wallet that is being deleted, the list has no id twice and the legacy
    wallets last, a patch adds its wallet alone, and a deletion removes its wallet alone. -/
theorem list_of_leavesInPlace {t : ListState} (hr : listMachine.Reaches LeavesInPlace t) :
    (∀ result, t.store.result = some result → ListIntegrity result) ∧
      ∀ e t', LeavesInPlace t e → listStep t e = some t' → Patched t t' e :=
  ⟨(listInvariant_of_leavesInPlace hr).integrity,
    fun _ _ _ hs => (listInvariant_of_leavesInPlace hr).patched hs⟩

/-- A wallet is deleted while another one is created, which goes behind it. -/
def createdBehindDeleted : List ListEvent :=
  [.walletsAnswered ["a"] ["b"], .operation (.deleteWallet "a"), .operation (.resume 0 .done),
    .operation (.resume 0 .done), .newWallet ⟨"d", false⟩, .patchNewWallet 0]

theorem list_of_createdBehindDeleted :
    ∃ t t', listMachine.Reaches LeavesInPlace t ∧ listStep t (.operation (.resume 0 .done)) = some t' ∧
      t.store.result = some [⟨"a", false⟩, ⟨"d", false⟩, ⟨"legacy_b", true⟩] ∧
      t'.store.result = some [⟨"d", false⟩, ⟨"legacy_b", true⟩] ∧
      Patched t t' (.operation (.resume 0 .done)) := by
  have hsteps : listMachine.allSteps LeavesInPlace listMachine.init createdBehindDeleted := by
    refine ⟨⟨by decide, ?_⟩, trivial, ?_, ?_, trivial, ?_, trivial⟩
    · rintro _ _ ⟨_, htask, _⟩
      exact absurd htask List.not_mem_nil
    · intro task htask
      obtain rfl := Option.some.inj htask
      trivial
    · intro task htask
      obtain rfl := Option.some.inj htask
      trivial
    · rintro _ ⟨⟩ result ⟨⟩
      refine .inr (.inr ?_)
      rintro _ _ ⟨task, htask, hdeletion⟩
      obtain rfl := List.mem_singleton.1 htask
      obtain ⟨rfl, rfl⟩ := Prod.mk.inj (Option.some.inj hdeletion)
      decide
  have hr : listMachine.Reaches LeavesInPlace _ := .exec createdBehindDeleted .init hsteps rfl
  refine ⟨_, _, hr, rfl, rfl, rfl, (list_of_leavesInPlace hr).2 _ _ ?_ rfl⟩
  intro task htask
  obtain rfl := Option.some.inj htask
  rintro _ _ ⟨_, hnone, _⟩
  exact absurd hnone List.not_mem_nil

/-- A legacy wallet is deleted while a wallet that goes before it is created. -/
def createdWhileDeleted : List ListEvent :=
  [.walletsAnswered ["a"] ["b", "c"], .operation (.deleteWallet "legacy_b"), .operation (.resume 0 .done),
    .operation (.resume 0 .done), .newWallet ⟨"d", false⟩, .patchNewWallet 0]

/-- The deletion then removes the wallet that was created. -/
theorem not_patched_of_createdWhileDeleted :
    ¬ ∀ t, listMachine.Reaches DistinctIds t →
      ∀ e t', DistinctIds t e → listStep t e = some t' → Patched t t' e := by
  intro hpatched
  have hids : ((getWallets ["a"] ["b", "c"]).map (·.id)).Nodup := by decide
  have hsteps : listMachine.allSteps DistinctIds listMachine.init createdWhileDeleted :=
    ⟨hids, trivial, trivial, trivial, trivial, trivial, trivial⟩
  have hr : listMachine.Reaches DistinctIds _ := .exec createdWhileDeleted .init hsteps rfl
  obtain ⟨result, hresult, _, hdeleted⟩ :=
    (hpatched _ hr (.operation (.resume 0 .done)) _ trivial rfl).deleted "legacy_b" 1 rfl
  cases hresult
  exact absurd hdeleted (by decide)

end Klarity.WalletsStore
