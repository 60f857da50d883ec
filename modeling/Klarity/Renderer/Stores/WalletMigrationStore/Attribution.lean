import Klarity.Renderer.Stores.Lib.Request.Proofs
import Klarity.Renderer.Stores.WalletMigrationStore.Selection

set_option autoImplicit false

/-! # What a parallel restore makes of each wallet

The restores of a run share one request and are answered in any order. Each awaits the promise of its own
call, since the request is reset before each execute; what comes of one wallet touches another one only where
both have the same id. -/

namespace Klarity.WalletMigrationStore

open Request (settled)

variable {env : Environment} {s t t' : State} {restore : Restore} {restores : List Restore}

/-! ## What is promised -/

/-- The timers and responses of the restores, and what they lead to. -/
def IsRestoration : Event → Prop
  | .tick _ | .respond _ _ | .resumeRestore _ | .endRestoration _ => True
  | _ => False

/-- What the own call of a restore came to. -/
def ownOutcome (s : State) (restore : Restore) : Option (Except RestorationError RestoredWallet) :=
  (settled s.restoreExportedWalletRequest restore.promise).map restoreOutcome

/-- A restore awaits a call with its own wallet. -/
def OwnCall (s : State) (restore : Restore) : Prop :=
  ∃ p call, restore.promise = some p ∧ s.restoreExportedWalletRequest.calls[p]? = some call ∧
    call.args = restore.exportedWallet

def restoredBy : Except RestorationError RestoredWallet → Option RestoredWallet
  | .ok restoredWallet => some restoredWallet
  | .error _ => none

def failureOf (restore : Restore) : Except RestorationError RestoredWallet → Option RestorationFailure
  | .ok _ => none
  | .error error => some ⟨error, exportedWalletData restore.exportedWallet⟩

/-- Each restore has left its wallet as its own call came to. -/
structure Attributed (s : State) (restores : List Restore) : Prop where
  ownCall : ∀ restore ∈ restores, OwnCall s restore
  status : ∀ restore ∈ restores, ∃ outcome, ownOutcome s restore = some outcome ∧
    ∃ w ∈ s.exportedWallets, w.index = restore.exportedWallet.index ∧ w.id = restore.exportedWallet.id ∧
      (w.status = .completed ↔ ∃ restoredWallet, outcome = .ok restoredWallet) ∧
      ∀ error, outcome = .error error → w.status = .errored ∧ w.error = some error
  duplicates : ∀ restore ∈ restores, ∀ restoredWallet,
    ownOutcome s restore = some (.ok restoredWallet) →
      ∀ w ∈ s.exportedWallets, w.id = restore.exportedWallet.id → w.status = .completed
  restored : s.restoredWallets.Perm
    (restores.filterMap fun restore => (ownOutcome s restore).bind restoredBy)
  errors : s.restorationErrors.Perm
    (restores.filterMap fun restore => (ownOutcome s restore).bind (failureOf restore))

/-! ## Keys -/

/-- The index and the id of each wallet. -/
def keys (wallets : List ExportedColeWallet) : List (ℕ × String) :=
  wallets.map fun w => (w.index, w.id)

theorem keys_modifyByIndex {wallets : List ExportedColeWallet} (index : ℕ)
    {f : ExportedColeWallet → ExportedColeWallet} (hindex : ∀ w, (f w).index = w.index)
    (hid : ∀ w, (f w).id = w.id) : keys (modifyByIndex index f wallets) = keys wallets := by
  unfold keys modifyByIndex
  rw [← List.filterMap_eq_map]
  refine List.filterMap_modify_of_eq (fun w => ?_) wallets _
  rw [Function.comp_apply, Function.comp_apply, hindex, hid]

theorem keys_updateWalletImportStatus (s : State) (index : ℕ) (status : WalletImportStatus)
    (error : Option RestorationError) :
    keys (updateWalletImportStatus s index status error).exportedWallets = keys s.exportedWallets :=
  keys_modifyByIndex index (fun _ => rfl) fun _ => rfl

theorem keys_updateDuplicates (s : State) (id : String) (index : ℕ)
    (f : WalletImportStatus → WalletImportStatus) :
    keys (updateDuplicates s id index f).exportedWallets = keys s.exportedWallets := by
  unfold keys updateDuplicates
  rw [List.map_map]
  refine List.map_congr_left fun w _ => ?_
  simp only [Function.comp_apply]
  split <;> rfl

/-- Distinct indices depend on the keys alone. -/
theorem nodup_indices_of_keys {wallets wallets' : List ExportedColeWallet} (h : keys wallets' = keys wallets)
    (hindices : (wallets.map (·.index)).Nodup) : (wallets'.map (·.index)).Nodup := by
  have heq : wallets'.map (·.index) = wallets.map (·.index) := by
    have hfst := congrArg (List.map Prod.fst) h
    unfold keys at hfst
    rwa [List.map_map, List.map_map] at hfst
  rw [heq]
  exact hindices

/-! ## The start of a run -/

theorem ownCall_restoreWallet (run : ℕ) (wallet : ExportedColeWallet) (h : OwnCall s restore) :
    OwnCall (restoreWallet run s wallet) restore := by
  obtain ⟨p, call, hp, hcall, hargs⟩ := h
  exact ⟨p, call, hp, List.getElem?_concat_eq_some.2 (.inl hcall), hargs⟩

/-- The request is reset, so the execute makes a call of its own. -/
theorem exists_ownCall_restoreWallet (run : ℕ) (s : State) (wallet : ExportedColeWallet) :
    ∃ restore, (restoreWallet run s wallet).restores = s.restores ++ [restore] ∧
      restore.exportedWallet = wallet ∧ OwnCall (restoreWallet run s wallet) restore :=
  ⟨_, rfl, rfl, s.restoreExportedWalletRequest.calls.length, _, rfl, List.getElem?_concat_length, rfl⟩

/-- What starting the restores of the pending wallets leaves. -/
structure Started (s t : State) (pending : List ExportedColeWallet) : Prop where
  wallets : ∃ restores, t.restores = s.restores ++ restores ∧
    restores.map (·.exportedWallet) = pending
  ownCall : (∀ restore ∈ s.restores, OwnCall s restore) → ∀ restore ∈ t.restores, OwnCall t restore
  restored : t.restoredWallets = s.restoredWallets
  errors : t.restorationErrors = s.restorationErrors
  keys : keys t.exportedWallets = keys s.exportedWallets
  migration : t.migration = s.migration
  records : t.records = s.records
  reports : t.reports = s.reports

theorem started_foldl (run : ℕ) (pending : List ExportedColeWallet) (s : State) :
    Started s (pending.foldl (restoreWallet run) s) pending := by
  induction pending generalizing s with
  | nil => exact ⟨⟨[], (List.append_nil _).symm, rfl⟩, fun h => h, rfl, rfl, rfl, rfl, rfl, rfl⟩
  | cons wallet pending ih =>
      have hrest := ih (restoreWallet run s wallet)
      obtain ⟨restore, hrestores, hwallet, hown⟩ := exists_ownCall_restoreWallet run s wallet
      refine ⟨?_, fun h => hrest.ownCall ?_, hrest.restored, hrest.errors, ?_, hrest.migration,
        hrest.records, hrest.reports⟩
      · obtain ⟨restores, happend, hwallets⟩ := hrest.wallets
        refine ⟨restore :: restores, ?_, ?_⟩
        · rw [List.foldl_cons, happend, hrestores, List.append_assoc, List.singleton_append]
        · rw [List.map_cons, hwallets, hwallet]
      · intro other hother
        rw [hrestores] at hother
        rcases List.mem_append.1 hother with hold | hnew
        · exact ownCall_restoreWallet run wallet (h other hold)
        · obtain rfl := List.mem_singleton.1 hnew
          exact hown
      · exact hrest.keys.trans (keys_updateWalletImportStatus s wallet.index .running none)

/-! ## The invariant -/

/-- The restores that have gone on, each with what its own call came to, and what they have left. -/
structure Progress (wallets : List ExportedColeWallet) (restores : List Restore) (s : State)
    (done : List (Restore × Except RestorationError RestoredWallet)) : Prop where
  ownCall : ∀ restore ∈ restores, OwnCall s restore
  remaining : (done.map (·.1) ++ s.restores).Perm restores
  outcome : ∀ d ∈ done, ownOutcome s d.1 = some d.2
  restored : s.restoredWallets = done.filterMap fun d => restoredBy d.2
  errors : s.restorationErrors = done.filterMap fun d => failureOf d.1 d.2
  keys : keys s.exportedWallets = keys wallets
  completed : ∀ d ∈ done, ∀ restoredWallet, d.2 = .ok restoredWallet →
    ∀ w ∈ s.exportedWallets, w.id = d.1.exportedWallet.id → w.status = .completed
  errored : ∀ d ∈ done, ∀ error, d.2 = .error error →
    ∀ w ∈ s.exportedWallets, w.index = d.1.exportedWallet.index →
      w.status = .errored ∧ w.error = some error

/-- The store as a run finds it, before the first of its restores starts. -/
def restorationStarted (s : State) : State :=
  { resetRestorationData s with
    isRestorationRunning := true
    runs := s.runs ++ [s.started]
    started := s.started + 1
    migration := { s.migration with
      submitted := s.migration.submitted ++ (pendingImportWallets s).map (·.id) } }

theorem started_restoreWallets (s : State) :
    Started (restorationStarted s) (restoreWallets s) (pendingImportWallets s) :=
  started_foldl s.started (pendingImportWallets s) (restorationStarted s)

theorem progress_restoreWallets (hnone : s.restores = []) :
    Progress s.exportedWallets (restoreWallets s).restores (restoreWallets s) [] := by
  have hstarted := started_restoreWallets s
  have hold : ∀ restore ∈ s.restores, OwnCall s restore := by
    rw [hnone]
    exact fun _ h => absurd h List.not_mem_nil
  refine ⟨hstarted.ownCall hold, .refl _, ?_, hstarted.restored, hstarted.errors, hstarted.keys, ?_, ?_⟩
  · exact fun _ h => absurd h List.not_mem_nil
  · exact fun _ h => absurd h List.not_mem_nil
  · exact fun _ h => absurd h List.not_mem_nil

/-! ## Restores that go on -/

/-- The restores are those of wallets of the list, of distinct ids. -/
structure Selected (wallets : List ExportedColeWallet) (restores : List Restore) : Prop where
  indices : (wallets.map (·.index)).Nodup
  wallets : ∀ restore ∈ restores, restore.exportedWallet ∈ wallets
  ids : (restores.map (·.exportedWallet.id)).Nodup

section Resume

variable {wallets : List ExportedColeWallet}
  {done : List (Restore × Except RestorationError RestoredWallet)} {k : ℕ}

theorem Progress.mem_of_getElem? (h : Progress wallets restores t done)
    (hk : t.restores[k]? = some restore) : restore ∈ restores :=
  h.remaining.subset (List.mem_append.2 (.inr (List.mem_of_getElem? hk)))

theorem Progress.mem_of_done (h : Progress wallets restores t done)
    {d : Restore × Except RestorationError RestoredWallet} (hd : d ∈ done) : d.1 ∈ restores :=
  h.remaining.subset (List.mem_append.2 (.inl (List.mem_map.2 ⟨d, hd, rfl⟩)))

/-- The wallet at the index of a restored one has its id. -/
theorem Progress.id_eq (h : Progress wallets restores t done) (hsel : Selected wallets restores)
    (hrestore : restore ∈ restores) {w : ExportedColeWallet} (hw : w ∈ t.exportedWallets)
    (hindex : w.index = restore.exportedWallet.index) : w.id = restore.exportedWallet.id := by
  have hkey : (w.index, w.id) ∈ WalletMigrationStore.keys t.exportedWallets :=
    List.mem_map.2 ⟨w, hw, rfl⟩
  rw [h.keys] at hkey
  obtain ⟨v, hv, hvw⟩ := List.mem_map.1 hkey
  obtain ⟨hvindex, hvid⟩ := Prod.mk.inj hvw
  have hsame := List.inj_on_of_nodup_map hsel.indices hv (hsel.wallets restore hrestore)
    (hvindex.trans hindex)
  rw [← hvid, hsame]

/-- A restore that has gone on is of another id than one that has not. -/
theorem Progress.id_ne (h : Progress wallets restores t done) (hsel : Selected wallets restores)
    {d : Restore × Except RestorationError RestoredWallet} (hd : d ∈ done)
    (hk : t.restores[k]? = some restore) :
    d.1.exportedWallet.id ≠ restore.exportedWallet.id := by
  have hnodup := (h.remaining.map (·.exportedWallet.id)).nodup_iff.2 hsel.ids
  rw [List.map_append, List.nodup_append] at hnodup
  refine hnodup.2.2 _ ?_ _ ?_
  · exact List.mem_map.2 ⟨d.1, List.mem_map.2 ⟨d, hd, rfl⟩, rfl⟩
  · exact List.mem_map.2 ⟨restore, List.mem_of_getElem? hk, rfl⟩

/-- So neither the id nor the index of the one that has not is that of the wallet of one that has. -/
theorem Progress.ne_of_done (h : Progress wallets restores t done) (hsel : Selected wallets restores)
    {d : Restore × Except RestorationError RestoredWallet} (hd : d ∈ done)
    (hk : t.restores[k]? = some restore) {w : ExportedColeWallet} (hw : w ∈ t.exportedWallets)
    (hid : w.id = d.1.exportedWallet.id) :
    w.id ≠ restore.exportedWallet.id ∧ w.index ≠ restore.exportedWallet.index := by
  have hne : w.id ≠ restore.exportedWallet.id := by
    rw [hid]
    exact h.id_ne hsel hd hk
  exact ⟨hne, fun heq => hne (h.id_eq hsel (h.mem_of_getElem? hk) hw heq)⟩

theorem Progress.outcome_concat (h : Progress wallets restores t done)
    {outcome : Except RestorationError RestoredWallet} (hown : ownOutcome t restore = some outcome) :
    ∀ d ∈ done ++ [(restore, outcome)], ownOutcome t d.1 = some d.2 := by
  intro d hd
  rcases List.mem_append.1 hd with hd | hd
  · exact h.outcome d hd
  · obtain rfl := List.mem_singleton.1 hd
    exact hown

theorem Progress.nodup_indices (h : Progress wallets restores t done) (hsel : Selected wallets restores) :
    (t.exportedWallets.map (·.index)).Nodup :=
  nodup_indices_of_keys h.keys hsel.indices

theorem Progress.remaining_concat (h : Progress wallets restores t done)
    (hk : t.restores[k]? = some restore) (outcome : Except RestorationError RestoredWallet) :
    ((done ++ [(restore, outcome)]).map (·.1) ++ t.restores.eraseIdx k).Perm restores := by
  rw [List.map_append, List.append_assoc]
  exact ((List.perm_cons_eraseIdx hk).append_left _).trans h.remaining

/-- What a wallet is after a failed restore. -/
theorem exists_of_mem_restoreFailed {error : RestorationError} {w : ExportedColeWallet}
    (hindices : (t.exportedWallets.map (·.index)).Nodup)
    (hw : w ∈ (restoreFailed t restore error).exportedWallets) :
    ∃ v ∈ t.exportedWallets, w.index = v.index ∧ w.id = v.id ∧
      (v.index = restore.exportedWallet.index → w.status = .errored ∧ w.error = some error) ∧
      (v.index ≠ restore.exportedWallet.index → w = v) := by
  change w ∈ modifyByIndex _ _ t.exportedWallets at hw
  rw [modifyByIndex_eq_map _ _ hindices] at hw
  obtain ⟨v, hv, rfl⟩ := List.mem_map.1 hw
  refine ⟨v, hv, ?_⟩
  by_cases hindex : v.index = restore.exportedWallet.index
  · rw [if_pos hindex]
    exact ⟨rfl, rfl, fun _ => ⟨rfl, rfl⟩, fun hne => absurd hindex hne⟩
  · rw [if_neg hindex]
    exact ⟨rfl, rfl, fun heq => absurd heq hindex, fun _ => rfl⟩

/-- What a wallet is after a restore that has succeeded. -/
theorem exists_of_mem_walletRestored (restoredWallet : RestoredWallet) {w : ExportedColeWallet}
    (hindices : (t.exportedWallets.map (·.index)).Nodup)
    (hw : w ∈ (walletRestored t restore restoredWallet).exportedWallets) :
    ∃ v ∈ t.exportedWallets, w.index = v.index ∧ w.id = v.id ∧
      (v.id = restore.exportedWallet.id → w.status = .completed) ∧
      (v.index ≠ restore.exportedWallet.index → v.id ≠ restore.exportedWallet.id → w = v) := by
  change w ∈ (modifyByIndex _ _ t.exportedWallets).map _ at hw
  rw [modifyByIndex_eq_map _ _ hindices, List.map_map] at hw
  obtain ⟨v, hv, rfl⟩ := List.mem_map.1 hw
  refine ⟨v, hv, ?_⟩
  by_cases hindex : v.index = restore.exportedWallet.index
  · simp [hindex]
  · by_cases hid : v.id = restore.exportedWallet.id
    · simp [hindex, hid]
    · simp [hindex, hid]

theorem Progress.restoreFailed (h : Progress wallets restores t done) (hsel : Selected wallets restores)
    (hk : t.restores[k]? = some restore) {error : RestorationError}
    (hown : ownOutcome t restore = some (.error error)) :
    Progress wallets restores
      (restoreFailed { t with restores := t.restores.eraseIdx k } restore error)
      (done ++ [(restore, .error error)]) := by
  have hindices := h.nodup_indices hsel
  refine ⟨h.ownCall, h.remaining_concat hk _, h.outcome_concat hown, ?_, ?_, ?_, ?_, ?_⟩
  · rw [List.filterMap_append]
    exact h.restored.trans (List.append_nil _).symm
  · rw [List.filterMap_append, ← h.errors]
    rfl
  · exact (keys_updateWalletImportStatus _ _ _ _).trans h.keys
  · intro d hd restoredWallet hok w hw hid
    obtain ⟨v, hv, hindex, hvid, _, hsame⟩ := exists_of_mem_restoreFailed hindices hw
    rcases List.mem_append.1 hd with hd | hd
    · obtain ⟨_, hne⟩ := h.ne_of_done hsel hd hk hv (hvid.symm.trans hid)
      rw [hsame hne]
      exact h.completed d hd restoredWallet hok v hv (hvid.symm.trans hid)
    · obtain rfl := List.mem_singleton.1 hd
      cases hok
  · intro d hd error' herror w hw hwindex
    obtain ⟨v, hv, hindex, hvid, hfailed, hsame⟩ := exists_of_mem_restoreFailed hindices hw
    rcases List.mem_append.1 hd with hd | hd
    · have hdid := h.id_eq hsel (h.mem_of_done hd) hv (hindex.symm.trans hwindex)
      obtain ⟨_, hne⟩ := h.ne_of_done hsel hd hk hv hdid
      rw [hsame hne]
      exact h.errored d hd error' herror v hv (hindex.symm.trans hwindex)
    · obtain rfl := List.mem_singleton.1 hd
      cases herror
      exact hfailed (hindex.symm.trans hwindex)

theorem Progress.walletRestored (h : Progress wallets restores t done) (hsel : Selected wallets restores)
    (hk : t.restores[k]? = some restore) {restoredWallet : RestoredWallet}
    (hown : ownOutcome t restore = some (.ok restoredWallet)) :
    Progress wallets restores
      (walletRestored { t with restores := t.restores.eraseIdx k } restore restoredWallet)
      (done ++ [(restore, .ok restoredWallet)]) := by
  have hindices := h.nodup_indices hsel
  refine ⟨h.ownCall, h.remaining_concat hk _, h.outcome_concat hown, ?_, ?_, ?_, ?_, ?_⟩
  · rw [List.filterMap_append, ← h.restored]
    rfl
  · rw [List.filterMap_append]
    exact h.errors.trans (List.append_nil _).symm
  · have hduplicates := keys_updateDuplicates
      (updateWalletImportStatus t restore.exportedWallet.index .completed none)
      restore.exportedWallet.id restore.exportedWallet.index fun _ => .completed
    exact (hduplicates.trans (keys_updateWalletImportStatus _ _ _ _)).trans h.keys
  · intro d hd restoredWallet' hok w hw hid
    obtain ⟨v, hv, hindex, hvid, hcompleted, hsame⟩ := exists_of_mem_walletRestored restoredWallet hindices hw
    rcases List.mem_append.1 hd with hd | hd
    · obtain ⟨hrid, hne⟩ := h.ne_of_done hsel hd hk hv (hvid.symm.trans hid)
      rw [hsame hne hrid]
      exact h.completed d hd restoredWallet' hok v hv (hvid.symm.trans hid)
    · obtain rfl := List.mem_singleton.1 hd
      exact hcompleted (hvid.symm.trans hid)
  · intro d hd error herror w hw hwindex
    obtain ⟨v, hv, hindex, hvid, _, hsame⟩ := exists_of_mem_walletRestored restoredWallet hindices hw
    rcases List.mem_append.1 hd with hd | hd
    · have hdid := h.id_eq hsel (h.mem_of_done hd) hv (hindex.symm.trans hwindex)
      obtain ⟨hrid, hne⟩ := h.ne_of_done hsel hd hk hv hdid
      rw [hsame hne hrid]
      exact h.errored d hd error herror v hv (hindex.symm.trans hwindex)
    · obtain rfl := List.mem_singleton.1 hd
      cases herror

end Resume

/-! ## Runs -/

theorem ownCall_of_extends {request : Request.State ExportedColeWallet (Option RestoredWallet) RestorationError}
    (hext : Request.Extends t.restoreExportedWalletRequest request) (h : OwnCall t restore) :
    OwnCall { t with restoreExportedWalletRequest := request } restore := by
  obtain ⟨p, call, hp, hcall, hargs⟩ := h
  obtain ⟨call', hcall', hargs', _⟩ := hext p call hcall
  exact ⟨p, call', hp, hcall', hargs'.trans hargs⟩

theorem ownOutcome_of_extends
    {request : Request.State ExportedColeWallet (Option RestoredWallet) RestorationError}
    {outcome : Except RestorationError RestoredWallet}
    (hext : Request.Extends t.restoreExportedWalletRequest request)
    (h : ownOutcome t restore = some outcome) :
    ownOutcome { t with restoreExportedWalletRequest := request } restore = some outcome := by
  obtain ⟨answer, hsettled, rfl⟩ := Option.map_eq_some_iff.1 h
  obtain ⟨p, call, hp, hcall, hanswer⟩ := Request.exists_call_of_settled hsettled
  obtain ⟨call', hcall', _, hanswer'⟩ := hext p call hcall
  refine Option.map_eq_some_iff.2 ⟨answer, ?_, rfl⟩
  rw [hp]
  simp [settled, hcall', hanswer' answer hanswer]

theorem Progress.request {wallets : List ExportedColeWallet}
    {done : List (Restore × Except RestorationError RestoredWallet)}
    {request : Request.State ExportedColeWallet (Option RestoredWallet) RestorationError}
    (h : Progress wallets restores t done)
    (hext : Request.Extends t.restoreExportedWalletRequest request) :
    Progress wallets restores { t with restoreExportedWalletRequest := request } done where
  ownCall restore hrestore := ownCall_of_extends hext (h.ownCall restore hrestore)
  remaining := h.remaining
  outcome d hd := ownOutcome_of_extends hext (h.outcome d hd)
  restored := h.restored
  errors := h.errors
  keys := h.keys
  completed := h.completed
  errored := h.errored

theorem Progress.step {wallets : List ExportedColeWallet}
    {done : List (Restore × Except RestorationError RestoredWallet)} {e : Event}
    (h : Progress wallets restores t done) (hsel : Selected wallets restores) (he : IsRestoration e)
    (hs : step env t e = some t') : ∃ done', Progress wallets restores t' done' := by
  cases e with
  | tick i =>
      obtain ⟨request, hrequest, hs⟩ := Option.bind_eq_some_iff.1 hs
      cases hs
      exact ⟨done, h.request (Request.sameCalls_step (by simp) hrequest).extends_calls⟩
  | respond i outcome =>
      obtain ⟨request, hrequest, hs⟩ := Option.bind_eq_some_iff.1 hs
      cases hs
      exact ⟨done, h.request (Request.sameCalls_step (by simp) hrequest).extends_calls⟩
  | resumeRestore k =>
      obtain ⟨restore, hk, hs⟩ := Option.bind_eq_some_iff.1 hs
      obtain ⟨outcome, hsettled, hs⟩ := Option.bind_eq_some_iff.1 hs
      cases hs
      have hown : ownOutcome t restore = some (restoreOutcome outcome) :=
        Option.map_eq_some_iff.2 ⟨outcome, hsettled, rfl⟩
      unfold restoreEnded
      cases houtcome : restoreOutcome outcome with
      | ok restoredWallet => exact ⟨_, h.walletRestored hsel hk (hown.trans (congrArg some houtcome))⟩
      | error error => exact ⟨_, h.restoreFailed hsel hk (hown.trans (congrArg some houtcome))⟩
  | endRestoration run =>
      obtain ⟨_, hs⟩ := Option.ite_none_right_eq_some.1 hs
      cases hs
      exact ⟨done, h.ownCall, h.remaining, h.outcome, h.restored, h.errors, h.keys, h.completed, h.errored⟩
  | initiateMigration => exact he.elim
  | startMigration => exact he.elim
  | finishMigration => exact he.elim
  | resetMigration => exact he.elim
  | toggleWalletImportSelection index => exact he.elim
  | updateWalletName index name => exact he.elim
  | nextStep => exact he.elim
  | selectExportSourcePath filePath => exact he.elim
  | resetExportSourcePath => exact he.elim
  | resume k answer => exact he.elim

/-- The wallet of a restore is still there, under its index and its id. -/
theorem Progress.exists_wallet {wallets : List ExportedColeWallet}
    {done : List (Restore × Except RestorationError RestoredWallet)}
    (h : Progress wallets restores t done) (hsel : Selected wallets restores) (hrestore : restore ∈ restores) :
    ∃ w ∈ t.exportedWallets,
      w.index = restore.exportedWallet.index ∧ w.id = restore.exportedWallet.id := by
  have hkey : (restore.exportedWallet.index, restore.exportedWallet.id) ∈ WalletMigrationStore.keys wallets :=
    List.mem_map.2 ⟨restore.exportedWallet, hsel.wallets restore hrestore, rfl⟩
  rw [← h.keys] at hkey
  obtain ⟨w, hw, hwkey⟩ := List.mem_map.1 hkey
  obtain ⟨hindex, hid⟩ := Prod.mk.inj hwkey
  exact ⟨w, hw, hindex, hid⟩

/-- Once no restore is left, every one of them has been attributed. -/
theorem Progress.attributed {wallets : List ExportedColeWallet}
    {done : List (Restore × Except RestorationError RestoredWallet)}
    (h : Progress wallets restores t done) (hsel : Selected wallets restores) (hend : t.restores = []) :
    Attributed t restores := by
  have hperm : (done.map (·.1)).Perm restores := by
    have hremaining := h.remaining
    rwa [hend, List.append_nil] at hremaining
  have hdone : ∀ restore ∈ restores, ∃ outcome, (restore, outcome) ∈ done := by
    intro restore hrestore
    obtain ⟨d, hd, rfl⟩ := List.mem_map.1 (hperm.mem_iff.2 hrestore)
    exact ⟨d.2, hd⟩
  refine ⟨h.ownCall, ?_, ?_, ?_, ?_⟩
  · intro restore hrestore
    obtain ⟨outcome, hd⟩ := hdone restore hrestore
    obtain ⟨w, hw, hindex, hid⟩ := h.exists_wallet hsel hrestore
    refine ⟨outcome, h.outcome _ hd, w, hw, hindex, hid, ?_, ?_⟩
    · cases outcome with
      | ok restoredWallet =>
          exact iff_of_true (h.completed _ hd restoredWallet rfl w hw hid) ⟨restoredWallet, rfl⟩
      | error error =>
          have herrored := (h.errored _ hd error rfl w hw hindex).1
          refine iff_of_false (fun hcompleted => ?_) fun ⟨_, hok⟩ => nomatch hok
          exact absurd (herrored.symm.trans hcompleted) (by decide)
    · exact fun error herror => h.errored _ hd error herror w hw hindex
  · intro restore hrestore restoredWallet hown
    obtain ⟨outcome, hd⟩ := hdone restore hrestore
    have houtcome := Option.some.inj ((h.outcome _ hd).symm.trans hown)
    exact h.completed _ hd restoredWallet houtcome
  · refine .trans ?_ (hperm.filterMap _)
    rw [h.restored, List.filterMap_map]
    refine .of_eq (List.filterMap_congr fun d hd => ?_)
    rw [Function.comp_apply, h.outcome d hd]
    rfl
  · refine .trans ?_ (hperm.filterMap _)
    rw [h.errors, List.filterMap_map]
    refine .of_eq (List.filterMap_congr fun d hd => ?_)
    rw [Function.comp_apply, h.outcome d hd]
    rfl

theorem restores_restoreWallets (hnone : s.restores = []) :
    (restoreWallets s).restores.map (·.exportedWallet) = pendingImportWallets s := by
  obtain ⟨restores, happend, hwallets⟩ := exists_restores_restoreWallets s
  rw [hnone, List.nil_append] at happend
  rw [happend, hwallets]

theorem selected_restoreWallets (hindices : (s.exportedWallets.map (·.index)).Nodup)
    (hids : ((pendingImportWallets s).map (·.id)).Nodup) (hnone : s.restores = []) :
    Selected s.exportedWallets (restoreWallets s).restores := by
  have hwallets := restores_restoreWallets hnone
  refine ⟨hindices, fun restore hrestore => ?_, ?_⟩
  · have hpending : restore.exportedWallet ∈ pendingImportWallets s :=
      hwallets ▸ List.mem_map.2 ⟨restore, hrestore, rfl⟩
    exact List.mem_of_mem_filter hpending
  · rw [← hwallets, List.map_map] at hids
    exact hids

/-- In whatever order the restores of the pending wallets succeed and fail, each is attributed to its own
    wallet. -/
theorem attributed_of_restoreWallets (env : Environment) {s s' : State}
    (hindices : (s.exportedWallets.map (·.index)).Nodup)
    (hids : ((pendingImportWallets s).map (·.id)).Nodup) (hnone : s.restores = [])
    (hr : ((machine env).startingAt (restoreWallets s)).Reaches (fun _ e => IsRestoration e) s')
    (hend : s'.restores = []) :
    (restoreWallets s).restores.map (·.exportedWallet) = pendingImportWallets s ∧
      Attributed s' (restoreWallets s).restores := by
  have hsel := selected_restoreWallets hindices hids hnone
  have hprogress : ∃ done, Progress s.exportedWallets (restoreWallets s).restores s' done :=
    hr.invariant (P := fun t => ∃ done, Progress s.exportedWallets (restoreWallets s).restores t done)
      ⟨[], progress_restoreWallets hnone⟩ fun _ _ _ _ he ⟨_, h⟩ hs => h.step hsel he hs
  obtain ⟨done, h⟩ := hprogress
  exact ⟨restores_restoreWallets hnone, h.attributed hsel hend⟩

/-- Of three wallets, two of one id, the first and the last are selected. -/
def twoSelected : State where
  exportedWallets :=
    [⟨⟨"key", some "A", "a", "hash", true⟩, true, .pending, none, 1⟩,
      ⟨⟨"key", some "A", "a", "hash", false⟩, true, .errored, none, 2⟩,
      ⟨⟨"key", some "B", "b", "hash", true⟩, true, .pending, none, 3⟩]

/-- The second restore fails before the first one succeeds. -/
def failedAndRestored : List Event :=
  [.tick 0, .tick 1, .respond 1 (.error (.localizable ⟨"id", "message"⟩)), .resumeRestore 1,
    .respond 0 (.ok (some ⟨"legacy_a", "A", false⟩)), .resumeRestore 0]

theorem attributed_of_failedAndRestored :
    ∃ s', s'.exportedWallets.map (·.status) = [.completed, .completed, .errored] ∧
      (restoreWallets twoSelected).restores.map (·.exportedWallet) = pendingImportWallets twoSelected ∧
      Attributed s' (restoreWallets twoSelected).restores := by
  have hsteps : (machine {}).allSteps (fun _ e => IsRestoration e) (restoreWallets twoSelected)
      failedAndRestored := ⟨trivial, trivial, trivial, trivial, trivial, trivial, trivial⟩
  have hr : ((machine {}).startingAt (restoreWallets twoSelected)).Reaches
      (fun _ e => IsRestoration e) _ := .exec failedAndRestored .init hsteps rfl
  exact ⟨_, rfl, attributed_of_restoreWallets {} (by decide) (by decide) rfl hr rfl⟩

end Klarity.WalletMigrationStore
