import Mathlib.Data.List.Nodup
import Klarity.Renderer.Stores.WalletMigrationStore

set_option autoImplicit false

/-! # The selection of exported wallets

Exported wallets keep distinct indices, so an index names one wallet, and of the wallets of one id at most
one is pending: selecting a wallet deselects its duplicates, and no other step selects one. -/

namespace Klarity.WalletMigrationStore

variable {env : Environment} {s : State} {wallets : List ExportedColeWallet}

/-! ## Updates by index -/

/-- Where an index names one wallet, the first wallet of that index is every such wallet. -/
theorem modifyByIndex_eq_map (index : ℕ) (f : ExportedColeWallet → ExportedColeWallet)
    (h : (wallets.map (·.index)).Nodup) :
    modifyByIndex index f wallets = wallets.map fun w => if w.index = index then f w else w := by
  unfold modifyByIndex
  induction wallets with
  | nil => rfl
  | cons w wallets ih =>
      rw [List.map_cons, List.nodup_cons] at h
      by_cases hw : w.index = index
      · have hrest : wallets.map (fun w => if w.index = index then f w else w) = wallets := by
          refine (List.map_congr_left fun v hv => if_neg fun hindex => ?_).trans (List.map_id wallets)
          exact h.1 (List.mem_map.2 ⟨v, hv, hindex.trans hw.symm⟩)
        rw [List.findIdx_cons, decide_eq_true hw, List.map_cons, hrest, if_pos hw]
        rfl
      · rw [List.findIdx_cons, decide_eq_false hw, List.map_cons, if_neg hw, ← ih h.2]
        rfl

/-! ## The invariant -/

/-- Indices are distinct, and pending wallets of one id are one wallet. -/
structure Selection (wallets : List ExportedColeWallet) : Prop where
  indices : (wallets.map (·.index)).Nodup
  pending : ∀ a ∈ wallets, ∀ b ∈ wallets, a.id = b.id → a.status = .pending → b.status = .pending →
    a.index = b.index

theorem Selection.nil : Selection [] :=
  ⟨List.nodup_nil, fun _ ha => absurd ha List.not_mem_nil⟩

theorem Selection.eq_of_index {a b : ExportedColeWallet} (h : Selection wallets) (ha : a ∈ wallets)
    (hb : b ∈ wallets) (hindex : a.index = b.index) : a = b :=
  List.inj_on_of_nodup_map h.indices ha hb hindex

theorem nodup_indices_map {f : ExportedColeWallet → ExportedColeWallet}
    (h : (wallets.map (·.index)).Nodup) (hindex : ∀ w, (f w).index = w.index) :
    ((wallets.map f).map (·.index)).Nodup := by
  rw [List.map_map, show (fun w => w.index) ∘ f = fun w : ExportedColeWallet => w.index from funext hindex]
  exact h

/-- Changes that select no wallet. -/
theorem Selection.map {f : ExportedColeWallet → ExportedColeWallet} (h : Selection wallets)
    (hindex : ∀ w, (f w).index = w.index) (hid : ∀ w, (f w).id = w.id)
    (hpending : ∀ w, (f w).status = .pending → w.status = .pending) : Selection (wallets.map f) := by
  refine ⟨nodup_indices_map h.indices hindex, ?_⟩
  intro a ha b hb hab hpa hpb
  obtain ⟨a', ha', rfl⟩ := List.mem_map.1 ha
  obtain ⟨b', hb', rfl⟩ := List.mem_map.1 hb
  rw [hid, hid] at hab
  rw [hindex, hindex]
  exact h.pending a' ha' b' hb' hab (hpending a' hpa) (hpending b' hpb)

theorem Selection.modifyByIndex {f : ExportedColeWallet → ExportedColeWallet} (h : Selection wallets)
    (index : ℕ) (hindex : ∀ w, (f w).index = w.index) (hid : ∀ w, (f w).id = w.id)
    (hpending : ∀ w, (f w).status = .pending → w.status = .pending) :
    Selection (modifyByIndex index f wallets) := by
  rw [modifyByIndex_eq_map index f h.indices]
  refine h.map (fun w => ?_) (fun w => ?_) (fun w => ?_)
  · split
    · exact hindex w
    · rfl
  · split
    · exact hid w
    · rfl
  · split
    · exact hpending w
    · exact id

/-! ## Updates of the store -/

theorem Selection.updateWalletImportStatus (h : Selection s.exportedWallets) (index : ℕ)
    (status : WalletImportStatus) (error : Option RestorationError) (hstatus : status ≠ .pending) :
    Selection (updateWalletImportStatus s index status error).exportedWallets :=
  h.modifyByIndex index (fun _ => rfl) (fun _ => rfl) fun _ hpending => absurd hpending hstatus

theorem Selection.updateDuplicates (h : Selection s.exportedWallets) (id : String) (index : ℕ)
    (f : WalletImportStatus → WalletImportStatus) (hf : ∀ status, f status ≠ .pending) :
    Selection (updateDuplicates s id index f).exportedWallets := by
  refine h.map (fun w => ?_) (fun w => ?_) (fun w => ?_)
  · split <;> rfl
  · split <;> rfl
  · split
    · intro hpending
      exact absurd hpending (hf w.status)
    · exact fun hpending => hpending

theorem deselect_ne_pending (status : WalletImportStatus) : deselect status ≠ .pending := by
  unfold deselect
  split
  · exact fun h => nomatch h
  · assumption

/-- What toggling a wallet makes of each wallet. -/
def toggledWallet (wallet w : ExportedColeWallet) : ExportedColeWallet :=
  if w.index = wallet.index then
    { w with status := if wallet.status = .pending then .unstarted else .pending, error := none }
  else if w.id = wallet.id then { w with status := deselect w.status }
  else w

theorem toggledWallet_index (wallet w : ExportedColeWallet) : (toggledWallet wallet w).index = w.index := by
  unfold toggledWallet
  split
  · rfl
  · split <;> rfl

theorem toggledWallet_id (wallet w : ExportedColeWallet) : (toggledWallet wallet w).id = w.id := by
  unfold toggledWallet
  split
  · rfl
  · split <;> rfl

/-- Another wallet that is pending afterwards was so before, and is no duplicate. -/
theorem pending_of_toggledWallet {wallet w : ExportedColeWallet} (hindex : w.index ≠ wallet.index)
    (hpending : (toggledWallet wallet w).status = .pending) : w.id ≠ wallet.id ∧ w.status = .pending := by
  unfold toggledWallet at hpending
  rw [if_neg hindex] at hpending
  by_cases hid : w.id = wallet.id
  · rw [if_pos hid] at hpending
    exact absurd hpending (deselect_ne_pending w.status)
  · rw [if_neg hid] at hpending
    exact ⟨hid, hpending⟩

theorem exportedWallets_toggle {index : ℕ} {wallet : ExportedColeWallet}
    (h : Selection s.exportedWallets) (hwallet : getExportedWalletByIndex s index = some wallet) :
    (toggleWalletImportSelection s index).exportedWallets =
      s.exportedWallets.map (toggledWallet wallet) := by
  have hindex : wallet.index = index := by
    unfold getExportedWalletByIndex at hwallet
    have hfound := List.find?_some hwallet
    exact of_decide_eq_true hfound
  subst hindex
  unfold toggleWalletImportSelection
  rw [hwallet]
  show (modifyByIndex _ _ _).map _ = _
  rw [modifyByIndex_eq_map _ _ h.indices, List.map_map]
  refine List.map_congr_left fun w _ => ?_
  unfold toggledWallet
  by_cases hindex : w.index = wallet.index
  · simp [hindex]
  · simp [hindex]

theorem Selection.toggle (h : Selection s.exportedWallets) (index : ℕ) :
    Selection (toggleWalletImportSelection s index).exportedWallets := by
  cases hwallet : getExportedWalletByIndex s index with
  | none =>
      unfold toggleWalletImportSelection
      rw [hwallet]
      exact h
  | some wallet =>
      have hmem : wallet ∈ s.exportedWallets := List.mem_of_find?_eq_some hwallet
      rw [exportedWallets_toggle h hwallet]
      refine ⟨nodup_indices_map h.indices (toggledWallet_index wallet), ?_⟩
      intro a ha b hb hab hpa hpb
      obtain ⟨a', ha', rfl⟩ := List.mem_map.1 ha
      obtain ⟨b', hb', rfl⟩ := List.mem_map.1 hb
      rw [toggledWallet_id, toggledWallet_id] at hab
      rw [toggledWallet_index, toggledWallet_index]
      by_cases hia : a'.index = wallet.index
      · by_cases hib : b'.index = wallet.index
        · exact hia.trans hib.symm
        · obtain rfl := h.eq_of_index ha' hmem hia
          exact absurd hab.symm (pending_of_toggledWallet hib hpb).1
      · by_cases hib : b'.index = wallet.index
        · obtain rfl := h.eq_of_index hb' hmem hib
          exact absurd hab (pending_of_toggledWallet hia hpa).1
        · exact h.pending a' ha' b' hb' hab (pending_of_toggledWallet hia hpa).2
            (pending_of_toggledWallet hib hpb).2

theorem Selection.updateWalletName (h : Selection s.exportedWallets) (index : ℕ) (name : String) :
    Selection (updateWalletName s index name).exportedWallets := by
  unfold WalletMigrationStore.updateWalletName
  split
  · exact h
  · exact h.modifyByIndex index (fun _ => rfl) (fun _ => rfl) fun _ hpending => hpending

/-! ## Exports -/

theorem exportedWallet_status_ne_pending (all : List NamedWallet) (wallet : FoundWallet) :
    (exportedWallet all wallet).status ≠ .pending := by
  unfold exportedWallet
  split
  · exact fun h => nomatch h
  · exact fun h => nomatch h

/-- Exported wallets are numbered in their order, and none is selected. -/
theorem Selection.exportedWallets (found : List FoundWallet) (all : List NamedWallet) :
    Selection (exportedWallets found all) := by
  have hstatus : ∀ w ∈ WalletMigrationStore.exportedWallets found all, w.status ≠ .pending := by
    intro w hw
    obtain ⟨i, hi, rfl⟩ := List.mem_mapIdx.1 hw
    have hsorted := (List.mem_insertionSort _).1 (List.getElem_mem hi)
    obtain ⟨wallet, _, hwallet⟩ := List.mem_map.1 hsorted
    show (List.get _ ⟨i, hi⟩).status ≠ _
    rw [List.get_eq_getElem, ← hwallet]
    exact exportedWallet_status_ne_pending all wallet
  refine ⟨?_, fun a ha b _ _ hpa => absurd hpa (hstatus a ha)⟩
  have hindices : (WalletMigrationStore.exportedWallets found all).map (·.index) =
      (List.range found.length).map (· + 1) := by
    refine List.ext_getElem (by simp [WalletMigrationStore.exportedWallets]) fun i hi _ => ?_
    simp [WalletMigrationStore.exportedWallets]
  rw [hindices]
  exact List.Nodup.map (add_left_injective 1) List.nodup_range

/-! ## Restores -/

theorem Selection.restoreWallet (h : Selection s.exportedWallets) (run : ℕ)
    (wallet : ExportedColeWallet) : Selection (restoreWallet run s wallet).exportedWallets :=
  h.updateWalletImportStatus wallet.index .running none (by decide)

theorem Selection.restoreWallets (h : Selection s.exportedWallets) :
    Selection (restoreWallets s).exportedWallets := by
  have hall : ∀ (pending : List ExportedColeWallet) (t : State), Selection t.exportedWallets →
      Selection (pending.foldl (WalletMigrationStore.restoreWallet s.started) t).exportedWallets := by
    intro pending
    induction pending with
    | nil => exact fun _ ht => ht
    | cons wallet pending ih => exact fun _ ht => ih _ (ht.restoreWallet s.started wallet)
  exact hall _ _ h

theorem Selection.restoreEnded (h : Selection s.exportedWallets) (restore : Restore)
    (outcome : Except RestorationError (Option RestoredWallet)) :
    Selection (restoreEnded s restore outcome).exportedWallets := by
  unfold WalletMigrationStore.restoreEnded
  split
  · have hcompleted := h.updateWalletImportStatus restore.exportedWallet.index .completed none (by decide)
    exact hcompleted.updateDuplicates restore.exportedWallet.id restore.exportedWallet.index
      (fun _ => .completed) fun _ => by decide
  · exact h.updateWalletImportStatus restore.exportedWallet.index .errored _ (by decide)

/-! ## Runs -/

theorem exportedWallets_afterExport (s : State) (caller : ExportCaller) :
    (afterExport s caller).exportedWallets = s.exportedWallets := by
  cases caller with
  | nextStep =>
      simp only [afterExport]
      split <;> rfl
  | startMigration =>
      simp only [afterExport]
      split <;> rfl

/-- Only an export and the end of the migration change the exported wallets when an operation goes on. -/
theorem Selection.resume (h : Selection s.exportedWallets) {phase : Phase} {answer : Answer} {s' : State}
    (hs : resume s phase answer = some s') : Selection s'.exportedWallets := by
  unfold WalletMigrationStore.resume at hs
  split at hs <;> cases hs
  · rw [exportedWallets_afterExport]
    exact .exportedWallets _ _
  · exact h
  · split <;> exact h
  · exact h
  · exact h
  · exact h
  · exact .nil
  · exact h
  · split
    · exact h
    · exact .nil
  · exact h
  · exact h
  · exact h
  · exact h
  · exact h
  · exact .nil
  · exact .nil

theorem Selection.startMigration (h : Selection s.exportedWallets) :
    Selection (startMigration env s).exportedWallets := by
  unfold WalletMigrationStore.startMigration
  split
  · exact h
  · split
    · exact .nil
    · exact h

theorem Selection.nextStep (h : Selection s.exportedWallets) : Selection (nextStep s).exportedWallets := by
  unfold WalletMigrationStore.nextStep
  split
  · exact .nil
  · exact h.restoreWallets

theorem Selection.step (h : Selection s.exportedWallets) {e : Event} {s' : State}
    (hs : step env s e = some s') : Selection s'.exportedWallets := by
  cases e with
  | initiateMigration => cases hs; exact h
  | startMigration => cases hs; exact h.startMigration
  | finishMigration => cases hs; exact h
  | resetMigration => cases hs; exact .nil
  | toggleWalletImportSelection index => cases hs; exact h.toggle index
  | updateWalletName index name => cases hs; exact h.updateWalletName index name
  | nextStep => cases hs; exact h.nextStep
  | selectExportSourcePath filePath => cases hs; exact h
  | resetExportSourcePath => cases hs; exact h
  | tick i =>
      obtain ⟨request, _, hs⟩ := Option.bind_eq_some_iff.1 hs
      cases hs
      exact h
  | respond i outcome =>
      obtain ⟨request, _, hs⟩ := Option.bind_eq_some_iff.1 hs
      cases hs
      exact h
  | resumeRestore k =>
      obtain ⟨restore, _, hs⟩ := Option.bind_eq_some_iff.1 hs
      obtain ⟨outcome, _, hs⟩ := Option.bind_eq_some_iff.1 hs
      cases hs
      refine Selection.restoreEnded ?_ restore outcome
      exact h
  | endRestoration run =>
      obtain ⟨_, hs⟩ := Option.ite_none_right_eq_some.1 hs
      cases hs
      exact h
  | resume k answer =>
      obtain ⟨phase, _, hs⟩ := Option.bind_eq_some_iff.1 hs
      refine Selection.resume ?_ hs
      exact h

theorem selection_of_reaches (hr : (machine env).Reaches Machine.anyStep s) : Selection s.exportedWallets :=
  hr.invariant (P := fun s => Selection s.exportedWallets) .nil fun _ _ _ _ _ h hs => h.step hs

/-! ## The wallets of one run -/

/-- The restores that a run adds are those of the pending wallets, in their order. -/
theorem exists_restores_restoreWallets (s : State) :
    ∃ restores, (restoreWallets s).restores = s.restores ++ restores ∧
      restores.map (·.exportedWallet) = pendingImportWallets s := by
  have hall : ∀ (pending : List ExportedColeWallet) (t : State),
      ∃ restores, (pending.foldl (restoreWallet s.started) t).restores = t.restores ++ restores ∧
        restores.map (·.exportedWallet) = pending := by
    intro pending
    induction pending with
    | nil => exact fun t => ⟨[], (List.append_nil _).symm, rfl⟩
    | cons wallet pending ih =>
        intro t
        obtain ⟨restores, happend, hwallets⟩ := ih (restoreWallet s.started t wallet)
        obtain ⟨restore, hrestore, hwallet⟩ : ∃ restore,
            (restoreWallet s.started t wallet).restores = t.restores ++ [restore] ∧
              restore.exportedWallet = wallet := ⟨_, rfl, rfl⟩
        refine ⟨restore :: restores, happend.trans ?_, ?_⟩
        · rw [hrestore, List.append_assoc, List.singleton_append]
        · rw [List.map_cons, hwallets, hwallet]
  exact hall _ _

theorem Selection.nodup_ids_pending (h : Selection s.exportedWallets) :
    ((pendingImportWallets s).map (·.id)).Nodup := by
  have hne : s.exportedWallets.Pairwise fun a b => a.index ≠ b.index := List.pairwise_map.1 h.indices
  refine List.pairwise_map.2 ((hne.filter _).imp_of_mem ?_)
  intro a b ha hb hab hid
  obtain ⟨ha, hpa⟩ := List.mem_filter.1 ha
  obtain ⟨hb, hpb⟩ := List.mem_filter.1 hb
  exact hab (h.pending a ha b hb hid (of_decide_eq_true hpa) (of_decide_eq_true hpb))

theorem Selection.pending_unique (h : Selection s.exportedWallets) {i j : ℕ}
    {a b : ExportedColeWallet} (hi : s.exportedWallets[i]? = some a) (hj : s.exportedWallets[j]? = some b)
    (hid : a.id = b.id) (hpa : a.status = .pending) (hpb : b.status = .pending) : i = j := by
  have hab := h.pending a (List.mem_of_getElem? hi) b (List.mem_of_getElem? hj) hid hpa hpb
  have hlt : i < (s.exportedWallets.map (·.index)).length := by
    rw [List.length_map]
    exact (List.getElem?_eq_some_iff.1 hi).1
  refine (List.getElem?_inj hlt h.indices).1 ?_
  rw [List.getElem?_map, List.getElem?_map, hi, hj]
  exact congrArg some hab

/-- In every reachable state exported wallets have distinct indices, of those of one id at most one is
    pending, and the wallets that a run restores have distinct ids. -/
theorem selected_once (env : Environment) {s : State} (hr : (machine env).Reaches Machine.anyStep s) :
    (s.exportedWallets.map (·.index)).Nodup ∧
      (∀ (i j : ℕ) (a b : ExportedColeWallet), s.exportedWallets[i]? = some a →
        s.exportedWallets[j]? = some b → a.id = b.id → a.status = .pending → b.status = .pending → i = j) ∧
      ∃ restores, (restoreWallets s).restores = s.restores ++ restores ∧
        restores.map (·.exportedWallet) = pendingImportWallets s ∧
        (restores.map (·.exportedWallet.id)).Nodup := by
  have h := selection_of_reaches hr
  refine ⟨h.indices, fun i j a b hi hj => h.pending_unique hi hj, ?_⟩
  obtain ⟨restores, happend, hwallets⟩ := exists_restores_restoreWallets s
  refine ⟨restores, happend, hwallets, ?_⟩
  have hids : restores.map (·.exportedWallet.id) = (pendingImportWallets s).map (·.id) := by
    rw [← hwallets, List.map_map]
    rfl
  rw [hids]
  exact h.nodup_ids_pending

/-- Two wallets of one id, with and without a passphrase: selecting the second deselects the first. -/
theorem selected_once_of_duplicates :
    ∃ s, (machine {}).Reaches Machine.anyStep s ∧ s.exportedWallets.map (·.id) = ["a", "a"] ∧
      (s.exportedWallets.map (·.index)).Nodup ∧ (pendingImportWallets s).map (·.index) = [2] ∧
      ∃ restores, (restoreWallets s).restores = s.restores ++ restores ∧
        restores.map (·.exportedWallet) = pendingImportWallets s ∧
        (restores.map (·.exportedWallet.id)).Nodup := by
  have hr := Machine.reaches_of_exec (M := machine {})
    [.initiateMigration, .nextStep,
      .resume 0 (.exported [⟨"key", none, "a", "hash", true⟩, ⟨"key", none, "a", "hash", false⟩] "" []),
      .toggleWalletImportSelection 1, .toggleWalletImportSelection 2] rfl
  obtain ⟨hindices, _, hrestores⟩ := selected_once {} hr
  exact ⟨_, hr, rfl, hindices, rfl, hrestores⟩

end Klarity.WalletMigrationStore
