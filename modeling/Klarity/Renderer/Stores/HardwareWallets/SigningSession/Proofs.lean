import Klarity.Renderer.Stores.HardwareWallets.SigningSession.Invariant

set_option autoImplicit false

/-! # The integrity of a session

The steps that only look for a device keep the invariant all at once (`Inv.tame`). It remains to look at
the few that initiate, sign, submit or reset a transaction. -/

namespace Klarity.HardwareWallets.SigningSession

variable {Selection : Type} {s s₀ s' : State Selection} {tables : Tables}

open State

/-! ## The invariant is kept -/

theorem Unsigned.tame {init : Initiation Selection} (hu : Unsigned s₀ init) (h : Tame s₀ s) :
    Unsigned s init := by
  have hsession := h.session
  simp only [State.session, Session.mk.injEq] at hsession
  obtain ⟨hinitiations, hcurrent, hrequests, -⟩ := hsession
  unfold Unsigned
  rw [hinitiations, hcurrent, hrequests]
  exact hu

theorem Awaiting.tame {init : Initiation Selection} {w : String} (ha : Awaiting s₀ init w)
    (h : Tame s₀ s) : Awaiting s init w where
  unsigned := ha.unsigned.tame h
  wallet := ha.wallet
  coinSelection := ha.coinSelection.trans (congrArg Session.txSignRequest h.session).symm
  votingData := ha.votingData.trans (congrArg Session.votingData h.session).symm
  active := (congrArg Session.activeVotingWalletId h.session).trans ha.active
  walletIds w' hw := h.walletIds w' hw init w ha
  signing := h.signing.trans ha.signing
  status hs := ha.status (h.status hs)

theorem Ready.tame {signing : Signing Selection} (hr : Ready s₀ signing) (h : Tame s₀ s) :
    Ready s signing := by
  obtain ⟨init, hu, hw, hcoins, hvoting, he⟩ := hr
  exact ⟨init, hu.tame h, hw, hcoins, hvoting.trans (congrArg Session.votingData h.session).symm,
    h.exports _ he⟩

theorem Owned.tame {n : ℕ} (ho : Owned s₀ n) (h : Tame s₀ s) : Owned s n := by
  unfold Owned
  rw [show s.signRequests = s₀.signRequests from congrArg Session.signRequests h.session,
    show s.current = s₀.current from congrArg Session.current h.session]
  exact ho

theorem Integrity.congr (h : Integrity s₀) (hinitiations : s.initiations = s₀.initiations)
    (hrequests : s.signRequests = s₀.signRequests) (hsubmissions : s.submissions = s₀.submissions) :
    Integrity s := by
  refine ⟨?_, ?_, ?_⟩
  · rw [hrequests, hinitiations]
    exact h.signed
  · rw [hrequests]
    exact h.once
  · rw [hsubmissions, hrequests]
    exact h.submitted

/-- A call that signs is still the same one. -/
theorem Tame.mem_of_isSigning (h : Tame s₀ s) {c : Call Selection} (hc : c ∈ s.calls)
    (hs : c.isSigning = true) : c ∈ s₀.calls :=
  (mem_signing.1 (h.signing ▸ mem_signing.2 ⟨hc, hs⟩)).1

/-- **Looking for a device keeps the invariant.** -/
theorem Inv.tame (hi : Inv s₀) (h : Tame s₀ s) : Inv s where
  toIntegrity := hi.toIntegrity.congr (congrArg Session.initiations h.session)
    (congrArg Session.signRequests h.session) (congrArg Session.submissions h.session)
  awaiting hw := by
    obtain ⟨init, w, ha⟩ := hi.awaiting (h.waiting hw)
    exact ⟨init, w, ha.tame h⟩
  exported := h.exported hi.exported
  prepare signing hc := (hi.prepare signing (h.mem_of_isSigning hc rfl)).tame h
  request isTrezor n hc := (hi.request isTrezor n (h.mem_of_isSigning hc rfl)).tame h
  alone c hc hne := by
    rw [h.signing] at hc ⊢
    obtain ⟨hone, hstatus⟩ := hi.alone c hc hne
    exact ⟨hone, fun hs => hstatus (h.status hs)⟩
  body hs n hb := (hi.body (h.status hs) n
    ((congrArg Session.txBody h.session).symm.trans hb)).tame h

theorem Inv.tame_of_eq (hi : Inv s₀) (hs : some s = some s') (h : Tame s₀ s) : Inv s' :=
  Option.some.inj hs ▸ hi.tame h

/-! ## Calls that go on -/

theorem mem_takeOut {k : ℕ} {c : Call Selection} (hc : c ∈ (s.takeOut k).calls) : c ∈ s.calls :=
  List.mem_of_mem_eraseIdx hc

theorem walletIds_takeOut {k : ℕ} {w : String} (hw : w ∈ (s.takeOut k).walletIds) :
    w ∈ s.walletIds := by
  rcases mem_walletIds.1 hw with ⟨c, hc, hcw⟩ | hrest
  · exact mem_walletIds.2 (.inl ⟨c, mem_takeOut hc, hcw⟩)
  · exact mem_walletIds.2 (.inr hrest)

theorem Tame.takeOut {k : ℕ} {call : Call Selection} (hk : s.calls[k]? = some call)
    (hs : call.isSigning = false) : Tame s (s.takeOut k) where
  session := rfl
  exports _ he := he
  waiting := id
  status := id
  walletIds _ hw := allowed_of_mem (walletIds_takeOut hw)
  signing := List.filter_eraseIdx_of_neg hk hs
  exported hx c hc := hx c (mem_takeOut hc)

/-- A call that is no longer waited for can be forgotten. -/
theorem Inv.takeOut (hi : Inv s) (k : ℕ) : Inv (s.takeOut k) where
  toIntegrity := hi.toIntegrity.congr rfl rfl rfl
  awaiting hw := by
    obtain ⟨init, w, ha⟩ := hi.awaiting hw
    refine ⟨init, w, { ha with
      walletIds := fun w' hw' => ha.walletIds w' (walletIds_takeOut hw')
      signing := ?_ }⟩
    refine List.eq_nil_iff_forall_not_mem.2 fun c hc => ?_
    obtain ⟨hmem, hsign⟩ := mem_signing.1 hc
    exact List.not_mem_nil (ha.signing ▸ mem_signing.2 ⟨mem_takeOut hmem, hsign⟩)
  exported c hc := hi.exported c (mem_takeOut hc)
  prepare signing hc := hi.prepare signing (mem_takeOut hc)
  request isTrezor n hc := hi.request isTrezor n (mem_takeOut hc)
  alone c hc hne := by
    obtain ⟨hmem, hsign⟩ := mem_signing.1 hc
    obtain ⟨hone, hstatus⟩ := hi.alone c (mem_signing.2 ⟨mem_takeOut hmem, hsign⟩) hne
    refine ⟨?_, hstatus⟩
    have hsub : (s.takeOut k).signing.Sublist [c] :=
      hone ▸ (List.eraseIdx_sublist s.calls k).filter Call.isSigning
    exact (List.sublist_singleton.1 hsub).resolve_left (List.ne_nil_of_mem hc)
  body := hi.body

/-- A transaction that is put together, signed or submitted does not wait for its device. -/
theorem Inv.not_waiting (hi : Inv s) {c : Call Selection} (hc : c ∈ s.signing) : ¬ Waiting s := by
  intro hw
  obtain ⟨init, w, ha⟩ := hi.awaiting hw
  exact List.not_mem_nil (ha.signing ▸ hc)

/-- What holds once the only call that signs goes on. -/
theorem Inv.signing_takeOut (hi : Inv s) {k : ℕ} {c : Call Selection} (hk : s.calls[k]? = some c)
    (hs : c.isSigning = true) (hne : c ≠ .sendMoney) : (s.takeOut k).signing = [] :=
  List.filter_eraseIdx_of_singleton hk
    (hi.alone c (mem_signing.2 ⟨List.mem_of_getElem? hk, hs⟩) hne).1

/-! ## Signing -/

theorem Exported.suspend (h : Exported s) {call : Call Selection} (hcall : call.export? = none) :
    Exported (s.suspend call) := by
  intro c hc
  rcases List.mem_cons.1 hc with rfl | hc
  · simp [hcall]
  · exact h c hc

/-- Nothing else signs once a call does. -/
theorem signing_suspend (hs : s.signing = []) {call : Call Selection} (hcall : call.isSigning = true) :
    (s.suspend call).signing = [call] := by
  unfold State.signing State.suspend
  rw [List.filter_cons_of_pos hcall]
  exact congrArg _ hs

/-- A transaction whose device is found is put together. -/
theorem Inv.suspend_prepare (hi : Inv s) {init : Initiation Selection} {w : String}
    (ha : Awaiting s init w) (hw : ¬ Waiting s) (isTrezor : Bool) {deviceId devicePath : Option String}
    {coinSelection : Selection} (hcoins : s.txSignRequest = some coinSelection)
    (he : (devicePath, w) ∈ s.exports) :
    Inv (s.suspend (.prepare ⟨isTrezor, w, deviceId, devicePath, coinSelection⟩)) where
  toIntegrity := hi.toIntegrity.congr rfl rfl rfl
  awaiting hwait := absurd hwait hw
  exported := hi.exported.suspend rfl
  prepare signing hc := by
    rcases List.mem_cons.1 hc with hc | hc
    · obtain rfl := Call.prepare.inj hc
      exact ⟨init, ha.unsigned, ha.wallet, ha.coinSelection.trans hcoins, ha.votingData, he⟩
    · exact hi.prepare signing hc
  request isTrezor n hc := hi.request isTrezor n ((List.mem_cons.1 hc).resolve_left (by simp))
  alone c hc _ := by
    rw [signing_suspend ha.signing rfl] at hc ⊢
    exact ⟨congrArg (fun c => [c]) (List.mem_singleton.1 hc).symm, ha.status⟩
  body hs := absurd hs ha.status

theorem Integrity.requestSignature (h : Integrity s) {signing : Signing Selection}
    (hr : Ready s signing) : Integrity (s.requestSignature signing signing.devicePath) := by
  obtain ⟨init, ⟨i, hcurrent, hinit, hunsigned⟩, hwallet, hcoins, hvoting, he⟩ := hr
  refine ⟨fun r hr => ?_, ?_, fun b hb => ?_⟩
  · rcases List.mem_append.1 hr with hr | hr
    · exact h.signed r hr
    · obtain rfl := List.mem_singleton.1 hr
      exact ⟨i, init, hcurrent, hinit, hwallet, hcoins, hvoting, he⟩
  · show ((s.signRequests ++ [_]).map _).Nodup
    rw [List.map_append, List.nodup_append]
    refine ⟨h.once, by simp, fun a ha b hb => ?_⟩
    obtain ⟨r, hr, rfl⟩ := List.mem_map.1 ha
    obtain rfl : b = s.current := by simpa using hb
    rw [hcurrent]
    exact hunsigned r hr
  · obtain ⟨n, r, hbody, hn, hri⟩ := h.submitted b hb
    exact ⟨n, r, hbody, List.getElem?_concat_eq_some.2 (.inl hn), hri⟩

theorem Inv.requestSignature (hi : Inv s) (hs : s.signing = []) (hw : ¬ Waiting s)
    (hstatus : s.hwDeviceStatus ≠ .verifyingTransactionSucceeded) {signing : Signing Selection}
    (hr : Ready s signing) : Inv (s.requestSignature signing signing.devicePath) where
  toIntegrity := hi.toIntegrity.requestSignature hr
  awaiting hwait := absurd hwait hw
  exported := hi.exported.suspend rfl
  prepare signing' hc := by
    have hold := (List.mem_cons.1 hc).resolve_left (by simp)
    exact absurd (hs ▸ mem_signing.2 ⟨hold, rfl⟩) List.not_mem_nil
  request isTrezor n hc := by
    rcases List.mem_cons.1 hc with hc | hc
    · obtain ⟨-, rfl⟩ := Call.signTransaction.inj hc
      exact ⟨_, List.getElem?_concat_length, .inr rfl⟩
    · exact absurd (hs ▸ mem_signing.2 ⟨hc, rfl⟩) List.not_mem_nil
  alone c hc _ := by
    have hsigning : (s.requestSignature signing signing.devicePath).signing =
        [.signTransaction signing.isTrezor s.signRequests.length] := signing_suspend hs rfl
    rw [hsigning] at hc ⊢
    exact ⟨congrArg (fun c => [c]) (List.mem_singleton.1 hc).symm, hstatus⟩
  body hb := absurd hb hstatus

/-- A signature arrives. -/
theorem Inv.setTxBody (hi : Inv s) (hs : s.signing = []) (hw : ¬ Waiting s) {n : ℕ} (ho : Owned s n) :
    Inv { s with txBody := some n, hwDeviceStatus := .verifyingTransactionSucceeded } where
  toIntegrity := hi.toIntegrity.congr rfl rfl rfl
  awaiting hwait := absurd hwait hw
  exported := hi.exported
  prepare signing hc := hi.prepare signing hc
  request isTrezor n hc := hi.request isTrezor n hc
  alone _ hc _ := absurd (hs ▸ hc) List.not_mem_nil
  body _ _ hm := Option.some.inj hm ▸ ho

/-! ## Submission and reset -/

theorem Inv.sendMoney (hi : Inv s) (hstatus : s.hwDeviceStatus = .verifyingTransactionSucceeded)
    (hbody : s.txBody.isSome) (hcurrent : s.current.isSome) : Inv s.sendMoney where
  signed := hi.signed
  once := hi.once
  submitted b hb := by
    rcases List.mem_append.1 hb with hb | hb
    · exact hi.submitted b hb
    · obtain rfl := List.mem_singleton.1 hb
      obtain ⟨n, hn⟩ := Option.isSome_iff_exists.1 hbody
      obtain ⟨r, hr, hnone | hri⟩ := hi.body hstatus n hn
      · simp [hnone] at hcurrent
      · exact ⟨n, r, hn, hr, hri⟩
  awaiting hw := by
    obtain ⟨init, w, ha⟩ := hi.awaiting hw
    exact absurd hstatus ha.status
  exported := hi.exported.suspend rfl
  prepare signing hc := hi.prepare signing ((List.mem_cons.1 hc).resolve_left (by simp))
  request isTrezor n hc := hi.request isTrezor n ((List.mem_cons.1 hc).resolve_left (by simp))
  alone c hc hne := by
    obtain ⟨hmem, hsign⟩ := mem_signing.1 hc
    have hold := (List.mem_cons.1 hmem).resolve_left hne
    exact absurd hstatus (hi.alone c (mem_signing.2 ⟨hold, hsign⟩) hne).2
  body := hi.body

/-- The fields of a transaction that is over are cleared. -/
theorem Inv.clear (hi : Inv s) (hp : ∀ c ∈ s.calls, c.isPrepare = false) {initiated : Bool}
    (hinitiated : initiated = false) {current : Option ℕ}
    (hcurrent : current = none ∨ current = s.current) {status : HwDeviceStatus}
    (hstatus : status ≠ .verifyingTransactionSucceeded ∨ status = s.hwDeviceStatus)
    (delegation voting : Option String) : Inv { s with
      isTransactionInitiated := initiated
      hwDeviceStatus := status
      txBody := none
      unfinishedWalletTxSigning := none
      activeDelegationWalletId := delegation
      activeVotingWalletId := voting
      votingData := none
      current := current } where
  toIntegrity := hi.toIntegrity.congr rfl rfl rfl
  awaiting hw := by simp [Waiting, hinitiated] at hw
  exported := hi.exported
  prepare signing hc := absurd (hp _ hc) (by simp [Call.isPrepare])
  request isTrezor n hc := by
    obtain ⟨r, hr, ho⟩ := hi.request isTrezor n hc
    refine ⟨r, hr, ?_⟩
    rcases hcurrent with rfl | rfl
    · exact .inl rfl
    · exact ho
  alone c hc hne := by
    obtain ⟨hone, hne'⟩ := hi.alone c hc hne
    refine ⟨hone, ?_⟩
    rcases hstatus with hstatus | rfl
    · exact hstatus
    · exact hne'
  body _ n hn := by simp at hn

theorem calls_stopBccBccAppFetchPoller (s : State Selection) :
    s.stopBccBccAppFetchPoller.calls = s.calls := by
  unfold State.stopBccBccAppFetchPoller
  split <;> rfl

theorem Inv.resetTransaction (hi : Inv s) (hp : ∀ c ∈ s.calls, c.isPrepare = false) :
    Inv s.resetTransaction := by
  have hstop : Inv s.stopBccBccAppFetchPoller := hi.tame (Tame.refl s).stopBccBccAppFetchPoller
  refine hstop.clear ?_ rfl (.inl rfl) (.inl (by decide)) none none
  rw [calls_stopBccBccAppFetchPoller]
  exact hp

/-! ## Initiation -/

theorem Integrity.lt_of_mem (h : Integrity s) {r : SignRequest Selection}
    (hr : r ∈ s.signRequests) {i : ℕ} (hi : r.initiation = some i) : i < s.initiations.length := by
  obtain ⟨j, init, hj, hinit, -⟩ := h.signed r hr
  obtain rfl : i = j := Option.some.inj (hi.symm.trans hj)
  exact (List.getElem?_eq_some_iff.1 hinit).1

theorem Inv.initiate (hi : Inv s) {walletId : String} (votingData : Option VotingData)
    (hw : ∀ w ∈ s.walletIds, w = walletId) (hs : ∀ c ∈ s.calls, c.isSigning = false) :
    Inv (s.initiate (some walletId) votingData) := by
  have hsigning : ∀ c ∈ s.calls, ¬ c.isSigning = true := fun c hc => by simp [hs c hc]
  refine ⟨⟨fun r hr => ?_, hi.once, hi.submitted⟩, fun _ => ?_, hi.exported, fun signing hc => ?_,
    fun isTrezor n hc => ?_, fun c hc => ?_, fun hb => ?_⟩
  · obtain ⟨i, init, hri, hinit, hrest⟩ := hi.signed r hr
    exact ⟨i, init, hri, List.getElem?_concat_eq_some.2 (.inl hinit), hrest⟩
  · refine ⟨⟨some walletId, s.txSignRequest, votingData⟩, walletId,
      ⟨s.initiations.length, rfl, List.getElem?_concat_length, fun r hr heq => ?_⟩, rfl, rfl, rfl, rfl,
      hw, List.filter_eq_nil_iff.2 hsigning, by simp [State.initiate, State.setInitiated]⟩
    exact Nat.lt_irrefl _ (hi.lt_of_mem hr heq)
  · exact absurd rfl (hsigning _ hc)
  · exact absurd rfl (hsigning _ hc)
  · exact absurd (mem_signing.1 hc).2 (hsigning c (mem_signing.1 hc).1)
  · simp [State.initiate, State.setInitiated] at hb

/-- A retry for the same wallet that has no voting data to lose. -/
theorem Tame.setInitiated (h : Tame s₀ s) (hw : Waiting s₀) {w : String}
    (hactive : s.activeVotingWalletId = some w) (hvoting : s.votingData = none) :
    Tame s₀ (s.setInitiated (some w) none) := by
  refine { h with session := ?_, waiting := fun _ => hw, status := fun hs => ?_ }
  · rw [← h.session]
    simp [State.setInitiated, State.session, hactive, hvoting]
  · simp [State.setInitiated] at hs

/-! ## The steps -/

theorem unfinished_getExtendedPublicKey (tables : Tables) (forcedPath walletId : Option String)
    (device : Option Device) :
    (s.getExtendedPublicKey tables forcedPath walletId [.establish device]).unfinishedWalletTxSigning =
      s.unfinishedWalletTxSigning := by
  unfold State.getExtendedPublicKey
  dsimp only
  split <;> rfl

theorem unfinished_stopBccBccAppFetchPoller (s : State Selection) :
    s.stopBccBccAppFetchPoller.unfinishedWalletTxSigning = s.unfinishedWalletTxSigning := by
  unfold State.stopBccBccAppFetchPoller
  split <;> rfl

/-- A connection that is established for no caller does not change which transaction is unfinished. -/
theorem unfinished_establishHardwareWalletConnection (s : State Selection) (tables : Tables) :
    (s.establishHardwareWalletConnection tables []).unfinishedWalletTxSigning =
      s.unfinishedWalletTxSigning := by
  unfold State.establishHardwareWalletConnection
  dsimp only
  split
  · split
    · unfold State.forceExport
      dsimp only
      split
      · split
        · exact unfinished_getExtendedPublicKey ..
        · rfl
      · rfl
    · split <;> rfl
  · split
    · split
      · rfl
      · unfold State.restoreWith
        dsimp only
        split
        · rw [if_pos rfl]
          exact unfinished_getExtendedPublicKey ..
        · exact unfinished_stopBccBccAppFetchPoller _
    · rfl

theorem Tame.startConnection (h : Tame s₀ s) (disconnected : Bool) (eventType : Option DeviceEvent)
    (tables : Tables) : Tame s₀ (s.startConnection disconnected eventType tables) := by
  unfold State.startConnection
  split
  · refine Tame.establishHardwareWalletConnection ?_ tables callersAllowed_nil
    exact h.write rfl id
  · exact h

theorem unfinished_startConnection (s : State Selection) (disconnected : Bool)
    (eventType : Option DeviceEvent) (tables : Tables) :
    (s.startConnection disconnected eventType tables).unfinishedWalletTxSigning =
      s.unfinishedWalletTxSigning := by
  unfold State.startConnection
  split
  · exact unfinished_establishHardwareWalletConnection ..
  · rfl

theorem Inv.statusChanged (hi : Inv s) (disconnected : Bool) (eventType : Option DeviceEvent)
    (tables : Tables) (hp : Proper s (.statusChanged disconnected eventType tables)) :
    Inv (s.statusChanged disconnected eventType tables) := by
  have htame := (Tame.refl s).startConnection disconnected eventType tables
  unfold State.statusChanged
  dsimp only
  rw [unfinished_startConnection]
  split
  · next hretry =>
      obtain ⟨w, hw⟩ := Option.isSome_iff_exists.1 hretry.1
      have hmem : w ∈ s.walletIds := mem_walletIds.2 (.inr (.inr hw))
      have hwait : Waiting s := .inr hretry.1
      -- The wallet of the retry is the one of the latest initiation.
      obtain ⟨init, w', ha⟩ := hi.awaiting hwait
      obtain rfl : w = w' := ha.walletIds w hmem
      unfold State.initiateTransaction
      rw [hw]
      refine hi.tame (Tame.findDevice ?_ tables fun w' hw' => ?_)
      · refine htame.setInitiated hwait (ha.tame htame).active ?_
        exact (congrArg Session.votingData htame.session).trans (hp hretry)
      · exact Option.some.inj hw' ▸ allowed_of_mem hmem
  · exact hi.tame htame

/-- The wallet of the transaction is recognized: nothing waits any more, and it can be put together. -/
theorem Inv.signTransaction (hi : Inv s) {init : Initiation Selection} {w : String}
    (ha : Awaiting s init w) (hw : ¬ Waiting s) (tables : Tables) (isTrezor : Bool)
    (deviceId : Option String) {devicePath : Option String} (he : (devicePath, w) ∈ s.exports) :
    Inv (s.signTransaction tables isTrezor w deviceId devicePath) := by
  have htame : Tame s { s with hwDeviceStatus := .verifyingTransaction } :=
    (Tame.refl s).write rfl (by simp)
  have hs := hi.tame htame
  unfold State.signTransaction
  dsimp only
  split
  · split
    · exact hi.tame (htame.write rfl (by simp))
    · exact hs
  · next coinSelection hcoins =>
      split
      · exact hs.suspend_prepare (ha.tame htame) hw isTrezor hcoins he
      · exact hs

/-- After a signature is prepared no wallet is waited for. -/
theorem Tame.signTransaction (h : Tame s₀ s) (tables : Tables) (isTrezor : Bool) (w : String)
    (deviceId devicePath : Option String) :
    Tame s₀ (s.signTransaction tables isTrezor w deviceId devicePath) ∨
      (s.signTransaction tables isTrezor w deviceId devicePath).signing ≠ [] := by
  have hs : Tame s₀ { s with hwDeviceStatus := .verifyingTransaction } := h.write rfl (by simp)
  unfold State.signTransaction
  dsimp only
  split
  · split
    · exact .inl (h.write rfl (by simp))
    · exact .inl hs
  · split
    · exact .inr (List.ne_nil_of_mem (mem_signing.2 ⟨List.mem_cons_self, rfl⟩))
    · exact .inl hs

theorem allowed_of_signing (hs : s.signing ≠ []) (w : String) : Allowed s w :=
  fun _ _ ha => absurd ha.signing hs

theorem Inv.recognized (hi : Inv s₀) (h : Tame s₀ s) (tables : Tables) (device : Device)
    (forcedPath : Option String) {walletId : Option String} (deviceId : Option String)
    {recognized : String} {callers : List Frame} (hw : ∀ w ∈ walletId, Allowed s₀ w)
    (hc : CallersAllowed s₀ callers) (he : (forcedPath.or device.path, recognized) ∈ s.exports) :
    Inv (s.recognized tables device forcedPath walletId deviceId recognized callers) := by
  unfold State.recognized
  split
  · next hinitiated =>
      split
      · next heq =>
          obtain ⟨init, w, ha⟩ := hi.awaiting (h.waiting (.inl hinitiated))
          obtain rfl : recognized = w := hw recognized heq init w ha
          have hfound : Tame s₀ { s with
              isTransactionInitiated := false
              unfinishedWalletTxSigning := none
              isExportKeyAborted := false } := (h.waitFor false none (by simp) (by simp)).write rfl id
          have hinv := (hi.tame hfound).signTransaction (ha.tame hfound) (by simp [Waiting]) tables
            (device.deviceType = some DeviceType.trezor) deviceId he
          -- The callers go on with a wallet that a transaction waits for, unless it is put together now.
          rcases hfound.signTransaction tables (device.deviceType = some DeviceType.trezor) recognized
            deviceId (forcedPath.or device.path) with htame | hsigning
          · exact hi.tame (htame.returnFromExport tables hc)
          · refine hinv.tame ((Tame.refl _).returnFromExport tables fun f _ w _ => ?_)
            exact allowed_of_signing hsigning w
      · exact hi.tame ((h.setUnfinished hinitiated hw).returnFromExport tables hc)
  · exact hi.tame (h.returnFromExport tables hc)

theorem Tame.setExports (h : Tame s₀ s) (e : Option String × String) :
    Tame s₀ { s with exports := e :: s.exports } where
  session := h.session
  exports e' he := List.mem_cons_of_mem _ (h.exports e' he)
  waiting := h.waiting
  status := h.status
  walletIds := h.walletIds
  signing := h.signing
  exported hx c hc e' he := List.mem_cons_of_mem _ (h.exported hx c hc e' he)

/-- What a call that goes on was called with. -/
theorem allowed_of_call {k : ℕ} {call : Call Selection} (hk : s.calls[k]? = some call) :
    (∀ w ∈ call.walletId, Allowed s w) ∧ CallersAllowed s call.callers := by
  have hmem : ∀ w ∈ call.walletIds, Allowed s w := fun w hw =>
    allowed_of_mem (mem_walletIds.2 (.inl ⟨call, List.mem_of_getElem? hk, hw⟩))
  refine ⟨fun w hw => hmem w (List.mem_append.2 (.inl (Option.mem_toList.2 hw))), fun f hf w hw => ?_⟩
  exact hmem w (List.mem_append.2 (.inr (List.mem_filterMap.2 ⟨f, hf, hw⟩)))

/-- An exported key is recognized or waits to be. -/
theorem Inv.exportKey (hi : Inv s₀) (h : Tame s₀ s) (tables : Tables) (device : Device)
    (forcedPath : Option String) {walletId : Option String} {callers : List Frame}
    (hw : ∀ w ∈ walletId, Allowed s₀ w) (hc : CallersAllowed s₀ callers) (key : ExtendedPublicKey)
    (hgo : s.goOn tables (.extendedPublicKey device forcedPath walletId callers) (.key key) = some s') :
    Inv s' := by
  unfold State.goOn at hgo
  dsimp only at hgo
  split at hgo
  · next wallet _ =>
      have hx : Tame s₀ { s with exports := (forcedPath.or device.path, wallet) :: s.exports } :=
        h.setExports _
      split at hgo
      · refine hi.tame_of_eq hgo (hx.suspend rfl hw hc fun e he => ?_)
        obtain rfl := Option.some.inj he
        exact List.mem_cons_self
      · exact Option.some.inj hgo ▸ hi.recognized hx tables device forcedPath _ hw hc List.mem_cons_self
  · split at hgo
    · next hinitiated =>
        exact hi.tame_of_eq hgo ((h.setUnfinished hinitiated hw).returnFromExport tables hc)
    · refine hi.tame_of_eq hgo (h.suspend rfl (by simp [Call.walletId]) hc ?_)
      simp [Call.export?]

/-- A call that looks for a device goes on. -/
theorem Inv.goOn (hi : Inv s₀) (h : Tame s₀ s) (tables : Tables) {call : Call Selection}
    {answer : Answer} (hs : call.isSigning = false) (hw : ∀ w ∈ call.walletId, Allowed s₀ w)
    (hc : CallersAllowed s₀ call.callers) (he : ∀ e ∈ call.export?, e ∈ s.exports)
    (hgo : s.goOn tables call answer = some s') : Inv s' := by
  cases call with
  | initiateTransport walletId =>
      have hcaller : CallersAllowed s₀ [.initiateTrezor walletId] := callersAllowed_singleton hw
      cases answer with
      | transport device _ =>
          cases device with
          | some _ =>
              exact hi.tame_of_eq hgo (h.establishHardwareWalletConnection tables hcaller)
          | none => exact hi.tame_of_eq hgo h.catchInitiate
      | failed failure => exact hi.tame_of_eq hgo h.catchInitiate
      | _ => simp [State.goOn] at hgo
  | establishTransport isTrezor activeWalletId callers =>
      cases answer with
      | transport device _ =>
          cases device with
          | some device => exact hi.tame_of_eq hgo (h.forceExport tables device isTrezor hw hc)
          | none =>
              have hnone : Tame s₀ { s with transportDevice := none } := h.write rfl id
              unfold State.goOn at hgo
              dsimp only at hgo
              split at hgo
              · exact hi.tame_of_eq hgo (hnone.throwTo tables .other hc)
              · exact hi.tame_of_eq hgo (hnone.returnDevice tables none hc)
      | failed failure =>
          exact hi.tame_of_eq hgo ((h.catchEstablish failure).throwTo tables failure hc)
      | _ => simp [State.goOn] at hgo
  | restoreTransport callers =>
      cases answer with
      | transport device isFirmwareVersionValid =>
          exact hi.tame_of_eq hgo (h.restoreWith tables device isFirmwareVersionValid hc)
      | failed failure =>
          exact hi.tame_of_eq hgo ((h.catchEstablish failure).throwTo tables failure hc)
      | _ => simp [State.goOn] at hgo
  | bccBccApp path walletId =>
      have hstop := h.stopBccBccAppFetchPoller
      cases answer with
      | app isValidAppVersion =>
          unfold State.goOn at hgo
          dsimp only at hgo
          split at hgo
          · exact hi.tame_of_eq hgo (hstop.getExtendedPublicKey tables path hw (callersAllowed_singleton hw))
          · exact hi.tame_of_eq hgo (hstop.write rfl (by simp))
          · exact hi.tame_of_eq hgo hstop
      | failed failure => exact hi.tame_of_eq hgo (h.catchBccBccApp tables path hw failure)
      | _ => simp [State.goOn] at hgo
  | pathChanged newPath walletId =>
      cases answer with
      | done => exact hi.tame_of_eq hgo (h.setPoller hw)
      | _ => simp [State.goOn] at hgo
  | extendedPublicKey device forcedPath walletId callers =>
      cases answer with
      | key key => exact hi.exportKey h tables device forcedPath hw hc key hgo
      | failed failure =>
          exact hi.tame_of_eq hgo ((h.catchExport _ failure).throwTo tables failure hc)
      | _ => simp [State.goOn] at hgo
  | unsetDevice device forcedPath walletId deviceId recognized callers =>
      cases answer with
      | done =>
          exact Option.some.inj hgo ▸ hi.recognized h tables device forcedPath deviceId hw hc (he _ rfl)
      | _ => simp [State.goOn] at hgo
  | createHardwareWallet isTrezor callers =>
      cases answer with
      | done => exact hi.tame_of_eq hgo (h.resetInitializedConnection.returnFromExport tables hc)
      | failed failure =>
          exact hi.tame_of_eq hgo ((h.catchExport isTrezor failure).throwTo tables failure hc)
      | _ => simp [State.goOn] at hgo
  | rejected =>
      cases answer with
      | done => exact hi.tame_of_eq hgo (h.write rfl (by simp))
      | _ => simp [State.goOn] at hgo
  | prepare _ | signTransaction _ _ | sendMoney => exact absurd hs (by simp [Call.isSigning])

/-- A transaction is put together. -/
theorem Inv.goOn_prepare (hi : Inv s) {k : ℕ} {signing : Signing Selection} {answer : Answer}
    (hk : s.calls[k]? = some (.prepare signing)) (hpaired : IsPaired tables (.prepare signing))
    (hgo : (s.takeOut k).goOn tables (.prepare signing) answer = some s') : Inv s' := by
  have hmem : .prepare signing ∈ s.signing := mem_signing.2 ⟨List.mem_of_getElem? hk, rfl⟩
  have hwait : ¬ Waiting (s.takeOut k) := hi.not_waiting hmem
  have hinv : Inv ((s.takeOut k).requestSignature signing signing.devicePath) :=
    (hi.takeOut k).requestSignature (hi.signing_takeOut hk rfl (by simp)) hwait
      (hi.alone _ hmem (by simp)).2 (hi.prepare signing (List.mem_of_getElem? hk))
  cases answer with
  | done =>
      -- `_signTransactionTrezor()` looks at the flag again, but `_getExtendedPublicKey()` has cleared it.
      have hinitiated : ¬ (s.takeOut k).isTransactionInitiated = true := fun h => hwait (.inl h)
      unfold State.goOn at hgo
      dsimp only at hgo
      split at hgo
      · next htrezor =>
          obtain ⟨device, hdevice, hpath⟩ := Option.map_eq_some_iff.1 (hpaired htrezor)
          unfold requestTrezor at hgo
          dsimp only at hgo
          rw [if_neg hinitiated, hdevice, Option.bind_some, hpath] at hgo
          exact Option.some.inj hgo ▸ hinv
      · exact Option.some.inj hgo ▸ hinv
  | failed failure => exact Option.some.inj hgo ▸ hi.takeOut k
  | _ => simp [State.goOn] at hgo

/-- A signature arrives, or the device refuses. -/
theorem Inv.goOn_signTransaction (hi : Inv s) {k : ℕ} {isTrezor : Bool} {n : ℕ} {answer : Answer}
    (hk : s.calls[k]? = some (.signTransaction isTrezor n))
    (hgo : (s.takeOut k).goOn tables (.signTransaction isTrezor n) answer = some s') : Inv s' := by
  have hmem : .signTransaction isTrezor n ∈ s.signing := mem_signing.2 ⟨List.mem_of_getElem? hk, rfl⟩
  have hwait : ¬ Waiting (s.takeOut k) := hi.not_waiting hmem
  cases answer with
  | done =>
      exact Option.some.inj hgo ▸ (hi.takeOut k).setTxBody (hi.signing_takeOut hk rfl (by simp)) hwait
        (hi.request isTrezor n (List.mem_of_getElem? hk))
  | failed failure =>
      have hun : ∀ w ∈ s.unfinishedWalletTxSigning, Waiting (s.takeOut k) ∧ Allowed (s.takeOut k) w :=
        fun w hw => absurd (.inr (Option.isSome_iff_exists.2 ⟨w, hw⟩)) hwait
      have htame := (Tame.refl (s.takeOut k)).waitFor (!isTrezor && s.isTransactionInitiated)
        s.unfinishedWalletTxSigning (fun h => .inl (Bool.and_eq_true_iff.1 h).2) hun
      exact Option.some.inj hgo ▸ (hi.takeOut k).tame (htame.write rfl (by simp))
  | _ => simp [State.goOn] at hgo

/-- A submission succeeds or fails. -/
theorem Inv.goOn_sendMoney (hi : Inv s) {k : ℕ} {answer : Answer}
    (hk : s.calls[k]? = some .sendMoney)
    (hgo : (s.takeOut k).goOn tables .sendMoney answer = some s') : Inv s' := by
  have hmem : .sendMoney ∈ s.signing := mem_signing.2 ⟨List.mem_of_getElem? hk, rfl⟩
  have hwait : ¬ Waiting (s.takeOut k) := hi.not_waiting hmem
  cases answer with
  | done => exact Option.some.inj hgo ▸ hi.takeOut k
  | failed failure =>
      have hprepare : ∀ c ∈ (s.takeOut k).calls, c.isPrepare = false := by
        intro c hc
        cases c with
        | prepare signing =>
            have hc : .prepare signing ∈ s.signing := mem_signing.2 ⟨mem_takeOut hc, rfl⟩
            have hone := (hi.alone _ hc (by simp)).1
            exact absurd (hone ▸ hmem) (by simp)
        | _ => rfl
      have hinitiated : s.isTransactionInitiated = false :=
        Bool.eq_false_iff.2 fun h => hwait (.inl h)
      exact Option.some.inj hgo ▸
        (hi.takeOut k).clear hprepare hinitiated (.inr rfl) (.inr rfl) _ _
  | _ => simp [State.goOn] at hgo

theorem Inv.answer (hi : Inv s) {k : ℕ} {call : Call Selection} {answer : Answer}
    (hk : s.calls[k]? = some call) (hpaired : IsPaired tables call)
    (hgo : (s.takeOut k).goOn tables call answer = some s') : Inv s' := by
  cases hs : call.isSigning with
  | false =>
      obtain ⟨hw, hc⟩ := allowed_of_call hk
      exact hi.goOn (Tame.takeOut hk hs) tables hs hw hc
        (hi.exported call (List.mem_of_getElem? hk)) hgo
  | true =>
      cases call with
      | prepare signing => exact hi.goOn_prepare hk hpaired hgo
      | signTransaction isTrezor n => exact hi.goOn_signTransaction hk hgo
      | sendMoney => exact hi.goOn_sendMoney hk hgo
      | _ => simp [Call.isSigning] at hs

theorem Inv.selectCoins (hi : Inv s) {coinSelection : Option Selection}
    (hp : Proper s (.selectCoins coinSelection)) : Inv { s with txSignRequest := coinSelection } := by
  rcases hp with rfl | ⟨hinitiated, hunfinished⟩
  · exact hi
  · exact { hi with
      toIntegrity := hi.toIntegrity.congr rfl rfl rfl
      awaiting := fun hw => by simp [Waiting, hinitiated, hunfinished] at hw }

/-- **One step.** -/
theorem inv_step {e : Event Selection} (hp : Proper s e) (hi : Inv s)
    (hs : (machine Selection).step s e = some s') : Inv s' := by
  cases e with
  | initiateTransaction walletId votingData tables =>
      obtain ⟨hsome, hw, hsigning⟩ := hp
      obtain ⟨walletId, rfl⟩ := Option.isSome_iff_exists.1 hsome
      have hinit := hi.initiate votingData (fun w hmem => (Option.some.inj (hw w hmem)).symm) hsigning
      refine Option.some.inj hs ▸ hinit.tame ((Tame.refl _).findDevice tables fun w hmem _ _ ha => ?_)
      exact (Option.some.inj hmem).symm.trans (Option.some.inj ha.active)
  | resetTransaction => exact Option.some.inj hs ▸ hi.resetTransaction hp
  | resetInitializedConnection =>
      exact hi.tame_of_eq hs (Tame.refl s).resetInitializedConnection
  | selectCoins coinSelection => exact Option.some.inj hs ▸ hi.selectCoins hp
  | statusChanged disconnected eventType tables =>
      exact Option.some.inj hs ▸ hi.statusChanged disconnected eventType tables hp
  | tick i =>
      unfold machine step at hs
      dsimp only at hs
      split at hs
      · next poller hpoller =>
          refine hi.tame_of_eq hs ((Tame.refl s).getBccBccApp poller.path fun w hw => ?_)
          exact allowed_of_mem (mem_walletIds.2 (.inr (.inl ⟨poller, List.mem_of_getElem? hpoller, hw⟩)))
      · simp at hs
  | answer k answer tables =>
      obtain ⟨call, hk, hgo⟩ := Option.bind_eq_some_iff.1 hs
      exact hi.answer hk (hp call hk) hgo
  | sendMoney => exact Option.some.inj hs ▸ hi.sendMoney hp.1 hp.2.1 hp.2.2

theorem inv_reaches (h : (machine Selection).Reaches Proper s) : Inv s :=
  h.invariant inv_init fun _ _ _ _ hp hi hs => inv_step hp hi hs

def trezor (id : String) : Device where
  path := some id
  deviceType := some .trezor
  deviceId := some id

def trezorTables (devices : List HardwareWalletDevice) : Tables where
  hardwareWalletDevices := devices
  hardwareWalletsConnectionData := [⟨"A", true, trezor "A", ⟨"aa", "a0", some "A"⟩⟩]
  active := some "A"
  wallets := ["A"]

/-- The Trezor `B` is asked first; its key is not the one of the wallet `A`. Then `A` is connected. -/
def retry (votingData : Option VotingData) : List (Event String) :=
  let unpaired := trezorTables []
  let paired := trezorTables
    [{ toDevice := trezor "A", id := "A", paired := some "A", disconnected := false }]
  [.selectCoins (some "coins"), .initiateTransaction (some "A") votingData unpaired,
    .answer 0 (.transport (some (trezor "B")) true) unpaired,
    .answer 0 (.transport (some (trezor "B")) true) unpaired,
    .answer 0 (.key ⟨"bb", "b0", some "B"⟩) unpaired,
    .statusChanged false (some .connect) unpaired,
    .answer 0 (.transport (some (trezor "A")) true) unpaired,
    .answer 0 (.transport (some (trezor "A")) true) unpaired,
    .answer 0 (.key ⟨"aa", "a0", some "A"⟩) unpaired,
    .answer 0 .done paired, .answer 0 .done paired, .sendMoney]

end Klarity.HardwareWallets.SigningSession
