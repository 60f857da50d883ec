import Klarity.Library.Lists
import Klarity.Renderer.Stores.HardwareWallets.SigningSession
import Mathlib.Tactic.Common

set_option autoImplicit false

/-! # The session of a transaction

The steps of a transaction share the fields of the store with whatever else is under way, so what is
signed is what was initiated only if nothing else changes the fields meanwhile (`Proper`).

Most functions only look for a device: they leave alone what a transaction is made of, and pass on the
wallet that they were called with. `Tame` says so once for all of them. -/

namespace Klarity.HardwareWallets.SigningSession

variable {Selection : Type} {s s₀ s' : State Selection} {tables : Tables}

open State

/-! ## Integrity -/

/-- What goes to a device or is submitted belongs to the latest initiation that is not reset. -/
structure Integrity (s : State Selection) : Prop where
  signed : ∀ r ∈ s.signRequests, ∃ i init, r.initiation = some i ∧ s.initiations[i]? = some init ∧
    init.walletId = some r.walletId ∧ init.coinSelection = some r.coinSelection ∧
    init.votingData = r.votingData ∧ (r.devicePath, r.walletId) ∈ r.exports
  once : (s.signRequests.map fun r => r.initiation).Nodup
  submitted : ∀ b ∈ s.submissions, ∃ n r, b.body = some n ∧ s.signRequests[n]? = some r ∧
    r.initiation = b.initiation

def Frame.walletId : Frame → Option String
  | .initiateLedger walletId | .initiateTrezor walletId => some walletId
  | .establish _ => none
  | .bccBccApp _ walletId => walletId

namespace Call

def callers : Call Selection → List Frame
  | .establishTransport _ _ callers | .restoreTransport callers | .extendedPublicKey _ _ _ callers
  | .unsetDevice _ _ _ _ _ callers | .createHardwareWallet _ callers => callers
  | _ => []

def walletId : Call Selection → Option String
  | .initiateTransport walletId => some walletId
  | .establishTransport _ walletId _ | .bccBccApp _ walletId | .pathChanged _ walletId
  | .extendedPublicKey _ _ walletId _ | .unsetDevice _ _ walletId _ _ _ => walletId
  | _ => none

/-- The wallets that a call is made for. -/
def walletIds (call : Call Selection) : List String :=
  call.walletId.toList ++ call.callers.filterMap Frame.walletId

/-- A transaction is being put together, signed or submitted. -/
def isSigning : Call Selection → Bool
  | .prepare _ | .signTransaction .. | .sendMoney => true
  | _ => false

def isPrepare : Call Selection → Bool
  | .prepare _ => true
  | _ => false

/-- The exported key that a call still has to recognize. -/
def export? : Call Selection → Option (Option String × String)
  | .unsetDevice device forcedPath _ _ recognized _ => some (forcedPath.or device.path, recognized)
  | _ => none

end Call

/-- The wallets that something is under way for. -/
def State.walletIds (s : State Selection) : List String :=
  s.calls.flatMap Call.walletIds ++
    s.intervals.filterMap (fun poller => poller.bind fun poller => poller.walletId) ++
    s.unfinishedWalletTxSigning.toList

/-- The Trezor that is paired with the wallet is the one that exported its key. -/
def IsPaired (tables : Tables) : Call Selection → Prop
  | .prepare signing => signing.isTrezor = true →
      (tables.pairedDevice signing.walletId).map (fun device => device.path) = some signing.devicePath
  | _ => True

/-- Nothing else touches a transaction. In turn: it is initiated for a wallet while nothing is under way
    for another one and nothing is signed or submitted; it is not reset while it is put together; its coin
    selection is not replaced while it waits for its device; a retry has no voting data to lose; a Trezor
    is paired by the time it is asked; and it is submitted once it is signed and unless it is reset. -/
def Proper (s : State Selection) : Event Selection → Prop
  | .initiateTransaction walletId _ _ =>
      walletId.isSome ∧ (∀ w ∈ s.walletIds, walletId = some w) ∧ ∀ c ∈ s.calls, c.isSigning = false
  | .resetTransaction => ∀ c ∈ s.calls, c.isPrepare = false
  | .selectCoins coinSelection => coinSelection = s.txSignRequest ∨
      (s.isTransactionInitiated = false ∧ s.unfinishedWalletTxSigning = none)
  | .statusChanged disconnected eventType _ =>
      s.unfinishedWalletTxSigning.isSome ∧ !disconnected ∧ eventType = some .connect →
        s.votingData = none
  | .answer k _ tables => ∀ c ∈ s.calls[k]?, IsPaired tables c
  | .sendMoney => s.hwDeviceStatus = .verifyingTransactionSucceeded ∧ s.txBody.isSome ∧ s.current.isSome
  | .resetInitializedConnection | .tick _ => True

instance decidableIsPaired (tables : Tables) : (c : Call Selection) → Decidable (IsPaired tables c)
  | .prepare _ => inferInstanceAs (Decidable (_ → _))
  | .initiateTransport _ | .establishTransport .. | .restoreTransport _ | .bccBccApp ..
  | .pathChanged .. | .extendedPublicKey .. | .unsetDevice .. | .createHardwareWallet .. | .rejected
  | .signTransaction .. | .sendMoney => isTrue trivial

instance decidableProper [DecidableEq Selection] (s : State Selection) :
    (e : Event Selection) → Decidable (Proper s e)
  | .initiateTransaction .. => inferInstanceAs (Decidable (_ ∧ (∀ w ∈ _, _) ∧ ∀ c ∈ _, _))
  | .resetTransaction => inferInstanceAs (Decidable (∀ c ∈ _, _))
  | .selectCoins _ => inferInstanceAs (Decidable (_ ∨ _))
  | .statusChanged .. => inferInstanceAs (Decidable (_ → _))
  | .answer .. => inferInstanceAs (Decidable (∀ c ∈ _, _))
  | .sendMoney => inferInstanceAs (Decidable (_ ∧ _ ∧ _))
  | .resetInitializedConnection | .tick _ => isTrue trivial

/-! ## The invariant -/

/-- The calls that put together, sign or submit a transaction. -/
def State.signing (s : State Selection) : List (Call Selection) :=
  s.calls.filter Call.isSigning

/-- The latest initiation is not reset, and nothing was asked to be signed for it. -/
def Unsigned (s : State Selection) (init : Initiation Selection) : Prop :=
  ∃ i, s.current = some i ∧ s.initiations[i]? = some init ∧
    ∀ r ∈ s.signRequests, r.initiation ≠ some i

/-- A key that starts a signature is looked for. -/
def Waiting (s : State Selection) : Prop :=
  s.isTransactionInitiated = true ∨ s.unfinishedWalletTxSigning.isSome

/-- A transaction for the wallet waits for its device. -/
structure Awaiting (s : State Selection) (init : Initiation Selection) (walletId : String) : Prop where
  unsigned : Unsigned s init
  wallet : init.walletId = some walletId
  coinSelection : init.coinSelection = s.txSignRequest
  votingData : init.votingData = s.votingData
  active : s.activeVotingWalletId = some walletId
  walletIds : ∀ w ∈ s.walletIds, w = walletId
  signing : s.signing = []
  status : s.hwDeviceStatus ≠ .verifyingTransactionSucceeded

/-- What is put together is the transaction that was initiated. -/
def Ready (s : State Selection) (signing : Signing Selection) : Prop :=
  ∃ init, Unsigned s init ∧ init.walletId = some signing.walletId ∧
    init.coinSelection = some signing.coinSelection ∧ init.votingData = s.votingData ∧
    (signing.devicePath, signing.walletId) ∈ s.exports

/-- The sign request is the one of the latest initiation, unless that is reset. -/
def Owned (s : State Selection) (n : ℕ) : Prop :=
  ∃ r, s.signRequests[n]? = some r ∧ (s.current = none ∨ r.initiation = s.current)

/-- A key that is being recognized was exported. -/
def Exported (s : State Selection) : Prop :=
  ∀ c ∈ s.calls, ∀ e ∈ c.export?, e ∈ s.exports

structure Inv (s : State Selection) : Prop extends Integrity s where
  awaiting : Waiting s → ∃ init walletId, Awaiting s init walletId
  exported : Exported s
  prepare : ∀ signing, .prepare signing ∈ s.calls → Ready s signing
  request : ∀ isTrezor n, .signTransaction isTrezor n ∈ s.calls → Owned s n
  alone : ∀ c ∈ s.signing, c ≠ .sendMoney →
    s.signing = [c] ∧ s.hwDeviceStatus ≠ .verifyingTransactionSucceeded
  body : s.hwDeviceStatus = .verifyingTransactionSucceeded → ∀ n, s.txBody = some n → Owned s n

theorem inv_init : Inv ({} : State Selection) := by
  refine ⟨⟨?_, ?_, ?_⟩, ?_, ?_, ?_, ?_, ?_, ?_⟩ <;> simp [State.signing, Waiting, Exported]

/-! ## Steps that only look for a device -/

/-- What a transaction is made of. -/
structure Session (Selection : Type) where
  initiations : List (Initiation Selection)
  current : Option ℕ
  signRequests : List (SignRequest Selection)
  submissions : List Submission
  txSignRequest : Option Selection
  txBody : Option ℕ
  votingData : Option VotingData
  activeVotingWalletId : Option String

def State.session (s : State Selection) : Session Selection where
  initiations := s.initiations
  current := s.current
  signRequests := s.signRequests
  submissions := s.submissions
  txSignRequest := s.txSignRequest
  txBody := s.txBody
  votingData := s.votingData
  activeVotingWalletId := s.activeVotingWalletId

/-- The wallet is the one that a transaction waits for, if there is one. -/
def Allowed (s : State Selection) (walletId : String) : Prop :=
  ∀ init w, Awaiting s init w → walletId = w

/-- The wallets that callers are waiting for. -/
def CallersAllowed (s₀ : State Selection) (callers : List Frame) : Prop :=
  ∀ f ∈ callers, ∀ w ∈ f.walletId, Allowed s₀ w

theorem callersAllowed_nil : CallersAllowed s₀ [] :=
  fun _ hf => absurd hf List.not_mem_nil

/-- The caller that establishes the connection waits for any wallet. -/
theorem CallersAllowed.establish {callers : List Frame} (hc : CallersAllowed s₀ callers)
    (device : Option Device) : CallersAllowed s₀ (.establish device :: callers) :=
  List.forall_mem_cons.2 ⟨by simp [Frame.walletId], hc⟩

/-- `initiateTransaction()` waits for the wallet that it was called with. -/
theorem callersAllowed_singleton {f : Frame} (hw : ∀ w ∈ f.walletId, Allowed s₀ w) :
    CallersAllowed s₀ [f] :=
  List.forall_mem_singleton.2 hw

/-- From `s₀` to `s` only a device was looked for. -/
structure Tame (s₀ s : State Selection) : Prop where
  session : s.session = s₀.session
  exports : ∀ e ∈ s₀.exports, e ∈ s.exports
  waiting : Waiting s → Waiting s₀
  status : s.hwDeviceStatus = .verifyingTransactionSucceeded →
    s₀.hwDeviceStatus = .verifyingTransactionSucceeded
  walletIds : ∀ w ∈ s.walletIds, Allowed s₀ w
  signing : s.signing = s₀.signing
  exported : Exported s₀ → Exported s

theorem mem_walletIds {w : String} : w ∈ s.walletIds ↔ (∃ c ∈ s.calls, w ∈ c.walletIds) ∨
    (∃ p, some p ∈ s.intervals ∧ p.walletId = some w) ∨ s.unfinishedWalletTxSigning = some w := by
  simp [State.walletIds, Option.bind_eq_some_iff]

theorem mem_signing {c : Call Selection} :
    c ∈ s.signing ↔ c ∈ s.calls ∧ c.isSigning = true :=
  List.mem_filter

theorem allowed_of_mem {w : String} (h : w ∈ s.walletIds) : Allowed s w :=
  fun _ _ ha => ha.walletIds w h

theorem Tame.refl (s : State Selection) : Tame s s :=
  ⟨rfl, fun _ h => h, id, id, fun _ => allowed_of_mem, rfl, id⟩

/-- The fields that matter here, other than the status. -/
def State.core (s : State Selection) :=
  (s.session, s.exports, s.calls, s.intervals, s.unfinishedWalletTxSigning, s.isTransactionInitiated)

/-- Other fields are written. -/
theorem Tame.write (h : Tame s₀ s) (hcore : s'.core = s.core)
    (hstatus : s'.hwDeviceStatus = .verifyingTransactionSucceeded →
      s.hwDeviceStatus = .verifyingTransactionSucceeded) : Tame s₀ s' := by
  simp only [State.core, Prod.mk.injEq] at hcore
  obtain ⟨hsession, hexports, hcalls, hintervals, hunfinished, hinitiated⟩ := hcore
  refine ⟨hsession.trans h.session, ?_, ?_, fun hs => h.status (hstatus hs), ?_, ?_, ?_⟩
  · rw [hexports]
    exact h.exports
  · unfold Waiting
    rw [hunfinished, hinitiated]
    exact h.waiting
  · unfold State.walletIds
    rw [hcalls, hintervals, hunfinished]
    exact h.walletIds
  · unfold State.signing
    rw [hcalls]
    exact h.signing
  · unfold Exported
    rw [hcalls, hexports]
    exact h.exported

theorem Tame.suspend (h : Tame s₀ s) {call : Call Selection} (hs : call.isSigning = false)
    (hw : ∀ w ∈ call.walletId, Allowed s₀ w) (hcallers : CallersAllowed s₀ call.callers)
    (he : ∀ e ∈ call.export?, e ∈ s.exports) : Tame s₀ (s.suspend call) := by
  refine ⟨h.session, h.exports, h.waiting, h.status, fun w hmem => ?_, ?_, fun hx c hc => ?_⟩
  · rcases mem_walletIds.1 hmem with ⟨c, hc, hcw⟩ | hrest
    · rcases List.mem_cons.1 hc with rfl | hc
      · rcases List.mem_append.1 hcw with hcw | hcw
        · exact hw w (Option.mem_toList.1 hcw)
        · obtain ⟨f, hf, hfw⟩ := List.mem_filterMap.1 hcw
          exact hcallers f hf w hfw
      · exact h.walletIds w (mem_walletIds.2 (.inl ⟨c, hc, hcw⟩))
    · exact h.walletIds w (mem_walletIds.2 (.inr hrest))
  · rw [← h.signing]
    unfold State.signing State.suspend
    rw [List.filter_cons_of_neg (by simp [hs])]
  · rcases List.mem_cons.1 hc with rfl | hc
    · exact he
    · exact h.exported hx c hc

/-! ## Pollers -/

theorem Tame.intervals (h : Tame s₀ s) {intervals : List (Option Poller)} (i : Option ℕ)
    (hi : ∀ p, some p ∈ intervals → some p ∈ s.intervals ∨ ∀ w ∈ p.walletId, Allowed s₀ w) :
    Tame s₀ { s with intervals := intervals, bccBccAppPollingInterval := i } := by
  refine { h with walletIds := fun w hmem => ?_ }
  rcases mem_walletIds.1 hmem with hcall | ⟨p, hp, hpw⟩ | hun
  · exact h.walletIds w (mem_walletIds.2 (.inl hcall))
  · rcases hi p hp with hp | hp
    · exact h.walletIds w (mem_walletIds.2 (.inr (.inl ⟨p, hp, hpw⟩)))
    · exact hp w hpw
  · exact h.walletIds w (mem_walletIds.2 (.inr (.inr hun)))

theorem Tame.stopBccBccAppFetchPoller (h : Tame s₀ s) : Tame s₀ s.stopBccBccAppFetchPoller := by
  unfold State.stopBccBccAppFetchPoller
  split
  · refine h.intervals _ fun p hp => .inl ?_
    exact (List.mem_or_eq_of_mem_set hp).resolve_right (by simp)
  · exact h

theorem Tame.setPoller (h : Tame s₀ s) {poller : Poller} (hw : ∀ w ∈ poller.walletId, Allowed s₀ w) :
    Tame s₀ (s.setPoller poller) := by
  refine h.intervals _ fun p hp => ?_
  rcases List.mem_append.1 hp with hp | hp
  · exact .inl hp
  · obtain rfl : p = poller := by simpa using hp
    exact .inr hw

theorem Tame.pollBccBccApp (h : Tame s₀ s) (devicePath : Option String) {walletId : String}
    (hw : Allowed s₀ walletId) : Tame s₀ (s.pollBccBccApp devicePath walletId) := by
  refine h.stopBccBccAppFetchPoller.setPoller fun w hmem => ?_
  obtain rfl : walletId = w := by simpa using hmem
  exact hw

/-! ## Errors -/

theorem Tame.waitFor (h : Tame s₀ s) (initiated : Bool) (unfinished : Option String)
    (hi : initiated = true → Waiting s₀)
    (hu : ∀ w ∈ unfinished, Waiting s₀ ∧ Allowed s₀ w) :
    Tame s₀ { s with isTransactionInitiated := initiated, unfinishedWalletTxSigning := unfinished } := by
  refine { h with waiting := fun hs => ?_, walletIds := fun w hmem => ?_ }
  · rcases hs with hs | hs
    · exact hi hs
    · obtain ⟨w, hw⟩ := Option.isSome_iff_exists.1 hs
      exact (hu w hw).1
  · rcases mem_walletIds.1 hmem with hcall | hpoller | hun
    · exact h.walletIds w (mem_walletIds.2 (.inl hcall))
    · exact h.walletIds w (mem_walletIds.2 (.inr (.inl hpoller)))
    · exact (hu w hun).2

theorem Tame.setUnfinished (h : Tame s₀ s) (hi : s.isTransactionInitiated = true)
    {walletId : Option String} (hw : ∀ w ∈ walletId, Allowed s₀ w) :
    Tame s₀ (s.setUnfinished walletId) := by
  have hwait : Waiting s₀ := h.waiting (.inl hi)
  exact (h.waitFor _ walletId (fun _ => hwait) fun w hmem => ⟨hwait, hw w hmem⟩).write rfl
    (by simp [State.setUnfinished])

theorem Tame.catchInitiate (h : Tame s₀ s) : Tame s₀ s.catchInitiate := by
  have hu : ∀ w ∈ s.unfinishedWalletTxSigning, Waiting s₀ ∧ Allowed s₀ w := fun w hw =>
    ⟨h.waiting (.inr (Option.isSome_iff_exists.2 ⟨w, hw⟩)),
      h.walletIds w (mem_walletIds.2 (.inr (.inr hw)))⟩
  exact (h.waitFor false _ (by simp) hu).write rfl (by simp [State.catchInitiate])

theorem Tame.catchBccBccApp (h : Tame s₀ s) (tables : Tables) (path : Option String)
    {walletId : Option String} (hw : ∀ w ∈ walletId, Allowed s₀ w) (failure : Failure) :
    Tame s₀ (s.catchBccBccApp tables path walletId failure) := by
  have hstop := h.stopBccBccAppFetchPoller
  unfold State.catchBccBccApp
  split
  · refine (hstop.waitFor s.stopBccBccAppFetchPoller.isTransactionInitiated
      (if s.isTransactionInitiated then walletId else none) (fun hi => hstop.waiting (.inl hi)) ?_).write
      rfl (by simp)
    intro w hmem
    split at hmem
    · next hi => exact ⟨h.waiting (.inl hi), hw w hmem⟩
    · simp at hmem
  · exact hstop.write rfl (by simp)
  · split
    · exact hstop.suspend rfl hw callersAllowed_nil (by simp [Call.export?])
    · exact hstop
  · exact h

theorem Tame.catchEstablish (h : Tame s₀ s) (failure : Failure) :
    Tame s₀ (s.catchEstablish failure) := by
  unfold State.catchEstablish
  split
  · exact h.write rfl (by simp)
  · exact h

theorem Tame.throwTo (h : Tame s₀ s) (tables : Tables) (failure : Failure) {callers : List Frame}
    (hc : CallersAllowed s₀ callers) : Tame s₀ (s.throwTo tables failure callers) := by
  induction callers generalizing s with
  | nil => exact h
  | cons f callers ih =>
      obtain ⟨hf, htail⟩ := List.forall_mem_cons.1 hc
      cases f with
      | initiateLedger walletId => exact h.catchInitiate
      | initiateTrezor walletId => exact h
      | establish device => exact ih (h.catchEstablish failure) htail
      | bccBccApp path walletId => exact h.catchBccBccApp tables path hf failure

theorem Tame.catchExport (h : Tame s₀ s) (isTrezor : Bool) (failure : Failure) :
    Tame s₀ (s.catchExport isTrezor failure) := by
  unfold State.catchExport
  split
  · split
    · exact h.suspend rfl (by simp [Call.walletId]) callersAllowed_nil (by simp [Call.export?])
    · exact h.stopBccBccAppFetchPoller.write rfl (by simp)
  · exact h.stopBccBccAppFetchPoller.write rfl (by simp)
  · exact h.write rfl (by simp)

/-! ## The export of the key -/

theorem Tame.getExtendedPublicKey (h : Tame s₀ s) (tables : Tables) (forcedPath : Option String)
    {walletId : Option String} {callers : List Frame} (hw : ∀ w ∈ walletId, Allowed s₀ w)
    (hc : CallersAllowed s₀ callers) :
    Tame s₀ (s.getExtendedPublicKey tables forcedPath walletId callers) := by
  have hs : Tame s₀ { s with hwDeviceStatus := .exportingPublicKey } := h.write rfl (by simp)
  unfold State.getExtendedPublicKey
  dsimp only
  split
  · exact hs.throwTo tables .other hc
  · exact hs.suspend rfl hw hc (by simp [Call.export?])

theorem Tame.returnDevice (h : Tame s₀ s) (tables : Tables) (device : Option Device)
    {callers : List Frame} (hc : CallersAllowed s₀ callers) :
    Tame s₀ (s.returnDevice tables device callers) := by
  unfold State.returnDevice
  split
  · next walletId _ =>
      split
      · exact h.pollBccBccApp _ (hc _ List.mem_cons_self walletId rfl)
      · exact h.catchInitiate
  · next walletId _ =>
      split
      · next device =>
          have hs : Tame s₀ { s with transportDevice := some device } := h.write rfl id
          exact hs.getExtendedPublicKey tables _ (hc _ List.mem_cons_self) callersAllowed_nil
      · exact h
  · exact h

theorem Tame.returnFromExport (h : Tame s₀ s) (tables : Tables) {callers : List Frame}
    (hc : CallersAllowed s₀ callers) : Tame s₀ (s.returnFromExport tables callers) := by
  unfold State.returnFromExport
  split
  · exact h.returnDevice tables _ (List.forall_mem_cons.1 hc).2
  · exact h

/-! ## The connection -/

theorem Tame.activeWalletId (h : Tame s₀ s) (hi : s.isTransactionInitiated = true) (tables : Tables) :
    ∀ w ∈ s.activeWalletId tables, Allowed s₀ w := by
  intro w hmem init w₀ ha
  have hactive : s.activeVotingWalletId = some w₀ :=
    (congrArg Session.activeVotingWalletId h.session).trans ha.active
  have hw : some w₀ = some w := by simpa [State.activeWalletId, hi, hactive] using hmem
  exact (Option.some.inj hw).symm

theorem Tame.forceExport (h : Tame s₀ s) (tables : Tables) (device : Device) (isTrezor : Bool)
    {activeWalletId : Option String} {callers : List Frame}
    (hw : ∀ w ∈ activeWalletId, Allowed s₀ w) (hc : CallersAllowed s₀ callers) :
    Tame s₀ (s.forceExport tables device isTrezor activeWalletId callers) := by
  have hs : Tame s₀ { s with transportDevice := some device } := h.write rfl id
  unfold State.forceExport
  dsimp only
  split
  · split
    · exact hs.getExtendedPublicKey tables _ hw (hc.establish _)
    · exact (hs.setPoller hw).returnDevice tables _ hc
  · exact hs.returnDevice tables _ hc

theorem Tame.restoreWith (h : Tame s₀ s) (tables : Tables) (device : Option Device)
    (isFirmwareVersionValid : Bool) {callers : List Frame} (hc : CallersAllowed s₀ callers) :
    Tame s₀ (s.restoreWith tables device isFirmwareVersionValid callers) := by
  unfold State.restoreWith
  split
  · refine Tame.throwTo ?_ tables .other hc
    exact h.write rfl (by simp)
  · next device =>
      have hs : Tame s₀ { s with transportDevice := some device } := h.write rfl id
      split
      · split
        · exact hs.getExtendedPublicKey tables _ (by simp) (hc.establish _)
        · refine Tame.throwTo ?_ tables .other hc
          exact h.write rfl (by simp)
      · exact (hs.stopBccBccAppFetchPoller.setPoller (by simp)).returnDevice tables _ hc

theorem Tame.establishHardwareWalletConnection (h : Tame s₀ s) (tables : Tables)
    {callers : List Frame} (hc : CallersAllowed s₀ callers) :
    Tame s₀ (s.establishHardwareWalletConnection tables callers) := by
  have hs : Tame s₀ { s with hwDeviceStatus := .connecting } := h.write rfl (by simp)
  unfold State.establishHardwareWalletConnection
  dsimp only
  split
  · next hi =>
      have hw := hs.activeWalletId hi tables
      split
      · exact hs.forceExport tables _ _ hw hc
      · split
        · exact hs.suspend rfl hw hc (by simp [Call.export?])
        · exact hs.returnDevice tables none hc
  · split
    · split
      · exact hs.suspend rfl (by simp [Call.walletId]) hc (by simp [Call.export?])
      · exact hs.restoreWith tables _ true hc
    · refine Tame.returnDevice ?_ tables none hc
      exact hs.write rfl id

theorem Tame.findDevice (h : Tame s₀ s) (tables : Tables) {walletId : Option String}
    (hw : ∀ w ∈ walletId, Allowed s₀ w) : Tame s₀ (s.findDevice tables walletId) := by
  unfold State.findDevice
  split
  · next walletId _ =>
      have ha : Allowed s₀ walletId := hw walletId rfl
      split
      · split
        · exact h.suspend rfl hw callersAllowed_nil (by simp [Call.export?])
        · exact h.establishHardwareWalletConnection tables (callersAllowed_singleton hw)
      · split
        · exact h.establishHardwareWalletConnection tables (callersAllowed_singleton hw)
        · exact h.pollBccBccApp _ ha
  · exact h

theorem Tame.resetInitializedConnection (h : Tame s₀ s) : Tame s₀ s.resetInitializedConnection :=
  h.stopBccBccAppFetchPoller.write rfl (by simp [State.resetInitializedConnection])

theorem Tame.getBccBccApp (h : Tame s₀ s) (path : Option String) {walletId : Option String}
    (hw : ∀ w ∈ walletId, Allowed s₀ w) : Tame s₀ (s.getBccBccApp path walletId) := by
  have hs : Tame s₀ { s with hwDeviceStatus := .launchingBccApp } := h.write rfl (by simp)
  exact hs.suspend rfl hw callersAllowed_nil (by simp [Call.export?])

end Klarity.HardwareWallets.SigningSession
