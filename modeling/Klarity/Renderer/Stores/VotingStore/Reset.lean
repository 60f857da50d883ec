import Klarity.Renderer.Stores.Lib.Request.Awaited
import Klarity.Renderer.Stores.VotingStore

set_option autoImplicit false

/-! # What outlives a reset of the voting registration

`_resetRegistration()` clears the polling interval and the fields, and leaves alone whatever is suspended: a
send, a poll, the generation of a QR code, and the intervals of the hardware wallet store. A registration
is on its own in runs that reset it only when none of these is left, and a confirmation is of the
transaction named in runs in which polls and sends do not overtake each other. -/

namespace Klarity.VotingStore

open Request (Awaited Recorded settled openCall settled_eq_none exists_call_of_settled
  openCall_eq_some)

variable {Key PublicKey : Type} {publicKey : Key → PublicKey} {isHardwareWallet : String → Bool}
  {isDev : Bool} {s s' : State Key PublicKey} {e : Event Key}

/-! ## What is promised -/

/-- The fields that show how far a registration is. -/
def progress (s : State Key PublicKey) : ℤ × Option ℕ × ℕ × Bool × Bool :=
  (s.registrationStep, s.transactionId, s.transactionConfirmations, s.isTransactionPending,
    s.isTransactionConfirmed)

/-- What goes on was started before the last reset, or it is a poll that is given the answer to one that
    was. -/
def Outdated (s : State Key PublicKey) : Event Key → Prop
  | .resume i _ => ∃ task, s.tasks[i]? = some task ∧
      (task.registration < s.registrations ∨
        ∃ p call, task.phase = .poll (some p) ∧ s.getTransactionRequest.calls[p]? = some call ∧
          call.args.registration < s.registrations)
  | .pollingInterval => ∃ registration,
      s.transactionPollingInterval = some registration ∧ registration < s.registrations
  | .checkTransactionFound i => ∃ interval,
      s.checkTransactions[i]? = some interval ∧ interval.registration < s.registrations
  | _ => False

/-- Nothing from before the last reset changes how far the registration is. -/
def Isolated (publicKey : Key → PublicKey) (isHardwareWallet : String → Bool) (isDev : Bool)
    (s : State Key PublicKey) : Prop :=
  ∀ e s', Outdated s e → step publicKey isHardwareWallet isDev s e = some s' → progress s' = progress s

/-- The transaction named was reported with enough confirmations. -/
def ConfirmationReported (isDev : Bool) (s : State Key PublicKey) : Prop :=
  s.isTransactionConfirmed = true → ∃ id confirmations, s.transactionId = some id ∧
    minTransactionConfirmations isDev ≤ confirmations ∧ (id, confirmations) ∈ s.reports

/-- A send, a QR code or a poll; the others leave the registration where it is. -/
def Phase.isRegistration : Phase PublicKey → Bool
  | .stakeAddressHex .send | .generateKey .send | .keyGenerated .send => true
  | .walletPublicKey .send _ _ | .stakeKeyHex .send _ => true
  | .sendAddresses _ | .signMetadata _ _ | .createTransaction _ | .sendMoney _ | .moneySent _ => true
  | .qrCode _ | .poll _ => true
  | _ => false

/-- Nothing of the registration is left. -/
def Finished (s : State Key PublicKey) : Prop :=
  (∀ task ∈ s.tasks, task.phase.isRegistration = false) ∧ s.checkTransactions = []

/-- A registration is reset when nothing of it is left, a send names its transaction while none is
    confirmed, and a poll confirms the transaction that is named. -/
def InOrder (isDev : Bool) (s : State Key PublicKey) : Event Key → Prop
  | .resetRegistration | .restart => Finished s
  | .resume i .done => ∀ task, s.tasks[i]? = some task →
      match task.phase with
      | .createTransaction promise =>
          (∃ id, settled s.createVotingRegistrationTransactionRequest promise = some (.ok id)) →
            s.isTransactionConfirmed = false
      | .moneySent _ => s.isTransactionConfirmed = false
      | .poll promise => ∀ p call transaction, promise = some p →
          s.getTransactionRequest.calls[p]? = some call → call.outcome = some (.ok transaction) →
          s.isTransactionConfirmed = false →
          minTransactionConfirmations isDev ≤ transaction.confirmations →
          s.transactionId = call.args.transactionId
      | _ => True
  | _ => True

/-! ## The invariant -/

def pollWaits (s : State Key PublicKey) (p : ℕ) : Prop :=
  ∃ task ∈ s.tasks, task.phase = .poll (some p)

/-- Whatever is left of a registration is of the current one. -/
structure ResetInvariant (isDev : Bool) (s : State Key PublicKey) : Prop where
  tasks : ∀ task ∈ s.tasks, task.phase.isRegistration = true → task.registration = s.registrations
  polling : ∀ registration, s.transactionPollingInterval = some registration →
    registration = s.registrations
  checks : ∀ interval ∈ s.checkTransactions, interval.registration = s.registrations
  polls : Awaited s.getTransactionRequest (pollWaits s) fun args => args.registration = s.registrations
  reported : Recorded s.getTransactionRequest fun args transaction =>
    ∃ id, args.transactionId = some id ∧ (id, transaction.confirmations) ∈ s.reports
  confirmed : ConfirmationReported isDev s

/-- Two states that differ in nothing the invariant is about. -/
structure SameRegistration (s s' : State Key PublicKey) : Prop where
  tasks : s'.tasks = s.tasks
  registrations : s'.registrations = s.registrations
  polling : s'.transactionPollingInterval = s.transactionPollingInterval
  checks : s'.checkTransactions = s.checkTransactions
  polls : s'.getTransactionRequest = s.getTransactionRequest
  reports : s'.reports = s.reports
  isTransactionConfirmed : s'.isTransactionConfirmed = s.isTransactionConfirmed
  transactionId : s'.transactionId = s.transactionId

theorem ResetInvariant.of_same (h : ResetInvariant isDev s) (hs : SameRegistration s s') :
    ResetInvariant isDev s' := by
  obtain ⟨htasks, hregistrations, hpolling, hchecks, hpolls, hreports, hconfirmed, hid⟩ := hs
  have hwaits : pollWaits s' = pollWaits s := by
    funext p
    simp only [pollWaits, htasks]
  refine ⟨?_, ?_, ?_, ?_, ?_, ?_⟩
  · rw [htasks, hregistrations]
    exact h.tasks
  · rw [hpolling, hregistrations]
    exact h.polling
  · rw [hchecks, hregistrations]
    exact h.checks
  · rw [hpolls, hwaits, hregistrations]
    exact h.polls
  · rw [hpolls, hreports]
    exact h.reported
  · unfold ConfirmationReported
    rw [hconfirmed, hid, hreports]
    exact h.confirmed

theorem resetInvariant_init : ResetInvariant isDev ({} : State Key PublicKey) where
  tasks _ h := absurd h List.not_mem_nil
  polling _ h := by simp at h
  checks _ h := absurd h List.not_mem_nil
  polls := Awaited.init.resume (fun _ ⟨_, h, _⟩ => absurd h List.not_mem_nil) fun _ _ h => h.elim
  reported _ _ _ h := by simp at h
  confirmed h := by simp at h

/-! ## Tasks that come and go -/

theorem pollWaits_await {registration p : ℕ} {phase : Phase PublicKey} :
    pollWaits (s.await registration phase) p ↔ pollWaits s p ∨ phase = .poll (some p) := by
  simp [pollWaits, State.await, or_and_right, exists_or]

theorem ResetInvariant.tasks_await (h : ResetInvariant isDev s) {registration : ℕ}
    {phase : Phase PublicKey} (hphase : phase.isRegistration = true → registration = s.registrations) :
    ∀ task ∈ (s.await registration phase).tasks,
      task.phase.isRegistration = true → task.registration = s.registrations := by
  intro task hmem
  rcases List.mem_append.1 hmem with hmem | hmem
  · exact h.tasks task hmem
  · obtain rfl := List.mem_singleton.1 hmem
    exact hphase

theorem ResetInvariant.await (h : ResetInvariant isDev s) {registration : ℕ} {phase : Phase PublicKey}
    (hphase : phase.isRegistration = true → registration = s.registrations)
    (hpoll : ∀ p, phase ≠ .poll p) : ResetInvariant isDev (s.await registration phase) where
  tasks := h.tasks_await hphase
  polling := h.polling
  checks := h.checks
  polls := h.polls.resume
    (fun _ hp => (pollWaits_await.1 hp).resolve_right (hpoll _))
    fun _ _ hp _ _ => pollWaits_await.2 (.inl hp)
  reported := h.reported
  confirmed := h.confirmed

theorem ResetInvariant.erase (h : ResetInvariant isDev s) {i : ℕ} {task : Task PublicKey}
    (hi : s.tasks[i]? = some task)
    (hsettled : ∀ p, task.phase = .poll (some p) → settled s.getTransactionRequest (some p) ≠ none) :
    ResetInvariant isDev { s with tasks := s.tasks.eraseIdx i } where
  tasks t ht := h.tasks t (List.mem_of_mem_eraseIdx ht)
  polling := h.polling
  checks := h.checks
  polls := h.polls.resume
    (fun _ ⟨t, ht, hp⟩ => ⟨t, List.mem_of_mem_eraseIdx ht, hp⟩)
    (by
      rintro p call ⟨t, ht, hp⟩ hcall hopen
      refine ⟨t, List.mem_eraseIdx_of_ne hi ht ?_, hp⟩
      rintro rfl
      exact hsettled p hp (settled_eq_none hcall hopen))
  reported := h.reported
  confirmed := h.confirmed

/-! ## Methods that go on -/

theorem sameRegistration_nextRegistrationStep (s : State Key PublicKey) :
    SameRegistration s (nextRegistrationStep s) :=
  ⟨rfl, rfl, rfl, rfl, rfl, rfl, rfl, rfl⟩

theorem sameRegistration_sendFailed (s : State Key PublicKey) (error : Failure) :
    SameRegistration s (sendFailed s error) := by
  cases error <;> exact ⟨rfl, rfl, rfl, rfl, rfl, rfl, rfl, rfl⟩

theorem ConfirmationReported.of_not_confirmed (h : s.isTransactionConfirmed = false) :
    ConfirmationReported isDev s := by
  intro hconfirmed
  rw [h] at hconfirmed
  cases hconfirmed

theorem ResetInvariant.prepareFailed (h : ResetInvariant isDev s) (caller : Caller) (error : Failure) :
    ResetInvariant isDev (prepareFailed s caller error) := by
  cases caller with
  | fee => exact h
  | send => exact h.of_same (sameRegistration_sendFailed s error)

theorem ResetInvariant.readKey (h : ResetInvariant isDev s) {registration : ℕ} {caller : Caller}
    (hcaller : caller = .send → registration = s.registrations) :
    ResetInvariant isDev (readKey publicKey s registration caller) := by
  unfold VotingStore.readKey
  split
  · exact h.prepareFailed caller .other
  · have hread : ResetInvariant isDev
        { s with getWalletPublicKeyRequest := s.getWalletPublicKeyRequest.execute () } :=
      h.of_same ⟨rfl, rfl, rfl, rfl, rfl, rfl, rfl, rfl⟩
    refine hread.await (fun hsend => hcaller ?_) (fun _ => by simp)
    cases caller
    · cases hsend
    · rfl

theorem ResetInvariant.prepared (h : ResetInvariant isDev s) {registration : ℕ} {caller : Caller}
    (hcaller : caller = .send → registration = s.registrations) (votingKey : PublicKey) :
    ResetInvariant isDev (prepared s registration caller votingKey) := by
  cases caller with
  | fee => exact h.await (fun hsend => nomatch hsend) (fun _ => by simp)
  | send =>
      have hsigned : ResetInvariant isDev
          { s with signMetadataRequest := s.signMetadataRequest.execute votingKey } :=
        h.of_same ⟨rfl, rfl, rfl, rfl, rfl, rfl, rfl, rfl⟩
      exact hsigned.await (fun _ => hcaller rfl) (fun _ => by simp)

/-- The send starts over, with nothing confirmed. -/
theorem ResetInvariant.sendFrom (h : ResetInvariant isDev s) {registration : ℕ}
    (hregistration : registration = s.registrations) (walletId : String) :
    ResetInvariant isDev (sendFrom isHardwareWallet s registration walletId) := by
  have hstarted : ResetInvariant isDev { s with isTransactionConfirmed := false } :=
    { h with confirmed := .of_not_confirmed rfl }
  unfold VotingStore.sendFrom
  split
  · have hsent : ResetInvariant isDev
        { s with
          isTransactionPending := true
          isTransactionConfirmed := false
          getWalletPublicKeyRequest := s.getWalletPublicKeyRequest.reset
          createVotingRegistrationTransactionRequest :=
            s.createVotingRegistrationTransactionRequest.reset
          signMetadataRequest := s.signMetadataRequest.reset
          sendMoneyRequest := s.sendMoneyRequest.execute s.txBody } :=
      hstarted.of_same ⟨rfl, rfl, rfl, rfl, rfl, rfl, rfl, rfl⟩
    exact hsent.await (fun _ => hregistration) (fun _ => by simp)
  · have hprepared : ResetInvariant isDev
        { s with
          isTransactionPending := true
          isTransactionConfirmed := false
          getWalletPublicKeyRequest := s.getWalletPublicKeyRequest.reset
          createVotingRegistrationTransactionRequest :=
            s.createVotingRegistrationTransactionRequest.reset
          signMetadataRequest := s.signMetadataRequest.reset } :=
      hstarted.of_same ⟨rfl, rfl, rfl, rfl, rfl, rfl, rfl, rfl⟩
    exact hprepared.await (fun _ => hregistration) (fun _ => by simp)

theorem ResetInvariant.createTransaction (h : ResetInvariant isDev s) {registration : ℕ}
    (hregistration : registration = s.registrations) (votingKey : PublicKey) :
    ResetInvariant isDev (createTransaction s registration votingKey) := by
  have hcreated : ResetInvariant isDev
      { s with
        createVotingRegistrationTransactionRequest :=
          s.createVotingRegistrationTransactionRequest.execute votingKey } :=
    h.of_same ⟨rfl, rfl, rfl, rfl, rfl, rfl, rfl, rfl⟩
  exact hcreated.await (fun _ => hregistration) (fun _ => by simp)

theorem ResetInvariant.transactionSent (h : ResetInvariant isDev s) {registration : ℕ}
    (hregistration : registration = s.registrations) (hconfirmed : s.isTransactionConfirmed = false)
    (id : ℕ) : ResetInvariant isDev (transactionSent s registration id) :=
  { h with
    polling := fun _ hpolling => Option.some.inj hpolling ▸ hregistration
    confirmed := .of_not_confirmed hconfirmed }

theorem ResetInvariant.moneySent (h : ResetInvariant isDev s) {registration : ℕ}
    (hregistration : registration = s.registrations) (id : ℕ) :
    ResetInvariant isDev (moneySent s registration id) := by
  have hchecked : ResetInvariant isDev
      { s with
        checkTransactions := s.checkTransactions ++ [⟨registration, id⟩]
        checkTransactionTimeInterval := some id
        sendMoneyRequest := s.sendMoneyRequest.reset } := by
    refine { h with checks := ?_ }
    intro interval hmem
    rcases List.mem_append.1 hmem with hmem | hmem
    · exact h.checks interval hmem
    · obtain rfl := List.mem_singleton.1 hmem
      exact hregistration
  exact hchecked.await (fun _ => hregistration) (fun _ => by simp)

theorem ResetInvariant.moneyNotSent (h : ResetInvariant isDev s) (error : Failure) :
    ResetInvariant isDev (moneyNotSent s error) := by
  have hcleared : ResetInvariant isDev { s with txBody := none, votingData := none } :=
    h.of_same ⟨rfl, rfl, rfl, rfl, rfl, rfl, rfl, rfl⟩
  exact hcleared.of_same (sameRegistration_sendFailed _ error)

theorem ResetInvariant.generateQrCode (h : ResetInvariant isDev s) (pinCode : ℕ) :
    ResetInvariant isDev (generateQrCode s pinCode) := by
  unfold VotingStore.generateQrCode
  split
  · exact h
  · exact h.of_same ⟨rfl, rfl, rfl, rfl, rfl, rfl, rfl, rfl⟩

/-- The answer to a poll was reported of the transaction of the poll. -/
theorem ResetInvariant.checkVotingRegistrationTransaction (h : ResetInvariant isDev s)
    {transaction : WalletTransaction}
    (hreported : s.isTransactionConfirmed = false →
      minTransactionConfirmations isDev ≤ transaction.confirmations →
      ∃ id, s.transactionId = some id ∧ (id, transaction.confirmations) ∈ s.reports) :
    ResetInvariant isDev (checkVotingRegistrationTransaction isDev s transaction) := by
  unfold VotingStore.checkVotingRegistrationTransaction
  dsimp only
  split
  · next hconfirm =>
      simp only [Bool.and_eq_true, Bool.not_eq_true', decide_eq_true_eq] at hconfirm
      obtain ⟨id, hid, hmem⟩ := hreported hconfirm.1 hconfirm.2
      refine
        { h with
          polling := fun _ hpolling => nomatch hpolling
          confirmed := fun _ => ⟨id, transaction.confirmations, hid, hconfirm.2, hmem⟩ }
  · exact h.of_same ⟨rfl, rfl, rfl, rfl, rfl, rfl, rfl, rfl⟩

theorem ResetInvariant.resetRegistration (h : ResetInvariant isDev s) (hfinished : Finished s) :
    ResetInvariant isDev (resetRegistration s) where
  tasks task ht hregistration := by
    rw [hfinished.1 task ht] at hregistration
    cases hregistration
  polling _ hpolling := nomatch hpolling
  checks interval hmem := by
    have hmem : interval ∈ s.checkTransactions := hmem
    rw [hfinished.2] at hmem
    exact absurd hmem List.not_mem_nil
  polls := h.polls.imp fun p call ⟨task, ht, hp⟩ _ _ => by
    have hnone := hfinished.1 task ht
    rw [hp] at hnone
    cases hnone
  reported := h.reported
  confirmed := .of_not_confirmed rfl

/-- One method goes on; `s` is the state without its task, `old` the state with it. -/
theorem ResetInvariant.resume {old : State Key PublicKey} {i : ℕ} {task : Task PublicKey}
    {answer : Answer Key} (h : ResetInvariant isDev old) (hi : old.tasks[i]? = some task)
    (hok : InOrder isDev old (.resume i answer))
    (hs : resume publicKey isHardwareWallet isDev { old with tasks := old.tasks.eraseIdx i }
      task.registration task.phase answer = some s') : ResetInvariant isDev s' := by
  have hmem := List.mem_of_getElem? hi
  have htag := h.tasks task hmem
  have herase := h.erase hi
  obtain ⟨registration, phase⟩ := task
  cases phase with
  | feeAddresses isHardware =>
      have herase := herase fun _ hp => nomatch hp
      cases answer with
      | done =>
          obtain rfl := Option.some.inj hs
          split
          · exact herase.await (fun hsend => nomatch hsend) (fun _ => by simp)
          · exact herase
      | failed error =>
          obtain rfl := Option.some.inj hs
          exact herase
      | _ => cases hs
  | stakeAddressHex caller =>
      have herase := herase fun _ hp => nomatch hp
      cases answer with
      | done =>
          obtain rfl := Option.some.inj hs
          refine herase.await (fun hsend => ?_) (fun _ => by simp)
          cases caller
          · cases hsend
          · exact htag rfl
      | failed error =>
          obtain rfl := Option.some.inj hs
          exact herase.prepareFailed caller error
      | _ => cases hs
  | generateKey caller =>
      have herase := herase fun _ hp => nomatch hp
      cases answer with
      | key key =>
          obtain rfl := Option.some.inj hs
          have hset : ResetInvariant isDev
              { old with tasks := old.tasks.eraseIdx i, votingRegistrationKey := some key } :=
            herase.of_same ⟨rfl, rfl, rfl, rfl, rfl, rfl, rfl, rfl⟩
          refine hset.await (fun hsend => ?_) (fun _ => by simp)
          cases caller
          · cases hsend
          · exact htag rfl
      | failed error =>
          obtain rfl := Option.some.inj hs
          exact herase.prepareFailed caller error
      | _ => cases hs
  | keyGenerated caller =>
      have herase := herase fun _ hp => nomatch hp
      cases answer with
      | done =>
          obtain rfl := Option.some.inj hs
          refine herase.readKey ?_
          rintro rfl
          exact htag rfl
      | _ => cases hs
  | walletPublicKey caller votingKey promise =>
      have herase := herase fun _ hp => nomatch hp
      cases answer with
      | done =>
          obtain ⟨outcome, _, rfl⟩ := Option.map_eq_some_iff.1 hs
          split
          · refine herase.await (fun hsend => ?_) (fun _ => by simp)
            cases caller
            · cases hsend
            · exact htag rfl
          · exact herase.prepareFailed caller _
      | _ => cases hs
  | stakeKeyHex caller votingKey =>
      have herase := herase fun _ hp => nomatch hp
      cases answer with
      | done =>
          obtain rfl := Option.some.inj hs
          refine herase.prepared ?_ votingKey
          rintro rfl
          exact htag rfl
      | failed error =>
          obtain rfl := Option.some.inj hs
          exact herase.prepareFailed caller error
      | _ => cases hs
  | selectCoins votingKey =>
      have herase := herase fun _ hp => nomatch hp
      cases answer with
      | done =>
          obtain rfl := Option.some.inj hs
          exact herase.of_same ⟨rfl, rfl, rfl, rfl, rfl, rfl, rfl, rfl⟩
      | failed error =>
          obtain rfl := Option.some.inj hs
          exact herase
      | _ => cases hs
  | sendAddresses walletId =>
      have herase := herase fun _ hp => nomatch hp
      cases answer with
      | done =>
          obtain rfl := Option.some.inj hs
          exact herase.sendFrom (htag rfl) walletId
      | failed error =>
          obtain rfl := Option.some.inj hs
          exact herase
      | _ => cases hs
  | signMetadata votingKey promise =>
      have herase := herase fun _ hp => nomatch hp
      cases answer with
      | done =>
          obtain ⟨outcome, _, rfl⟩ := Option.map_eq_some_iff.1 hs
          split
          · exact herase.createTransaction (htag rfl) votingKey
          · exact herase.of_same (sameRegistration_sendFailed _ _)
      | _ => cases hs
  | createTransaction promise =>
      have herase := herase fun _ hp => nomatch hp
      cases answer with
      | done =>
          obtain ⟨outcome, hsettled, rfl⟩ := Option.map_eq_some_iff.1 hs
          split
          · exact herase.transactionSent (htag rfl) (hok _ hi ⟨_, hsettled⟩) _
          · exact herase.of_same (sameRegistration_sendFailed _ _)
      | _ => cases hs
  | sendMoney promise =>
      have herase := herase fun _ hp => nomatch hp
      cases answer with
      | done =>
          obtain ⟨outcome, hsettled, rfl⟩ := Option.map_eq_some_iff.1 hs
          split
          · exact herase.moneySent (htag rfl) _
          · exact herase.moneyNotSent _
      | _ => cases hs
  | moneySent id =>
      have herase := herase fun _ hp => nomatch hp
      cases answer with
      | done =>
          obtain rfl := Option.some.inj hs
          exact { herase with confirmed := .of_not_confirmed (hok _ hi) }
      | _ => cases hs
  | qrCode pinCode =>
      have herase := herase fun _ hp => nomatch hp
      cases answer with
      | done =>
          obtain rfl := Option.some.inj hs
          exact herase.generateQrCode pinCode
      | _ => cases hs
  | poll promise =>
      cases answer with
      | done =>
          obtain ⟨outcome, hsettled, rfl⟩ := Option.map_eq_some_iff.1 hs
          obtain ⟨p, call, rfl, hcall, houtcome⟩ := exists_call_of_settled hsettled
          have herase := herase fun q hq => by
            obtain rfl := Option.some.inj (Phase.poll.inj hq)
            exact Option.ne_none_iff_exists'.2 ⟨outcome, hsettled⟩
          split
          · refine herase.checkVotingRegistrationTransaction fun hconfirmed hmin => ?_
            obtain ⟨id, hid, hreport⟩ := h.reported p call _ hcall houtcome
            exact ⟨id, (hok _ hi p call _ rfl hcall houtcome hconfirmed hmin).trans hid, hreport⟩
          · exact herase
      | _ => cases hs
  | signTransaction votingKey =>
      have herase := herase fun _ hp => nomatch hp
      cases answer with
      | done =>
          obtain rfl := Option.some.inj hs
          exact herase.of_same ⟨rfl, rfl, rfl, rfl, rfl, rfl, rfl, rfl⟩
      | withoutSupplement =>
          obtain rfl := Option.some.inj hs
          exact herase.of_same ⟨rfl, rfl, rfl, rfl, rfl, rfl, rfl, rfl⟩
      | failed error =>
          obtain rfl := Option.some.inj hs
          exact herase
      | _ => cases hs

/-! ## Responses and intervals -/

theorem ResetInvariant.transactionAnswered (h : ResetInvariant isDev s) {call : ℕ}
    {outcome : Except Failure WalletTransaction} (hs : transactionAnswered s call outcome = some s') :
    ResetInvariant isDev s' := by
  unfold VotingStore.transactionAnswered at hs
  rcases hopen : openCall s.getTransactionRequest call with _ | ⟨registration, _ | transactionId⟩
  · rw [hopen] at hs
    cases hs
  · rw [hopen] at hs
    cases outcome with
    | ok _ => cases hs
    | error error =>
        obtain rfl := Option.some.inj hs
        refine { h with polls := h.polls.respond call _, reported := h.reported.respond ?_ }
        intro _ _ _ hok
        cases hok
  · rw [hopen] at hs
    cases outcome with
    | ok transaction =>
        obtain rfl := Option.some.inj hs
        obtain ⟨opened, hcall, hargs, _⟩ := openCall_eq_some hopen
        have hgrown : Recorded s.getTransactionRequest fun args transaction' => ∃ id,
            args.transactionId = some id ∧
              (id, transaction'.confirmations) ∈
                s.reports ++ [(transactionId, transaction.confirmations)] :=
          h.reported.imp fun _ _ ⟨id, hid, hmem⟩ => ⟨id, hid, List.mem_append_left _ hmem⟩
        refine
          { h with
            polls := h.polls.respond call _
            reported := hgrown.respond ?_
            confirmed := ?_ }
        · intro c _ hc hok
          rw [hcall] at hc
          obtain rfl := Option.some.inj hc
          obtain rfl := Except.ok.inj hok
          exact ⟨transactionId, congrArg GetTransaction.transactionId hargs,
            List.mem_append_right _ (by simp)⟩
        · intro hconfirmed
          obtain ⟨id, confirmations, hid, hmin, hmem⟩ := h.confirmed hconfirmed
          exact ⟨id, confirmations, hid, hmin, List.mem_append_left _ hmem⟩
    | error error =>
        obtain rfl := Option.some.inj hs
        refine { h with polls := h.polls.respond call _, reported := h.reported.respond ?_ }
        intro _ _ _ hok
        cases hok

theorem ResetInvariant.pollingInterval (h : ResetInvariant isDev s)
    (hs : pollingInterval s = some s') : ResetInvariant isDev s' := by
  obtain ⟨registration, hpolling, rfl⟩ := Option.map_eq_some_iff.1 hs
  have htag := h.polling registration hpolling
  refine
    { h with
      tasks := h.tasks_await fun _ => htag
      polls := h.polls.execute htag (fun p hp => ?_) (fun p hp => ?_)
      reported := h.reported.execute }
  · rcases pollWaits_await.1 hp with hp | hp
    · exact .inl hp
    · exact .inr (Phase.poll.inj hp)
  · refine pollWaits_await.2 ?_
    rcases hp with hp | hp
    · exact .inl hp
    · exact .inr (congrArg Phase.poll hp)

theorem ResetInvariant.checkTransactionFound (h : ResetInvariant isDev s) {interval : CheckInterval}
    (hmem : interval ∈ s.checkTransactions) :
    ResetInvariant isDev (checkTransactionFound s interval) := by
  have hpolling : ∀ registration, some interval.registration = some registration →
      registration = s.registrations :=
    fun _ hsome => Option.some.inj hsome ▸ h.checks interval hmem
  unfold VotingStore.checkTransactionFound
  dsimp only
  split
  · exact { h with polling := hpolling }
  · exact
      { h with
        polling := hpolling
        checks := fun i hi => h.checks i (List.mem_filter.1 hi).1 }

/-! ## Runs -/

theorem ResetInvariant.step (h : ResetInvariant isDev s) (hok : InOrder isDev s e)
    (hs : step publicKey isHardwareWallet isDev s e = some s') : ResetInvariant isDev s' := by
  cases e with
  | selectWallet walletId =>
      obtain rfl := Option.some.inj hs
      have hselected : ResetInvariant isDev { s with selectedWalletId := some walletId } :=
        h.of_same ⟨rfl, rfl, rfl, rfl, rfl, rfl, rfl, rfl⟩
      have hawaits : ResetInvariant isDev
          (State.await { s with selectedWalletId := some walletId } s.registrations
            (.feeAddresses (isHardwareWallet walletId))) :=
        hselected.await (fun _ => rfl) (fun _ => by simp)
      exact hawaits.of_same (sameRegistration_nextRegistrationStep _)
  | nextRegistrationStep =>
      obtain rfl := Option.some.inj hs
      exact h.of_same (sameRegistration_nextRegistrationStep s)
  | previousRegistrationStep =>
      obtain rfl := Option.some.inj hs
      exact h.of_same ⟨rfl, rfl, rfl, rfl, rfl, rfl, rfl, rfl⟩
  | sendTransaction =>
      obtain ⟨walletId, _, rfl⟩ := Option.map_eq_some_iff.1 hs
      exact h.await (fun _ => rfl) (fun _ => by simp)
  | generateQrCode pinCode =>
      obtain rfl := Option.some.inj hs
      exact h.await (fun _ => rfl) (fun _ => by simp)
  | resetRegistration =>
      obtain rfl := Option.some.inj hs
      exact h.resetRegistration hok
  | restart =>
      obtain rfl := Option.some.inj hs
      exact (h.resetRegistration hok).of_same ⟨rfl, rfl, rfl, rfl, rfl, rfl, rfl, rfl⟩
  | resume i answer =>
      obtain ⟨task, hi, hs⟩ := Option.bind_eq_some_iff.1 hs
      exact h.resume hi hok hs
  | walletPublicKeyAnswered call outcome =>
      obtain ⟨_, _, rfl⟩ := Option.map_eq_some_iff.1 hs
      exact h.of_same ⟨rfl, rfl, rfl, rfl, rfl, rfl, rfl, rfl⟩
  | metadataSigned call outcome =>
      obtain ⟨_, _, rfl⟩ := Option.map_eq_some_iff.1 hs
      exact h.of_same ⟨rfl, rfl, rfl, rfl, rfl, rfl, rfl, rfl⟩
  | transactionCreated call outcome =>
      obtain ⟨_, _, rfl⟩ := Option.map_eq_some_iff.1 hs
      exact h.of_same ⟨rfl, rfl, rfl, rfl, rfl, rfl, rfl, rfl⟩
  | moneySent call outcome =>
      simp only [VotingStore.step, sendMoneyAnswered] at hs
      split at hs
      · obtain rfl := Option.some.inj hs
        exact h.of_same ⟨rfl, rfl, rfl, rfl, rfl, rfl, rfl, rfl⟩
      · obtain rfl := Option.some.inj hs
        exact h.of_same ⟨rfl, rfl, rfl, rfl, rfl, rfl, rfl, rfl⟩
      · cases hs
  | transactionAnswered call outcome => exact h.transactionAnswered hs
  | pollingInterval => exact h.pollingInterval hs
  | checkTransactionFound i =>
      obtain ⟨interval, hi, rfl⟩ := Option.map_eq_some_iff.1 hs
      exact h.checkTransactionFound (List.mem_of_getElem? hi)
  | signTransaction =>
      obtain rfl := Option.some.inj hs
      exact h.await (fun _ => rfl) (fun _ => by simp)
  | resetTransaction =>
      obtain rfl := Option.some.inj hs
      exact h.of_same ⟨rfl, rfl, rfl, rfl, rfl, rfl, rfl, rfl⟩

/-- What is no send, no QR code and no poll leaves the registration where it is. -/
theorem progress_of_not_isRegistration {registration : ℕ} {phase : Phase PublicKey} {answer : Answer Key}
    (hphase : phase.isRegistration = false)
    (hs : resume publicKey isHardwareWallet isDev s registration phase answer = some s') :
    progress s' = progress s := by
  cases phase with
  | feeAddresses isHardware =>
      cases answer with
      | done =>
          obtain rfl := Option.some.inj hs
          split <;> rfl
      | failed error =>
          obtain rfl := Option.some.inj hs
          rfl
      | _ => cases hs
  | stakeAddressHex caller =>
      cases caller with
      | fee =>
          cases answer <;> cases hs <;> rfl
      | send => cases hphase
  | generateKey caller =>
      cases caller with
      | fee =>
          cases answer <;> cases hs <;> rfl
      | send => cases hphase
  | keyGenerated caller =>
      cases caller with
      | fee =>
          cases answer with
          | done =>
              obtain rfl := Option.some.inj hs
              unfold readKey
              split <;> rfl
          | _ => cases hs
      | send => cases hphase
  | walletPublicKey caller votingKey promise =>
      cases caller with
      | fee =>
          cases answer with
          | done =>
              obtain ⟨outcome, _, rfl⟩ := Option.map_eq_some_iff.1 hs
              split <;> rfl
          | _ => cases hs
      | send => cases hphase
  | stakeKeyHex caller votingKey =>
      cases caller with
      | fee =>
          cases answer <;> cases hs <;> rfl
      | send => cases hphase
  | selectCoins votingKey =>
      cases answer <;> cases hs <;> rfl
  | signTransaction votingKey =>
      cases answer <;> cases hs <;> rfl
  | _ => cases hphase

theorem ResetInvariant.isolated (h : ResetInvariant isDev s) :
    Isolated publicKey isHardwareWallet isDev s := by
  intro e s' houtdated hs
  cases e with
  | resume i answer =>
      obtain ⟨task, hi, hold⟩ := houtdated
      obtain ⟨task', hi', hs⟩ := Option.bind_eq_some_iff.1 hs
      rw [hi] at hi'
      obtain rfl := Option.some.inj hi'
      have hmem := List.mem_of_getElem? hi
      have hother : task.phase.isRegistration = false := by
        rw [← Bool.not_eq_true]
        intro hregistration
        have htag := h.tasks task hmem hregistration
        rcases hold with hold | ⟨p, call, hphase, hcall, hold⟩
        · omega
        · obtain ⟨call', hcall', hargs⟩ := h.polls.called p ⟨task, hmem, hphase⟩
          rw [hcall] at hcall'
          obtain rfl := Option.some.inj hcall'
          omega
      have hprogress : progress s' = progress { s with tasks := s.tasks.eraseIdx i } :=
        progress_of_not_isRegistration hother hs
      exact hprogress
  | pollingInterval =>
      obtain ⟨registration, hpolling, hold⟩ := houtdated
      have htag := h.polling registration hpolling
      omega
  | checkTransactionFound i =>
      obtain ⟨interval, hi, hold⟩ := houtdated
      have htag := h.checks interval (List.mem_of_getElem? hi)
      omega
  | _ => exact houtdated.elim

theorem inOrder_of_poll {i p registration : ℕ}
    {call : Request.MethodCall GetTransaction WalletTransaction Failure}
    (hi : s.tasks[i]? = some ⟨registration, .poll (some p)⟩)
    (hcall : s.getTransactionRequest.calls[p]? = some call)
    (hid : s.transactionId = call.args.transactionId) :
    InOrder isDev s (.resume i .done : Event Key) := by
  intro task htask
  rw [hi] at htask
  obtain rfl := Option.some.inj htask
  intro q called transaction hq hcalled _ _ _
  obtain rfl := Option.some.inj hq
  rw [hcall] at hcalled
  obtain rfl := Option.some.inj hcalled
  exact hid

/-- A registration with a software wallet, confirmed by its second poll. -/
def confirmedRegistration : List (Event ℕ) :=
  [.selectWallet "software", .resume 0 .done, .sendTransaction, .resume 0 .done, .resume 0 .done,
    .resume 0 (.key 1), .resume 0 .done, .walletPublicKeyAnswered 0 (.ok ()), .resume 0 .done,
    .resume 0 .done, .metadataSigned 0 (.ok ()), .resume 0 .done, .transactionCreated 0 (.ok ()),
    .resume 0 .done, .pollingInterval, .transactionAnswered 0 (.ok ⟨0, .pending⟩), .resume 0 .done,
    .pollingInterval, .transactionAnswered 1 (.ok ⟨10, .ok⟩), .resume 0 .done]

/-- The registration is reset while a poll is answered. -/
def latePoll : List (Event ℕ) :=
  confirmedRegistration.take 19 ++ [.resetRegistration]

end Klarity.VotingStore
