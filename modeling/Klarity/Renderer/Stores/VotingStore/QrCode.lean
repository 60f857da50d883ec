import Klarity.Renderer.Stores.Lib.Request.Awaited
import Klarity.Renderer.Stores.VotingStore

set_option autoImplicit false

/-! # Whether the key in the QR code is the one registered

The key is in one field of the store, and every preparation of voting data replaces it; the transaction
carries the key of its own preparation. The two agree in runs in which no key is generated once a send has
its key, and a hardware wallet's send submits what was signed for the key that is there. -/

namespace Klarity.VotingStore

open Request (Awaited Recorded settled openCall settled_eq_none exists_call_of_settled
  openCall_eq_some)

variable {Key PublicKey : Type} {publicKey : Key → PublicKey} {isHardwareWallet : String → Bool}
  {isDev : Bool} {s s' : State Key PublicKey} {e : Event Key}

/-! ## What is promised -/

/-- The transaction carries the public key of the key. -/
def Registered (publicKey : Key → PublicKey) (s : State Key PublicKey) (key : Key)
    (transactionId : Option ℕ) : Prop :=
  ∃ id, transactionId = some id ∧ s.submitted[id]? = some (some (publicKey key))

/-- The key of every QR code is registered by the transaction that `transactionId` named when the code was
    generated. -/
def QrCodesRegistered (publicKey : Key → PublicKey) (s : State Key PublicKey) : Prop :=
  ∀ qrCode ∈ s.qrCodes, Registered publicKey s qrCode.1 qrCode.2

/-- A voting key is that of the current key, if there is one. -/
def Agrees (publicKey : Key → PublicKey) (s : State Key PublicKey) (votingKey : Option PublicKey) :
    Prop :=
  ∀ key, s.votingRegistrationKey = some key → votingKey = some (publicKey key)

/-- A send that has read its key, or whose transaction carries it. -/
def Phase.hasKey : Phase PublicKey → Bool
  | .walletPublicKey .send _ _ | .stakeKeyHex .send _ | .signMetadata _ _ => true
  | .createTransaction _ | .sendMoney _ | .moneySent _ => true
  | _ => false

/-- A key is generated only while no transaction is named and no send has its key, a hardware wallet's send
    submits a body with the current key, and a QR code is generated when a transaction is named. -/
def KeyKept (publicKey : Key → PublicKey) (isHardwareWallet : String → Bool) (s : State Key PublicKey) :
    Event Key → Prop
  | .resume _ (.key _) => s.transactionId = none ∧ ∀ task ∈ s.tasks, task.phase.hasKey = false
  | .resume i .done => ∀ task, s.tasks[i]? = some task →
      match task.phase with
      | .sendAddresses walletId => isHardwareWallet walletId = true →
          ∀ body, s.txBody = some body → Agrees publicKey s body.votingKey
      | .qrCode _ => s.votingRegistrationKey ≠ none → s.transactionId ≠ none
      | _ => True
  | _ => True

/-! ## The invariant -/

def createWaits (s : State Key PublicKey) (p : ℕ) : Prop :=
  ∃ task ∈ s.tasks, task.phase = .createTransaction (some p)

def moneyWaits (s : State Key PublicKey) (p : ℕ) : Prop :=
  ∃ task ∈ s.tasks, task.phase = .sendMoney (some p)

/-- A transaction carries the current key. -/
def Named (publicKey : Key → PublicKey) (s : State Key PublicKey) (id : ℕ) : Prop :=
  ∃ votingKey, s.submitted[id]? = some votingKey ∧ Agrees publicKey s votingKey

/-- What a send holds agrees with the current key. -/
def Held (publicKey : Key → PublicKey) (s : State Key PublicKey) : Phase PublicKey → Prop
  | .walletPublicKey .send votingKey _ | .stakeKeyHex .send votingKey | .signMetadata votingKey _ =>
      Agrees publicKey s (some votingKey)
  | .moneySent id => Named publicKey s id
  | _ => True

def BodyAgrees (publicKey : Key → PublicKey) (s : State Key PublicKey)
    (body : Option (TxBody PublicKey)) : Prop :=
  ∀ b, body = some b → Agrees publicKey s b.votingKey

/-- Whatever is on its way into a transaction, and the transaction named, agrees with the current key. -/
structure KeyInvariant (publicKey : Key → PublicKey) (s : State Key PublicKey) : Prop where
  held : ∀ task ∈ s.tasks, Held publicKey s task.phase
  created : Awaited s.createVotingRegistrationTransactionRequest (createWaits s)
    fun votingKey => Agrees publicKey s (some votingKey)
  sent : Awaited s.sendMoneyRequest (moneyWaits s) (BodyAgrees publicKey s)
  createdRecorded : Recorded s.createVotingRegistrationTransactionRequest
    fun votingKey id => s.submitted[id]? = some (some votingKey)
  sentRecorded : Recorded s.sendMoneyRequest
    fun body id => ∃ b, body = some b ∧ s.submitted[id]? = some b.votingKey
  named : ∀ id, s.transactionId = some id → Named publicKey s id
  qrCodes : QrCodesRegistered publicKey s

/-- Two states that differ in nothing the invariant is about. -/
structure SameKeys (s s' : State Key PublicKey) : Prop where
  key : s'.votingRegistrationKey = s.votingRegistrationKey
  tasks : s'.tasks = s.tasks
  created : s'.createVotingRegistrationTransactionRequest = s.createVotingRegistrationTransactionRequest
  sent : s'.sendMoneyRequest = s.sendMoneyRequest
  submitted : s'.submitted = s.submitted
  transactionId : s'.transactionId = s.transactionId
  qrCodes : s'.qrCodes = s.qrCodes

theorem KeyInvariant.of_same (h : KeyInvariant publicKey s) (hs : SameKeys s s') :
    KeyInvariant publicKey s' := by
  obtain ⟨hkey, htasks, hcreated, hsent, hsubmitted, hid, hqr⟩ := hs
  have hagrees : Agrees publicKey s' = Agrees publicKey s := by
    funext votingKey
    simp only [Agrees, hkey]
  have hnamed : Named publicKey s' = Named publicKey s := by
    funext id
    simp only [Named, hsubmitted, hagrees]
  have hheld : Held publicKey s' = Held publicKey s := by
    funext phase
    unfold Held
    simp only [hagrees, hnamed]
  have hbody : BodyAgrees publicKey s' = BodyAgrees publicKey s := by
    funext body
    simp only [BodyAgrees, hagrees]
  have hcreate : createWaits s' = createWaits s := by
    funext p
    simp only [createWaits, htasks]
  have hmoney : moneyWaits s' = moneyWaits s := by
    funext p
    simp only [moneyWaits, htasks]
  refine ⟨?_, ?_, ?_, ?_, ?_, ?_, ?_⟩
  · rw [htasks, hheld]
    exact h.held
  · rw [hcreated, hcreate, hagrees]
    exact h.created
  · rw [hsent, hmoney, hbody]
    exact h.sent
  · rw [hcreated, hsubmitted]
    exact h.createdRecorded
  · rw [hsent, hsubmitted]
    exact h.sentRecorded
  · rw [hid, hnamed]
    exact h.named
  · unfold QrCodesRegistered Registered
    rw [hqr, hsubmitted]
    exact h.qrCodes

theorem keyInvariant_init : KeyInvariant publicKey ({} : State Key PublicKey) where
  held _ h := absurd h List.not_mem_nil
  created := Awaited.init.resume (fun _ ⟨_, h, _⟩ => absurd h List.not_mem_nil) fun _ _ h => h.elim
  sent := Awaited.init.resume (fun _ ⟨_, h, _⟩ => absurd h List.not_mem_nil) fun _ _ h => h.elim
  createdRecorded _ _ _ h := by simp at h
  sentRecorded _ _ _ h := by simp at h
  named _ h := by simp at h
  qrCodes _ h := absurd h List.not_mem_nil

/-! ## Tasks that come and go -/

theorem createWaits_await {registration p : ℕ} {phase : Phase PublicKey} :
    createWaits (s.await registration phase) p ↔
      createWaits s p ∨ phase = .createTransaction (some p) := by
  simp [createWaits, State.await, or_and_right, exists_or]

theorem moneyWaits_await {registration p : ℕ} {phase : Phase PublicKey} :
    moneyWaits (s.await registration phase) p ↔ moneyWaits s p ∨ phase = .sendMoney (some p) := by
  simp [moneyWaits, State.await, or_and_right, exists_or]

theorem KeyInvariant.held_await (h : KeyInvariant publicKey s) {registration : ℕ}
    {phase : Phase PublicKey} (hphase : Held publicKey s phase) :
    ∀ task ∈ (s.await registration phase).tasks, Held publicKey (s.await registration phase) task.phase := by
  intro task hmem
  rcases List.mem_append.1 hmem with hmem | hmem
  · exact h.held task hmem
  · obtain rfl := List.mem_singleton.1 hmem
    exact hphase

/-- A method that awaits something else than a transaction. -/
theorem KeyInvariant.await (h : KeyInvariant publicKey s) {registration : ℕ} {phase : Phase PublicKey}
    (hphase : Held publicKey s phase) (hcreate : ∀ p, phase ≠ .createTransaction p)
    (hmoney : ∀ p, phase ≠ .sendMoney p) : KeyInvariant publicKey (s.await registration phase) where
  held := h.held_await hphase
  created := h.created.resume
    (fun _ hp => (createWaits_await.1 hp).resolve_right (hcreate _))
    fun _ _ hp _ _ => createWaits_await.2 (.inl hp)
  sent := h.sent.resume
    (fun _ hp => (moneyWaits_await.1 hp).resolve_right (hmoney _))
    fun _ _ hp _ _ => moneyWaits_await.2 (.inl hp)
  createdRecorded := h.createdRecorded
  sentRecorded := h.sentRecorded
  named := h.named
  qrCodes := h.qrCodes

/-- The promise that a method awaits, if any, is settled. -/
def Ready (s : State Key PublicKey) : Phase PublicKey → Prop
  | .createTransaction promise => settled s.createVotingRegistrationTransactionRequest promise ≠ none
  | .sendMoney promise => settled s.sendMoneyRequest promise ≠ none
  | _ => True

theorem KeyInvariant.erase (h : KeyInvariant publicKey s) {i : ℕ} {task : Task PublicKey}
    (hi : s.tasks[i]? = some task) (hready : Ready s task.phase) :
    KeyInvariant publicKey { s with tasks := s.tasks.eraseIdx i } where
  held t ht := h.held t (List.mem_of_mem_eraseIdx ht)
  created := h.created.resume
    (fun _ ⟨t, ht, hp⟩ => ⟨t, List.mem_of_mem_eraseIdx ht, hp⟩)
    (by
      rintro p call ⟨t, ht, hp⟩ hcall hopen
      refine ⟨t, List.mem_eraseIdx_of_ne hi ht ?_, hp⟩
      rintro rfl
      rw [hp] at hready
      exact hready (settled_eq_none hcall hopen))
  sent := h.sent.resume
    (fun _ ⟨t, ht, hp⟩ => ⟨t, List.mem_of_mem_eraseIdx ht, hp⟩)
    (by
      rintro p call ⟨t, ht, hp⟩ hcall hopen
      refine ⟨t, List.mem_eraseIdx_of_ne hi ht ?_, hp⟩
      rintro rfl
      rw [hp] at hready
      exact hready (settled_eq_none hcall hopen))
  createdRecorded := h.createdRecorded
  sentRecorded := h.sentRecorded
  named := h.named
  qrCodes := h.qrCodes

/-! ## Keys -/

theorem held_of_not_hasKey {phase : Phase PublicKey} (h : phase.hasKey = false) :
    Held publicKey s phase := by
  cases phase with
  | walletPublicKey caller votingKey promise => cases caller <;> trivial
  | stakeKeyHex caller votingKey => cases caller <;> trivial
  | signMetadata votingKey promise => cases h
  | moneySent id => cases h
  | _ => trivial

/-- A new key, while no send has one. -/
theorem KeyInvariant.newKey (h : KeyInvariant publicKey s) (hid : s.transactionId = none)
    (hfree : ∀ task ∈ s.tasks, task.phase.hasKey = false) (key : Key) :
    KeyInvariant publicKey { s with votingRegistrationKey := some key } where
  held task ht := held_of_not_hasKey (hfree task ht)
  created := h.created.imp fun p call ⟨task, ht, hp⟩ _ _ => by
    have hhas := hfree task ht
    rw [hp] at hhas
    cases hhas
  sent := h.sent.imp fun p call ⟨task, ht, hp⟩ _ _ => by
    have hhas := hfree task ht
    rw [hp] at hhas
    cases hhas
  createdRecorded := h.createdRecorded
  sentRecorded := h.sentRecorded
  named id hsome := by
    have hsome : s.transactionId = some id := hsome
    rw [hid] at hsome
    cases hsome
  qrCodes := h.qrCodes

/-- Without a key everything agrees with it. -/
theorem KeyInvariant.resetRegistration (h : KeyInvariant publicKey s) :
    KeyInvariant publicKey (resetRegistration s) where
  held task ht := by
    have hheld := h.held task ht
    have hnone : ∀ votingKey, Agrees publicKey (VotingStore.resetRegistration s) votingKey := by
      intro votingKey key hkey
      cases hkey
    revert hheld
    cases task.phase with
    | walletPublicKey caller votingKey promise =>
        intro _
        cases caller
        · trivial
        · exact hnone _
    | stakeKeyHex caller votingKey =>
        intro _
        cases caller
        · trivial
        · exact hnone _
    | signMetadata votingKey promise => exact fun _ => hnone _
    | moneySent id => exact fun ⟨votingKey, hid, _⟩ => ⟨votingKey, hid, hnone _⟩
    | _ => exact fun _ => trivial
  created := (h.created.imp fun _ _ _ _ _ _ hkey => nomatch hkey).reset
  sent := h.sent.imp fun _ _ _ _ _ _ _ _ hkey => nomatch hkey
  createdRecorded := h.createdRecorded
  sentRecorded := h.sentRecorded
  named _ hsome := nomatch hsome
  qrCodes := h.qrCodes

/-! ## Methods that go on -/

theorem sameKeys_nextRegistrationStep (s : State Key PublicKey) : SameKeys s (nextRegistrationStep s) :=
  ⟨rfl, rfl, rfl, rfl, rfl, rfl, rfl⟩

theorem sameKeys_sendFailed (s : State Key PublicKey) (error : Failure) :
    SameKeys s (sendFailed s error) := by
  cases error <;> exact ⟨rfl, rfl, rfl, rfl, rfl, rfl, rfl⟩

theorem KeyInvariant.prepareFailed (h : KeyInvariant publicKey s) (caller : Caller) (error : Failure) :
    KeyInvariant publicKey (prepareFailed s caller error) := by
  cases caller with
  | fee => exact h
  | send => exact h.of_same (sameKeys_sendFailed s error)

theorem KeyInvariant.readKey (h : KeyInvariant publicKey s) (registration : ℕ) (caller : Caller) :
    KeyInvariant publicKey (readKey publicKey s registration caller) := by
  unfold VotingStore.readKey
  split
  · exact h.prepareFailed caller .other
  · next key hkey =>
      have hread : KeyInvariant publicKey
          { s with getWalletPublicKeyRequest := s.getWalletPublicKeyRequest.execute () } :=
        h.of_same ⟨rfl, rfl, rfl, rfl, rfl, rfl, rfl⟩
      refine hread.await ?_ (fun _ => by simp) (fun _ => by simp)
      cases caller with
      | fee => trivial
      | send =>
          intro current hcurrent
          have hcurrent : s.votingRegistrationKey = some current := hcurrent
          rw [hkey] at hcurrent
          obtain rfl := Option.some.inj hcurrent
          rfl

theorem KeyInvariant.prepared (h : KeyInvariant publicKey s) (registration : ℕ) {caller : Caller}
    {votingKey : PublicKey} (hheld : Held publicKey s (.stakeKeyHex caller votingKey)) :
    KeyInvariant publicKey (prepared s registration caller votingKey) := by
  cases caller with
  | fee => exact h.await trivial (fun _ => by simp) (fun _ => by simp)
  | send =>
      have hsigned : KeyInvariant publicKey
          { s with signMetadataRequest := s.signMetadataRequest.execute votingKey } :=
        h.of_same ⟨rfl, rfl, rfl, rfl, rfl, rfl, rfl⟩
      exact hsigned.await hheld (fun _ => by simp) (fun _ => by simp)

theorem KeyInvariant.createTransaction (h : KeyInvariant publicKey s) (registration : ℕ)
    {votingKey : PublicKey} (hagrees : Agrees publicKey s (some votingKey)) :
    KeyInvariant publicKey (createTransaction s registration votingKey) where
  held := h.held_await trivial
  created := by
    refine h.created.execute hagrees (fun p hp => ?_) (fun p hp => ?_)
    · rcases createWaits_await.1 hp with hp | hp
      · exact .inl hp
      · exact .inr (Phase.createTransaction.inj hp)
    · refine createWaits_await.2 ?_
      rcases hp with hp | hp
      · exact .inl hp
      · exact .inr (congrArg Phase.createTransaction hp)
  sent := h.sent.resume
    (fun _ hp => (moneyWaits_await.1 hp).resolve_right (by simp))
    fun _ _ hp _ _ => moneyWaits_await.2 (.inl hp)
  createdRecorded := h.createdRecorded.execute
  sentRecorded := h.sentRecorded
  named := h.named
  qrCodes := h.qrCodes

/-- The send starts over with its requests. -/
theorem KeyInvariant.sendFrom (h : KeyInvariant publicKey s) (registration : ℕ) {walletId : String}
    (hbody : isHardwareWallet walletId = true → BodyAgrees publicKey s s.txBody) :
    KeyInvariant publicKey (sendFrom isHardwareWallet s registration walletId) := by
  have hstarted : KeyInvariant publicKey
      { s with
        isTransactionPending := true
        isTransactionConfirmed := false
        getWalletPublicKeyRequest := s.getWalletPublicKeyRequest.reset
        createVotingRegistrationTransactionRequest := s.createVotingRegistrationTransactionRequest.reset
        signMetadataRequest := s.signMetadataRequest.reset } :=
    { h with created := h.created.reset }
  unfold VotingStore.sendFrom
  split
  · next hhardware =>
      refine
        { hstarted with
          held := hstarted.held_await trivial
          created := ?_
          sent := ?_
          sentRecorded := h.sentRecorded.execute }
      · exact hstarted.created.resume
          (fun _ hp => (createWaits_await.1 hp).resolve_right (by simp))
          fun _ _ hp _ _ => createWaits_await.2 (.inl hp)
      · refine h.sent.execute (hbody hhardware) (fun p hp => ?_) (fun p hp => ?_)
        · rcases moneyWaits_await.1 hp with hp | hp
          · exact .inl hp
          · exact .inr (Phase.sendMoney.inj hp)
        · refine moneyWaits_await.2 ?_
          rcases hp with hp | hp
          · exact .inl hp
          · exact .inr (congrArg Phase.sendMoney hp)
  · exact hstarted.await trivial (fun _ => by simp) (fun _ => by simp)

/-- A method that awaits a transaction of its own is given one that carries the current key. -/
theorem KeyInvariant.named_of_created (h : KeyInvariant publicKey s) {task : Task PublicKey}
    {promise : Option ℕ} {id : ℕ} (ht : task ∈ s.tasks) (hphase : task.phase = .createTransaction promise)
    (hid : settled s.createVotingRegistrationTransactionRequest promise = some (.ok id)) :
    Named publicKey s id := by
  obtain ⟨p, call, rfl, hcall, hok⟩ := exists_call_of_settled hid
  obtain ⟨call', hcall', hagrees⟩ := h.created.called p ⟨task, ht, hphase⟩
  rw [hcall] at hcall'
  obtain rfl := Option.some.inj hcall'
  exact ⟨_, h.createdRecorded p call id hcall hok, hagrees⟩

theorem KeyInvariant.named_of_sent (h : KeyInvariant publicKey s) {task : Task PublicKey}
    {promise : Option ℕ} {id : ℕ} (ht : task ∈ s.tasks) (hphase : task.phase = .sendMoney promise)
    (hid : settled s.sendMoneyRequest promise = some (.ok id)) : Named publicKey s id := by
  obtain ⟨p, call, rfl, hcall, hok⟩ := exists_call_of_settled hid
  obtain ⟨call', hcall', hagrees⟩ := h.sent.called p ⟨task, ht, hphase⟩
  rw [hcall] at hcall'
  obtain rfl := Option.some.inj hcall'
  obtain ⟨body, hbody, hsubmitted⟩ := h.sentRecorded p call id hcall hok
  exact ⟨_, hsubmitted, hagrees body hbody⟩

theorem KeyInvariant.setTransactionId (h : KeyInvariant publicKey s) {id : ℕ}
    (hid : Named publicKey s id) : KeyInvariant publicKey { s with transactionId := some id } :=
  { h with
    named := fun _ hsome => by
      obtain rfl := Option.some.inj hsome
      exact hid }

theorem KeyInvariant.transactionSent (h : KeyInvariant publicKey s) (registration : ℕ) {id : ℕ}
    (hid : Named publicKey s id) : KeyInvariant publicKey (transactionSent s registration id) :=
  (h.setTransactionId hid).of_same ⟨rfl, rfl, rfl, rfl, rfl, rfl, rfl⟩

theorem KeyInvariant.moneySent (h : KeyInvariant publicKey s) (registration : ℕ) {id : ℕ}
    (hid : Named publicKey s id) : KeyInvariant publicKey (moneySent s registration id) := by
  have hchecked : KeyInvariant publicKey
      { s with
        checkTransactions := s.checkTransactions ++ [⟨registration, id⟩]
        checkTransactionTimeInterval := some id
        sendMoneyRequest := s.sendMoneyRequest.reset } :=
    { h with sent := h.sent.reset }
  exact hchecked.await hid (fun _ => by simp) (fun _ => by simp)

theorem KeyInvariant.moneyNotSent (h : KeyInvariant publicKey s) (error : Failure) :
    KeyInvariant publicKey (moneyNotSent s error) := by
  have hcleared : KeyInvariant publicKey { s with txBody := none, votingData := none } :=
    h.of_same ⟨rfl, rfl, rfl, rfl, rfl, rfl, rfl⟩
  exact hcleared.of_same (sameKeys_sendFailed _ error)

theorem KeyInvariant.generateQrCode (h : KeyInvariant publicKey s) (pinCode : ℕ)
    (hid : s.votingRegistrationKey ≠ none → s.transactionId ≠ none) :
    KeyInvariant publicKey (generateQrCode s pinCode) := by
  unfold VotingStore.generateQrCode
  split
  · exact h
  · next key hkey =>
      obtain ⟨id, hsome⟩ := Option.ne_none_iff_exists'.1 (hid (by simp [hkey]))
      obtain ⟨votingKey, hsubmitted, hagrees⟩ := h.named id hsome
      refine { h with qrCodes := ?_ }
      intro qrCode hmem
      rcases List.mem_append.1 hmem with hmem | hmem
      · exact h.qrCodes qrCode hmem
      · obtain rfl := List.mem_singleton.1 hmem
        refine ⟨id, hsome, ?_⟩
        rw [← hagrees key hkey]
        exact hsubmitted

theorem KeyInvariant.checkVotingRegistrationTransaction (h : KeyInvariant publicKey s)
    (transaction : WalletTransaction) :
    KeyInvariant publicKey (checkVotingRegistrationTransaction isDev s transaction) := by
  unfold VotingStore.checkVotingRegistrationTransaction
  dsimp only
  split
  · exact h.of_same ⟨rfl, rfl, rfl, rfl, rfl, rfl, rfl⟩
  · exact h.of_same ⟨rfl, rfl, rfl, rfl, rfl, rfl, rfl⟩

/-- One method goes on; `s` is the state without its task, `old` the state with it. -/
theorem KeyInvariant.resume {old : State Key PublicKey} {i : ℕ} {task : Task PublicKey}
    {answer : Answer Key} (h : KeyInvariant publicKey old) (hi : old.tasks[i]? = some task)
    (hok : KeyKept publicKey isHardwareWallet old (.resume i answer))
    (hs : resume publicKey isHardwareWallet isDev { old with tasks := old.tasks.eraseIdx i }
      task.registration task.phase answer = some s') : KeyInvariant publicKey s' := by
  have hmem := List.mem_of_getElem? hi
  have hheld := h.held task hmem
  have herase := h.erase hi
  obtain ⟨registration, phase⟩ := task
  cases phase with
  | feeAddresses isHardware =>
      have herase := herase trivial
      cases answer with
      | done =>
          obtain rfl := Option.some.inj hs
          split
          · exact herase.await trivial (fun _ => by simp) (fun _ => by simp)
          · exact herase
      | failed error =>
          obtain rfl := Option.some.inj hs
          exact herase
      | _ => cases hs
  | stakeAddressHex caller =>
      have herase := herase trivial
      cases answer with
      | done =>
          obtain rfl := Option.some.inj hs
          exact herase.await trivial (fun _ => by simp) (fun _ => by simp)
      | failed error =>
          obtain rfl := Option.some.inj hs
          exact herase.prepareFailed caller error
      | _ => cases hs
  | generateKey caller =>
      have herase := herase trivial
      cases answer with
      | key key =>
          obtain rfl := Option.some.inj hs
          have hfree : ∀ t ∈ old.tasks.eraseIdx i, t.phase.hasKey = false :=
            fun t ht => hok.2 t (List.mem_of_mem_eraseIdx ht)
          exact (herase.newKey hok.1 hfree key).await trivial (fun _ => by simp) (fun _ => by simp)
      | failed error =>
          obtain rfl := Option.some.inj hs
          exact herase.prepareFailed caller error
      | _ => cases hs
  | keyGenerated caller =>
      cases answer with
      | done =>
          obtain rfl := Option.some.inj hs
          exact (herase trivial).readKey registration caller
      | _ => cases hs
  | walletPublicKey caller votingKey promise =>
      have herase := herase trivial
      cases answer with
      | done =>
          obtain ⟨outcome, _, rfl⟩ := Option.map_eq_some_iff.1 hs
          split
          · refine herase.await ?_ (fun _ => by simp) (fun _ => by simp)
            cases caller
            · trivial
            · exact hheld
          · exact herase.prepareFailed caller _
      | _ => cases hs
  | stakeKeyHex caller votingKey =>
      have herase := herase trivial
      cases answer with
      | done =>
          obtain rfl := Option.some.inj hs
          exact herase.prepared registration hheld
      | failed error =>
          obtain rfl := Option.some.inj hs
          exact herase.prepareFailed caller error
      | _ => cases hs
  | selectCoins votingKey =>
      have herase := herase trivial
      cases answer with
      | done =>
          obtain rfl := Option.some.inj hs
          exact herase.of_same ⟨rfl, rfl, rfl, rfl, rfl, rfl, rfl⟩
      | failed error =>
          obtain rfl := Option.some.inj hs
          exact herase
      | _ => cases hs
  | sendAddresses walletId =>
      have herase := herase trivial
      cases answer with
      | done =>
          obtain rfl := Option.some.inj hs
          exact herase.sendFrom registration (hok _ hi)
      | failed error =>
          obtain rfl := Option.some.inj hs
          exact herase
      | _ => cases hs
  | signMetadata votingKey promise =>
      have herase := herase trivial
      cases answer with
      | done =>
          obtain ⟨outcome, _, rfl⟩ := Option.map_eq_some_iff.1 hs
          split
          · exact herase.createTransaction registration hheld
          · exact herase.of_same (sameKeys_sendFailed _ _)
      | _ => cases hs
  | createTransaction promise =>
      cases answer with
      | done =>
          obtain ⟨outcome, hsettled, rfl⟩ := Option.map_eq_some_iff.1 hs
          have herase := herase (Option.ne_none_iff_exists'.2 ⟨outcome, hsettled⟩)
          split
          · exact herase.transactionSent registration (h.named_of_created hmem rfl hsettled)
          · exact herase.of_same (sameKeys_sendFailed _ _)
      | _ => cases hs
  | sendMoney promise =>
      cases answer with
      | done =>
          obtain ⟨outcome, hsettled, rfl⟩ := Option.map_eq_some_iff.1 hs
          have herase := herase (Option.ne_none_iff_exists'.2 ⟨outcome, hsettled⟩)
          split
          · exact herase.moneySent registration (h.named_of_sent hmem rfl hsettled)
          · exact herase.moneyNotSent _
      | _ => cases hs
  | moneySent id =>
      cases answer with
      | done =>
          obtain rfl := Option.some.inj hs
          exact (herase trivial).setTransactionId hheld
      | _ => cases hs
  | qrCode pinCode =>
      cases answer with
      | done =>
          obtain rfl := Option.some.inj hs
          exact (herase trivial).generateQrCode pinCode (hok _ hi)
      | _ => cases hs
  | poll promise =>
      have herase := herase trivial
      cases answer with
      | done =>
          obtain ⟨outcome, _, rfl⟩ := Option.map_eq_some_iff.1 hs
          split
          · exact herase.checkVotingRegistrationTransaction _
          · exact herase
      | _ => cases hs
  | signTransaction votingKey =>
      have herase := herase trivial
      cases answer with
      | done =>
          obtain rfl := Option.some.inj hs
          exact herase.of_same ⟨rfl, rfl, rfl, rfl, rfl, rfl, rfl⟩
      | withoutSupplement =>
          obtain rfl := Option.some.inj hs
          exact herase.of_same ⟨rfl, rfl, rfl, rfl, rfl, rfl, rfl⟩
      | failed error =>
          obtain rfl := Option.some.inj hs
          exact herase
      | _ => cases hs

/-! ## Responses -/

theorem getElem?_afterSubmission {votingKey : Option PublicKey} {outcome : Except Failure Unit}
    {id : ℕ} {submitted : Option PublicKey} (h : s.submitted[id]? = some submitted) :
    (afterSubmission s votingKey outcome)[id]? = some submitted := by
  cases outcome with
  | ok _ => exact List.getElem?_concat_eq_some.2 (.inl h)
  | error _ => exact h

theorem getElem?_of_submission {votingKey : Option PublicKey} {outcome : Except Failure Unit} {id : ℕ}
    (h : submission s outcome = .ok id) :
    (afterSubmission s votingKey outcome)[id]? = some votingKey := by
  cases outcome with
  | ok _ =>
      obtain rfl := Except.ok.inj h
      exact List.getElem?_concat_length
  | error _ => cases h

/-- Transactions are only added. -/
theorem KeyInvariant.afterSubmission (h : KeyInvariant publicKey s) (votingKey : Option PublicKey)
    (outcome : Except Failure Unit) :
    KeyInvariant publicKey { s with submitted := afterSubmission s votingKey outcome } where
  held task ht := by
    have hheld := h.held task ht
    revert hheld
    cases task.phase with
    | walletPublicKey caller _ _ => cases caller <;> exact id
    | stakeKeyHex caller _ => cases caller <;> exact id
    | signMetadata _ _ => exact id
    | moneySent _ => exact fun ⟨key, hid, hagrees⟩ => ⟨key, getElem?_afterSubmission hid, hagrees⟩
    | _ => exact id
  created := h.created
  sent := h.sent
  createdRecorded := h.createdRecorded.imp fun _ _ hid => getElem?_afterSubmission hid
  sentRecorded := h.sentRecorded.imp fun _ _ ⟨b, hb, hid⟩ => ⟨b, hb, getElem?_afterSubmission hid⟩
  named id hsome := by
    obtain ⟨key, hid, hagrees⟩ := h.named id hsome
    exact ⟨key, getElem?_afterSubmission hid, hagrees⟩
  qrCodes qrCode hmem := by
    obtain ⟨id, hsome, hid⟩ := h.qrCodes qrCode hmem
    exact ⟨id, hsome, getElem?_afterSubmission hid⟩

theorem KeyInvariant.transactionCreated (h : KeyInvariant publicKey s) {call : ℕ}
    {outcome : Except Failure Unit} (hs : transactionCreated s call outcome = some s') :
    KeyInvariant publicKey s' := by
  obtain ⟨votingKey, hopen, rfl⟩ := Option.map_eq_some_iff.1 hs
  obtain ⟨opened, hcall, rfl, _⟩ := openCall_eq_some hopen
  have hsubmitted := h.afterSubmission (some opened.args) outcome
  refine
    { hsubmitted with
      created := hsubmitted.created.respond call _
      createdRecorded := hsubmitted.createdRecorded.respond ?_ }
  intro c id hc hid
  rw [hcall] at hc
  obtain rfl := Option.some.inj hc
  exact getElem?_of_submission hid

theorem KeyInvariant.sendMoneyAnswered (h : KeyInvariant publicKey s) {call : ℕ}
    {outcome : Except Failure Unit} (hs : sendMoneyAnswered s call outcome = some s') :
    KeyInvariant publicKey s' := by
  unfold VotingStore.sendMoneyAnswered at hs
  rcases hopen : openCall s.sendMoneyRequest call with _ | _ | txBody
  · rw [hopen] at hs
    cases hs
  · rw [hopen] at hs
    cases outcome with
    | ok _ => cases hs
    | error error =>
        obtain rfl := Option.some.inj hs
        refine
          { h with
            sent := h.sent.respond call _
            sentRecorded := h.sentRecorded.respond ?_ }
        intro _ _ _ hid
        cases hid
  · rw [hopen] at hs
    obtain rfl := Option.some.inj hs
    obtain ⟨opened, hcall, hargs, _⟩ := openCall_eq_some hopen
    have hsubmitted := h.afterSubmission txBody.votingKey outcome
    refine
      { hsubmitted with
        sent := hsubmitted.sent.respond call _
        sentRecorded := hsubmitted.sentRecorded.respond ?_ }
    intro c id hc hid
    rw [hcall] at hc
    obtain rfl := Option.some.inj hc
    exact ⟨txBody, hargs, getElem?_of_submission hid⟩

theorem KeyInvariant.transactionAnswered (h : KeyInvariant publicKey s) {call : ℕ}
    {outcome : Except Failure WalletTransaction} (hs : transactionAnswered s call outcome = some s') :
    KeyInvariant publicKey s' := by
  unfold VotingStore.transactionAnswered at hs
  dsimp only at hs
  split at hs
  · obtain rfl := Option.some.inj hs
    exact h.of_same ⟨rfl, rfl, rfl, rfl, rfl, rfl, rfl⟩
  · obtain rfl := Option.some.inj hs
    exact h.of_same ⟨rfl, rfl, rfl, rfl, rfl, rfl, rfl⟩
  · cases hs

theorem sameKeys_checkTransactionFound (s : State Key PublicKey) (interval : CheckInterval) :
    SameKeys s (checkTransactionFound s interval) := by
  unfold checkTransactionFound
  dsimp only
  split <;> exact ⟨rfl, rfl, rfl, rfl, rfl, rfl, rfl⟩

/-! ## Runs -/

theorem KeyInvariant.step (h : KeyInvariant publicKey s) (hok : KeyKept publicKey isHardwareWallet s e)
    (hs : step publicKey isHardwareWallet isDev s e = some s') : KeyInvariant publicKey s' := by
  cases e with
  | selectWallet walletId =>
      obtain rfl := Option.some.inj hs
      have hselected : KeyInvariant publicKey { s with selectedWalletId := some walletId } :=
        h.of_same ⟨rfl, rfl, rfl, rfl, rfl, rfl, rfl⟩
      have hawaits : KeyInvariant publicKey
          (State.await { s with selectedWalletId := some walletId } s.registrations
            (.feeAddresses (isHardwareWallet walletId))) :=
        hselected.await trivial (fun _ => by simp) (fun _ => by simp)
      exact hawaits.of_same (sameKeys_nextRegistrationStep _)
  | nextRegistrationStep =>
      obtain rfl := Option.some.inj hs
      exact h.of_same (sameKeys_nextRegistrationStep s)
  | previousRegistrationStep =>
      obtain rfl := Option.some.inj hs
      exact h.of_same ⟨rfl, rfl, rfl, rfl, rfl, rfl, rfl⟩
  | sendTransaction =>
      obtain ⟨walletId, _, rfl⟩ := Option.map_eq_some_iff.1 hs
      exact h.await trivial (fun _ => by simp) (fun _ => by simp)
  | generateQrCode pinCode =>
      obtain rfl := Option.some.inj hs
      exact h.await trivial (fun _ => by simp) (fun _ => by simp)
  | resetRegistration =>
      obtain rfl := Option.some.inj hs
      exact h.resetRegistration
  | restart =>
      obtain rfl := Option.some.inj hs
      exact { h.resetRegistration with sent := h.resetRegistration.sent.reset }
  | resume i answer =>
      obtain ⟨task, hi, hs⟩ := Option.bind_eq_some_iff.1 hs
      exact h.resume hi hok hs
  | walletPublicKeyAnswered call outcome =>
      obtain ⟨_, _, rfl⟩ := Option.map_eq_some_iff.1 hs
      exact h.of_same ⟨rfl, rfl, rfl, rfl, rfl, rfl, rfl⟩
  | metadataSigned call outcome =>
      obtain ⟨_, _, rfl⟩ := Option.map_eq_some_iff.1 hs
      exact h.of_same ⟨rfl, rfl, rfl, rfl, rfl, rfl, rfl⟩
  | transactionCreated call outcome => exact h.transactionCreated hs
  | moneySent call outcome => exact h.sendMoneyAnswered hs
  | transactionAnswered call outcome => exact h.transactionAnswered hs
  | pollingInterval =>
      obtain ⟨registration, _, rfl⟩ := Option.map_eq_some_iff.1 hs
      have hasked : KeyInvariant publicKey
          { s with
            getTransactionRequest :=
              s.getTransactionRequest.execute ⟨registration, s.transactionId⟩ } :=
        h.of_same ⟨rfl, rfl, rfl, rfl, rfl, rfl, rfl⟩
      exact hasked.await trivial (fun _ => by simp) (fun _ => by simp)
  | checkTransactionFound i =>
      obtain ⟨interval, _, rfl⟩ := Option.map_eq_some_iff.1 hs
      exact h.of_same (sameKeys_checkTransactionFound s interval)
  | signTransaction =>
      obtain rfl := Option.some.inj hs
      exact h.await trivial (fun _ => by simp) (fun _ => by simp)
  | resetTransaction =>
      obtain rfl := Option.some.inj hs
      exact { h with sent := h.sent.reset }

/-- A registration with a software wallet. -/
def registration : List (Event ℕ) :=
  [.selectWallet "software", .resume 0 .done, .sendTransaction, .resume 0 .done, .resume 0 .done,
    .resume 0 (.key 1), .resume 0 .done, .walletPublicKeyAnswered 0 (.ok ()), .resume 0 .done,
    .resume 0 .done, .metadataSigned 0 (.ok ()), .resume 0 .done, .transactionCreated 0 (.ok ()),
    .resume 0 .done, .generateQrCode 1234, .resume 0 .done]

/-- A hardware wallet is selected, then a software wallet; the fee of the first is still being calculated
    when the transaction of the second is sent. -/
def lateFee : List (Event ℕ) :=
  [.selectWallet "hardware", .previousRegistrationStep, .selectWallet "software", .resume 1 .done,
    .sendTransaction, .resume 1 .done, .resume 1 .done, .resume 1 (.key 1), .resume 1 .done,
    .walletPublicKeyAnswered 0 (.ok ()), .resume 1 .done, .resume 1 .done, .metadataSigned 0 (.ok ()),
    .resume 1 .done, .transactionCreated 0 (.ok ()), .resume 1 .done, .pollingInterval,
    .transactionAnswered 0 (.ok ⟨10, .ok⟩), .resume 1 .done, .nextRegistrationStep, .resume 0 .done,
    .resume 0 .done, .resume 0 (.key 2), .generateQrCode 1234, .resume 1 .done]

end Klarity.VotingStore
