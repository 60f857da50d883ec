import Klarity.Library.Lists
import Klarity.Library.Machine
import Klarity.Renderer.Stores.Lib.Request.Awaited

set_option autoImplicit false

/-! # Voting registration

`VotingStore` with what it uses of the dialog and of `HardwareWalletsStore`. Every method that awaits is a
`Task`, suspended in a phase; `resume` lets it go on up to its next await. The calls of the API go through
a `Request`: a call that is made while another one is open awaits the response to that one.

A key is what `Ed25519ExtendedPrivate.generate()` gives, with its public key; of the metadata only the
voting key is kept. A transaction is named by its place in `submitted`. The signing of a transaction with a
hardware wallet (`signTransaction`) starts at any time, as the device allows.

`registration` is the number of resets before a task or an interval was started. It is not read by any
step, and neither are `submitted`, `reports` (the confirmations reported of a transaction) and `qrCodes`
(the keys in the QR codes with the `transactionId` by then). -/

namespace Klarity.VotingStore

open Request (settled openCall)

/-- What of an error the store tells apart. -/
inductive Failure
  | wrongEncryptionPassphrase
  | other
  deriving DecidableEq, Repr

inductive TransactionState
  | pending
  | ok
  | failed
  deriving DecidableEq, Repr

structure WalletTransaction where
  confirmations : ℕ
  state : TransactionState
  deriving DecidableEq, Repr

/-- A signed transaction, as far as its voting metadata goes. -/
structure TxBody (PublicKey : Type) where
  votingKey : Option PublicKey
  deriving DecidableEq, Repr

structure QrCode (Key : Type) where
  pinCode : ℕ
  key : Key
  deriving DecidableEq, Repr

/-- Who awaits `prepareVotingData()`: `_handleCalculateTransactionFee()` or `_sendTransaction()`. -/
inductive Caller
  | fee
  | send
  deriving DecidableEq, Repr

/-- What a method awaits; a promise of a request is given where there is one. -/
inductive Phase (PublicKey : Type)
  | feeAddresses (isHardwareWallet : Bool)
  | stakeAddressHex (caller : Caller)
  | generateKey (caller : Caller)
  | keyGenerated (caller : Caller)
  | walletPublicKey (caller : Caller) (votingKey : PublicKey) (promise : Option ℕ)
  | stakeKeyHex (caller : Caller) (votingKey : PublicKey)
  | selectCoins (votingKey : PublicKey)
  | sendAddresses (walletId : String)
  | signMetadata (votingKey : PublicKey) (promise : Option ℕ)
  | createTransaction (promise : Option ℕ)
  | sendMoney (promise : Option ℕ)
  | moneySent (transactionId : ℕ)
  | qrCode (pinCode : ℕ)
  | poll (promise : Option ℕ)
  | signTransaction (votingKey : Option PublicKey)
  deriving DecidableEq, Repr

structure Task (PublicKey : Type) where
  registration : ℕ
  phase : Phase PublicKey
  deriving DecidableEq, Repr

/-- An interval of `checkTransaction()`. -/
structure CheckInterval where
  registration : ℕ
  transactionId : ℕ
  deriving DecidableEq, Repr

/-- The arguments of `getTransaction`, with the registration that made the call. -/
structure GetTransaction where
  registration : ℕ
  transactionId : Option ℕ
  deriving DecidableEq, Repr

/-- `transactionPollingInterval` is the registration of the interval while it is active. The fields from
    `votingData` to `checkTransactionTimeInterval` are those of `HardwareWalletsStore`. -/
structure State (Key PublicKey : Type) where
  registrationStep : ℤ := 1
  selectedWalletId : Option String := none
  transactionId : Option ℕ := none
  transactionConfirmations : ℕ := 0
  isTransactionPending : Bool := false
  isTransactionConfirmed : Bool := false
  votingRegistrationKey : Option Key := none
  qrCode : Option (QrCode Key) := none
  transactionPollingInterval : Option ℕ := none
  getWalletPublicKeyRequest : Request.State Unit Unit Failure := {}
  signMetadataRequest : Request.State PublicKey Unit Failure := {}
  createVotingRegistrationTransactionRequest : Request.State PublicKey ℕ Failure := {}
  getTransactionRequest : Request.State GetTransaction WalletTransaction Failure := {}
  votingData : Option PublicKey := none
  txBody : Option (TxBody PublicKey) := none
  sendMoneyRequest : Request.State (Option (TxBody PublicKey)) ℕ Failure := {}
  checkTransactions : List CheckInterval := []
  checkTransactionTimeInterval : Option ℕ := none
  tasks : List (Task PublicKey) := []
  registrations : ℕ := 0
  submitted : List (Option PublicKey) := []
  reports : List (ℕ × ℕ) := []
  qrCodes : List (Key × Option ℕ) := []

/-- What a method is resumed with, where it awaits no request. -/
inductive Answer (Key : Type)
  | done
  | key (key : Key)
  | withoutSupplement
  | failed (error : Failure)
  deriving DecidableEq, Repr

inductive Event (Key : Type)
  | selectWallet (walletId : String)
  | nextRegistrationStep
  | previousRegistrationStep
  | sendTransaction
  | generateQrCode (pinCode : ℕ)
  | resetRegistration
  | restart
  | resume (task : ℕ) (answer : Answer Key)
  | walletPublicKeyAnswered (call : ℕ) (outcome : Except Failure Unit)
  | metadataSigned (call : ℕ) (outcome : Except Failure Unit)
  | transactionCreated (call : ℕ) (outcome : Except Failure Unit)
  | moneySent (call : ℕ) (outcome : Except Failure Unit)
  | transactionAnswered (call : ℕ) (outcome : Except Failure WalletTransaction)
  | pollingInterval
  | checkTransactionFound (interval : ℕ)
  | signTransaction
  | resetTransaction
  deriving DecidableEq, Repr

variable {Key PublicKey : Type}

/-- `VOTING_REGISTRATION_MIN_TRANSACTION_CONFIRMATIONS` -/
def minTransactionConfirmations (isDev : Bool) : ℕ := if isDev then 2 else 10

/-- A method is suspended. -/
def State.await (s : State Key PublicKey) (registration : ℕ) (phase : Phase PublicKey) :
    State Key PublicKey :=
  { s with tasks := s.tasks ++ [⟨registration, phase⟩] }

/-! ## The store -/

def nextRegistrationStep (s : State Key PublicKey) : State Key PublicKey :=
  { s with registrationStep := s.registrationStep + 1 }

def startTransactionPolling (s : State Key PublicKey) (registration : ℕ) : State Key PublicKey :=
  { s with transactionPollingInterval := some registration }

def resetRegistration (s : State Key PublicKey) : State Key PublicKey :=
  { s with
    registrationStep := 1
    selectedWalletId := none
    transactionId := none
    transactionConfirmations := 0
    isTransactionPending := false
    isTransactionConfirmed := false
    votingRegistrationKey := none
    qrCode := none
    getWalletPublicKeyRequest := s.getWalletPublicKeyRequest.reset
    createVotingRegistrationTransactionRequest := s.createVotingRegistrationTransactionRequest.reset
    signMetadataRequest := s.signMetadataRequest.reset
    transactionPollingInterval := none
    registrations := s.registrations + 1 }

/-- The `catch` block of `_sendTransaction()`. -/
def sendFailed (s : State Key PublicKey) : Failure → State Key PublicKey
  -- In case of a invalid spending password we stay on the same screen
  | .wrongEncryptionPassphrase => { s with isTransactionPending := false }
  -- For any other error code we proceed to the next screen
  | .other => nextRegistrationStep s

/-- What the error that `prepareVotingData()` throws does to its caller. -/
def prepareFailed (s : State Key PublicKey) (caller : Caller) (error : Failure) : State Key PublicKey :=
  match caller with
  | .fee => s
  | .send => sendFailed s error

section

variable (publicKey : Key → PublicKey) (isHardwareWallet : String → Bool) (isDev : Bool)

/-- `prepareVotingData()` from the key on. -/
def readKey (s : State Key PublicKey) (registration : ℕ) (caller : Caller) : State Key PublicKey :=
  match s.votingRegistrationKey with
  | none => prepareFailed s caller .other
  | some key =>
      let request := s.getWalletPublicKeyRequest.execute ()
      { s with getWalletPublicKeyRequest := request }.await registration
        (.walletPublicKey caller (publicKey key) request.promise)

/-- The caller of `prepareVotingData()` goes on with the data. -/
def prepared (s : State Key PublicKey) (registration : ℕ) (caller : Caller) (votingKey : PublicKey) :
    State Key PublicKey :=
  match caller with
  | .fee => s.await registration (.selectCoins votingKey)
  | .send =>
      let request := s.signMetadataRequest.execute votingKey
      { s with signMetadataRequest := request }.await registration
        (.signMetadata votingKey request.promise)

/-- `_sendTransaction()` from the addresses on. -/
def sendFrom (s : State Key PublicKey) (registration : ℕ) (walletId : String) : State Key PublicKey :=
  let started :=
    { s with
      isTransactionPending := true
      isTransactionConfirmed := false
      getWalletPublicKeyRequest := s.getWalletPublicKeyRequest.reset
      createVotingRegistrationTransactionRequest := s.createVotingRegistrationTransactionRequest.reset
      signMetadataRequest := s.signMetadataRequest.reset }
  if isHardwareWallet walletId then
    let request := s.sendMoneyRequest.execute s.txBody
    { started with sendMoneyRequest := request }.await registration (.sendMoney request.promise)
  else started.await registration (.stakeAddressHex .send)

def createTransaction (s : State Key PublicKey) (registration : ℕ) (votingKey : PublicKey) :
    State Key PublicKey :=
  let request := s.createVotingRegistrationTransactionRequest.execute votingKey
  { s with createVotingRegistrationTransactionRequest := request }.await registration
    (.createTransaction request.promise)

/-- `_sendTransaction()` of a software wallet from the transaction on. -/
def transactionSent (s : State Key PublicKey) (registration transactionId : ℕ) : State Key PublicKey :=
  nextRegistrationStep
    (startTransactionPolling { s with transactionId := some transactionId } registration)

/-- `_sendMoney()` from the transaction on. -/
def moneySent (s : State Key PublicKey) (registration transactionId : ℕ) : State Key PublicKey :=
  let checked : State Key PublicKey :=
    { s with
      checkTransactions := s.checkTransactions ++ [⟨registration, transactionId⟩]
      checkTransactionTimeInterval := some transactionId
      sendMoneyRequest := s.sendMoneyRequest.reset }
  checked.await registration (.moneySent transactionId)

/-- The `catch` block of `_sendMoney()`, then that of `_sendTransaction()`. -/
def moneyNotSent (s : State Key PublicKey) (error : Failure) : State Key PublicKey :=
  sendFailed { s with txBody := none, votingData := none } error

/-- `_generateQrCode()` from the await on; without a key it throws. -/
def generateQrCode (s : State Key PublicKey) (pinCode : ℕ) : State Key PublicKey :=
  match s.votingRegistrationKey with
  | none => s
  | some key =>
      nextRegistrationStep
        { s with
          qrCode := some ⟨pinCode, key⟩
          qrCodes := s.qrCodes ++ [(key, s.transactionId)] }

/-- `_checkVotingRegistrationTransaction()` from the answer on. -/
def checkVotingRegistrationTransaction (s : State Key PublicKey) (transaction : WalletTransaction) :
    State Key PublicKey :=
  let counted :=
    { s with
      transactionConfirmations := transaction.confirmations
      isTransactionPending := s.isTransactionPending && decide (transaction.state ≠ .ok) }
  if !s.isTransactionConfirmed && decide (minTransactionConfirmations isDev ≤ transaction.confirmations) then
    { counted with isTransactionConfirmed := true, transactionPollingInterval := none }
  else counted

/-- A method goes on with what it was awaiting; `none` as long as the promise is not settled. -/
def resume (s : State Key PublicKey) (registration : ℕ) :
    Phase PublicKey → Answer Key → Option (State Key PublicKey)
  | .feeAddresses isHardware, .done =>
      some (if isHardware then s.await registration (.stakeAddressHex .fee) else s)
  | .feeAddresses _, .failed _ => some s
  | .stakeAddressHex caller, .done => some (s.await registration (.generateKey caller))
  | .stakeAddressHex caller, .failed error => some (prepareFailed s caller error)
  | .generateKey caller, .key key =>
      some ({ s with votingRegistrationKey := some key }.await registration (.keyGenerated caller))
  | .generateKey caller, .failed error => some (prepareFailed s caller error)
  | .keyGenerated caller, .done => some (readKey publicKey s registration caller)
  | .walletPublicKey caller votingKey promise, .done =>
      (settled s.getWalletPublicKeyRequest promise).map fun
        | .ok _ => s.await registration (.stakeKeyHex caller votingKey)
        | .error error => prepareFailed s caller error
  | .stakeKeyHex caller votingKey, .done => some (prepared s registration caller votingKey)
  | .stakeKeyHex caller _, .failed error => some (prepareFailed s caller error)
  -- `initiateTransaction()` takes over the data
  | .selectCoins votingKey, .done => some { s with votingData := some votingKey }
  | .selectCoins _, .failed _ => some s
  | .sendAddresses walletId, .done => some (sendFrom isHardwareWallet s registration walletId)
  | .sendAddresses _, .failed _ => some s
  | .signMetadata votingKey promise, .done =>
      (settled s.signMetadataRequest promise).map fun
        | .ok _ => createTransaction s registration votingKey
        | .error error => sendFailed s error
  | .createTransaction promise, .done =>
      (settled s.createVotingRegistrationTransactionRequest promise).map fun
        | .ok transactionId => transactionSent s registration transactionId
        | .error error => sendFailed s error
  | .sendMoney promise, .done =>
      (settled s.sendMoneyRequest promise).map fun
        | .ok transactionId => moneySent s registration transactionId
        | .error error => moneyNotSent s error
  | .moneySent transactionId, .done => some { s with transactionId := some transactionId }
  | .qrCode pinCode, .done => some (generateQrCode s pinCode)
  | .poll promise, .done =>
      (settled s.getTransactionRequest promise).map fun
        | .ok transaction => checkVotingRegistrationTransaction isDev s transaction
        | .error _ => s
  | .signTransaction votingKey, .done => some { s with txBody := some ⟨votingKey⟩ }
  | .signTransaction _, .withoutSupplement => some { s with txBody := some ⟨none⟩ }
  | .signTransaction _, .failed _ => some s
  | _, _ => none

/-! ## Responses, intervals and the device -/

/-- The outcome of a call that submits a transaction. -/
def submission (s : State Key PublicKey) : Except Failure Unit → Except Failure ℕ
  | .ok _ => .ok s.submitted.length
  | .error error => .error error

/-- The transactions after a call that submits one. -/
def afterSubmission (s : State Key PublicKey) (votingKey : Option PublicKey) :
    Except Failure Unit → List (Option PublicKey)
  | .ok _ => s.submitted ++ [votingKey]
  | .error _ => s.submitted

def transactionCreated (s : State Key PublicKey) (call : ℕ) (outcome : Except Failure Unit) :
    Option (State Key PublicKey) :=
  (openCall s.createVotingRegistrationTransactionRequest call).map fun votingKey =>
    { s with
      createVotingRegistrationTransactionRequest :=
        s.createVotingRegistrationTransactionRequest.respond call (submission s outcome)
      submitted := afterSubmission s (some votingKey) outcome }

/-- Without a signed body the call fails. -/
def sendMoneyAnswered (s : State Key PublicKey) (call : ℕ) (outcome : Except Failure Unit) :
    Option (State Key PublicKey) :=
  match openCall s.sendMoneyRequest call, outcome with
  | some none, .error error =>
      some { s with sendMoneyRequest := s.sendMoneyRequest.respond call (.error error) }
  | some (some txBody), outcome =>
      some
        { s with
          sendMoneyRequest := s.sendMoneyRequest.respond call (submission s outcome)
          submitted := afterSubmission s txBody.votingKey outcome }
  | _, _ => none

/-- Without an id the call fails. -/
def transactionAnswered (s : State Key PublicKey) (call : ℕ)
    (outcome : Except Failure WalletTransaction) : Option (State Key PublicKey) :=
  let answered :=
    { s with getTransactionRequest := s.getTransactionRequest.respond call outcome }
  match openCall s.getTransactionRequest call, outcome with
  | some ⟨_, some transactionId⟩, .ok transaction =>
      some { answered with reports := s.reports ++ [(transactionId, transaction.confirmations)] }
  | some _, .error _ => some answered
  | _, _ => none

def pollingInterval (s : State Key PublicKey) : Option (State Key PublicKey) :=
  s.transactionPollingInterval.map fun registration =>
    let request := s.getTransactionRequest.execute ⟨registration, s.transactionId⟩
    { s with getTransactionRequest := request }.await registration (.poll request.promise)

/-- `checkTransaction()` when it finds the transaction: it stops the interval that was set last. -/
def checkTransactionFound (s : State Key PublicKey) (interval : CheckInterval) : State Key PublicKey :=
  let stopped :=
    match s.checkTransactionTimeInterval with
    | none => s
    | some transactionId =>
        { s with
          checkTransactions := s.checkTransactions.filter fun i => i.transactionId ≠ transactionId
          checkTransactionTimeInterval := none }
  nextRegistrationStep (startTransactionPolling stopped interval.registration)

def resetTransaction (s : State Key PublicKey) : State Key PublicKey :=
  { s with
    sendMoneyRequest := s.sendMoneyRequest.reset
    txBody := none
    votingData := none }

/-! ## The machine -/

def step (s : State Key PublicKey) : Event Key → Option (State Key PublicKey)
  | .selectWallet walletId =>
      some (nextRegistrationStep ({ s with selectedWalletId := some walletId }.await s.registrations
        (.feeAddresses (isHardwareWallet walletId))))
  | .nextRegistrationStep => some (nextRegistrationStep s)
  | .previousRegistrationStep => some { s with registrationStep := s.registrationStep - 1 }
  | .sendTransaction =>
      s.selectedWalletId.map fun walletId => s.await s.registrations (.sendAddresses walletId)
  | .generateQrCode pinCode => some (s.await s.registrations (.qrCode pinCode))
  | .resetRegistration => some (resetRegistration s)
  | .restart => some { resetRegistration s with sendMoneyRequest := s.sendMoneyRequest.reset }
  | .resume i answer => do
      let task ← s.tasks[i]?
      resume publicKey isHardwareWallet isDev { s with tasks := s.tasks.eraseIdx i } task.registration
        task.phase answer
  | .walletPublicKeyAnswered call outcome =>
      (openCall s.getWalletPublicKeyRequest call).map fun _ =>
        { s with getWalletPublicKeyRequest := s.getWalletPublicKeyRequest.respond call outcome }
  | .metadataSigned call outcome =>
      (openCall s.signMetadataRequest call).map fun _ =>
        { s with signMetadataRequest := s.signMetadataRequest.respond call outcome }
  | .transactionCreated call outcome => transactionCreated s call outcome
  | .moneySent call outcome => sendMoneyAnswered s call outcome
  | .transactionAnswered call outcome => transactionAnswered s call outcome
  | .pollingInterval => pollingInterval s
  | .checkTransactionFound i => s.checkTransactions[i]?.map (checkTransactionFound s)
  | .signTransaction => some (s.await s.registrations (.signTransaction s.votingData))
  | .resetTransaction => some (resetTransaction s)

def machine : Machine (State Key PublicKey) (Event Key) :=
  ⟨{}, step publicKey isHardwareWallet isDev⟩

end

end Klarity.VotingStore
