import Klarity.Library.Machine
import Klarity.Renderer.Api.Transactions.Types
import Klarity.Renderer.Domains.Wallet
import Mathlib.Data.List.Basic

set_option autoImplicit false

/-! # Signing with a hardware wallet

`initiateTransaction()` finds the device of a wallet, exports its public key, has the transaction signed by
it and leaves the signed body in `txBody`, which `_sendMoney()` submits. What it works on is in fields of
the store, and it waits many times on the way: for a transport, for the Bcc app on a Ledger (polled every
second), for the key, for the signature. A `Call` is a function that is suspended at one of these, with its
callers; the event `answer` lets it go on, up to where it is suspended again.

The stored devices and wallets are written by other functions. An event that reads them comes with what
they are by then (`Tables`). The verification of addresses is left out.

`initiations`, `current`, `exports`, `signRequests` and `submissions` record what was initiated, exported,
asked for and submitted; no step reads them. A signed body is named by its sign request. -/

namespace Klarity.HardwareWallets.SigningSession

inductive DeviceType
  | ledger
  | trezor
  deriving DecidableEq, Repr

inductive DeviceEvent
  | connect
  | connectUnacquired
  | disconnect
  | changed
  | acquire
  | release
  | acquired
  | released
  deriving DecidableEq, Repr

/-- A transport device; `{}` has no type and no path. -/
structure Device where
  path : Option String := none
  deviceType : Option DeviceType := none
  deviceId : Option String := none
  deriving DecidableEq, Repr

structure HardwareWalletDevice extends Device where
  id : String
  paired : Option String
  disconnected : Bool
  deriving DecidableEq, Repr

structure ExtendedPublicKey where
  publicKeyHex : String
  chainCodeHex : String
  deviceId : Option String
  deriving DecidableEq, Repr

structure HardwareWalletLocalData where
  id : String
  disconnected : Bool
  device : Device
  extendedPublicKey : ExtendedPublicKey
  deriving DecidableEq, Repr

/-- What is stored of devices and wallets; `wallets` are those that `getWalletById` finds. -/
structure Tables where
  hardwareWalletDevices : List HardwareWalletDevice
  hardwareWalletsConnectionData : List HardwareWalletLocalData
  active : Option String
  wallets : List String
  deriving DecidableEq, Repr

/-- Errors, as far as the functions tell them apart. -/
inductive Failure
  | deviceBusy
  | notConnected
  | pathChanged (path : String)
  | cancelled
  | aborted
  | bridgeMissing
  | other
  deriving DecidableEq, Repr

/-- A function that awaits another one: `initiateTransaction()` awaits the connection, twice for a Trezor
    that was disconnected; the others await the export of the key. -/
inductive Frame
  | initiateLedger (walletId : String)
  | initiateTrezor (walletId : String)
  | establish (device : Option Device)
  | bccBccApp (path walletId : Option String)
  deriving DecidableEq, Repr

/-- What a transaction is signed with. A Trezor is not asked by the path that the key came from, but by
    the one of the device that is paired with the wallet. -/
structure Signing (Selection : Type) where
  isTrezor : Bool
  walletId : String
  deviceId : Option String
  devicePath : Option String
  coinSelection : Selection
  deriving DecidableEq

inductive Call (Selection : Type)
  | initiateTransport (walletId : String)
  | establishTransport (isTrezor : Bool) (activeWalletId : Option String) (callers : List Frame)
  | restoreTransport (callers : List Frame)
  | bccBccApp (path walletId : Option String)
  | pathChanged (newPath : String) (walletId : Option String)
  | extendedPublicKey (device : Device) (forcedPath walletId : Option String) (callers : List Frame)
  | unsetDevice (device : Device) (forcedPath walletId deviceId : Option String) (recognized : String)
      (callers : List Frame)
  | createHardwareWallet (isTrezor : Bool) (callers : List Frame)
  /-- The two seconds after a Trezor refused to export its key. -/
  | rejected
  | prepare (signing : Signing Selection)
  | signTransaction (isTrezor : Bool) (request : ℕ)
  | sendMoney
  deriving DecidableEq

/-- An interval that looks for the Bcc app. -/
structure Poller where
  path : Option String
  walletId : Option String
  deriving DecidableEq, Repr

structure Initiation (Selection : Type) where
  walletId : Option String
  coinSelection : Option Selection
  votingData : Option VotingData
  deriving DecidableEq

/-- `initiation` is the latest one not yet reset, and `exports` are the keys exported so far, when the
    request was sent. -/
structure SignRequest (Selection : Type) where
  initiation : Option ℕ
  walletId : String
  devicePath : Option String
  coinSelection : Selection
  votingData : Option VotingData
  exports : List (Option String × String)
  deriving DecidableEq

structure Submission where
  initiation : Option ℕ
  body : Option ℕ
  deriving DecidableEq, Repr

structure State (Selection : Type) where
  hwDeviceStatus : HwDeviceStatus := .connecting
  transportDevice : Option Device := none
  txSignRequest : Option Selection := none
  txBody : Option ℕ := none
  isTransactionInitiated : Bool := false
  unfinishedWalletTxSigning : Option String := none
  isListeningForDevice : Bool := false
  isExportKeyAborted : Bool := false
  activeDelegationWalletId : Option String := none
  activeVotingWalletId : Option String := none
  votingData : Option VotingData := none
  /-- The intervals that were set; `none` once cleared. -/
  intervals : List (Option Poller) := []
  bccBccAppPollingInterval : Option ℕ := none
  calls : List (Call Selection) := []
  initiations : List (Initiation Selection) := []
  current : Option ℕ := none
  exports : List (Option String × String) := []
  signRequests : List (SignRequest Selection) := []
  submissions : List Submission := []
  deriving DecidableEq

/-- What a call was waiting for. A transport comes with whether its firmware is recent enough, the Bcc app
    (if it is found) with whether its version is. -/
inductive Answer
  | transport (device : Option Device) (isFirmwareVersionValid : Bool)
  | app (isValidAppVersion : Option Bool)
  | key (extendedPublicKey : ExtendedPublicKey)
  | done
  | failed (failure : Failure)
  deriving DecidableEq, Repr

/-- What can happen next. `selectCoins` is a coin selection that arrives, or its removal. -/
inductive Event (Selection : Type)
  | initiateTransaction (walletId : Option String) (votingData : Option VotingData) (tables : Tables)
  | resetTransaction
  | resetInitializedConnection
  | selectCoins (coinSelection : Option Selection)
  | statusChanged (disconnected : Bool) (eventType : Option DeviceEvent) (tables : Tables)
  | tick (interval : ℕ)
  | answer (k : ℕ) (answer : Answer) (tables : Tables)
  | sendMoney
  deriving DecidableEq

/-! ## Stored devices and wallets -/

namespace Tables

def connectionData (tables : Tables) (walletId : String) : Option HardwareWalletLocalData :=
  tables.hardwareWalletsConnectionData.find? fun connection => connection.id = walletId

/-- The device that is paired with a wallet. -/
def pairedDevice (tables : Tables) (walletId : String) : Option HardwareWalletDevice :=
  tables.hardwareWalletDevices.find? fun device => device.paired = some walletId

def lastUnpairedDevice (tables : Tables) : Option HardwareWalletDevice :=
  tables.hardwareWalletDevices.reverse.find? fun device => device.paired = none ∧ !device.disconnected

def deviceWithPath (tables : Tables) (path : Option String) : Option HardwareWalletDevice :=
  tables.hardwareWalletDevices.find? fun device => device.path = path

/-- The wallet that an exported key belongs to. -/
def recognizedWallet (tables : Tables) (key : ExtendedPublicKey) : Option String :=
  (tables.hardwareWalletsConnectionData.find? fun data =>
    key.chainCodeHex = data.extendedPublicKey.chainCodeHex ∧
      key.publicKeyHex = data.extendedPublicKey.publicKeyHex).bind fun data =>
    if data.id ∈ tables.wallets then some data.id else none

end Tables

variable {Selection : Type}

namespace State

/-! ## Pollers -/

def suspend (s : State Selection) (call : Call Selection) : State Selection :=
  { s with calls := call :: s.calls }

def stopBccBccAppFetchPoller (s : State Selection) : State Selection :=
  match s.bccBccAppPollingInterval with
  | some i => { s with intervals := s.intervals.set i none }
  | none => s

/-- `setInterval`; an interval that is not cleared goes on. -/
def setPoller (s : State Selection) (poller : Poller) : State Selection :=
  { s with
    intervals := s.intervals ++ [some poller]
    bccBccAppPollingInterval := some s.intervals.length }

def getBccBccApp (s : State Selection) (path walletId : Option String) : State Selection :=
  { s with hwDeviceStatus := .launchingBccApp }.suspend (.bccBccApp path walletId)

/-! ## Errors -/

/-- The `catch` block of `getBccBccApp()`. -/
def catchBccBccApp (s : State Selection) (tables : Tables) (path walletId : Option String) :
    Failure → State Selection
  | .deviceBusy =>
      { s.stopBccBccAppFetchPoller with
        hwDeviceStatus := .connectingFailed
        unfinishedWalletTxSigning := if s.isTransactionInitiated then walletId else none }
  | .notConnected =>
      { s.stopBccBccAppFetchPoller with hwDeviceStatus := .connecting, isListeningForDevice := true }
  | .pathChanged newPath =>
      match tables.deviceWithPath path with
      | some _ => s.stopBccBccAppFetchPoller.suspend (.pathChanged newPath walletId)
      -- `pairedDevice.id` throws
      | none => s.stopBccBccAppFetchPoller
  | _ => s

/-- The `catch` block of `establishHardwareWalletConnection()`. -/
def catchEstablish (s : State Selection) : Failure → State Selection
  | .bridgeMissing => { s with hwDeviceStatus := .trezorBridgeFailure }
  | _ => s

/-- The `catch` block of `initiateTransaction()`. -/
def catchInitiate (s : State Selection) : State Selection :=
  { s with isTransactionInitiated := false, hwDeviceStatus := .verifyingTransactionFailed }

/-- An error goes to the callers. -/
def throwTo (s : State Selection) (tables : Tables) (failure : Failure) :
    List Frame → State Selection
  | [] => s
  | .initiateLedger _ :: _ => s.catchInitiate
  | .initiateTrezor _ :: _ => s
  | .establish _ :: callers => (s.catchEstablish failure).throwTo tables failure callers
  | .bccBccApp path walletId :: _ => s.catchBccBccApp tables path walletId failure

/-- The `catch` block of `_getExtendedPublicKey()`. -/
def catchExport (s : State Selection) (isTrezor : Bool) : Failure → State Selection
  | .cancelled =>
      if isTrezor then s.suspend .rejected
      else
        { s.stopBccBccAppFetchPoller with
          hwDeviceStatus := .exportingPublicKeyFailed
          isListeningForDevice := true
          isExportKeyAborted := true }
  | .aborted =>
      { s.stopBccBccAppFetchPoller with
        hwDeviceStatus := .connecting
        isListeningForDevice := true
        isExportKeyAborted := true }
  | _ => { s with hwDeviceStatus := .exportingPublicKeyFailed }

/-! ## The export of the key -/

def getExtendedPublicKey (s : State Selection) (tables : Tables) (forcedPath walletId : Option String)
    (callers : List Frame) : State Selection :=
  let s := { s with hwDeviceStatus := .exportingPublicKey }
  match s.transportDevice with
  | none => s.throwTo tables .other callers
  | some device => s.suspend (.extendedPublicKey device forcedPath walletId callers)

/-- `initiateTransaction()` with a Ledger: look for its Bcc app. -/
def pollBccBccApp (s : State Selection) (devicePath : Option String) (walletId : String) :
    State Selection :=
  s.stopBccBccAppFetchPoller.setPoller ⟨devicePath, some walletId⟩

/-- `establishHardwareWalletConnection()` returns to its caller. -/
def returnDevice (s : State Selection) (tables : Tables) (device : Option Device) :
    List Frame → State Selection
  | .initiateLedger walletId :: _ =>
      match device with
      | some device => s.pollBccBccApp device.path walletId
      -- Signing device not recognized!
      | none => s.catchInitiate
  | .initiateTrezor walletId :: _ =>
      match device with
      | some device =>
          { s with transportDevice := some device }.getExtendedPublicKey tables device.path
            (some walletId) []
      | none => s
  | _ => s

/-- `_getExtendedPublicKey()` returns to its caller. -/
def returnFromExport (s : State Selection) (tables : Tables) : List Frame → State Selection
  | .establish device :: callers => s.returnDevice tables device callers
  | _ => s

/-! ## The connection -/

def activeWalletId (s : State Selection) (tables : Tables) : Option String :=
  if s.isTransactionInitiated ∧ (s.activeDelegationWalletId.isSome ∨ s.activeVotingWalletId.isSome) then
    s.activeVotingWalletId.or s.activeDelegationWalletId
  else tables.active

/-- The device of a transaction is found; a key export that was rejected before is forced again. -/
def forceExport (s : State Selection) (tables : Tables) (device : Device) (isTrezor : Bool)
    (activeWalletId : Option String) (callers : List Frame) : State Selection :=
  let s := { s with transportDevice := some device }
  if s.isExportKeyAborted then
    if isTrezor then
      s.getExtendedPublicKey tables device.path activeWalletId (.establish (some device) :: callers)
    else (s.setPoller ⟨device.path, activeWalletId⟩).returnDevice tables (some device) callers
  else s.returnDevice tables (some device) callers

/-- The checks of a device that no transaction waits for. -/
def restoreWith (s : State Selection) (tables : Tables) (device : Option Device)
    (isFirmwareVersionValid : Bool) (callers : List Frame) : State Selection :=
  match device with
  | none => { s with hwDeviceStatus := .connectingFailed }.throwTo tables .other callers
  | some device =>
      if device.deviceType = some .trezor then
        if isFirmwareVersionValid then
          { s with transportDevice := some device }.getExtendedPublicKey tables device.path none
            (.establish (some device) :: callers)
        else { s with hwDeviceStatus := .wrongFirmware }.throwTo tables .other callers
      else
        ({ s with transportDevice := some device }.stopBccBccAppFetchPoller.setPoller
          ⟨device.path, none⟩).returnDevice tables (some device) callers

def establishHardwareWalletConnection (s : State Selection) (tables : Tables)
    (callers : List Frame) : State Selection :=
  let s := { s with hwDeviceStatus := .connecting }
  let activeWalletId := s.activeWalletId tables
  if s.isTransactionInitiated then
    match (activeWalletId.bind tables.pairedDevice).filter fun device => !device.disconnected with
    | some device =>
        s.forceExport tables device.toDevice (device.deviceType = some .trezor) activeWalletId callers
    | none =>
        match (activeWalletId.bind tables.connectionData).bind fun data => data.device.deviceType with
        | some deviceType =>
            s.suspend (.establishTransport (deviceType = .trezor) activeWalletId callers)
        | none => s.returnDevice tables none callers
  else
    match tables.lastUnpairedDevice with
    | some device =>
        if device.deviceType = some .trezor then s.suspend (.restoreTransport callers)
        else s.restoreWith tables (some device.toDevice) true callers
    | none => { s with isListeningForDevice := true }.returnDevice tables none callers

/-! ## The transaction -/

/-- `initiateTransaction()` after its first `runInAction`. -/
def findDevice (s : State Selection) (tables : Tables) (walletId : Option String) : State Selection :=
  match walletId.bind tables.connectionData, walletId with
  | some connection, some walletId =>
      if connection.device.deviceType = some .trezor then
        if connection.disconnected ∧ tables.lastUnpairedDevice = none then
          s.suspend (.initiateTransport walletId)
        else s.establishHardwareWalletConnection tables [.initiateTrezor walletId]
      else
        if connection.disconnected then
          s.establishHardwareWalletConnection tables [.initiateLedger walletId]
        else s.pollBccBccApp connection.device.path walletId
  -- Wallet not paired or Device not connected
  | _, _ => s

def setInitiated (s : State Selection) (walletId : Option String) (votingData : Option VotingData) :
    State Selection :=
  { s with
    isTransactionInitiated := true
    hwDeviceStatus := .connecting
    activeDelegationWalletId := walletId
    votingData := votingData
    activeVotingWalletId := walletId }

def initiateTransaction (s : State Selection) (walletId : Option String)
    (votingData : Option VotingData) (tables : Tables) : State Selection :=
  (s.setInitiated walletId votingData).findDevice tables walletId

/-- `_signTransactionTrezor()` and `_signTransactionLedger()` up to their first `await`. -/
def signTransaction (s : State Selection) (tables : Tables) (isTrezor : Bool) (walletId : String)
    (deviceId devicePath : Option String) : State Selection :=
  let s := { s with hwDeviceStatus := .verifyingTransaction }
  match s.txSignRequest with
  | none => if isTrezor then { s with hwDeviceStatus := .verifyingTransactionFailed } else s
  | some coinSelection =>
      match tables.connectionData walletId with
      | some _ => s.suspend (.prepare ⟨isTrezor, walletId, deviceId, devicePath, coinSelection⟩)
      | none => s

/-- The device does not belong to the wallet: wait for another one. -/
def setUnfinished (s : State Selection) (walletId : Option String) : State Selection :=
  { s with
    hwDeviceStatus := .connectingFailed
    unfinishedWalletTxSigning := walletId
    isExportKeyAborted := false }

/-- `_getExtendedPublicKey()` with the wallet that the key belongs to. -/
def recognized (s : State Selection) (tables : Tables) (device : Device)
    (forcedPath walletId deviceId : Option String) (recognized : String) (callers : List Frame) :
    State Selection :=
  if s.isTransactionInitiated then
    if walletId = some recognized then
      ({ s with
        isTransactionInitiated := false
        unfinishedWalletTxSigning := none
        isExportKeyAborted := false }.signTransaction tables (device.deviceType = some DeviceType.trezor)
          recognized deviceId (forcedPath.or device.path)).returnFromExport tables callers
    else (s.setUnfinished walletId).returnFromExport tables callers
  -- `goToWalletRoute`
  else s.returnFromExport tables callers

/-- The request for the signature is sent. -/
def requestSignature (s : State Selection) (signing : Signing Selection)
    (devicePath : Option String) : State Selection :=
  let request : SignRequest Selection :=
    { initiation := s.current
      walletId := signing.walletId
      devicePath := devicePath
      coinSelection := signing.coinSelection
      votingData := s.votingData
      exports := s.exports }
  { s with signRequests := s.signRequests ++ [request] }.suspend
    (.signTransaction signing.isTrezor s.signRequests.length)

/-- `_signTransactionTrezor()` once the transaction is put together. -/
def requestTrezor (s : State Selection) (tables : Tables) (signing : Signing Selection) :
    State Selection :=
  let device := tables.pairedDevice signing.walletId
  if s.isTransactionInitiated then
    if device.all fun device => signing.deviceId.any fun id => device.id ≠ id then
      { s with
        hwDeviceStatus := .connectingFailed
        unfinishedWalletTxSigning := some signing.walletId }
    else
      { s with isTransactionInitiated := false, unfinishedWalletTxSigning := none }.requestSignature
        signing (device.bind (·.path))
  else s.requestSignature signing (device.bind (·.path))

def resetTransaction (s : State Selection) : State Selection :=
  { s.stopBccBccAppFetchPoller with
    isTransactionInitiated := false
    hwDeviceStatus := .ready
    txBody := none
    unfinishedWalletTxSigning := none
    activeDelegationWalletId := none
    activeVotingWalletId := none
    votingData := none
    current := none }

def resetInitializedConnection (s : State Selection) : State Selection :=
  { s.stopBccBccAppFetchPoller with
    hwDeviceStatus := .connecting
    transportDevice := some {}
    isListeningForDevice := false
    isExportKeyAborted := false }

/-- Start the connection if the listener flag is up. -/
def startConnection (s : State Selection) (disconnected : Bool) (eventType : Option DeviceEvent)
    (tables : Tables) : State Selection :=
  if s.isListeningForDevice ∧ !disconnected ∧ (eventType = none ∨ eventType = some .connect) then
    { s with isListeningForDevice := false }.establishHardwareWalletConnection tables []
  else s

/-- The end of `_changeHardwareWalletConnectionStatus()`; before that it only writes what is stored. -/
def statusChanged (s : State Selection) (disconnected : Bool) (eventType : Option DeviceEvent)
    (tables : Tables) : State Selection :=
  let s := s.startConnection disconnected eventType tables
  if s.unfinishedWalletTxSigning.isSome ∧ !disconnected ∧ eventType = some .connect then
    s.initiateTransaction s.unfinishedWalletTxSigning none tables
  else s

def sendMoney (s : State Selection) : State Selection :=
  let submission : Submission := { initiation := s.current, body := s.txBody }
  { s with submissions := s.submissions ++ [submission] }.suspend .sendMoney

/-! ## Answers -/

/-- A call that was taken out of `s.calls` goes on. -/
def goOn (s : State Selection) (tables : Tables) : Call Selection → Answer → Option (State Selection)
  | .initiateTransport walletId, .transport device _ =>
      match device with
      | some _ => some (s.establishHardwareWalletConnection tables [.initiateTrezor walletId])
      | none => some s.catchInitiate
  | .initiateTransport _, .failed _ => some s.catchInitiate
  | .establishTransport isTrezor activeWalletId callers, .transport device _ =>
      match device with
      | some device => some (s.forceExport tables device isTrezor activeWalletId callers)
      | none =>
          let s := { s with transportDevice := none }
          -- `lastDeviceTransport.path` throws
          if s.isExportKeyAborted then some (s.throwTo tables .other callers)
          else some (s.returnDevice tables none callers)
  | .establishTransport _ _ callers, .failed failure =>
      some ((s.catchEstablish failure).throwTo tables failure callers)
  | .restoreTransport callers, .transport device isFirmwareVersionValid =>
      some (s.restoreWith tables device isFirmwareVersionValid callers)
  | .restoreTransport callers, .failed failure =>
      some ((s.catchEstablish failure).throwTo tables failure callers)
  | .bccBccApp path walletId, .app isValidAppVersion =>
      let s := s.stopBccBccAppFetchPoller
      match isValidAppVersion with
      | some true => some (s.getExtendedPublicKey tables path walletId [.bccBccApp path walletId])
      | some false => some { s with hwDeviceStatus := .wrongBccAppVersion }
      | none => some s
  | .bccBccApp path walletId, .failed failure => some (s.catchBccBccApp tables path walletId failure)
  | .pathChanged newPath walletId, .done => some (s.setPoller ⟨some newPath, walletId⟩)
  | .extendedPublicKey device forcedPath walletId callers, .key key =>
      match tables.recognizedWallet key with
      | some wallet =>
          let s := { s with exports := (forcedPath.or device.path, wallet) :: s.exports }
          let deviceId := key.deviceId.or device.deviceId
          match tables.deviceWithPath forcedPath with
          | some _ => some (s.suspend (.unsetDevice device forcedPath walletId deviceId wallet callers))
          | none => some (s.recognized tables device forcedPath walletId deviceId wallet callers)
      | none =>
          if s.isTransactionInitiated then
            some ((s.setUnfinished walletId).returnFromExport tables callers)
          else
            some (s.suspend (.createHardwareWallet (device.deviceType = some .trezor) callers))
  | .extendedPublicKey device _ _ callers, .failed failure =>
      some ((s.catchExport (device.deviceType = some .trezor) failure).throwTo tables failure callers)
  | .unsetDevice device forcedPath walletId deviceId wallet callers, .done =>
      some (s.recognized tables device forcedPath walletId deviceId wallet callers)
  | .createHardwareWallet _ callers, .done =>
      some (s.resetInitializedConnection.returnFromExport tables callers)
  | .createHardwareWallet isTrezor callers, .failed failure =>
      some ((s.catchExport isTrezor failure).throwTo tables failure callers)
  | .rejected, .done =>
      some { s with
        hwDeviceStatus := .exportingPublicKeyFailed
        isListeningForDevice := true
        isExportKeyAborted := true }
  | .prepare signing, .done =>
      if signing.isTrezor then some (s.requestTrezor tables signing)
      else some (s.requestSignature signing signing.devicePath)
  | .prepare _, .failed _ => some s
  | .signTransaction _ request, .done =>
      some { s with txBody := some request, hwDeviceStatus := .verifyingTransactionSucceeded }
  | .signTransaction isTrezor _, .failed _ =>
      some { s with
        hwDeviceStatus := .verifyingTransactionFailed
        isTransactionInitiated := !isTrezor && s.isTransactionInitiated }
  | .sendMoney, .done => some s
  | .sendMoney, .failed _ =>
      some { s with txBody := none, unfinishedWalletTxSigning := none, votingData := none }
  | _, _ => none

def takeOut (s : State Selection) (k : ℕ) : State Selection :=
  { s with calls := s.calls.eraseIdx k }

/-- The user initiates a transaction. -/
def initiate (s : State Selection) (walletId : Option String) (votingData : Option VotingData) :
    State Selection :=
  { s.setInitiated walletId votingData with
    initiations := s.initiations ++ [⟨walletId, s.txSignRequest, votingData⟩]
    current := some s.initiations.length }

end State

open State

def step (s : State Selection) : Event Selection → Option (State Selection)
  | .initiateTransaction walletId votingData tables =>
      some ((s.initiate walletId votingData).findDevice tables walletId)
  | .resetTransaction => some s.resetTransaction
  | .resetInitializedConnection => some s.resetInitializedConnection
  | .selectCoins coinSelection => some { s with txSignRequest := coinSelection }
  | .statusChanged disconnected eventType tables =>
      some (s.statusChanged disconnected eventType tables)
  | .tick i =>
      match s.intervals[i]? with
      | some (some poller) => some (s.getBccBccApp poller.path poller.walletId)
      | _ => none
  | .answer k answer tables => s.calls[k]?.bind fun call => (s.takeOut k).goOn tables call answer
  | .sendMoney => some s.sendMoney

def machine (Selection : Type) : Machine (State Selection) (Event Selection) where
  init := {}
  step := step

end Klarity.HardwareWallets.SigningSession
