import Klarity.Renderer.Api.Utils.LocalStorage
import Klarity.Renderer.Stores.Lib.Request.Awaited

set_option autoImplicit false

/-! # The start-up check of the devices

`getAvailableDevices()` runs once for Trezor and once for Ledger. It reads the hardware wallets that are
stored locally, and the devices; sets every wallet disconnected, without waiting for it; and reads both
again. Every one of these settings goes through one request, `setHardwareWalletLocalDataRequest`.

What is read of the devices says nothing of the wallets: the event `readDevices` ends such an await. -/

namespace Klarity.HardwareWallets.AvailableDevices

open LocalStorage
open Request (settled)

variable {Data Err : Type}

structure SetHardwareWalletLocalData (Data : Type) where
  walletId : WalletId
  data : Changes Data

inductive SettingPhase
  | awaiting (promise : Option ℕ)
  | returned
  | threw
  deriving DecidableEq, Repr

/-- A call of `_setHardwareWalletLocalData()`. -/
structure Setting where
  walletId : WalletId
  phase : SettingPhase
  deriving DecidableEq, Repr

inductive Phase
  | readingData (promise : Option ℕ)
  | readingDevices
  | refreshingData (promise : Option ℕ)
  | refreshingDevices
  | returned
  | threw
  deriving DecidableEq, Repr

/-- A call of `getAvailableDevices()`; `settings` is `none` until it has gone through the wallets. -/
structure Call where
  phase : Phase
  settings : Option (List Setting) := none
  deriving DecidableEq, Repr

/-- `snapshots` and `accesses` are what the calls of the two requests have been answered by the storage. -/
structure State (Data Err : Type) where
  storage : HardwareWallets Data
  hardwareWalletsLocalDataRequest : Request.State Unit (List (HardwareWalletLocalData Data)) Err := {}
  snapshots : ℕ → Option (Except Err (List (HardwareWalletLocalData Data))) := fun _ => none
  setHardwareWalletLocalDataRequest :
    Request.State (SetHardwareWalletLocalData Data) (HardwareWalletLocalData Data) Err := {}
  accesses : ℕ → Access Data Err := fun _ => .getting
  calls : List Call := []

/-- `answer` and `serve` are answers of the main process, which may be errors; `handle` and `respond` are the
handling of an answer. -/
inductive Event (Err : Type)
  | getAvailableDevices
  | refreshHardwareWalletsLocalData
  | resume (call : ℕ)
  | readDevices (call : ℕ) (succeeds : Bool)
  | resumeSetting (call setting : ℕ)
  | tick (i : ℕ)
  | answer (i : ℕ) (error : Option Err)
  | respond (i : ℕ)
  | tickSet (i : ℕ)
  | serve (i : ℕ) (error : Option Err)
  | handle (i : ℕ)

/-- What the main process answers: the value, or an error. -/
def answerWith {α : Type} (error : Option Err) (value : α) : Except Err α :=
  match error with
  | some error => .error error
  | none => .ok value

def refreshHardwareWalletsLocalData (s : State Data Err) : State Data Err :=
  { s with hardwareWalletsLocalDataRequest := s.hardwareWalletsLocalDataRequest.execute () }

/-- The call up to its await. -/
def setHardwareWalletLocalData (s : State Data Err) (walletId : WalletId) (data : Changes Data) :
    State Data Err × Setting :=
  let request := s.setHardwareWalletLocalDataRequest.execute ⟨walletId, data⟩
  ({ s with setHardwareWalletLocalDataRequest := request }, ⟨walletId, .awaiting request.promise⟩)

def getAvailableDevices (s : State Data Err) : State Data Err :=
  let refreshed := refreshHardwareWalletsLocalData s
  { refreshed with
    calls := s.calls ++ [⟨.readingData refreshed.hardwareWalletsLocalDataRequest.promise, none⟩] }

/-- Set all logical hardware wallets into disconnected state. -/
def setAllDisconnected (s : State Data Err) :
    List (HardwareWalletLocalData Data) → State Data Err × List Setting
  | [] => (s, [])
  | connectedWallet :: rest =>
      let (s, setting) := setHardwareWalletLocalData s connectedWallet.id { disconnected := some true }
      let (s, settings) := setAllDisconnected s rest
      (s, setting :: settings)

/-- The call goes on after the devices have been read. -/
def devicesRead (s : State Data Err) (call : Call) : Option (State Data Err × Call) :=
  match call.phase with
  | .readingDevices =>
      let hardwareWalletsConnectionData := s.hardwareWalletsLocalDataRequest.result.getD []
      let (s, settings) := setAllDisconnected s hardwareWalletsConnectionData
      let refreshed := refreshHardwareWalletsLocalData s
      some (refreshed, ⟨.refreshingData refreshed.hardwareWalletsLocalDataRequest.promise, some settings⟩)
  | .refreshingDevices => some (s, { call with phase := .returned })
  | _ => none

/-- The call goes on after the wallets have been read. -/
def dataRead (s : State Data Err) (call : Call) : Option Call :=
  match call.phase with
  | .readingData promise => do
      match ← settled s.hardwareWalletsLocalDataRequest promise with
      | .ok _ => some { call with phase := .readingDevices }
      | .error _ => some { call with phase := .threw }
  | .refreshingData promise => do
      match ← settled s.hardwareWalletsLocalDataRequest promise with
      | .ok _ => some { call with phase := .refreshingDevices }
      | .error _ => some { call with phase := .threw }
  | _ => none

def isReadingDevices : Phase → Bool
  | .readingDevices | .refreshingDevices => true
  | _ => false

/-- The setting goes on when its promise is settled. -/
def resumeSetting (s : State Data Err) (setting : Setting) : Option (State Data Err × Setting) :=
  match setting.phase with
  | .awaiting promise => do
      match ← settled s.setHardwareWalletLocalDataRequest promise with
      | .ok _ => some (refreshHardwareWalletsLocalData s, { setting with phase := .returned })
      | .error _ => some (s, { setting with phase := .threw })
  | _ => none

/-- The main process handles the message of a setting. -/
def serve (s : State Data Err) (i : ℕ) (error : Option Err) : Option (State Data Err) := do
  let call ← s.setHardwareWalletLocalDataRequest.calls[i]?
  match s.accesses i with
  | .getting =>
      let answer := answerWith error (s.storage.get call.args.walletId)
      some { s with accesses := Function.update s.accesses i (.got answer) }
  | .setting walletData =>
      let answer := answerWith error ()
      some { s with
        storage := if error.isNone then s.storage.set walletData else s.storage
        accesses := Function.update s.accesses i (.set walletData answer) }
  | _ => none

/-- The answer to the message of a setting is handled. -/
def handle (s : State Data Err) (i : ℕ) : Option (State Data Err) := do
  let call ← s.setHardwareWalletLocalDataRequest.calls[i]?
  match s.accesses i with
  | .got (.ok currentWalletData) =>
      let walletData := assign currentWalletData call.args.data call.args.walletId
      some { s with accesses := Function.update s.accesses i (.setting walletData) }
  | .got (.error error) => do
      let request ← Request.step s.setHardwareWalletLocalDataRequest (.respond i (.error error))
      some { s with setHardwareWalletLocalDataRequest := request }
  | .set walletData answer => do
      let request ← Request.step s.setHardwareWalletLocalDataRequest
        (.respond i (answer.map fun _ => walletData))
      some { s with setHardwareWalletLocalDataRequest := request }
  | _ => none

def step (s : State Data Err) : Event Err → Option (State Data Err)
  | .getAvailableDevices => some (getAvailableDevices s)
  | .refreshHardwareWalletsLocalData => some (refreshHardwareWalletsLocalData s)
  | .resume k => do
      let call ← s.calls[k]?
      let call ← dataRead s call
      some { s with calls := s.calls.set k call }
  | .readDevices k succeeds => do
      let call ← s.calls[k]?
      if succeeds then
        let (s, call) ← devicesRead s call
        some { s with calls := s.calls.set k call }
      else if isReadingDevices call.phase then
        some { s with calls := s.calls.set k { call with phase := .threw } }
      else none
  | .resumeSetting k j => do
      let call ← s.calls[k]?
      let settings ← call.settings
      let setting ← settings[j]?
      let (s, setting) ← resumeSetting s setting
      some { s with calls := s.calls.set k { call with settings := some (settings.set j setting) } }
  | .tick i => do
      let request ← Request.step s.hardwareWalletsLocalDataRequest (.tick i)
      some { s with hardwareWalletsLocalDataRequest := request }
  | .answer i error => do
      let _ ← s.hardwareWalletsLocalDataRequest.calls[i]?
      if s.snapshots i |>.isNone then
        some { s with
          snapshots := Function.update s.snapshots i (some (answerWith error s.storage.entries)) }
      else none
  | .respond i => do
      let snapshot ← s.snapshots i
      let request ← Request.step s.hardwareWalletsLocalDataRequest (.respond i snapshot)
      some { s with hardwareWalletsLocalDataRequest := request }
  | .tickSet i => do
      let request ← Request.step s.setHardwareWalletLocalDataRequest (.tick i)
      some { s with setHardwareWalletLocalDataRequest := request }
  | .serve i error => serve s i error
  | .handle i => handle s i

/-- The start of the app, with what is stored locally. -/
def machine (Err : Type) (stored : HardwareWallets Data) : Machine (State Data Err) (Event Err) :=
  ⟨{ storage := stored }, step⟩

end Klarity.HardwareWallets.AvailableDevices
