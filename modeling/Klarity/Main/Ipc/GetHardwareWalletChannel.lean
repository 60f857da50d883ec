import Klarity.Library.Machine
import Mathlib.Logic.Function.Basic

set_option autoImplicit false

/-! # The Ledgers that are plugged in

The main process keeps one connection for every Ledger, under the path of the device, and answers the requests of
the renderer over them. All requests share one variable, `deviceConnection`, for the connection that they use, and
every call of a device is awaited, so a request may find there what another one has put in the meantime.

A connection is named by the number of transports that were opened before its own. -/

namespace Klarity.HardwareWalletChannel

/-- What a Ledger is asked; `K` is the data that goes with a command. -/
inductive Command (K : Type)
  | getVersion
  | getSerial
  | getExtendedPublicKey (path : K)
  | deriveAddress (address : K)
  | showAddress (address : K)
  | signTransaction (tx : K)
  deriving DecidableEq

/-- What a request asks a device first. The version and the key come with a serial number that is asked next. -/
inductive Asked (K : Type)
  | bccApp (path : String)
  | extendedPublicKey (path : K)
  | only (command : Command K)
  deriving DecidableEq

def Asked.command {K : Type} : Asked K → Command K
  | .bccApp _ => .getVersion
  | .extendedPublicKey path => .getExtendedPublicKey path
  | .only command => command

inductive Error
  | message (text : String)
  | deviceNotConnected
  | noDevicePaths
  | devicePathChanged (path : String)
  | typeError
  | rejected (isDisconnectError : Bool)
  deriving DecidableEq

/-- `A` are the answers of the devices. -/
inductive Response (A : Type)
  | transport (path : Option String)
  | withDeviceId (answer deviceId : A)
  | answer (answer : A)
  | shown
  deriving DecidableEq

/-- `device` says whether the device was in the list of devices when it was looked up there. -/
structure DeviceMemo where
  device : Bool
  connection : ℕ
  deriving DecidableEq

/-- What an event of the observer, or a request, awaits. -/
inductive Phase (K A : Type)
  | observed (isAdd : Bool) (path : String)
  | opening (path : String)
  | observedDone
  | listing (devicePath : Option String)
  | creating (devicePath : Option String)
  | relisting (devicePath : Option String) (connection : ℕ)
  | asking (asked : Asked K) (connection : ℕ)
  | askingSerial (asked : Asked K) (answer : A) (connection : ℕ)
  | lost (path : String) (deviceMemo : Option DeviceMemo)
  | reopening (oldPath newPath : String) (oldDevice : Bool)
  | trezor
  | settled (result : Except Error (Response A))

/-- `sent` has the messages about connections: whether the device was disconnected, and its path. -/
structure State (K A : Type) where
  devicesMemo : String → Option DeviceMemo := fun _ => none
  deviceConnection : Option ℕ := none
  opened : ℕ := 0
  sent : List (Bool × String) := []
  calls : List (Phase K A) := []

variable {K A : Type}

namespace State

def call (s : State K A) (phase : Phase K A) : State K A := { s with calls := s.calls ++ [phase] }

def goOn (s : State K A) (k : ℕ) (phase : Phase K A) : State K A := { s with calls := s.calls.set k phase }

def select (s : State K A) (connection : Option ℕ) : State K A := { s with deviceConnection := connection }

def memorize (s : State K A) (path : String) (deviceMemo : DeviceMemo) : State K A :=
  { s with devicesMemo := Function.update s.devicesMemo path (some deviceMemo) }

def forget (s : State K A) (path : String) : State K A :=
  { s with devicesMemo := Function.update s.devicesMemo path none }

def openTransport (s : State K A) : State K A := { s with opened := s.opened + 1 }

def send (s : State K A) (disconnected : Bool) (path : String) : State K A :=
  { s with sent := s.sent ++ [(disconnected, path)] }

/-- What is under a path, which may be missing. -/
def memoAt (s : State K A) (path : Option String) : Option DeviceMemo := s.devicesMemo (path.getD "undefined")

def connectionAt (s : State K A) (path : Option String) : Option ℕ := (s.memoAt path).map (·.connection)

end State

def isTruthy (path : Option String) : Bool := path.any (· ≠ "")

/-! ## The observer -/

/-- `next()`, once the transports are listed. -/
def onObserved (s : State K A) (k : ℕ) (isAdd : Bool) (path : String) : State K A :=
  if isAdd then
    if (s.devicesMemo path).isNone then s.goOn k (.opening path) else s.goOn k .observedDone
  else ((s.forget path).send true path).goOn k .observedDone

def onOpened (s : State K A) (k : ℕ) (path : String) (ok : Bool) : State K A :=
  if ok then ((s.openTransport.memorize path ⟨true, s.opened⟩).send false path).goOn k .observedDone
  else s.goOn k .observedDone

/-! ## A transport -/

def respondTransport (deviceModel : ℕ → Bool) (connection : ℕ) (path : Option String) :
    Except Error (Response A) :=
  if deviceModel connection then .ok (.transport path) else .error (.message "Missing device info")

def onTransportList (deviceModel : ℕ → Bool) (s : State K A) (k : ℕ) (devicePath : Option String)
    (transportList : List String) : State K A :=
  match transportList with
  | [] => s.goOn k (.creating devicePath)
  | first :: _ =>
      match s.memoAt devicePath, isTruthy devicePath with
      | some deviceMemo, true =>
          (s.select (some deviceMemo.connection)).goOn k
            (.settled (respondTransport deviceModel deviceMemo.connection devicePath))
      | _, _ =>
          match s.devicesMemo first with
          | some deviceMemo =>
              (s.select (some deviceMemo.connection)).goOn k
                (.settled (respondTransport deviceModel deviceMemo.connection (some first)))
          | none => s.goOn k (.settled (.error (.message "Device not connected!")))

/-- The new transport is kept under the last path of the list. -/
def onRelisted (deviceModel : ℕ → Bool) (s : State K A) (k : ℕ) (devicePath : Option String) (connection : ℕ)
    (transportList : List String) (known : Bool) : State K A :=
  let lastConnectedPath := transportList.getLast?
  ((s.select (some connection)).memorize (lastConnectedPath.getD "undefined") ⟨known, connection⟩).goOn k
    (.settled (respondTransport deviceModel connection (lastConnectedPath.or devicePath)))

/-! ## The requests to a device -/

def getBccBccApp (s : State K A) (path : Option String) : State K A :=
  match s.memoAt path, path, isTruthy path with
  | some deviceMemo, some path, true =>
      (s.select (some deviceMemo.connection)).call (.asking (.bccApp path) deviceMemo.connection)
  | _, _, _ => s.call (.settled (.error .deviceNotConnected))

/-- The connection is taken from the memo and then checked. -/
def askLedger (s : State K A) (devicePath : Option String) (asked : Asked K) : State K A :=
  match s.connectionAt devicePath with
  | some connection => (s.select (some connection)).call (.asking asked connection)
  | none => (s.select none).call (.settled (.error (.message "Ledger device not connected")))

def getExtendedPublicKey (s : State K A) (devicePath : Option String) (path : K) : State K A :=
  askLedger s devicePath (.extendedPublicKey path)

/-- A Trezor has no connection in the memo, and yet the variable is set. -/
def deriveAddress (s : State K A) (devicePath : Option String) (isTrezor : Bool) (address : K) : State K A :=
  if isTrezor then (s.select (s.connectionAt devicePath)).call .trezor
  else askLedger s devicePath (.only (.deriveAddress address))

def showAddress (s : State K A) (devicePath : Option String) (isTrezor : Bool) (address : K) : State K A :=
  if isTrezor then
    (s.select (s.connectionAt devicePath)).call
      (.settled (.error (.message "Address verification not supported on Trezor devices")))
  else askLedger s devicePath (.only (.showAddress address))

def signTransactionLedger (s : State K A) (devicePath : Option String) (tx : K) : State K A :=
  if isTruthy devicePath then
    match s.connectionAt devicePath with
    | some connection =>
        (s.select (some connection)).call (.asking (.only (.signTransaction tx)) connection)
    | none => s.call (.settled (.error .typeError))
  else (s.select none).call (.settled (.error (.message "Device not connected!")))

/-- The serial number is asked of the connection that is in the variable by then. -/
def onAnswer (s : State K A) (k : ℕ) (asked : Asked K) (answer : A) : State K A :=
  match asked with
  | .only (.showAddress _) => s.goOn k (.settled (.ok .shown))
  | .only _ => s.goOn k (.settled (.ok (.answer answer)))
  | _ =>
      match s.deviceConnection with
      | some connection => s.goOn k (.askingSerial asked answer connection)
      | none => s.goOn k (.settled (.error .typeError))

def onRejected (s : State K A) (k : ℕ) (asked : Asked K) (isDisconnectError : Bool) : State K A :=
  match asked, isDisconnectError with
  | .bccApp path, true => s.goOn k (.lost path (s.devicesMemo path))
  | _, _ => s.goOn k (.settled (.error (.rejected isDisconnectError)))

/-! ## A connection that is established again -/

def onDevicePaths (s : State K A) (k : ℕ) (oldPath : String) (deviceMemo : Option DeviceMemo)
    (devicePaths : List String) : State K A :=
  let newPath := if oldPath ∈ devicePaths then some oldPath else devicePaths.getLast?.filter (· ≠ "")
  match newPath, deviceMemo with
  | none, _ => s.goOn k (.settled (.error .noDevicePaths))
  | some _, none => s.goOn k (.settled (.error .typeError))
  | some newPath, some deviceMemo => s.goOn k (.reopening oldPath newPath deviceMemo.device)

/-- `known` says whether the device is found in the list of devices. -/
def onReopened (s : State K A) (k : ℕ) (oldPath newPath : String) (oldDevice ok known : Bool) : State K A :=
  if ok then
    if known && oldDevice then
      (((s.openTransport.select (some s.opened)).forget oldPath).memorize newPath ⟨true, s.opened⟩).goOn k
        (.settled (.error (if newPath = oldPath then .rejected true else .devicePathChanged newPath)))
    else s.openTransport.goOn k (.settled (.error .typeError))
  else s.goOn k (.settled (.error (.rejected false)))

/-! ## The machine -/

/-- The events of the observer and the requests, and the answers to what is awaited: the transports of a list, whether
    a transport was opened, and what a device said. -/
inductive Event (K : Type)
  | next (isAdd : Bool) (path : String)
  | getTransport (devicePath : Option String)
  | getBccBccApp (path : Option String)
  | getExtendedPublicKey (devicePath : Option String) (path : K)
  | deriveAddress (devicePath : Option String) (isTrezor : Bool) (address : K)
  | showAddress (devicePath : Option String) (isTrezor : Bool) (address : K)
  | signTransactionLedger (devicePath : Option String) (tx : K)
  | listed (k : ℕ) (transportList : List String) (known : Bool)
  | opened (k : ℕ) (ok known : Bool)
  | answered (k : ℕ)
  | rejected (k : ℕ) (isDisconnectError : Bool)

/-- `answer` is what the device behind a connection says to a command. -/
def step (deviceModel : ℕ → Bool) (answer : ℕ → Command K → A) (s : State K A) : Event K → Option (State K A)
  | .next isAdd path => some (s.call (.observed isAdd path))
  | .getTransport devicePath => some (s.call (.listing devicePath))
  | .getBccBccApp path => some (getBccBccApp s path)
  | .getExtendedPublicKey devicePath path => some (getExtendedPublicKey s devicePath path)
  | .deriveAddress devicePath isTrezor address => some (deriveAddress s devicePath isTrezor address)
  | .showAddress devicePath isTrezor address => some (showAddress s devicePath isTrezor address)
  | .signTransactionLedger devicePath tx => some (signTransactionLedger s devicePath tx)
  | .listed k transportList known =>
      match s.calls[k]? with
      | some (.observed isAdd path) => some (onObserved s k isAdd path)
      | some (.listing devicePath) => some (onTransportList deviceModel s k devicePath transportList)
      | some (.relisting devicePath connection) =>
          some (onRelisted deviceModel s k devicePath connection transportList known)
      | some (.lost path deviceMemo) => some (onDevicePaths s k path deviceMemo transportList)
      | _ => none
  | .opened k ok known =>
      match s.calls[k]? with
      | some (.opening path) => some (onOpened s k path ok)
      | some (.creating devicePath) =>
          if ok then some (s.openTransport.goOn k (.relisting devicePath s.opened))
          else some (s.goOn k (.settled (.error (.rejected false))))
      | some (.reopening oldPath newPath oldDevice) => some (onReopened s k oldPath newPath oldDevice ok known)
      | _ => none
  | .answered k =>
      match s.calls[k]? with
      | some (.asking asked connection) => some (onAnswer s k asked (answer connection asked.command))
      | some (.askingSerial _ first connection) =>
          some (s.goOn k (.settled (.ok (.withDeviceId first (answer connection .getSerial)))))
      | _ => none
  | .rejected k isDisconnectError =>
      match s.calls[k]? with
      | some (.asking asked _) => some (onRejected s k asked isDisconnectError)
      | some (.askingSerial asked _ _) => some (onRejected s k asked isDisconnectError)
      | _ => none

def machine (deviceModel : ℕ → Bool) (answer : ℕ → Command K → A) : Machine (State K A) (Event K) where
  init := {}
  step := step deviceModel answer

end Klarity.HardwareWalletChannel
