import Klarity.Main.Bcc.BccNode
import Klarity.Renderer.Stores.Lib.Request.Awaited

set_option autoImplicit false

/-! # Network status

What `NetworkStatusStore` makes of the states of the node and of the answers to its polls. A handler that
awaits is a task, suspended in a phase. The poll goes through `getNetworkInfoRequest`: a call that is made
while another one is open awaits the response to that one.

The answer to `_requestBccState()` comes on the channel of the broadcasts and in their order, and counts as
one. Whether the sync progress is stalling depends on the time, and comes with the answer. Clocks, network
parameters and the tips are left out.

`lastBroadcast` and `shutdowns`, the number of broadcasts of a stopping state, are not read by any step; a
call of `getNetworkInfo` carries the number of shutdowns before it. -/

namespace Klarity.NetworkStatusStore

open BccNode (BccNodeState)
open Request (settled openCall)

inductive Failure
  | tlsCertificateNotValid
  | other
  deriving DecidableEq, Repr

structure BccStatus where
  isNodeResponding : Bool
  isNodeSyncing : Bool
  isNodeInSync : Bool
  hasBeenConnected : Bool
  deriving DecidableEq, Repr

/-- What a handler awaits; `handled` is the state that `_handleBccNodeStateChange()` is about to set. -/
inductive Task
  | tlsConfig (handled : BccNodeState)
  | bccStatus (handled : Option BccNodeState)
  | networkInfo (wasConnected : Bool) (promise : Option ℕ)
  deriving DecidableEq, Repr

structure State (Config : Type) where
  tlsConfig : Option Config := none
  bccNodeState : Option BccNodeState := none
  isNodeResponding : Bool := false
  isNodeSyncing : Bool := false
  isNodeInSync : Bool := false
  isNodeStopping : Bool := false
  isNodeStopped : Bool := false
  hasBeenConnected : Bool := false
  isTlsCertInvalid : Bool := false
  syncProgress : Option ℕ := none
  getNetworkInfoRequest : Request.State ℕ ℕ Failure := {}
  tasks : List Task := []
  lastBroadcast : Option BccNodeState := none
  shutdowns : ℕ := 0

/-- What a handler is resumed with. -/
inductive Answer (Config : Type)
  | tlsConfig (config : Config)
  | status (status : Option BccStatus)
  | settled (isSyncProgressStalling : Bool)
  | failed
  deriving DecidableEq, Repr

inductive Event (Config : Type)
  | broadcast (state : BccNodeState)
  | tlsConfigReceived (config : Option Config)
  | requestBccStatus
  | updateNetworkStatus
  | networkInfoAnswered (call : ℕ) (outcome : Except Failure ℕ)
  | resume (task : ℕ) (answer : Answer Config)

variable {Config : Type}

def State.await (s : State Config) (task : Task) : State Config :=
  { s with tasks := s.tasks ++ [task] }

def State.isConnected (s : State Config) : Bool :=
  s.isNodeResponding && s.isNodeSyncing

/-- `NODE_STOPPING_STATES` -/
def isStopping : BccNodeState → Bool
  | .exiting | .stopping | .updating => true
  | _ => false

/-- `NODE_STOPPED_STATES` -/
def isStopped : BccNodeState → Bool
  | .crashed | .errored | .stopped | .updated | .unrecoverable => true
  | _ => false

/-! ## The node -/

def setDisconnected (s : State Config) (wasConnected : Bool) : State Config :=
  { s with
    isNodeResponding := false
    isNodeSyncing := false
    isNodeInSync := false
    hasBeenConnected := s.hasBeenConnected || wasConnected }

/-- The end of `_handleBccNodeStateChange()`. -/
def setBccNodeState (s : State Config) (state : BccNodeState) : State Config :=
  { s with
    bccNodeState := some state
    isNodeStopping := isStopping state
    isNodeStopped := isStopped state }

def handleBccNodeStateChange (s : State Config) (state : BccNodeState) : State Config :=
  if s.bccNodeState = some state then s
  else
    match state with
    | .starting => setBccNodeState s state
    | .running => s.await (.tlsConfig state)
    | .stopping | .exiting | .updating =>
        setBccNodeState (setDisconnected { s with tlsConfig := none } s.isConnected) state
    | _ => setBccNodeState (setDisconnected s s.isConnected) state

def receiveBroadcast (s : State Config) (state : BccNodeState) : State Config :=
  handleBccNodeStateChange
    { s with
      lastBroadcast := some state
      shutdowns := if isStopping state then s.shutdowns + 1 else s.shutdowns } state

/-- A config that is missing is ignored, and so is one that is known. -/
def updateTlsConfig (s : State Config) : Option Config → State Config
  | none => s
  | some config => { s with tlsConfig := some config }

def assignStatus (s : State Config) : Option BccStatus → State Config
  | none => s
  | some status =>
      { s with
        isNodeResponding := status.isNodeResponding
        isNodeSyncing := status.isNodeSyncing
        isNodeInSync := status.isNodeInSync
        hasBeenConnected := status.hasBeenConnected }

/-! ## Polling -/

/-- Without a TLS config nothing is requested. -/
def updateNetworkStatus (s : State Config) : State Config :=
  match s.tlsConfig with
  | none => s
  | some _ =>
      let request := s.getNetworkInfoRequest.execute s.shutdowns
      { s with getNetworkInfoRequest := request }.await (.networkInfo s.isConnected request.promise)

def checkConnection (s : State Config) (wasConnected : Bool) : State Config :=
  if wasConnected = s.isConnected then s
  else
    { s with
      hasBeenConnected := s.hasBeenConnected || !s.isConnected
      isTlsCertInvalid := false }

def resetRequestErrors (s : State Config) : State Config :=
  if s.getNetworkInfoRequest.error.isSome then
    { s with getNetworkInfoRequest := s.getNetworkInfoRequest.reset }
  else s

/-- `_updateNetworkStatus()` from the response on. -/
def applyNetworkInfo (s : State Config) (wasConnected : Bool) (syncProgress : ℕ)
    (isSyncProgressStalling : Bool) : State Config :=
  let synced :=
    { s with
      isNodeResponding := true
      syncProgress := some syncProgress
      isNodeInSync := decide (syncProgress = 100)
      isNodeSyncing := !isSyncProgressStalling }
  resetRequestErrors (checkConnection synced wasConnected)

def networkInfoReceived (s : State Config) (wasConnected isSyncProgressStalling : Bool) :
    Except Failure ℕ → State Config
  | .ok syncProgress =>
      -- Without a TLS config the node is in its shutdown sequence
      if s.tlsConfig.isNone then s
      else applyNetworkInfo s wasConnected syncProgress isSyncProgressStalling
  | .error error =>
      let disconnected := setDisconnected s wasConnected
      match error with
      | .tlsCertificateNotValid => { disconnected with isTlsCertInvalid := true }
      | .other => disconnected

/-- A handler goes on; the errors of the TLS config and of the status are only logged. -/
def resume (s : State Config) : Task → Answer Config → Option (State Config)
  | .tlsConfig handled, .tlsConfig config =>
      some ((updateTlsConfig s (some config)).await (.bccStatus (some handled)))
  | .tlsConfig handled, .failed => some (s.await (.bccStatus (some handled)))
  | .bccStatus none, .status status => some (assignStatus s status)
  | .bccStatus none, .failed => some s
  | .bccStatus (some handled), .status status => some (setBccNodeState (assignStatus s status) handled)
  | .bccStatus (some handled), .failed => some (setBccNodeState s handled)
  | .networkInfo wasConnected promise, .settled isSyncProgressStalling =>
      (settled s.getNetworkInfoRequest promise).map fun outcome =>
        networkInfoReceived s wasConnected isSyncProgressStalling outcome
  | _, _ => none

/-! ## The machine -/

def step (s : State Config) : Event Config → Option (State Config)
  | .broadcast state => some (receiveBroadcast s state)
  | .tlsConfigReceived config => some (updateTlsConfig s config)
  | .requestBccStatus => some (s.await (.bccStatus none))
  | .updateNetworkStatus => some (updateNetworkStatus s)
  | .networkInfoAnswered call outcome =>
      (openCall s.getNetworkInfoRequest call).map fun _ =>
        { s with getNetworkInfoRequest := s.getNetworkInfoRequest.respond call outcome }
  | .resume i answer => do
      let task ← s.tasks[i]?
      resume { s with tasks := s.tasks.eraseIdx i } task answer

def machine (Config : Type) : Machine (State Config) (Event Config) :=
  ⟨{}, step⟩

end Klarity.NetworkStatusStore
