import Klarity.Library.Machine
import Mathlib.Data.Nat.Notation

set_option autoImplicit false

/-! # The managed node

`BccNode` starts, stops and restarts the launcher of the node and the wallet backend. Its methods are
asynchronous and share the fields of one object, so the model is a state machine over the calls that are
suspended at an `await`: a `Task` is one of them, and the event `resume` lets it go on.

Launchers are numbered in the order in which `start()` creates them, and a number also stands for the
launcher's pid and for the TLS config with its port. The launcher belongs to a package: its promise of
`start()` resolves once its API answers and rejects only when its processes have exited, its promise of
`stop()` resolves only when they have, and it emits `exit` after that. The process list tells which
processes run. Selfnodes, updates, fault injection and the log files are left out.

`notes` records what the claims of order are about: `stop()` calls that resolved and launchers that
made the node run, the latest first; no step reads it. -/

namespace Klarity.BccNode

inductive BccNodeState
  | starting
  | running
  | exiting
  | stopping
  | stopped
  | updating
  | updated
  | crashed
  | errored
  | unrecoverable
  deriving DecidableEq, Repr

structure BccNodeConfig where
  startupMaxRetries : ℕ
  deriving DecidableEq, Repr

def BCC_UPDATE_EXIT_CODE : ℕ := 20

/-- `started` is set with `pid` and `connected`, when the promise of `start()` resolves. -/
structure Launcher where
  alive : Bool := true
  started : Bool := false
  exited : Bool := false
  deriving DecidableEq, Repr

namespace Launcher

def connect (x : Launcher) : Launcher :=
  { x with started := true }

def die (x : Launcher) : Launcher :=
  { x with alive := false }

def emitExit (x : Launcher) : Launcher :=
  { x with exited := true }

/-- The process is gone and `exit` is still to be emitted to the listener. -/
def exitDue (x : Launcher) : Bool :=
  x.started && !x.alive && !x.exited

end Launcher

/-- A call that awaits the promise of another method: `restart()` the one of `stop()` or of `start()`,
    and `stop()`, called when `spawned` launchers had been created, the one of `kill()`. -/
inductive Frame
  | restartStop (config : Option BccNodeConfig) (isForced : Bool)
  | restartStart
  | stopKill (spawned : ℕ)
  deriving DecidableEq, Repr

/-- Where a call is suspended, with what it has read so far.

`stopIsDead` and `killIsDead` hold whether the node was connected at the call; one that is not has no
pid, so no process is found for it. `probed` is the pid that a poll looks for. -/
inductive Point
  | canBeStarted (config : Option BccNodeConfig) (isForced connected : Bool) (previousPid : Option ℕ)
  | walletLauncher (config : BccNodeConfig)
  | nodeStart (node : ℕ)
  | stopIsDead (node : Option ℕ) (connected : Bool) (spawned : ℕ)
  | nodeStop (node spawned : ℕ)
  | stopWait (probed : Option ℕ) (spawned : ℕ)
  | stopStored (spawned : ℕ)
  | killIsDead (connected : Bool)
  | killWait
  | killStored (killed : Bool)
  | restartWait (config : Option BccNodeConfig) (isForced : Bool)
  | exitWait (launcher : ℕ) (node : Option ℕ) (config : BccNodeConfig) (code : Option ℕ)
      (probed : Option ℕ)
  | exitKill (launcher : ℕ) (config : BccNodeConfig) (code : Option ℕ)
  | exitStored (launcher : ℕ)
  /-- The promise of the method is settled, and its caller is to go on. -/
  | settled (resolved : Bool)
  deriving DecidableEq, Repr

structure Task where
  point : Point
  callers : List Frame := []
  deriving DecidableEq, Repr

inductive Note
  /-- A `stop()` resolved that was called when `spawned` launchers had been created. -/
  | stopped (spawned : ℕ)
  | running (launcher : ℕ)
  deriving DecidableEq, Repr

end BccNode

structure BccNode where
  config : Option BccNode.BccNodeConfig := none
  node : Option ℕ := none
  tlsConfig : Option ℕ := none
  state : BccNode.BccNodeState := .stopped
  startupTries : ℕ := 0
  exitOnStop : Bool := false
  /-- The pid stored under `PREVIOUS_BCC_PID`. -/
  previousPid : Option ℕ := none
  launchers : List BccNode.Launcher := []
  tasks : List BccNode.Task := []
  notes : List BccNode.Note := []
  deriving DecidableEq, Repr

namespace BccNode

/-- What can happen next. `resume` lets the `k`-th task go on, `ok` being whether what it awaits was
    fulfilled, or met in time; `probe` is the answer of a poll that the process still runs, after which
    the poll looks again; with `unreadableTls` a launcher is ready and the TLS files cannot be read. -/
inductive Event
  | start (config : BccNodeConfig) (isForced : Bool)
  | stop
  | restart (isForced : Bool)
  | exitOnStop
  | die (launcher : ℕ)
  | exit (launcher : ℕ) (code : Option ℕ)
  | resume (k : ℕ) (ok : Bool)
  | probe (k : ℕ)
  | unreadableTls (k : ℕ)
  deriving DecidableEq, Repr

/-- A call from outside. -/
def Event.isCall : Event → Bool
  | .start .. | .stop | .restart _ | .exitOnStop => true
  | _ => false

/-- The exit handler has not changed the state yet. -/
def Point.waits : Point → Bool
  | .exitWait .. | .exitKill .. => true
  | _ => false

/-! ## Launchers -/

def alive (s : BccNode) (l : ℕ) : Bool :=
  s.launchers[l]?.any (·.alive)

def started (s : BccNode) (l : ℕ) : Bool :=
  s.launchers[l]?.any (·.started)

def exitDue (s : BccNode) (l : ℕ) : Bool :=
  s.launchers[l]?.any (·.exitDue)

/-- The getter `pid`; `_node.pid` is set when the launcher has started. -/
def pid (s : BccNode) : Option ℕ :=
  s.node.filter s.started

def isConnected (s : BccNode) : Bool :=
  s.node.any s.started

/-- A process that was looked for does not run. -/
def notRunning (s : BccNode) (pid : Option ℕ) : Bool :=
  !pid.any s.alive

def setLauncher (s : BccNode) (l : ℕ) (f : Launcher → Launcher) : BccNode :=
  { s with launchers := s.launchers.modify l f }

/-! ## The private methods -/

def push (s : BccNode) (point : Point) (callers : List Frame) : BccNode :=
  { s with tasks := ⟨point, callers⟩ :: s.tasks }

def changeToState (s : BccNode) (state : BccNodeState) : BccNode :=
  { s with state := state }

def isUnrecoverable (s : BccNode) (config : BccNodeConfig) : Bool :=
  decide (config.startupMaxRetries ≤ s.startupTries)

def reset (s : BccNode) : BccNode :=
  { s with node := none, tlsConfig := none }

/-- `none` when it throws: the store does not take the undefined pid of a node that has not started. -/
def storeProcessStates (s : BccNode) : Option BccNode :=
  match s.node with
  | none => some s
  | some l => if s.started l then some { s with previousPid := some l } else none

/-- `_handleBccReplyPortMessage` once the TLS files are read. -/
def handleBccReplyPortMessage (s : BccNode) (l : ℕ) : BccNode :=
  if s.state = .starting then
    { s.changeToState .running with
      tlsConfig := some l
      startupTries := 0
      notes := .running l :: s.notes }
  else { s with tlsConfig := some l }

/-! ## The methods up to their first `await` -/

def start (s : BccNode) (config : Option BccNodeConfig) (isForced : Bool) (callers : List Frame) :
    BccNode :=
  s.push (.canBeStarted config isForced s.isConnected s.previousPid) callers

def stop (s : BccNode) (callers : List Frame) : BccNode :=
  s.push (.stopIsDead s.node s.isConnected s.launchers.length) callers

def kill (s : BccNode) (callers : List Frame) : BccNode :=
  s.push (.killIsDead s.isConnected) callers

def restart (s : BccNode) (isForced : Bool) (callers : List Frame) : BccNode :=
  if s.isConnected then s.stop (.restartStop s.config isForced :: callers)
  else s.push (.restartWait s.config isForced) callers

def handleBccNodeError (s : BccNode) : BccNode :=
  match s.config with
  | none => s
  | some config =>
      if s.isUnrecoverable config then s.changeToState .unrecoverable
      else (s.changeToState .errored).restart false []

def handleBccNodeExit (s : BccNode) (l : ℕ) (code : Option ℕ) : BccNode :=
  let s := if s.state = .running then s.changeToState .exiting else s
  match s.config with
  | none => s
  | some config => s.push (.exitWait l s.node config code s.pid) []

/-! ## The methods after an `await` -/

/-- `stop()` resolves. -/
def resolveStop (s : BccNode) (spawned : ℕ) (callers : List Frame) : BccNode :=
  { s with notes := .stopped spawned :: s.notes }.push (.settled true) callers

/-- The `catch` block of `restart()`. -/
def catchRestart (s : BccNode) (callers : List Frame) : BccNode :=
  (if s.state = .unrecoverable then s else s.changeToState .errored).push (.settled false) callers

/-- The innermost caller goes on after its `await`. -/
def settle (s : BccNode) (resolved : Bool) : List Frame → BccNode
  | [] => s
  | .restartStop config isForced :: callers =>
      if resolved then s.push (.restartWait config isForced) callers else s.catchRestart callers
  | .restartStart :: callers =>
      if resolved then s.push (.settled true) callers else s.catchRestart callers
  | .stopKill spawned :: callers =>
      if resolved then s.resolveStop spawned callers else s.push (.settled false) callers

/-- `start()` after its first guard let it pass. -/
def startSetup (s : BccNode) (config : Option BccNodeConfig) (isForced : Bool)
    (callers : List Frame) : BccNode :=
  match config with
  -- `config.startupMaxRetries` throws
  | none => s.push (.settled false) callers
  | some config =>
      if s.isUnrecoverable config && !isForced then s.push (.settled false) callers
      else
        ({ s with config := some config, startupTries := s.startupTries + 1 }.changeToState
          .starting).push (.walletLauncher config) callers

def failStart (s : BccNode) (callers : List Frame) : BccNode :=
  s.handleBccNodeError.push (.settled false) callers

/-- The `catch` block of `kill()`; when it throws, the promise is never settled. -/
def catchKill (s : BccNode) (callers : List Frame) : BccNode :=
  match s.storeProcessStates with
  | some s => s.push (.killStored false) callers
  | none => s

/-- The exit handler once the process has really exited. -/
def exitReally (s : BccNode) (l : ℕ) (config : BccNodeConfig) (code : Option ℕ) : BccNode :=
  let s := s.changeToState <|
    if s.state = .stopping then .stopped
    else if s.state = .updating ∧ code = some BCC_UPDATE_EXIT_CODE then .updated
    else if s.isUnrecoverable config then .unrecoverable
    else .crashed
  match s.storeProcessStates with
  | some s => s.push (.exitStored l) []
  | none => s

/-- A task that was taken out of `s.tasks` goes on. -/
def goOn (s : BccNode) (callers : List Frame) (ok : Bool) : Point → Option BccNode
  | .canBeStarted config isForced connected previousPid =>
      if connected || !ok then some (s.push (.settled false) callers)
      else if s.notRunning previousPid then some (s.startSetup config isForced callers)
      else none
  | .walletLauncher _ =>
      if ok then
        some ({ s with
          launchers := s.launchers ++ [({} : Launcher)]
          node := some s.launchers.length }.push (.nodeStart s.launchers.length) callers)
      else some (s.failStart callers)
  | .nodeStart l =>
      if ok then
        if s.alive l then
          some (((s.setLauncher l Launcher.connect).handleBccReplyPortMessage
            l).push (.settled true) callers)
        else none
      else some ((s.setLauncher l Launcher.die).failStart callers)
  | .stopIsDead node connected spawned =>
      if connected then
        let s := s.changeToState .stopping
        match node with
        | some l => some (s.push (.nodeStop l spawned) callers)
        | none => some (s.push (.stopWait s.pid spawned) callers)
      else some (s.resolveStop spawned callers)
  | .nodeStop l spawned =>
      if ok then
        if s.alive l then none else some (s.push (.stopWait s.pid spawned) callers)
      else some (s.kill (.stopKill spawned :: callers))
  | .stopWait probed spawned =>
      if ok then
        if s.notRunning probed then
          match s.storeProcessStates with
          | some s => some (s.push (.stopStored spawned) callers)
          | none => some (s.kill (.stopKill spawned :: callers))
        else none
      else some (s.kill (.stopKill spawned :: callers))
  | .stopStored spawned => some (s.reset.resolveStop spawned callers)
  | .killIsDead connected =>
      -- the promise of `kill()` is not settled when the process is dead
      if !connected then some s
      else if ok then some (s.push .killWait callers)
      else some (s.catchKill callers)
  | .killWait =>
      match s.storeProcessStates with
      | some s => some (s.push (.killStored true) callers)
      | none => some (s.catchKill callers)
  | .killStored killed =>
      if killed then some ((s.changeToState .stopped).reset.push (.settled true) callers)
      else some (s.reset.push (.settled false) callers)
  | .restartWait config isForced =>
      -- `safeExitWithCode(0)` ends the application later
      if s.exitOnStop then some (s.push (.settled true) callers)
      else some (s.start config isForced (.restartStart :: callers))
  | .exitWait l node config code probed =>
      if ok then
        if s.notRunning probed then some (s.exitReally l config code) else none
      else
        match node with
        | some _ => some (s.push (.exitKill l config code) callers)
        | none => some (s.exitReally l config code)
  | .exitKill l config code => some (s.exitReally l config code)
  | .exitStored _ => some s.reset
  | .settled resolved => some (s.settle resolved callers)

/-- The poll of a task looks for the current pid. -/
def pollAgain (s : BccNode) (callers : List Frame) : Point → Option BccNode
  | .stopWait _ spawned => some (s.push (.stopWait s.pid spawned) callers)
  | .exitWait l node config code _ => some (s.push (.exitWait l node config code s.pid) callers)
  | _ => none

/-- The continuation of `node.start()` throws after the launcher was connected. -/
def failTls (s : BccNode) (callers : List Frame) : Point → Option BccNode
  | .nodeStart l =>
      if s.alive l then
        some ((s.setLauncher l Launcher.connect).failStart callers)
      else none
  | _ => none

def takeOut (s : BccNode) (k : ℕ) : BccNode :=
  { s with tasks := s.tasks.eraseIdx k }

def step (s : BccNode) : Event → Option BccNode
  | .start config isForced => some (s.start config isForced [])
  | .stop => some (s.stop [])
  | .restart isForced => some (s.restart isForced [])
  | .exitOnStop => some { s with exitOnStop := true }
  | .die l =>
      if s.alive l then some (s.setLauncher l Launcher.die) else none
  | .exit l code =>
      if s.exitDue l then
        some ((s.setLauncher l Launcher.emitExit).handleBccNodeExit l code)
      else none
  | .resume k ok => s.tasks[k]?.bind fun t => (s.takeOut k).goOn t.callers ok t.point
  | .probe k => s.tasks[k]?.bind fun t => (s.takeOut k).pollAgain t.callers t.point
  | .unreadableTls k => s.tasks[k]?.bind fun t => (s.takeOut k).failTls t.callers t.point

/-- The instance that `setupBccNode` creates. -/
def machine : Machine BccNode Event where
  init := {}
  step := step

end BccNode

end Klarity
