import Klarity.Library.Async
import Klarity.Main.Bcc.BccNode

set_option autoImplicit false

/-! # `kill()` and the callers that fall back to it

The methods that end the node, one call at a time, with each answer of the process list, of the store
and of the launcher made explicit. What the other methods do to the object during an `await` is
arbitrary.

`kill()` returns a promise made by hand: its executor is an asynchronous function, so returning from it
or throwing in it settles nothing; only the calls of `resolve` and `reject` do. -/

namespace Klarity.BccNode.Kill

structure Timeouts where
  shutdownTimeout : ℕ
  killTimeout : ℕ
  updateTimeout : ℕ
  deriving DecidableEq, Repr

/-- What comes back from outside: whether each look at the process list finds the process, whether the
    calls of the launcher and of the operating system go through, whether each write of the store does,
    and what the object has become at the end of each `await`. -/
structure World where
  config : Option Timeouts
  running : ℕ → Bool
  nodeStops : Bool
  nodeKills : Bool
  processKills : Bool
  stores : ℕ → Bool
  others : ℕ → BccNode → BccNode

/-- `probes` are the answers to whether the node process runs and `settled` the attempts at settling the
    promise of `kill()` (`true` for `resolve`), the latest first. -/
structure Run where
  s : BccNode
  probes : List Bool := []
  writes : ℕ := 0
  awaits : ℕ := 0
  settled : List Bool := []

abbrev Method : Type → Type := Async Run

variable (w : World)

/-! ## Awaiting and polling -/

def Run.await (r : Run) : Run :=
  { r with s := w.others r.awaits r.s, awaits := r.awaits + 1 }

def await : Method Unit :=
  Async.modify (Run.await w)

/-- The answer `running`, which the caller may not wait for. -/
def answer (running : Bool) : Method Bool := do
  Async.modify fun r => { r with probes := running :: r.probes }
  pure running

def isProcessRunning : Method Bool := do
  let r ← Async.get
  answer (w.running r.probes.length)

def isNodeProcessStillRunning : Method Bool := do
  let r ← Async.get
  if r.s.node.isSome then isProcessRunning w else answer false

def isNodeProcessNotRunningAnymore : Method Bool := do
  let running ← isNodeProcessStillRunning w
  pure (!running)

def retryEvery : ℕ := 1000

def checkCondition (condition : Method Bool) (timeout timeWaited : ℕ) : Method Unit := do
  let result ← condition
  await w
  if result then pure ()
  else if timeout ≤ timeWaited then Async.throw
  else do
    await w
    checkCondition condition timeout (timeWaited + retryEvery)
termination_by timeout - timeWaited
decreasing_by
  unfold retryEvery
  omega

def promisedCondition (condition : Method Bool) (timeout : ℕ) : Method Unit :=
  checkCondition w condition timeout 0

/-- `_config` and its timeout are read; there is none before the first `start()`. -/
def timeout (f : Timeouts → ℕ) : Method ℕ :=
  match w.config with
  | some config => pure (f config)
  | none => Async.throw

def waitForNodeProcessToExit (timeout : ℕ) : Method Unit :=
  promisedCondition w (isNodeProcessNotRunningAnymore w) timeout

def killProcessWithName : Method Unit := do
  if w.processKills then
    let killTimeout ← timeout w Timeouts.killTimeout
    promisedCondition w (do
      let running ← isProcessRunning w
      pure (!running)) killTimeout
  else Async.throw

def ensureProcessIsNotRunning : Method Unit := do
  let running ← isProcessRunning w
  await w
  if running then killProcessWithName w else pure ()

def ensureCurrentBccNodeIsNotRunning : Method Unit := do
  let r ← Async.get
  if r.s.node.isSome then ensureProcessIsNotRunning w else pure ()

/-- A promise, as the condition of an `if`. -/
def promiseIsTruthy : Bool := true

/-- The condition is the promise of the probe, not its answer. -/
def waitForBccToExitOrKillIt : Method Unit := do
  let _ ← isNodeProcessNotRunningAnymore w
  if promiseIsTruthy then pure ()
  else
    Async.tryCatch (do
      let shutdownTimeout ← timeout w Timeouts.shutdownTimeout
      waitForNodeProcessToExit w shutdownTimeout) (ensureCurrentBccNodeIsNotRunning w)

def isDead : Method Bool := do
  let r ← Async.get
  if r.s.isConnected then pure false else isNodeProcessNotRunningAnymore w

/-- The store takes the pid, if there is a node; it takes no undefined one. -/
def Run.canStore (r : Run) : Bool :=
  r.s.node.isNone || (r.s.pid.isSome && w.stores r.writes)

def storeProcessStates : Method Unit := do
  let r ← Async.get
  if r.canStore w then
    Async.modify fun r =>
      { r with s := { r.s with previousPid := r.s.node.or r.s.previousPid }, writes := r.writes + 1 }
    await w
  else
    Async.modify fun r => { r with writes := r.writes + 1 }
    await w
    Async.throw

/-! ## `kill()` -/

def settle (resolved : Bool) : Method Unit :=
  Async.modify fun r => { r with settled := resolved :: r.settled }

def changeToState (state : BccNodeState) : Method Unit :=
  Async.modify fun r => { r with s := r.s.changeToState state }

def reset : Method Unit :=
  Async.modify fun r => { r with s := r.s.reset }

/-- The `try` block of the executor, for the `_node` that `kill()` was called with. -/
def killNode (node : Option ℕ) : Method Unit := do
  if node.isSome && !w.nodeKills then Async.throw
  else do
    waitForBccToExitOrKillIt w
    await w
    storeProcessStates w
    changeToState .stopped
    reset
    settle true

/-- The `catch` block of the executor. -/
def couldNotKill : Method Unit := do
  storeProcessStates w
  reset
  settle false

def executor : Method Unit := do
  let r ← Async.get
  let dead ← isDead w
  await w
  if dead then pure ()
  else (killNode w r.s.node).tryCatch (couldNotKill w)

/-- The first attempt at settling a promise counts, and what the executor throws is lost. -/
def kill : Method Unit := do
  Async.modify fun r => { r with settled := [] }
  (executor w).tryCatch (pure ())
  let r ← Async.get
  match r.settled.getLast? with
  | some true => pure ()
  | some false => Async.throw
  | none => Async.hang

/-! ## The methods that fall back to `kill()` -/

/-- The `try` block of `stop()`. -/
def stopNode (node : Option ℕ) : Method Unit := do
  changeToState .stopping
  let shutdownTimeout ← timeout w Timeouts.shutdownTimeout
  if node.isSome then
    await w
    if w.nodeStops then pure () else Async.throw
  else pure ()
  waitForNodeProcessToExit w shutdownTimeout
  storeProcessStates w
  reset

def stop : Method Unit := do
  let r ← Async.get
  let dead ← isDead w
  await w
  if dead then pure ()
  -- the error of `kill()` is passed on
  else (stopNode w r.s.node).tryCatch (kill w)

/-- The `try` block of `expectNodeUpdate()`. -/
def awaitUpdate : Method Unit := do
  let updateTimeout ← timeout w Timeouts.updateTimeout
  promisedCondition w (do
    let r ← Async.get
    pure (decide (r.s.state = .updated))) updateTimeout
  waitForNodeProcessToExit w updateTimeout

def expectNodeUpdate : Method Unit := do
  changeToState .updating
  (awaitUpdate w).tryCatch (kill w)

end Klarity.BccNode.Kill
