import Klarity.Library.EventEmitter
import Klarity.Library.JavaScript
import Klarity.Library.Machine

set_option autoImplicit false

/-! # IpcChannel

`IpcChannel` derives three named channels from its name: messages travel on the broadcast channel
(`send()`, handled by `onReceive()`) or on the request channel (`request()`, handled by
`onRequest()`), and the answers to both come back on the one response channel. A response carries no
correlation id. A call waits for the next response with a listener that fires once.

One side makes the calls here, the other one installs the handlers. Packets carry the number of the
call they belong to as `call`; it is there for the statements, no step reads it. -/

namespace Klarity.IpcChannel

/-- The channels behind the name of an `IpcChannel`. -/
inductive Channel
  | broadcast
  | request
  | response
  deriving DecidableEq, Repr

/-- A call of `send()` or `request()`, with the calls of `resolve`/`reject` made for its promise so
    far; `since` counts the responses delivered before the call. -/
structure Call (V : Type) where
  message : V
  since : ℕ
  settled : List (Outcome V)
  deriving DecidableEq

/-- A message on its way to the handlers. -/
structure Message (V : Type) where
  channel : Channel
  message : V
  call : ℕ
  deriving DecidableEq

/-- A run of a handler; `outcome` is `none` while it runs. -/
structure HandlerRun (V : Type) where
  message : V
  outcome : Option (Outcome V)
  call : ℕ
  deriving DecidableEq

/-- The arguments `isOk, response` on the response channel. -/
structure Response (V : Type) where
  args : V × V
  call : ℕ
  deriving DecidableEq

/-- Both sides and what is between them. `receiver` holds the once-listeners of the calls,
    `handlers` the permanent listeners of the other side; `delivered` is the history of responses. -/
structure State (V : Type) where
  calls : List (Call V) := []
  receiver : EventEmitter Channel ℕ := {}
  handlers : EventEmitter Channel Unit := {}
  messages : List (Message V) := []
  runs : List (HandlerRun V) := []
  responses : List (Response V) := []
  delivered : List (Response V) := []

/-- What can happen next. -/
inductive Event (V : Type)
  | send (message : V)
  | request (message : V)
  | onReceive
  | onRequest
  | receive (k : ℕ)
  | finish (k : ℕ) (outcome : Outcome V)
  | respond (k : ℕ)

variable {V : Type} [JsValue V]

/-- The outcome a response stands for at the listener of a call. -/
def Response.outcome (r : Response V) : Outcome V := Outcome.ofArgs r.args

/-- `resolve`/`reject` of the promise of one call. -/
def State.settle (s : State V) (call : ℕ) (outcome : Outcome V) : State V :=
  { s with calls := s.calls.modify call fun c => { c with settled := c.settled ++ [outcome] } }

/-- `send()` and `request()` differ in the channel of the message only. -/
def State.call (s : State V) (channel : Channel) (message : V) : State V :=
  { s with
    calls := s.calls ++ [⟨message, s.delivered.length, []⟩]
    messages := s.messages ++ [⟨channel, message, s.calls.length⟩]
    -- Handle response to the sent request once
    receiver := s.receiver.on .response s.calls.length }

def State.send (s : State V) (message : V) : State V := s.call .broadcast message

def State.request (s : State V) (message : V) : State V := s.call .request message

/-- `onReceive()` and `onRequest()` differ in the channel they listen to only. -/
def State.onReceive (s : State V) : State V := { s with handlers := s.handlers.on .broadcast () }

def State.onRequest (s : State V) : State V := { s with handlers := s.handlers.on .request () }

/-- A message arrives: every handler of its channel starts. -/
def State.receive (s : State V) (m : Message V) : State V :=
  EventEmitter.emit (fun _ s => { s with runs := s.runs ++ [⟨m.message, none, m.call⟩] })
    (s.handlers.listeners m.channel) s

/-- The `k`-th run of a handler ends, and its outcome goes back on the response channel. -/
def State.finish (s : State V) (k : ℕ) (run : HandlerRun V) (outcome : Outcome V) : State V :=
  { s with
    runs := s.runs.set k { run with outcome := some outcome }
    responses := s.responses ++ [⟨outcome.args, run.call⟩] }

/-- The listener of one call: it is removed before it runs, as `once` has it. -/
def callListener (r : Response V) (call : ℕ) (s : State V) : State V :=
  ({ s with receiver := s.receiver.removeListener .response call } : State V).settle call r.outcome

/-- A response arrives and is emitted to all listeners of the response channel. -/
def State.respond (s : State V) (r : Response V) : State V :=
  EventEmitter.emit (callListener r) (s.receiver.listeners .response)
    { s with delivered := s.delivered ++ [r] }

/-- One event. Packets may overtake each other, and running handlers may end in any order. -/
def step (s : State V) : Event V → Option (State V)
  | .send message => some (s.send message)
  | .request message => some (s.request message)
  | .onReceive => some s.onReceive
  | .onRequest => some s.onRequest
  | .receive k =>
      match s.messages[k]? with
      | some m => some (({ s with messages := s.messages.eraseIdx k } : State V).receive m)
      | none => none
  | .finish k outcome =>
      match s.runs[k]? with
      | some run => if run.outcome = none then some (s.finish k run outcome) else none
      | none => none
  | .respond k =>
      match s.responses[k]? with
      | some r => some (({ s with responses := s.responses.eraseIdx k } : State V).respond r)
      | none => none

/-- The channel, from before any call. -/
def machine (V : Type) [JsValue V] : Machine (State V) (Event V) := ⟨{}, step⟩

end Klarity.IpcChannel
