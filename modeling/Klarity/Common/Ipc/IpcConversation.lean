import Klarity.Library.EventEmitter
import Klarity.Library.JavaScript
import Klarity.Library.Machine

set_option autoImplicit false

/-! # IpcConversation

`IpcConversation` runs request/response cycles between the main process and the renderer over one
named channel. Each `request()` draws a fresh conversation id, installs a listener of its own on the
channel and sends the id with its message; the side that called `onRequest()` runs its handler on every
message it receives and sends the id back with the outcome. Every listener of a side sees every packet
that side receives, so the pairing of answers with requests rests on the ids alone.

The machine below has one event per thing the environment decides: a call, the delivery of any packet
on the wire, the end of any running handler. Both sides may call `request()`; only `answering`
installs `onRequest()`. `send` puts a packet on the wire and does not throw: the values sent are ones
the transport can clone. -/

namespace Klarity.IpcConversation

/-- The two ends of a channel. -/
inductive Side
  | main
  | renderer
  deriving DecidableEq, Repr

/-- The process that receives what this one sends. -/
def Side.other : Side → Side
  | main => renderer
  | renderer => main

@[simp] theorem Side.other_other (side : Side) : side.other.other = side := by cases side <;> rfl

@[simp] theorem Side.other_ne (side : Side) : side.other ≠ side := by cases side <;> decide

@[simp] theorem Side.ne_other (side : Side) : side ≠ side.other := by cases side <;> decide

/-- The arguments of `send(channel, conversationId, ...args)`: a request carries `message`, an answer
    carries `isOk, response`; missing arguments are `undefined`. -/
structure Packet (Id V : Type) where
  conversationId : Id
  args : V × V
  deriving DecidableEq

/-- The listeners of the channel: the handler that the `call`-th `request()` installs for its response,
    and the permanent handler of `onRequest()`. -/
inductive Listener
  | response (call : ℕ)
  | onRequest
  deriving DecidableEq, Repr

/-- A call of `request()`, with the calls of `resolve`/`reject` made for its promise so far. -/
structure Call (V : Type) where
  side : Side
  message : V
  settled : List (Outcome V)
  deriving DecidableEq

/-- A run of the asynchronous handler given to `onRequest()`; `outcome` is `none` while it runs. -/
structure HandlerRun (Id V : Type) where
  conversationId : Id
  message : V
  outcome : Option (Outcome V)
  deriving DecidableEq

/-- Both processes and the wire between them. Packets and listeners are tagged with the side that
    receives them; `delivered` is the history of the packets that have arrived. -/
structure State (Id V : Type) where
  calls : List (Call V) := []
  receivers : EventEmitter Side Listener := {}
  wire : List (Side × Packet Id V) := []
  runs : List (HandlerRun Id V) := []
  delivered : List (Side × Packet Id V) := []

/-- What can happen next. -/
inductive Event (V : Type)
  | request (side : Side) (message : V)
  | onRequest
  | deliver (k : ℕ)
  | finish (k : ℕ) (outcome : Outcome V)

variable {Id V : Type} [DecidableEq Id] [JsValue V]

/-- The packet `request()` sends. -/
def requestPacket (conversationId : Id) (message : V) : Packet Id V :=
  ⟨conversationId, (message, JsValue.undefined)⟩

/-- The packet the `onRequest()` handler sends back, `isOk` first. -/
def answerPacket (conversationId : Id) (outcome : Outcome V) : Packet Id V :=
  ⟨conversationId, outcome.args⟩

/-- `resolve`/`reject` of the promise of one call. -/
def State.settle (s : State Id V) (call : ℕ) (outcome : Outcome V) : State Id V :=
  { s with calls := s.calls.modify call fun c => { c with settled := c.settled ++ [outcome] } }

section
variable (uuid : ℕ → Id) (answering : Side)

/-- `request(message)` on `side`: the listener goes in before the message goes out. -/
def State.request (s : State Id V) (side : Side) (message : V) : State Id V :=
  { s with
    calls := s.calls ++ [⟨side, message, []⟩]
    receivers := s.receivers.on side (.response s.calls.length)
    wire := s.wire ++ [(side.other, requestPacket (uuid s.calls.length) message)] }

/-- One listener of `side` is called with a packet. -/
def callListener (side : Side) (p : Packet Id V) : Listener → State Id V → State Id V
  | .response call, s =>
      -- Only handle messages with matching conversation id!
      if p.conversationId ≠ uuid call then s
      else
        let s := s.settle call (Outcome.ofArgs p.args)
        { s with receivers := s.receivers.removeListener side (.response call) }
  | .onRequest, s => { s with runs := s.runs ++ [⟨p.conversationId, p.args.1, none⟩] }

/-- A packet arrives at `side`, which emits it to the listeners it has at that moment. -/
def State.deliver (s : State Id V) (side : Side) (p : Packet Id V) : State Id V :=
  EventEmitter.emit (callListener uuid side p) (s.receivers.listeners side)
    { s with delivered := s.delivered ++ [(side, p)] }

/-- The `k`-th run of the handler ends, and its outcome goes back to the sender of the message. -/
def State.finish (s : State Id V) (k : ℕ) (run : HandlerRun Id V) (outcome : Outcome V) :
    State Id V :=
  { s with
    runs := s.runs.set k { run with outcome := some outcome }
    wire := s.wire ++ [(answering.other, answerPacket run.conversationId outcome)] }

/-- One event. Packets may overtake each other, and running handlers may end in any order. -/
def step (s : State Id V) : Event V → Option (State Id V)
  | .request side message => some (s.request uuid side message)
  | .onRequest => some { s with receivers := s.receivers.on answering .onRequest }
  | .deliver k =>
      match s.wire[k]? with
      | some (side, p) => some (({ s with wire := s.wire.eraseIdx k } : State Id V).deliver uuid side p)
      | none => none
  | .finish k outcome =>
      match s.runs[k]? with
      | some run =>
          if run.outcome = none then some (s.finish answering k run outcome) else none
      | none => none

/-- The channel, from before any call. -/
def machine : Machine (State Id V) (Event V) := ⟨{}, step uuid answering⟩

end

end Klarity.IpcConversation
