import Klarity.Library.Machine
import Mathlib.Data.Nat.Notation

set_option autoImplicit false

/-! # Request

A `Request` wraps an asynchronous method of the API and publishes what comes of it in observable
fields. The effects of a call are spread over three turns of the event loop: `execute()` itself, the
0 ms timer that sets `isExecuting`, and the 1 ms timer that handles the response. Timers fire in the
order of their deadlines, so the response of a call is handled after its own 0 ms timer.

The calls of the method are kept in `calls`; a `promise` is named by the number of the call whose
response settles it. `epoch` and `resets` count the resets before a call and before now; no step
reads them. -/

namespace Klarity.Request

/-- The observable fields and `_isWaitingForResponse`. -/
structure Fields (Result Err : Type) where
  result : Option Result := none
  error : Option Err := none
  isExecuting : Bool := false
  isError : Bool := false
  wasExecuted : Bool := false
  isWaitingForResponse : Bool := false
  deriving DecidableEq

structure ApiCall (Args Result : Type) where
  args : Args
  result : Option Result
  deriving DecidableEq

/-- A call of the wrapped method; `outcome` is `none` until the timer of its response fires. -/
structure MethodCall (Args Result Err : Type) where
  args : Args
  ticked : Bool
  outcome : Option (Except Err Result)
  epoch : ℕ

structure State (Args Result Err : Type) extends Fields Result Err where
  promise : Option ℕ := none
  currentApiCall : Option (ApiCall Args Result) := none
  calls : List (MethodCall Args Result Err) := []
  resets : ℕ := 0

/-- What can happen next; `tick` is the 0 ms timer of a call, `respond` the timer of its response. -/
inductive Event (Args Result Err : Type)
  | execute (callArgs : Args)
  | reset
  | tick (i : ℕ)
  | respond (i : ℕ) (outcome : Except Err Result)

variable {Args Result Err : Type}

/-- The fields after `.then` or `.catch`. -/
def Fields.settle (f : Fields Result Err) : Except Err Result → Fields Result Err
  | .ok result =>
      { f with
        result := some result
        isExecuting := false
        wasExecuted := true
        isWaitingForResponse := false }
  | .error error =>
      { f with
        error := some error
        isExecuting := false
        isError := true
        wasExecuted := true
        isWaitingForResponse := false }

def Fields.reset (f : Fields Result Err) : Fields Result Err :=
  { f with
    result := none
    error := none
    isError := false
    isExecuting := false
    wasExecuted := false
    isWaitingForResponse := false }

/-- `if (this._currentApiCall) this._currentApiCall.result = result`, on a success. -/
def ApiCall.settle (call : ApiCall Args Result) : Except Err Result → ApiCall Args Result
  | .ok result => { call with result := some result }
  | .error _ => call

def State.execute (s : State Args Result Err) (callArgs : Args) : State Args Result Err :=
  -- Do not continue if this request is already loading
  if s.isWaitingForResponse then s
  else
    { s with
      promise := some s.calls.length
      isWaitingForResponse := true
      currentApiCall := some ⟨callArgs, none⟩
      calls := s.calls ++ [⟨callArgs, false, none, s.resets⟩] }

def State.tick (s : State Args Result Err) (i : ℕ) : State Args Result Err :=
  { s with
    isExecuting := true
    calls := s.calls.modify i fun c => { c with ticked := true } }

/-- The response of the call `i` is handled, whatever happened since the call. -/
def State.respond (s : State Args Result Err) (i : ℕ) (outcome : Except Err Result) :
    State Args Result Err :=
  { s with
    toFields := s.toFields.settle outcome
    currentApiCall := s.currentApiCall.map (·.settle outcome)
    calls := s.calls.modify i fun c => { c with outcome := some outcome } }

/-- The promise stays: a caller that awaits the request after a reset still gets the old response. -/
def State.reset (s : State Args Result Err) : State Args Result Err :=
  { s with toFields := s.toFields.reset, currentApiCall := none, resets := s.resets + 1 }

def step (s : State Args Result Err) : Event Args Result Err → Option (State Args Result Err)
  | .execute callArgs => some (s.execute callArgs)
  | .reset => some s.reset
  | .tick i =>
      match s.calls[i]? with
      | some c => if c.ticked then none else some (s.tick i)
      | none => none
  | .respond i outcome =>
      match s.calls[i]? with
      | some c => if c.ticked ∧ c.outcome = none then some (s.respond i outcome) else none
      | none => none

/-- A new `Request` and everything that can happen to it. -/
def machine (Args Result Err : Type) : Machine (State Args Result Err) (Event Args Result Err) :=
  ⟨{}, step⟩

end Klarity.Request
