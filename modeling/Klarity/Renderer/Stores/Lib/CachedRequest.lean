import Klarity.Renderer.Stores.Lib.Request

set_option autoImplicit false

/-! # CachedRequest

A `CachedRequest` keeps an entry for every list of arguments it was executed with. Entries are shared
objects: `_currentApiCall` and the 0 ms timer of a call hold on to an entry that is updated later, or
that is not in the cache any more. They live in `objects` here, and the other fields name them by
their number.

A call remembers the arguments and the entry that `execute()` found for it. `promise` is the number of
the call whose response settles it. -/

namespace Klarity.CachedRequest

open Request (Fields ApiCall)

/-- A call of the wrapped method; `outcome` is `none` until the timer of its response fires. -/
structure MethodCall (Args Result Err : Type) where
  args : Args
  existingApiCall : Option ℕ
  ticked : Bool
  outcome : Option (Except Err Result)

structure State (Args Result Err : Type) extends Fields Result Err where
  objects : List (ApiCall Args Result) := []
  apiCalls : List ℕ := []
  currentApiCall : Option ℕ := none
  isInvalidated : Bool := true
  promise : Option ℕ := none
  calls : List (MethodCall Args Result Err) := []

/-- What can happen next; `tick` is the 0 ms timer of a call, `respond` the timer of its response. -/
inductive Event (Args Result Err : Type)
  | execute (callArgs : Args)
  | invalidate (immediately : Bool)
  | removeCacheForCallWith (args : Args)
  | reset
  | tick (i : ℕ)
  | respond (i : ℕ) (outcome : Except Err Result)

variable {Args Result Err : Type} [DecidableEq Args]

/-- The entry with the number `k` is for these arguments. -/
def State.isFor (s : State Args Result Err) (args : Args) (k : ℕ) : Bool :=
  match s.objects[k]? with
  | some c => c.args = args
  | none => false

def State.findApiCall (s : State Args Result Err) (args : Args) : Option ℕ :=
  s.apiCalls.find? (s.isFor args)

/-- The new entry gets the next free number. -/
def State.addApiCall (s : State Args Result Err) (args : Args) : State Args Result Err :=
  { s with objects := s.objects ++ [⟨args, none⟩], apiCalls := s.apiCalls ++ [s.objects.length] }

/-- The first half of `execute()`: the entry of the call becomes the current one, and the request is
    invalidated if it was not. -/
def State.selectApiCall (s : State Args Result Err) (callArgs : Args) : State Args Result Err :=
  match s.findApiCall callArgs with
  | some k =>
      if s.currentApiCall = some k then s
      else { s with isInvalidated := true, currentApiCall := some k }
  | none =>
      { s.addApiCall callArgs with isInvalidated := true, currentApiCall := some s.objects.length }

def State.execute (s : State Args Result Err) (callArgs : Args) : State Args Result Err :=
  -- Do not continue if this request is already loading
  if s.isWaitingForResponse then s
  else
    -- Do not continue if this request is not invalidated
    if (s.selectApiCall callArgs).isInvalidated = false then s.selectApiCall callArgs
    else
      { s.selectApiCall callArgs with
        promise := some s.calls.length
        isWaitingForResponse := true
        calls := s.calls ++ [⟨callArgs, s.findApiCall callArgs, false, none⟩] }

def State.invalidate (s : State Args Result Err) (immediately : Bool) : State Args Result Err :=
  match immediately, s.currentApiCall.bind (s.objects[·]?) with
  | true, some c => { s with isInvalidated := true : State Args Result Err }.execute c.args
  | _, _ => { s with isInvalidated := true }

def State.removeCacheForCallWith (s : State Args Result Err) (args : Args) :
    State Args Result Err :=
  { s with apiCalls := s.apiCalls.filter fun k => !s.isFor args k }

/-- The entries stay in the cache. -/
def State.reset (s : State Args Result Err) : State Args Result Err :=
  { s with toFields := s.toFields.reset, currentApiCall := none, isInvalidated := true }

/-- The result that the timer of a call applies: the one its entry has by then. -/
def State.cachedResult (s : State Args Result Err) (c : MethodCall Args Result Err) : Option Result :=
  match c.existingApiCall with
  | some k => s.objects[k]?.bind ApiCall.result
  | none => s.result

def State.tick (s : State Args Result Err) (i : ℕ) (c : MethodCall Args Result Err) :
    State Args Result Err :=
  { s with
    isExecuting := true
    -- Apply the previous result from this call immediately (cached)
    result := s.cachedResult c
    calls := s.calls.modify i fun c => { c with ticked := true } }

/-- The response of the call `i` goes to the entry that is current by then. -/
def State.respond (s : State Args Result Err) (i : ℕ) (outcome : Except Err Result) :
    State Args Result Err :=
  { s with
    toFields := s.toFields.settle outcome
    objects :=
      match s.currentApiCall with
      | some k => s.objects.modify k (·.settle outcome)
      | none => s.objects
    -- a failure leaves the request invalidated
    isInvalidated := s.isInvalidated && !outcome.isOk
    calls := s.calls.modify i fun c => { c with outcome := some outcome } }

def step (s : State Args Result Err) : Event Args Result Err → Option (State Args Result Err)
  | .execute callArgs => some (s.execute callArgs)
  | .invalidate immediately => some (s.invalidate immediately)
  | .removeCacheForCallWith args => some (s.removeCacheForCallWith args)
  | .reset => some s.reset
  | .tick i =>
      match s.calls[i]? with
      | some c => if c.ticked then none else some (s.tick i c)
      | none => none
  | .respond i outcome =>
      match s.calls[i]? with
      | some c => if c.ticked ∧ c.outcome = none then some (s.respond i outcome) else none
      | none => none

/-- A new `CachedRequest` and everything that can happen to it. -/
def machine (Args Result Err : Type) [DecidableEq Args] :
    Machine (State Args Result Err) (Event Args Result Err) :=
  ⟨{}, step⟩

end Klarity.CachedRequest
