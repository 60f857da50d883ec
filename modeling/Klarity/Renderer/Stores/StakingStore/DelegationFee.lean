import Klarity.Renderer.Stores.Lib.Request.Awaited
import Klarity.Renderer.Stores.Lib.Request.Proofs

set_option autoImplicit false

/-! # The calculation of a delegation fee

Every call of `calculateDelegationFee()` goes through one shared request: it waits for the request if that is
executing, executes it, and returns what the promise of the request is fulfilled with, unless another wallet
has been asked for since. An execute while the request waits for a response makes no call, so the promise may
be that of another call. -/

namespace Klarity.StakingStore

open Request (settled)

/-! ## The model -/

/-- The request is passed on as it is; a pool that comes with it changes nothing here. -/
structure GetDelegationFeeRequest where
  walletId : String
  poolId : Option String := none
  deriving DecidableEq, Repr

inductive FeeError (Err : Type)
  | noWallet
  | request (error : Err)
  deriving DecidableEq, Repr

/-- `awaiting` is the await of the request before the `try` block, `executed` that of its promise. -/
inductive FeePhase (Fee Err : Type)
  | awaiting (promise : Option ℕ)
  | executed (promise : Option ℕ)
  | returned (fee : Option Fee)
  | threw (error : FeeError Err)
  deriving DecidableEq, Repr

structure FeeCall (Fee Err : Type) where
  request : GetDelegationFeeRequest
  phase : FeePhase Fee Err
  deriving DecidableEq, Repr

variable {Fee Err : Type}

structure FeeState (Fee Err : Type) where
  delegationFeeCalculationWalletId : Option String := none
  calculateDelegationFeeRequest : Request.State GetDelegationFeeRequest Fee Err := {}
  calls : List (FeeCall Fee Err) := []

/-- `isListed` says whether `getWalletById()` finds the wallet. -/
inductive FeeEvent (Fee Err : Type)
  | calculateDelegationFee (request : GetDelegationFeeRequest) (isListed : Bool)
  | resume (call : ℕ)
  | tick (i : ℕ)
  | respond (i : ℕ) (outcome : Except Err Fee)

/-- `execute()`, and what the call then awaits. -/
def executeRequest (s : FeeState Fee Err) (request : GetDelegationFeeRequest) :
    FeeState Fee Err × FeePhase Fee Err :=
  let executed := s.calculateDelegationFeeRequest.execute request
  ({ s with calculateDelegationFeeRequest := executed }, .executed executed.promise)

/-- The call up to its first await. -/
def calculateDelegationFee (s : FeeState Fee Err) (request : GetDelegationFeeRequest) (isListed : Bool) :
    FeeState Fee Err :=
  let asked := { s with delegationFeeCalculationWalletId := some request.walletId }
  if !isListed then { asked with calls := s.calls ++ [⟨request, .threw .noWallet⟩] }
  else if s.calculateDelegationFeeRequest.isExecuting then
    { asked with calls := s.calls ++ [⟨request, .awaiting s.calculateDelegationFeeRequest.promise⟩] }
  else
    let (executed, phase) := executeRequest asked request
    { executed with calls := s.calls ++ [⟨request, phase⟩] }

/-- A call goes on when the promise that it awaits is settled. -/
def resumeFee (s : FeeState Fee Err) (call : FeeCall Fee Err) :
    Option (FeeState Fee Err × FeePhase Fee Err) :=
  match call.phase with
  | .awaiting promise => do
      match ← settled s.calculateDelegationFeeRequest promise with
      | .ok _ => executeRequest s call.request
      | .error error => some (s, .threw (.request error))
  | .executed promise => do
      match ← settled s.calculateDelegationFeeRequest promise with
      | .ok fee =>
          some (s, .returned
            (if s.delegationFeeCalculationWalletId = some call.request.walletId then some fee else none))
      | .error error => some (s, .threw (.request error))
  | _ => none

def feeStep (s : FeeState Fee Err) : FeeEvent Fee Err → Option (FeeState Fee Err)
  | .calculateDelegationFee request isListed => some (calculateDelegationFee s request isListed)
  | .resume k => do
      let call ← s.calls[k]?
      let (resumed, phase) ← resumeFee s call
      some { resumed with calls := s.calls.set k { call with phase := phase } }
  | .tick i => do
      let request ← Request.step s.calculateDelegationFeeRequest (.tick i)
      some { s with calculateDelegationFeeRequest := request }
  | .respond i outcome => do
      let request ← Request.step s.calculateDelegationFeeRequest (.respond i outcome)
      some { s with calculateDelegationFeeRequest := request }

def feeMachine (Fee Err : Type) : Machine (FeeState Fee Err) (FeeEvent Fee Err) :=
  ⟨{}, feeStep⟩

/-! ## What is promised -/

/-- The API has answered a request so. -/
def Answered (s : FeeState Fee Err) (request : GetDelegationFeeRequest) (outcome : Except Err Fee) : Prop :=
  ∃ (p : ℕ) (call : Request.MethodCall GetDelegationFeeRequest Fee Err),
    s.calculateDelegationFeeRequest.calls[p]? = some call ∧ call.args = request ∧
      call.outcome = some outcome

/-- What a call has come to is the answer to its own request. -/
def OwnAnswer (s : FeeState Fee Err) (call : FeeCall Fee Err) : Prop :=
  match call.phase with
  | .returned (some fee) => Answered s call.request (.ok fee)
  | .threw (.request error) => Answered s call.request (.error error)
  | _ => True

/-- The promise is that of a request that is not this one's. -/
def Foreign (s : FeeState Fee Err) (promise : Option ℕ) (request : GetDelegationFeeRequest) : Prop :=
  ∃ (p : ℕ) (call : Request.MethodCall GetDelegationFeeRequest Fee Err), promise = some p ∧
    s.calculateDelegationFeeRequest.calls[p]? = some call ∧ call.args ≠ request

/-- An execute is not dropped for the sake of another request. -/
def Executes (s : FeeState Fee Err) (request : GetDelegationFeeRequest) : Prop :=
  s.calculateDelegationFeeRequest.isWaitingForResponse = true →
    ¬ Foreign s s.calculateDelegationFeeRequest.promise request

/-- No execute is dropped for the sake of another request, and no call waits for another request that
    fails. -/
def Undisturbed (s : FeeState Fee Err) : FeeEvent Fee Err → Prop
  | .calculateDelegationFee request isListed =>
      isListed = true → s.calculateDelegationFeeRequest.isExecuting = false → Executes s request
  | .resume k => ∀ call promise, s.calls[k]? = some call → call.phase = .awaiting promise →
      Executes s call.request ∧
        ∀ error, settled s.calculateDelegationFeeRequest promise = some (.error error) →
          ¬ Foreign s promise call.request
  | _ => True

/-! ## The invariant -/

variable {s s' : FeeState Fee Err} {request : GetDelegationFeeRequest} {call : FeeCall Fee Err}

/-- The promise is that of a call with this request. -/
def Own (s : FeeState Fee Err) (promise : Option ℕ) (request : GetDelegationFeeRequest) : Prop :=
  ∃ (p : ℕ) (call : Request.MethodCall GetDelegationFeeRequest Fee Err), promise = some p ∧
    s.calculateDelegationFeeRequest.calls[p]? = some call ∧ call.args = request

structure FeeInvariant (s : FeeState Fee Err) : Prop where
  linked : Request.Linked s.calculateDelegationFeeRequest
  executed : ∀ call ∈ s.calls, ∀ promise, call.phase = .executed promise → Own s promise call.request
  own : ∀ call ∈ s.calls, OwnAnswer s call

theorem feeInvariant_init : FeeInvariant ({} : FeeState Fee Err) :=
  ⟨Request.linked_init, fun _ h => absurd h List.not_mem_nil, fun _ h => absurd h List.not_mem_nil⟩

/-! ## Calls that are made and answered -/

theorem Own.extends {promise : Option ℕ} (h : Own s promise request)
    (hext : Request.Extends s.calculateDelegationFeeRequest s'.calculateDelegationFeeRequest) :
    Own s' promise request := by
  obtain ⟨p, call, hp, hcall, hargs⟩ := h
  obtain ⟨call', hcall', hargs', _⟩ := hext p call hcall
  exact ⟨p, call', hp, hcall', hargs'.trans hargs⟩

theorem Answered.extends {outcome : Except Err Fee} (h : Answered s request outcome)
    (hext : Request.Extends s.calculateDelegationFeeRequest s'.calculateDelegationFeeRequest) :
    Answered s' request outcome := by
  obtain ⟨p, call, hcall, hargs, houtcome⟩ := h
  obtain ⟨call', hcall', hargs', houtcome'⟩ := hext p call hcall
  exact ⟨p, call', hcall', hargs'.trans hargs, houtcome' outcome houtcome⟩

theorem OwnAnswer.extends (h : OwnAnswer s call)
    (hext : Request.Extends s.calculateDelegationFeeRequest s'.calculateDelegationFeeRequest) :
    OwnAnswer s' call := by
  unfold OwnAnswer at h ⊢
  split at h
  · exact h.extends hext
  · exact h.extends hext
  · trivial

/-- A promise that is not foreign is settled with an answer to the own request. -/
theorem answered_of_settled {promise : Option ℕ} {outcome : Except Err Fee}
    (hsettled : settled s.calculateDelegationFeeRequest promise = some outcome)
    (hown : ¬ Foreign s promise request) : Answered s request outcome := by
  obtain ⟨p, call, rfl, hcall, houtcome⟩ := Request.exists_call_of_settled hsettled
  refine ⟨p, call, hcall, ?_, houtcome⟩
  by_contra hargs
  exact hown ⟨p, call, rfl, hcall, hargs⟩

theorem Own.not_foreign {promise : Option ℕ} (h : Own s promise request) : ¬ Foreign s promise request := by
  rintro ⟨p, call, hp, hcall, hargs⟩
  obtain ⟨p', call', hp', hcall', hargs'⟩ := h
  obtain rfl := Option.some.inj (hp.symm.trans hp')
  obtain rfl := Option.some.inj (hcall.symm.trans hcall')
  exact hargs hargs'

/-- An execute that is not dropped for another request awaits a call with its own. -/
theorem own_executeRequest (hlinked : Request.Linked s.calculateDelegationFeeRequest)
    (hexecutes : Executes s request) :
    Own (executeRequest s request).1 (executeRequest s request).1.calculateDelegationFeeRequest.promise
      request := by
  by_cases hwaiting : s.calculateDelegationFeeRequest.isWaitingForResponse = true
  · have hsame : s.calculateDelegationFeeRequest.execute request = s.calculateDelegationFeeRequest :=
      if_pos hwaiting
    obtain ⟨p, call, hp, hcall, _⟩ := hlinked.waiting_open hwaiting
    show Own { s with calculateDelegationFeeRequest := s.calculateDelegationFeeRequest.execute request }
      (s.calculateDelegationFeeRequest.execute request).promise request
    rw [hsame]
    refine ⟨p, call, hp, hcall, ?_⟩
    by_contra hargs
    exact hexecutes hwaiting ⟨p, call, hp, hcall, hargs⟩
  · have hnew : s.calculateDelegationFeeRequest.execute request = { s.calculateDelegationFeeRequest with
        promise := some s.calculateDelegationFeeRequest.calls.length
        isWaitingForResponse := true
        currentApiCall := some ⟨request, none⟩
        calls := s.calculateDelegationFeeRequest.calls ++
          [⟨request, false, none, s.calculateDelegationFeeRequest.resets⟩] } := if_neg hwaiting
    show Own { s with calculateDelegationFeeRequest := s.calculateDelegationFeeRequest.execute request }
      (s.calculateDelegationFeeRequest.execute request).promise request
    rw [hnew]
    exact ⟨_, _, rfl, List.getElem?_concat_length, rfl⟩

/-! ## Steps -/

/-- A call comes or goes on, after the request has at most made another call. -/
theorem FeeInvariant.of_calls (h : FeeInvariant s)
    (hlinked : Request.Linked s'.calculateDelegationFeeRequest)
    (hext : Request.Extends s.calculateDelegationFeeRequest s'.calculateDelegationFeeRequest)
    (hcalls : ∀ other ∈ s'.calls, other ∈ s.calls ∨ other = call)
    (hexecuted : ∀ promise, call.phase = .executed promise → Own s' promise call.request)
    (hown : OwnAnswer s' call) : FeeInvariant s' := by
  refine ⟨hlinked, fun other hother promise hphase => ?_, fun other hother => ?_⟩
  · rcases hcalls other hother with hold | rfl
    · exact (h.executed other hold promise hphase).extends hext
    · exact hexecuted promise hphase
  · rcases hcalls other hother with hold | rfl
    · exact (h.own other hold).extends hext
    · exact hown

theorem mem_concat {calls : List (FeeCall Fee Err)} {other : FeeCall Fee Err}
    (h : other ∈ calls ++ [call]) : other ∈ calls ∨ other = call :=
  (List.mem_append.1 h).imp_right List.mem_singleton.1

theorem FeeInvariant.calculateDelegationFee (h : FeeInvariant s) (isListed : Bool)
    (hexecutes : isListed = true → s.calculateDelegationFeeRequest.isExecuting = false → Executes s request) :
    FeeInvariant (calculateDelegationFee s request isListed) := by
  have hsame := Request.Extends.refl s.calculateDelegationFeeRequest
  unfold StakingStore.calculateDelegationFee
  cases isListed with
  | false =>
      exact h.of_calls h.linked hsame (fun _ => mem_concat) (fun _ hphase => nomatch hphase) trivial
  | true =>
      dsimp only
      split
      · next hlisted => exact absurd hlisted (by decide)
      · split
        · exact h.of_calls h.linked hsame (fun _ => mem_concat) (fun _ hphase => nomatch hphase) trivial
        · next hidle =>
            have hexecutes := hexecutes rfl (Bool.eq_false_iff.2 hidle)
            refine h.of_calls (Request.linked_execute h.linked request)
              (Request.extends_execute s.calculateDelegationFeeRequest request) (fun _ => mem_concat) ?_ trivial
            rintro _ ⟨⟩
            exact own_executeRequest h.linked hexecutes

theorem mem_set {calls : List (FeeCall Fee Err)} {other : FeeCall Fee Err} {k : ℕ}
    (h : other ∈ calls.set k call) : other ∈ calls ∨ other = call :=
  List.mem_or_eq_of_mem_set h

theorem FeeInvariant.resume (h : FeeInvariant s) {k : ℕ} {phase : FeePhase Fee Err}
    (hok : Undisturbed s (.resume k)) (hk : s.calls[k]? = some call)
    (hs : resumeFee s call = some (s', phase)) :
    FeeInvariant { s' with calls := s.calls.set k { call with phase := phase } } := by
  have hsame := Request.Extends.refl s.calculateDelegationFeeRequest
  unfold resumeFee at hs
  split at hs
  · next promise hphase =>
      obtain ⟨hexecutes, hanswered⟩ := hok call promise hk hphase
      obtain ⟨outcome, hsettled, hs⟩ := Option.bind_eq_some_iff.1 hs
      cases outcome with
      | ok fee =>
          cases hs
          refine h.of_calls (Request.linked_execute h.linked call.request)
            (Request.extends_execute s.calculateDelegationFeeRequest call.request) (fun _ => mem_set) ?_ trivial
          rintro _ ⟨⟩
          exact own_executeRequest h.linked hexecutes
      | error error =>
          cases hs
          exact h.of_calls h.linked hsame (fun _ => mem_set) (fun _ hphase => nomatch hphase)
            (answered_of_settled hsettled (hanswered error hsettled))
  · next promise hphase =>
      have hown := (h.executed call (List.mem_of_getElem? hk) promise hphase).not_foreign
      obtain ⟨outcome, hsettled, hs⟩ := Option.bind_eq_some_iff.1 hs
      cases outcome with
      | ok fee =>
          cases hs
          refine h.of_calls h.linked hsame (fun _ => mem_set) (fun _ hphase => nomatch hphase) ?_
          by_cases hsame : s.delegationFeeCalculationWalletId = some call.request.walletId
          · rw [if_pos hsame]
            exact answered_of_settled hsettled hown
          · rw [if_neg hsame]
            trivial
      | error error =>
          cases hs
          exact h.of_calls h.linked hsame (fun _ => mem_set) (fun _ hphase => nomatch hphase)
            (answered_of_settled hsettled hown)
  · cases hs

/-- The timers and responses of the request leave the calls as they are. -/
theorem FeeInvariant.requestStep (h : FeeInvariant s)
    {e : Request.Event GetDelegationFeeRequest Fee Err}
    {next : Request.State GetDelegationFeeRequest Fee Err} (he : ∀ request, e ≠ .execute request)
    (hs : Request.step s.calculateDelegationFeeRequest e = some next) :
    FeeInvariant { s with calculateDelegationFeeRequest := next } := by
  have hext := (Request.sameCalls_step he hs).extends_calls
  refine ⟨Request.linked_step h.linked hs, fun call hcall promise hphase => ?_, fun call hcall => ?_⟩
  · exact (h.executed call hcall promise hphase).extends hext
  · exact (h.own call hcall).extends hext

theorem FeeInvariant.step (h : FeeInvariant s) {e : FeeEvent Fee Err} (hok : Undisturbed s e)
    (hs : feeStep s e = some s') : FeeInvariant s' := by
  cases e with
  | calculateDelegationFee request isListed =>
      cases hs
      exact h.calculateDelegationFee isListed hok
  | resume k =>
      obtain ⟨call, hk, hs⟩ := Option.bind_eq_some_iff.1 hs
      obtain ⟨⟨resumed, phase⟩, hresumed, hs⟩ := Option.bind_eq_some_iff.1 hs
      cases hs
      exact h.resume hok hk hresumed
  | tick i =>
      obtain ⟨next, hnext, hs⟩ := Option.bind_eq_some_iff.1 hs
      cases hs
      exact h.requestStep (by simp) hnext
  | respond i outcome =>
      obtain ⟨next, hnext, hs⟩ := Option.bind_eq_some_iff.1 hs
      cases hs
      exact h.requestStep (by simp) hnext

/-! ## The main results -/

/-- Where no execute is dropped for another request and no call waits for one that fails, every call comes to
    the answer to its own request. -/
theorem ownAnswer_of_undisturbed {s : FeeState Fee Err}
    (hr : (feeMachine Fee Err).Reaches Undisturbed s) : ∀ call ∈ s.calls, OwnAnswer s call :=
  (hr.invariant (P := FeeInvariant) feeInvariant_init fun _ _ _ _ hok h hs => h.step hok hs).own

/-- A second wallet is asked for while the request for the first one executes, and waits for it. -/
def askedWhileExecuting : List (FeeEvent ℕ String) :=
  [.calculateDelegationFee ⟨"a", none⟩ true, .tick 0, .calculateDelegationFee ⟨"b", none⟩ true,
    .respond 0 (.ok 1), .resume 0, .resume 1, .tick 1, .respond 1 (.ok 2), .resume 1]

theorem ownAnswer_of_askedWhileExecuting :
    ∃ s, (feeMachine ℕ String).Reaches Undisturbed s ∧
      s.calls.map (·.phase) = [.returned none, .returned (some 2)] ∧ ∀ call ∈ s.calls, OwnAnswer s call := by
  have hsteps : (feeMachine ℕ String).allSteps Undisturbed (feeMachine ℕ String).init
      askedWhileExecuting := by
    refine ⟨fun _ _ h => (nomatch h), trivial, fun _ h => (nomatch h), trivial, ?_, ?_, trivial, trivial, ?_,
      trivial⟩
    · rintro _ _ ⟨⟩ hphase
      cases hphase
    · rintro _ _ ⟨⟩ ⟨⟩
      exact ⟨fun h => (nomatch h), fun _ h => (nomatch h)⟩
    · rintro _ _ ⟨⟩ hphase
      cases hphase
  have hr : (feeMachine ℕ String).Reaches Undisturbed _ := .exec askedWhileExecuting .init hsteps rfl
  exact ⟨_, hr, rfl, ownAnswer_of_undisturbed hr⟩

/-- Two wallets are asked for in one turn: the second execute is dropped. -/
def askedTwice : List (FeeEvent ℕ String) :=
  [.calculateDelegationFee ⟨"a", none⟩ true, .calculateDelegationFee ⟨"b", none⟩ true, .tick 0,
    .respond 0 (.ok 1), .resume 1]

theorem not_ownAnswer_of_askedTwice :
    ¬ ∀ s, (feeMachine ℕ String).Reaches Machine.anyStep s → ∀ call ∈ s.calls, OwnAnswer s call := by
  intro hown
  have hr := Machine.reaches_of_exec (M := feeMachine ℕ String) askedTwice rfl
  obtain ⟨p, call, hcall, hargs, _⟩ := hown _ hr ⟨⟨"b", none⟩, .returned (some 1)⟩ (by decide)
  cases p with
  | zero =>
      cases hcall
      exact absurd hargs (by decide)
  | succ p => cases hcall

end Klarity.StakingStore
