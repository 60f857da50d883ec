import Klarity.Library.Lists
import Klarity.Renderer.Stores.Lib.Request

set_option autoImplicit false

/-! # Callers that await a Request

A caller that executes a request while a call is open awaits the response to that call, whatever its own
arguments. So what is known of the arguments of all callers is known of the calls they await, as long as
every open call is awaited by the one that made it. -/

namespace Klarity.Request

variable {Args Result Err : Type} {r : State Args Result Err} {waits waits' : ℕ → Prop}
  {good good' : Args → Prop}

/-- The outcome that a promise of a request is settled with. -/
def settled (request : State Args Result Err) (promise : Option ℕ) : Option (Except Err Result) := do
  let call ← request.calls[← promise]?
  call.outcome

theorem settled_eq_none {p : ℕ} {call : MethodCall Args Result Err} (hcall : r.calls[p]? = some call)
    (hopen : call.outcome = none) : settled r (some p) = none := by
  simp [settled, hcall, hopen]

theorem exists_call_of_settled {promise : Option ℕ} {outcome : Except Err Result}
    (h : settled r promise = some outcome) :
    ∃ p call, promise = some p ∧ r.calls[p]? = some call ∧ call.outcome = some outcome := by
  rcases promise with _ | p
  · cases h
  · rcases hcall : r.calls[p]? with _ | call
    · simp [settled, hcall] at h
    · exact ⟨p, call, rfl, hcall, by simpa [settled, hcall] using h⟩

/-- The call of a request that is still open. -/
def openCall (request : State Args Result Err) (call : ℕ) : Option Args :=
  match request.calls[call]? with
  | some ⟨args, _, none, _⟩ => some args
  | _ => none

theorem openCall_eq_some {i : ℕ} {args : Args} (h : openCall r i = some args) :
    ∃ call, r.calls[i]? = some call ∧ call.args = args ∧ call.outcome = none := by
  unfold openCall at h
  split at h
  · next hcall => exact ⟨_, hcall, Option.some.inj h, rfl⟩
  · cases h

/-- The promises in `waits` are those of calls with good arguments, and while the request waits for a
    response, its promise is in `waits` and not settled. -/
structure Awaited (r : State Args Result Err) (waits : ℕ → Prop) (good : Args → Prop) : Prop where
  called : ∀ p, waits p → ∃ call, r.calls[p]? = some call ∧ good call.args
  waiting : r.isWaitingForResponse = true →
    ∃ p call, r.promise = some p ∧ waits p ∧ r.calls[p]? = some call ∧ call.outcome = none

theorem Awaited.init : Awaited ({} : State Args Result Err) (fun _ => False) good :=
  ⟨fun _ h => h.elim, fun h => absurd h Bool.false_ne_true⟩

theorem Awaited.imp (h : Awaited r waits good)
    (hgood : ∀ p call, waits p → r.calls[p]? = some call → good call.args → good' call.args) :
    Awaited r waits good' := by
  refine ⟨fun p hp => ?_, h.waiting⟩
  obtain ⟨call, hcall, hargs⟩ := h.called p hp
  exact ⟨call, hcall, hgood p call hp hcall hargs⟩

/-- Callers whose promise is settled go on. -/
theorem Awaited.resume (h : Awaited r waits good) (hsub : ∀ p, waits' p → waits p)
    (hsup : ∀ p call, waits p → r.calls[p]? = some call → call.outcome = none → waits' p) :
    Awaited r waits' good := by
  refine ⟨fun p hp => h.called p (hsub p hp), fun hwaiting => ?_⟩
  obtain ⟨p, call, hp, hwaits, hcall, hopen⟩ := h.waiting hwaiting
  exact ⟨p, call, hp, hsup p call hwaits hcall hopen, hcall, hopen⟩

theorem Awaited.execute {args : Args} (h : Awaited r waits good) (hargs : good args)
    (hsub : ∀ p, waits' p → waits p ∨ (r.execute args).promise = some p)
    (hsup : ∀ p, waits p ∨ (r.execute args).promise = some p → waits' p) :
    Awaited (r.execute args) waits' good := by
  by_cases hwaiting : r.isWaitingForResponse = true
  · have hsame : r.execute args = r := if_pos hwaiting
    rw [hsame] at hsub hsup ⊢
    obtain ⟨p, call, hp, hwaits, hcall, hopen⟩ := h.waiting hwaiting
    refine ⟨fun q hq => ?_, fun _ => ⟨p, call, hp, hsup p (.inl hwaits), hcall, hopen⟩⟩
    rcases hsub q hq with hq | hq
    · exact h.called q hq
    · rw [hp] at hq
      obtain rfl := Option.some.inj hq
      exact h.called p hwaits
  · have hnew : r.execute args = { r with
        promise := some r.calls.length
        isWaitingForResponse := true
        currentApiCall := some ⟨args, none⟩
        calls := r.calls ++ [⟨args, false, none, r.resets⟩] } := if_neg hwaiting
    rw [hnew] at hsub hsup ⊢
    have hcall : (r.calls ++ [⟨args, false, none, r.resets⟩])[r.calls.length]? =
        some (⟨args, false, none, r.resets⟩ : MethodCall Args Result Err) :=
      List.getElem?_concat_length
    refine ⟨fun q hq => ?_, fun _ => ⟨_, _, rfl, hsup _ (.inr rfl), hcall, rfl⟩⟩
    rcases hsub q hq with hq | hq
    · obtain ⟨call, hq, hgood⟩ := h.called q hq
      exact ⟨call, List.getElem?_concat_eq_some.2 (.inl hq), hgood⟩
    · obtain rfl := Option.some.inj hq
      exact ⟨_, hcall, hargs⟩

theorem Awaited.respond (h : Awaited r waits good) (i : ℕ) (outcome : Except Err Result) :
    Awaited (r.respond i outcome) waits good := by
  refine ⟨fun p hp => ?_, fun hwaiting => ?_⟩
  · obtain ⟨call, hcall, hargs⟩ := h.called p hp
    refine ⟨_, List.getElem?_modify_of_getElem? _ i hcall, ?_⟩
    split
    · exact hargs
    · exact hargs
  · have hsettled : (r.respond i outcome).isWaitingForResponse = false := by
      cases outcome with
      | ok result => rfl
      | error error => rfl
    rw [hsettled] at hwaiting
    cases hwaiting

theorem Awaited.reset (h : Awaited r waits good) : Awaited r.reset waits good :=
  ⟨h.called, fun hwaiting => absurd hwaiting Bool.false_ne_true⟩

/-- What is recorded of the calls that succeeded. -/
def Recorded (r : State Args Result Err) (recorded : Args → Result → Prop) : Prop :=
  ∀ (p : ℕ) (call : MethodCall Args Result Err) (result : Result), r.calls[p]? = some call →
    call.outcome = some (.ok result) →
    recorded call.args result

theorem Recorded.execute {recorded : Args → Result → Prop} {args : Args} (h : Recorded r recorded) :
    Recorded (r.execute args) recorded := by
  intro p call result hcall hok
  unfold State.execute at hcall
  split at hcall
  · exact h p call result hcall hok
  · rcases List.getElem?_concat_eq_some.1 hcall with hcall | ⟨-, rfl⟩
    · exact h p call result hcall hok
    · cases hok

theorem Recorded.respond {recorded : Args → Result → Prop} (h : Recorded r recorded) {i : ℕ}
    {outcome : Except Err Result}
    (hnew : ∀ call result, r.calls[i]? = some call → outcome = .ok result →
      recorded call.args result) : Recorded (r.respond i outcome) recorded := by
  intro p call result hcall hok
  rcases List.getElem?_modify_eq_some.1 hcall with ⟨rfl, old, hold, rfl⟩ | ⟨_, hcall⟩
  · exact hnew old result hold (Option.some.inj hok)
  · exact h p call result hcall hok

theorem Recorded.tick {recorded : Args → Result → Prop} (h : Recorded r recorded) (i : ℕ) :
    Recorded (r.tick i) recorded := by
  intro p call result hcall hok
  rcases List.getElem?_modify_eq_some.1 hcall with ⟨rfl, old, hold, rfl⟩ | ⟨_, hcall⟩
  · exact h _ old result hold hok
  · exact h p call result hcall hok

theorem Recorded.imp {recorded recorded' : Args → Result → Prop} (h : Recorded r recorded)
    (himp : ∀ args result, recorded args result → recorded' args result) : Recorded r recorded' :=
  fun p call result hcall hok => himp _ _ (h p call result hcall hok)

/-- What is known of the arguments of all calls. -/
def Asked (r : State Args Result Err) (good : Args → Prop) : Prop :=
  ∀ call ∈ r.calls, good call.args

theorem Asked.execute {args : Args} (h : Asked r good) (hargs : good args) : Asked (r.execute args) good := by
  intro call hcall
  unfold State.execute at hcall
  split at hcall
  · exact h call hcall
  · rcases List.mem_append.1 hcall with hold | hnew
    · exact h call hold
    · obtain rfl := List.mem_singleton.1 hnew
      exact hargs

theorem Asked.of_modify (h : Asked r good) {i : ℕ} {f : MethodCall Args Result Err → MethodCall Args Result Err}
    {r' : State Args Result Err} (hcalls : r'.calls = r.calls.modify i f) (hargs : ∀ call, (f call).args = call.args) :
    Asked r' good := by
  intro call hcall
  rw [hcalls] at hcall
  obtain ⟨n, hn⟩ := List.mem_iff_getElem?.1 hcall
  rcases List.getElem?_modify_eq_some.1 hn with ⟨_, old, hold, rfl⟩ | ⟨_, hold⟩
  · rw [hargs]
    exact h old (List.mem_of_getElem? hold)
  · exact h call (List.mem_of_getElem? hold)

end Klarity.Request
