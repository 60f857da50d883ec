import Klarity.Library.Lists
import Klarity.Renderer.Stores.Lib.Request
import Mathlib.Data.List.Induction
import Mathlib.Tactic.Common

set_option autoImplicit false

/-! # The fields of a Request reflect its last call

`published` says what a sequence of outcomes should leave in `result` and `error`. The fields follow
it as long as nothing but the open call is answered and no success meets an old failure (`InTime`):
`.then` leaves `error` and `isError` as they are, and the handlers of a call do not ask whether the
request was reset in the meantime. -/

namespace Klarity.Request

variable {Args Result Err : Type}

/-! ## What is promised -/

/-- The outcomes of the answered calls since the last reset, in the order of the calls. -/
def State.outcomes (s : State Args Result Err) : List (Except Err Result) :=
  s.calls.filterMap fun c => if c.epoch = s.resets then c.outcome else none

/-- A success is the new result and ends an error, a failure leaves the result alone. -/
def publish (p : Option Result × Option Err) : Except Err Result → Option Result × Option Err
  | .ok result => (some result, none)
  | .error error => (p.1, some error)

/-- The result and the error after a sequence of outcomes. -/
def published (outcomes : List (Except Err Result)) : Option Result × Option Err :=
  outcomes.foldl publish (none, none)

/-- When no call since the last reset is pending, the fields reflect the calls since then. A result is
    the response to a call since the last reset, and the flags stay up while such a call is pending. -/
structure Coherent (s : State Args Result Err) : Prop where
  reflects : (∀ c ∈ s.calls, c.epoch = s.resets → c.outcome ≠ none) →
    s.result = (published s.outcomes).1 ∧ s.error = (published s.outcomes).2
      ∧ s.isError = s.error.isSome
  result_own : ∀ r, s.result = some r →
    ∃ c ∈ s.calls, c.epoch = s.resets ∧ c.outcome = some (.ok r)
  flags_kept : ∀ c ∈ s.calls, c.epoch = s.resets → c.outcome = none →
    s.isWaitingForResponse = true ∧ (c.ticked = true → s.isExecuting = true)

/-- No reset comes between a call and its response, and no success comes after a failure without a
    reset between the two. -/
def InTime (s : State Args Result Err) : Event Args Result Err → Prop
  | .respond i outcome =>
      (∀ c ∈ s.calls[i]?, c.epoch = s.resets) ∧ (s.isError = true → outcome.isOk = false)
  | _ => True

instance decidableInTime (s : State Args Result Err) (e : Event Args Result Err) :
    Decidable (InTime s e) :=
  match e with
  | .execute _ | .reset | .tick _ => isTrue trivial
  | .respond _ _ => inferInstanceAs (Decidable (_ ∧ _))

/-! ## Outcomes -/

theorem published_concat (os : List (Except Err Result)) (o : Except Err Result) :
    published (os ++ [o]) = publish (published os) o := by
  simp only [published, List.foldl_append, List.foldl_cons, List.foldl_nil]

/-- The published result is one of the outcomes. -/
theorem ok_mem_of_published {os : List (Except Err Result)} {r : Result}
    (h : (published os).1 = some r) : .ok r ∈ os := by
  induction os using List.reverseRecOn with
  | nil => exact absurd h (by simp [published])
  | append_singleton os o ih =>
      rw [published_concat] at h
      cases o with
      | ok result =>
          obtain rfl := Option.some.inj h
          simp
      | error error => exact List.mem_append_left _ (ih h)

/-! ## A call -/

theorem execute_of_waiting {s : State Args Result Err} (h : s.isWaitingForResponse = true) (callArgs : Args) :
    s.execute callArgs = s := by
  unfold State.execute
  rw [if_pos h]

theorem execute_isWaitingForResponse (s : State Args Result Err) (callArgs : Args) :
    (s.execute callArgs).isWaitingForResponse = true := by
  by_cases h : s.isWaitingForResponse = true
  · rw [execute_of_waiting h]
    exact h
  · rw [State.execute, if_neg h]

theorem execute_result (s : State Args Result Err) (callArgs : Args) :
    (s.execute callArgs).result = s.result := by
  by_cases h : s.isWaitingForResponse = true
  · rw [execute_of_waiting h]
  · rw [State.execute, if_neg h]

/-! ## The invariant -/

/-- The fields reflect the answered calls since the last reset at all times, and only the last call can
    be open. -/
structure Inv (s : State Args Result Err) : Prop where
  result_eq : s.result = (published s.outcomes).1
  error_eq : s.error = (published s.outcomes).2
  isError_eq : s.isError = s.error.isSome
  epoch_le : ∀ c ∈ s.calls, c.epoch ≤ s.resets
  open_last : ∀ (i : ℕ) (c : MethodCall Args Result Err), s.calls[i]? = some c →
    c.epoch = s.resets → c.outcome = none →
      i + 1 = s.calls.length ∧ s.isWaitingForResponse = true
        ∧ (c.ticked = true → s.isExecuting = true)

theorem inv_init : Inv ({} : State Args Result Err) := by
  refine ⟨rfl, rfl, rfl, ?_, ?_⟩ <;> simp

theorem inv_execute {s : State Args Result Err} (h : Inv s) (callArgs : Args) :
    Inv (s.execute callArgs) := by
  unfold State.execute
  split
  · exact h
  · next hw =>
      have hos : (s.calls ++ [(⟨callArgs, false, none, s.resets⟩ : MethodCall Args Result Err)]).filterMap
          (fun c => if c.epoch = s.resets then c.outcome else none) = s.outcomes := by
        simp [State.outcomes]
      refine ⟨?_, ?_, h.isError_eq, ?_, ?_⟩
      · simpa only [State.outcomes, hos] using h.result_eq
      · simpa only [State.outcomes, hos] using h.error_eq
      · intro c hc
        rcases List.mem_append.1 hc with hc | hc
        · exact h.epoch_le c hc
        · obtain rfl := List.mem_singleton.1 hc
          exact Nat.le_refl _
      · intro i c hc he ho
        rcases List.getElem?_concat_eq_some.1 hc with hc | ⟨rfl, rfl⟩
        · -- an open call would have kept `isWaitingForResponse` up
          exact absurd (h.open_last i c hc he ho).2.1 hw
        · refine ⟨by simp, rfl, ?_⟩
          simp

theorem inv_tick {s : State Args Result Err} (h : Inv s) (i : ℕ) : Inv (s.tick i) := by
  have hos : (s.tick i).outcomes = s.outcomes := by
    refine List.filterMap_modify_of_eq ?_ s.calls i
    exact fun _ => rfl
  refine ⟨hos ▸ h.result_eq, hos ▸ h.error_eq, h.isError_eq, ?_, ?_⟩
  · intro c hc
    obtain ⟨n, hn⟩ := List.mem_iff_getElem?.1 hc
    rcases List.getElem?_modify_eq_some.1 hn with ⟨-, a, ha, rfl⟩ | ⟨-, ha⟩
    · exact h.epoch_le a (List.mem_of_getElem? ha)
    · exact h.epoch_le c (List.mem_of_getElem? ha)
  · intro n c hc he ho
    rcases List.getElem?_modify_eq_some.1 hc with ⟨-, a, ha, rfl⟩ | ⟨-, ha⟩
    · obtain ⟨hlast, hw, -⟩ := h.open_last n a ha he ho
      exact ⟨hlast.trans (List.length_modify _ _ _).symm, hw, fun _ => rfl⟩
    · obtain ⟨hlast, hw, -⟩ := h.open_last n c ha he ho
      exact ⟨hlast.trans (List.length_modify _ _ _).symm, hw, fun _ => rfl⟩

theorem inv_reset {s : State Args Result Err} (h : Inv s) : Inv s.reset := by
  have hold : ∀ c ∈ s.calls, c.epoch ≠ s.resets + 1 := fun c hc => by
    have := h.epoch_le c hc
    omega
  have hos : s.reset.outcomes = [] := by
    refine List.filterMap_eq_nil_iff.2 fun c hc => ?_
    exact if_neg (hold c hc)
  refine ⟨by rw [hos]; rfl, by rw [hos]; rfl, rfl, ?_, ?_⟩
  · exact fun c hc => Nat.le_succ_of_le (h.epoch_le c hc)
  · exact fun i c hc he => absurd he (hold c (List.mem_of_getElem? hc))

/-- The response to the open call, which is the last one. -/
theorem inv_respond {s : State Args Result Err} (h : Inv s) {i : ℕ} {c : MethodCall Args Result Err}
    {outcome : Except Err Result} (hc : s.calls[i]? = some c) (he : c.epoch = s.resets)
    (ho : c.outcome = none) (hok : s.isError = true → outcome.isOk = false) :
    Inv (s.respond i outcome) := by
  obtain ⟨hlast, -, -⟩ := h.open_last i c hc he ho
  obtain ⟨init, hcalls, hmod⟩ :=
    List.modify_last (fun c => { c with outcome := some outcome }) hc hlast
  have hos : (s.respond i outcome).outcomes = s.outcomes ++ [outcome] := by
    simp only [State.outcomes, State.respond, hmod]
    simp [hcalls, he, ho]
  have hpub := published_concat s.outcomes outcome
  refine ⟨?_, ?_, ?_, ?_, ?_⟩
  · rw [hos, hpub]
    cases outcome with
    | ok result => rfl
    | error error => exact h.result_eq
  · rw [hos, hpub]
    cases outcome with
    | ok result =>
        -- a success is published with the error of before, which is none
        have hnone : s.isError = false := by
          by_contra hne
          exact absurd (hok (by simpa using hne)) (by simp [Except.isOk, Except.toBool])
        rw [h.isError_eq] at hnone
        exact Option.isSome_eq_false_iff.1 hnone |> Option.isNone_iff_eq_none.1
    | error error => rfl
  · cases outcome with
    | ok result => exact h.isError_eq
    | error error => rfl
  · intro a ha
    obtain ⟨n, hn⟩ := List.mem_iff_getElem?.1 ha
    rcases List.getElem?_modify_eq_some.1 hn with ⟨-, b, hb, rfl⟩ | ⟨-, hb⟩
    · exact h.epoch_le b (List.mem_of_getElem? hb)
    · exact h.epoch_le a (List.mem_of_getElem? hb)
  · intro n a ha hea hoa
    rcases List.getElem?_modify_eq_some.1 ha with ⟨-, b, -, rfl⟩ | ⟨hne, hb⟩
    · exact absurd hoa (by simp)
    · -- another open call would be the last one as well
      have := (h.open_last n a hb hea hoa).1
      omega

/-! ## Runs -/

/-- What a step can do. -/
theorem step_cases {s s' : State Args Result Err} {e : Event Args Result Err}
    (h : step s e = some s') :
    (∃ callArgs, e = .execute callArgs ∧ s' = s.execute callArgs) ∨ (e = .reset ∧ s' = s.reset)
      ∨ (∃ i c, e = .tick i ∧ s.calls[i]? = some c ∧ c.ticked = false ∧ s' = s.tick i)
      ∨ ∃ i c outcome, e = .respond i outcome ∧ s.calls[i]? = some c ∧ c.ticked = true
          ∧ c.outcome = none ∧ s' = s.respond i outcome := by
  cases e with
  | execute callArgs => exact .inl ⟨callArgs, rfl, (Option.some.inj h).symm⟩
  | reset => exact .inr (.inl ⟨rfl, (Option.some.inj h).symm⟩)
  | tick i =>
      simp only [step] at h
      split at h
      · next c hc =>
          split at h
          · exact absurd h (by simp)
          · next ht => exact .inr (.inr (.inl ⟨i, c, rfl, hc, by simpa using ht, (Option.some.inj h).symm⟩))
      · exact absurd h (by simp)
  | respond i outcome =>
      simp only [step] at h
      split at h
      · next c hc =>
          split at h
          · next hg =>
              exact .inr (.inr (.inr ⟨i, c, outcome, rfl, hc, hg.1, hg.2, (Option.some.inj h).symm⟩))
          · exact absurd h (by simp)
      · exact absurd h (by simp)

theorem tick_eq {s s' : State Args Result Err} {i : ℕ} (h : step s (.tick i) = some s') : s' = s.tick i := by
  rcases step_cases h with ⟨_, he, -⟩ | ⟨he, -⟩ | ⟨_, _, he, -, -, hs⟩ | ⟨_, _, _, he, -⟩
  · cases he
  · cases he
  · cases he
    exact hs
  · cases he

theorem respond_eq {s s' : State Args Result Err} {i : ℕ} {outcome : Except Err Result}
    (h : step s (.respond i outcome) = some s') : s' = s.respond i outcome := by
  rcases step_cases h with ⟨_, he, -⟩ | ⟨he, -⟩ | ⟨_, _, he, -⟩ | ⟨_, _, _, he, -, -, -, hs⟩
  · cases he
  · cases he
  · cases he
  · cases he
    exact hs

theorem inv_step {s s' : State Args Result Err} {e : Event Args Result Err} (h : Inv s)
    (hok : InTime s e) (hstep : step s e = some s') : Inv s' := by
  rcases step_cases hstep with ⟨callArgs, rfl, rfl⟩ | ⟨rfl, rfl⟩ | ⟨i, c, rfl, -, -, rfl⟩
    | ⟨i, c, outcome, rfl, hc, -, ho, rfl⟩
  · exact inv_execute h callArgs
  · exact inv_reset h
  · exact inv_tick h i
  · exact inv_respond h hc (hok.1 c hc) ho hok.2

theorem inv_reaches {s : State Args Result Err} (h : (machine Args Result Err).Reaches InTime s) :
    Inv s :=
  h.invariant (P := Inv) inv_init fun _ _ _ _ hok hi hstep => inv_step hi hok hstep

theorem Inv.coherent {s : State Args Result Err} (h : Inv s) : Coherent s := by
  refine ⟨fun _ => ⟨h.result_eq, h.error_eq, h.isError_eq⟩, ?_, ?_⟩
  · intro r hr
    obtain ⟨c, hc, hco⟩ := List.mem_filterMap.1 (ok_mem_of_published (h.result_eq.symm.trans hr))
    split at hco
    · next he => exact ⟨c, hc, he, hco⟩
    · exact absurd hco (by simp)
  · intro c hc he ho
    obtain ⟨i, hi⟩ := List.mem_iff_getElem?.1 hc
    exact (h.open_last i c hi he ho).2

/-! ## Calls and promises

These hold in every run: callers of a request rely on them, whatever becomes of its fields. -/

/-- The calls of `s` are calls of `s'`, with the same arguments, and with the same outcomes where they
    were answered. -/
def Extends (s s' : State Args Result Err) : Prop :=
  ∀ (i : ℕ) (c : MethodCall Args Result Err), s.calls[i]? = some c →
    ∃ c', s'.calls[i]? = some c' ∧ c'.args = c.args ∧ ∀ o, c.outcome = some o → c'.outcome = some o

/-- No call is made between `s` and `s'`. -/
structure SameCalls (s s' : State Args Result Err) : Prop where
  promise_eq : s'.promise = s.promise
  length_eq : s'.calls.length = s.calls.length
  extends_calls : Extends s s'

/-- The promise is the one of the last call, and that call is open while the request waits. -/
structure Linked (s : State Args Result Err) : Prop where
  promise_last : ∀ p, s.promise = some p → p + 1 = s.calls.length
  waiting_open : s.isWaitingForResponse = true →
    ∃ p c, s.promise = some p ∧ s.calls[p]? = some c ∧ c.outcome = none

theorem Extends.refl (s : State Args Result Err) : Extends s s :=
  fun _ c hc => ⟨c, hc, rfl, fun _ ho => ho⟩

theorem extends_execute (s : State Args Result Err) (callArgs : Args) :
    Extends s (s.execute callArgs) := by
  unfold State.execute
  split
  · exact Extends.refl s
  · exact fun i c hc => ⟨c, List.getElem?_concat_eq_some.2 (.inl hc), rfl, fun _ ho => ho⟩

theorem sameCalls_reset (s : State Args Result Err) : SameCalls s s.reset :=
  ⟨rfl, rfl, fun _ c hc => ⟨c, hc, rfl, fun _ ho => ho⟩⟩

theorem sameCalls_tick (s : State Args Result Err) (i : ℕ) : SameCalls s (s.tick i) := by
  refine ⟨rfl, List.length_modify _ _ _, fun n c hc => ?_⟩
  refine ⟨_, List.getElem?_modify_of_getElem? _ i hc, ?_⟩
  split <;> exact ⟨rfl, fun _ ho => ho⟩

theorem sameCalls_respond {s : State Args Result Err} {i : ℕ} {c : MethodCall Args Result Err}
    (hc : s.calls[i]? = some c) (ho : c.outcome = none) (outcome : Except Err Result) :
    SameCalls s (s.respond i outcome) := by
  refine ⟨rfl, List.length_modify _ _ _, fun n a ha => ?_⟩
  refine ⟨_, List.getElem?_modify_of_getElem? _ i ha, ?_⟩
  split
  · next h =>
      subst h
      obtain rfl := Option.some.inj (hc.symm.trans ha)
      exact ⟨rfl, fun _ ha' => absurd (ho.symm.trans ha') (by simp)⟩
  · exact ⟨rfl, fun _ ha' => ha'⟩

/-- A timer, a response or a reset makes no call. -/
theorem sameCalls_step {s s' : State Args Result Err} {e : Event Args Result Err}
    (he : ∀ callArgs, e ≠ .execute callArgs) (hstep : step s e = some s') : SameCalls s s' := by
  rcases step_cases hstep with ⟨callArgs, rfl, -⟩ | ⟨-, rfl⟩ | ⟨i, c, -, -, -, rfl⟩
    | ⟨i, c, outcome, -, hc, -, ho, rfl⟩
  · exact absurd rfl (he callArgs)
  · exact sameCalls_reset s
  · exact sameCalls_tick s i
  · exact sameCalls_respond hc ho outcome

/-- A call that is open later was open before. -/
theorem SameCalls.open_before {s s' : State Args Result Err} (h : SameCalls s s') {i : ℕ}
    {c' : MethodCall Args Result Err} (hc' : s'.calls[i]? = some c') (ho : c'.outcome = none) :
    ∃ c, s.calls[i]? = some c ∧ c'.args = c.args ∧ c.outcome = none := by
  have hlt : i < s.calls.length := by
    rw [← h.length_eq]
    exact (List.getElem?_eq_some_iff.1 hc').1
  obtain ⟨c'', hc'', hargs, hout⟩ := h.extends_calls i _ (List.getElem?_eq_getElem hlt)
  obtain rfl := Option.some.inj (hc'.symm.trans hc'')
  refine ⟨_, List.getElem?_eq_getElem hlt, hargs, ?_⟩
  cases ho' : (s.calls[i]).outcome with
  | none => rfl
  | some o => exact absurd (ho.symm.trans (hout o ho')) (by simp)

theorem linked_init : Linked ({} : State Args Result Err) := by
  refine ⟨?_, ?_⟩ <;> simp

theorem linked_execute {s : State Args Result Err} (h : Linked s) (callArgs : Args) :
    Linked (s.execute callArgs) := by
  unfold State.execute
  split
  · exact h
  · refine ⟨?_, fun _ => ⟨s.calls.length, _, rfl, List.getElem?_concat_length, rfl⟩⟩
    intro p hp
    obtain rfl := Option.some.inj hp
    simp

theorem linked_step {s s' : State Args Result Err} {e : Event Args Result Err} (h : Linked s)
    (hstep : step s e = some s') : Linked s' := by
  rcases step_cases hstep with ⟨callArgs, -, rfl⟩ | ⟨-, rfl⟩ | ⟨i, c, -, -, -, rfl⟩
    | ⟨i, c, outcome, -, hc, -, ho, rfl⟩
  · exact linked_execute h callArgs
  · exact ⟨h.promise_last, fun hw => absurd hw (by simp [State.reset, Fields.reset])⟩
  · have hsame := sameCalls_tick s i
    refine ⟨fun p hp => (h.promise_last p hp).trans hsame.length_eq.symm, fun hw => ?_⟩
    obtain ⟨p, c, hp, hc, ho⟩ := h.waiting_open hw
    refine ⟨p, _, hp, List.getElem?_modify_of_getElem? _ i hc, ?_⟩
    split <;> exact ho
  · refine ⟨fun p hp => (h.promise_last p hp).trans (List.length_modify _ _ _).symm, fun hw => ?_⟩
    cases outcome <;> exact absurd hw (by simp [State.respond, Fields.settle])

/-! ## The main results -/

/-- **The fields reflect the calls.** In a run without late responses, and without a success after a
    failure, a request is coherent in every state. -/
theorem coherent_of_inTime {s : State Args Result Err}
    (h : (machine Args Result Err).Reaches InTime s) : Coherent s :=
  (inv_reaches h).coherent

/-- A failed call, a reset, and a call that succeeds. -/
def failResetSucceed : List (Event ℕ ℕ ℕ) :=
  [.execute 1, .tick 0, .respond 0 (.error 404), .reset, .execute 1, .tick 1, .respond 1 (.ok 5)]

/-- After `failResetSucceed` the request is coherent, with the result of the second call. -/
theorem coherent_of_failResetSucceed :
    ∃ s : State ℕ ℕ ℕ, s.result = some 5 ∧ s.error = none ∧ s.isError = false ∧ Coherent s :=
  ⟨_, rfl, rfl, rfl,
    coherent_of_inTime (.exec failResetSucceed .init (by decide) rfl)⟩

/-- A failed call and a call that succeeds. -/
def failSucceed : List (Event ℕ ℕ ℕ) :=
  [.execute 1, .tick 0, .respond 0 (.error 404), .execute 1, .tick 1, .respond 1 (.ok 5)]

/-- A reset under a pending call, the next call, and the response to the first one. -/
def lateResponse : List (Event ℕ ℕ ℕ) :=
  [.execute 1, .tick 0, .reset, .execute 2, .tick 1, .respond 0 (.ok 10)]

/-- After `failSucceed` the error of the first call is still published next to the result of the
    second one; after `lateResponse` the old result is published, and the request does not wait for
    the response to the second call any more. -/
theorem error_survives_success_and_late_response_published :
    (∃ s : State ℕ ℕ ℕ, (machine _ _ _).Reaches Machine.anyStep s
      ∧ s.outcomes = [.error 404, .ok 5] ∧ s.error = some 404 ∧ ¬ Coherent s)
    ∧ ∃ s : State ℕ ℕ ℕ, (machine _ _ _).Reaches Machine.anyStep s
      ∧ s.result = some 10 ∧ s.isWaitingForResponse = false
      ∧ s.calls.map MethodCall.outcome = [some (.ok 10), none] ∧ ¬ Coherent s := by
  refine ⟨⟨_, Machine.reaches_of_exec failSucceed rfl, rfl, rfl, fun h => ?_⟩,
    ⟨_, Machine.reaches_of_exec lateResponse rfl, rfl, rfl, rfl, fun h => ?_⟩⟩
  · exact absurd (h.reflects (by decide)).2.1 (by decide)
  · exact absurd (h.flags_kept _ (List.mem_of_getElem? (i := 1) rfl) rfl rfl).1 (by decide)

end Klarity.Request
