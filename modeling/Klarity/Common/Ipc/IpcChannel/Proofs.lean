import Klarity.Common.Ipc.IpcChannel
import Klarity.Library.Lists
import Mathlib.Tactic.Common

set_option autoImplicit false

/-! # A call gets the next response

The once-listeners of all open calls sit on the one response channel, so the next response settles
every call that is open when it arrives (`respond_eq`). The promise of a call therefore settles with
the first response delivered after the call, whichever call it answers (`FirstResponse`). It is the
answer to the call's own message when calls do not overlap (`Sequential`). -/

namespace Klarity.IpcChannel

variable {V : Type} [JsValue V]

/-! ## What is promised -/

/-- The promise of every call is settled with the first response delivered after the call, and with
    nothing else; and a response is the outcome of a handler run on the message of some call. -/
structure FirstResponse (s : State V) : Prop where
  settled_eq : ∀ (n : ℕ) (c : Call V), s.calls[n]? = some c →
    c.settled = ((s.delivered.drop c.since).take 1).map Response.outcome
  produced : ∀ d ∈ s.delivered, ∃ r ∈ s.runs, ∃ c, s.calls[d.call]? = some c ∧ r.call = d.call
    ∧ r.message = c.message ∧ r.outcome = some d.outcome

/-- Every promise settles at most once, and with an outcome produced for the call's own message. -/
def OwnResponse (s : State V) : Prop :=
  ∀ (n : ℕ) (c : Call V), s.calls[n]? = some c → c.settled.length ≤ 1 ∧ ∀ o ∈ c.settled,
    ∃ r ∈ s.runs, r.call = n ∧ r.message = c.message ∧ r.outcome = some o

/-- No call is in flight: none waits for a response, and no message, running handler or response of an
    earlier call is left. -/
def State.idle (s : State V) : Prop :=
  s.receiver.listeners .response = [] ∧ s.messages = [] ∧ (∀ r ∈ s.runs, r.outcome ≠ none)
    ∧ s.responses = []

/-- Calls are made only when no other call is in flight. -/
def Sequential (s : State V) : Event V → Prop
  | .send _ => s.idle
  | .request _ => s.idle
  | _ => True

/-! ## The emissions -/

omit [JsValue V] in
/-- A message starts every handler of its channel. -/
theorem receive_eq (s : State V) (m : Message V) :
    s.receive m = { s with
      runs := s.runs ++ List.replicate (s.handlers.listeners m.channel).length
        ⟨m.message, none, m.call⟩ } := by
  unfold State.receive
  generalize s.handlers.listeners m.channel = ls
  induction ls generalizing s with
  | nil => simp
  | cons l ls ih =>
      rw [EventEmitter.emit_cons, ih]
      simp [List.replicate_succ]

section Respond

variable (r : Response V) (ls : List ℕ) (s : State V)

/-- The listeners of an emission settle their calls, once for each listener. -/
theorem emit_calls (n : ℕ) :
    (EventEmitter.emit (callListener r) ls s).calls[n]?
      = s.calls[n]?.map fun c =>
          { c with settled := c.settled ++ List.replicate (ls.count n) r.outcome } := by
  induction ls generalizing s with
  | nil => simp
  | cons l ls ih =>
      rw [EventEmitter.emit_cons, ih]
      rcases eq_or_ne l n with rfl | hne
      · simp only [callListener, State.settle, List.getElem?_modify_eq, List.count_cons_self]
        cases s.calls[l]? <;> simp [List.replicate_succ]
      · simp only [callListener, State.settle, List.getElem?_modify_ne _ _ hne]
        rw [List.count_cons_of_ne hne]

/-- The listeners of an emission remove themselves. -/
theorem emit_listeners :
    (EventEmitter.emit (callListener r) ls s).receiver.listeners .response
      = ls.foldl List.erase (s.receiver.listeners .response) := by
  induction ls generalizing s with
  | nil => rfl
  | cons l ls ih =>
      rw [EventEmitter.emit_cons, ih]
      simp [callListener, State.settle, EventEmitter.listeners_removeListener]

/-- The listeners of an emission touch nothing else. -/
theorem emit_frame :
    (EventEmitter.emit (callListener r) ls s).messages = s.messages
    ∧ (EventEmitter.emit (callListener r) ls s).runs = s.runs
    ∧ (EventEmitter.emit (callListener r) ls s).responses = s.responses
    ∧ (EventEmitter.emit (callListener r) ls s).delivered = s.delivered := by
  refine EventEmitter.emit_preserves (P := fun t : State V => t.messages = s.messages
    ∧ t.runs = s.runs ∧ t.responses = s.responses ∧ t.delivered = s.delivered) ?_
    ⟨rfl, rfl, rfl, rfl⟩
  exact fun _ _ _ ht => ht

end Respond

theorem foldl_erase_self (ls : List ℕ) : ls.foldl List.erase ls = [] := by
  induction ls with
  | nil => rfl
  | cons l ls ih => simpa using ih

/-! ## The invariant -/

/-- `call` was made and its promise is not settled. -/
def State.open (s : State V) (call : ℕ) : Bool :=
  match s.calls[call]? with
  | some c => c.settled.isEmpty
  | none => false

/-- The invariant of the channel: the calls that wait are those with a listener, and everything in
    flight belongs to some call. -/
structure Inv (s : State V) : Prop extends FirstResponse s where
  listeners_exact : ∀ n, (s.receiver.listeners .response).count n = (s.open n).toNat
  since_le : ∀ (n : ℕ) (c : Call V), s.calls[n]? = some c → c.since ≤ s.delivered.length
  messages_from : ∀ m ∈ s.messages, ∃ c, s.calls[m.call]? = some c ∧ m.message = c.message
  runs_from : ∀ r ∈ s.runs, ∃ c, s.calls[r.call]? = some c ∧ r.message = c.message
  responses_from : ∀ d ∈ s.responses, ∃ r ∈ s.runs, r.call = d.call ∧ r.outcome = some d.outcome

theorem inv_init : Inv ({} : State V) := by
  refine ⟨⟨?_, ?_⟩, ?_, ?_, ?_, ?_, ?_⟩ <;> simp [State.open]

theorem inv_call {s : State V} (h : Inv s) (channel : Channel) (message : V) :
    Inv (s.call channel message) := by
  have hget : ∀ (n : ℕ) (c : Call V), (s.call channel message).calls[n]? = some c ↔
      s.calls[n]? = some c ∨ (n = s.calls.length ∧ c = ⟨message, s.delivered.length, []⟩) :=
    fun n c => List.getElem?_concat_eq_some
  refine ⟨⟨?_, ?_⟩, ?_, ?_, ?_, ?_, h.responses_from⟩
  · intro n c hc
    rcases (hget n c).1 hc with hc | ⟨-, rfl⟩
    · exact h.settled_eq n c hc
    · simp [State.call]
  · intro d hd
    obtain ⟨r, hr, c, hc, hrest⟩ := h.produced d hd
    exact ⟨r, hr, c, (hget _ _).2 (.inl hc), hrest⟩
  · intro n
    have hlisten : (s.call channel message).receiver.listeners .response
        = s.receiver.listeners .response ++ [s.calls.length] := by
      simp [State.call, EventEmitter.listeners_on]
    rw [hlisten, List.count_append, h.listeners_exact n]
    rcases Nat.lt_trichotomy n s.calls.length with hlt | rfl | hgt
    · have hne : s.calls.length ≠ n := by omega
      simp [State.open, State.call, List.getElem?_append_left hlt, hne]
    · simp [State.open, State.call]
    · have hne : s.calls.length ≠ n := by omega
      have hnone : s.calls[n]? = none := List.getElem?_eq_none (by omega)
      have hnone' : (s.calls ++ [(⟨message, s.delivered.length, []⟩ : Call V)])[n]? = none :=
        List.getElem?_eq_none (by simp; omega)
      simp [State.open, State.call, hnone, hnone', hne]
  · intro n c hc
    rcases (hget n c).1 hc with hc | ⟨-, rfl⟩
    · exact h.since_le n c hc
    · exact Nat.le_refl _
  · intro m hm
    rcases List.mem_append.1 hm with hm | hm
    · obtain ⟨c, hc, hmessage⟩ := h.messages_from m hm
      exact ⟨c, (hget _ _).2 (.inl hc), hmessage⟩
    · obtain rfl := List.mem_singleton.1 hm
      exact ⟨_, (hget _ _).2 (.inr ⟨rfl, rfl⟩), rfl⟩
  · intro r hr
    obtain ⟨c, hc, hmessage⟩ := h.runs_from r hr
    exact ⟨c, (hget _ _).2 (.inl hc), hmessage⟩

theorem inv_receive {s : State V} (h : Inv s) {k : ℕ} {m : Message V} (hk : s.messages[k]? = some m) :
    Inv (({ s with messages := s.messages.eraseIdx k } : State V).receive m) := by
  rw [receive_eq]
  refine ⟨⟨h.settled_eq, ?_⟩, h.listeners_exact, h.since_le, ?_, ?_, ?_⟩
  · intro d hd
    obtain ⟨r, hr, hrest⟩ := h.produced d hd
    exact ⟨r, List.mem_append_left _ hr, hrest⟩
  · exact fun m' hm' => h.messages_from m' (List.mem_of_mem_eraseIdx hm')
  · intro r hr
    rcases List.mem_append.1 hr with hr | hr
    · exact h.runs_from r hr
    · obtain ⟨-, rfl⟩ := List.mem_replicate.1 hr
      exact h.messages_from m (List.mem_of_getElem? hk)
  · intro d hd
    obtain ⟨r, hr, hrest⟩ := h.responses_from d hd
    exact ⟨r, List.mem_append_left _ hr, hrest⟩

theorem inv_finish {s : State V} (h : Inv s) {k : ℕ} {run : HandlerRun V}
    (hk : s.runs[k]? = some run) (hrun : run.outcome = none) (o : Outcome V) :
    Inv (s.finish k run o) := by
  have hkeep : ∀ r ∈ s.runs, r.outcome ≠ none → r ∈ s.runs.set k { run with outcome := some o } :=
    fun r hr hne => List.mem_set_of_ne hr hk (fun he => hne (he ▸ hrun))
  refine ⟨⟨h.settled_eq, ?_⟩, h.listeners_exact, h.since_le, h.messages_from, ?_, ?_⟩
  · intro d hd
    obtain ⟨r, hr, c, hc, hcall, hmessage, hout⟩ := h.produced d hd
    exact ⟨r, hkeep r hr (by simp [hout]), c, hc, hcall, hmessage, hout⟩
  · intro r hr
    rcases List.mem_or_eq_of_mem_set hr with hr | rfl
    · exact h.runs_from r hr
    · exact h.runs_from run (List.mem_of_getElem? hk)
  · intro d hd
    rcases List.mem_append.1 hd with hd | hd
    · obtain ⟨r, hr, hcall, hout⟩ := h.responses_from d hd
      exact ⟨r, hkeep r hr (by simp [hout]), hcall, hout⟩
    · obtain rfl := List.mem_singleton.1 hd
      exact ⟨_, List.mem_set_self hk, rfl, by simp [Response.outcome]⟩

/-- The call a lookup finds after a response, and the call it was before. -/
theorem respond_calls {s : State V} (h : Inv s) (k : ℕ) (r : Response V) {n : ℕ} {c : Call V}
    (hc : (({ s with responses := s.responses.eraseIdx k } : State V).respond r).calls[n]? = some c) :
    ∃ d, s.calls[n]? = some d ∧ c.since = d.since ∧ c.message = d.message
      ∧ c.settled = if d.settled = [] then [r.outcome] else d.settled := by
  simp only [State.respond] at hc
  rw [emit_calls] at hc
  cases hd : s.calls[n]? with
  | none => simp [hd] at hc
  | some d =>
      have hcount := h.listeners_exact n
      simp only [hd, Option.map_some, Option.some.injEq] at hc
      refine ⟨d, rfl, ?_⟩
      subst hc
      simp only [true_and, hcount, State.open, hd]
      by_cases hopen : d.settled = [] <;> simp [hopen]

theorem inv_respond {s : State V} (h : Inv s) {k : ℕ} {r : Response V}
    (hk : s.responses[k]? = some r) :
    Inv (({ s with responses := s.responses.eraseIdx k } : State V).respond r) := by
  obtain ⟨hmessages, hruns, hresponses, hdelivered⟩ := emit_frame r (s.receiver.listeners .response)
    { s with responses := s.responses.eraseIdx k, delivered := s.delivered ++ [r] }
  have hcall : ∀ (n : ℕ) (d : Call V), s.calls[n]? = some d →
      ∃ c, (({ s with responses := s.responses.eraseIdx k } : State V).respond r).calls[n]? = some c
        ∧ c.message = d.message := by
    intro n d hd
    simp [State.respond, emit_calls, hd]
  refine ⟨⟨?_, ?_⟩, ?_, ?_, ?_, ?_, ?_⟩
  · intro n c hc
    obtain ⟨d, hd, hsince, -, hsettled⟩ := respond_calls h k r hc
    have hold := h.settled_eq n d hd
    have hle := h.since_le n d hd
    simp only [State.respond, hdelivered, hsettled, hsince]
    rw [List.drop_append_of_le_length hle]
    split
    · next hopen =>
        -- the call was open, so no response had been delivered since
        have hnil : s.delivered.drop d.since = [] := by
          rw [hopen] at hold
          cases hdrop : s.delivered.drop d.since with
          | nil => rfl
          | cons x xs => simp [hdrop] at hold
        simp [hnil]
    · next hclosed =>
        cases hdrop : s.delivered.drop d.since with
        | nil => exact absurd (by simpa [hdrop] using hold) hclosed
        | cons x xs => simpa [hdrop] using hold
  · intro d hd
    have hnew : ∀ d ∈ s.delivered ++ [r], ∃ r' ∈ s.runs, r'.call = d.call
        ∧ r'.outcome = some d.outcome := by
      intro d hd
      rcases List.mem_append.1 hd with hd | hd
      · obtain ⟨r', hr', -, -, hcall', -, hout⟩ := h.produced d hd
        exact ⟨r', hr', hcall', hout⟩
      · obtain rfl := List.mem_singleton.1 hd
        exact h.responses_from _ (List.mem_of_getElem? hk)
    simp only [State.respond, hdelivered] at hd
    obtain ⟨r', hr', hcall', hout⟩ := hnew d hd
    obtain ⟨c, hc, hmessage⟩ := h.runs_from r' hr'
    obtain ⟨c', hc', hm'⟩ := hcall _ _ hc
    rw [hcall'] at hc'
    refine ⟨r', ?_, c', hc', hcall', hmessage.trans hm'.symm, hout⟩
    simp only [State.respond, hruns]
    exact hr'
  · intro n
    have hclosed : (({ s with responses := s.responses.eraseIdx k } : State V).respond r).open n
        = false := by
      simp only [State.open]
      split
      · next c hc =>
          obtain ⟨d, -, -, -, hsettled⟩ := respond_calls h k r hc
          rw [hsettled]
          split
          · rfl
          · next hne => simpa using hne
      · rfl
    rw [hclosed]
    simp only [State.respond, emit_listeners, foldl_erase_self]
    rfl
  · intro n c hc
    obtain ⟨d, hd, hsince, -, -⟩ := respond_calls h k r hc
    simp only [State.respond, hdelivered, hsince, List.length_append]
    exact Nat.le_add_right_of_le (h.since_le n d hd)
  · intro m hm
    simp only [State.respond, hmessages] at hm
    obtain ⟨c, hc, hmessage⟩ := h.messages_from m hm
    obtain ⟨c', hc', hm'⟩ := hcall _ _ hc
    exact ⟨c', hc', hmessage.trans hm'.symm⟩
  · intro r' hr'
    simp only [State.respond, hruns] at hr'
    obtain ⟨c, hc, hmessage⟩ := h.runs_from r' hr'
    obtain ⟨c', hc', hm'⟩ := hcall _ _ hc
    exact ⟨c', hc', hmessage.trans hm'.symm⟩
  · intro d hd
    simp only [State.respond, hresponses] at hd
    obtain ⟨r', hr', hrest⟩ := h.responses_from d (List.mem_of_mem_eraseIdx hd)
    refine ⟨r', ?_, hrest⟩
    simp only [State.respond, hruns]
    exact hr'

theorem inv_step {s s' : State V} {e : Event V} (h : Inv s) (hstep : step s e = some s') : Inv s' := by
  cases e with
  | send message =>
      obtain rfl := Option.some.inj hstep
      exact inv_call h .broadcast message
  | request message =>
      obtain rfl := Option.some.inj hstep
      exact inv_call h .request message
  | onReceive =>
      obtain rfl := Option.some.inj hstep
      exact ⟨⟨h.settled_eq, h.produced⟩, h.listeners_exact, h.since_le, h.messages_from, h.runs_from,
        h.responses_from⟩
  | onRequest =>
      obtain rfl := Option.some.inj hstep
      exact ⟨⟨h.settled_eq, h.produced⟩, h.listeners_exact, h.since_le, h.messages_from, h.runs_from,
        h.responses_from⟩
  | receive k =>
      simp only [step] at hstep
      split at hstep
      · next m hk =>
          obtain rfl := Option.some.inj hstep
          exact inv_receive h hk
      · exact absurd hstep (by simp)
  | finish k outcome =>
      simp only [step] at hstep
      split at hstep
      · next run hk =>
          split at hstep
          · next hrun =>
              obtain rfl := Option.some.inj hstep
              exact inv_finish h hk hrun outcome
          · exact absurd hstep (by simp)
      · exact absurd hstep (by simp)
  | respond k =>
      simp only [step] at hstep
      split at hstep
      · next r hk =>
          obtain rfl := Option.some.inj hstep
          exact inv_respond h hk
      · exact absurd hstep (by simp)

theorem inv_reaches {ok : State V → Event V → Prop} {s : State V} (h : (machine V).Reaches ok s) :
    Inv s :=
  h.invariant (P := Inv) inv_init (fun _ _ _ _ _ hs hstep => inv_step hs hstep)

/-! ## Calls that do not overlap -/

/-- Where calls do not overlap, whatever is in flight belongs to the last call, and the earlier ones
    are settled. -/
structure Sequenced (s : State V) : Prop where
  first_own : ∀ (n : ℕ) (c : Call V), s.calls[n]? = some c →
    ∀ d ∈ (s.delivered.drop c.since).take 1, d.call = n
  closed : ∀ n, s.open n = true → n + 1 = s.calls.length
  messages_last : ∀ m ∈ s.messages, m.call + 1 = s.calls.length
  running_last : ∀ r ∈ s.runs, r.outcome = none → r.call + 1 = s.calls.length
  responses_last : ∀ d ∈ s.responses, d.call + 1 = s.calls.length

omit [JsValue V] in
theorem sequenced_init : Sequenced ({} : State V) := by
  refine ⟨?_, ?_, ?_, ?_, ?_⟩ <;> simp [State.open]

omit [JsValue V] in
theorem open_call {s : State V} {channel : Channel} {message : V} {n : ℕ}
    (h : (s.call channel message).open n = true) : s.open n = true ∨ n = s.calls.length := by
  simp only [State.open] at h ⊢
  split at h
  · next c hc =>
      rcases List.getElem?_concat_eq_some.1 hc with hc | ⟨hn, -⟩
      · exact Or.inl (by simpa [hc] using h)
      · exact Or.inr hn
  · exact absurd h (by simp)

theorem sequenced_call {s : State V} (hs : Inv s) (h : Sequenced s) (hidle : s.idle)
    (channel : Channel) (message : V) : Sequenced (s.call channel message) := by
  obtain ⟨hlisteners, hmessages, hruns, hresponses⟩ := hidle
  refine ⟨?_, ?_, ?_, ?_, ?_⟩
  · intro n c hc
    rcases List.getElem?_concat_eq_some.1 hc with hc | ⟨-, rfl⟩
    · exact h.first_own n c hc
    · simp [State.call]
  · intro n hopen
    rcases open_call hopen with hn | rfl
    · have hcount := hs.listeners_exact n
      rw [hlisteners, hn] at hcount
      exact absurd hcount (by simp)
    · simp [State.call]
  · intro m hm
    simp only [State.call, hmessages, List.nil_append, List.mem_singleton] at hm
    simp [State.call, hm]
  · exact fun r hr hnone => absurd hnone (hruns r hr)
  · simp [State.call, hresponses]

theorem sequenced_respond {s : State V} (hs : Inv s) (h : Sequenced s) {k : ℕ} {r : Response V}
    (hk : s.responses[k]? = some r) :
    Sequenced (({ s with responses := s.responses.eraseIdx k } : State V).respond r) := by
  obtain ⟨hmessages, hruns, hresponses, hdelivered⟩ := emit_frame r (s.receiver.listeners .response)
    { s with responses := s.responses.eraseIdx k, delivered := s.delivered ++ [r] }
  have hlength : (({ s with responses := s.responses.eraseIdx k } : State V).respond r).calls.length
      = s.calls.length :=
    EventEmitter.emit_preserves (P := fun t : State V => t.calls.length = s.calls.length)
      (fun l _ t ht => by simpa [callListener, State.settle] using ht) rfl
  have hlast : r.call + 1 = s.calls.length := h.responses_last r (List.mem_of_getElem? hk)
  refine ⟨?_, ?_, ?_, ?_, ?_⟩
  · intro n c hc d hd
    obtain ⟨c₀, hc₀, hsince, -, -⟩ := respond_calls hs k r hc
    simp only [State.respond, hdelivered, hsince] at hd
    rw [List.drop_append_of_le_length (hs.since_le n c₀ hc₀)] at hd
    cases hdrop : s.delivered.drop c₀.since with
    | nil =>
        -- the call was open, so it is the last one
        have hopen : s.open n = true := by
          have := hs.settled_eq n c₀ hc₀
          simp [State.open, hc₀, this, hdrop]
        have hn := h.closed n hopen
        simp only [hdrop, List.nil_append, List.take_succ_cons, List.take_zero,
          List.mem_singleton] at hd
        subst hd
        omega
    | cons x xs =>
        refine h.first_own n c₀ hc₀ d ?_
        simpa [hdrop] using hd
  · intro n hopen
    have hcount := (inv_respond hs hk).listeners_exact n
    rw [hopen] at hcount
    simp [State.respond, emit_listeners, foldl_erase_self] at hcount
  · intro m hm
    simp only [State.respond, hmessages] at hm
    rw [hlength]
    exact h.messages_last m hm
  · intro r' hr' hnone
    simp only [State.respond, hruns] at hr'
    rw [hlength]
    exact h.running_last r' hr' hnone
  · intro d hd
    simp only [State.respond, hresponses] at hd
    rw [hlength]
    exact h.responses_last d (List.mem_of_mem_eraseIdx hd)

theorem sequenced_reaches {s : State V} (h : (machine V).Reaches Sequential s) : Sequenced s := by
  refine h.invariant sequenced_init (fun s e s' hr hok hs hstep => ?_)
  have hinv := inv_reaches hr
  simp only [machine] at hstep
  cases e with
  | send message =>
      obtain rfl := Option.some.inj hstep
      exact sequenced_call hinv hs hok .broadcast message
  | request message =>
      obtain rfl := Option.some.inj hstep
      exact sequenced_call hinv hs hok .request message
  | onReceive =>
      obtain rfl := Option.some.inj hstep
      exact ⟨hs.first_own, hs.closed, hs.messages_last, hs.running_last, hs.responses_last⟩
  | onRequest =>
      obtain rfl := Option.some.inj hstep
      exact ⟨hs.first_own, hs.closed, hs.messages_last, hs.running_last, hs.responses_last⟩
  | receive k =>
      simp only [step] at hstep
      split at hstep
      · next m hk =>
          obtain rfl := Option.some.inj hstep
          rw [receive_eq]
          refine ⟨hs.first_own, hs.closed,
            fun m' hm' => hs.messages_last m' (List.mem_of_mem_eraseIdx hm'), ?_, hs.responses_last⟩
          intro r hr hnone
          rcases List.mem_append.1 hr with hr | hr
          · exact hs.running_last r hr hnone
          · obtain ⟨-, rfl⟩ := List.mem_replicate.1 hr
            exact hs.messages_last m (List.mem_of_getElem? hk)
      · exact absurd hstep (by simp)
  | finish k outcome =>
      simp only [step] at hstep
      split at hstep
      · next run hk =>
          split at hstep
          · next hrun =>
              obtain rfl := Option.some.inj hstep
              have hlast := hs.running_last run (List.mem_of_getElem? hk) hrun
              refine ⟨hs.first_own, hs.closed, hs.messages_last, ?_, ?_⟩
              · intro r hr hnone
                rcases List.mem_or_eq_of_mem_set hr with hr | rfl
                · exact hs.running_last r hr hnone
                · exact absurd hnone (by simp)
              · intro d hd
                rcases List.mem_append.1 hd with hd | hd
                · exact hs.responses_last d hd
                · obtain rfl := List.mem_singleton.1 hd
                  exact hlast
          · exact absurd hstep (by simp)
      · exact absurd hstep (by simp)
  | respond k =>
      simp only [step] at hstep
      split at hstep
      · next r hk =>
          obtain rfl := Option.some.inj hstep
          exact sequenced_respond hinv hs hk
      · exact absurd hstep (by simp)

/-! ## The main results -/

theorem ownResponse_of_sequenced {s : State V} (hs : Inv s) (h : Sequenced s) : OwnResponse s := by
  intro n c hc
  have hsettled := hs.settled_eq n c hc
  refine ⟨?_, ?_⟩
  · rw [hsettled, List.length_map, List.length_take]
    exact Nat.min_le_left _ _
  · intro o ho
    rw [hsettled] at ho
    obtain ⟨d, hd, rfl⟩ := List.mem_map.1 ho
    have hdn := h.first_own n c hc d hd
    obtain ⟨r, hr, c', hc', hcall, hmessage, hout⟩ :=
      hs.produced d (List.mem_of_mem_drop (List.mem_of_mem_take hd))
    rw [hdn, hc] at hc'
    obtain rfl := Option.some.inj hc'
    exact ⟨r, hr, hcall.trans hdn, hmessage, hout⟩

/-- **A call gets the next response.** Whatever the overlap of calls and the order of answers, a
    promise settles with the first response delivered after the call; where calls do not overlap it
    is the response to the call's own message. -/
theorem next_response :
    (∀ s : State V, (machine V).Reaches Machine.anyStep s → FirstResponse s)
    ∧ ∀ s : State V, (machine V).Reaches Sequential s → OwnResponse s :=
  ⟨fun _ h => (inv_reaches h).toFirstResponse,
    fun _ h => ownResponse_of_sequenced (inv_reaches h) (sequenced_reaches h)⟩

/-- Two overlapping calls of `send()` to an echoing handler, the second answered first. -/
def overlappingSends : List (Event (Option Bool)) :=
  [.onReceive, .send (some true), .send (some false), .receive 0, .receive 0,
    .finish 1 (.ok (some false)), .finish 0 (.ok (some true)), .respond 0]

/-- After `overlappingSends` both calls are resolved with the response to the second one. -/
theorem overlapping_sends_share_response :
    ∃ s : State (Option Bool), (machine _).Reaches Machine.anyStep s
      ∧ s.calls.map Call.settled = [[.ok (some false)], [.ok (some false)]] ∧ ¬ OwnResponse s := by
  refine ⟨_, Machine.reaches_of_exec overlappingSends rfl, rfl, fun h => ?_⟩
  obtain ⟨r, hr, hcall, -, hout⟩ := (h 0 _ rfl).2 (.ok (some false)) (by decide)
  revert hcall hout
  revert r
  decide

end Klarity.IpcChannel
