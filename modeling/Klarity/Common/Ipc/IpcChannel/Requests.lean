import Klarity.Common.Ipc.IpcChannel.Proofs

set_option autoImplicit false

/-! # Requests to one handler

A channel on which one side only makes requests, and the other side has installed one handler, which
always answers the same message in the same way (`Served`). Every request is settled or on its way
(`Served.exists_deliver`), and `inFlight` counts the steps until all are settled.

A request is settled with the answer to its own message as long as each response finds only calls with
the message that it answers (`OwnAnswers`). -/

namespace Klarity.IpcChannel

variable {V : Type} {s : State V} {handler : V → Outcome V} {k : ℕ}

/-- The steps that the packets and handlers on their way can take. -/
def State.inFlight (s : State V) : ℕ :=
  3 * s.messages.length + 2 * s.runs.countP (fun r => r.outcome.isNone) + s.responses.length

/-- What can happen on the way of a request and back. -/
inductive Delivery
  | receive (k : ℕ)
  | finish (k : ℕ)
  | respond (k : ℕ)

/-- The message of a call. -/
def State.message? (s : State V) (call : ℕ) : Option V := s.calls[call]?.map Call.message

variable [JsValue V]

omit [JsValue V] in
/-- A request keeps the messages of the calls before it. -/
theorem message?_request {n : ℕ} {message : V} (h : s.message? n = some message) (m : V) :
    (s.request m).message? n = some message := by
  obtain ⟨c, hc, rfl⟩ := Option.map_eq_some_iff.1 h
  exact Option.map_eq_some_iff.2 ⟨c, List.getElem?_concat_eq_some.2 (Or.inl hc), rfl⟩

omit [JsValue V] in
@[simp] theorem message?_request_self (message : V) :
    (s.request message).message? s.calls.length = some message := by
  simp [State.message?, State.request, State.call]

/-- A step of a packet or of the handler, which always answers the same message in the same way. -/
def deliver (handler : V → Outcome V) (s : State V) : Delivery → Option (State V)
  | .receive k => step s (.receive k)
  | .finish k => s.runs[k]?.bind fun run => step s (.finish k (handler run.message))
  | .respond k => step s (.respond k)

/-- Only requests are made, and `handler` says how they are answered. -/
structure Served (handler : V → Outcome V) (s : State V) : Prop where
  inv : Inv s
  handlers : s.handlers.listeners .request = [()]
  messages_request : ∀ m ∈ s.messages, m.channel = .request
  runs_outcome : ∀ r ∈ s.runs, ∀ o, r.outcome = some o → o = handler r.message
  pending : ∀ (n : ℕ) (c : Call V), s.calls[n]? = some c → c.settled ≠ [] ∨ (∃ m ∈ s.messages, m.call = n)
    ∨ (∃ r ∈ s.runs, r.outcome = none ∧ r.call = n) ∨ ∃ d ∈ s.responses, d.call = n

/-- Every settled call is settled with the answer to its own message. -/
def OwnAnswers (handler : V → Outcome V) (s : State V) : Prop :=
  ∀ (n : ℕ) (c : Call V), s.calls[n]? = some c → ∀ o ∈ c.settled, o = handler c.message

/-- The calls that wait have made the same request as the call that the `k`-th response is for. -/
def State.AnswersAll (s : State V) (k : ℕ) : Prop :=
  ∀ r ∈ s.responses[k]?, ∀ n ∈ s.receiver.listeners .response, s.message? n = s.message? r.call

/-! ## The steps -/

theorem served_init : Served handler (({} : State V).onRequest) where
  inv := inv_step (e := .onRequest) inv_init rfl
  handlers := rfl
  messages_request m hm := absurd hm (List.not_mem_nil)
  runs_outcome r hr := absurd hr (List.not_mem_nil)
  pending n c hc := by simp [State.onRequest] at hc

theorem Served.request (h : Served handler s) (message : V) : Served handler (s.request message) := by
  refine ⟨inv_call h.inv .request message, ?_, ?_, h.runs_outcome, ?_⟩
  · exact h.handlers
  · intro m hm
    rcases List.mem_append.1 hm with hm | hm
    · exact h.messages_request m hm
    · obtain rfl := List.mem_singleton.1 hm
      rfl
  · intro n c hc
    rcases List.getElem?_concat_eq_some.1 hc with hc | ⟨rfl, -⟩
    · rcases h.pending n c hc with hsettled | ⟨m, hm, hcall⟩ | hrest
      · exact Or.inl hsettled
      · exact Or.inr (Or.inl ⟨m, List.mem_append_left _ hm, hcall⟩)
      · exact Or.inr (Or.inr hrest)
    · exact Or.inr (Or.inl ⟨_, List.mem_append_right _ (List.mem_singleton_self _), rfl⟩)

theorem Served.receive (h : Served handler s) {m : Message V} (hk : s.messages[k]? = some m) :
    Served handler (({ s with messages := s.messages.eraseIdx k } : State V).receive m) := by
  have hrequest := h.messages_request m (List.mem_of_getElem? hk)
  have hinv := inv_receive h.inv hk
  rw [receive_eq, hrequest] at hinv ⊢
  simp only [h.handlers, List.length_singleton, List.replicate_one] at hinv ⊢
  refine ⟨hinv, h.handlers, fun m' hm' => h.messages_request m' (List.mem_of_mem_eraseIdx hm'), ?_, ?_⟩
  · intro r hr o ho
    rcases List.mem_append.1 hr with hr | hr
    · exact h.runs_outcome r hr o ho
    · obtain rfl := List.mem_singleton.1 hr
      exact absurd ho (by simp)
  · intro n c hc
    rcases h.pending n c hc with hsettled | ⟨m', hm', hcall⟩ | ⟨r, hr, hnone, hcall⟩ | hresponse
    · exact Or.inl hsettled
    · rcases List.mem_cons.1 ((List.perm_cons_eraseIdx hk).mem_iff.2 hm') with rfl | hm'
      · exact Or.inr (Or.inr (Or.inl ⟨_, List.mem_append_right _ (List.mem_singleton_self _), rfl, hcall⟩))
      · exact Or.inr (Or.inl ⟨m', hm', hcall⟩)
    · exact Or.inr (Or.inr (Or.inl ⟨r, List.mem_append_left _ hr, hnone, hcall⟩))
    · exact Or.inr (Or.inr (Or.inr hresponse))

theorem Served.finish (h : Served handler s) {run : HandlerRun V} (hk : s.runs[k]? = some run)
    (hrun : run.outcome = none) : Served handler (s.finish k run (handler run.message)) := by
  refine ⟨inv_finish h.inv hk hrun _, h.handlers, h.messages_request, ?_, ?_⟩
  · intro r hr o ho
    rcases List.mem_or_eq_of_mem_set hr with hr | rfl
    · exact h.runs_outcome r hr o ho
    · exact (Option.some.inj ho).symm
  · intro n c hc
    rcases h.pending n c hc with hsettled | hmessage | ⟨r, hr, hnone, hcall⟩ | ⟨d, hd, hcall⟩
    · exact Or.inl hsettled
    · exact Or.inr (Or.inl hmessage)
    · by_cases heq : r = run
      · subst heq
        exact Or.inr (Or.inr (Or.inr ⟨_, List.mem_append_right _ (List.mem_singleton_self _), hcall⟩))
      · exact Or.inr (Or.inr (Or.inl ⟨r, List.mem_set_of_ne hr hk heq, hnone, hcall⟩))
    · exact Or.inr (Or.inr (Or.inr ⟨d, List.mem_append_left _ hd, hcall⟩))

/-- After a response every call is settled. -/
theorem settled_of_respond (h : Inv s) {r : Response V} {n : ℕ} {c : Call V}
    (hc : (({ s with responses := s.responses.eraseIdx k } : State V).respond r).calls[n]? = some c) :
    c.settled ≠ [] := by
  obtain ⟨d, -, -, -, hsettled⟩ := respond_calls h k r hc
  rw [hsettled]
  split
  · exact List.cons_ne_nil _ _
  · next hne => exact hne

theorem Served.respond (h : Served handler s) {r : Response V} (hk : s.responses[k]? = some r) :
    Served handler (({ s with responses := s.responses.eraseIdx k } : State V).respond r) := by
  obtain ⟨hmessages, hruns, -, -⟩ := emit_frame r (s.receiver.listeners .response)
    { s with responses := s.responses.eraseIdx k, delivered := s.delivered ++ [r] }
  refine ⟨inv_respond h.inv hk, ?_, ?_, ?_, ?_⟩
  · unfold State.respond
    refine EventEmitter.emit_preserves (P := fun t : State V => t.handlers.listeners .request = [()]) ?_ h.handlers
    exact fun _ _ _ ht => ht
  · intro m hm
    simp only [State.respond, hmessages] at hm
    exact h.messages_request m hm
  · intro r' hr'
    simp only [State.respond, hruns] at hr'
    exact h.runs_outcome r' hr'
  · exact fun n c hc => Or.inl (settled_of_respond h.inv hc)

/-! ## The answers -/

omit [JsValue V] in
theorem OwnAnswers.request (h : OwnAnswers handler s) (message : V) :
    OwnAnswers handler (s.request message) := by
  intro n c hc o ho
  rcases List.getElem?_concat_eq_some.1 hc with hc | ⟨-, rfl⟩
  · exact h n c hc o ho
  · exact absurd ho List.not_mem_nil

theorem OwnAnswers.respond (hs : Served handler s) (h : OwnAnswers handler s) {r : Response V}
    (hk : s.responses[k]? = some r) (hall : s.AnswersAll k) :
    OwnAnswers handler (({ s with responses := s.responses.eraseIdx k } : State V).respond r) := by
  intro n c hc o ho
  obtain ⟨d, hd, -, hmessage, hsettled⟩ := respond_calls hs.inv k r hc
  rw [hmessage]
  rw [hsettled] at ho
  split at ho
  · next hopen =>
      -- the call waited for a response, so it has the message that this one answers
      obtain rfl := List.mem_singleton.1 ho
      have hlistening : n ∈ s.receiver.listeners .response := by
        rw [← List.count_pos_iff, hs.inv.listeners_exact n]
        simp [State.open, hd, hopen]
      obtain ⟨run, hrun, hcall, houtcome⟩ := hs.inv.responses_from r (List.mem_of_getElem? hk)
      obtain ⟨c', hc', hsame⟩ := hs.inv.runs_from run hrun
      have heq := hall r hk n hlistening
      rw [State.message?, State.message?, hd, ← hcall, hc'] at heq
      rw [hs.runs_outcome run hrun _ houtcome, hsame, Option.some.inj heq]
  · exact h n d hd o ho

/-! ## What is on its way -/

omit [JsValue V] in
theorem inFlight_request (message : V) : (s.request message).inFlight = s.inFlight + 3 := by
  simp only [State.inFlight, State.request, State.call, List.length_append, List.length_singleton]
  omega

theorem Served.inFlight_receive (h : Served handler s) {m : Message V} (hk : s.messages[k]? = some m) :
    (({ s with messages := s.messages.eraseIdx k } : State V).receive m).inFlight + 1 = s.inFlight := by
  have hlt := (List.getElem?_eq_some_iff.1 hk).1
  rw [receive_eq, h.messages_request m (List.mem_of_getElem? hk)]
  simp only [State.inFlight, h.handlers, List.length_singleton, List.replicate_one, List.countP_append,
    List.countP_singleton, Option.isNone_none, if_true, List.length_eraseIdx_of_lt hlt]
  omega

theorem inFlight_finish {run : HandlerRun V} (hk : s.runs[k]? = some run) (hrun : run.outcome = none)
    (o : Outcome V) : (s.finish k run o).inFlight + 1 = s.inFlight := by
  obtain ⟨hlt, rfl⟩ := List.getElem?_eq_some_iff.1 hk
  have hcount : 0 < s.runs.countP fun r => r.outcome.isNone :=
    List.countP_pos_iff.2 ⟨_, List.getElem_mem hlt, by rw [hrun]; rfl⟩
  simp only [State.inFlight, State.finish, List.countP_set hlt, hrun, List.length_append,
    List.length_singleton, Option.isNone_none, Option.isNone_some, Bool.false_eq_true, if_true, if_false]
  omega

theorem inFlight_respond {r : Response V} (hk : s.responses[k]? = some r) :
    (({ s with responses := s.responses.eraseIdx k } : State V).respond r).inFlight + 1 = s.inFlight := by
  obtain ⟨hmessages, hruns, hresponses, -⟩ := emit_frame r (s.receiver.listeners .response)
    { s with responses := s.responses.eraseIdx k, delivered := s.delivered ++ [r] }
  have hlt := (List.getElem?_eq_some_iff.1 hk).1
  simp only [State.inFlight, State.respond, hmessages, hruns, hresponses, List.length_eraseIdx_of_lt hlt]
  omega

/-! ## Deliveries -/

/-- What a delivery does. -/
theorem deliver_cases {s' : State V} {d : Delivery} (h : deliver handler s d = some s') :
    (∃ k m, d = .receive k ∧ s.messages[k]? = some m ∧
      s' = ({ s with messages := s.messages.eraseIdx k } : State V).receive m) ∨
    (∃ k run, d = .finish k ∧ s.runs[k]? = some run ∧ run.outcome = none ∧
      s' = s.finish k run (handler run.message)) ∨
    (∃ k r, d = .respond k ∧ s.responses[k]? = some r ∧
      s' = ({ s with responses := s.responses.eraseIdx k } : State V).respond r) := by
  cases d with
  | receive k =>
      simp only [deliver, step] at h
      split at h
      · next m hk => exact Or.inl ⟨k, m, rfl, hk, (Option.some.inj h).symm⟩
      · exact absurd h (by simp)
  | finish k =>
      obtain ⟨run, hk, h⟩ := Option.bind_eq_some_iff.1 h
      simp only [step, hk] at h
      split at h
      · next hrun => exact Or.inr (Or.inl ⟨k, run, rfl, hk, hrun, (Option.some.inj h).symm⟩)
      · exact absurd h (by simp)
  | respond k =>
      simp only [deliver, step] at h
      split at h
      · next r hk => exact Or.inr (Or.inr ⟨k, r, rfl, hk, (Option.some.inj h).symm⟩)
      · exact absurd h (by simp)

/-- A delivery brings a request closer to its end, and no call forgets its message. -/
theorem Served.deliver (h : Served handler s) {s' : State V} {d : Delivery}
    (hd : deliver handler s d = some s') :
    Served handler s' ∧ s'.inFlight + 1 = s.inFlight ∧ ∀ n, s'.message? n = s.message? n := by
  rcases deliver_cases hd with ⟨k, m, -, hk, rfl⟩ | ⟨k, run, -, hk, hrun, rfl⟩ | ⟨k, r, -, hk, rfl⟩
  · refine ⟨h.receive hk, h.inFlight_receive hk, fun n => ?_⟩
    rw [receive_eq]
    rfl
  · exact ⟨h.finish hk hrun, inFlight_finish hk hrun _, fun _ => rfl⟩
  · refine ⟨h.respond hk, inFlight_respond hk, fun n => ?_⟩
    rw [State.message?, State.respond, emit_calls, Option.map_map]
    rfl

theorem OwnAnswers.deliver (hs : Served handler s) (h : OwnAnswers handler s) {s' : State V} {d : Delivery}
    (hd : deliver handler s d = some s') (hall : ∀ k, d = .respond k → s.AnswersAll k) :
    OwnAnswers handler s' := by
  rcases deliver_cases hd with ⟨k, m, -, hk, rfl⟩ | ⟨k, run, -, hk, hrun, rfl⟩ | ⟨k, r, rfl, hk, rfl⟩
  · rw [receive_eq]
    exact h
  · exact h
  · exact OwnAnswers.respond hs h hk (hall k rfl)

/-- A call that is not settled is on its way. -/
theorem Served.exists_deliver (h : Served handler s) {n : ℕ} {c : Call V} (hc : s.calls[n]? = some c)
    (hopen : c.settled = []) : ∃ d s', IpcChannel.deliver handler s d = some s' := by
  rcases h.pending n c hc with hsettled | ⟨m, hm, -⟩ | ⟨r, hr, hnone, -⟩ | ⟨d, hd, -⟩
  · exact absurd hopen hsettled
  · obtain ⟨k, hk⟩ := List.mem_iff_getElem?.1 hm
    refine ⟨.receive k, ({ s with messages := s.messages.eraseIdx k } : State V).receive m, ?_⟩
    simp only [IpcChannel.deliver, step, hk]
  · obtain ⟨k, hk⟩ := List.mem_iff_getElem?.1 hr
    refine ⟨.finish k, s.finish k r (handler r.message), ?_⟩
    simp only [IpcChannel.deliver, hk, Option.bind_some, step, hnone, if_true]
  · obtain ⟨k, hk⟩ := List.mem_iff_getElem?.1 hd
    refine ⟨.respond k, ({ s with responses := s.responses.eraseIdx k } : State V).respond d, ?_⟩
    simp only [IpcChannel.deliver, step, hk]

/-! ## One request at a time -/

/-- The calls of what is on its way. -/
def State.waiting (s : State V) : List ℕ :=
  s.messages.map Message.call ++ (s.runs.filter fun r => r.outcome.isNone).map HandlerRun.call
    ++ s.responses.map Response.call

/-- At most one request is on its way, and it is not settled. -/
structure OneAtATime (s : State V) : Prop where
  length_le : s.waiting.length ≤ 1
  open_of_waiting : ∀ n ∈ s.waiting, s.open n = true

theorem Served.waiting_of_open (h : Served handler s) {n : ℕ} (hopen : s.open n = true) : n ∈ s.waiting := by
  simp only [State.open] at hopen
  split at hopen
  · next c hc =>
      simp only [State.waiting, List.mem_append, List.mem_map, List.mem_filter, Option.isNone_iff_eq_none]
      rcases h.pending n c hc with hsettled | hmessage | ⟨r, hr, hnone, hcall⟩ | hresponse
      · exact absurd (List.isEmpty_iff.1 hopen) hsettled
      · exact Or.inl (Or.inl hmessage)
      · exact Or.inl (Or.inr ⟨r, ⟨hr, hnone⟩, hcall⟩)
      · exact Or.inr hresponse
  · exact absurd hopen (by simp)

/-- A response then finds only the call that it is for. -/
theorem OneAtATime.answersAll (h : OneAtATime s) (hs : Served handler s) (k : ℕ) : s.AnswersAll k := by
  intro r hr n hn
  have hopen : s.open n = true := by
    have hcount := hs.inv.listeners_exact n
    rw [← List.count_pos_iff] at hn
    cases hclosed : s.open n with
    | true => rfl
    | false =>
        rw [hclosed] at hcount
        exact absurd hn (by simp [hcount])
  have hwaiting : r.call ∈ s.waiting :=
    List.mem_append_right _ (List.mem_map_of_mem (List.mem_of_getElem? hr))
  have hsame : ∀ a ∈ s.waiting, ∀ b ∈ s.waiting, a = b := by
    intro a ha b hb
    obtain ⟨c, hc⟩ := List.length_eq_one_iff.1 (Nat.le_antisymm h.length_le (List.length_pos_of_mem ha))
    rw [hc] at ha hb
    rw [List.mem_singleton.1 ha, List.mem_singleton.1 hb]
  rw [hsame n (hs.waiting_of_open hopen) r.call hwaiting]

omit [JsValue V] in
/-- A request made when every call is settled is the only one. -/
theorem OneAtATime.request (h : OneAtATime s) (hclosed : ∀ n, s.open n = false) (message : V) :
    OneAtATime (s.request message) := by
  have hnil : s.waiting = [] := by
    rw [List.eq_nil_iff_forall_not_mem]
    intro n hn
    exact absurd (h.open_of_waiting n hn) (by simp [hclosed n])
  have hwaiting : (s.request message).waiting = [s.calls.length] := by
    simp only [State.waiting, List.append_eq_nil_iff] at hnil
    simp only [State.waiting, State.request, State.call, List.map_append, hnil.1.1, hnil.1.2, hnil.2]
    rfl
  refine ⟨by simp [hwaiting], fun n hn => ?_⟩
  rw [hwaiting, List.mem_singleton] at hn
  simp [State.open, State.request, State.call, hn]

/-- A message that arrives leaves its call waiting for the handler. -/
theorem Served.waiting_receive (h : Served handler s) {m : Message V} (hk : s.messages[k]? = some m) :
    (({ s with messages := s.messages.eraseIdx k } : State V).receive m).waiting.Perm s.waiting := by
  have hmessages := (List.perm_cons_eraseIdx hk).map Message.call
  rw [receive_eq, h.messages_request m (List.mem_of_getElem? hk), List.perm_iff_count]
  intro n
  have hcount := hmessages.count_eq n
  simp only [List.map_cons, List.count_cons] at hcount
  simp only [State.waiting, h.handlers, List.length_singleton, List.replicate_one, List.filter_append,
    List.map_append, List.count_append, ← hcount]
  have hone : (List.map HandlerRun.call (List.filter (fun r => r.outcome.isNone)
      [(⟨m.message, none, m.call⟩ : HandlerRun V)])).count n = if m.call == n then 1 else 0 := by
    simp [List.count_cons]
  rw [hone]
  omega

/-- A handler that ends leaves its call waiting for the response. -/
theorem waiting_finish {run : HandlerRun V} (hk : s.runs[k]? = some run) (hrun : run.outcome = none)
    (o : Outcome V) : (s.finish k run o).waiting.Perm s.waiting := by
  obtain ⟨hlt, -⟩ := List.getElem?_eq_some_iff.1 hk
  have hold := ((List.perm_cons_eraseIdx hk).filter fun r => r.outcome.isNone).map HandlerRun.call
  have hnew := ((List.set_perm_cons_eraseIdx hlt ({ run with outcome := some o } : HandlerRun V)).filter
    fun r => r.outcome.isNone).map HandlerRun.call
  rw [List.perm_iff_count]
  intro n
  have hold := hold.count_eq n
  have hnew := hnew.count_eq n
  simp only [List.filter_cons, hrun, Option.isNone_none, Option.isNone_some, Bool.false_eq_true, if_true,
    if_false, List.map_cons, List.count_cons] at hold hnew
  simp only [State.waiting, State.finish, List.map_append, List.count_append, List.map_cons, List.map_nil,
    List.count_cons, List.count_nil]
  omega

theorem waiting_respond {r : Response V} (hk : s.responses[k]? = some r) : s.waiting.Perm
    (r.call :: (({ s with responses := s.responses.eraseIdx k } : State V).respond r).waiting) := by
  obtain ⟨hmessages, hruns, hresponses, -⟩ := emit_frame r (s.receiver.listeners .response)
    { s with responses := s.responses.eraseIdx k, delivered := s.delivered ++ [r] }
  have hperm := (List.perm_cons_eraseIdx hk).map Response.call
  rw [List.perm_iff_count]
  intro n
  have hcount := hperm.count_eq n
  simp only [List.map_cons, List.count_cons] at hcount
  simp only [State.waiting, State.respond, hmessages, hruns, hresponses, List.count_cons, List.count_append]
  omega

/-- What is on its way keeps its call until it is answered. -/
theorem OneAtATime.deliver (h : OneAtATime s) (hs : Served handler s) {s' : State V} {d : Delivery}
    (hd : deliver handler s d = some s') : OneAtATime s' ∧ ∀ n, s'.open n = true → s.open n = true := by
  rcases deliver_cases hd with ⟨k, m, -, hk, rfl⟩ | ⟨k, run, -, hk, hrun, rfl⟩ | ⟨k, r, -, hk, rfl⟩
  · have hperm := hs.waiting_receive hk
    have hopen : ∀ n, (({ s with messages := s.messages.eraseIdx k } : State V).receive m).open n = s.open n := by
      intro n
      rw [receive_eq]
      rfl
    refine ⟨⟨hperm.length_eq ▸ h.length_le, fun n hn => ?_⟩, fun n hn => hopen n ▸ hn⟩
    rw [hopen]
    exact h.open_of_waiting n (hperm.mem_iff.1 hn)
  · have hperm := waiting_finish hk hrun (handler run.message)
    exact ⟨⟨hperm.length_eq ▸ h.length_le, fun n hn => h.open_of_waiting n (hperm.mem_iff.1 hn)⟩,
      fun n hn => hn⟩
  · -- the response ends the one request that is on its way
    have hlength := (waiting_respond hk).length_eq
    have hle := h.length_le
    rw [List.length_cons] at hlength
    have hnil : (({ s with responses := s.responses.eraseIdx k } : State V).respond r).waiting = [] :=
      List.eq_nil_of_length_eq_zero (by omega)
    refine ⟨⟨by simp [hnil], fun n hn => absurd hn (by simp [hnil])⟩, fun n hn => ?_⟩
    simp only [State.open] at hn
    split at hn
    · next c hc => exact absurd (List.isEmpty_iff.1 hn) (settled_of_respond hs.inv hc)
    · exact absurd hn (by simp)

end Klarity.IpcChannel
