import Klarity.Common.Ipc.IpcConversation
import Klarity.Library.Lists
import Mathlib.Data.List.Perm.Basic
import Mathlib.Tactic.Common

set_option autoImplicit false

/-! # Answers are paired with their requests

Every packet on the wire or in the history comes from a call or from a finished run of the handler
(`Sent`), and every run belongs to the call whose message started it (`Inv.runs_own`). With pairwise
distinct conversation ids at most one installed listener reacts to a packet, so the emission of a
packet has a closed form (`emit_inert`, `emit_match`) although every listener is called. -/

namespace Klarity.IpcConversation

variable {Id V : Type} [JsValue V]

/-! ## What is promised -/

/-- `call` was made on `side` and its promise is not settled. -/
def State.unanswered (s : State Id V) (side : Side) (call : ℕ) : Bool :=
  match s.calls[call]? with
  | some c => c.side = side && c.settled.isEmpty
  | none => false

/-- Requests and answers are paired: the promise of each call settles at most once, exactly when an
    answer to it has been delivered, with the outcome of a run of the handler on its own message;
    a listener is installed exactly for the calls that are still unanswered, one for each; and if the
    handler was installed once, it runs at most once for each conversation. -/
structure Paired (uuid : ℕ → Id) (answering : Side) (s : State Id V) : Prop where
  settled_once : ∀ (n : ℕ) (c : Call V), s.calls[n]? = some c → c.settled.length ≤ 1
  settled_iff_answered : ∀ (n : ℕ) (c : Call V), s.calls[n]? = some c →
    (c.settled ≠ [] ↔ ∃ p, (c.side, p) ∈ s.delivered ∧ p.conversationId = uuid n)
  settled_own : ∀ (n : ℕ) (c : Call V) (o : Outcome V), s.calls[n]? = some c → o ∈ c.settled →
    ∃ r ∈ s.runs, r.conversationId = uuid n ∧ r.message = c.message ∧ r.outcome = some o
  listeners_exact : ∀ (side : Side) (n : ℕ),
    (s.receivers.listeners side).count (.response n) = (s.unanswered side n).toNat
  runs_unique : (s.receivers.listeners answering).count .onRequest ≤ 1 →
    (s.runs.map HandlerRun.conversationId).Nodup

/-! ## The emission of a packet -/

section Emission

variable [DecidableEq Id] (uuid : ℕ → Id) (side : Side) (p : Packet Id V)

/-- The runs that `k` handlers start on a packet. -/
def startedRuns (k : ℕ) : List (HandlerRun Id V) :=
  List.replicate k ⟨p.conversationId, p.args.1, none⟩

/-- Where no listener waits for the conversation of the packet, only handlers react. -/
theorem emit_inert (ls : List Listener) (s : State Id V)
    (h : ∀ n, .response n ∈ ls → p.conversationId ≠ uuid n) :
    EventEmitter.emit (callListener uuid side p) ls s
      = { s with runs := s.runs ++ startedRuns p (ls.count .onRequest) } := by
  induction ls generalizing s with
  | nil => simp [startedRuns]
  | cons l ls ih =>
      have hls : ∀ n, .response n ∈ ls → p.conversationId ≠ uuid n :=
        fun n hn => h n (List.mem_cons_of_mem _ hn)
      rw [EventEmitter.emit_cons, ih _ hls]
      cases l with
      | response call =>
          have hne : p.conversationId ≠ uuid call := h call (List.mem_cons_self ..)
          simp [callListener, hne]
      | onRequest =>
          simp [callListener, startedRuns, List.replicate_succ]

/-- Where exactly one listener waits for the conversation of the packet, that call is settled with
    the outcome the packet reports, and its listener is gone. -/
theorem emit_match (hinj : Function.Injective uuid) (ls : List Listener) (s : State Id V) (n : ℕ)
    (hn : ls.count (.response n) = 1) (hp : p.conversationId = uuid n) :
    EventEmitter.emit (callListener uuid side p) ls s
      = { s.settle n (Outcome.ofArgs p.args) with
          receivers := s.receivers.removeListener side (.response n)
          runs := s.runs ++ startedRuns p (ls.count .onRequest) } := by
  have hmem : Listener.response n ∈ ls := List.count_pos_iff.1 (by omega)
  obtain ⟨before, after, rfl, hbefore⟩ := List.eq_append_cons_of_mem hmem
  have hafter : Listener.response n ∉ after := by
    intro h
    have : 0 < after.count (.response n) := List.count_pos_iff.2 h
    simp only [List.count_append, List.count_cons_self] at hn
    omega
  have hother : ∀ ms : List Listener, .response n ∉ ms →
      ∀ m, .response m ∈ ms → p.conversationId ≠ uuid m := by
    intro ms hms m hm heq
    exact hms (hinj (hp ▸ heq) ▸ hm)
  rw [EventEmitter.emit_append, EventEmitter.emit_cons, emit_inert uuid side p before s (hother _ hbefore),
    emit_inert uuid side p after _ (hother _ hafter)]
  simp [callListener, hp, State.settle, startedRuns, List.replicate_append_replicate]

end Emission

/-! ## The invariant -/

/-- Where the packets come from: a request from its call, an answer from a finished run. -/
inductive Sent (uuid : ℕ → Id) (answering : Side) (s : State Id V) : Side → Packet Id V → Prop
  | request {n : ℕ} {c : Call V} : s.calls[n]? = some c →
      Sent uuid answering s c.side.other (requestPacket (uuid n) c.message)
  | answer {r : HandlerRun Id V} {o : Outcome V} : r ∈ s.runs → r.outcome = some o →
      Sent uuid answering s answering.other (answerPacket r.conversationId o)

/-- The conversations whose message is on its way to the answering side, or has reached it. -/
def State.received (s : State Id V) (answering : Side) : List Id :=
  (s.wire.filter (fun q => q.1 = answering)).map (fun q => q.2.conversationId)
    ++ s.runs.map HandlerRun.conversationId

/-- The invariant of the channel. -/
structure Inv (uuid : ℕ → Id) (answering : Side) (s : State Id V) : Prop
    extends Paired uuid answering s where
  wire_sent : ∀ side p, (side, p) ∈ s.wire → Sent uuid answering s side p
  delivered_sent : ∀ side p, (side, p) ∈ s.delivered → Sent uuid answering s side p
  runs_own : ∀ r ∈ s.runs, ∃ n c, s.calls[n]? = some c ∧ c.side = answering.other
    ∧ r.conversationId = uuid n ∧ r.message = c.message
  handler_side : ∀ side, .onRequest ∈ s.receivers.listeners side → side = answering
  received_once : (s.receivers.listeners answering).count .onRequest ≤ 1 →
    (s.received answering).Nodup

variable {uuid : ℕ → Id} {answering : Side}

theorem inv_init : Inv uuid answering ({} : State Id V) := by
  refine ⟨⟨?_, ?_, ?_, ?_, ?_⟩, ?_, ?_, ?_, ?_, ?_⟩ <;> simp [State.unanswered, State.received]

/-! ### Facts read off the invariant -/

/-- What was sent stays sent when calls keep their side and message and finished runs are kept. -/
theorem Sent.mono {s s' : State Id V} {side : Side} {p : Packet Id V}
    (hcalls : ∀ (n : ℕ) (c : Call V), s.calls[n]? = some c →
      ∃ c', s'.calls[n]? = some c' ∧ c'.side = c.side ∧ c'.message = c.message)
    (hruns : ∀ r ∈ s.runs, r.outcome ≠ none → r ∈ s'.runs)
    (h : Sent uuid answering s side p) : Sent uuid answering s' side p := by
  cases h with
  | @request n c hc =>
      obtain ⟨c', hc', hside, hmessage⟩ := hcalls n c hc
      rw [← hside, ← hmessage]
      exact .request hc'
  | @answer r o hr ho => exact .answer (hruns r hr (by simp [ho])) ho

namespace Inv

variable {s : State Id V}

/-- A packet that was sent belongs to the conversation of some call. -/
theorem sent_conversation (h : Inv uuid answering s) {side : Side} {p : Packet Id V}
    (hp : Sent uuid answering s side p) :
    ∃ n c, s.calls[n]? = some c ∧ p.conversationId = uuid n := by
  cases hp with
  | request hc => exact ⟨_, _, hc, rfl⟩
  | answer hr ho =>
      obtain ⟨n, c, hc, -, hid, -⟩ := h.runs_own _ hr
      exact ⟨n, c, hc, hid⟩

theorem received_conversation (h : Inv uuid answering s) {id : Id}
    (hid : id ∈ s.received answering) : ∃ n c, s.calls[n]? = some c ∧ id = uuid n := by
  rcases List.mem_append.1 hid with hm | hm
  · obtain ⟨q, hq, rfl⟩ := List.mem_map.1 hm
    exact h.sent_conversation (h.wire_sent q.1 q.2 (List.mem_filter.1 hq).1)
  · obtain ⟨r, hr, rfl⟩ := List.mem_map.1 hm
    obtain ⟨n, c, hc, -, hn, -⟩ := h.runs_own r hr
    exact ⟨n, c, hc, hn⟩

/-- A packet that reaches the side of a call, in its conversation, is an answer to it. -/
theorem sent_to_caller (h : Inv uuid answering s) (hinj : Function.Injective uuid)
    {side : Side} {p : Packet Id V} (hp : Sent uuid answering s side p) {n : ℕ} {c : Call V}
    (hc : s.calls[n]? = some c) (hside : c.side = side) (hid : p.conversationId = uuid n) :
    ∃ r ∈ s.runs, ∃ o, r.outcome = some o ∧ r.conversationId = uuid n ∧ r.message = c.message
      ∧ side = answering.other ∧ p = answerPacket (uuid n) o := by
  cases hp with
  | @request m d hd =>
      have hmn : m = n := hinj (by simpa [requestPacket] using hid)
      subst hmn
      obtain rfl : d = c := by rw [hc] at hd; exact (Option.some.inj hd).symm
      exact absurd hside (Side.ne_other _)
  | @answer r o hr ho =>
      obtain ⟨m, d, hd, -, hrid, hmessage⟩ := h.runs_own r hr
      have hid' : r.conversationId = uuid n := hid
      have hmn : m = n := hinj (by rw [← hrid, hid'])
      subst hmn
      obtain rfl : d = c := by rw [hc] at hd; exact (Option.some.inj hd).symm
      exact ⟨r, hr, o, ho, hid', hmessage, rfl, by rw [hid']⟩

theorem mem_listeners (h : Inv uuid answering s) {side : Side} {n : ℕ} :
    .response n ∈ s.receivers.listeners side ↔ s.unanswered side n = true := by
  rw [← List.count_pos_iff, h.listeners_exact side n]
  cases s.unanswered side n <;> simp

end Inv

/-! ### Each event keeps the invariant -/

theorem inv_request {s : State Id V} (h : Inv uuid answering s) (hinj : Function.Injective uuid)
    (side : Side) (message : V) : Inv uuid answering (s.request uuid side message) := by
  have hget : ∀ (n : ℕ) (c : Call V), (s.request uuid side message).calls[n]? = some c ↔
      s.calls[n]? = some c ∨ (n = s.calls.length ∧ c = ⟨side, message, []⟩) :=
    fun n c => List.getElem?_concat_eq_some
  have hmono : ∀ side' p, Sent uuid answering s side' p →
      Sent uuid answering (s.request uuid side message) side' p :=
    fun side' p => Sent.mono (fun n c hc => ⟨c, (hget n c).2 (.inl hc), rfl, rfl⟩)
      (fun r hr _ => hr)
  -- the new conversation is not the one of any packet or run
  have hfresh : ∀ n c, s.calls[n]? = some c → uuid n ≠ uuid s.calls.length := by
    intro n c hc heq
    have := (List.getElem?_eq_some_iff.1 hc).1
    exact absurd (hinj heq) (by omega)
  have hlisten : ∀ side', (s.request uuid side message).receivers.listeners side'
      = s.receivers.listeners side' ++ (if side = side' then [.response s.calls.length] else []) :=
    fun side' => EventEmitter.listeners_on _ _ _ _
  have hcount : ∀ side', ((s.request uuid side message).receivers.listeners side').count .onRequest
      = (s.receivers.listeners side').count .onRequest := by
    intro side'
    rw [hlisten]
    split <;> simp [List.count_append]
  have hreceived : (s.receivers.listeners answering).count .onRequest ≤ 1 →
      ((s.request uuid side message).received answering).Nodup := by
    intro hone
    have hold := h.received_once hone
    have hperm : ((s.request uuid side message).received answering).Perm
        ((if side.other = answering then [uuid s.calls.length] else []) ++ s.received answering) := by
      simp only [State.received, State.request, List.filter_append, List.map_append]
      split
      · next he => simp [he, requestPacket]
      · next he => simp [he]
    refine hperm.nodup_iff.2 ?_
    split
    · refine List.nodup_cons.2 ⟨fun hmem => ?_, hold⟩
      obtain ⟨n, c, hc, hn⟩ := h.received_conversation hmem
      exact hfresh n c hc hn.symm
    · exact hold
  refine ⟨⟨?_, ?_, ?_, ?_, ?_⟩, ?_, ?_, ?_, ?_, ?_⟩
  · intro n c hc
    rcases (hget n c).1 hc with hc | ⟨-, rfl⟩
    · exact h.settled_once n c hc
    · exact Nat.zero_le _
  · intro n c hc
    rcases (hget n c).1 hc with hc | ⟨rfl, rfl⟩
    · exact h.settled_iff_answered n c hc
    · refine iff_of_false (fun hne => hne rfl) ?_
      rintro ⟨p, hp, hid⟩
      obtain ⟨n, c, hc, hn⟩ := h.sent_conversation (h.delivered_sent _ _ hp)
      exact hfresh n c hc (hn ▸ hid)
  · intro n c o hc ho
    rcases (hget n c).1 hc with hc | ⟨-, rfl⟩
    · exact h.settled_own n c o hc ho
    · exact absurd ho (List.not_mem_nil)
  · intro side' n
    have hold := h.listeners_exact side' n
    rw [hlisten, List.count_append, hold]
    by_cases hn : n = s.calls.length
    · subst hn
      by_cases hs : side = side' <;> simp [State.unanswered, State.request, hs]
    · have hne : Listener.response s.calls.length ≠ .response n :=
        fun he => hn (Listener.response.inj he).symm
      have hsame : (s.calls ++ [(⟨side, message, []⟩ : Call V)])[n]? = s.calls[n]? := by
        rcases Nat.lt_or_ge n s.calls.length with hlt | hge
        · exact List.getElem?_append_left hlt
        · rw [List.getElem?_eq_none hge, List.getElem?_eq_none (by simp; omega)]
      have hzero : (if side = side' then [Listener.response s.calls.length] else []).count
          (.response n) = 0 := by
        split <;> simp [hne]
      rw [hzero, Nat.add_zero]
      simp only [State.unanswered, State.request, hsame]
  · intro hone
    exact h.runs_unique (by rwa [hcount] at hone)
  · intro side' p hp
    rcases List.mem_append.1 hp with hp | hp
    · exact hmono _ _ (h.wire_sent _ _ hp)
    · obtain ⟨rfl, rfl⟩ := Prod.mk.inj (List.mem_singleton.1 hp)
      exact .request (c := ⟨side, message, []⟩) ((hget _ _).2 (.inr ⟨rfl, rfl⟩))
  · exact fun side' p hp => hmono _ _ (h.delivered_sent _ _ hp)
  · intro r hr
    obtain ⟨n, c, hc, hrest⟩ := h.runs_own r hr
    exact ⟨n, c, (hget n c).2 (.inl hc), hrest⟩
  · intro side' hmem
    rw [hlisten] at hmem
    refine h.handler_side side' ?_
    rcases List.mem_append.1 hmem with hm | hm
    · exact hm
    · split at hm <;> simp at hm
  · intro hone
    exact hreceived (by rwa [hcount] at hone)

theorem inv_onRequest {s : State Id V} (h : Inv uuid answering s) :
    Inv uuid answering { s with receivers := s.receivers.on answering .onRequest } := by
  have hlisten : ∀ side, (s.receivers.on answering .onRequest).listeners side
      = s.receivers.listeners side ++ (if answering = side then [.onRequest] else []) :=
    fun side => EventEmitter.listeners_on _ _ _ _
  have hle : (s.receivers.listeners answering).count .onRequest
      ≤ ((s.receivers.on answering .onRequest).listeners answering).count .onRequest := by
    rw [hlisten, List.count_append]
    exact Nat.le_add_right _ _
  have hmono : ∀ side p, Sent uuid answering s side p →
      Sent uuid answering { s with receivers := s.receivers.on answering .onRequest } side p :=
    fun side p => Sent.mono (fun n c hc => ⟨c, hc, rfl, rfl⟩) (fun r hr _ => hr)
  refine ⟨⟨h.settled_once, h.settled_iff_answered, h.settled_own, fun side n => ?_, fun hone => ?_⟩,
    fun side p hp => hmono _ _ (h.wire_sent _ _ hp),
    fun side p hp => hmono _ _ (h.delivered_sent _ _ hp), h.runs_own, fun side hmem => ?_,
    fun hone => ?_⟩
  · have hzero : (if answering = side then [Listener.onRequest] else []).count (.response n) = 0 := by
      split <;> simp
    rw [hlisten, List.count_append, hzero, Nat.add_zero]
    exact h.listeners_exact side n
  · exact h.runs_unique (Nat.le_trans hle hone)
  · rw [hlisten] at hmem
    rcases List.mem_append.1 hmem with hm | hm
    · exact h.handler_side side hm
    · split at hm
      · next he => exact he.symm
      · simp at hm
  · exact h.received_once (Nat.le_trans hle hone)

theorem inv_finish {s : State Id V} (h : Inv uuid answering s) {k : ℕ} {run : HandlerRun Id V}
    (hk : s.runs[k]? = some run) (hrun : run.outcome = none) (o : Outcome V) :
    Inv uuid answering (s.finish answering k run o) := by
  have hkeep : ∀ r ∈ s.runs, r.outcome ≠ none → r ∈ s.runs.set k { run with outcome := some o } :=
    fun r hr hne => List.mem_set_of_ne hr hk (fun he => hne (he ▸ hrun))
  have hmono : ∀ side p, Sent uuid answering s side p →
      Sent uuid answering (s.finish answering k run o) side p :=
    fun side p => Sent.mono (fun n c hc => ⟨c, hc, rfl, rfl⟩) hkeep
  have hids : (s.runs.set k { run with outcome := some o }).map HandlerRun.conversationId
      = s.runs.map HandlerRun.conversationId := List.map_set_of_eq _ hk rfl
  refine ⟨⟨h.settled_once, h.settled_iff_answered, fun n c o' hc ho' => ?_, h.listeners_exact,
    fun hone => ?_⟩, fun side p hp => ?_, fun side p hp => hmono _ _ (h.delivered_sent _ _ hp),
    fun r hr => ?_, h.handler_side, fun hone => ?_⟩
  · obtain ⟨r, hr, hid, hmessage, hout⟩ := h.settled_own n c o' hc ho'
    exact ⟨r, hkeep r hr (by simp [hout]), hid, hmessage, hout⟩
  · exact hids ▸ h.runs_unique hone
  · rcases List.mem_append.1 hp with hp | hp
    · exact hmono _ _ (h.wire_sent _ _ hp)
    · obtain ⟨rfl, rfl⟩ := Prod.mk.inj (List.mem_singleton.1 hp)
      exact .answer (r := { run with outcome := some o }) (List.mem_set_self hk) rfl
  · rcases List.mem_or_eq_of_mem_set hr with hr | rfl
    · exact h.runs_own r hr
    · exact h.runs_own run (List.mem_of_getElem? hk)
  · -- the answer travels to the other side, so nothing new is on its way to the handler
    have hsame : (s.finish answering k run o).received answering = s.received answering := by
      simp [State.received, State.finish, hids]
    exact hsame ▸ h.received_once hone

/-! ### The delivery of a packet -/

omit [JsValue V] in
/-- Moving a packet from the wire to the handlers of its side, at most one of them, keeps the messages
    received by the answering side pairwise distinct. -/
theorem received_deliver {s : State Id V} (hone : (s.received answering).Nodup) {k j : ℕ} {side : Side}
    {p : Packet Id V} (hk : s.wire[k]? = some (side, p)) (hj : j ≤ 1)
    (hside : j ≠ 0 → side = answering) :
    (((s.wire.eraseIdx k).filter (fun q => q.1 = answering)).map (fun q => q.2.conversationId)
      ++ (s.runs ++ startedRuns p j).map HandlerRun.conversationId).Nodup := by
  obtain ⟨hlt, hget⟩ := List.getElem?_eq_some_iff.1 hk
  have hperm : s.wire.Perm ((side, p) :: s.wire.eraseIdx k) := by
    rw [← hget]
    exact (List.getElem_cons_eraseIdx_perm hlt).symm
  have hwire := ((hperm.filter (fun q => decide (q.1 = answering))).map
    (fun q => q.2.conversationId)).append_right (s.runs.map HandlerRun.conversationId)
  have hnodup := hwire.nodup_iff.1 hone
  rcases Nat.le_one_iff_eq_zero_or_eq_one.1 hj with rfl | rfl
  · refine hnodup.sublist ?_
    simp only [startedRuns, List.replicate_zero, List.append_nil]
    exact (((List.sublist_cons_self _ _).filter _).map _).append_right _
  · have hs : side = answering := hside (by decide)
    simp only [hs, decide_true, List.filter_cons_of_pos, List.map_cons, List.cons_append] at hnodup
    simp only [startedRuns, List.replicate_one, List.map_append, List.map_cons, List.map_nil]
    rw [← List.append_assoc]
    exact (List.perm_append_singleton _ _).nodup_iff.2 hnodup

section Deliver

variable [DecidableEq Id] {s : State Id V}

/-- What the delivery of a packet does: either it is the first answer to a call of the side it
    reaches, which settles with the outcome of the run that sent it; or nothing waits for it there,
    and the handlers of that side start. -/
theorem deliver_cases (h : Inv uuid answering s) (hinj : Function.Injective uuid) {k : ℕ}
    {side : Side} {p : Packet Id V} (hk : s.wire[k]? = some (side, p)) :
    (∃ (n : ℕ) (c : Call V) (r : HandlerRun Id V) (o : Outcome V),
      s.calls[n]? = some c ∧ c.side = side ∧ c.settled = [] ∧ side = answering.other
      ∧ p.conversationId = uuid n ∧ r ∈ s.runs ∧ r.outcome = some o ∧ r.conversationId = uuid n
      ∧ r.message = c.message
      ∧ ({ s with wire := s.wire.eraseIdx k } : State Id V).deliver uuid side p
        = { s with
            calls := s.calls.set n { c with settled := [o] }
            receivers := s.receivers.removeListener side (.response n)
            wire := s.wire.eraseIdx k
            delivered := s.delivered ++ [(side, p)] })
    ∨ ((∀ (n : ℕ) (c : Call V), s.calls[n]? = some c → c.side = side → p.conversationId = uuid n →
        c.settled ≠ [])
      ∧ ({ s with wire := s.wire.eraseIdx k } : State Id V).deliver uuid side p
        = { s with
            wire := s.wire.eraseIdx k
            runs := s.runs ++ startedRuns p ((s.receivers.listeners side).count .onRequest)
            delivered := s.delivered ++ [(side, p)] }) := by
  have hsent : Sent uuid answering s side p := h.wire_sent _ _ (List.mem_of_getElem? hk)
  by_cases hwait : ∃ n c, s.calls[n]? = some c ∧ c.side = side ∧ p.conversationId = uuid n
      ∧ c.settled = []
  · obtain ⟨n, c, hc, hside, hid, hopen⟩ := hwait
    obtain ⟨r, hr, o, ho, hrid, hmessage, hother, rfl⟩ := h.sent_to_caller hinj hsent hc hside hid
    refine Or.inl ⟨n, c, r, o, hc, hside, hopen, hother, hid, hr, ho, hrid, hmessage, ?_⟩
    have hone : (s.receivers.listeners side).count (.response n) = 1 := by
      rw [h.listeners_exact side n]
      simp [State.unanswered, hc, hside, hopen]
    have hquiet : (s.receivers.listeners side).count .onRequest = 0 := by
      refine List.count_eq_zero.2 (fun hmem => ?_)
      exact Side.other_ne answering (hother ▸ h.handler_side side hmem)
    simp only [State.deliver]
    rw [emit_match uuid side _ hinj _ _ n hone hid, hquiet]
    simp [State.settle, startedRuns, answerPacket, List.modify_eq_set_getElem?, hc, hopen]
  · refine Or.inr ⟨fun n c hc hside hid hopen => hwait ⟨n, c, hc, hside, hid, hopen⟩, ?_⟩
    simp only [State.deliver]
    refine emit_inert uuid side p _ _ (fun n hn hid => hwait ?_)
    have hun := h.mem_listeners.1 hn
    simp only [State.unanswered] at hun
    split at hun
    · next c hc =>
        simp only [Bool.and_eq_true, decide_eq_true_eq, List.isEmpty_iff] at hun
        exact ⟨n, c, hc, hun.1, hid, hun.2⟩
    · exact absurd hun (by simp)

theorem inv_deliver (h : Inv uuid answering s) (hinj : Function.Injective uuid) {k : ℕ} {side : Side}
    {p : Packet Id V} (hk : s.wire[k]? = some (side, p)) :
    Inv uuid answering (({ s with wire := s.wire.eraseIdx k } : State Id V).deliver uuid side p) := by
  have hsent : Sent uuid answering s side p := h.wire_sent _ _ (List.mem_of_getElem? hk)
  rcases deliver_cases h hinj hk with
    ⟨n, c, r, o, hc, hside, hopen, hother, hid, hr, ho, hrid, hmessage, heq⟩ | ⟨hclosed, heq⟩
  · -- the first answer to the call `n`
    rw [heq]
    have hget : ∀ (m : ℕ) (d : Call V),
        (s.calls.set n { c with settled := [o] })[m]? = some d →
        (m = n ∧ d = { c with settled := [o] }) ∨ (m ≠ n ∧ s.calls[m]? = some d) := by
      intro m d hd
      rcases eq_or_ne m n with rfl | hmn
      · rw [List.getElem?_set_self (List.getElem?_eq_some_iff.1 hc).1] at hd
        exact Or.inl ⟨rfl, (Option.some.inj hd).symm⟩
      · rw [List.getElem?_set_ne (Ne.symm hmn)] at hd
        exact Or.inr ⟨hmn, hd⟩
    have hset : ∀ (m : ℕ) (d : Call V), s.calls[m]? = some d →
        ∃ d', (s.calls.set n { c with settled := [o] })[m]? = some d' ∧ d'.side = d.side
          ∧ d'.message = d.message := by
      intro m d hd
      rcases eq_or_ne n m with rfl | hnm
      · obtain rfl : c = d := by rw [hc] at hd; exact Option.some.inj hd
        exact ⟨_, List.getElem?_set_self (List.getElem?_eq_some_iff.1 hc).1, rfl, rfl⟩
      · exact ⟨d, by rw [List.getElem?_set_ne hnm]; exact hd, rfl, rfl⟩
    have hmono : ∀ side' q, Sent uuid answering s side' q → Sent uuid answering
        { s with
          calls := s.calls.set n { c with settled := [o] }
          receivers := s.receivers.removeListener side (.response n)
          wire := s.wire.eraseIdx k
          delivered := s.delivered ++ [(side, p)] } side' q :=
      fun side' q => Sent.mono hset (fun r' hr' _ => hr')
    have hcount : ((s.receivers.removeListener side (.response n)).listeners answering).count
        .onRequest = (s.receivers.listeners answering).count .onRequest := by
      rw [EventEmitter.listeners_removeListener]
      split
      · exact List.count_erase_of_ne (by simp)
      · rfl
    refine ⟨⟨?_, ?_, ?_, ?_, ?_⟩, ?_, ?_, ?_, ?_, ?_⟩
    · intro m d hd
      rcases hget m d hd with ⟨-, rfl⟩ | ⟨-, hd⟩
      · exact Nat.le_refl 1
      · exact h.settled_once m d hd
    · intro m d hd
      rcases hget m d hd with ⟨rfl, rfl⟩ | ⟨hmn, hd⟩
      · exact iff_of_true (by simp) ⟨p, by simp [hside], hid⟩
      · refine (h.settled_iff_answered m d hd).trans (exists_congr fun q => and_congr_left ?_)
        intro hq
        have hqp : q ≠ p := fun he => hmn (hinj (by rw [← hq, he, hid]))
        simp [hqp]
    · intro m d o' hd ho'
      rcases hget m d hd with ⟨rfl, rfl⟩ | ⟨-, hd⟩
      · obtain rfl := List.mem_singleton.1 ho'
        exact ⟨r, hr, hrid, hmessage, ho⟩
      · exact h.settled_own m d o' hd ho'
    · intro side' m
      have hold := h.listeners_exact side' m
      rw [EventEmitter.listeners_removeListener]
      rcases eq_or_ne m n with rfl | hmn
      · have hun : ({ s with calls := s.calls.set m { c with settled := [o] } } :
            State Id V).unanswered side' m = false := by
          simp [State.unanswered, List.getElem?_set_self (List.getElem?_eq_some_iff.1 hc).1]
        have hunold : s.unanswered side' m = decide (side = side') := by
          simp [State.unanswered, hc, hside, hopen]
        split
        · next he =>
            rw [List.count_erase_self, hold, hunold]
            simp [he, State.unanswered, List.getElem?_set_self (List.getElem?_eq_some_iff.1 hc).1]
        · next he =>
            rw [hold, hunold]
            simp [he, State.unanswered, List.getElem?_set_self (List.getElem?_eq_some_iff.1 hc).1]
      · have hne : Listener.response m ≠ .response n := fun he => hmn (Listener.response.inj he)
        have hsame : (if side = side' then (s.receivers.listeners side').erase (.response n)
            else s.receivers.listeners side').count (.response m)
            = (s.receivers.listeners side').count (.response m) := by
          split
          · exact List.count_erase_of_ne hne
          · rfl
        rw [hsame, hold]
        simp only [State.unanswered, List.getElem?_set_ne (Ne.symm hmn)]
    · intro hone
      exact h.runs_unique (by rwa [hcount] at hone)
    · exact fun side' q hq => hmono _ _ (h.wire_sent _ _ (List.mem_of_mem_eraseIdx hq))
    · intro side' q hq
      rcases List.mem_append.1 hq with hq | hq
      · exact hmono _ _ (h.delivered_sent _ _ hq)
      · obtain ⟨rfl, rfl⟩ := Prod.mk.inj (List.mem_singleton.1 hq)
        exact hmono _ _ hsent
    · intro r' hr'
      obtain ⟨m, d, hd, hdside, hdid, hdmessage⟩ := h.runs_own r' hr'
      obtain ⟨d', hd', hs', hm'⟩ := hset m d hd
      exact ⟨m, d', hd', hs'.trans hdside, hdid, hdmessage.trans hm'.symm⟩
    · intro side' hmem
      rw [EventEmitter.listeners_removeListener] at hmem
      refine h.handler_side side' ?_
      split at hmem
      · exact List.mem_of_mem_erase hmem
      · exact hmem
    · intro hone
      rw [hcount] at hone
      have := received_deliver (h.received_once hone) hk (Nat.zero_le 1) (fun hne => absurd rfl hne)
      simpa [State.received, startedRuns] using this
  · -- nothing waits for the packet
    rw [heq]
    have hmono : ∀ side' q, Sent uuid answering s side' q → Sent uuid answering
        { s with
          wire := s.wire.eraseIdx k
          runs := s.runs ++ startedRuns p ((s.receivers.listeners side).count .onRequest)
          delivered := s.delivered ++ [(side, p)] } side' q :=
      fun side' q => Sent.mono (fun m d hd => ⟨d, hd, rfl, rfl⟩)
        (fun r' hr' _ => List.mem_append_left _ hr')
    have hhandler : (s.receivers.listeners side).count .onRequest ≠ 0 → side = answering :=
      fun hne => h.handler_side side (List.count_pos_iff.1 (Nat.pos_of_ne_zero hne))
    have hnodup : (s.receivers.listeners answering).count .onRequest ≤ 1 → _ :=
      fun hone => received_deliver (h.received_once hone) hk
        (j := (s.receivers.listeners side).count .onRequest)
        (by
          by_cases hz : (s.receivers.listeners side).count .onRequest = 0
          · omega
          · rwa [hhandler hz]) hhandler
    refine ⟨⟨h.settled_once, ?_, ?_, h.listeners_exact, ?_⟩, ?_, ?_, ?_, h.handler_side, hnodup⟩
    · intro m d hd
      refine (h.settled_iff_answered m d hd).trans ⟨?_, ?_⟩
      · rintro ⟨q, hq, hqid⟩
        exact ⟨q, List.mem_append_left _ hq, hqid⟩
      · rintro ⟨q, hq, hqid⟩
        rcases List.mem_append.1 hq with hq | hq
        · exact ⟨q, hq, hqid⟩
        · obtain ⟨hqside, rfl⟩ := Prod.mk.inj (List.mem_singleton.1 hq)
          exact (h.settled_iff_answered m d hd).1 (hclosed m d hd hqside hqid)
    · intro m d o hd ho
      obtain ⟨r, hr, hrest⟩ := h.settled_own m d o hd ho
      exact ⟨r, List.mem_append_left _ hr, hrest⟩
    · exact fun hone => (List.nodup_append.1 (hnodup hone)).2.1
    · exact fun side' q hq => hmono _ _ (h.wire_sent _ _ (List.mem_of_mem_eraseIdx hq))
    · intro side' q hq
      rcases List.mem_append.1 hq with hq | hq
      · exact hmono _ _ (h.delivered_sent _ _ hq)
      · obtain ⟨rfl, rfl⟩ := Prod.mk.inj (List.mem_singleton.1 hq)
        exact hmono _ _ hsent
    · intro r' hr'
      rcases List.mem_append.1 hr' with hr' | hr'
      · exact h.runs_own r' hr'
      · obtain ⟨hne, rfl⟩ := List.mem_replicate.1 hr'
        have hans : side = answering := hhandler hne
        cases hsent with
        | @request m d hd =>
            exact ⟨m, d, hd, by rw [← hans, Side.other_other], rfl, rfl⟩
        | answer hr ho => exact absurd hans (Side.other_ne _)

end Deliver

/-! ## The main result -/

theorem inv_reaches [DecidableEq Id] (hinj : Function.Injective uuid) {s : State Id V}
    (h : (machine uuid answering).Reaches Machine.anyStep s) : Inv uuid answering s := by
  refine h.invariant inv_init (fun s e s' _ _ hs hstep => ?_)
  simp only [machine, step] at hstep
  cases e with
  | request side message =>
      obtain rfl := Option.some.inj hstep
      exact inv_request hs hinj side message
  | onRequest =>
      obtain rfl := Option.some.inj hstep
      exact inv_onRequest hs
  | deliver k =>
      simp only at hstep
      split at hstep
      · next side p hk =>
          obtain rfl := Option.some.inj hstep
          exact inv_deliver hs hinj hk
      · exact absurd hstep (by simp)
  | finish k outcome =>
      simp only at hstep
      split at hstep
      · next run hk =>
          split at hstep
          · next hrun =>
              obtain rfl := Option.some.inj hstep
              exact inv_finish hs hk hrun outcome
          · exact absurd hstep (by simp)
      · exact absurd hstep (by simp)

/-- **Requests and answers are paired.** With pairwise distinct conversation ids, in every state that
    overlapping `request()` calls of both sides, deliveries in any order and handlers ending in any
    order can lead to. -/
theorem request_response_paired [DecidableEq Id] (hinj : Function.Injective uuid) {s : State Id V}
    (h : (machine uuid answering).Reaches Machine.anyStep s) : Paired uuid answering s :=
  (inv_reaches hinj h).toPaired

/-- Two overlapping requests of the renderer, the second answered first and with an error. -/
def overlappingRequests : List (Event (Option Bool)) :=
  [.onRequest, .request .renderer (some true), .request .renderer (some false), .deliver 0, .deliver 0,
    .finish 1 (.error none), .finish 0 (.ok (some true)), .deliver 0]

/-- The run of `overlappingRequests` ends with the first call open, its answer on the wire, and the
    second one rejected with its own error. -/
theorem request_response_paired_overlapping :
    ∃ s : State ℕ (Option Bool), (machine id .main).exec {} overlappingRequests = some s
      ∧ s.calls.map Call.settled = [[], [.error none]] ∧ Paired id .main s :=
  ⟨_, rfl, rfl, request_response_paired Function.injective_id
    (Machine.reaches_of_exec overlappingRequests rfl)⟩

end Klarity.IpcConversation
