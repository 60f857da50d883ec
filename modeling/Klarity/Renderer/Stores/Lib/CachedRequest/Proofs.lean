import Klarity.Library.Lists
import Klarity.Renderer.Stores.Lib.CachedRequest
import Mathlib.Tactic.Common

set_option autoImplicit false

/-! # The cache of a CachedRequest

A cache entry holds a result of the method for the entry's own arguments, and a request that is not
invalidated shows the result of its current entry (`Inv`). Both are lost when a response arrives while
an entry for other arguments is current, which takes a reset under the pending call and another call
(`OwnEntry`). -/

namespace Klarity.CachedRequest

open Request (Fields ApiCall)

variable {Args Result Err : Type} [DecidableEq Args]

/-! ## What is promised -/

/-- A call of the method with these arguments was answered with `r`. -/
def Produced (calls : List (MethodCall Args Result Err)) (args : Args) (r : Result) : Prop :=
  ∃ c ∈ calls, c.args = args ∧ c.outcome = some (.ok r)

/-- The results in the cache were produced for the arguments of their entries, and when `execute()`
    returns without a call, and not because it waits for a response, then the result was produced for
    its arguments. -/
structure Sound (s : State Args Result Err) : Prop where
  cached : ∀ k ∈ s.apiCalls, ∀ c, s.objects[k]? = some c →
    ∀ r, c.result = some r → Produced s.calls c.args r
  shortCircuit : ∀ args, s.isWaitingForResponse = false → (s.execute args).calls = s.calls →
    ∃ r, (s.execute args).result = some r ∧ Produced s.calls args r

/-- A success arrives while no entry of the cache is current, or the one for the arguments of the
    answered call. The timer that applies a cached result fires while the request is invalidated, or no
    entry of the cache is current, or the one that it applies. -/
def OwnEntry (s : State Args Result Err) : Event Args Result Err → Prop
  | .tick i =>
      ∀ c ∈ s.calls[i]?, ∀ k ∈ s.currentApiCall, k ∈ s.apiCalls → s.isInvalidated = false →
        c.existingApiCall = none ∨ c.existingApiCall = some k
  | .respond i outcome =>
      outcome.isOk = true →
        ∀ c ∈ s.calls[i]?, ∀ k ∈ s.currentApiCall, k ∈ s.apiCalls → s.isFor c.args k = true
  | _ => True

instance decidableOwnEntry (s : State Args Result Err) (e : Event Args Result Err) :
    Decidable (OwnEntry s e) :=
  match e with
  | .execute _ | .invalidate _ | .removeCacheForCallWith _ | .reset => isTrue trivial
  | .tick _ => inferInstanceAs (Decidable (∀ c ∈ _, _))
  | .respond _ _ => inferInstanceAs (Decidable (_ → _))

/-! ## The invariant -/

/-- The cache is sound, and a current entry that is valid holds the published result. -/
structure Inv (s : State Args Result Err) : Prop where
  cached : ∀ k ∈ s.apiCalls, ∀ c, s.objects[k]? = some c →
    ∀ r, c.result = some r → Produced s.calls c.args r
  lt : ∀ k ∈ s.apiCalls, k < s.objects.length
  valid : s.isInvalidated = false → ∀ k, s.currentApiCall = some k → k ∈ s.apiCalls →
    ∃ c r, s.objects[k]? = some c ∧ c.result = some r ∧ s.result = some r

omit [DecidableEq Args] in
theorem inv_init : Inv ({} : State Args Result Err) := by
  refine ⟨?_, ?_, ?_⟩ <;> simp

/-- The entry found for some arguments is in the cache, and for these arguments. -/
theorem findApiCall_spec {s : State Args Result Err} {args : Args} {k : ℕ}
    (h : s.findApiCall args = some k) : k ∈ s.apiCalls ∧ ∃ c, s.objects[k]? = some c ∧ c.args = args := by
  refine ⟨List.mem_of_find?_eq_some h, ?_⟩
  have hfor := List.find?_some h
  simp only [State.isFor] at hfor
  split at hfor
  · next c hc => exact ⟨c, hc, by simpa using hfor⟩
  · exact absurd hfor (by simp)

@[simp] theorem selectApiCall_calls (s : State Args Result Err) (args : Args) :
    (s.selectApiCall args).calls = s.calls := by
  unfold State.selectApiCall State.addApiCall
  split
  · split <;> rfl
  · rfl

theorem inv_selectApiCall {s : State Args Result Err} (h : Inv s) (args : Args) :
    Inv (s.selectApiCall args) := by
  unfold State.selectApiCall State.addApiCall
  split
  · split
    · exact h
    · exact ⟨h.cached, h.lt, by simp⟩
  · refine ⟨?_, ?_, by simp⟩
    · intro k hk c hc r hr
      rcases List.getElem?_concat_eq_some.1 hc with hc | ⟨rfl, rfl⟩
      · rcases List.mem_append.1 hk with hk | hk
        · exact h.cached k hk c hc r hr
        · -- the new entry is not one of the old objects
          obtain rfl := List.mem_singleton.1 hk
          exact absurd hc (by simp)
      · exact absurd hr (by simp)
    · intro k hk
      rw [List.length_append]
      rcases List.mem_append.1 hk with hk | hk
      · exact Nat.lt_add_right _ (h.lt k hk)
      · obtain rfl := List.mem_singleton.1 hk
        exact Nat.lt_succ_self _

omit [DecidableEq Args] in
theorem Produced.append {calls : List (MethodCall Args Result Err)} {args : Args} {r : Result}
    (h : Produced calls args r) (calls' : List (MethodCall Args Result Err)) :
    Produced (calls ++ calls') args r := by
  obtain ⟨c, hc, hargs, hout⟩ := h
  exact ⟨c, List.mem_append_left _ hc, hargs, hout⟩

omit [DecidableEq Args] in
/-- An update of an open call, or one that keeps arguments and outcome, keeps what was produced. -/
theorem Produced.modify {calls : List (MethodCall Args Result Err)} {args : Args} {r : Result}
    (h : Produced calls args r) {i : ℕ} {f : MethodCall Args Result Err → MethodCall Args Result Err}
    (hf : ∀ c, calls[i]? = some c → (f c).args = c.args ∧ (c.outcome = none ∨ (f c).outcome = c.outcome)) :
    Produced (calls.modify i f) args r := by
  obtain ⟨c, hc, hargs, hout⟩ := h
  obtain ⟨n, hn⟩ := List.mem_iff_getElem?.1 hc
  rcases eq_or_ne i n with rfl | hne
  · obtain ⟨hfargs, hfout⟩ := hf c hn
    refine ⟨f c, List.mem_of_getElem? (i := i) (by simp [hn]), hfargs.trans hargs, ?_⟩
    rcases hfout with hnone | hsame
    · exact absurd (hnone.symm.trans hout) (by simp)
    · exact hsame.trans hout
  · exact ⟨c, List.mem_of_getElem? (i := n) (by rw [List.getElem?_modify_ne _ _ hne]; exact hn),
      hargs, hout⟩

theorem inv_execute {s : State Args Result Err} (h : Inv s) (args : Args) : Inv (s.execute args) := by
  have hsel := inv_selectApiCall h args
  unfold State.execute
  split
  · exact h
  · split
    · exact hsel
    · next hinv =>
        refine ⟨?_, hsel.lt, fun hv => absurd hv hinv⟩
        intro k hk c hc r hr
        have hp := hsel.cached k hk c hc r hr
        rw [selectApiCall_calls] at hp
        exact hp.append _

theorem inv_invalidate {s : State Args Result Err} (h : Inv s) (immediately : Bool) :
    Inv (s.invalidate immediately) := by
  have hinv : Inv { s with isInvalidated := true } := ⟨h.cached, h.lt, by simp⟩
  unfold State.invalidate
  split
  · exact inv_execute hinv _
  · exact hinv

theorem inv_removeCacheForCallWith {s : State Args Result Err} (h : Inv s) (args : Args) :
    Inv (s.removeCacheForCallWith args) := by
  refine ⟨?_, ?_, ?_⟩
  · exact fun k hk => h.cached k (List.mem_of_mem_filter hk)
  · exact fun k hk => h.lt k (List.mem_of_mem_filter hk)
  · exact fun hv k hc hk => h.valid hv k hc (List.mem_of_mem_filter hk)

omit [DecidableEq Args] in
theorem inv_reset {s : State Args Result Err} (h : Inv s) : Inv s.reset :=
  ⟨h.cached, h.lt, fun hv => absurd hv (by simp [State.reset])⟩

theorem inv_tick {s : State Args Result Err} (h : Inv s) {i : ℕ} {c : MethodCall Args Result Err}
    (hc : s.calls[i]? = some c) (hok : OwnEntry s (.tick i)) : Inv (s.tick i c) := by
  refine ⟨?_, h.lt, ?_⟩
  · intro k hk o ho r hr
    exact (h.cached k hk o ho r hr).modify fun _ _ => ⟨rfl, .inr rfl⟩
  · intro hv k hcur hk
    obtain ⟨o, r, ho, hor, hres⟩ := h.valid hv k hcur hk
    refine ⟨o, r, ho, hor, ?_⟩
    -- the timer applies no result, or the one of the current entry
    rcases hok c hc k hcur hk hv with hnone | hsome
    · simpa [State.tick, State.cachedResult, hnone] using hres
    · simp [State.tick, State.cachedResult, hsome, ho, hor]

omit [DecidableEq Args] in
/-- The response goes to the current entry. -/
theorem respond_objects {s : State Args Result Err} {i : ℕ} {outcome : Except Err Result} {k : ℕ}
    {o : ApiCall Args Result} (ho : (s.respond i outcome).objects[k]? = some o) :
    ∃ o', s.objects[k]? = some o'
      ∧ ((s.currentApiCall = some k ∧ o = o'.settle outcome) ∨ (s.currentApiCall ≠ some k ∧ o = o')) := by
  simp only [State.respond] at ho
  split at ho
  · next k' hcur =>
      rcases List.getElem?_modify_eq_some.1 ho with ⟨rfl, o', ho', rfl⟩ | ⟨hne, ho'⟩
      · exact ⟨o', ho', .inl ⟨hcur, rfl⟩⟩
      · exact ⟨o, ho', .inr ⟨by rw [hcur]; simpa using hne, rfl⟩⟩
  · next hcur => exact ⟨o, ho, .inr ⟨by rw [hcur]; simp, rfl⟩⟩

theorem inv_respond {s : State Args Result Err} (h : Inv s) {i : ℕ} {c : MethodCall Args Result Err}
    {outcome : Except Err Result} (hc : s.calls[i]? = some c) (hopen : c.outcome = none)
    (hok : OwnEntry s (.respond i outcome)) : Inv (s.respond i outcome) := by
  have hmono : ∀ {args r}, Produced s.calls args r → Produced (s.respond i outcome).calls args r :=
    fun hp => hp.modify fun c' hc' => by
      obtain rfl := Option.some.inj (hc.symm.trans hc')
      exact ⟨rfl, .inl hopen⟩
  refine ⟨?_, ?_, ?_⟩
  · intro k hk o ho r hr
    obtain ⟨o', ho', ⟨hcur, rfl⟩ | ⟨-, rfl⟩⟩ := respond_objects ho
    · cases outcome with
      | ok result =>
          -- the current entry is for the arguments of the answered call
          obtain rfl := Option.some.inj hr
          have hfor := hok rfl c hc k hcur hk
          simp only [State.isFor, ho', decide_eq_true_eq] at hfor
          refine ⟨{ c with outcome := some (.ok result) }, ?_, hfor.symm, rfl⟩
          exact List.mem_of_getElem? (i := i) (by simp [State.respond, hc])
      | error error => exact hmono (h.cached k hk o' ho' r hr)
    · exact hmono (h.cached k hk o ho' r hr)
  · intro k hk
    have := h.lt k hk
    simp only [State.respond]
    split
    · rwa [List.length_modify]
    · exact this
  · intro hv k hcur hk
    cases outcome with
    | ok result =>
        have hlt := h.lt k hk
        refine ⟨(s.objects[k]).settle (.ok result : Except Err Result), result, ?_, rfl, rfl⟩
        simp only [State.respond] at hcur ⊢
        rw [hcur]
        simp [hlt]
    | error error =>
        have hv' : s.isInvalidated = false := by simpa [State.respond, Except.isOk, Except.toBool] using hv
        obtain ⟨o, r, ho, hor, hres⟩ := h.valid hv' k hcur hk
        refine ⟨o, r, ?_, hor, hres⟩
        simp only [State.respond] at hcur ⊢
        rw [hcur]
        simp [ho, ApiCall.settle]

/-! ## Runs -/

theorem inv_step {s s' : State Args Result Err} {e : Event Args Result Err} (h : Inv s)
    (hok : OwnEntry s e) (hstep : step s e = some s') : Inv s' := by
  cases e with
  | execute callArgs => exact Option.some.inj hstep ▸ inv_execute h callArgs
  | invalidate immediately => exact Option.some.inj hstep ▸ inv_invalidate h immediately
  | removeCacheForCallWith args => exact Option.some.inj hstep ▸ inv_removeCacheForCallWith h args
  | reset => exact Option.some.inj hstep ▸ inv_reset h
  | tick i =>
      simp only [step] at hstep
      split at hstep
      · next c hc =>
          split at hstep
          · exact absurd hstep (by simp)
          · exact Option.some.inj hstep ▸ inv_tick h hc hok
      · exact absurd hstep (by simp)
  | respond i outcome =>
      simp only [step] at hstep
      split at hstep
      · next c hc =>
          split at hstep
          · next hopen => exact Option.some.inj hstep ▸ inv_respond h hc hopen.2 hok
          · exact absurd hstep (by simp)
      · exact absurd hstep (by simp)

theorem inv_reaches {s : State Args Result Err}
    (h : (machine Args Result Err).Reaches OwnEntry s) : Inv s :=
  h.invariant (P := Inv) inv_init fun _ _ _ _ hok hi hstep => inv_step hi hok hstep

/-- A call that is not issued found the current entry valid. -/
theorem shortCircuit_cases {s : State Args Result Err} {args : Args}
    (hw : s.isWaitingForResponse = false) (h : (s.execute args).calls = s.calls) :
    s.execute args = s ∧ s.isInvalidated = false
      ∧ ∃ k, s.findApiCall args = some k ∧ s.currentApiCall = some k := by
  unfold State.execute at h ⊢
  rw [if_neg (by simp [hw])] at h ⊢
  split at h
  · next hv =>
      rw [if_pos hv]
      unfold State.selectApiCall at hv ⊢
      split at hv
      · next k hk =>
          split at hv
          · next hcur => exact ⟨by simp [hcur], hv, k, hk, hcur⟩
          · exact absurd hv (by simp)
      · exact absurd hv (by simp)
  · exact absurd h (by simp)

theorem Inv.sound {s : State Args Result Err} (h : Inv s) : Sound s := by
  refine ⟨h.cached, fun args hw hcalls => ?_⟩
  obtain ⟨hs, hv, k, hk, hcur⟩ := shortCircuit_cases hw hcalls
  obtain ⟨hmem, c, hc, hargs⟩ := findApiCall_spec hk
  obtain ⟨c', r, hc', hr, hres⟩ := h.valid hv k hcur hmem
  obtain rfl := Option.some.inj (hc.symm.trans hc')
  exact ⟨r, by rw [hs]; exact hres, hargs ▸ h.cached k hmem c hc r hr⟩

/-! ## The main results -/

/-- Two calls with a reset between them, each answered before the next one, and a cached call. -/
def cachedCall : List (Event ℕ ℕ ℕ) :=
  [.execute 1, .tick 0, .respond 0 (.ok 10), .reset, .execute 2, .tick 1, .respond 1 (.ok 20),
    .execute 1, .tick 2, .respond 2 (.ok 11), .execute 1]

/-- A reset under a pending call, a call for other arguments, and the response to the first one. -/
def staleResponse : List (Event ℕ ℕ ℕ) :=
  [.execute 1, .tick 0, .reset, .execute 2, .tick 1, .respond 0 (.ok 10)]

end Klarity.CachedRequest
