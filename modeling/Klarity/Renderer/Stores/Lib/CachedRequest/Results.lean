import Klarity.Library.Lists
import Klarity.Renderer.Stores.Lib.CachedRequest
import Mathlib.Tactic.Common

set_option autoImplicit false

/-! # What a CachedRequest can show

Whatever is current when a response arrives, the request only ever shows results that its calls were answered
with. So what is known of the arguments of all calls is known of every result. -/

namespace Klarity.CachedRequest

open Request (ApiCall)

variable {Args Result Err : Type} [DecidableEq Args] {s s' : State Args Result Err} {asked : Args → Prop}
  {answered : Result → Prop}

/-- All calls are made with arguments in `asked`, and all results are in `answered`. -/
structure Shows (s : State Args Result Err) (asked : Args → Prop) (answered : Result → Prop) : Prop where
  result : ∀ r, s.result = some r → answered r
  cached : ∀ c ∈ s.objects, asked c.args ∧ ∀ r, c.result = some r → answered r
  calls : ∀ c ∈ s.calls, asked c.args

omit [DecidableEq Args] in
theorem Shows.init : Shows ({} : State Args Result Err) asked answered := by
  refine ⟨?_, ?_, ?_⟩
  · intro r hr
    cases hr
  · simp
  · simp

theorem Shows.selectApiCall (h : Shows s asked answered) {args : Args} (hargs : asked args) :
    Shows (s.selectApiCall args) asked answered := by
  unfold State.selectApiCall
  split
  · split
    · exact h
    · exact ⟨h.result, h.cached, h.calls⟩
  · refine ⟨h.result, ?_, h.calls⟩
    intro c hc
    rcases List.mem_append.1 hc with hold | hnew
    · exact h.cached c hold
    · obtain rfl := List.mem_singleton.1 hnew
      refine ⟨hargs, ?_⟩
      intro r hr
      cases hr

theorem Shows.execute (h : Shows s asked answered) {args : Args} (hargs : asked args) :
    Shows (s.execute args) asked answered := by
  have hselected := h.selectApiCall hargs
  unfold State.execute
  split
  · exact h
  · split
    · exact hselected
    · refine ⟨hselected.result, hselected.cached, ?_⟩
      intro c hc
      rcases List.mem_append.1 hc with hold | hnew
      · exact h.calls c hold
      · obtain rfl := List.mem_singleton.1 hnew
        exact hargs

theorem Shows.invalidate (h : Shows s asked answered) (immediately : Bool) :
    Shows (s.invalidate immediately) asked answered := by
  have hinvalidated : Shows { s with isInvalidated := true } asked answered := ⟨h.result, h.cached, h.calls⟩
  unfold State.invalidate
  split
  · next c hc =>
      obtain ⟨k, _, hk⟩ := Option.bind_eq_some_iff.1 hc
      exact hinvalidated.execute (h.cached c (List.mem_of_getElem? hk)).1
  · exact hinvalidated

omit [DecidableEq Args] in
theorem Shows.cachedResult (h : Shows s asked answered) {c : MethodCall Args Result Err} {r : Result}
    (hr : s.cachedResult c = some r) : answered r := by
  unfold State.cachedResult at hr
  split at hr
  · obtain ⟨entry, hentry, hr⟩ := Option.bind_eq_some_iff.1 hr
    exact (h.cached entry (List.mem_of_getElem? hentry)).2 r hr
  · exact h.result r hr

omit [DecidableEq Args] in
theorem Shows.calls_modify (h : Shows s asked answered) {i : ℕ}
    {f : MethodCall Args Result Err → MethodCall Args Result Err} (hf : ∀ c, (f c).args = c.args) :
    ∀ c ∈ s.calls.modify i f, asked c.args := by
  intro c hc
  obtain ⟨n, hn⟩ := List.mem_iff_getElem?.1 hc
  rcases List.getElem?_modify_eq_some.1 hn with ⟨_, old, hold, rfl⟩ | ⟨_, hold⟩
  · rw [hf]
    exact h.calls old (List.mem_of_getElem? hold)
  · exact h.calls c (List.mem_of_getElem? hold)

omit [DecidableEq Args] in
theorem Shows.tick (h : Shows s asked answered) (i : ℕ) (c : MethodCall Args Result Err) :
    Shows (s.tick i c) asked answered := by
  refine ⟨?_, h.cached, h.calls_modify ?_⟩
  · intro r hr
    exact h.cachedResult hr
  · intro c
    rfl

omit [DecidableEq Args] in
theorem Shows.respond (h : Shows s asked answered) {i : ℕ} {outcome : Except Err Result}
    (houtcome : ∀ r, outcome = .ok r → answered r) : Shows (s.respond i outcome) asked answered := by
  refine ⟨?_, ?_, h.calls_modify ?_⟩
  · intro r hr
    cases outcome with
    | ok result =>
      obtain rfl := Option.some.inj hr
      exact houtcome result rfl
    | error error => exact h.result r hr
  · have hsettled : ∀ c ∈ s.objects, asked (c.settle outcome).args ∧
        ∀ r, (c.settle outcome).result = some r → answered r := by
      intro c hc
      cases outcome with
      | ok result =>
        refine ⟨(h.cached c hc).1, ?_⟩
        rintro r ⟨⟩
        exact houtcome result rfl
      | error error => exact h.cached c hc
    intro c hc
    simp only [State.respond] at hc
    split at hc
    · obtain ⟨n, hn⟩ := List.mem_iff_getElem?.1 hc
      rcases List.getElem?_modify_eq_some.1 hn with ⟨_, old, hold, rfl⟩ | ⟨_, hold⟩
      · exact hsettled old (List.mem_of_getElem? hold)
      · exact h.cached c (List.mem_of_getElem? hold)
    · exact h.cached c hc
  · intro c
    rfl

/-! ## Steps of a call -/

theorem tick_of_step {i : ℕ} (h : step s (.tick i) = some s') :
    ∃ c, s.calls[i]? = some c ∧ s' = s.tick i c := by
  simp only [step] at h
  split at h
  · next c hc =>
      split at h
      · cases h
      · exact ⟨c, hc, (Option.some.inj h).symm⟩
  · cases h

theorem respond_of_step {i : ℕ} {outcome : Except Err Result} (h : step s (.respond i outcome) = some s') :
    ∃ c, s.calls[i]? = some c ∧ s' = s.respond i outcome := by
  simp only [step] at h
  split at h
  · next c hc =>
      split at h
      · exact ⟨c, hc, (Option.some.inj h).symm⟩
      · cases h
  · cases h

/-! ## What shows nothing new -/

theorem result_execute (s : State Args Result Err) (args : Args) : (s.execute args).result = s.result := by
  have hselect : (s.selectApiCall args).result = s.result := by
    unfold State.selectApiCall
    split
    · split
      · rfl
      · rfl
    · rfl
  unfold State.execute
  split
  · rfl
  · split
    · exact hselect
    · exact hselect

theorem result_invalidate (s : State Args Result Err) (immediately : Bool) :
    (s.invalidate immediately).result = s.result := by
  unfold State.invalidate
  split
  · exact result_execute _ _
  · rfl

end Klarity.CachedRequest
