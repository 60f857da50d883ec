import Mathlib.Data.List.Basic
import Mathlib.Data.Nat.Notation

set_option autoImplicit false

/-! # Event-driven machines and their runs

A program that reacts to events (calls, answers of other parties, timers) is a `Machine`: a state, and
a partial step function that says what each event does. All nondeterminism sits in the choice of the
next event, so a statement about every reachable state is a statement about every interleaving.

`Machine.Reaches ok` are the states reached by runs whose steps all meet the condition `ok` on the
state before the step and the event; `ok := Machine.anyStep` gives all runs. `Machine.exec` runs a
list of events, so a concrete run is checked by evaluation. -/

/-- A machine driven by events; `step s e = none` when the event `e` cannot happen in `s`. -/
structure Machine (State Event : Type) where
  init : State
  step : State → Event → Option State

namespace Machine

variable {State Event : Type} {M : Machine State Event}

/-- The condition on steps that every step meets. -/
def anyStep (_ : State) (_ : Event) : Prop := True

/-- The states reached by the runs in which every step meets `ok`. -/
inductive Reaches (M : Machine State Event) (ok : State → Event → Prop) : State → Prop
  | init : Reaches M ok M.init
  | step {s s' : State} {e : Event} :
      Reaches M ok s → ok s e → M.step s e = some s' → Reaches M ok s'

/-- A property of the initial state that every admitted step preserves holds in every reached
    state; the steps may use that the state before them is reached. -/
theorem Reaches.invariant {ok : State → Event → Prop} {P : State → Prop} (hinit : P M.init)
    (hstep : ∀ s e s', M.Reaches ok s → ok s e → P s → M.step s e = some s' → P s')
    {s : State} (h : M.Reaches ok s) : P s := by
  induction h with
  | init => exact hinit
  | step hr hok hs ih => exact hstep _ _ _ hr hok ih hs

/-- Weakening the condition on steps only adds runs. -/
theorem Reaches.mono {ok ok' : State → Event → Prop} (h : ∀ s e, ok s e → ok' s e)
    {s : State} (hr : M.Reaches ok s) : M.Reaches ok' s := by
  induction hr with
  | init => exact .init
  | step _ hok hs ih => exact .step ih (h _ _ hok) hs

/-- Runs whose invariant gives another condition on their steps meet that one. -/
theorem Reaches.of_invariant {ok ok' : State → Event → Prop} {P : State → Prop}
    (hP : ∀ s, M.Reaches ok s → P s) (himp : ∀ s e, P s → ok s e → ok' s e)
    {s : State} (h : M.Reaches ok s) : M.Reaches ok' s := by
  induction h with
  | init => exact .init
  | step hr hok hs ih => exact .step ih (himp _ _ (hP _ hr) hok) hs

/-- The state after a list of events, `none` as soon as one of them cannot happen. -/
def exec (M : Machine State Event) (s : State) : List Event → Option State
  | [] => some s
  | e :: es =>
      match M.step s e with
      | some s' => M.exec s' es
      | none => none

/-- Every step of the run of `es` from `s` meets `ok`. -/
def allSteps (M : Machine State Event) (ok : State → Event → Prop) (s : State) :
    List Event → Prop
  | [] => True
  | e :: es =>
      ok s e ∧ match M.step s e with
        | some s' => M.allSteps ok s' es
        | none => True

instance decidableAllSteps (ok : State → Event → Prop) [∀ s e, Decidable (ok s e)] (s : State)
    (es : List Event) : Decidable (M.allSteps ok s es) :=
  match es with
  | [] => isTrue trivial
  | e :: es =>
      match h : M.step s e with
      | some s' =>
          have := decidableAllSteps ok s' es
          decidable_of_iff (ok s e ∧ M.allSteps ok s' es) (by simp only [allSteps, h])
      | none => decidable_of_iff (ok s e) (by simp only [allSteps, h, and_true])

theorem Reaches.exec {ok : State → Event → Prop} (es : List Event) {s s' : State}
    (hr : M.Reaches ok s) (hok : M.allSteps ok s es) (h : M.exec s es = some s') :
    M.Reaches ok s' := by
  induction es generalizing s with
  | nil =>
      simp only [Machine.exec, Option.some.injEq] at h
      exact h ▸ hr
  | cons e es ih =>
      simp only [Machine.exec] at h
      simp only [allSteps] at hok
      split at h
      · next s₁ hs =>
          simp only [hs] at hok
          exact ih (.step hr hok.1 hs) hok.2 h
      · exact absurd h (by simp)

theorem allSteps_anyStep (es : List Event) (s : State) : M.allSteps anyStep s es := by
  induction es generalizing s with
  | nil => trivial
  | cons e es ih =>
      refine ⟨trivial, ?_⟩
      split
      · exact ih _
      · trivial

/-- A list of events that can happen from the initial state is a run. -/
theorem reaches_of_exec (es : List Event) {s : State} (h : M.exec M.init es = some s) :
    M.Reaches anyStep s :=
  .exec es .init (allSteps_anyStep es _) h

theorem exec_cons_eq_some {s s' : State} {e : Event} {es : List Event} :
    M.exec s (e :: es) = some s' ↔ ∃ t, M.step s e = some t ∧ M.exec t es = some s' := by
  simp only [exec]
  cases M.step s e with
  | none => simp
  | some t => simp

/-- A run is the run of its first events and one of the others from where it ends. -/
theorem exec_append_eq_some {s s' : State} {es es' : List Event} :
    M.exec s (es ++ es') = some s' ↔ ∃ t, M.exec s es = some t ∧ M.exec t es' = some s' := by
  induction es generalizing s with
  | nil => simp [exec]
  | cons e es ih =>
      simp only [List.cons_append, exec_cons_eq_some, ih]
      constructor
      · rintro ⟨t, ht, u, hu, hs'⟩
        exact ⟨u, ⟨t, ht, hu⟩, hs'⟩
      · rintro ⟨u, ⟨t, ht, hu⟩, hs'⟩
        exact ⟨t, ht, u, hu, hs'⟩

/-- What holds of the empty run, and of a run with one more event, holds of every run with the state that it leads to. -/
theorem exec_induction {P : List Event → State → Prop} (hnil : P [] M.init)
    (hconcat : ∀ es e s s', M.exec M.init es = some s → P es s → M.step s e = some s' → P (es ++ [e]) s')
    {es : List Event} {s : State} (h : M.exec M.init es = some s) : P es s := by
  have hrest : ∀ before t, M.exec M.init before = some t → P before t → M.exec t es = some s → P (before ++ es) s := by
    clear h
    induction es with
    | nil =>
        intro before t _ ht hs
        obtain rfl := Option.some.inj hs
        rwa [List.append_nil]
    | cons e es ih =>
        intro before t hbefore ht hs
        obtain ⟨t', ht', hs'⟩ := exec_cons_eq_some.1 hs
        have hone : M.exec M.init (before ++ [e]) = some t' :=
          exec_append_eq_some.2 ⟨t, hbefore, exec_cons_eq_some.2 ⟨t', ht', rfl⟩⟩
        have hall := ih (before ++ [e]) t' hone (hconcat before e t t' hbefore ht ht') hs'
        rwa [List.append_assoc] at hall
  exact hrest [] M.init rfl hnil h

/-! ## Runs from a later state, and histories -/

/-- The machine from another state on. -/
def startingAt (M : Machine State Event) (s : State) : Machine State Event :=
  { M with init := s }

/-- The machine with a history that every step updates and none reads. -/
def observe {History : Type} (M : Machine State Event) (start : History)
    (update : State → State → History → History) : Machine (State × History) Event where
  init := (M.init, start)
  step s e := (M.step s.1 e).map fun s' => (s', update s.1 s' s.2)

theorem observe_step_eq_some {History : Type} {start : History}
    {update : State → State → History → History} {s s' : State × History} {e : Event}
    (h : (M.observe start update).step s e = some s') :
    M.step s.1 e = some s'.1 ∧ s'.2 = update s.1 s'.1 s.2 := by
  obtain ⟨t, ht, rfl⟩ := Option.map_eq_some_iff.1 h
  exact ⟨ht, rfl⟩

/-- A run whose steps all lower a measure is at most as long as the measure. -/
theorem length_le_measure {ok : State → Event → Prop} {P : State → Prop} (measure : State → ℕ)
    (hstep : ∀ s e s', P s → ok s e → M.step s e = some s' → P s' ∧ measure s' < measure s)
    (es : List Event) {s s' : State} (hs : P s) (hok : M.allSteps ok s es)
    (h : M.exec s es = some s') : es.length ≤ measure s := by
  induction es generalizing s with
  | nil => exact Nat.zero_le _
  | cons e es ih =>
      simp only [Machine.exec] at h
      simp only [allSteps] at hok
      split at h
      · next s₁ hs₁ =>
          simp only [hs₁] at hok
          obtain ⟨hP, hlt⟩ := hstep _ _ _ hs hok.1 hs₁
          have hrest := ih hP hok.2 h
          rw [List.length_cons]
          omega
      · exact absurd h (by simp)

end Machine
