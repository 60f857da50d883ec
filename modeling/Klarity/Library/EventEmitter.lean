import Mathlib.Data.List.Basic
import Mathlib.Data.List.Nodup

set_option autoImplicit false

/-! # Event emitters

A registry of listeners per channel, with the order of registration kept. An emitter that emits on a
channel calls the listeners registered on it at that moment, in order: it iterates over a copy of its
list, so a listener that removes itself (or another one) while the emission is under way does not
change who is called, only the registry.

`emit` folds over that copy, threading the whole state of the program through the calls; the registry
is a part of this state. -/

/-- The listeners an emitter holds, with the channel each of them is registered on. -/
structure EventEmitter (Channel Listener : Type) where
  registered : List (Channel × Listener) := []

namespace EventEmitter

variable {Channel Listener State : Type}

/-- Register a listener, after the ones already there. -/
def on (em : EventEmitter Channel Listener) (c : Channel) (l : Listener) :
    EventEmitter Channel Listener :=
  { registered := em.registered ++ [(c, l)] }

/-- Remove one registration of a listener. -/
def removeListener [DecidableEq Channel] [DecidableEq Listener]
    (em : EventEmitter Channel Listener) (c : Channel) (l : Listener) :
    EventEmitter Channel Listener :=
  { registered := em.registered.erase (c, l) }

/-- The listeners of a channel, in the order of their registration. -/
def listeners [DecidableEq Channel] (em : EventEmitter Channel Listener) (c : Channel) : List Listener :=
  (em.registered.filter (fun r => r.1 = c)).map Prod.snd

/-- Call every listener of the copied list `ls`, in order. -/
def emit (call : Listener → State → State) (ls : List Listener) (s : State) : State :=
  ls.foldl (fun s l => call l s) s

/-! ## Emission -/

@[simp] theorem emit_nil (call : Listener → State → State) (s : State) : emit call [] s = s := rfl

@[simp] theorem emit_cons (call : Listener → State → State) (l : Listener) (ls : List Listener)
    (s : State) : emit call (l :: ls) s = emit call ls (call l s) := rfl

theorem emit_append (call : Listener → State → State) (ls ms : List Listener) (s : State) :
    emit call (ls ++ ms) s = emit call ms (emit call ls s) := by
  simp [emit, List.foldl_append]

/-- A property that every call of a listener preserves is preserved by the emission. -/
theorem emit_preserves {call : Listener → State → State} {P : State → Prop} {ls : List Listener}
    (hcall : ∀ l ∈ ls, ∀ s, P s → P (call l s)) {s : State} (h : P s) : P (emit call ls s) := by
  induction ls generalizing s with
  | nil => exact h
  | cons l ls ih =>
      exact ih (fun l' hl' => hcall l' (List.mem_cons_of_mem _ hl'))
        (hcall l (List.mem_cons_self ..) s h)

/-! ## The registry -/

variable [DecidableEq Channel]

@[simp] theorem listeners_empty (c : Channel) :
    (({} : EventEmitter Channel Listener)).listeners c = [] := rfl

theorem listeners_on (em : EventEmitter Channel Listener) (c d : Channel) (l : Listener) :
    (em.on d l).listeners c = em.listeners c ++ (if d = c then [l] else []) := by
  by_cases h : d = c <;> simp [listeners, on, List.filter_append, h]

theorem listeners_removeListener [DecidableEq Listener]
    (em : EventEmitter Channel Listener) (c d : Channel)
    (l : Listener) :
    (em.removeListener d l).listeners c
      = if d = c then (em.listeners c).erase l else em.listeners c := by
  obtain ⟨rs⟩ := em
  simp only [removeListener, listeners]
  induction rs with
  | nil => simp
  | cons r rs ih =>
      obtain ⟨c', l'⟩ := r
      by_cases hr : (c', l') = (d, l)
      · obtain ⟨rfl, rfl⟩ := Prod.mk.inj hr
        by_cases hc : c' = c <;> simp [hc]
      · rw [List.erase_cons_tail (by simpa using hr)]
        by_cases hc : c' = c
        · subst hc
          by_cases hd : d = c'
          · subst hd
            have hl : l' ≠ l := fun he => hr (by rw [he])
            simp only [decide_true, List.filter_cons_of_pos, List.map_cons, ih, if_true]
            rw [List.erase_cons_tail (by simpa using hl)]
          · simp only [decide_true, List.filter_cons_of_pos, List.map_cons, ih, if_neg hd]
        · simp only [hc, decide_false, Bool.false_eq_true, not_false_eq_true,
            List.filter_cons_of_neg, ih]

end EventEmitter
