import Mathlib.Logic.Basic

set_option autoImplicit false

/-! # Asynchronous methods

What one call of an asynchronous method does, all its awaits included: it reads and writes a state, and
it returns, throws, or hangs because it awaits a promise that is never settled. A `catch` block handles
what is thrown; nothing handles a promise that hangs.

`Ends x` says that `x` never hangs. -/

/-- How a call ends. -/
inductive Async.Result (α : Type)
  | returns (a : α)
  | throws
  | hangs
  deriving DecidableEq, Repr

/-- A method that works on the state `σ`. -/
def Async (σ α : Type) : Type :=
  σ → Async.Result α × σ

namespace Async

variable {σ α β : Type} {x : Async σ α} {f : α → Async σ β} {s s' : σ}

instance : Monad (Async σ) where
  pure a s := (.returns a, s)
  bind x f s :=
    match x s with
    | (.returns a, s') => f a s'
    | (.throws, s') => (.throws, s')
    | (.hangs, s') => (.hangs, s')

def throw : Async σ α :=
  fun s => (.throws, s)

def hang : Async σ α :=
  fun s => (.hangs, s)

def get : Async σ σ :=
  fun s => (.returns s, s)

def modify (g : σ → σ) : Async σ Unit :=
  fun s => (.returns (), g s)

def tryCatch (x handler : Async σ α) : Async σ α :=
  fun s =>
    match x s with
    | (.throws, s') => handler s'
    | ended => ended

/-- What is awaited ends as it is said to. -/
def await (ended : Result α) : Async σ α :=
  fun s => (ended, s)

/-- The `finally` block, one that does not throw, runs also when something is thrown. -/
def tryFinally (x : Async σ α) (finalize : σ → σ) : Async σ α :=
  fun s =>
    match x s with
    | (.hangs, s') => (.hangs, s')
    | (ended, s') => (ended, finalize s')

/-! ## Running a method -/

@[simp] theorem pure_run (a : α) : (pure a : Async σ α) s = (.returns a, s) := rfl

@[simp] theorem throw_run : (throw : Async σ α) s = (.throws, s) := rfl

@[simp] theorem hang_run : (hang : Async σ α) s = (.hangs, s) := rfl

@[simp] theorem get_run : (get : Async σ σ) s = (.returns s, s) := rfl

@[simp] theorem modify_run (g : σ → σ) : modify g s = (.returns (), g s) := rfl

theorem bind_run_of_returns {a : α} (h : x s = (.returns a, s')) : (x >>= f) s = f a s' := by
  show (match x s with | (.returns a, s') => f a s' | (.throws, s') => _ | (.hangs, s') => _) = _
  rw [h]

theorem bind_run_of_throws (h : x s = (.throws, s')) : (x >>= f) s = (.throws, s') := by
  show (match x s with | (.returns a, s') => f a s' | (.throws, s') => _ | (.hangs, s') => _) = _
  rw [h]

theorem bind_run_of_hangs (h : x s = (.hangs, s')) : (x >>= f) s = (.hangs, s') := by
  show (match x s with | (.returns a, s') => f a s' | (.throws, s') => _ | (.hangs, s') => _) = _
  rw [h]

@[simp] theorem pure_bind_run (a : α) : (pure a >>= f : Async σ β) s = f a s := rfl

@[simp] theorem get_bind_run (g : σ → Async σ β) : (get >>= g) s = g s s := rfl

@[simp] theorem modify_bind_run (g : σ → σ) (h : Unit → Async σ β) :
    (modify g >>= h) s = h () (g s) := rfl

@[simp] theorem throw_bind_run : ((throw : Async σ α) >>= f) s = (.throws, s) := rfl

@[simp] theorem await_run (ended : Result α) : (await ended : Async σ α) s = (ended, s) := rfl

/-- What a method returns is what it returns after each of its steps has returned. -/
theorem bind_returns_iff {b : β} :
    ((x >>= f) s).1 = .returns b ↔ ∃ a s', x s = (.returns a, s') ∧ (f a s').1 = .returns b := by
  constructor
  · intro h
    rcases hx : x s with ⟨a | _ | _, s'⟩
    · rw [bind_run_of_returns hx] at h
      exact ⟨a, s', rfl, h⟩
    · rw [bind_run_of_throws hx] at h
      cases h
    · rw [bind_run_of_hangs hx] at h
      cases h
  · rintro ⟨a, s', hx, h⟩
    rw [bind_run_of_returns hx]
    exact h

/-- What ends after a step is a step that ends. -/
theorem bind_hangs (h : ((x >>= f) s).1 ≠ .hangs) : (x s).1 ≠ .hangs := by
  intro hx
  refine h ?_
  rw [bind_run_of_hangs (Prod.ext hx rfl)]

@[simp] theorem bind_pure_run_snd (g : α → β) : ((x >>= fun a => pure (g a)) s).2 = (x s).2 := by
  rcases hx : x s with ⟨a | _ | _, s'⟩
  · rw [bind_run_of_returns hx]
    rfl
  · rw [bind_run_of_throws hx]
  · rw [bind_run_of_hangs hx]

theorem tryCatch_run_of_returns {handler : Async σ α} {a : α} (h : x s = (.returns a, s')) :
    tryCatch x handler s = (.returns a, s') := by
  unfold tryCatch
  rw [h]

theorem tryCatch_run_of_throws {handler : Async σ α} (h : x s = (.throws, s')) :
    tryCatch x handler s = handler s' := by
  unfold tryCatch
  rw [h]

theorem tryFinally_run_of_ends {finalize : σ → σ} (h : (x s).1 ≠ .hangs) :
    tryFinally x finalize s = ((x s).1, finalize (x s).2) := by
  unfold tryFinally
  rcases hx : x s with ⟨_ | _ | _, s'⟩
  · rfl
  · rfl
  · exact absurd (congrArg Prod.fst hx) h

theorem tryFinally_hangs {finalize : σ → σ} (h : (tryFinally x finalize s).1 ≠ .hangs) :
    (x s).1 ≠ .hangs := by
  intro hx
  refine h ?_
  unfold tryFinally
  rcases hs : x s with ⟨_ | _ | _, s'⟩
  · rw [hs] at hx
    cases hx
  · rw [hs] at hx
    cases hx
  · rfl

/-! ## Methods that leave a part of the state alone -/

section

variable {ν : Type} (part : σ → ν)

def Keeps (x : Async σ α) : Prop :=
  ∀ s, part (x s).2 = part s

variable {part}

theorem keeps_pure (a : α) : Keeps part (pure a : Async σ α) :=
  fun _ => rfl

theorem keeps_await (ended : Result α) : Keeps part (await ended : Async σ α) :=
  fun _ => rfl

theorem keeps_throw : Keeps part (throw : Async σ α) :=
  fun _ => rfl

theorem keeps_modify {g : σ → σ} (h : ∀ s, part (g s) = part s) : Keeps part (modify g) :=
  h

theorem Keeps.bind (hx : Keeps part x) (hf : ∀ a, Keeps part (f a)) : Keeps part (x >>= f) := by
  intro s
  rcases h : x s with ⟨a | _ | _, s'⟩
  · rw [bind_run_of_returns h, hf a s', ← hx s, h]
  · rw [bind_run_of_throws h, ← hx s, h]
  · rw [bind_run_of_hangs h, ← hx s, h]

end

/-! ## Methods that end -/

def Ends (x : Async σ α) : Prop :=
  ∀ s, (x s).1 ≠ .hangs

theorem ends_pure (a : α) : Ends (pure a : Async σ α) :=
  fun _ => by simp

theorem ends_throw : Ends (throw : Async σ α) :=
  fun _ => by simp

theorem ends_modify (g : σ → σ) : Ends (modify g) :=
  fun _ => by simp

theorem Ends.bind (hx : Ends x) (hf : ∀ a, Ends (f a)) : Ends (x >>= f) := by
  intro s
  rcases h : x s with ⟨_ | _ | _, s'⟩
  · rw [bind_run_of_returns h]
    exact hf _ s'
  · rw [bind_run_of_throws h]
    simp
  · exact absurd (congrArg Prod.fst h) (hx s)

theorem Ends.tryCatch {handler : Async σ α} (hx : Ends x) (hh : Ends handler) :
    Ends (x.tryCatch handler) := by
  intro s
  rcases h : x s with ⟨_ | _ | _, s'⟩
  · rw [tryCatch_run_of_returns h]
    simp
  · rw [tryCatch_run_of_throws h]
    exact hh s'
  · exact absurd (congrArg Prod.fst h) (hx s)

theorem Ends.ite {p : Prop} [Decidable p] {y : Async σ α} (hx : Ends x) (hy : Ends y) :
    Ends (if p then x else y) := by
  split
  · exact hx
  · exact hy

end Async
