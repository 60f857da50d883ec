import Mathlib.Data.List.Basic
import Mathlib.Data.List.Nodup
import Mathlib.Data.List.Perm.Subperm
import Mathlib.Data.Nat.Notation

set_option autoImplicit false

/-! # Intervals

`setInterval` and `clearInterval`: an interval that is set is alive, under an id that was never used before, until
it is cleared. What is alive is what can fire, so an interval whose id is lost is never stopped; the lemmas say
what is alive after each operation. -/

/-- The intervals of a program, each with what is done when it fires. -/
structure Timers (C : Type) where
  alive : List (ℕ × C) := []
  next : ℕ := 0
  lt_next : ∀ p ∈ alive, p.1 < next := by simp
  nodup : (alive.map Prod.fst).Nodup := by simp

namespace Timers

variable {C : Type} (t : Timers C)

/-- The id is `t.next`. -/
def setInterval (c : C) : Timers C where
  alive := t.alive ++ [(t.next, c)]
  next := t.next + 1
  lt_next p hp := by
    rcases List.mem_append.1 hp with hp | hp
    · exact Nat.lt_succ_of_lt (t.lt_next p hp)
    · exact List.mem_singleton.1 hp ▸ Nat.lt_succ_self t.next
  nodup := by
    rw [List.map_append]
    refine t.nodup.append (List.nodup_singleton _) ?_
    intro id hid hnew
    obtain ⟨p, hp, rfl⟩ := List.mem_map.1 hid
    have hlt := t.lt_next p hp
    have heq : p.1 = t.next := by simpa using hnew
    omega

/-- Nothing is cleared with `null`. -/
def clearInterval (id : Option ℕ) : Timers C where
  alive := t.alive.filter fun p => some p.1 ≠ id
  next := t.next
  lt_next p hp := t.lt_next p (List.mem_filter.1 hp).1
  nodup := t.nodup.sublist (List.Sublist.map _ List.filter_sublist)

@[simp] theorem alive_setInterval (c : C) : (t.setInterval c).alive = t.alive ++ [(t.next, c)] := rfl

@[simp] theorem mem_setInterval {c : C} {p : ℕ × C} :
    p ∈ (t.setInterval c).alive ↔ p ∈ t.alive ∨ p = (t.next, c) := by
  simp

@[simp] theorem mem_clearInterval {id : Option ℕ} {p : ℕ × C} :
    p ∈ (t.clearInterval id).alive ↔ p ∈ t.alive ∧ some p.1 ≠ id := by
  simp [clearInterval]

/-- The callback of an interval that is alive. -/
def callback (id : ℕ) : Option C := (t.alive.find? (·.1 = id)).map Prod.snd

theorem mem_of_callback_eq_some {t : Timers C} {id : ℕ} {c : C} (h : t.callback id = some c) : (id, c) ∈ t.alive := by
  obtain ⟨p, hp, rfl⟩ := Option.map_eq_some_iff.1 h
  have hid := List.find?_some hp
  rw [decide_eq_true_eq] at hid
  exact hid ▸ List.mem_of_find?_eq_some hp

/-- One id is one interval. -/
theorem eq_of_mem {t : Timers C} {id : ℕ} {c c' : C} (h : (id, c) ∈ t.alive) (h' : (id, c') ∈ t.alive) : c = c' :=
  congrArg Prod.snd (List.inj_on_of_nodup_map t.nodup h h' rfl)

theorem next_not_mem (c : C) : (t.next, c) ∉ t.alive := fun h => absurd (t.lt_next _ h) (Nat.lt_irrefl _)

/-- Intervals of which each is under one of a list of handles are no more than the handles. -/
theorem length_alive_le {t : Timers C} {keep : ℕ × C → Bool} {handles : List ℕ}
    (h : ∀ p ∈ t.alive, keep p = true → p.1 ∈ handles) : (t.alive.filter keep).length ≤ handles.length := by
  have hnodup : ((t.alive.filter keep).map Prod.fst).Nodup :=
    t.nodup.sublist (List.Sublist.map _ List.filter_sublist)
  have hsub : (t.alive.filter keep).map Prod.fst ⊆ handles := by
    intro id hid
    obtain ⟨p, hp, rfl⟩ := List.mem_map.1 hid
    obtain ⟨hmem, hkeep⟩ := List.mem_filter.1 hp
    exact h p hmem hkeep
  have hle := (List.subperm_of_subset hnodup hsub).length_le
  rwa [List.length_map] at hle

end Timers
