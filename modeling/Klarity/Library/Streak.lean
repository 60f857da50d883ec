import Mathlib.Data.List.Induction
import Mathlib.Data.Nat.Notation

set_option autoImplicit false

/-! # Streaks

A counter that is told one number after the other and counts how often in a row the same number above zero came
again. `le_run_iff`: it has reached `k` exactly when the last `k + 1` numbers are the same one above zero. -/

namespace Streak

/-- The last number, and how often in a row it came again. -/
def next (s : ℕ × ℕ) (count : ℕ) : ℕ × ℕ := (count, if s.1 = count ∧ count > 0 then s.2 + 1 else 0)

def run (counts : List ℕ) : ℕ × ℕ := counts.foldl next (0, 0)

@[simp] theorem run_nil : run [] = (0, 0) := rfl

@[simp] theorem run_concat (counts : List ℕ) (count : ℕ) : run (counts ++ [count]) = next (run counts) count := by
  simp [run]

theorem run_fst (counts : List ℕ) : (run counts).1 = counts.getLast?.getD 0 := by
  induction counts using List.reverseRecOn with
  | nil => rfl
  | append_singleton counts count _ => simp [next]

theorem replicate_succ_suffix_concat {n a b : ℕ} {l : List ℕ} :
    List.replicate (n + 1) a <:+ l ++ [b] ↔ a = b ∧ List.replicate n a <:+ l := by
  rw [List.replicate_succ', ← List.reverse_prefix, List.reverse_append, List.reverse_append, List.reverse_singleton,
    List.reverse_singleton, List.singleton_append, List.singleton_append, List.cons_prefix_cons, List.reverse_prefix]

theorem getLast?_of_replicate_suffix {n a : ℕ} {l : List ℕ} (h : List.replicate (n + 1) a <:+ l) :
    l.getLast? = some a := by
  obtain ⟨front, rfl⟩ := h
  simp [List.replicate_succ']

theorem singleton_suffix_of_getLast? {a : ℕ} {l : List ℕ} (h : l.getLast? = some a) :
    List.replicate 1 a <:+ l := by
  obtain ⟨front, rfl⟩ := List.getLast?_eq_some_iff.1 h
  exact List.suffix_append ..

/-- What the counter has reached says how long the streak at the end is. -/
theorem le_run_iff (counts : List ℕ) (k : ℕ) :
    k + 1 ≤ (run counts).2 ↔ ∃ n, 0 < n ∧ List.replicate (k + 2) n <:+ counts := by
  induction counts using List.reverseRecOn generalizing k with
  | nil => simp
  | append_singleton counts count ih =>
      simp only [run_concat, next, run_fst]
      split
      · next hsame =>
          obtain ⟨hlast, hpos⟩ := hsame
          have hlast : counts.getLast? = some count := by
            cases hcounts : counts.getLast? with
            | none => simp [hcounts] at hlast; omega
            | some last => simpa [hcounts] using hlast
          constructor
          · intro hle
            refine ⟨count, hpos, replicate_succ_suffix_concat.2 ⟨rfl, ?_⟩⟩
            cases k with
            | zero => exact singleton_suffix_of_getLast? hlast
            | succ k =>
                obtain ⟨n, -, hn⟩ := (ih k).1 (by omega)
                obtain rfl : n = count := Option.some.inj ((getLast?_of_replicate_suffix hn).symm.trans hlast)
                exact hn
          · rintro ⟨n, hn, hsuffix⟩
            obtain ⟨-, hrest⟩ := replicate_succ_suffix_concat.1 hsuffix
            cases k with
            | zero => omega
            | succ k =>
                have hle := (ih k).2 ⟨n, hn, hrest⟩
                omega
      · next hother =>
          refine iff_of_false (by omega) ?_
          rintro ⟨n, hn, hsuffix⟩
          obtain ⟨rfl, hrest⟩ := replicate_succ_suffix_concat.1 hsuffix
          exact hother ⟨by rw [getLast?_of_replicate_suffix hrest, Option.getD_some], hn⟩

end Streak
