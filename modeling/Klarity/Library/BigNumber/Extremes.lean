import Klarity.Library.BigNumber.Amount

set_option autoImplicit false

/-! # Absolute values, minima and maxima

`BigNumber.min` and `BigNumber.max` go through their arguments and keep the first one that no later one beats.
What they return is one of the arguments, so it is written and read as that is. -/

class BigNumberAbs (N : Type) [BigNumber N] where
  absoluteValue : N → N

/-- What is documented of `absoluteValue()`. -/
class LawfulBigNumberAbs (N : Type) [BigNumber N] [BigNumberAbs N] : Prop where
  value_absoluteValue {a : N} {x : ℚ} (h : BigNumber.value a = some x) :
    BigNumber.value (BigNumberAbs.absoluteValue a) = some |x|

instance : BigNumberAbs Amount := ⟨Option.map fun x => |x|⟩

instance : LawfulBigNumberAbs Amount where
  value_absoluteValue := by
    rintro a x ⟨⟩
    rfl

namespace BigNumber

variable {N : Type}

/-- The argument that no later one beats. -/
def extreme (beats : N → N → Bool) (first : N) (rest : List N) : N :=
  rest.foldl (fun m n => if beats n m then n else m) first

variable [BigNumber N]

/-- `BigNumber.min` -/
def minimum (first : N) (rest : List N) : N :=
  extreme (fun n m => isGreaterThan m n) first rest

/-- `BigNumber.max` -/
def maximum (first : N) (rest : List N) : N :=
  extreme (fun n m => isGreaterThan n m) first rest

omit [BigNumber N] in
theorem extreme_mem (beats : N → N → Bool) (first : N) (rest : List N) :
    extreme beats first rest ∈ first :: rest := by
  induction rest generalizing first with
  | nil => exact List.mem_cons_self
  | cons n rest ih =>
    have hmem := ih (if beats n first then n else first)
    rcases List.mem_cons.1 hmem with heq | hrest
    · show extreme beats (if beats n first then n else first) rest ∈ _
      rw [heq]
      by_cases hbeats : beats n first = true
      · rw [if_pos hbeats]
        exact List.mem_cons_of_mem _ List.mem_cons_self
      · rw [if_neg hbeats]
        exact List.mem_cons_self
    · exact List.mem_cons_of_mem _ (List.mem_cons_of_mem _ hrest)

omit [BigNumber N] in
/-- No argument ranks below the one that is kept, if those that beat another rank below it. -/
theorem rank_extreme_le (beats : N → N → Bool) (rank : N → ℚ) {first : N} {rest : List N}
    (h : ∀ a ∈ first :: rest, ∀ b ∈ first :: rest, beats b a = true ↔ rank b < rank a) :
    ∀ a ∈ first :: rest, rank (extreme beats first rest) ≤ rank a := by
  induction rest generalizing first with
  | nil =>
    intro a ha
    rw [List.mem_singleton.1 ha]
    exact le_refl _
  | cons n rest ih =>
    have hfirst : first ∈ first :: n :: rest := List.mem_cons_self
    have hn : n ∈ first :: n :: rest := List.mem_cons_of_mem _ List.mem_cons_self
    have hrest : ∀ {a}, a ∈ rest → a ∈ first :: n :: rest :=
      fun ha => List.mem_cons_of_mem _ (List.mem_cons_of_mem _ ha)
    by_cases hbeats : beats n first = true
    · have hstep : extreme beats first (n :: rest) = extreme beats n rest := by
        show extreme beats (if beats n first then n else first) rest = _
        rw [if_pos hbeats]
      have hle := @ih n fun a ha b hb =>
        h a (List.mem_cons_of_mem _ ha) b (List.mem_cons_of_mem _ hb)
      rw [hstep]
      intro a ha
      rcases List.mem_cons.1 ha with rfl | ha
      · exact (hle n List.mem_cons_self).trans ((h _ hfirst _ hn).1 hbeats).le
      · exact hle a ha
    · have hstep : extreme beats first (n :: rest) = extreme beats first rest := by
        show extreme beats (if beats n first then n else first) rest = _
        rw [if_neg hbeats]
      have hsub : ∀ {a}, a ∈ first :: rest → a ∈ first :: n :: rest := by
        intro a ha
        rcases List.mem_cons.1 ha with rfl | ha
        · exact hfirst
        · exact hrest ha
      have hle := @ih first fun a ha b hb => h a (hsub ha) b (hsub hb)
      rw [hstep]
      intro a ha
      rcases List.mem_cons.1 ha with rfl | ha
      · exact hle _ List.mem_cons_self
      · rcases List.mem_cons.1 ha with rfl | ha
        · have hnot : ¬ rank a < rank first := fun hlt => hbeats ((h _ hfirst _ hn).2 hlt)
          exact (hle first List.mem_cons_self).trans (not_lt.1 hnot)
        · exact hle a (List.mem_cons_of_mem _ ha)

variable [LawfulBigNumber N] {first : N} {rest : List N}

theorem isGreaterThan_iff_getD {a b : N} (ha : (value a).isSome = true) (hb : (value b).isSome = true) :
    isGreaterThan a b = true ↔ (value b).getD 0 < (value a).getD 0 := by
  obtain ⟨x, hx⟩ := Option.isSome_iff_exists.1 ha
  obtain ⟨y, hy⟩ := Option.isSome_iff_exists.1 hb
  rw [LawfulBigNumber.isGreaterThan_iff hx hy, hx, hy]
  rfl

theorem getD_value_minimum_le (h : ∀ a ∈ first :: rest, (value a).isSome = true) :
    ∀ a ∈ first :: rest, (value (minimum first rest)).getD 0 ≤ (value a).getD 0 :=
  rank_extreme_le (fun n m => isGreaterThan m n) (fun a => (value a).getD 0) fun a ha b hb =>
    isGreaterThan_iff_getD (h a ha) (h b hb)

theorem le_getD_value_maximum (h : ∀ a ∈ first :: rest, (value a).isSome = true) :
    ∀ a ∈ first :: rest, (value a).getD 0 ≤ (value (maximum first rest)).getD 0 := by
  intro a ha
  have hle := rank_extreme_le (fun n m => isGreaterThan n m) (fun a => -(value a).getD 0)
    (fun a ha b hb => by rw [isGreaterThan_iff_getD (h b hb) (h a ha), neg_lt_neg_iff]) a ha
  exact neg_le_neg_iff.1 hle

end BigNumber
