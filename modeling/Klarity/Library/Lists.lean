import Mathlib.Algebra.Ring.Nat
import Mathlib.Data.List.Basic
import Mathlib.Data.List.Perm.Basic

set_option autoImplicit false

/-! # Lists used as tables

A growing list indexed by the order of insertion: entries are appended, updated in place or removed.
The lemmas say which entries a lookup finds after each of these. -/

namespace List

variable {α : Type}

/-- Looking up in a list with one entry appended. -/
theorem getElem?_concat_eq_some {l : List α} {a b : α} {n : ℕ} :
    (l ++ [a])[n]? = some b ↔ l[n]? = some b ∨ (n = l.length ∧ b = a) := by
  rcases Nat.lt_trichotomy n l.length with h | rfl | h
  · rw [getElem?_append_left h]
    exact ⟨Or.inl, fun hb => hb.resolve_right (fun he => absurd he.1 (by omega))⟩
  · simp [eq_comm]
  · rw [getElem?_eq_none (by simp; omega), getElem?_eq_none (by omega)]
    simp only [reduceCtorEq, false_or, false_iff, not_and]
    omega

/-- An entry other than the one overwritten is still there. -/
theorem mem_set_of_ne {l : List α} {a b c : α} {k : ℕ} (ha : a ∈ l) (hk : l[k]? = some b)
    (hne : a ≠ b) : a ∈ l.set k c := by
  obtain ⟨i, hi⟩ := mem_iff_getElem?.1 ha
  have hik : k ≠ i := by
    rintro rfl
    rw [hk] at hi
    exact hne (Option.some.inj hi).symm
  exact mem_iff_getElem?.2 ⟨i, by rw [getElem?_set_ne hik]; exact hi⟩

/-- The entry written is there, when the index was in use. -/
theorem mem_set_self {l : List α} {b c : α} {k : ℕ} (hk : l[k]? = some b) : c ∈ l.set k c := by
  obtain ⟨h, -⟩ := getElem?_eq_some_iff.1 hk
  exact mem_set h c

/-- Overwriting an entry with one of the same image leaves the images alone. -/
theorem map_set_of_eq {β : Type} (f : α → β) {l : List α} {b c : α} {k : ℕ}
    (hk : l[k]? = some b) (hf : f c = f b) : (l.set k c).map f = l.map f := by
  apply ext_getElem?
  intro i
  rw [getElem?_map, getElem?_map, getElem?_set]
  split
  · next h =>
      subst h
      rw [hk]
      obtain ⟨h, -⟩ := getElem?_eq_some_iff.1 hk
      simp [h, hf]
  · rfl

/-- The sum over a list with one entry replaced. -/
theorem sum_map_set (f : α → ℕ) {l : List α} {a : α} {k : ℕ} (hk : l[k]? = some a) (b : α) :
    ((l.set k b).map f).sum + f a = (l.map f).sum + f b := by
  induction l generalizing k with
  | nil => exact absurd hk (by simp)
  | cons c l ih =>
      cases k with
      | zero =>
          obtain rfl : c = a := by simpa using hk
          simp only [set_cons_zero, map_cons, sum_cons]
          omega
      | succ k =>
          have hsum := ih (by simpa using hk)
          simp only [set_cons_succ, map_cons, sum_cons]
          omega

/-- An update that a function does not see leaves its values alone. -/
theorem filterMap_modify_of_eq {β : Type} {f : α → α} {g : α → Option β}
    (h : ∀ a, g (f a) = g a) (l : List α) (i : ℕ) :
    (l.modify i f).filterMap g = l.filterMap g := by
  induction l generalizing i with
  | nil => simp
  | cons a l ih =>
      cases i with
      | zero => simp only [modify_zero_cons, filterMap_cons, h]
      | succ i => simp only [modify_succ_cons, filterMap_cons, ih]

/-- The entry at an index after an update. -/
theorem getElem?_modify_of_getElem? (f : α → α) {l : List α} {a : α} (i : ℕ) {n : ℕ}
    (ha : l[n]? = some a) : (l.modify i f)[n]? = some (if i = n then f a else a) := by
  rw [getElem?_modify, ha]
  split <;> rfl

/-- An update that makes a condition fail at most lowers the number of entries that meet it. -/
theorem countP_modify_le {p : α → Bool} {f : α → α} (hf : ∀ a, p (f a) = true → p a = true)
    (l : List α) (i : ℕ) : (l.modify i f).countP p ≤ l.countP p := by
  induction l generalizing i with
  | nil => simp
  | cons a l ih =>
      cases i with
      | zero =>
          rw [modify_zero_cons, countP_cons, countP_cons]
          have ha := hf a
          split
          · next h => simp [ha h]
          · omega
      | succ i =>
          rw [modify_succ_cons, countP_cons, countP_cons]
          exact Nat.add_le_add_right (ih i) _

/-- An entry that met a condition and no longer does lowers the number of entries that do. -/
theorem countP_modify_lt {p : α → Bool} {f : α → α} {l : List α} {i : ℕ} {a : α}
    (h : l[i]? = some a) (ha : p a = true) (hf : p (f a) = false) :
    (l.modify i f).countP p < l.countP p := by
  induction l generalizing i with
  | nil => simp at h
  | cons b l ih =>
      cases i with
      | zero =>
          obtain rfl : b = a := by simpa using h
          rw [modify_zero_cons, countP_cons, countP_cons, if_neg (by simp [hf]), if_pos ha]
          omega
      | succ i =>
          rw [modify_succ_cons, countP_cons, countP_cons]
          exact Nat.add_lt_add_right (ih (by simpa using h)) _

/-- An update of the last entry. -/
theorem modify_last (f : α → α) {l : List α} {a : α} {i : ℕ} (ha : l[i]? = some a)
    (hi : i + 1 = l.length) : ∃ init, l = init ++ [a] ∧ l.modify i f = init ++ [f a] := by
  obtain ⟨init, b, tail, rfl, rfl, hm⟩ := exists_of_modify f (l := l) (i := i) (by omega)
  obtain rfl : tail = [] := by
    rw [length_append, length_cons] at hi
    exact length_eq_zero_iff.1 (by omega)
  obtain rfl : b = a := by simpa using ha
  exact ⟨init, rfl, hm⟩

/-- The entries of a list after one of them is updated. -/
theorem getElem?_modify_eq_some {f : α → α} {l : List α} {b : α} {i n : ℕ} :
    (l.modify i f)[n]? = some b ↔
      (i = n ∧ ∃ a, l[n]? = some a ∧ b = f a) ∨ (i ≠ n ∧ l[n]? = some b) := by
  rcases eq_or_ne i n with rfl | hne
  · cases h : l[i]? <;> simp [getElem?_modify_eq, h, eq_comm]
  · simp [getElem?_modify_ne _ _ hne, hne]

/-- An entry taken out and put in front. -/
theorem perm_cons_eraseIdx {l : List α} {a : α} {k : ℕ} (h : l[k]? = some a) :
    (a :: l.eraseIdx k).Perm l := by
  obtain ⟨hk, rfl⟩ := getElem?_eq_some_iff.1 h
  exact getElem_cons_eraseIdx_perm hk

/-- An entry other than the one taken out is still there. -/
theorem mem_eraseIdx_of_ne {l : List α} {a b : α} {k : ℕ} (hk : l[k]? = some b) (ha : a ∈ l)
    (hne : a ≠ b) : a ∈ l.eraseIdx k := by
  rcases mem_cons.1 ((perm_cons_eraseIdx hk).mem_iff.2 ha) with rfl | hmem
  · exact absurd rfl hne
  · exact hmem

/-- Where a key names one entry, taking that entry out leaves those of the other keys. -/
theorem eraseIdx_eq_filter_of_nodup_map {β : Type} [DecidableEq β] {f : α → β} {l : List α} {a : α} {k : ℕ}
    (hnodup : (l.map f).Nodup) (hk : l[k]? = some a) : l.eraseIdx k = l.filter fun b => f b ≠ f a := by
  induction l generalizing k with
  | nil => simp at hk
  | cons c l ih =>
      rw [map_cons, nodup_cons] at hnodup
      obtain ⟨hc, hnodup⟩ := hnodup
      cases k with
      | zero =>
          obtain rfl : c = a := by simpa using hk
          have hall : ∀ b ∈ l, decide (f b ≠ f c) = true := fun b hb =>
            decide_eq_true fun heq => hc (mem_map.2 ⟨b, hb, heq⟩)
          rw [eraseIdx_cons_zero, filter_cons_of_neg (by simp), filter_eq_self.2 hall]
      | succ k =>
          have hl : l[k]? = some a := by simpa using hk
          have hne : f c ≠ f a := fun heq => hc (mem_map.2 ⟨a, mem_of_getElem? hl, heq.symm⟩)
          rw [eraseIdx_cons_succ, filter_cons_of_pos (by simpa using hne), ih hnodup hl]

/-- An entry put before the first one that meets a condition. -/
theorem exists_insertIdx_findIdx (p : α → Bool) (l : List α) (a : α) :
    ∃ before after, l = before ++ after ∧ l.insertIdx (l.findIdx p) a = before ++ a :: after ∧
      (∀ b ∈ before, p b = false) ∧ ∀ b ∈ after.head?, p b = true := by
  induction l with
  | nil => exact ⟨[], [], rfl, rfl, fun _ h => absurd h not_mem_nil, fun _ h => nomatch h⟩
  | cons b l ih =>
      cases hb : p b with
      | true =>
          refine ⟨[], b :: l, rfl, ?_, fun _ h => absurd h not_mem_nil, ?_⟩
          · rw [findIdx_cons, hb]
            rfl
          · rintro c ⟨⟩
            exact hb
      | false =>
          obtain ⟨before, after, rfl, hinsert, hbefore, hafter⟩ := ih
          refine ⟨b :: before, after, rfl, ?_, forall_mem_cons.2 ⟨hb, hbefore⟩, hafter⟩
          rw [findIdx_cons, hb, cond_false, insertIdx_succ_cons, hinsert]
          rfl

/-- A filter does not see that an entry it leaves out is taken out. -/
theorem filter_eraseIdx_of_neg {p : α → Bool} {l : List α} {a : α} {k : ℕ} (h : l[k]? = some a)
    (ha : p a = false) : (l.eraseIdx k).filter p = l.filter p := by
  induction l generalizing k with
  | nil => simp at h
  | cons b l ih =>
      cases k with
      | zero =>
          obtain rfl : b = a := by simpa using h
          simp [ha]
      | succ k => rw [eraseIdx_cons_succ, filter_cons, filter_cons, ih (by simpa using h)]

/-- The only entry that a filter keeps is taken out. -/
theorem filter_eraseIdx_of_singleton {p : α → Bool} {l : List α} {a : α} {k : ℕ}
    (h : l[k]? = some a) (hl : l.filter p = [a]) : (l.eraseIdx k).filter p = [] := by
  have ha : p a = true := (mem_filter.1 (hl ▸ mem_singleton_self a)).2
  have hperm := (perm_cons_eraseIdx h).filter p
  rw [hl, filter_cons_of_pos ha, perm_singleton] at hperm
  exact (cons.inj hperm).2

theorem zip_map_const {β : Type} (l : List α) (b : β) : l.zip (l.map fun _ => b) = l.map fun a => (a, b) := by
  induction l with
  | nil => rfl
  | cons a l ih => rw [map_cons, map_cons, zip_cons_cons, ih]

/-- A table with distinct keys gives a key the value at its place. -/
theorem lookup_zip_of_nodup {β : Type} [BEq α] [LawfulBEq α] {keys : List α} (hnodup : keys.Nodup) (values : List β)
    {k : α} {j : ℕ} (hk : keys[j]? = some k) : (keys.zip values).lookup k = values[j]? := by
  induction keys generalizing values j with
  | nil => exact absurd hk (by simp)
  | cons key keys ih =>
    obtain ⟨hkey, hkeys⟩ := nodup_cons.1 hnodup
    cases values with
    | nil => rfl
    | cons v values =>
      rw [zip_cons_cons, lookup_cons]
      cases j with
      | zero =>
        rw [Option.some.inj hk, beq_self_eq_true]
        rfl
      | succ j =>
        have hne : (k == key) = false := by
          rw [beq_eq_false_iff_ne]
          rintro rfl
          exact hkey (mem_of_getElem? hk)
        rw [hne]
        exact ih hkeys values hk

theorem lookup_zip_of_not_mem {β : Type} [BEq α] [LawfulBEq α] {keys : List α} {k : α} (hk : k ∉ keys)
    (values : List β) : (keys.zip values).lookup k = none := by
  refine lookup_eq_none_iff.2 fun entry hentry => bne_iff_ne.2 ?_
  rintro rfl
  exact hk (of_mem_zip hentry).1

/-- Sorting by a comparison that agrees with an order on the entries. -/
theorem pairwise_mergeSort_of_agrees {r s : α → α → Bool} (trans : ∀ a b c, s a b → s b c → s a c)
    (total : ∀ a b, s a b || s b a) {l : List α} (h : ∀ a ∈ l, ∀ b ∈ l, r a b = s a b) :
    (l.mergeSort r).Pairwise fun a b => s a b := by
  have hsame : l.mergeSort r = l.mergeSort s := by
    have hmap := map_mergeSort (f := id) h
    rwa [map_id, map_id] at hmap
  rw [hsame]
  exact pairwise_mergeSort trans total l

/-- A traversal that succeeds at every entry. -/
theorem mapM_eq_some_map {β : Type} {f : α → Option β} {g : α → β} {l : List α}
    (h : ∀ a ∈ l, f a = some (g a)) : l.mapM f = some (l.map g) := by
  induction l with
  | nil => rfl
  | cons a l ih =>
      rw [mapM_cons, h a (mem_cons_self ..), ih fun b hb => h b (mem_cons_of_mem _ hb)]
      rfl

/-- Bounds of the entries of a list have a common bound. -/
theorem exists_forall_mem_of_mono {P : ℕ → α → Prop} (hmono : ∀ a m n, m ≤ n → P m a → P n a)
    {l : List α} (h : ∀ a ∈ l, ∃ n, P n a) : ∃ n, ∀ a ∈ l, P n a := by
  induction l with
  | nil => exact ⟨0, fun a ha => absurd ha not_mem_nil⟩
  | cons a l ih =>
      obtain ⟨ha, hl⟩ := forall_mem_cons.1 h
      obtain ⟨m, hm⟩ := ha
      obtain ⟨n, hn⟩ := ih hl
      refine ⟨max m n, forall_mem_cons.2 ⟨hmono a _ _ (Nat.le_max_left ..) hm, fun b hb => ?_⟩⟩
      exact hmono b _ _ (Nat.le_max_right ..) (hn b hb)

/-- A separator that is in neither of the first parts tells where they end. -/
theorem append_cons_inj_of_not_mem {a : α} {l l' m m' : List α} (hl : a ∉ l) (hl' : a ∉ l')
    (h : l ++ a :: m = l' ++ a :: m') : l = l' ∧ m = m' := by
  induction l generalizing l' with
  | nil =>
      rcases l' with _ | ⟨b, l'⟩
      · exact ⟨rfl, by simpa using h⟩
      · exact absurd (mem_cons_self ..) ((cons.inj h).1 ▸ hl')
  | cons b l ih =>
      rcases l' with _ | ⟨b', l'⟩
      · exact absurd (mem_cons_self ..) ((cons.inj h).1 ▸ hl)
      · obtain ⟨rfl, htail⟩ := cons.inj h
        obtain ⟨rfl, rfl⟩ := ih (fun hm => hl (mem_cons_of_mem _ hm))
          (fun hm => hl' (mem_cons_of_mem _ hm)) htail
        exact ⟨rfl, rfl⟩

/-- What holds of all entries, and of the updated one, holds of all entries after the update. -/
theorem forall_mem_modify {P : α → Prop} {f : α → α} {l : List α} {a : α} {k : ℕ} (hk : l[k]? = some a)
    (h : ∀ b ∈ l, P b) (hf : P (f a)) : ∀ b ∈ l.modify k f, P b := by
  intro b hb
  obtain ⟨n, hn⟩ := mem_iff_getElem?.1 hb
  rcases getElem?_modify_eq_some.1 hn with ⟨rfl, a', ha', rfl⟩ | ⟨_, hold⟩
  · rw [hk] at ha'
    exact Option.some.inj ha' ▸ hf
  · exact h b (mem_of_getElem? hold)

end List
