import Mathlib.Data.List.Basic

set_option autoImplicit false

/-! # Words

Lists of words and strings of words with one space between them: `split(' ')` and `join(' ')` are inverse to
each other. `chunk` cuts a list into pieces of one size, the last of which may be shorter. -/

namespace Words

/-- `words.join(' ')` -/
def join (words : List String) : String :=
  String.ofList ([' '].intercalate (words.map String.toList))

/-- `s.split(' ')` -/
def split (s : String) : List String := (s.toList.splitOn ' ').map String.ofList

theorem join_split (s : String) : join (split s) = s := by
  unfold join split
  rw [List.map_map]
  have hid : String.toList ∘ String.ofList = id := by
    funext l
    simp
  rw [hid, List.map_id, List.intercalate_splitOn, String.ofList_toList]

theorem split_join {words : List String} (hne : words ≠ []) (h : ∀ word ∈ words, ' ' ∉ word.toList) :
    split (join words) = words := by
  unfold join split
  rw [String.toList_ofList, List.splitOn_intercalate, List.map_map]
  · have hid : String.ofList ∘ String.toList = id := by
      funext s
      simp
    rw [hid, List.map_id]
  · intro l hl
    obtain ⟨word, hword, rfl⟩ := List.mem_map.1 hl
    exact h word hword
  · simpa using hne

theorem split_ne_nil (s : String) : split s ≠ [] := by
  unfold split
  simp [List.splitOn_ne_nil]

theorem not_mem_of_mem_splitOn {α : Type} [BEq α] [LawfulBEq α] {a : α} {l piece : List α}
    (h : piece ∈ l.splitOn a) : a ∉ piece := by
  induction l generalizing piece with
  | nil =>
      rw [List.splitOn_nil, List.mem_singleton] at h
      simp [h]
  | cons b l ih =>
      rw [List.splitOn_cons_eq_if_modifyHead] at h
      by_cases hb : b == a
      · rw [if_pos hb] at h
        rcases List.mem_cons.1 h with rfl | h
        · simp
        · exact ih h
      · rw [if_neg hb] at h
        rcases hl : l.splitOn a with _ | ⟨head, tail⟩
        · exact absurd hl (List.splitOn_ne_nil a l)
        · rw [hl, List.modifyHead_cons] at h
          have hne : a ≠ b := by
            rintro rfl
            simp at hb
          rcases List.mem_cons.1 h with rfl | h
          · have hhead : a ∉ head := ih (by simp [hl])
            simp [hne, hhead]
          · exact ih (by simp [hl, h])

theorem space_not_mem_of_mem_split {s word : String} (h : word ∈ split s) : ' ' ∉ word.toList := by
  obtain ⟨l, hl, rfl⟩ := List.mem_map.1 h
  rw [String.toList_ofList]
  exact not_mem_of_mem_splitOn hl

/-! ## Pieces -/

variable {α : Type} {size : ℕ} {l front back : List α}

/-- `chunk(l, size)` -/
def chunk (size : ℕ) (l : List α) : List (List α) :=
  (List.range ((l.length + size - 1) / size)).map fun i => (l.drop (i * size)).take size

theorem chunk_zero (hl : l ≠ []) (hsize : 0 < size) : (chunk size l)[0]? = some (l.take size) := by
  have hlength : 0 < l.length := List.length_pos_iff.2 hl
  have hpieces : 0 < (l.length + size - 1) / size := Nat.div_pos (by omega) hsize
  simp [chunk, List.getElem?_range hpieces]

/-- The first piece and the rest. -/
theorem chunk_append (hfront : front.length = size) (hsize : 0 < size) (hne : back ≠ [])
    (hback : back.length ≤ size) : (chunk size (front ++ back))[1]? = some back := by
  have hlength : 0 < back.length := List.length_pos_iff.2 hne
  have hpieces : 1 < ((front ++ back).length + size - 1) / size := by
    rw [Nat.lt_div_iff_mul_lt hsize, List.length_append]
    omega
  unfold chunk
  rw [List.getElem?_map, List.getElem?_range hpieces, Option.map_some, Nat.one_mul, ← hfront,
    List.drop_left, List.take_of_length_le (hfront ▸ hback)]

end Words
