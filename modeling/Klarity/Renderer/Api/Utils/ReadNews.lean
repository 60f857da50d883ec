import Mathlib.Data.Int.Notation
import Mathlib.Data.List.Nodup
import Mathlib.Data.Set.Insert

set_option autoImplicit false

/-! # The marks of read news in the local storage

The timestamps of the news that were read are one list under one key. A mark is set or taken away by two
messages: the list is read, and written if it changes. -/

namespace Klarity.LocalStorage

abbrev NewsTimestamp := ℤ

inductive Mark
  | read (newsTimestamps : List NewsTimestamp)
  | unread (newsTimestamp : NewsTimestamp)
  deriving DecidableEq, Repr

/-- `includes(readNews, newsTimestamps[0])` -/
def includesFirst (readNews : List NewsTimestamp) : List NewsTimestamp → Bool
  | [] => false
  | newsTimestamp :: _ => newsTimestamp ∈ readNews

/-- What is written for a list that was read, if it is. -/
def Mark.write (readNews : List NewsTimestamp) : Mark → Option (List NewsTimestamp)
  | .read newsTimestamps =>
      if !includesFirst readNews newsTimestamps then some (readNews ++ newsTimestamps) else none
  | .unread newsTimestamp =>
      if newsTimestamp ∈ readNews then some (readNews.filter (· ≠ newsTimestamp)) else none

/-- The list that is stored after a mark. -/
def Mark.apply (readNews : List NewsTimestamp) (mark : Mark) : List NewsTimestamp :=
  (mark.write readNews).getD readNews

def markNewsAsRead (readNews newsTimestamps : List NewsTimestamp) : List NewsTimestamp :=
  Mark.apply readNews (.read newsTimestamps)

def markNewsAsUnread (readNews : List NewsTimestamp) (newsTimestamp : NewsTimestamp) : List NewsTimestamp :=
  Mark.apply readNews (.unread newsTimestamp)

/-! ## What a mark is for -/

/-- The news that are read after a mark. -/
def Mark.marked (marks : Set NewsTimestamp) : Mark → Set NewsTimestamp
  | .read newsTimestamps => marks ∪ {newsTimestamp | newsTimestamp ∈ newsTimestamps}
  | .unread newsTimestamp => marks \ {newsTimestamp}

variable {readNews newsTimestamps : List NewsTimestamp} {newsTimestamp : NewsTimestamp}

/-- Every timestamp of the batch is read, the other marks are as before, and there is no duplicate. -/
structure Marks (readNews newsTimestamps marked : List NewsTimestamp) : Prop where
  read : ∀ newsTimestamp ∈ newsTimestamps, newsTimestamp ∈ marked
  unchanged : ∀ newsTimestamp ∉ newsTimestamps, marked.count newsTimestamp = readNews.count newsTimestamp
  nodup : marked.Nodup

/-- The timestamp is taken away, and nothing else. -/
structure Unmarks (readNews : List NewsTimestamp) (newsTimestamp : NewsTimestamp)
    (marked : List NewsTimestamp) : Prop where
  unread : newsTimestamp ∉ marked
  unchanged : ∀ other, other ≠ newsTimestamp → marked.count other = readNews.count other

/-- The batch is read already, or all of it is new. -/
def Uniform (readNews newsTimestamps : List NewsTimestamp) : Prop :=
  (∀ newsTimestamp ∈ newsTimestamps, newsTimestamp ∈ readNews) ∨
    (newsTimestamps.Nodup ∧ ∀ newsTimestamp ∈ newsTimestamps, newsTimestamp ∉ readNews)

/-! ## One mark after the other -/

theorem markNewsAsRead_of_includesFirst (h : includesFirst readNews newsTimestamps = true) :
    markNewsAsRead readNews newsTimestamps = readNews := by
  simp [markNewsAsRead, Mark.apply, Mark.write, h]

theorem markNewsAsRead_of_not_includesFirst (h : includesFirst readNews newsTimestamps = false) :
    markNewsAsRead readNews newsTimestamps = readNews ++ newsTimestamps := by
  simp [markNewsAsRead, Mark.apply, Mark.write, h]

/-- Both branches agree on a batch that is read already as far as the marks go. -/
theorem mem_markNewsAsRead (h : Uniform readNews newsTimestamps) :
    newsTimestamp ∈ markNewsAsRead readNews newsTimestamps ↔
      newsTimestamp ∈ readNews ∨ newsTimestamp ∈ newsTimestamps := by
  cases hfirst : includesFirst readNews newsTimestamps with
  | false => rw [markNewsAsRead_of_not_includesFirst hfirst, List.mem_append]
  | true =>
    rw [markNewsAsRead_of_includesFirst hfirst]
    cases newsTimestamps with
    | nil => cases hfirst
    | cons first rest =>
      have hmem : first ∈ readNews := by simpa [includesFirst] using hfirst
      rcases h with hall | ⟨_, hnew⟩
      · refine ⟨.inl, ?_⟩
        rintro (hread | hbatch)
        · exact hread
        · exact hall newsTimestamp hbatch
      · exact absurd hmem (hnew first List.mem_cons_self)

theorem nodup_markNewsAsRead (hnodup : readNews.Nodup) (h : Uniform readNews newsTimestamps) :
    (markNewsAsRead readNews newsTimestamps).Nodup := by
  cases hfirst : includesFirst readNews newsTimestamps with
  | true =>
    rw [markNewsAsRead_of_includesFirst hfirst]
    exact hnodup
  | false =>
    rw [markNewsAsRead_of_not_includesFirst hfirst]
    cases newsTimestamps with
    | nil => simpa using hnodup
    | cons first rest =>
      have hmem : first ∉ readNews := by simpa [includesFirst] using hfirst
      rcases h with hall | ⟨hbatch, hnew⟩
      · exact absurd (hall first List.mem_cons_self) hmem
      · exact hnodup.append hbatch fun t hread ht => hnew t ht hread

/-- A batch is marked as promised if and only if the stored list has no duplicate and the batch is uniform. -/
theorem marks_markNewsAsRead_iff (readNews newsTimestamps : List NewsTimestamp) :
    Marks readNews newsTimestamps (markNewsAsRead readNews newsTimestamps) ↔
      readNews.Nodup ∧ Uniform readNews newsTimestamps := by
  constructor
  · intro h
    cases hfirst : includesFirst readNews newsTimestamps with
    | true =>
      rw [markNewsAsRead_of_includesFirst hfirst] at h
      exact ⟨h.nodup, .inl h.read⟩
    | false =>
      rw [markNewsAsRead_of_not_includesFirst hfirst] at h
      obtain ⟨hread, hbatch, hdisjoint⟩ := List.nodup_append'.1 h.nodup
      exact ⟨hread, .inr ⟨hbatch, fun t ht hmem => hdisjoint hmem ht⟩⟩
  · rintro ⟨hnodup, huniform⟩
    refine ⟨?_, ?_, nodup_markNewsAsRead hnodup huniform⟩
    · intro newsTimestamp hbatch
      exact (mem_markNewsAsRead huniform).2 (.inr hbatch)
    · intro newsTimestamp hbatch
      cases hfirst : includesFirst readNews newsTimestamps with
      | true => rw [markNewsAsRead_of_includesFirst hfirst]
      | false =>
        rw [markNewsAsRead_of_not_includesFirst hfirst, List.count_append, List.count_eq_zero.2 hbatch,
          Nat.add_zero]

theorem markNewsAsUnread_eq (readNews : List NewsTimestamp) (newsTimestamp : NewsTimestamp) :
    markNewsAsUnread readNews newsTimestamp = readNews.filter (· ≠ newsTimestamp) := by
  by_cases hmem : newsTimestamp ∈ readNews
  · simp [markNewsAsUnread, Mark.apply, Mark.write, hmem]
  · have hsame : readNews.filter (· ≠ newsTimestamp) = readNews := by
      refine List.filter_eq_self.2 ?_
      intro other hother
      simpa using fun heq : other = newsTimestamp => hmem (heq ▸ hother)
    rw [hsame]
    simp [markNewsAsUnread, Mark.apply, Mark.write, hmem]

theorem unmarks_markNewsAsUnread (readNews : List NewsTimestamp) (newsTimestamp : NewsTimestamp) :
    Unmarks readNews newsTimestamp (markNewsAsUnread readNews newsTimestamp) := by
  rw [markNewsAsUnread_eq]
  refine ⟨by simp, ?_⟩
  intro other hother
  exact List.count_filter (by simpa using hother)

/-- A mark that meets a uniform batch does what it is for. -/
theorem Mark.mem_apply {mark : Mark} (h : ∀ batch, mark = .read batch → Uniform readNews batch)
    (newsTimestamp : NewsTimestamp) :
    newsTimestamp ∈ mark.apply readNews ↔ newsTimestamp ∈ mark.marked {t | t ∈ readNews} := by
  cases mark with
  | read batch => exact mem_markNewsAsRead (h batch rfl)
  | unread other =>
    have heq : Mark.apply readNews (.unread other) = readNews.filter (· ≠ other) := markNewsAsUnread_eq ..
    rw [heq]
    simp [Mark.marked]

theorem Mark.nodup_apply {mark : Mark} (hnodup : readNews.Nodup)
    (h : ∀ batch, mark = .read batch → Uniform readNews batch) : (mark.apply readNews).Nodup := by
  cases mark with
  | read batch => exact nodup_markNewsAsRead hnodup (h batch rfl)
  | unread other =>
    have heq : Mark.apply readNews (.unread other) = readNews.filter (· ≠ other) := markNewsAsUnread_eq ..
    rw [heq]
    exact hnodup.filter _

end Klarity.LocalStorage
