import Klarity.Library.Lists
import Klarity.Renderer.Api.Utils.ReadNews
import Klarity.Renderer.Stores.Lib.Request
import Mathlib.Data.List.Permutation

set_option autoImplicit false

/-! # Marks that overlap

News are marked as read by one request and as unread by another. A mark that is set while its request waits for
a response makes no call. A call reads the list of read news, and writes it in a second message, whatever was
written in between.

`issued` are the marks that were asked for, and `applied` those that took effect, in this order; no step reads
them. -/

namespace Klarity.NewsFeedStore

open LocalStorage (Mark Marks Unmarks NewsTimestamp Uniform markNewsAsRead markNewsAsUnread)

variable {Err : Type}

/-! ## The model -/

/-- How far a call has come; `settled` is one whose response the request has handled. -/
inductive Phase (Err : Type)
  | getting
  | got (readNews : List NewsTimestamp)
  | returned (outcome : Except Err (List NewsTimestamp))
  | settled

/-- The call with the number `call` of the request that the mark goes through. -/
structure MarkCall (Err : Type) where
  mark : Mark
  call : ℕ
  phase : Phase Err

structure State (Err : Type) where
  readNews : List NewsTimestamp
  markNewsAsReadRequest : Request.State (List NewsTimestamp) (List NewsTimestamp) Err := {}
  markNewsAsUnreadRequest : Request.State NewsTimestamp (List NewsTimestamp) Err := {}
  calls : List (MarkCall Err) := []
  issued : List Mark := []
  applied : List Mark := []

/-- `get` and `goOn` are the two messages of a call, as the local storage handles them; `fail` is one of them
failing. -/
inductive Event (Err : Type)
  | mark (mark : Mark)
  | get (call : ℕ)
  | goOn (call : ℕ)
  | fail (call : ℕ) (error : Err)
  | readTick (i : ℕ)
  | unreadTick (i : ℕ)
  | respond (call : ℕ)

/-- The request of a mark is executed. -/
def executeMark (s : State Err) : Mark → State Err
  | .read newsTimestamps =>
      let request := s.markNewsAsReadRequest
      { s with
        markNewsAsReadRequest := request.execute newsTimestamps
        calls :=
          if request.isWaitingForResponse then s.calls
          else s.calls ++ [⟨.read newsTimestamps, request.calls.length, .getting⟩] }
  | .unread newsTimestamp =>
      let request := s.markNewsAsUnreadRequest
      { s with
        markNewsAsUnreadRequest := request.execute newsTimestamp
        calls :=
          if request.isWaitingForResponse then s.calls
          else s.calls ++ [⟨.unread newsTimestamp, request.calls.length, .getting⟩] }

def State.setPhase (s : State Err) (k : ℕ) (phase : Phase Err) : State Err :=
  { s with calls := s.calls.modify k fun call => { call with phase := phase } }

def step (s : State Err) : Event Err → Option (State Err)
  | .mark mark => some { executeMark s mark with issued := s.issued ++ [mark] }
  | .get k =>
      match s.calls[k]? with
      | some ⟨mark, _, .getting⟩ =>
          some { s.setPhase k (.got s.readNews) with
            applied := if (mark.write s.readNews).isNone then s.applied ++ [mark] else s.applied }
      | _ => none
  | .goOn k =>
      match s.calls[k]? with
      | some ⟨mark, _, .got readNews⟩ =>
          match mark.write readNews with
          | some written =>
              some { s.setPhase k (.returned (.ok readNews)) with
                readNews := written
                applied := s.applied ++ [mark] }
          | none => some (s.setPhase k (.returned (.ok readNews)))
      | _ => none
  | .fail k error =>
      match s.calls[k]? with
      | some ⟨_, _, .getting⟩ | some ⟨_, _, .got _⟩ => some (s.setPhase k (.returned (.error error)))
      | _ => none
  | .readTick i => do
      let request ← Request.step s.markNewsAsReadRequest (.tick i)
      some { s with markNewsAsReadRequest := request }
  | .unreadTick i => do
      let request ← Request.step s.markNewsAsUnreadRequest (.tick i)
      some { s with markNewsAsUnreadRequest := request }
  | .respond k =>
      match s.calls[k]? with
      | some ⟨.read _, i, .returned outcome⟩ => do
          let request ← Request.step s.markNewsAsReadRequest (.respond i outcome)
          some { s.setPhase k .settled with markNewsAsReadRequest := request }
      | some ⟨.unread _, i, .returned outcome⟩ => do
          let request ← Request.step s.markNewsAsUnreadRequest (.respond i outcome)
          some { s.setPhase k .settled with markNewsAsUnreadRequest := request }
      | _ => none

def machine (Err : Type) (readNews : List NewsTimestamp) : Machine (State Err) (Event Err) :=
  ⟨{ readNews := readNews }, step⟩

/-! ## What is promised -/

variable {s s' : State Err} {readNews : List NewsTimestamp}

/-- Every call has been answered by the local storage. -/
def Finished (s : State Err) : Prop :=
  ∀ call ∈ s.calls, match call.phase with
    | .returned _ | .settled => True
    | _ => False

/-- The news that are read are those that all the marks together come to, one after the other in some order. -/
def NothingLost (readNews : List NewsTimestamp) (s : State Err) : Prop :=
  ∃ order : List Mark, order.Perm s.issued ∧
    (∀ t, t ∈ s.readNews ↔ t ∈ order.foldl Mark.marked {t | t ∈ readNews}) ∧
    (readNews.Nodup → s.readNews.Nodup)

/-- The request of a mark waits for a response. -/
def isMarking (s : State Err) : Mark → Bool
  | .read _ => s.markNewsAsReadRequest.isWaitingForResponse
  | .unread _ => s.markNewsAsUnreadRequest.isWaitingForResponse

/-- A mark is set while its request is free, every batch is uniform when its call reads the list, the list is the
one that was read when a call writes it, and no access fails. -/
def InOrder (s : State Err) : Event Err → Prop
  | .mark mark => isMarking s mark = false
  | .get k => ∀ batch i, s.calls[k]? = some ⟨.read batch, i, .getting⟩ → Uniform s.readNews batch
  | .goOn k => ∀ mark i readNews, s.calls[k]? = some ⟨mark, i, .got readNews⟩ →
      (mark.write readNews).isSome = true → readNews = s.readNews
  | .fail _ _ => False
  | _ => True

/-! ## The invariant -/

/-- The mark of a call that has not taken effect yet. -/
def owed (call : MarkCall Err) : Option Mark :=
  match call.phase with
  | .getting => some call.mark
  | .got readNews => if (call.mark.write readNews).isSome then some call.mark else none
  | _ => none

structure Invariant (readNews : List NewsTimestamp) (s : State Err) : Prop where
  issued : (s.applied ++ s.calls.filterMap owed).Perm s.issued
  marked : ∀ t, t ∈ s.readNews ↔ t ∈ s.applied.foldl Mark.marked {t | t ∈ readNews}
  nodup : readNews.Nodup → s.readNews.Nodup
  got : ∀ (k : ℕ) batch i readNews, s.calls[k]? = some ⟨.read batch, i, .got readNews⟩ → Uniform readNews batch

theorem Invariant.nothingLost (h : Invariant readNews s) (hfinished : Finished s) : NothingLost readNews s := by
  have hnone : s.calls.filterMap owed = [] := by
    refine List.filterMap_eq_nil_iff.2 ?_
    intro call hcall
    have hdone := hfinished call hcall
    unfold owed
    split
    · next hphase =>
        rw [hphase] at hdone
        cases hdone
    · next hphase =>
        rw [hphase] at hdone
        cases hdone
    · rfl
  have hissued := h.issued
  rw [hnone, List.append_nil] at hissued
  exact ⟨s.applied, hissued, h.marked, h.nodup⟩

/-! ## Steps -/

/-- What is owed changes at the call that comes to another phase. -/
theorem owed_setPhase {k : ℕ} {call : MarkCall Err} (hcall : s.calls[k]? = some call) (p : Phase Err) :
    ∃ before after, s.calls.filterMap owed = before ++ (owed call).toList ++ after ∧
      (s.setPhase k p).calls.filterMap owed = before ++ (owed { call with phase := p }).toList ++ after := by
  obtain ⟨hk, hget⟩ := List.getElem?_eq_some_iff.1 hcall
  obtain ⟨before, call', after, hcalls, hlength, hmodify⟩ :=
    List.exists_of_modify (fun call : MarkCall Err => { call with phase := p }) hk
  obtain rfl : call' = call := by
    have hsome : s.calls[k]? = some call' := by
      rw [hcalls, ← hlength]
      simp
    exact Option.some.inj (hsome.symm.trans hcall)
  refine ⟨before.filterMap owed, after.filterMap owed, ?_, ?_⟩
  · rw [hcalls, List.filterMap_append, List.filterMap_cons]
    cases owed call' with
    | none => simp
    | some mark => simp
  · show List.filterMap owed (s.calls.modify k _) = _
    rw [hmodify, List.filterMap_append, List.filterMap_cons]
    cases owed ({ call' with phase := p } : MarkCall Err) with
    | none => simp
    | some mark => simp

/-- The phase of one call changes, and it reads a uniform batch if any. -/
theorem got_setPhase (h : Invariant readNews s) {k : ℕ} {call : MarkCall Err} {p : Phase Err}
    (hcall : s.calls[k]? = some call)
    (hp : ∀ batch readNews, call.mark = .read batch → p = .got readNews → Uniform readNews batch) :
    ∀ (n : ℕ) batch i readNews, (s.setPhase k p).calls[n]? = some ⟨.read batch, i, .got readNews⟩ →
      Uniform readNews batch := by
  intro n batch i got hgot
  rcases List.getElem?_modify_eq_some.1 hgot with ⟨rfl, old, hold, heq⟩ | ⟨_, hold⟩
  · obtain rfl := Option.some.inj (hold.symm.trans hcall)
    have hmark := congrArg MarkCall.mark heq
    have hphase := congrArg MarkCall.phase heq
    exact hp batch got hmark.symm hphase.symm
  · exact h.got n batch i got hold

/-- A call that owes its mark pays it, or stays as it is. -/
theorem Invariant.issued_setPhase (h : Invariant readNews s) {k : ℕ} {call : MarkCall Err} {p : Phase Err}
    (hcall : s.calls[k]? = some call) (paid : List Mark)
    (hp : (owed call).toList = paid ++ (owed { call with phase := p }).toList) :
    ((s.applied ++ paid) ++ (s.setPhase k p).calls.filterMap owed).Perm s.issued := by
  obtain ⟨before, after, hbefore, hafter⟩ := owed_setPhase hcall p
  have hissued := h.issued
  rw [hbefore, hp] at hissued
  rw [hafter]
  refine List.Perm.trans ?_ hissued
  rw [List.append_assoc]
  refine List.Perm.append_left _ ?_
  have hswap : (paid ++ before).Perm (before ++ paid) := List.perm_append_comm
  simpa only [List.append_assoc] using
    hswap.append_right ((owed { call with phase := p }).toList ++ after)

/-- A mark takes effect on the list that is stored. -/
theorem Invariant.mem_apply (h : Invariant readNews s) {mark : Mark}
    (huniform : ∀ batch, mark = .read batch → Uniform s.readNews batch) (t : NewsTimestamp) :
    t ∈ mark.apply s.readNews ↔ t ∈ (s.applied ++ [mark]).foldl Mark.marked {t | t ∈ readNews} := by
  have hsame : {t | t ∈ s.readNews} = s.applied.foldl Mark.marked {t | t ∈ readNews} := by
    ext t
    exact h.marked t
  rw [Mark.mem_apply huniform, hsame, List.foldl_append]
  rfl

theorem Invariant.mark (h : Invariant readNews s) {mark : Mark} (hok : InOrder s (.mark mark)) :
    Invariant readNews { executeMark s mark with issued := s.issued ++ [mark] } := by
  have hcalls : ∃ i, executeMark s mark = { executeMark s mark with
      readNews := s.readNews, applied := s.applied, calls := s.calls ++ [⟨mark, i, .getting⟩] } := by
    cases mark with
    | read batch =>
      have hfree : s.markNewsAsReadRequest.isWaitingForResponse = false := hok
      exact ⟨s.markNewsAsReadRequest.calls.length, by simp [executeMark, hfree]⟩
    | unread t =>
      have hfree : s.markNewsAsUnreadRequest.isWaitingForResponse = false := hok
      exact ⟨s.markNewsAsUnreadRequest.calls.length, by simp [executeMark, hfree]⟩
  obtain ⟨i, hmark⟩ := hcalls
  rw [hmark]
  refine ⟨?_, h.marked, h.nodup, ?_⟩
  · show (s.applied ++ (s.calls ++ [_]).filterMap owed).Perm (s.issued ++ [mark])
    rw [List.filterMap_append, ← List.append_assoc]
    exact h.issued.append_right [mark]
  · intro n batch i got hgot
    rcases List.getElem?_concat_eq_some.1 hgot with hold | ⟨_, hnew⟩
    · exact h.got n batch i got hold
    · cases hnew

theorem Invariant.get (h : Invariant readNews s) {k : ℕ} (hok : InOrder s (.get k))
    (hs : step s (.get k) = some s') : Invariant readNews s' := by
  simp only [step] at hs
  split at hs
  · next mark i hcall =>
      cases hs
      have huniform : ∀ batch, mark = .read batch → Uniform s.readNews batch := by
        rintro batch rfl
        exact hok batch i hcall
      have hgot := got_setPhase (p := .got s.readNews) h hcall (by
        rintro batch readNews hbatch ⟨⟩
        exact huniform batch hbatch)
      cases hwrite : mark.write s.readNews with
      | none =>
        -- nothing is to be written, so the mark takes effect here
        have happly : mark.apply s.readNews = s.readNews := by simp [Mark.apply, hwrite]
        refine ⟨h.issued_setPhase hcall [mark] (by simp [owed, hwrite]), ?_, h.nodup, hgot⟩
        intro t
        have hmem := h.mem_apply huniform t
        rw [happly] at hmem
        exact hmem
      | some written =>
        have hissued := h.issued_setPhase (p := .got s.readNews) hcall [] (by simp [owed, hwrite])
        rw [List.append_nil] at hissued
        exact ⟨hissued, h.marked, h.nodup, hgot⟩
  · cases hs

theorem Invariant.goOn (h : Invariant readNews s) {k : ℕ} (hok : InOrder s (.goOn k))
    (hs : step s (.goOn k) = some s') : Invariant readNews s' := by
  simp only [step] at hs
  split at hs
  · next mark i got hcall =>
      have hgot := got_setPhase (p := .returned (.ok got)) h hcall nofun
      cases hwrite : mark.write got with
      | none =>
        rw [hwrite] at hs
        cases hs
        have hissued := h.issued_setPhase (p := .returned (.ok got)) hcall [] (by simp [owed, hwrite])
        rw [List.append_nil] at hissued
        exact ⟨hissued, h.marked, h.nodup, hgot⟩
      | some written =>
        rw [hwrite] at hs
        cases hs
        obtain rfl : got = s.readNews := hok mark i got hcall (by rw [hwrite]; rfl)
        have happly : mark.apply s.readNews = written := by simp [Mark.apply, hwrite]
        have huniform : ∀ batch, mark = .read batch → Uniform s.readNews batch := by
          rintro batch rfl
          exact h.got k batch i s.readNews hcall
        refine ⟨h.issued_setPhase hcall [mark] (by simp [owed, hwrite]), ?_, ?_, hgot⟩
        · intro t
          have hmem := h.mem_apply huniform t
          rw [happly] at hmem
          exact hmem
        · intro hnodup
          rw [← happly]
          exact Mark.nodup_apply (h.nodup hnodup) huniform
  · cases hs

/-- A response changes no mark. -/
theorem Invariant.settle (h : Invariant readNews s) {k : ℕ} {call : MarkCall Err}
    {outcome : Except Err (List NewsTimestamp)} (hcall : s.calls[k]? = some call)
    (hphase : call.phase = .returned outcome) : Invariant readNews (s.setPhase k .settled) := by
  have hissued := h.issued_setPhase (p := .settled) hcall [] (by simp [owed, hphase])
  rw [List.append_nil] at hissued
  exact ⟨hissued, h.marked, h.nodup, got_setPhase h hcall nofun⟩

theorem Invariant.step (h : Invariant readNews s) {e : Event Err} (hok : InOrder s e)
    (hs : step s e = some s') : Invariant readNews s' := by
  cases e with
  | mark mark =>
    cases hs
    exact h.mark hok
  | get k => exact h.get hok hs
  | goOn k => exact h.goOn hok hs
  | fail k error => exact absurd hok not_false
  | readTick i | unreadTick i =>
    obtain ⟨request, _, hs⟩ := Option.bind_eq_some_iff.mp hs
    cases hs
    exact ⟨h.issued, h.marked, h.nodup, h.got⟩
  | respond k =>
    simp only [NewsFeedStore.step] at hs
    split at hs
    · next hcall =>
        obtain ⟨request, _, hs⟩ := Option.bind_eq_some_iff.mp hs
        cases hs
        have hsettled := h.settle hcall rfl
        exact ⟨hsettled.issued, hsettled.marked, hsettled.nodup, hsettled.got⟩
    · next hcall =>
        obtain ⟨request, _, hs⟩ := Option.bind_eq_some_iff.mp hs
        cases hs
        have hsettled := h.settle hcall rfl
        exact ⟨hsettled.issued, hsettled.marked, hsettled.nodup, hsettled.got⟩
    · cases hs

/-! ## The main results -/

theorem Invariant.init : Invariant readNews (machine Err readNews).init := by
  refine ⟨.refl _, fun t => .rfl, fun hnodup => hnodup, ?_⟩
  intro k batch i got hgot
  cases hgot

/-- A batch is marked as promised if and only if the stored list has no duplicate and the batch is uniform, a mark
is taken away as promised always, and marks that overlap in order lose nothing. -/
theorem marks_iff_and_nothingLost (stored batch : List NewsTimestamp) (t : NewsTimestamp)
    (hr : (machine Err readNews).Reaches InOrder s) :
    (Marks stored batch (markNewsAsRead stored batch) ↔ stored.Nodup ∧ Uniform stored batch) ∧
      Unmarks stored t (markNewsAsUnread stored t) ∧
      (Finished s → NothingLost readNews s) := by
  have hinv := hr.invariant (P := Invariant readNews) .init fun _ _ _ _ hok h hs => h.step hok hs
  exact ⟨LocalStorage.marks_markNewsAsRead_iff stored batch, LocalStorage.unmarks_markNewsAsUnread stored t,
    hinv.nothingLost⟩

/-- A mark is taken away before the request of another is done, but after its write. -/
def unreadAfterWrite : List (Event String) :=
  [.mark (.read [2]), .get 0, .goOn 0, .mark (.unread 1), .get 1, .readTick 0, .respond 0, .goOn 1]

theorem nothingLost_of_unreadAfterWrite :
    ∃ s, (machine String [1]).Reaches InOrder s ∧ s.readNews = [2] ∧ s.issued = [.read [2], .unread 1] ∧
      NothingLost [1] s := by
  have hsteps : (machine String [1]).allSteps InOrder (machine String [1]).init unreadAfterWrite := by
    refine ⟨rfl, ?_, ?_, rfl, ?_, trivial, trivial, ?_, trivial⟩
    · rintro batch i ⟨⟩
      exact .inr ⟨by decide, by decide⟩
    · rintro mark i readNews ⟨⟩ _
      rfl
    · rintro batch i ⟨⟩
    · rintro mark i readNews ⟨⟩ _
      rfl
  have hr : (machine String [1]).Reaches InOrder _ := .exec unreadAfterWrite .init hsteps rfl
  refine ⟨_, hr, rfl, rfl, (marks_iff_and_nothingLost [1] [2] 1 hr).2.2 ?_⟩
  intro call hcall
  rcases List.mem_cons.1 hcall with rfl | hcall
  · trivial
  · obtain rfl := List.mem_singleton.1 hcall
    trivial

/-- A second mark is set while the first is stored. -/
def markedTwice : List (Event String) :=
  [.mark (.read [1]), .mark (.read [2]), .get 0, .goOn 0, .readTick 0, .respond 0]

/-- A mark is taken away between the two messages of another. -/
def unreadBeforeWrite : List (Event String) :=
  [.mark (.read [2]), .get 0, .mark (.unread 1), .get 1, .goOn 1, .goOn 0]

theorem not_nothingLost_of_pair {s : State String} {a b : Mark} {stored : List NewsTimestamp}
    (hissued : s.issued = [a, b]) (t : NewsTimestamp)
    (hab : ¬ (t ∈ s.readNews ↔ t ∈ [a, b].foldl Mark.marked {t | t ∈ stored}))
    (hba : ¬ (t ∈ s.readNews ↔ t ∈ [b, a].foldl Mark.marked {t | t ∈ stored})) : ¬ NothingLost stored s := by
  rintro ⟨order, hperm, hmem, _⟩
  rw [hissued] at hperm
  rcases List.perm_pair.1 hperm with rfl | rfl
  · exact hab (hmem t)
  · exact hba (hmem t)

/-- A batch that is read in part is dropped or doubled, a mark that finds its request busy is lost, and a mark is
set again that was taken away meanwhile. -/
theorem not_marks_and_not_nothingLost :
    ¬ Marks [1] [1, 2] (markNewsAsRead [1] [1, 2]) ∧ ¬ Marks [1] [2, 1] (markNewsAsRead [1] [2, 1]) ∧
      (∃ s, (machine String []).Reaches Machine.anyStep s ∧ Finished s ∧ ¬ NothingLost [] s) ∧
      ∃ s, (machine String [1]).Reaches Machine.anyStep s ∧ Finished s ∧ ¬ NothingLost [1] s := by
  refine ⟨?_, ?_, ⟨_, Machine.reaches_of_exec (M := machine String []) markedTwice rfl, ?_, ?_⟩,
    ⟨_, Machine.reaches_of_exec (M := machine String [1]) unreadBeforeWrite rfl, ?_, ?_⟩⟩
  · intro h
    exact absurd (h.read 2 (by decide)) (by decide)
  · intro h
    exact absurd h.nodup (by decide)
  · intro call hcall
    obtain rfl := List.mem_singleton.1 hcall
    trivial
  · have hread : ¬ (2 : ℤ) ∈ [1] := by decide
    refine not_nothingLost_of_pair rfl 2 ?_ ?_
    · intro h
      exact hread (h.2 (by simp [Mark.marked]))
    · intro h
      exact hread (h.2 (by simp [Mark.marked]))
  · intro call hcall
    rcases List.mem_cons.1 hcall with rfl | hcall
    · trivial
    · obtain rfl := List.mem_singleton.1 hcall
      trivial
  · have hread : (1 : ℤ) ∈ [1, 2] := by decide
    refine not_nothingLost_of_pair rfl 1 ?_ ?_
    · intro h
      exact absurd (h.1 hread) (by simp [Mark.marked])
    · intro h
      exact absurd (h.1 hread) (by simp [Mark.marked])

end Klarity.NewsFeedStore
