import Mathlib.Data.List.Sort
import Mathlib.Algebra.Order.Ring.Int

set_option autoImplicit false

/-! # WalletTransactionsList

The transactions are grouped by day, the groups are sorted and then flattened to rows. A group is dated by the
transaction that opened it, and two moments are of one day if they are formatted alike. -/

namespace Klarity.WalletTransactionsList

/-! ## The model -/

/-- What the list reads of a transaction; the date is in milliseconds. -/
structure WalletTransaction where
  id : String
  date : ℤ
  deriving DecidableEq, Repr

structure TransactionsGroup where
  date : ℤ
  transactions : List WalletTransaction
  deriving DecidableEq, Repr

structure TransactionInfo where
  tx : WalletTransaction
  isLastInGroup : Bool
  isFirstInGroup : Bool
  deriving DecidableEq, Repr

inductive Row
  | group (group : TransactionsGroup)
  | info (info : TransactionInfo)
  deriving DecidableEq, Repr

/-! A day is what a time is formatted as, in the local time. -/

variable {Day : Type}

section

variable [DecidableEq Day] (format : ℤ → Day)

/-- The group of the day of the transaction gets it, or a new group at the end. -/
def pushTransaction (transaction : WalletTransaction) : List TransactionsGroup → List TransactionsGroup
  | [] => [{ date := transaction.date, transactions := [transaction] }]
  | group :: groups =>
      if format group.date = format transaction.date then
        { group with transactions := group.transactions ++ [transaction] } :: groups
      else group :: pushTransaction transaction groups

def groupTransactionsByDay (transactions : List WalletTransaction) : List TransactionsGroup :=
  (transactions.foldl (fun groups transaction => pushTransaction format transaction groups) []).mergeSort
    fun a b => decide (b.date - a.date ≤ 0)

def TransactionsGroup.infos (group : TransactionsGroup) : List TransactionInfo :=
  group.transactions.mapIdx fun transactionIndex transaction =>
    { tx := transaction
      isLastInGroup := group.transactions.length = transactionIndex + 1
      isFirstInGroup := transactionIndex = 0 }

/-- A flat list with dates in-between. -/
def rows (transactions : List WalletTransaction) : List Row :=
  (groupTransactionsByDay format transactions).flatMap fun group => .group group :: group.infos.map .info

end

/-! ## The list as it is described -/

def Row.tx? : Row → Option WalletTransaction
  | .group _ => none
  | .info transaction => some transaction.tx

/-- The rows of one day: the row of the group and the rows of its transactions. -/
structure Block where
  group : TransactionsGroup
  infos : List TransactionInfo

def Block.rows (block : Block) : List Row := .group block.group :: block.infos.map .info

/-- The first row of a day is marked, the last one is marked, and no other one. -/
structure Block.IsMarked (block : Block) : Prop where
  nonempty : block.infos ≠ []
  first : ∀ (i : ℕ) (info : TransactionInfo), block.infos[i]? = some info →
    (info.isFirstInGroup = true ↔ i = 0)
  last : ∀ (i : ℕ) (info : TransactionInfo), block.infos[i]? = some info →
    (info.isLastInGroup = true ↔ i + 1 = block.infos.length)

/-- The rows are blocks: the days go strictly down, each block has the transactions of its day in the order of
the list, and every transaction of the list has one row. -/
structure ListedByDay [LinearOrder Day] (format : ℤ → Day) (transactions : List WalletTransaction)
    (blocks : List Block) : Prop where
  descending : blocks.Pairwise fun a b => format b.group.date < format a.group.date
  ofDay : ∀ block ∈ blocks, block.infos.map (·.tx) =
    transactions.filter fun transaction => format transaction.date = format block.group.date
  marked : ∀ block ∈ blocks, block.IsMarked
  complete : ((blocks.flatMap Block.rows).filterMap Row.tx?).Perm transactions

/-! ## Grouping -/

section

variable [DecidableEq Day] {format : ℤ → Day}

/-- What the loop keeps: the groups have the transactions that were seen, each group those of its day. -/
structure Grouped (format : ℤ → Day) (seen : List WalletTransaction) (groups : List TransactionsGroup) :
    Prop where
  distinct : groups.Pairwise fun a b => format a.date ≠ format b.date
  ofDay : ∀ group ∈ groups, group.transactions =
    seen.filter fun transaction => format transaction.date = format group.date
  nonempty : ∀ group ∈ groups, group.transactions ≠ []
  perm : (groups.flatMap (·.transactions)).Perm seen

theorem perm_pushTransaction (transaction : WalletTransaction) (groups : List TransactionsGroup) :
    ((pushTransaction format transaction groups).flatMap (·.transactions)).Perm
      (groups.flatMap (·.transactions) ++ [transaction]) := by
  induction groups with
  | nil => exact List.Perm.refl _
  | cons group groups ih =>
    unfold pushTransaction
    by_cases hday : format group.date = format transaction.date
    · rw [if_pos hday, List.flatMap_cons, List.flatMap_cons, List.append_assoc, List.append_assoc]
      exact List.Perm.append_left _ List.perm_append_comm
    · rw [if_neg hday, List.flatMap_cons, List.flatMap_cons, List.append_assoc]
      exact List.Perm.append_left _ ih

/-- A group is a new one, or it was there and has got the transaction if that is of its day. -/
theorem mem_pushTransaction {transaction : WalletTransaction} {groups : List TransactionsGroup}
    (hdistinct : groups.Pairwise fun a b => format a.date ≠ format b.date) {group : TransactionsGroup}
    (h : group ∈ pushTransaction format transaction groups) :
    (∀ old ∈ groups, format old.date ≠ format transaction.date) ∧
        group = { date := transaction.date, transactions := [transaction] } ∨
      ∃ old ∈ groups, old.date = group.date ∧ group.transactions =
        old.transactions ++ if format transaction.date = format old.date then [transaction] else [] := by
  induction groups with
  | nil => exact .inl ⟨fun old hold => absurd hold List.not_mem_nil, List.mem_singleton.1 h⟩
  | cons first groups ih =>
    obtain ⟨hfirst, hrest⟩ := List.pairwise_cons.1 hdistinct
    unfold pushTransaction at h
    by_cases hday : format first.date = format transaction.date
    · rw [if_pos hday] at h
      rcases List.mem_cons.1 h with rfl | hmem
      · exact .inr ⟨first, List.mem_cons_self, rfl, by rw [if_pos hday.symm]⟩
      · have hother : format transaction.date ≠ format group.date := hday ▸ hfirst group hmem
        exact .inr ⟨group, List.mem_cons_of_mem _ hmem, rfl, by rw [if_neg hother, List.append_nil]⟩
    · rw [if_neg hday] at h
      rcases List.mem_cons.1 h with rfl | hmem
      · exact .inr ⟨group, List.mem_cons_self, rfl, by rw [if_neg (Ne.symm hday), List.append_nil]⟩
      · rcases ih hrest hmem with ⟨hnone, hnew⟩ | ⟨old, hold, heq⟩
        · exact .inl ⟨List.forall_mem_cons.2 ⟨hday, hnone⟩, hnew⟩
        · exact .inr ⟨old, List.mem_cons_of_mem _ hold, heq⟩

/-- No day has two groups, for the date of a group is one that was there or that of the transaction. -/
theorem pairwise_pushTransaction {transaction : WalletTransaction} {groups : List TransactionsGroup}
    (hdistinct : groups.Pairwise fun a b => format a.date ≠ format b.date) :
    (pushTransaction format transaction groups).Pairwise fun a b => format a.date ≠ format b.date := by
  induction groups with
  | nil => exact List.pairwise_singleton ..
  | cons first groups ih =>
    obtain ⟨hfirst, hrest⟩ := List.pairwise_cons.1 hdistinct
    unfold pushTransaction
    by_cases hday : format first.date = format transaction.date
    · rw [if_pos hday]
      exact List.pairwise_cons.2 ⟨hfirst, hrest⟩
    · rw [if_neg hday]
      refine List.pairwise_cons.2 ⟨fun group hgroup => ?_, ih hrest⟩
      rcases mem_pushTransaction hrest hgroup with ⟨-, rfl⟩ | ⟨old, hold, hdate, -⟩
      · exact hday
      · rw [← hdate]
        exact hfirst old hold

/-- A transaction that was seen is in the group of its day. -/
theorem Grouped.exists_group {seen : List WalletTransaction} {groups : List TransactionsGroup}
    (h : Grouped format seen groups) {transaction : WalletTransaction} (hmem : transaction ∈ seen) :
    ∃ group ∈ groups, format group.date = format transaction.date := by
  obtain ⟨group, hgroup, htransaction⟩ := List.mem_flatMap.1 (h.perm.mem_iff.2 hmem)
  rw [h.ofDay group hgroup] at htransaction
  have hday := List.of_mem_filter htransaction
  exact ⟨group, hgroup, (of_decide_eq_true hday).symm⟩

theorem Grouped.push {seen : List WalletTransaction} {groups : List TransactionsGroup}
    (h : Grouped format seen groups) (transaction : WalletTransaction) :
    Grouped format (seen ++ [transaction]) (pushTransaction format transaction groups) where
  distinct := pairwise_pushTransaction h.distinct
  ofDay := by
    intro group hgroup
    rw [List.filter_append]
    rcases mem_pushTransaction h.distinct hgroup with ⟨hnone, rfl⟩ | ⟨old, hold, hdate, htransactions⟩
    · have hnil : seen.filter (fun other => format other.date = format transaction.date) = [] := by
        refine List.filter_eq_nil_iff.2 fun other hother hday => ?_
        obtain ⟨old, hold, hsame⟩ := h.exists_group hother
        exact hnone old hold (hsame.trans (of_decide_eq_true hday))
      simp [hnil]
    · rw [htransactions, h.ofDay old hold, hdate, List.filter_singleton]
      simp
  nonempty := by
    intro group hgroup
    rcases mem_pushTransaction h.distinct hgroup with ⟨-, rfl⟩ | ⟨old, hold, -, htransactions⟩
    · exact List.cons_ne_nil _ _
    · rw [htransactions]
      exact List.append_ne_nil_of_left_ne_nil (h.nonempty old hold) _
  perm := (perm_pushTransaction transaction groups).trans (h.perm.append_right _)

theorem grouped_foldl (transactions : List WalletTransaction) {seen : List WalletTransaction}
    {groups : List TransactionsGroup} (h : Grouped format seen groups) :
    Grouped format (seen ++ transactions)
      (transactions.foldl (fun groups transaction => pushTransaction format transaction groups) groups) := by
  induction transactions generalizing seen groups with
  | nil =>
    rw [List.append_nil]
    exact h
  | cons transaction transactions ih =>
    rw [List.append_cons]
    exact ih (h.push transaction)

/-- Only the order of the groups is not kept by sorting. -/
theorem Grouped.of_perm {seen : List WalletTransaction} {groups sorted : List TransactionsGroup}
    (h : Grouped format seen groups) (hperm : sorted.Perm groups) : Grouped format seen sorted where
  distinct := h.distinct.perm hperm.symm fun hne => hne.symm
  ofDay := fun group hgroup => h.ofDay group (hperm.mem_iff.1 hgroup)
  nonempty := fun group hgroup => h.nonempty group (hperm.mem_iff.1 hgroup)
  perm := (hperm.flatMap_right _).trans h.perm

theorem grouped_groupTransactionsByDay (transactions : List WalletTransaction) :
    Grouped format transactions (groupTransactionsByDay format transactions) := by
  have hnil : Grouped format [] [] :=
    { distinct := List.Pairwise.nil
      ofDay := fun group hgroup => absurd hgroup List.not_mem_nil
      nonempty := fun group hgroup => absurd hgroup List.not_mem_nil
      perm := List.Perm.refl _ }
  exact (grouped_foldl transactions hnil).of_perm (List.mergeSort_perm _ _)

end

/-! ## The rows -/

def TransactionsGroup.block (group : TransactionsGroup) : Block := { group := group, infos := group.infos }

theorem TransactionsGroup.map_tx_infos (group : TransactionsGroup) :
    group.infos.map (·.tx) = group.transactions := by
  refine List.ext_getElem? fun i => ?_
  rw [infos, List.getElem?_map, List.getElem?_mapIdx, Option.map_map]
  exact congrFun Option.map_id _

theorem TransactionsGroup.length_infos (group : TransactionsGroup) :
    group.infos.length = group.transactions.length := List.length_mapIdx

theorem TransactionsGroup.isMarked_block {group : TransactionsGroup} (h : group.transactions ≠ []) :
    group.block.IsMarked where
  nonempty := by
    intro hnil
    exact h (by rw [← group.map_tx_infos, show group.infos = [] from hnil, List.map_nil])
  first := by
    intro i info hinfo
    obtain ⟨transaction, -, rfl⟩ := Option.map_eq_some_iff.1 ((List.getElem?_mapIdx ..).symm.trans hinfo)
    exact decide_eq_true_iff
  last := by
    intro i info hinfo
    obtain ⟨transaction, -, rfl⟩ := Option.map_eq_some_iff.1 ((List.getElem?_mapIdx ..).symm.trans hinfo)
    show decide _ = true ↔ i + 1 = group.infos.length
    rw [decide_eq_true_iff, group.length_infos, eq_comm]

theorem Block.filterMap_rows (block : Block) : block.rows.filterMap Row.tx? = block.infos.map (·.tx) := by
  show List.filterMap Row.tx? (block.infos.map .info) = _
  rw [List.filterMap_map]
  show List.filterMap (some ∘ TransactionInfo.tx) block.infos = _
  rw [List.filterMap_eq_map]

theorem filterMap_flatMap_block (groups : List TransactionsGroup) :
    ((groups.map (·.block)).flatMap Block.rows).filterMap Row.tx? = groups.flatMap (·.transactions) := by
  induction groups with
  | nil => rfl
  | cons group groups ih =>
    rw [List.map_cons, List.flatMap_cons, List.filterMap_append, ih, Block.filterMap_rows, List.flatMap_cons]
    exact congrArg (· ++ _) group.map_tx_infos

/-- The rows are the transactions, listed by day. -/
theorem listedByDay_rows [LinearOrder Day] {format : ℤ → Day}
    (hformat : ∀ time later : ℤ, time ≤ later → format time ≤ format later)
    (transactions : List WalletTransaction) :
    ∃ blocks, rows format transactions = blocks.flatMap Block.rows ∧
      ListedByDay format transactions blocks := by
  have hgrouped : Grouped format transactions (groupTransactionsByDay format transactions) :=
    grouped_groupTransactionsByDay transactions
  have hsorted : (groupTransactionsByDay format transactions).Pairwise fun a b => b.date ≤ a.date := by
    refine (List.pairwise_mergeSort ?_ ?_ _).imp fun hle => sub_nonpos.1 (of_decide_eq_true hle)
    · intro a b c hab hbc
      simp only [decide_eq_true_eq] at *
      omega
    · intro a b
      simp only [Bool.or_eq_true, decide_eq_true_eq]
      omega
  refine ⟨(groupTransactionsByDay format transactions).map (·.block), ?_, ?_, ?_, ?_, ?_⟩
  · rw [List.flatMap_map]
    rfl
  · refine List.pairwise_map.2 ((hsorted.and hgrouped.distinct).imp fun ⟨hle, hne⟩ => ?_)
    exact lt_of_le_of_ne (hformat _ _ hle) (Ne.symm hne)
  · intro block hblock
    obtain ⟨group, hgroup, rfl⟩ := List.mem_map.1 hblock
    exact group.map_tx_infos.trans (hgrouped.ofDay group hgroup)
  · intro block hblock
    obtain ⟨group, hgroup, rfl⟩ := List.mem_map.1 hblock
    exact group.isMarked_block (hgrouped.nonempty group hgroup)
  · rw [filterMap_flatMap_block]
    exact hgrouped.perm

/-- Three transactions of two days of 86400000 milliseconds, out of order. -/
theorem listedByDay_rows_three :
    ∃ blocks, rows (fun time : ℤ => time / 86400000)
        [{ id := "a", date := 86400001 }, { id := "b", date := 5 }, { id := "c", date := 86400000 }] =
      blocks.flatMap Block.rows ∧
      ListedByDay (fun time : ℤ => time / 86400000)
        [{ id := "a", date := 86400001 }, { id := "b", date := 5 }, { id := "c", date := 86400000 }] blocks :=
  listedByDay_rows (fun _ _ hle => Int.ediv_le_ediv (by decide) hle) _

end Klarity.WalletTransactionsList
