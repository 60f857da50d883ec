import Klarity.Library.BigNumber.Amount
import Klarity.Library.Lists
import Klarity.Renderer.Utils.Formatters
import Mathlib.Data.List.Sort
import Mathlib.Data.String.Basic

set_option autoImplicit false

/-! # The chart of the unspent outputs

The buckets of a histogram become the bars of a chart. They are sorted as texts, and the buckets above the limit are
counted in the last bar. Amounts are the numbers that are meant, and counts are added without rounding. -/

namespace Klarity.UtxoUtils

/-! ## The model -/

/-- The entries of the object: the bound of a bucket in entropics, which is written as a key, and its count. -/
structure Histogram where
  entries : List (ℕ × ℕ)
  nodup : (entries.map Prod.fst).Nodup

structure UtxoChartItem where
  walletRawAmount : ℚ
  walletAmount : String
  walletUtxosAmount : ℕ

def formattedEntropicToAmount (entropic : ℕ) : ℚ := (entropic : ℚ) / entropicsPerBcc

/-- An entry as `sort` compares it. -/
def entryText (entry : ℕ × ℕ) : String := toString entry.1 ++ "," ++ toString entry.2

def sortedEntries (histogram : Histogram) : List (ℕ × ℕ) :=
  histogram.entries.mergeSort fun a b => decide (entryText a ≤ entryText b)

def getUtxoWalletPrettyAmount (amount : ℚ) : String :=
  if amount = 1000 then "1K"
  else if amount = 10000 then "10K"
  else if amount = 100000 then "10K+"
  else BigNumber.toString (N := Amount) (some amount)

/-- `none` is the `TypeError` that the bucket has no bar to be counted in. -/
def pushEntry (data : List UtxoChartItem) (entry : ℕ × ℕ) : Option (List UtxoChartItem) :=
  let walletAmount := formattedEntropicToAmount entry.1
  if 100000 < walletAmount then
    match data.getLast? with
    | none => none
    | some lastItem =>
        some (data.dropLast ++ [{ lastItem with walletUtxosAmount := entry.2 + lastItem.walletUtxosAmount }])
  else
    some (data ++
      [{ walletRawAmount := walletAmount
         walletAmount := getUtxoWalletPrettyAmount walletAmount
         walletUtxosAmount := entry.2 }])

def getUtxoChartData (histogram : Histogram) : Option (List UtxoChartItem) :=
  (sortedEntries histogram).foldlM pushEntry []

def getWalletUtxosTotalAmount (histogram : Histogram) : ℕ :=
  match histogram.entries.map Prod.snd with
  | [] => 0
  | first :: rest => rest.foldl (fun amount value => amount + value) first

/-! ## The chart as it is described -/

/-- The bounds of the buckets that the backend counts. -/
def IsBound (bound : ℕ) : Prop := (∃ k, bound = 10 ^ k) ∨ bound = 45 * 10 ^ 15

/-- The last bound that has a bar. -/
def limit : ℕ := 10 ^ 11

def upToLimit (entries : List (ℕ × ℕ)) : List (ℕ × ℕ) := entries.filter fun entry => entry.1 ≤ limit

def aboveLimit (entries : List (ℕ × ℕ)) : List (ℕ × ℕ) := entries.filter fun entry => limit < entry.1

/-- The counts of the buckets above the limit. -/
def countAbove (entries : List (ℕ × ℕ)) : ℕ := ((aboveLimit entries).map Prod.snd).sum

structure IsChart (histogram : Histogram) (data : List UtxoChartItem) : Prop where
  ascending : data.Pairwise fun a b => a.walletRawAmount < b.walletRawAmount
  limited : ∀ item ∈ data, item.walletRawAmount ≤ 100000
  total : (data.map (·.walletUtxosAmount)).sum = getWalletUtxosTotalAmount histogram
  /-- Every bucket up to the limit has a bar. -/
  bars : ∀ entry ∈ histogram.entries, entry.1 ≤ limit →
    ∃ item ∈ data, item.walletRawAmount = formattedEntropicToAmount entry.1
  /-- A bar counts the bucket that it is of, and the last one those above the limit. -/
  counts : ∀ (i : ℕ) (item : UtxoChartItem), data[i]? = some item →
    ∃ entry ∈ histogram.entries, entry.1 ≤ limit ∧
      item.walletRawAmount = formattedEntropicToAmount entry.1 ∧
      item.walletUtxosAmount =
        entry.2 + if i + 1 = data.length then countAbove histogram.entries else 0

/-! ## The order of the texts -/

theorem toList_entryText (entry : ℕ × ℕ) :
    (entryText entry).toList = Nat.toDigits 10 entry.1 ++ ',' :: (toString entry.2).toList := by
  rw [entryText, String.toList_append, String.toList_append, Nat.toString_eq_ofList_toDigits,
    String.toList_ofList, List.append_assoc]
  rfl

/-- A comma comes before a zero, so a power of ten comes before the ones that are greater. -/
theorem entryText_lt_of_pow {i j : ℕ} (h : i < j) (m n : ℕ) :
    entryText (10 ^ i, m) < entryText (10 ^ j, n) := by
  obtain ⟨k, rfl⟩ := Nat.exists_eq_add_of_lt h
  rw [String.lt_iff_toList_lt, toList_entryText, toList_entryText, Decimal.toDigits_ten_pow, Decimal.toDigits_ten_pow,
    Nat.add_assoc, List.replicate_add, List.replicate_succ, List.cons_append, List.cons_append,
    List.append_assoc]
  have hcomma : ',' < '0' := by decide
  exact List.cons_lt_cons_iff.2 (.inr ⟨rfl, List.append_left_lt (List.cons_lt_cons_iff.2 (.inl hcomma))⟩)

theorem entryText_lt_of_supply (i m n : ℕ) : entryText (10 ^ i, m) < entryText (45 * 10 ^ 15, n) := by
  have hone : '1' < '4' := by decide
  have hdigits : Nat.toDigits 10 (45 * 10 ^ 15) = '4' :: '5' :: List.replicate 15 '0' := by decide
  rw [String.lt_iff_toList_lt, toList_entryText, toList_entryText, Decimal.toDigits_ten_pow, hdigits]
  exact List.cons_lt_cons_iff.2 (.inl hone)

/-- Among the bounds up to the limit, and in front of them, the texts are in the order of the numbers. -/
theorem le_of_entryText_le {a b : ℕ × ℕ} (ha : IsBound a.1) (hb : IsBound b.1) (hlimit : b.1 ≤ limit)
    (h : entryText a ≤ entryText b) : a.1 ≤ b.1 := by
  obtain ⟨bound, m⟩ := a
  obtain ⟨bound', n⟩ := b
  rcases hb with ⟨j, rfl⟩ | rfl
  · rcases ha with ⟨i, rfl⟩ | rfl
    · refine Nat.pow_le_pow_right (by decide) (Nat.le_of_not_lt fun hlt => ?_)
      exact absurd h (not_le.2 (entryText_lt_of_pow hlt n m))
    · exact absurd h (not_le.2 (entryText_lt_of_supply j n m))
  · exact absurd hlimit (show ¬ 45 * 10 ^ 15 ≤ limit by decide)

/-- A bucket that is sorted before one up to the limit has a smaller bound. -/
theorem pairwise_sortedEntries {histogram : Histogram} (h : ∀ entry ∈ histogram.entries, IsBound entry.1) :
    (sortedEntries histogram).Pairwise fun a b => b.1 ≤ limit → a.1 < b.1 := by
  have hperm : (sortedEntries histogram).Perm histogram.entries := List.mergeSort_perm _ _
  have hnodup : (sortedEntries histogram).Pairwise fun a b => a.1 ≠ b.1 :=
    List.pairwise_map.1 ((hperm.map Prod.fst).nodup_iff.2 histogram.nodup)
  have hsorted : (sortedEntries histogram).Pairwise fun a b => entryText a ≤ entryText b := by
    refine (List.pairwise_mergeSort ?_ ?_ _).imp fun hle => of_decide_eq_true hle
    · intro a b c hab hbc
      exact decide_eq_true ((of_decide_eq_true hab).trans (of_decide_eq_true hbc))
    · intro a b
      rcases le_total (entryText a) (entryText b) with hle | hle
      · simp [hle]
      · simp [hle]
  refine (hsorted.and hnodup).imp_of_mem fun ha hb ⟨hle, hne⟩ hlimit => ?_
  exact lt_of_le_of_ne
    (le_of_entryText_le (h _ (hperm.mem_iff.1 ha)) (h _ (hperm.mem_iff.1 hb)) hlimit hle) hne

theorem mem_upToLimit {entries : List (ℕ × ℕ)} {entry : ℕ × ℕ} :
    entry ∈ upToLimit entries ↔ entry ∈ entries ∧ entry.1 ≤ limit := by
  simp [upToLimit]

theorem mem_aboveLimit {entries : List (ℕ × ℕ)} {entry : ℕ × ℕ} :
    entry ∈ aboveLimit entries ↔ entry ∈ entries ∧ limit < entry.1 := by
  simp [aboveLimit]

/-- The buckets up to the limit come first. -/
theorem eq_upToLimit_append_aboveLimit {entries : List (ℕ × ℕ)}
    (h : entries.Pairwise fun a b => b.1 ≤ limit → a.1 < b.1) :
    entries = upToLimit entries ++ aboveLimit entries := by
  induction entries with
  | nil => rfl
  | cons first rest ih =>
    obtain ⟨hfirst, hrest⟩ := List.pairwise_cons.1 h
    have hsplit := ih hrest
    unfold upToLimit aboveLimit at hsplit ⊢
    by_cases hle : first.1 ≤ limit
    · rw [List.filter_cons_of_pos (by simpa using hle), List.filter_cons_of_neg (by simpa using hle),
        List.cons_append, ← hsplit]
    · have hnone : rest.filter (fun entry => entry.1 ≤ limit) = [] := by
        refine List.filter_eq_nil_iff.2 fun entry hentry hlimit => hle ?_
        have hlt := hfirst entry hentry (of_decide_eq_true hlimit)
        exact hlt.le.trans (of_decide_eq_true hlimit)
      rw [hnone, List.nil_append] at hsplit
      rw [List.filter_cons_of_neg (by simpa using hle), hnone, List.filter_cons_of_pos (by simpa using hle),
        List.nil_append, ← hsplit]

/-! ## The bars -/

theorem formattedEntropicToAmount_lt_iff {m n : ℕ} :
    formattedEntropicToAmount m < formattedEntropicToAmount n ↔ m < n := by
  unfold formattedEntropicToAmount entropicsPerBcc
  rw [div_lt_div_iff_of_pos_right (by norm_num), Nat.cast_lt]

theorem formattedEntropicToAmount_limit : formattedEntropicToAmount limit = 100000 := by
  norm_num [formattedEntropicToAmount, entropicsPerBcc, limit]

/-- The bar of a bucket up to the limit. -/
def bar (entry : ℕ × ℕ) : UtxoChartItem where
  walletRawAmount := formattedEntropicToAmount entry.1
  walletAmount := getUtxoWalletPrettyAmount (formattedEntropicToAmount entry.1)
  walletUtxosAmount := entry.2

theorem foldlM_pushEntry_of_le {entries : List (ℕ × ℕ)} (h : ∀ entry ∈ entries, entry.1 ≤ limit)
    (data : List UtxoChartItem) : entries.foldlM pushEntry data = some (data ++ entries.map bar) := by
  induction entries generalizing data with
  | nil => simp
  | cons entry entries ih =>
    obtain ⟨hentry, hrest⟩ := List.forall_mem_cons.1 h
    have hpush : pushEntry data entry = some (data ++ [bar entry]) := by
      have hnot : ¬ 100000 < formattedEntropicToAmount entry.1 := by
        rw [← formattedEntropicToAmount_limit, formattedEntropicToAmount_lt_iff]
        exact Nat.not_lt.2 hentry
      exact if_neg hnot
    rw [List.foldlM_cons, hpush]
    show List.foldlM pushEntry (data ++ [bar entry]) entries = _
    rw [ih hrest, List.map_cons, List.append_assoc, List.singleton_append]

theorem foldlM_pushEntry_of_lt {entries : List (ℕ × ℕ)} (h : ∀ entry ∈ entries, limit < entry.1)
    (data : List UtxoChartItem) (lastItem : UtxoChartItem) :
    entries.foldlM pushEntry (data ++ [lastItem]) = some (data ++
      [{ lastItem with
         walletUtxosAmount := lastItem.walletUtxosAmount + (entries.map Prod.snd).sum }]) := by
  induction entries generalizing lastItem with
  | nil => rfl
  | cons entry entries ih =>
    obtain ⟨hentry, hrest⟩ := List.forall_mem_cons.1 h
    have hpush : pushEntry (data ++ [lastItem]) entry = some (data ++
        [{ lastItem with walletUtxosAmount := entry.2 + lastItem.walletUtxosAmount }]) := by
      have habove : 100000 < formattedEntropicToAmount entry.1 := by
        rw [← formattedEntropicToAmount_limit, formattedEntropicToAmount_lt_iff]
        exact hentry
      unfold pushEntry
      simp only [if_pos habove, List.getLast?_concat, List.dropLast_concat]
    rw [List.foldlM_cons, hpush]
    show List.foldlM pushEntry (data ++ [_]) entries = _
    rw [ih hrest, List.map_cons, List.sum_cons, ← Nat.add_assoc, Nat.add_comm entry.2]

/-- The bars of the buckets up to the limit, the last of which counts more. -/
def chart : List (ℕ × ℕ) → ℕ → List UtxoChartItem
  | [], _ => []
  | [entry], count => [{ bar entry with walletUtxosAmount := entry.2 + count }]
  | entry :: entry' :: entries, count => bar entry :: chart (entry' :: entries) count

theorem chart_concat (entries : List (ℕ × ℕ)) (entry : ℕ × ℕ) (count : ℕ) :
    chart (entries ++ [entry]) count =
      entries.map bar ++ [{ bar entry with walletUtxosAmount := entry.2 + count }] := by
  induction entries with
  | nil => rfl
  | cons first rest ih =>
    cases rest with
    | nil => rfl
    | cons second rest => exact congrArg (bar first :: ·) ih

theorem map_walletRawAmount_chart (entries : List (ℕ × ℕ)) (count : ℕ) :
    (chart entries count).map (·.walletRawAmount) =
      entries.map fun entry => formattedEntropicToAmount entry.1 := by
  fun_induction chart entries count with
  | case1 => rfl
  | case2 => rfl
  | case3 entry entry' entries count ih =>
    rw [List.map_cons, ih]
    rfl

theorem sum_chart {entries : List (ℕ × ℕ)} {count : ℕ} (h : entries = [] → count = 0) :
    ((chart entries count).map (·.walletUtxosAmount)).sum = (entries.map Prod.snd).sum + count := by
  fun_induction chart entries count with
  | case1 => simp [h]
  | case2 => simp
  | case3 entry entry' entries count ih =>
    rw [List.map_cons, List.sum_cons, ih (fun hnil => absurd hnil (List.cons_ne_nil _ _)), ← Nat.add_assoc]
    rfl

theorem exists_of_getElem?_chart {entries : List (ℕ × ℕ)} {count i : ℕ} {item : UtxoChartItem}
    (h : (chart entries count)[i]? = some item) : ∃ entry ∈ entries,
      item.walletRawAmount = formattedEntropicToAmount entry.1 ∧
      item.walletUtxosAmount = entry.2 + if i + 1 = (chart entries count).length then count else 0 := by
  rcases List.eq_nil_or_concat' entries with rfl | ⟨entries, last, rfl⟩
  · exact absurd h (by simp [chart])
  · rw [chart_concat] at h ⊢
    rcases List.getElem?_concat_eq_some.1 h with hold | ⟨hi, hlast⟩
    · obtain ⟨entry, hentry, rfl⟩ := Option.map_eq_some_iff.1 (List.getElem?_map.symm.trans hold)
      obtain ⟨hi, -⟩ := List.getElem?_eq_some_iff.1 hentry
      refine ⟨entry, List.mem_append_left _ (List.mem_of_getElem? hentry), rfl, ?_⟩
      rw [if_neg (by simp; omega)]
      rfl
    · refine ⟨last, List.mem_append_right _ List.mem_cons_self, hlast ▸ rfl, ?_⟩
      rw [if_pos (by simp [hi]), hlast]

theorem foldl_add (counts : List ℕ) (amount : ℕ) :
    counts.foldl (fun amount value => amount + value) amount = amount + counts.sum := by
  induction counts generalizing amount with
  | nil => rfl
  | cons count counts ih => rw [List.foldl_cons, ih, List.sum_cons, Nat.add_assoc]

theorem getWalletUtxosTotalAmount_eq (histogram : Histogram) :
    getWalletUtxosTotalAmount histogram = (histogram.entries.map Prod.snd).sum := by
  unfold getWalletUtxosTotalAmount
  cases histogram.entries.map Prod.snd with
  | nil => rfl
  | cons first rest => exact foldl_add rest first

/-- Without a bucket up to the limit there is none. -/
theorem sortedEntries_eq_nil {histogram : Histogram}
    (hsmall : histogram.entries ≠ [] → ∃ entry ∈ histogram.entries, entry.1 ≤ limit)
    (hnil : upToLimit (sortedEntries histogram) = []) : sortedEntries histogram = [] := by
  have hperm : (sortedEntries histogram).Perm histogram.entries := List.mergeSort_perm _ _
  by_cases hempty : histogram.entries = []
  · rw [hempty] at hperm
    exact hperm.eq_nil
  · obtain ⟨entry, hentry, hle⟩ := hsmall hempty
    have hmem := mem_upToLimit.2 ⟨hperm.mem_iff.2 hentry, hle⟩
    rw [hnil] at hmem
    exact absurd hmem List.not_mem_nil

/-- The chart is made of the buckets up to the limit, as they are sorted. -/
theorem getUtxoChartData_eq {histogram : Histogram} (hbound : ∀ entry ∈ histogram.entries, IsBound entry.1)
    (hsmall : histogram.entries ≠ [] → ∃ entry ∈ histogram.entries, entry.1 ≤ limit) :
    getUtxoChartData histogram =
      some (chart (upToLimit (sortedEntries histogram)) (countAbove (sortedEntries histogram))) := by
  have hsplit := eq_upToLimit_append_aboveLimit (pairwise_sortedEntries hbound)
  have hfold : getUtxoChartData histogram =
      (aboveLimit (sortedEntries histogram)).foldlM pushEntry ((upToLimit (sortedEntries histogram)).map bar) := by
    unfold getUtxoChartData
    rw [hsplit, List.foldlM_append, foldlM_pushEntry_of_le fun entry hentry => (mem_upToLimit.1 hentry).2]
    rw [← hsplit]
    rfl
  rw [hfold]
  rcases List.eq_nil_or_concat' (upToLimit (sortedEntries histogram)) with hnil | ⟨entries, last, hconcat⟩
  · rw [sortedEntries_eq_nil hsmall hnil]
    rfl
  · rw [hconcat, List.map_append, List.map_singleton, chart_concat]
    exact foldlM_pushEntry_of_lt (fun entry hentry => (mem_aboveLimit.1 hentry).2) _ _

/-- The chart of a histogram of the backend that has a bucket up to the limit, if it has any. -/
theorem isChart_getUtxoChartData {histogram : Histogram}
    (hbound : ∀ entry ∈ histogram.entries, IsBound entry.1)
    (hsmall : histogram.entries ≠ [] → ∃ entry ∈ histogram.entries, entry.1 ≤ limit) :
    ∃ data, getUtxoChartData histogram = some data ∧ IsChart histogram data := by
  have hperm : (sortedEntries histogram).Perm histogram.entries := List.mergeSort_perm _ _
  have hsorted := pairwise_sortedEntries hbound
  have hraw := map_walletRawAmount_chart (upToLimit (sortedEntries histogram))
    (countAbove (sortedEntries histogram))
  have habove : countAbove (sortedEntries histogram) = countAbove histogram.entries :=
    ((hperm.filter _).map _).sum_eq
  refine ⟨_, getUtxoChartData_eq hbound hsmall, ?_, ?_, ?_, ?_, ?_⟩
  · have hpairwise : ((upToLimit (sortedEntries histogram)).map fun entry =>
        formattedEntropicToAmount entry.1).Pairwise fun x y => x < y := by
      refine List.pairwise_map.2 ((hsorted.filter _).imp_of_mem fun ha hb hlt => ?_)
      exact formattedEntropicToAmount_lt_iff.2 (hlt (mem_upToLimit.1 hb).2)
    rw [← hraw] at hpairwise
    exact List.pairwise_map.1 hpairwise
  · intro item hitem
    have hmem := List.mem_map_of_mem (f := (·.walletRawAmount)) hitem
    rw [hraw] at hmem
    obtain ⟨entry, hentry, heq⟩ := List.mem_map.1 hmem
    rw [← heq, ← formattedEntropicToAmount_limit, ← not_lt, formattedEntropicToAmount_lt_iff]
    exact Nat.not_lt.2 (mem_upToLimit.1 hentry).2
  · have hzero : upToLimit (sortedEntries histogram) = [] → countAbove (sortedEntries histogram) = 0 := by
      intro hnil
      rw [sortedEntries_eq_nil hsmall hnil]
      rfl
    have hsplit := congrArg (List.map Prod.snd) (eq_upToLimit_append_aboveLimit hsorted)
    rw [sum_chart hzero, getWalletUtxosTotalAmount_eq, ← (hperm.map Prod.snd).sum_eq, hsplit, List.map_append,
      List.sum_append]
    rfl
  · intro entry hentry hle
    have hmem : formattedEntropicToAmount entry.1 ∈ (upToLimit (sortedEntries histogram)).map
        fun entry => formattedEntropicToAmount entry.1 :=
      List.mem_map_of_mem (mem_upToLimit.2 ⟨hperm.mem_iff.2 hentry, hle⟩)
    rw [← hraw] at hmem
    obtain ⟨item, hitem, heq⟩ := List.mem_map.1 hmem
    exact ⟨item, hitem, heq⟩
  · intro i item hitem
    obtain ⟨entry, hentry, hamount, hcount⟩ := exists_of_getElem?_chart hitem
    obtain ⟨hmem, hle⟩ := mem_upToLimit.1 hentry
    rw [habove] at hcount ⊢
    exact ⟨entry, hperm.mem_iff.1 hmem, hle, hamount, hcount⟩

/-- A histogram without the bucket of the limit, its entries in another order than that of the texts. -/
def exampleHistogram : Histogram where
  entries := [(45 * 10 ^ 15, 1), (10 ^ 12, 2), (10, 11), (10 ^ 3, 3), (10 ^ 6, 20)]
  nodup := by decide

theorem isChart_exampleHistogram :
    ∃ data, getUtxoChartData exampleHistogram = some data ∧ IsChart exampleHistogram data := by
  refine isChart_getUtxoChartData ?_ fun _ => ⟨(10, 11), by decide, by decide⟩
  intro entry hentry
  simp only [exampleHistogram, List.mem_cons, List.not_mem_nil, or_false] at hentry
  rcases hentry with rfl | rfl | rfl | rfl | rfl
  · exact .inr rfl
  · exact .inl ⟨12, rfl⟩
  · exact .inl ⟨1, rfl⟩
  · exact .inl ⟨3, rfl⟩
  · exact .inl ⟨6, rfl⟩

end Klarity.UtxoUtils
