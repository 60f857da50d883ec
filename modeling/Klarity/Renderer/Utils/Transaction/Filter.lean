import Klarity.Library.BigNumber.Extremes

set_option autoImplicit false

/-! # The filter of transactions

The bounds of the default filter are computed from a list of transactions and written as strings: the days of the
first and the last one, and the smallest and the largest amount without signs. A filter reads them again. -/

namespace Klarity.TransactionFilter

/-! ## The model -/

inductive TransactionType
  | card
  | expend
  | income
  | exchange
  deriving DecidableEq, Repr

/-- What the filter reads of a transaction. -/
structure WalletTransaction (N : Type) where
  type : TransactionType
  title : String
  amount : N
  date : Option ℤ

inductive DateRange
  | last7Days
  | last30Days
  | last90Days
  | thisYear
  | custom
  deriving DecidableEq, Repr

/-- The options that are given; a missing one has a default. -/
structure FilterOptions where
  searchTerm : Option String := none
  dateRange : Option DateRange := none
  fromDate : Option String := none
  toDate : Option String := none
  fromAmount : Option String := none
  toAmount : Option String := none
  incomingChecked : Option Bool := none
  outgoingChecked : Option Bool := none
  deriving DecidableEq, Repr

/-- The functions of `moment` in the local time: `moment(time).format('YYYY-MM-DD')`, and the first and the last
millisecond of a day that is written so. -/
structure Moment where
  format : ℤ → String
  startOfDay : String → ℤ
  endOfDay : String → ℤ

section

variable {N : Type} [BigNumber N] [BigNumberAbs N]

open BigNumber (isGreaterThanOrEqualTo isLessThanOrEqualTo ofNat ofString minimum maximum)
open BigNumberAbs (absoluteValue)

/-- The bound of some amounts, if there are any. -/
def written (bound : N → List N → N) : List N → String
  | [] => ""
  | first :: rest => BigNumber.toString (bound first rest)

def generateFilterOptions (moment : Moment) (transactions : List (WalletTransaction N)) : FilterOptions :=
  let dates := transactions.filterMap (·.date)
  let amounts := transactions.map fun transaction => absoluteValue transaction.amount
  { dateRange := some .custom
    fromDate := some (dates.min?.elim "" moment.format)
    toDate := some (dates.max?.elim "" moment.format)
    fromAmount := some (written minimum amounts)
    toAmount := some (written maximum amounts)
    incomingChecked := some true
    outgoingChecked := some true }

def isTransactionDateInFilterRange (moment : Moment) (fromDate toDate : String)
    (transaction : WalletTransaction N) : Bool :=
  match transaction.date with
  | none => true
  | some time =>
      let compareFrom := if fromDate ≠ "" then decide (moment.startOfDay fromDate ≤ time) else true
      let compareTo := if toDate ≠ "" then decide (time ≤ moment.endOfDay toDate) else true
      compareFrom && compareTo

/-- The number that a bound of the amounts stands for. -/
def boundOf (amount : String) : N :=
  if amount = "." || amount = "" then ofNat 0 else ofString amount

def isTransactionAmountInFilterRange (fromAmount toAmount : String)
    (transaction : WalletTransaction N) : Bool :=
  let amount := absoluteValue transaction.amount
  let compareFrom := if fromAmount ≠ "" then isGreaterThanOrEqualTo amount (boundOf fromAmount) else true
  let compareTo := if toAmount ≠ "" then isLessThanOrEqualTo amount (boundOf toAmount) else true
  compareFrom && compareTo

def isTransactionTypeInFilterRange (incomingChecked outgoingChecked : Bool)
    (transaction : WalletTransaction N) : Bool :=
  !((!incomingChecked && transaction.type = .income) || (!outgoingChecked && transaction.type = .expend))

/-- `search` says whether the title has the search term as a regular expression. -/
def isTransactionTitleInFilterRange (search : String → String → Bool) (searchTerm : String)
    (transaction : WalletTransaction N) : Bool :=
  if searchTerm = "" then true else search transaction.title searchTerm

def isTransactionInFilterRange (moment : Moment) (search : String → String → Bool)
    (filterOptions : Option FilterOptions) (transaction : WalletTransaction N) : Bool :=
  let options := filterOptions.getD {}
  isTransactionTitleInFilterRange search (options.searchTerm.getD "") transaction &&
    isTransactionDateInFilterRange moment (options.fromDate.getD "") (options.toDate.getD "") transaction &&
    isTransactionAmountInFilterRange (options.fromAmount.getD "") (options.toAmount.getD "") transaction &&
    isTransactionTypeInFilterRange (options.incomingChecked.getD true) (options.outgoingChecked.getD true)
      transaction

end

/-! ## Days -/

/-- The day of a time contains it. -/
def Moment.Contains (moment : Moment) (time : ℤ) : Prop :=
  moment.startOfDay (moment.format time) ≤ time ∧ time ≤ moment.endOfDay (moment.format time)

variable {N : Type} {moment : Moment} {transactions : List (WalletTransaction N)}
  {transaction : WalletTransaction N}

theorem startOfDay_le {times : List ℤ} {time : ℤ} (h : ∀ time ∈ times, moment.Contains time)
    (htime : time ∈ times) : moment.startOfDay (times.min?.elim "" moment.format) ≤ time := by
  cases hmin : times.min? with
  | none => exact absurd (List.min?_eq_none_iff.1 hmin) (List.ne_nil_of_mem htime)
  | some first =>
    obtain ⟨hfirst, hle⟩ := List.min?_eq_some_iff.1 hmin
    exact (h first hfirst).1.trans (hle time htime)

theorem le_endOfDay {times : List ℤ} {time : ℤ} (h : ∀ time ∈ times, moment.Contains time)
    (htime : time ∈ times) : time ≤ moment.endOfDay (times.max?.elim "" moment.format) := by
  cases hmax : times.max? with
  | none => exact absurd (List.max?_eq_none_iff.1 hmax) (List.ne_nil_of_mem htime)
  | some last =>
    obtain ⟨hlast, hle⟩ := List.max?_eq_some_iff.1 hmax
    exact (hle time htime).trans (h last hlast).2

theorem isTransactionDateInFilterRange_generateFilterOptions
    (h : ∀ transaction ∈ transactions, ∀ time, transaction.date = some time → moment.Contains time)
    (hmem : transaction ∈ transactions) :
    isTransactionDateInFilterRange moment ((transactions.filterMap (·.date)).min?.elim "" moment.format)
      ((transactions.filterMap (·.date)).max?.elim "" moment.format) transaction = true := by
  unfold isTransactionDateInFilterRange
  cases hdate : transaction.date with
  | none => rfl
  | some time =>
    have hcontains : ∀ time ∈ transactions.filterMap (·.date), moment.Contains time := by
      intro time htime
      obtain ⟨other, hother, hdate⟩ := List.mem_filterMap.1 htime
      exact h other hother time hdate
    have htime : time ∈ transactions.filterMap (·.date) := List.mem_filterMap.2 ⟨transaction, hmem, hdate⟩
    simp [startOfDay_le hcontains htime, le_endOfDay hcontains htime]

/-! ## Amounts -/

variable [BigNumber N] [BigNumberAbs N]

open BigNumber (value ofString minimum maximum)
open BigNumberAbs (absoluteValue)

/-- An amount is a number, and what is written of it without its sign is read as the same number. -/
def IsWritten (amount : N) : Prop :=
  ∃ x, value amount = some x ∧
    value (ofString (BigNumber.toString (absoluteValue amount)) : N) = some |x| ∧
    BigNumber.toString (absoluteValue amount) ≠ "."

/-- One of the amounts, as `minimum` and `maximum` return it. -/
theorem exists_of_mem_map (h : ∀ transaction ∈ transactions, IsWritten transaction.amount) {a : N}
    (ha : a ∈ transactions.map fun transaction => absoluteValue transaction.amount) :
    ∃ amount, IsWritten amount ∧ absoluteValue amount = a := by
  obtain ⟨transaction, hmem, rfl⟩ := List.mem_map.1 ha
  exact ⟨transaction.amount, h transaction hmem, rfl⟩

variable [LawfulBigNumberAbs N]

/-- The bound that is written of an amount is the amount without its sign. -/
theorem value_boundOf {amount : N} (h : IsWritten amount)
    (hempty : BigNumber.toString (absoluteValue amount) ≠ "") :
    value (boundOf (BigNumber.toString (absoluteValue amount)) : N) = value (absoluteValue amount) := by
  obtain ⟨x, hx, hread, hpoint⟩ := h
  unfold boundOf
  rw [if_neg (by simp [hpoint, hempty]), hread, LawfulBigNumberAbs.value_absoluteValue hx]

theorem IsWritten.exists_value {amount : N} (h : IsWritten amount) :
    ∃ x, value (absoluteValue amount) = some x := by
  obtain ⟨x, hx, -, -⟩ := h
  exact ⟨|x|, LawfulBigNumberAbs.value_absoluteValue hx⟩

theorem isSome_value {a : N} (h : ∃ amount, IsWritten amount ∧ absoluteValue amount = a) :
    (value a).isSome = true := by
  obtain ⟨amount, hwritten, rfl⟩ := h
  exact Option.isSome_iff_exists.2 hwritten.exists_value

variable [LawfulBigNumber N]

/-- The least amount lets every amount through, also if nothing is written of it. -/
theorem compareFrom_of_le {amount least : N} (hamount : IsWritten amount) (hleast : IsWritten least)
    (hle : (value (absoluteValue least)).getD 0 ≤ (value (absoluteValue amount)).getD 0) :
    (if BigNumber.toString (absoluteValue least) ≠ "" then
      BigNumber.isGreaterThanOrEqualTo (absoluteValue amount)
        (boundOf (BigNumber.toString (absoluteValue least)))
    else true) = true := by
  by_cases hempty : BigNumber.toString (absoluteValue least) = ""
  · rw [if_neg (not_not.2 hempty)]
  · obtain ⟨x, hx⟩ := hamount.exists_value
    obtain ⟨y, hy⟩ := hleast.exists_value
    rw [hx, hy] at hle
    rw [if_pos hempty]
    exact (LawfulBigNumber.isGreaterThanOrEqualTo_iff hx ((value_boundOf hleast hempty).trans hy)).2 hle

theorem compareTo_of_le {amount most : N} (hamount : IsWritten amount) (hmost : IsWritten most)
    (hle : (value (absoluteValue amount)).getD 0 ≤ (value (absoluteValue most)).getD 0) :
    (if BigNumber.toString (absoluteValue most) ≠ "" then
      BigNumber.isLessThanOrEqualTo (absoluteValue amount)
        (boundOf (BigNumber.toString (absoluteValue most)))
    else true) = true := by
  by_cases hempty : BigNumber.toString (absoluteValue most) = ""
  · rw [if_neg (not_not.2 hempty)]
  · obtain ⟨x, hx⟩ := hamount.exists_value
    obtain ⟨y, hy⟩ := hmost.exists_value
    rw [hx, hy] at hle
    rw [if_pos hempty]
    exact (LawfulBigNumber.isLessThanOrEqualTo_iff hx ((value_boundOf hmost hempty).trans hy)).2 hle

theorem isTransactionAmountInFilterRange_written
    (h : ∀ transaction ∈ transactions, IsWritten transaction.amount) (hmem : transaction ∈ transactions) :
    isTransactionAmountInFilterRange
      (written minimum (transactions.map fun transaction => absoluteValue transaction.amount))
      (written maximum (transactions.map fun transaction => absoluteValue transaction.amount))
      transaction = true := by
  have hamount : absoluteValue transaction.amount ∈
      transactions.map fun transaction => absoluteValue transaction.amount := List.mem_map_of_mem hmem
  have hall : ∀ a ∈ transactions.map fun transaction => absoluteValue transaction.amount,
      ∃ amount, IsWritten amount ∧ absoluteValue amount = a := fun a ha => exists_of_mem_map h ha
  cases hamounts : transactions.map fun transaction => absoluteValue transaction.amount with
  | nil =>
    rw [hamounts] at hamount
    exact absurd hamount List.not_mem_nil
  | cons first rest =>
    rw [hamounts] at hamount hall
    have hsome : ∀ a ∈ first :: rest, (value a).isSome = true := fun a ha => isSome_value (hall a ha)
    have hle := BigNumber.getD_value_minimum_le hsome _ hamount
    have hge := BigNumber.le_getD_value_maximum hsome _ hamount
    obtain ⟨least, hwritten, hleast⟩ := hall (minimum first rest) (BigNumber.extreme_mem _ first rest)
    obtain ⟨most, hwritten', hmost⟩ := hall (maximum first rest) (BigNumber.extreme_mem _ first rest)
    rw [← hleast] at hle
    rw [← hmost] at hge
    have hfrom := compareFrom_of_le (h transaction hmem) hwritten hle
    have hto := compareTo_of_le (h transaction hmem) hwritten' hge
    simp only [isTransactionAmountInFilterRange, written, ← hleast, ← hmost]
    rw [hfrom, hto]
    rfl

/-! ## The default filter -/

/-- The default filter hides nothing. -/
theorem isTransactionInFilterRange_generateFilterOptions (search : String → String → Bool)
    (hdays : ∀ transaction ∈ transactions, ∀ time, transaction.date = some time → moment.Contains time)
    (hamounts : ∀ transaction ∈ transactions, IsWritten transaction.amount) :
    ∀ transaction ∈ transactions,
      isTransactionInFilterRange moment search (some (generateFilterOptions moment transactions))
        transaction = true := by
  intro transaction hmem
  have hdate := isTransactionDateInFilterRange_generateFilterOptions hdays hmem
  have hamount := isTransactionAmountInFilterRange_written hamounts hmem
  have htitle : isTransactionTitleInFilterRange search "" transaction = true := if_pos rfl
  have htype : isTransactionTypeInFilterRange true true transaction = true := rfl
  simp only [isTransactionInFilterRange, generateFilterOptions, Option.getD_some, Option.getD_none, htitle,
    hdate, hamount, htype, Bool.and_self]

/-! ## Amounts of six decimals -/

/-- An amount of so many millionths. -/
def millionths (n : ℤ) : Amount := some ((n : ℚ) / 10 ^ 6)

theorem isWritten_millionths (n : ℤ) : IsWritten (millionths n) := by
  have habs : |(n : ℚ) / 10 ^ 6| = ((n.natAbs : ℤ) : ℚ) / 10 ^ 6 := by
    rw [abs_div, abs_of_pos (show (0 : ℚ) < 10 ^ 6 by norm_num), Nat.cast_natAbs, Int.cast_id, Int.cast_abs]
  have hvalue : value (absoluteValue (millionths n)) = some (((n.natAbs : ℤ) : ℚ) / 10 ^ 6) :=
    congrArg some habs
  have hread := LawfulBigNumber.value_ofString_toString hvalue
  refine ⟨_, rfl, by rw [habs]; exact hread, fun hpoint => ?_⟩
  have hnone : value (ofString "." : Amount) = none := rfl
  rw [hpoint, hnone] at hread
  exact absurd hread (by simp)

/-- Two days of the coordinated time. -/
def exampleMoment : Moment where
  format time := if time < 1609545600000 then "2021-01-01" else "2021-01-02"
  startOfDay day := if day = "2021-01-01" then 1609459200000 else 1609545600000
  endOfDay day := if day = "2021-01-01" then 1609545599999 else 1609631999999

/-- An expense of 5, and an income of 2.5 a day later. -/
def exampleTransactions : List (WalletTransaction Amount) :=
  [{ type := .income, title := "income", amount := millionths 2500000, date := some 1609552800000 },
   { type := .expend, title := "expend", amount := millionths (-5000000), date := some 1609462800000 }]

theorem isTransactionInFilterRange_exampleTransactions :
    (exampleTransactions.all (isTransactionInFilterRange exampleMoment (fun _ _ => false)
      (some (generateFilterOptions exampleMoment exampleTransactions)))) = true := by
  refine List.all_eq_true.2 (isTransactionInFilterRange_generateFilterOptions _ ?_ ?_)
  · intro transaction hmem time htime
    rcases List.mem_pair.1 hmem with rfl | rfl
    · obtain rfl := Option.some.inj htime
      exact ⟨by decide, by decide⟩
    · obtain rfl := Option.some.inj htime
      exact ⟨by decide, by decide⟩
  · intro transaction hmem
    rcases List.mem_pair.1 hmem with rfl | rfl
    · exact isWritten_millionths 2500000
    · exact isWritten_millionths (-5000000)

end Klarity.TransactionFilter
