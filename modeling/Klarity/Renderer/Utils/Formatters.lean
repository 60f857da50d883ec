import Klarity.Library.BigNumber

set_option autoImplicit false

/-! # formatters

How amounts of money are read from strings, and how amounts of tokens are written. -/

namespace Klarity

open Decimal (Format)

open JsNumber (parseInt isWhitespace IsDouble)

/-- `ENTROPICS_PER_BCC` -/
def entropicsPerBcc : ℕ := 1000000

/-- `DECIMAL_PLACES_IN_BCC` -/
def decimalPlacesInBcc : ℕ := 6

/-- `DEFAULT_DECIMAL_PRECISION` -/
def defaultDecimalPrecision : ℕ := 0

/-- `s.replace(/../g, '')` -/
def removeAll (p : Char → Bool) (s : String) : String :=
  String.ofList (s.toList.filter fun c => !p c)

/-- `null` and `undefined` are treated as the empty string is. -/
def formattedAmountToNaturalUnits (amount : String) : String :=
  if amount = "" then "0"
  else
    let unseparated :=
      removeAll isWhitespace (removeAll (fun c => c = ',') (removeAll (fun c => c = '.') amount))
    let cleanedAmount := String.ofList (unseparated.toList.dropWhile (· = '0'))
    if cleanedAmount = "" then "0" else cleanedAmount

/-- `s.padEnd(length, c)` -/
def padEnd (s : String) (length : ℕ) (c : Char) : String :=
  s ++ String.ofList (List.replicate (length - s.length) c)

def getMultiplierFromDecimalPlaces (decimalPlaces : ℕ) : String := padEnd "1" (decimalPlaces + 1) '0'

/-- The amount in full, that is without `isShort`; of the metadata only the ticker is read. -/
def formattedTokenWalletAmount {N : Type} [BigNumber N] (format : Format) (amount : N) (ticker : Option String)
    (decimals : ℕ) : String :=
  let decimalPrecision := if decimals = 0 then defaultDecimalPrecision else decimals
  let divider : N := match parseInt (getMultiplierFromDecimalPlaces decimalPrecision) with
    | none => BigNumber.ofString "NaN"
    | some n => BigNumber.ofString (toString n)
  let formattedAmount := BigNumber.toFormat (BigNumber.dividedBy amount divider) decimals format
  match ticker with
  | none => formattedAmount
  | some ticker => if ticker = "" then formattedAmount else formattedAmount ++ " " ++ ticker

section

variable (N : Type) [BigNumber N]

def formattedAmountToBigNumber (amount : String) : N :=
  let cleanedAmount := removeAll (fun c => c = ',') amount
  if cleanedAmount ≠ "" then BigNumber.ofString cleanedAmount else BigNumber.ofNat 0

def formattedAmountToEntropic (amount : String) : Option ℤ :=
  parseInt (BigNumber.toString
    (BigNumber.times (formattedAmountToBigNumber N amount) (BigNumber.ofNat entropicsPerBcc)))

end

/-! ## Natural units -/

/-- The characters that natural units keep. -/
def isKept (c : Char) : Bool := !decide (c = '.') && !decide (c = ',') && !isWhitespace c

theorem isKept_of_isDigit {c : Char} (h : c.isDigit = true) : isKept c = true := by
  have hpoint : c ≠ '.' := by
    rintro rfl
    exact absurd h (by decide)
  have hcomma : c ≠ ',' := by
    rintro rfl
    exact absurd h (by decide)
  unfold isKept
  rw [JsNumber.isWhitespace_of_isDigit h, decide_eq_false hpoint, decide_eq_false hcomma]
  rfl

theorem formattedAmountToNaturalUnits_eq (amount : String) :
    formattedAmountToNaturalUnits amount =
      if (amount.toList.filter isKept).dropWhile (· = '0') = [] then "0"
      else String.ofList ((amount.toList.filter isKept).dropWhile (· = '0')) := by
  have hfilter : (removeAll isWhitespace (removeAll (fun c => c = ',')
      (removeAll (fun c => c = '.') amount))).toList = amount.toList.filter isKept := by
    unfold removeAll isKept
    rw [String.toList_ofList, String.toList_ofList, String.toList_ofList, List.filter_filter,
      List.filter_filter]
    refine List.filter_congr fun c _ => ?_
    rw [Bool.and_comm, Bool.and_comm (!isWhitespace c), Bool.and_assoc]
  unfold formattedAmountToNaturalUnits
  by_cases hempty : amount = ""
  · subst hempty
    rfl
  · rw [if_neg hempty]
    show (if String.ofList _ = "" then "0" else String.ofList _) = _
    rw [hfilter]
    simp only [String.ofList_eq_empty_iff]

/-- The digits that are left are read as the integer that they make. -/
theorem parseInt_formattedAmountToNaturalUnits {amount : String} {digits : List Char}
    (h : amount.toList.filter isKept = digits) (hd : ∀ c ∈ digits, c.isDigit = true) :
    parseInt (formattedAmountToNaturalUnits amount) =
      (JsNumber.ofNat (Nat.ofDigitChars 10 digits 0)).map fun n : ℕ => (n : ℤ) := by
  rw [formattedAmountToNaturalUnits_eq, h, ← Decimal.ofDigitChars_dropWhile_zero]
  by_cases hzero : digits.dropWhile (· = '0') = []
  · rw [hzero, if_pos rfl]
    rfl
  · have hread := JsNumber.parseInt_signed false hzero
      (fun c hc => hd c ((List.dropWhile_suffix _).subset hc)) JsNumber.isDigit_head?_nil
    rw [List.append_nil] at hread
    rw [if_neg hzero]
    exact hread

/-- The digits that are left are those of the integer that they make. -/
theorem formattedAmountToNaturalUnits_of_digits {amount : String} {digits : List Char} {n : ℕ}
    (h : amount.toList.filter isKept = digits) (hd : ∀ c ∈ digits, c.isDigit = true)
    (hn : Nat.ofDigitChars 10 digits 0 = n) : formattedAmountToNaturalUnits amount = toString n := by
  rw [formattedAmountToNaturalUnits_eq, h]
  by_cases hzero : digits.dropWhile (· = '0') = []
  · rw [← Decimal.ofDigitChars_dropWhile_zero, hzero, Nat.ofDigitChars_nil] at hn
    rw [if_pos hzero, ← hn]
    rfl
  · rw [if_neg hzero, Decimal.dropWhile_zero_eq hd hzero, hn, Nat.toString_eq_ofList_toDigits]

/-! ## Entropics -/

section

variable {N : Type} [BigNumber N]

theorem formattedAmountToBigNumber_of_noComma {amount : String} (hne : amount ≠ "")
    (hcomma : ',' ∉ amount.toList) :
    formattedAmountToBigNumber N amount = BigNumber.ofString amount := by
  have hremove : removeAll (fun c => c = ',') amount = amount := by
    unfold removeAll
    rw [List.filter_eq_self.2, String.ofList_toList]
    intro c hc
    have hne : c ≠ ',' := fun heq => hcomma (heq ▸ hc)
    simpa using hne
  unfold formattedAmountToBigNumber
  rw [hremove]
  exact if_pos hne

variable [LawfulBigNumber N]

/-- What is read is the nearest double. -/
theorem formattedAmountToEntropic_of_lt {amount : String} {n : ℕ}
    (h : BigNumber.value (formattedAmountToBigNumber N amount) = some ((n : ℚ) / 10 ^ 6)) (hn : n < 10 ^ 21) :
    formattedAmountToEntropic N amount = (JsNumber.ofNat n).map fun m : ℕ => (m : ℤ) := by
  have htimes : BigNumber.value (BigNumber.times (formattedAmountToBigNumber N amount)
      (BigNumber.ofNat entropicsPerBcc)) = some (((n : ℤ) : ℚ)) := by
    rw [LawfulBigNumber.value_times h (BigNumber.value_ofNat _)]
    norm_num [entropicsPerBcc]
  have hsign : ¬ (n : ℤ) < 0 := by omega
  unfold formattedAmountToEntropic
  rw [LawfulBigNumber.toString_of_lt htimes hn, JsNumber.parseInt_toString, Int.natAbs_natCast]
  simp only [hsign, if_false]

/-- An amount that is a whole number of entropics. -/
theorem formattedAmountToEntropic_eq_some_iff {amount : String} {n : ℤ}
    (h : BigNumber.value (formattedAmountToBigNumber N amount) = some ((n : ℚ) / 10 ^ 6)) :
    formattedAmountToEntropic N amount = some n ↔ n.natAbs < 10 ^ 21 ∧ IsDouble n.natAbs := by
  have htimes : BigNumber.value (BigNumber.times (formattedAmountToBigNumber N amount)
      (BigNumber.ofNat entropicsPerBcc)) = some (n : ℚ) := by
    rw [LawfulBigNumber.value_times h (BigNumber.value_ofNat _)]
    norm_num [entropicsPerBcc]
  exact BigNumber.parseInt_toString_eq_some_iff htimes

end

end Klarity
