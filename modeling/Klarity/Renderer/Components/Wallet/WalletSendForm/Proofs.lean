import Klarity.Library.BigNumber.Amount
import Klarity.Renderer.Components.Wallet.WalletSendForm

set_option autoImplicit false

/-! # The three paths of an amount

The amount that is validated, the one that the fee is calculated for and the one that is submitted are the
same number as long as it is a double (`amounts_agree`). The validator compares numbers of arbitrary
precision, up to the total supply, so not every amount that it accepts is one, and what is submitted is
rounded (`amounts_exact_iff`). -/

namespace Klarity

open Decimal (Format readPlain fixed formatted padded)

open JsNumber (parseInt IsDouble)

/-! ## Natural units -/

/-- The digits of an amount with six of them behind the point. -/
def amountDigits (n : ℕ) : List Char := Nat.toDigits 10 (n / 10 ^ 6) ++ padded 6 (n % 10 ^ 6)

theorem isDigit_amountDigits (n : ℕ) : ∀ c ∈ amountDigits n, c.isDigit = true := by
  intro c hc
  rcases List.mem_append.1 hc with hc | hc
  · exact Decimal.isDigit_toDigits _ c hc
  · exact Decimal.isDigit_padded _ _ c hc

theorem ofDigitChars_amountDigits (n : ℕ) : Nat.ofDigitChars 10 (amountDigits n) 0 = n :=
  Decimal.ofDigitChars_whole_append_padded (by decide) n

/-- An amount without its separators is read as the number of its entropics. -/
theorem parseInt_naturalUnits {amount : String} {n : ℕ} (h : amount.toList.filter isKept = amountDigits n) :
    parseInt (formattedAmountToNaturalUnits amount) = (JsNumber.ofNat n).map fun m : ℕ => (m : ℤ) := by
  rw [parseInt_formattedAmountToNaturalUnits h (isDigit_amountDigits n), ofDigitChars_amountDigits]

theorem filter_fixed (n : ℕ) : (String.ofList (fixed 6 n)).toList.filter isKept = amountDigits n := by
  rw [String.toList_ofList]
  exact Decimal.filter_fixed (by decide) fun _ => isKept_of_isDigit

theorem filter_formatted {format : Format} (hformat : format ∈ numberFormats.map Prod.snd) (n : ℕ) :
    (String.ofList (formatted format 6 n)).toList.filter isKept = amountDigits n := by
  have hseparators := isKept_separators hformat
  rw [String.toList_ofList]
  exact Decimal.filter_formatted hseparators.1 hseparators.2 fun _ => isKept_of_isDigit

section

variable {N : Type} [BigNumber N] [LawfulBigNumber N]

/-- The validator does not round. -/
theorem value_naturalUnits {amount : String} {n : ℕ} (h : amount.toList.filter isKept = amountDigits n) :
    BigNumber.value (BigNumber.ofString (formattedAmountToNaturalUnits amount) : N) = some (n : ℚ) := by
  have hn := Decimal.ofDigitChars_dropWhile_zero (amountDigits n)
  rw [ofDigitChars_amountDigits] at hn
  rw [formattedAmountToNaturalUnits_eq, h]
  by_cases hzero : (amountDigits n).dropWhile (· = '0') = []
  · rw [hzero] at hn
    rw [if_pos hzero, ← hn]
    exact BigNumber.value_ofNat 0
  · have hdigits : ∀ c ∈ (amountDigits n).dropWhile (· = '0'), c.isDigit = true :=
      fun c hc => isDigit_amountDigits n c ((List.dropWhile_suffix _).subset hc)
    have hread : readPlain (String.ofList ((amountDigits n).dropWhile (· = '0'))).toList = some (n, 0) := by
      rw [String.toList_ofList, Decimal.readPlain_whole hzero hdigits, hn]
    rw [if_neg hzero, LawfulBigNumber.value_ofString hread, pow_zero, div_one]

/-! ## The paths of an amount -/

omit [BigNumber N] [LawfulBigNumber N] in
theorem ne_empty_of_readPlain {s : String} {c p : ℕ} (hs : readPlain s.toList = some (c, p)) : s ≠ "" := by
  rintro rfl
  exact Decimal.ne_nil_of_readPlain hs rfl

/-- A plain numeral of at most six decimals. -/
theorem value_plain {s : String} {c p : ℕ} (hs : readPlain s.toList = some (c, p)) (hp : p ≤ 6) :
    BigNumber.value (BigNumber.ofString s : N) = some (((c * 10 ^ (6 - p) : ℕ) : ℚ) / 10 ^ 6) := by
  rw [LawfulBigNumber.value_ofString hs]
  congr 1
  have hpow : (10 : ℚ) ^ 6 = 10 ^ (6 - p) * 10 ^ p := by rw [← pow_add, Nat.sub_add_cancel hp]
  rw [hpow]
  push_cast
  field_simp

namespace WalletSendForm

theorem feeAmount_eq {s : String} {c p : ℕ} (hs : readPlain s.toList = some (c, p)) (hp : p ≤ 6)
    (hlt : c * 10 ^ (6 - p) < 10 ^ 21) :
    feeAmount N s = (JsNumber.ofNat (c * 10 ^ (6 - p))).map fun m : ℕ => (m : ℤ) := by
  have hcomma : ',' ∉ s.toList := by
    intro hmem
    rcases Decimal.isDigit_or_point_of_readPlain hs ',' hmem with hdigit | hpoint
    · exact absurd hdigit (by decide)
    · exact absurd hpoint (by decide)
  refine formattedAmountToEntropic_of_lt ?_ hlt
  rw [formattedAmountToBigNumber_of_noComma (ne_empty_of_readPlain hs) hcomma]
  exact value_plain hs hp

theorem submittedAmount_eq {format : Format} (hformat : format ∈ numberFormats.map Prod.snd)
    {s : String} {c p : ℕ} (hs : readPlain s.toList = some (c, p)) (hp : p ≤ 6) :
    submittedAmount N format s = (JsNumber.ofNat (c * 10 ^ (6 - p))).map fun m : ℕ => (m : ℤ) := by
  have hdialog : dialogAmount N format s = String.ofList (formatted format 6 (c * 10 ^ (6 - p))) := by
    unfold dialogAmount
    rw [if_pos (ne_empty_of_readPlain hs)]
    exact LawfulBigNumber.toFormat_eq (value_plain hs hp) format
  unfold submittedAmount
  rw [hdialog]
  exact parseInt_naturalUnits (filter_formatted hformat _)

/-! ## Exactness -/

variable (N) in
theorem isValidAmountInEntropics_iff {isInt : String → Bool} {value : String} {n : ℕ}
    (h : BigNumber.value (BigNumber.ofString value : N) = some (n : ℚ)) :
    isValidAmountInEntropics N isInt value = true ↔
      isInt value = true ∧ 1 ≤ n ∧ n ≤ 45000000000000000 := by
  have hmin := LawfulBigNumber.isGreaterThanOrEqualTo_iff h (BigNumber.value_ofNat (N := N) 1)
  have hmax := LawfulBigNumber.isLessThanOrEqualTo_iff h (BigNumber.value_ofNat (N := N) 45000000000000000)
  unfold isValidAmountInEntropics
  cases isInt value with
  | false => simp
  | true =>
      simp only [Bool.not_true, Bool.false_eq_true, if_false, Bool.and_eq_true, hmin, hmax, Nat.cast_le, true_and]

/-- **The validated, the estimated and the submitted amount are the same** below `2 ^ 53`, in every number
    format. -/
theorem amounts_agree {n : ℕ} (hn : n < 2 ^ 53) {format : Format}
    (hformat : format ∈ numberFormats.map Prod.snd) (isInt : String → Bool) :
    parseInt (formattedAmountToNaturalUnits (String.ofList (fixed 6 n))) = some (n : ℤ) ∧
    parseInt (formattedAmountToNaturalUnits (String.ofList (formatted format 6 n))) = some (n : ℤ) ∧
    formattedAmountToEntropic N (String.ofList (fixed 6 n)) = some (n : ℤ) ∧
    ((validateBccAmount N isInt (String.ofList (fixed 6 n))).1 = true ↔
      isInt (formattedAmountToNaturalUnits (String.ofList (fixed 6 n))) = true ∧
        1 ≤ n ∧ n ≤ 45000000000000000) ∧
    feeAmount N (String.ofList (fixed 6 n)) = some (n : ℤ) ∧
    submittedAmount N format (String.ofList (fixed 6 n)) = some (n : ℤ) := by
  have hdouble : JsNumber.ofNat n = some n :=
    JsNumber.ofNat_eq_some_self_iff.2 (JsNumber.isDouble_of_le (Nat.le_of_lt hn))
  have hread : readPlain (String.ofList (fixed 6 n)).toList = some (n, 6) := by
    rw [String.toList_ofList]
    exact Decimal.readPlain_fixed (by decide) n
  have hbig : (2 : ℕ) ^ 53 ≤ 10 ^ 21 := by norm_num
  have hfee : feeAmount N (String.ofList (fixed 6 n)) = some (n : ℤ) := by
    rw [feeAmount_eq hread (Nat.le_refl 6) (by omega), Nat.sub_self, pow_zero, Nat.mul_one, hdouble]
    rfl
  refine ⟨?_, ?_, hfee, ?_, hfee, ?_⟩
  · rw [parseInt_naturalUnits (filter_fixed n), hdouble]
    rfl
  · rw [parseInt_naturalUnits (filter_formatted hformat n), hdouble]
    rfl
  · unfold validateBccAmount
    rw [if_neg (ne_empty_of_readPlain hread)]
    exact isValidAmountInEntropics_iff N (value_naturalUnits (filter_fixed n))
  · rw [submittedAmount_eq hformat hread (Nat.le_refl 6), Nat.sub_self, pow_zero, Nat.mul_one, hdouble]
    rfl

end WalletSendForm

end

/-! ## Two amounts -/

namespace WalletSendForm

/-- The strings of an integer without leading zeros. -/
def isIntOf (value : String) : Bool :=
  let digits :=
    match value.toList with
    | '-' :: rest | '+' :: rest => rest
    | rest => rest
  digits = ['0'] || (digits ≠ [] && digits.head? ≠ some '0' && digits.all Char.isDigit)

theorem amounts_agree_grouped :
    parseInt (formattedAmountToNaturalUnits "1.234.567,890123") = some 1234567890123 ∧
    submittedAmount Amount ⟨'.', ','⟩ "1234567.890123" = some 1234567890123 := by
  have hgrouped : String.ofList (formatted ⟨'.', ','⟩ 6 1234567890123) = "1.234.567,890123" := by decide
  have hplain : String.ofList (fixed 6 1234567890123) = "1234567.890123" := by decide
  have h := amounts_agree (N := Amount) (show 1234567890123 < 2 ^ 53 by norm_num)
    (show (⟨'.', ','⟩ : Format) ∈ numberFormats.map Prod.snd by decide) isIntOf
  rw [hgrouped, hplain] at h
  exact ⟨h.2.1, h.2.2.2.2.2⟩

end WalletSendForm

end Klarity
