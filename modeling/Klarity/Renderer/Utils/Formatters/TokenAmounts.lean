import Klarity.Library.BigNumber.Amount
import Klarity.Renderer.Components.Wallet.WalletSendForm

set_option autoImplicit false

/-! # Amounts of tokens

A quantity of a token is divided by a power of ten and written with as many decimals. Nothing is rounded as long as
the package keeps that many, so that the digits of what is written are those of the quantity. -/

namespace Klarity

open Decimal (Format formatted formattedDigits)

open JsNumber (parseInt IsDouble)

theorem getMultiplierFromDecimalPlaces_eq (decimals : ℕ) :
    getMultiplierFromDecimalPlaces decimals = toString (10 ^ decimals) := by
  have hlength : "1".length = 1 := by decide
  rw [getMultiplierFromDecimalPlaces, padEnd, hlength, Nat.add_sub_cancel, Nat.toString_eq_ofList_toDigits,
    Decimal.toDigits_ten_pow]
  refine String.toList_inj.1 ?_
  rw [String.toList_append, String.toList_ofList, String.toList_ofList, String.toList_ofList]
  exact List.singleton_append

/-- The powers of ten that are used are not rounded. -/
theorem isDouble_ten_pow {k : ℕ} (hk : k ≤ 20) : IsDouble (10 ^ k) := by
  have hpow : 5 ^ k ≤ 5 ^ 20 := Nat.pow_le_pow_right (by decide) hk
  refine ⟨5 ^ k, k, Nat.lt_of_le_of_lt hpow (by decide), ?_, ?_⟩
  · unfold JsNumber.maxExponent
    omega
  · rw [← Nat.mul_pow]

theorem parseInt_toString_nat {n : ℕ} (h : IsDouble n) : parseInt (toString n) = some (n : ℤ) := by
  have hparse := JsNumber.parseInt_toString (n : ℤ)
  rw [Int.natAbs_natCast, JsNumber.ofNat_eq_some_self_iff.2 h, Option.map_some,
    if_neg (Int.not_lt.2 (Int.natCast_nonneg n))] at hparse
  exact hparse

theorem value_ofString_natCast {N : Type} [BigNumber N] [LawfulBigNumber N] (n : ℕ) :
    BigNumber.value (BigNumber.ofString (toString (n : ℤ)) : N) = some (n : ℚ) := BigNumber.value_ofNat n

/-- A quotient has as many decimals as the power of ten, or more. -/
theorem div_ten_pow_eq (n : ℕ) {k places : ℕ} (h : k ≤ places) :
    (n : ℚ) / ((10 ^ k : ℕ) : ℚ) = (((n * 10 ^ (places - k) : ℕ) : ℤ) : ℚ) / 10 ^ places := by
  obtain ⟨rest, rfl⟩ := Nat.exists_eq_add_of_le h
  rw [Nat.add_sub_cancel_left, Int.cast_natCast, Nat.cast_mul, Nat.cast_pow, Nat.cast_pow, Nat.cast_ofNat,
    pow_add, mul_div_mul_right _ _ (pow_ne_zero _ (by norm_num))]

section

variable {N : Type} [BigNumber N] [LawfulBigNumber N]

/-- What is written are the decimals of the quotient, without rounding. -/
theorem formattedTokenWalletAmount_eq {amount : N} {quantity decimals : ℕ}
    (h : BigNumber.value amount = some (quantity : ℚ)) (hdecimals : decimals ≤ 20) (format : Format) :
    formattedTokenWalletAmount format amount none decimals =
      String.ofList (formatted format decimals quantity) := by
  have hprecision : (if decimals = 0 then defaultDecimalPrecision else decimals) = decimals := by
    by_cases hzero : decimals = 0
    · rw [if_pos hzero, hzero]
      rfl
    · rw [if_neg hzero]
  have hparse : parseInt (getMultiplierFromDecimalPlaces decimals) = some ((10 ^ decimals : ℕ) : ℤ) := by
    rw [getMultiplierFromDecimalPlaces_eq]
    exact parseInt_toString_nat (isDouble_ten_pow hdecimals)
  have hdivider := value_ofString_natCast (N := N) (10 ^ decimals)
  have hpow : ((10 ^ decimals : ℕ) : ℚ) ≠ 0 := Nat.cast_ne_zero.2 (Nat.pow_pos (by decide)).ne'
  have hcast : (quantity : ℚ) / ((10 ^ decimals : ℕ) : ℚ) = quantity / 10 ^ decimals := by
    rw [Nat.cast_pow, Nat.cast_ofNat]
  have hvalue := LawfulBigNumber.value_dividedBy h hdivider hpow (div_ten_pow_eq quantity hdecimals)
  rw [hcast] at hvalue
  unfold formattedTokenWalletAmount
  simp only [hprecision, hparse]
  exact LawfulBigNumber.toFormat_eq hvalue format

/-- What is written of a quantity is read as the quantity. -/
theorem formattedAmountToNaturalUnits_formattedTokenWalletAmount {amount : N} {quantity decimals : ℕ}
    (h : BigNumber.value amount = some (quantity : ℚ)) (hdecimals : decimals ≤ 20) {format : Format}
    (hformat : format ∈ numberFormats.map Prod.snd) :
    formattedAmountToNaturalUnits (formattedTokenWalletAmount format amount none decimals) =
      toString quantity := by
  have hseparators := isKept_separators hformat
  have hfilter : (String.ofList (formatted format decimals quantity)).toList.filter isKept =
      formattedDigits decimals quantity := by
    rw [String.toList_ofList]
    exact Decimal.filter_formatted hseparators.1 hseparators.2 fun _ => isKept_of_isDigit
  rw [formattedTokenWalletAmount_eq h hdecimals]
  exact formattedAmountToNaturalUnits_of_digits hfilter (Decimal.isDigit_formattedDigits _ _)
    (Decimal.ofDigitChars_formattedDigits _ _)

end

/-- A quantity that is less than one unit, and groups with points. -/
theorem formattedAmountToNaturalUnits_formattedTokenWalletAmount_example :
    formattedAmountToNaturalUnits (formattedTokenWalletAmount ⟨'.', ','⟩ (BigNumber.ofNat 1234567 : Amount) none 20) =
        toString 1234567 ∧
      formattedAmountToNaturalUnits (formattedTokenWalletAmount ⟨'.', ','⟩ (BigNumber.ofNat 1234567 : Amount) none 0) =
        toString 1234567 :=
  ⟨formattedAmountToNaturalUnits_formattedTokenWalletAmount (BigNumber.value_ofNat _) (by decide) (by decide),
    formattedAmountToNaturalUnits_formattedTokenWalletAmount (BigNumber.value_ofNat _) (by decide) (by decide)⟩

end Klarity
