import Klarity.Library.Decimal
import Mathlib.Data.Rat.Floor
import Mathlib.Tactic.FieldSimp
import Mathlib.Tactic.Ring

set_option autoImplicit false

/-! # Numbers of arbitrary precision

The package `bignumber.js`, as far as amounts of money go through it. Its functions come as a class, and
what is documented of them as laws. A number is written in full below `10 ^ 21`, and in exponential
notation from there on. -/

open Decimal (Format readPlain formatted)

open JsNumber (parseInt signed IsDouble)

/-- The functions of the package; `value` is the number that is meant, and `none` for `NaN`. -/
class BigNumber (N : Type) where
  value : N → Option ℚ
  ofString : String → N
  plus : N → N → N
  minus : N → N → N
  times : N → N → N
  dividedBy : N → N → N
  isGreaterThan : N → N → Bool
  isGreaterThanOrEqualTo : N → N → Bool
  isLessThanOrEqualTo : N → N → Bool
  toString : N → String
  toFormat : N → ℕ → Format → String

namespace BigNumber

variable {N : Type} [BigNumber N]

/-- `BigNumber.sum` -/
def sum (first : N) (rest : List N) : N := rest.foldl plus first

/-- `new BigNumber(n)`, for a whole number. -/
def ofNat (n : ℕ) : N := ofString (ToString.toString n)

end BigNumber

/-- What is documented of the functions. -/
class LawfulBigNumber (N : Type) [BigNumber N] : Prop where
  value_ofString {s : String} {c p : ℕ} (h : readPlain s.toList = some (c, p)) :
    BigNumber.value (BigNumber.ofString s : N) = some ((c : ℚ) / 10 ^ p)
  value_plus {a b : N} {x y : ℚ} (ha : BigNumber.value a = some x) (hb : BigNumber.value b = some y) :
    BigNumber.value (BigNumber.plus a b) = some (x + y)
  value_minus {a b : N} {x y : ℚ} (ha : BigNumber.value a = some x) (hb : BigNumber.value b = some y) :
    BigNumber.value (BigNumber.minus a b) = some (x - y)
  value_times {a b : N} {x y : ℚ} (ha : BigNumber.value a = some x) (hb : BigNumber.value b = some y) :
    BigNumber.value (BigNumber.times a b) = some (x * y)
  /-- A quotient of at most 20 decimals is not rounded. -/
  value_dividedBy {a b : N} {x y : ℚ} {k : ℤ} (ha : BigNumber.value a = some x)
    (hb : BigNumber.value b = some y) (hy : y ≠ 0) (hk : x / y = (k : ℚ) / 10 ^ 20) :
    BigNumber.value (BigNumber.dividedBy a b) = some (x / y)
  isGreaterThan_iff {a b : N} {x y : ℚ} (ha : BigNumber.value a = some x)
    (hb : BigNumber.value b = some y) : BigNumber.isGreaterThan a b = true ↔ y < x
  isGreaterThanOrEqualTo_iff {a b : N} {x y : ℚ} (ha : BigNumber.value a = some x)
    (hb : BigNumber.value b = some y) : BigNumber.isGreaterThanOrEqualTo a b = true ↔ y ≤ x
  isLessThanOrEqualTo_iff {a b : N} {x y : ℚ} (ha : BigNumber.value a = some x)
    (hb : BigNumber.value b = some y) : BigNumber.isLessThanOrEqualTo a b = true ↔ x ≤ y
  /-- A number of six decimals can be read back from what is written. -/
  value_ofString_toString {a : N} {n : ℤ} (h : BigNumber.value a = some ((n : ℚ) / 10 ^ 6)) :
    BigNumber.value (BigNumber.ofString (BigNumber.toString a) : N) = some ((n : ℚ) / 10 ^ 6)
  toString_ne_empty {a : N} {n : ℤ} (h : BigNumber.value a = some ((n : ℚ) / 10 ^ 6)) :
    BigNumber.toString a ≠ ""
  comma_not_mem_toString {a : N} {n : ℤ} (h : BigNumber.value a = some ((n : ℚ) / 10 ^ 6)) :
    ',' ∉ (BigNumber.toString a).toList
  toString_of_lt {a : N} {n : ℤ} (h : BigNumber.value a = some (n : ℚ)) (hn : n.natAbs < 10 ^ 21) :
    BigNumber.toString a = toString n
  /-- Exponential notation has one digit before something that is not a digit. -/
  toString_of_ge {a : N} {n : ℤ} (h : BigNumber.value a = some (n : ℚ)) (hn : 10 ^ 21 ≤ n.natAbs) :
    ∃ digit rest, digit.isDigit = true ∧ (∀ c ∈ rest.head?, c.isDigit = false) ∧
      BigNumber.toString a = String.ofList (signed (decide (n < 0)) (digit :: rest))
  toFormat_eq {a : N} {n p : ℕ} (h : BigNumber.value a = some ((n : ℚ) / 10 ^ p))
    (format : Format) : BigNumber.toFormat a p format = String.ofList (formatted format p n)

namespace BigNumber

open LawfulBigNumber

variable {N : Type} [BigNumber N] [LawfulBigNumber N]

theorem value_ofNat (n : ℕ) : value (ofNat n : N) = some (n : ℚ) := by
  have hread : readPlain (ToString.toString n).toList = some (n, 0) := by
    have h := Decimal.readPlain_whole Nat.toDigits_ne_nil (Decimal.isDigit_toDigits n)
    rw [Nat.ofDigitChars_ten_toDigits] at h
    rw [Nat.toString_eq_ofList_toDigits, String.toList_ofList]
    exact h
  have h := value_ofString (N := N) hread
  rw [pow_zero, div_one] at h
  exact h

/-- Sums of whole numbers. -/
theorem value_sum {first : N} {n : ℕ} (h : value first = some (n : ℚ)) (rest : List ℕ) :
    value (sum first (rest.map ofNat)) = some ((n + rest.sum : ℕ) : ℚ) := by
  induction rest generalizing first n with
  | nil => exact h
  | cons m rest ih =>
      have hplus : value (plus first (ofNat m)) = some ((n + m : ℕ) : ℚ) := by
        rw [value_plus h (value_ofNat m), Nat.cast_add]
      rw [List.map_cons, List.sum_cons, ← Nat.add_assoc]
      exact ih hplus

/-- Whole numbers that survive being written and read as an integer. -/
theorem parseInt_toString_eq_some_iff {a : N} {n : ℤ} (h : value a = some (n : ℚ)) :
    parseInt (toString a) = some n ↔ n.natAbs < 10 ^ 21 ∧ IsDouble n.natAbs := by
  by_cases hn : n.natAbs < 10 ^ 21
  · rw [toString_of_lt h hn, JsNumber.parseInt_toString_eq_some_self_iff]
    exact (and_iff_right hn).symm
  · refine ⟨fun hparse => ?_, fun hlt => absurd hlt.1 hn⟩
    obtain ⟨digit, rest, hdigit, hrest, hstring⟩ := toString_of_ge h (Nat.le_of_not_lt hn)
    have hdigits : ∀ c ∈ [digit], c.isDigit = true := fun c hc => by rwa [List.mem_singleton.1 hc]
    have hvalue : Nat.ofDigitChars 10 [digit] 0 ≤ 9 := by
      have hle : digit.toNat ≤ 57 := (Char.isDigit_iff_toNat.1 hdigit).2
      rw [Nat.ofDigitChars_cons, Nat.ofDigitChars_nil]
      show 10 * 0 + (digit.toNat - 48) ≤ 9
      omega
    have hdouble : IsDouble (Nat.ofDigitChars 10 [digit] 0) :=
      JsNumber.isDouble_of_le (Nat.le_trans hvalue (by decide))
    have hread := JsNumber.parseInt_signed (decide (n < 0)) (List.cons_ne_nil digit []) hdigits hrest
    rw [JsNumber.ofNat_eq_some_self_iff.2 hdouble] at hread
    rw [hstring] at hparse
    have heq := Option.some.inj (hread.symm.trans hparse)
    have hbig : 10 ^ 21 ≤ n.natAbs := Nat.le_of_not_lt hn
    exfalso
    simp only [decide_eq_true_eq] at heq
    split at heq
    · omega
    · omega

end BigNumber
