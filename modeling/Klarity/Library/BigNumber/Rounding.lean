import Klarity.Library.BigNumber.Amount

set_option autoImplicit false

open Decimal (readPlain padded)

/-! # Comparisons, and rounding to fewer decimals

A quotient is rounded to 20 decimals, half up. What is cut off after that (`ROUND_DOWN`) is cut off the rounded
quotient, so a digit may be one too high. -/

class BigNumberCompare (N : Type) [BigNumber N] where
  isZero : N → Bool
  isEqualTo : N → N → Bool
  isLessThan : N → N → Bool

/-- What is documented of the comparisons. -/
class LawfulBigNumberCompare (N : Type) [BigNumber N] [BigNumberCompare N] : Prop where
  isZero_iff {a : N} {x : ℚ} (h : BigNumber.value a = some x) : BigNumberCompare.isZero a = true ↔ x = 0
  isEqualTo_iff {a b : N} {x y : ℚ} (ha : BigNumber.value a = some x) (hb : BigNumber.value b = some y) :
    BigNumberCompare.isEqualTo a b = true ↔ x = y
  isLessThan_iff {a b : N} {x y : ℚ} (ha : BigNumber.value a = some x) (hb : BigNumber.value b = some y) :
    BigNumberCompare.isLessThan a b = true ↔ x < y

/-- `decimalPlaces(p, BigNumber.ROUND_DOWN)` -/
class BigNumberRounding (N : Type) [BigNumber N] where
  decimalPlaces : N → ℕ → N

/-- What is documented of the decimals that are kept, and of how a number of six decimals is written. -/
class LawfulBigNumberRounding (N : Type) [BigNumber N] [BigNumberRounding N] : Prop where
  value_decimalPlaces {a : N} {x : ℚ} (h : BigNumber.value a = some x) (hx : 0 ≤ x) (p : ℕ) :
    BigNumber.value (BigNumberRounding.decimalPlaces a p) = some ((⌊x * 10 ^ p⌋ : ℚ) / 10 ^ p)
  value_dividedBy {a b : N} {x y : ℚ} (ha : BigNumber.value a = some x) (hb : BigNumber.value b = some y)
    (hx : 0 ≤ x) (hy : 0 < y) :
    BigNumber.value (BigNumber.dividedBy a b) = some ((⌊x / y * 10 ^ 20 + 1 / 2⌋ : ℚ) / 10 ^ 20)
  toString_eq_write {a : N} {n : ℕ} (h : BigNumber.value a = some ((n : ℚ) / 10 ^ 6)) :
    BigNumber.toString a = String.ofList (Amount.writeUnsigned n)

namespace Amount

instance : BigNumberCompare Amount where
  isZero a := Option.map (fun x => decide (x = 0)) a = some true
  isEqualTo a b := Option.map₂ (fun x y => decide (x = y)) a b = some true
  isLessThan a b := Option.map₂ (fun x y => decide (x < y)) a b = some true

instance : LawfulBigNumberCompare Amount where
  isZero_iff := by
    rintro a x ⟨⟩
    simp [BigNumberCompare.isZero]
  isEqualTo_iff := by
    rintro a b x y ⟨⟩ ⟨⟩
    simp [BigNumberCompare.isEqualTo]
  isLessThan_iff := by
    rintro a b x y ⟨⟩ ⟨⟩
    simp [BigNumberCompare.isLessThan]

/-- Towards zero. -/
def roundDown (p : ℕ) (x : ℚ) : ℚ := (if 0 ≤ x then (⌊x * 10 ^ p⌋ : ℚ) else ⌈x * 10 ^ p⌉) / 10 ^ p

instance : BigNumberRounding Amount := ⟨fun a p => Option.map (roundDown p) a⟩

instance : LawfulBigNumberRounding Amount where
  value_decimalPlaces := by
    rintro a x ⟨⟩ hx p
    show some (roundDown p x) = _
    rw [roundDown, if_pos hx]
  value_dividedBy := by
    rintro a b x y ⟨⟩ ⟨⟩ - -
    rfl
  toString_eq_write := by
    intro a n h
    have hint : BigNumber.value a = some (((n : ℤ) : ℚ) / 10 ^ 6) := by rw [h, Int.cast_natCast]
    rw [toString_eq_write hint, write, decide_eq_false (Int.not_lt.2 (Int.natCast_nonneg n)), Int.natAbs_natCast]
    rfl

/-! ## Quotients -/

/-- A quotient with one decimal: one half of the last decimal that is kept is added first. -/
theorem floor_rounded_mul_ten (x : ℚ) :
    ⌊(⌊x * 10 ^ 20 + 1 / 2⌋ : ℚ) / 10 ^ 20 * 10 ^ 1⌋ = ⌊10 * x + 5 / 10 ^ 20⌋ := by
  refine eq_of_forall_le_iff fun n => ?_
  have hscaled : (n : ℚ) ≤ (⌊x * 10 ^ 20 + 1 / 2⌋ : ℚ) / 10 ^ 20 * 10 ^ 1 ↔
      n * 10 ^ 19 ≤ ⌊x * 10 ^ 20 + 1 / 2⌋ := by
    rw [← Int.cast_le (R := ℚ), div_mul_eq_mul_div, le_div_iff₀ (by norm_num)]
    push_cast
    constructor
    · intro h
      linarith
    · intro h
      linarith
  rw [Int.le_floor, hscaled, Int.le_floor, Int.le_floor]
  push_cast
  constructor
  · intro h
    linarith
  · intro h
    linarith

/-! ## The last digit that is written -/

/-- The unit of the last digit of a numeral. -/
def lastDigit (l : List Char) : Option ℚ :=
  match readPlain (l.takeWhile (· ≠ 'e')), l.dropWhile (· ≠ 'e') with
  | some (_, p), [] => some (1 / 10 ^ p)
  | some (_, p), _ :: '+' :: exponent => some (10 ^ Nat.ofDigitChars 10 exponent 0 / 10 ^ p)
  | _, _ => none

theorem lastDigit_of_readPlain {l : List Char} {c p : ℕ} (h : readPlain l = some (c, p)) :
    lastDigit l = some (1 / 10 ^ p) := by
  have hno : ∀ d ∈ l, decide (d ≠ 'e') = true := fun d hd => decide_eq_true (ne_e_of_readPlain h d hd)
  unfold lastDigit
  rw [List.takeWhile_eq_self_iff.2 hno, List.dropWhile_eq_nil_iff.2 hno, h]

theorem lastDigit_exponential {l : List Char} {c p : ℕ} (h : readPlain l = some (c, p)) (e : ℕ) :
    lastDigit (l ++ 'e' :: '+' :: Nat.toDigits 10 e) = some (10 ^ e / 10 ^ p) := by
  have hno : ∀ d ∈ l, decide (d ≠ 'e') = true := fun d hd => decide_eq_true (ne_e_of_readPlain h d hd)
  unfold lastDigit
  rw [takeWhile_append_e hno, dropWhile_append_e hno, h]
  show some (10 ^ Nat.ofDigitChars 10 (Nat.toDigits 10 e) 0 / 10 ^ p : ℚ) = _
  rw [Nat.ofDigitChars_ten_toDigits]

theorem length_stripped_le (digits : List Char) (j : ℕ) :
    (stripped (digits ++ List.replicate j '0')).length ≤ digits.length := by
  have hstripped : stripped (digits ++ List.replicate j '0') = stripped digits := by
    induction j with
    | zero => rw [List.replicate_zero, List.append_nil]
    | succ j ih =>
      rw [List.replicate_succ', ← List.append_assoc, ← ih]
      exact List.rdropWhile_concat_pos _ _ _ (by decide)
  rw [hstripped]
  exact (List.rdropWhile_prefix _ _).length_le

/-- The digits of a multiple of a power of ten. -/
theorem toDigits_mul_pow {n : ℕ} (hn : 0 < n) (j : ℕ) :
    Nat.toDigits 10 (10 ^ j * n) = Nat.toDigits 10 n ++ List.replicate j '0' := by
  have hzeros : ∀ c ∈ List.replicate j '0', c.isDigit = true := by
    intro c hc
    rw [List.eq_of_mem_replicate hc]
    decide
  rw [Decimal.toDigits_append_of_pos hzeros hn, Nat.ofDigitChars_replicate_zero]

theorem exists_padded_mul_pow {n j : ℕ} (hj : j ≤ 6) :
    ∃ digits, padded 6 (10 ^ j * n) = digits ++ List.replicate j '0' := by
  rcases Nat.eq_zero_or_pos n with rfl | hn
  · refine ⟨List.replicate (6 - j) '0', ?_⟩
    rw [List.replicate_append_replicate, Nat.sub_add_cancel hj, Nat.mul_zero]
    rfl
  · unfold padded
    rw [toDigits_mul_pow hn, ← List.append_assoc]
    exact ⟨_, rfl⟩

/-- The last digit of a multiple of a power of ten counts no less than this power. -/
theorem exists_lastDigit_writeUnsigned (n : ℕ) {j : ℕ} (hj : j ≤ 6) :
    ∃ u : ℚ, lastDigit (writeUnsigned (10 ^ j * n)) = some u ∧ 10 ^ j / 10 ^ 6 ≤ u := by
  rcases Nat.lt_or_ge (10 ^ j * n) (10 ^ 27) with hlt | hge
  · have hmod : 10 ^ j * n % 10 ^ 6 = 10 ^ j * (n % 10 ^ (6 - j)) := by
      rw [← Nat.mul_mod_mul_left, ← Nat.pow_add, Nat.add_sub_cancel' hj]
    obtain ⟨digits, hpadded⟩ := exists_padded_mul_pow (n := n % 10 ^ (6 - j)) hj
    have hlength := Decimal.length_padded (by decide) (Nat.mod_lt (10 ^ j * n) (by decide : 0 < 10 ^ 6))
    rw [hmod, hpadded, List.length_append, List.length_replicate] at hlength
    have hstripped := length_stripped_le digits j
    have hfraction : ∀ c ∈ stripped (padded 6 (10 ^ j * n % 10 ^ 6)), c.isDigit = true := fun c hc =>
      Decimal.isDigit_padded _ _ c (mem_of_mem_stripped hc)
    have hread := readPlain_pointed Nat.toDigits_ne_nil (Decimal.isDigit_toDigits (10 ^ j * n / 10 ^ 6)) hfraction
    rw [hmod, hpadded] at hread
    refine ⟨1 / 10 ^ (stripped (digits ++ List.replicate j '0')).length, ?_, ?_⟩
    · rw [writeUnsigned, if_pos hlt, hmod, hpadded, lastDigit_of_readPlain hread]
    · rw [div_le_div_iff₀ (by positivity) (by positivity), one_mul, ← pow_add]
      exact pow_le_pow_right₀ (by norm_num) (by omega)
  · obtain ⟨digit, fraction, k, hstripped, hdigits, hk, hlength, hwrite⟩ := exists_writeUnsigned_of_le hge
    obtain ⟨hdigit, hrest⟩ := List.forall_mem_cons.1 hdigits
    have hn : 0 < n := Nat.pos_of_ne_zero fun hzero => by simp [hzero] at hge
    have hread := readPlain_pointed (List.cons_ne_nil digit []) (by simpa using hdigit) hrest
    have hle := length_stripped_le (Nat.toDigits 10 n) j
    have htotal : (Nat.toDigits 10 n).length + j = fraction.length + 1 + k := by
      rw [← List.length_cons (a := digit), ← List.length_replicate (n := k) (a := '0'), ← List.length_append, ← hk,
        toDigits_mul_pow hn, List.length_append, List.length_replicate]
    rw [← toDigits_mul_pow hn, hstripped, List.length_cons] at hle
    refine ⟨10 ^ (fraction.length + k - 6) / 10 ^ fraction.length, ?_, ?_⟩
    · rw [hwrite, ← List.singleton_append, ← List.append_assoc, lastDigit_exponential hread]
    · rw [div_le_div_iff₀ (by positivity) (by positivity), ← pow_add, ← pow_add]
      exact pow_le_pow_right₀ (by norm_num) (by omega)

end Amount
