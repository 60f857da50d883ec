import Klarity.Library.Decimal
import Mathlib.Data.Rat.Floor
import Mathlib.Tactic.Positivity

set_option autoImplicit false

/-! # Numbers as they are written

A number that is turned into a string is the shortest decimal that is read as the number. From six zeros
behind the point on, the string is in exponential notation, and `parseInt` reads the first digit of it. -/

open Decimal (fixed padded)

namespace JsNumber

/-- A decimal that is not negative, without a zero at the end of its decimals. -/
structure Numeral where
  significand : ℕ
  decimals : ℕ
  shortest : decimals = 0 ∨ significand % 10 ≠ 0
  deriving DecidableEq, Repr

namespace Numeral

def value (x : Numeral) : ℚ := (x.significand : ℚ) / (10 ^ x.decimals : ℕ)

def digits (x : Numeral) : List Char := Nat.toDigits 10 x.significand

/-- `String(x)`, for a number below `10 ^ 21`. -/
def toString (x : Numeral) : String :=
  if x.decimals = 0 then String.ofList x.digits
  else if x.decimals < x.digits.length + 6 then String.ofList (fixed x.decimals x.significand)
  else
    match x.digits with
    | [] => ""
    | digit :: fraction =>
        String.ofList (digit :: ((if fraction = [] then [] else '.' :: fraction) ++
          'e' :: '-' :: Nat.toDigits 10 (x.decimals - x.digits.length + 1)))

/-- A number that is written in exponential notation. -/
def IsTiny (x : Numeral) : Prop := 0 < x.value ∧ x.value < 1 / (10 ^ 6 : ℕ)

instance : DecidablePred IsTiny := fun _ => inferInstanceAs (Decidable (_ ∧ _))

variable {x : Numeral}

theorem floor_value (x : Numeral) : ⌊x.value⌋ = (x.significand / 10 ^ x.decimals : ℕ) :=
  Rat.floor_natCast_div_natCast ..

theorem floor_nonneg (x : Numeral) : 0 ≤ ⌊x.value⌋ := by
  rw [floor_value]
  exact Int.natCast_nonneg _

theorem value_pos_iff : 0 < x.value ↔ x.significand ≠ 0 := by
  have hpow : (0 : ℚ) < (10 ^ x.decimals : ℕ) := Nat.cast_pos.2 (Nat.pow_pos (by decide))
  unfold value
  rw [div_pos_iff_of_pos_right hpow, Nat.cast_pos, Nat.pos_iff_ne_zero]

theorem value_lt_iff : x.value < 1 / (10 ^ 6 : ℕ) ↔ x.significand * 10 ^ 6 < 10 ^ x.decimals := by
  have hpow : (0 : ℚ) < (10 ^ x.decimals : ℕ) := Nat.cast_pos.2 (Nat.pow_pos (by decide))
  have hsix : (0 : ℚ) < (10 ^ 6 : ℕ) := Nat.cast_pos.2 (Nat.pow_pos (by decide))
  unfold value
  rw [div_lt_div_iff₀ hpow hsix, one_mul, ← Nat.cast_mul, Nat.cast_lt]

/-- Six zeros or more behind the point are those of a number that is tiny. -/
theorem isTiny_iff : x.IsTiny ↔ x.digits.length + 6 ≤ x.decimals := by
  have hlength : 0 < x.digits.length := Nat.length_toDigits_pos
  unfold IsTiny
  rw [value_pos_iff, value_lt_iff]
  rcases Nat.lt_or_ge 6 x.decimals with hlt | hle
  · have hsplit : 10 ^ x.decimals = 10 ^ (x.decimals - 6) * 10 ^ 6 := by
      rw [← Nat.pow_add, Nat.sub_add_cancel hlt.le]
    have hne : x.significand ≠ 0 := by
      rcases x.shortest with hzero | hdigit
      · omega
      · exact fun h => hdigit (by rw [h])
    rw [and_iff_right hne, hsplit, Nat.mul_lt_mul_right (by decide), ← Nat.le_sub_iff_add_le hlt.le]
    exact (Nat.length_toDigits_le_iff (by decide) (by omega)).symm
  · have hpow : 10 ^ x.decimals ≤ 10 ^ 6 := Nat.pow_le_pow_right (by decide) hle
    refine iff_of_false (fun ⟨hne, hlt⟩ => ?_) (by omega)
    exact absurd (Nat.lt_of_mul_lt_mul_right (hlt.trans_le (hpow.trans (Nat.one_mul _).ge))) (by omega)

theorem floor_eq_zero_of_isTiny (h : x.IsTiny) : ⌊x.value⌋ = 0 := by
  have hlt : x.value < 1 := h.2.trans_le (by norm_num)
  exact Int.floor_eq_zero_iff.2 ⟨h.1.le, hlt⟩

/-! ## `parseInt(x, 10)` -/

theorem parseInt_digits {digits rest : List Char} (hne : digits ≠ []) (hd : ∀ c ∈ digits, c.isDigit = true)
    (hr : ∀ c ∈ rest.head?, c.isDigit = false) (hle : Nat.ofDigitChars 10 digits 0 ≤ 2 ^ 53) :
    parseInt (String.ofList (digits ++ rest)) = some (Nat.ofDigitChars 10 digits 0 : ℤ) := by
  have h := parseInt_signed false hne hd hr
  rw [ofNat_eq_some_self_iff.2 (isDouble_of_le hle)] at h
  exact h

/-- Other numbers are cut to their integer part. -/
theorem parseInt_toString_of_not_isTiny (htiny : ¬ x.IsTiny) (hle : x.value ≤ (2 ^ 53 : ℕ)) :
    parseInt x.toString = some ⌊x.value⌋ := by
  have hfloor := Int.floor_le_floor hle
  rw [floor_value, Int.floor_natCast, Int.ofNat_le] at hfloor
  rw [isTiny_iff, Nat.not_le] at htiny
  rw [floor_value]
  unfold toString
  by_cases hzero : x.decimals = 0
  · have hwhole : x.significand / 10 ^ x.decimals = x.significand := by rw [hzero, Nat.pow_zero, Nat.div_one]
    have hparse := parseInt_digits Nat.toDigits_ne_nil (Decimal.isDigit_toDigits x.significand) isDigit_head?_nil
      (by rwa [Nat.ofDigitChars_ten_toDigits, ← hwhole])
    rw [List.append_nil, Nat.ofDigitChars_ten_toDigits] at hparse
    rw [if_pos hzero, hwhole]
    exact hparse
  · have hpoint := isDigit_head?_cons (by decide : '.'.isDigit = false)
      (padded x.decimals (x.significand % 10 ^ x.decimals))
    have hdigits := Decimal.isDigit_toDigits (x.significand / 10 ^ x.decimals)
    have hparse := parseInt_digits Nat.toDigits_ne_nil hdigits hpoint (by rwa [Nat.ofDigitChars_ten_toDigits])
    rw [Nat.ofDigitChars_ten_toDigits] at hparse
    rw [if_neg hzero, if_pos htiny]
    exact hparse

/-- Of a tiny number the first digit is read, which is not zero. -/
theorem parseInt_toString_of_isTiny (htiny : x.IsTiny) : ∃ n : ℤ, 0 < n ∧ parseInt x.toString = some n := by
  have hlong := isTiny_iff.1 htiny
  have hlength : 0 < x.digits.length := Nat.length_toDigits_pos
  obtain ⟨digit, fraction, hcons⟩ := List.exists_cons_of_ne_nil (List.length_pos_iff.1 hlength)
  have hdigit : digit.isDigit = true := by
    refine Decimal.isDigit_toDigits x.significand digit ?_
    rw [show Nat.toDigits 10 x.significand = digit :: fraction from hcons]
    exact List.mem_cons_self
  have hne : digit ≠ '0' := Decimal.ne_zero_of_toDigits_eq_cons (value_pos_iff.1 htiny.1) hcons
  have hvalue : Nat.ofDigitChars 10 [digit] 0 = digit.toNat - 48 := by
    rw [Nat.ofDigitChars_cons, Nat.ofDigitChars_nil]
    exact Nat.zero_add _
  have hlow : 48 ≤ digit.toNat := (Char.isDigit_iff_toNat.1 hdigit).1
  have hchar : digit.toNat ≠ 48 := fun heq => hne (Char.toNat_inj.1 heq)
  have hlt := Decimal.sub_lt_ten hdigit
  have hrest : ∀ c ∈ ((if fraction = [] then [] else '.' :: fraction) ++
      'e' :: '-' :: Nat.toDigits 10 (x.decimals - x.digits.length + 1)).head?, c.isDigit = false := by
    split
    · exact isDigit_head?_cons (by decide) _
    · exact isDigit_head?_cons (by decide) _
  have hparse := parseInt_digits (List.cons_ne_nil digit []) (fun c hc => by rwa [List.mem_singleton.1 hc]) hrest
    (by rw [hvalue]; omega)
  refine ⟨(digit.toNat - 48 : ℕ), by omega, ?_⟩
  unfold toString
  rw [if_neg (by omega), if_neg (by omega), hcons]
  rw [hvalue, List.singleton_append, hcons] at hparse
  exact hparse

example : parseInt (toString ⟨15, 8, by decide⟩) = some 1 := by decide

end Numeral

end JsNumber
