import Mathlib.Data.Nat.Log
import Mathlib.Algebra.Order.Group.Nat

set_option autoImplicit false

/-! # Whole numbers as JavaScript has them

A whole number is rounded to the nearest double, and to the even one of two that are equally near. The
doubles among the whole numbers have at most 53 binary digits before the zeros at the end (`IsDouble`),
and are those that stay as they are. `parseInt` reads the digits that a string begins with. -/

namespace JsNumber

/-- The numbers from two to this power on are infinite. -/
def maxExponent : ℕ := 1024

/-- The whole number is a double. -/
def IsDouble (n : ℕ) : Prop :=
  ∃ m e, m < 2 ^ 53 ∧ 53 + e ≤ maxExponent ∧ n = m * 2 ^ e

/-- The nearest multiple of a unit. -/
def roundTo (unit n : ℕ) : ℕ :=
  if 2 * (n % unit) < unit ∨ (2 * (n % unit) = unit ∧ n / unit % 2 = 0) then n / unit * unit
  else (n / unit + 1) * unit

/-- The distance of the doubles around a whole number, which keep 53 binary digits. -/
def spacing (n : ℕ) : ℕ := 2 ^ (n.log2 - 52)

/-- The number, unless it is infinite. -/
def ofNat (n : ℕ) : Option ℕ :=
  if (roundTo (spacing n) n).log2 < maxExponent then some (roundTo (spacing n) n) else none

/-! ## Numbers that are not rounded -/

theorem dvd_roundTo (unit n : ℕ) : unit ∣ roundTo unit n := by
  unfold roundTo
  split
  · exact Nat.dvd_mul_left ..
  · exact Nat.dvd_mul_left ..

theorem roundTo_eq_self_iff {unit n : ℕ} (hunit : 0 < unit) : roundTo unit n = n ↔ unit ∣ n := by
  refine ⟨fun h => h ▸ dvd_roundTo unit n, fun h => ?_⟩
  have hr : n % unit = 0 := Nat.mod_eq_zero_of_dvd h
  unfold roundTo
  rw [hr, if_pos (Or.inl (by omega))]
  exact Nat.div_mul_cancel h

theorem log2_mul_two_pow_lt {m e : ℕ} (hm : m < 2 ^ 53) (hzero : m * 2 ^ e ≠ 0) :
    (m * 2 ^ e).log2 < 53 + e := by
  refine (Nat.log2_lt hzero).2 ?_
  rw [Nat.pow_add]
  exact Nat.mul_lt_mul_of_pos_right hm (Nat.two_pow_pos e)

theorem IsDouble.log2_lt {n : ℕ} (h : IsDouble n) : n.log2 < maxExponent := by
  obtain ⟨m, e, hm, he, rfl⟩ := h
  by_cases hzero : m * 2 ^ e = 0
  · rw [hzero]
    decide
  · exact Nat.lt_of_lt_of_le (log2_mul_two_pow_lt hm hzero) he

/-- The digits that are kept reach down to the zeros at the end. -/
theorem IsDouble.spacing_dvd {n : ℕ} (h : IsDouble n) : spacing n ∣ n := by
  obtain ⟨m, e, hm, -, rfl⟩ := h
  by_cases hzero : m * 2 ^ e = 0
  · rw [hzero]
    exact Nat.dvd_zero _
  · have hlog := log2_mul_two_pow_lt hm hzero
    have hdvd : spacing (m * 2 ^ e) ∣ 2 ^ e := Nat.pow_dvd_pow 2 (by omega)
    exact Nat.dvd_mul_left_of_dvd hdvd m

theorem isDouble_of_spacing_dvd {n : ℕ} (hlog : n.log2 < maxExponent) (h : spacing n ∣ n) :
    IsDouble n := by
  by_cases hzero : n = 0
  · exact ⟨0, 0, by decide, by decide, by rw [hzero, Nat.zero_mul]⟩
  · obtain ⟨m, hm⟩ := h
    have hn : n < 2 ^ (n.log2 + 1) := Nat.lt_log2_self
    have hpow : 2 ^ (n.log2 + 1) ≤ spacing n * 2 ^ 53 := by
      rw [spacing, ← Nat.pow_add]
      exact Nat.pow_le_pow_right (by decide) (by omega)
    have hmul : spacing n * m < spacing n * 2 ^ 53 := by
      rw [← hm]
      exact Nat.lt_of_lt_of_le hn hpow
    have hmax : 53 ≤ maxExponent := by decide
    exact ⟨m, n.log2 - 52, Nat.lt_of_mul_lt_mul_left hmul, by omega, hm.trans (Nat.mul_comm ..)⟩

/-- The numbers that stay as they are. -/
theorem ofNat_eq_some_self_iff {n : ℕ} : ofNat n = some n ↔ IsDouble n := by
  have hround : roundTo (spacing n) n = n ↔ spacing n ∣ n := roundTo_eq_self_iff (Nat.two_pow_pos _)
  unfold ofNat
  constructor
  · intro h
    split at h
    · next hlt =>
        have heq : roundTo (spacing n) n = n := Option.some.inj h
        rw [heq] at hlt
        exact isDouble_of_spacing_dvd hlt (hround.1 heq)
    · exact absurd h (by simp)
  · intro h
    rw [hround.2 h.spacing_dvd, if_pos h.log2_lt]

theorem map_ofNat_eq_some_self_iff {n : ℕ} :
    (ofNat n).map (fun m : ℕ => (m : ℤ)) = some (n : ℤ) ↔ IsDouble n := by
  rw [← ofNat_eq_some_self_iff, Option.map_eq_some_iff]
  constructor
  · rintro ⟨m, hm, heq⟩
    rw [hm, Int.ofNat_inj.1 heq]
  · exact fun h => ⟨n, h, rfl⟩

theorem isDouble_of_le {n : ℕ} (h : n ≤ 2 ^ 53) : IsDouble n := by
  rcases Nat.lt_or_eq_of_le h with hlt | rfl
  · exact ⟨n, 0, hlt, by decide, by rw [Nat.pow_zero, Nat.mul_one]⟩
  · exact ⟨1, 53, by decide, by decide, by rw [Nat.one_mul]⟩

instance (n : ℕ) : Decidable (IsDouble n) :=
  decidable_of_iff _ ofNat_eq_some_self_iff

/-! ## Reading strings -/

/-- The code points that `\s` matches, which `parseInt` skips. -/
def IsWhitespace (n : ℕ) : Prop :=
  (9 ≤ n ∧ n ≤ 13) ∨ n = 32 ∨ n = 0xA0 ∨ n = 0x1680 ∨ (0x2000 ≤ n ∧ n ≤ 0x200A) ∨ n = 0x2028 ∨
    n = 0x2029 ∨ n = 0x202F ∨ n = 0x205F ∨ n = 0x3000 ∨ n = 0xFEFF

instance (n : ℕ) : Decidable (IsWhitespace n) := inferInstanceAs (Decidable (_ ∨ _))

def isWhitespace (c : Char) : Bool := decide (IsWhitespace c.toNat)

/-- The digits up to the first other character; `none` is `NaN` or an infinity. -/
def readDigits (l : List Char) : Option ℕ :=
  match l.takeWhile Char.isDigit with
  | [] => none
  | digits => ofNat (Nat.ofDigitChars 10 digits 0)

/-- `parseInt(string, 10)` -/
def parseInt (string : String) : Option ℤ :=
  match string.toList.dropWhile isWhitespace with
  | '-' :: rest => (readDigits rest).map fun n : ℕ => -(n : ℤ)
  | '+' :: rest => (readDigits rest).map fun n : ℕ => (n : ℤ)
  | rest => (readDigits rest).map fun n : ℕ => (n : ℤ)

theorem isWhitespace_of_isDigit {c : Char} (h : c.isDigit = true) : isWhitespace c = false := by
  obtain ⟨hge, hle⟩ : 48 ≤ c.toNat ∧ c.toNat ≤ 57 := Char.isDigit_iff_toNat.1 h
  refine decide_eq_false fun hw => ?_
  unfold IsWhitespace at hw
  omega

theorem isDigit_head?_nil : ∀ c ∈ ([] : List Char).head?, c.isDigit = false := by simp

theorem isDigit_head?_cons {d : Char} (h : d.isDigit = false) (rest : List Char) :
    ∀ c ∈ (d :: rest).head?, c.isDigit = false := by
  intro c hc
  rwa [← Option.some.inj hc]

/-- Digits in front of something else. -/
theorem takeWhile_isDigit_append {digits rest : List Char} (hd : ∀ c ∈ digits, c.isDigit = true)
    (hr : ∀ c ∈ rest.head?, c.isDigit = false) : (digits ++ rest).takeWhile Char.isDigit = digits := by
  rw [List.takeWhile_append_of_pos hd]
  cases rest with
  | nil => rw [List.takeWhile_nil, List.append_nil]
  | cons c rest => rw [List.takeWhile_cons, hr c rfl, if_neg (by decide), List.append_nil]

theorem readDigits_append {digits rest : List Char} (hne : digits ≠ [])
    (hd : ∀ c ∈ digits, c.isDigit = true) (hr : ∀ c ∈ rest.head?, c.isDigit = false) :
    readDigits (digits ++ rest) = ofNat (Nat.ofDigitChars 10 digits 0) := by
  unfold readDigits
  rw [takeWhile_isDigit_append hd hr]
  cases digits with
  | nil => exact absurd rfl hne
  | cons c digits => rfl

/-- A sign in front of digits. -/
def signed (negative : Bool) (l : List Char) : List Char :=
  if negative then '-' :: l else l

theorem parseInt_signed (negative : Bool) {digits rest : List Char} (hne : digits ≠ [])
    (hd : ∀ c ∈ digits, c.isDigit = true) (hr : ∀ c ∈ rest.head?, c.isDigit = false) :
    parseInt (String.ofList (signed negative (digits ++ rest))) =
      (ofNat (Nat.ofDigitChars 10 digits 0)).map fun n : ℕ => if negative then -(n : ℤ) else n := by
  have hread := readDigits_append hne hd hr
  unfold parseInt
  rw [String.toList_ofList]
  cases negative with
  | true =>
      show ((readDigits (digits ++ rest)).map fun n : ℕ => -(n : ℤ)) = _
      rw [hread]
      rfl
  | false =>
      cases digits with
      | nil => exact absurd rfl hne
      | cons c digits =>
          have hc : c.isDigit = true := hd c List.mem_cons_self
          have hspace : isWhitespace c = false := isWhitespace_of_isDigit hc
          have hdrop : (signed false (c :: digits ++ rest)).dropWhile isWhitespace = c :: digits ++ rest := by
            show (c :: (digits ++ rest)).dropWhile isWhitespace = _
            rw [List.dropWhile_cons, hspace, if_neg (by decide)]
            rfl
          rw [hdrop]
          split
          · next rest' heq =>
              obtain ⟨rfl, -⟩ := List.cons.inj heq
              exact absurd hc (by decide)
          · next rest' heq =>
              obtain ⟨rfl, -⟩ := List.cons.inj heq
              exact absurd hc (by decide)
          · rw [hread]
            rfl

/-- An integer that is written out. -/
theorem toString_int (n : ℤ) :
    toString n = String.ofList (signed (decide (n < 0)) (Nat.toDigits 10 n.natAbs)) := by
  cases n with
  | ofNat m =>
      have hsign : decide (Int.ofNat m < 0) = false := decide_eq_false (by simp)
      rw [hsign]
      exact Nat.toString_eq_ofList_toDigits
  | negSucc m =>
      show "-" ++ Nat.repr (m + 1) = _
      rw [decide_eq_true (Int.negSucc_lt_zero m)]
      refine String.toList_inj.1 ?_
      rw [String.toList_append, String.toList_ofList, String.toList_ofList, Nat.toList_repr]
      rfl

theorem parseInt_toString (n : ℤ) :
    parseInt (toString n) = (ofNat n.natAbs).map fun m : ℕ => if n < 0 then -(m : ℤ) else m := by
  have hdigits : ∀ c ∈ Nat.toDigits 10 n.natAbs, c.isDigit = true := fun c hc =>
    Nat.isDigit_of_mem_toDigits (by decide) (by decide) hc
  have h := parseInt_signed (decide (n < 0)) Nat.toDigits_ne_nil hdigits isDigit_head?_nil
  rw [List.append_nil, ← toString_int, Nat.ofDigitChars_ten_toDigits] at h
  simpa only [decide_eq_true_eq] using h

theorem parseInt_toString_eq_some_self_iff {n : ℤ} :
    parseInt (toString n) = some n ↔ IsDouble n.natAbs := by
  rw [parseInt_toString, ← ofNat_eq_some_self_iff, Option.map_eq_some_iff]
  constructor
  · rintro ⟨m, hm, hn⟩
    have heq : m = n.natAbs := by
      split at hn
      · omega
      · omega
    rw [hm, heq]
  · intro h
    refine ⟨n.natAbs, h, ?_⟩
    split
    · omega
    · omega

end JsNumber
