import Klarity.Library.Number
import Mathlib.Data.List.TakeWhile

set_option autoImplicit false

/-! # Decimal numerals

Digits in front of and behind a point: how a numeral is read (`readPlain`), and how a number is written
with a fixed number of digits behind the point, with groups of three digits in front of it (`formatted`)
or without (`fixed`). -/

namespace Decimal

/-- The digits of a number, with zeros in front. -/
def padded (width n : ℕ) : List Char :=
  List.replicate (width - (Nat.toDigits 10 n).length) '0' ++ Nat.toDigits 10 n

/-- What is read from the digits that a numeral begins with and from the rest. -/
def readParts (whole : List Char) : List Char → Option (ℕ × ℕ)
  | [] => if whole = [] then none else some (Nat.ofDigitChars 10 whole 0, 0)
  | '.' :: fraction =>
      if fraction.all Char.isDigit ∧ (whole ≠ [] ∨ fraction ≠ []) then
        some (Nat.ofDigitChars 10 (whole ++ fraction) 0, fraction.length)
      else none
  | _ => none

/-- The number that the digits of a numeral make, and how many of them are behind the point. -/
def readPlain (l : List Char) : Option (ℕ × ℕ) :=
  readParts (l.takeWhile Char.isDigit) (l.dropWhile Char.isDigit)

structure Format where
  groupSeparator : Char
  decimalSeparator : Char
  deriving DecidableEq, Repr

/-- A separator after each digit that has a multiple of three digits after it. -/
def group (separator : Char) : List Char → List Char
  | [] => []
  | [digit] => [digit]
  | digit :: digits =>
      if digits.length % 3 = 0 then digit :: separator :: group separator digits
      else digit :: group separator digits

/-- `n / 10 ^ places`, with this many digits behind the point. -/
def fixed (places n : ℕ) : List Char :=
  Nat.toDigits 10 (n / 10 ^ places) ++ '.' :: padded places (n % 10 ^ places)

/-- Without decimals there is no separator behind the whole part. -/
def formatted (format : Format) (places n : ℕ) : List Char :=
  group format.groupSeparator (Nat.toDigits 10 (n / 10 ^ places)) ++
    if places = 0 then [] else format.decimalSeparator :: padded places (n % 10 ^ places)

/-! ## Digits -/

theorem isDigit_toDigits (n : ℕ) : ∀ c ∈ Nat.toDigits 10 n, c.isDigit = true := by
  intro c hc
  exact Nat.isDigit_of_mem_toDigits (by decide) (by decide) hc

theorem isDigit_padded (width n : ℕ) : ∀ c ∈ padded width n, c.isDigit = true := by
  intro c hc
  rcases List.mem_append.1 hc with hc | hc
  · rw [(List.mem_replicate.1 hc).2]
    decide
  · exact isDigit_toDigits n c hc

@[simp] theorem ofDigitChars_padded (width n : ℕ) : Nat.ofDigitChars 10 (padded width n) 0 = n := by
  unfold padded
  rw [Nat.ofDigitChars_append, Nat.ofDigitChars_replicate_zero, Nat.mul_zero,
    Nat.ofDigitChars_ten_toDigits]

theorem length_padded {width n : ℕ} (hwidth : 0 < width) (hn : n < 10 ^ width) :
    (padded width n).length = width := by
  have hle : (Nat.toDigits 10 n).length ≤ width := (Nat.length_toDigits_le_iff (by decide) hwidth).2 hn
  unfold padded
  rw [List.length_append, List.length_replicate]
  omega

/-- The digits in front of the point and those behind it make the number. -/
theorem ofDigitChars_whole_append_padded {places : ℕ} (hplaces : 0 < places) (n : ℕ) :
    Nat.ofDigitChars 10 (Nat.toDigits 10 (n / 10 ^ places) ++ padded places (n % 10 ^ places)) 0 = n := by
  have hlt : n % 10 ^ places < 10 ^ places := Nat.mod_lt _ (Nat.pow_pos (by decide))
  rw [Nat.ofDigitChars_append, Nat.ofDigitChars_ten_toDigits, Nat.ofDigitChars_eq_ofDigitChars_zero,
    length_padded hplaces hlt, ofDigitChars_padded]
  exact Nat.div_add_mod n (10 ^ places)

/-- Zeros in front do not count. -/
theorem ofDigitChars_dropWhile_zero (digits : List Char) :
    Nat.ofDigitChars 10 (digits.dropWhile (· = '0')) 0 = Nat.ofDigitChars 10 digits 0 := by
  induction digits with
  | nil => rfl
  | cons c digits ih =>
      by_cases hc : c = '0'
      · rw [hc, List.dropWhile_cons_of_pos (by decide), ih, Nat.ofDigitChars_cons]
        rfl
      · rw [List.dropWhile_cons_of_neg (by simpa using hc)]

theorem digitChar_sub {c : Char} (h : c.isDigit = true) : Nat.digitChar (c.toNat - 48) = c := by
  obtain ⟨hlow, hhigh⟩ := Char.isDigit_iff_toNat.1 h
  have hall : ∀ n ≤ 57, 48 ≤ n → Nat.digitChar (n - 48) = Char.ofNat n := by decide
  rw [hall c.toNat hhigh hlow, Char.ofNat_toNat]

theorem sub_lt_ten {c : Char} (h : c.isDigit = true) : c.toNat - 48 < 10 := by
  have hhigh : c.toNat ≤ 57 := (Char.isDigit_iff_toNat.1 h).2
  omega

/-- Digits behind a number that is not zero are the digits of the number that they make. -/
theorem toDigits_append_of_pos {digits : List Char} (hd : ∀ c ∈ digits, c.isDigit = true) {n : ℕ} (hn : 0 < n) :
    Nat.toDigits 10 n ++ digits = Nat.toDigits 10 (Nat.ofDigitChars 10 digits n) := by
  induction digits generalizing n with
  | nil => rw [List.append_nil, Nat.ofDigitChars_nil]
  | cons c digits ih =>
      obtain ⟨hc, hrest⟩ := List.forall_mem_cons.1 hd
      have hpush := Nat.toDigits_append_toDigits (by decide) hn (sub_lt_ten hc)
      rw [Nat.toDigits_of_lt_base (sub_lt_ten hc), digitChar_sub hc] at hpush
      rw [Nat.ofDigitChars_cons, List.append_cons, hpush]
      exact ih hrest (by omega)

/-- Without the zeros in front, digits are the digits of the number that they make. -/
theorem dropWhile_zero_eq {digits : List Char} (hd : ∀ c ∈ digits, c.isDigit = true)
    (h : digits.dropWhile (· = '0') ≠ []) :
    digits.dropWhile (· = '0') = Nat.toDigits 10 (Nat.ofDigitChars 10 digits 0) := by
  induction digits with
  | nil => exact absurd rfl h
  | cons c digits ih =>
      obtain ⟨hc, hrest⟩ := List.forall_mem_cons.1 hd
      by_cases hzero : c = '0'
      · rw [hzero, List.dropWhile_cons_of_pos (by decide)] at h ⊢
        exact ih hrest h
      · have hlow : 48 ≤ c.toNat := (Char.isDigit_iff_toNat.1 hc).1
        have hne : c.toNat ≠ 48 := fun heq => hzero (Char.toNat_inj.1 heq)
        have happend := toDigits_append_of_pos hrest (show 0 < c.toNat - 48 by omega)
        rw [Nat.toDigits_of_lt_base (sub_lt_ten hc), digitChar_sub hc, List.singleton_append] at happend
        rw [List.dropWhile_cons_of_neg (by simpa using hzero), happend, Nat.ofDigitChars_ten_toDigits]

/-- The digits of a number that is not zero begin with another digit. -/
theorem ne_zero_of_toDigits_eq_cons {n : ℕ} (hn : n ≠ 0) {c : Char} {digits : List Char}
    (h : Nat.toDigits 10 n = c :: digits) : c ≠ '0' := by
  rintro rfl
  have hdrop : (Nat.toDigits 10 n).dropWhile (· = '0') = digits.dropWhile (· = '0') := by
    rw [h, List.dropWhile_cons_of_pos (by decide)]
  have hne : (Nat.toDigits 10 n).dropWhile (· = '0') ≠ [] := by
    intro hnil
    have hread := ofDigitChars_dropWhile_zero (Nat.toDigits 10 n)
    rw [hnil, Nat.ofDigitChars_ten_toDigits] at hread
    exact hn hread.symm
  have hall := dropWhile_zero_eq (isDigit_toDigits n) hne
  rw [Nat.ofDigitChars_ten_toDigits, hdrop, h] at hall
  have hle := (List.dropWhile_suffix (l := digits) (· = '0')).length_le
  rw [hall, List.length_cons] at hle
  omega

theorem toDigits_ten_pow (k : ℕ) : Nat.toDigits 10 (10 ^ k) = '1' :: List.replicate k '0' := by
  induction k with
  | zero => rfl
  | succ k ih =>
      have hstep := Nat.toDigits_append_toDigits (b := 10) (by decide)
        (Nat.pow_pos (n := k) (by decide : 0 < 10)) (by decide : 0 < 10)
      rw [pow_succ, Nat.mul_comm, ← Nat.add_zero (10 * 10 ^ k), ← hstep, ih, Nat.toDigits_zero,
        List.replicate_succ', List.cons_append]

/-! ## Characters of numerals -/

/-- The characters of a numeral behind the digits that it begins with. -/
theorem isDigit_or_point_of_readParts {whole rest : List Char} {c p : ℕ}
    (h : readParts whole rest = some (c, p)) : ∀ d ∈ rest, d.isDigit = true ∨ d = '.' := by
  unfold readParts at h
  intro d hd
  split at h
  · exact absurd hd List.not_mem_nil
  · split at h
    · next hall =>
        rcases List.mem_cons.1 hd with hd | hd
        · exact Or.inr hd
        · exact Or.inl (List.all_eq_true.1 hall.1 d hd)
    · exact absurd h (by simp)
  · exact absurd h (by simp)

theorem isDigit_or_point_of_readPlain {l : List Char} {c p : ℕ} (h : readPlain l = some (c, p)) :
    ∀ d ∈ l, d.isDigit = true ∨ d = '.' := by
  intro d hd
  rw [← List.takeWhile_append_dropWhile (p := Char.isDigit) (l := l)] at hd
  rcases List.mem_append.1 hd with hd | hd
  · exact Or.inl (List.mem_takeWhile_imp hd)
  · exact isDigit_or_point_of_readParts h d hd

theorem ne_nil_of_readPlain {l : List Char} {c p : ℕ} (h : readPlain l = some (c, p)) : l ≠ [] := by
  rintro rfl
  exact absurd h (by simp [readPlain, readParts])

/-! ## Reading what was written -/

theorem dropWhile_isDigit_append {digits rest : List Char} (hd : ∀ c ∈ digits, c.isDigit = true)
    (hr : ∀ c ∈ rest.head?, c.isDigit = false) : (digits ++ rest).dropWhile Char.isDigit = rest := by
  rw [List.dropWhile_append_of_pos hd]
  cases rest with
  | nil => rfl
  | cons c rest => rw [List.dropWhile_cons, hr c rfl, if_neg (by decide)]

theorem readPlain_point {whole fraction : List Char} (hne : whole ≠ [])
    (hw : ∀ c ∈ whole, c.isDigit = true) (hf : ∀ c ∈ fraction, c.isDigit = true) :
    readPlain (whole ++ '.' :: fraction) =
      some (Nat.ofDigitChars 10 (whole ++ fraction) 0, fraction.length) := by
  have hpoint := JsNumber.isDigit_head?_cons (by decide : '.'.isDigit = false) fraction
  unfold readPlain
  rw [JsNumber.takeWhile_isDigit_append hw hpoint, dropWhile_isDigit_append hw hpoint]
  exact if_pos ⟨List.all_eq_true.2 hf, Or.inl hne⟩

theorem readPlain_whole {whole : List Char} (hne : whole ≠ []) (hw : ∀ c ∈ whole, c.isDigit = true) :
    readPlain whole = some (Nat.ofDigitChars 10 whole 0, 0) := by
  have htake := JsNumber.takeWhile_isDigit_append hw JsNumber.isDigit_head?_nil
  have hdrop := dropWhile_isDigit_append hw JsNumber.isDigit_head?_nil
  rw [List.append_nil] at htake hdrop
  unfold readPlain
  rw [htake, hdrop]
  exact if_neg hne

theorem readPlain_fixed {places : ℕ} (hplaces : 0 < places) (n : ℕ) :
    readPlain (fixed places n) = some (n, places) := by
  have hlt : n % 10 ^ places < 10 ^ places := Nat.mod_lt _ (Nat.pow_pos (by decide))
  unfold fixed
  rw [readPlain_point Nat.toDigits_ne_nil (isDigit_toDigits _) (isDigit_padded _ _),
    ofDigitChars_whole_append_padded hplaces, length_padded hplaces hlt]

/-- What is left of groups without their separators. -/
theorem filter_group {keep : Char → Bool} {separator : Char} {digits : List Char}
    (hs : keep separator = false) (hd : ∀ c ∈ digits, keep c = true) :
    (group separator digits).filter keep = digits := by
  fun_induction group separator digits with
  | case1 => rfl
  | case2 digit => exact List.filter_eq_self.2 hd
  | case3 digit digits _ _ ih =>
      obtain ⟨hdigit, hdigits⟩ := List.forall_mem_cons.1 hd
      rw [List.filter_cons_of_pos hdigit, List.filter_cons_of_neg (by rw [hs]; decide), ih hdigits]
  | case4 digit digits _ _ ih =>
      obtain ⟨hdigit, hdigits⟩ := List.forall_mem_cons.1 hd
      rw [List.filter_cons_of_pos hdigit, ih hdigits]

/-- A number without its point. -/
theorem filter_fixed {keep : Char → Bool} {places n : ℕ} (hpoint : keep '.' = false)
    (hd : ∀ c : Char, c.isDigit = true → keep c = true) :
    (fixed places n).filter keep =
      Nat.toDigits 10 (n / 10 ^ places) ++ padded places (n % 10 ^ places) := by
  unfold fixed
  rw [List.filter_append, List.filter_cons_of_neg (by rw [hpoint]; decide),
    List.filter_eq_self.2 fun c hc => hd c (isDigit_toDigits _ c hc),
    List.filter_eq_self.2 fun c hc => hd c (isDigit_padded _ _ c hc)]

/-- The digits of a number without its separators. -/
def formattedDigits (places n : ℕ) : List Char :=
  Nat.toDigits 10 (n / 10 ^ places) ++ if places = 0 then [] else padded places (n % 10 ^ places)

theorem isDigit_formattedDigits (places n : ℕ) : ∀ c ∈ formattedDigits places n, c.isDigit = true := by
  intro c hc
  rcases List.mem_append.1 hc with hc | hc
  · exact isDigit_toDigits _ c hc
  · by_cases hplaces : places = 0
    · rw [if_pos hplaces] at hc
      exact absurd hc List.not_mem_nil
    · rw [if_neg hplaces] at hc
      exact isDigit_padded _ _ c hc

theorem ofDigitChars_formattedDigits (places n : ℕ) :
    Nat.ofDigitChars 10 (formattedDigits places n) 0 = n := by
  unfold formattedDigits
  by_cases hplaces : places = 0
  · rw [if_pos hplaces, hplaces, List.append_nil, Nat.ofDigitChars_ten_toDigits, pow_zero, Nat.div_one]
  · rw [if_neg hplaces]
    exact ofDigitChars_whole_append_padded (Nat.pos_of_ne_zero hplaces) n

theorem filter_formatted {keep : Char → Bool} {format : Format} {places n : ℕ}
    (hg : keep format.groupSeparator = false) (hp : keep format.decimalSeparator = false)
    (hd : ∀ c : Char, c.isDigit = true → keep c = true) :
    (formatted format places n).filter keep = formattedDigits places n := by
  unfold formatted formattedDigits
  rw [List.filter_append, filter_group hg fun c hc => hd c (isDigit_toDigits _ c hc)]
  by_cases hplaces : places = 0
  · rw [if_pos hplaces, if_pos hplaces, List.filter_nil]
  · rw [if_neg hplaces, if_neg hplaces, List.filter_cons_of_neg (by rw [hp]; decide),
      List.filter_eq_self.2 fun c hc => hd c (isDigit_padded _ _ c hc)]

end Decimal
