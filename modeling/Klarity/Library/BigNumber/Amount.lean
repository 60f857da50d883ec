import Klarity.Library.BigNumber
import Mathlib.Data.List.DropRight
import Mathlib.Tactic.Linarith
import Mathlib.Tactic.Positivity

set_option autoImplicit false

/-! # Rational numbers as numbers of arbitrary precision

The functions of the package on rational numbers. They write numbers of at most six decimals, which is
what amounts of money are: `n / 10 ^ 6` is written from the digits of `n`. -/

open Decimal (readPlain padded formatted)

open JsNumber (signed)

/-- A rational number or `NaN`. -/
def Amount := Option ℚ

namespace Amount

/-! ## Reading and writing -/

def readUnsigned (l : List Char) : Option ℚ :=
  match readPlain (l.takeWhile (· ≠ 'e')), l.dropWhile (· ≠ 'e') with
  | some (c, p), [] => some (c / 10 ^ p)
  | some (c, p), _ :: '+' :: exponent =>
      if exponent.all Char.isDigit ∧ exponent ≠ [] then
        some (c / 10 ^ p * 10 ^ Nat.ofDigitChars 10 exponent 0)
      else none
  | _, _ => none

def read (l : List Char) : Option ℚ :=
  match l with
  | '-' :: l => (readUnsigned l).map fun x => -x
  | l => readUnsigned l

/-- The digits without the zeros at the end. -/
def stripped (digits : List Char) : List Char := digits.rdropWhile (· = '0')

/-- A point and digits, if there are digits. -/
def pointed (digits : List Char) : List Char := if digits = [] then [] else '.' :: digits

/-- `n / 10 ^ 6` -/
def writeUnsigned (n : ℕ) : List Char :=
  if n < 10 ^ 27 then
    Nat.toDigits 10 (n / 10 ^ 6) ++ pointed (stripped (padded 6 (n % 10 ^ 6)))
  else
    match stripped (Nat.toDigits 10 n) with
    | [] => []
    | digit :: digits =>
        digit :: (pointed digits ++ 'e' :: '+' :: Nat.toDigits 10 ((Nat.toDigits 10 n).length - 7))

def write (n : ℤ) : String := String.ofList (signed (decide (n < 0)) (writeUnsigned n.natAbs))

instance : BigNumber Amount where
  value := id
  ofString s := read s.toList
  plus a b := Option.map₂ (fun x y => x + y) a b
  minus a b := Option.map₂ (fun x y => x - y) a b
  times a b := Option.map₂ (fun x y => x * y) a b
  dividedBy a b := Option.map₂ (fun x y => ⌊x / y * 10 ^ 20 + 1 / 2⌋ / 10 ^ 20) a b
  isGreaterThan a b := Option.map₂ (fun x y => decide (y < x)) a b = some true
  isGreaterThanOrEqualTo a b := Option.map₂ (fun x y => decide (y ≤ x)) a b = some true
  isLessThanOrEqualTo a b := Option.map₂ (fun x y => decide (x ≤ y)) a b = some true
  toString a := Option.elim a "NaN" fun x => write ⌊x * 10 ^ 6⌋
  toFormat a p format := Option.elim a "NaN" fun x =>
    String.ofList (signed (decide (x < 0)) (formatted format p ⌊|x| * 10 ^ p + 1 / 2⌋.toNat))

/-! ## Reading what was written -/

theorem exists_stripped_append (digits : List Char) :
    ∃ k, digits = stripped digits ++ List.replicate k '0' := by
  have hzeros : digits.rtakeWhile (· = '0') =
      List.replicate (digits.rtakeWhile (· = '0')).length '0' :=
    List.eq_replicate_iff.2 ⟨rfl, fun c hc => by simpa using List.mem_rtakeWhile_imp hc⟩
  refine ⟨(digits.rtakeWhile (· = '0')).length, ?_⟩
  rw [← hzeros]
  exact (List.rdropWhile_append_rtakeWhile ..).symm

theorem mem_of_mem_stripped {digits : List Char} {c : Char} (h : c ∈ stripped digits) : c ∈ digits :=
  List.IsPrefix.subset (List.rdropWhile_prefix _ _) h

/-- The zeros at the end of a numeral count as much behind the point as they do in the number. -/
theorem div_of_replicate_zero {digits : List Char} {n k p : ℕ}
    (h : n = Nat.ofDigitChars 10 (digits ++ List.replicate k '0') 0) :
    (Nat.ofDigitChars 10 digits 0 : ℚ) / 10 ^ p = n / 10 ^ (p + k) := by
  rw [h, Nat.ofDigitChars_append, Nat.ofDigitChars_replicate_zero, Nat.cast_mul, Nat.cast_pow, pow_add]
  field_simp
  norm_num

theorem ne_e_of_readPlain {l : List Char} {c p : ℕ} (h : readPlain l = some (c, p)) :
    ∀ d ∈ l, d ≠ 'e' := by
  rintro d hd rfl
  rcases Decimal.isDigit_or_point_of_readPlain h 'e' hd with hdigit | hpoint
  · exact absurd hdigit (by decide)
  · exact absurd hpoint (by decide)

theorem readUnsigned_of_readPlain {l : List Char} {c p : ℕ} (h : readPlain l = some (c, p)) :
    readUnsigned l = some ((c : ℚ) / 10 ^ p) := by
  have hno : ∀ d ∈ l, decide (d ≠ 'e') = true := fun d hd => decide_eq_true (ne_e_of_readPlain h d hd)
  unfold readUnsigned
  rw [List.takeWhile_eq_self_iff.2 hno, List.dropWhile_eq_nil_iff.2 hno, h]

theorem takeWhile_append_e {l : List Char} (h : ∀ d ∈ l, decide (d ≠ 'e') = true) (rest : List Char) :
    (l ++ 'e' :: rest).takeWhile (fun d => decide (d ≠ 'e')) = l := by
  rw [List.takeWhile_append_of_pos h]
  simp

theorem dropWhile_append_e {l : List Char} (h : ∀ d ∈ l, decide (d ≠ 'e') = true) (rest : List Char) :
    (l ++ 'e' :: rest).dropWhile (fun d => decide (d ≠ 'e')) = 'e' :: rest := by
  rw [List.dropWhile_append_of_pos h]
  simp

theorem readUnsigned_exponential {l : List Char} {c p : ℕ} (h : readPlain l = some (c, p)) (e : ℕ) :
    readUnsigned (l ++ 'e' :: '+' :: Nat.toDigits 10 e) = some ((c : ℚ) / 10 ^ p * 10 ^ e) := by
  have hno : ∀ d ∈ l, decide (d ≠ 'e') = true := fun d hd => decide_eq_true (ne_e_of_readPlain h d hd)
  have hall : (Nat.toDigits 10 e).all Char.isDigit = true :=
    List.all_eq_true.2 (Decimal.isDigit_toDigits e)
  unfold readUnsigned
  rw [takeWhile_append_e hno, dropWhile_append_e hno, h]
  show (if _ then _ else _) = _
  rw [if_pos ⟨hall, Nat.toDigits_ne_nil⟩, Nat.ofDigitChars_ten_toDigits]

theorem read_signed {l : List Char} (hl : ∀ c ∈ l.head?, c ≠ '-') (negative : Bool) :
    read (signed negative l) = (readUnsigned l).map fun x => if negative then -x else x := by
  cases negative with
  | true => rfl
  | false =>
      have hread : read l = readUnsigned l := by
        unfold read
        split
        · exact absurd rfl (hl '-' rfl)
        · rfl
      show read l = Option.map (fun x => x) _
      rw [hread, Option.map_id']

theorem readPlain_pointed {whole fraction : List Char} (hne : whole ≠ [])
    (hw : ∀ c ∈ whole, c.isDigit = true) (hf : ∀ c ∈ fraction, c.isDigit = true) :
    readPlain (whole ++ pointed fraction) =
      some (Nat.ofDigitChars 10 (whole ++ fraction) 0, fraction.length) := by
  by_cases hfraction : fraction = []
  · rw [hfraction, pointed, if_pos rfl, List.append_nil]
    exact Decimal.readPlain_whole hne hw
  · rw [pointed, if_neg hfraction]
    exact Decimal.readPlain_point hne hw hf

/-- Amounts that are written in full. -/
theorem readUnsigned_writeUnsigned_of_lt {n : ℕ} (hn : n < 10 ^ 27) :
    readUnsigned (writeUnsigned n) = some ((n : ℚ) / 10 ^ 6) := by
  obtain ⟨k, hk⟩ := exists_stripped_append (padded 6 (n % 10 ^ 6))
  have hlt : n % 10 ^ 6 < 10 ^ 6 := Nat.mod_lt _ (by decide)
  have hlength : (stripped (padded 6 (n % 10 ^ 6))).length + k = 6 := by
    have h := Decimal.length_padded (by decide) hlt
    rw [hk, List.length_append, List.length_replicate] at h
    exact h
  have hdigits : n = Nat.ofDigitChars 10
      (Nat.toDigits 10 (n / 10 ^ 6) ++ stripped (padded 6 (n % 10 ^ 6)) ++ List.replicate k '0') 0 := by
    rw [List.append_assoc, ← hk]
    exact (Decimal.ofDigitChars_whole_append_padded (by decide) n).symm
  have hfraction : ∀ c ∈ stripped (padded 6 (n % 10 ^ 6)), c.isDigit = true := fun c hc =>
    Decimal.isDigit_padded _ _ c (mem_of_mem_stripped hc)
  have hread := readPlain_pointed Nat.toDigits_ne_nil (Decimal.isDigit_toDigits (n / 10 ^ 6)) hfraction
  rw [writeUnsigned, if_pos hn, readUnsigned_of_readPlain hread, div_of_replicate_zero hdigits, hlength]

/-- Amounts in exponential notation. -/
theorem exists_writeUnsigned_of_le {n : ℕ} (hn : 10 ^ 27 ≤ n) : ∃ digit digits k,
    stripped (Nat.toDigits 10 n) = digit :: digits ∧ (∀ c ∈ digit :: digits, c.isDigit = true) ∧
      Nat.toDigits 10 n = digit :: digits ++ List.replicate k '0' ∧ 27 ≤ digits.length + k ∧
      writeUnsigned n =
        digit :: (pointed digits ++ 'e' :: '+' :: Nat.toDigits 10 (digits.length + k - 6)) := by
  obtain ⟨k, hk⟩ := exists_stripped_append (Nat.toDigits 10 n)
  have hlong : 27 < (Nat.toDigits 10 n).length := by
    refine Nat.lt_of_not_le fun hle => ?_
    exact Nat.not_lt.2 hn ((Nat.length_toDigits_le_iff (by decide) (by decide)).1 hle)
  have hdigit : ∀ c ∈ stripped (Nat.toDigits 10 n), c.isDigit = true := fun c hc =>
    Decimal.isDigit_toDigits n c (mem_of_mem_stripped hc)
  cases hs : stripped (Nat.toDigits 10 n) with
  | nil =>
      have hzero : n = 0 := by
        rw [← Nat.ofDigitChars_ten_toDigits (n := n), hk, hs, List.nil_append,
          Nat.ofDigitChars_replicate_zero, Nat.mul_zero]
      omega
  | cons digit digits =>
      rw [hs] at hk hdigit
      have hlength : (Nat.toDigits 10 n).length = digits.length + 1 + k := by
        rw [hk, List.length_append, List.length_cons, List.length_replicate]
      refine ⟨digit, digits, k, rfl, hdigit, hk, by omega, ?_⟩
      rw [writeUnsigned, if_neg (Nat.not_lt.2 hn), hs]
      show digit :: (pointed digits ++ 'e' :: '+' :: Nat.toDigits 10 ((Nat.toDigits 10 n).length - 7)) = _
      rw [hlength, show digits.length + 1 + k - 7 = digits.length + k - 6 by omega]

theorem readUnsigned_writeUnsigned_of_le {n : ℕ} (hn : 10 ^ 27 ≤ n) :
    readUnsigned (writeUnsigned n) = some ((n : ℚ) / 10 ^ 6) := by
  obtain ⟨digit, digits, k, -, hdigits, hk, hlength, hwrite⟩ := exists_writeUnsigned_of_le hn
  obtain ⟨hdigit, hrest⟩ := List.forall_mem_cons.1 hdigits
  have hread := readPlain_pointed (List.cons_ne_nil digit []) (by simpa using hdigit) hrest
  have hdigits : n = Nat.ofDigitChars 10 ([digit] ++ digits ++ List.replicate k '0') 0 := by
    rw [List.singleton_append, ← hk, Nat.ofDigitChars_ten_toDigits]
  have hsplit : digits.length + k = digits.length + k - 6 + 6 := by omega
  rw [hwrite, ← List.singleton_append, ← List.append_assoc, readUnsigned_exponential hread,
    div_of_replicate_zero hdigits]
  generalize digits.length + k - 6 = e at hsplit
  rw [hsplit, pow_add]
  field_simp

theorem readUnsigned_writeUnsigned (n : ℕ) :
    readUnsigned (writeUnsigned n) = some ((n : ℚ) / 10 ^ 6) := by
  rcases Nat.lt_or_ge n (10 ^ 27) with hn | hn
  · exact readUnsigned_writeUnsigned_of_lt hn
  · exact readUnsigned_writeUnsigned_of_le hn

/-! ## The laws -/

theorem isDigit_head_writeUnsigned (n : ℕ) :
    ∃ digit rest, writeUnsigned n = digit :: rest ∧ digit.isDigit = true := by
  rcases Nat.lt_or_ge n (10 ^ 27) with hn | hn
  · have hdigits := Decimal.isDigit_toDigits (n / 10 ^ 6)
    obtain ⟨digit, digits, hcons⟩ := List.exists_cons_of_ne_nil (Nat.toDigits_ne_nil (n := n / 10 ^ 6) (b := 10))
    rw [writeUnsigned, if_pos hn, hcons]
    rw [hcons] at hdigits
    exact ⟨digit, _, rfl, hdigits digit List.mem_cons_self⟩
  · obtain ⟨digit, digits, k, -, hdigits, -, -, hwrite⟩ := exists_writeUnsigned_of_le hn
    exact ⟨digit, _, hwrite, hdigits digit List.mem_cons_self⟩

theorem isDigit_or_point_of_mem_pointed {digits : List Char} (h : ∀ c ∈ digits, c.isDigit = true) {c : Char}
    (hc : c ∈ pointed digits) : c.isDigit = true ∨ c = '.' := by
  unfold pointed at hc
  split at hc
  · exact absurd hc List.not_mem_nil
  · rcases List.mem_cons.1 hc with heq | hmem
    · exact .inr heq
    · exact .inl (h c hmem)

/-- The characters of an amount. -/
theorem isDigit_or_of_mem_writeUnsigned {n : ℕ} {c : Char} (hc : c ∈ writeUnsigned n) :
    c.isDigit = true ∨ c ∈ ['.', 'e', '+'] := by
  have hpoint {digits : List Char} (hdigits : ∀ c ∈ digits, c.isDigit = true) (hmem : c ∈ pointed digits) :
      c.isDigit = true ∨ c ∈ ['.', 'e', '+'] := by
    refine (isDigit_or_point_of_mem_pointed hdigits hmem).imp_right fun heq => ?_
    rw [heq]
    exact List.mem_cons_self
  rcases Nat.lt_or_ge n (10 ^ 27) with hn | hn
  · rw [writeUnsigned, if_pos hn] at hc
    rcases List.mem_append.1 hc with hmem | hmem
    · exact .inl (Decimal.isDigit_toDigits _ c hmem)
    · exact hpoint (fun d hd => Decimal.isDigit_padded _ _ d (mem_of_mem_stripped hd)) hmem
  · obtain ⟨digit, digits, k, -, hall, -, -, hwrite⟩ := exists_writeUnsigned_of_le hn
    obtain ⟨hdigit, hrest⟩ := List.forall_mem_cons.1 hall
    rw [hwrite] at hc
    rcases List.mem_cons.1 hc with rfl | hc
    · exact .inl hdigit
    rcases List.mem_append.1 hc with hmem | hmem
    · exact hpoint hrest hmem
    rcases List.mem_cons.1 hmem with rfl | hmem
    · exact .inr (by decide)
    rcases List.mem_cons.1 hmem with rfl | hmem
    · exact .inr (by decide)
    · exact .inl (Decimal.isDigit_toDigits _ c hmem)

theorem comma_not_mem_writeUnsigned (n : ℕ) : ',' ∉ writeUnsigned n := fun hmem =>
  absurd (isDigit_or_of_mem_writeUnsigned hmem) (by decide)

theorem read_write (n : ℤ) : read (write n).toList = some ((n : ℚ) / 10 ^ 6) := by
  obtain ⟨digit, rest, hwrite, hdigit⟩ := isDigit_head_writeUnsigned n.natAbs
  have hhead : ∀ c ∈ (writeUnsigned n.natAbs).head?, c ≠ '-' := by
    rw [hwrite]
    rintro c hc rfl
    rw [Option.some.inj hc] at hdigit
    exact absurd hdigit (by decide)
  have habs : (n.natAbs : ℚ) = |(n : ℚ)| := by rw [Nat.cast_natAbs, Int.cast_abs]
  rw [write, String.toList_ofList, read_signed hhead, readUnsigned_writeUnsigned, habs]
  by_cases hn : n < 0
  · have hneg : (n : ℚ) < 0 := Int.cast_lt_zero.2 hn
    rw [decide_eq_true hn, abs_of_neg hneg, Option.map_some, if_pos rfl, neg_div, neg_neg]
  · have hpos : (0 : ℚ) ≤ n := Int.cast_nonneg (not_lt.1 hn)
    rw [decide_eq_false hn, abs_of_nonneg hpos, Option.map_some, if_neg (by decide)]

/-- Amounts of whole coins have no point. -/
theorem writeUnsigned_mul {n : ℕ} (hn : n < 10 ^ 21) : writeUnsigned (n * 10 ^ 6) = Nat.toDigits 10 n := by
  have hlt : n * 10 ^ 6 < 10 ^ 27 := by omega
  rw [writeUnsigned, if_pos hlt, Nat.mul_div_cancel n (by decide), Nat.mul_mod_left]
  exact List.append_nil _

theorem floor_six_decimals (n : ℤ) : ⌊(n : ℚ) / 10 ^ 6 * 10 ^ 6⌋ = n := by
  rw [div_mul_cancel₀ _ (by norm_num)]
  exact Int.floor_intCast n

theorem toString_eq_write {a : Amount} {n : ℤ} (h : BigNumber.value a = some ((n : ℚ) / 10 ^ 6)) :
    BigNumber.toString a = write n := by
  obtain rfl : a = some ((n : ℚ) / 10 ^ 6) := h
  show write ⌊(n : ℚ) / 10 ^ 6 * 10 ^ 6⌋ = write n
  rw [floor_six_decimals]

theorem toString_eq_write_mul {a : Amount} {n : ℤ} (h : BigNumber.value a = some (n : ℚ)) :
    BigNumber.toString a = String.ofList (signed (decide (n < 0)) (writeUnsigned (n.natAbs * 10 ^ 6))) := by
  have hsix : BigNumber.value a = some (((n * 10 ^ 6 : ℤ) : ℚ) / 10 ^ 6) := by
    rw [h, Int.cast_mul, Int.cast_pow, Int.cast_ofNat, mul_div_cancel_right₀ _ (by norm_num)]
  have hsign : n * 10 ^ 6 < 0 ↔ n < 0 := by omega
  rw [toString_eq_write hsix, write, Int.natAbs_mul]
  simp only [hsign]
  rfl

/-- Rounding to whole units leaves whole units alone. -/
theorem floor_add_half (n : ℤ) : ⌊(n : ℚ) + 1 / 2⌋ = n :=
  Int.floor_eq_iff.2 ⟨by linarith, by linarith⟩

instance : LawfulBigNumber Amount where
  value_ofString := by
    intro s c p h
    have hhead : ∀ d ∈ s.toList.head?, d ≠ '-' := by
      rintro d hd rfl
      rcases Decimal.isDigit_or_point_of_readPlain h '-' (List.mem_of_mem_head? hd) with hdigit | hpoint
      · exact absurd hdigit (by decide)
      · exact absurd hpoint (by decide)
    have hread := read_signed hhead false
    rw [readUnsigned_of_readPlain h] at hread
    exact hread
  value_plus := by
    rintro a b x y ⟨⟩ ⟨⟩
    rfl
  value_minus := by
    rintro a b x y ⟨⟩ ⟨⟩
    rfl
  value_times := by
    rintro a b x y ⟨⟩ ⟨⟩
    rfl
  value_dividedBy := by
    rintro a b x y k ⟨⟩ ⟨⟩ - hk
    show some ((⌊x / y * 10 ^ 20 + 1 / 2⌋ : ℚ) / 10 ^ 20) = _
    rw [hk, div_mul_cancel₀ _ (by norm_num), floor_add_half]
  isGreaterThan_iff := by
    rintro a b x y ⟨⟩ ⟨⟩
    simp [BigNumber.isGreaterThan]
  isGreaterThanOrEqualTo_iff := by
    rintro a b x y ⟨⟩ ⟨⟩
    simp [BigNumber.isGreaterThanOrEqualTo]
  isLessThanOrEqualTo_iff := by
    rintro a b x y ⟨⟩ ⟨⟩
    simp [BigNumber.isLessThanOrEqualTo]
  value_ofString_toString := by
    intro a n h
    rw [toString_eq_write h]
    exact read_write n
  toString_ne_empty := by
    intro a n h hempty
    have hread := read_write n
    have hnone : read "".toList = none := rfl
    rw [← toString_eq_write h, hempty, hnone] at hread
    exact absurd hread (by simp)
  comma_not_mem_toString := by
    intro a n h hmem
    rw [toString_eq_write h, write, String.toList_ofList] at hmem
    have hcomma := comma_not_mem_writeUnsigned n.natAbs
    unfold signed at hmem
    split at hmem
    · rcases List.mem_cons.1 hmem with heq | hmem
      · exact absurd heq (by decide)
      · exact hcomma hmem
    · exact hcomma hmem
  toString_of_lt := by
    intro a n h hn
    rw [toString_eq_write_mul h, writeUnsigned_mul hn, JsNumber.toString_int]
  toString_of_ge := by
    intro a n h hn
    obtain ⟨digit, digits, k, -, hall, -, -, hwrite⟩ :=
      exists_writeUnsigned_of_le (show 10 ^ 27 ≤ n.natAbs * 10 ^ 6 by omega)
    refine ⟨digit, _, hall digit List.mem_cons_self, ?_, by rw [toString_eq_write_mul h, hwrite]⟩
    unfold pointed
    split
    · exact JsNumber.isDigit_head?_cons (by decide) _
    · exact JsNumber.isDigit_head?_cons (by decide) _
  toFormat_eq := by
    rintro a n p h format
    obtain rfl : a = some ((n : ℚ) / 10 ^ p) := h
    have hpow : (10 : ℚ) ^ p ≠ 0 := pow_ne_zero p (by norm_num)
    have hpos : (0 : ℚ) ≤ n / 10 ^ p := by positivity
    have hfloor : ⌊(n : ℚ) + 1 / 2⌋ = (n : ℤ) := by simpa using floor_add_half n
    show String.ofList (signed _ (formatted format p ⌊|(n : ℚ) / 10 ^ p| * 10 ^ p + 1 / 2⌋.toNat)) = _
    rw [abs_of_nonneg hpos, div_mul_cancel₀ _ hpow, hfloor, decide_eq_false (not_lt.2 hpos)]
    rfl

end Amount
