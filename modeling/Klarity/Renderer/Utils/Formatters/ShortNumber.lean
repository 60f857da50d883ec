import Klarity.Library.BigNumber.Rounding
import Klarity.Renderer.Utils.Formatters

set_option autoImplicit false

/-! # Shortened numbers

Six decimals of a number below a thousand are kept, and one decimal of a larger one in thousands, millions and so on.
The rest is cut off, but the quotient has been rounded by then. -/

open Amount (writeUnsigned readUnsigned)

namespace Klarity

section

open BigNumber BigNumberCompare BigNumberRounding

variable {N : Type} [BigNumber N] [BigNumberCompare N] [BigNumberRounding N]

/-- A number that is not a `BigNumber` is made one first. -/
def shortNumber (amount : N) : String :=
  if isZero amount then "0"
  else if isLessThan amount (BigNumber.ofNat 1000) then
    BigNumber.toString (decimalPlaces amount decimalPlacesInBcc)
  else if isLessThan amount (BigNumber.ofNat 1000000) then
    BigNumber.toString (decimalPlaces (dividedBy amount (BigNumber.ofNat 1000)) 1) ++ "K"
  else if isLessThan amount (BigNumber.ofNat 1000000000) then
    BigNumber.toString (decimalPlaces (dividedBy amount (BigNumber.ofNat 1000000)) 1) ++ "M"
  else if isLessThan amount (BigNumber.ofNat 1000000000000) then
    BigNumber.toString (decimalPlaces (dividedBy amount (BigNumber.ofNat 1000000000)) 1) ++ "B"
  else if isLessThan amount (BigNumber.ofNat 1000000000000000) then
    BigNumber.toString (decimalPlaces (dividedBy amount (BigNumber.ofNat 1000000000000)) 1) ++ "T"
  else
    BigNumber.toString (decimalPlaces (dividedBy amount (BigNumber.ofNat 1000000000000000)) 1) ++ "Q"

end

namespace ShortNumber

/-! ## What is denoted -/

def isUnit (c : Char) : Bool := decide (c ∈ ['K', 'M', 'B', 'T', 'Q'])

/-- The power of a thousand that a unit stands for. -/
def readUnit : List Char → Option ℕ
  | [] => some 0
  | ['K'] => some 1
  | ['M'] => some 2
  | ['B'] => some 3
  | ['T'] => some 4
  | ['Q'] => some 5
  | _ => none

/-- What is read of the numeral, times the unit. -/
def inUnits (read : List Char → Option ℚ) (text : String) : Option ℚ :=
  Option.map₂ (fun x power => x * 1000 ^ power) (read (text.toList.takeWhile fun c => !isUnit c))
    (readUnit (text.toList.dropWhile fun c => !isUnit c))

def denoted (text : String) : Option ℚ := inUnits readUnsigned text

def lastDigit (text : String) : Option ℚ := inUnits Amount.lastDigit text

/-- The number denoted is at most the value, by less than one unit of the last digit. -/
def Truncates (v : ℚ) (text : String) : Prop :=
  ∃ x u : ℚ, denoted text = some x ∧ lastDigit text = some u ∧ x ≤ v ∧ v - x < u

/-! ## Bands -/

/-- The power of a thousand by which a number is divided. -/
def bandOf (v : ℚ) : ℕ :=
  if v < 1000 then 0
  else if v < 1000000 then 1
  else if v < 1000000000 then 2
  else if v < 1000000000000 then 3
  else if v < 1000000000000000 then 4
  else 5

def suffix : ℕ → String
  | 0 => ""
  | 1 => "K"
  | 2 => "M"
  | 3 => "B"
  | 4 => "T"
  | _ => "Q"

/-- The tenths of the unit, after the quotient has been rounded to 20 decimals. -/
def tenths (v : ℚ) : ℕ := ⌊10 * (v / 1000 ^ bandOf v) + 5 / 10 ^ 20⌋₊

/-- The millionths of the unit that are written. -/
def shortened (v : ℚ) : ℕ := if v < 1000 then ⌊v * 10 ^ 6⌋₊ else 10 ^ 5 * tenths v

def shown (v : ℚ) : ℚ := shortened v / 10 ^ 6 * 1000 ^ bandOf v

theorem bandOf_le (v : ℚ) : bandOf v ≤ 5 := by
  unfold bandOf
  split_ifs <;> decide

theorem bandOf_eq_zero_iff {v : ℚ} : bandOf v = 0 ↔ v < 1000 := by
  unfold bandOf
  split_ifs <;> simp_all

theorem le_of_bandOf_pos {v : ℚ} (h : 0 < bandOf v) : 1000 ≤ v :=
  not_lt.1 fun hlow => h.ne' (bandOf_eq_zero_iff.2 hlow)

theorem pow_bandOf_le {v : ℚ} (hv : 1000 ≤ v) : 1000 ^ bandOf v ≤ v := by
  unfold bandOf
  split_ifs <;> norm_num <;> linarith

theorem lt_pow_bandOf {v : ℚ} (h : bandOf v < 5) : v < 1000 ^ (bandOf v + 1) := by
  revert h
  unfold bandOf
  split_ifs <;> norm_num <;> linarith

theorem bandOf_mono {v w : ℚ} (h : v ≤ w) : bandOf v ≤ bandOf w := by
  by_contra hlt
  have hband := bandOf_le v
  have hw := lt_pow_bandOf (show bandOf w < 5 by omega)
  have hv : 1000 ≤ v := le_of_bandOf_pos (by omega)
  have hpow : (1000 : ℚ) ^ (bandOf w + 1) ≤ 1000 ^ bandOf v := pow_le_pow_right₀ (by norm_num) (by omega)
  linarith [pow_bandOf_le hv]

/-! ## What is written -/

theorem isUnit_of_mem_writeUnsigned {n : ℕ} : ∀ c ∈ writeUnsigned n, (!isUnit c) = true := by
  intro c hc
  rcases Amount.isDigit_or_of_mem_writeUnsigned hc with hdigit | hmem
  · rw [Bool.not_eq_true']
    refine decide_eq_false fun hunit => ?_
    have hall : (['K', 'M', 'B', 'T', 'Q'].all fun c => !c.isDigit) = true := by decide
    have hnot := List.all_eq_true.1 hall c hunit
    rw [hdigit] at hnot
    exact Bool.noConfusion hnot
  · have hall : (['.', 'e', '+'].all fun c => !isUnit c) = true := by decide
    exact List.all_eq_true.1 hall c hmem

/-- A unit behind an amount. -/
theorem inUnits_append_suffix {read : List Char → Option ℚ} {n k : ℕ} {x : ℚ} (hread : read (writeUnsigned n) = some x)
    (hk : k ≤ 5) : inUnits read (String.ofList (writeUnsigned n) ++ suffix k) = some (x * 1000 ^ k) := by
  have hsuffix : (suffix k).toList.takeWhile (fun c => !isUnit c) = [] ∧
      readUnit ((suffix k).toList.dropWhile fun c => !isUnit c) = some k := by
    revert k
    decide
  unfold inUnits
  rw [String.toList_append, String.toList_ofList, List.takeWhile_append_of_pos isUnit_of_mem_writeUnsigned,
    List.dropWhile_append_of_pos isUnit_of_mem_writeUnsigned, hsuffix.1, hsuffix.2, List.append_nil, hread]
  rfl

/-! ## What is shown of a value -/

theorem shown_of_lt {v : ℚ} (h : v < 1000) : shown v = ⌊v * 10 ^ 6⌋₊ / 10 ^ 6 := by
  unfold shown shortened
  rw [if_pos h, bandOf_eq_zero_iff.2 h, pow_zero, mul_one]

theorem shown_of_le {v : ℚ} (h : 1000 ≤ v) : shown v = tenths v / 10 * 1000 ^ bandOf v := by
  unfold shown shortened
  rw [if_neg (not_lt.2 h)]
  push_cast
  ring

theorem pow_bandOf_pos (v : ℚ) : (0 : ℚ) < 1000 ^ bandOf v := by positivity

theorem quotient_nonneg {v : ℚ} (hv : 0 ≤ v) : 0 ≤ 10 * (v / 1000 ^ bandOf v) + 5 / 10 ^ 20 := by positivity

/-- Something of each band is shown, and no more than the whole band. -/
theorem pow_bandOf_le_shown {v : ℚ} (h : 1000 ≤ v) : 1000 ^ bandOf v ≤ shown v := by
  have hone : 1 ≤ v / 1000 ^ bandOf v := (one_le_div (pow_bandOf_pos v)).2 (pow_bandOf_le h)
  have hten : 10 ≤ tenths v := by
    refine Nat.le_floor ?_
    push_cast
    linarith
  have hcast : (10 : ℚ) ≤ tenths v := by exact_mod_cast hten
  rw [shown_of_le h]
  exact le_mul_of_one_le_left (pow_bandOf_pos v).le (by linarith)

theorem shown_le_pow_bandOf {v : ℚ} (hv : 0 ≤ v) (h : bandOf v < 5) : shown v ≤ 1000 ^ (bandOf v + 1) := by
  have hlt := lt_pow_bandOf h
  rcases lt_or_ge v 1000 with hlow | hhigh
  · have hfloor : (⌊v * 10 ^ 6⌋₊ : ℚ) ≤ v * 10 ^ 6 := Nat.floor_le (by positivity)
    rw [shown_of_lt hlow]
    exact ((div_le_iff₀ (by norm_num)).2 hfloor).trans hlt.le
  · have hband : v / 1000 ^ bandOf v < 1000 := by
      rwa [div_lt_iff₀ (pow_bandOf_pos v), ← pow_succ']
    have htenths : tenths v < 10001 := by
      refine (Nat.floor_lt (quotient_nonneg hv)).2 ?_
      push_cast
      linarith
    have hcast : (tenths v : ℚ) ≤ 10000 := by exact_mod_cast Nat.lt_succ_iff.1 htenths
    rw [shown_of_le hhigh, pow_succ']
    exact mul_le_mul_of_nonneg_right (by linarith) (pow_bandOf_pos v).le

theorem shown_mono {v w : ℚ} (hv : 0 ≤ v) (h : v ≤ w) : shown v ≤ shown w := by
  rcases Nat.eq_or_lt_of_le (bandOf_mono h) with heq | hlt
  · rcases lt_or_ge v 1000 with hlow | hhigh
    · have hw : w < 1000 := bandOf_eq_zero_iff.1 (heq ▸ bandOf_eq_zero_iff.2 hlow)
      rw [shown_of_lt hlow, shown_of_lt hw]
      gcongr
    · have htenths : tenths v ≤ tenths w := by
        unfold tenths
        rw [← heq]
        gcongr
      rw [shown_of_le hhigh, shown_of_le (hhigh.trans h), ← heq]
      gcongr
  · have hband := bandOf_le w
    have hw : 1000 ≤ w := le_of_bandOf_pos (by omega)
    calc shown v ≤ 1000 ^ (bandOf v + 1) := shown_le_pow_bandOf hv (by omega)
      _ ≤ 1000 ^ bandOf w := pow_le_pow_right₀ (by norm_num) hlt
      _ ≤ shown w := pow_bandOf_le_shown hw

theorem floor_add_le_iff {y e : ℚ} (h : 0 ≤ y + e) : (⌊y + e⌋₊ : ℚ) ≤ y ↔ Int.fract y < 1 - e := by
  rw [natCast_floor_eq_intCast_floor h, ← Int.le_floor, Int.floor_le_iff, Int.fract]
  constructor
  · intro hlt
    linarith
  · intro hlt
    linarith

/-- The tenths are too many where the rest is rounded up to a whole tenth. -/
theorem shown_le_iff {v : ℚ} (hv : 0 ≤ v) :
    shown v ≤ v ↔ v < 1000 ∨ Int.fract (10 * (v / 1000 ^ bandOf v)) < 1 - 5 / 10 ^ 20 := by
  rcases lt_or_ge v 1000 with hlow | hhigh
  · refine iff_of_true ?_ (.inl hlow)
    rw [shown_of_lt hlow, div_le_iff₀ (by norm_num)]
    exact Nat.floor_le (by positivity)
  · have hscaled : (tenths v : ℚ) / 10 ≤ v / 1000 ^ bandOf v ↔ (tenths v : ℚ) ≤ 10 * (v / 1000 ^ bandOf v) := by
      rw [div_le_iff₀ (by norm_num), mul_comm]
    rw [shown_of_le hhigh, ← le_div_iff₀ (pow_bandOf_pos v), hscaled, or_iff_right (not_lt.2 hhigh)]
    exact floor_add_le_iff (quotient_nonneg hv)

/-- What is cut off is less than a millionth, or less than a tenth of the unit. -/
theorem sub_shown_lt {v : ℚ} : v - shown v < if v < 1000 then 1 / 10 ^ 6 else 1 / 10 * 1000 ^ bandOf v := by
  rcases lt_or_ge v 1000 with hlow | hhigh
  · have hfloor := Nat.lt_floor_add_one (v * 10 ^ 6)
    rw [shown_of_lt hlow, if_pos hlow, sub_lt_iff_lt_add, ← add_div, lt_div_iff₀ (by norm_num)]
    linarith
  · have hfloor : 10 * (v / 1000 ^ bandOf v) + 5 / 10 ^ 20 < tenths v + 1 := Nat.lt_floor_add_one _
    rw [shown_of_le hhigh, if_neg (not_lt.2 hhigh), sub_lt_iff_lt_add, ← add_mul, ← div_lt_iff₀ (pow_bandOf_pos v)]
    linarith

section

open BigNumber BigNumberCompare BigNumberRounding

variable {N : Type} [BigNumber N] [LawfulBigNumber N] [BigNumberRounding N] [LawfulBigNumberRounding N]
  {amount : N} {v : ℚ}

/-- A quotient with one decimal. -/
theorem toString_quotient (h : value amount = some v) (hv : 0 ≤ v) {unit : ℕ} (hunit : 0 < unit) :
    BigNumber.toString (decimalPlaces (dividedBy amount (BigNumber.ofNat unit)) 1) =
      String.ofList (writeUnsigned (10 ^ 5 * ⌊10 * (v / unit) + 5 / 10 ^ 20⌋₊)) := by
  have hcast : (0 : ℚ) < unit := Nat.cast_pos.2 hunit
  have hquotient := LawfulBigNumberRounding.value_dividedBy h (value_ofNat unit) hv hcast
  have hnonneg : (0 : ℚ) ≤ (⌊v / unit * 10 ^ 20 + 1 / 2⌋ : ℚ) / 10 ^ 20 := by
    have hfloor : 0 ≤ ⌊v / unit * 10 ^ 20 + 1 / 2⌋ := Int.floor_nonneg.2 (by positivity)
    have hcast : (0 : ℚ) ≤ (⌊v / unit * 10 ^ 20 + 1 / 2⌋ : ℚ) := Int.cast_nonneg hfloor
    positivity
  have hvalue := LawfulBigNumberRounding.value_decimalPlaces hquotient hnonneg 1
  rw [Amount.floor_rounded_mul_ten, ← natCast_floor_eq_intCast_floor (by positivity)] at hvalue
  refine LawfulBigNumberRounding.toString_eq_write ?_
  rw [hvalue]
  push_cast
  congr 1
  ring

/-- What is written is the part of the value that is shown, with the unit. -/
theorem shortNumber_eq [BigNumberCompare N] [LawfulBigNumberCompare N] (h : value amount = some v) (hv : 0 ≤ v) :
    shortNumber amount = String.ofList (writeUnsigned (shortened v)) ++ suffix (bandOf v) := by
  have hless (n : ℕ) : isLessThan amount (BigNumber.ofNat n) = true ↔ v < n :=
    LawfulBigNumberCompare.isLessThan_iff h (value_ofNat n)
  have hquotient (k unit : ℕ) (hunit : 1000 ^ k = unit) :
      BigNumber.toString (decimalPlaces (dividedBy amount (BigNumber.ofNat unit)) 1) =
        String.ofList (writeUnsigned (10 ^ 5 * ⌊10 * (v / 1000 ^ k) + 5 / 10 ^ 20⌋₊)) := by
    rw [toString_quotient h hv (hunit ▸ Nat.pow_pos (by decide)), ← hunit, Nat.cast_pow, Nat.cast_ofNat]
  unfold shortNumber shortened tenths bandOf
  simp only [hless, LawfulBigNumberCompare.isZero_iff h, Nat.cast_ofNat]
  by_cases hzero : v = 0
  · have hlow : v < 1000 := by
      rw [hzero]
      norm_num
    simp only [if_pos hlow, if_pos hzero]
    rw [hzero, zero_mul, Nat.floor_zero]
    decide
  · rw [if_neg hzero]
    split_ifs
    · have hvalue := LawfulBigNumberRounding.value_decimalPlaces h hv decimalPlacesInBcc
      rw [← natCast_floor_eq_intCast_floor (by positivity)] at hvalue
      rw [LawfulBigNumberRounding.toString_eq_write hvalue]
      exact (String.append_empty).symm
    · rw [hquotient 1 1000 (by norm_num)]
      rfl
    · rw [hquotient 2 1000000 (by norm_num)]
      rfl
    · rw [hquotient 3 1000000000 (by norm_num)]
      rfl
    · rw [hquotient 4 1000000000000 (by norm_num)]
      rfl
    · rw [hquotient 5 1000000000000000 (by norm_num)]
      rfl

variable [BigNumberCompare N] [LawfulBigNumberCompare N]

theorem denoted_shortNumber (h : value amount = some v) (hv : 0 ≤ v) :
    denoted (shortNumber amount) = some (shown v) := by
  rw [shortNumber_eq h hv]
  exact inUnits_append_suffix (Amount.readUnsigned_writeUnsigned _) (bandOf_le v)

/-- The last digit counts as much as what is cut off, or more. -/
theorem exists_lastDigit_shortNumber (h : value amount = some v) (hv : 0 ≤ v) :
    ∃ u : ℚ, lastDigit (shortNumber amount) = some u ∧ v - shown v < u := by
  have hwritten (u : ℚ) (hread : Amount.lastDigit (writeUnsigned (shortened v)) = some u) :
      lastDigit (shortNumber amount) = some (u * 1000 ^ bandOf v) := by
    rw [shortNumber_eq h hv]
    exact inUnits_append_suffix hread (bandOf_le v)
  have hcut := sub_shown_lt (v := v)
  rcases lt_or_ge v 1000 with hlow | hhigh
  · obtain ⟨u, hread, hu⟩ := Amount.exists_lastDigit_writeUnsigned ⌊v * 10 ^ 6⌋₊ (Nat.zero_le 6)
    rw [pow_zero, Nat.one_mul] at hread
    refine ⟨u * 1000 ^ bandOf v, hwritten u (by rw [shortened, if_pos hlow, hread]), ?_⟩
    rw [if_pos hlow] at hcut
    rw [bandOf_eq_zero_iff.2 hlow]
    linarith
  · obtain ⟨u, hread, hu⟩ := Amount.exists_lastDigit_writeUnsigned (tenths v) (by decide : 5 ≤ 6)
    refine ⟨u * 1000 ^ bandOf v, hwritten u (by rw [shortened, if_neg (not_lt.2 hhigh), hread]), ?_⟩
    rw [if_neg (not_lt.2 hhigh)] at hcut
    exact hcut.trans_le (mul_le_mul_of_nonneg_right (by linarith) (pow_bandOf_pos v).le)

theorem truncates_iff (h : value amount = some v) (hv : 0 ≤ v) :
    Truncates v (shortNumber amount) ↔ shown v ≤ v := by
  constructor
  · rintro ⟨x, u, hx, -, hle, -⟩
    rw [denoted_shortNumber h hv] at hx
    rwa [Option.some.inj hx]
  · intro hle
    obtain ⟨u, hu, hlt⟩ := exists_lastDigit_shortNumber h hv
    exact ⟨shown v, u, denoted_shortNumber h hv, hu, hle, hlt⟩

/-- No larger value denotes less. -/
def IsMonotoneFrom (amount : N) (v : ℚ) : Prop :=
  ∀ (other : N) (w : ℚ), value other = some w → v ≤ w →
    ∃ x y : ℚ, denoted (shortNumber amount) = some x ∧ denoted (shortNumber other) = some y ∧ x ≤ y

theorem isMonotoneFrom (h : value amount = some v) (hv : 0 ≤ v) : IsMonotoneFrom amount v := by
  intro other w hw hle
  exact ⟨shown v, shown w, denoted_shortNumber h hv, denoted_shortNumber hw (hv.trans hle), shown_mono hv hle⟩

/-- A value is truncated unless the tenths of its unit are rounded up. -/
theorem shortNumber_truncates_iff (h : value amount = some v) (hv : 0 ≤ v) :
    (Truncates v (shortNumber amount) ∧ IsMonotoneFrom amount v) ↔
      v < 1000 ∨ Int.fract (10 * (v / 1000 ^ bandOf v)) < 1 - 5 / 10 ^ 20 := by
  rw [and_iff_left (isMonotoneFrom h hv), truncates_iff h hv]
  exact shown_le_iff hv

end

def amountOf (v : ℚ) : Amount := some v

theorem shortNumber_truncates_millions :
    (Truncates 12345678 (shortNumber (amountOf 12345678)) ∧ IsMonotoneFrom (amountOf 12345678) 12345678) ↔
      (12345678 : ℚ) < 1000 ∨ Int.fract (10 * ((12345678 : ℚ) / 1000 ^ bandOf 12345678)) < 1 - 5 / 10 ^ 20 :=
  shortNumber_truncates_iff rfl (by norm_num)

/-- Just below two thousand, with 18 decimals. -/
def belowTwoThousand : ℚ := 1999999999999999999999 / 10 ^ 18

theorem bandOf_belowTwoThousand : bandOf belowTwoThousand = 1 := by
  norm_num [bandOf, belowTwoThousand]

theorem tenths_belowTwoThousand : tenths belowTwoThousand = 20 := by
  unfold tenths
  rw [bandOf_belowTwoThousand, Nat.floor_eq_iff (by norm_num [belowTwoThousand])]
  norm_num [belowTwoThousand]

/-- What is shown is larger. -/
theorem not_truncates_belowTwoThousand :
    shortNumber (amountOf belowTwoThousand) = "2K" ∧
      ¬ Truncates belowTwoThousand (shortNumber (amountOf belowTwoThousand)) := by
  have hnonneg : 0 ≤ belowTwoThousand := by norm_num [belowTwoThousand]
  have hhigh : 1000 ≤ belowTwoThousand := by norm_num [belowTwoThousand]
  constructor
  · rw [shortNumber_eq rfl hnonneg, shortened, if_neg (not_lt.2 hhigh), bandOf_belowTwoThousand,
      tenths_belowTwoThousand]
    decide
  · rw [truncates_iff rfl hnonneg, shown_of_le hhigh, bandOf_belowTwoThousand, tenths_belowTwoThousand]
    norm_num [belowTwoThousand]

end ShortNumber

end Klarity
