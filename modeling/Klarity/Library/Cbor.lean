import Mathlib.Data.Nat.Notation

set_option autoImplicit false

/-! # CBOR data items and byte buffers

The data items that an encoder is given, up to what is used of them here: a map is the list of its
entries in the order in which they are written. `bufferFromHex` is how a string of hexadecimal digits
is read. -/

abbrev Bytes := List UInt8

inductive Cbor
  | unsigned (n : ℕ)
  | bytes (b : Bytes)
  | array (items : List Cbor)
  | map (entries : List (Cbor × Cbor))
  | null
  | undefined

namespace Cbor

/-- The value of the first entry with this number as its key. -/
def lookup (key : ℕ) : Cbor → Option Cbor
  | .map entries =>
      entries.findSome? fun
        | (.unsigned k, value) => if k = key then some value else none
        | _ => none
  | _ => none

def unsigned? : Cbor → Option ℕ
  | .unsigned n => some n
  | _ => none

def array? : Cbor → Option (List Cbor)
  | .array items => some items
  | _ => none

end Cbor

/-! ## Hexadecimal digits -/

/-- The value of a hexadecimal digit. -/
def hexDigit (c : Char) : Option UInt8 :=
  if '0' ≤ c ∧ c ≤ '9' then some (c.toNat - '0'.toNat).toUInt8
  else if 'a' ≤ c ∧ c ≤ 'f' then some (c.toNat - 'a'.toNat + 10).toUInt8
  else if 'A' ≤ c ∧ c ≤ 'F' then some (c.toNat - 'A'.toNat + 10).toUInt8
  else none

/-- Two digits a byte, up to the first pair that is not one of digits. -/
def bytesOfHex : List Char → Bytes
  | a :: b :: rest =>
      match hexDigit a, hexDigit b with
      | some x, some y => (16 * x + y) :: bytesOfHex rest
      | _, _ => []
  | _ => []

/-- `Buffer.from(s, 'hex')` -/
def bufferFromHex (s : String) : Bytes := bytesOfHex s.toList

/-- The digit of a number below 16. -/
def hexChar (n : ℕ) : Char := Char.ofNat (if n < 10 then '0'.toNat + n else 'a'.toNat + n - 10)

/-- `buffer.toString('hex')` -/
def hexOfBytes (b : Bytes) : String :=
  String.ofList (b.flatMap fun x => [hexChar (x.toNat / 16), hexChar (x.toNat % 16)])

theorem hexDigit_hexChar : ∀ n < 16, hexDigit (hexChar n) = some n.toUInt8 := by decide

/-- The digits of a buffer read back. -/
theorem bufferFromHex_hexOfBytes (b : Bytes) : bufferFromHex (hexOfBytes b) = b := by
  unfold bufferFromHex hexOfBytes
  rw [String.toList_ofList]
  induction b with
  | nil => rfl
  | cons x b ih =>
      have hlt : x.toNat < 256 := x.toNat_lt
      have hx : 16 * (x.toNat / 16).toUInt8 + (x.toNat % 16).toUInt8 = x := by
        apply UInt8.toNat_inj.1
        simp only [UInt8.toNat_add, UInt8.toNat_mul, Nat.toUInt8_eq, UInt8.toNat_ofNat',
          show UInt8.toNat 16 = 16 from rfl]
        omega
      simp only [List.flatMap_cons, List.cons_append, List.nil_append, bytesOfHex,
        hexDigit_hexChar _ (show x.toNat / 16 < 16 by omega),
        hexDigit_hexChar _ (show x.toNat % 16 < 16 by omega), hx, ih]

/-! ## Buffers of lower-case digits -/

/-- Only digits, and lower-case letters from `a` to `f`. -/
def IsHex (l : List Char) : Prop := ∀ c ∈ l, ('0' ≤ c ∧ c ≤ '9') ∨ ('a' ≤ c ∧ c ≤ 'f')

instance (l : List Char) : Decidable (IsHex l) := inferInstanceAs (Decidable (∀ c ∈ l, _))

theorem exists_hexDigit {c : Char} (h : ('0' ≤ c ∧ c ≤ '9') ∨ ('a' ≤ c ∧ c ≤ 'f')) :
    ∃ n < 16, hexDigit c = some n.toUInt8 ∧ hexChar n = c := by
  have hdigits : ∀ n < 128, ('0' ≤ Char.ofNat n ∧ Char.ofNat n ≤ '9') ∨
      ('a' ≤ Char.ofNat n ∧ Char.ofNat n ≤ 'f') →
      ∃ m < 16, hexDigit (Char.ofNat n) = some m.toUInt8 ∧ hexChar m = Char.ofNat n := by decide
  have hlt : c.toNat < 128 := by
    rcases h with ⟨-, hle⟩ | ⟨-, hle⟩
    · exact Nat.lt_of_le_of_lt (Char.le_def.1 hle) (by decide)
    · exact Nat.lt_of_le_of_lt (Char.le_def.1 hle) (by decide)
  have hc := hdigits c.toNat hlt
  rw [Char.ofNat_toNat] at hc
  exact hc h

/-- Pairs of digits are what their bytes are written as. -/
theorem flatMap_bytesOfHex {l : List Char} (hl : IsHex l) (heven : l.length % 2 = 0) :
    (bytesOfHex l).flatMap (fun x => [hexChar (x.toNat / 16), hexChar (x.toNat % 16)]) = l := by
  induction l using bytesOfHex.induct with
  | case1 a b rest x y hy hx ih =>
      obtain ⟨ha, hb, hrest⟩ : _ ∧ _ ∧ IsHex rest := by simpa [IsHex] using hl
      obtain ⟨m, hm, hdigit, hchar⟩ := exists_hexDigit ha
      obtain ⟨n, hn, hdigit', hchar'⟩ := exists_hexDigit hb
      obtain rfl : x = m.toUInt8 := Option.some.inj (hx.symm.trans hdigit)
      obtain rfl : y = n.toUInt8 := Option.some.inj (hy.symm.trans hdigit')
      have hbyte : (16 * m.toUInt8 + n.toUInt8).toNat = 16 * m + n := by
        simp only [UInt8.toNat_add, UInt8.toNat_mul, Nat.toUInt8_eq, UInt8.toNat_ofNat',
          show UInt8.toNat 16 = 16 from rfl]
        omega
      have hlength : rest.length % 2 = 0 := by
        rw [List.length_cons, List.length_cons] at heven
        omega
      rw [bytesOfHex, hx, hy]
      show hexChar _ :: hexChar _ :: List.flatMap _ (bytesOfHex rest) = _
      rw [ih hrest hlength, hbyte, show (16 * m + n) / 16 = m by omega,
        show (16 * m + n) % 16 = n by omega, hchar, hchar']
  | case2 a b rest hnone =>
      obtain ⟨ha, hb, -⟩ : _ ∧ _ ∧ IsHex rest := by simpa [IsHex] using hl
      obtain ⟨m, -, hdigit, -⟩ := exists_hexDigit ha
      obtain ⟨n, -, hdigit', -⟩ := exists_hexDigit hb
      exact absurd hdigit' (hnone _ _ hdigit)
  | case3 l hshort =>
      cases l with
      | nil => rfl
      | cons a l =>
          cases l with
          | nil => exact absurd heven (by simp)
          | cons b l => exact absurd rfl (hshort a b l)

theorem hexOfBytes_bufferFromHex {s : String} (hs : IsHex s.toList) (heven : s.length % 2 = 0) :
    hexOfBytes (bufferFromHex s) = s := by
  unfold hexOfBytes bufferFromHex
  rw [flatMap_bytesOfHex hs heven, String.ofList_toList]

/-- A text of pairs of digits, as `toString('hex')` gives. -/
structure HexText where
  text : String
  isHex : IsHex text.toList
  even : text.length % 2 = 0

theorem HexText.ext {a b : HexText} (h : a.text = b.text) : a = b := by
  cases a
  cases b
  cases h
  rfl

def HexText.toBytes (hex : HexText) : Bytes := bufferFromHex hex.text

theorem isHex_hexOfBytes (b : Bytes) : IsHex (hexOfBytes b).toList := by
  have hdigit : ∀ n < 16, ('0' ≤ hexChar n ∧ hexChar n ≤ '9') ∨ ('a' ≤ hexChar n ∧ hexChar n ≤ 'f') := by
    decide
  intro c hc
  rw [hexOfBytes, String.toList_ofList] at hc
  obtain ⟨x, -, hx⟩ := List.mem_flatMap.1 hc
  have hlt : x.toNat < 256 := x.toNat_lt
  rcases List.mem_cons.1 hx with rfl | hx
  · exact hdigit _ (by omega)
  · obtain rfl := List.mem_singleton.1 hx
    exact hdigit _ (by omega)

theorem length_hexOfBytes (b : Bytes) : (hexOfBytes b).length = 2 * b.length := by
  rw [hexOfBytes, String.length_ofList]
  induction b with
  | nil => rfl
  | cons x b ih =>
      rw [List.flatMap_cons, List.length_append, ih, List.length_cons, List.length_cons, List.length_cons]
      simp only [List.length_nil]
      omega

def HexText.ofBytes (b : Bytes) : HexText :=
  ⟨hexOfBytes b, isHex_hexOfBytes b, by rw [length_hexOfBytes]; omega⟩

theorem HexText.ofBytes_toBytes (hex : HexText) : ofBytes hex.toBytes = hex :=
  HexText.ext (hexOfBytes_bufferFromHex hex.isHex hex.even)
