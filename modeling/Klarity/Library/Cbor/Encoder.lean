import Klarity.Library.Cbor.Format
import Mathlib.Data.Nat.Log

set_option autoImplicit false

/-! # An encoder of CBOR data items

Heads are as short as possible. Only what is too long for a head is written with an indefinite length. -/

namespace Cbor

def head (major n : ℕ) : Bytes :=
  if n < 24 then [(32 * major + n).toUInt8]
  else if n < 256 ^ 1 then (32 * major + 24).toUInt8 :: toBytes 1 n
  else if n < 256 ^ 2 then (32 * major + 25).toUInt8 :: toBytes 2 n
  else if n < 256 ^ 4 then (32 * major + 26).toUInt8 :: toBytes 4 n
  else (32 * major + 27).toUInt8 :: toBytes 8 n

def encodeBytes (b : Bytes) : Bytes :=
  if b.length < 2 ^ 64 then head 2 b.length ++ b
  else 0x5F :: (b.map fun x => [0x41, x]).flatten ++ [0xFF]

def encodeNumber (n : ℕ) : Bytes :=
  if n < 2 ^ 64 then head 0 n
  else head 6 2 ++ encodeBytes (toBytes (Nat.log 256 n + 1) n)

def encodeArray (elements : List Bytes) : Bytes :=
  if elements.length < 2 ^ 64 then head 4 elements.length ++ elements.flatten
  else 0x9F :: elements.flatten ++ [0xFF]

mutual

def encodeItem : Item → Bytes
  | .number n => encodeNumber n
  | .bytes b => encodeBytes b
  | .array elements => encodeArray (encodeItems elements)
  | .tagged tag item => head 6 tag ++ encodeItem item
  | .emptyMap => [0xA0]

def encodeItems : List Item → List Bytes
  | [] => []
  | item :: items => encodeItem item :: encodeItems items

end

/-! ## What the encoder writes is read -/

theorem isHead_short {major n : ℕ} (hmajor : major < 8) (hn : n < 24) :
    IsHead major n [(32 * major + n).toUInt8] := by
  intro rest
  have hbyte : ((32 * major + n).toUInt8).toNat = 32 * major + n := by
    rw [Nat.toUInt8_eq, UInt8.toNat_ofNat']
    exact Nat.mod_eq_of_lt (by omega)
  have hmod : (32 * major + n) % 32 = n := by omega
  have hdiv : (32 * major + n) / 32 = major := by omega
  rw [List.singleton_append, readHead]
  simp only [hbyte, hmod, hdiv, hn, if_true]

theorem isHead_wide {major k n : ℕ} (hmajor : major < 8) (hk : k < 4) (hn : n < 256 ^ 2 ^ k) :
    IsHead major n ((32 * major + (24 + k)).toUInt8 :: toBytes (2 ^ k) n) := by
  intro rest
  have hbyte : ((32 * major + (24 + k)).toUInt8).toNat = 32 * major + (24 + k) := by
    rw [Nat.toUInt8_eq, UInt8.toNat_ofNat']
    exact Nat.mod_eq_of_lt (by omega)
  have hmod : (32 * major + (24 + k)) % 32 = 24 + k := by omega
  have hdiv : (32 * major + (24 + k)) / 32 = major := by omega
  have hnot : ¬ 24 + k < 24 := by omega
  have hlt : 24 + k < 28 := by omega
  have hlength : 2 ^ k ≤ (toBytes (2 ^ k) n ++ rest).length := by simp
  have htake : (toBytes (2 ^ k) n ++ rest).take (2 ^ k) = toBytes (2 ^ k) n :=
    List.take_left' (length_toBytes _ _)
  have hdrop : (toBytes (2 ^ k) n ++ rest).drop (2 ^ k) = rest := List.drop_left' (length_toBytes _ _)
  rw [List.cons_append, readHead]
  simp only [hbyte, hmod, hdiv, hnot, hlt, if_true, if_false, Nat.add_sub_cancel_left, hlength, htake, hdrop,
    ofBytes_toBytes hn]

theorem isHead_head {major n : ℕ} (hmajor : major < 8) (hn : n < 2 ^ 64) : IsHead major n (head major n) := by
  unfold head
  split
  · next hshort => exact isHead_short hmajor hshort
  · split
    · next h1 => exact isHead_wide (k := 0) hmajor (by decide) h1
    · split
      · next h2 => exact isHead_wide (k := 1) hmajor (by decide) h2
      · split
        · next h4 => exact isHead_wide (k := 2) hmajor (by decide) h4
        · exact isHead_wide (k := 3) hmajor (by decide) (by simpa using hn)

/-- Every byte as a piece of its own. -/
theorem reads_pieces (b : Bytes) :
    List.Forall₂ Reads ((b.map fun x => [x]).map .bytes) (b.map fun x => [0x41, x]) := by
  induction b with
  | nil => exact .nil
  | cons x b ih =>
    have hhead : IsHead 2 [x].length [0x41] := fun _ => rfl
    exact .cons (Reads.bytes hhead) ih

theorem reads_encodeBytes (b : Bytes) : Reads (.bytes b) (encodeBytes b) := by
  unfold encodeBytes
  by_cases hlength : b.length < 2 ^ 64
  · rw [if_pos hlength]
    exact Reads.bytes (isHead_head (by decide) hlength)
  · rw [if_neg hlength]
    have hflatten : (b.map fun x => [x]).flatten = b := by
      rw [← List.flatMap_def]
      exact List.flatMap_singleton' b
    have hread := Reads.bytes_to_break (reads_pieces b)
    rwa [hflatten] at hread

theorem reads_encodeNumber (n : ℕ) : Reads (.number n) (encodeNumber n) := by
  unfold encodeNumber
  by_cases hn : n < 2 ^ 64
  · rw [if_pos hn]
    exact Reads.number (isHead_head (by decide) hn)
  · rw [if_neg hn]
    have hread := Reads.bignum (isHead_head (by decide) (by decide))
      (reads_encodeBytes (toBytes (Nat.log 256 n + 1) n))
    rwa [ofBytes_toBytes (Nat.lt_pow_succ_log_self (by decide) n)] at hread

theorem reads_encodeArray {xs : List Item} {bs : List Bytes} (h : List.Forall₂ Reads xs bs) :
    Reads (.array xs) (encodeArray bs) := by
  unfold encodeArray
  split
  · next hlength =>
    rw [← h.length_eq] at hlength ⊢
    exact Reads.array (isHead_head (by decide) hlength) h
  · exact Reads.array_to_break h

mutual

theorem reads_encodeItem : ∀ item, Reads item (encodeItem item)
  | .number n => by
      rw [encodeItem]
      exact reads_encodeNumber n
  | .bytes b => by
      rw [encodeItem]
      exact reads_encodeBytes b
  | .array elements => by
      rw [encodeItem]
      exact reads_encodeArray (reads_encodeItems elements)
  | .tagged tag item => by
      rw [encodeItem]
      exact Reads.tagged (isHead_head (by decide) tag.2.1) (reads_encodeItem item)
  | .emptyMap => by
      rw [encodeItem]
      exact Reads.emptyMap

theorem reads_encodeItems : ∀ items, List.Forall₂ Reads items (encodeItems items)
  | [] => by
      rw [encodeItems]
      exact .nil
  | item :: items => by
      rw [encodeItems]
      exact .cons (reads_encodeItem item) (reads_encodeItems items)

end

end Cbor
