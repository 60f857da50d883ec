import Klarity.Library.Cbor
import Klarity.Library.Lists
import Mathlib.Data.List.Forall2
import Mathlib.Tactic.Common

set_option autoImplicit false

/-! # The bytes of CBOR data items

A reader of the format, for numbers, byte strings, arrays, tagged items and the empty map. A byte string or
an array has its length in front, or is of indefinite length and ends with a break; a number that is too
large for a head is a byte string with tag 2.

`Reads x b` says that the bytes `b` are read as `x`, whatever follows them. -/

namespace Cbor

/-- Tag 2 makes a number of a byte string. -/
abbrev Tag := {tag : ℕ // tag < 2 ^ 64 ∧ tag ≠ 2}

inductive Item
  | number (n : ℕ)
  | bytes (b : Bytes)
  | array (elements : List Item)
  | tagged (tag : Tag) (item : Item)
  | emptyMap

def Item.bytes? : Item → Option Bytes
  | .bytes b => some b
  | _ => none

/-! ## Numbers by their bytes -/

/-- The most significant byte comes first. -/
def ofBytes (b : Bytes) : ℕ :=
  b.foldl (fun n x => 256 * n + x.toNat) 0

def toBytes : ℕ → ℕ → Bytes
  | 0, _ => []
  | width + 1, n => toBytes width (n / 256) ++ [n.toUInt8]

@[simp] theorem length_toBytes (width n : ℕ) : (toBytes width n).length = width := by
  induction width generalizing n with
  | zero => rfl
  | succ width ih => simp [toBytes, ih]

theorem ofBytes_toBytes {width n : ℕ} (h : n < 256 ^ width) : ofBytes (toBytes width n) = n := by
  induction width generalizing n with
  | zero =>
    have hzero : n = 0 := by simpa using h
    rw [hzero]
    rfl
  | succ width ih =>
    have hlt : n / 256 < 256 ^ width := by
      rw [Nat.div_lt_iff_lt_mul (by decide), ← Nat.pow_succ]
      exact h
    have hlast : (n.toUInt8).toNat = n % 256 := by simp
    rw [toBytes, ofBytes, List.foldl_append]
    show 256 * ofBytes (toBytes width (n / 256)) + (n.toUInt8).toNat = n
    rw [ih hlt, hlast]
    omega

/-! ## The reader -/

/-- The major type of an item, its argument (`none` for an indefinite length), and what follows. -/
def readHead : Bytes → Option (ℕ × Option ℕ × Bytes)
  | [] => none
  | b :: rest =>
      let major := b.toNat / 32
      let info := b.toNat % 32
      if info < 24 then some (major, some info, rest)
      else if info < 28 then
        let width := 2 ^ (info - 24)
        if width ≤ rest.length then some (major, some (ofBytes (rest.take width)), rest.drop width)
        else none
      else if info = 31 then some (major, none, rest)
      else none

def makeTagged (tag : ℕ) (item : Item) : Option Item :=
  if tag = 2 then item.bytes?.map fun b => .number (ofBytes b)
  else if h : tag < 2 ^ 64 ∧ tag ≠ 2 then some (.tagged ⟨tag, h⟩ item)
  else none

mutual

/-- The first item of some bytes; the fuel bounds the depth and the number of items. -/
def read : ℕ → Bytes → Option (Item × Bytes)
  | 0, _ => none
  | fuel + 1, b => do
      match ← readHead b with
      | (0, some n, rest) => some (.number n, rest)
      | (2, some n, rest) =>
          if n ≤ rest.length then some (.bytes (rest.take n), rest.drop n) else none
      | (2, none, rest) => do
          let (pieces, rest) ← readToBreak fuel rest
          let pieces ← pieces.mapM Item.bytes?
          some (.bytes pieces.flatten, rest)
      | (4, some n, rest) => do
          let (elements, rest) ← readMany fuel n rest
          some (.array elements, rest)
      | (4, none, rest) => do
          let (elements, rest) ← readToBreak fuel rest
          some (.array elements, rest)
      | (5, some 0, rest) => some (.emptyMap, rest)
      | (6, some tag, rest) => do
          let (item, rest) ← read fuel rest
          let tagged ← makeTagged tag item
          some (tagged, rest)
      | _ => none

def readMany : ℕ → ℕ → Bytes → Option (List Item × Bytes)
  | _, 0, b => some ([], b)
  | 0, _ + 1, _ => none
  | fuel + 1, n + 1, b => do
      let (element, rest) ← read fuel b
      let (elements, rest) ← readMany fuel n rest
      some (element :: elements, rest)

def readToBreak : ℕ → Bytes → Option (List Item × Bytes)
  | 0, _ => none
  | fuel + 1, b =>
      if b.head? = some 0xFF then some ([], b.tail)
      else do
        let (element, rest) ← read fuel b
        let (elements, rest) ← readToBreak fuel rest
        some (element :: elements, rest)

end

/-- The item that the bytes are, all of them. -/
def readItem (b : Bytes) : Option Item :=
  match read (2 * b.length) b with
  | some (item, []) => some item
  | _ => none

-- The argument 100 has a byte of its own.
example : read 1 [0x18, 0x64] = some (.number 100, []) := by
  rw [read]
  rfl

/-! ## What bytes are read as -/

/-- Twice the length is fuel enough. -/
def Reads (x : Item) (b : Bytes) : Prop :=
  ∀ fuel rest, 2 * b.length ≤ fuel → read fuel (b ++ rest) = some (x, rest)

def IsHead (major n : ℕ) (h : Bytes) : Prop :=
  ∀ rest, readHead (h ++ rest) = some (major, some n, rest)

variable {x : Item} {xs : List Item} {b h : Bytes} {bs : List Bytes} {n : ℕ}

theorem Reads.readItem (hx : Reads x b) : readItem b = some x := by
  have hread := hx (2 * b.length) [] (Nat.le_refl _)
  rw [List.append_nil] at hread
  rw [Cbor.readItem, hread]

theorem Reads.length_pos (hx : Reads x b) : 0 < b.length := by
  by_contra hnil
  have hread := hx 0 [] (by omega)
  rw [read] at hread
  cases hread

theorem IsHead.length_pos {major : ℕ} (hh : IsHead major n h) : 0 < h.length := by
  cases h with
  | nil =>
    have hread := hh []
    cases hread
  | cons first h => simp

/-- No item starts with a break. -/
theorem Reads.head?_ne_break (hx : Reads x b) (rest : Bytes) : (b ++ rest).head? ≠ some 0xFF := by
  intro hbreak
  cases b with
  | nil => exact absurd hx.length_pos (by simp)
  | cons first b =>
    obtain rfl : first = 0xFF := by simpa using hbreak
    have hread := hx (2 * (b.length + 1)) [] (by simp)
    rw [List.append_nil, show 2 * (b.length + 1) = (2 * b.length + 1) + 1 by omega, read] at hread
    have hhead : readHead (0xFF :: b) = some (7, none, b) := rfl
    rw [hhead] at hread
    cases hread

theorem readMany_of_reads (hxs : List.Forall₂ Reads xs bs) {fuel : ℕ} {rest : Bytes}
    (hfuel : 2 * bs.flatten.length + 1 ≤ fuel) :
    readMany fuel xs.length (bs.flatten ++ rest) = some (xs, rest) := by
  induction hxs generalizing fuel with
  | nil =>
    rw [List.length_nil, readMany]
    rfl
  | @cons x b xs bs hx hxs ih =>
    obtain ⟨fuel, rfl⟩ : ∃ k, fuel = k + 1 := ⟨fuel - 1, by omega⟩
    have hpos := hx.length_pos
    rw [List.flatten_cons, List.length_append] at hfuel
    rw [List.length_cons, readMany, List.flatten_cons, List.append_assoc,
      hx fuel (bs.flatten ++ rest) (by omega), Option.bind_eq_bind, Option.bind_some]
    show (readMany fuel xs.length (bs.flatten ++ rest) >>= _) = _
    rw [ih (by omega)]
    rfl

theorem readToBreak_of_reads (hxs : List.Forall₂ Reads xs bs) {fuel : ℕ} {rest : Bytes}
    (hfuel : 2 * bs.flatten.length + 1 ≤ fuel) :
    readToBreak fuel (bs.flatten ++ 0xFF :: rest) = some (xs, rest) := by
  induction hxs generalizing fuel with
  | nil =>
    obtain ⟨fuel, rfl⟩ : ∃ k, fuel = k + 1 := ⟨fuel - 1, by omega⟩
    rw [readToBreak]
    rfl
  | @cons x b xs bs hx hxs ih =>
    obtain ⟨fuel, rfl⟩ : ∃ k, fuel = k + 1 := ⟨fuel - 1, by omega⟩
    have hpos := hx.length_pos
    rw [List.flatten_cons, List.length_append] at hfuel
    rw [readToBreak, List.flatten_cons, List.append_assoc, if_neg (hx.head?_ne_break _),
      hx fuel (bs.flatten ++ 0xFF :: rest) (by omega), Option.bind_eq_bind, Option.bind_some]
    show (readToBreak fuel (bs.flatten ++ 0xFF :: rest) >>= _) = _
    rw [ih (by omega)]
    rfl

/-! ## Reading an item by its parts -/

theorem read_of_head {major : ℕ} (hh : IsHead major n h) (body : Bytes) {fuel : ℕ}
    (hfuel : 2 * (h ++ body).length ≤ fuel) :
    ∃ k, fuel = k + 1 ∧ 2 * body.length + 1 ≤ k ∧ ∀ rest,
      readHead (h ++ body ++ rest) = some (major, some n, body ++ rest) := by
  have hpos := hh.length_pos
  rw [List.length_append] at hfuel
  refine ⟨fuel - 1, by omega, by omega, ?_⟩
  intro rest
  rw [List.append_assoc]
  exact hh (body ++ rest)

theorem Reads.number (hh : IsHead 0 n h) : Reads (.number n) h := by
  intro fuel rest hfuel
  obtain ⟨k, rfl, -, hread⟩ := read_of_head hh [] (by simpa using hfuel)
  rw [List.append_nil] at hread
  rw [read, hread rest]
  rfl

theorem Reads.bytes (hh : IsHead 2 b.length h) : Reads (.bytes b) (h ++ b) := by
  intro fuel rest hfuel
  obtain ⟨k, rfl, -, hread⟩ := read_of_head hh b hfuel
  rw [read, hread rest]
  show (if b.length ≤ (b ++ rest).length then _ else none) = _
  rw [if_pos (by simp), List.take_left, List.drop_left]

theorem Reads.array (hh : IsHead 4 xs.length h) (hxs : List.Forall₂ Reads xs bs) :
    Reads (.array xs) (h ++ bs.flatten) := by
  intro fuel rest hfuel
  obtain ⟨k, rfl, hk, hread⟩ := read_of_head hh bs.flatten hfuel
  rw [read, hread rest]
  show (readMany k xs.length (bs.flatten ++ rest) >>= _) = _
  rw [readMany_of_reads hxs hk]
  rfl

/-- An array of indefinite length. -/
theorem Reads.array_to_break (hxs : List.Forall₂ Reads xs bs) :
    Reads (.array xs) (0x9F :: bs.flatten ++ [0xFF]) := by
  intro fuel rest hfuel
  obtain ⟨k, rfl⟩ : ∃ k, fuel = k + 1 := ⟨fuel - 1, by simp at hfuel; omega⟩
  have hhead : readHead (0x9F :: bs.flatten ++ [0xFF] ++ rest) =
      some (4, none, bs.flatten ++ 0xFF :: rest) := by
    rw [List.append_assoc]
    rfl
  rw [read, hhead]
  show (readToBreak k (bs.flatten ++ 0xFF :: rest) >>= _) = _
  rw [readToBreak_of_reads hxs (by simp at hfuel ⊢; omega)]
  rfl

/-- A byte string in pieces. -/
theorem Reads.bytes_to_break {pieces : List Bytes} (hpieces : List.Forall₂ Reads (pieces.map .bytes) bs) :
    Reads (.bytes pieces.flatten) (0x5F :: bs.flatten ++ [0xFF]) := by
  intro fuel rest hfuel
  obtain ⟨k, rfl⟩ : ∃ k, fuel = k + 1 := ⟨fuel - 1, by simp at hfuel; omega⟩
  have hhead : readHead (0x5F :: bs.flatten ++ [0xFF] ++ rest) =
      some (2, none, bs.flatten ++ 0xFF :: rest) := by
    rw [List.append_assoc]
    rfl
  have hmap : (pieces.map Item.bytes).mapM Item.bytes? = some pieces := by
    have hpiece := List.mapM_eq_some_map (f := Item.bytes? ∘ Item.bytes) (g := id) (l := pieces) fun _ _ => rfl
    rw [List.mapM_map, hpiece, List.map_id]
  rw [read, hhead]
  show (readToBreak k (bs.flatten ++ 0xFF :: rest) >>= _) = _
  rw [readToBreak_of_reads hpieces (by simp at hfuel ⊢; omega)]
  show ((pieces.map Item.bytes).mapM Item.bytes? >>= _) = _
  rw [hmap]
  rfl

theorem Reads.tag (hh : IsHead 6 n h) (hx : Reads x b) {item : Item} (hitem : makeTagged n x = some item) :
    Reads item (h ++ b) := by
  intro fuel rest hfuel
  obtain ⟨k, rfl, hk, hread⟩ := read_of_head hh b hfuel
  rw [read, hread rest]
  show (read k (b ++ rest) >>= _) = _
  rw [hx k rest (by omega)]
  show (makeTagged n x >>= _) = _
  rw [hitem]
  rfl

theorem Reads.tagged {tag : Tag} (hh : IsHead 6 tag h) (hx : Reads x b) : Reads (.tagged tag x) (h ++ b) := by
  refine Reads.tag hh hx ?_
  rw [makeTagged, if_neg tag.2.2, dif_pos tag.2]

/-- A number that is too large for a head. -/
theorem Reads.bignum {digits : Bytes} (hh : IsHead 6 2 h) (hx : Reads (.bytes digits) b) :
    Reads (.number (ofBytes digits)) (h ++ b) :=
  Reads.tag hh hx rfl

theorem Reads.emptyMap : Reads .emptyMap [0xA0] := by
  intro fuel rest hfuel
  obtain ⟨k, rfl⟩ : ∃ k, fuel = k + 1 := ⟨fuel - 1, by simp at hfuel; omega⟩
  rw [read]
  rfl

end Cbor
