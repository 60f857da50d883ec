import Klarity.Library.Decimal
import Klarity.Renderer.Utils.HardwareWalletUtils
import Mathlib.Data.List.Forall2

set_option autoImplicit false

/-! # Derivation paths

A path is a list of indices, which are hardened from `HARDENED` on, or a list of texts, in which a hardened index is
marked by `H`. The devices take it as one text with apostrophes, or as indices again. -/

namespace Klarity

/-- An index as the devices write it. -/
inductive IndexText : String → ℕ → Prop
  | plain (n : ℕ) (h : n < hardened) : IndexText (toString n) n
  | hardened (n : ℕ) (h : n < hardened) : IndexText (toString n ++ "'") (n + hardened)

/-- What is documented of `str_to_path`: it reads the indices between the slashes. -/
def ParsesIndices (strToPath : String → BIP32Path) : Prop :=
  ∀ (chunks : List String) (path : BIP32Path), chunks ≠ [] → List.Forall₂ IndexText chunks path →
    strToPath ("/".intercalate chunks) = path

/-- The first three indices are hardened, and no other ones. -/
structure IsDerivable (path : BIP32Path) : Prop where
  nonempty : path ≠ []
  first : ∀ (i index : ℕ), path[i]? = some index → i ≤ 2 → hardened ≤ index ∧ index < 2 * hardened
  rest : ∀ (i index : ℕ), path[i]? = some index → 2 < i → index < hardened

/-! ## Chunks -/

theorem not_mem_toString {c : Char} (hc : c.isDigit = false) (n : ℕ) : c ∉ (toString n).toList := by
  intro hmem
  rw [Nat.toString_eq_ofList_toDigits, String.toList_ofList] at hmem
  rw [Decimal.isDigit_toDigits n c hmem] at hc
  exact Bool.noConfusion hc

theorem derivationChunk_plain (n : ℕ) : derivationChunk (toString n) = toString n := by
  unfold derivationChunk
  rw [List.replace_of_not_mem (not_mem_toString (by decide) n), String.ofList_toList]

theorem derivationChunk_hardened (n : ℕ) : derivationChunk (toString n ++ "H") = toString n ++ "'" := by
  refine String.toList_inj.1 ?_
  unfold derivationChunk
  rw [String.toList_ofList, String.toList_append, List.replace_append_right (not_mem_toString (by decide) n),
    String.toList_append]
  rfl

theorem toString_sub_hardened (n : ℕ) : toString (((n + hardened : ℕ) : ℤ) - hardened) = toString n := by
  rw [Int.natCast_add, Int.add_sub_cancel]
  rfl

/-- What becomes of the texts is what the devices read. -/
theorem forall₂_indexText {path : BIP32Path} (h : IsDerivable path) :
    List.Forall₂ IndexText ((hardenedPathToDerivationPath path).derivationPath.map derivationChunk) path := by
  rw [List.forall₂_iff_get]
  refine ⟨by simp [hardenedPathToDerivationPath], fun i hi hi' => ?_⟩
  have hindex : path[i]? = some path[i] := List.getElem?_eq_getElem hi'
  simp only [hardenedPathToDerivationPath, List.get_eq_getElem, List.getElem_map, List.getElem_mapIdx]
  by_cases hfirst : i ≤ 2
  · obtain ⟨hle, hlt⟩ := h.first i _ hindex hfirst
    obtain ⟨n, hn⟩ := Nat.exists_eq_add_of_le' hle
    rw [if_pos hfirst, hn, toString_sub_hardened, derivationChunk_hardened]
    exact .hardened n (by omega)
  · rw [if_neg hfirst, derivationChunk_plain]
    exact .plain _ (h.rest i _ hindex (by omega))

/-! ## Paths as one text -/

theorem foldl_derivationChunk {chunks : List String} (hne : chunks ≠ []) (start : String) :
    chunks.foldl (fun constructedPath chunk => constructedPath ++ "/" ++ derivationChunk chunk) start =
      start ++ "/" ++ "/".intercalate (chunks.map derivationChunk) := by
  induction chunks generalizing start with
  | nil => exact absurd rfl hne
  | cons chunk chunks ih =>
    by_cases hnil : chunks = []
    · rw [hnil, List.map_singleton, String.intercalate_singleton]
      rfl
    · have hmap : chunks.map derivationChunk ≠ [] := fun h => hnil (List.map_eq_nil_iff.1 h)
      rw [List.foldl_cons, ih hnil, List.map_cons, String.intercalate_cons_of_ne_nil hmap]
      simp only [String.append_assoc]

theorem derivationPathToString_eq {derivationPath : List String} (hne : derivationPath ≠ []) :
    derivationPathToString derivationPath = "m/" ++ "/".intercalate (derivationPath.map derivationChunk) := by
  rw [derivationPathToString, foldl_derivationChunk hne]
  rfl

theorem removeFirst_append (s : List Char) : removeFirst "m/".toList ("m/".toList ++ s) = s := by
  have hstart : "m/".toList = ['m', '/'] := by decide
  rw [hstart]
  rfl

theorem derivationPathToAddressPath_eq {derivationPath : List String} (hne : derivationPath ≠ []) :
    derivationPathToAddressPath derivationPath = "/".intercalate (derivationPath.map derivationChunk) := by
  unfold derivationPathToAddressPath
  rw [derivationPathToString_eq hne, String.toList_append, removeFirst_append, String.ofList_toList]

/-- The texts of a path are read as the path, and both texts of it show the same indices. -/
theorem derivationPathToLedgerPath_hardenedPathToDerivationPath {lib : Packages} {path : BIP32Path}
    (h : IsDerivable path) (hparse : ParsesIndices lib.strToPath) :
    derivationPathToLedgerPath lib (hardenedPathToDerivationPath path).derivationPath = path ∧
      derivationPathToString (hardenedPathToDerivationPath path).derivationPath =
        "m/" ++ derivationPathToAddressPath (hardenedPathToDerivationPath path).derivationPath ∧
      lib.strToPath (derivationPathToAddressPath (hardenedPathToDerivationPath path).derivationPath) = path := by
  have hne : (hardenedPathToDerivationPath path).derivationPath ≠ [] := by
    intro hnil
    exact h.nonempty (List.mapIdx_eq_nil_iff.1 hnil)
  have hread : lib.strToPath
      ("/".intercalate ((hardenedPathToDerivationPath path).derivationPath.map derivationChunk)) = path :=
    hparse _ _ (fun hnil => hne (List.map_eq_nil_iff.1 hnil)) (forall₂_indexText h)
  rw [derivationPathToString_eq hne, derivationPathToAddressPath_eq hne]
  exact ⟨hread, rfl, hread⟩

/-! ## A reader of paths -/

def readIndex (chunk : List Char) : ℕ :=
  Nat.ofDigitChars 10 (chunk.filter Char.isDigit) 0 + if Char.ofNat 39 ∈ chunk then hardened else 0

theorem readIndex_of_indexText {chunk : String} {index : ℕ} (h : IndexText chunk index) :
    readIndex chunk.toList = index := by
  have hdigits (n : ℕ) : (toString n).toList.filter Char.isDigit = Nat.toDigits 10 n := by
    rw [Nat.toString_eq_ofList_toDigits, String.toList_ofList]
    exact List.filter_eq_self.2 (Decimal.isDigit_toDigits n)
  unfold readIndex
  cases h with
  | plain =>
    rw [hdigits, Nat.ofDigitChars_ten_toDigits, if_neg (not_mem_toString (by decide) index)]
    rfl
  | hardened n =>
    have hmark : "'".toList = [Char.ofNat 39] := by decide
    rw [String.toList_append, hmark, List.filter_append, hdigits, List.filter_cons_of_neg (by decide),
      List.filter_nil, List.append_nil, Nat.ofDigitChars_ten_toDigits, if_pos (by simp)]

def readPath (path : String) : BIP32Path := (path.toList.splitOn '/').map readIndex

theorem slash_not_mem {chunk : String} {index : ℕ} (h : IndexText chunk index) : '/' ∉ chunk.toList := by
  cases h with
  | plain => exact not_mem_toString (by decide) index
  | hardened n =>
    rw [String.toList_append]
    exact List.not_mem_append (not_mem_toString (by decide) n) (by decide)

theorem map_readIndex {chunks : List String} {path : BIP32Path} (h : List.Forall₂ IndexText chunks path) :
    (chunks.map String.toList).map readIndex = path := by
  induction h with
  | nil => rfl
  | cons hchunk _ ih => rw [List.map_cons, List.map_cons, ih, readIndex_of_indexText hchunk]

theorem forall_slash_not_mem {chunks : List String} {path : BIP32Path} (h : List.Forall₂ IndexText chunks path) :
    ∀ chunk ∈ chunks.map String.toList, '/' ∉ chunk := by
  induction h with
  | nil => simp
  | cons hchunk _ ih =>
    rw [List.map_cons]
    exact List.forall_mem_cons.2 ⟨slash_not_mem hchunk, ih⟩

theorem parsesIndices_readPath : ParsesIndices readPath := by
  intro chunks path hne hchunks
  have hslash : "/".toList = ['/'] := by decide
  have hne' : chunks.map String.toList ≠ [] := fun hnil => hne (List.map_eq_nil_iff.1 hnil)
  unfold readPath
  rw [String.toList_intercalate, hslash, List.splitOn_intercalate _ (forall_slash_not_mem hchunks) hne',
    map_readIndex hchunks]

def readingPackages : Packages where
  bech32DecodeAddress _ := []
  base58Decode _ := []
  bufToHex _ := ""
  strToPath := readPath
  localeCompare := compare

/-- A path with the last index before the boundary, hardened and not hardened. -/
def boundaryPath : BIP32Path := [2147485500, 2147485463, 4294967295, 2147483647]

theorem derivationPathToLedgerPath_boundaryPath :
    derivationPathToLedgerPath readingPackages (hardenedPathToDerivationPath boundaryPath).derivationPath =
        boundaryPath ∧
      derivationPathToString (hardenedPathToDerivationPath boundaryPath).derivationPath =
        "m/" ++ derivationPathToAddressPath (hardenedPathToDerivationPath boundaryPath).derivationPath ∧
      readPath (derivationPathToAddressPath (hardenedPathToDerivationPath boundaryPath).derivationPath) =
        boundaryPath := by
  have hderivable : IsDerivable boundaryPath := by
    refine ⟨by decide, fun i index hi hle => ?_, fun i index hi hlt => ?_⟩
    · obtain rfl | rfl | rfl : i = 0 ∨ i = 1 ∨ i = 2 := by omega
      · obtain rfl := Option.some.inj hi
        decide
      · obtain rfl := Option.some.inj hi
        decide
      · obtain rfl := Option.some.inj hi
        decide
    · obtain ⟨hlength, -⟩ := List.getElem?_eq_some_iff.1 hi
      have hlength : i < 4 := hlength
      obtain rfl : i = 3 := by omega
      obtain rfl := Option.some.inj hi
      decide
  exact derivationPathToLedgerPath_hardenedPathToDerivationPath hderivable
    parsesIndices_readPath

end Klarity
