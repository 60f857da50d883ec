import Klarity.Library.BigNumber.Rounding
import Klarity.Library.Lists
import Mathlib.Data.Fintype.Card

set_option autoImplicit false

/-! # The tokens that a transaction leaves in a wallet

The dialog warns when a transaction empties the wallet of tokens. That is decided from the number of tokens,
and from the amounts against the quantities at the same places, not token by token. -/

namespace Klarity.Assets

open Decimal (readPlain)

/-- Of a token only the quantity is read. -/
structure AssetToken (N : Type) where
  quantity : N

variable {N : Type}

/-- No list of selected assets is the empty list. -/
def hasTokensLeftAfterTransaction [BigNumber N] [BigNumberCompare N]
    (allAvailableTokens initialSelectedAssets : List (AssetToken N)) (selectedAssets : List String := []) : Bool :=
  if selectedAssets.length > 0 ∧ initialSelectedAssets.length > 0 then
    if initialSelectedAssets.length < allAvailableTokens.length ∨
        selectedAssets.length < initialSelectedAssets.length then
      true
    else
      match selectedAssets.zipIdx.find? fun (selectedAsset, index) =>
          !(initialSelectedAssets[index]?.elim false fun token =>
            BigNumberCompare.isEqualTo token.quantity (BigNumber.ofString selectedAsset)) with
      -- What was found is tested for being truthy, which an empty text is not.
      | some (selectedAsset, _) => decide (selectedAsset ≠ "")
      | none => false
  else false

/-! ## Token by token -/

/-- The amount that is meant by a plain numeral. -/
def amountOf (text : String) : ℚ := (readPlain text.toList).elim 0 fun (c, p) => c / 10 ^ p

def quantityOf [BigNumber N] (token : AssetToken N) : ℚ := (BigNumber.value token.quantity).getD 0

/-- Distinct tokens of the wallet, in any order. -/
structure Selection (tokens : List (AssetToken N)) where
  positions : List (Fin tokens.length)
  nodup : positions.Nodup

namespace Selection

variable {tokens : List (AssetToken N)}

def assets (selection : Selection tokens) : List (AssetToken N) := selection.positions.map tokens.get

/-- What is spent of the token at a place in the wallet. -/
def spent (selection : Selection tokens) (selectedAssets : List String) (i : Fin tokens.length) : ℚ :=
  ((selection.positions.zip selectedAssets).lookup i).elim 0 amountOf

/-- The amounts belong to the first tokens of the selection, which have as much. -/
structure Covers [BigNumber N] (selection : Selection tokens) (selectedAssets : List String) : Prop where
  nonempty : selectedAssets ≠ []
  length_le : selectedAssets.length ≤ selection.positions.length
  amount {j : ℕ} {i : Fin tokens.length} {text : String} (hi : selection.positions[j]? = some i)
    (htext : selectedAssets[j]? = some text) :
    (readPlain text.toList).isSome = true ∧ amountOf text ≤ quantityOf (tokens.get i)

variable {selection : Selection tokens} {selectedAssets : List String}

theorem spent_of_getElem? {i : Fin tokens.length} {j : ℕ} (hi : selection.positions[j]? = some i) :
    selection.spent selectedAssets i = selectedAssets[j]?.elim 0 amountOf := by
  unfold spent
  rw [List.lookup_zip_of_nodup selection.nodup selectedAssets hi]

theorem spent_of_not_mem {i : Fin tokens.length} (hi : i ∉ selection.positions) :
    selection.spent selectedAssets i = 0 := by
  unfold spent
  rw [List.lookup_zip_of_not_mem hi]
  rfl

theorem length_assets : selection.assets.length = selection.positions.length := List.length_map _

/-- Only a selection as long as the wallet leaves no token out. -/
theorem forall_mem_positions_iff :
    (∀ i, i ∈ selection.positions) ↔ selection.positions.length = tokens.length := by
  have hcard := Finset.card_eq_iff_eq_univ selection.positions.toFinset
  rw [List.toFinset_card_of_nodup selection.nodup, Fintype.card_fin, Finset.eq_univ_iff_forall] at hcard
  rw [hcard]
  simp only [List.mem_toFinset]

theorem length_positions_le (selection : Selection tokens) : selection.positions.length ≤ tokens.length := by
  have h := selection.nodup.length_le_card
  rwa [Fintype.card_fin] at h

/-! ## What is found -/

/-- Texts that are all truthy. -/
theorem truthy_find_iff {p : String × ℕ → Bool} (htexts : ∀ text ∈ selectedAssets, text ≠ "") :
    (match selectedAssets.zipIdx.find? p with
      | some (selectedAsset, _) => decide (selectedAsset ≠ "")
      | none => false) = true ↔
      ∃ (j : ℕ) (text : String), selectedAssets[j]? = some text ∧ p (text, j) = true := by
  cases hfind : selectedAssets.zipIdx.find? p with
  | none =>
    refine iff_of_false Bool.false_ne_true ?_
    rintro ⟨j, text, htext, hp⟩
    exact List.find?_eq_none.1 hfind (text, j) (List.mem_zipIdx_iff_getElem?.2 htext) hp
  | some found =>
    have htext := List.mem_zipIdx_iff_getElem?.1 (List.mem_of_find?_eq_some hfind)
    have hne := htexts _ (List.mem_of_getElem? htext)
    exact iff_of_true (decide_eq_true hne) ⟨found.2, found.1, htext, List.find?_some hfind⟩

theorem ne_empty_of_covers [BigNumber N] (hcovers : selection.Covers selectedAssets) :
    ∀ text ∈ selectedAssets, text ≠ "" := by
  rintro text hmem rfl
  obtain ⟨j, htext⟩ := List.mem_iff_getElem?.1 hmem
  obtain ⟨hlt, -⟩ := List.getElem?_eq_some_iff.1 htext
  have hj : j < selection.positions.length := Nat.lt_of_lt_of_le hlt hcovers.length_le
  have hi : selection.positions[j]? = some selection.positions[j] := List.getElem?_eq_getElem hj
  exact absurd (hcovers.amount hi htext).1 (by decide)

section

variable [BigNumber N] [LawfulBigNumber N] [BigNumberCompare N] [LawfulBigNumberCompare N]

theorem isEqualTo_ofString_iff {token : AssetToken N} {q : ℚ} (hq : BigNumber.value token.quantity = some q)
    {text : String} (htext : (readPlain text.toList).isSome = true) :
    BigNumberCompare.isEqualTo token.quantity (BigNumber.ofString text) = true ↔ quantityOf token = amountOf text := by
  obtain ⟨⟨c, p⟩, hread⟩ := Option.isSome_iff_exists.1 htext
  unfold quantityOf amountOf
  rw [LawfulBigNumberCompare.isEqualTo_iff hq (LawfulBigNumber.value_ofString hread), hq, hread]
  rfl

/-- With an amount for each token of the wallet, one that is not the whole quantity is looked for. -/
theorem hasTokensLeft_iff_exists_ne (hcovers : selection.Covers selectedAssets)
    (hquantity : ∀ token ∈ tokens, ∃ q : ℚ, BigNumber.value token.quantity = some q ∧ 0 < q)
    (hpositions : selection.positions.length = tokens.length)
    (hamounts : selectedAssets.length = selection.positions.length) :
    hasTokensLeftAfterTransaction tokens selection.assets selectedAssets = true ↔
      ∃ (j : ℕ) (i : Fin tokens.length) (text : String), selection.positions[j]? = some i ∧
        selectedAssets[j]? = some text ∧ quantityOf (tokens.get i) ≠ amountOf text := by
  have hlength : 0 < selectedAssets.length := List.length_pos_iff.2 hcovers.nonempty
  have hassets : selection.assets.length = selection.positions.length := length_assets
  unfold hasTokensLeftAfterTransaction
  rw [if_pos ⟨hlength, by omega⟩, if_neg (by omega), truthy_find_iff (ne_empty_of_covers hcovers)]
  have hdiffers {j : ℕ} {i : Fin tokens.length} {text : String} (hi : selection.positions[j]? = some i)
      (htext : selectedAssets[j]? = some text) :
      (!(selection.assets[j]?.elim false fun token =>
        BigNumberCompare.isEqualTo token.quantity (BigNumber.ofString text))) = true ↔
        quantityOf (tokens.get i) ≠ amountOf text := by
    obtain ⟨q, hq, -⟩ := hquantity (tokens.get i) (List.get_mem tokens i)
    have hasset : selection.assets[j]? = some (tokens.get i) := by
      unfold assets
      rw [List.getElem?_map, hi]
      rfl
    rw [hasset, Bool.not_eq_true', Ne, ← isEqualTo_ofString_iff hq (hcovers.amount hi htext).1, Bool.not_eq_true]
    rfl
  constructor
  · rintro ⟨j, text, htext, hp⟩
    obtain ⟨hj, -⟩ := List.getElem?_eq_some_iff.1 htext
    have hi : selection.positions[j]? = some selection.positions[j] := List.getElem?_eq_getElem (by omega)
    exact ⟨j, _, text, hi, htext, (hdiffers hi htext).1 hp⟩
  · rintro ⟨j, i, text, hi, htext, hne⟩
    exact ⟨j, text, htext, (hdiffers hi htext).2 hne⟩

/-- The lengths and the amounts tell whether some token of the wallet keeps a part of its quantity. -/
theorem hasTokensLeftAfterTransaction_iff (hcovers : selection.Covers selectedAssets)
    (hquantity : ∀ token ∈ tokens, ∃ q : ℚ, BigNumber.value token.quantity = some q ∧ 0 < q) :
    hasTokensLeftAfterTransaction tokens selection.assets selectedAssets = true ↔
      ∃ i : Fin tokens.length, 0 < quantityOf (tokens.get i) - selection.spent selectedAssets i := by
  have hlength : 0 < selectedAssets.length := List.length_pos_iff.2 hcovers.nonempty
  have hle := hcovers.length_le
  have hassets : selection.assets.length = selection.positions.length := length_assets
  have hpos (i : Fin tokens.length) : 0 < quantityOf (tokens.get i) := by
    obtain ⟨q, hq, hlt⟩ := hquantity (tokens.get i) (List.get_mem tokens i)
    unfold quantityOf
    rwa [hq]
  have htrue (h : selection.positions.length < tokens.length ∨
      selectedAssets.length < selection.positions.length) :
      hasTokensLeftAfterTransaction tokens selection.assets selectedAssets = true := by
    unfold hasTokensLeftAfterTransaction
    rw [if_pos ⟨hlength, by omega⟩, if_pos (by rwa [hassets])]
  rcases Nat.lt_or_ge selection.positions.length tokens.length with hlt | hge
  · -- A token that was not selected is kept.
    have hnot : ¬ ∀ i, i ∈ selection.positions := by
      rw [forall_mem_positions_iff]
      omega
    obtain ⟨i, hi⟩ := not_forall.1 hnot
    refine iff_of_true (htrue (.inl hlt)) ⟨i, ?_⟩
    rw [spent_of_not_mem hi, sub_zero]
    exact hpos i
  rcases Nat.lt_or_ge selectedAssets.length selection.positions.length with hshort | hlong
  · -- The first token without an amount is kept.
    have hi := List.getElem?_eq_getElem hshort
    refine iff_of_true (htrue (.inr hshort)) ⟨selection.positions[selectedAssets.length], ?_⟩
    rw [spent_of_getElem? hi, List.getElem?_eq_none (Nat.le_refl _), Option.elim_none, sub_zero]
    exact hpos _
  have hpositions : selection.positions.length = tokens.length := Nat.le_antisymm (length_positions_le selection) hge
  rw [hasTokensLeft_iff_exists_ne hcovers hquantity hpositions (Nat.le_antisymm hle hlong)]
  constructor
  · rintro ⟨j, i, text, hi, htext, hne⟩
    refine ⟨i, ?_⟩
    rw [spent_of_getElem? hi, htext]
    exact sub_pos.2 (lt_of_le_of_ne (hcovers.amount hi htext).2 hne.symm)
  · rintro ⟨i, hi⟩
    obtain ⟨j, hj⟩ := List.mem_iff_getElem?.1 (forall_mem_positions_iff.2 hpositions i)
    obtain ⟨hlt, -⟩ := List.getElem?_eq_some_iff.1 hj
    have htext : selectedAssets[j]? = some selectedAssets[j] := List.getElem?_eq_getElem (by omega)
    rw [spent_of_getElem? hj, htext] at hi
    exact ⟨j, i, _, hj, htext, (sub_pos.1 hi).ne'⟩

end

/-- A wallet of which the second token is spent wholly and the first one in part. -/
def walletTokens : List (AssetToken Amount) := [⟨some (5 : ℚ)⟩, ⟨some (3 : ℚ)⟩]

def reversedSelection : Selection walletTokens := ⟨[⟨1, by decide⟩, ⟨0, by decide⟩], by decide⟩

theorem covers_reversedSelection : reversedSelection.Covers ["3", "4"] := by
  have hthree : amountOf "3" = 3 := by
    show ((3 : ℕ) : ℚ) / 10 ^ 0 = 3
    norm_num
  have hfour : amountOf "4" = 4 := by
    show ((4 : ℕ) : ℚ) / 10 ^ 0 = 4
    norm_num
  refine ⟨by decide, by decide, fun {j i text} hi htext => ?_⟩
  match j, hi, htext with
  | 0, rfl, rfl => exact ⟨by decide, hthree.trans_le (show (3 : ℚ) ≤ 3 by norm_num)⟩
  | 1, rfl, rfl => exact ⟨by decide, hfour.trans_le (show (4 : ℚ) ≤ 5 by norm_num)⟩

theorem hasTokensLeftAfterTransaction_reversedSelection :
    hasTokensLeftAfterTransaction walletTokens reversedSelection.assets ["3", "4"] = true ↔
      ∃ i : Fin walletTokens.length,
        0 < quantityOf (walletTokens.get i) - reversedSelection.spent ["3", "4"] i := by
  refine hasTokensLeftAfterTransaction_iff covers_reversedSelection fun token htoken => ?_
  rcases List.mem_pair.1 htoken with rfl | rfl
  · exact ⟨5, rfl, by norm_num⟩
  · exact ⟨3, rfl, by norm_num⟩

end Selection

end Klarity.Assets
