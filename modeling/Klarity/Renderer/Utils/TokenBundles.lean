import Klarity.Library.Lists
import Klarity.Renderer.Utils.SophieLedger
import Klarity.Renderer.Utils.SophieTrezor

set_option autoImplicit false

/-! # Canonical token bundles

The devices ask for the policies of a token bundle, and for the tokens of each policy, in canonical
order. `groupTokensByPolicyId` sorts, groups and sorts again; what it gives is written out three times,
for either device and for the transaction body. -/

namespace Klarity

/-! ## Grouping -/

section Grouping

variable {κ α : Type} [DecidableEq κ] {key : α → κ} {groups : List (κ × List α)}

/-- Each group has a key of its own, and at least one value, all of its key. -/
structure Grouped (key : α → κ) (groups : List (κ × List α)) : Prop where
  nodup : (groups.map Prod.fst).Nodup
  nonempty : ∀ g ∈ groups, g.2 ≠ []
  keyed : ∀ g ∈ groups, ∀ a ∈ g.2, key a = g.1

/-- Where the groups come from after a value is put in. -/
theorem mem_insertGroup {k : κ} {a : α} {g : κ × List α} (hg : g ∈ insertGroup k a groups) :
    g ∈ groups ∨ (g.1 = k ∧ ∃ group, g.2 = group ++ [a] ∧ (group = [] ∨ (k, group) ∈ groups)) := by
  induction groups with
  | nil =>
      obtain rfl := List.mem_singleton.1 hg
      exact Or.inr ⟨rfl, [], rfl, Or.inl rfl⟩
  | cons head groups ih =>
      obtain ⟨k', group⟩ := head
      unfold insertGroup at hg
      split at hg
      · next heq =>
          subst heq
          rcases List.mem_cons.1 hg with rfl | hg
          · exact Or.inr ⟨rfl, group, rfl, Or.inr List.mem_cons_self⟩
          · exact Or.inl (List.mem_cons_of_mem _ hg)
      · rcases List.mem_cons.1 hg with rfl | hg
        · exact Or.inl List.mem_cons_self
        · rcases ih hg with hg | ⟨hk, rest, hrest, hmem⟩
          · exact Or.inl (List.mem_cons_of_mem _ hg)
          · exact Or.inr ⟨hk, rest, hrest, hmem.imp_right (List.mem_cons_of_mem _)⟩

theorem nodup_insertGroup {k : κ} {a : α} (h : (groups.map Prod.fst).Nodup) :
    ((insertGroup k a groups).map Prod.fst).Nodup := by
  induction groups with
  | nil => exact List.nodup_cons.2 ⟨List.not_mem_nil, List.nodup_nil⟩
  | cons head groups ih =>
      obtain ⟨k', group⟩ := head
      obtain ⟨hnot, hnodup⟩ := List.nodup_cons.1 h
      unfold insertGroup
      split
      · exact List.nodup_cons.2 ⟨hnot, hnodup⟩
      · next hne =>
          refine List.nodup_cons.2 ⟨fun hmem => ?_, ih hnodup⟩
          obtain ⟨g, hg, hfst⟩ := List.mem_map.1 hmem
          rcases mem_insertGroup hg with hg | ⟨hk, -⟩
          · exact hnot (hfst ▸ List.mem_map_of_mem hg)
          · exact hne (hfst.symm.trans hk)

/-- The value that is put in is the only one more. -/
theorem flatMap_insertGroup_perm (k : κ) (a : α) (groups : List (κ × List α)) :
    ((insertGroup k a groups).flatMap Prod.snd).Perm (a :: groups.flatMap Prod.snd) := by
  induction groups with
  | nil => exact List.Perm.refl _
  | cons head groups ih =>
      obtain ⟨k', group⟩ := head
      unfold insertGroup
      split
      · rw [List.flatMap_cons, List.flatMap_cons, List.append_assoc]
        exact List.perm_middle
      · rw [List.flatMap_cons, List.flatMap_cons]
        exact (ih.append_left group).trans List.perm_middle

theorem Grouped.insertGroup (h : Grouped key groups) (a : α) :
    Grouped key (insertGroup (key a) a groups) := by
  refine ⟨nodup_insertGroup h.nodup, fun g hg => ?_, fun g hg b hb => ?_⟩
  · rcases mem_insertGroup hg with hg | ⟨-, group, hgroup, -⟩
    · exact h.nonempty g hg
    · rw [hgroup]
      exact List.append_ne_nil_of_right_ne_nil _ (List.cons_ne_nil a [])
  · rcases mem_insertGroup hg with hg | ⟨hk, group, hgroup, hfrom⟩
    · exact h.keyed g hg b hb
    · rw [hgroup] at hb
      rw [hk]
      rcases List.mem_append.1 hb with hb | hb
      · rcases hfrom with rfl | hfrom
        · exact absurd hb List.not_mem_nil
        · exact h.keyed _ hfrom b hb
      · rw [List.mem_singleton.1 hb]

theorem grouped_groupBy (key : α → κ) (l : List α) : Grouped key (groupBy key l) := by
  have hfold : ∀ groups : List (κ × List α), Grouped key groups →
      Grouped key (l.foldl (fun groups a => insertGroup (key a) a groups) groups) := by
    induction l with
    | nil => exact fun groups h => h
    | cons a l ih => exact fun groups h => ih _ (h.insertGroup a)
  exact hfold [] ⟨List.nodup_nil, by simp, by simp⟩

theorem flatMap_groupBy_perm (key : α → κ) (l : List α) : ((groupBy key l).flatMap Prod.snd).Perm l := by
  have hfold : ∀ groups : List (κ × List α),
      ((l.foldl (fun groups a => insertGroup (key a) a groups) groups).flatMap Prod.snd).Perm
        (groups.flatMap Prod.snd ++ l) := by
    induction l with
    | nil => exact fun groups => by rw [List.append_nil]; exact List.Perm.refl _
    | cons a l ih =>
        intro groups
        refine (ih _).trans (((flatMap_insertGroup_perm (key a) a groups).append_right l).trans ?_)
        exact List.perm_middle.symm
  exact hfold []

end Grouping

/-! ## Canonical order -/

/-- Shorter first, then lexicographic. -/
def CanonicalLe (s t : String) : Prop := s.length < t.length ∨ (s.length = t.length ∧ s ≤ t)

def CanonicalLt (s t : String) : Prop := s.length < t.length ∨ (s.length = t.length ∧ s < t)

instance (s t : String) : Decidable (CanonicalLe s t) :=
  inferInstanceAs (Decidable (_ ∨ _))

theorem CanonicalLe.trans {s t u : String} (h : CanonicalLe s t) (h' : CanonicalLe t u) :
    CanonicalLe s u := by
  rcases h with h | ⟨hlength, h⟩
  · rcases h' with h' | ⟨hlength', -⟩
    · exact Or.inl (Nat.lt_trans h h')
    · exact Or.inl (hlength' ▸ h)
  · rcases h' with h' | ⟨hlength', h'⟩
    · exact Or.inl (hlength ▸ h')
    · exact Or.inr ⟨hlength.trans hlength', String.le_trans h h'⟩

theorem canonicalLe_total (s t : String) : CanonicalLe s t ∨ CanonicalLe t s := by
  rcases Nat.lt_trichotomy s.length t.length with h | h | h
  · exact Or.inl (Or.inl h)
  · rcases String.le_total s t with hle | hle
    · exact Or.inl (Or.inr ⟨h, hle⟩)
    · exact Or.inr (Or.inr ⟨h.symm, hle⟩)
  · exact Or.inr (Or.inl h)

theorem CanonicalLe.lt_of_ne {s t : String} (h : CanonicalLe s t) (hne : s ≠ t) : CanonicalLt s t := by
  rcases h with h | ⟨hlength, hle⟩
  · exact Or.inl h
  · refine Or.inr ⟨hlength, String.not_le.1 fun hge => hne (String.le_antisymm hle hge)⟩

/-- The comparison that the locale makes of digits is that of their code units. -/
def AgreesOnHex (localeCompare : String → String → Ordering) : Prop :=
  ∀ s t : String, IsHex s.toList → IsHex t.toList → localeCompare s t = compare s t

theorem compare_eq_gt_iff (s t : String) : compare s t = .gt ↔ t < s :=
  compareOfLessAndEq_eq_gt String.le_antisymm String.le_total String.not_le s t

theorem compareStringsCanonically_ne_gt_iff {lib : Packages} (hlocale : AgreesOnHex lib.localeCompare)
    {s t : String} (hs : IsHex s.toList) (ht : IsHex t.toList) :
    compareStringsCanonically lib s t ≠ .gt ↔ CanonicalLe s t := by
  unfold compareStringsCanonically CanonicalLe
  rw [hlocale s t hs ht]
  rcases Nat.lt_trichotomy s.length t.length with h | h | h
  · rw [Nat.compare_eq_lt.2 h]
    exact iff_of_true (show Ordering.lt ≠ .gt by decide) (Or.inl h)
  · rw [Nat.compare_eq_eq.2 h]
    show compare s t ≠ .gt ↔ _
    rw [ne_eq, compare_eq_gt_iff, String.not_lt]
    exact ⟨fun hle => Or.inr ⟨h, hle⟩, fun hle => hle.elim (fun hlt => absurd h (Nat.ne_of_lt hlt)) And.right⟩
  · rw [Nat.compare_eq_gt.2 h]
    refine iff_of_false (show ¬ Ordering.gt ≠ .gt by decide) fun hle => ?_
    rcases hle with hlt | ⟨heq, -⟩
    · exact Nat.lt_asymm h hlt
    · exact Nat.lt_irrefl _ (heq ▸ h)

/-- Sorting by the comparison of the code. -/
theorem pairwise_mergeSort_canonically {lib : Packages} (hlocale : AgreesOnHex lib.localeCompare)
    {α : Type} (f : α → String) {l : List α} (hl : ∀ a ∈ l, IsHex (f a).toList) :
    (l.mergeSort fun a b => compareStringsCanonically lib (f a) (f b) ≠ .gt).Pairwise
      fun a b => CanonicalLe (f a) (f b) := by
  have hsorted := List.pairwise_mergeSort_of_agrees
    (r := fun a b => decide (compareStringsCanonically lib (f a) (f b) ≠ .gt))
    (s := fun a b => decide (CanonicalLe (f a) (f b)))
    (fun a b c hab hbc => decide_eq_true ((of_decide_eq_true hab).trans (of_decide_eq_true hbc)))
    (fun a b => by simpa using canonicalLe_total (f a) (f b))
    (l := l) fun a ha b hb =>
      decide_eq_decide.2 (compareStringsCanonically_ne_gt_iff hlocale (hl a ha) (hl b hb))
  exact hsorted.imp of_decide_eq_true

/-! ## Token bundles -/

/-- Policy ids have 56 digits, asset names are written with two digits a byte. -/
structure HexAsset (asset : Asset) : Prop where
  policyId : IsHex asset.policyId.toList
  policyId_length : asset.policyId.length = 56
  assetName : IsHex asset.assetName.toList
  assetName_even : asset.assetName.length % 2 = 0

/-- Policy id, asset name and quantity. -/
abbrev Triple (Quantity : Type) := String × String × Quantity

def Asset.triple (asset : Asset) : Triple ℕ := (asset.policyId, asset.assetName, asset.quantity)

/-- The triples of the groups, in their order. -/
def triples (groups : List (String × List Asset)) : List (Triple ℕ) :=
  groups.flatMap fun (policyId, tokens) =>
    tokens.map fun token => (policyId, token.assetName, token.quantity)

def LedgerAssetGroup.triples (group : LedgerAssetGroup) : List (Triple String) :=
  group.tokens.map fun token => (group.policyIdHex, token.assetNameHex, token.amount)

def TrezorAssetGroup.triples (group : TrezorAssetGroup) : List (Triple String) :=
  group.tokenAmounts.map fun token => (group.policyId, token.assetNameBytes, token.amount)

/-- The buffers of the body are written in hexadecimal digits. -/
def AssetMap.triples (assets : AssetMap) : List (Triple ℕ) :=
  assets.flatMap fun (policyId, tokens) =>
    tokens.map fun (name, quantity) => (hexOfBytes policyId, hexOfBytes name, quantity)

/-- A triple with its quantity written out. -/
def Triple.written (triple : Triple ℕ) : Triple String :=
  (triple.1, triple.2.1, toString triple.2.2)

/-- Each policy once; policies and the tokens of a policy are in canonical order. -/
structure Canonical (groups : List (String × List Asset)) : Prop where
  policies : (groups.map Prod.fst).Pairwise CanonicalLt
  tokens : ∀ g ∈ groups, g.2.Pairwise fun a b => CanonicalLe a.assetName b.assetName
  nonempty : ∀ g ∈ groups, g.2 ≠ []

section

variable {lib : Packages} {assets : List Asset}

/-- `orderBy(['policyId', 'assetName'], ['asc', 'asc'])` -/
def orderedAssets (assets : List Asset) : List Asset :=
  assets.mergeSort fun a b =>
    decide (a.policyId < b.policyId ∨ (a.policyId = b.policyId ∧ a.assetName ≤ b.assetName))

/-- The groups before the tokens of each of them, and the groups themselves, are sorted. -/
def policyGroups (assets : List Asset) : List (String × List Asset) :=
  groupBy Asset.policyId (orderedAssets assets)

def sortTokens (lib : Packages) (group : String × List Asset) : String × List Asset :=
  (group.1, group.2.mergeSort fun token1 token2 =>
    compareStringsCanonically lib token1.assetName token2.assetName ≠ .gt)

theorem groupTokensByPolicyId_eq (lib : Packages) (assets : List Asset) :
    groupTokensByPolicyId lib assets =
      ((policyGroups assets).map (sortTokens lib)).mergeSort fun token1 token2 =>
        compareStringsCanonically lib token1.1 token2.1 ≠ .gt :=
  rfl

theorem groupTokensByPolicyId_perm (lib : Packages) (assets : List Asset) :
    (groupTokensByPolicyId lib assets).Perm ((policyGroups assets).map (sortTokens lib)) := by
  rw [groupTokensByPolicyId_eq]
  exact List.mergeSort_perm _ _

theorem flatMap_policyGroups_perm (assets : List Asset) :
    ((policyGroups assets).flatMap Prod.snd).Perm assets :=
  (flatMap_groupBy_perm _ _).trans (List.mergeSort_perm _ _)

/-- A group of the result, from the group that was sorted. -/
theorem exists_of_mem_groupTokensByPolicyId {g : String × List Asset}
    (hg : g ∈ groupTokensByPolicyId lib assets) : ∃ group ∈ policyGroups assets, sortTokens lib group = g :=
  List.mem_map.1 ((groupTokensByPolicyId_perm lib assets).mem_iff.1 hg)

theorem grouped_groupTokensByPolicyId (lib : Packages) (assets : List Asset) :
    Grouped Asset.policyId (groupTokensByPolicyId lib assets) := by
  have hgroups : Grouped Asset.policyId (policyGroups assets) := grouped_groupBy _ _
  refine ⟨?_, fun g hg => ?_, fun g hg a ha => ?_⟩
  · have hperm := (groupTokensByPolicyId_perm lib assets).map Prod.fst
    rw [List.map_map] at hperm
    exact hperm.nodup_iff.2 hgroups.nodup
  · obtain ⟨group, hmem, rfl⟩ := exists_of_mem_groupTokensByPolicyId hg
    intro hnil
    have hperm : group.2.Perm (sortTokens lib group).2 := (List.mergeSort_perm _ _).symm
    rw [hnil] at hperm
    exact hgroups.nonempty group hmem hperm.eq_nil
  · obtain ⟨group, hmem, rfl⟩ := exists_of_mem_groupTokensByPolicyId hg
    exact hgroups.keyed group hmem a (List.mem_mergeSort.1 ha)

/-- No token is lost or made up. -/
theorem flatMap_groupTokensByPolicyId_perm (lib : Packages) (assets : List Asset) :
    ((groupTokensByPolicyId lib assets).flatMap Prod.snd).Perm assets := by
  have hsorted : (((policyGroups assets).map (sortTokens lib)).flatMap Prod.snd).Perm
      ((policyGroups assets).flatMap Prod.snd) := by
    rw [List.flatMap_map]
    exact List.Perm.flatMap_left _ fun group _ => List.mergeSort_perm _ _
  exact ((groupTokensByPolicyId_perm lib assets).flatMap_right _).trans
    (hsorted.trans (flatMap_policyGroups_perm assets))

/-- The tokens of a group have its policy id. -/
theorem triples_eq_map {groups : List (String × List Asset)} (h : Grouped Asset.policyId groups) :
    triples groups = (groups.flatMap Prod.snd).map Asset.triple := by
  rw [List.map_flatMap]
  refine List.flatMap_congr fun g hg => List.map_congr_left fun a ha => ?_
  rw [Asset.triple, h.keyed g hg a ha]

/-- A token of the result is one of the assets. -/
theorem mem_assets_of_mem {g : String × List Asset} {token : Asset}
    (hg : g ∈ groupTokensByPolicyId lib assets) (ht : token ∈ g.2) : token ∈ assets :=
  (flatMap_groupTokensByPolicyId_perm lib assets).mem_iff.1 (List.mem_flatMap.2 ⟨g, hg, ht⟩)

/-- A policy of the result is that of one of the assets. -/
theorem exists_policyId_eq {g : String × List Asset} (hg : g ∈ groupTokensByPolicyId lib assets) :
    ∃ token ∈ assets, token.policyId = g.1 := by
  have hgrouped := grouped_groupTokensByPolicyId lib assets
  obtain ⟨token, ht⟩ := List.exists_mem_of_ne_nil _ (hgrouped.nonempty g hg)
  exact ⟨token, mem_assets_of_mem hg ht, hgrouped.keyed g hg token ht⟩

theorem canonical_groupTokensByPolicyId (hlocale : AgreesOnHex lib.localeCompare)
    (hassets : ∀ asset ∈ assets, HexAsset asset) : Canonical (groupTokensByPolicyId lib assets) := by
  have hgrouped := grouped_groupTokensByPolicyId lib assets
  refine ⟨?_, fun g hg => ?_, hgrouped.nonempty⟩
  · have hhex : ∀ g ∈ (policyGroups assets).map (sortTokens lib), IsHex g.1.toList := by
      intro g hg
      obtain ⟨token, ht, hpolicy⟩ :=
        exists_policyId_eq ((groupTokensByPolicyId_perm lib assets).mem_iff.2 hg)
      exact hpolicy ▸ (hassets token ht).policyId
    have hsorted := List.pairwise_map.2 (pairwise_mergeSort_canonically hlocale Prod.fst hhex)
    rw [← groupTokensByPolicyId_eq] at hsorted
    exact hsorted.imp₂ (fun s t hle hne => hle.lt_of_ne hne) hgrouped.nodup
  · obtain ⟨group, hmem, rfl⟩ := exists_of_mem_groupTokensByPolicyId hg
    refine pairwise_mergeSort_canonically hlocale Asset.assetName fun token ht => ?_
    exact (hassets token (mem_assets_of_mem hg (List.mem_mergeSort.2 ht))).assetName

/-- **Canonical token bundles.** Each policy comes once, policies and tokens are in canonical order, no
    token is lost or merged, and both devices and the body get the same triples in the same order. -/
theorem canonical_token_bundles (hlocale : AgreesOnHex lib.localeCompare)
    (hassets : ∀ asset ∈ assets, HexAsset asset) :
    Canonical (groupTokensByPolicyId lib assets) ∧
      (triples (groupTokensByPolicyId lib assets)).Perm (assets.map Asset.triple) ∧
      (SophieLedger.prepareTokenBundle lib assets).flatMap LedgerAssetGroup.triples =
        (triples (groupTokensByPolicyId lib assets)).map Triple.written ∧
      (SophieTrezor.prepareTokenBundle lib assets).flatMap TrezorAssetGroup.triples =
        (triples (groupTokensByPolicyId lib assets)).map Triple.written ∧
      (SophieTxOutputAssets lib assets).triples = triples (groupTokensByPolicyId lib assets) := by
  refine ⟨canonical_groupTokensByPolicyId hlocale hassets, ?_, ?_, ?_, ?_⟩
  · rw [triples_eq_map (grouped_groupTokensByPolicyId lib assets)]
    exact (flatMap_groupTokensByPolicyId_perm lib assets).map _
  · unfold SophieLedger.prepareTokenBundle triples
    rw [List.flatMap_map, List.map_flatMap]
    refine List.flatMap_congr fun g _ => ?_
    rw [List.map_map]
    exact List.map_map ..
  · unfold SophieTrezor.prepareTokenBundle triples
    rw [List.flatMap_map, List.map_flatMap]
    refine List.flatMap_congr fun g _ => ?_
    rw [List.map_map]
    exact List.map_map ..
  · unfold SophieTxOutputAssets AssetMap.triples triples
    rw [List.flatMap_map]
    refine List.flatMap_congr fun g hg => ?_
    obtain ⟨token, ht, hpolicy⟩ := exists_policyId_eq hg
    have hpolicyId : hexOfBytes (bufferFromHex g.1) = g.1 := by
      have hhex := hassets token ht
      rw [← hpolicy]
      exact hexOfBytes_bufferFromHex hhex.policyId (by rw [hhex.policyId_length])
    show List.map _ (List.map _ g.2) = _
    rw [List.map_map]
    refine List.map_congr_left fun token ht => ?_
    have hhex := hassets token (mem_assets_of_mem hg ht)
    show (hexOfBytes (bufferFromHex g.1), hexOfBytes (bufferFromHex token.assetName), _) = _
    rw [hpolicyId, hexOfBytes_bufferFromHex hhex.assetName hhex.assetName_even]

/-- Packages of which only the comparison is used. -/
def hexPackages : Packages where
  bech32DecodeAddress _ := []
  base58Decode _ := []
  bufToHex := hexOfBytes
  strToPath _ := []
  localeCompare := compare

/-- Two policies, and tokens whose names do not come in canonical order. -/
def sampleAssets : List Asset :=
  let policyId (digit : Char) : String := String.ofList (List.replicate 56 digit)
  [⟨policyId 'b', "c0ffee", 3⟩, ⟨policyId 'a', "ff00", 1⟩, ⟨policyId 'b', "ee", 5⟩, ⟨policyId 'a', "ff00", 2⟩]

/-- A policy id may be one digit, written 56 times. -/
theorem hexAsset_replicate {digit : Char} (hdigit : IsHex [digit]) {assetName : String}
    (hname : IsHex assetName.toList) (heven : assetName.length % 2 = 0) (quantity : ℕ) :
    HexAsset ⟨String.ofList (List.replicate 56 digit), assetName, quantity⟩ where
  policyId := by
    intro c hc
    rw [String.toList_ofList] at hc
    obtain rfl := List.eq_of_mem_replicate hc
    exact hdigit c (List.mem_singleton_self c)
  policyId_length := by rw [String.length_ofList, List.length_replicate]
  assetName := hname
  assetName_even := heven

theorem canonical_token_bundles_sample : Canonical (groupTokensByPolicyId hexPackages sampleAssets) ∧
    (triples (groupTokensByPolicyId hexPackages sampleAssets)).Perm (sampleAssets.map Asset.triple) := by
  have hhex : ∀ asset ∈ sampleAssets, HexAsset asset := by
    intro asset ha
    simp only [sampleAssets, List.mem_cons, List.not_mem_nil, or_false] at ha
    rcases ha with rfl | rfl | rfl | rfl
    · exact hexAsset_replicate (by simp [IsHex]) (by simp [IsHex]) (by decide) 3
    · exact hexAsset_replicate (by simp [IsHex]) (by simp [IsHex]) (by decide) 1
    · exact hexAsset_replicate (by simp [IsHex]) (by simp [IsHex]) (by decide) 5
    · exact hexAsset_replicate (by simp [IsHex]) (by simp [IsHex]) (by decide) 2
  have hlocale : AgreesOnHex hexPackages.localeCompare := fun _ _ _ _ => rfl
  have h := canonical_token_bundles hlocale hhex
  exact ⟨h.1, h.2.1⟩

end

end Klarity
