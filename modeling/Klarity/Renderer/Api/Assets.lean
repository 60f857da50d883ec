import Mathlib.Data.Nat.Notation
import Mathlib.Logic.Function.Basic

set_option autoImplicit false

/-! # BccApi.getAssets

The assets of a wallet are made from two answers: the list of the backend, and the decimals that the local
storage has for each asset. The metadata of an asset is remembered for answers that come without it. -/

namespace Klarity.BccApi

structure AssetMetadata where
  name : String
  ticker : String
  description : String
  decimals : Option ℕ := none
  url : Option String := none
  logo : Option String := none
  deriving DecidableEq, Repr

structure ApiAsset where
  policyId : String
  assetName : String
  fingerprint : String
  metadata : Option AssetMetadata := none
  deriving DecidableEq, Repr

/-- An asset as it is shown. -/
structure AssetDomain where
  policyId : String
  assetName : String
  uniqueId : Option String
  fingerprint : String
  metadata : Option AssetMetadata
  decimals : Option ℕ
  recommendedDecimals : Option ℕ
  deriving DecidableEq, Repr

structure GetAssetsResponse where
  assets : List AssetDomain
  total : ℕ
  deriving DecidableEq, Repr

/-- `{ decimals }` of every asset that has local data. -/
abbrev AssetsLocalData := String → Option ℕ

abbrev StoredAssetMetadata := String → Option AssetMetadata

/-- What the local data and the stored metadata are kept under. -/
def ApiAsset.key (data : ApiAsset) : String :=
  data.policyId ++ data.assetName

def AssetDomain.key (asset : AssetDomain) : String :=
  asset.policyId ++ asset.assetName

/-- `update({ decimals })`; the update has no `uniqueId`, and the asset none after it. -/
def AssetDomain.update (asset : AssetDomain) (decimals : ℕ) : AssetDomain :=
  { asset with decimals := some decimals, uniqueId := none }

def createAssetFromServerData (data : ApiAsset) (decimals : Option ℕ)
    (storedAssetMetadata : StoredAssetMetadata) : AssetDomain × StoredAssetMetadata :=
  let metadata := data.metadata.or (storedAssetMetadata data.key)
  ({  policyId := data.policyId
      assetName := data.assetName
      fingerprint := data.fingerprint
      metadata := metadata
      decimals := decimals
      recommendedDecimals := metadata.bind (·.decimals)
      uniqueId := some data.key },
    match data.metadata with
    | some metadata => Function.update storedAssetMetadata data.key (some metadata)
    | none => storedAssetMetadata)

/-- The assets of an answer, one after the other. -/
def createAssets (assetsLocalData : AssetsLocalData) :
    StoredAssetMetadata → List ApiAsset → List AssetDomain × StoredAssetMetadata
  | stored, [] => ([], stored)
  | stored, data :: response =>
      let (asset, stored) := createAssetFromServerData data (assetsLocalData data.key) stored
      let (assets, stored) := createAssets assetsLocalData stored response
      (asset :: assets, stored)

variable {assetsLocalData : AssetsLocalData}

@[simp] theorem key_createAssetFromServerData (data : ApiAsset) (decimals : Option ℕ)
    (stored : StoredAssetMetadata) : (createAssetFromServerData data decimals stored).1.key = data.key :=
  rfl

@[simp] theorem decimals_createAssetFromServerData (data : ApiAsset) (decimals : Option ℕ)
    (stored : StoredAssetMetadata) : (createAssetFromServerData data decimals stored).1.decimals = decimals :=
  rfl

/-- An asset has the decimals of its local data, whatever its metadata. -/
theorem mem_createAssets {stored : StoredAssetMetadata} {response : List ApiAsset} {asset : AssetDomain}
    (h : asset ∈ (createAssets assetsLocalData stored response).1) :
    (∃ data ∈ response, data.key = asset.key) ∧ asset.decimals = assetsLocalData asset.key := by
  induction response generalizing stored with
  | nil => cases h
  | cons data response ih =>
    rcases List.mem_cons.1 h with rfl | h
    · exact ⟨⟨data, List.mem_cons_self, rfl⟩, rfl⟩
    · obtain ⟨⟨data', hdata', hkey⟩, hdecimals⟩ := ih h
      exact ⟨⟨data', List.mem_cons_of_mem _ hdata', hkey⟩, hdecimals⟩

end Klarity.BccApi
