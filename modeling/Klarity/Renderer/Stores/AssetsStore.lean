import Klarity.Renderer.Api.Assets
import Klarity.Renderer.Stores.Lib.Request

set_option autoImplicit false

/-! # The decimals of the assets

A submission changes the asset that is shown, refreshes the assets of all wallets, and writes the decimals to
the local storage. A refresh asks the backend first and the local storage then. The storage answers messages in
the order in which they were sent. A wallet whose request waits for a response is not asked for again.

`submitted` are the last decimals submitted for each asset, those of earlier sessions included; no step reads
them. -/

namespace Klarity.AssetsStore

open BccApi (ApiAsset AssetDomain AssetsLocalData GetAssetsResponse StoredAssetMetadata createAssets)

/-! ## The model -/

structure GetAssetsRequest where
  walletId : String
  deriving DecidableEq, Repr

variable {Err : Type}

/-- How far a call of `getAssets()` has come. `read` is what the local storage had when it handled the message,
and `settled` a call whose response the request has handled. -/
inductive Phase (Err : Type)
  | calling
  | reading (response : List ApiAsset)
  | read (response : List ApiAsset) (assetsLocalData : AssetsLocalData)
  | returned (outcome : Except Err GetAssetsResponse)
  | settled

def Phase.isSettled : Phase Err → Bool
  | .settled => true
  | _ => false

/-- The call with the number `call` of the request of a wallet. -/
structure GetAssetsCall (Err : Type) where
  walletId : String
  call : ℕ
  phase : Phase Err

/-- A message to the local storage: the local data is read for a call, or the decimals of an asset are
written. -/
inductive Message
  | get (call : ℕ)
  | set (id : String) (decimals : ℕ)
  deriving DecidableEq, Repr

abbrev AssetsRequest (Err : Type) := Request.State GetAssetsRequest GetAssetsResponse Err

/-- A wallet without a request gets a new one when it is first asked for. -/
structure State (Err : Type) where
  wallets : List String := []
  active : Option String := none
  isConnected : Bool := false
  assetsRequests : String → AssetsRequest Err := fun _ => {}
  calls : List (GetAssetsCall Err) := []
  messages : List Message := []
  storedAssetMetadata : StoredAssetMetadata := fun _ => none
  assetsLocalData : AssetsLocalData
  submitted : AssetsLocalData

/-- `handleMessage` is the local storage, `localDataAnswered` the call that goes on with its answer, and
`respond` the request that handles the response of a call. -/
inductive Event (Err : Type)
  | refreshAssetsData
  | assetSettingsSubmit (policyId assetName : String) (decimals : ℕ)
  | assetsAnswered (call : ℕ) (response : Except Err (List ApiAsset))
  | handleMessage (error : Option Err)
  | localDataAnswered (call : ℕ)
  | tick (walletId : String) (i : ℕ)
  | respond (call : ℕ)
  | wallets (wallets : List String)
  | setActive (active : Option String)
  | connection (isConnected : Bool)

/-- The assets of the result of a request. -/
def shown (request : AssetsRequest Err) : List AssetDomain :=
  match request.result with
  | some response => response.assets
  | none => []

def State.all (s : State Err) : List AssetDomain :=
  match s.active with
  | some walletId => shown (s.assetsRequests walletId)
  | none => []

/-- `details` has the last one of the assets with the same key. -/
def updateLast (id : String) (decimals : ℕ) : List AssetDomain → List AssetDomain
  | [] => []
  | asset :: assets =>
      if assets.any (·.key = id) then asset :: updateLast id decimals assets
      else if asset.key = id then asset.update decimals :: assets
      else asset :: assets

/-- The asset that is shown is changed in place, in the result of its request. -/
def updateShown (id : String) (decimals : ℕ) (request : AssetsRequest Err) : AssetsRequest Err :=
  { request with
    result := request.result.map fun response =>
      { response with assets := updateLast id decimals response.assets } }

/-- `if (assetDomain) assetDomain.update({ decimals })` -/
def updateAsset (s : State Err) (id : String) (decimals : ℕ) : State Err :=
  match s.active with
  | some walletId =>
      { s with
        assetsRequests :=
          Function.update s.assetsRequests walletId (updateShown id decimals (s.assetsRequests walletId)) }
  | none => s

/-- A call is made unless the request waits for a response. -/
def refreshWallet (s : State Err) (walletId : String) : State Err :=
  let request := s.assetsRequests walletId
  { s with
    assetsRequests := Function.update s.assetsRequests walletId (request.execute ⟨walletId⟩)
    calls :=
      if request.isWaitingForResponse then s.calls
      else s.calls ++ [⟨walletId, request.calls.length, .calling⟩] }

def refreshAssetsData (s : State Err) : State Err :=
  if s.isConnected then s.wallets.foldl refreshWallet s else s

def assetSettingsSubmit (s : State Err) (id : String) (decimals : ℕ) : State Err :=
  let s := refreshAssetsData (updateAsset s id decimals)
  { s with
    messages := s.messages ++ [.set id decimals]
    submitted := Function.update s.submitted id (some decimals) }

def State.phase (s : State Err) (k : ℕ) : Option (Phase Err) :=
  s.calls[k]?.map GetAssetsCall.phase

/-- The call comes to a phase. -/
def State.setPhase (s : State Err) (k : ℕ) (phase : Phase Err) : State Err :=
  { s with calls := s.calls.modify k fun call => { call with phase := phase } }

/-- The local storage handles the message, or answers with an error. -/
def handleMessage (s : State Err) (error : Option Err) : Message → State Err
  | .get k =>
      match s.phase k, error with
      | some (.reading response), none => s.setPhase k (.read response s.assetsLocalData)
      | some (.reading _), some error => s.setPhase k (.returned (.error error))
      | _, _ => s
  | .set id decimals =>
      match error with
      | none => { s with assetsLocalData := Function.update s.assetsLocalData id (some decimals) }
      | some _ => s

def step (s : State Err) : Event Err → Option (State Err)
  | .refreshAssetsData => some (refreshAssetsData s)
  | .assetSettingsSubmit policyId assetName decimals =>
      some (assetSettingsSubmit s (policyId ++ assetName) decimals)
  | .assetsAnswered k response =>
      match s.phase k, response with
      | some .calling, .ok response =>
          some { s.setPhase k (.reading response) with messages := s.messages ++ [.get k] }
      | some .calling, .error error => some (s.setPhase k (.returned (.error error)))
      | _, _ => none
  | .handleMessage error =>
      match s.messages with
      | message :: messages => some (handleMessage { s with messages := messages } error message)
      | [] => none
  | .localDataAnswered k =>
      match s.phase k with
      | some (.read response assetsLocalData) =>
          let (assets, stored) := createAssets assetsLocalData s.storedAssetMetadata response
          some { s.setPhase k (.returned (.ok ⟨assets, response.length⟩)) with storedAssetMetadata := stored }
      | _ => none
  | .tick walletId i => do
      let request ← Request.step (s.assetsRequests walletId) (.tick i)
      some { s with assetsRequests := Function.update s.assetsRequests walletId request }
  | .respond k =>
      match s.calls[k]? with
      | some ⟨walletId, i, .returned outcome⟩ => do
          let request ← Request.step (s.assetsRequests walletId) (.respond i outcome)
          some { s.setPhase k .settled with
            assetsRequests := Function.update s.assetsRequests walletId request }
      | _ => none
  | .wallets wallets => some { s with wallets := wallets }
  | .setActive active => some { s with active := active }
  | .connection isConnected => some { s with isConnected := isConnected }

def machine (Err : Type) (assetsLocalData : AssetsLocalData) : Machine (State Err) (Event Err) :=
  ⟨{ assetsLocalData := assetsLocalData, submitted := assetsLocalData }, step⟩

end Klarity.AssetsStore
