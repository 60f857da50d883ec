import Klarity.Renderer.Stores.Lib.CachedRequest.Results
import Klarity.Renderer.Stores.Lib.Request.Awaited
import Klarity.Renderer.Stores.Lib.Request.Proofs
import Klarity.Renderer.Stores.WalletsStore.ActiveWallet

set_option autoImplicit false

/-! # The address to receive on

The last generated address is shown until it is marked as used, and else the last unused one of the list of the
active wallet. It is set when the answer to its creation arrives, whichever wallet is active by then, and its
mark is that of its creation. -/

namespace Klarity.AddressesStore

open Request (settled)
open WalletsStore (ListedWallet setActiveWallet hasActiveWalletBeenChanged)

/-! ## The model -/

structure WalletAddress where
  id : String
  used : Bool
  spendingPath : String
  deriving DecidableEq, Repr

structure GetAddressesRequest where
  walletId : String
  isLegacy : Bool
  deriving DecidableEq, Repr

structure CreateColeWalletAddressRequest where
  addressIndex : Option ℕ
  passphrase : String
  walletId : String
  deriving DecidableEq, Repr

variable {Err : Type}

/-- An entry of `addressesRequests`. -/
structure AddressesRequest (Err : Type) where
  walletId : String
  allRequest : CachedRequest.State GetAddressesRequest (List WalletAddress) Err := {}

/-- What a call of `_createColeWalletAddress()` awaits. -/
inductive Creation
  | accountIndex (walletId passphrase : String)
  | created (promise : Option ℕ)
  deriving DecidableEq, Repr

/-- `all`, `active` and `isConnected` are those of the stores of wallets and of the network. -/
structure State (Err : Type) where
  all : List ListedWallet := []
  active : Option ListedWallet := none
  isConnected : Bool := false
  lastGeneratedAddress : Option WalletAddress := none
  addressesRequests : List (AddressesRequest Err) := []
  error : Option Err := none
  createColeWalletAddressRequest : Request.State CreateColeWalletAddressRequest WalletAddress Err := {}
  creations : List Creation := []

/-- `accountIndex` is the answer of the API to the first await of a creation, `walletDeleted` what
`_deleteWallet()` does to the active wallet. -/
inductive Event (Err : Type)
  | createColeWalletAddress (walletId passphrase : String)
  | accountIndex (creation : ℕ) (outcome : Except Err (List WalletAddress))
  | resume (creation : ℕ)
  | tick (i : ℕ)
  | respond (i : ℕ) (outcome : Except Err WalletAddress)
  | addressesTick (walletId : String) (i : ℕ)
  | addressesRespond (walletId : String) (i : ℕ) (outcome : Except Err (List WalletAddress))
  | resetErrors
  | wallets (all : List ListedWallet)
  | connection (isConnected : Bool)
  | setActiveWallet (walletId : String)
  | unsetActiveWallet
  | walletDeleted
  | refreshWalletsData (walletIds : List String)
  | resetWalletsData

/-- An array has no `accountIndex`. -/
def getAccountIndex (_ : List WalletAddress) : Option ℕ :=
  none

/-- A wallet without an entry gets a new request each time. -/
def State.getAddressesAllRequest (s : State Err) (walletId : String) :
    CachedRequest.State GetAddressesRequest (List WalletAddress) Err :=
  ((s.addressesRequests.find? (·.walletId = walletId)).map (·.allRequest)).getD {}

/-- What happens to the request of a wallet; the new one that a wallet without an entry gets is lost. -/
def State.updateRequest (s : State Err) (walletId : String)
    (f : CachedRequest.State GetAddressesRequest (List WalletAddress) Err →
      CachedRequest.State GetAddressesRequest (List WalletAddress) Err) : State Err :=
  { s with
    addressesRequests := s.addressesRequests.map fun request =>
      if request.walletId = walletId then { request with allRequest := f request.allRequest } else request }

def refreshWallet (s : State Err) (wallet : ListedWallet) : State Err :=
  s.updateRequest wallet.id fun request => (request.invalidate false).execute ⟨wallet.id, wallet.isLegacy⟩

def refreshAddresses (s : State Err) : State Err :=
  if s.isConnected then s.all.foldl refreshWallet s else s

def step (s : State Err) : Event Err → Option (State Err)
  | .createColeWalletAddress walletId passphrase =>
      some { s with creations := s.creations ++ [.accountIndex walletId passphrase] }
  | .accountIndex k outcome =>
      match s.creations[k]?, outcome with
      | some (.accountIndex walletId passphrase), .ok result =>
          let executed := s.createColeWalletAddressRequest.execute ⟨getAccountIndex result, passphrase, walletId⟩
          some { s with
            createColeWalletAddressRequest := executed
            creations := s.creations.set k (.created executed.promise) }
      | some (.accountIndex _ _), .error error =>
          some { s with error := some error, creations := s.creations.eraseIdx k }
      | _, _ => none
  | .resume k =>
      match s.creations[k]? with
      | some (.created promise) => do
          match ← settled s.createColeWalletAddressRequest promise with
          | .ok address =>
              some { refreshAddresses s with
                lastGeneratedAddress := some address
                error := none
                creations := s.creations.eraseIdx k }
          | .error error => some { s with error := some error, creations := s.creations.eraseIdx k }
      | _ => none
  | .tick i => do
      let request ← Request.step s.createColeWalletAddressRequest (.tick i)
      some { s with createColeWalletAddressRequest := request }
  | .respond i outcome => do
      let request ← Request.step s.createColeWalletAddressRequest (.respond i outcome)
      some { s with createColeWalletAddressRequest := request }
  | .addressesTick walletId i => do
      let request ← CachedRequest.step (s.getAddressesAllRequest walletId) (.tick i)
      some (s.updateRequest walletId fun _ => request)
  | .addressesRespond walletId i outcome => do
      let request ← CachedRequest.step (s.getAddressesAllRequest walletId) (.respond i outcome)
      some (s.updateRequest walletId fun _ => request)
  | .resetErrors => some { s with error := none }
  | .wallets all => some { s with all := all }
  | .connection isConnected => some { s with isConnected := isConnected }
  | .setActiveWallet walletId =>
      some { s with
        active := setActiveWallet s.all s.active walletId
        lastGeneratedAddress :=
          if !s.all.isEmpty && hasActiveWalletBeenChanged s.active walletId then none
          else s.lastGeneratedAddress }
  | .unsetActiveWallet => some { s with active := none, lastGeneratedAddress := none }
  -- with wallets left, another one is opened; the last one leaves the last generated address
  | .walletDeleted => some { s with active := if s.all.isEmpty then none else s.active }
  | .refreshWalletsData walletIds =>
      some (refreshAddresses { s with
        addressesRequests := walletIds.map fun walletId => ⟨walletId, s.getAddressesAllRequest walletId⟩ })
  | .resetWalletsData => some { s with addressesRequests := [] }

def machine (Err : Type) : Machine (State Err) (Event Err) :=
  ⟨{}, step⟩

def lastUnused (addresses : List WalletAddress) : Option WalletAddress :=
  let unusedAddresses := addresses.filter fun address => !address.used
  if unusedAddresses.isEmpty then addresses.getLast? else unusedAddresses.getLast?

/-- `active` of the store. -/
def State.activeAddress (s : State Err) : Option WalletAddress :=
  match s.active with
  | none => none
  | some wallet =>
      match s.lastGeneratedAddress.filter (fun address => !address.used) with
      -- If address generated and not used, set as active address
      | some lastGeneratedAddress => some lastGeneratedAddress
      | none => (s.getAddressesAllRequest wallet.id).result.bind lastUnused

/-! ## What is promised -/

variable {s s' : State Err} {belongs : String → String → Prop}

/-- The list has an unused entry for the address, or the address is unused and not listed. -/
def IsUnused (addresses : List WalletAddress) (address : WalletAddress) : Prop :=
  (∃ listed ∈ addresses, listed.id = address.id ∧ listed.used = false) ∨
    (address.used = false ∧ ∀ listed ∈ addresses, listed.id ≠ address.id)

def HasUnused (addresses : List WalletAddress) : Prop :=
  ∃ listed ∈ addresses, listed.used = false

/-- The address shown is one of the active wallet, and unused if the latest list of the wallet has an unused
one. -/
structure Receives (belongs : String → String → Prop) (s : State Err) : Prop where
  ofActiveWallet : ∀ address, s.activeAddress = some address →
    ∃ wallet, s.active = some wallet ∧ belongs wallet.id address.id
  unused : ∀ wallet addresses, s.active = some wallet →
    (s.getAddressesAllRequest wallet.id).result = some addresses → HasUnused addresses →
    ∃ address, s.activeAddress = some address ∧ IsUnused addresses address

/-- The list does not mark as used an address that is taken for unused, while it has an unused one. -/
def Agrees (addresses : List WalletAddress) (address : WalletAddress) : Prop :=
  address.used = false → HasUnused addresses → IsUnused addresses address

/-- The latest list of the active wallet agrees. -/
def ListAgrees (s : State Err) (address : WalletAddress) : Prop :=
  ∀ wallet addresses, s.active = some wallet → (s.getAddressesAllRequest wallet.id).result = some addresses →
    Agrees addresses address

/-- The backend answers a call with addresses of the wallet that the call is for. -/
def Honest (belongs : String → String → Prop) (s : State Err) : Event Err → Prop
  | .respond i (.ok address) => ∀ call, s.createColeWalletAddressRequest.calls[i]? = some call →
      belongs call.args.walletId address.id
  | .addressesRespond walletId i (.ok addresses) =>
      ∀ call, (s.getAddressesAllRequest walletId).calls[i]? = some call →
        ∀ address ∈ addresses, belongs call.args.walletId address.id
  | _ => True

/-- A list that becomes the latest one of the active wallet agrees with the last generated address. -/
def LatestAgrees (s : State Err) (walletId : String) (addresses : List WalletAddress) : Prop :=
  ∀ wallet address, s.active = some wallet → wallet.id = walletId → s.lastGeneratedAddress = some address →
    Agrees addresses address

/-- A creation goes on with an address while its wallet is active, or none is, and the lists agree with what is
generated. -/
def InOrder (s : State Err) : Event Err → Prop
  | .resume k => ∀ p call address, s.creations[k]? = some (.created (some p)) →
      s.createColeWalletAddressRequest.calls[p]? = some call → call.outcome = some (.ok address) →
      (∀ wallet, s.active = some wallet → wallet.id = call.args.walletId) ∧ ListAgrees s address
  | .addressesRespond walletId _ (.ok addresses) => LatestAgrees s walletId addresses
  | .addressesTick walletId i => ∀ call addresses,
      (s.getAddressesAllRequest walletId).calls[i]? = some call →
      (s.getAddressesAllRequest walletId).cachedResult call = some addresses → LatestAgrees s walletId addresses
  | _ => True

/-! ## The requests of the wallets -/

variable {f : CachedRequest.State GetAddressesRequest (List WalletAddress) Err →
  CachedRequest.State GetAddressesRequest (List WalletAddress) Err}

/-- Only the request of the wallet changes, and only if the wallet has one. -/
theorem getAddressesAllRequest_updateRequest (s : State Err) (walletId other : String) :
    (s.updateRequest walletId f).getAddressesAllRequest other = s.getAddressesAllRequest other ∨
      other = walletId ∧
        (s.updateRequest walletId f).getAddressesAllRequest other = f (s.getAddressesAllRequest other) := by
  unfold State.getAddressesAllRequest State.updateRequest
  induction s.addressesRequests with
  | nil => exact .inl rfl
  | cons request requests ih =>
    by_cases hrequest : request.walletId = walletId
    · by_cases hother : request.walletId = other
      · right
        simp [← hrequest, ← hother]
      · simpa [hrequest, hrequest ▸ hother] using ih
    · by_cases hother : request.walletId = other
      · left
        simp [← hother, hrequest]
      · simpa [hrequest, hother] using ih

theorem result_updateRequest (hf : ∀ request, (f request).result = request.result) (s : State Err)
    (walletId other : String) : ((s.updateRequest walletId f).getAddressesAllRequest other).result =
      (s.getAddressesAllRequest other).result := by
  rcases getAddressesAllRequest_updateRequest (f := f) s walletId other with hsame | ⟨_, hupdated⟩
  · rw [hsame]
  · rw [hupdated, hf]

/-- A wallet has the request of its entry, or else a new one. -/
theorem getAddressesAllRequest_cases (s : State Err) (walletId : String) :
    (∃ request ∈ s.addressesRequests, request.walletId = walletId ∧
      s.getAddressesAllRequest walletId = request.allRequest) ∨ s.getAddressesAllRequest walletId = {} := by
  unfold State.getAddressesAllRequest
  cases hfound : s.addressesRequests.find? (·.walletId = walletId) with
  | none => exact .inr rfl
  | some request =>
    have hid : request.walletId = walletId := by simpa using List.find?_some hfound
    exact .inl ⟨request, List.mem_of_find?_eq_some hfound, hid, rfl⟩

/-- The calls of a request are made for a wallet, and answered with addresses of that wallet. -/
def OfWallet (belongs : String → String → Prop) (walletId : String)
    (request : CachedRequest.State GetAddressesRequest (List WalletAddress) Err) : Prop :=
  CachedRequest.Shows request (·.walletId = walletId) fun addresses => ∀ address ∈ addresses, belongs walletId address.id

def OfWallets (belongs : String → String → Prop) (s : State Err) : Prop :=
  ∀ request ∈ s.addressesRequests, OfWallet belongs request.walletId request.allRequest

theorem OfWallets.request (h : OfWallets belongs s) (walletId : String) :
    OfWallet belongs walletId (s.getAddressesAllRequest walletId) := by
  rcases getAddressesAllRequest_cases s walletId with ⟨request, hrequest, rfl, hsame⟩ | hnew
  · rw [hsame]
    exact h request hrequest
  · rw [hnew]
    exact .init

theorem OfWallets.updateRequest (h : OfWallets belongs s) {walletId : String}
    (hf : ∀ request ∈ s.addressesRequests, request.walletId = walletId →
      OfWallet belongs walletId (f request.allRequest)) :
    OfWallets belongs (s.updateRequest walletId f) := by
  intro request hrequest
  obtain ⟨old, hold, rfl⟩ := List.mem_map.1 hrequest
  by_cases hid : old.walletId = walletId
  · rw [if_pos hid]
    have hshows := hf old hold hid
    rw [← hid] at hshows
    exact hshows
  · rw [if_neg hid]
    exact h old hold

/-! ## A refresh -/

/-- A refresh only starts calls: what changes is the requests, and not what they show. -/
structure OnlyRefreshes (s s' : State Err) : Prop where
  active : s'.active = s.active
  lastGeneratedAddress : s'.lastGeneratedAddress = s.lastGeneratedAddress
  createColeWalletAddressRequest : s'.createColeWalletAddressRequest = s.createColeWalletAddressRequest
  result : ∀ walletId, (s'.getAddressesAllRequest walletId).result = (s.getAddressesAllRequest walletId).result

theorem onlyRefreshes_refreshWallet (s : State Err) (wallet : ListedWallet) :
    OnlyRefreshes s (refreshWallet s wallet) := by
  refine ⟨rfl, rfl, rfl, ?_⟩
  intro walletId
  refine result_updateRequest ?_ s wallet.id walletId
  intro request
  rw [CachedRequest.result_execute, CachedRequest.result_invalidate]

theorem onlyRefreshes_foldl (wallets : List ListedWallet) (s : State Err) :
    OnlyRefreshes s (wallets.foldl refreshWallet s) := by
  induction wallets generalizing s with
  | nil => exact ⟨rfl, rfl, rfl, fun _ => rfl⟩
  | cons wallet wallets ih =>
    have hwallet := onlyRefreshes_refreshWallet s wallet
    have hrest := ih (refreshWallet s wallet)
    refine ⟨hrest.active.trans hwallet.active, hrest.lastGeneratedAddress.trans hwallet.lastGeneratedAddress,
      hrest.createColeWalletAddressRequest.trans hwallet.createColeWalletAddressRequest, ?_⟩
    intro walletId
    exact (hrest.result walletId).trans (hwallet.result walletId)

theorem onlyRefreshes_refreshAddresses (s : State Err) : OnlyRefreshes s (refreshAddresses s) := by
  unfold refreshAddresses
  by_cases hconnected : s.isConnected
  · rw [if_pos hconnected]
    exact onlyRefreshes_foldl s.all s
  · rw [if_neg hconnected]
    exact ⟨rfl, rfl, rfl, fun _ => rfl⟩

theorem OfWallets.refreshWallet (h : OfWallets belongs s) (wallet : ListedWallet) :
    OfWallets belongs (refreshWallet s wallet) := by
  refine h.updateRequest ?_
  intro request hrequest hid
  have hshows := h request hrequest
  rw [hid] at hshows
  exact (hshows.invalidate false).execute rfl

theorem OfWallets.foldl (h : OfWallets belongs s) (wallets : List ListedWallet) :
    OfWallets belongs (wallets.foldl AddressesStore.refreshWallet s) := by
  induction wallets generalizing s with
  | nil => exact h
  | cons wallet wallets ih => exact ih (h.refreshWallet wallet)

theorem OfWallets.refreshAddresses (h : OfWallets belongs s) : OfWallets belongs (refreshAddresses s) := by
  unfold AddressesStore.refreshAddresses
  split
  · exact h.foldl s.all
  · exact h

/-! ## The invariant -/

/-- The last generated address is one of the active wallet, and the latest list of the wallet agrees with it. -/
structure Invariant (belongs : String → String → Prop) (s : State Err) : Prop where
  lists : OfWallets belongs s
  created : Request.Recorded s.createColeWalletAddressRequest fun args address =>
    belongs args.walletId address.id
  generated : ∀ wallet address, s.active = some wallet → s.lastGeneratedAddress = some address →
    belongs wallet.id address.id
  agrees : ∀ address, s.lastGeneratedAddress = some address → ListAgrees s address

theorem mem_of_lastUnused {addresses : List WalletAddress} {address : WalletAddress}
    (h : lastUnused addresses = some address) : address ∈ addresses := by
  unfold lastUnused at h
  by_cases hnone : (addresses.filter fun address => !address.used).isEmpty
  · rw [if_pos hnone] at h
    exact List.mem_of_getLast? h
  · rw [if_neg hnone] at h
    exact (List.mem_filter.1 (List.mem_of_getLast? h)).1

theorem lastUnused_of_hasUnused {addresses : List WalletAddress} (h : HasUnused addresses) :
    ∃ address, lastUnused addresses = some address ∧ IsUnused addresses address := by
  obtain ⟨listed, hlisted, hmark⟩ := h
  have hmem : listed ∈ addresses.filter fun address => !address.used := by simp [hlisted, hmark]
  have hne := List.ne_nil_of_mem hmem
  have hlast := List.mem_filter.1 (List.getLast_mem hne)
  refine ⟨_, ?_, .inl ⟨_, hlast.1, rfl, by simpa using hlast.2⟩⟩
  unfold lastUnused
  rw [if_neg (by simpa using ⟨listed, hlisted, hmark⟩), List.getLast?_eq_some_getLast hne]

theorem Invariant.receives (h : Invariant belongs s) : Receives belongs s := by
  refine ⟨?_, ?_⟩
  · intro address haddress
    unfold State.activeAddress at haddress
    split at haddress
    · cases haddress
    · next wallet hwallet =>
        refine ⟨wallet, hwallet, ?_⟩
        split at haddress
        · next generated hgenerated =>
            obtain rfl := Option.some.inj haddress
            exact h.generated wallet _ hwallet (Option.filter_eq_some_iff.1 hgenerated).1
        · obtain ⟨addresses, hresult, haddress⟩ := Option.bind_eq_some_iff.1 haddress
          exact (h.lists.request wallet.id).result addresses hresult address (mem_of_lastUnused haddress)
  · intro wallet addresses hwallet hresult hunused
    unfold State.activeAddress
    rw [hwallet]
    dsimp only
    split
    · next generated hgenerated =>
        obtain ⟨hlast, hmark⟩ := Option.filter_eq_some_iff.1 hgenerated
        refine ⟨generated, rfl, ?_⟩
        exact h.agrees generated hlast wallet addresses hwallet hresult (by simpa using hmark) hunused
    · rw [hresult]
      exact lastUnused_of_hasUnused hunused

/-! ## Steps -/

/-- A step that generates no address and lists none. -/
theorem Invariant.frame (h : Invariant belongs s) (hlists : OfWallets belongs s')
    (hactive : s'.active = s.active) (hgenerated : s'.lastGeneratedAddress = s.lastGeneratedAddress)
    (hrequest : s'.createColeWalletAddressRequest = s.createColeWalletAddressRequest)
    (hresult : ∀ walletId addresses, (s'.getAddressesAllRequest walletId).result = some addresses →
      (s.getAddressesAllRequest walletId).result = some addresses) : Invariant belongs s' := by
  refine ⟨hlists, ?_, ?_, ?_⟩
  · rw [hrequest]
    exact h.created
  · intro wallet address hwallet haddress
    exact h.generated wallet address (hactive.symm.trans hwallet) (hgenerated.symm.trans haddress)
  · intro address haddress wallet addresses hwallet hlist
    exact h.agrees address (hgenerated.symm.trans haddress) wallet addresses (hactive.symm.trans hwallet)
      (hresult wallet.id addresses hlist)

theorem Invariant.refreshAddresses (h : Invariant belongs s) : Invariant belongs (refreshAddresses s) := by
  have hrefresh := onlyRefreshes_refreshAddresses s
  refine h.frame h.lists.refreshAddresses hrefresh.active hrefresh.lastGeneratedAddress
    hrefresh.createColeWalletAddressRequest ?_
  intro walletId addresses hresult
  rw [← hrefresh.result walletId]
  exact hresult

/-- The calls of the request for new addresses change. -/
theorem Invariant.withRequest (h : Invariant belongs s)
    {request : Request.State CreateColeWalletAddressRequest WalletAddress Err} {creations : List Creation}
    (hcreated : Request.Recorded request fun args address => belongs args.walletId address.id) :
    Invariant belongs { s with createColeWalletAddressRequest := request, creations := creations } :=
  ⟨h.lists, hcreated, h.generated, h.agrees⟩

theorem Invariant.resume (h : Invariant belongs s) {k : ℕ} (hok : InOrder s (.resume k))
    (hs : step s (.resume k) = some s') : Invariant belongs s' := by
  simp only [step] at hs
  split at hs
  · next promise hk =>
      obtain ⟨outcome, hsettled, hs⟩ := Option.bind_eq_some_iff.1 hs
      obtain ⟨p, call, rfl, hcall, houtcome⟩ := Request.exists_call_of_settled hsettled
      cases outcome with
      | ok address =>
        cases hs
        obtain ⟨hwallet, hagrees⟩ := hok p call address hk hcall houtcome
        have hrefresh := onlyRefreshes_refreshAddresses s
        refine ⟨h.lists.refreshAddresses, h.refreshAddresses.created, ?_, ?_⟩
        · rintro wallet _ hactive ⟨⟩
          rw [hwallet wallet (hrefresh.active.symm.trans hactive)]
          exact h.created p call address hcall houtcome
        · rintro _ ⟨⟩ wallet addresses hactive hresult
          refine hagrees wallet addresses (hrefresh.active.symm.trans hactive) ?_
          rw [← hrefresh.result wallet.id]
          exact hresult
      | error error =>
        cases hs
        exact ⟨h.lists, h.created, h.generated, h.agrees⟩
  · cases hs

theorem Invariant.setActiveWallet (h : Invariant belongs s) {walletId : String}
    (hs : step s (.setActiveWallet walletId) = some s') : Invariant belongs s' := by
  cases hs
  by_cases hchanged : (!s.all.isEmpty && hasActiveWalletBeenChanged s.active walletId) = true
  · refine ⟨h.lists, h.created, ?_, ?_⟩
    · intro wallet address _ haddress
      rw [if_pos hchanged] at haddress
      cases haddress
    · intro address haddress
      rw [if_pos hchanged] at haddress
      cases haddress
  · have hid : (setActiveWallet s.all s.active walletId).map (·.id) = s.active.map (·.id) := by
      rcases Bool.and_eq_false_iff.1 (Bool.not_eq_true _ ▸ hchanged) with hempty | hsame
      · unfold WalletsStore.setActiveWallet
        rw [if_pos (by simpa using hempty)]
      · exact WalletsStore.map_id_setActiveWallet hsame
    have hactive : ∀ wallet, setActiveWallet s.all s.active walletId = some wallet →
        ∃ active, s.active = some active ∧ active.id = wallet.id := by
      intro wallet hwallet
      rw [hwallet] at hid
      exact Option.map_eq_some_iff.1 hid.symm
    refine ⟨h.lists, h.created, ?_, ?_⟩
    · intro wallet address hwallet haddress
      rw [if_neg hchanged] at haddress
      obtain ⟨active, hsame, hid⟩ := hactive wallet hwallet
      rw [← hid]
      exact h.generated active address hsame haddress
    · intro address haddress wallet addresses hwallet hresult
      rw [if_neg hchanged] at haddress
      obtain ⟨active, hsame, hid⟩ := hactive wallet hwallet
      refine h.agrees address haddress active addresses hsame ?_
      rw [hid]
      exact hresult

/-- The request of a wallet goes on; a list that it newly shows agrees with the last generated address. -/
theorem Invariant.updateRequest (h : Invariant belongs s) {walletId : String}
    {request : CachedRequest.State GetAddressesRequest (List WalletAddress) Err}
    (hshows : OfWallet belongs walletId request)
    (hresult : ∀ addresses, request.result = some addresses →
      (s.getAddressesAllRequest walletId).result = some addresses ∨ LatestAgrees s walletId addresses) :
    Invariant belongs (s.updateRequest walletId fun _ => request) := by
  refine ⟨h.lists.updateRequest fun _ _ _ => hshows, h.created, h.generated, ?_⟩
  intro address haddress wallet addresses hwallet hlist
  rcases getAddressesAllRequest_updateRequest (f := fun _ => request) s walletId wallet.id with
    hsame | ⟨hid, hupdated⟩
  · rw [hsame] at hlist
    exact h.agrees address haddress wallet addresses hwallet hlist
  · rw [hupdated] at hlist
    rcases hresult addresses hlist with hold | hlatest
    · rw [← hid] at hold
      exact h.agrees address haddress wallet addresses hwallet hold
    · exact hlatest wallet address hwallet hid haddress

theorem Invariant.addressesTick (h : Invariant belongs s) {walletId : String} {i : ℕ}
    (hok : InOrder s (.addressesTick walletId i)) (hs : step s (.addressesTick walletId i) = some s') :
    Invariant belongs s' := by
  obtain ⟨request, hrequest, hs⟩ := Option.bind_eq_some_iff.mp hs
  cases hs
  obtain ⟨call, hcall, rfl⟩ := CachedRequest.tick_of_step hrequest
  refine h.updateRequest ((h.lists.request walletId).tick i call) ?_
  intro addresses hresult
  exact .inr (hok call addresses hcall hresult)

theorem Invariant.addressesRespond (h : Invariant belongs s) {walletId : String} {i : ℕ}
    {outcome : Except Err (List WalletAddress)} (hhonest : Honest belongs s (.addressesRespond walletId i outcome))
    (hok : InOrder s (.addressesRespond walletId i outcome))
    (hs : step s (.addressesRespond walletId i outcome) = some s') : Invariant belongs s' := by
  obtain ⟨request, hrequest, hs⟩ := Option.bind_eq_some_iff.mp hs
  cases hs
  obtain ⟨call, hcall, rfl⟩ := CachedRequest.respond_of_step hrequest
  have hshows := h.lists.request walletId
  refine h.updateRequest (hshows.respond ?_) ?_
  · rintro addresses rfl
    have hargs : call.args.walletId = walletId := hshows.calls call (List.mem_of_getElem? hcall)
    rw [← hargs]
    exact hhonest call hcall
  · intro addresses hresult
    cases outcome with
    | ok answer =>
      obtain rfl := Option.some.inj hresult
      exact .inr hok
    | error error => exact .inl hresult

theorem Invariant.refreshWalletsData (h : Invariant belongs s) (walletIds : List String) :
    Invariant belongs { s with
      addressesRequests := walletIds.map fun walletId => ⟨walletId, s.getAddressesAllRequest walletId⟩ } := by
  refine h.frame ?_ rfl rfl rfl ?_
  · intro request hrequest
    obtain ⟨walletId, _, rfl⟩ := List.mem_map.1 hrequest
    exact h.lists.request walletId
  · intro walletId addresses hresult
    rcases getAddressesAllRequest_cases { s with
        addressesRequests := walletIds.map fun walletId => ⟨walletId, s.getAddressesAllRequest walletId⟩ }
      walletId with ⟨request, hrequest, hid, hsame⟩ | hnew
    · obtain ⟨other, _, rfl⟩ := List.mem_map.1 hrequest
      rw [hsame] at hresult
      rw [← hid]
      exact hresult
    · rw [hnew] at hresult
      cases hresult

theorem Invariant.step (h : Invariant belongs s) {e : Event Err} (hhonest : Honest belongs s e)
    (hok : InOrder s e) (hs : step s e = some s') : Invariant belongs s' := by
  cases e with
  | createColeWalletAddress walletId passphrase =>
    cases hs
    exact h.withRequest h.created
  | accountIndex k outcome =>
    simp only [AddressesStore.step] at hs
    split at hs
    · cases hs
      exact h.withRequest h.created.execute
    · cases hs
      exact ⟨h.lists, h.created, h.generated, h.agrees⟩
    · cases hs
  | resume k => exact h.resume hok hs
  | tick i =>
    obtain ⟨request, hrequest, hs⟩ := Option.bind_eq_some_iff.mp hs
    cases hs
    rw [Request.tick_eq hrequest]
    exact h.withRequest (h.created.tick i)
  | respond i outcome =>
    obtain ⟨request, hrequest, hs⟩ := Option.bind_eq_some_iff.mp hs
    cases hs
    rw [Request.respond_eq hrequest]
    refine h.withRequest (h.created.respond ?_)
    rintro call address hcall rfl
    exact hhonest call hcall
  | addressesTick walletId i => exact h.addressesTick hok hs
  | addressesRespond walletId i outcome => exact h.addressesRespond hhonest hok hs
  | resetErrors | wallets all | connection isConnected =>
    cases hs
    exact ⟨h.lists, h.created, h.generated, h.agrees⟩
  | setActiveWallet walletId => exact h.setActiveWallet hs
  | unsetActiveWallet =>
    cases hs
    refine ⟨h.lists, h.created, ?_, ?_⟩
    · intro wallet address hwallet
      cases hwallet
    · intro address haddress
      cases haddress
  | walletDeleted =>
    cases hs
    have hactive : ∀ wallet, (if s.all.isEmpty then none else s.active) = some wallet →
        s.active = some wallet := by
      intro wallet hwallet
      split at hwallet
      · cases hwallet
      · exact hwallet
    refine ⟨h.lists, h.created, ?_, ?_⟩
    · intro wallet address hwallet haddress
      exact h.generated wallet address (hactive wallet hwallet) haddress
    · intro address haddress wallet addresses hwallet hresult
      exact h.agrees address haddress wallet addresses (hactive wallet hwallet) hresult
  | refreshWalletsData walletIds =>
    cases hs
    exact (h.refreshWalletsData walletIds).refreshAddresses
  | resetWalletsData =>
    cases hs
    refine h.frame ?_ rfl rfl rfl ?_
    · intro request hrequest
      cases hrequest
    · intro walletId addresses hresult
      cases hresult

/-! ## The main results -/

theorem Invariant.init : Invariant belongs ({} : State Err) := by
  refine ⟨?_, ?_, ?_, ?_⟩
  · intro request hrequest
    cases hrequest
  · intro p call address hcall
    cases hcall
  · intro wallet address hwallet
    cases hwallet
  · intro address haddress
    cases haddress

/-- Where every creation goes on under its own wallet, and no list takes an address for used that was generated
as unused while it has an unused one, the address shown is one of the active wallet, and unused if one is. -/
theorem receives_of_inOrder
    (hr : (machine Err).Reaches (fun s e => Honest belongs s e ∧ InOrder s e) s) : Receives belongs s := by
  have hinv := hr.invariant (P := Invariant belongs) .init
    fun _ _ _ _ hok h hs => h.step hok.1 hok.2 hs
  exact hinv.receives

/-- The wallets of some addresses. -/
def wallets : List (String × String) :=
  [("a", "a0"), ("a", "a1"), ("a", "a2"), ("b", "b0")]

def ofWallets (walletId addressId : String) : Prop :=
  (walletId, addressId) ∈ wallets

/-- Wallet `a` is active, and its addresses are asked for. -/
def opened : List (Event String) :=
  [.wallets [⟨"a", true⟩, ⟨"b", true⟩], .connection true, .setActiveWallet "a", .refreshWalletsData ["a", "b"],
    .addressesTick "a" 0, .addressesRespond "a" 0 (.ok [⟨"a0", true, ""⟩])]

/-- A new address is generated, and the list is answered with it. -/
def generated : List (Event String) :=
  opened ++ [.createColeWalletAddress "a" "secret", .accountIndex 0 (.ok []), .tick 0,
    .respond 0 (.ok ⟨"a1", false, ""⟩), .resume 0, .addressesTick "a" 1,
    .addressesRespond "a" 1 (.ok [⟨"a0", true, ""⟩, ⟨"a1", false, ""⟩])]

theorem receives_of_generated :
    ∃ s, (machine String).Reaches (fun s e => Honest ofWallets s e ∧ InOrder s e) s ∧
      s.active = some ⟨"a", true⟩ ∧ s.activeAddress = some ⟨"a1", false, ""⟩ ∧ Receives ofWallets s := by
  have hsteps : (machine String).allSteps (fun s e => Honest ofWallets s e ∧ InOrder s e)
      (machine String).init generated := by
    refine ⟨⟨trivial, trivial⟩, ⟨trivial, trivial⟩, ⟨trivial, trivial⟩, ⟨trivial, trivial⟩, ⟨trivial, ?_⟩, ⟨?_, ?_⟩,
      ⟨trivial, trivial⟩, ⟨trivial, trivial⟩, ⟨trivial, trivial⟩, ⟨?_, trivial⟩, ⟨trivial, ?_⟩, ⟨trivial, ?_⟩,
      ⟨?_, ?_⟩, trivial⟩
    · rintro call addresses ⟨⟩ hresult
      cases hresult
    · rintro call ⟨⟩
      simp [ofWallets, wallets]
    · rintro wallet address - - ⟨⟩
    · rintro call ⟨⟩
      simp [ofWallets, wallets]
    · rintro p call address ⟨⟩ ⟨⟩ ⟨⟩
      refine ⟨?_, ?_⟩
      · rintro wallet ⟨⟩
        rfl
      · rintro wallet addresses ⟨⟩ ⟨⟩ - ⟨listed, hlisted, hmark⟩
        simp at hlisted
        subst hlisted
        cases hmark
    · rintro call addresses ⟨⟩ ⟨⟩ wallet address - - ⟨⟩ - ⟨listed, hlisted, hmark⟩
      simp at hlisted
      subst hlisted
      cases hmark
    · rintro call ⟨⟩
      simp [ofWallets, wallets]
    · rintro wallet address - - ⟨⟩ - -
      exact .inl ⟨⟨"a1", false, ""⟩, by simp, rfl, rfl⟩
  have hr : (machine String).Reaches (fun s e => Honest ofWallets s e ∧ InOrder s e) _ :=
    .exec generated .init hsteps rfl
  exact ⟨_, hr, rfl, rfl, receives_of_inOrder hr⟩

/-- Wallet `b` becomes active while an address of `a` is created. -/
def switchedWhileCreated : List (Event String) :=
  opened ++ [.createColeWalletAddress "a" "secret", .accountIndex 0 (.ok []), .tick 0, .setActiveWallet "b",
    .respond 0 (.ok ⟨"a1", false, ""⟩), .resume 0]

/-- The generated address is used. -/
def usedSince : List (Event String) :=
  generated ++ [.refreshWalletsData ["a", "b"], .addressesTick "a" 2,
    .addressesRespond "a" 2 (.ok [⟨"a0", true, ""⟩, ⟨"a1", true, ""⟩, ⟨"a2", false, ""⟩])]

theorem honest_of_switchedWhileCreated :
    (machine String).allSteps (Honest ofWallets) (machine String).init switchedWhileCreated := by
  refine ⟨trivial, trivial, trivial, trivial, trivial, ?_, trivial, trivial, trivial, trivial, ?_, trivial, trivial⟩
  · rintro call ⟨⟩
    simp [ofWallets, wallets]
  · rintro call ⟨⟩
    simp [ofWallets, wallets]

theorem honest_of_usedSince :
    (machine String).allSteps (Honest ofWallets) (machine String).init usedSince := by
  refine ⟨trivial, trivial, trivial, trivial, trivial, ?_, trivial, trivial, trivial, ?_, trivial, trivial, ?_, trivial,
    trivial, ?_, trivial⟩
  · rintro call ⟨⟩
    simp [ofWallets, wallets]
  · rintro call ⟨⟩
    simp [ofWallets, wallets]
  · rintro call ⟨⟩
    simp [ofWallets, wallets]
  · rintro call ⟨⟩
    simp [ofWallets, wallets]

/-- An address of `a` is shown for `b`, and a used one of `a` while `a` has an unused one. -/
theorem not_receives_of_switched_or_used :
    (∃ s, (machine String).Reaches (Honest ofWallets) s ∧ ∃ wallet address, s.active = some wallet ∧
      s.activeAddress = some address ∧ ¬ ofWallets wallet.id address.id) ∧
    (∃ s, (machine String).Reaches (Honest ofWallets) s ∧ ∃ wallet addresses, s.active = some wallet ∧
      (s.getAddressesAllRequest wallet.id).result = some addresses ∧ HasUnused addresses ∧
      ∀ address, s.activeAddress = some address → ¬ IsUnused addresses address) := by
  refine ⟨⟨_, .exec switchedWhileCreated .init honest_of_switchedWhileCreated rfl, _, _, rfl, rfl, ?_⟩,
    ⟨_, .exec usedSince .init honest_of_usedSince rfl, _, _, rfl, rfl, ?_, ?_⟩⟩
  · simp [ofWallets, wallets]
  · exact ⟨⟨"a2", false, ""⟩, by simp, rfl⟩
  · rintro address ⟨⟩ hunused
    simp [IsUnused] at hunused

end Klarity.AddressesStore
