import Klarity.Renderer.Stores.Lib.Request
import Klarity.Renderer.Utils.SophieLedger

set_option autoImplicit false

/-! # The certificates of a transaction

Both signing functions map the certificates of a coin selection by an asynchronous function, which looks
up the address of the reward account and pushes the certificate for the body into one array. The calls of
that function begin in the same turn and share two `Request` objects: one for the public key of a path,
one for the address that is constructed from it.

A call that awaits a request is settled by the promise that the request has by then, whoever made the
call behind it. -/

namespace Klarity.HardwareWallets.Certificates

/-- The arguments of `getPublicKeyRequest`. -/
structure PublicKeyParams where
  walletId : String
  role : Option String
  index : Option String
  deriving DecidableEq

def publicKeyParams (walletId : String) (path : List String) : PublicKeyParams :=
  let pathParams := getParamsFromPath path
  { walletId := walletId, role := pathParams.roleIdentity, index := pathParams.index }

/-- What the wallet backend answers, unless it fails. -/
structure Backend where
  getPublicKey : PublicKeyParams → String
  constructAddress : String → String

/-- Where one call of the mapped function is; a promise is that of a request. -/
inductive Phase
  | publicKey (promise : Option ℕ)
  | address (promise : Option ℕ)
  | pushed
  | failed
  deriving DecidableEq

/-- A signing function at its certificates, with one phase for each of them. -/
structure Signing where
  walletId : String
  certificates : List CoinSelectionCertificate
  phases : List Phase
  unsignedTxCerts : List SophieTxCert := []
  deriving DecidableEq

structure State where
  getPublicKeyRequest : Request.State PublicKeyParams String Unit := {}
  constructAddressRequest : Request.State String String Unit := {}
  signings : List Signing := []

/-- The timers and the answers are those of the two requests; `ok` says whether the backend answers. -/
inductive Event
  | sign (walletId : String) (certificates : List CoinSelectionCertificate)
  | publicKeyTick (i : ℕ)
  | publicKeyAnswer (i : ℕ) (ok : Bool)
  | addressTick (i : ℕ)
  | addressAnswer (i : ℕ) (ok : Bool)
  deriving DecidableEq

/-! ## The mapped function -/

/-- All calls make their first request in the same turn. -/
def State.sign (s : State) (walletId : String) (certificates : List CoinSelectionCertificate) : State :=
  let request := certificates.foldl
    (fun request certificate => request.execute (publicKeyParams walletId certificate.rewardAccountPath))
    s.getPublicKeyRequest
  { s with
    getPublicKeyRequest := request
    signings := s.signings ++
      [{ walletId := walletId
         certificates := certificates
         phases := certificates.map fun _ => .publicKey request.promise }] }

def Signing.goOn (g : Signing) (phase phase' : Phase) : Signing :=
  { g with phases := g.phases.map fun p => if p = phase then phase' else p }

/-- The calls that await the promise get the public key, and make their second request. -/
def State.gotPublicKey (s : State) (promise : ℕ) (stake : String) : State :=
  let waiting := s.signings.flatMap fun g => g.phases.filter fun p => p = .publicKey (some promise)
  let request := waiting.foldl (fun request _ => request.execute stake) s.constructAddressRequest
  { s with
    constructAddressRequest := request
    signings := s.signings.map fun g =>
      g.goOn (.publicKey (some promise)) (.address request.promise) }

/-- The calls that await the promise get the address, and push their certificates. -/
def Signing.gotAddress (g : Signing) (promise : ℕ) (accountAddress : String) : Signing :=
  let waiting := (g.certificates.zip g.phases).filter fun (_, p) => p = .address (some promise)
  { g.goOn (.address (some promise)) .pushed with
    unsignedTxCerts := g.unsignedTxCerts ++ waiting.map fun (certificate, _) =>
      { type := certificate.certificateType
        accountAddress := accountAddress
        pool := certificate.pool } }

/-- `Promise.all(_certificatesData)` is fulfilled. -/
def Signing.done (g : Signing) : Prop :=
  ∀ p ∈ g.phases, p = .pushed

instance (g : Signing) : Decidable g.done :=
  inferInstanceAs (Decidable (∀ p ∈ g.phases, p = .pushed))

def fail (signings : List Signing) (phase : Phase) : List Signing :=
  signings.map fun g => g.goOn phase .failed

/-! ## The store and the backend -/

variable (backend : Backend)

def answer {Args : Type} (f : Args → String) (args : Args) (ok : Bool) : Except Unit String :=
  if ok then .ok (f args) else .error ()

def step (s : State) : Event → Option State
  | .sign walletId certificates => some (s.sign walletId certificates)
  | .publicKeyTick i =>
      (Request.step s.getPublicKeyRequest (.tick i)).map fun request =>
        { s with getPublicKeyRequest := request }
  | .publicKeyAnswer i ok =>
      s.getPublicKeyRequest.calls[i]?.bind fun call =>
        let outcome := answer backend.getPublicKey call.args ok
        (Request.step s.getPublicKeyRequest (.respond i outcome)).map fun request =>
          let s := { s with getPublicKeyRequest := request }
          match outcome with
          | .ok stake => s.gotPublicKey i stake
          | .error _ => { s with signings := fail s.signings (.publicKey (some i)) }
  | .addressTick i =>
      (Request.step s.constructAddressRequest (.tick i)).map fun request =>
        { s with constructAddressRequest := request }
  | .addressAnswer i ok =>
      s.constructAddressRequest.calls[i]?.bind fun call =>
        let outcome := answer backend.constructAddress call.args ok
        (Request.step s.constructAddressRequest (.respond i outcome)).map fun request =>
          let s := { s with constructAddressRequest := request }
          match outcome with
          | .ok address => { s with signings := s.signings.map fun g => g.gotAddress i address }
          | .error _ => { s with signings := fail s.signings (.address (some i)) }

def machine : Machine State Event where
  init := {}
  step := step backend

/-! ## Matching certificates -/

/-- The address that belongs to a path. -/
def rewardAccountAddress (walletId : String) (path : List String) : String :=
  backend.constructAddress (backend.getPublicKey (publicKeyParams walletId path))

/-- What the mapped function returns for the device; `Promise.all` keeps the order. -/
def Signing.certificatesData {γ : Type} (g : Signing)
    (prepareCertificate : CoinSelectionCertificate → γ) : List γ :=
  g.certificates.map prepareCertificate

/-- The certificates of the body and of the device are as many, and those at one position are made from
    the same certificate, the one of the body with the address of its own path. -/
structure Matched (g : Signing) : Prop where
  length_eq : g.unsignedTxCerts.length = g.certificates.length
  position {γ : Type} (prepareCertificate : CoinSelectionCertificate → γ) (i : ℕ) (data : γ) :
    (g.certificatesData prepareCertificate)[i]? = some data →
      ∃ c, g.certificates[i]? = some c ∧ data = prepareCertificate c ∧
        g.unsignedTxCerts[i]? = some
          { type := c.certificateType
            accountAddress := rewardAccountAddress backend g.walletId c.rewardAccountPath
            pool := c.pool }

end Klarity.HardwareWallets.Certificates
