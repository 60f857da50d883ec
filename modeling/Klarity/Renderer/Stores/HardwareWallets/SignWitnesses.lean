import Klarity.Common.Ipc.IpcChannel.Requests
import Klarity.Renderer.Utils.SophieLedger

set_option autoImplicit false

/-! # Signing witnesses

`_signWitnesses` of the store makes the witnesses of a transaction from those of a device. Where the
device gives a derivation path in place of a public key, the key is derived from the account xpub:
`deriveXpub` goes up the path to its last hardened index, and asks the main process for the children on
the way back.

The account xpub does not go along with the path. `CachedDeriveXpubFactory` is applied once, and all
signing calls share its `xpubMemo`, which each call of `deriveXpub` sets and reads some awaits later, and
its table `derivedXpubs`. A `Signing` is the state of one call between two awaits. -/

namespace Klarity.HardwareWallets.SignWitnesses

open IpcChannel (Delivery)

/-- The packages that encode keys and derive the child of a key. -/
structure DerivationPackages where
  bufToHex : Bytes → String
  hexToBuf : String → Bytes
  deriveChildXpub : Bytes → ℕ → ℕ → Option Bytes

def hardenedThreshold : ℕ := 0x80000000

/-- `derivationScheme.ed25519Mode` -/
def ed25519Mode : ℕ := 2

def indexIsHardened (index : ℕ) : Bool := hardenedThreshold ≤ index

/-! ## The channel to the main process -/

/-- What goes over `deriveXpubChannel`. -/
inductive Value
  | undefined
  | bool (b : Bool)
  | string (s : String)
  | params (parentXpubHex : String) (lastIndex derivationScheme : ℕ)
  | error
  deriving DecidableEq

instance : JsValue Value where
  undefined := .undefined
  ofBool := .bool
  truthy
    | .undefined => false
    | .bool b => b
    | .string s => s ≠ ""
    | .params .. | .error => true
  truthy_ofBool _ := rfl

/-- The handler of the main process. -/
def deriveXpubHandler (lib : DerivationPackages) : Value → Outcome Value
  | .params parentXpubHex lastIndex derivationScheme =>
      match lib.deriveChildXpub (lib.hexToBuf parentXpubHex) lastIndex derivationScheme with
      | some xpub => .ok (.string (lib.bufToHex xpub))
      | none => .error .error
  | _ => .error .error

/-! ## Witnesses -/

/-- A witness of a Trezor has `pubKey` and `signature`, one of a Ledger `path` and
    `witnessSignatureHex`. -/
structure Witness where
  pubKey : Option String := none
  signature : Option String := none
  path : Option BIP32Path := none
  witnessSignatureHex : Option String := none
  deriving DecidableEq

/-- A string that is there and is not empty. -/
def truthy (s : Option String) : Option String := s.filter fun s => s ≠ ""

/-- Where a signing call stands: `deriveXpub` at a path, with the indices to derive after it; an xpub on
    its way down; a request for the child of an xpub; a witness about to be put on the list; the end. -/
inductive Phase
  | ascending (path suffix : BIP32Path) (witnessSignatureHex : String)
  | derived (xpub : Bytes) (suffix : BIP32Path) (witnessSignatureHex : String)
  | requesting (call : ℕ) (parentXpub : Bytes) (lastIndex : ℕ) (suffix : BIP32Path)
      (witnessSignatureHex : String)
  | signed (witness : Option SophieTxWitness)
  | returned
  | threw
  deriving DecidableEq

/-- A call of `_signWitnesses`; `remaining` are the witnesses that the loop has not reached. -/
structure Signing where
  xpubHex : String
  witnesses : List Witness
  remaining : List Witness
  signedWitnesses : List (Option SophieTxWitness) := []
  phase : Phase
  deriving DecidableEq

/-- `SophieWitness` and the call of `deriveXpub` in it up to the first await, with what becomes of
    `xpubMemo`. -/
def SophieWitness (witness : Witness) (xpubHex : String) (xpubMemo : Option String) :
    Phase × Option String :=
  match truthy witness.pubKey, truthy witness.signature with
  | some pubKey, some signature =>
      (.signed (some ⟨bufferFromHex pubKey, bufferFromHex signature⟩), xpubMemo)
  | _, _ =>
    match witness.path, truthy witness.witnessSignatureHex with
    | some path, some witnessSignatureHex =>
        (.ascending path [] witnessSignatureHex, if xpubHex ≠ "" then some xpubHex else xpubMemo)
    | _, _ => (.signed none, xpubMemo)

/-! ## The steps -/

/-- `xpubMemo` and `derivedXpubs`, the channel to the main process, and the signing calls so far. -/
structure State where
  xpubMemo : Option String := none
  derivedXpubs : List (BIP32Path × Bytes) := []
  channel : IpcChannel.State Value := ({} : IpcChannel.State Value).onRequest
  signings : List Signing := []

inductive Event
  | sign (xpubHex : String) (witnesses : List Witness)
  | resume (i : ℕ)
  | deliver (delivery : Delivery)

variable (lib : DerivationPackages)

/-- The `i`-th signing call stands elsewhere. -/
def State.update (s : State) (i : ℕ) (signing : Signing) (phase : Phase) : State :=
  { s with signings := s.signings.set i { signing with phase := phase } }

/-- The loop of `_signWitnesses` up to the next await, with what becomes of `xpubMemo`. -/
def Signing.next (signing : Signing) (xpubMemo : Option String) : Signing × Option String :=
  match signing.remaining with
  | [] => ({ signing with phase := .returned }, xpubMemo)
  | witness :: remaining =>
      let (phase, xpubMemo) := SophieWitness witness signing.xpubHex xpubMemo
      ({ signing with remaining := remaining, phase := phase }, xpubMemo)

def State.sign (s : State) (xpubHex : String) (witnesses : List Witness) : State :=
  let signing : Signing := { xpubHex, witnesses, remaining := witnesses, phase := .returned }
  let (signing, xpubMemo) := signing.next s.xpubMemo
  { s with xpubMemo := xpubMemo, signings := s.signings ++ [signing] }

/-- Where `deriveXpub` goes on from a path whose entry of the table it has awaited. -/
def State.deriveXpub (s : State) (path suffix : BIP32Path) (witnessSignatureHex : String) : Phase :=
  let hardened : Phase :=
    match s.xpubMemo with
    | some xpubHex => .derived (bufferFromHex xpubHex) suffix witnessSignatureHex
    | none => .threw
  match s.derivedXpubs.lookup path with
  | some xpub => .derived xpub suffix witnessSignatureHex
  | none =>
    match path.getLast? with
    | none => hardened
    | some lastIndex =>
        if indexIsHardened lastIndex then hardened
        else .ascending path.dropLast (lastIndex :: suffix) witnessSignatureHex

/-- What the answer to a request makes of a signing call. -/
def Phase.ofAnswer (suffix : BIP32Path) (witnessSignatureHex : String) : Outcome Value → Phase
  | .ok (.string derivedXpub) => .derived (lib.hexToBuf derivedXpub) suffix witnessSignatureHex
  | _ => .threw

/-- A signing call runs from one await to the next. -/
def State.resume (s : State) (i : ℕ) (signing : Signing) : Option State :=
  match signing.phase with
  | .ascending path suffix witnessSignatureHex =>
      some (s.update i signing (s.deriveXpub path suffix witnessSignatureHex))
  | .derived xpub [] witnessSignatureHex =>
      some (s.update i signing (.signed (some ⟨xpub.take 32, bufferFromHex witnessSignatureHex⟩)))
  | .derived xpub (lastIndex :: suffix) witnessSignatureHex =>
      let params : Value := .params (lib.bufToHex xpub) lastIndex ed25519Mode
      some ({ s with channel := s.channel.request params }.update i signing
        (.requesting s.channel.calls.length xpub lastIndex suffix witnessSignatureHex))
  | .requesting call _ _ suffix witnessSignatureHex =>
      (s.channel.calls[call]?.bind fun c => c.settled.head?).map fun answer =>
        s.update i signing (Phase.ofAnswer lib suffix witnessSignatureHex answer)
  | .signed witness =>
      let signing := { signing with signedWitnesses := signing.signedWitnesses ++ [witness] }
      let (signing, xpubMemo) := signing.next s.xpubMemo
      some { s with xpubMemo := xpubMemo, signings := s.signings.set i signing }
  | .returned | .threw => none

def step (s : State) : Event → Option State
  | .sign xpubHex witnesses => some (s.sign xpubHex witnesses)
  | .resume i => s.signings[i]?.bind fun signing => s.resume lib i signing
  | .deliver delivery =>
      (IpcChannel.deliver (deriveXpubHandler lib) s.channel delivery).map fun channel =>
        { s with channel := channel }

/-- The store, from before any signing call. -/
def machine : Machine State Event := ⟨{}, step lib⟩

end Klarity.HardwareWallets.SignWitnesses
