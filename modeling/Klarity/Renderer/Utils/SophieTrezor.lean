import Klarity.Renderer.Utils.HardwareWalletUtils

set_option autoImplicit false

/-! # sophieTrezor

The translation of a coin selection into what a Trezor is asked to sign. -/

namespace Klarity

variable (lib : Packages)

structure TrezorInput where
  path : String
  prevHash : String
  prevIndex : ℕ
  deriving DecidableEq

def prepareTrezorInput (input : CoinSelectionInput) : TrezorInput :=
  { path := derivationPathToString input.derivationPath
    prevHash := input.id
    prevIndex := input.index }

structure TrezorToken where
  assetNameBytes : String
  amount : String
  deriving DecidableEq

structure TrezorAssetGroup where
  policyId : String
  tokenAmounts : List TrezorToken
  deriving DecidableEq

def SophieTrezor.prepareTokenBundle (assets : List Asset) : List TrezorAssetGroup :=
  (groupTokensByPolicyId lib assets).map fun (policyId, tokens) =>
    ⟨policyId, tokens.map fun token => ⟨token.assetName, toString token.quantity⟩⟩

/-- The address of a third party, or the paths of a BASE address of the device. -/
inductive TrezorDestination
  | address (address : String)
  | addressParameters (path stakingPath : String)
  deriving DecidableEq

structure TrezorOutput where
  destination : TrezorDestination
  amount : String
  tokenBundle : List TrezorAssetGroup
  deriving DecidableEq

def prepareTrezorOutput (output : CoinSelectionOutput) : TrezorOutput :=
  { destination :=
      match output.derivationPath with
      -- Change output
      | some derivationPath =>
          .addressParameters (derivationPathToString derivationPath) "m/1852'/1815'/0'/2/0"
      | none => .address output.address
    amount := toString output.amount
    tokenBundle := output.assets.elim [] (SophieTrezor.prepareTokenBundle lib) }

structure TrezorCertificate where
  type : ℕ
  path : String
  pool : Option String
  deriving DecidableEq

def prepareTrezorCertificate (cert : CoinSelectionCertificate) : TrezorCertificate :=
  { type := cert.certificateType.number
    path := derivationPathToString cert.rewardAccountPath
    pool := cert.pool.map fun pool => lib.bufToHex (lib.bech32DecodeAddress pool) }

structure TrezorWithdrawal where
  path : String
  amount : String
  deriving DecidableEq

def prepareTrezorWithdrawal (withdrawal : CoinSelectionWithdrawal) : TrezorWithdrawal :=
  { path := derivationPathToString withdrawal.derivationPath
    amount := toString withdrawal.amount }

structure TrezorAuxiliaryData where
  votingPublicKey : String
  stakingPath : String
  rewardAddressPath : String
  nonce : String
  deriving DecidableEq

def prepareTrezorAuxiliaryData (votingKey : String) (nonce : String) : TrezorAuxiliaryData :=
  { votingPublicKey := votingKey
    stakingPath := "m/1852'/1815'/0'/2/0"
    rewardAddressPath := "m/1852'/1815'/0'/2/0"
    nonce := nonce }

end Klarity
