import Klarity.Renderer.Utils.HardwareWalletUtils

set_option autoImplicit false

/-! # sophieLedger

The translation of a coin selection into what a Ledger is asked to sign, and into the transaction body
that is encoded around the signatures of either device. The source keeps the values of a body in objects
with a method `encodeCBOR`; here they are structures, and `encodeCBOR` gives the data item that the
method pushes. -/

namespace Klarity

inductive AddressStyle
  | cole
  | sophie
  | icarus
  deriving DecidableEq, Repr

variable (lib : Packages)

/-- The bytes of an address, by its style. -/
def decodeAddress (addressStyle : AddressStyle) (address : String) : Bytes :=
  if addressStyle = .sophie then lib.bech32DecodeAddress address else lib.base58Decode address

/-- `[2147485500, 2147485463, 2147483648, 2, 0]` -/
def stakingPath : BIP32Path := [2147485500, 2147485463, 2147483648, 2, 0]

/-! ## The transaction body -/

structure SophieTxWitness where
  publicKey : Bytes
  signature : Bytes
  deriving DecidableEq

def SophieTxWitness.encodeCBOR (witness : SophieTxWitness) : Cbor :=
  .array [.bytes witness.publicKey, .bytes witness.signature]

structure SophieTxInput where
  txid : String
  coins : ℕ
  address : String
  outputNo : ℕ
  deriving DecidableEq

def SophieTxInputFromUtxo (utxoInput : CoinSelectionInput) : SophieTxInput :=
  { txid := utxoInput.id
    coins := utxoInput.amount
    address := utxoInput.address
    outputNo := utxoInput.index }

def SophieTxInput.encodeCBOR (input : SophieTxInput) : Cbor :=
  .array [.bytes (bufferFromHex input.txid), .unsigned input.outputNo]

/-- The maps from policies to maps from asset names to quantities. Their keys are buffers, which are
    never the same object, so no entry replaces another one. -/
abbrev AssetMap := List (Bytes × List (Bytes × ℕ))

def SophieTxOutputAssets (assets : List Asset) : AssetMap :=
  (groupTokensByPolicyId lib assets).map fun (policyId, tokens) =>
    (bufferFromHex policyId,
      tokens.map fun token => (bufferFromHex token.assetName, token.quantity))

inductive Coins
  | bcc (quantity : ℕ)
  | withAssets (quantity : ℕ) (assets : AssetMap)
  deriving DecidableEq

structure SophieTxOutput where
  address : String
  addressStyle : AddressStyle
  coins : Coins
  isChange : Bool
  spendingPath : Option BIP32Path
  stakingPath : Option BIP32Path
  deriving DecidableEq

def sophieTxOutput (output : CoinSelectionOutput) (addressStyle : AddressStyle) : SophieTxOutput :=
  { address := output.address
    addressStyle := addressStyle
    coins :=
      match output.assets with
      | some (asset :: assets) =>
          .withAssets output.amount (SophieTxOutputAssets lib (asset :: assets))
      | _ => .bcc output.amount
    isChange := output.derivationPath.isSome
    spendingPath := output.derivationPath.map (derivationPathToLedgerPath lib)
    stakingPath := output.derivationPath.map fun _ => stakingPath }

def encodeAssets (assets : AssetMap) : Cbor :=
  .map (assets.map fun (policyId, tokens) =>
    (.bytes policyId, .map (tokens.map fun (name, quantity) => (.bytes name, .unsigned quantity))))

def Coins.encodeCBOR : Coins → Cbor
  | .bcc quantity => .unsigned quantity
  | .withAssets quantity assets => .array [.unsigned quantity, encodeAssets assets]

def SophieTxOutput.encodeCBOR (output : SophieTxOutput) : Cbor :=
  .array [.bytes (decodeAddress lib output.addressStyle output.address), output.coins.encodeCBOR]

structure SophieTxCert where
  type : CertificateType
  accountAddress : String
  pool : Option String
  deriving DecidableEq

def SophieTxCert.encodeCBOR (cert : SophieTxCert) : Cbor :=
  let account : Cbor :=
    .array [.unsigned 0, .bytes ((lib.bech32DecodeAddress cert.accountAddress).drop 1)]
  let hash : Cbor :=
    match cert.pool with
    | some pool => .bytes (bufferFromHex (lib.bufToHex (lib.bech32DecodeAddress pool)))
    | none => .undefined
  match cert.type with
  | .registerRewardAccount | .quitPool => .array [.unsigned cert.type.number, account]
  | .joinPool => .array [.unsigned cert.type.number, account, hash]

def encodeWithdrawals (withdrawals : List CoinSelectionWithdrawal) : Cbor :=
  .map (withdrawals.map fun withdrawal =>
    (.bytes (lib.bech32DecodeAddress withdrawal.stakeAddress), .unsigned withdrawal.amount))

/-- The voting registration of a transaction. -/
structure TxAuxiliaryData where
  nonce : ℕ
  rewardDestinationAddress : String
  stakingPath : BIP32Path
  stakePubKey : String
  votingPubKey : String
  deriving DecidableEq

structure SophieTxAux where
  inputs : List SophieTxInput
  outputs : List SophieTxOutput
  fee : ℕ
  ttl : ℕ
  certs : List SophieTxCert
  withdrawals : Option (List CoinSelectionWithdrawal)
  auxiliaryData : Option TxAuxiliaryData
  auxiliaryDataHash : Option String
  deriving DecidableEq

def SophieTxAux.encodeCBOR (txAux : SophieTxAux) : Cbor :=
  .map
    ([(.unsigned 0, .array (txAux.inputs.map SophieTxInput.encodeCBOR)),
      (.unsigned 1, .array (txAux.outputs.map (SophieTxOutput.encodeCBOR lib))),
      (.unsigned 2, .unsigned txAux.fee),
      (.unsigned 3, .unsigned txAux.ttl)]
      ++ (if txAux.certs = [] then []
          else [(.unsigned 4, .array (txAux.certs.map (SophieTxCert.encodeCBOR lib)))])
      ++ (match txAux.withdrawals with
          | some withdrawals => [(.unsigned 5, encodeWithdrawals lib withdrawals)]
          | none => [])
      ++ (match txAux.auxiliaryDataHash with
          | some hash => [(.unsigned 7, .bytes (bufferFromHex hash))]
          | none => []))

def cborizeTxVotingRegistration (txAuxiliaryData : TxAuxiliaryData) : Cbor × Cbor :=
  (.unsigned 61284,
    .map
      [(.unsigned 1, .bytes (bufferFromHex txAuxiliaryData.votingPubKey)),
        (.unsigned 2, .bytes (bufferFromHex txAuxiliaryData.stakePubKey)),
        (.unsigned 3, .bytes (lib.bech32DecodeAddress txAuxiliaryData.rewardDestinationAddress)),
        (.unsigned 4, .unsigned txAuxiliaryData.nonce)])

def cborizeTxAuxiliaryVotingData (txAuxiliaryData : TxAuxiliaryData) (signatureHex : String) : Cbor :=
  .array
    [.map
      [cborizeTxVotingRegistration lib txAuxiliaryData,
        (.unsigned 61285, .map [(.unsigned 1, .bytes (bufferFromHex signatureHex))])],
      .array []]

/-- The signed transaction: the body, the witnesses by their kind, and the auxiliary data. -/
def prepareBody (unsignedTx : SophieTxAux) (txWitnesses : List (ℕ × List (Option SophieTxWitness)))
    (txAuxiliaryData : Option Cbor) : Cbor :=
  .array
    [unsignedTx.encodeCBOR lib,
      .map (txWitnesses.map fun (kind, witnesses) =>
        (.unsigned kind, .array (witnesses.map fun w =>
          w.elim .null SophieTxWitness.encodeCBOR))),
      txAuxiliaryData.getD .null]

/-! ## The request to a Ledger -/

structure LedgerInput where
  txHashHex : String
  outputIndex : ℕ
  path : BIP32Path
  deriving DecidableEq

def prepareLedgerInput (input : CoinSelectionInput) : LedgerInput :=
  { txHashHex := input.id
    outputIndex := input.index
    path := derivationPathToLedgerPath lib input.derivationPath }

structure LedgerToken where
  assetNameHex : String
  amount : String
  deriving DecidableEq

structure LedgerAssetGroup where
  policyIdHex : String
  tokens : List LedgerToken
  deriving DecidableEq

def SophieLedger.prepareTokenBundle (assets : List Asset) : List LedgerAssetGroup :=
  (groupTokensByPolicyId lib assets).map fun (policyId, tokens) =>
    ⟨policyId, tokens.map fun token => ⟨token.assetName, toString token.quantity⟩⟩

inductive LedgerDestination
  | deviceOwned (spendingPath stakingPath : BIP32Path)
  | thirdParty (addressHex : String)
  deriving DecidableEq

structure LedgerOutput where
  destination : LedgerDestination
  amount : String
  tokenBundle : List LedgerAssetGroup
  deriving DecidableEq

def prepareLedgerOutput (output : CoinSelectionOutput) (addressStyle : AddressStyle) : LedgerOutput :=
  { destination :=
      match output.derivationPath with
      | some derivationPath =>
          .deviceOwned (derivationPathToLedgerPath lib derivationPath)
            (lib.strToPath "1852'/1815'/0'/2/0")
      | none => .thirdParty (lib.bufToHex (decodeAddress lib addressStyle output.address))
    amount := toString output.amount
    tokenBundle := output.assets.elim [] (SophieLedger.prepareTokenBundle lib) }

structure LedgerCertificate where
  type : ℕ
  path : BIP32Path
  poolKeyHashHex : Option String
  deriving DecidableEq

def prepareLedgerCertificate (cert : CoinSelectionCertificate) : LedgerCertificate :=
  { type := cert.certificateType.number
    path := derivationPathToLedgerPath lib cert.rewardAccountPath
    poolKeyHashHex := cert.pool.map fun pool => lib.bufToHex (lib.bech32DecodeAddress pool) }

structure LedgerWithdrawal where
  path : BIP32Path
  amount : String
  deriving DecidableEq

def prepareLedgerWithdrawal (withdrawal : CoinSelectionWithdrawal) : LedgerWithdrawal :=
  { path := derivationPathToLedgerPath lib withdrawal.derivationPath
    amount := toString withdrawal.amount }

structure LedgerAuxiliaryData where
  votingPublicKeyHex : String
  stakingPath : BIP32Path
  rewardsDestination : BIP32Path
  nonce : String
  deriving DecidableEq

def prepareLedgerAuxiliaryData (txAuxiliaryData : TxAuxiliaryData) : LedgerAuxiliaryData :=
  { votingPublicKeyHex := txAuxiliaryData.votingPubKey
    stakingPath := txAuxiliaryData.stakingPath
    rewardsDestination := txAuxiliaryData.stakingPath
    nonce := toString txAuxiliaryData.nonce }

end Klarity
