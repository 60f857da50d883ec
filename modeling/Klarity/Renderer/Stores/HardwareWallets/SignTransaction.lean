import Klarity.Renderer.Utils.SophieLedger
import Klarity.Renderer.Utils.SophieTrezor

set_option autoImplicit false

/-! # Signing a transaction with a hardware wallet

`_signTransactionTrezor` and `_signTransactionLedger` translate a coin selection twice: into the request
to the device, and into the body that they encode around the witnesses of the answer. The two halves of
each function are two definitions here, `request` and `txBody`. What they await in between comes in as
arguments: the answer of the device, the witnesses, and the certificates in the order in which the
look-ups of their addresses end. -/

namespace Klarity.HardwareWallets.SignTransaction

/-- What the stores around tell the signing functions: the style that `_inspectAddress` finds, the
    network, and the slot. -/
structure Context where
  addressStyle : String → AddressStyle
  isMainnet : Bool
  absoluteSlotNumber : ℕ

variable (lib : Packages) (context : Context)

/-- Two hours, in seconds. -/
def timeToLive : ℕ := 7200

def getTtl : ℕ := context.absoluteSlotNumber + timeToLive

def networkId : ℕ := if context.isMainnet then 1 else 0

/-- The `protocolMagic` of a Ledger and the `trezorProtocolMagic` are the same numbers. -/
def protocolMagic : ℕ := if context.isMainnet then 764824073 else 1097911063

/-- `formattedAmountToEntropic(flatFee.toString())` -/
def feeInEntropic (flatFee : Rat) : ℕ := (flatFee * 1000000).floor.toNat

/-- The first `unsignedTxAuxiliaryData` of both functions. -/
def unsignedTxAuxiliaryData (votingData : VotingData) : TxAuxiliaryData :=
  { nonce := votingData.nonce
    rewardDestinationAddress := votingData.stakeAddress
    stakingPath := stakingPath
    stakePubKey := votingData.stakeKey
    votingPubKey := votingData.votingKey }

/-- `auxiliaryDataSupplement`, by either device. -/
structure AuxiliaryDataSupplement where
  auxiliaryDataHash : String
  catalystSignature : String
  deriving DecidableEq

/-- The unsigned inputs and outputs that both functions collect next to the request. -/
def unsignedTxOutputs (outputs : List CoinSelectionOutput) : List SophieTxOutput :=
  outputs.map fun output => sophieTxOutput lib output (context.addressStyle output.address)

/-- The last part of both functions: the transaction that is encoded around the witnesses. -/
def encodeBody (coinSelection : CoinSelection) (votingData : Option VotingData)
    (unsignedTxCerts : List SophieTxCert) (supplement : Option AuxiliaryDataSupplement)
    (signedWitnesses : List (Option SophieTxWitness)) : Cbor :=
  let txAuxData : SophieTxAux :=
    { inputs := coinSelection.inputs.map SophieTxInputFromUtxo
      outputs := unsignedTxOutputs lib context coinSelection.outputs
      fee := feeInEntropic coinSelection.fee
      ttl := getTtl context
      certs := unsignedTxCerts
      withdrawals :=
        if coinSelection.withdrawals.length > 0 then some coinSelection.withdrawals else none
      auxiliaryData := none
      auxiliaryDataHash := none }
  let txWitnesses := if signedWitnesses.length > 0 then [(0, signedWitnesses)] else []
  match votingData.map unsignedTxAuxiliaryData, supplement with
  | some auxiliaryData, some supplement =>
      prepareBody lib
        { txAuxData with
          auxiliaryData := some auxiliaryData
          auxiliaryDataHash := some supplement.auxiliaryDataHash }
        txWitnesses
        (some (cborizeTxAuxiliaryVotingData lib auxiliaryData supplement.catalystSignature))
  | _, _ => prepareBody lib txAuxData txWitnesses none

/-! ## Trezor -/

structure TrezorRequest where
  inputs : List TrezorInput
  outputs : List TrezorOutput
  fee : String
  ttl : String
  validityIntervalStartStr : Option String
  networkId : ℕ
  protocolMagic : ℕ
  certificates : List TrezorCertificate
  withdrawals : List TrezorWithdrawal
  devicePath : Option String
  signingMode : ℕ
  auxiliaryData : Option TrezorAuxiliaryData
  deriving DecidableEq

/-- The first half of `_signTransactionTrezor`. -/
def Trezor.request (coinSelection : CoinSelection) (votingData : Option VotingData)
    (recognizedDevicePath : Option String) : TrezorRequest :=
  { inputs := coinSelection.inputs.map prepareTrezorInput
    outputs := coinSelection.outputs.map (prepareTrezorOutput lib)
    fee := toString (feeInEntropic coinSelection.fee)
    ttl := toString (getTtl context)
    validityIntervalStartStr := some (toString context.absoluteSlotNumber)
    networkId := networkId context
    protocolMagic := protocolMagic context
    certificates := coinSelection.certificates.map (prepareTrezorCertificate lib)
    withdrawals := coinSelection.withdrawals.map prepareTrezorWithdrawal
    devicePath := recognizedDevicePath
    -- ORDINARY_TRANSACTION
    signingMode := 0
    auxiliaryData := votingData.map fun data =>
      prepareTrezorAuxiliaryData data.votingKey (toString data.nonce) }

/-- The payload of a Trezor: old firmwares give the whole transaction. -/
inductive TrezorPayload
  | serializedTx (serializedTx : String)
  | rawTx (supplement : Option AuxiliaryDataSupplement)
  deriving DecidableEq

inductive TxBody
  | serialized (serializedTx : String)
  | encoded (transaction : Cbor)

/-- The second half of `_signTransactionTrezor`. -/
def Trezor.txBody (coinSelection : CoinSelection) (votingData : Option VotingData)
    (unsignedTxCerts : List SophieTxCert) (signedWitnesses : List (Option SophieTxWitness)) :
    TrezorPayload → TxBody
  -- Compatible with old firmwares
  | .serializedTx serializedTx => .serialized serializedTx
  | .rawTx supplement =>
      .encoded
        (encodeBody lib context coinSelection votingData unsignedTxCerts supplement signedWitnesses)

/-! ## Ledger -/

/-- The modes of the Ledger library, as far as they are used. -/
inductive TransactionSigningMode
  | ordinaryTransaction
  deriving DecidableEq

structure LedgerRequest where
  inputs : List LedgerInput
  outputs : List LedgerOutput
  fee : String
  ttl : String
  validityIntervalStartStr : Option String
  networkId : ℕ
  protocolMagic : ℕ
  certificates : List LedgerCertificate
  withdrawals : List LedgerWithdrawal
  signingMode : TransactionSigningMode
  auxiliaryData : Option LedgerAuxiliaryData
  devicePath : Option String
  deriving DecidableEq

/-- The first half of `_signTransactionLedger`. -/
def Ledger.request (coinSelection : CoinSelection) (votingData : Option VotingData)
    (devicePath : Option String) : LedgerRequest :=
  { inputs := coinSelection.inputs.map (prepareLedgerInput lib)
    outputs := coinSelection.outputs.map fun output =>
      prepareLedgerOutput lib output (context.addressStyle output.address)
    fee := toString (feeInEntropic coinSelection.fee)
    ttl := toString (getTtl context)
    validityIntervalStartStr := none
    networkId := networkId context
    protocolMagic := protocolMagic context
    certificates := coinSelection.certificates.map (prepareLedgerCertificate lib)
    withdrawals := coinSelection.withdrawals.map (prepareLedgerWithdrawal lib)
    signingMode := .ordinaryTransaction
    auxiliaryData := votingData.map fun data =>
      prepareLedgerAuxiliaryData (unsignedTxAuxiliaryData data)
    devicePath := devicePath }

/-- The second half of `_signTransactionLedger`. -/
def Ledger.txBody (coinSelection : CoinSelection) (votingData : Option VotingData)
    (unsignedTxCerts : List SophieTxCert) (signedWitnesses : List (Option SophieTxWitness))
    (supplement : Option AuxiliaryDataSupplement) : TxBody :=
  .encoded
    (encodeBody lib context coinSelection votingData unsignedTxCerts supplement signedWitnesses)

end Klarity.HardwareWallets.SignTransaction
