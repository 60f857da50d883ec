import Klarity.Renderer.Stores.HardwareWallets.SignTransaction

set_option autoImplicit false

/-! # The transaction that a request or a body describes

A `Transaction` is what a signature is about, in the terms of the ledger: bytes and numbers. `readBody`
reads it from the data item of a transaction body, whose entries have the numbers of the ledger's
format. `TrezorRequest.read` and `LedgerRequest.read` read it from a request the way the device does:
`Devices` says how a device parses what it is given, and which addresses it derives from paths. -/

namespace Klarity.HardwareWallets.SignTransaction

structure TransactionOutput where
  address : Bytes
  coins : ℕ
  assets : AssetMap
  deriving DecidableEq

structure Transaction where
  inputs : List (Bytes × ℕ)
  outputs : List TransactionOutput
  fee : ℕ
  ttl : ℕ
  validityIntervalStart : Option ℕ
  withdrawals : List (Bytes × ℕ)
  deriving DecidableEq

/-! ## Reading a body -/

def readInput : Cbor → Option (Bytes × ℕ)
  | .array [.bytes txHash, .unsigned index] => some (txHash, index)
  | _ => none

/-- An entry of a map from names or addresses to amounts. -/
def readAmount : Cbor × Cbor → Option (Bytes × ℕ)
  | (.bytes name, .unsigned quantity) => some (name, quantity)
  | _ => none

def readPolicy : Cbor × Cbor → Option (Bytes × List (Bytes × ℕ))
  | (.bytes policyId, .map tokens) => (tokens.mapM readAmount).map (policyId, ·)
  | _ => none

def readOutput : Cbor → Option TransactionOutput
  | .array [.bytes address, .unsigned coins] => some ⟨address, coins, []⟩
  | .array [.bytes address, .array [.unsigned coins, .map policies]] =>
      (policies.mapM readPolicy).map fun assets => ⟨address, coins, assets⟩
  | _ => none

def readWithdrawals : Cbor → Option (List (Bytes × ℕ))
  | .map entries => entries.mapM readAmount
  | _ => none

/-- The entries 0 to 3 have to be there, the withdrawals and the start of the validity interval are
    optional. -/
def readBody (body : Cbor) : Option Transaction := do
  let inputs ← (← (← body.lookup 0).array?).mapM readInput
  let outputs ← (← (← body.lookup 1).array?).mapM readOutput
  let fee ← (← body.lookup 2).unsigned?
  let ttl ← (← body.lookup 3).unsigned?
  let withdrawals ← (body.lookup 5).elim (some []) readWithdrawals
  let validityIntervalStart ← (body.lookup 8).elim (some none) fun start => start.unsigned?.map some
  return { inputs, outputs, fee, ttl, validityIntervalStart, withdrawals }

/-- The body in what a signing function leaves behind, unless a device has encoded it. -/
def TxBody.read : TxBody → Option Transaction
  | .encoded (.array (body :: _)) => readBody body
  | _ => none

/-! ## Reading a request -/

/-- How the devices read what they are asked to sign: the BASE address of a spending and a staking path,
    the reward address of a path, and the Trezor's parsers of addresses and paths. -/
structure Devices where
  baseAddress : BIP32Path → BIP32Path → Bytes
  rewardAddress : BIP32Path → Bytes
  parseAddress : String → Bytes
  parsePath : String → BIP32Path

variable (devices : Devices)

def LedgerToken.read (token : LedgerToken) : Option (Bytes × ℕ) :=
  token.amount.toNat?.map (bufferFromHex token.assetNameHex, ·)

def LedgerAssetGroup.read (group : LedgerAssetGroup) : Option (Bytes × List (Bytes × ℕ)) :=
  (group.tokens.mapM LedgerToken.read).map (bufferFromHex group.policyIdHex, ·)

def LedgerOutput.read (output : LedgerOutput) : Option TransactionOutput := do
  let coins ← output.amount.toNat?
  let assets ← output.tokenBundle.mapM LedgerAssetGroup.read
  let address :=
    match output.destination with
    | .deviceOwned spendingPath stakingPath => devices.baseAddress spendingPath stakingPath
    | .thirdParty addressHex => bufferFromHex addressHex
  return ⟨address, coins, assets⟩

def LedgerWithdrawal.read (withdrawal : LedgerWithdrawal) : Option (Bytes × ℕ) :=
  withdrawal.amount.toNat?.map (devices.rewardAddress withdrawal.path, ·)

def LedgerRequest.read (request : LedgerRequest) : Option Transaction := do
  let outputs ← request.outputs.mapM (LedgerOutput.read devices)
  let fee ← request.fee.toNat?
  let ttl ← request.ttl.toNat?
  let withdrawals ← request.withdrawals.mapM (LedgerWithdrawal.read devices)
  let validityIntervalStart ←
    request.validityIntervalStartStr.elim (some none) fun start => start.toNat?.map some
  return {
    inputs := request.inputs.map fun input => (bufferFromHex input.txHashHex, input.outputIndex)
    outputs, fee, ttl, validityIntervalStart, withdrawals }

def TrezorToken.read (token : TrezorToken) : Option (Bytes × ℕ) :=
  token.amount.toNat?.map (bufferFromHex token.assetNameBytes, ·)

def TrezorAssetGroup.read (group : TrezorAssetGroup) : Option (Bytes × List (Bytes × ℕ)) :=
  (group.tokenAmounts.mapM TrezorToken.read).map (bufferFromHex group.policyId, ·)

def TrezorOutput.read (output : TrezorOutput) : Option TransactionOutput := do
  let coins ← output.amount.toNat?
  let assets ← output.tokenBundle.mapM TrezorAssetGroup.read
  let address :=
    match output.destination with
    | .addressParameters path stakingPath =>
        devices.baseAddress (devices.parsePath path) (devices.parsePath stakingPath)
    | .address address => devices.parseAddress address
  return ⟨address, coins, assets⟩

def TrezorWithdrawal.read (withdrawal : TrezorWithdrawal) : Option (Bytes × ℕ) :=
  withdrawal.amount.toNat?.map (devices.rewardAddress (devices.parsePath withdrawal.path), ·)

def TrezorRequest.read (request : TrezorRequest) : Option Transaction := do
  let outputs ← request.outputs.mapM (TrezorOutput.read devices)
  let fee ← request.fee.toNat?
  let ttl ← request.ttl.toNat?
  let withdrawals ← request.withdrawals.mapM (TrezorWithdrawal.read devices)
  let validityIntervalStart ←
    request.validityIntervalStartStr.elim (some none) fun start => start.toNat?.map some
  return {
    inputs := request.inputs.map fun input => (bufferFromHex input.prevHash, input.prevIndex)
    outputs, fee, ttl, validityIntervalStart, withdrawals }

end Klarity.HardwareWallets.SignTransaction
