import Klarity.Library.Lists
import Klarity.Renderer.Stores.HardwareWallets.SignTransaction.Transaction
import Mathlib

set_option autoImplicit false

/-! # What the device signs is what is submitted

A coin selection describes one transaction (`describedTransaction`). The body that is encoded reads as
this transaction (`read_encodeBody`), and so does the request to a Ledger (`read_ledger`). The request to
a Trezor also carries the current slot as the start of the validity interval, which the body does not
have (`read_trezor`). -/

namespace Klarity.HardwareWallets.SignTransaction

variable {lib : Packages} {context : Context} {devices : Devices} {coinSelection : CoinSelection}

/-! ## What is promised -/

/-- What the signing relies on. Of the packages: hexadecimal digits read back, a path means the same with
    and without its `m/`, and a Trezor parses an address by its style. Of the backend: the address of a
    change output is the one of its path, and a stake address is the one of its path. -/
structure Documented (lib : Packages) (context : Context) (devices : Devices)
    (coinSelection : CoinSelection) : Prop where
  bufferFromHex_bufToHex : ∀ b, bufferFromHex (lib.bufToHex b) = b
  parsePath_eq : ∀ path, devices.parsePath ("m/" ++ path) = lib.strToPath path
  parseAddress_eq : ∀ address,
    devices.parseAddress address = decodeAddress lib (context.addressStyle address) address
  change_address : ∀ output ∈ coinSelection.outputs, ∀ path, output.derivationPath = some path →
    path ≠ [] ∧ decodeAddress lib (context.addressStyle output.address) output.address
      = devices.baseAddress (derivationPathToLedgerPath lib path) (lib.strToPath "1852'/1815'/0'/2/0")
  stake_address : ∀ withdrawal ∈ coinSelection.withdrawals, withdrawal.derivationPath ≠ []
    ∧ lib.bech32DecodeAddress withdrawal.stakeAddress
      = devices.rewardAddress (derivationPathToLedgerPath lib withdrawal.derivationPath)

/-- The answers of a device, by the family it is of. -/
inductive Answer
  | trezor (payload : TrezorPayload)
  | ledger (supplement : Option AuxiliaryDataSupplement)

section Sign

variable (lib context devices coinSelection) (votingData : Option VotingData)
  (unsignedTxCerts : List SophieTxCert) (signedWitnesses : List (Option SophieTxWitness))
  (devicePath : Option String)

/-- The transaction that the device that answers was asked to sign. -/
def Answer.readRequest : Answer → Option Transaction
  | .trezor _ => (Trezor.request lib context coinSelection votingData devicePath).read devices
  | .ledger _ => (Ledger.request lib context coinSelection votingData devicePath).read devices

def Answer.txBody : Answer → TxBody
  | .trezor payload =>
      Trezor.txBody lib context coinSelection votingData unsignedTxCerts signedWitnesses payload
  | .ledger supplement =>
      Ledger.txBody lib context coinSelection votingData unsignedTxCerts signedWitnesses supplement

/-- The request and the body that is encoded around the witnesses describe one transaction. -/
def Matches (answer : Answer) : Prop :=
  ∀ transaction,
    answer.txBody lib context coinSelection votingData unsignedTxCerts signedWitnesses
      = .encoded transaction →
    ∃ t, answer.readRequest lib context devices coinSelection votingData devicePath = some t
      ∧ (TxBody.encoded transaction).read = some t

/-- They do, but for the start of the validity interval. -/
def MatchesUpToStart (answer : Answer) : Prop :=
  ∀ transaction,
    answer.txBody lib context coinSelection votingData unsignedTxCerts signedWitnesses
      = .encoded transaction →
    ∃ t start,
      answer.readRequest lib context devices coinSelection votingData devicePath
        = some { t with validityIntervalStart := start }
      ∧ (TxBody.encoded transaction).read = some t

end Sign

/-! ## The described transaction -/

/-- The assets of an output, grouped. -/
def describedAssets (lib : Packages) (assets : List Asset) : AssetMap := SophieTxOutputAssets lib assets

def describedOutput (lib : Packages) (context : Context) (output : CoinSelectionOutput) :
    TransactionOutput :=
  { address := decodeAddress lib (context.addressStyle output.address) output.address
    coins := output.amount
    assets := output.assets.elim [] (describedAssets lib) }

/-- The transaction that a coin selection describes. -/
def describedTransaction (lib : Packages) (context : Context) (coinSelection : CoinSelection) :
    Transaction :=
  { inputs := coinSelection.inputs.map fun input => (bufferFromHex input.id, input.index)
    outputs := coinSelection.outputs.map (describedOutput lib context)
    fee := feeInEntropic coinSelection.fee
    ttl := getTtl context
    validityIntervalStart := none
    withdrawals := coinSelection.withdrawals.map fun withdrawal =>
      (lib.bech32DecodeAddress withdrawal.stakeAddress, withdrawal.amount) }

/-! ## The body -/

theorem readPolicies_encodeAssets (assets : AssetMap) :
    (assets.map fun (policyId, tokens) => (Cbor.bytes policyId,
      Cbor.map (tokens.map fun (name, quantity) => (Cbor.bytes name, Cbor.unsigned quantity)))).mapM
        readPolicy = some assets := by
  rw [List.mapM_map, List.mapM_eq_some_map (g := id), List.map_id]
  intro policy _
  have htokens : (policy.2.map fun (name, quantity) =>
      (Cbor.bytes name, Cbor.unsigned quantity)).mapM readAmount = some policy.2 := by
    rw [List.mapM_map, List.mapM_eq_some_map (g := id), List.map_id]
    exact fun _ _ => rfl
  simp only [Function.comp, readPolicy, htokens]
  rfl

theorem readOutput_encodeCBOR (output : CoinSelectionOutput) :
    readOutput ((sophieTxOutput lib output (context.addressStyle output.address)).encodeCBOR lib)
      = some (describedOutput lib context output) := by
  unfold SophieTxOutput.encodeCBOR sophieTxOutput describedOutput
  split
  · next asset assets h =>
      simp only [Coins.encodeCBOR, encodeAssets, readOutput, readPolicies_encodeAssets, h]
      rfl
  · next h =>
      have hnil : output.assets.elim [] (describedAssets lib) = [] := by
        rcases h' : output.assets with _ | ⟨_ | ⟨asset, assets⟩⟩
        · rfl
        · simp [describedAssets, SophieTxOutputAssets, groupTokensByPolicyId_nil]
        · exact absurd h' (h asset assets)
      simp only [Coins.encodeCBOR, readOutput, hnil]

/-! The entries of a body, by their numbers. -/

section Lookup

variable (lib) (txAux : SophieTxAux)

theorem lookup_inputs :
    (txAux.encodeCBOR lib).lookup 0
      = some (.array (txAux.inputs.map SophieTxInput.encodeCBOR)) := rfl

theorem lookup_outputs :
    (txAux.encodeCBOR lib).lookup 1
      = some (.array (txAux.outputs.map (SophieTxOutput.encodeCBOR lib))) := rfl

theorem lookup_fee : (txAux.encodeCBOR lib).lookup 2 = some (.unsigned txAux.fee) := rfl

theorem lookup_ttl : (txAux.encodeCBOR lib).lookup 3 = some (.unsigned txAux.ttl) := rfl

theorem lookup_withdrawals :
    (txAux.encodeCBOR lib).lookup 5 = txAux.withdrawals.map (encodeWithdrawals lib) := by
  unfold SophieTxAux.encodeCBOR
  by_cases hcerts : txAux.certs = [] <;> cases txAux.withdrawals <;>
    cases txAux.auxiliaryDataHash <;> simp [Cbor.lookup, hcerts]

/-- A body has no start of the validity interval. -/
theorem lookup_validityIntervalStart : (txAux.encodeCBOR lib).lookup 8 = none := by
  unfold SophieTxAux.encodeCBOR
  by_cases hcerts : txAux.certs = [] <;> cases txAux.withdrawals <;>
    cases txAux.auxiliaryDataHash <;> simp [Cbor.lookup, hcerts]

end Lookup

theorem readWithdrawals_encodeWithdrawals (withdrawals : List CoinSelectionWithdrawal) :
    readWithdrawals (encodeWithdrawals lib withdrawals)
      = some (withdrawals.map fun withdrawal =>
          (lib.bech32DecodeAddress withdrawal.stakeAddress, withdrawal.amount)) := by
  simp only [readWithdrawals, encodeWithdrawals, List.mapM_map]
  exact List.mapM_eq_some_map fun _ _ => rfl

/-- A body reads as the transaction that the coin selection describes. -/
theorem readBody_encodeCBOR (txAux : SophieTxAux)
    (hinputs : txAux.inputs = coinSelection.inputs.map SophieTxInputFromUtxo)
    (houtputs : txAux.outputs = unsignedTxOutputs lib context coinSelection.outputs)
    (hfee : txAux.fee = feeInEntropic coinSelection.fee) (httl : txAux.ttl = getTtl context)
    (hwithdrawals : txAux.withdrawals =
      if coinSelection.withdrawals.length > 0 then some coinSelection.withdrawals else none) :
    readBody (txAux.encodeCBOR lib) = some (describedTransaction lib context coinSelection) := by
  have hreadInputs : (txAux.inputs.map SophieTxInput.encodeCBOR).mapM readInput
      = some (describedTransaction lib context coinSelection).inputs := by
    rw [hinputs, List.mapM_map, List.mapM_map]
    exact List.mapM_eq_some_map fun _ _ => rfl
  have hreadOutputs : (txAux.outputs.map (SophieTxOutput.encodeCBOR lib)).mapM readOutput
      = some (describedTransaction lib context coinSelection).outputs := by
    rw [houtputs, unsignedTxOutputs, List.mapM_map, List.mapM_map]
    exact List.mapM_eq_some_map fun output _ => readOutput_encodeCBOR output
  have hreadWithdrawals :
      (txAux.withdrawals.map (encodeWithdrawals lib)).elim (some []) readWithdrawals
        = some (describedTransaction lib context coinSelection).withdrawals := by
    rw [hwithdrawals]
    split
    · exact readWithdrawals_encodeWithdrawals _
    · next h =>
        have hnil : coinSelection.withdrawals = [] := List.length_eq_zero_iff.1 (by omega)
        simp [describedTransaction, hnil]
  unfold readBody
  rw [lookup_inputs, lookup_outputs, lookup_fee, lookup_ttl, lookup_withdrawals,
    lookup_validityIntervalStart, hreadWithdrawals]
  simp only [Cbor.array?, Cbor.unsigned?, Option.bind_eq_bind, Option.bind_some, hreadInputs,
    hreadOutputs, hfee, httl]
  rfl

/-- The body in what either signing function encodes. -/
theorem read_encodeBody (votingData : Option VotingData) (unsignedTxCerts : List SophieTxCert)
    (supplement : Option AuxiliaryDataSupplement)
    (signedWitnesses : List (Option SophieTxWitness)) :
    (TxBody.encoded (encodeBody lib context coinSelection votingData unsignedTxCerts supplement
      signedWitnesses)).read = some (describedTransaction lib context coinSelection) := by
  unfold encodeBody
  cases votingData <;> cases supplement <;> exact readBody_encodeCBOR _ rfl rfl rfl rfl rfl

/-! ## The requests -/

theorem toNat?_toString (n : ℕ) : (toString n).toNat? = some n := Nat.toNat?_repr n

/-- The chunks of a path with and without the `m/` in front of them. -/
theorem derivationPathToString_eq {path : List String} (h : path ≠ []) :
    derivationPathToString path = "m/" ++ "/".intercalate (path.map derivationChunk) := by
  induction path using List.reverseRecOn with
  | nil => exact absurd rfl h
  | append_singleton path chunk ih =>
      rw [derivationPathToString, List.foldl_append, List.map_append]
      rcases eq_or_ne path [] with rfl | hne
      · simp [String.intercalate_singleton]
      · have hstep := ih hne
        rw [derivationPathToString] at hstep
        rw [hstep, String.intercalate_append_of_ne_nil (by simpa using hne) (by simp)]
        simp [String.append_assoc]

theorem read_ledgerTokenBundle (assets : List Asset) :
    (SophieLedger.prepareTokenBundle lib assets).mapM LedgerAssetGroup.read
      = some (describedAssets lib assets) := by
  unfold SophieLedger.prepareTokenBundle describedAssets SophieTxOutputAssets
  rw [List.mapM_map]
  refine List.mapM_eq_some_map fun group _ => ?_
  simp only [Function.comp, LedgerAssetGroup.read, List.mapM_map]
  rw [List.mapM_eq_some_map (g := fun token => (bufferFromHex token.assetName, token.quantity))]
  · rfl
  · intro token _
    simp only [Function.comp, LedgerToken.read, toNat?_toString]
    rfl

theorem read_trezorTokenBundle (assets : List Asset) :
    (SophieTrezor.prepareTokenBundle lib assets).mapM TrezorAssetGroup.read
      = some (describedAssets lib assets) := by
  unfold SophieTrezor.prepareTokenBundle describedAssets SophieTxOutputAssets
  rw [List.mapM_map]
  refine List.mapM_eq_some_map fun group _ => ?_
  simp only [Function.comp, TrezorAssetGroup.read, List.mapM_map]
  rw [List.mapM_eq_some_map (g := fun token => (bufferFromHex token.assetName, token.quantity))]
  · rfl
  · intro token _
    simp only [Function.comp, TrezorToken.read, toNat?_toString]
    rfl

section Requests

variable (h : Documented lib context devices coinSelection)
include h

theorem read_ledgerOutput {output : CoinSelectionOutput} (ho : output ∈ coinSelection.outputs) :
    LedgerOutput.read devices
        (prepareLedgerOutput lib output (context.addressStyle output.address))
      = some (describedOutput lib context output) := by
  have hbundle : (output.assets.elim [] (SophieLedger.prepareTokenBundle lib)).mapM
      LedgerAssetGroup.read = some (output.assets.elim [] (describedAssets lib)) := by
    cases output.assets with
    | none => rfl
    | some assets => exact read_ledgerTokenBundle assets
  unfold LedgerOutput.read prepareLedgerOutput describedOutput
  simp only [toNat?_toString, hbundle, Option.bind_eq_bind, Option.bind_some]
  cases hpath : output.derivationPath with
  | none =>
      simp only [h.bufferFromHex_bufToHex]
      rfl
  | some path =>
      simp only [← (h.change_address output ho path hpath).2]
      rfl

theorem read_trezorOutput {output : CoinSelectionOutput} (ho : output ∈ coinSelection.outputs) :
    TrezorOutput.read devices (prepareTrezorOutput lib output)
      = some (describedOutput lib context output) := by
  have hbundle : (output.assets.elim [] (SophieTrezor.prepareTokenBundle lib)).mapM
      TrezorAssetGroup.read = some (output.assets.elim [] (describedAssets lib)) := by
    cases output.assets with
    | none => rfl
    | some assets => exact read_trezorTokenBundle assets
  unfold TrezorOutput.read prepareTrezorOutput describedOutput
  simp only [toNat?_toString, hbundle, Option.bind_eq_bind, Option.bind_some]
  cases hpath : output.derivationPath with
  | none =>
      simp only [h.parseAddress_eq]
      rfl
  | some path =>
      obtain ⟨hne, haddress⟩ := h.change_address output ho path hpath
      have hstaking : devices.parsePath "m/1852'/1815'/0'/2/0"
          = lib.strToPath "1852'/1815'/0'/2/0" := h.parsePath_eq "1852'/1815'/0'/2/0"
      have hspending : devices.parsePath (derivationPathToString path)
          = derivationPathToLedgerPath lib path := by
        rw [derivationPathToString_eq hne, h.parsePath_eq]
        rfl
      simp only [hstaking, hspending, ← haddress]
      rfl

/-- A Ledger is asked to sign the transaction that the coin selection describes. -/
theorem read_ledger (votingData : Option VotingData) (devicePath : Option String) :
    (Ledger.request lib context coinSelection votingData devicePath).read devices
      = some (describedTransaction lib context coinSelection) := by
  have houtputs : (coinSelection.outputs.map fun output =>
      prepareLedgerOutput lib output (context.addressStyle output.address)).mapM
        (LedgerOutput.read devices)
          = some (coinSelection.outputs.map (describedOutput lib context)) := by
    rw [List.mapM_map]
    exact List.mapM_eq_some_map fun output ho => read_ledgerOutput h ho
  have hwithdrawals : (coinSelection.withdrawals.map (prepareLedgerWithdrawal lib)).mapM
      (LedgerWithdrawal.read devices)
        = some (describedTransaction lib context coinSelection).withdrawals := by
    rw [List.mapM_map]
    refine List.mapM_eq_some_map fun withdrawal hw => ?_
    simp only [Function.comp, LedgerWithdrawal.read, prepareLedgerWithdrawal, toNat?_toString,
      (h.stake_address withdrawal hw).2]
    rfl
  unfold LedgerRequest.read Ledger.request
  simp only [houtputs, hwithdrawals, toNat?_toString, Option.bind_eq_bind, Option.bind_some,
    Option.elim, List.map_map]
  rfl

/-- A Trezor is asked to sign this transaction with the current slot as the start of its validity
    interval. -/
theorem read_trezor (votingData : Option VotingData) (devicePath : Option String) :
    (Trezor.request lib context coinSelection votingData devicePath).read devices
      = some { describedTransaction lib context coinSelection with
          validityIntervalStart := some context.absoluteSlotNumber } := by
  have houtputs : (coinSelection.outputs.map (prepareTrezorOutput lib)).mapM
      (TrezorOutput.read devices) = some (coinSelection.outputs.map (describedOutput lib context)) := by
    rw [List.mapM_map]
    exact List.mapM_eq_some_map fun output ho => read_trezorOutput h ho
  have hwithdrawals : (coinSelection.withdrawals.map prepareTrezorWithdrawal).mapM
      (TrezorWithdrawal.read devices)
        = some (describedTransaction lib context coinSelection).withdrawals := by
    rw [List.mapM_map]
    refine List.mapM_eq_some_map fun withdrawal hw => ?_
    obtain ⟨hne, haddress⟩ := h.stake_address withdrawal hw
    have hpath : devices.parsePath (derivationPathToString withdrawal.derivationPath)
        = derivationPathToLedgerPath lib withdrawal.derivationPath := by
      rw [derivationPathToString_eq hne, h.parsePath_eq]
      rfl
    simp only [Function.comp, TrezorWithdrawal.read, prepareTrezorWithdrawal, toNat?_toString, hpath,
      haddress]
    rfl
  unfold TrezorRequest.read Trezor.request
  simp only [houtputs, hwithdrawals, toNat?_toString, Option.bind_eq_bind, Option.bind_some,
    Option.elim, List.map_map, Option.map_some]
  rfl

end Requests

/-! ## The main results -/

section Main

variable (votingData : Option VotingData) (unsignedTxCerts : List SophieTxCert)
  (signedWitnesses : List (Option SophieTxWitness)) (devicePath : Option String)

/-- Where the encoding is left to this code, the request to a Trezor is not about the encoded body. -/
theorem not_matches_rawTx (h : Documented lib context devices coinSelection)
    (supplement : Option AuxiliaryDataSupplement) :
    ¬ Matches lib context devices coinSelection votingData unsignedTxCerts signedWitnesses devicePath
      (.trezor (.rawTx supplement)) := by
  intro hmatch
  obtain ⟨t, hrequest, hread⟩ := hmatch _ rfl
  have hrequest' := (read_trezor h votingData devicePath).symm.trans hrequest
  have hread' := (read_encodeBody votingData unsignedTxCerts supplement signedWitnesses).symm.trans
    hread
  have hstart := congrArg (Option.map Transaction.validityIntervalStart)
    (hrequest'.trans hread'.symm)
  exact absurd hstart (by simp [describedTransaction])

end Main

/-! ## A sample transaction -/

/-- The value of a chunk of a path, with a mark behind a hardened one. -/
def parseIndex (chunk : List Char) : ℕ :=
  (chunk.filter Char.isDigit).foldl (fun n c => 10 * n + (c.toNat - '0'.toNat)) 0
    + if Char.ofNat 39 ∈ chunk then 2147483648 else 0

def sampleStakeAddress : String := "stake1uy3zyg3zyg3zyg3zyg3zyg3zyg3zyg3zyg3zyg3zyg3zygsflrjnr"

def sampleChangeAddress : String :=
  "addr1qyg3zyg3zyg3zyg3zyg3zyg3zyg3zyg3zyg3zyg3zyg3zyfzyg3zyg3zyg3zyg3zyg3zyg3zyg3zyg3zyg3zyg3zyg3qd5sgwv"

/-- The addresses of one wallet, and the digits of a buffer. -/
def sampleLib : Packages where
  bech32DecodeAddress address :=
    if address = sampleStakeAddress then 225 :: List.replicate 28 34
    else 1 :: (List.replicate 28 17 ++ List.replicate 28 34)
  base58Decode _ := [1, 2, 3]
  bufToHex := hexOfBytes
  strToPath path := (path.toList.splitOn '/').map parseIndex
  localeCompare := compare

def sampleContext : Context where
  addressStyle address := if address = sampleChangeAddress then .sophie else .cole
  isMainnet := true
  absoluteSlotNumber := 41000000

def sampleDevices : Devices where
  baseAddress _ _ := 1 :: (List.replicate 28 17 ++ List.replicate 28 34)
  rewardAddress _ := 225 :: List.replicate 28 34
  parseAddress address := decodeAddress sampleLib (sampleContext.addressStyle address) address
  parsePath path := sampleLib.strToPath (String.ofList (path.toList.drop 2))

/-- Some BCC go to an old address, the rest, with a token and the rewards, back to the wallet. -/
def sampleSelection : CoinSelection where
  inputs := [⟨sampleChangeAddress, 5000000, "00ff", 1, ["1852H", "1815H", "0H", "0", "0"]⟩]
  outputs :=
    [⟨"Ldp", 2000000, none, none⟩,
      ⟨sampleChangeAddress, 3900000, some ["1852H", "1815H", "0H", "1", "0"], some [⟨"aa", "bb", 7⟩]⟩]
  certificates := []
  withdrawals := [⟨sampleStakeAddress, ["1852H", "1815H", "0H", "2", "0"], 1100000⟩]
  fee := 1 / 5

theorem documented_sample :
    Documented sampleLib sampleContext sampleDevices sampleSelection where
  bufferFromHex_bufToHex := bufferFromHex_hexOfBytes
  parsePath_eq path := by simp [sampleDevices]
  parseAddress_eq _ := rfl
  change_address output ho path hpath := by
    simp only [sampleSelection, List.mem_cons, List.not_mem_nil, or_false] at ho
    rcases ho with rfl | rfl
    · exact absurd hpath (by simp)
    · obtain rfl := Option.some.inj hpath
      have hne : sampleChangeAddress ≠ sampleStakeAddress := by decide
      exact ⟨by simp, by simp [decodeAddress, sampleContext, sampleLib, sampleDevices, hne]⟩
  stake_address withdrawal hw := by
    obtain rfl := List.mem_singleton.1 hw
    exact ⟨by simp, by simp [sampleLib, sampleDevices]⟩

end Klarity.HardwareWallets.SignTransaction
