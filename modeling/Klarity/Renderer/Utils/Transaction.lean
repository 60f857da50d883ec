import Klarity.Library.Cbor.Format

set_option autoImplicit false

/-! # Transactions of the Cole era

A transaction is encoded as an array of two lists and an empty map, and a signed one is put together by hand
from the bytes of the transaction and of its witnesses. Inputs and witnesses are byte strings that are
encodings themselves. -/

namespace Klarity.Transaction

open Cbor (Item Tag)

/-! ## Data -/

/-- The fields of a selected input that are encoded. -/
structure CoinSelectionInput where
  id : HexText
  index : ℕ

structure Amount where
  quantity : ℕ

/-- The fields of a selected output that are encoded; the change is among the outputs. -/
structure CoinSelectionOutput where
  address : String
  amount : Amount

structure CoinSelectionsResponse where
  inputs : List CoinSelectionInput
  outputs : List CoinSelectionOutput

/-- A public key has 32 bytes. -/
structure ExtendedPublicKey where
  publicKeyHex : HexText
  chainCodeHex : HexText
  size : publicKeyHex.toBytes.length = 32

structure ColeSignedTransactionWitness where
  signature : HexText
  xpub : ExtendedPublicKey

structure ColeEncodeSignedTransactionRequest where
  txDataHex : String
  witnesses : List ColeSignedTransactionWitness

/-! ## The libraries -/

/-- What is encoded: `list` is an object of the class `List`, whose own method the encoder calls. -/
inductive Encodable
  | item (x : Item)
  | array (elements : List Encodable)
  | list (elems : List Item)

/-- The functions of `cbor` and `bs58`; `none` is an error. -/
structure Libraries where
  encode : Encodable → Bytes
  decodeFirstSync : Bytes → Option Item
  bs58Decode : String → Option Bytes

variable (lib : Libraries)

/-! ## Encoding -/

def rawBuffer (str : String) : Bytes :=
  bufferFromHex str

/-- The method of the class `List`. -/
def encodeCBOR (elems : List Item) : Bytes :=
  rawBuffer "9F" -- Begin Indefinite list
    ++ elems.flatMap (fun el => lib.encode (.item el))
    ++ rawBuffer "FF" -- Break Indefinite list

/-- The tag of a byte string that is an encoding. -/
def encodedTag : Tag := ⟨24, by decide⟩

def encodeTransactionInput (input : CoinSelectionInput) : Bytes :=
  lib.encode (.item (.array [.bytes (rawBuffer input.id.text), .number input.index]))

def encodeTransactionInputs (inps : List CoinSelectionInput) : Encodable :=
  .list (inps.map fun i => .array [.number 0, .tagged encodedTag (.bytes (encodeTransactionInput lib i))])

def encodeTransactionAddress (addr : String) : Option Item := do
  let bytes ← lib.bs58Decode addr
  lib.decodeFirstSync bytes

def encodeTransactionOutput (o : CoinSelectionOutput) : Option Item := do
  let address ← encodeTransactionAddress lib o.address
  some (.array [address, .number o.amount.quantity])

def encodeTransactionOutputs (outs : List CoinSelectionOutput) : Option Encodable := do
  let elems ← outs.mapM (encodeTransactionOutput lib)
  some (.list elems)

def encodeTransaction (data : CoinSelectionsResponse) : Option Bytes := do
  let outputs ← encodeTransactionOutputs lib data.outputs
  some (lib.encode (.array [encodeTransactionInputs lib data.inputs, outputs, .item .emptyMap]))

def thDataHexGenerator (txData : CoinSelectionsResponse) : Option String :=
  (encodeTransaction lib txData).map hexOfBytes

def encodeWitness (witness : ColeSignedTransactionWitness) : Item :=
  let encoded := lib.encode (.item (.array
    [.bytes (rawBuffer witness.xpub.publicKeyHex.text ++ rawBuffer witness.xpub.chainCodeHex.text),
      .bytes (rawBuffer witness.signature.text)]))
  .array [.number 0, .tagged encodedTag (.bytes encoded)]

def encodeSignedTransaction (request : ColeEncodeSignedTransactionRequest) : String :=
  hexOfBytes (rawBuffer "82" ++ rawBuffer request.txDataHex
    ++ lib.encode (.item (.array (request.witnesses.map (encodeWitness lib)))))

end Klarity.Transaction
