import Klarity.Library.Cbor.Encoder
import Klarity.Renderer.Utils.Transaction

set_option autoImplicit false

/-! # Decoding transactions of the Cole era

What is promised of the libraries: every item is encoded so that it is read again, an array is read where its
elements are, and an object of the class `List` is encoded by its method. Then the bytes of a transaction, and
of a signed one, are read as what went into them. -/

namespace Klarity.Transaction

open Cbor (Item Reads readItem IsHead)

/-! ## The decoder -/

/-- An output whose address has been decoded. -/
structure Output where
  address : Item
  quantity : ℕ

structure Decoded where
  inputs : List CoinSelectionInput
  outputs : List Output

/-- The item that is encoded in a tagged byte string, as in inputs and witnesses. -/
def decodeEncoded : Item → Option Item
  | .array [.number 0, .tagged tag (.bytes b)] => if tag = encodedTag then readItem b else none
  | _ => none

def decodeInput (x : Item) : Option CoinSelectionInput := do
  match ← decodeEncoded x with
  | .array [.bytes id, .number index] => some ⟨HexText.ofBytes id, index⟩
  | _ => none

def decodeOutput : Item → Option Output
  | .array [address, .number quantity] => some ⟨address, quantity⟩
  | _ => none

/-- The public key and the chain code behind it. -/
def decodeExtendedPublicKey (xpub : Bytes) : Option ExtendedPublicKey :=
  if h : (HexText.ofBytes (xpub.take 32)).toBytes.length = 32 then
    some ⟨HexText.ofBytes (xpub.take 32), HexText.ofBytes (xpub.drop 32), h⟩
  else none

def decodeWitness (x : Item) : Option ColeSignedTransactionWitness := do
  match ← decodeEncoded x with
  | .array [.bytes xpub, .bytes signature] => do
      let xpub ← decodeExtendedPublicKey xpub
      some ⟨HexText.ofBytes signature, xpub⟩
  | _ => none

def decodeTransactionItem : Item → Option Decoded
  | .array [.array inputs, .array outputs, .emptyMap] => do
      let inputs ← inputs.mapM decodeInput
      let outputs ← outputs.mapM decodeOutput
      some ⟨inputs, outputs⟩
  | _ => none

def decodeTransaction (b : Bytes) : Option Decoded := do
  decodeTransactionItem (← readItem b)

/-- A signed transaction is an array of the transaction and its witnesses. -/
def decodeSignedTransaction (hex : String) : Option (Decoded × List ColeSignedTransactionWitness) := do
  match ← readItem (bufferFromHex hex) with
  | .array [transaction, .array witnesses] => do
      let decoded ← decodeTransactionItem transaction
      let witnesses ← witnesses.mapM decodeWitness
      some (decoded, witnesses)
  | _ => none

/-! ## What is promised of the libraries -/

structure Faithful (lib : Libraries) : Prop where
  item : ∀ x, Reads x (lib.encode (.item x))
  array : ∀ elements xs, List.Forall₂ (fun element x => Reads x (lib.encode element)) elements xs →
    Reads (.array xs) (lib.encode (.array elements))
  list : ∀ elems, lib.encode (.list elems) = encodeCBOR lib elems
  decode : ∀ x, lib.decodeFirstSync (lib.encode (.item x)) = some x

/-- The output has the quantity and the address: the item that is read from the address, which is the one
whose encoding the address is. -/
structure SameOutput (lib : Libraries) (o : CoinSelectionOutput) (output : Output) : Prop where
  address : encodeTransactionAddress lib o.address = some output.address
  encoded : ∀ x, lib.bs58Decode o.address = some (lib.encode (.item x)) → output.address = x
  quantity : output.quantity = o.amount.quantity

variable {lib : Libraries}

/-! ## Lists -/

theorem reads_encodeCBOR (hlib : Faithful lib) (elems : List Item) :
    Reads (.array elems) (encodeCBOR lib elems) := by
  have helems : List.Forall₂ Reads elems (elems.map fun el => lib.encode (.item el)) := by
    induction elems with
    | nil => exact .nil
    | cons el elems ih => exact .cons (hlib.item el) ih
  have hread := Reads.array_to_break helems
  rw [← List.flatMap_def] at hread
  exact hread

/-! ## Inputs, outputs and witnesses -/

theorem decodeEncoded_eq (hlib : Faithful lib) (x : Item) :
    decodeEncoded (.array [.number 0, .tagged encodedTag (.bytes (lib.encode (.item x)))]) = some x := by
  show (if encodedTag = encodedTag then readItem (lib.encode (.item x)) else none) = some x
  rw [if_pos rfl, (hlib.item x).readItem]

theorem decodeInput_eq (hlib : Faithful lib) (i : CoinSelectionInput) :
    decodeInput (.array [.number 0, .tagged encodedTag (.bytes (encodeTransactionInput lib i))]) = some i := by
  rw [decodeInput, encodeTransactionInput, decodeEncoded_eq hlib]
  show some (CoinSelectionInput.mk (HexText.ofBytes i.id.toBytes) i.index) = some i
  rw [HexText.ofBytes_toBytes]

theorem decodeExtendedPublicKey_eq (xpub : ExtendedPublicKey) :
    decodeExtendedPublicKey (xpub.publicKeyHex.toBytes ++ xpub.chainCodeHex.toBytes) = some xpub := by
  have hpublic : HexText.ofBytes ((xpub.publicKeyHex.toBytes ++ xpub.chainCodeHex.toBytes).take 32) =
      xpub.publicKeyHex := by
    rw [List.take_left' xpub.size, HexText.ofBytes_toBytes]
  have hchain : HexText.ofBytes ((xpub.publicKeyHex.toBytes ++ xpub.chainCodeHex.toBytes).drop 32) =
      xpub.chainCodeHex := by
    rw [List.drop_left' xpub.size, HexText.ofBytes_toBytes]
  simp only [decodeExtendedPublicKey, hpublic, hchain]
  rw [dif_pos xpub.size]

theorem decodeWitness_of_encoded {x : Item} {xpub signature : Bytes}
    (h : decodeEncoded x = some (.array [.bytes xpub, .bytes signature])) :
    decodeWitness x = (decodeExtendedPublicKey xpub).map (⟨HexText.ofBytes signature, ·⟩) := by
  rw [decodeWitness, h]
  simp only [Option.bind_eq_bind, Option.bind_some]
  cases decodeExtendedPublicKey xpub with
  | none => rfl
  | some key => rfl

theorem decodeWitness_eq (hlib : Faithful lib) (w : ColeSignedTransactionWitness) :
    decodeWitness (encodeWitness lib w) = some w := by
  have hsignature : HexText.ofBytes (rawBuffer w.signature.text) = w.signature :=
    HexText.ofBytes_toBytes w.signature
  have hxpub : decodeExtendedPublicKey
      (rawBuffer w.xpub.publicKeyHex.text ++ rawBuffer w.xpub.chainCodeHex.text) = some w.xpub :=
    decodeExtendedPublicKey_eq w.xpub
  rw [encodeWitness, decodeWitness_of_encoded (decodeEncoded_eq hlib _), hxpub, hsignature]
  rfl

theorem mapM_decodeInput (hlib : Faithful lib) (inps : List CoinSelectionInput) :
    (inps.map fun i => Item.array
      [.number 0, .tagged encodedTag (.bytes (encodeTransactionInput lib i))]).mapM decodeInput = some inps := by
  have hmap := List.mapM_eq_some_map (g := id) (l := inps) fun i _ => decodeInput_eq hlib i
  rw [List.map_id] at hmap
  rw [List.mapM_map]
  exact hmap

theorem mapM_decodeWitness (hlib : Faithful lib) (witnesses : List ColeSignedTransactionWitness) :
    (witnesses.map (encodeWitness lib)).mapM decodeWitness = some witnesses := by
  have hmap := List.mapM_eq_some_map (g := id) (l := witnesses) fun w _ => decodeWitness_eq hlib w
  rw [List.map_id] at hmap
  rw [List.mapM_map]
  exact hmap

/-- Addresses that can be decoded are encoded by what they are decoded to. -/
theorem exists_outputs (hlib : Faithful lib) (outs : List CoinSelectionOutput)
    (haddress : ∀ o ∈ outs, (encodeTransactionAddress lib o.address).isSome) :
    ∃ elems outputs, outs.mapM (encodeTransactionOutput lib) = some elems ∧
      elems.mapM decodeOutput = some outputs ∧ List.Forall₂ (SameOutput lib) outs outputs := by
  induction outs with
  | nil => exact ⟨[], [], rfl, rfl, .nil⟩
  | cons o outs ih =>
    obtain ⟨elems, outputs, helems, houtputs, hsame⟩ := ih fun other hother => haddress other (by simp [hother])
    obtain ⟨address, ho⟩ := Option.isSome_iff_exists.mp (haddress o (by simp))
    refine ⟨.array [address, .number o.amount.quantity] :: elems, ⟨address, o.amount.quantity⟩ :: outputs, ?_,
      ?_, .cons ⟨ho, ?_, rfl⟩ hsame⟩
    · rw [List.mapM_cons, encodeTransactionOutput, ho, helems]
      rfl
    · rw [List.mapM_cons, houtputs]
      rfl
    · intro x hx
      rw [encodeTransactionAddress, hx] at ho
      exact Option.some.inj (ho.symm.trans (hlib.decode x))

/-! ## Transactions -/

theorem reads_transaction (hlib : Faithful lib) (inps : List CoinSelectionInput) (elems : List Item) :
    Reads (.array [.array (inps.map fun i => .array
        [.number 0, .tagged encodedTag (.bytes (encodeTransactionInput lib i))]), .array elems, .emptyMap])
      (lib.encode (.array [encodeTransactionInputs lib inps, .list elems, .item .emptyMap])) := by
  refine hlib.array _ _ (.cons ?_ (.cons ?_ (.cons (hlib.item .emptyMap) .nil)))
  · rw [encodeTransactionInputs, hlib.list]
    exact reads_encodeCBOR hlib _
  · rw [hlib.list]
    exact reads_encodeCBOR hlib elems

/-- The two bytes strings behind a head of two elements. -/
theorem reads_pair {x y : Item} {b c : Bytes} (hx : Reads x b) (hy : Reads y c) :
    Reads (.array [x, y]) (rawBuffer "82" ++ b ++ c) := by
  have hbytes : rawBuffer "82" = [0x82] := by decide
  have hhead : IsHead 4 2 [0x82] := fun _ => rfl
  rw [hbytes]
  have hread : Reads (.array [x, y]) ([0x82] ++ [b, c].flatten) := Reads.array hhead (.cons hx (.cons hy .nil))
  simpa using hread

theorem decodeSignedTransaction_of_reads {x : Item} {xs : List Item} {b : Bytes} {decoded : Decoded}
    {witnesses : List ColeSignedTransactionWitness} (hread : Reads (.array [x, .array xs]) b)
    (hdecoded : decodeTransactionItem x = some decoded) (hwitnesses : xs.mapM decodeWitness = some witnesses) :
    decodeSignedTransaction (hexOfBytes b) = some (decoded, witnesses) := by
  rw [decodeSignedTransaction, bufferFromHex_hexOfBytes, hread.readItem]
  show (decodeTransactionItem x >>= _) = _
  rw [hdecoded]
  show (xs.mapM decodeWitness >>= _) = _
  rw [hwitnesses]
  rfl

/-- What is signed and what signs it are read as they were given: the inputs, the outputs and the witnesses,
in their order. -/
theorem decode_encodeSignedTransaction (hlib : Faithful lib) (data : CoinSelectionsResponse)
    (witnesses : List ColeSignedTransactionWitness)
    (haddress : ∀ o ∈ data.outputs, (encodeTransactionAddress lib o.address).isSome) :
    ∃ body outputs, encodeTransaction lib data = some body ∧
      List.Forall₂ (SameOutput lib) data.outputs outputs ∧
      decodeTransaction body = some ⟨data.inputs, outputs⟩ ∧
      decodeSignedTransaction (encodeSignedTransaction lib ⟨hexOfBytes body, witnesses⟩) =
        some (⟨data.inputs, outputs⟩, witnesses) := by
  obtain ⟨elems, outputs, helems, houtputs, hsame⟩ := exists_outputs hlib data.outputs haddress
  have hread := reads_transaction hlib data.inputs elems
  have hdecoded : decodeTransactionItem (.array [.array (data.inputs.map fun i => .array
      [.number 0, .tagged encodedTag (.bytes (encodeTransactionInput lib i))]), .array elems, .emptyMap]) =
      some ⟨data.inputs, outputs⟩ := by
    rw [decodeTransactionItem, mapM_decodeInput hlib, houtputs]
    rfl
  refine ⟨lib.encode (.array [encodeTransactionInputs lib data.inputs, .list elems, .item .emptyMap]), outputs,
    ?_, hsame, ?_, ?_⟩
  · rw [encodeTransaction, encodeTransactionOutputs, helems]
    rfl
  · rw [decodeTransaction, hread.readItem]
    exact hdecoded
  · have hsigned := reads_pair hread (hlib.item (.array (witnesses.map (encodeWitness lib))))
    rw [encodeSignedTransaction, rawBuffer, rawBuffer, bufferFromHex_hexOfBytes]
    exact decodeSignedTransaction_of_reads hsigned hdecoded (mapM_decodeWitness hlib witnesses)

/-! ## With an encoder -/

mutual

def encode : Encodable → Bytes
  | .item x => Cbor.encodeItem x
  | .array elements => Cbor.encodeArray (encodeAll elements)
  | .list elems => rawBuffer "9F" ++ elems.flatMap Cbor.encodeItem ++ rawBuffer "FF"

def encodeAll : List Encodable → List Bytes
  | [] => []
  | element :: elements => encode element :: encodeAll elements

end

/-- The digits of base 58. -/
def base58Digits : List Char :=
  "123456789ABCDEFGHJKLMNPQRSTUVWXYZabcdefghijkmnopqrstuvwxyz".toList

/-- Every leading zero digit is a zero byte. -/
def bs58Decode (s : String) : Option Bytes := do
  let digits ← s.toList.mapM base58Digits.idxOf?
  let n := digits.foldl (fun n digit => 58 * n + digit) 0
  let zeros := digits.takeWhile (· = 0)
  some (zeros.map (fun _ => 0) ++ (Cbor.toBytes digits.length n).dropWhile (· = 0))

def libraries : Libraries where
  encode := encode
  decodeFirstSync := readItem
  bs58Decode := bs58Decode

theorem encodeAll_eq (elements : List Encodable) : encodeAll elements = elements.map encode := by
  induction elements with
  | nil => rw [encodeAll, List.map_nil]
  | cons element elements ih => rw [encodeAll, List.map_cons, ih]

theorem encode_item (x : Item) : encode (.item x) = Cbor.encodeItem x := by
  rw [encode]

theorem faithful_libraries : Faithful libraries where
  item x := by
    show Reads x (encode (.item x))
    rw [encode_item]
    exact Cbor.reads_encodeItem x
  array elements xs h := by
    show Reads (.array xs) (encode (.array elements))
    rw [encode, encodeAll_eq]
    refine Cbor.reads_encodeArray ?_
    induction h with
    | nil => exact .nil
    | cons hx _ ih => exact .cons hx ih
  list elems := by
    show encode (.list elems) = rawBuffer "9F" ++ elems.flatMap (fun el => encode (.item el)) ++ rawBuffer "FF"
    simp only [encode]
  decode x := by
    show readItem (encode (.item x)) = some x
    rw [encode_item]
    exact (Cbor.reads_encodeItem x).readItem

def payment : CoinSelectionsResponse where
  inputs :=
    [⟨HexText.ofBytes [0x01, 0xF5, 0x4C, 0x86], 1⟩, ⟨HexText.ofBytes [0xC0, 0x1B], 0⟩]
  outputs :=
    [⟨"Ae2tdPwUPEZFRbyhz3cpfC2CumGzNkFBN2L42rcUc2yjQpEkxDbkPodpMAi", ⟨45000000000000000⟩⟩,
      ⟨"Ae2tdPwUPEYwFx4dmJheyNPPYXtvHbJLeCaA96o6Y2iiUL18cAt7AizN2zG", ⟨1000000⟩⟩]

def paymentWitness : ColeSignedTransactionWitness where
  signature := HexText.ofBytes [0xF8, 0x9F]
  xpub := ⟨HexText.ofBytes (List.replicate 32 0xAB), HexText.ofBytes [0xCD], by decide +kernel⟩

/-- A payment with its change. -/
theorem decode_payment :
    ∃ body outputs, encodeTransaction libraries payment = some body ∧
      List.Forall₂ (SameOutput libraries) payment.outputs outputs ∧
      decodeTransaction body = some ⟨payment.inputs, outputs⟩ ∧
      decodeSignedTransaction (encodeSignedTransaction libraries ⟨hexOfBytes body, [paymentWitness]⟩) =
        some (⟨payment.inputs, outputs⟩, [paymentWitness]) := by
  refine decode_encodeSignedTransaction faithful_libraries payment [paymentWitness] ?_
  decide +kernel

end Klarity.Transaction
