import Klarity.Library.Cbor
import Klarity.Renderer.Api.Transactions.Types
import Mathlib.Data.Int.Notation

set_option autoImplicit false

/-! # hardwareWalletUtils

What the translations for both families of devices share. `Packages` are the functions that come from
other packages or depend on the locale. -/

namespace Klarity

abbrev BIP32Path := List ℕ

/-- The functions of the Ledger library, and the string comparison of the locale. -/
structure Packages where
  bech32DecodeAddress : String → Bytes
  base58Decode : String → Bytes
  bufToHex : Bytes → String
  strToPath : String → BIP32Path
  localeCompare : String → String → Ordering

variable (lib : Packages)

/-- `CERTIFICATE_TYPE` -/
def CertificateType.number : CertificateType → ℕ
  | .registerRewardAccount => 0
  | .quitPool => 1
  | .joinPool => 2

/-- `PATH_ROLE_IDENTITY` -/
def pathRoleIdentity : String → Option String
  | "role0" => some "utxo_external"
  | "role1" => some "utxo_internal"
  | "role2" => some "mutable_account"
  | "role3" => some "multisig_script"
  | _ => none

structure PathParams where
  role : Option String
  index : Option String
  roleIdentity : Option String
  deriving DecidableEq

/-- The last two parts of a path; an undefined one is written out as such. -/
def getParamsFromPath (derivationPath : List String) : PathParams :=
  let pathParams := derivationPath.drop (derivationPath.length - 2)
  { role := pathParams[0]?
    index := pathParams[1]?
    roleIdentity := pathRoleIdentity ("role" ++ pathParams[0]?.getD "undefined") }

/-- `chunk.replace('H', "'")` -/
def derivationChunk (chunk : String) : String :=
  String.ofList (chunk.toList.replace 'H' (Char.ofNat 39))

def derivationPathToString (derivationPath : List String) : String :=
  derivationPath.foldl (fun constructedPath chunk => constructedPath ++ "/" ++ derivationChunk chunk)
    "m"

def derivationPathToLedgerPath (derivationPath : List String) : BIP32Path :=
  lib.strToPath ("/".intercalate (derivationPath.map derivationChunk))

/-- `s.replace(pattern, '')` -/
def removeFirst (pattern : List Char) : List Char → List Char
  | [] => []
  | c :: s =>
      if pattern.isPrefixOf (c :: s) then (c :: s).drop pattern.length else c :: removeFirst pattern s

def derivationPathToAddressPath (derivationPath : List String) : String :=
  String.ofList (removeFirst "m/".toList (derivationPathToString derivationPath).toList)

/-- `HARDENED` -/
def hardened : ℕ := 2147483648

structure DerivationPath where
  derivationPath : List String
  constructed : List String
  deriving DecidableEq, Repr

/-- The first three indices are taken for hardened ones. -/
def hardenedPathToDerivationPath (hardendedPath : BIP32Path) : DerivationPath where
  derivationPath := hardendedPath.mapIdx fun index (chunk : ℕ) =>
    if index ≤ 2 then toString ((chunk : ℤ) - hardened) ++ "H" else toString chunk
  constructed := "m" :: hardendedPath.mapIdx fun index (chunk : ℕ) =>
    if index ≤ 2 then toString ((chunk : ℤ) - hardened) ++ "'" else toString chunk

/-- The shorter string comes first. -/
def compareStringsCanonically (string1 string2 : String) : Ordering :=
  (compare string1.length string2.length).then (lib.localeCompare string1 string2)

/-- One step of lodash's `groupBy`: the value joins the group of its key, or starts the last group. -/
def insertGroup {κ α : Type} [DecidableEq κ] (key : κ) (a : α) :
    List (κ × List α) → List (κ × List α)
  | [] => [(key, [a])]
  | (k, group) :: groups =>
      if k = key then (k, group ++ [a]) :: groups else (k, group) :: insertGroup key a groups

/-- `groupBy`, with the groups in the order of their first values. -/
def groupBy {κ α : Type} [DecidableEq κ] (key : α → κ) (l : List α) : List (κ × List α) :=
  l.foldl (fun groups a => insertGroup (key a) a groups) []

/-- The entries of the object that is returned. Its keys are policy ids, which are longer than any array
    index, so they keep the order in which they were set. -/
def groupTokensByPolicyId (assets : List Asset) : List (String × List Asset) :=
  let ordered := assets.mergeSort fun a b =>
    decide (a.policyId < b.policyId ∨ (a.policyId = b.policyId ∧ a.assetName ≤ b.assetName))
  let groups := (groupBy Asset.policyId ordered).map fun (policyId, tokens) =>
    (policyId, tokens.mergeSort fun token1 token2 =>
      compareStringsCanonically lib token1.assetName token2.assetName ≠ .gt)
  groups.mergeSort fun token1 token2 => compareStringsCanonically lib token1.1 token2.1 ≠ .gt

theorem groupTokensByPolicyId_nil : groupTokensByPolicyId lib [] = [] := by
  simp [groupTokensByPolicyId, groupBy]

end Klarity
