import Klarity.Renderer.Api.Transactions.Types
import Klarity.Renderer.Stores.HardwareWallets.SelectCoins
import Klarity.Renderer.Utils.Formatters

set_option autoImplicit false

/-! # BccApi.selectCoins

The coin selection that the backend answers with, and what is made of it: the fee is not part of the
answer, it is calculated from the amounts. The answer comes in as an argument. Amounts are quantities of
entropics in the answer, and numbers of BCC in the result. -/

namespace Klarity.BccApi

open HardwareWallets.SelectCoins (Args DelegationAction Payments)

/-- `DELEGATION_DEPOSIT`, in BCC. -/
def delegationDeposit : ℕ := 2

/-- The body of the request to the backend. -/
inductive SelectCoinsData (Metadata : Type)
  | delegation (action : DelegationAction) (pool : String)
  | payments (payments : Payments) (metadata : Option Metadata)

structure SelectCoinsInput extends CoinSelectionInput where
  assets : Option (List Asset)
  deriving DecidableEq

structure SelectCoinsResponse where
  inputs : List SelectCoinsInput
  outputs : List CoinSelectionOutput
  change : List CoinSelectionOutput
  withdrawals : Option (List CoinSelectionWithdrawal) := none
  certificates : Option (List CoinSelectionCertificate) := none
  deposits : Option (List ℕ) := none
  metadata : Option String := none
  deriving DecidableEq

structure CoinSelectionsResponse (N : Type) where
  inputs : List SelectCoinsInput
  outputs : List CoinSelectionOutput
  certificates : List CoinSelectionCertificate
  withdrawals : List CoinSelectionWithdrawal
  fee : N
  deposits : N
  depositsReclaimed : N
  metadata : Option String

/-- `text || null` -/
def orNull (text : Option String) : Option String := text.filter (· ≠ "")

variable (N : Type) [BigNumber N] {Metadata : Type}

/-- The sum of some quantities; none of them is needed for `BigNumber.sum`. -/
def sumOfQuantities : List ℕ → N
  | [] => BigNumber.ofNat 0
  | quantity :: quantities => BigNumber.sum (BigNumber.ofNat quantity) (quantities.map BigNumber.ofNat)

/-- The sum in a variable to which each quantity is added in turn. -/
def total (quantities : List ℕ) : N := BigNumber.sum (BigNumber.ofNat 0) (quantities.map BigNumber.ofNat)

def isQuit (request : Args Metadata) : Bool :=
  request.delegation.any fun delegation => delegation.delegationAction = .quit

def depositsReclaimed (request : Args Metadata) : N :=
  if isQuit request then
    BigNumber.times (BigNumber.ofNat delegationDeposit) (BigNumber.ofNat entropicsPerBcc)
  else BigNumber.ofNat 0

def deposits (response : SelectCoinsResponse) : N := sumOfQuantities N (response.deposits.getD [])

def withdrawals (response : SelectCoinsResponse) : N :=
  sumOfQuantities N ((response.withdrawals.getD []).map CoinSelectionWithdrawal.amount)

/-- In entropics. -/
def fee (request : Args Metadata) (response : SelectCoinsResponse) : N :=
  let outputs := response.outputs ++ response.change
  let totalInputs := total N (response.inputs.map fun input => input.amount)
  let totalOutputs := BigNumber.minus (total N (outputs.map CoinSelectionOutput.amount))
    (withdrawals N response)
  if isQuit request then
    BigNumber.plus (BigNumber.minus totalInputs totalOutputs) (depositsReclaimed N request)
  else BigNumber.minus (BigNumber.minus totalInputs totalOutputs) (deposits N response)

def inBcc (entropics : N) : N := BigNumber.dividedBy entropics (BigNumber.ofNat entropicsPerBcc)

def extendedResponse (request : Args Metadata) (response : SelectCoinsResponse) :
    CoinSelectionsResponse N :=
  { inputs := response.inputs.map fun input => { input with assets := some (input.assets.getD []) }
    outputs := (response.outputs ++ response.change).map fun output =>
      { output with assets := some (output.assets.getD []) }
    certificates := (response.certificates.getD []).map fun certificate =>
      { certificate with pool := orNull certificate.pool }
    withdrawals :=
      if BigNumber.isGreaterThan (withdrawals N response) (BigNumber.ofNat 0) then
        response.withdrawals.getD []
      else []
    fee := inBcc N (fee N request response)
    deposits := inBcc N (deposits N response)
    depositsReclaimed := inBcc N (depositsReclaimed N request)
    metadata := orNull response.metadata }

/-- `none` is the error for missing parameters. -/
def selectCoinsData (request : Args Metadata) : Option (SelectCoinsData Metadata) :=
  match request.delegation, request.payments with
  | some delegation, _ => some (.delegation delegation.delegationAction delegation.poolId)
  | none, some payments => some (.payments payments request.metadata)
  | none, none => none

def selectCoins (request : Args Metadata) (response : SelectCoinsResponse) :
    Option (CoinSelectionsResponse N) :=
  (selectCoinsData request).map fun _ => extendedResponse N request response

/-! ## The balance of a transaction -/

section

variable (response : SelectCoinsResponse)

def inputsTotal : ℕ := (response.inputs.map fun input => input.amount).sum

def outputsTotal : ℕ := (response.outputs.map CoinSelectionOutput.amount).sum

def changeTotal : ℕ := (response.change.map CoinSelectionOutput.amount).sum

def withdrawalsTotal : ℕ := ((response.withdrawals.getD []).map CoinSelectionWithdrawal.amount).sum

def depositsTotal : ℕ := (response.deposits.getD []).sum

end

/-- The deposit that comes back, in entropics. -/
def reclaimedTotal (request : Args Metadata) : ℕ :=
  if isQuit request then delegationDeposit * entropicsPerBcc else 0

/-- The fee that the ledger sees: what goes in and does not come out. -/
def ledgerFee (request : Args Metadata) (response : SelectCoinsResponse) : ℤ :=
  inputsTotal response + withdrawalsTotal response + reclaimedTotal request
    - outputsTotal response - changeTotal response - depositsTotal response

/-- The value in entropics of a number of BCC. -/
def entropics (bcc : N) : Option ℚ := (BigNumber.value bcc).map fun x => x * entropicsPerBcc

theorem entropics_of_value {bcc : N} {x : ℚ} (h : BigNumber.value bcc = some (x / 10 ^ 6)) :
    entropics N bcc = some x := by
  rw [entropics, h, Option.map_some]
  norm_num [entropicsPerBcc]

/-- The numbers of the result balance the transaction. -/
def Balanced (response : SelectCoinsResponse) (selection : CoinSelectionsResponse N) : Prop :=
  ∃ fee deposits depositsReclaimed,
    entropics N selection.fee = some fee ∧ entropics N selection.deposits = some deposits ∧
      entropics N selection.depositsReclaimed = some depositsReclaimed ∧
        inputsTotal response + withdrawalsTotal response + depositsReclaimed =
          outputsTotal response + changeTotal response + deposits + fee

/-- The integer that is signed and encoded is the fee. -/
def FeeSigned (selection : CoinSelectionsResponse N) : Prop :=
  ∃ fee : ℤ, entropics N selection.fee = some (fee : ℚ) ∧
    formattedAmountToEntropic N (BigNumber.toString selection.fee) = some fee

end Klarity.BccApi
