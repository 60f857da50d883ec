import Klarity.Renderer.Domains.Wallet
import Klarity.Renderer.Stores.Lib.Request

set_option autoImplicit false

/-! # Coin selection for hardware wallets

`selectCoins()` and `selectDelegationCoins()` share one `selectCoinsRequest`, and leave what they get in
the one field `txSignRequest`. The request is a thenable: `await selectCoinsRequest.execute(..)` asks
it for its promise a microtask after the call, and gets the promise that is current by then.

A caller is a call of one of the two functions. It goes through `await`ing the request, waiting for a
promise, and its continuation. `confirmed` records what was in `txSignRequest` each time the form or
dialog of a caller was confirmed; no step reads it. -/

namespace Klarity.HardwareWallets.SelectCoins

inductive DelegationAction
  | join
  | quit
  deriving DecidableEq, Repr

structure ApiToken where
  policyId : String
  assetName : String
  quantity : ℕ
  deriving DecidableEq, Repr

structure PaymentRequest (Metadata : Type) where
  walletId : String
  address : String
  amount : ℕ
  assets : Option (List ApiToken)
  metadata : Option Metadata
  deriving DecidableEq

structure DelegationRequest where
  walletId : String
  poolId : String
  delegationAction : DelegationAction
  deriving DecidableEq

/-- The parameters of a caller. -/
inductive CoinSelectionsRequest (Metadata : Type)
  | payment (params : PaymentRequest Metadata)
  | delegation (params : DelegationRequest)
  deriving DecidableEq

structure Payments where
  address : String
  amount : ℕ
  assets : Option (List ApiToken)
  deriving DecidableEq

structure Delegation where
  poolId : String
  delegationAction : DelegationAction
  deriving DecidableEq

/-- The arguments of the API method `selectCoins`. -/
structure Args (Metadata : Type) where
  walletId : String
  walletBalance : ℕ
  availableBalance : ℕ
  rewardsBalance : ℕ
  payments : Option Payments := none
  delegation : Option Delegation := none
  metadata : Option Metadata := none
  deriving DecidableEq

/-- Where a caller is; `selection` and `error` are what it returned or threw. -/
inductive Phase (Selection Err : Type)
  | awaiting
  | attached (promise : ℕ)
  | returned (selection : Selection)
  | threw (error : Err)

structure Caller (Metadata Selection Err : Type) where
  params : CoinSelectionsRequest Metadata
  phase : Phase Selection Err

structure State (Metadata Selection Err : Type) where
  selectCoinsRequest : Request.State (Args Metadata) Selection Err := {}
  txSignRequest : Option Selection := none
  hwDeviceStatus : HwDeviceStatus := .connecting
  callers : List (Caller Metadata Selection Err) := []
  confirmed : List (CoinSelectionsRequest Metadata × Option Selection) := []

/-- What can happen next. `wallet` is what `getWalletById` finds for the caller; `attach` is the microtask
    of the caller `j`, `settle` its continuation, and `confirm` the confirmation of its form. -/
inductive Event (Metadata Selection Err : Type)
  | selectCoins (params : PaymentRequest Metadata) (wallet : Option Wallet)
  | selectDelegationCoins (params : DelegationRequest) (wallet : Option Wallet)
  | reset
  | tick (i : ℕ)
  | respond (i : ℕ) (outcome : Except Err Selection)
  | attach (j : ℕ)
  | settle (j : ℕ)
  | confirm (j : ℕ)

variable {Metadata Selection Err : Type}

/-- What a caller executes the request with. -/
def CoinSelectionsRequest.args (wallet : Wallet) : CoinSelectionsRequest Metadata → Args Metadata
  | .payment params =>
      { walletId := params.walletId
        walletBalance := wallet.amount
        availableBalance := wallet.availableAmount + wallet.reward
        rewardsBalance := wallet.reward
        payments := some ⟨params.address, params.amount, params.assets⟩
        metadata := params.metadata }
  | .delegation params =>
      { walletId := params.walletId
        walletBalance := wallet.amount
        availableBalance := wallet.availableAmount + wallet.reward
        rewardsBalance := wallet.reward
        delegation := some ⟨params.poolId, params.delegationAction⟩ }

/-- The two functions up to their `await`. -/
def State.select (s : State Metadata Selection Err) (params : CoinSelectionsRequest Metadata) :
    Option Wallet → State Metadata Selection Err
  | some wallet =>
      { s with
        selectCoinsRequest := s.selectCoinsRequest.execute (params.args wallet)
        callers := s.callers ++ [⟨params, .awaiting⟩] }
  -- Active wallet required before coins selections.
  | none => s

def State.selectCoins (s : State Metadata Selection Err) (params : PaymentRequest Metadata)
    (wallet : Option Wallet) : State Metadata Selection Err :=
  s.select (.payment params) wallet

def State.selectDelegationCoins (s : State Metadata Selection Err) (params : DelegationRequest)
    (wallet : Option Wallet) : State Metadata Selection Err :=
  s.select (.delegation params) wallet

/-- The caller `j` goes on to `phase`. -/
def State.goOn (s : State Metadata Selection Err) (j : ℕ) (phase : Phase Selection Err) :
    State Metadata Selection Err :=
  { s with callers := s.callers.modify j fun c => { c with phase := phase } }

/-- The continuation of the caller `j` after its `await`. -/
def State.settle (s : State Metadata Selection Err) (j : ℕ) :
    Except Err Selection → State Metadata Selection Err
  | .ok selection => { s.goOn j (.returned selection) with txSignRequest := some selection }
  | .error error =>
      { s.goOn j (.threw error) with hwDeviceStatus := .verifyingTransactionFailed }

def step (s : State Metadata Selection Err) :
    Event Metadata Selection Err → Option (State Metadata Selection Err)
  | .selectCoins params wallet => some (s.selectCoins params wallet)
  | .selectDelegationCoins params wallet => some (s.selectDelegationCoins params wallet)
  | .reset => some { s with selectCoinsRequest := s.selectCoinsRequest.reset }
  | .tick i =>
      (Request.step s.selectCoinsRequest (.tick i)).map fun r => { s with selectCoinsRequest := r }
  | .respond i outcome =>
      (Request.step s.selectCoinsRequest (.respond i outcome)).map
        fun r => { s with selectCoinsRequest := r }
  | .attach j =>
      match s.callers[j]?.map Caller.phase, s.selectCoinsRequest.promise with
      | some .awaiting, some p => some (s.goOn j (.attached p))
      | _, _ => none
  | .settle j =>
      match s.callers[j]?.map Caller.phase with
      | some (.attached p) =>
          (s.selectCoinsRequest.calls[p]?.bind Request.MethodCall.outcome).map (s.settle j)
      | _ => none
  | .confirm j =>
      match s.callers[j]? with
      | some ⟨params, .returned _⟩ =>
          some { s with confirmed := s.confirmed ++ [(params, s.txSignRequest)] }
      | _ => none

def machine (Metadata Selection Err : Type) :
    Machine (State Metadata Selection Err) (Event Metadata Selection Err) :=
  ⟨{}, step⟩

end Klarity.HardwareWallets.SelectCoins
