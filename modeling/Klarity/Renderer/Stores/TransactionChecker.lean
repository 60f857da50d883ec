import Klarity.Library.Lists
import Klarity.Library.Machine

set_option autoImplicit false

/-! # Checkers of pending transactions

The staking store and the store of the hardware wallets each have a flag for a pending transaction and one
field for the interval that checks, every second, whether it is in the ledger. A submission raises the flag,
and starts its interval once the transaction has been sent; in the staking store it also sets a timeout of
30 seconds.

An interval and a timeout are named by the number of their submission. `isTransactionPending` and
`checkTimeInterval` are `isDelegationTransactionPending` and `delegationCheckTimeInterval` in the staking
store. `isInLedger` records that the transaction was found in the ledger, and `isCheckedElsewhere` that it is
left to the checker of the other store; no step reads them. -/

namespace Klarity.TransactionChecker

/-! ## Data -/

inductive TransactionState
  | pending
  | ok
  | failed
  deriving DecidableEq, Repr

structure RecentTransaction where
  id : String
  state : TransactionState
  deriving DecidableEq, Repr

inductive Timeout
  | unset
  | set
  | elapsed
  deriving DecidableEq, Repr

/-- A transaction that has been sent; `isChecking` says that its interval is alive. -/
structure Check where
  transactionId : String
  isChecking : Bool
  timeout : Timeout := .unset
  isInLedger : Bool := false
  isCheckedElsewhere : Bool := false
  deriving DecidableEq, Repr

inductive Phase
  | sending
  | submitted (check : Check)
  | failed
  deriving DecidableEq, Repr

/-- The parameters of the store of the hardware wallets are left out in the staking store. -/
structure Submission where
  walletId : String
  isVotingRegistrationTransaction : Bool := false
  isDelegationTransaction : Bool := false
  phase : Phase := .sending
  deriving DecidableEq, Repr

structure State where
  isTransactionPending : Bool := false
  checkTimeInterval : Option ℕ := none
  submissions : List Submission := []
  deriving DecidableEq, Repr

/-! ## The interval -/

def State.setPhase (s : State) (k : ℕ) (phase : Phase) : State :=
  { s with submissions := s.submissions.modify k fun submission => { submission with phase := phase } }

/-- `setInterval()` -/
def setChecker (s : State) (k : ℕ) (check : Check) : State :=
  { s.setPhase k (.submitted check) with checkTimeInterval := some k }

def Phase.stop : Phase → Phase
  | .submitted check => .submitted { check with isChecking := false }
  | phase => phase

/-- `clearInterval()`, if there is one in the field. -/
def clearChecker (s : State) : State :=
  match s.checkTimeInterval with
  | some i =>
      { s with
        checkTimeInterval := none
        submissions := s.submissions.modify i fun submission =>
          { submission with phase := submission.phase.stop } }
  | none => s

/-- Reset the pending state and the poller. -/
def resetStakePoolTransactionChecker (s : State) : State :=
  { clearChecker s with isTransactionPending := false }

/-- The transaction is found, in the ledger. -/
def isOk (recentTransactions : List RecentTransaction) (transactionId : String) : Bool :=
  recentTransactions.any fun transaction => transaction.id = transactionId && transaction.state = .ok

def isListed (recentTransactions : List RecentTransaction) (transactionId : String) : Bool :=
  recentTransactions.any fun transaction => transaction.id = transactionId

/-! ## The staking store -/

namespace StakingStore

/-- `submit` is a call of `_joinStakePool()` or `_quitStakePool()` up to its await, `sent` what it awaits;
`poll` is a turn of an interval, with the transactions known then. -/
inductive Event
  | submit (walletId : String)
  | sent (k : ℕ) (outcome : Except Unit String)
  | poll (k : ℕ) (recentTransactions : List RecentTransaction)
  | timeout (k : ℕ)

def submit (s : State) (walletId : String) : State :=
  { s with isTransactionPending := true, submissions := s.submissions ++ [{ walletId := walletId }] }

def sent (s : State) (k : ℕ) : Except Unit String → State
  | .ok transactionId => setChecker s k { transactionId := transactionId, isChecking := true, timeout := .set }
  | .error _ => resetStakePoolTransactionChecker (s.setPhase k .failed)

def checkDelegationTransaction (s : State) (k : ℕ) (check : Check)
    (recentTransactions : List RecentTransaction) : State :=
  if isOk recentTransactions check.transactionId then
    resetStakePoolTransactionChecker (s.setPhase k (.submitted { check with isInLedger := true }))
  else s

def step (s : State) : Event → Option State
  | .submit walletId => some (submit s walletId)
  | .sent k outcome => do
      match (← s.submissions[k]?).phase with
      | .sending => some (sent s k outcome)
      | _ => none
  | .poll k recentTransactions => do
      match (← s.submissions[k]?).phase with
      | .submitted check =>
          if check.isChecking then some (checkDelegationTransaction s k check recentTransactions) else none
      | _ => none
  | .timeout k => do
      match (← s.submissions[k]?).phase with
      | .submitted check =>
          if check.timeout = .set then
            some (resetStakePoolTransactionChecker
              (s.setPhase k (.submitted { check with timeout := .elapsed })))
          else none
      | _ => none

def machine : Machine State Event :=
  ⟨{}, step⟩

end StakingStore

/-! ## The store of the hardware wallets -/

namespace HardwareWalletsStore

/-- `sendMoney` is a call of `_sendMoney()` up to its await, with the selected or active wallet. -/
inductive Event
  | sendMoney (walletId : Option String) (isDelegationTransaction isVotingRegistrationTransaction : Bool)
  | sent (k : ℕ) (outcome : Except Unit String)
  | poll (k : ℕ) (recentTransactions : List RecentTransaction)

/-- Without a wallet the call throws before anything else. -/
def sendMoney (s : State) (walletId : Option String)
    (isDelegationTransaction isVotingRegistrationTransaction : Bool) : State :=
  match walletId with
  | some walletId =>
      { s with
        isTransactionPending := true
        submissions := s.submissions ++
          [⟨walletId, isVotingRegistrationTransaction, isDelegationTransaction, .sending⟩] }
  | none => s

def sent (s : State) (k : ℕ) (isDelegationTransaction : Bool) : Except Unit String → State
  | .ok transactionId =>
      if !isDelegationTransaction then
        setChecker s k { transactionId := transactionId, isChecking := true }
      else
        let check : Check :=
          { transactionId := transactionId, isChecking := false, isCheckedElsewhere := true }
        { s.setPhase k (.submitted check) with isTransactionPending := false }
  | .error _ => { s.setPhase k .failed with isTransactionPending := false }

def checkTransaction (s : State) (k : ℕ) (isVotingRegistrationTransaction : Bool) (check : Check)
    (recentTransactions : List RecentTransaction) : State :=
  let found := { check with isInLedger := isOk recentTransactions check.transactionId }
  if isVotingRegistrationTransaction then
    if isListed recentTransactions check.transactionId then
      { clearChecker (s.setPhase k (.submitted found)) with isTransactionPending := false }
    else s
  else if isOk recentTransactions check.transactionId then
    resetStakePoolTransactionChecker (s.setPhase k (.submitted found))
  else s

def step (s : State) : Event → Option State
  | .sendMoney walletId isDelegationTransaction isVotingRegistrationTransaction =>
      some (sendMoney s walletId isDelegationTransaction isVotingRegistrationTransaction)
  | .sent k outcome => do
      let submission ← s.submissions[k]?
      match submission.phase with
      | .sending => some (sent s k submission.isDelegationTransaction outcome)
      | _ => none
  | .poll k recentTransactions => do
      let submission ← s.submissions[k]?
      match submission.phase with
      | .submitted check =>
          if check.isChecking then
            some (checkTransaction s k submission.isVotingRegistrationTransaction check recentTransactions)
          else none
      | _ => none

def machine : Machine State Event :=
  ⟨{}, step⟩

end HardwareWalletsStore

end Klarity.TransactionChecker
