import Klarity.Renderer.Stores.Lib.Request.Awaited
import Klarity.Renderer.Stores.Lib.Request.Proofs
import Klarity.Renderer.Stores.WalletsStore.ActiveWallet

set_option autoImplicit false

/-! # The UTXO statistics of the active wallet

A poll asks for the statistics of the wallet that is active, and shows what the promise of the request is
fulfilled with. By then another wallet may be active, and the promise may be that of an earlier poll. The
statistics are cleared when a wallet is selected in the sidebar, not when the active wallet changes. -/

namespace Klarity.WalletSettingsStore

open Request (settled)
open WalletsStore (ListedWallet setActiveWallet)

/-! ## The model -/

structure GetWalletUtxosRequest where
  walletId : String
  isLegacy : Bool
  deriving DecidableEq, Repr

variable {WalletUtxos Err : Type}

/-- `pollingApiInterval` says whether the interval is set; `polls` are the promises that calls of
`_getWalletUtxoApiData()` await. -/
structure State (WalletUtxos Err : Type) where
  active : Option ListedWallet := none
  walletUtxos : Option WalletUtxos := none
  pollingApiInterval : Bool := false
  getWalletUtxosRequest : Request.State GetWalletUtxosRequest WalletUtxos Err := {}
  polls : List (Option ℕ) := []

/-- The active wallet is set and unset by `WalletsStore`. -/
inductive Event (WalletUtxos Err : Type)
  | setActiveWallet (all : List ListedWallet) (walletId : String)
  | unsetActiveWallet
  | walletSelected
  | startWalletUtxoPolling
  | stopWalletUtxoPolling
  | interval
  | resume (poll : ℕ)
  | tick (i : ℕ)
  | respond (i : ℕ) (outcome : Except Err WalletUtxos)

/-- A poll up to its await. -/
def getWalletUtxoApiData (s : State WalletUtxos Err) : State WalletUtxos Err :=
  match s.active with
  | none => s
  | some activeWallet =>
      let executed := s.getWalletUtxosRequest.execute ⟨activeWallet.id, activeWallet.isLegacy⟩
      { s with getWalletUtxosRequest := executed, polls := s.polls ++ [executed.promise] }

def step (s : State WalletUtxos Err) : Event WalletUtxos Err → Option (State WalletUtxos Err)
  | .setActiveWallet all walletId => some { s with active := setActiveWallet all s.active walletId }
  | .unsetActiveWallet => some { s with active := none }
  | .walletSelected => some { s with walletUtxos := none }
  | .startWalletUtxoPolling => some { getWalletUtxoApiData s with pollingApiInterval := true }
  | .stopWalletUtxoPolling =>
      some { s with pollingApiInterval := false, getWalletUtxosRequest := s.getWalletUtxosRequest.reset }
  | .interval => if s.pollingApiInterval then some (getWalletUtxoApiData s) else none
  | .resume k => do
      let promise ← s.polls[k]?
      match ← settled s.getWalletUtxosRequest promise with
      | .ok walletUtxos => some { s with walletUtxos := some walletUtxos, polls := s.polls.eraseIdx k }
      | .error _ => some { s with polls := s.polls.eraseIdx k }
  | .tick i => do
      let request ← Request.step s.getWalletUtxosRequest (.tick i)
      some { s with getWalletUtxosRequest := request }
  | .respond i outcome => do
      let request ← Request.step s.getWalletUtxosRequest (.respond i outcome)
      some { s with getWalletUtxosRequest := request }

def machine (WalletUtxos Err : Type) : Machine (State WalletUtxos Err) (Event WalletUtxos Err) :=
  ⟨{}, step⟩

/-! ## What is promised -/

variable {s s' : State WalletUtxos Err} {walletUtxos : WalletUtxos}

/-- The backend has answered so for the wallet. -/
def Answered (s : State WalletUtxos Err) (walletId : String) (walletUtxos : WalletUtxos) : Prop :=
  ∃ (p : ℕ) (call : Request.MethodCall GetWalletUtxosRequest WalletUtxos Err),
    s.getWalletUtxosRequest.calls[p]? = some call ∧ call.args.walletId = walletId ∧
      call.outcome = some (.ok walletUtxos)

/-- What is shown is an answer for the active wallet. -/
def OfActiveWallet (s : State WalletUtxos Err) : Prop :=
  ∀ walletUtxos, s.walletUtxos = some walletUtxos →
    ∃ wallet, s.active = some wallet ∧ Answered s wallet.id walletUtxos

/-- The wallet of the call that a poll awaits is active. -/
def AwaitsActive (s : State WalletUtxos Err) (promise : Option ℕ) : Prop :=
  ∀ (p : ℕ) (call : Request.MethodCall GetWalletUtxosRequest WalletUtxos Err), promise = some p →
    s.getWalletUtxosRequest.calls[p]? = some call → s.active.map (·.id) = some call.args.walletId

/-- No other wallet becomes active while statistics are shown, and a poll goes on with those of the wallet that
is active. -/
def Undisturbed (s : State WalletUtxos Err) : Event WalletUtxos Err → Prop
  | .setActiveWallet all walletId => s.walletUtxos.isSome = true →
      (setActiveWallet all s.active walletId).map (·.id) = s.active.map (·.id)
  | .unsetActiveWallet => s.walletUtxos = none
  | .resume k => ∀ promise walletUtxos, s.polls[k]? = some promise →
      settled s.getWalletUtxosRequest promise = some (.ok walletUtxos) → AwaitsActive s promise
  | _ => True

/-! ## Steps -/

theorem Answered.extends {walletId : String} (h : Answered s walletId walletUtxos)
    (hext : Request.Extends s.getWalletUtxosRequest s'.getWalletUtxosRequest) :
    Answered s' walletId walletUtxos := by
  obtain ⟨p, call, hcall, hargs, houtcome⟩ := h
  obtain ⟨call', hcall', hargs', houtcome'⟩ := hext p call hcall
  refine ⟨p, call', hcall', ?_, houtcome' _ houtcome⟩
  rw [hargs']
  exact hargs

/-- A step that shows nothing new and changes nothing but the calls. -/
theorem OfActiveWallet.extends (h : OfActiveWallet s) (hutxos : s'.walletUtxos = s.walletUtxos)
    (hactive : s'.active = s.active)
    (hext : Request.Extends s.getWalletUtxosRequest s'.getWalletUtxosRequest) : OfActiveWallet s' := by
  intro walletUtxos hshown
  rw [hutxos] at hshown
  obtain ⟨wallet, hwallet, hanswered⟩ := h walletUtxos hshown
  exact ⟨wallet, hactive.trans hwallet, hanswered.extends hext⟩

theorem OfActiveWallet.getWalletUtxoApiData (h : OfActiveWallet s) :
    OfActiveWallet (getWalletUtxoApiData s) := by
  unfold WalletSettingsStore.getWalletUtxoApiData
  split
  · exact h
  · exact h.extends rfl rfl (Request.extends_execute s.getWalletUtxosRequest _)

theorem OfActiveWallet.setActiveWallet (h : OfActiveWallet s) {active : Option ListedWallet}
    (hid : s.walletUtxos.isSome = true → active.map (·.id) = s.active.map (·.id)) :
    OfActiveWallet { s with active := active } := by
  intro walletUtxos hshown
  obtain ⟨wallet, hwallet, hanswered⟩ := h walletUtxos hshown
  have hsome : s.walletUtxos.isSome = true := Option.isSome_iff_exists.mpr ⟨walletUtxos, hshown⟩
  have hsame : active.map (·.id) = some wallet.id := by
    rw [hid hsome, hwallet]
    rfl
  obtain ⟨wallet', hwallet', hid'⟩ := Option.map_eq_some_iff.mp hsame
  refine ⟨wallet', hwallet', ?_⟩
  rw [hid']
  exact hanswered

theorem OfActiveWallet.resume (h : OfActiveWallet s) {k : ℕ} (hok : Undisturbed s (.resume k))
    (hs : step s (.resume k) = some s') : OfActiveWallet s' := by
  obtain ⟨promise, hk, hs⟩ := Option.bind_eq_some_iff.mp hs
  obtain ⟨outcome, hsettled, hs⟩ := Option.bind_eq_some_iff.mp hs
  cases outcome with
  | ok walletUtxos =>
    cases hs
    rintro _ ⟨⟩
    have hactive := hok promise walletUtxos hk hsettled
    obtain ⟨p, call, hp, hcall, houtcome⟩ := Request.exists_call_of_settled hsettled
    obtain ⟨wallet, hwallet, hid⟩ := Option.map_eq_some_iff.mp (hactive p call hp hcall)
    exact ⟨wallet, hwallet, p, call, hcall, hid.symm, houtcome⟩
  | error error =>
    cases hs
    exact h

theorem OfActiveWallet.step (h : OfActiveWallet s) {e : Event WalletUtxos Err} (hok : Undisturbed s e)
    (hs : step s e = some s') : OfActiveWallet s' := by
  cases e with
  | setActiveWallet all walletId =>
    cases hs
    exact h.setActiveWallet hok
  | unsetActiveWallet =>
    cases hs
    refine h.setActiveWallet ?_
    intro hsome
    rw [show s.walletUtxos = none from hok] at hsome
    cases hsome
  | walletSelected =>
    cases hs
    intro _ hnone
    cases hnone
  | startWalletUtxoPolling =>
    cases hs
    exact h.getWalletUtxoApiData
  | stopWalletUtxoPolling =>
    cases hs
    exact h.extends rfl rfl (Request.sameCalls_reset s.getWalletUtxosRequest).extends_calls
  | interval =>
    obtain ⟨_, hs⟩ := Option.ite_none_right_eq_some.mp hs
    cases hs
    exact h.getWalletUtxoApiData
  | resume k => exact h.resume hok hs
  | tick i =>
    obtain ⟨request, hrequest, hs⟩ := Option.bind_eq_some_iff.mp hs
    cases hs
    exact h.extends rfl rfl (Request.sameCalls_step (by simp) hrequest).extends_calls
  | respond i outcome =>
    obtain ⟨request, hrequest, hs⟩ := Option.bind_eq_some_iff.mp hs
    cases hs
    exact h.extends rfl rfl (Request.sameCalls_step (by simp) hrequest).extends_calls

/-! ## The main results -/

/-- Wallet `a` is polled, then wallet `b` is selected and polled. -/
def polledOneAfterTheOther : List (Event ℕ String) :=
  [.setActiveWallet [⟨"a", false⟩, ⟨"b", true⟩] "a", .startWalletUtxoPolling, .tick 0, .respond 0 (.ok 1),
    .resume 0, .walletSelected, .setActiveWallet [⟨"a", false⟩, ⟨"b", true⟩] "b", .interval, .tick 1,
    .respond 1 (.ok 2), .resume 0]

/-- Wallet `b` is selected while wallet `a` is polled. -/
def selectedWhilePolled : List (Event ℕ String) :=
  [.setActiveWallet [⟨"a", false⟩, ⟨"b", true⟩] "a", .startWalletUtxoPolling, .tick 0, .walletSelected,
    .setActiveWallet [⟨"a", false⟩, ⟨"b", true⟩] "b", .respond 0 (.ok 1), .resume 0]

end Klarity.WalletSettingsStore
