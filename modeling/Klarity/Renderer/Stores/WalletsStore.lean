import Mathlib.Data.Int.Notation
import Mathlib.Data.List.Basic
import Klarity.Library.Machine

set_option autoImplicit false

/-! # Wallet operations that pause the polling

The operations of `WalletsStore` that call `_pausePolling()`. Each call is a `Task`, suspended in a phase;
`resume` lets it go on up to its next await, with whatever the awaited call answers. What the requests of
the list of wallets do in between comes as an event, which sets the observable fields of `walletsRequest`.

A restore that has succeeded keeps the polling paused until the user closes its last screen: its task stays
in the phase `restored` until then. -/

namespace Klarity.WalletsStore

/-! ## Data -/

/-- What the list of wallets holds of a wallet. -/
structure ListedWallet where
  id : String
  isLegacy : Bool := false
  deriving DecidableEq, Repr

/-- `restoreWalletEnd` is what is left of `_restoreWalletEnd()` after the polling is resumed. -/
inductive Operation
  | deleteWallet (walletId : String)
  | restore
  | restoreWalletEnd
  | createHardwareWallet
  | generateCertificate
  | generateCsv
  deriving DecidableEq, Repr

/-- What an operation awaits. -/
inductive Phase
  | pausing
  | paused
  | deleteWallet (index : ℕ)
  | patchDeleted (index : ℕ)
  | unsetHardwareWalletLocalData
  | unscramble
  | restoreWallet
  | restored
  | createHardwareWallet
  | setHardwareWalletLocalData (wallet : ListedWallet)
  | setHardwareWalletDevice (wallet : ListedWallet)
  | patchNewWallet (wallet : ListedWallet)
  | walletRecoveryPhrase
  | additionalMnemonics
  | certificateRecoveryPhrase
  | createPaperWallet
  | walletAddresses (wallet : ListedWallet)
  | deletePaperWallet
  | downloadCertificate
  | downloadRewardsCsv
  | hanging
  deriving DecidableEq, Repr

structure Task where
  operation : Operation
  phase : Phase
  deriving DecidableEq, Repr

/-- What an operation is resumed with. -/
inductive Answer
  | done
  | wallet (wallet : ListedWallet)
  | noWallet
  | failed
  deriving DecidableEq, Repr

/-- `result`, `wasExecuted` and `isExecuting` are those of `walletsRequest`; `isCertificateRestore` says
    that the kinds chosen are those of a paper wallet of 27 words. -/
structure State where
  pollingBlocked : Bool := false
  isDeleting : Bool := false
  result : Option (List ListedWallet) := none
  wasExecuted : Bool := false
  isExecuting : Bool := false
  isConnected : Bool := false
  restoreWalletStep : Option ℤ := none
  restoreWalletShowAbortConfirmation : Bool := false
  restoredWallet : Option ListedWallet := none
  isCertificateRestore : Bool := false
  mnemonics : List String := []
  walletName : String := ""
  spendingPassword : String := ""
  tasks : List Task := []
  deriving DecidableEq, Repr

inductive Event
  | deleteWallet (walletId : String)
  | restore
  | createHardwareWallet
  | generateCertificate
  | generateCsv
  | resume (task : ℕ) (answer : Answer)
  | restoreWalletBegin
  | restoreWalletEnd
  | restoreWalletClose
  | restoreWalletCancelClose
  | restoreWalletChangeStep (isBack : Bool)
  | restoreWalletSetKind (isCertificateRestore : Bool)
  | restoreWalletSetMnemonics (mnemonics : List String)
  | restoreWalletSetConfig (walletName spendingPassword : String)
  | refreshWalletsData
  | walletsRequest (result : Option (List ListedWallet)) (wasExecuted isExecuting : Bool)
  | connection (isConnected : Bool)
  deriving DecidableEq, Repr

def State.await (s : State) (operation : Operation) (phase : Phase) : State :=
  { s with tasks := s.tasks ++ [⟨operation, phase⟩] }

/-! ## The list of wallets -/

def State.all (s : State) : List ListedWallet :=
  let result := s.result.getD []
  result.filter (fun wallet => !wallet.isLegacy) ++ result.filter (·.isLegacy)

def State.hasAnyWallets (s : State) : Bool :=
  s.wasExecuted && !(s.result.getD []).isEmpty

/-- A new wallet goes before the legacy wallets, unless it is in the list already. -/
def addNewWallet (wallet : ListedWallet) (result : List ListedWallet) : List ListedWallet :=
  if result.any (fun listed => listed.id = wallet.id) then result
  else if wallet.isLegacy then result ++ [wallet]
  else result.insertIdx (result.findIdx (·.isLegacy)) wallet

/-- Nothing is requested while the polling is blocked. -/
def refreshWalletsData (s : State) : State :=
  if s.pollingBlocked || !s.isConnected then s else { s with isExecuting := true }

/-! ## Pausing and resuming -/

/-- `_pausePolling()` from the wallets on. -/
def pausePolling (s : State) (operation : Operation) : State :=
  { s with pollingBlocked := true }.await operation .paused

/-- An operation starts with `_pausePolling()`. -/
def start (s : State) (operation : Operation) : State :=
  if s.isExecuting then s.await operation .pausing else pausePolling s operation

def resumePolling (s : State) : State :=
  { s with pollingBlocked := false }

/-! ## Restoring a wallet -/

def restoreWalletResetData (s : State) : State :=
  { s with
    restoreWalletStep := none
    restoreWalletShowAbortConfirmation := false
    restoredWallet := none
    isCertificateRestore := false
    mnemonics := []
    walletName := ""
    spendingPassword := "" }

/-- A restore that has succeeded is over when the user closes its last screen. -/
def endRestored (s : State) : State :=
  { s with tasks := s.tasks.filter fun task => task.phase ≠ .restored }

def restoreWalletEnd (s : State) : State :=
  let resumed := resumePolling (endRestored s)
  match s.restoredWallet with
  | none => resumed
  | some wallet => resumed.await .restoreWalletEnd (.patchNewWallet wallet)

/-- The last step is that of success. -/
def shouldDisplayAbortAlert (s : State) : Bool :=
  (s.mnemonics.length ≠ 0 || s.walletName ≠ "" || s.spendingPassword ≠ "") &&
    match s.restoreWalletStep with
    | none => false
    | some step => decide (step < 3)

/-- `_restoreWalletClose()` closes the dialog, unless it asks whether it should. -/
def closes (s : State) : Bool :=
  !(shouldDisplayAbortAlert s && !s.restoreWalletShowAbortConfirmation)

def restoreWalletClose (s : State) : State :=
  if closes s then restoreWalletResetData (endRestored s)
  else { s with restoreWalletShowAbortConfirmation := true }

def restoreWalletChangeStep (s : State) (isBack : Bool) : State :=
  let current := s.restoreWalletStep.getD 0
  let reset := if s.restoreWalletStep = none then restoreWalletResetData s else s
  { reset with
    restoreWalletStep := some (if isBack then current - 1 else current + 1)
    restoreWalletShowAbortConfirmation := false }

/-! ## Operations that go on -/

/-- The wallet shown after the one at the index has been deleted. -/
def nextWallet (s : State) (index : ℕ) : Option ListedWallet :=
  s.all[index - 1]?

/-- `_deleteWallet()` from the patched list on; it throws where the next wallet is missing. -/
def walletDeleted (s : State) (walletId : String) (index : ℕ) : State :=
  match s.result with
  -- the timer of `patch()` throws, and its promise is never settled
  | none => s.await (.deleteWallet walletId) .hanging
  | some result =>
      let patched := { s with result := some (result.eraseIdx index), isDeleting := false }
      if patched.hasAnyWallets && (nextWallet patched index).isNone then patched
      else patched.await (.deleteWallet walletId) .unsetHardwareWalletLocalData

def resumeDeleteWallet (s : State) (walletId : String) : Phase → Answer → Option State
  | .pausing, .done => some (pausePolling s (.deleteWallet walletId))
  | .pausing, .failed => some s
  | .paused, .done =>
      some (match s.all.findIdx? (fun wallet => wallet.id = walletId) with
        | none => { s with isDeleting := false }
        | some index => s.await (.deleteWallet walletId) (.deleteWallet index))
  | .deleteWallet index, .done => some (s.await (.deleteWallet walletId) (.patchDeleted index))
  | .deleteWallet _, .failed => some s
  | .patchDeleted index, .done => some (walletDeleted s walletId index)
  | .unsetHardwareWalletLocalData, .done => some (refreshWalletsData (resumePolling s))
  | .unsetHardwareWalletLocalData, .failed => some s
  | _, _ => none

def resumeRestore (s : State) : Phase → Answer → Option State
  | .pausing, .done => some (pausePolling s .restore)
  | .pausing, .failed => some s
  | .paused, .done =>
      some (s.await .restore (if s.isCertificateRestore then .unscramble else .restoreWallet))
  | .unscramble, .done => some (s.await .restore .restoreWallet)
  | .unscramble, .failed => some s
  | .restoreWallet, .wallet wallet =>
      some ({ s with restoredWallet := some wallet, restoreWalletStep := some 3 }.await .restore .restored)
  | .restoreWallet, .noWallet => some (resumePolling s)
  | .restoreWallet, .failed => some (resumePolling s)
  | _, _ => none

def resumeRestoreWalletEnd (s : State) : Phase → Answer → Option State
  | .patchNewWallet wallet, .done =>
      some (match s.result with
        | none => s.await .restoreWalletEnd .hanging
        | some result =>
            restoreWalletResetData
              (refreshWalletsData { s with result := some (addNewWallet wallet result) }))
  | _, _ => none

/-- The body of the `try` block of `_createHardwareWallet()`; whatever is thrown ends in `finally`. -/
def resumeCreateHardwareWallet (s : State) : Phase → Answer → Option State
  | .pausing, .done => some (pausePolling s .createHardwareWallet)
  | .paused, .done => some (s.await .createHardwareWallet .createHardwareWallet)
  | .createHardwareWallet, .wallet wallet =>
      some (s.await .createHardwareWallet (.setHardwareWalletLocalData wallet))
  | .createHardwareWallet, .noWallet => some (resumePolling s)
  | .setHardwareWalletLocalData wallet, .done =>
      some (s.await .createHardwareWallet (.setHardwareWalletDevice wallet))
  | .setHardwareWalletDevice wallet, .done =>
      some (s.await .createHardwareWallet (.patchNewWallet wallet))
  | .patchNewWallet wallet, .done =>
      some (match s.result with
        | none => s.await .createHardwareWallet .hanging
        | some result =>
            resumePolling (refreshWalletsData { s with result := some (addNewWallet wallet result) }))
  | .pausing, .failed | .createHardwareWallet, .failed => some (resumePolling s)
  | .setHardwareWalletLocalData _, .failed | .setHardwareWalletDevice _, .failed =>
      some (resumePolling s)
  | _, _ => none

/-- The body of the `try` block of `_generateCertificate()`. -/
def resumeGenerateCertificate (s : State) : Phase → Answer → Option State
  | .pausing, .done => some (pausePolling s .generateCertificate)
  | .paused, .done => some (s.await .generateCertificate .walletRecoveryPhrase)
  | .walletRecoveryPhrase, .done => some (s.await .generateCertificate .additionalMnemonics)
  | .additionalMnemonics, .done => some (s.await .generateCertificate .certificateRecoveryPhrase)
  | .certificateRecoveryPhrase, .done => some (s.await .generateCertificate .createPaperWallet)
  | .createPaperWallet, .wallet wallet => some (s.await .generateCertificate (.walletAddresses wallet))
  | .createPaperWallet, .noWallet => some (s.await .generateCertificate .downloadCertificate)
  | .walletAddresses _, .done => some (s.await .generateCertificate .deletePaperWallet)
  | .deletePaperWallet, .done => some (s.await .generateCertificate .downloadCertificate)
  | .downloadCertificate, .done => some (resumePolling s)
  | .pausing, .failed | .walletRecoveryPhrase, .failed | .additionalMnemonics, .failed =>
      some (resumePolling s)
  | .certificateRecoveryPhrase, .failed | .createPaperWallet, .failed => some (resumePolling s)
  | .walletAddresses _, .failed | .deletePaperWallet, .failed | .downloadCertificate, .failed =>
      some (resumePolling s)
  | _, _ => none

/-- The body of the `try` block of `_generateCsv()`. -/
def resumeGenerateCsv (s : State) : Phase → Answer → Option State
  | .pausing, .done => some (pausePolling s .generateCsv)
  | .paused, .done => some (s.await .generateCsv .downloadRewardsCsv)
  | .downloadRewardsCsv, .done => some (resumePolling s)
  | .pausing, .failed | .downloadRewardsCsv, .failed => some (resumePolling s)
  | _, _ => none

def resume (s : State) (task : Task) (answer : Answer) : Option State :=
  match task.operation with
  | .deleteWallet walletId => resumeDeleteWallet s walletId task.phase answer
  | .restore => resumeRestore s task.phase answer
  | .restoreWalletEnd => resumeRestoreWalletEnd s task.phase answer
  | .createHardwareWallet => resumeCreateHardwareWallet s task.phase answer
  | .generateCertificate => resumeGenerateCertificate s task.phase answer
  | .generateCsv => resumeGenerateCsv s task.phase answer

/-! ## The machine -/

def step (s : State) : Event → Option State
  | .deleteWallet walletId => some (start { s with isDeleting := true } (.deleteWallet walletId))
  | .restore => some (start s .restore)
  | .createHardwareWallet => some (start s .createHardwareWallet)
  | .generateCertificate => some (start s .generateCertificate)
  | .generateCsv => some (start s .generateCsv)
  | .resume i answer => do
      let task ← s.tasks[i]?
      resume { s with tasks := s.tasks.eraseIdx i } task answer
  | .restoreWalletBegin =>
      some { s with restoreWalletStep := some 0, restoreWalletShowAbortConfirmation := false }
  | .restoreWalletEnd => some (restoreWalletEnd s)
  | .restoreWalletClose => some (restoreWalletClose s)
  | .restoreWalletCancelClose => some { s with restoreWalletShowAbortConfirmation := false }
  | .restoreWalletChangeStep isBack => some (restoreWalletChangeStep s isBack)
  | .restoreWalletSetKind isCertificateRestore =>
      some { s with isCertificateRestore := isCertificateRestore, mnemonics := [] }
  | .restoreWalletSetMnemonics mnemonics => some { s with mnemonics := mnemonics }
  | .restoreWalletSetConfig walletName spendingPassword =>
      some { s with walletName := walletName, spendingPassword := spendingPassword }
  | .refreshWalletsData => some (refreshWalletsData s)
  | .walletsRequest result wasExecuted isExecuting =>
      some { s with result := result, wasExecuted := wasExecuted, isExecuting := isExecuting }
  | .connection isConnected => some { s with isConnected := isConnected }

def machine : Machine State Event :=
  ⟨{}, step⟩

end Klarity.WalletsStore
