import Mathlib.Data.List.Sort
import Klarity.Library.Machine
import Klarity.Renderer.Stores.Lib.Request.Awaited

set_option autoImplicit false

/-! # The wallet migration store

The user exports the wallets of a legacy installation, selects some of them and restores these, in as many
runs as needed. All restores of a run share one `Request`, reset before each execute; a `Restore` is a call
of `_restoreWallet()` that awaits its promise. The other operations that await something are `Phase`s.

A wallet is an object that the store and a restore may both hold, so a task remembers the export it comes
from, and is renamed with it. `migration`, `records` and `reports` are a history that no step reads: what was
submitted and restored since the last `_finishMigration()` has ended, and what was recorded and reported. -/

namespace Klarity.WalletMigrationStore

open Request (settled)

/-! ## Data -/

inductive WalletMigrationStatus
  | unstarted
  | running
  | completed
  | skipped
  | errored
  deriving DecidableEq, Repr

inductive WalletImportStatus
  | unstarted
  | pending
  | running
  | completed
  | alreadyExists
  | errored
  deriving DecidableEq, Repr

inductive ImportWalletStep
  | walletImportFile
  | walletSelectImport
  deriving DecidableEq, Repr

structure LocalizableError where
  id : String
  defaultMessage : String
  deriving DecidableEq, Repr

/-- What a restore throws: an error of the API, or one of its own. -/
inductive RestorationError
  | localizable (error : LocalizableError)
  | error (message : String)
  deriving DecidableEq, Repr

/-- A wallet as the export tool finds it. -/
structure FoundWallet where
  encryptedRootPrivateKey : String
  name : Option String
  id : String
  passphraseHash : String
  isEmptyPassphrase : Bool
  deriving DecidableEq, Repr

/-- `status` and `error` are the fields of `import`. -/
structure ExportedColeWallet extends FoundWallet where
  hasName : Bool
  status : WalletImportStatus
  error : Option RestorationError
  index : ℕ
  deriving DecidableEq, Repr

/-- What `wallets.all` holds of a wallet. -/
structure NamedWallet where
  id : String
  name : String
  deriving DecidableEq, Repr

structure RestoredWallet where
  id : String
  name : String
  hasPassword : Bool
  deriving DecidableEq, Repr

structure ExportedWalletData where
  id : String
  name : Option String
  hasPassword : Bool
  deriving DecidableEq, Repr

structure RestorationFailure where
  error : RestorationError
  wallet : ExportedWalletData
  deriving DecidableEq, Repr

/-- A call of `_restoreWallet()` that awaits its promise. -/
structure Restore where
  run : ℕ
  exportedIn : ℕ
  exportedWallet : ExportedColeWallet
  promise : Option ℕ
  deriving DecidableEq, Repr

inductive ExportCaller
  | nextStep
  | startMigration
  deriving DecidableEq, Repr

/-- What an operation other than a restore awaits. -/
inductive Phase
  | exportWallets (caller : ExportCaller)
  | startStatus
  | refreshWalletsData
  | startRecord
  | finishStatus
  | finishRecord
  | finalMigrationStatus
  | walletMigrationReport
  deriving DecidableEq, Repr

inductive Answer
  | done
  | failed
  | status (walletMigrationStatus : WalletMigrationStatus)
  | exported (wallets : List FoundWallet) (errors : String) (all : List NamedWallet)
  deriving DecidableEq, Repr

/-- The ids handed to a restore, and the wallets restored with the ids they were exported under. -/
structure Migration where
  submitted : List String := []
  restored : List (String × RestoredWallet) := []
  deriving DecidableEq, Repr

/-- A status that is recorded, with what was chosen and restored by then. -/
structure Record where
  status : WalletMigrationStatus
  chosen : List String
  restored : List (String × RestoredWallet)
  deriving DecidableEq, Repr

structure Report where
  exportedWalletsData : List (ExportedWalletData × WalletImportStatus × Option RestorationError)
  exportedWalletsCount : ℕ
  exportErrors : String
  restoredWalletsData : List RestoredWallet
  restoredWalletsCount : ℕ
  restorationErrors : List RestorationFailure
  finalMigrationStatus : WalletMigrationStatus
  deriving DecidableEq, Repr

structure State where
  walletMigrationStep : Option ImportWalletStep := none
  isExportRunning : Bool := false
  exportedWallets : List ExportedColeWallet := []
  exportErrors : String := ""
  exportSourcePath : String := ""
  isRestorationRunning : Bool := false
  restoredWallets : List RestoredWallet := []
  restorationErrors : List RestorationFailure := []
  restoreExportedWalletRequest :
    Request.State ExportedColeWallet (Option RestoredWallet) RestorationError := {}
  tasks : List Phase := []
  restores : List Restore := []
  runs : List ℕ := []
  started : ℕ := 0
  exports : ℕ := 0
  migration : Migration := {}
  records : List Record := []
  /-- Each with the wallets restored in the whole migration. -/
  reports : List (Report × List (String × RestoredWallet)) := []

inductive Event
  | initiateMigration
  | startMigration
  | finishMigration
  | resetMigration
  | toggleWalletImportSelection (index : ℕ)
  | updateWalletName (index : ℕ) (name : String)
  | nextStep
  | selectExportSourcePath (filePath : String)
  | resetExportSourcePath
  | tick (call : ℕ)
  | respond (call : ℕ) (outcome : Except RestorationError (Option RestoredWallet))
  | resumeRestore (restore : ℕ)
  | endRestoration (run : ℕ)
  | resume (task : ℕ) (answer : Answer)

/-- Of the environment and the configuration, what an automatic start depends on. -/
structure Environment where
  isAutomaticWalletMigrationEnabled : Bool := false
  isMainnet : Bool := false
  isTestnet : Bool := false
  isTest : Bool := false
  isTestMigrationEnabled : Bool := false
  deriving DecidableEq, Repr

def State.await (s : State) (phase : Phase) : State :=
  { s with tasks := s.tasks ++ [phase] }

/-! ## Exported wallets -/

def getExportedWalletByIndex (s : State) (index : ℕ) : Option ExportedColeWallet :=
  s.exportedWallets.find? fun w => w.index = index

/-- Updates the wallet that `getExportedWalletByIndex()` finds. -/
def modifyByIndex (index : ℕ) (f : ExportedColeWallet → ExportedColeWallet)
    (wallets : List ExportedColeWallet) : List ExportedColeWallet :=
  wallets.modify (wallets.findIdx fun w => w.index = index) f

def updateWalletImportStatus (s : State) (index : ℕ) (status : WalletImportStatus)
    (error : Option RestorationError) : State :=
  { s with
    exportedWallets :=
      modifyByIndex index (fun w => { w with status := status, error := error }) s.exportedWallets }

/-- A change of the duplicates of the wallet of an id and an index. -/
def updateDuplicates (s : State) (id : String) (index : ℕ)
    (f : WalletImportStatus → WalletImportStatus) : State :=
  { s with
    exportedWallets := s.exportedWallets.map fun w =>
      if w.id = id ∧ w.index ≠ index then { w with status := f w.status } else w }

def pendingImportWallets (s : State) : List ExportedColeWallet :=
  s.exportedWallets.filter fun w => w.status = .pending

def exportedWalletData (wallet : ExportedColeWallet) : ExportedWalletData :=
  ⟨wallet.id, wallet.name, !wallet.isEmptyPassphrase⟩

/-! ## Selecting wallets -/

/-- What becomes of the status of a duplicate when a wallet is toggled. -/
def deselect (status : WalletImportStatus) : WalletImportStatus :=
  if status = .pending then .unstarted else status

def toggleWalletImportSelection (s : State) (index : ℕ) : State :=
  match getExportedWalletByIndex s index with
  | none => s
  | some wallet =>
      let toggled := if wallet.status = .pending then .unstarted else .pending
      updateDuplicates (updateWalletImportStatus s index toggled none) wallet.id index deselect

/-- A restore of the wallet holds the renamed object. -/
def updateWalletName (s : State) (index : ℕ) (name : String) : State :=
  match getExportedWalletByIndex s index with
  | none => s
  | some _ =>
      { s with
        exportedWallets := modifyByIndex index (fun w => { w with name := some name }) s.exportedWallets
        restores := s.restores.map fun restore =>
          if restore.exportedIn = s.exports ∧ restore.exportedWallet.index = index then
            { restore with exportedWallet := { restore.exportedWallet with name := some name } }
          else restore }

/-! ## Resetting -/

def resetExportData (s : State) : State :=
  { s with isExportRunning := false, exportedWallets := [], exportErrors := "" }

def resetRestorationData (s : State) : State :=
  { s with isRestorationRunning := false, restoredWallets := [], restorationErrors := [] }

def resetMigration (s : State) : State :=
  { resetRestorationData (resetExportData s) with exportSourcePath := "", walletMigrationStep := none }

/-! ## Exporting wallets -/

def utf16 (c : Char) : List ℕ :=
  if c.toNat < 0x10000 then [c.toNat]
  else [0xD800 + (c.toNat - 0x10000) / 0x400, 0xDC00 + (c.toNat - 0x10000) % 0x400]

def compareStrings (a b : String) : Ordering :=
  compare (a.toList.flatMap utf16) (b.toList.flatMap utf16)

/-- A missing name goes last. -/
def compareNames : Option String → Option String → Ordering
  | none, none => .eq
  | none, some _ => .gt
  | some _, none => .lt
  | some a, some b => compareStrings a b

/-- The order of `orderBy()`: named wallets first, then by id, name and passphrase. -/
def compareWallets (a b : ExportedColeWallet) : Ordering :=
  (compare b.hasName a.hasName).then <|
    (compareStrings a.id b.id).then <|
      (compareNames a.name b.name).then (compare a.isEmptyPassphrase b.isEmptyPassphrase)

/-- A found wallet takes the name of the wallet that was imported from it before; it has no index yet. -/
def exportedWallet (all : List NamedWallet) (wallet : FoundWallet) : ExportedColeWallet :=
  match all.find? fun w => w.id = "legacy_" ++ wallet.id with
  | none => ⟨wallet, wallet.name.isSome, .unstarted, none, 0⟩
  | some imported => ⟨{ wallet with name := some imported.name }, wallet.name.isSome, .alreadyExists, none, 0⟩

def exportedWallets (wallets : List FoundWallet) (all : List NamedWallet) : List ExportedColeWallet :=
  ((wallets.map (exportedWallet all)).insertionSort fun a b => compareWallets a b ≠ .gt).mapIdx
    -- Guard against duplicated wallet ids
    fun index wallet => { wallet with index := index + 1 }

def exportWallets (s : State) (caller : ExportCaller) : State :=
  { resetExportData s with isExportRunning := true }.await (.exportWallets caller)

def finishMigration (s : State) : State :=
  s.await .finishStatus

/-- `_exportWallets()` from the answer on. -/
def exported (s : State) (wallets : List FoundWallet) (errors : String) (all : List NamedWallet) : State :=
  { s with
    isExportRunning := false
    exportedWallets := exportedWallets wallets all
    exportErrors := if errors ≠ "" ∨ wallets = [] then "No wallets found" else ""
    exports := s.exports + 1 }

/-- What the caller of an export does then. -/
def afterExport (s : State) : ExportCaller → State
  | .nextStep =>
      if s.exportedWallets.isEmpty then s
      else { s with walletMigrationStep := some .walletSelectImport }
  | .startMigration =>
      if s.exportedWallets.isEmpty then finishMigration s
      else { s with walletMigrationStep := some .walletSelectImport }

/-! ## Restoring wallets -/

/-- `_restoreWallet()` up to its await. -/
def restoreWallet (run : ℕ) (s : State) (wallet : ExportedColeWallet) : State :=
  let running := updateWalletImportStatus s wallet.index .running none
  -- Reset restore requests to clear previous errors
  let request := running.restoreExportedWalletRequest.reset.execute wallet
  { running with
    restoreExportedWalletRequest := request
    restores := running.restores ++ [⟨run, running.exports, wallet, request.promise⟩] }

def restoreWallets (s : State) : State :=
  let pending := pendingImportWallets s
  pending.foldl (restoreWallet s.started)
    { resetRestorationData s with
      isRestorationRunning := true
      runs := s.runs ++ [s.started]
      started := s.started + 1
      migration := { s.migration with submitted := s.migration.submitted ++ pending.map (·.id) } }

def walletRestored (s : State) (restore : Restore) (restoredWallet : RestoredWallet) : State :=
  let wallet := restore.exportedWallet
  let completed := updateDuplicates (updateWalletImportStatus s wallet.index .completed none)
    wallet.id wallet.index fun _ => .completed
  { completed with
    restoredWallets := s.restoredWallets ++ [restoredWallet]
    migration := { s.migration with restored := s.migration.restored ++ [(wallet.id, restoredWallet)] } }

/-- The `catch` block. -/
def restoreFailed (s : State) (restore : Restore) (error : RestorationError) : State :=
  let wallet := restore.exportedWallet
  { updateWalletImportStatus s wallet.index .errored (some error) with
    restorationErrors := s.restorationErrors ++ [⟨error, exportedWalletData wallet⟩] }

/-- What a restore returns or throws once its promise is settled. -/
def restoreOutcome : Except RestorationError (Option RestoredWallet) →
    Except RestorationError RestoredWallet
  | .ok (some restoredWallet) => .ok restoredWallet
  | .ok none => .error (.error "Restored wallet was not received correctly")
  | .error error => .error error

def restoreEnded (s : State) (restore : Restore)
    (outcome : Except RestorationError (Option RestoredWallet)) : State :=
  match restoreOutcome outcome with
  | .ok restoredWallet => walletRestored s restore restoredWallet
  | .error error => restoreFailed s restore error

def resumeRestore (s : State) (k : ℕ) : Option State := do
  let restore ← s.restores[k]?
  let outcome ← settled s.restoreExportedWalletRequest restore.promise
  restoreEnded { s with restores := s.restores.eraseIdx k } restore outcome

def nextStep (s : State) : State :=
  if s.walletMigrationStep = some .walletImportFile then exportWallets s .nextStep else restoreWallets s

/-! ## Starting and finishing a migration -/

/-- The wallets chosen: those handed to a restore, and those selected now. -/
def chosen (s : State) : List String :=
  s.migration.submitted ++ (pendingImportWallets s).map (·.id)

/-- `setWalletMigrationStatusRequest.execute(status)` -/
def record (s : State) (status : WalletMigrationStatus) : State :=
  { s with records := s.records ++ [⟨status, chosen s, s.migration.restored⟩] }

def startMigration (env : Environment) (s : State) : State :=
  if !env.isAutomaticWalletMigrationEnabled then s
  else if env.isMainnet || env.isTestnet || (env.isTest && env.isTestMigrationEnabled) then
    (resetMigration s).await .startStatus
  else record s .skipped

def succeeded (s : State) : Bool :=
  s.exportErrors = "" && s.restorationErrors.isEmpty

/-- Leaves out the first occurrence. -/
def removeFirst (pattern : List Char) : List Char → List Char
  | [] => []
  | c :: cs =>
      if pattern.isPrefixOf (c :: cs) then (c :: cs).drop pattern.length
      else c :: removeFirst pattern cs

def getRawWalletId (legacyWalletId : String) : String :=
  String.ofList (removeFirst "legacy_".toList legacyWalletId.toList)

def restoredWalletData (wallet : RestoredWallet) : RestoredWallet :=
  { wallet with id := getRawWalletId wallet.id }

def generateMigrationReport (s : State) (finalMigrationStatus : WalletMigrationStatus) : Report where
  exportedWalletsData := s.exportedWallets.map fun w => (exportedWalletData w, w.status, w.error)
  exportedWalletsCount := s.exportedWallets.length
  exportErrors := s.exportErrors
  restoredWalletsData := s.restoredWallets.map restoredWalletData
  restoredWalletsCount := s.restoredWallets.length
  restorationErrors := s.restorationErrors
  finalMigrationStatus := finalMigrationStatus

/-- The end of `_finishMigration()` is the end of the migration. -/
def migrationFinished (s : State) : State :=
  { resetMigration s with migration := {} }

def resume (s : State) : Phase → Answer → Option State
  | .exportWallets caller, .exported wallets errors all =>
      some (afterExport (exported s wallets errors all) caller)
  | .exportWallets _, .failed => some s
  | .startStatus, .status status => some (if status = .unstarted then s.await .refreshWalletsData else s)
  | .startStatus, .failed => some s
  | .refreshWalletsData, .done => some ((record s .running).await .startRecord)
  | .refreshWalletsData, .failed => some s
  | .startRecord, .done => some (exportWallets s .startMigration)
  | .startRecord, .failed => some s
  | .finishStatus, .status status =>
      some (if status = .running then
        (record s (if succeeded s then .completed else .errored)).await .finishRecord
      else migrationFinished s)
  | .finishStatus, .failed => some s
  | .finishRecord, .done => some (s.await .finalMigrationStatus)
  | .finishRecord, .failed => some s
  | .finalMigrationStatus, .status status =>
      some ({ s with reports := s.reports ++ [(generateMigrationReport s status, s.migration.restored)] }.await
        .walletMigrationReport)
  | .finalMigrationStatus, .failed => some s
  | .walletMigrationReport, .done | .walletMigrationReport, .failed => some (migrationFinished s)
  | _, _ => none

/-! ## The machine -/

def step (env : Environment) (s : State) : Event → Option State
  | .initiateMigration => some { s with walletMigrationStep := some .walletImportFile }
  | .startMigration => some (startMigration env s)
  | .finishMigration => some (finishMigration s)
  | .resetMigration => some (resetMigration s)
  | .toggleWalletImportSelection index => some (toggleWalletImportSelection s index)
  | .updateWalletName index name => some (updateWalletName s index name)
  | .nextStep => some (nextStep s)
  | .selectExportSourcePath filePath => some { s with exportSourcePath := filePath, exportErrors := "" }
  | .resetExportSourcePath => some { s with exportSourcePath := "", exportErrors := "" }
  | .tick i => do
      let request ← Request.step s.restoreExportedWalletRequest (.tick i)
      some { s with restoreExportedWalletRequest := request }
  | .respond i outcome => do
      let request ← Request.step s.restoreExportedWalletRequest (.respond i outcome)
      some { s with restoreExportedWalletRequest := request }
  | .resumeRestore k => resumeRestore s k
  | .endRestoration run =>
      if run ∈ s.runs ∧ ∀ restore ∈ s.restores, restore.run ≠ run then
        some { s with runs := s.runs.erase run, isRestorationRunning := false }
      else none
  | .resume k answer => do
      let phase ← s.tasks[k]?
      resume { s with tasks := s.tasks.eraseIdx k } phase answer

def machine (env : Environment) : Machine State Event :=
  ⟨{}, step env⟩

end Klarity.WalletMigrationStore
