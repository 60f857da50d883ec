import Klarity.Common.Types.DownloadManager
import Klarity.Library.Machine

set_option autoImplicit false

/-! # App updates

`AppUpdateStore`: an update is taken from the news feed, downloaded by the main process and installed when
the user says so. `_checkNewAppUpdate()` is a task that is suspended in a phase; `resume` lets it go on up
to its next await. `messages` are the requests sent to the main process that change something there.

`semverLt` is `semver.lt()`, with `none` for the error that it throws. `completed` are the URLs whose
download has completed: an `END` event named it, or a persisted record that is finished, with a file that
still exists. No step reads it. -/

namespace Klarity.AppUpdateStore

/-! ## Data -/

structure SoftwareUpdateInfo where
  version : Option String := none
  hash : Option String := none
  url : Option String := none
  deriving DecidableEq, Repr

/-- An update of the news feed, with what it says for each platform. -/
structure News where
  softwareUpdate : List (String × SoftwareUpdateInfo)
  deriving DecidableEq, Repr

structure DownloadInfo where
  fileUrl : String
  destinationPath : String
  originalFilename : String
  deriving DecidableEq, Repr

structure DownloadData where
  state : DownloadState
  progress : ℚ
  deriving DecidableEq, Repr

structure DownloadRequestOptions where
  progressIsThrottled : Bool
  persistLocalData : Bool
  deriving DecidableEq, Repr

inductive UpdateInstallationStatus
  | progress
  | error
  | success
  deriving DecidableEq, Repr

inductive Message
  | requestDownload (id fileUrl : String) (options : DownloadRequestOptions)
  | requestResumeDownload (id : String) (options : DownloadRequestOptions)
  | deleteDownloadedFile (id : String)
  | clearDownloadLocalData (id : String)
  | manageAppUpdate (filePath : String) (hash : Option String)
  deriving DecidableEq, Repr

/-- What a task awaits. -/
inductive Phase
  | appUpdateCompleted (update : News)
  | setAppUpdateCompleted
  | unsetAppAutomaticUpdateFailed
  | updateFileRemoved
  | localDataRemoved
  | appAutomaticUpdateFailed (update : News)
  | downloadLocalData (update : News)
  | localDataCleared (update : News)
  | fileExists (info : DownloadInfo) (data : DownloadData)
  | setAppAutomaticUpdateFailed
  deriving DecidableEq, Repr

/-- What a task is resumed with. -/
inductive Answer
  | done
  | version (completed : Option String)
  | flag (value : Bool)
  | localData (info : Option DownloadInfo) (data : Option DownloadData)
  | failed
  deriving DecidableEq, Repr

structure State where
  availableUpdate : Option News := none
  availableUpdateVersion : Option String := some ""
  isUpdateDownloading : Bool := false
  isUpdateDownloaded : Bool := false
  isUpdateProgressOpen : Bool := false
  isAutomaticUpdateFailed : Bool := false
  isUpdatePostponed : Bool := false
  isWaitingToQuitKlarity : Bool := false
  installationProgress : ℚ := 0
  downloadInfo : Option DownloadInfo := none
  downloadData : Option DownloadData := none
  tasks : List Phase := []
  messages : List Message := []
  completed : List String := []
  deriving DecidableEq, Repr

inductive Event
  | newsfeedUpdate (update : News)
  | resume (task : ℕ) (answer : Answer)
  | download (eventType : DownloadEventType) (info : DownloadInfo) (data : DownloadData)
  | installUpdate
  | openAppUpdateOverlay
  | closeAppUpdateOverlay
  | postponeUpdate
  | quitAndInstallResponse (status : UpdateInstallationStatus) (progress : Option ℚ)
  deriving DecidableEq, Repr

def appUpdateDownloadId : String := "appUpdate"

def downloadOptions : DownloadRequestOptions where
  progressIsThrottled := false
  persistLocalData := true

def State.await (s : State) (phase : Phase) : State :=
  { s with tasks := s.tasks ++ [phase] }

def State.send (s : State) (message : Message) : State :=
  { s with messages := s.messages ++ [message] }

/-! ## The store -/

def setAppAutomaticUpdateFailed (s : State) : State :=
  s.await .setAppAutomaticUpdateFailed

def removeLocalDataInfo (s : State) : State :=
  s.send (.clearDownloadLocalData appUpdateDownloadId)

def removeUpdateFile (s : State) : State :=
  s.send (.deleteDownloadedFile appUpdateDownloadId)

def requestResumeUpdateDownload (s : State) : State :=
  s.send (.requestResumeDownload appUpdateDownloadId downloadOptions)

def manageUpdateResponse (s : State) (eventType : DownloadEventType) (info : DownloadInfo)
    (data : DownloadData) : State :=
  let updated : State :=
    match eventType with
    | .pause => { s with availableUpdate := none, isUpdateDownloaded := true }
    | .progress => { s with downloadInfo := some info, downloadData := some data }
    | .ended => { s with isUpdateDownloaded := true, completed := s.completed ++ [info.fileUrl] }
    | .error => setAppAutomaticUpdateFailed s
    | _ => s
  { updated with
    isUpdateDownloading := decide (eventType ≠ .ended ∧ eventType ≠ .pause ∧ eventType ≠ .error) }

def manageQuitAndInstallResponse (s : State) (status : UpdateInstallationStatus)
    (progress : Option ℚ) : State :=
  match status with
  | .error => setAppAutomaticUpdateFailed { s with isWaitingToQuitKlarity := false }
  | .progress =>
      match progress with
      | some value => if value = 0 then s else { s with installationProgress := value }
      | none => s
  | .success => s

section

variable (platform currentVersion : String) (semverLt : String → Option String → Option Bool)

def getUpdateInfo (update : News) : SoftwareUpdateInfo :=
  (update.softwareUpdate.lookup platform).getD {}

def isUpdateInstalled (update : News) : Option Bool :=
  (semverLt currentVersion (getUpdateInfo platform update).version).map not

/-- Nothing is requested for an update without a URL. -/
def requestUpdateDownload (s : State) (update : News) : State :=
  match (getUpdateInfo platform update).url with
  | none => s
  | some fileUrl =>
      if fileUrl = "" then s
      else s.send (.requestDownload appUpdateDownloadId fileUrl downloadOptions)

/-- The installation request that `_installUpdate()` sends, if it sends one. -/
def installRequest (s : State) : Option Message :=
  match s.availableUpdate, s.downloadInfo with
  | some update, some info =>
      if s.isUpdateDownloading || !s.isUpdateDownloaded then none
      else some (.manageAppUpdate (info.destinationPath ++ "/" ++ info.originalFilename)
        (getUpdateInfo platform update).hash)
  | _, _ => none

def installUpdate (s : State) : State :=
  match installRequest platform s with
  | none => s
  | some request => { s with isWaitingToQuitKlarity := true }.send request

/-- `_checkNewAppUpdate()` once the version that was installed last is known. -/
def completedVersionRead (s : State) (update : News) (completed : Option String) : State :=
  let version := (getUpdateInfo platform update).version
  if completed.isSome && decide (completed = version) then s
  else
    match isUpdateInstalled platform currentVersion semverLt update with
    | none => s
    | some true => s.await .setAppUpdateCompleted
    | some false =>
        let offered := { s with availableUpdate := some update, availableUpdateVersion := version }
        if offered.isUpdateDownloading then offered
        else offered.await (.appAutomaticUpdateFailed update)

/-- `_checkNewAppUpdate()` once the persisted record of the download is known. -/
def localDataRead (s : State) (update : News) (info : Option DownloadInfo)
    (data : Option DownloadData) : State :=
  match info, data with
  | some info, some data =>
      if some info.fileUrl ≠ (getUpdateInfo platform update).url then
        (removeLocalDataInfo s).await (.localDataCleared update)
      else if data.state = .finished ∧ data.progress = 100 then s.await (.fileExists info data)
      else requestResumeUpdateDownload s
  | _, _ => (removeLocalDataInfo s).await (.localDataCleared update)

/-- A task goes on with what it was awaiting. -/
def resume (s : State) : Phase → Answer → Option State
  | .appUpdateCompleted update, .version completed =>
      some (completedVersionRead platform currentVersion semverLt s update completed)
  | .setAppUpdateCompleted, .done => some (s.await .unsetAppAutomaticUpdateFailed)
  | .unsetAppAutomaticUpdateFailed, .done => some ((removeUpdateFile s).await .updateFileRemoved)
  | .updateFileRemoved, .done => some ((removeLocalDataInfo s).await .localDataRemoved)
  | .localDataRemoved, .done => some s
  | .appAutomaticUpdateFailed update, .flag failed =>
      some (if failed then { s with isAutomaticUpdateFailed := true }
        else s.await (.downloadLocalData update))
  | .downloadLocalData update, .localData info data => some (localDataRead platform s update info data)
  | .localDataCleared update, .done => some (requestUpdateDownload platform s update)
  | .fileExists info data, .flag fileExists =>
      some (if fileExists then
          { s with
            downloadInfo := some info
            downloadData := some data
            isUpdateDownloaded := true
            completed := s.completed ++ [info.fileUrl] }
        else setAppAutomaticUpdateFailed s)
  | .setAppAutomaticUpdateFailed, .done => some { s with isAutomaticUpdateFailed := true }
  | _, .failed => some s
  | _, _ => none

/-! ## The machine -/

def step (s : State) : Event → Option State
  | .newsfeedUpdate update => some (s.await (.appUpdateCompleted update))
  | .resume i answer => do
      let phase ← s.tasks[i]?
      resume platform currentVersion semverLt { s with tasks := s.tasks.eraseIdx i } phase answer
  | .download eventType info data => some (manageUpdateResponse s eventType info data)
  | .installUpdate => some (installUpdate platform s)
  | .openAppUpdateOverlay => some { s with isUpdateProgressOpen := true, isUpdatePostponed := false }
  | .closeAppUpdateOverlay => some { s with isUpdateProgressOpen := false }
  | .postponeUpdate => some { s with isUpdatePostponed := true }
  | .quitAndInstallResponse status progress => some (manageQuitAndInstallResponse s status progress)

def machine : Machine State Event :=
  ⟨{}, step platform currentVersion semverLt⟩

end

end Klarity.AppUpdateStore
