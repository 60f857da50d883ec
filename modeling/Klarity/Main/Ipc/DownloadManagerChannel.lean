import Mathlib.Logic.Function.Basic
import Klarity.Library.Machine

set_option autoImplicit false

/-! # The downloads in progress

The requests that `downloadManagerChannel` handles, as far as they decide which downloads are registered in
`downloads`. A request that awaits is a task, suspended in a phase; the record that it reads from the local
store comes with the answer. `files` are the paths that exist on the disk.

A downloader is named by its place in `downloaders`. It is active from the moment it is created until it
ends or fails. A resumed one awaits the size of the file first; where that fails, it is abandoned. The other
events of a downloader, a pause among them, do not change `downloads`. -/

namespace Klarity.DownloadManagerChannel

/-! ## Data -/

structure ResumeDownload where
  temporaryFilename : String
  originalFilename : String
  deriving DecidableEq, Repr

/-- The payload of `requestDownload()`; `fileName` is the option of this name. -/
structure DownloadRequest where
  fileUrl : String
  id : Option String := none
  fileName : Option String := none
  resumeDownload : Option ResumeDownload := none
  deriving DecidableEq, Repr

/-- What the store holds about a download. -/
structure DownloadInfo where
  downloadId : String
  fileUrl : String
  destinationPath : String
  temporaryFilename : String
  originalFilename : String
  fileName : Option String
  deriving DecidableEq, Repr

inductive Status
  | awaitsTotalSize
  | started
  | ended
  | failed
  | abandoned
  deriving DecidableEq, Repr

structure Downloader where
  id : String
  status : Status
  deriving DecidableEq, Repr

def Downloader.isActive (downloader : Downloader) : Bool :=
  match downloader.status with
  | .awaitsTotalSize | .started => true
  | _ => false

/-- What a request awaits: `getEventActions()`, the local data, or `unset()`. -/
inductive Phase
  | eventActions (payload : DownloadRequest)
  | resumeLocalData
  | unset (payload : DownloadRequest)
  | deleteLocalData
  deriving DecidableEq, Repr

structure State where
  downloads : String → Option ℕ := fun _ => none
  downloaders : List Downloader := []
  tasks : List Phase := []
  files : List String := []

/-- What a task is resumed with; the constructor of the downloader throws on a bad URL. -/
inductive Answer
  | done
  | localData (info : Option DownloadInfo)
  | failed
  deriving DecidableEq, Repr

inductive Event
  | requestDownload (payload : DownloadRequest)
  | requestResumeDownload
  | deleteDownloadedFile
  | resume (task : ℕ) (answer : Answer)
  | totalSize (downloader : ℕ) (answered : Bool)
  | ended (downloader : ℕ)
  | error (downloader : ℕ)
  | files (files : List String)
  deriving DecidableEq, Repr

/-! ## Names -/

def getIdFromFileName (fileName : String) : String :=
  String.ofList (fileName.toList.map fun c => if c = '.' then '-' else c)

def getPathSlash (path : String) : Char :=
  if '/' ∈ path.toList then '/' else '\\'

/-- What comes after the last slash. -/
def extractFileNameFromPath (path : String) : String :=
  String.ofList (path.toList.reverse.takeWhile fun c => c ≠ getPathSlash path).reverse

def getOriginalFilename (payload : DownloadRequest) : String :=
  match payload.resumeDownload, payload.fileName with
  | some resumeDownload, _ => resumeDownload.originalFilename
  | none, some fileName => fileName
  | none, none => extractFileNameFromPath payload.fileUrl

/-- An id that is empty counts as none. -/
def downloadId (payload : DownloadRequest) : String :=
  match payload.id with
  | none | some "" => getIdFromFileName (getOriginalFilename payload)
  | some id => getIdFromFileName id

def DownloadInfo.filePath (info : DownloadInfo) (fileName : String) : String :=
  info.destinationPath ++ "/" ++ fileName

/-! ## Requests -/

def State.await (s : State) (phase : Phase) : State :=
  { s with tasks := s.tasks ++ [phase] }

/-- `requestDownload()` up to its first await; a download in progress is not started again. -/
def requestDownload (s : State) (payload : DownloadRequest) : State :=
  if (s.downloads (downloadId payload)).isSome then s else s.await (.eventActions payload)

/-- `requestDownload()` from the event actions on. -/
def createDownloader (s : State) (payload : DownloadRequest) : State :=
  { s with
    downloads := Function.update s.downloads (downloadId payload) (some s.downloaders.length)
    downloaders := s.downloaders ++
      [⟨downloadId payload, if payload.resumeDownload.isSome then .awaitsTotalSize else .started⟩] }

/-- The request for a download to be resumed; without its file it is a new one. -/
def resumePayload (info : DownloadInfo) (fileExists : Bool) : DownloadRequest where
  fileUrl := info.fileUrl
  id := some info.downloadId
  fileName := if fileExists then info.fileName else none
  resumeDownload :=
    if fileExists then some ⟨info.temporaryFilename, info.originalFilename⟩ else none

/-- `requestResumeDownload()` from the local data on; without an id it throws. -/
def requestResumeDownload (s : State) : Option DownloadInfo → State
  | none => s
  | some info =>
      if info.downloadId = "" then s
      else if info.filePath info.temporaryFilename ∈ s.files then
        requestDownload s (resumePayload info true)
      else s.await (.unset (resumePayload info false))

/-- `deleteDownloadedFile()` from the local data on. -/
def deleteDownloadedFile (s : State) : Option DownloadInfo → State
  | none => s
  | some info =>
      { s with
        files := s.files.filter fun file =>
          file ≠ info.filePath info.originalFilename ∧ file ≠ info.filePath info.temporaryFilename }

def setStatus (s : State) (downloader : ℕ) (status : Status) : State :=
  { s with downloaders := s.downloaders.modify downloader fun d => { d with status := status } }

/-- `endEvent()`. -/
def endEvent (s : State) (downloader : ℕ) (id : String) : State :=
  { setStatus s downloader .ended with downloads := Function.update s.downloads id none }

/-- `errorEvent()`. -/
def errorEvent (s : State) (downloader : ℕ) : State :=
  setStatus s downloader .failed

/-- A request goes on with what it was awaiting. -/
def resume (s : State) : Phase → Answer → Option State
  | .eventActions payload, .done => some (createDownloader s payload)
  | .resumeLocalData, .localData info => some (requestResumeDownload s info)
  | .unset payload, .done => some (requestDownload s payload)
  | .deleteLocalData, .localData info => some (deleteDownloadedFile s info)
  | _, .failed => some s
  | _, _ => none

/-! ## The machine -/

/-- The downloader of this name, where it is in the status. -/
def downloaderIn (s : State) (status : Status) (downloader : ℕ) : Option Downloader := do
  let found ← s.downloaders[downloader]?
  if found.status = status then some found else none

def step (s : State) : Event → Option State
  | .requestDownload payload => some (requestDownload s payload)
  | .requestResumeDownload => some (s.await .resumeLocalData)
  | .deleteDownloadedFile => some (s.await .deleteLocalData)
  | .resume i answer => do
      let phase ← s.tasks[i]?
      resume { s with tasks := s.tasks.eraseIdx i } phase answer
  | .totalSize downloader answered =>
      (downloaderIn s .awaitsTotalSize downloader).map fun _ =>
        setStatus s downloader (if answered then .started else .abandoned)
  | .ended downloader => (downloaderIn s .started downloader).map fun found =>
      endEvent s downloader found.id
  | .error downloader => (downloaderIn s .started downloader).map fun _ => errorEvent s downloader
  | .files files => some { s with files := files }

def machine : Machine State Event :=
  ⟨{}, step⟩

end Klarity.DownloadManagerChannel
