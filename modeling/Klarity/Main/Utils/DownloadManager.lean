import Klarity.Common.Types.DownloadManager
import Klarity.Library.Machine

set_option autoImplicit false

/-! # The events of a download

What `getEventActions()` makes of the events of one downloader, from the moment `setInfo()` has stored the
record. A handler reads the record when it is called, is suspended, writes the merged record, is suspended
again and goes on: every order of these continuations is a run. Writing does not fail.

`checkNoEndEvent` is the timer that the variable of this name holds, `timers` are the timers that will
fire. The files can be removed from the disk at any time. `reported` are the updates of all events so far;
no step reads it. -/

namespace Klarity.DownloadManager

/-! ## Data -/

/-- What is stored of a download. -/
structure LocalData (Info : Type) where
  info : Option Info
  data : DownloadData

/-- The handlers that store an update. -/
inductive Handler
  | downloadEvent
  | progressEvent (progress : ℚ)
  | endEvent
  | pauseEvent
  | errorEvent (message : String)
  deriving DecidableEq, Repr

/-- What a handler awaits: `setData()` between `get` and `set` and after it, `unset()` in the same way. -/
inductive Phase (Info : Type)
  | read (handler : Handler) (update : DownloadDataUpdate) (old : Option (LocalData Info))
  | written (handler : Handler) (data : DownloadData)
  | unsetRead
  | unsetWritten

structure Message where
  eventType : DownloadEventType
  data : DownloadData
  error : Option String := none

structure State (Info : Type) where
  stored : Option (LocalData Info)
  isRegistered : Bool := true
  serverFileSize : Option ℚ := none
  checkNoEndEvent : Option ℕ := none
  timers : List ℕ := []
  armed : ℕ := 0
  temporaryFile : Bool := true
  newFile : Bool := false
  tasks : List (Phase Info) := []
  sent : List Message := []
  reported : List DownloadDataUpdate := []

inductive Event
  | start
  | download (totalSize downloadedSize : ℚ)
  | progress (total downloaded progress speed : ℚ)
  | ended (totalSize onDiskSize : ℚ) (incomplete : Bool)
  | pause
  | error (message : String)
  | resume (task : ℕ)
  | timer (timer : ℕ)
  | files (temporaryFile newFile : Bool)
  deriving DecidableEq, Repr

variable {Info : Type}

def State.await (s : State Info) (phase : Phase Info) : State Info :=
  { s with tasks := s.tasks ++ [phase] }

def State.send (s : State Info) (eventType : DownloadEventType) (data : DownloadData)
    (error : Option String) : State Info :=
  { s with sent := s.sent ++ [⟨eventType, data, error⟩] }

/-! ## Event actions -/

/-- `setData()` up to its first await. -/
def setData (s : State Info) (handler : Handler) (update : DownloadDataUpdate) : State Info :=
  { s with reported := s.reported ++ [update] }.await (.read handler update s.stored)

def startEvent (s : State Info) : State Info :=
  s.send .start .default none

def downloadEvent (s : State Info) (totalSize downloadedSize : ℚ) : State Info :=
  setData { s with serverFileSize := some totalSize } .downloadEvent
    { state := .downloading
      figures := fun
        | .serverFileSize | .remainingSize => some totalSize
        | .diskFileSize => some downloadedSize
        | _ => none }

def progressEvent (s : State Info) (total downloaded progress speed : ℚ) : State Info :=
  setData s (.progressEvent progress)
    { state := .downloading
      figures := fun
        | .remainingSize => some (total - downloaded)
        | .serverFileSize => s.serverFileSize
        | .downloadSize => some downloaded
        | .progress => some progress
        | .speed => some speed
        | _ => none }

def endEvent (s : State Info) (totalSize onDiskSize : ℚ) (incomplete : Bool) : State Info :=
  let cleared : State Info :=
    { s with
      timers := s.timers.filter fun timer => s.checkNoEndEvent ≠ some timer
      isRegistered := false }
  setData cleared .endEvent
    { state := .finished
      figures := fun
        | .downloadSize => some totalSize
        | .diskFileSize => some onDiskSize
        | _ => none
      incomplete := some incomplete }

def pauseEvent (s : State Info) : State Info :=
  setData s .pauseEvent { state := .paused }

def errorEvent (s : State Info) (message : String) : State Info :=
  setData s (.errorEvent message) { state := .failed, message := some message }

/-- The timer that waits for the end of the download. -/
def armCheckNoEndEvent (s : State Info) : State Info :=
  { s with checkNoEndEvent := some s.armed, timers := s.timers ++ [s.armed], armed := s.armed + 1 }

def checkNoEndEventFires (s : State Info) (timer : ℕ) : State Info :=
  let fired : State Info := { s with timers := s.timers.erase timer }
  if !s.temporaryFile || !s.newFile then errorEvent fired "The download file was manually deleted"
  else fired

/-- `endEvent()` from the stored record on; renaming a file that is not there throws. -/
def renameFile (persistLocalData : Bool) (s : State Info) (data : DownloadData) : State Info :=
  if s.temporaryFile then
    let renamed := { s with temporaryFile := false, newFile := true }.send .ended data none
    if persistLocalData then renamed else renamed.await .unsetRead
  else s

/-- A handler goes on. -/
def resume (persistLocalData : Bool) (s : State Info) : Phase Info → State Info
  | .read handler update old =>
      let data := DownloadData.mergeWith (old.map (·.data)) update
      { s with stored := some ⟨old.bind (·.info), data⟩ }.await (.written handler data)
  | .written .downloadEvent data => s.send .download data none
  | .written (.progressEvent progress) data =>
      let reported := s.send .progress data none
      if progress = 100 then armCheckNoEndEvent reported else reported
  | .written .endEvent data => renameFile persistLocalData s data
  | .written .pauseEvent data => s.send .pause data none
  | .written (.errorEvent message) data => s.send .error data (some message)
  | .unsetRead => { s with stored := none }.await .unsetWritten
  | .unsetWritten => s

/-! ## The machine -/

def step (persistLocalData : Bool) (s : State Info) : Event → Option (State Info)
  | .start => some (startEvent s)
  | .download totalSize downloadedSize => some (downloadEvent s totalSize downloadedSize)
  | .progress total downloaded progress speed =>
      some (progressEvent s total downloaded progress speed)
  | .ended totalSize onDiskSize incomplete => some (endEvent s totalSize onDiskSize incomplete)
  | .pause => some (pauseEvent s)
  | .error message => some (errorEvent s message)
  | .resume i =>
      s.tasks[i]?.map fun phase => resume persistLocalData { s with tasks := s.tasks.eraseIdx i } phase
  | .timer timer => if timer ∈ s.timers then some (checkNoEndEventFires s timer) else none
  | .files temporaryFile newFile =>
      some { s with temporaryFile := temporaryFile, newFile := newFile }

def machine (info : Info) (persistLocalData : Bool) : Machine (State Info) Event where
  init := { stored := some ⟨some info, .default⟩ }
  step := step persistLocalData

end Klarity.DownloadManager
