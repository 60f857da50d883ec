import Klarity.Library.Number
import Klarity.Renderer.Stores.AppUpdateStore

set_option autoImplicit false

/-! # Installing an update

The main process installs an update on Linux by running the updater on the downloaded installer, and lets
Klarity exit with code 20 when the updater has done its work. What the updater does is told by the events of
its process, in an order that depends on the system. Every message about it also goes to the window, where the
update store listens. -/

namespace Klarity.ManageAppUpdate

open JsNumber (parseInt isWhitespace)
open Klarity.AppUpdateStore (UpdateInstallationStatus manageQuitAndInstallResponse)

variable {Buffer Err : Type}

/-! ## Messages -/

inductive Info
  | filePath (path : String)
  | lines (lines : List String)
  | text (text : String)
  deriving DecidableEq

/-- An exit code is `null` when a signal ended the process, and a progress is `NaN` when it is not a number;
    both are `none` inside. -/
structure Data (Err : Type) where
  message : String
  info : Option Info := none
  progress : Option (Option ℤ) := none
  code : Option (Option ℤ) := none
  error : Option Err := none

structure Response (Err : Type) where
  status : UpdateInstallationStatus
  message : String
  data : Data Err

def logPrefix : String := "appUpdateInstall"

def getMessage (functionPrefix message : String) : String :=
  let formattedMessage := logPrefix ++ ":" ++ functionPrefix
  if message = "" then formattedMessage else formattedMessage ++ ": " ++ message

/-- The response without what it does: it is sent to the window. The message of `data` is the formatted one. -/
def response (success : Option Bool) (functionPrefix messageText : String) (data : Data Err) : Response Err :=
  let status : UpdateInstallationStatus :=
    match success with
    | some true => .success
    | some false => .error
    | none => .progress
  let message := getMessage functionPrefix messageText
  { status := status, message := message, data := { data with message := message } }

/-! ## The output of the updater -/

/-- `parseInt((item * 100) / total, 10)`, for numbers below `2 ^ 46` and a quotient that is not so small that it
    is printed with an exponent. -/
def percent (item total : ℤ) : Option ℤ := if total = 0 then none else some ((item * 100).tdiv total)

def trim (l : List Char) : List Char := (l.dropWhile isWhitespace).reverse.dropWhile isWhitespace |>.reverse

/-- What is before the first occurrence of a marker and what is behind it. -/
def breakOn (marker : List Char) : List Char → Option (List Char × List Char)
  | [] => none
  | c :: l =>
      if marker.isPrefixOf (c :: l) then some ([], (c :: l).drop marker.length)
      else (breakOn marker l).map fun p => (c :: p.1, p.2)

def prog : List Char := "PROG ".toList

/-- `infoItem.split('PROG ')[1]`: what follows the first `PROG `, up to the second one. -/
def progressStr (infoItem : String) : Option (List Char) :=
  (breakOn prog infoItem.toList).map fun p => ((breakOn prog p.2).map Prod.fst).getD p.2

/-- The progress that a line tells, if it tells one. -/
def lineProgress (infoItem : String) : Option (Option ℤ) :=
  match progressStr infoItem with
  | none => none
  | some [] => none
  | some text =>
      let parts := (trim text).splitOn '/' |>.map String.ofList
      some (do percent (← parts[0]?.bind parseInt) (← parts[1]?.bind parseInt))

/-- `progressData.toString().split(/\n/)` -/
def infoOf (progressData : String) : List String := (progressData.toList.splitOn '\n').map String.ofList

def progressOf (info : List String) : Option ℤ :=
  info.foldl (fun prog infoItem => (lineProgress infoItem).getD prog) (some 0)

/-! ## The updater -/

/-- An installation of a file that was found to have the hash that was asked for. `success` and `settled` are
    the variable and the promise of `installUpdate()`. -/
structure Install (shasum : Buffer → String) (Err : Type) where
  filePath : String
  file : Buffer
  expectedHash : Option String
  verified : some (shasum file) = expectedHash
  success : Bool := true
  settled : Option (Except (Option (Response Err)) (Response Err)) := none

/-- How a request is answered: at once, or as an installation settles. -/
inductive Answer (Err : Type)
  | returned (response : Response Err)
  | installing (k : ℕ)

/-- `sent` are the messages to the window, `exits` the installations that Klarity exits for, `openOnQuit` the
    installers that are opened after it has quit. -/
structure State (shasum : Buffer → String) (Err : Type) where
  installs : List (Install shasum Err) := []
  sent : List (Response Err) := []
  exits : List ℕ := []
  openOnQuit : List String := []
  answers : List (Answer Err) := []

/-- The file of a request is what is at its path, if there is one. -/
inductive Event (Buffer Err : Type)
  | request (filePath : String) (expectedHash : Option String) (file : Option Buffer)
  | stdout (k : ℕ) (progressData : String)
  | stderr (k : ℕ) (progressData : String)
  | close (k : ℕ) (code : Option ℤ)
  | error (k : ℕ) (error : Err)
  | exit (k : ℕ) (code : Option ℤ)

section
variable {shasum : Buffer → String}

/-- A promise settles once. -/
def Install.settle (install : Install shasum Err) (outcome : Except (Option (Response Err)) (Response Err)) :
    Install shasum Err :=
  { install with settled := install.settled.or (some outcome) }

/-- `success = false`, and the promise is rejected with a response. -/
def Install.fail (install : Install shasum Err) (response : Response Err) : Install shasum Err :=
  { install with success := false }.settle (.error (some response))

namespace State

def send (s : State shasum Err) (response : Response Err) : State shasum Err :=
  { s with sent := s.sent ++ [response] }

def answer (s : State shasum Err) (answer : Answer Err) : State shasum Err :=
  { s with answers := s.answers ++ [answer] }

def update (s : State shasum Err) (k : ℕ) (f : Install shasum Err → Install shasum Err) : State shasum Err :=
  { s with installs := s.installs.modify k f }

/-- `reject(response(false, ...))` -/
def fail (s : State shasum Err) (k : ℕ) (response : Response Err) : State shasum Err :=
  (s.update k (·.fail response)).send response

end State

def progressResponse (data : Data Err) : Response Err :=
  response none "installUpdate" "installation progress." data

def closedResponse (code : Option ℤ) (verb text : String) : Response Err :=
  response (some false) "installUpdate" ("updater " ++ verb ++ " with code " ++ text) { message := "", code := some code }

/-- `${code}` -/
def codeText : Option ℤ → String
  | some code => toString code
  | none => "null"

def onClose (s : State shasum Err) (k : ℕ) (code : Option ℤ) : State shasum Err :=
  let failed := if code = some 0 then s else s.fail k (closedResponse code "closed" (codeText code))
  failed.send (progressResponse { message := "", info := some (.text "stdio closed") })

def onError (s : State shasum Err) (k : ℕ) (error : Err) : State shasum Err :=
  s.fail k (response (some false) "installUpdate" "installation failed" { message := "", error := some error })

def successResponse : Response Err := response (some true) "installUpdate" "" { message := "" }

/-- `success` is read after an exit code other than zero has made it false. -/
def onExit (s : State shasum Err) (k : ℕ) (install : Install shasum Err) (code : Option ℤ) : State shasum Err :=
  if code = some 0 then
    if install.success then
      { (s.send successResponse).update k (·.settle (.ok successResponse)) with exits := s.exits ++ [k] }
    else s.update k (·.settle (.error none))
  else (s.fail k (closedResponse code "exited" (codeText code))).update k (·.settle (.error none))

/-- `onRequest()` -/
def onRequest (isLinux : Bool) (s : State shasum Err) (filePath : String) (expectedHash : Option String)
    (file : Option Buffer) : State shasum Err :=
  match file with
  | none =>
      let notFound := response (some false) "onRequest" "Installer not found:"
        { message := "", info := some (.filePath filePath) }
      (s.send notFound).answer (.returned notFound)
  | some file =>
      if verified : some (shasum file) = expectedHash then
        if isLinux then
          let install : Install shasum Err :=
            { filePath := filePath, file := file, expectedHash := expectedHash, verified := verified }
          let begin := response none "installUpdate" "installation begin." { message := "" }
          { (s.send begin).answer (.installing s.installs.length) with installs := s.installs ++ [install] }
        else
          let quit := response (some true) "onRequest" "" { message := "" }
          { (s.send quit).answer (.returned quit) with openOnQuit := s.openOnQuit ++ [filePath] }
      else
        let mismatch := response (some false) "onRequest" "" { message := "" }
        (s.send mismatch).answer (.returned mismatch)

def stdoutResponse (progressData : String) : Response Err :=
  let info := infoOf progressData
  progressResponse { message := "", info := some (.lines info), progress := some (progressOf info) }

/-- An updater that was not started has no events. -/
def step (isLinux : Bool) (s : State shasum Err) : Event Buffer Err → Option (State shasum Err)
  | .request filePath expectedHash file => some (onRequest isLinux s filePath expectedHash file)
  | .stdout k progressData => s.installs[k]?.map fun _ => s.send (stdoutResponse progressData)
  | .stderr k progressData =>
      s.installs[k]?.map fun _ => s.send (progressResponse { message := "", info := some (.text progressData) })
  | .close k code => s.installs[k]?.map fun _ => onClose s k code
  | .error k error => s.installs[k]?.map fun _ => onError s k error
  | .exit k code => s.installs[k]?.map fun install => onExit s k install code

def machine (shasum : Buffer → String) (Err : Type) (isLinux : Bool) :
    Machine (State shasum Err) (Event Buffer Err) where
  init := {}
  step := step isLinux

end

end Klarity.ManageAppUpdate
