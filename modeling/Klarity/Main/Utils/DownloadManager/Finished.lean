import Klarity.Library.Lists
import Klarity.Main.Utils.DownloadManager

set_option autoImplicit false

/-! # A finished download stays finished

Nothing keeps the handlers of one download apart: one that writes after another overwrites what it did not
read, and a progress handler arms the timer after its await, whether the download has ended or not. The
record is kept in the runs in which a handler writes over what it read, the downloader reports nothing
after its end, the timer is armed once and before the end, and no error is still on its way when `END` is
sent. -/

namespace Klarity.DownloadManager

variable {Info : Type} {info : Info} {persistLocalData : Bool} {s s' : State Info} {e : Event}

/-! ## What is promised -/

def sentTypes (s : State Info) : List DownloadEventType :=
  s.sent.map (·.eventType)

/-- `END` has been handled. -/
def HasEnded (s : State Info) : Prop :=
  .ended ∈ sentTypes s

def NoErrorAfterEnd (s : State Info) : Prop :=
  (sentTypes s).Pairwise fun earlier later => earlier = .ended → later ≠ .error

def IsFinished (s : State Info) : Prop :=
  ∀ record, s.stored = some record → record.data.state = .finished

/-- When all handlers have run, no figure that was reported is above the one stored. -/
def FiguresKept (s : State Info) : Prop :=
  s.tasks = [] → ∀ record, s.stored = some record → ∀ update ∈ s.reported, record.data.Covers update

structure StaysFinished (s : State Info) : Prop where
  noErrorAfterEnd : NoErrorAfterEnd s
  isFinished : HasEnded s → IsFinished s
  figuresKept : FiguresKept s

def Phase.isError : Phase Info → Bool
  | .read (.errorEvent _) _ _ | .written (.errorEvent _) _ => true
  | _ => false

/-- The downloader reports nothing after its end, and a handler that goes on finds the record that it
    read, arms the timer while the download goes on and no other timer is armed, and sends `END` when no
    error is on its way. -/
def InTurn (s : State Info) : Event → Prop
  | .download _ _ | .progress _ _ _ _ | .ended _ _ _ | .pause | .error _ => s.isRegistered = true
  | .resume i => ∀ phase, s.tasks[i]? = some phase →
      match phase with
      | .read _ _ old => s.stored = old
      | .written (.progressEvent progress) _ => progress = 100 →
          s.isRegistered = true ∧ s.timers = []
      | .written .endEvent _ => s.temporaryFile = true → ∀ task ∈ s.tasks, task.isError = false
      | _ => True
  | _ => True

/-! ## The invariant -/

/-- The handler of the end has written the record. -/
def Phase.hasEnded : Phase Info → Bool
  | .written .endEvent _ | .unsetRead | .unsetWritten => true
  | _ => false

def IsUnfinished (stored : Option (LocalData Info)) : Prop :=
  ∃ record, stored = some record ∧ record.data.state ≠ .finished

/-- A handler read a record that was not finished; only the end of the download finishes it. -/
structure ReadsUnfinished (isRegistered : Bool) (handler : Handler) (update : DownloadDataUpdate)
    (old : Option (LocalData Info)) : Prop where
  old : IsUnfinished old
  finishes : update.state = .finished → handler = .endEvent
  ends : handler = .endEvent → update.state = .finished ∧ isRegistered = false

structure Invariant (s : State Info) : Prop where
  timers : ∀ timer ∈ s.timers, s.checkNoEndEvent = some timer
  cleared : s.isRegistered = false → s.timers = []
  reads : ∀ handler update old, .read handler update old ∈ s.tasks →
    ReadsUnfinished s.isRegistered handler update old
  unfinished : s.isRegistered = true → IsUnfinished s.stored
  ends : ∀ task ∈ s.tasks, task.hasEnded = true → IsFinished s
  ended : HasEnded s → s.isRegistered = false ∧ IsFinished s ∧ ∀ task ∈ s.tasks, task.isError = false
  noErrorAfterEnd : NoErrorAfterEnd s
  complete : ∀ record, s.stored = some record → record.data.Complete
  covered : ∀ update ∈ s.reported, (∃ handler old, .read handler update old ∈ s.tasks) ∨
    ∀ record, s.stored = some record → record.data.Covers update

theorem invariant_init : Invariant (machine info persistLocalData).init where
  timers _ h := absurd h List.not_mem_nil
  cleared _ := rfl
  reads _ _ _ h := absurd h List.not_mem_nil
  unfinished _ := ⟨_, rfl, fun h => nomatch h⟩
  ends _ h := absurd h List.not_mem_nil
  ended h := absurd h List.not_mem_nil
  noErrorAfterEnd := List.Pairwise.nil
  complete record h := by
    obtain rfl := Option.some.inj h
    exact DownloadData.complete_default
  covered _ h := absurd h List.not_mem_nil

theorem IsUnfinished.not_isFinished (h : IsUnfinished s.stored) : ¬ IsFinished s := by
  obtain ⟨record, hrecord, hstate⟩ := h
  exact fun hfinished => hstate (hfinished record hrecord)

theorem Invariant.not_hasEnded (h : Invariant s) (hregistered : s.isRegistered = true) :
    ¬ HasEnded s := by
  intro hended
  rw [(h.ended hended).1] at hregistered
  cases hregistered

/-! ## Messages -/

theorem sentTypes_send (s : State Info) (eventType : DownloadEventType) (data : DownloadData)
    (error : Option String) : sentTypes (s.send eventType data error) = sentTypes s ++ [eventType] := by
  simp [sentTypes, State.send]

theorem Invariant.send (h : Invariant s) {eventType : DownloadEventType} {data : DownloadData}
    {error : Option String} (herror : eventType = .error → ¬ HasEnded s)
    (hended : eventType = .ended →
      s.isRegistered = false ∧ IsFinished s ∧ ∀ task ∈ s.tasks, task.isError = false) :
    Invariant (s.send eventType data error) where
  timers := h.timers
  cleared := h.cleared
  reads := h.reads
  unfinished := h.unfinished
  ends := h.ends
  ended hsent := by
    unfold HasEnded at hsent
    rw [sentTypes_send] at hsent
    rcases List.mem_append.1 hsent with hsent | hsent
    · exact h.ended hsent
    · exact hended (List.mem_singleton.1 hsent).symm
  noErrorAfterEnd := by
    unfold NoErrorAfterEnd
    rw [sentTypes_send, List.pairwise_append]
    refine ⟨h.noErrorAfterEnd, List.pairwise_singleton _ _, ?_⟩
    rintro earlier hearlier later hlater rfl rfl
    exact herror (List.mem_singleton.1 hlater).symm hearlier
  complete := h.complete
  covered := h.covered

/-! ## Handlers that are called -/

theorem Invariant.setData (h : Invariant s) {handler : Handler} {update : DownloadDataUpdate}
    (hstored : IsUnfinished s.stored) (hended : ¬ HasEnded s)
    (hfinishes : update.state = .finished → handler = .endEvent)
    (hends : handler = .endEvent → update.state = .finished ∧ s.isRegistered = false) :
    Invariant (setData s handler update) where
  timers := h.timers
  cleared := h.cleared
  reads _ _ _ hmem := by
    rcases List.mem_append.1 hmem with hmem | hmem
    · exact h.reads _ _ _ hmem
    · obtain ⟨rfl, rfl, rfl⟩ := Phase.read.inj (List.mem_singleton.1 hmem)
      exact ⟨hstored, hfinishes, hends⟩
  unfinished := h.unfinished
  ends task hmem hphase := by
    rcases List.mem_append.1 hmem with hmem | hmem
    · exact h.ends task hmem hphase
    · obtain rfl := List.mem_singleton.1 hmem
      cases hphase
  ended hsent := absurd hsent hended
  noErrorAfterEnd := h.noErrorAfterEnd
  complete := h.complete
  covered reported hmem := by
    rcases List.mem_append.1 hmem with hmem | hmem
    · rcases h.covered reported hmem with ⟨handler, old, hread⟩ | hcovers
      · exact .inl ⟨handler, old, List.mem_append_left _ hread⟩
      · exact .inr hcovers
    · obtain rfl := List.mem_singleton.1 hmem
      exact .inl ⟨handler, s.stored, List.mem_append_right _ List.mem_cons_self⟩

/-- The handlers that do not end the download. -/
theorem Invariant.setData_of_isRegistered (h : Invariant s) (hregistered : s.isRegistered = true)
    {handler : Handler} {update : DownloadDataUpdate} (hstate : update.state ≠ .finished)
    (hhandler : handler ≠ .endEvent) : Invariant (DownloadManager.setData s handler update) :=
  h.setData (h.unfinished hregistered) (h.not_hasEnded hregistered) (fun hfinished => absurd hfinished hstate)
    fun hend => absurd hend hhandler

theorem Invariant.endEvent (h : Invariant s) (hregistered : s.isRegistered = true)
    (totalSize onDiskSize : ℚ) (incomplete : Bool) :
    Invariant (DownloadManager.endEvent s totalSize onDiskSize incomplete) := by
  have hended : ¬ HasEnded s := h.not_hasEnded hregistered
  have hcleared : (s.timers.filter fun timer => s.checkNoEndEvent ≠ some timer) = [] := by
    rw [List.filter_eq_nil_iff]
    intro timer hmem
    simp [h.timers timer hmem]
  have hinv : Invariant
      { s with
        timers := s.timers.filter fun timer => s.checkNoEndEvent ≠ some timer
        isRegistered := false } :=
    { h with
      timers := fun timer hmem => h.timers timer (List.mem_of_mem_filter hmem)
      cleared := fun _ => hcleared
      reads := fun handler update old hmem =>
        have hread := h.reads handler update old hmem
        ⟨hread.old, hread.finishes, fun hend => ⟨(hread.ends hend).1, rfl⟩⟩
      unfinished := fun hoff => nomatch hoff
      ended := fun hsent => absurd hsent hended }
  exact hinv.setData (h.unfinished hregistered) hended (fun _ => rfl) fun _ => ⟨rfl, rfl⟩

/-! ## Handlers that go on -/

theorem Invariant.erase (h : Invariant s) {i : ℕ} {phase : Phase Info} (hi : s.tasks[i]? = some phase)
    (hphase : ∀ handler update old, phase ≠ .read handler update old) :
    Invariant { s with tasks := s.tasks.eraseIdx i } where
  timers := h.timers
  cleared := h.cleared
  reads _ _ _ hmem := h.reads _ _ _ (List.mem_of_mem_eraseIdx hmem)
  unfinished := h.unfinished
  ends task hmem := h.ends task (List.mem_of_mem_eraseIdx hmem)
  ended hsent :=
    have hended := h.ended hsent
    ⟨hended.1, hended.2.1, fun task hmem => hended.2.2 task (List.mem_of_mem_eraseIdx hmem)⟩
  noErrorAfterEnd := h.noErrorAfterEnd
  complete := h.complete
  covered update hmem := by
    rcases h.covered update hmem with ⟨handler, old, hread⟩ | hcovers
    · exact .inl ⟨handler, old, List.mem_eraseIdx_of_ne hi hread (hphase handler update old).symm⟩
    · exact .inr hcovers

/-- A handler writes over the record that it read: what was covered stays covered, and the handler of the
    end is the only one that finishes it. -/
theorem Invariant.write (h : Invariant s) {i : ℕ} {handler : Handler} {update : DownloadDataUpdate}
    {record : LocalData Info} (hi : s.tasks[i]? = some (.read handler update (some record)))
    (hstored : s.stored = some record) :
    Invariant (resume persistLocalData { s with tasks := s.tasks.eraseIdx i }
      (.read handler update (some record))) := by
  have hread := h.reads _ _ _ (List.mem_of_getElem? hi)
  have hunfinished : IsUnfinished s.stored := hstored ▸ hread.old
  have hnot : ¬ IsFinished s := hunfinished.not_isFinished
  have hended : ¬ HasEnded s := fun hended => hnot (h.ended hended).2.1
  have hcomplete : record.data.Complete := h.complete record hstored
  refine ⟨h.timers, h.cleared, ?_, ?_, ?_, fun hsent => absurd hsent hended, h.noErrorAfterEnd, ?_, ?_⟩
  · intro handler update old hmem
    rcases List.mem_append.1 hmem with hmem | hmem
    · exact h.reads _ _ _ (List.mem_of_mem_eraseIdx hmem)
    · cases List.mem_singleton.1 hmem
  · intro hregistered
    refine ⟨_, rfl, fun hfinished => ?_⟩
    have hoff := (hread.ends (hread.finishes hfinished)).2
    rw [show s.isRegistered = true from hregistered] at hoff
    cases hoff
  · intro task hmem hphase written hwritten
    rcases List.mem_append.1 hmem with hmem | hmem
    · exact absurd (h.ends task (List.mem_of_mem_eraseIdx hmem) hphase) hnot
    · obtain rfl := List.mem_singleton.1 hmem
      obtain rfl := Option.some.inj hwritten
      cases handler with
      | endEvent => exact (hread.ends rfl).1
      | _ => cases hphase
  · intro written hwritten
    obtain rfl := Option.some.inj hwritten
    exact hcomplete.mergeWith update
  · intro reported hmem
    have hcovered : (∃ handler old, .read handler reported old ∈ s.tasks.eraseIdx i) ∨
        reported = update ∨ record.data.Covers reported := by
      rcases h.covered reported hmem with ⟨handler', old, hother⟩ | hcovers
      · by_cases heq : Phase.read handler' reported old = .read handler update (some record)
        · exact .inr (.inl (Phase.read.inj heq).2.1)
        · exact .inl ⟨handler', old, List.mem_eraseIdx_of_ne hi hother heq⟩
      · exact .inr (.inr (hcovers record hstored))
    rcases hcovered with ⟨handler', old, hother⟩ | rfl | hcovers
    · exact .inl ⟨handler', old, List.mem_append_left _ hother⟩
    · refine .inr fun written hwritten => ?_
      obtain rfl := Option.some.inj hwritten
      exact DownloadData.mergeWith_covers hcomplete reported
    · refine .inr fun written hwritten => ?_
      obtain rfl := Option.some.inj hwritten
      exact hcovers.mergeWith update

/-- A phase in which no update is held and no error is on its way. -/
theorem Invariant.await (h : Invariant s) {phase : Phase Info}
    (hread : ∀ handler update old, phase ≠ .read handler update old) (herror : phase.isError = false)
    (hends : phase.hasEnded = true → IsFinished s) : Invariant (s.await phase) where
  timers := h.timers
  cleared := h.cleared
  reads handler update old hmem := by
    rcases List.mem_append.1 hmem with hmem | hmem
    · exact h.reads _ _ _ hmem
    · exact absurd (List.mem_singleton.1 hmem).symm (hread handler update old)
  unfinished := h.unfinished
  ends task hmem hphase := by
    rcases List.mem_append.1 hmem with hmem | hmem
    · exact h.ends task hmem hphase
    · obtain rfl := List.mem_singleton.1 hmem
      exact hends hphase
  ended hsent := by
    obtain ⟨hoff, hfinished, herrors⟩ := h.ended hsent
    refine ⟨hoff, hfinished, fun task hmem => ?_⟩
    rcases List.mem_append.1 hmem with hmem | hmem
    · exact herrors task hmem
    · obtain rfl := List.mem_singleton.1 hmem
      exact herror
  noErrorAfterEnd := h.noErrorAfterEnd
  complete := h.complete
  covered update hmem := by
    rcases h.covered update hmem with ⟨handler, old, hother⟩ | hcovers
    · exact .inl ⟨handler, old, List.mem_append_left _ hother⟩
    · exact .inr hcovers

theorem Invariant.armCheckNoEndEvent (h : Invariant s) (hregistered : s.isRegistered = true)
    (htimers : s.timers = []) : Invariant (DownloadManager.armCheckNoEndEvent s) where
  timers timer hmem := by
    rcases List.mem_append.1 hmem with hmem | hmem
    · exact absurd (htimers ▸ hmem) List.not_mem_nil
    · exact congrArg some (List.mem_singleton.1 hmem).symm
  cleared hoff := by
    rw [show s.isRegistered = false from hoff] at hregistered
    cases hregistered
  reads := h.reads
  unfinished := h.unfinished
  ends := h.ends
  ended := h.ended
  noErrorAfterEnd := h.noErrorAfterEnd
  complete := h.complete
  covered := h.covered

theorem Invariant.renameFile (h : Invariant s) (data : DownloadData) (hoff : s.isRegistered = false)
    (hfinished : IsFinished s)
    (herrors : s.temporaryFile = true → ∀ task ∈ s.tasks, task.isError = false) :
    Invariant (DownloadManager.renameFile persistLocalData s data) := by
  unfold DownloadManager.renameFile
  split
  · next htemporary =>
      have hrenamed : Invariant { s with temporaryFile := false, newFile := true } :=
        ⟨h.timers, h.cleared, h.reads, h.unfinished, h.ends, h.ended, h.noErrorAfterEnd, h.complete,
          h.covered⟩
      have hsent : Invariant
          ({ s with temporaryFile := false, newFile := true }.send .ended data none) :=
        hrenamed.send (fun herror => nomatch herror) fun _ => ⟨hoff, hfinished, herrors htemporary⟩
      split
      · exact hsent
      · exact hsent.await (fun _ _ _ hread => nomatch hread) rfl fun _ => hfinished
  · exact h

theorem Invariant.unset (h : Invariant s) (hfinished : IsFinished s) :
    Invariant { s with stored := none } where
  timers := h.timers
  cleared := h.cleared
  reads := h.reads
  unfinished hregistered := absurd hfinished (h.unfinished hregistered).not_isFinished
  ends _ _ _ _ hstored := nomatch hstored
  ended hsent :=
    have hended := h.ended hsent
    ⟨hended.1, fun _ hstored => (nomatch hstored), hended.2.2⟩
  noErrorAfterEnd := h.noErrorAfterEnd
  complete _ hstored := nomatch hstored
  covered _ _ := .inr fun _ hstored => nomatch hstored

/-! ## Steps -/

/-- The record is finished and no longer registered once the handler of the end has written it. -/
theorem Invariant.ended_of_task (h : Invariant s) {task : Phase Info} (hmem : task ∈ s.tasks)
    (hends : task.hasEnded = true) : s.isRegistered = false ∧ IsFinished s := by
  have hfinished := h.ends task hmem hends
  refine ⟨?_, hfinished⟩
  rw [← Bool.not_eq_true]
  exact fun hregistered => (h.unfinished hregistered).not_isFinished hfinished

theorem Invariant.resume (h : Invariant s) {i : ℕ} {phase : Phase Info} (hi : s.tasks[i]? = some phase)
    (hturn : InTurn s (.resume i)) :
    Invariant (DownloadManager.resume persistLocalData { s with tasks := s.tasks.eraseIdx i } phase) := by
  have hmem := List.mem_of_getElem? hi
  cases phase with
  | read handler update old =>
      have hstored : s.stored = old := hturn _ hi
      obtain ⟨record, rfl, _⟩ := (h.reads _ _ _ hmem).old
      exact h.write hi hstored
  | written handler data =>
      have herased := h.erase hi fun _ _ _ hread => nomatch hread
      cases handler with
      | downloadEvent => exact herased.send (fun herror => nomatch herror) fun hended => nomatch hended
      | progressEvent progress =>
          have hsent : Invariant
              ({ s with tasks := s.tasks.eraseIdx i }.send .progress data none) :=
            herased.send (fun herror => nomatch herror) fun hended => nomatch hended
          show Invariant (if progress = 100 then DownloadManager.armCheckNoEndEvent _ else _)
          split
          · next hprogress =>
              have harmed := hturn _ hi hprogress
              exact hsent.armCheckNoEndEvent harmed.1 harmed.2
          · exact hsent
      | endEvent =>
          obtain ⟨hoff, hfinished⟩ := h.ended_of_task hmem rfl
          exact herased.renameFile data hoff hfinished fun htemporary task htask =>
            hturn _ hi htemporary task (List.mem_of_mem_eraseIdx htask)
      | pauseEvent => exact herased.send (fun herror => nomatch herror) fun hended => nomatch hended
      | errorEvent message =>
          refine herased.send (fun _ hended => ?_) fun hended => nomatch hended
          exact absurd ((h.ended hended).2.2 _ hmem) (by simp [Phase.isError])
  | unsetRead =>
      have herased := h.erase hi fun _ _ _ hread => nomatch hread
      obtain ⟨_, hfinished⟩ := h.ended_of_task hmem rfl
      exact (herased.unset hfinished).await (fun _ _ _ hread => nomatch hread) rfl
        fun _ _ hstored => nomatch hstored
  | unsetWritten => exact h.erase hi fun _ _ _ hread => nomatch hread

theorem Invariant.checkNoEndEventFires (h : Invariant s) {timer : ℕ} (hmem : timer ∈ s.timers) :
    Invariant (DownloadManager.checkNoEndEventFires s timer) := by
  have hregistered : s.isRegistered = true := by
    rw [← Bool.not_eq_false]
    intro hoff
    rw [h.cleared hoff] at hmem
    cases hmem
  have hfired : Invariant { s with timers := s.timers.erase timer } :=
    ⟨fun other hother => h.timers other (List.mem_of_mem_erase hother),
      fun hoff => by rw [h.cleared hoff, List.erase_nil],
      h.reads, h.unfinished, h.ends, h.ended, h.noErrorAfterEnd, h.complete, h.covered⟩
  unfold DownloadManager.checkNoEndEventFires
  split
  · exact hfired.setData_of_isRegistered hregistered (fun hstate => nomatch hstate) fun hend => nomatch hend
  · exact hfired

theorem Invariant.step (h : Invariant s) (hturn : InTurn s e)
    (hs : step persistLocalData s e = some s') : Invariant s' := by
  cases e with
  | start =>
      obtain rfl := Option.some.inj hs
      exact h.send (fun herror => nomatch herror) fun hended => nomatch hended
  | download totalSize downloadedSize =>
      obtain rfl := Option.some.inj hs
      have hsize : Invariant { s with serverFileSize := some totalSize } :=
        ⟨h.timers, h.cleared, h.reads, h.unfinished, h.ends, h.ended, h.noErrorAfterEnd, h.complete,
          h.covered⟩
      exact hsize.setData_of_isRegistered hturn (fun hstate => nomatch hstate) fun hend => nomatch hend
  | progress total downloaded progress speed =>
      obtain rfl := Option.some.inj hs
      exact h.setData_of_isRegistered hturn (fun hstate => nomatch hstate) fun hend => nomatch hend
  | ended totalSize onDiskSize incomplete =>
      obtain rfl := Option.some.inj hs
      exact h.endEvent hturn totalSize onDiskSize incomplete
  | pause =>
      obtain rfl := Option.some.inj hs
      exact h.setData_of_isRegistered hturn (fun hstate => nomatch hstate) fun hend => nomatch hend
  | error message =>
      obtain rfl := Option.some.inj hs
      exact h.setData_of_isRegistered hturn (fun hstate => nomatch hstate) fun hend => nomatch hend
  | resume i =>
      obtain ⟨phase, hi, rfl⟩ := Option.map_eq_some_iff.1 hs
      exact h.resume hi hturn
  | timer timer =>
      obtain ⟨hmem, hs⟩ := Option.ite_none_right_eq_some.1 hs
      obtain rfl := Option.some.inj hs
      exact h.checkNoEndEventFires hmem
  | files temporaryFile newFile =>
      obtain rfl := Option.some.inj hs
      exact ⟨h.timers, h.cleared, h.reads, h.unfinished, h.ends, h.ended, h.noErrorAfterEnd, h.complete,
        h.covered⟩

/-- **A finished download stays finished**, in every run in which the downloader reports nothing after its
    end, every handler writes over the record that it read, the timer is armed once and before the end, and
    no error is on its way when `END` is sent. -/
theorem staysFinished_of_inTurn (hr : (machine info persistLocalData).Reaches InTurn s) :
    StaysFinished s := by
  have hinv : Invariant s := hr.invariant invariant_init fun _ _ _ _ hok h hs => h.step hok hs
  refine ⟨hinv.noErrorAfterEnd, fun hended => (hinv.ended hended).2.1, ?_⟩
  intro hdone record hstored update hmem
  rcases hinv.covered update hmem with ⟨handler, old, hread⟩ | hcovers
  · rw [hdone] at hread
    cases hread
  · exact hcovers record hstored

/-- A download that goes on event by event, with the record kept at its end. -/
def wholeDownload : List Event :=
  [.start, .download 10 0, .resume 0, .resume 0, .progress 10 5 50 1, .resume 0, .resume 0,
    .progress 10 10 100 1, .resume 0, .resume 0, .ended 10 10 false, .resume 0, .resume 0]

theorem staysFinished_of_wholeDownload :
    ∃ s, (machine "update" true).Reaches InTurn s ∧ HasEnded s ∧ s.tasks = [] ∧ StaysFinished s := by
  have hsteps : (machine "update" true).allSteps InTurn (machine "update" true).init wholeDownload := by
    refine ⟨trivial, rfl, ?_, ?_, rfl, ?_, ?_, rfl, ?_, ?_, rfl, ?_, ?_, trivial⟩
    · exact fun _ hi => Option.some.inj hi ▸ rfl
    · exact fun _ hi => Option.some.inj hi ▸ trivial
    · exact fun _ hi => Option.some.inj hi ▸ rfl
    · exact fun _ hi => Option.some.inj hi ▸ fun h => absurd h (by decide)
    · exact fun _ hi => Option.some.inj hi ▸ rfl
    · exact fun _ hi => Option.some.inj hi ▸ fun _ => ⟨rfl, rfl⟩
    · exact fun _ hi => Option.some.inj hi ▸ rfl
    · exact fun _ hi => Option.some.inj hi ▸ fun _ => by decide
  have hr : (machine "update" true).Reaches InTurn _ := .exec wholeDownload .init hsteps rfl
  exact ⟨_, hr, List.mem_of_getElem? (i := 4) rfl, rfl, staysFinished_of_inTurn hr⟩

/-- The last chunk and the end are reported at once: the handler of the progress goes on after the end. -/
def lastChunk : List Event :=
  [.progress 10 10 100 1, .ended 10 10 false, .resume 0, .resume 0, .resume 0, .resume 0, .timer 0,
    .resume 0, .resume 0]

theorem not_staysFinished_of_lastChunk :
    ¬ ∀ s, (machine "update" true).Reaches Machine.anyStep s → StaysFinished s := by
  intro h
  have hr : (machine "update" true).Reaches Machine.anyStep _ := Machine.reaches_of_exec lastChunk rfl
  have hsent : [DownloadEventType.progress, .ended, .error].Pairwise
      fun earlier later => earlier = .ended → later ≠ .error := (h _ hr).noErrorAfterEnd
  exact absurd hsent (by decide)

end Klarity.DownloadManager
