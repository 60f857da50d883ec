import Klarity.Renderer.Stores.AppUpdateStore

set_option autoImplicit false

/-! # What is installed was downloaded

`isUpdateDownloaded` says that some download has come to an end. Nothing takes it back when another update
is offered, and a pause sets it. The flag is about the update that is offered in the runs in which an
update is offered while the flag is off or its own download has completed, and in which a download is
reported complete while no other update is offered. -/

namespace Klarity.AppUpdateStore

variable {platform currentVersion : String} {semverLt : String → Option String → Option Bool}
  {s s' : State} {e : Event}

/-! ## What is promised -/

/-- The download of an update has completed. -/
def Completed (platform : String) (s : State) (update : News) : Prop :=
  ∃ url ∈ s.completed, (getUpdateInfo platform update).url = some url

/-- The installation is requested only of an update whose download has completed. -/
def InstallsCompleted (platform : String) (s : State) : Prop :=
  ∀ request, installRequest platform s = some request →
    ∃ update, s.availableUpdate = some update ∧ Completed platform s update

/-- An update that was not installed last and that is newer than the app. -/
def IsNew (platform currentVersion : String) (semverLt : String → Option String → Option Bool)
    (update : News) (completed : Option String) : Prop :=
  ¬ (completed.isSome ∧ completed = (getUpdateInfo platform update).version) ∧
    isUpdateInstalled platform currentVersion semverLt update = some false

/-- Every update offered is the one of the URL, or its download has completed before. -/
def OffersNoOther (platform : String) (s : State) (fileUrl : String) : Prop :=
  ∀ update, s.availableUpdate = some update →
    (getUpdateInfo platform update).url = some fileUrl ∨ Completed platform s update

/-- A new update is offered while `isUpdateDownloaded` is off or the download of this update has
    completed, and a download is reported complete while no other update is offered. -/
def DownloadsInTurn (platform currentVersion : String)
    (semverLt : String → Option String → Option Bool) (s : State) : Event → Prop
  | .resume i (.version completed) => ∀ update, s.tasks[i]? = some (.appUpdateCompleted update) →
      IsNew platform currentVersion semverLt update completed →
      s.isUpdateDownloaded = false ∨ Completed platform s update
  | .resume i (.flag true) => ∀ info data, s.tasks[i]? = some (.fileExists info data) →
      OffersNoOther platform s info.fileUrl
  | .download .ended info _ => OffersNoOther platform s info.fileUrl
  | _ => True

/-! ## The flag is about the update offered -/

def FlagOfOffered (platform : String) (s : State) : Prop :=
  s.isUpdateDownloaded = true → ∀ update, s.availableUpdate = some update →
    Completed platform s update

/-- The flag, the update offered and the completed downloads are left as they are. -/
structure SameDownload (s s' : State) : Prop where
  availableUpdate : s'.availableUpdate = s.availableUpdate
  isUpdateDownloaded : s'.isUpdateDownloaded = s.isUpdateDownloaded
  completed : s'.completed = s.completed

theorem FlagOfOffered.of_same (h : FlagOfOffered platform s) (hs : SameDownload s s') :
    FlagOfOffered platform s' := by
  unfold FlagOfOffered Completed
  rw [hs.availableUpdate, hs.isUpdateDownloaded, hs.completed]
  exact h

theorem SameDownload.refl (s : State) : SameDownload s s :=
  ⟨rfl, rfl, rfl⟩

theorem Completed.append {update : News} {urls : List String} (h : Completed platform s update)
    (hs : s'.completed = s.completed ++ urls) : Completed platform s' update := by
  obtain ⟨url, hmem, hurl⟩ := h
  exact ⟨url, hs ▸ List.mem_append_left _ hmem, hurl⟩

/-- A download that is reported complete was of the update offered. -/
theorem FlagOfOffered.of_completed {fileUrl : String} (hoffers : OffersNoOther platform s fileUrl)
    (havailable : s'.availableUpdate = s.availableUpdate)
    (hcompleted : s'.completed = s.completed ++ [fileUrl]) : FlagOfOffered platform s' := by
  intro _ update hupdate
  rcases hoffers update (havailable ▸ hupdate) with hurl | hdone
  · refine ⟨fileUrl, ?_, hurl⟩
    rw [hcompleted]
    exact List.mem_append_right _ List.mem_cons_self
  · exact hdone.append hcompleted

/-! ## Steps -/

theorem sameDownload_requestUpdateDownload (s : State) (update : News) :
    SameDownload s (requestUpdateDownload platform s update) := by
  unfold requestUpdateDownload
  split
  · exact .refl s
  · split <;> exact ⟨rfl, rfl, rfl⟩

theorem sameDownload_localDataRead (s : State) (update : News) (info : Option DownloadInfo)
    (data : Option DownloadData) : SameDownload s (localDataRead platform s update info data) := by
  unfold localDataRead
  split
  · split
    · exact ⟨rfl, rfl, rfl⟩
    · split <;> exact ⟨rfl, rfl, rfl⟩
  · exact ⟨rfl, rfl, rfl⟩

theorem sameDownload_installUpdate (s : State) : SameDownload s (installUpdate platform s) := by
  unfold installUpdate
  split
  · exact .refl s
  · exact ⟨rfl, rfl, rfl⟩

theorem sameDownload_manageQuitAndInstallResponse (s : State) (status : UpdateInstallationStatus)
    (progress : Option ℚ) : SameDownload s (manageQuitAndInstallResponse s status progress) := by
  unfold manageQuitAndInstallResponse
  cases status with
  | progress =>
      cases progress with
      | none => exact .refl s
      | some value =>
          show SameDownload s (if value = 0 then s else { s with installationProgress := value })
          split <;> exact ⟨rfl, rfl, rfl⟩
  | error => exact ⟨rfl, rfl, rfl⟩
  | success => exact .refl s

/-- A new update is offered, or nothing changes for the downloads. -/
theorem completedVersionRead_cases (s : State) (update : News) (completed : Option String) :
    SameDownload s (completedVersionRead platform currentVersion semverLt s update completed) ∨
    (IsNew platform currentVersion semverLt update completed ∧
      (completedVersionRead platform currentVersion semverLt s update completed).availableUpdate =
        some update ∧
      (completedVersionRead platform currentVersion semverLt s update completed).isUpdateDownloaded =
        s.isUpdateDownloaded ∧
      (completedVersionRead platform currentVersion semverLt s update completed).completed =
        s.completed) := by
  unfold completedVersionRead
  by_cases hcompleted :
      (completed.isSome && decide (completed = (getUpdateInfo platform update).version)) = true
  · left
    simp only [hcompleted, if_true]
    exact .refl s
  · simp only [hcompleted, Bool.false_eq_true, if_false]
    rcases hinstalled : isUpdateInstalled platform currentVersion semverLt update with _ | installed
    · exact .inl (.refl s)
    · cases installed with
      | true => exact .inl ⟨rfl, rfl, rfl⟩
      | false =>
          right
          refine ⟨⟨by simpa using hcompleted, hinstalled⟩, ?_⟩
          show (if s.isUpdateDownloading = true then _ else _ : State).availableUpdate = _ ∧ _
          split <;> exact ⟨rfl, rfl, rfl⟩

theorem FlagOfOffered.completedVersionRead (h : FlagOfOffered platform s) {update : News}
    {completed : Option String}
    (hturn : IsNew platform currentVersion semverLt update completed →
      s.isUpdateDownloaded = false ∨ Completed platform s update) :
    FlagOfOffered platform
      (completedVersionRead platform currentVersion semverLt s update completed) := by
  rcases completedVersionRead_cases s update completed with hsame | ⟨hnew, havailable, hflag, hdone⟩
  · exact h.of_same hsame
  · intro hdownloaded offered hoffered
    rw [hflag] at hdownloaded
    rw [havailable] at hoffered
    obtain rfl := Option.some.inj hoffered
    rcases hturn hnew with hoff | hcompleted
    · rw [hoff] at hdownloaded
      cases hdownloaded
    · obtain ⟨url, hmem, hurl⟩ := hcompleted
      exact ⟨url, hdone ▸ hmem, hurl⟩

theorem FlagOfOffered.manageUpdateResponse (h : FlagOfOffered platform s) {info : DownloadInfo}
    (data : DownloadData) {eventType : DownloadEventType}
    (hturn : eventType = .ended → OffersNoOther platform s info.fileUrl) :
    FlagOfOffered platform (manageUpdateResponse s eventType info data) := by
  cases eventType with
  | ended => exact .of_completed (hturn rfl) rfl rfl
  | pause => exact fun _ _ hoffered => nomatch hoffered
  | _ => exact h.of_same ⟨rfl, rfl, rfl⟩

theorem FlagOfOffered.resume {phase : Phase} {answer : Answer} (h : FlagOfOffered platform s)
    (hversion : ∀ update completed, phase = .appUpdateCompleted update → answer = .version completed →
      IsNew platform currentVersion semverLt update completed →
      s.isUpdateDownloaded = false ∨ Completed platform s update)
    (hexists : ∀ info data, phase = .fileExists info data → answer = .flag true →
      OffersNoOther platform s info.fileUrl)
    (hs : resume platform currentVersion semverLt s phase answer = some s') :
    FlagOfOffered platform s' := by
  cases phase with
  | appUpdateCompleted update =>
      cases answer with
      | version completed =>
          obtain rfl := Option.some.inj hs
          exact h.completedVersionRead (hversion update completed rfl rfl)
      | failed =>
          obtain rfl := Option.some.inj hs
          exact h
      | _ => cases hs
  | appAutomaticUpdateFailed update =>
      cases answer with
      | flag failed =>
          obtain rfl := Option.some.inj hs
          split <;> exact h.of_same ⟨rfl, rfl, rfl⟩
      | failed =>
          obtain rfl := Option.some.inj hs
          exact h
      | _ => cases hs
  | downloadLocalData update =>
      cases answer with
      | localData info data =>
          obtain rfl := Option.some.inj hs
          exact h.of_same (sameDownload_localDataRead s update info data)
      | failed =>
          obtain rfl := Option.some.inj hs
          exact h
      | _ => cases hs
  | localDataCleared update =>
      cases answer with
      | done =>
          obtain rfl := Option.some.inj hs
          exact h.of_same (sameDownload_requestUpdateDownload s update)
      | failed =>
          obtain rfl := Option.some.inj hs
          exact h
      | _ => cases hs
  | fileExists info data =>
      cases answer with
      | flag fileExists =>
          obtain rfl := Option.some.inj hs
          cases fileExists with
          | true => exact .of_completed (hexists info data rfl rfl) rfl rfl
          | false => exact h.of_same ⟨rfl, rfl, rfl⟩
      | failed =>
          obtain rfl := Option.some.inj hs
          exact h
      | _ => cases hs
  | _ => cases answer <;> cases hs <;> exact h.of_same ⟨rfl, rfl, rfl⟩

theorem FlagOfOffered.step (h : FlagOfOffered platform s)
    (hturn : DownloadsInTurn platform currentVersion semverLt s e)
    (hs : step platform currentVersion semverLt s e = some s') : FlagOfOffered platform s' := by
  cases e with
  | newsfeedUpdate update =>
      obtain rfl := Option.some.inj hs
      exact h.of_same ⟨rfl, rfl, rfl⟩
  | resume i answer =>
      obtain ⟨phase, hi, hs⟩ := Option.bind_eq_some_iff.1 hs
      have herased : FlagOfOffered platform { s with tasks := s.tasks.eraseIdx i } :=
        h.of_same ⟨rfl, rfl, rfl⟩
      refine herased.resume ?_ ?_ hs
      · rintro update completed rfl rfl
        exact hturn update hi
      · rintro info data rfl rfl
        exact hturn info data hi
  | download eventType info data =>
      obtain rfl := Option.some.inj hs
      refine h.manageUpdateResponse data ?_
      rintro rfl
      exact hturn
  | installUpdate =>
      obtain rfl := Option.some.inj hs
      exact h.of_same (sameDownload_installUpdate s)
  | quitAndInstallResponse status progress =>
      obtain rfl := Option.some.inj hs
      exact h.of_same (sameDownload_manageQuitAndInstallResponse s status progress)
  | _ =>
      obtain rfl := Option.some.inj hs
      exact h.of_same ⟨rfl, rfl, rfl⟩

theorem installRequest_eq_some {request : Message} (h : installRequest platform s = some request) :
    ∃ update, s.availableUpdate = some update ∧ s.isUpdateDownloaded = true := by
  unfold installRequest at h
  split at h
  · next update info hupdate hinfo =>
      split at h
      · cases h
      · next hflags => exact ⟨update, hupdate, by simp_all⟩
  · cases h

/-- A release of the update for one platform. -/
def release (version : String) : News :=
  ⟨[("linux", ⟨some version, some ("hash of " ++ version), some ("update/" ++ version)⟩)]⟩

def newer (current : String) (version : Option String) : Option Bool :=
  some (decide (version ≠ some current))

def downloadOf (version : String) : DownloadInfo :=
  ⟨"update/" ++ version, "Downloads", version⟩

/-- The update is offered, and its download starts, goes on and ends. -/
def firstUpdate : List Event :=
  [.newsfeedUpdate (release "4.1.0"), .resume 0 (.version none), .resume 0 (.flag false),
    .resume 0 (.localData none none), .resume 0 .done,
    .download .start (downloadOf "4.1.0") ⟨.idle, 0⟩,
    .download .progress (downloadOf "4.1.0") ⟨.downloading, 100⟩,
    .download .ended (downloadOf "4.1.0") ⟨.finished, 100⟩]

/-- A second update is offered before the first one is installed. -/
def secondUpdate : List Event :=
  firstUpdate ++ [.newsfeedUpdate (release "4.2.0"), .resume 0 (.version none)]

end Klarity.AppUpdateStore
