import Klarity.Library.Lists
import Klarity.Main.Ipc.DownloadManagerChannel

set_option autoImplicit false

/-! # One downloader for each registered download

`downloads` is read before the await of `requestDownload()` and written after it, and only the end of a
download takes it out again. It holds the active downloads in the runs in which no two requests for one id
are between the two, and no download fails. -/

namespace Klarity.DownloadManagerChannel

variable {s s' : State} {e : Event}

/-! ## What is promised -/

def Active (s : State) (id : String) (downloader : ℕ) : Prop :=
  ∃ d, s.downloaders[downloader]? = some d ∧ d.id = id ∧ d.isActive = true

def HasFailed (s : State) (id : String) : Prop :=
  ∃ d ∈ s.downloaders, d.id = id ∧ d.status = .failed

/-- The registered downloads are those with exactly one active downloader, none has two, and a download
    that has failed can be requested again. -/
structure RegistryKept (s : State) : Prop where
  registered : ∀ id, (s.downloads id).isSome ↔ ∃! k, Active s id k
  onlyOne : ∀ id j k, Active s id j → Active s id k → j = k
  accepted : ∀ payload, HasFailed s (downloadId payload) →
    (∀ k, ¬ Active s (downloadId payload) k) →
    requestDownload s payload = s.await (.eventActions payload)

/-- No request for the id is between its check and its registration. -/
def NoneSuspended (s : State) (id : String) : Prop :=
  ∀ payload, .eventActions payload ∈ s.tasks → downloadId payload ≠ id

/-- A download is requested while no other request for its id is suspended before its registration, and
    no download fails. -/
def InTurn (s : State) : Event → Prop
  | .requestDownload payload => NoneSuspended s (downloadId payload)
  | .resume i (.localData (some info)) => s.tasks[i]? = some .resumeLocalData →
      info.downloadId ≠ "" → info.filePath info.temporaryFilename ∈ s.files →
      NoneSuspended s (downloadId (resumePayload info true))
  | .resume i .done => ∀ payload, s.tasks[i]? = some (.unset payload) →
      NoneSuspended s (downloadId payload)
  | .totalSize _ answered => answered = true
  | .error _ => False
  | _ => True

/-! ## The invariant -/

/-- The id of a request that has passed the check and is not registered yet. -/
def Phase.pendingId : Phase → Option String
  | .eventActions payload => some (downloadId payload)
  | _ => none

structure Invariant (s : State) : Prop where
  active : ∀ id k, Active s id k → s.downloads id = some k
  registered : ∀ id k, s.downloads id = some k → Active s id k
  pending : ∀ id, id ∈ s.tasks.filterMap Phase.pendingId → s.downloads id = none
  distinct : (s.tasks.filterMap Phase.pendingId).Nodup

theorem invariant_init : Invariant machine.init where
  active _ _ := fun ⟨_, hd, _⟩ => by simp [machine] at hd
  registered _ _ h := nomatch h
  pending _ h := absurd h List.not_mem_nil
  distinct := List.nodup_nil

theorem noneSuspended_iff {id : String} :
    NoneSuspended s id ↔ id ∉ s.tasks.filterMap Phase.pendingId := by
  constructor
  · intro hnone hmem
    obtain ⟨task, htask, hid⟩ := List.mem_filterMap.1 hmem
    cases task with
    | eventActions payload => exact hnone payload htask (Option.some.inj hid)
    | _ => cases hid
  · intro hmem payload htask hid
    exact hmem (List.mem_filterMap.2 ⟨_, htask, congrArg some hid⟩)

/-! ## Requests -/

/-- The tasks come and go, but for requests that are not registered yet. -/
theorem Invariant.of_pending (h : Invariant s) (hdownloads : s'.downloads = s.downloads)
    (hdownloaders : s'.downloaders = s.downloaders)
    (hpending : (s'.tasks.filterMap Phase.pendingId).Sublist (s.tasks.filterMap Phase.pendingId)) :
    Invariant s' where
  active := by
    unfold Active
    rw [hdownloaders, hdownloads]
    exact h.active
  registered := by
    unfold Active
    rw [hdownloaders, hdownloads]
    exact h.registered
  pending id hmem := by
    rw [hdownloads]
    exact h.pending id (hpending.subset hmem)
  distinct := h.distinct.sublist hpending

theorem Invariant.erase (h : Invariant s) (i : ℕ) :
    Invariant { s with tasks := s.tasks.eraseIdx i } :=
  h.of_pending rfl rfl ((List.eraseIdx_sublist s.tasks i).filterMap _)

theorem Invariant.await (h : Invariant s) {phase : Phase} (hphase : phase.pendingId = none) :
    Invariant (s.await phase) := by
  refine h.of_pending rfl rfl ?_
  simp [State.await, List.filterMap_append, hphase]

theorem Invariant.requestDownload (h : Invariant s) {payload : DownloadRequest}
    (hnone : NoneSuspended s (downloadId payload)) :
    Invariant (requestDownload s payload) := by
  unfold DownloadManagerChannel.requestDownload
  split
  · exact h
  · next hfree =>
      have hids : (s.await (.eventActions payload)).tasks.filterMap Phase.pendingId =
          s.tasks.filterMap Phase.pendingId ++ [downloadId payload] := by
        simp [State.await, List.filterMap_append, Phase.pendingId]
      rw [Bool.not_eq_true, Option.isSome_eq_false_iff, Option.isNone_iff_eq_none] at hfree
      refine ⟨h.active, h.registered, ?_, ?_⟩
      · intro id hmem
        rw [hids] at hmem
        rcases List.mem_append.1 hmem with hmem | hmem
        · exact h.pending id hmem
        · rw [List.mem_singleton.1 hmem]
          exact hfree
      · rw [hids, List.nodup_append]
        refine ⟨h.distinct, by simp, ?_⟩
        rintro id hmem other hother rfl
        rw [List.mem_singleton.1 hother] at hmem
        exact noneSuspended_iff.1 hnone hmem

theorem active_append {d : Downloader} {id : String} {k : ℕ} {downloads : String → Option ℕ} :
    Active { s with downloads := downloads, downloaders := s.downloaders ++ [d] } id k ↔
      Active s id k ∨ (k = s.downloaders.length ∧ d.id = id ∧ d.isActive = true) := by
  unfold Active
  constructor
  · rintro ⟨found, hfound, hid, hactive⟩
    rcases List.getElem?_concat_eq_some.1 hfound with hfound | ⟨hk, rfl⟩
    · exact .inl ⟨found, hfound, hid, hactive⟩
    · exact .inr ⟨hk, hid, hactive⟩
  · rintro (⟨found, hfound, hid, hactive⟩ | ⟨hk, hid, hactive⟩)
    · exact ⟨found, List.getElem?_concat_eq_some.2 (.inl hfound), hid, hactive⟩
    · exact ⟨d, List.getElem?_concat_eq_some.2 (.inr ⟨hk, rfl⟩), hid, hactive⟩

/-- The request that is registered was the only one for its id. -/
theorem Invariant.createDownloader (h : Invariant s) {i : ℕ} {payload : DownloadRequest}
    (hi : s.tasks[i]? = some (.eventActions payload)) :
    Invariant (createDownloader { s with tasks := s.tasks.eraseIdx i } payload) := by
  have hperm := (List.perm_cons_eraseIdx hi).filterMap Phase.pendingId
  have hdistinct := hperm.nodup_iff.2 h.distinct
  rw [List.filterMap_cons_some (show Phase.pendingId (.eventActions payload) = _ from rfl),
    List.nodup_cons] at hdistinct
  have hfree : s.downloads (downloadId payload) = none :=
    h.pending _ (List.mem_filterMap.2 ⟨_, List.mem_of_getElem? hi, rfl⟩)
  have hactive : (Downloader.mk (downloadId payload)
      (if payload.resumeDownload.isSome then .awaitsTotalSize else .started)).isActive = true := by
    unfold Downloader.isActive
    split <;> simp_all
  refine ⟨?_, ?_, ?_, hdistinct.2⟩
  · intro id k hk
    rcases active_append.1 hk with hk | ⟨rfl, rfl, _⟩
    · have hdownload := h.active id k hk
      have hne : id ≠ downloadId payload := by
        rintro rfl
        rw [hfree] at hdownload
        cases hdownload
      exact (Function.update_of_ne hne _ _).trans hdownload
    · exact Function.update_self _ _ _
  · intro id k hk
    refine active_append.2 ?_
    by_cases hid : id = downloadId payload
    · subst hid
      have hk' := (Function.update_self (downloadId payload) _ s.downloads).symm.trans hk
      exact .inr ⟨(Option.some.inj hk').symm, rfl, hactive⟩
    · exact .inl (h.registered id k ((Function.update_of_ne hid _ _).symm.trans hk))
  · intro id hmem
    have hne : id ≠ downloadId payload := by
      rintro rfl
      exact hdistinct.1 hmem
    exact (Function.update_of_ne hne _ _).trans
      (h.pending id (hperm.mem_iff.1 (List.mem_cons_of_mem _ hmem)))

theorem Invariant.resume (h : Invariant s) {i : ℕ} {phase : Phase} {answer : Answer}
    (hi : s.tasks[i]? = some phase) (hturn : InTurn s (.resume i answer))
    (hs : resume { s with tasks := s.tasks.eraseIdx i } phase answer = some s') : Invariant s' := by
  have herased := h.erase i
  have hsuspended : ∀ id, NoneSuspended s id → NoneSuspended { s with tasks := s.tasks.eraseIdx i } id :=
    fun _ hnone payload hmem => hnone payload (List.mem_of_mem_eraseIdx hmem)
  cases phase with
  | eventActions payload =>
      cases answer with
      | done =>
          obtain rfl := Option.some.inj hs
          exact h.createDownloader hi
      | localData info => cases hs
      | failed =>
          obtain rfl := Option.some.inj hs
          exact herased
  | resumeLocalData =>
      cases answer with
      | done => cases hs
      | localData info =>
          obtain rfl := Option.some.inj hs
          cases info with
          | none => exact herased
          | some info =>
              show Invariant (if info.downloadId = "" then _ else if _ ∈ s.files then _ else _)
              split
              · exact herased
              · next hid =>
                  split
                  · next hfile => exact herased.requestDownload (hsuspended _ (hturn hi hid hfile))
                  · exact herased.await rfl
      | failed =>
          obtain rfl := Option.some.inj hs
          exact herased
  | unset payload =>
      cases answer with
      | done =>
          obtain rfl := Option.some.inj hs
          exact herased.requestDownload (hsuspended _ (hturn payload hi))
      | localData info => cases hs
      | failed =>
          obtain rfl := Option.some.inj hs
          exact herased
  | deleteLocalData =>
      cases answer with
      | done => cases hs
      | localData info =>
          obtain rfl := Option.some.inj hs
          cases info with
          | none => exact herased
          | some info => exact herased.of_pending rfl rfl (List.Sublist.refl _)
      | failed =>
          obtain rfl := Option.some.inj hs
          exact herased

/-! ## Downloaders -/

theorem downloaderIn_eq_some {status : Status} {k : ℕ} {d : Downloader}
    (h : downloaderIn s status k = some d) : s.downloaders[k]? = some d ∧ d.status = status := by
  obtain ⟨found, hfound, h⟩ := Option.bind_eq_some_iff.1 h
  obtain ⟨hstatus, h⟩ := Option.ite_none_right_eq_some.1 h
  obtain rfl := Option.some.inj h
  exact ⟨hfound, hstatus⟩

/-- The other downloaders stay as active as they were. -/
theorem active_setStatus {status : Status} {j k : ℕ} {id : String} {d : Downloader}
    (hd : s.downloaders[k]? = some d) :
    Active (setStatus s k status) id j ↔
      if j = k then d.id = id ∧ (Downloader.mk d.id status).isActive = true else Active s id j := by
  unfold Active setStatus
  by_cases hj : j = k
  · subst hj
    simp [hd, Downloader.isActive]
  · rw [if_neg hj]
    simp only [List.getElem?_modify_ne _ _ (Ne.symm hj)]

theorem Invariant.start (h : Invariant s) {k : ℕ} {d : Downloader} (hd : s.downloaders[k]? = some d)
    (hstatus : d.status = .awaitsTotalSize) : Invariant (setStatus s k .started) := by
  have hactive : ∀ id j, Active (setStatus s k .started) id j ↔ Active s id j := by
    intro id j
    rw [active_setStatus hd]
    split
    · next hj =>
        subst hj
        unfold Active
        simp [hd, Downloader.isActive, hstatus]
    · exact Iff.rfl
  exact ⟨fun id j hj => h.active id j ((hactive id j).1 hj),
    fun id j hj => (hactive id j).2 (h.registered id j hj), h.pending, h.distinct⟩

/-- The end takes the download out of `downloads`, and its downloader was the only one for the id. -/
theorem Invariant.endEvent (h : Invariant s) {k : ℕ} {d : Downloader} (hd : s.downloaders[k]? = some d)
    (hstatus : d.status = .started) : Invariant (DownloadManagerChannel.endEvent s k d.id) := by
  have hregistered : s.downloads d.id = some k :=
    h.active d.id k ⟨d, hd, rfl, by simp [Downloader.isActive, hstatus]⟩
  have hactive : ∀ id j, Active (DownloadManagerChannel.endEvent s k d.id) id j ↔ j ≠ k ∧ Active s id j := by
    intro id j
    show Active (setStatus s k .ended) id j ↔ _
    rw [active_setStatus hd]
    by_cases hj : j = k
    · simp [hj, Downloader.isActive]
    · simp [hj]
  refine ⟨?_, ?_, ?_, h.distinct⟩
  · intro id j hj
    obtain ⟨hne, hj⟩ := (hactive id j).1 hj
    have hdownload := h.active id j hj
    have hid : id ≠ d.id := by
      rintro rfl
      exact hne (Option.some.inj (hdownload.symm.trans hregistered))
    exact (Function.update_of_ne hid _ _).trans hdownload
  · intro id j hj
    have hid : id ≠ d.id := by
      rintro rfl
      have hnone := (Function.update_self d.id _ s.downloads).symm.trans hj
      cases hnone
    have hdownload := (Function.update_of_ne hid _ _).symm.trans hj
    have hold := h.registered id j hdownload
    refine (hactive id j).2 ⟨?_, hold⟩
    rintro rfl
    obtain ⟨found, hfound, rfl, _⟩ := hold
    rw [hd] at hfound
    exact hid (congrArg Downloader.id (Option.some.inj hfound)).symm
  · intro id hmem
    by_cases hid : id = d.id
    · subst hid
      exact Function.update_self _ _ _
    · exact (Function.update_of_ne hid _ _).trans (h.pending id hmem)

/-! ## Runs -/

theorem Invariant.step (h : Invariant s) (hturn : InTurn s e) (hs : step s e = some s') :
    Invariant s' := by
  cases e with
  | requestDownload payload =>
      obtain rfl := Option.some.inj hs
      exact h.requestDownload hturn
  | requestResumeDownload =>
      obtain rfl := Option.some.inj hs
      exact h.await rfl
  | deleteDownloadedFile =>
      obtain rfl := Option.some.inj hs
      exact h.await rfl
  | resume i answer =>
      obtain ⟨phase, hi, hs⟩ := Option.bind_eq_some_iff.1 hs
      exact h.resume hi hturn hs
  | totalSize k answered =>
      obtain ⟨d, hd, rfl⟩ := Option.map_eq_some_iff.1 hs
      obtain ⟨hd, hstatus⟩ := downloaderIn_eq_some hd
      obtain rfl : answered = true := hturn
      exact h.start hd hstatus
  | ended k =>
      obtain ⟨d, hd, rfl⟩ := Option.map_eq_some_iff.1 hs
      obtain ⟨hd, hstatus⟩ := downloaderIn_eq_some hd
      exact h.endEvent hd hstatus
  | error k => exact hturn.elim
  | files files =>
      obtain rfl := Option.some.inj hs
      exact h.of_pending rfl rfl (List.Sublist.refl _)

theorem Invariant.registryKept (h : Invariant s) : RegistryKept s where
  registered id := by
    constructor
    · intro hid
      obtain ⟨k, hk⟩ := Option.isSome_iff_exists.1 hid
      refine ⟨k, h.registered id k hk, fun j hj => ?_⟩
      exact Option.some.inj ((h.active id j hj).symm.trans hk)
    · rintro ⟨k, hk, _⟩
      rw [h.active id k hk]
      rfl
  onlyOne id j k hj hk := Option.some.inj ((h.active id j hj).symm.trans (h.active id k hk))
  accepted payload _ hnone := by
    have hfree : s.downloads (downloadId payload) = none := by
      rw [Option.eq_none_iff_forall_ne_some]
      exact fun k hk => hnone k (h.registered _ k hk)
    unfold DownloadManagerChannel.requestDownload
    rw [hfree]
    rfl

/-- A download that fails stays registered, so that no state after it is in order. -/
theorem not_registryKept_of_error (h : Invariant s) {k : ℕ} (hs : step s (.error k) = some s') :
    ¬ RegistryKept s' := by
  obtain ⟨d, hd, rfl⟩ := Option.map_eq_some_iff.1 hs
  obtain ⟨hd, hstatus⟩ := downloaderIn_eq_some hd
  have hregistered : s.downloads d.id = some k :=
    h.active d.id k ⟨d, hd, rfl, by simp [Downloader.isActive, hstatus]⟩
  intro hkept
  have hsome : ((errorEvent s k).downloads d.id).isSome := by
    show (s.downloads d.id).isSome
    rw [hregistered]
    rfl
  obtain ⟨j, hj, _⟩ := (hkept.registered d.id).1 hsome
  have hj' := (active_setStatus hd).1 hj
  split at hj'
  · simp [Downloader.isActive] at hj'
  · next hne =>
      exact hne (Option.some.inj ((h.active d.id j hj').symm.trans hregistered))

/-- **`downloads` holds the active downloads, one downloader each**, in every run in which no download fails
    and a download is requested while no other request for its id is between its check and its
    registration. -/
theorem registryKept_of_inTurn (hr : machine.Reaches InTurn s) : RegistryKept s :=
  have hinv : Invariant s := hr.invariant invariant_init fun _ _ _ _ hok h hs => h.step hok hs
  hinv.registryKept

def update : DownloadRequest where
  fileUrl := "https://update/klarity.exe"
  id := some "appUpdate"

/-- A download is requested, refused a second time while it goes on, ends and is requested again. -/
def downloadedTwice : List Event :=
  [.requestDownload update, .resume 0 .done, .requestDownload update, .ended 0,
    .requestDownload update, .resume 0 .done]

theorem registryKept_of_downloadedTwice :
    ∃ s, machine.Reaches InTurn s ∧ s.downloads "appUpdate" = some 1 ∧ RegistryKept s := by
  have hsteps : machine.allSteps InTurn machine.init downloadedTwice := by
    refine ⟨?_, ?_, ?_, trivial, ?_, ?_, trivial⟩
    · exact fun _ h => absurd h List.not_mem_nil
    · exact fun _ h => nomatch h
    · exact fun _ h => absurd h List.not_mem_nil
    · exact fun _ h => absurd h List.not_mem_nil
    · exact fun _ h => nomatch h
  have hr : machine.Reaches InTurn _ := .exec downloadedTwice .init hsteps rfl
  exact ⟨_, hr, rfl, registryKept_of_inTurn hr⟩

theorem not_registryKept_of_failed_download :
    ¬ ∀ s, machine.Reaches Machine.anyStep s → RegistryKept s := by
  intro h
  have hr : machine.Reaches Machine.anyStep _ :=
    Machine.reaches_of_exec [.requestDownload update, .resume 0 .done, .error 0] rfl
  obtain ⟨k, ⟨d, hd, _, hactive⟩, _⟩ := ((h _ hr).registered "appUpdate").1 rfl
  have hmem : d ∈ [Downloader.mk "appUpdate" .failed] := List.mem_of_getElem? hd
  obtain rfl := List.mem_singleton.1 hmem
  cases hactive

end Klarity.DownloadManagerChannel
