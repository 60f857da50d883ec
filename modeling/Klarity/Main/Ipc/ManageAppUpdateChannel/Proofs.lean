import Klarity.Library.Lists
import Klarity.Main.Ipc.ManageAppUpdateChannel
import Mathlib.Data.Int.CharZero

set_option autoImplicit false

/-! # What becomes of an update that is installed

`exits_iff` says exactly when Klarity exits, `ended_cases` that whenever an updater has ended, either Klarity exits
or the window has been told of an error, and `installationProgress_received` what progress the window shows,
however the output of the updater is cut into pieces. -/

namespace Klarity.ManageAppUpdate

open Klarity.AppUpdateStore (UpdateInstallationStatus manageQuitAndInstallResponse)

variable {Buffer Err : Type}

section
variable {shasum : Buffer → String}

/-! ## When Klarity exits -/

/-- An event that makes the installation `k` fail. -/
def failsAt (k : ℕ) : Event Buffer Err → Bool
  | .close j code => j = k && code ≠ some 0
  | .error j _ => j = k
  | .exit j code => j = k && code ≠ some 0
  | _ => false

namespace State

def hasFailed (s : State shasum Err) (k : ℕ) : Bool := s.installs[k]?.any (! ·.success)

@[simp] theorem hasFailed_send (s : State shasum Err) (k : ℕ) (r : Response Err) :
    (s.send r).hasFailed k = s.hasFailed k := rfl

theorem hasFailed_update (s : State shasum Err) (j k : ℕ) (f : Install shasum Err → Install shasum Err) :
    (s.update j f).hasFailed k = s.installs[k]?.any fun install => ! (if j = k then f install else install).success := by
  unfold hasFailed update
  by_cases hjk : j = k
  · subst hjk
    cases h : s.installs[j]? <;> simp [List.getElem?_modify_eq, h]
  · simp [List.getElem?_modify_ne _ _ hjk, hjk]

/-- A settled promise does not change whether an installation has failed. -/
theorem hasFailed_settle (s : State shasum Err) (j k : ℕ)
    (outcome : Except (Option (Response Err)) (Response Err)) :
    (s.update j (·.settle outcome)).hasFailed k = s.hasFailed k := by
  rw [hasFailed_update]
  unfold hasFailed
  refine congrArg (fun p => s.installs[k]?.any p) (funext fun install => ?_)
  by_cases hjk : j = k
  · rw [if_pos hjk]
    rfl
  · rw [if_neg hjk]

theorem hasFailed_fail (s : State shasum Err) {j k : ℕ} {install : Install shasum Err}
    (hj : s.installs[j]? = some install) (r : Response Err) :
    (s.fail j r).hasFailed k = (s.hasFailed k || decide (j = k)) := by
  have hupdate := hasFailed_update s j k (·.fail r)
  show (s.update j (·.fail r)).hasFailed k = _
  rw [hupdate]
  by_cases hjk : j = k
  · subst hjk
    simp [hj, Install.fail, Install.settle]
  · simp [hjk, hasFailed]

end State

variable {isLinux : Bool} {s s' : State shasum Err} {e : Event Buffer Err}

theorem hasFailed_append (k : ℕ) {install : Install shasum Err} (h : install.success = true)
    (hs : s'.installs = s.installs ++ [install]) : s'.hasFailed k = s.hasFailed k := by
  unfold State.hasFailed
  rw [hs, List.getElem?_append]
  split
  · rfl
  · next hlt =>
      rw [List.getElem?_eq_none (Nat.le_of_not_lt hlt)]
      cases hk : [install][k - s.installs.length]? with
      | none => rfl
      | some other =>
          obtain rfl := List.mem_singleton.1 (List.mem_of_getElem? hk)
          simp [h]

/-- What a request does to the installations and to the exits. -/
theorem onRequest_cases (isLinux : Bool) (s : State shasum Err) (filePath : String) (expectedHash : Option String)
    (file : Option Buffer) :
    (onRequest isLinux s filePath expectedHash file).exits = s.exits ∧
      ((onRequest isLinux s filePath expectedHash file).installs = s.installs ∨
        ∃ install : Install shasum Err, isLinux = true ∧ file = some install.file ∧
          expectedHash = some (shasum install.file) ∧ install.success = true ∧ install.settled = none ∧
          (onRequest isLinux s filePath expectedHash file).installs = s.installs ++ [install]) := by
  cases file with
  | none => exact ⟨rfl, .inl rfl⟩
  | some file =>
      simp only [onRequest]
      split
      · next verified =>
          split
          · next hlinux => exact ⟨rfl, .inr ⟨_, hlinux, rfl, verified.symm, rfl, rfl, rfl⟩⟩
          · exact ⟨rfl, .inl rfl⟩
      · exact ⟨rfl, .inl rfl⟩

/-- What one event does to the failures and to the exits. -/
theorem step_failed_exits (h : step isLinux s e = some s') (k : ℕ) :
    s'.hasFailed k = (s.hasFailed k || failsAt k e) ∧
      (k ∈ s'.exits ↔ k ∈ s.exits ∨ (e = .exit k (some 0) ∧ s.hasFailed k = false)) := by
  cases e with
  | request filePath expectedHash file =>
      obtain rfl := Option.some.inj h
      obtain ⟨hexits, hsame | ⟨install, -, -, -, hsuccess, -, hinstalls⟩⟩ :=
        onRequest_cases isLinux s filePath expectedHash file
      · simp [State.hasFailed, hsame, hexits, failsAt]
      · rw [hasFailed_append k hsuccess hinstalls, hexits]
        simp [failsAt]
  | stdout j progressData =>
      obtain ⟨install, -, rfl⟩ := Option.map_eq_some_iff.1 h
      simp [failsAt, State.send, State.hasFailed]
  | stderr j progressData =>
      obtain ⟨install, -, rfl⟩ := Option.map_eq_some_iff.1 h
      simp [failsAt, State.send, State.hasFailed]
  | close j code =>
      obtain ⟨install, hj, rfl⟩ := Option.map_eq_some_iff.1 h
      by_cases hcode : code = some 0
      · simp [onClose, hcode, failsAt, State.send, State.hasFailed]
      · have hfailed := s.hasFailed_fail (k := k) hj (closedResponse code "closed" (codeText code))
        simp only [onClose, if_neg hcode, failsAt, State.hasFailed_send, hfailed]
        refine ⟨by simp [hcode], by simp [State.send, State.fail, State.update]⟩
  | error j error =>
      obtain ⟨install, hj, rfl⟩ := Option.map_eq_some_iff.1 h
      exact ⟨s.hasFailed_fail hj _, by simp [onError, State.send, State.fail, State.update]⟩
  | exit j code =>
      obtain ⟨install, hj, rfl⟩ := Option.map_eq_some_iff.1 h
      unfold onExit
      split
      · next hcode =>
          subst hcode
          split
          · next hsuccess =>
              have hnot : s.hasFailed j = false := by simp [State.hasFailed, hj, hsuccess]
              refine ⟨?_, ?_⟩
              · show ((s.send successResponse).update j (·.settle (.ok successResponse))).hasFailed k = _
                rw [State.hasFailed_settle]
                simp [failsAt]
              · show k ∈ s.exits ++ [j] ↔ _
                simp only [List.mem_append, List.mem_singleton, Event.exit.injEq, and_true]
                refine or_congr_right ⟨fun hk => ?_, fun hk => hk.1.symm⟩
                subst hk
                exact ⟨rfl, hnot⟩
          · next hsuccess =>
              have hfailed : s.hasFailed j = true := by simp [State.hasFailed, hj, hsuccess]
              refine ⟨?_, ?_⟩
              · rw [State.hasFailed_settle]
                simp [failsAt]
              · show k ∈ s.exits ↔ _
                simp only [Event.exit.injEq, and_true]
                refine ⟨.inl, fun hk => hk.resolve_right ?_⟩
                rintro ⟨rfl, hk⟩
                exact absurd hfailed (by simp [hk])
      · next hcode =>
          refine ⟨?_, ?_⟩
          · rw [State.hasFailed_settle, State.hasFailed_fail s hj]
            simp [failsAt, hcode]
          · show k ∈ s.exits ↔ _
            simp [hcode]

/-- What a run does to the failures and to the exits, from any state. -/
theorem exec_exits (es : List (Event Buffer Err)) (h : (machine shasum Err isLinux).exec s es = some s') (k : ℕ) :
    k ∈ s'.exits ↔ k ∈ s.exits ∨ (s.hasFailed k = false ∧ ∃ before after,
      es = before ++ .exit k (some 0) :: after ∧ ∀ e ∈ before, failsAt k e = false) := by
  induction es generalizing s with
  | nil =>
      obtain rfl := Option.some.inj h
      simp
  | cons e es ih =>
      obtain ⟨t, ht, hrest⟩ := Machine.exec_cons_eq_some.1 h
      obtain ⟨hfailed, hexits⟩ := step_failed_exits ht k
      rw [ih hrest, hexits, hfailed, or_assoc]
      refine or_congr_right ⟨?_, ?_⟩
      · rintro (⟨rfl, hnot⟩ | ⟨hnot, before, after, rfl, hbefore⟩)
        · exact ⟨hnot, [], es, rfl, fun e he => absurd he List.not_mem_nil⟩
        · rw [Bool.or_eq_false_iff] at hnot
          exact ⟨hnot.1, e :: before, after, rfl, List.forall_mem_cons.2 ⟨hnot.2, hbefore⟩⟩
      · rintro ⟨hnot, before, after, hes, hbefore⟩
        rcases before with _ | ⟨e', before⟩
        · exact .inl ⟨(List.cons.inj hes).1, hnot⟩
        · obtain ⟨rfl, rfl⟩ := List.cons.inj hes
          obtain ⟨he, hbefore⟩ := List.forall_mem_cons.1 hbefore
          exact .inr ⟨by simp [hnot, he], before, after, rfl, hbefore⟩

def State.files (s : State shasum Err) : List Buffer := s.installs.map (·.file)

theorem State.files_update (s : State shasum Err) (k : ℕ) {f : Install shasum Err → Install shasum Err}
    (hf : ∀ install, (f install).file = install.file) : (s.update k f).files = s.files := by
  have h := List.filterMap_modify_of_eq (g := fun install : Install shasum Err => some install.file)
    (fun install => congrArg some (hf install)) s.installs k
  simpa [State.files, State.update] using h

/-- An event starts an installation only if it is a request for it. -/
theorem step_files (h : step isLinux s e = some s') :
    s'.files = s.files ∨ ∃ filePath file, isLinux = true ∧
      e = .request filePath (some (shasum file)) (some file) ∧ s'.files = s.files ++ [file] := by
  cases e with
  | request filePath expectedHash file =>
      obtain rfl := Option.some.inj h
      obtain ⟨-, hsame | ⟨install, hlinux, hfile, hhash, -, -, hinstalls⟩⟩ :=
        onRequest_cases isLinux s filePath expectedHash file
      · exact .inl (congrArg (List.map Install.file) hsame)
      · refine .inr ⟨filePath, install.file, hlinux, by rw [hfile, hhash], ?_⟩
        simp [State.files, hinstalls]
  | stdout j progressData =>
      obtain ⟨install, -, rfl⟩ := Option.map_eq_some_iff.1 h
      exact .inl rfl
  | stderr j progressData =>
      obtain ⟨install, -, rfl⟩ := Option.map_eq_some_iff.1 h
      exact .inl rfl
  | close j code =>
      obtain ⟨install, -, rfl⟩ := Option.map_eq_some_iff.1 h
      unfold onClose
      split
      · exact .inl rfl
      · exact .inl (s.files_update j fun _ => rfl)
  | error j error =>
      obtain ⟨install, -, rfl⟩ := Option.map_eq_some_iff.1 h
      exact .inl (s.files_update j fun _ => rfl)
  | exit j code =>
      obtain ⟨install, -, rfl⟩ := Option.map_eq_some_iff.1 h
      unfold onExit
      split
      · split
        · exact .inl (s.files_update j fun _ => rfl)
        · exact .inl (s.files_update j fun _ => rfl)
      · have hsettle := (s.fail j (closedResponse code "exited" (codeText code))).files_update j
          (f := (·.settle (.error none))) fun _ => rfl
        exact .inl (hsettle.trans (s.files_update j fun _ => rfl))

/-- Every installation was asked for, on Linux, with the hash of the file that was there. -/
theorem exec_files (es : List (Event Buffer Err)) (h : (machine shasum Err isLinux).exec s es = some s') :
    ∀ file ∈ s'.files, file ∈ s.files ∨ isLinux = true ∧ ∃ filePath,
      .request filePath (some (shasum file)) (some file) ∈ es := by
  induction es generalizing s with
  | nil =>
      obtain rfl := Option.some.inj h
      exact fun file hfile => .inl hfile
  | cons e es ih =>
      obtain ⟨t, ht, hrest⟩ := Machine.exec_cons_eq_some.1 h
      intro file hfile
      rcases ih hrest file hfile with hmem | ⟨hlinux, filePath, hrequest⟩
      · rcases step_files ht with hsame | ⟨filePath, file', hlinux, rfl, hnew⟩
        · exact .inl (hsame ▸ hmem)
        · rw [hnew, List.mem_append, List.mem_singleton] at hmem
          refine hmem.imp_right ?_
          rintro rfl
          exact ⟨hlinux, filePath, List.mem_cons_self⟩
      · exact .inr ⟨hlinux, filePath, List.mem_cons_of_mem _ hrequest⟩

/-- Klarity exits for an installation exactly when its updater has ended with code zero and nothing had failed
    before; and then the installation was asked for, on Linux, with the hash of the file that was there. -/
theorem exits_iff {es : List (Event Buffer Err)} (h : (machine shasum Err isLinux).exec {} es = some s) (k : ℕ) :
    k ∈ s.exits ↔ ∃ before after, es = before ++ .exit k (some 0) :: after ∧
      (∀ e ∈ before, failsAt k e = false) ∧
      isLinux = true ∧ ∃ filePath file, .request filePath (some (shasum file)) (some file) ∈ before := by
  have hexits := exec_exits es h k
  constructor
  · intro hk
    obtain ⟨-, before, after, rfl, hbefore⟩ := (hexits.1 hk).resolve_left List.not_mem_nil
    obtain ⟨t, ht, hrest⟩ := Machine.exec_append_eq_some.1 h
    obtain ⟨t', hexit, -⟩ := Machine.exec_cons_eq_some.1 hrest
    obtain ⟨install, hinstall, -⟩ := Option.map_eq_some_iff.1 hexit
    have hfile : install.file ∈ t.files := List.mem_map_of_mem (List.mem_of_getElem? hinstall)
    obtain ⟨hlinux, filePath, hrequest⟩ := (exec_files before ht _ hfile).resolve_left List.not_mem_nil
    exact ⟨before, after, rfl, hbefore, hlinux, filePath, install.file, hrequest⟩
  · rintro ⟨before, after, hes, hbefore, -⟩
    exact hexits.2 (.inr ⟨rfl, before, after, hes, hbefore⟩)

/-! ## What is known when an updater has ended -/

/-- The promise of an installation is pending, or resolved with Klarity exiting, or rejected with an error that
    the window has been sent. -/
def Install.Consistent (install : Install shasum Err) (exited : Prop) (sent : List (Response Err)) : Prop :=
  match install.settled with
  | none => install.success = true ∧ ¬ exited
  | some (.ok r) => r = successResponse ∧ exited
  | some (.error o) => install.success = false ∧ ¬ exited ∧ ∃ r ∈ sent, o = some r ∧ r.status = .error

structure State.Consistent (s : State shasum Err) : Prop where
  install : ∀ k (install : Install shasum Err), s.installs[k]? = some install →
    install.Consistent (k ∈ s.exits) s.sent
  exits : ∀ k ∈ s.exits, k < s.installs.length

theorem Install.Consistent.mono {install : Install shasum Err} {exited : Prop} {sent : List (Response Err)}
    (h : install.Consistent exited sent) (more : List (Response Err)) : install.Consistent exited (sent ++ more) := by
  unfold Install.Consistent at h ⊢
  split
  · next hsettled => simpa [hsettled] using h
  · next hsettled => simpa [hsettled] using h
  · next hsettled =>
      simp only [hsettled] at h
      obtain ⟨hsuccess, hexited, r, hr, ho⟩ := h
      exact ⟨hsuccess, hexited, r, List.mem_append_left _ hr, ho⟩

theorem State.Consistent.send (h : s.Consistent) (r : Response Err) : (s.send r).Consistent where
  install k install hk := (h.install k install hk).mono [r]
  exits := h.exits

/-- An error that is sent settles the promise, if nothing has. -/
theorem Install.Consistent.fail {install : Install shasum Err} {exited : Prop} {sent : List (Response Err)}
    (h : install.Consistent exited sent) {r : Response Err} (hr : r.status = .error) :
    (install.fail r).Consistent exited (sent ++ [r]) := by
  have hmore := h.mono [r]
  unfold Install.Consistent at h hmore ⊢
  simp only [Install.fail, Install.settle]
  cases hsettled : install.settled with
  | none =>
      simp only [hsettled] at h
      exact ⟨trivial, h.2, r, List.mem_append_right _ List.mem_cons_self, rfl, hr⟩
  | some outcome =>
      cases outcome with
      | ok r' => simpa [hsettled] using hmore
      | error o =>
          simp only [hsettled] at hmore
          exact ⟨trivial, hmore.2⟩

theorem State.Consistent.fail (h : s.Consistent) (k : ℕ) {r : Response Err} (hr : r.status = .error) :
    (s.fail k r).Consistent where
  install j install hj := by
    rcases List.getElem?_modify_eq_some.1 hj with ⟨rfl, old, hold, rfl⟩ | ⟨-, hold⟩
    · exact (h.install k old hold).fail hr
    · exact (h.install j install hold).mono [r]
  exits j hj := (h.exits j hj).trans_eq (List.length_modify ..).symm

/-- A promise that is settled stays so. -/
theorem Install.settle_eq_self {install : Install shasum Err} (h : install.settled ≠ none)
    (outcome : Except (Option (Response Err)) (Response Err)) : install.settle outcome = install := by
  obtain ⟨settled, hsettled⟩ := Option.ne_none_iff_exists'.1 h
  cases install
  simp_all [Install.settle]

/-- An installation that has failed is settled. -/
theorem Install.Consistent.settled_of_failed {install : Install shasum Err} {exited : Prop}
    {sent : List (Response Err)} (h : install.Consistent exited sent) (hfailed : install.success = false) :
    install.settled ≠ none := by
  intro hnone
  simp only [Install.Consistent, hnone] at h
  exact absurd h.1 (by simp [hfailed])

theorem update_settle_eq_self {k : ℕ} {install : Install shasum Err} (hk : s.installs[k]? = some install)
    (h : install.settled ≠ none) (outcome : Except (Option (Response Err)) (Response Err)) :
    s.update k (·.settle outcome) = s := by
  have hinstalls : s.installs.modify k (·.settle outcome) = s.installs := by
    refine List.ext_getElem? fun n => ?_
    by_cases hkn : k = n
    · subst hkn
      rw [List.getElem?_modify_eq, hk]
      exact congrArg some (Install.settle_eq_self h outcome)
    · rw [List.getElem?_modify_ne _ _ hkn]
  unfold State.update
  rw [hinstalls]

theorem consistent_onExit (h : s.Consistent) {k : ℕ} {install : Install shasum Err}
    (hk : s.installs[k]? = some install) (code : Option ℤ) : (onExit s k install code).Consistent := by
  unfold onExit
  split
  · split
    · next hsuccess =>
        refine ⟨fun j other hj => ?_, fun j hj => ?_⟩
        · rcases List.getElem?_modify_eq_some.1 hj with ⟨rfl, old, hold, rfl⟩ | ⟨hne, hold⟩
          · obtain rfl : old = install := Option.some.inj (hold.symm.trans hk)
            have hconsistent := h.install k old hk
            unfold Install.Consistent at hconsistent ⊢
            simp only [Install.settle]
            split at hconsistent
            · next hsettled => simp [hsettled]
            · next hsettled => simpa [hsettled] using hconsistent.1
            · exact absurd hsuccess (by simp [hconsistent.1])
          · have hsame : (j ∈ s.exits ++ [k]) = (j ∈ s.exits) := by simp [Ne.symm hne]
            show other.Consistent (j ∈ s.exits ++ [k]) (s.sent ++ [successResponse])
            rw [hsame]
            exact (h.install j other hold).mono _
        · refine Nat.lt_of_lt_of_eq ?_ (List.length_modify ..).symm
          rcases List.mem_append.1 hj with hj | hj
          · exact h.exits j hj
          · exact List.mem_singleton.1 hj ▸ (List.getElem?_eq_some_iff.1 hk).1
    · next hsuccess =>
        rw [update_settle_eq_self hk ((h.install k install hk).settled_of_failed (by simpa using hsuccess))]
        exact h
  · have hfail := h.fail k (r := closedResponse code "exited" (codeText code)) rfl
    have hk' : (s.fail k (closedResponse code "exited" (codeText code))).installs[k]? =
        some (install.fail (closedResponse code "exited" (codeText code))) := by
      show (s.installs.modify k _)[k]? = _
      rw [List.getElem?_modify_eq, hk]
      rfl
    rw [update_settle_eq_self hk' ((hfail.install k _ hk').settled_of_failed rfl)]
    exact hfail

theorem consistent_onRequest (h : s.Consistent) (filePath : String) (expectedHash : Option String)
    (file : Option Buffer) : (onRequest isLinux s filePath expectedHash file).Consistent := by
  have hsent : ∃ more, (onRequest isLinux s filePath expectedHash file).sent = s.sent ++ more := by
    unfold onRequest
    split
    · exact ⟨_, rfl⟩
    · split
      · split
        · exact ⟨_, rfl⟩
        · exact ⟨_, rfl⟩
      · exact ⟨_, rfl⟩
  obtain ⟨more, hsent⟩ := hsent
  obtain ⟨hexits, hsame | ⟨new, -, -, -, hsuccess, hsettled, hinstalls⟩⟩ :=
    onRequest_cases isLinux s filePath expectedHash file
  · refine ⟨fun k install hk => ?_, fun k hk => ?_⟩
    · rw [hexits, hsent]
      exact (h.install k install (hsame ▸ hk)).mono more
    · rw [hsame]
      exact h.exits k (hexits ▸ hk)
  · refine ⟨fun k install hk => ?_, fun k hk => ?_⟩
    · rw [hexits, hsent]
      rw [hinstalls] at hk
      rcases List.getElem?_concat_eq_some.1 hk with hk | ⟨hlast, rfl⟩
      · exact (h.install k install hk).mono more
      · unfold Install.Consistent
        rw [hsettled]
        exact ⟨hsuccess, fun hexited => by have := h.exits k hexited; omega⟩
    · rw [hinstalls, List.length_append]
      exact Nat.lt_of_lt_of_le (h.exits k (hexits ▸ hk)) (Nat.le_add_right ..)

theorem consistent_step (h : s.Consistent) (hs : step isLinux s e = some s') : s'.Consistent := by
  cases e with
  | request filePath expectedHash file =>
      obtain rfl := Option.some.inj hs
      exact consistent_onRequest h filePath expectedHash file
  | stdout j progressData =>
      obtain ⟨install, -, rfl⟩ := Option.map_eq_some_iff.1 hs
      exact h.send _
  | stderr j progressData =>
      obtain ⟨install, -, rfl⟩ := Option.map_eq_some_iff.1 hs
      exact h.send _
  | close j code =>
      obtain ⟨install, -, rfl⟩ := Option.map_eq_some_iff.1 hs
      unfold onClose
      split
      · exact h.send _
      · exact (h.fail j rfl).send _
  | error j error =>
      obtain ⟨install, -, rfl⟩ := Option.map_eq_some_iff.1 hs
      exact h.fail j rfl
  | exit j code =>
      obtain ⟨install, hj, rfl⟩ := Option.map_eq_some_iff.1 hs
      exact consistent_onExit h hj code

/-! ## The window -/

/-- The update store handles one message after the other. -/
def received (store : AppUpdateStore.State) (sent : List (Response Err)) : AppUpdateStore.State :=
  sent.foldl (fun store r =>
    manageQuitAndInstallResponse store r.status (r.data.progress.join.map fun value : ℤ => (value : ℚ))) store

/-- The update store no longer waits for Klarity to quit, and is about to say that the update has failed. -/
structure GivenUp (store : AppUpdateStore.State) : Prop where
  waiting : store.isWaitingToQuitKlarity = false
  failing : .setAppAutomaticUpdateFailed ∈ store.tasks

theorem GivenUp.manageQuitAndInstallResponse {store : AppUpdateStore.State} (h : GivenUp store)
    (status : UpdateInstallationStatus) (progress : Option ℚ) :
    GivenUp (manageQuitAndInstallResponse store status progress) := by
  unfold AppUpdateStore.manageQuitAndInstallResponse
  split
  · exact ⟨rfl, List.mem_append_left _ h.failing⟩
  · split
    · split
      · exact h
      · exact ⟨h.waiting, h.failing⟩
    · exact h
  · exact h

theorem givenUp_received {store : AppUpdateStore.State} {sent : List (Response Err)}
    (h : GivenUp store ∨ ∃ r ∈ sent, r.status = .error) : GivenUp (received store sent) := by
  induction sent generalizing store with
  | nil => exact h.resolve_right (by simp)
  | cons r sent ih =>
      refine ih ?_
      rcases h with h | ⟨r', hr', hstatus⟩
      · exact .inl (h.manageQuitAndInstallResponse _ _)
      · rcases List.mem_cons.1 hr' with rfl | hr'
        · refine .inl ?_
          simp only [hstatus]
          exact ⟨rfl, List.mem_append_right _ List.mem_cons_self⟩
        · exact .inr ⟨r', hr', hstatus⟩

/-- The events that an updater ends with. -/
def ends (k : ℕ) : Event Buffer Err → Bool
  | .exit j _ => j = k
  | .error j _ => j = k
  | _ => false

def State.IsSettled (s : State shasum Err) (k : ℕ) : Prop :=
  ∃ install, s.installs[k]? = some install ∧ install.settled ≠ none

theorem State.IsSettled.update {k : ℕ} (h : s.IsSettled k) (j : ℕ)
    {f : Install shasum Err → Install shasum Err}
    (hf : ∀ install, install.settled ≠ none → (f install).settled ≠ none) : (s.update j f).IsSettled k := by
  obtain ⟨install, hinstall, hsettled⟩ := h
  by_cases hjk : j = k
  · subst hjk
    refine ⟨f install, ?_, hf install hsettled⟩
    show (s.installs.modify j f)[j]? = _
    rw [List.getElem?_modify_eq, hinstall]
    rfl
  · refine ⟨install, ?_, hsettled⟩
    show (s.installs.modify j f)[k]? = _
    rw [List.getElem?_modify_ne _ _ hjk, hinstall]

theorem Install.settle_settled_ne_none (install : Install shasum Err)
    (outcome : Except (Option (Response Err)) (Response Err)) : (install.settle outcome).settled ≠ none := by
  unfold settle
  cases install.settled <;> simp

theorem Install.fail_settled_ne_none (install : Install shasum Err) (r : Response Err) :
    (install.fail r).settled ≠ none :=
  settle_settled_ne_none { install with success := false } _

theorem isSettled_update {k : ℕ} {install : Install shasum Err} (hk : s.installs[k]? = some install)
    {f : Install shasum Err → Install shasum Err} (hf : (f install).settled ≠ none) : (s.update k f).IsSettled k := by
  refine ⟨f install, ?_, hf⟩
  show (s.installs.modify k f)[k]? = _
  rw [List.getElem?_modify_eq, hk]
  rfl

/-- A promise stays settled. -/
theorem isSettled_step {k : ℕ} (h : s.IsSettled k) (hs : step isLinux s e = some s') : s'.IsSettled k := by
  cases e with
  | request filePath expectedHash file =>
      obtain rfl := Option.some.inj hs
      obtain ⟨install, hinstall, hsettled⟩ := h
      obtain ⟨-, hsame | ⟨new, -, -, -, -, -, hinstalls⟩⟩ := onRequest_cases isLinux s filePath expectedHash file
      · exact ⟨install, hsame ▸ hinstall, hsettled⟩
      · refine ⟨install, ?_, hsettled⟩
        rw [hinstalls, List.getElem?_append_left (List.getElem?_eq_some_iff.1 hinstall).1, hinstall]
  | stdout j progressData =>
      obtain ⟨install, -, rfl⟩ := Option.map_eq_some_iff.1 hs
      exact h
  | stderr j progressData =>
      obtain ⟨install, -, rfl⟩ := Option.map_eq_some_iff.1 hs
      exact h
  | close j code =>
      obtain ⟨install, -, rfl⟩ := Option.map_eq_some_iff.1 hs
      unfold onClose
      split
      · exact h
      · exact h.update j fun install _ => install.fail_settled_ne_none _
  | error j error =>
      obtain ⟨install, -, rfl⟩ := Option.map_eq_some_iff.1 hs
      exact h.update j fun install _ => install.fail_settled_ne_none _
  | exit j code =>
      obtain ⟨install, -, rfl⟩ := Option.map_eq_some_iff.1 hs
      unfold onExit
      split
      · split
        · exact h.update j fun install _ => install.settle_settled_ne_none _
        · exact h.update j fun install _ => install.settle_settled_ne_none _
      · have hfail : (s.fail j (closedResponse code "exited" (codeText code))).IsSettled k :=
          h.update j fun install _ => install.fail_settled_ne_none _
        exact hfail.update j fun install _ => install.settle_settled_ne_none _

/-- An updater that ends settles its promise. -/
theorem isSettled_of_ends {k : ℕ} (he : ends k e) (hs : step isLinux s e = some s') : s'.IsSettled k := by
  cases e with
  | exit j code =>
      obtain rfl : j = k := by simpa [ends] using he
      obtain ⟨install, hj, rfl⟩ := Option.map_eq_some_iff.1 hs
      unfold onExit
      split
      · split
        · exact isSettled_update hj (install.settle_settled_ne_none _)
        · exact isSettled_update hj (install.settle_settled_ne_none _)
      · have hfail : (s.fail j (closedResponse code "exited" (codeText code))).IsSettled j :=
          isSettled_update hj (install.fail_settled_ne_none _)
        exact hfail.update j fun install _ => install.settle_settled_ne_none _
  | error j error =>
      obtain rfl : j = k := by simpa [ends] using he
      obtain ⟨install, hj, rfl⟩ := Option.map_eq_some_iff.1 hs
      exact isSettled_update hj (install.fail_settled_ne_none _)
  | _ => exact absurd he (by simp [ends])

theorem exec_consistent (es : List (Event Buffer Err)) (h : s.Consistent)
    (hs : (machine shasum Err isLinux).exec s es = some s') : s'.Consistent := by
  induction es generalizing s with
  | nil => exact Option.some.inj hs ▸ h
  | cons e es ih =>
      obtain ⟨t, ht, hrest⟩ := Machine.exec_cons_eq_some.1 hs
      exact ih (consistent_step h ht) hrest

theorem exec_isSettled (es : List (Event Buffer Err)) {k : ℕ} (h : s.IsSettled k ∨ ∃ e ∈ es, ends k e)
    (hs : (machine shasum Err isLinux).exec s es = some s') : s'.IsSettled k := by
  induction es generalizing s with
  | nil => exact Option.some.inj hs ▸ h.resolve_right (by simp)
  | cons e es ih =>
      obtain ⟨t, ht, hrest⟩ := Machine.exec_cons_eq_some.1 hs
      refine ih ?_ hrest
      rcases h with h | ⟨e', he', hends⟩
      · exact .inl (isSettled_step h ht)
      · rcases List.mem_cons.1 he' with rfl | he'
        · exact .inl (isSettled_of_ends hends ht)
        · exact .inr ⟨e', he', hends⟩

/-- Once an updater has ended, the installation has either succeeded, with Klarity exiting, or failed, with an
    error that its request is answered with and that makes the window give up waiting. Never both. -/
theorem ended_cases {es : List (Event Buffer Err)} (h : (machine shasum Err isLinux).exec {} es = some s) {k : ℕ}
    (hends : ∃ e ∈ es, ends k e) :
    ∃ install, s.installs[k]? = some install ∧
      ((k ∈ s.exits ∧ install.settled = some (.ok successResponse)) ∨
        (k ∉ s.exits ∧ (∃ r ∈ s.sent, install.settled = some (.error (some r)) ∧ r.status = .error) ∧
          ∀ store, GivenUp (received store s.sent))) := by
  have hconsistent : s.Consistent :=
    exec_consistent es ⟨fun k install hk => by simp at hk, fun k hk => absurd hk List.not_mem_nil⟩ h
  obtain ⟨install, hinstall, hsettled⟩ := exec_isSettled es (.inr hends) h
  refine ⟨install, hinstall, ?_⟩
  have hcase := hconsistent.install k install hinstall
  unfold Install.Consistent at hcase
  split at hcase
  · next hnone => exact absurd hnone hsettled
  · next hok => exact .inl ⟨hcase.2, hcase.1 ▸ hok⟩
  · next herror =>
      obtain ⟨-, hexited, r, hr, rfl, hstatus⟩ := hcase
      exact .inr ⟨hexited, ⟨r, hr, herror, hstatus⟩, fun store => givenUp_received (.inr ⟨r, hr, hstatus⟩)⟩

end

/-! ## The progress -/

/-- The progress that the lines of an output tell, one after the other. -/
def told (progressData : String) : List (Option ℤ) := (infoOf progressData).filterMap lineProgress

/-- A line that tells no progress leaves the last one. -/
theorem progressOf_eq (info : List String) :
    progressOf info = ((info.filterMap lineProgress).getLast?).getD (some 0) := by
  have hfold : ∀ prog, info.foldl (fun prog infoItem => (lineProgress infoItem).getD prog) prog =
      ((info.filterMap lineProgress).getLast?).getD prog := by
    induction info with
    | nil => exact fun prog => rfl
    | cons infoItem info ih =>
        intro prog
        rw [List.foldl_cons, ih]
        cases hline : lineProgress infoItem with
        | none => rw [List.filterMap_cons_none hline, Option.getD_none]
        | some value =>
            rw [List.filterMap_cons_some hline, Option.getD_some]
            cases hlast : (info.filterMap lineProgress).getLast? <;> simp [List.getLast?_cons, hlast]
  exact hfold (some 0)

theorem lineProgress_empty : lineProgress "" = none := rfl

/-- Behind a line end the lines of what follows come. -/
theorem told_append (line progressData : String) :
    told (line ++ "\n" ++ progressData) = told (line ++ "\n") ++ told progressData := by
  have hlines : infoOf (line ++ "\n" ++ progressData) = infoOf line ++ infoOf progressData := by
    unfold infoOf
    simp only [String.toList_append, String.reduceToList, List.append_assoc, List.singleton_append]
    rw [List.splitOn_append_cons_self, List.map_append]
  have hline : infoOf (line ++ "\n") = infoOf line ++ [""] := by
    unfold infoOf
    simp only [String.toList_append, String.reduceToList]
    rw [List.splitOn_append_cons_self, List.map_append]
    rfl
  unfold told
  rw [hlines, hline, List.filterMap_append, List.filterMap_append]
  simp [lineProgress_empty]

/-- What the window shows after a progress, which it ignores when it is zero or not a number. -/
def shown (progress : ℚ) : Option ℤ → ℚ
  | some value => if value = 0 then progress else value
  | none => progress

theorem installationProgress_stdoutResponse (store : AppUpdateStore.State) (progressData : String)
    (sent : List (Response Err)) :
    (received store (stdoutResponse progressData :: sent)).installationProgress =
      (received { store with
        installationProgress := shown store.installationProgress (((told progressData).getLast?).getD (some 0)) }
        sent).installationProgress := by
  have hstore : manageQuitAndInstallResponse store .progress
      ((some (progressOf (infoOf progressData))).join.map fun value : ℤ => (value : ℚ)) =
      { store with
        installationProgress := shown store.installationProgress (progressOf (infoOf progressData)) } := by
    cases progressOf (infoOf progressData) with
    | none => rfl
    | some value =>
        by_cases hzero : value = 0
        · simp [manageQuitAndInstallResponse, shown, hzero]
        · simp [manageQuitAndInstallResponse, shown, hzero]
  rw [progressOf_eq] at hstore
  show (received (manageQuitAndInstallResponse store .progress
    ((some (progressOf (infoOf progressData))).join.map fun value : ℤ => (value : ℚ))) sent).installationProgress = _
  rw [progressOf_eq, hstore]
  rfl

/-- When the updater writes whole lines and all the progress that it tells is above zero, the window shows the
    last one that was told, into however many pieces the output was cut at line ends. -/
theorem installationProgress_received (chunks : List String) (store : AppUpdateStore.State)
    (hlines : ∀ chunk ∈ chunks, ∃ line, chunk = line ++ "\n")
    (hpos : ∀ progress ∈ told (String.join chunks), ∃ value : ℤ, progress = some value ∧ 0 < value) :
    (received store (chunks.map (stdoutResponse : String → Response Err))).installationProgress =
      match (told (String.join chunks)).getLast? with
      | some (some value) => (value : ℚ)
      | _ => store.installationProgress := by
  induction chunks generalizing store with
  | nil => rfl
  | cons chunk chunks ih =>
      obtain ⟨⟨line, rfl⟩, hrestlines⟩ := List.forall_mem_cons.1 hlines
      rw [String.join_cons, told_append] at hpos ⊢
      rw [List.map_cons, installationProgress_stdoutResponse, ih _ hrestlines fun p hp => hpos p (List.mem_append_right _ hp)]
      cases hrest : (told (String.join chunks)).getLast? with
      | some p =>
          rw [List.getLast?_append, hrest]
          obtain ⟨value, rfl, -⟩ := hpos p (List.mem_append_right _ (List.mem_of_getLast? hrest))
          rfl
      | none =>
          rw [List.getLast?_append, hrest, Option.none_or]
          cases hlast : (told (line ++ "\n")).getLast? with
          | none => rfl
          | some p =>
              obtain ⟨value, rfl, hvalue⟩ := hpos p (List.mem_append_left _ (List.mem_of_getLast? hlast))
              exact if_neg hvalue.ne'

/-! ## Two runs -/

/-- The updater of a verified installer ends well. -/
def installed : List (Event String Unit) :=
  [.request "/installer" (some "hash") (some "hash"), .exit 0 (some 0), .close 0 (some 0)]

/-- The updater cannot be started. -/
def notStarted : List (Event String Unit) := [.request "/installer" (some "hash") (some "hash"), .error 0 ()]

def afterInstalled : State (id : String → String) Unit :=
  ((machine id Unit true).exec {} installed).get (by decide)

def afterNotStarted : State (id : String → String) Unit :=
  ((machine id Unit true).exec {} notStarted).get (by decide)

theorem exec_installed : (machine id Unit true).exec {} installed = some afterInstalled :=
  (Option.some_get _).symm

theorem exec_notStarted : (machine id Unit true).exec {} notStarted = some afterNotStarted :=
  (Option.some_get _).symm

theorem exits_iff_installed : 0 ∈ afterInstalled.exits :=
  (exits_iff exec_installed 0).2
    ⟨installed.take 1, installed.drop 2, rfl, by simp [installed, failsAt], rfl, "/installer", "hash",
      List.mem_cons_self⟩

theorem ended_cases_notStarted :
    ∃ install, afterNotStarted.installs[0]? = some install ∧
      ((0 ∈ afterNotStarted.exits ∧ install.settled = some (.ok successResponse)) ∨
        (0 ∉ afterNotStarted.exits ∧
          (∃ r ∈ afterNotStarted.sent, install.settled = some (.error (some r)) ∧ r.status = .error) ∧
          ∀ store, GivenUp (received store afterNotStarted.sent))) :=
  ended_cases exec_notStarted ⟨.error 0 (), List.mem_cons_of_mem _ List.mem_cons_self, rfl⟩

/-- Two pieces of the output of an updater. -/
def chunks : List String := ["PROG 1/4\n", "PROG 3/4\n"]

theorem told_chunks : told (String.join chunks) = [some 25, some 75] := by
  decide +kernel

theorem installationProgress_received_chunks :
    (received {} (chunks.map (stdoutResponse : String → Response Unit))).installationProgress = 75 :=
  (installationProgress_received chunks {}
    (by simpa [chunks] using ⟨⟨"PROG 1/4", rfl⟩, ⟨"PROG 3/4", rfl⟩⟩)
    (by simp [told_chunks])).trans (by simp [told_chunks])

end Klarity.ManageAppUpdate
