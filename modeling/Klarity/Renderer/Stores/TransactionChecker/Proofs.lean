import Klarity.Renderer.Stores.TransactionChecker
import Mathlib.Tactic.Common

set_option autoImplicit false

/-! # The checker follows the latest submission

A submission overwrites the field of the interval, and every reset, whoever asks for it, ends what is in the
field and lowers the flag. So the flag and the interval are right as long as submissions do not overlap and
nothing that is left of an earlier one acts on a later one. -/

namespace Klarity.TransactionChecker

variable {s s' : State} {k : ℕ} {phase : Phase}

/-! ## What is promised -/

/-- The interval of a submission is alive. -/
def IsChecking (s : State) (k : ℕ) : Prop :=
  ∃ submission check, s.submissions[k]? = some submission ∧ submission.phase = .submitted check ∧
    check.isChecking = true

/-- The transaction is being sent; or it has been sent, has not been found in the ledger, and its timeout has
not elapsed. One that the other store checks is pending here only while it is sent. -/
def Submission.isPending (submission : Submission) : Bool :=
  match submission.phase with
  | .sending => true
  | .submitted check =>
      !check.isCheckedElsewhere && !check.isInLedger && check.timeout ≠ .elapsed
  | .failed => false

def latestIsPending (s : State) : Bool :=
  s.submissions.getLast?.any Submission.isPending

structure Tracks (s : State) : Prop where
  one : ∀ i j, IsChecking s i → IsChecking s j → i = j
  latest : ∀ k, IsChecking s k → k + 1 = s.submissions.length
  pending : s.isTransactionPending = latestIsPending s

/-! ## When it is kept -/

def IsLatest (s : State) (k : ℕ) : Prop :=
  k + 1 = s.submissions.length

/-- A submission starts when no interval is alive. One that another has followed does not succeed any more,
and it neither fails nor times out while the flag is up. -/
def StakingStore.InOrder (s : State) : StakingStore.Event → Prop
  | .submit _ => ∀ k, ¬ IsChecking s k
  | .sent k (.ok _) => IsLatest s k
  | .sent k (.error _) => IsLatest s k ∨ s.isTransactionPending = false
  | .poll _ _ => True
  | .timeout k => IsLatest s k ∨ s.isTransactionPending = false

/-- Besides, a voting registration that is found is in the ledger. -/
def HardwareWalletsStore.InOrder (s : State) : HardwareWalletsStore.Event → Prop
  | .sendMoney _ _ _ => ∀ k, ¬ IsChecking s k
  | .sent k (.ok _) =>
      IsLatest s k ∨ s.isTransactionPending = false ∧
        ∀ submission, s.submissions[k]? = some submission → submission.isDelegationTransaction = true
  | .sent k (.error _) => IsLatest s k ∨ s.isTransactionPending = false
  | .poll k recentTransactions =>
      ∀ submission check, s.submissions[k]? = some submission → submission.phase = .submitted check →
        submission.isVotingRegistrationTransaction = true →
        isListed recentTransactions check.transactionId = true →
        isOk recentTransactions check.transactionId = true

/-! ## The invariant -/

structure Invariant (s : State) : Prop where
  checking : ∀ k, IsChecking s k → IsLatest s k ∧ s.checkTimeInterval = some k
  pending : s.isTransactionPending = latestIsPending s

theorem Invariant.tracks (h : Invariant s) : Tracks s where
  one i j hi hj := by
    have hi := (h.checking i hi).1
    have hj := (h.checking j hj).1
    unfold IsLatest at hi hj
    omega
  latest k hk := (h.checking k hk).1
  pending := h.pending

theorem invariant_init : Invariant {} where
  checking k hk := by
    obtain ⟨submission, _, hsubmission, _⟩ := hk
    simp at hsubmission
  pending := rfl

/-! ## Phases -/

theorem getElem?_setPhase_self {submission : Submission} (hk : s.submissions[k]? = some submission) :
    (s.setPhase k phase).submissions[k]? = some { submission with phase := phase } := by
  simp [State.setPhase, hk]

theorem isChecking_setPhase {j : ℕ} (hj : IsChecking (s.setPhase k phase) j) :
    j = k ∧ (∃ check, phase = .submitted check ∧ check.isChecking = true) ∨ j ≠ k ∧ IsChecking s j := by
  obtain ⟨submission, check, hsubmission, hphase, hchecking⟩ := hj
  rcases List.getElem?_modify_eq_some.1 hsubmission with ⟨rfl, old, _, rfl⟩ | ⟨hne, hold⟩
  · exact .inl ⟨rfl, check, hphase, hchecking⟩
  · exact .inr ⟨fun h => hne h.symm, submission, check, hold, hphase, hchecking⟩

theorem latestIsPending_setPhase_of_latest {submission : Submission} (hlatest : IsLatest s k)
    (hk : s.submissions[k]? = some submission) :
    latestIsPending (s.setPhase k phase) = Submission.isPending { submission with phase := phase } := by
  have hlast : (s.setPhase k phase).submissions.getLast? = some { submission with phase := phase } := by
    have hlength : (s.setPhase k phase).submissions.length - 1 = k := by
      simp only [State.setPhase, List.length_modify]
      unfold IsLatest at hlatest
      omega
    rw [List.getLast?_eq_getElem?, hlength, getElem?_setPhase_self hk]
  rw [latestIsPending, hlast]
  rfl

theorem latestIsPending_setPhase_of_not_latest (hk : ¬ IsLatest s k) (hlt : k < s.submissions.length) :
    latestIsPending (s.setPhase k phase) = latestIsPending s := by
  have hne : k ≠ s.submissions.length - 1 := by
    unfold IsLatest at hk
    omega
  simp only [latestIsPending, State.setPhase, List.getLast?_eq_getElem?, List.length_modify]
  simp [hne]

theorem latestIsPending_of_latest {submission : Submission} (hlatest : IsLatest s k)
    (hk : s.submissions[k]? = some submission) : latestIsPending s = submission.isPending := by
  have hindex : s.submissions.length - 1 = k := by
    unfold IsLatest at hlatest
    omega
  rw [latestIsPending, List.getLast?_eq_getElem?, hindex, hk]
  rfl

/-! ## The end of an interval -/

theorem isPending_stop (submission : Submission) :
    Submission.isPending { submission with phase := submission.phase.stop } = submission.isPending := by
  unfold Submission.isPending
  cases submission.phase with
  | sending => rfl
  | submitted check => rfl
  | failed => rfl

theorem latestIsPending_clearChecker (s : State) : latestIsPending (clearChecker s) = latestIsPending s := by
  unfold clearChecker
  split
  · next i _ =>
    simp only [latestIsPending, List.getLast?_eq_getElem?, List.length_modify, List.getElem?_modify]
    split
    · cases s.submissions[s.submissions.length - 1]? with
      | none => rfl
      | some submission => exact isPending_stop submission
    · simp
  · rfl

/-- Where every interval that is alive is in the field, none is left. -/
theorem not_isChecking_clearChecker (h : ∀ k, IsChecking s k → s.checkTimeInterval = some k) (k : ℕ) :
    ¬ IsChecking (clearChecker s) k := by
  intro hk
  unfold clearChecker at hk
  split at hk
  · next i hi =>
    obtain ⟨submission, check, hsubmission, hphase, hchecking⟩ := hk
    rcases List.getElem?_modify_eq_some.1 hsubmission with ⟨rfl, old, _, rfl⟩ | ⟨hne, hold⟩
    · cases hold : old.phase with
      | sending => simp [Phase.stop, hold] at hphase
      | submitted oldCheck =>
        rw [hold] at hphase
        cases hphase
        cases hchecking
      | failed => simp [Phase.stop, hold] at hphase
    · have hfield := h k ⟨submission, check, hold, hphase, hchecking⟩
      rw [hi] at hfield
      exact hne (Option.some.inj hfield)
  · next hnone =>
    have hfield := h k hk
    rw [hnone] at hfield
    cases hfield

/-! ## Steps -/

/-- A submission that is pending no more is the latest, or the flag was down before. -/
theorem Invariant.latestIsPending_setPhase (h : Invariant s) {submission : Submission}
    (hk : s.submissions[k]? = some submission)
    (hpending : Submission.isPending { submission with phase := phase } = false)
    (hlatest : IsLatest s k ∨ s.isTransactionPending = false) :
    latestIsPending (s.setPhase k phase) = false := by
  by_cases hk' : IsLatest s k
  · rw [latestIsPending_setPhase_of_latest hk' hk]
    exact hpending
  · have hlt : k < s.submissions.length := (List.getElem?_eq_some_iff.1 hk).1
    rw [latestIsPending_setPhase_of_not_latest hk' hlt, ← h.pending]
    exact hlatest.resolve_left hk'

/-- The pending state and the poller are reset by a submission that is pending no more. -/
theorem Invariant.reset (h : Invariant s) {submission : Submission} (hk : s.submissions[k]? = some submission)
    (hphase : ∀ check, phase = .submitted check → check.isChecking = true → IsChecking s k)
    (hpending : Submission.isPending { submission with phase := phase } = false)
    (hlatest : IsLatest s k ∨ s.isTransactionPending = false) :
    Invariant (resetStakePoolTransactionChecker (s.setPhase k phase)) where
  checking j hj := by
    refine absurd hj (not_isChecking_clearChecker (s := s.setPhase k phase) ?_ j)
    intro i hi
    rcases isChecking_setPhase hi with ⟨rfl, check, hcheck, hchecking⟩ | ⟨_, hold⟩
    · exact (h.checking i (hphase check hcheck hchecking)).2
    · exact (h.checking i hold).2
  pending := by
    have hclear : latestIsPending (resetStakePoolTransactionChecker (s.setPhase k phase)) =
        latestIsPending (s.setPhase k phase) := latestIsPending_clearChecker _
    rw [hclear, h.latestIsPending_setPhase hk hpending hlatest]
    rfl

/-- The flag is lowered by a submission that gets no interval. -/
theorem Invariant.lower (h : Invariant s) {submission : Submission} (hk : s.submissions[k]? = some submission)
    (hphase : ∀ check, phase = .submitted check → check.isChecking = false)
    (hpending : Submission.isPending { submission with phase := phase } = false)
    (hlatest : IsLatest s k ∨ s.isTransactionPending = false) :
    Invariant { s.setPhase k phase with isTransactionPending := false } where
  checking j hj := by
    rcases isChecking_setPhase (s := s) hj with ⟨rfl, check, hcheck, hchecking⟩ | ⟨_, hold⟩
    · rw [hphase check hcheck] at hchecking
      cases hchecking
    · obtain ⟨hlast, hfield⟩ := h.checking j hold
      refine ⟨?_, hfield⟩
      rw [IsLatest, State.setPhase, List.length_modify]
      exact hlast
  pending := (h.latestIsPending_setPhase hk hpending hlatest).symm

/-- The latest submission gets its interval. -/
theorem Invariant.setChecker (h : Invariant s) {submission : Submission} {check : Check}
    (hk : s.submissions[k]? = some submission) (hsending : submission.phase = .sending)
    (hlatest : IsLatest s k)
    (hpending : Submission.isPending { submission with phase := .submitted check } = true) :
    Invariant (setChecker s k check) where
  checking j hj := by
    have hlength : (TransactionChecker.setChecker s k check).submissions.length = s.submissions.length :=
      List.length_modify _ _ _
    rcases isChecking_setPhase (s := s) hj with ⟨rfl, -⟩ | ⟨hne, hold⟩
    · exact ⟨hlatest.trans hlength.symm, rfl⟩
    · have hj := (h.checking j hold).1
      unfold IsLatest at hj hlatest
      exact absurd (by omega) hne
  pending := by
    have hflag : s.isTransactionPending = true := by
      rw [h.pending, latestIsPending_of_latest hlatest hk, Submission.isPending, hsending]
    have hnew : latestIsPending (s.setPhase k (.submitted check)) =
        Submission.isPending { submission with phase := .submitted check } :=
      latestIsPending_setPhase_of_latest hlatest hk
    exact hflag.trans (hnew.trans hpending).symm

/-- A submission starts while no interval is alive. -/
theorem invariant_submit {submission : Submission} (hnone : ∀ k, ¬ IsChecking s k)
    (hsending : submission.phase = .sending) :
    Invariant { s with isTransactionPending := true, submissions := s.submissions ++ [submission] } where
  checking j hj := by
    obtain ⟨other, check, hother, hphase, hchecking⟩ := hj
    rcases List.getElem?_concat_eq_some.1 hother with hold | ⟨_, rfl⟩
    · exact absurd ⟨other, check, hold, hphase, hchecking⟩ (hnone j)
    · rw [hsending] at hphase
      cases hphase
  pending := by
    have hlast : (s.submissions ++ [submission]).getLast? = some submission := by simp
    show true = Option.any Submission.isPending (s.submissions ++ [submission]).getLast?
    rw [hlast, Option.any_some, Submission.isPending, hsending]

theorem Invariant.stakingStep (h : Invariant s) {e : StakingStore.Event} (hok : StakingStore.InOrder s e)
    (hs : StakingStore.step s e = some s') : Invariant s' := by
  cases e with
  | submit walletId =>
    cases hs
    exact invariant_submit hok rfl
  | sent k outcome =>
    obtain ⟨submission, hk, hs⟩ := Option.bind_eq_some_iff.mp hs
    split at hs
    · next hsending =>
      cases hs
      cases outcome with
      | ok transactionId => exact h.setChecker hk hsending hok rfl
      | error error =>
        exact h.reset hk (fun _ hfailed => nomatch hfailed) rfl hok
    · cases hs
  | poll k recentTransactions =>
    obtain ⟨submission, hk, hs⟩ := Option.bind_eq_some_iff.mp hs
    split at hs
    · next check hcheck =>
      split at hs
      · next hchecking =>
        cases hs
        have hk' : IsChecking s k := ⟨submission, check, hk, hcheck, hchecking⟩
        unfold StakingStore.checkDelegationTransaction
        split
        · refine h.reset hk (fun _ _ _ => hk') ?_ (.inl (h.checking k hk').1)
          simp [Submission.isPending]
        · exact h
      · cases hs
    · cases hs
  | timeout k =>
    obtain ⟨submission, hk, hs⟩ := Option.bind_eq_some_iff.mp hs
    split at hs
    · next check hcheck =>
      split at hs
      · cases hs
        refine h.reset hk ?_ ?_ hok
        · rintro _ ⟨⟩ hchecking
          exact ⟨submission, check, hk, hcheck, hchecking⟩
        · simp [Submission.isPending]
      · cases hs
    · cases hs

theorem Invariant.hardwareWalletsStep (h : Invariant s) {e : HardwareWalletsStore.Event}
    (hok : HardwareWalletsStore.InOrder s e) (hs : HardwareWalletsStore.step s e = some s') :
    Invariant s' := by
  cases e with
  | sendMoney walletId isDelegationTransaction isVotingRegistrationTransaction =>
    cases hs
    cases walletId with
    | none => exact h
    | some walletId => exact invariant_submit hok rfl
  | sent k outcome =>
    obtain ⟨submission, hk, hs⟩ := Option.bind_eq_some_iff.mp hs
    split at hs
    · next hsending =>
      cases hs
      cases outcome with
      | ok transactionId =>
        unfold HardwareWalletsStore.sent
        cases hdelegation : submission.isDelegationTransaction with
        | true =>
          have hlatest : IsLatest s k ∨ s.isTransactionPending = false := hok.imp_right And.left
          exact h.lower hk (by rintro _ ⟨⟩; rfl) rfl hlatest
        | false =>
          have hlatest : IsLatest s k := by
            refine hok.resolve_right ?_
            rintro ⟨_, hall⟩
            have htrue := hall submission hk
            rw [hdelegation] at htrue
            cases htrue
          exact h.setChecker hk hsending hlatest rfl
      | error error => exact h.lower hk (fun _ hfailed => nomatch hfailed) rfl hok
    · cases hs
  | poll k recentTransactions =>
    obtain ⟨submission, hk, hs⟩ := Option.bind_eq_some_iff.mp hs
    split at hs
    · next check hcheck =>
      split at hs
      · next hchecking =>
        cases hs
        have hk' : IsChecking s k := ⟨submission, check, hk, hcheck, hchecking⟩
        have hreset : isOk recentTransactions check.transactionId = true → Invariant
            (resetStakePoolTransactionChecker (s.setPhase k
              (.submitted { check with isInLedger := isOk recentTransactions check.transactionId }))) := by
          intro hfound
          refine h.reset hk (fun _ _ _ => hk') ?_ (.inl (h.checking k hk').1)
          simp [Submission.isPending, hfound]
        unfold HardwareWalletsStore.checkTransaction
        dsimp only
        split
        · next hvoting =>
          split
          · next hlisted => exact hreset (hok submission check hk hcheck hvoting hlisted)
          · exact h
        · split
          · next hfound => exact hreset hfound
          · exact h
      · cases hs
    · cases hs

/-! ## Runs -/

/-- The second follows when the first is in the ledger and its timeout has elapsed. -/
def delegations : List StakingStore.Event :=
  [.submit "a", .sent 0 (.ok "t"), .poll 0 [⟨"t", .pending⟩], .poll 0 [⟨"t", .ok⟩], .timeout 0,
    .submit "b", .sent 1 (.ok "u")]

def payments : List HardwareWalletsStore.Event :=
  [.sendMoney (some "a") false false, .sent 0 (.ok "t"), .poll 0 [⟨"t", .ok⟩],
    .sendMoney (some "b") false false, .sent 1 (.ok "u")]

/-- No submission of the list is checked. -/
theorem not_isChecking_of_stopped (h : ∀ submission ∈ s.submissions, submission.phase.stop = submission.phase)
    (k : ℕ) : ¬ IsChecking s k := by
  rintro ⟨submission, check, hk, hphase, hchecking⟩
  have hstop := h submission (List.mem_of_getElem? hk)
  rw [hphase, Phase.stop, Phase.submitted.injEq] at hstop
  rw [← hstop] at hchecking
  cases hchecking

end Klarity.TransactionChecker
