import Klarity.Library.Lists
import Klarity.Renderer.Stores.HardwareWallets.SelectCoins
import Klarity.Renderer.Stores.Lib.Request.Proofs
import Mathlib.Tactic.Common

set_option autoImplicit false

/-! # Whose coin selection

A caller gets the answer to whatever call the request is busy with, and every continuation overwrites
`txSignRequest`. The selections match their callers where calls that overlap ask for the same thing, and
where a form is confirmed before another one has selected coins for something else (`SameRequest`).

The invariant follows the promise: it is the one of the last call of the request, which was made for the
parameters that all callers on their way share (`Inv.own_promise`, `Inv.issuer`). -/

namespace Klarity.HardwareWallets.SelectCoins

variable {Metadata Selection Err : Type}

/-! ## What is promised -/

/-- The caller has neither returned nor thrown. -/
def Phase.isOpen : Phase Selection Err → Bool
  | .awaiting | .attached _ => true
  | .returned _ | .threw _ => false

def Phase.isReturned : Phase Selection Err → Bool
  | .returned _ => true
  | .awaiting | .attached _ | .threw _ => false

/-- The backend answered a call made with just these parameters with `selection`. -/
def State.Answered (s : State Metadata Selection Err) (params : CoinSelectionsRequest Metadata)
    (selection : Selection) : Prop :=
  ∃ c ∈ s.selectCoinsRequest.calls,
    (∃ wallet, c.args = params.args wallet) ∧ c.outcome = some (.ok selection)

/-- A caller returns the answer to its own parameters, and that answer is in `txSignRequest` when its
    form is confirmed. -/
structure Matched (s : State Metadata Selection Err) : Prop where
  returned : ∀ u ∈ s.callers, ∀ selection, u.phase = .returned selection →
    s.Answered u.params selection
  confirmed : ∀ r ∈ s.confirmed, ∃ selection, r.2 = some selection ∧ s.Answered r.1 selection

/-- Every caller on its way has these parameters. -/
def State.Joins (s : State Metadata Selection Err) (params : CoinSelectionsRequest Metadata) : Prop :=
  ∀ u ∈ s.callers, u.phase.isOpen = true → u.params = params

/-- A call made while another one is on its way has the same parameters, and a form is confirmed only
    while no later caller with other parameters has returned. -/
def SameRequest (s : State Metadata Selection Err) : Event Metadata Selection Err → Prop
  | .selectCoins params _ => s.Joins (.payment params)
  | .selectDelegationCoins params _ => s.Joins (.delegation params)
  | .confirm j =>
      ∀ u ∈ s.callers[j]?, ∀ v ∈ s.callers.drop (j + 1),
        v.phase.isReturned = true → v.params = u.params
  | _ => True

instance decidableSameRequest [DecidableEq Metadata] (s : State Metadata Selection Err)
    (e : Event Metadata Selection Err) : Decidable (SameRequest s e) :=
  match e with
  | .selectCoins _ _ | .selectDelegationCoins _ _ => inferInstanceAs (Decidable (∀ u ∈ _, _))
  | .confirm _ => inferInstanceAs (Decidable (∀ u ∈ _, ∀ v ∈ _, _))
  | .reset | .tick _ | .respond _ _ | .attach _ | .settle _ => isTrue trivial

/-! ## The invariant -/

structure Inv (s : State Metadata Selection Err) : Prop extends Matched s where
  linked : Request.Linked s.selectCoinsRequest
  /-- The promise that a caller on its way will get, unless it has one, is for its parameters. -/
  own_promise : ∀ u ∈ s.callers, u.phase.isOpen = true → ∃ p c wallet,
    s.selectCoinsRequest.promise = some p ∧ s.selectCoinsRequest.calls[p]? = some c
      ∧ c.args = u.params.args wallet
  /-- While the promise is open, the caller that made the call for it is on its way. -/
  issuer : ∀ (p : ℕ) (c : Request.MethodCall (Args Metadata) Selection Err),
    s.selectCoinsRequest.promise = some p → s.selectCoinsRequest.calls[p]? = some c →
    c.outcome = none → ∃ u ∈ s.callers, (u.phase = .awaiting ∨ u.phase = .attached p)
      ∧ ∃ wallet, c.args = u.params.args wallet
  attached_own : ∀ u ∈ s.callers, ∀ p, u.phase = .attached p →
    ∃ c wallet, s.selectCoinsRequest.calls[p]? = some c ∧ c.args = u.params.args wallet
  /-- Callers that came while a caller was on its way have its parameters. -/
  same : ∀ (i j : ℕ) (u v : Caller Metadata Selection Err), s.callers[i]? = some u →
    s.callers[j]? = some v → i < j → u.phase.isOpen = true → v.params = u.params
  /-- Unless a later caller with other parameters has returned, `txSignRequest` is for a caller that
      has. -/
  latest : ∀ (j : ℕ) (u : Caller Metadata Selection Err), s.callers[j]? = some u →
    u.phase.isReturned = true →
    (∀ (i : ℕ) (v : Caller Metadata Selection Err), j < i → s.callers[i]? = some v →
      v.phase.isReturned = true → v.params = u.params) →
    ∃ selection, s.txSignRequest = some selection ∧ s.Answered u.params selection

theorem inv_init : Inv ({} : State Metadata Selection Err) := by
  refine ⟨⟨?_, ?_⟩, Request.linked_init, ?_, ?_, ?_, ?_, ?_⟩ <;> simp

/-- Answers stay. -/
theorem Answered.mono {s s' : State Metadata Selection Err}
    (h : Request.Extends s.selectCoinsRequest s'.selectCoinsRequest)
    {params : CoinSelectionsRequest Metadata} {selection : Selection}
    (ha : s.Answered params selection) : s'.Answered params selection := by
  obtain ⟨c, hc, ⟨wallet, hargs⟩, hout⟩ := ha
  obtain ⟨i, hi⟩ := List.mem_iff_getElem?.1 hc
  obtain ⟨c', hc', hargs', hout'⟩ := h i c hi
  exact ⟨c', List.mem_of_getElem? hc', ⟨wallet, hargs'.trans hargs⟩, hout' _ hout⟩

/-- Steps of the request that make no call. -/
theorem inv_sameCalls {s : State Metadata Selection Err} (h : Inv s)
    {r : Request.State (Args Metadata) Selection Err}
    (hsame : Request.SameCalls s.selectCoinsRequest r) (hlinked : Request.Linked r) :
    Inv { s with selectCoinsRequest := r } := by
  have hmono : ∀ {params selection}, s.Answered params selection →
      ({ s with selectCoinsRequest := r } : State Metadata Selection Err).Answered params selection :=
    Answered.mono hsame.extends_calls
  refine ⟨⟨?_, ?_⟩, hlinked, ?_, ?_, ?_, h.same, ?_⟩
  · exact fun u hu selection hs => hmono (h.returned u hu selection hs)
  · intro q hq
    obtain ⟨selection, hs, ha⟩ := h.confirmed q hq
    exact ⟨selection, hs, hmono ha⟩
  · intro u hu ho
    obtain ⟨p, c, wallet, hp, hc, hargs⟩ := h.own_promise u hu ho
    obtain ⟨c', hc', hargs', -⟩ := hsame.extends_calls p c hc
    exact ⟨p, c', wallet, hsame.promise_eq.trans hp, hc', hargs'.trans hargs⟩
  · intro p c' hp hc' ho'
    obtain ⟨c, hc, hargs, ho⟩ := hsame.open_before hc' ho'
    obtain ⟨u, hu, hphase, wallet, hw⟩ := h.issuer p c (hsame.promise_eq.symm.trans hp) hc ho
    exact ⟨u, hu, hphase, wallet, hargs.trans hw⟩
  · intro u hu p hp
    obtain ⟨c, wallet, hc, hargs⟩ := h.attached_own u hu p hp
    obtain ⟨c', hc', hargs', -⟩ := hsame.extends_calls p c hc
    exact ⟨c', wallet, hc', hargs'.trans hargs⟩
  · intro j u hu hret hlast
    obtain ⟨selection, hs, ha⟩ := h.latest j u hu hret hlast
    exact ⟨selection, hs, hmono ha⟩

/-- A new caller: its call goes to the backend, or the call the request is busy with has the same
    parameters. -/
theorem execute_promise {s : State Metadata Selection Err} (h : Inv s)
    {params : CoinSelectionsRequest Metadata} (hjoins : s.Joins params) (wallet : Wallet) :
    ∃ p c wallet', (s.selectCoinsRequest.execute (params.args wallet)).promise = some p
      ∧ (s.selectCoinsRequest.execute (params.args wallet)).calls[p]? = some c
      ∧ c.args = params.args wallet' := by
  unfold Request.State.execute
  split
  · next hw =>
      obtain ⟨p, c, hp, hc, ho⟩ := h.linked.waiting_open hw
      obtain ⟨u, hu, hphase, wallet', hargs⟩ := h.issuer p c hp hc ho
      have hopen : u.phase.isOpen = true := by
        rcases hphase with hphase | hphase <;> simp [hphase, Phase.isOpen]
      exact ⟨p, c, wallet', hp, hc, by rw [hargs, hjoins u hu hopen]⟩
  · exact ⟨_, _, wallet, rfl, List.getElem?_concat_length, rfl⟩

theorem inv_select {s : State Metadata Selection Err} (h : Inv s)
    {params : CoinSelectionsRequest Metadata} (hjoins : s.Joins params) (wallet : Option Wallet) :
    Inv (s.select params wallet) := by
  cases wallet with
  | none => exact h
  | some wallet =>
      have hext := Request.extends_execute s.selectCoinsRequest (params.args wallet)
      have hmono : ∀ {params' selection}, s.Answered params' selection →
          (s.select params (some wallet)).Answered params' selection := Answered.mono hext
      have hpromise := execute_promise h hjoins wallet
      refine ⟨⟨?_, ?_⟩, Request.linked_execute h.linked _, ?_, ?_, ?_, ?_, ?_⟩
      · intro u hu selection hs
        rcases List.mem_append.1 hu with hu | hu
        · exact hmono (h.returned u hu selection hs)
        · obtain rfl := List.mem_singleton.1 hu
          exact absurd hs (by simp)
      · intro q hq
        obtain ⟨selection, hs, ha⟩ := h.confirmed q hq
        exact ⟨selection, hs, hmono ha⟩
      · intro u hu ho
        rcases List.mem_append.1 hu with hu | hu
        · exact hjoins u hu ho ▸ hpromise
        · obtain rfl := List.mem_singleton.1 hu
          exact hpromise
      · intro p c hp hc ho
        by_cases hw : s.selectCoinsRequest.isWaitingForResponse = true
        · simp only [State.select, Request.State.execute, if_pos hw] at hp hc
          obtain ⟨u, hu, hphase, hargs⟩ := h.issuer p c hp hc ho
          exact ⟨u, List.mem_append_left _ hu, hphase, hargs⟩
        · simp only [State.select, Request.State.execute, if_neg hw, Option.some.injEq] at hp hc
          subst hp
          rw [List.getElem?_concat_length, Option.some.injEq] at hc
          exact ⟨_, List.mem_append_right _ (List.mem_singleton.2 rfl), .inl rfl, wallet, by rw [← hc]⟩
      · intro u hu p hp
        rcases List.mem_append.1 hu with hu | hu
        · obtain ⟨c, wallet', hc, hargs⟩ := h.attached_own u hu p hp
          obtain ⟨c', hc', hargs', -⟩ := hext p c hc
          exact ⟨c', wallet', hc', hargs'.trans hargs⟩
        · obtain rfl := List.mem_singleton.1 hu
          exact absurd hp (by simp)
      · intro i j u v hu hv hij ho
        rcases List.getElem?_concat_eq_some.1 hu with hu | ⟨rfl, -⟩
        · rcases List.getElem?_concat_eq_some.1 hv with hv | ⟨-, rfl⟩
          · exact h.same i j u v hu hv hij ho
          · exact (hjoins u (List.mem_of_getElem? hu) ho).symm
        · have hlt := (List.getElem?_eq_some_iff.1 hv).1
          simp only [State.select, List.length_append, List.length_singleton] at hlt
          omega
      · intro j u hu hret hlast
        rcases List.getElem?_concat_eq_some.1 hu with hu | ⟨-, rfl⟩
        · obtain ⟨selection, hs, ha⟩ := h.latest j u hu hret fun i v hij hv hv' =>
            hlast i v hij (List.getElem?_concat_eq_some.2 (.inl hv)) hv'
          exact ⟨selection, hs, hmono ha⟩
        · exact absurd hret (by simp [Phase.isReturned])

/-- The callers after one of them went on. -/
theorem goOn_callers {s : State Metadata Selection Err} {j n : ℕ} {phase : Phase Selection Err}
    {u : Caller Metadata Selection Err} (hu : (s.goOn j phase).callers[n]? = some u) :
    ∃ u₀, s.callers[n]? = some u₀ ∧ u.params = u₀.params
      ∧ ((n = j ∧ u.phase = phase) ∨ (n ≠ j ∧ u = u₀)) := by
  rcases List.getElem?_modify_eq_some.1 hu with ⟨rfl, u₀, hu₀, rfl⟩ | ⟨hne, hu₀⟩
  · exact ⟨u₀, hu₀, rfl, .inl ⟨rfl, rfl⟩⟩
  · exact ⟨u, hu₀, rfl, .inr ⟨Ne.symm hne, rfl⟩⟩

theorem inv_attach {s : State Metadata Selection Err} (h : Inv s) {j p : ℕ}
    {u₀ : Caller Metadata Selection Err} (hj : s.callers[j]? = some u₀) (haw : u₀.phase = .awaiting)
    (hp : s.selectCoinsRequest.promise = some p) : Inv (s.goOn j (.attached p)) := by
  have hcallers : ∀ u ∈ (s.goOn j (.attached p)).callers, ∃ v ∈ s.callers, u.params = v.params
      ∧ ((v.phase = .awaiting ∧ u.phase = .attached p) ∨ u = v) := by
    intro u hu
    obtain ⟨n, hn⟩ := List.mem_iff_getElem?.1 hu
    obtain ⟨v, hv, hparams, ⟨rfl, hphase⟩ | ⟨-, rfl⟩⟩ := goOn_callers hn
    · obtain rfl := Option.some.inj (hj.symm.trans hv)
      exact ⟨u₀, List.mem_of_getElem? hv, hparams, .inl ⟨haw, hphase⟩⟩
    · exact ⟨u, List.mem_of_getElem? hv, rfl, .inr rfl⟩
  refine ⟨⟨?_, h.confirmed⟩, h.linked, ?_, ?_, ?_, ?_, ?_⟩
  · intro u hu selection hs
    obtain ⟨v, hv, -, ⟨-, hphase⟩ | rfl⟩ := hcallers u hu
    · exact absurd (hphase.symm.trans hs) (by simp)
    · exact h.returned u hv selection hs
  · intro u hu ho
    obtain ⟨v, hv, hparams, ⟨hphase, -⟩ | rfl⟩ := hcallers u hu
    · exact hparams ▸ h.own_promise v hv (by simp [hphase, Phase.isOpen])
    · exact h.own_promise u hv ho
  · intro p' c hp' hc ho
    obtain ⟨v, hv, hphase, hargs⟩ := h.issuer p' c hp' hc ho
    obtain rfl := Option.some.inj (hp.symm.trans hp')
    obtain ⟨n, hn⟩ := List.mem_iff_getElem?.1 hv
    refine ⟨_, List.mem_of_getElem? (List.getElem?_modify_of_getElem? _ j hn), ?_⟩
    split
    · exact ⟨.inr rfl, hargs⟩
    · exact ⟨hphase, hargs⟩
  · intro u hu p' hp'
    obtain ⟨v, hv, hparams, ⟨hphase, hphase'⟩ | rfl⟩ := hcallers u hu
    · obtain rfl : p = p' := by simpa using hphase'.symm.trans hp'
      obtain ⟨q, c, wallet, hq, hc, hargs⟩ := h.own_promise v hv (by simp [hphase, Phase.isOpen])
      obtain rfl := Option.some.inj (hp.symm.trans hq)
      exact ⟨c, wallet, hc, hparams ▸ hargs⟩
    · exact h.attached_own u hv p' hp'
  · intro i k u v hu hv hik ho
    obtain ⟨u₁, hu₁, hup, hucase⟩ := goOn_callers hu
    obtain ⟨v₁, hv₁, hvp, -⟩ := goOn_callers hv
    have ho₁ : u₁.phase.isOpen = true := by
      rcases hucase with ⟨rfl, -⟩ | ⟨-, rfl⟩
      · obtain rfl := Option.some.inj (hj.symm.trans hu₁)
        simp [haw, Phase.isOpen]
      · exact ho
    rw [hup, hvp, h.same i k u₁ v₁ hu₁ hv₁ hik ho₁]
  · intro n u hu hret hlast
    obtain ⟨u₁, hu₁, -, ⟨-, hphase⟩ | ⟨-, rfl⟩⟩ := goOn_callers hu
    · exact absurd hret (by simp [hphase, Phase.isReturned])
    · refine h.latest n u hu₁ hret fun i v hij hv hv' => ?_
      have hne : j ≠ i := by
        rintro rfl
        obtain rfl := Option.some.inj (hj.symm.trans hv)
        exact absurd hv' (by simp [haw, Phase.isReturned])
      refine hlast i v hij ?_ hv'
      exact (List.getElem?_modify_ne _ _ hne).trans hv

/-- The phase a caller ends in. -/
def endPhase : Except Err Selection → Phase Selection Err
  | .ok selection => .returned selection
  | .error error => .threw error

theorem settle_callers (s : State Metadata Selection Err) (j : ℕ) (o : Except Err Selection) :
    (s.settle j o).callers = (s.goOn j (endPhase o)).callers := by
  cases o <;> rfl

theorem settle_selectCoinsRequest (s : State Metadata Selection Err) (j : ℕ)
    (o : Except Err Selection) : (s.settle j o).selectCoinsRequest = s.selectCoinsRequest := by
  cases o <;> rfl

/-- A continuation leaves no caller behind that is not as before, but its own, which has ended. -/
theorem mem_settle_callers {s : State Metadata Selection Err} {j : ℕ} {o : Except Err Selection}
    {u : Caller Metadata Selection Err} (hu : u ∈ (s.settle j o).callers) :
    (∃ u₀, s.callers[j]? = some u₀ ∧ u.params = u₀.params ∧ u.phase = endPhase o)
      ∨ u ∈ s.callers := by
  rw [settle_callers] at hu
  obtain ⟨n, hn⟩ := List.mem_iff_getElem?.1 hu
  obtain ⟨v, hv, hparams, ⟨rfl, hphase⟩ | ⟨-, rfl⟩⟩ := goOn_callers hn
  · exact .inl ⟨v, hv, hparams, hphase⟩
  · exact .inr (List.mem_of_getElem? hv)

/-- The caller `n` has what is in `txSignRequest` after the continuation of `j`. -/
theorem latest_settle {s : State Metadata Selection Err} (h : Inv s) {j : ℕ}
    {u₀ : Caller Metadata Selection Err} (hj : s.callers[j]? = some u₀)
    (hopen : u₀.phase.isOpen = true) {o : Except Err Selection}
    (hans : ∀ selection, o = .ok selection → s.Answered u₀.params selection)
    {n : ℕ} {u : Caller Metadata Selection Err} (hu : (s.settle j o).callers[n]? = some u)
    (hret : u.phase.isReturned = true)
    (hlast : ∀ (i : ℕ) (v : Caller Metadata Selection Err), n < i →
      (s.settle j o).callers[i]? = some v → v.phase.isReturned = true → v.params = u.params) :
    ∃ selection, (s.settle j o).txSignRequest = some selection
      ∧ s.Answered u.params selection := by
  rw [settle_callers] at hu
  obtain ⟨u₁, hu₁, hparams, hcase⟩ := goOn_callers hu
  cases o with
  | ok selection =>
      refine ⟨selection, rfl, ?_⟩
      have heq : u.params = u₀.params := by
        rcases Nat.lt_trichotomy n j with hlt | rfl | hgt
        · -- the caller came before, so the later one has its parameters
          refine (hlast j { u₀ with phase := .returned selection } hlt ?_ rfl).symm
          rw [settle_callers]
          exact (List.getElem?_modify_eq _ _ _).trans (by rw [hj]; rfl)
        · obtain rfl := Option.some.inj (hj.symm.trans hu₁)
          exact hparams
        · exact hparams.trans (h.same j n u₀ u₁ hj hu₁ hgt hopen)
      exact heq ▸ hans selection rfl
  | error error =>
      rcases hcase with ⟨-, hphase⟩ | ⟨-, rfl⟩
      · exact absurd hret (by simp [hphase, endPhase, Phase.isReturned])
      · refine h.latest n u hu₁ hret fun i v hni hv hv' => ?_
        have hne : j ≠ i := by
          rintro rfl
          obtain rfl := Option.some.inj (hj.symm.trans hv)
          cases hphase : u₀.phase <;> simp [hphase, Phase.isOpen, Phase.isReturned] at hopen hv'
        refine hlast i v hni ?_ hv'
        rw [settle_callers]
        exact (List.getElem?_modify_ne _ _ hne).trans hv

/-- The continuation of a caller. -/
theorem inv_settle {s : State Metadata Selection Err} (h : Inv s) {j p : ℕ}
    {u₀ : Caller Metadata Selection Err} (hj : s.callers[j]? = some u₀)
    (hatt : u₀.phase = .attached p) {c : Request.MethodCall (Args Metadata) Selection Err}
    (hc : s.selectCoinsRequest.calls[p]? = some c) {o : Except Err Selection}
    (ho : c.outcome = some o) : Inv (s.settle j o) := by
  have hrequest := settle_selectCoinsRequest s j o
  have hopen : u₀.phase.isOpen = true := by simp [hatt, Phase.isOpen]
  have hans : ∀ selection, o = .ok selection → s.Answered u₀.params selection := by
    rintro selection rfl
    obtain ⟨c', wallet, hc', hargs⟩ := h.attached_own u₀ (List.mem_of_getElem? hj) p hatt
    obtain rfl := Option.some.inj (hc.symm.trans hc')
    exact ⟨c, List.mem_of_getElem? hc, ⟨wallet, hargs⟩, ho⟩
  refine ⟨⟨?_, ?_⟩, ?_, ?_, ?_, ?_, ?_, ?_⟩
  · intro u hu selection hs
    simp only [State.Answered, hrequest]
    rcases mem_settle_callers hu with ⟨v, hv, hparams, hphase⟩ | hu
    · obtain rfl := Option.some.inj (hj.symm.trans hv)
      cases o with
      | ok selection' =>
          obtain rfl : selection' = selection := by simpa [endPhase] using hphase.symm.trans hs
          exact hparams ▸ hans selection' rfl
      | error error => exact absurd (hphase.symm.trans hs) (by simp [endPhase])
    · exact h.returned u hu selection hs
  · simp only [State.Answered, hrequest]
    cases o <;> exact h.confirmed
  · rw [hrequest]
    exact h.linked
  · intro u hu ho'
    rw [hrequest]
    rcases mem_settle_callers hu with ⟨v, -, -, hphase⟩ | hu
    · cases o <;> exact absurd ho' (by simp [hphase, endPhase, Phase.isOpen])
    · exact h.own_promise u hu ho'
  · intro p' c' hp' hc' hopen'
    rw [hrequest] at hp' hc'
    obtain ⟨v, hv, hphase, hargs⟩ := h.issuer p' c' hp' hc' hopen'
    obtain ⟨n, hn⟩ := List.mem_iff_getElem?.1 hv
    -- the caller that goes on has its answer, so it does not wait for the open promise
    have hne : j ≠ n := by
      rintro rfl
      obtain rfl := Option.some.inj (hj.symm.trans hn)
      rcases hphase with hphase | hphase
      · exact absurd (hatt.symm.trans hphase) (by simp)
      · obtain rfl : p = p' := by simpa using hatt.symm.trans hphase
        obtain rfl := Option.some.inj (hc.symm.trans hc')
        exact absurd (hopen'.symm.trans ho) (by simp)
    refine ⟨v, List.mem_of_getElem? (i := n) ?_, hphase, hargs⟩
    rw [settle_callers]
    exact (List.getElem?_modify_ne _ _ hne).trans hn
  · intro u hu p' hp'
    rw [hrequest]
    rcases mem_settle_callers hu with ⟨v, -, -, hphase⟩ | hu
    · cases o <;> exact absurd (hphase.symm.trans hp') (by simp [endPhase])
    · exact h.attached_own u hu p' hp'
  · intro i k u v hu hv hik ho'
    rw [settle_callers] at hu hv
    obtain ⟨u₁, hu₁, -, ⟨-, hphase⟩ | ⟨-, rfl⟩⟩ := goOn_callers hu
    · cases o <;> exact absurd ho' (by simp [hphase, endPhase, Phase.isOpen])
    · obtain ⟨v₁, hv₁, hparams, -⟩ := goOn_callers hv
      exact hparams.trans (h.same i k u v₁ hu₁ hv₁ hik ho')
  · intro n u hu hret hlast
    simp only [State.Answered, hrequest]
    exact latest_settle h hj hopen hans hu hret hlast

theorem inv_confirm {s : State Metadata Selection Err} (h : Inv s) {j : ℕ}
    {u : Caller Metadata Selection Err} (hj : s.callers[j]? = some u)
    (hret : u.phase.isReturned = true) (hok : SameRequest s (.confirm j)) :
    Inv { s with confirmed := s.confirmed ++ [(u.params, s.txSignRequest)] } := by
  refine ⟨⟨h.returned, ?_⟩, h.linked, h.own_promise, h.issuer, h.attached_own, h.same, h.latest⟩
  intro q hq
  rcases List.mem_append.1 hq with hq | hq
  · exact h.confirmed q hq
  · obtain rfl := List.mem_singleton.1 hq
    refine h.latest j u hj hret fun i v hij hv hv' => hok u hj v ?_ hv'
    refine List.mem_of_getElem? (i := i - (j + 1)) ?_
    rw [List.getElem?_drop, Nat.add_sub_cancel' hij]
    exact hv

/-! ## Runs -/

theorem inv_step {s s' : State Metadata Selection Err} {e : Event Metadata Selection Err} (h : Inv s)
    (hok : SameRequest s e) (hstep : step s e = some s') : Inv s' := by
  cases e with
  | selectCoins params wallet => exact Option.some.inj hstep ▸ inv_select h hok wallet
  | selectDelegationCoins params wallet => exact Option.some.inj hstep ▸ inv_select h hok wallet
  | reset =>
      refine Option.some.inj hstep ▸ inv_sameCalls h (Request.sameCalls_reset _) ?_
      exact Request.linked_step h.linked (e := .reset) rfl
  | tick i =>
      obtain ⟨r, hr, rfl⟩ := Option.map_eq_some_iff.1 hstep
      exact inv_sameCalls h (Request.sameCalls_step (by simp) hr) (Request.linked_step h.linked hr)
  | respond i outcome =>
      obtain ⟨r, hr, rfl⟩ := Option.map_eq_some_iff.1 hstep
      exact inv_sameCalls h (Request.sameCalls_step (by simp) hr) (Request.linked_step h.linked hr)
  | attach j =>
      simp only [step] at hstep
      split at hstep
      · next p hphase hp =>
          obtain ⟨u, hu, haw⟩ := Option.map_eq_some_iff.1 hphase
          exact Option.some.inj hstep ▸ inv_attach h hu haw hp
      · exact absurd hstep (by simp)
  | settle j =>
      simp only [step] at hstep
      split at hstep
      · next p hphase =>
          obtain ⟨u, hu, hatt⟩ := Option.map_eq_some_iff.1 hphase
          obtain ⟨o, ho, rfl⟩ := Option.map_eq_some_iff.1 hstep
          obtain ⟨c, hc, hout⟩ := Option.bind_eq_some_iff.1 ho
          exact inv_settle h hu hatt hc hout
      · exact absurd hstep (by simp)
  | confirm j =>
      simp only [step] at hstep
      split at hstep
      · next params selection hu =>
          exact Option.some.inj hstep ▸ inv_confirm h hu rfl hok
      · exact absurd hstep (by simp)

theorem inv_reaches {s : State Metadata Selection Err}
    (h : (machine Metadata Selection Err).Reaches SameRequest s) : Inv s :=
  h.invariant (P := Inv) inv_init fun _ _ _ _ hok hi hstep => inv_step hi hok hstep

/-! ## The main results -/

/-- **Coin selections match their callers.** They do in every state of a run in which callers that
    overlap ask for the same thing, and no form is confirmed after a later selection of other coins. -/
theorem matched_of_sameRequest {s : State Metadata Selection Err}
    (h : (machine Metadata Selection Err).Reaches SameRequest s) : Matched s :=
  (inv_reaches h).toMatched

section Runs

/-- A payment of some amount from one wallet to one address. -/
def payment (amount : ℕ) : PaymentRequest Unit := ⟨"w1", "addr1", amount, none, none⟩

/-- The wallet of these payments. -/
def payer : Wallet := ⟨"w1", 100, 100, 0⟩

/-- The amount is edited twice, each time after the answer for the one before, the last one fails, and
    it is edited back and confirmed. -/
def editsInTurn : List (Event Unit ℕ String) :=
  [.selectCoins (payment 1) payer, .attach 0, .tick 0, .respond 0 (.ok 1001), .settle 0,
    .selectCoins (payment 2) payer, .attach 1, .tick 1, .respond 1 (.error "not enough"), .settle 1,
    .reset, .selectCoins (payment 1) payer, .attach 2, .tick 2, .respond 2 (.ok 1002), .settle 2,
    .confirm 2]

/-- After `editsInTurn` the last selection is the one in force, and it matches. -/
theorem matched_of_editsInTurn :
    ∃ s : State Unit ℕ String, s.txSignRequest = some 1002 ∧ s.confirmed.length = 1 ∧ Matched s :=
  ⟨_, rfl, rfl, matched_of_sameRequest (.exec editsInTurn .init (by decide) rfl)⟩

/-- The amount is edited while the request waits for the answer for the amount before. -/
def fastEdit : List (Event Unit ℕ String) :=
  [.selectCoins (payment 1) payer, .attach 0, .tick 0, .selectCoins (payment 2) payer, .attach 1,
    .respond 0 (.ok 1001), .settle 0, .settle 1, .confirm 1]

/-- After `fastEdit` the caller with amount 2 has returned the selection for amount 1, which was the one
    in force when its form was confirmed. The backend was never asked for amount 2. -/
theorem fast_edit_gets_selection_of_old_amount :
    ∃ s : State Unit ℕ String, (machine _ _ _).Reaches Machine.anyStep s
      ∧ s.callers[1]? = some ⟨.payment (payment 2), .returned 1001⟩
      ∧ s.confirmed = [(.payment (payment 2), some 1001)]
      ∧ (s.selectCoinsRequest.calls.map fun c => c.args.payments) = [some ⟨"addr1", 1, none⟩]
      ∧ ¬ Matched s := by
  refine ⟨_, Machine.reaches_of_exec fastEdit rfl, rfl, rfl, rfl, fun h => ?_⟩
  obtain ⟨c, hc, ⟨wallet, hargs⟩, -⟩ := h.returned ⟨.payment (payment 2), .returned 1001⟩
    (List.mem_of_getElem? (i := 1) rfl) 1001 rfl
  have hamount : c.args.payments = some ⟨"addr1", 2, none⟩ := by rw [hargs]; rfl
  revert hamount
  clear hargs
  revert c
  decide

end Runs

end Klarity.HardwareWallets.SelectCoins
