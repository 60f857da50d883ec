import Klarity.Renderer.Stores.HardwareWallets.Certificates
import Klarity.Renderer.Stores.Lib.Request.Proofs

set_option autoImplicit false

/-! # Certificates match their addresses when they share one path

A request refuses a call while it waits for the response to another one, so all look-ups that begin in
one turn end with the answer to the first: they stay in step (`InStep`), which keeps the order of the
pushes, and they all push the address of one path. -/

namespace Klarity

/-! ## Calls that a request shares -/

namespace Request

variable {Args Result Err : Type} {r r' : State Args Result Err} {a : Args}

/-- The call whose response the request waits for. -/
def State.pending (r : State Args Result Err) : Option (MethodCall Args Result Err) :=
  if r.isWaitingForResponse then r.promise.bind fun p => r.calls[p]? else none

/-- Who awaits the request now gets the response to a call with the arguments `a`. -/
structure Serves (a : Args) (r : State Args Result Err) : Prop where
  waiting : r.isWaitingForResponse = true
  promise : ∃ p c, r.promise = some p ∧ r.calls[p]? = some c ∧ c.args = a

theorem serves_execute (h : Linked r) (hp : ∀ c ∈ r.pending, c.args = a) : Serves a (r.execute a) := by
  by_cases hw : r.isWaitingForResponse = true
  · obtain ⟨p, c, hpromise, hc, -⟩ := h.waiting_open hw
    have hpending : r.pending = some c := by
      unfold State.pending
      rw [if_pos hw, hpromise]
      exact hc
    rw [execute_of_waiting hw]
    exact ⟨hw, p, c, hpromise, hc, hp c hpending⟩
  · unfold State.execute
    rw [if_neg hw]
    exact ⟨rfl, r.calls.length, _, rfl, List.getElem?_concat_length, rfl⟩

/-- The calls after the first one are refused. -/
theorem foldl_execute_of_waiting {α : Type} (f : α → Args) (l : List α)
    (h : r.isWaitingForResponse = true) : l.foldl (fun r x => r.execute (f x)) r = r := by
  induction l with
  | nil => rfl
  | cons x l ih =>
      rw [List.foldl_cons, execute_of_waiting h]
      exact ih

theorem serves_foldl_execute {α : Type} (f : α → Args) {l : List α} (hl : l ≠ [])
    (hf : ∀ x ∈ l, f x = a) (h : Linked r) (hp : ∀ c ∈ r.pending, c.args = a) :
    Serves a (l.foldl (fun r x => r.execute (f x)) r) := by
  cases l with
  | nil => exact absurd rfl hl
  | cons x l =>
      have hserves := serves_execute h hp
      rw [List.foldl_cons, hf x List.mem_cons_self, foldl_execute_of_waiting f l hserves.waiting]
      exact hserves

theorem linked_foldl_execute {α : Type} (f : α → Args) (l : List α) (h : Linked r) :
    Linked (l.foldl (fun r x => r.execute (f x)) r) := by
  induction l generalizing r with
  | nil => exact h
  | cons x l ih => exact ih (linked_execute h (f x))

theorem extends_foldl_execute {α : Type} (f : α → Args) (l : List α) :
    Extends r (l.foldl (fun r x => r.execute (f x)) r) := by
  induction l generalizing r with
  | nil => exact Extends.refl r
  | cons x l ih =>
      intro i c hc
      obtain ⟨c₁, hc₁, hargs₁, ho₁⟩ := extends_execute r (f x) i c hc
      obtain ⟨c₂, hc₂, hargs₂, ho₂⟩ := ih i c₁ hc₁
      exact ⟨c₂, hc₂, hargs₂.trans hargs₁, fun o ho => ho₂ o (ho₁ o ho)⟩

end Request

namespace HardwareWallets.Certificates

open Request (Serves Linked Extends)

variable {backend : Backend} {s s' : State} {g : Signing}

/-! ## One path -/

/-- All certificates have the same path, and a pending request of another signing function has it too. -/
def SamePath (backend : Backend) (s : State) : Event → Prop
  | .sign walletId certificates =>
      (∀ c ∈ certificates, ∀ d ∈ certificates,
        publicKeyParams walletId c.rewardAccountPath = publicKeyParams walletId d.rewardAccountPath) ∧
      ∀ call ∈ s.getPublicKeyRequest.pending, ∀ c ∈ certificates,
        call.args = publicKeyParams walletId c.rewardAccountPath
  | .publicKeyAnswer i true => ∀ call ∈ s.getPublicKeyRequest.calls[i]?,
      ∀ pending ∈ s.constructAddressRequest.pending, pending.args = backend.getPublicKey call.args
  | _ => True

instance decidableSamePath (s : State) : (e : Event) → Decidable (SamePath backend s e)
  | .sign .. => inferInstanceAs (Decidable (_ ∧ ∀ call ∈ s.getPublicKeyRequest.pending, _))
  | .publicKeyAnswer i true =>
      inferInstanceAs (Decidable (∀ call ∈ s.getPublicKeyRequest.calls[i]?,
        ∀ pending ∈ s.constructAddressRequest.pending, _))
  | .publicKeyAnswer _ false | .publicKeyTick _ | .addressTick _ | .addressAnswer .. => isTrue trivial

/-- The certificate of the body, with the address of its own path. -/
def ownCert (backend : Backend) (walletId : String) (c : CoinSelectionCertificate) : SophieTxCert :=
  { type := c.certificateType
    accountAddress := rewardAccountAddress backend walletId c.rewardAccountPath
    pool := c.pool }

/-- What is known of a signing function whose look-ups are all in this phase. -/
def InPhase (backend : Backend) (s : State) (g : Signing) : Phase → Prop
  | .publicKey promise => g.unsignedTxCerts = [] ∧ ∀ c ∈ g.certificates, ∃ p call, promise = some p ∧
      s.getPublicKeyRequest.calls[p]? = some call ∧
        call.args = publicKeyParams g.walletId c.rewardAccountPath
  | .address promise => g.unsignedTxCerts = [] ∧ ∀ c ∈ g.certificates, ∃ p call, promise = some p ∧
      s.constructAddressRequest.calls[p]? = some call ∧
        call.args = backend.getPublicKey (publicKeyParams g.walletId c.rewardAccountPath)
  | .pushed => g.unsignedTxCerts = g.certificates.map (ownCert backend g.walletId)
  | .failed => g.unsignedTxCerts = []

/-- The look-ups of a signing function are in step. -/
def InStep (backend : Backend) (s : State) (g : Signing) : Prop :=
  ∃ phase, g.phases = g.certificates.map (fun _ => phase) ∧ InPhase backend s g phase

structure Inv (backend : Backend) (s : State) : Prop where
  publicKey : Linked s.getPublicKeyRequest
  address : Linked s.constructAddressRequest
  inStep : ∀ g ∈ s.signings, InStep backend s g

theorem inv_init : Inv backend {} :=
  ⟨Request.linked_init, Request.linked_init, fun g hg => absurd hg (by simp)⟩

/-- Calls stay, with their arguments. -/
theorem InPhase.extends {phase : Phase} (h : InPhase backend s g phase)
    (hkey : Extends s.getPublicKeyRequest s'.getPublicKeyRequest)
    (haddress : Extends s.constructAddressRequest s'.constructAddressRequest) :
    InPhase backend s' g phase := by
  cases phase with
  | publicKey promise =>
      refine ⟨h.1, fun c hc => ?_⟩
      obtain ⟨p, call, hp, hcall, hargs⟩ := h.2 c hc
      obtain ⟨call', hcall', hargs', -⟩ := hkey p call hcall
      exact ⟨p, call', hp, hcall', hargs'.trans hargs⟩
  | address promise =>
      refine ⟨h.1, fun c hc => ?_⟩
      obtain ⟨p, call, hp, hcall, hargs⟩ := h.2 c hc
      obtain ⟨call', hcall', hargs', -⟩ := haddress p call hcall
      exact ⟨p, call', hp, hcall', hargs'.trans hargs⟩
  | pushed => exact h
  | failed => exact h

theorem InStep.extends (h : InStep backend s g)
    (hkey : Extends s.getPublicKeyRequest s'.getPublicKeyRequest)
    (haddress : Extends s.constructAddressRequest s'.constructAddressRequest) : InStep backend s' g := by
  obtain ⟨phase, hphases, hphase⟩ := h
  exact ⟨phase, hphases, hphase.extends hkey haddress⟩

/-! ## One signing function goes on -/

/-- All look-ups are in the phase that goes on, or none is. -/
theorem phases_goOn {phase phase' phase'' : Phase} (h : g.phases = g.certificates.map fun _ => phase'') :
    (g.goOn phase phase').phases =
      g.certificates.map fun _ => if phase'' = phase then phase' else phase'' := by
  unfold Signing.goOn
  rw [h, List.map_map]
  rfl

/-- The look-ups that did not await the promise are as before. -/
theorem InStep.goOn {phase phase' : Phase} (h : InStep backend s g)
    (hgo : (g.phases = g.certificates.map fun _ => phase) → InPhase backend s g phase →
      InPhase backend s' (g.goOn phase phase') phase')
    (hstay : ∀ phase'', phase'' ≠ phase → InPhase backend s g phase'' →
      InPhase backend s' (g.goOn phase phase') phase'') :
    InStep backend s' (g.goOn phase phase') := by
  obtain ⟨phase'', hphases, hphase⟩ := h
  refine ⟨_, phases_goOn hphases, ?_⟩
  by_cases heq : phase'' = phase
  · rw [if_pos heq]
    subst heq
    exact hgo hphases hphase
  · rw [if_neg heq]
    exact hstay phase'' heq hphase

theorem InStep.fail (h : InStep backend s g) {phase : Phase} (hphase : phase ≠ .pushed) :
    InStep backend s (g.goOn phase .failed) := by
  refine h.goOn (fun _ hin => ?_) fun phase'' _ hin => ?_
  · cases phase with
    | publicKey promise => exact hin.1
    | address promise => exact hin.1
    | pushed => exact absurd rfl hphase
    | failed => exact hin
  · cases phase'' with
    | _ => exact hin

/-- The pushes come in the order of the certificates. -/
theorem pushes_eq {p : ℕ} (h : g.phases = g.certificates.map fun _ => .address (some p)) :
    (g.certificates.zip g.phases).filter (fun (_, phase) => phase = .address (some p)) =
      g.certificates.map fun c => (c, .address (some p)) := by
  rw [h, List.zip_map_const]
  refine List.filter_eq_self.2 fun x hx => ?_
  obtain ⟨c, -, rfl⟩ := List.mem_map.1 hx
  simp

theorem pushes_eq_nil {p : ℕ} {phase : Phase} (h : g.phases = g.certificates.map fun _ => phase)
    (hne : phase ≠ .address (some p)) :
    (g.certificates.zip g.phases).filter (fun (_, phase) => phase = .address (some p)) = [] := by
  rw [h, List.zip_map_const]
  refine List.filter_eq_nil_iff.2 fun x hx => ?_
  obtain ⟨c, -, rfl⟩ := List.mem_map.1 hx
  simpa using hne

/-- The address of their path comes in for all certificates. -/
theorem InStep.gotAddress {i : ℕ} {call : Request.MethodCall String String Unit} (h : InStep backend s g)
    (hcall : s.constructAddressRequest.calls[i]? = some call)
    (hkey : Extends s.getPublicKeyRequest s'.getPublicKeyRequest)
    (haddress : Extends s.constructAddressRequest s'.constructAddressRequest) :
    InStep backend s' (g.gotAddress i (backend.constructAddress call.args)) := by
  obtain ⟨phase, hphases, hphase⟩ := h
  refine ⟨_, phases_goOn hphases, ?_⟩
  by_cases heq : phase = .address (some i)
  · subst heq
    rw [if_pos rfl]
    show g.unsignedTxCerts ++ _ = _
    rw [hphase.1, pushes_eq hphases, List.nil_append, List.map_map]
    refine List.map_congr_left fun c hc => ?_
    obtain ⟨p, call', hp, hcall', hargs⟩ := hphase.2 c hc
    obtain rfl := Option.some.inj hp
    obtain rfl := Option.some.inj (hcall.symm.trans hcall')
    show SophieTxCert.mk _ (backend.constructAddress call.args) _ = _
    rw [hargs]
    rfl
  · rw [if_neg heq]
    have hsame : (g.gotAddress i (backend.constructAddress call.args)).unsignedTxCerts =
        g.unsignedTxCerts := by
      show g.unsignedTxCerts ++ _ = _
      rw [pushes_eq_nil hphases heq, List.map_nil, List.append_nil]
    have hext := hphase.extends hkey haddress
    cases phase with
    | publicKey promise => exact ⟨hsame.trans hext.1, hext.2⟩
    | address promise => exact ⟨hsame.trans hext.1, hext.2⟩
    | pushed => exact hsame.trans hext
    | failed => exact hsame.trans hext

/-! ## Steps and runs -/

/-- The first requests of a signing function. -/
theorem Inv.sign {walletId : String} {certificates : List CoinSelectionCertificate} (h : Inv backend s)
    (hok : SamePath backend s (.sign walletId certificates)) :
    Inv backend (s.sign walletId certificates) := by
  obtain ⟨hsame, hpending⟩ := hok
  have hext : Extends s.getPublicKeyRequest (s.sign walletId certificates).getPublicKeyRequest :=
    Request.extends_foldl_execute _ certificates
  refine ⟨Request.linked_foldl_execute _ certificates h.publicKey, h.address, fun g hg => ?_⟩
  rcases List.mem_append.1 hg with hg | hg
  · exact (h.inStep g hg).extends hext (Extends.refl _)
  · obtain rfl := List.mem_singleton.1 hg
    refine ⟨_, rfl, rfl, fun c hc => ?_⟩
    have hserves := Request.serves_foldl_execute
      (fun d : CoinSelectionCertificate => publicKeyParams walletId d.rewardAccountPath)
      (List.ne_nil_of_mem hc) (fun d hd => hsame d hd c hc) h.publicKey
      fun call hcall => hpending call hcall c hc
    exact hserves.promise

/-- The second requests of those who awaited the public key. -/
theorem Inv.gotPublicKey {i : ℕ} {call : Request.MethodCall PublicKeyParams String Unit}
    (h : Inv backend s) (hcall : s.getPublicKeyRequest.calls[i]? = some call)
    (hpending : ∀ pending ∈ s.constructAddressRequest.pending,
      pending.args = backend.getPublicKey call.args) :
    Inv backend (s.gotPublicKey i (backend.getPublicKey call.args)) := by
  have hext : Extends s.constructAddressRequest
      (s.gotPublicKey i (backend.getPublicKey call.args)).constructAddressRequest :=
    Request.extends_foldl_execute _ _
  refine ⟨h.publicKey, Request.linked_foldl_execute _ _ h.address, fun g hg => ?_⟩
  obtain ⟨g, hmem, rfl⟩ := List.mem_map.1 hg
  refine (h.inStep g hmem).goOn (fun hphases hphase => ?_) fun phase _ hphase => ?_
  · refine ⟨hphase.1, fun c hc => ?_⟩
    obtain ⟨p, call', hp, hcall', hargs⟩ := hphase.2 c hc
    obtain rfl := Option.some.inj hp
    obtain rfl := Option.some.inj (hcall.symm.trans hcall')
    have hwaiting : Phase.publicKey (some i) ∈ s.signings.flatMap fun g =>
        g.phases.filter fun p => p = .publicKey (some i) := by
      refine List.mem_flatMap.2 ⟨g, hmem, List.mem_filter.2 ⟨?_, by simp⟩⟩
      rw [hphases]
      exact List.mem_map.2 ⟨c, hc, rfl⟩
    have hserves := Request.serves_foldl_execute (fun _ : Phase => backend.getPublicKey call.args)
      (List.ne_nil_of_mem hwaiting) (fun _ _ => rfl) h.address hpending
    obtain ⟨p, pending, hp, hpending, hstake⟩ := hserves.promise
    exact ⟨p, pending, hp, hpending, hstake.trans (congrArg backend.getPublicKey hargs)⟩
  · have hext : InPhase backend (s.gotPublicKey i (backend.getPublicKey call.args)) g phase :=
      hphase.extends (Extends.refl _) hext
    cases phase with
    | _ => exact hext

/-- A timer or an answer of the two requests, of which one has gone on. -/
theorem Inv.requests {publicKeyRequest : Request.State PublicKeyParams String Unit}
    {addressRequest : Request.State String String Unit} (h : Inv backend s)
    (hkey : Linked publicKeyRequest) (hkeys : Extends s.getPublicKeyRequest publicKeyRequest)
    (haddress : Linked addressRequest) (haddresses : Extends s.constructAddressRequest addressRequest) :
    Inv backend ⟨publicKeyRequest, addressRequest, s.signings⟩ :=
  ⟨hkey, haddress, fun g hg => (h.inStep g hg).extends hkeys haddresses⟩

theorem Inv.fail (h : Inv backend s) {phase : Phase} (hphase : phase ≠ .pushed) :
    Inv backend { s with signings := fail s.signings phase } := by
  refine ⟨h.publicKey, h.address, fun g hg => ?_⟩
  obtain ⟨g, hmem, rfl⟩ := List.mem_map.1 hg
  exact (h.inStep g hmem).fail hphase

theorem inv_step {e : Event} (h : Inv backend s) (hok : SamePath backend s e)
    (hs : step backend s e = some s') : Inv backend s' := by
  have hrefl {Args : Type} (r : Request.State Args String Unit) : Extends r r := Extends.refl r
  cases e with
  | sign walletId certificates => exact Option.some.inj hs ▸ h.sign hok
  | publicKeyTick i =>
      obtain ⟨request, hstep, rfl⟩ := Option.map_eq_some_iff.1 hs
      have hsame := Request.sameCalls_step (by simp) hstep
      exact h.requests (Request.linked_step h.publicKey hstep) hsame.extends_calls h.address (hrefl _)
  | publicKeyAnswer i ok =>
      obtain ⟨call, hcall, hs⟩ := Option.bind_eq_some_iff.1 hs
      obtain ⟨request, hstep, rfl⟩ := Option.map_eq_some_iff.1 hs
      have hsame := Request.sameCalls_step (by simp) hstep
      have hinv := h.requests (Request.linked_step h.publicKey hstep) hsame.extends_calls h.address (hrefl _)
      cases ok with
      | true =>
          obtain ⟨call', hcall', hargs, -⟩ := hsame.extends_calls i call hcall
          have hgot := hinv.gotPublicKey hcall' fun pending hp => by
            rw [hargs]
            exact hok call hcall pending hp
          rw [hargs] at hgot
          exact hgot
      | false => exact hinv.fail (by simp)
  | addressTick i =>
      obtain ⟨request, hstep, rfl⟩ := Option.map_eq_some_iff.1 hs
      have hsame := Request.sameCalls_step (by simp) hstep
      exact h.requests h.publicKey (hrefl _) (Request.linked_step h.address hstep) hsame.extends_calls
  | addressAnswer i ok =>
      obtain ⟨call, hcall, hs⟩ := Option.bind_eq_some_iff.1 hs
      obtain ⟨request, hstep, rfl⟩ := Option.map_eq_some_iff.1 hs
      have hsame := Request.sameCalls_step (by simp) hstep
      have hlinked := Request.linked_step h.address hstep
      cases ok with
      | true =>
          refine ⟨h.publicKey, hlinked, fun g hg => ?_⟩
          obtain ⟨g, hmem, rfl⟩ := List.mem_map.1 hg
          exact (h.inStep g hmem).gotAddress hcall (hrefl _) hsame.extends_calls
      | false =>
          have hinv := h.requests h.publicKey (hrefl _) hlinked hsame.extends_calls
          exact hinv.fail (by simp)

theorem inv_reaches (h : (machine backend).Reaches (SamePath backend) s) : Inv backend s :=
  h.invariant inv_init fun _ _ _ _ hok hi hs => inv_step hi hok hs

/-- **Certificates match their addresses.** While the look-ups that overlap are of one path, every order
    of the answers gives the body the certificates that the device gets, each with its own address. -/
theorem certificates_matched_of_samePath (h : (machine backend).Reaches (SamePath backend) s)
    (hg : g ∈ s.signings) (hd : g.done) : Matched backend g := by
  have hcerts : g.unsignedTxCerts = g.certificates.map (ownCert backend g.walletId) := by
    obtain ⟨phase, hphases, hphase⟩ := (inv_reaches h).inStep g hg
    by_cases hpushed : phase = .pushed
    · subst hpushed
      exact hphase
    · have hnil : g.certificates = [] := by
        refine List.eq_nil_iff_forall_not_mem.2 fun c hc => hpushed (hd phase ?_)
        rw [hphases]
        exact List.mem_map.2 ⟨c, hc, rfl⟩
      rw [hnil]
      cases phase with
      | publicKey promise => exact hphase.1
      | address promise => exact hphase.1
      | pushed => exact absurd rfl hpushed
      | failed => exact hphase
  refine ⟨?_, fun prepareCertificate i data hi => ?_⟩
  · rw [hcerts, List.length_map]
  · obtain ⟨c, hc, rfl⟩ : ∃ c, g.certificates[i]? = some c ∧ prepareCertificate c = data := by
      simpa [Signing.certificatesData] using hi
    refine ⟨c, hc, rfl, ?_⟩
    rw [hcerts, List.getElem?_map, hc]
    rfl

def sampleBackend : Backend where
  getPublicKey params := "stake_vk/" ++ params.role.getD "" ++ "/" ++ params.index.getD ""
  constructAddress stake := "stake1/" ++ stake

/-- A registration of the reward account and a delegation. -/
def sampleCertificates (path path' : List String) : List CoinSelectionCertificate :=
  [⟨none, .registerRewardAccount, path⟩, ⟨some "pool1", .joinPool, path'⟩]

/-- The answers to the only two calls that the requests make. -/
def signAndAnswer (path path' : List String) : List Event :=
  [.sign "wallet" (sampleCertificates path path'), .publicKeyTick 0, .publicKeyAnswer 0 true,
    .addressTick 0, .addressAnswer 0 true]

def stakePath (index : String) : List String := ["1852H", "1815H", "0H", "2", index]

/-- The signing function when all its look-ups have pushed the address of this path. -/
def signedWith (path path' accountPath : List String) : Signing :=
  let address := rewardAccountAddress sampleBackend "wallet" accountPath
  { walletId := "wallet"
    certificates := sampleCertificates path path'
    phases := [.pushed, .pushed]
    unsignedTxCerts := [⟨.registerRewardAccount, address, none⟩, ⟨.joinPool, address, some "pool1"⟩] }

theorem certificates_matched_on_one_path :
    Matched sampleBackend (signedWith (stakePath "0") (stakePath "0") (stakePath "0")) := by
  have h : (machine sampleBackend).Reaches (SamePath sampleBackend) _ :=
    .exec (signAndAnswer (stakePath "0") (stakePath "0")) .init (by decide) rfl
  exact certificates_matched_of_samePath h (by decide) (by decide)

/-- The delegation of the account with index 1 gets the address of the account with index 0. -/
theorem second_certificate_gets_first_address : ∃ s,
    (machine sampleBackend).Reaches Machine.anyStep s ∧
      ∃ g ∈ s.signings, g.done ∧ g = signedWith (stakePath "0") (stakePath "1") (stakePath "0") ∧
        ¬ Matched sampleBackend g := by
  have h := Machine.reaches_of_exec (M := machine sampleBackend)
    (signAndAnswer (stakePath "0") (stakePath "1")) rfl
  refine ⟨_, h, signedWith (stakePath "0") (stakePath "1") (stakePath "0"), by decide, by decide, rfl,
    fun hm => ?_⟩
  obtain ⟨c, hc, -, hcert⟩ := hm.position (fun c => c.rewardAccountPath) 1 (stakePath "1") rfl
  obtain rfl := Option.some.inj hc
  exact absurd hcert (by decide)

end HardwareWallets.Certificates

end Klarity
