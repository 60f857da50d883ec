import Klarity.Library.Lists
import Klarity.Renderer.Stores.AssetsStore
import Klarity.Renderer.Stores.Lib.Request.Proofs

set_option autoImplicit false

/-! # Submitted decimals are kept

A wallet shows what was submitted, or a call for it is open. An open call that has not asked for the local data
yet will read what is written by then; one that has asked for it must not meet a submission for its assets. -/

namespace Klarity.AssetsStore

open BccApi (ApiAsset AssetDomain AssetsLocalData GetAssetsResponse mem_createAssets)

variable {Err : Type} {s s' : State Err} {submitted assetsLocalData : AssetsLocalData}

/-! ## What is promised -/

/-- The assets have the decimals that were submitted for them. -/
def AsSubmitted (submitted : AssetsLocalData) (assets : List AssetDomain) : Prop :=
  ∀ asset ∈ assets, asset.decimals = submitted asset.key

/-- All requests and all writes to the local storage have finished. -/
def Finished (s : State Err) : Prop :=
  s.messages = [] ∧ ∀ call ∈ s.calls, call.phase.isSettled = true

/-- The assets of a call that has asked for the local data. -/
def Phase.keys : Phase Err → List String
  | .reading response => response.map (·.key)
  | .read response _ => response.map (·.key)
  | .returned (.ok response) => response.assets.map (·.key)
  | _ => []

/-- A submission that no open call has read too early for, and that every wallet with the asset is refreshed
after; no write fails, and a refresh only where there is nothing to refresh. -/
def InOrder (s : State Err) : Event Err → Prop
  | .assetSettingsSubmit policyId assetName decimals =>
      (∀ k phase, s.phase k = some phase → policyId ++ assetName ∈ phase.keys →
        s.submitted (policyId ++ assetName) = some decimals) ∧
      ∀ walletId, (s.isConnected = true ∧ walletId ∈ s.wallets) ∨
        ∀ asset ∈ shown ((updateAsset s (policyId ++ assetName) decimals).assetsRequests walletId),
          asset.key = policyId ++ assetName → asset.decimals = some decimals
  | .handleMessage error => ∀ id decimals messages, s.messages = .set id decimals :: messages → error = none
  | .respond k => ∀ call error, s.calls[k]? = some call → call.phase = .returned (.error error) →
      AsSubmitted s.submitted (shown (s.assetsRequests call.walletId))
  | _ => True

/-! ## The invariant -/

/-- The local data is what was submitted for the assets of an answer. -/
def Agrees (submitted assetsLocalData : AssetsLocalData) (response : List ApiAsset) : Prop :=
  ∀ data ∈ response, assetsLocalData data.key = submitted data.key

/-- A call with a message that is handled under this local data. -/
def Phase.Asks (submitted assetsLocalData : AssetsLocalData) : Phase Err → Prop
  | .calling => False
  | .reading response => Agrees submitted assetsLocalData response
  | _ => True

/-- The messages from this local data on: every call reads what was submitted for its assets, and in the end
everything submitted is written. -/
def Ordered (phase : ℕ → Option (Phase Err)) (submitted : AssetsLocalData) :
    AssetsLocalData → List Message → Prop
  | assetsLocalData, [] => assetsLocalData = submitted
  | assetsLocalData, .get k :: messages =>
      (∃ p, phase k = some p ∧ p.Asks submitted assetsLocalData) ∧
        Ordered phase submitted assetsLocalData messages
  | assetsLocalData, .set id decimals :: messages =>
      Ordered phase submitted (Function.update assetsLocalData id (some decimals)) messages

/-- A call for the wallet is open. -/
def Pending (s : State Err) (walletId : String) : Prop :=
  ∃ call ∈ s.calls, call.walletId = walletId ∧ call.phase.isSettled = false

/-- A call that has asked for the local data comes to show what was submitted. -/
def Phase.Right (submitted : AssetsLocalData) : Phase Err → Prop
  | .read response assetsLocalData => Agrees submitted assetsLocalData response
  | .returned (.ok response) => AsSubmitted submitted response.assets
  | _ => True

structure Invariant (s : State Err) : Prop where
  messages : Ordered s.phase s.submitted s.assetsLocalData s.messages
  right : ∀ k p, s.phase k = some p → p.Right s.submitted
  waiting : ∀ walletId, (s.assetsRequests walletId).isWaitingForResponse = true → Pending s walletId
  shown : ∀ walletId, AsSubmitted s.submitted (shown (s.assetsRequests walletId)) ∨ Pending s walletId

theorem Invariant.finished (h : Invariant s) (hfinished : Finished s) : AsSubmitted s.submitted s.all := by
  unfold State.all
  cases s.active with
  | none =>
    intro asset hasset
    cases hasset
  | some walletId =>
    rcases h.shown walletId with hshown | ⟨call, hcall, _, hopen⟩
    · exact hshown
    · rw [hfinished.2 call hcall] at hopen
      cases hopen

/-! ## Phases and messages -/

theorem phase_setPhase (s : State Err) (k n : ℕ) (p : Phase Err) :
    (s.setPhase k p).phase n = if k = n then (s.phase n).map fun _ => p else s.phase n := by
  unfold State.phase State.setPhase
  dsimp only
  rw [List.getElem?_modify]
  cases s.calls[n]? with
  | none => simp
  | some call =>
    by_cases hk : k = n
    · simp [hk]
    · simp [hk]

theorem phase_setPhase_eq_some {k n : ℕ} {p q : Phase Err} (h : (s.setPhase k p).phase n = some q) :
    (k = n ∧ q = p) ∨ (k ≠ n ∧ s.phase n = some q) := by
  rw [phase_setPhase] at h
  by_cases hk : k = n
  · rw [if_pos hk] at h
    obtain ⟨_, _, rfl⟩ := Option.map_eq_some_iff.1 h
    exact .inl ⟨hk, rfl⟩
  · rw [if_neg hk] at h
    exact .inr ⟨hk, h⟩

theorem Ordered.mono {phase phase' : ℕ → Option (Phase Err)} {messages : List Message}
    (h : Ordered phase submitted assetsLocalData messages)
    (hphase : ∀ k p assetsLocalData, phase k = some p → p.Asks submitted assetsLocalData →
      ∃ p', phase' k = some p' ∧ p'.Asks submitted assetsLocalData) :
    Ordered phase' submitted assetsLocalData messages := by
  induction messages generalizing assetsLocalData with
  | nil => exact h
  | cons message messages ih =>
    cases message with
    | get k =>
      obtain ⟨⟨p, hp, hasks⟩, hrest⟩ := h
      exact ⟨hphase k p assetsLocalData hp hasks, ih hrest⟩
    | set id decimals =>
      have hrest : Ordered phase submitted (Function.update assetsLocalData id (some decimals)) messages := h
      exact ih hrest

/-- A call that has been answered asks for the local data. -/
theorem Ordered.get {phase : ℕ → Option (Phase Err)} {messages : List Message} {k : ℕ}
    {response : List ApiAsset} (h : Ordered phase submitted assetsLocalData messages)
    (hphase : phase k = some (.reading response)) :
    Ordered phase submitted assetsLocalData (messages ++ [.get k]) := by
  induction messages generalizing assetsLocalData with
  | nil =>
    obtain rfl : assetsLocalData = submitted := h
    exact ⟨⟨_, hphase, fun _ _ => rfl⟩, rfl⟩
  | cons message messages ih =>
    cases message with
    | get n => exact ⟨h.1, ih h.2⟩
    | set id decimals =>
      have hrest : Ordered phase submitted (Function.update assetsLocalData id (some decimals)) messages := h
      exact ih hrest

/-- What was right stays right under a submission that changes nothing for it. -/
theorem eq_submit {α : Type} {l : List α} {key : α → String} {value : α → Option ℕ} {id : String} {decimals : ℕ}
    (h : ∀ a ∈ l, value a = submitted (key a)) (hid : id ∈ l.map key → submitted id = some decimals) :
    ∀ a ∈ l, value a = Function.update submitted id (some decimals) (key a) := by
  intro a ha
  by_cases hkey : key a = id
  · have hmem : id ∈ l.map key := List.mem_map.2 ⟨a, ha, hkey⟩
    rw [hkey, Function.update_self, ← hid hmem, ← hkey]
    exact h a ha
  · rw [Function.update_of_ne hkey]
    exact h a ha

/-- The write of a submission comes after the messages that were sent before. -/
theorem Ordered.submit {phase : ℕ → Option (Phase Err)} {messages : List Message} {id : String}
    {decimals : ℕ} (h : Ordered phase submitted assetsLocalData messages)
    (hkeys : ∀ k p, phase k = some p → id ∈ p.keys → submitted id = some decimals) :
    Ordered phase (Function.update submitted id (some decimals)) assetsLocalData
      (messages ++ [.set id decimals]) := by
  induction messages generalizing assetsLocalData with
  | nil =>
    obtain rfl : assetsLocalData = submitted := h
    rfl
  | cons message messages ih =>
    cases message with
    | get k =>
      obtain ⟨⟨p, hp, hasks⟩, hrest⟩ := h
      refine ⟨⟨p, hp, ?_⟩, ih hrest⟩
      cases p with
      | calling => exact hasks
      | reading response => exact eq_submit hasks (hkeys k _ hp)
      | read response assetsLocalData => trivial
      | returned outcome => trivial
      | settled => trivial
    | set other value =>
      have hrest : Ordered phase submitted (Function.update assetsLocalData other (some value)) messages := h
      exact ih hrest

theorem Phase.Right.submit {p : Phase Err} {id : String} {decimals : ℕ} (h : p.Right submitted)
    (hkeys : id ∈ p.keys → submitted id = some decimals) :
    p.Right (Function.update submitted id (some decimals)) := by
  cases p with
  | calling => trivial
  | reading response => trivial
  | read response assetsLocalData => exact eq_submit h hkeys
  | returned outcome =>
    cases outcome with
    | ok response => exact eq_submit h hkeys
    | error error => trivial
  | settled => trivial

/-! ## A refresh -/

/-- A refresh only makes new calls. -/
structure Refreshes (s s' : State Err) : Prop where
  messages : s'.messages = s.messages
  assetsLocalData : s'.assetsLocalData = s.assetsLocalData
  submitted : s'.submitted = s.submitted
  result : ∀ walletId, (s'.assetsRequests walletId).result = (s.assetsRequests walletId).result
  old : ∀ k p, s.phase k = some p → s'.phase k = some p
  new : ∀ k p, s'.phase k = some p → s.phase k = some p ∨ p = .calling
  pending : ∀ walletId, Pending s walletId → Pending s' walletId
  waiting : (∀ walletId, (s.assetsRequests walletId).isWaitingForResponse = true → Pending s walletId) →
    ∀ walletId, (s'.assetsRequests walletId).isWaitingForResponse = true → Pending s' walletId

theorem Refreshes.refl (s : State Err) : Refreshes s s :=
  ⟨rfl, rfl, rfl, fun _ => rfl, fun _ _ hp => hp, fun _ _ hp => .inl hp, fun _ hp => hp, fun h => h⟩

theorem Refreshes.trans {s'' : State Err} (h : Refreshes s s') (h' : Refreshes s' s'') : Refreshes s s'' := by
  refine ⟨h'.messages.trans h.messages, h'.assetsLocalData.trans h.assetsLocalData,
    h'.submitted.trans h.submitted, ?_, ?_, ?_, ?_, ?_⟩
  · intro walletId
    exact (h'.result walletId).trans (h.result walletId)
  · intro k p hp
    exact h'.old k p (h.old k p hp)
  · intro k p hp
    rcases h'.new k p hp with hp | hp
    · exact h.new k p hp
    · exact .inr hp
  · intro walletId hpending
    exact h'.pending walletId (h.pending walletId hpending)
  · intro hwaiting
    exact h'.waiting (h.waiting hwaiting)

theorem refreshWallet_of_waiting {walletId : String}
    (h : (s.assetsRequests walletId).isWaitingForResponse = true) : refreshWallet s walletId = s := by
  unfold refreshWallet
  dsimp only
  rw [if_pos h, Request.execute_of_waiting h, Function.update_eq_self]

theorem refreshes_refreshWallet (s : State Err) (walletId : String) :
    Refreshes s (refreshWallet s walletId) := by
  by_cases hwaits : (s.assetsRequests walletId).isWaitingForResponse = true
  · rw [refreshWallet_of_waiting hwaits]
    exact .refl s
  · have hcalls : (refreshWallet s walletId).calls =
        s.calls ++ [⟨walletId, (s.assetsRequests walletId).calls.length, .calling⟩] := if_neg hwaits
    have hpending : ∀ other, Pending s other → Pending (refreshWallet s walletId) other := by
      rintro other ⟨call, hcall, hwallet, hopen⟩
      exact ⟨call, hcalls ▸ List.mem_append_left _ hcall, hwallet, hopen⟩
    refine ⟨rfl, rfl, rfl, ?_, ?_, ?_, hpending, ?_⟩
    · intro other
      by_cases hother : other = walletId
      · rw [hother]
        show (Function.update s.assetsRequests walletId _ walletId).result = _
        rw [Function.update_self, Request.execute_result]
      · show (Function.update s.assetsRequests walletId _ other).result = _
        rw [Function.update_of_ne hother]
    · intro k p hp
      obtain ⟨call, hcall, rfl⟩ := Option.map_eq_some_iff.1 hp
      unfold State.phase
      rw [hcalls, List.getElem?_concat_eq_some.2 (.inl hcall)]
      rfl
    · intro k p hp
      unfold State.phase at hp
      obtain ⟨call, hcall, rfl⟩ := Option.map_eq_some_iff.1 hp
      rw [hcalls] at hcall
      rcases List.getElem?_concat_eq_some.1 hcall with hcall | ⟨-, rfl⟩
      · exact .inl (Option.map_eq_some_iff.2 ⟨call, hcall, rfl⟩)
      · exact .inr rfl
    · intro hwaiting other hother
      by_cases hsame : other = walletId
      · rw [hsame]
        exact ⟨_, hcalls ▸ List.mem_append_right _ (List.mem_singleton_self _), rfl, rfl⟩
      · have hother' : (Function.update s.assetsRequests walletId _ other).isWaitingForResponse = true := hother
        rw [Function.update_of_ne hsame] at hother'
        exact hpending other (hwaiting other hother')

/-- A wallet that is refreshed has an open call then. -/
theorem pending_refreshWallet {walletId : String}
    (hwaiting : ∀ other, (s.assetsRequests other).isWaitingForResponse = true → Pending s other) :
    Pending (refreshWallet s walletId) walletId := by
  refine (refreshes_refreshWallet s walletId).waiting hwaiting walletId ?_
  show (Function.update s.assetsRequests walletId _ walletId).isWaitingForResponse = true
  rw [Function.update_self, Request.execute_isWaitingForResponse]

theorem refreshes_foldl (wallets : List String) (s : State Err) :
    Refreshes s (wallets.foldl refreshWallet s) := by
  induction wallets generalizing s with
  | nil => exact .refl s
  | cons walletId wallets ih => exact (refreshes_refreshWallet s walletId).trans (ih _)

theorem pending_foldl {wallets : List String} {walletId : String} (hmem : walletId ∈ wallets)
    (hwaiting : ∀ other, (s.assetsRequests other).isWaitingForResponse = true → Pending s other) :
    Pending (wallets.foldl refreshWallet s) walletId := by
  induction wallets generalizing s with
  | nil => cases hmem
  | cons other wallets ih =>
    rcases List.mem_cons.1 hmem with rfl | hmem
    · exact (refreshes_foldl wallets _).pending walletId (pending_refreshWallet hwaiting)
    · exact ih hmem ((refreshes_refreshWallet s other).waiting hwaiting)

theorem refreshes_refreshAssetsData (s : State Err) : Refreshes s (refreshAssetsData s) := by
  unfold refreshAssetsData
  split
  · exact refreshes_foldl s.wallets s
  · exact .refl s

/-- A refresh asks for no local data. -/
theorem Refreshes.ordered (h : Refreshes s s') {messages : List Message}
    (hordered : Ordered s.phase submitted assetsLocalData messages) :
    Ordered s'.phase submitted assetsLocalData messages := by
  refine hordered.mono ?_
  intro k p _ hp hasks
  exact ⟨p, h.old k p hp, hasks⟩

theorem Refreshes.right (h : Refreshes s s') (hright : ∀ k p, s.phase k = some p → p.Right submitted) :
    ∀ k p, s'.phase k = some p → p.Right submitted := by
  intro k p hp
  rcases h.new k p hp with hp | rfl
  · exact hright k p hp
  · trivial

theorem shown_of_result_eq {request request' : AssetsRequest Err} (h : request'.result = request.result) :
    shown request' = shown request := by
  unfold shown
  rw [h]

theorem Invariant.refresh (h : Invariant s) (hrefresh : Refreshes s s') : Invariant s' := by
  refine ⟨?_, ?_, hrefresh.waiting h.waiting, ?_⟩
  · rw [hrefresh.messages, hrefresh.assetsLocalData, hrefresh.submitted]
    exact hrefresh.ordered h.messages
  · rw [hrefresh.submitted]
    exact hrefresh.right h.right
  · intro walletId
    rw [hrefresh.submitted, shown_of_result_eq (hrefresh.result walletId)]
    exact (h.shown walletId).imp_right (hrefresh.pending walletId)

/-! ## A submission -/

theorem mem_of_mem_updateLast {id : String} {decimals : ℕ} {assets : List AssetDomain} {asset : AssetDomain}
    (h : asset ∈ updateLast id decimals assets) (hkey : asset.key ≠ id) : asset ∈ assets := by
  induction assets with
  | nil => exact h
  | cons head assets ih =>
    unfold updateLast at h
    by_cases hlater : assets.any (·.key = id) = true
    · rw [if_pos hlater] at h
      rcases List.mem_cons.1 h with rfl | h
      · exact List.mem_cons_self
      · exact List.mem_cons_of_mem _ (ih h)
    · rw [if_neg hlater] at h
      by_cases hhead : head.key = id
      · rw [if_pos hhead] at h
        rcases List.mem_cons.1 h with rfl | h
        · exact absurd hhead hkey
        · exact List.mem_cons_of_mem _ h
      · rw [if_neg hhead] at h
        exact h

/-- Only the asset of the submission changes. -/
theorem mem_of_mem_updateShown {id : String} {decimals : ℕ} {request : AssetsRequest Err}
    {asset : AssetDomain} (h : asset ∈ shown (updateShown id decimals request)) (hkey : asset.key ≠ id) :
    asset ∈ shown request := by
  unfold shown updateShown at h
  unfold shown
  cases hresult : request.result with
  | none =>
    rw [hresult] at h
    exact h
  | some response =>
    rw [hresult] at h
    exact mem_of_mem_updateLast h hkey

theorem assetsRequests_updateAsset (s : State Err) (id : String) (decimals : ℕ) (walletId : String) :
    (updateAsset s id decimals).assetsRequests walletId = s.assetsRequests walletId ∨
      (updateAsset s id decimals).assetsRequests walletId =
        updateShown id decimals (s.assetsRequests walletId) := by
  unfold updateAsset
  split
  · next active hactive =>
      by_cases hwallet : walletId = active
      · rw [hwallet]
        exact .inr (Function.update_self ..)
      · exact .inl (Function.update_of_ne hwallet ..)
  · exact .inl rfl

/-- The requests stay as they are but for what they show. -/
theorem isWaitingForResponse_updateAsset (s : State Err) (id : String) (decimals : ℕ) (walletId : String) :
    ((updateAsset s id decimals).assetsRequests walletId).isWaitingForResponse =
      (s.assetsRequests walletId).isWaitingForResponse := by
  rcases assetsRequests_updateAsset s id decimals walletId with hsame | hupdated
  · rw [hsame]
  · rw [hupdated]
    rfl

theorem calls_updateAsset (s : State Err) (id : String) (decimals : ℕ) :
    (updateAsset s id decimals).calls = s.calls ∧ (updateAsset s id decimals).messages = s.messages ∧
      (updateAsset s id decimals).assetsLocalData = s.assetsLocalData ∧
      (updateAsset s id decimals).submitted = s.submitted ∧
      (updateAsset s id decimals).isConnected = s.isConnected ∧
      (updateAsset s id decimals).wallets = s.wallets := by
  unfold updateAsset
  split
  · exact ⟨rfl, rfl, rfl, rfl, rfl, rfl⟩
  · exact ⟨rfl, rfl, rfl, rfl, rfl, rfl⟩

/-- A wallet that is not refreshed shows the asset as it was submitted, and the others as before. -/
theorem Invariant.shown_updateAsset (h : Invariant s) {id : String} {decimals : ℕ} {walletId : String}
    (hid : ∀ asset ∈ AssetsStore.shown ((updateAsset s id decimals).assetsRequests walletId), asset.key = id →
      asset.decimals = some decimals) :
    AsSubmitted (Function.update s.submitted id (some decimals))
      (AssetsStore.shown ((updateAsset s id decimals).assetsRequests walletId)) ∨ Pending s walletId := by
  rcases h.shown walletId with hshown | hpending
  · left
    intro asset hasset
    by_cases hkey : asset.key = id
    · rw [hkey, Function.update_self]
      exact hid asset hasset hkey
    · rw [Function.update_of_ne hkey]
      refine hshown asset ?_
      rcases assetsRequests_updateAsset s id decimals walletId with hsame | hupdated
      · rw [hsame] at hasset
        exact hasset
      · rw [hupdated] at hasset
        exact mem_of_mem_updateShown hasset hkey
  · exact .inr hpending

theorem Invariant.submit (h : Invariant s) {policyId assetName : String} {decimals : ℕ}
    (hok : InOrder s (.assetSettingsSubmit policyId assetName decimals)) :
    Invariant (assetSettingsSubmit s (policyId ++ assetName) decimals) := by
  obtain ⟨hkeys, hwallets⟩ := hok
  generalize policyId ++ assetName = id at hkeys hwallets ⊢
  obtain ⟨hcalls, hmessages, hlocal, hsubmitted, hconnected, hlisted⟩ := calls_updateAsset s id decimals
  have hphase : (updateAsset s id decimals).phase = s.phase := by
    unfold State.phase
    rw [hcalls]
  have hpending : ∀ walletId, Pending s walletId → Pending (updateAsset s id decimals) walletId := by
    intro walletId hpending
    unfold Pending
    rw [hcalls]
    exact hpending
  have hwaiting : ∀ walletId,
      ((updateAsset s id decimals).assetsRequests walletId).isWaitingForResponse = true →
        Pending (updateAsset s id decimals) walletId := by
    intro walletId hwaits
    rw [isWaitingForResponse_updateAsset] at hwaits
    exact hpending walletId (h.waiting walletId hwaits)
  have hrefresh := refreshes_refreshAssetsData (updateAsset s id decimals)
  have hkeys' : ∀ k p, (refreshAssetsData (updateAsset s id decimals)).phase k = some p → id ∈ p.keys →
      s.submitted id = some decimals := by
    intro k p hp hid
    rcases hrefresh.new k p hp with hp | rfl
    · rw [hphase] at hp
      exact hkeys k p hp hid
    · cases hid
  refine ⟨?_, ?_, hrefresh.waiting hwaiting, ?_⟩
  · show Ordered (refreshAssetsData _).phase (Function.update (refreshAssetsData _).submitted id _)
      (refreshAssetsData _).assetsLocalData ((refreshAssetsData _).messages ++ [_])
    rw [hrefresh.messages, hrefresh.assetsLocalData, hrefresh.submitted, hmessages, hlocal, hsubmitted]
    refine Ordered.submit ?_ hkeys'
    refine hrefresh.ordered ?_
    rw [hphase]
    exact h.messages
  · intro k p hp
    show p.Right (Function.update (refreshAssetsData _).submitted id _)
    rw [hrefresh.submitted, hsubmitted]
    refine Phase.Right.submit ?_ (hkeys' k p hp)
    refine hrefresh.right ?_ k p hp
    rw [hphase]
    exact h.right
  · intro walletId
    show AsSubmitted (Function.update (refreshAssetsData _).submitted id _) _ ∨ _
    rw [hrefresh.submitted, hsubmitted]
    rcases hwallets walletId with ⟨hconn, hmem⟩ | hid
    · right
      show Pending (refreshAssetsData _) walletId
      unfold refreshAssetsData
      rw [hconnected, if_pos hconn]
      exact pending_foldl (hlisted ▸ hmem) hwaiting
    · show AsSubmitted _ (AssetsStore.shown ((refreshAssetsData _).assetsRequests walletId)) ∨ _
      rw [shown_of_result_eq (hrefresh.result walletId)]
      refine (h.shown_updateAsset hid).imp_right ?_
      intro hopen
      exact hrefresh.pending walletId (hpending walletId hopen)

/-! ## Steps of a call -/

/-- An open call that stays open keeps its wallet pending. -/
theorem Pending.setPhase {walletId : String} (h : Pending s walletId) (k : ℕ) {p : Phase Err}
    (hp : p.isSettled = false) : Pending (s.setPhase k p) walletId := by
  obtain ⟨call, hcall, hwallet, hopen⟩ := h
  obtain ⟨n, hn⟩ := List.mem_iff_getElem?.1 hcall
  have hmodified := List.getElem?_modify_of_getElem? (fun call : GetAssetsCall Err => { call with phase := p }) k hn
  refine ⟨_, List.mem_of_getElem? hmodified, ?_, ?_⟩
  · split
    · exact hwallet
    · exact hwallet
  · split
    · exact hp
    · exact hopen

/-- A call comes to a phase that is not its last: what is shown stays, and its wallet stays pending. -/
theorem Invariant.setPhase (h : Invariant s) (k : ℕ) (p : Phase Err) (messages : List Message)
    (stored : BccApi.StoredAssetMetadata) (hp : p.isSettled = false) (hright : p.Right s.submitted)
    (hordered : Ordered (s.setPhase k p).phase s.submitted s.assetsLocalData messages) :
    Invariant { s.setPhase k p with messages := messages, storedAssetMetadata := stored } := by
  refine ⟨hordered, ?_, ?_, ?_⟩
  · intro n q hq
    rcases phase_setPhase_eq_some hq with ⟨_, rfl⟩ | ⟨_, hq⟩
    · exact hright
    · exact h.right n q hq
  · intro walletId hwaits
    exact (h.waiting walletId hwaits).setPhase k hp
  · intro walletId
    exact (h.shown walletId).imp_right fun hpending => hpending.setPhase k hp

/-- The messages of other calls are not touched, and that of the call is handled under any local data. -/
theorem Ordered.setPhase {messages : List Message} (h : Ordered s.phase submitted assetsLocalData messages)
    {k : ℕ} {p : Phase Err} (hp : s.phase k = some .calling ∨ ∀ localData, p.Asks submitted localData) :
    Ordered (s.setPhase k p).phase submitted assetsLocalData messages := by
  refine h.mono ?_
  intro n q localData hq hasks
  rw [phase_setPhase]
  by_cases hk : k = n
  · rw [if_pos hk, hq]
    refine ⟨p, rfl, ?_⟩
    rcases hp with hcalling | hp
    · rw [hk, hq] at hcalling
      obtain rfl := Option.some.inj hcalling
      cases hasks
    · exact hp localData
  · rw [if_neg hk]
    exact ⟨q, hq, hasks⟩

theorem Invariant.assetsAnswered (h : Invariant s) {k : ℕ} {response : Except Err (List ApiAsset)}
    (hs : step s (.assetsAnswered k response) = some s') : Invariant s' := by
  simp only [step] at hs
  split at hs
  · next response hphase =>
      cases hs
      have hasked : (s.setPhase k (.reading response)).phase k = some (.reading response) := by
        rw [phase_setPhase, if_pos rfl, hphase]
        rfl
      exact h.setPhase k (.reading response) (s.messages ++ [.get k]) s.storedAssetMetadata rfl trivial
        ((h.messages.setPhase (.inl hphase)).get hasked)
  · next hphase =>
      cases hs
      exact h.setPhase k (.returned _) s.messages s.storedAssetMetadata rfl trivial
        (h.messages.setPhase (.inl hphase))
  · cases hs

theorem Invariant.localDataAnswered (h : Invariant s) {k : ℕ}
    (hs : step s (.localDataAnswered k) = some s') : Invariant s' := by
  simp only [step] at hs
  split at hs
  · next response assetsLocalData hphase =>
      cases hs
      refine h.setPhase k (.returned _) s.messages _ rfl ?_ (h.messages.setPhase (.inr fun _ => trivial))
      intro asset hasset
      obtain ⟨⟨data, hdata, hkey⟩, hdecimals⟩ := mem_createAssets hasset
      rw [hdecimals, ← hkey]
      exact h.right k _ hphase data hdata
  · cases hs

theorem Invariant.handleMessage (h : Invariant s) {error : Option Err} (hok : InOrder s (.handleMessage error))
    (hs : step s (.handleMessage error) = some s') : Invariant s' := by
  simp only [step] at hs
  split at hs
  · next message messages hmessages =>
      cases hs
      have hordered := h.messages
      rw [hmessages] at hordered
      cases message with
      | get k =>
        obtain ⟨⟨p, hp, hasks⟩, hrest⟩ := hordered
        have hrest' : Invariant { s with messages := messages } := ⟨hrest, h.right, h.waiting, h.shown⟩
        have hphase : ({ s with messages := messages } : State Err).phase k = some p := hp
        unfold AssetsStore.handleMessage
        dsimp only
        rw [hphase]
        cases p with
        | calling => cases hasks
        | reading response =>
          cases error with
          | none =>
            exact hrest'.setPhase k (.read response s.assetsLocalData) messages s.storedAssetMetadata rfl hasks
              (hrest'.messages.setPhase (.inr fun _ => trivial))
          | some error =>
            exact hrest'.setPhase k (.returned (.error error)) messages s.storedAssetMetadata rfl trivial
              (hrest'.messages.setPhase (.inr fun _ => trivial))
        | read | returned | settled => exact hrest'
      | set id decimals =>
        obtain rfl := hok id decimals messages hmessages
        exact ⟨hordered, h.right, h.waiting, h.shown⟩
  · cases hs

theorem Invariant.respond (h : Invariant s) {k : ℕ} (hok : InOrder s (.respond k))
    (hs : step s (.respond k) = some s') : Invariant s' := by
  simp only [step] at hs
  split at hs
  · next walletId i outcome hcall =>
      obtain ⟨request, hrequest, hs⟩ := Option.bind_eq_some_iff.mp hs
      cases hs
      rw [Request.respond_eq hrequest]
      have hphase : s.phase k = some (.returned outcome) := by
        unfold State.phase
        rw [hcall]
        rfl
      have hpending : ∀ other, other ≠ walletId → Pending s other → Pending (s.setPhase k .settled) other := by
        rintro other hother ⟨call, hmem, hwallet, hopen⟩
        obtain ⟨n, hn⟩ := List.mem_iff_getElem?.1 hmem
        have hk : k ≠ n := by
          rintro rfl
          obtain rfl := Option.some.inj (hcall.symm.trans hn)
          exact hother hwallet.symm
        refine ⟨call, List.mem_of_getElem? (i := n) ?_, hwallet, hopen⟩
        exact List.getElem?_modify_eq_some.2 (.inr ⟨hk, hn⟩)
      refine ⟨h.messages.setPhase (.inr fun _ => trivial), ?_, ?_, ?_⟩
      · intro n q hq
        rcases phase_setPhase_eq_some (s := s) hq with ⟨_, rfl⟩ | ⟨_, hq⟩
        · trivial
        · exact h.right n q hq
      · intro other hwaits
        dsimp only at hwaits
        by_cases hother : other = walletId
        · rw [hother, Function.update_self] at hwaits
          cases outcome with
          | ok response => cases hwaits
          | error error => cases hwaits
        · rw [Function.update_of_ne hother] at hwaits
          exact hpending other hother (h.waiting other hwaits)
      · intro other
        dsimp only
        by_cases hother : other = walletId
        · rw [hother, Function.update_self]
          left
          cases outcome with
          | ok response => exact h.right k _ hphase
          | error error => exact hok _ error hcall rfl
        · rw [Function.update_of_ne hother]
          exact (h.shown other).imp_right (hpending other hother)
  · cases hs

theorem Invariant.step (h : Invariant s) {e : Event Err} (hok : InOrder s e) (hs : step s e = some s') :
    Invariant s' := by
  cases e with
  | refreshAssetsData =>
    cases hs
    exact h.refresh (refreshes_refreshAssetsData s)
  | assetSettingsSubmit policyId assetName decimals =>
    cases hs
    exact h.submit hok
  | assetsAnswered k response => exact h.assetsAnswered hs
  | handleMessage error => exact h.handleMessage hok hs
  | localDataAnswered k => exact h.localDataAnswered hs
  | tick walletId i =>
    obtain ⟨request, hrequest, hs⟩ := Option.bind_eq_some_iff.mp hs
    cases hs
    rw [Request.tick_eq hrequest]
    refine ⟨h.messages, h.right, ?_, ?_⟩
    · intro other hwaits
      dsimp only at hwaits
      by_cases hother : other = walletId
      · rw [hother, Function.update_self] at hwaits
        rw [hother]
        exact h.waiting walletId hwaits
      · rw [Function.update_of_ne hother] at hwaits
        exact h.waiting other hwaits
    · intro other
      dsimp only
      by_cases hother : other = walletId
      · rw [hother, Function.update_self]
        exact h.shown walletId
      · rw [Function.update_of_ne hother]
        exact h.shown other
  | respond k => exact h.respond hok hs
  | wallets wallets | setActive active | connection isConnected =>
    cases hs
    exact ⟨h.messages, h.right, h.waiting, h.shown⟩

/-! ## The main results -/

theorem Invariant.init : Invariant (machine Err assetsLocalData).init := by
  refine ⟨rfl, ?_, ?_, ?_⟩
  · intro k p hp
    cases hp
  · intro walletId hwaits
    cases hwaits
  · intro walletId
    left
    intro asset hasset
    cases hasset

/-- Where no submission meets a call that has read the local data too early, and every wallet with the asset is
refreshed after it, the decimals shown are those submitted last once everything has finished. -/
theorem asSubmitted_of_inOrder (hr : (machine Err assetsLocalData).Reaches InOrder s) (hfinished : Finished s) :
    AsSubmitted s.submitted s.all := by
  have hinv := hr.invariant (P := Invariant) .init fun _ _ _ _ hok h hs => h.step hok hs
  exact hinv.finished hfinished

/-- A request that was never executed shows nothing. -/
theorem forall_mem_shown {P : AssetDomain → Prop} {request : AssetsRequest Err} (h : request.result = none) :
    ∀ asset ∈ shown request, P asset := by
  unfold shown
  rw [h]
  nofun

def asset : ApiAsset :=
  { policyId := "p", assetName := "n", fingerprint := "f" }

/-- A call of `getAssets()` from the answer of the backend on. -/
def answered (k : ℕ) : List (Event String) :=
  [.tick "a" k, .assetsAnswered k (.ok [asset]), .handleMessage none, .localDataAnswered k, .respond k]

/-- Wallet `a` is active, and its assets are shown. -/
def opened : List (Event String) :=
  [.wallets ["a"], .connection true, .setActive (some "a"), .refreshAssetsData] ++ answered 0

/-- The write of a submission comes before the message of its refresh. -/
def submittedAndRefreshed : List (Event String) :=
  opened ++ [.assetSettingsSubmit "p" "n" 6, .handleMessage none] ++ answered 1

theorem asSubmitted_of_submittedAndRefreshed :
    ∃ s, (machine String fun _ => none).Reaches InOrder s ∧ Finished s ∧ s.submitted "pn" = some 6 ∧
      s.all.map (·.decimals) = [some 6] ∧ AsSubmitted s.submitted s.all := by
  have hsteps : (machine String fun _ => none).allSteps InOrder (machine String fun _ => none).init
      submittedAndRefreshed := by
    refine ⟨trivial, trivial, trivial, trivial, trivial, trivial, fun _ _ _ _ => rfl, trivial, ?_, ⟨?_, ?_⟩,
      fun _ _ _ _ => rfl, trivial, trivial, fun _ _ _ _ => rfl, trivial, ?_, trivial⟩
    · rintro call error ⟨⟩ hfailed
      cases hfailed
    · rintro k phase hphase hkey
      rcases k with _ | k
      · cases hphase
        cases hkey
      · cases hphase
    · intro walletId
      by_cases hwallet : walletId = "a"
      · left
        rw [hwallet]
        exact ⟨rfl, List.mem_singleton_self _⟩
      · right
        have hother (requests : String → AssetsRequest String) (request : AssetsRequest String) :
            Function.update requests "a" request walletId = requests walletId := Function.update_of_ne hwallet ..
        have hnone (r₁ r₂ r₃ r₄ : AssetsRequest String) :
            ((Function.update (Function.update (Function.update (Function.update (fun _ => {}) "a" r₁) "a" r₂)
              "a" r₃) "a" r₄ : String → AssetsRequest String) walletId).result = none := by
          rw [hother, hother, hother, hother]
        exact forall_mem_shown (hnone _ _ _ _)
    · rintro call error ⟨⟩ hfailed
      cases hfailed
  have hr : (machine String fun _ => none).Reaches InOrder _ := .exec submittedAndRefreshed .init hsteps rfl
  exact ⟨_, hr, ⟨rfl, List.all_eq_true.1 rfl⟩, rfl, rfl,
    asSubmitted_of_inOrder hr ⟨rfl, List.all_eq_true.1 rfl⟩⟩

/-- The decimals are submitted after a periodic refresh has read the local data. -/
def submittedWhileRead : List (Event String) :=
  opened ++ [.refreshAssetsData, .tick "a" 1, .assetsAnswered 1 (.ok [asset]), .handleMessage none,
    .assetSettingsSubmit "p" "n" 6, .handleMessage none, .localDataAnswered 1, .respond 1]

theorem not_asSubmitted_of_submittedWhileRead :
    ¬ ∀ s, (machine String fun _ => none).Reaches Machine.anyStep s → Finished s →
      AsSubmitted s.submitted s.all := by
  intro hkept
  have hr := Machine.reaches_of_exec (M := machine String fun _ => none) submittedWhileRead rfl
  have hdecimals := hkept _ hr ⟨rfl, List.all_eq_true.1 rfl⟩ _ (List.mem_singleton_self _)
  cases hdecimals

end Klarity.AssetsStore
