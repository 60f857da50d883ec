import Klarity.Renderer.Stores.HardwareWallets.AvailableDevices
import Klarity.Renderer.Stores.Lib.Request.Proofs

set_option autoImplicit false

/-! # Which wallets are set disconnected

The first wallet that is gone through makes the request wait, so the settings of all others make no call: they
await the setting of the first. The wallets end up disconnected if and only if all but the first were so
before. -/

namespace Klarity.HardwareWallets.AvailableDevices

open LocalStorage
open Request (Asked Recorded settled)

variable {Data Err : Type} {stored : HardwareWallets Data} {s s' : State Data Err}

/-! ## What is promised -/

def disconnect (wallet : HardwareWalletLocalData Data) : HardwareWalletLocalData Data :=
  { wallet with disconnected := some true }

/-- The call has gone through the wallets, and every setting has returned. -/
def Call.LocalDataDone (call : Call) : Prop :=
  ∃ settings, call.settings = some settings ∧ ∀ setting ∈ settings, setting.phase = .returned

/-- Every wallet is disconnected, and is as it was besides. -/
def AllDisconnected (stored : HardwareWallets Data) (s : State Data Err) : Prop :=
  s.storage.entries = stored.entries.map disconnect

/-! ## The settings of one call -/

/-- While the request waits, the wallets are gone through without a call. -/
theorem setAllDisconnected_of_waiting (wallets : List (HardwareWalletLocalData Data))
    (h : s.setHardwareWalletLocalDataRequest.isWaitingForResponse = true) :
    (setAllDisconnected s wallets).1 = s := by
  induction wallets with
  | nil => rfl
  | cons wallet wallets ih =>
    have hsame : (setHardwareWalletLocalData s wallet.id { disconnected := some true }).1 = s := by
      show { s with setHardwareWalletLocalDataRequest := _ } = s
      rw [Request.execute_of_waiting h]
    show (setAllDisconnected (setHardwareWalletLocalData s wallet.id _).1 wallets).1 = s
    rw [hsame]
    exact ih

/-- Only the first wallet is set. -/
theorem setAllDisconnected_cons (wallet : HardwareWalletLocalData Data)
    (wallets : List (HardwareWalletLocalData Data)) :
    (setAllDisconnected s (wallet :: wallets)).1 =
      (setHardwareWalletLocalData s wallet.id { disconnected := some true }).1 :=
  setAllDisconnected_of_waiting wallets
    (Request.execute_isWaitingForResponse s.setHardwareWalletLocalDataRequest _)

theorem setAllDisconnected_settings (wallets : List (HardwareWalletLocalData Data)) (s : State Data Err) :
    (setAllDisconnected s wallets).2.map (·.walletId) = wallets.map (·.id) ∧
      ∀ setting ∈ (setAllDisconnected s wallets).2, setting.phase ≠ .returned := by
  induction wallets generalizing s with
  | nil => exact ⟨rfl, by simp [setAllDisconnected]⟩
  | cons wallet wallets ih =>
    obtain ⟨hids, hphases⟩ := ih (setHardwareWalletLocalData s wallet.id { disconnected := some true }).1
    refine ⟨congrArg (wallet.id :: ·) hids, ?_⟩
    intro setting hsetting
    rcases List.mem_cons.mp hsetting with rfl | hrest
    · exact SettingPhase.noConfusion
    · exact hphases setting hrest

/-! ## The invariant -/

def disconnectFirst : List (HardwareWalletLocalData Data) → List (HardwareWalletLocalData Data)
  | [] => []
  | wallet :: wallets => disconnect wallet :: wallets

theorem map_id_disconnectFirst (entries : List (HardwareWalletLocalData Data)) :
    (disconnectFirst entries).map (·.id) = entries.map (·.id) := by
  cases entries with
  | nil => rfl
  | cons wallet wallets => rfl

def FirstDisconnected (stored : HardwareWallets Data) (s : State Data Err) : Prop :=
  s.storage.entries = disconnectFirst stored.entries

/-- A call of the API sets the first wallet. -/
def IsFirst (stored : HardwareWallets Data) (args : SetHardwareWalletLocalData Data) : Prop :=
  ∃ wallet wallets, stored.entries = wallet :: wallets ∧ args = ⟨wallet.id, { disconnected := some true }⟩

/-- What a call has read and writes is the first wallet. -/
def Sets (stored : HardwareWallets Data) (s : State Data Err) : Access Data Err → Prop
  | .getting | .got (.error _) => True
  | .got (.ok read) =>
      ∀ wallet wallets, stored.entries = wallet :: wallets → read = wallet ∨ read = disconnect wallet
  | .setting walletData =>
      ∀ wallet wallets, stored.entries = wallet :: wallets → walletData = disconnect wallet
  | .set _ answer => answer = .ok () → FirstDisconnected stored s

def SetsFirst (stored : HardwareWallets Data) (s : State Data Err) (settings : List Setting) : Prop :=
  settings.map (·.walletId) = stored.entries.map (·.id) ∧
    ∀ setting ∈ settings, setting.phase = .returned → FirstDisconnected stored s

/-- What is known of a call: before it goes through the wallets they have been read. -/
structure Call.Ok (stored : HardwareWallets Data) (s : State Data Err) (call : Call) : Prop where
  read : call.phase = .readingDevices → s.hardwareWalletsLocalDataRequest.result.isSome
  settings : ∀ settings, call.settings = some settings → SetsFirst stored s settings

structure Invariant (stored : HardwareWallets Data) (s : State Data Err) : Prop where
  storage : s.storage.entries = stored.entries ∨ FirstDisconnected stored s
  snapshot : ∀ i entries, s.snapshots i = some (.ok entries) →
    entries.map (·.id) = stored.entries.map (·.id)
  result : ∀ entries, s.hardwareWalletsLocalDataRequest.result = some entries →
    entries.map (·.id) = stored.entries.map (·.id)
  answered : Recorded s.hardwareWalletsLocalDataRequest fun _ _ =>
    s.hardwareWalletsLocalDataRequest.result.isSome
  asked : Asked s.setHardwareWalletLocalDataRequest (IsFirst stored)
  sets : ∀ i, Sets stored s (s.accesses i)
  recorded : Recorded s.setHardwareWalletLocalDataRequest fun _ _ => FirstDisconnected stored s
  calls : ∀ call ∈ s.calls, call.Ok stored s

theorem invariant_init (stored : HardwareWallets Data) : Invariant stored (machine Err stored).init where
  storage := .inl rfl
  snapshot _ _ h := nomatch h
  result _ h := nomatch h
  answered _ _ _ h := by simp [machine] at h
  asked _ h := absurd h List.not_mem_nil
  sets _ := trivial
  recorded _ _ _ h := by simp [machine] at h
  calls _ h := absurd h List.not_mem_nil

/-! ## Calls -/

/-- A call comes or goes on. -/
theorem Invariant.of_calls (h : Invariant stored s) {calls : List Call} (call : Call)
    (hcalls : ∀ other ∈ calls, other ∈ s.calls ∨ other = call) (hok : call.Ok stored s) :
    Invariant stored { s with calls := calls } :=
  { h with
    calls := by
      intro other hother
      rcases hcalls other hother with hold | rfl
      · exact ⟨(h.calls other hold).read, (h.calls other hold).settings⟩
      · exact ⟨hok.read, hok.settings⟩ }

theorem Invariant.set_call (h : Invariant stored s) {k : ℕ} {call : Call} (hok : call.Ok stored s) :
    Invariant stored { s with calls := s.calls.set k call } :=
  h.of_calls call (fun _ hother => List.mem_or_eq_of_mem_set hother) hok

theorem Invariant.refresh (h : Invariant stored s) : Invariant stored (refreshHardwareWalletsLocalData s) := by
  have hresult : (refreshHardwareWalletsLocalData s).hardwareWalletsLocalDataRequest.result =
      s.hardwareWalletsLocalDataRequest.result := Request.execute_result _ _
  refine { h with result := ?_, answered := ?_, calls := ?_ }
  · rw [hresult]
    exact h.result
  · rw [hresult]
    exact h.answered.execute
  · intro call hcall
    exact ⟨fun hphase => hresult ▸ (h.calls call hcall).read hphase, (h.calls call hcall).settings⟩

theorem Invariant.getAvailableDevices (h : Invariant stored s) :
    Invariant stored (getAvailableDevices s) := by
  refine h.refresh.of_calls
    ⟨.readingData (refreshHardwareWalletsLocalData s).hardwareWalletsLocalDataRequest.promise, none⟩ ?_ ?_
  · intro other hother
    exact (List.mem_append.mp hother).imp_right List.mem_singleton.mp
  · exact ⟨(nomatch ·), fun _ hnone => nomatch hnone⟩

theorem Invariant.resume (h : Invariant stored s) {k : ℕ} {call next : Call} (hcall : call ∈ s.calls)
    (hs : dataRead s call = some next) : Invariant stored { s with calls := s.calls.set k next } := by
  have hok := h.calls call hcall
  unfold dataRead at hs
  split at hs
  · obtain ⟨outcome, hsettled, hs⟩ := Option.bind_eq_some_iff.mp hs
    cases outcome with
    | ok wallets =>
      cases hs
      obtain ⟨p, _, -, hp, houtcome⟩ := Request.exists_call_of_settled hsettled
      exact h.set_call ⟨fun _ => h.answered p _ wallets hp houtcome, hok.settings⟩
    | error error =>
      cases hs
      exact h.set_call ⟨(nomatch ·), hok.settings⟩
  · obtain ⟨outcome, -, hs⟩ := Option.bind_eq_some_iff.mp hs
    cases outcome with
    | ok wallets =>
      cases hs
      exact h.set_call ⟨(nomatch ·), hok.settings⟩
    | error error =>
      cases hs
      exact h.set_call ⟨(nomatch ·), hok.settings⟩
  · cases hs

theorem Invariant.setAllDisconnected (h : Invariant stored s) {wallets : List (HardwareWalletLocalData Data)}
    (hids : wallets.map (·.id) = stored.entries.map (·.id)) :
    Invariant stored (setAllDisconnected s wallets).1 := by
  cases wallets with
  | nil => exact h
  | cons wallet wallets =>
    rw [setAllDisconnected_cons]
    have hfirst : IsFirst stored ⟨wallet.id, { disconnected := some true }⟩ := by
      cases hentries : stored.entries with
      | nil => simp [hentries] at hids
      | cons first rest =>
        have hid : wallet.id = first.id := by
          rw [hentries] at hids
          exact (List.cons.inj hids).1
        exact ⟨first, rest, hentries, by rw [hid]⟩
    exact { h with
      asked := h.asked.execute hfirst
      recorded := h.recorded.execute
      calls := fun call hcall => ⟨(h.calls call hcall).read, (h.calls call hcall).settings⟩ }

theorem Invariant.devicesRead (h : Invariant stored s) {k : ℕ} {call next : Call} (hcall : call ∈ s.calls)
    (hs : devicesRead s call = some (s', next)) :
    Invariant stored { s' with calls := s'.calls.set k next } := by
  have hok := h.calls call hcall
  unfold AvailableDevices.devicesRead at hs
  split at hs
  · next hphase =>
    cases hs
    obtain ⟨wallets, hresult⟩ := Option.isSome_iff_exists.mp (hok.read hphase)
    have hids := h.result wallets hresult
    obtain ⟨hsettings, hphases⟩ := setAllDisconnected_settings wallets s
    rw [hresult, Option.getD_some]
    refine (h.setAllDisconnected hids).refresh.set_call ⟨(nomatch ·), ?_⟩
    rintro _ ⟨⟩
    exact ⟨hsettings.trans hids, fun setting hmem hreturned => absurd hreturned (hphases setting hmem)⟩
  · cases hs
    exact h.set_call ⟨(nomatch ·), hok.settings⟩
  · cases hs

theorem Invariant.resumeSetting (h : Invariant stored s) {k j : ℕ} {call : Call} {settings : List Setting}
    {setting next : Setting} (hcall : call ∈ s.calls) (hsettings : call.settings = some settings)
    (hsetting : settings[j]? = some setting) (hs : resumeSetting s setting = some (s', next)) :
    Invariant stored
      { s' with calls := s'.calls.set k { call with settings := some (settings.set j next) } } := by
  have hok := h.calls call hcall
  obtain ⟨hids, hreturned⟩ := hok.settings settings hsettings
  have hset : ∀ phase, (phase = .returned → FirstDisconnected stored s) →
      SetsFirst stored s (settings.set j { setting with phase := phase }) := by
    intro phase hphase
    refine ⟨(List.map_set_of_eq (c := ⟨setting.walletId, phase⟩) (·.walletId) hsetting rfl).trans hids, ?_⟩
    intro other hother
    rcases List.mem_or_eq_of_mem_set hother with hold | rfl
    · exact hreturned other hold
    · exact hphase
  unfold AvailableDevices.resumeSetting at hs
  split at hs
  · obtain ⟨outcome, hsettled, hs⟩ := Option.bind_eq_some_iff.mp hs
    cases outcome with
    | ok walletData =>
      cases hs
      obtain ⟨p, _, -, hp, houtcome⟩ := Request.exists_call_of_settled hsettled
      have hfirst : FirstDisconnected stored s := h.recorded p _ walletData hp houtcome
      have hresult := Request.execute_result s.hardwareWalletsLocalDataRequest ()
      refine h.refresh.set_call ⟨fun hphase => hresult ▸ hok.read hphase, ?_⟩
      rintro _ ⟨⟩
      exact hset .returned fun _ => hfirst
    | error error =>
      cases hs
      refine h.set_call ⟨hok.read, ?_⟩
      rintro _ ⟨⟩
      exact hset .threw (nomatch ·)
  · cases hs

/-! ## Answers -/

theorem setEntry_first {wallet walletData : HardwareWalletLocalData Data}
    {wallets : List (HardwareWalletLocalData Data)} (hnodup : ((wallet :: wallets).map (·.id)).Nodup)
    (hid : walletData.id = wallet.id) : setEntry (wallet :: wallets) walletData = walletData :: wallets := by
  obtain ⟨hnot, -⟩ := List.nodup_cons.mp hnodup
  have hrest : wallets.map (fun entry => if entry.id = walletData.id then walletData else entry) = wallets := by
    refine (List.map_congr_left ?_).trans (List.map_id wallets)
    intro entry hentry
    refine if_neg ?_
    intro hsame
    exact hnot (List.mem_map.mpr ⟨entry, hentry, hsame.trans hid⟩)
  have hmem : walletData.id ∈ (wallet :: wallets).map (·.id) := by simp [hid]
  rw [setEntry, if_pos hmem, List.map_cons, if_pos hid.symm, hrest]

/-- The first wallet, and what is stored of it by now. -/
theorem Invariant.exists_first (h : Invariant stored s) {i : ℕ}
    {call : Request.MethodCall (SetHardwareWalletLocalData Data) (HardwareWalletLocalData Data) Err}
    (hcall : s.setHardwareWalletLocalDataRequest.calls[i]? = some call) :
    ∃ wallet wallets now, stored.entries = wallet :: wallets ∧ s.storage.entries = now :: wallets ∧
      (now = wallet ∨ now = disconnect wallet) ∧ call.args = ⟨wallet.id, { disconnected := some true }⟩ := by
  obtain ⟨wallet, wallets, hstored, hargs⟩ := h.asked call (List.mem_of_getElem? hcall)
  rcases h.storage with hsame | hfirst
  · exact ⟨wallet, wallets, wallet, hstored, hsame.trans hstored, .inl rfl, hargs⟩
  · refine ⟨wallet, wallets, disconnect wallet, hstored, ?_, .inr rfl, hargs⟩
    rw [hfirst, hstored]
    rfl

theorem Sets.mono {access : Access Data Err} (h : Sets stored s access)
    (hmono : FirstDisconnected stored s → FirstDisconnected stored s') : Sets stored s' access := by
  cases access with
  | getting => trivial
  | got answer =>
    cases answer with
    | ok read => exact h
    | error error => trivial
  | setting walletData => exact h
  | set walletData answer => exact fun hok => hmono (h hok)

theorem Invariant.set_access (h : Invariant stored s) {i : ℕ} {access : Access Data Err}
    (hsets : Sets stored s access) :
    Invariant stored { s with accesses := Function.update s.accesses i access } := by
  have haccess : ∀ n, Sets stored s (Function.update s.accesses i access n) := by
    intro n
    by_cases hn : n = i
    · rw [hn, Function.update_self]
      exact hsets
    · rw [Function.update_of_ne hn]
      exact h.sets n
  exact { h with
    sets := fun n => (haccess n).mono id
    calls := fun call hcall => ⟨(h.calls call hcall).read, (h.calls call hcall).settings⟩ }

/-- The first wallet is written. -/
theorem Invariant.set_storage (h : Invariant stored s) {storage : HardwareWallets Data}
    (hstorage : storage.entries = disconnectFirst stored.entries) :
    Invariant stored { s with storage := storage } where
  storage := .inr hstorage
  snapshot := h.snapshot
  result := h.result
  answered := h.answered
  asked := h.asked
  sets i := (h.sets i).mono fun _ => hstorage
  recorded := h.recorded.imp fun _ _ _ => hstorage
  calls call hcall :=
    ⟨(h.calls call hcall).read, fun settings hsome =>
      ⟨((h.calls call hcall).settings settings hsome).1, fun _ _ _ => hstorage⟩⟩

theorem Invariant.serve (h : Invariant stored s) {i : ℕ} {error : Option Err}
    (hs : serve s i error = some s') : Invariant stored s' := by
  obtain ⟨call, hcall, hs⟩ := Option.bind_eq_some_iff.mp hs
  obtain ⟨wallet, wallets, now, hstored, hstorage, hnow, hargs⟩ := h.exists_first hcall
  split at hs
  · cases hs
    refine h.set_access ?_
    cases error with
    | some error => trivial
    | none =>
      have hget : s.storage.get call.args.walletId = now := by
        have hid : now.id = wallet.id := by rcases hnow with rfl | rfl <;> rfl
        rw [HardwareWallets.get, hstorage, hargs, List.find?_cons_of_pos (by simp [hid]), Option.getD_some]
      intro first rest hfirst
      rw [hstored] at hfirst
      obtain ⟨rfl, -⟩ := List.cons.inj hfirst
      rw [hget]
      exact hnow
  · next walletData haccess =>
    cases hs
    cases error with
    | some error => exact h.set_access fun hok => nomatch hok
    | none =>
      have hdata : walletData = disconnect wallet := by
        have hsets := h.sets i
        rw [haccess] at hsets
        exact hsets wallet wallets hstored
      have hwritten : (s.storage.set walletData).entries = disconnectFirst stored.entries := by
        have hnodup := s.storage.nodup
        have hid : walletData.id = now.id := by
          rw [hdata]
          rcases hnow with rfl | rfl <;> rfl
        rw [hstorage] at hnodup
        show setEntry s.storage.entries walletData = _
        rw [hstorage, setEntry_first hnodup hid, hstored, hdata]
        rfl
      exact (h.set_storage hwritten).set_access fun _ => hwritten
  · cases hs

/-- An answer to a setting, or its timer. -/
theorem Invariant.setRequest (h : Invariant stored s)
    {request : Request.State (SetHardwareWalletLocalData Data) (HardwareWalletLocalData Data) Err}
    (hasked : Asked request (IsFirst stored))
    (hrecorded : Recorded request fun _ _ => FirstDisconnected stored s) :
    Invariant stored { s with setHardwareWalletLocalDataRequest := request } :=
  { h with
    asked := hasked
    sets := fun i => (h.sets i).mono id
    recorded := hrecorded
    calls := fun call hcall => ⟨(h.calls call hcall).read, (h.calls call hcall).settings⟩ }

theorem Invariant.respondSet (h : Invariant stored s) {i : ℕ}
    {outcome : Except Err (HardwareWalletLocalData Data)}
    {request : Request.State (SetHardwareWalletLocalData Data) (HardwareWalletLocalData Data) Err}
    (hs : Request.step s.setHardwareWalletLocalDataRequest (.respond i outcome) = some request)
    (hwritten : ∀ result, outcome = .ok result → FirstDisconnected stored s) :
    Invariant stored { s with setHardwareWalletLocalDataRequest := request } := by
  obtain rfl := Request.respond_eq hs
  refine h.setRequest (h.asked.of_modify rfl fun _ => rfl) (h.recorded.respond ?_)
  intro _ result _ hok
  exact hwritten result hok

theorem Invariant.handle (h : Invariant stored s) {i : ℕ} (hs : handle s i = some s') :
    Invariant stored s' := by
  obtain ⟨call, hcall, hs⟩ := Option.bind_eq_some_iff.mp hs
  obtain ⟨wallet, wallets, now, hstored, -, -, hargs⟩ := h.exists_first hcall
  split at hs
  · next read haccess =>
    cases hs
    refine h.set_access ?_
    have hread := h.sets i
    rw [haccess] at hread
    intro first rest hfirst
    rw [hargs]
    rw [hstored] at hfirst
    obtain ⟨rfl, -⟩ := List.cons.inj hfirst
    rcases hread wallet wallets hstored with rfl | rfl
    · rfl
    · rfl
  · obtain ⟨request, hrequest, hs⟩ := Option.bind_eq_some_iff.mp hs
    cases hs
    exact h.respondSet hrequest fun _ hok => nomatch hok
  · next walletData answer haccess =>
    obtain ⟨request, hrequest, hs⟩ := Option.bind_eq_some_iff.mp hs
    cases hs
    have hsets := h.sets i
    rw [haccess] at hsets
    refine h.respondSet hrequest ?_
    intro result hok
    cases answer with
    | ok _ => exact hsets rfl
    | error error => cases hok
  · cases hs

theorem Invariant.answer (h : Invariant stored s) {i : ℕ} {error : Option Err} :
    Invariant stored
      { s with snapshots := Function.update s.snapshots i (some (answerWith error s.storage.entries)) } := by
  have hids : s.storage.entries.map (·.id) = stored.entries.map (·.id) := by
    rcases h.storage with hsame | hfirst
    · rw [hsame]
    · rw [hfirst, map_id_disconnectFirst]
  have hsnapshot : ∀ n entries,
      Function.update s.snapshots i (some (answerWith error s.storage.entries)) n = some (.ok entries) →
        entries.map (·.id) = stored.entries.map (·.id) := by
    intro n entries hsome
    by_cases hn : n = i
    · rw [hn, Function.update_self] at hsome
      cases error with
      | some error => cases hsome
      | none =>
        cases hsome
        exact hids
    · rw [Function.update_of_ne hn] at hsome
      exact h.snapshot n entries hsome
  exact { h with
    snapshot := hsnapshot
    sets := fun n => (h.sets n).mono id
    calls := fun call hcall => ⟨(h.calls call hcall).read, (h.calls call hcall).settings⟩ }

theorem Invariant.tick (h : Invariant stored s) (i : ℕ) :
    Invariant stored
      { s with hardwareWalletsLocalDataRequest := s.hardwareWalletsLocalDataRequest.tick i } :=
  { h with
    result := h.result
    answered := h.answered.tick i
    sets := fun n => (h.sets n).mono id
    calls := fun call hcall => ⟨(h.calls call hcall).read, (h.calls call hcall).settings⟩ }

theorem Invariant.respond (h : Invariant stored s) {i : ℕ}
    {snapshot : Except Err (List (HardwareWalletLocalData Data))} (hsnapshot : s.snapshots i = some snapshot) :
    Invariant stored
      { s with
        hardwareWalletsLocalDataRequest := s.hardwareWalletsLocalDataRequest.respond i snapshot } := by
  have hkept : s.hardwareWalletsLocalDataRequest.result.isSome →
      (s.hardwareWalletsLocalDataRequest.respond i snapshot).result.isSome := by
    intro hsome
    cases snapshot with
    | ok wallets => rfl
    | error error => exact hsome
  refine { h with result := ?_, answered := ?_, sets := fun n => (h.sets n).mono id, calls := ?_ }
  · intro entries hentries
    cases snapshot with
    | ok wallets =>
      cases hentries
      exact h.snapshot i _ hsnapshot
    | error error => exact h.result entries hentries
  · refine (h.answered.imp fun _ _ => hkept).respond ?_
    rintro _ result _ rfl
    rfl
  · intro call hcall
    exact ⟨fun hphase => hkept ((h.calls call hcall).read hphase), (h.calls call hcall).settings⟩

theorem Invariant.step (h : Invariant stored s) {e : Event Err} (hs : step s e = some s') :
    Invariant stored s' := by
  cases e with
  | getAvailableDevices =>
    cases hs
    exact h.getAvailableDevices
  | refreshHardwareWalletsLocalData =>
    cases hs
    exact h.refresh
  | resume k =>
    obtain ⟨call, hcall, hs⟩ := Option.bind_eq_some_iff.mp hs
    obtain ⟨next, hnext, hs⟩ := Option.bind_eq_some_iff.mp hs
    cases hs
    exact h.resume (List.mem_of_getElem? hcall) hnext
  | readDevices k succeeds =>
    obtain ⟨call, hcall, hs⟩ := Option.bind_eq_some_iff.mp hs
    have hmem := List.mem_of_getElem? hcall
    split at hs
    · obtain ⟨⟨read, next⟩, hnext, hs⟩ := Option.bind_eq_some_iff.mp hs
      cases hs
      exact h.devicesRead hmem hnext
    · split at hs
      · cases hs
        exact h.set_call ⟨(nomatch ·), (h.calls call hmem).settings⟩
      · cases hs
  | resumeSetting k j =>
    obtain ⟨call, hcall, hs⟩ := Option.bind_eq_some_iff.mp hs
    obtain ⟨settings, hsettings, hs⟩ := Option.bind_eq_some_iff.mp hs
    obtain ⟨setting, hsetting, hs⟩ := Option.bind_eq_some_iff.mp hs
    obtain ⟨⟨resumed, next⟩, hnext, hs⟩ := Option.bind_eq_some_iff.mp hs
    cases hs
    exact h.resumeSetting (List.mem_of_getElem? hcall) hsettings hsetting hnext
  | tick i =>
    obtain ⟨request, hrequest, hs⟩ := Option.bind_eq_some_iff.mp hs
    obtain rfl := Request.tick_eq hrequest
    cases hs
    exact h.tick i
  | answer i error =>
    obtain ⟨_, -, hs⟩ := Option.bind_eq_some_iff.mp hs
    split at hs
    · cases hs
      exact h.answer
    · cases hs
  | respond i =>
    obtain ⟨snapshot, hsnapshot, hs⟩ := Option.bind_eq_some_iff.mp hs
    obtain ⟨request, hrequest, hs⟩ := Option.bind_eq_some_iff.mp hs
    obtain rfl := Request.respond_eq hrequest
    cases hs
    exact h.respond hsnapshot
  | tickSet i =>
    obtain ⟨request, hrequest, hs⟩ := Option.bind_eq_some_iff.mp hs
    obtain rfl := Request.tick_eq hrequest
    cases hs
    exact h.setRequest (h.asked.of_modify rfl fun _ => rfl) (h.recorded.tick i)
  | serve i error => exact h.serve hs
  | handle i => exact h.handle hs

theorem invariant_of_reaches (hr : (machine Err stored).Reaches Machine.anyStep s) : Invariant stored s :=
  hr.invariant (P := Invariant stored) (invariant_init stored) fun _ _ _ _ _ h hs => h.step hs

/-! ## The wallets in the end -/

theorem map_disconnect_eq_self_iff (wallets : List (HardwareWalletLocalData Data)) :
    wallets = wallets.map disconnect ↔ ∀ wallet ∈ wallets, wallet.disconnected = some true := by
  induction wallets with
  | nil => simp
  | cons wallet wallets ih =>
    have hwallet : wallet = disconnect wallet ↔ wallet.disconnected = some true := by
      constructor
      · intro hsame
        rw [hsame]
        rfl
      · intro hdisconnected
        rw [disconnect, ← hdisconnected]
    rw [List.map_cons, List.cons.injEq, List.forall_mem_cons, hwallet, ih]

/-- Some setting has returned, so the first wallet has been written. -/
theorem firstDisconnected_of_done (h : Invariant stored s) {call : Call} (hcall : call ∈ s.calls)
    (hdone : call.LocalDataDone) : FirstDisconnected stored s := by
  obtain ⟨settings, hsome, hreturned⟩ := hdone
  obtain ⟨hids, hfirst⟩ := (h.calls call hcall).settings settings hsome
  cases settings with
  | nil =>
    have hnone : stored.entries = [] := List.map_eq_nil_iff.mp hids.symm
    rcases h.storage with hsame | hdisconnected
    · rw [FirstDisconnected, hsame, hnone]
      rfl
    · exact hdisconnected
  | cons setting settings => exact hfirst setting (by simp) (hreturned setting (by simp))

theorem allDisconnected_iff (hr : (machine Err stored).Reaches Machine.anyStep s) {call : Call}
    (hcall : call ∈ s.calls) (hdone : call.LocalDataDone) :
    AllDisconnected stored s ↔ ∀ wallet ∈ stored.entries.tail, wallet.disconnected = some true := by
  have hfirst := firstDisconnected_of_done (invariant_of_reaches hr) hcall hdone
  rw [AllDisconnected, hfirst]
  cases hentries : stored.entries with
  | nil => simp [disconnectFirst]
  | cons wallet wallets =>
    rw [disconnectFirst, List.map_cons, List.cons.injEq, List.tail_cons, ← map_disconnect_eq_self_iff]
    exact and_iff_right rfl

/-! ## Two wallets -/

def wallets (secondDisconnected : Bool) : HardwareWallets Unit where
  entries :=
    [⟨⟨"a", by decide⟩, some false, fun _ => none⟩, ⟨⟨"b", by decide⟩, some secondDisconnected, fun _ => none⟩]
  nodup := by
    show [(⟨"a", _⟩ : WalletId), ⟨"b", _⟩].Nodup
    decide

/-- The wallets are read, the first is read and written, and both settings return. -/
def checkEvents : List (Event Unit) :=
  [.getAvailableDevices, .tick 0, .answer 0 none, .respond 0, .resume 0, .readDevices 0 true, .tickSet 0,
    .serve 0 none, .handle 0, .serve 0 none, .handle 0, .resumeSetting 0 0, .resumeSetting 0 1]

def doneCall : Call :=
  ⟨.refreshingData (some 1), some [⟨⟨"a", by decide⟩, .returned⟩, ⟨⟨"b", by decide⟩, .returned⟩]⟩

theorem doneCall_done : doneCall.LocalDataDone :=
  ⟨_, rfl, by decide⟩

/-- The second wallet stays connected. -/
theorem not_allDisconnected_of_two :
    ∃ s : State Unit Unit, (machine Unit (wallets false)).Reaches Machine.anyStep s ∧
      doneCall ∈ s.calls ∧ doneCall.LocalDataDone ∧ ¬ AllDisconnected (wallets false) s := by
  refine ⟨_, Machine.reaches_of_exec (M := machine Unit (wallets false)) checkEvents rfl, ?_, doneCall_done, ?_⟩
  · exact List.mem_singleton_self _
  · intro hall
    have hdisconnected := congrArg (List.map (·.disconnected)) hall
    revert hdisconnected
    decide

theorem allDisconnected_of_secondDisconnected :
    ∃ s : State Unit Unit, (machine Unit (wallets true)).Reaches Machine.anyStep s ∧
      doneCall ∈ s.calls ∧ AllDisconnected (wallets true) s := by
  have hr := Machine.reaches_of_exec (M := machine Unit (wallets true)) checkEvents rfl
  refine ⟨_, hr, List.mem_singleton_self _, ?_⟩
  refine (allDisconnected_iff hr (List.mem_singleton_self doneCall) doneCall_done).mpr ?_
  intro wallet hwallet
  obtain rfl := List.mem_singleton.mp hwallet
  rfl

end Klarity.HardwareWallets.AvailableDevices
