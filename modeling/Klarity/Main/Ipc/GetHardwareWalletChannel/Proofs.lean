import Klarity.Library.Lists
import Klarity.Main.Ipc.GetHardwareWalletChannel
import Mathlib.Tactic.Common

set_option autoImplicit false

/-! # Which device a reply is from

The key of a device and its serial number are asked one after the other, and the second question goes to the
connection that is in `deviceConnection` by then. `withDeviceId_settled` says which connection that is: the one
that was selected last before the first answer came.

`isSome_devicesMemo_iff` compares what is kept with what the renderer was told. -/

namespace Klarity.HardwareWalletChannel

variable {K A : Type} {deviceModel : ℕ → Bool} {answer : ℕ → Command K → A} {s s' : State K A}

/-! ## What a step does to the calls -/

/-- What a request asks first, and the path of its device. -/
def Event.request : Event K → Option (Asked K × Option String)
  | .getBccBccApp (some path) => if isTruthy (some path) then some (.bccApp path, some path) else none
  | .getExtendedPublicKey devicePath path => some (.extendedPublicKey path, devicePath)
  | .deriveAddress devicePath false address => some (.only (.deriveAddress address), devicePath)
  | .showAddress devicePath false address => some (.only (.showAddress address), devicePath)
  | .signTransactionLedger devicePath tx =>
      if isTruthy devicePath then some (.only (.signTransaction tx), devicePath) else none
  | _ => none

/-- A phase that has nothing to do with a question to a device, nor with a device id. -/
def Phase.isPlain : Phase K A → Bool
  | .asking _ _ | .askingSerial _ _ _ | .settled (.ok (.withDeviceId _ _)) => false
  | _ => true

/-- How the `k`-th call comes to a phase. -/
inductive Advance (answer : ℕ → Command K → A) (s : State K A) : Event K → ℕ → Phase K A → Prop
  | started {e : Event K} {asked : Asked K} {path : Option String} {connection : ℕ} :
      e.request = some (asked, path) → s.connectionAt path = some connection →
      Advance answer s e s.calls.length (.asking asked connection)
  | askedSerial {k : ℕ} {asked : Asked K} {connection connection' : ℕ} :
      s.calls[k]? = some (.asking asked connection) → s.deviceConnection = some connection' →
      Advance answer s (.answered k) k (.askingSerial asked (answer connection asked.command) connection')
  | replied {k : ℕ} {asked : Asked K} {first : A} {connection : ℕ} :
      s.calls[k]? = some (.askingSerial asked first connection) →
      Advance answer s (.answered k) k (.settled (.ok (.withDeviceId first (answer connection .getSerial))))
  | plain {e : Event K} {k : ℕ} {phase : Phase K A} : phase.isPlain = true → Advance answer s e k phase

theorem advance_call {e : Event K} {next phase : Phase K A} {k : ℕ} {calls : List (Phase K A)}
    (hcalls : calls = s.calls ++ [next]) (hnext : Advance answer s e s.calls.length next)
    (hk : calls[k]? = some phase) : s.calls[k]? = some phase ∨ Advance answer s e k phase := by
  rw [hcalls] at hk
  rcases List.getElem?_concat_eq_some.1 hk with hold | ⟨rfl, rfl⟩
  · exact .inl hold
  · exact .inr hnext

theorem advance_goOn {e : Event K} {next phase : Phase K A} {j k : ℕ} {calls : List (Phase K A)}
    (hcalls : calls = s.calls.set j next) (hnext : Advance answer s e j next)
    (hk : calls[k]? = some phase) : s.calls[k]? = some phase ∨ Advance answer s e k phase := by
  rw [hcalls] at hk
  by_cases hj : j = k
  · subst hj
    rw [List.getElem?_set_self'] at hk
    obtain ⟨_, -, rfl⟩ := Option.map_eq_some_iff.1 hk
    exact .inr hnext
  · rw [List.getElem?_set_ne hj] at hk
    exact .inl hk

theorem isPlain_settled_transport (deviceModel : ℕ → Bool) (connection : ℕ) (path : Option String) :
    (Phase.settled (respondTransport deviceModel connection path) : Phase K A).isPlain = true := by
  unfold respondTransport
  split <;> rfl

theorem calls_askLedger (s : State K A) (devicePath : Option String) (asked : Asked K) :
    ∃ next, (askLedger s devicePath asked).calls = s.calls ++ [next] ∧
      (next.isPlain = true ∨ ∃ connection, next = .asking asked connection ∧
        s.connectionAt devicePath = some connection) := by
  unfold askLedger
  split
  · next connection hconnection => exact ⟨_, rfl, .inr ⟨connection, rfl, hconnection⟩⟩
  · exact ⟨_, rfl, .inl rfl⟩

theorem advance_askLedger {e : Event K} {devicePath : Option String} {asked : Asked K} {phase : Phase K A} {k : ℕ}
    (he : e.request = some (asked, devicePath)) (hk : (askLedger s devicePath asked).calls[k]? = some phase) :
    s.calls[k]? = some phase ∨ Advance answer s e k phase := by
  obtain ⟨next, hcalls, hplain | ⟨connection, rfl, hconnection⟩⟩ := calls_askLedger s devicePath asked
  · exact advance_call hcalls (.plain hplain) hk
  · exact advance_call hcalls (.started he hconnection) hk

theorem phase_of_step {e : Event K} {phase : Phase K A} {k : ℕ} (hs : step deviceModel answer s e = some s')
    (hk : s'.calls[k]? = some phase) : s.calls[k]? = some phase ∨ Advance answer s e k phase := by
  cases e with
  | next isAdd path =>
      obtain rfl := Option.some.inj hs
      exact advance_call rfl (.plain rfl) hk
  | getTransport devicePath =>
      obtain rfl := Option.some.inj hs
      exact advance_call rfl (.plain rfl) hk
  | getBccBccApp path =>
      obtain rfl := Option.some.inj hs
      unfold getBccBccApp at hk
      split at hk
      · next deviceMemo path hmemo htruthy =>
          have hconnection : s.connectionAt (some path) = some deviceMemo.connection := by
            rw [State.connectionAt, hmemo, Option.map_some]
          exact advance_call rfl (.started (if_pos htruthy) hconnection) hk
      · exact advance_call rfl (.plain rfl) hk
  | getExtendedPublicKey devicePath path =>
      obtain rfl := Option.some.inj hs
      exact advance_askLedger rfl hk
  | deriveAddress devicePath isTrezor address =>
      obtain rfl := Option.some.inj hs
      cases isTrezor with
      | true => exact advance_call rfl (.plain rfl) hk
      | false => exact advance_askLedger rfl hk
  | showAddress devicePath isTrezor address =>
      obtain rfl := Option.some.inj hs
      cases isTrezor with
      | true => exact advance_call rfl (.plain rfl) hk
      | false => exact advance_askLedger rfl hk
  | signTransactionLedger devicePath tx =>
      obtain rfl := Option.some.inj hs
      unfold signTransactionLedger at hk
      split at hk
      · next htruthy =>
        split at hk
        · next connection hconnection => exact advance_call rfl (.started (if_pos htruthy) hconnection) hk
        · exact advance_call rfl (.plain rfl) hk
      · exact advance_call rfl (.plain rfl) hk
  | listed j transportList known =>
      simp only [step] at hs
      split at hs
      · obtain rfl := Option.some.inj hs
        unfold onObserved at hk
        split at hk
        · split at hk
          · exact advance_goOn rfl (.plain rfl) hk
          · exact advance_goOn rfl (.plain rfl) hk
        · exact advance_goOn rfl (.plain rfl) hk
      · obtain rfl := Option.some.inj hs
        unfold onTransportList at hk
        split at hk
        · exact advance_goOn rfl (.plain rfl) hk
        · split at hk
          · exact advance_goOn rfl (.plain (isPlain_settled_transport _ _ _)) hk
          · split at hk
            · exact advance_goOn rfl (.plain (isPlain_settled_transport _ _ _)) hk
            · exact advance_goOn rfl (.plain rfl) hk
      · obtain rfl := Option.some.inj hs
        exact advance_goOn rfl (.plain (isPlain_settled_transport _ _ _)) hk
      · obtain rfl := Option.some.inj hs
        unfold onDevicePaths at hk
        dsimp only at hk
        split at hk
        · exact advance_goOn rfl (.plain rfl) hk
        · exact advance_goOn rfl (.plain rfl) hk
        · exact advance_goOn rfl (.plain rfl) hk
      · cases hs
  | opened j ok known =>
      simp only [step] at hs
      split at hs
      · obtain rfl := Option.some.inj hs
        unfold onOpened at hk
        split at hk
        · exact advance_goOn rfl (.plain rfl) hk
        · exact advance_goOn rfl (.plain rfl) hk
      · split at hs
        · obtain rfl := Option.some.inj hs
          exact advance_goOn rfl (.plain rfl) hk
        · obtain rfl := Option.some.inj hs
          exact advance_goOn rfl (.plain rfl) hk
      · obtain rfl := Option.some.inj hs
        unfold onReopened at hk
        split at hk
        · split at hk
          · exact advance_goOn rfl (.plain rfl) hk
          · exact advance_goOn rfl (.plain rfl) hk
        · exact advance_goOn rfl (.plain rfl) hk
      · cases hs
  | answered j =>
      simp only [step] at hs
      split at hs
      · next asked connection hasking =>
          obtain rfl := Option.some.inj hs
          unfold onAnswer at hk
          split at hk
          · exact advance_goOn rfl (.plain rfl) hk
          · exact advance_goOn rfl (.plain rfl) hk
          · split at hk
            · next connection' hconnection => exact advance_goOn rfl (.askedSerial hasking hconnection) hk
            · exact advance_goOn rfl (.plain rfl) hk
      · next asked first connection hasking =>
          obtain rfl := Option.some.inj hs
          exact advance_goOn rfl (.replied hasking) hk
      · cases hs
  | rejected j isDisconnectError =>
      have hplain (asked : Asked K) (hk : (onRejected s j asked isDisconnectError).calls[k]? = some phase) :
          s.calls[k]? = some phase ∨ Advance answer s (.rejected j isDisconnectError) k phase := by
        unfold onRejected at hk
        split at hk
        · exact advance_goOn rfl (.plain rfl) hk
        · exact advance_goOn rfl (.plain rfl) hk
      simp only [step] at hs
      split at hs
      · next asked _ _ =>
          obtain rfl := Option.some.inj hs
          exact hplain asked hk
      · next asked _ _ _ =>
          obtain rfl := Option.some.inj hs
          exact hplain asked hk
      · cases hs

/-! ## What is selected -/

/-- What is put in `deviceConnection` once the transports are listed. -/
def selectionListed (s : State K A) (transportList : List String) : Phase K A → Option (Option ℕ)
  | .listing devicePath =>
      match transportList with
      | [] => none
      | first :: _ =>
          ((if isTruthy devicePath then s.connectionAt devicePath else none).or
            (s.connectionAt (some first))).map some
  | .relisting _ connection => some (some connection)
  | _ => none

def selectionOpened (s : State K A) (ok known : Bool) : Phase K A → Option (Option ℕ)
  | .reopening _ _ oldDevice => if ok then if known && oldDevice then some (some s.opened) else none else none
  | _ => none

/-- What an event puts in `deviceConnection`, if it assigns it. -/
def selection (s : State K A) : Event K → Option (Option ℕ)
  | .getBccBccApp path => if isTruthy path then (s.connectionAt path).map some else none
  | .getExtendedPublicKey devicePath _ => some (s.connectionAt devicePath)
  | .deriveAddress devicePath _ _ => some (s.connectionAt devicePath)
  | .showAddress devicePath _ _ => some (s.connectionAt devicePath)
  | .signTransactionLedger devicePath _ =>
      if isTruthy devicePath then (s.connectionAt devicePath).map some else some none
  | .listed k transportList _ => (s.calls[k]?).bind (selectionListed s transportList)
  | .opened k ok known => (s.calls[k]?).bind (selectionOpened s ok known)
  | _ => none

theorem deviceConnection_askLedger (s : State K A) (devicePath : Option String) (asked : Asked K) :
    (askLedger s devicePath asked).deviceConnection = s.connectionAt devicePath := by
  unfold askLedger
  split
  · next connection hconnection => exact hconnection.symm
  · next hnone => exact hnone.symm

theorem deviceConnection_getBccBccApp (s : State K A) (path : Option String) :
    (getBccBccApp s path).deviceConnection =
      (selection s (.getBccBccApp path : Event K)).getD s.deviceConnection := by
  cases path with
  | none =>
      cases hmemo : s.memoAt none with
      | none => simp [getBccBccApp, selection, State.call, isTruthy, hmemo]
      | some deviceMemo => simp [getBccBccApp, selection, State.call, isTruthy, hmemo]
  | some path =>
      cases hmemo : s.memoAt (some path) with
      | none => simp [getBccBccApp, selection, State.call, State.connectionAt, hmemo]
      | some deviceMemo =>
          cases htruthy : isTruthy (some path) with
          | false => simp [getBccBccApp, selection, State.call, hmemo, htruthy]
          | true => simp [getBccBccApp, selection, State.call, State.select, State.connectionAt, hmemo, htruthy]

theorem deviceConnection_onTransportList (s : State K A) (k : ℕ) (devicePath : Option String)
    (transportList : List String) :
    (onTransportList deviceModel s k devicePath transportList).deviceConnection =
      (selectionListed s transportList (.listing devicePath)).getD s.deviceConnection := by
  cases transportList with
  | nil => rfl
  | cons first rest =>
      simp only [onTransportList, selectionListed]
      split
      · next hmemo htruthy => simp [State.connectionAt, hmemo, htruthy, State.goOn, State.select]
      · next hnot =>
          have hfirst : (if isTruthy devicePath then s.connectionAt devicePath else none) = none := by
            split
            · next htruthy =>
                cases hmemo : s.memoAt devicePath with
                | none => simp [State.connectionAt, hmemo]
                | some deviceMemo => exact absurd htruthy (hnot deviceMemo hmemo)
            · rfl
          rw [hfirst, Option.none_or]
          split
          · next hmemo => simp [State.connectionAt, State.memoAt, hmemo, State.goOn, State.select]
          · next hnone => simp [State.connectionAt, State.memoAt, hnone, State.goOn]

theorem deviceConnection_of_step {e : Event K} (hs : step deviceModel answer s e = some s') :
    s'.deviceConnection = (selection s e).getD s.deviceConnection := by
  cases e with
  | next isAdd path => exact Option.some.inj hs ▸ rfl
  | getTransport devicePath => exact Option.some.inj hs ▸ rfl
  | getBccBccApp path => exact Option.some.inj hs ▸ deviceConnection_getBccBccApp s path
  | getExtendedPublicKey devicePath path =>
      exact Option.some.inj hs ▸ deviceConnection_askLedger s devicePath _
  | deriveAddress devicePath isTrezor address =>
      cases isTrezor with
      | true => exact Option.some.inj hs ▸ rfl
      | false => exact Option.some.inj hs ▸ deviceConnection_askLedger s devicePath _
  | showAddress devicePath isTrezor address =>
      cases isTrezor with
      | true => exact Option.some.inj hs ▸ rfl
      | false => exact Option.some.inj hs ▸ deviceConnection_askLedger s devicePath _
  | signTransactionLedger devicePath tx =>
      obtain rfl := Option.some.inj hs
      unfold signTransactionLedger
      simp only [selection]
      split
      · split
        · next connection hconnection => simp [hconnection, State.call, State.select]
        · next hnone => simp [hnone, State.call]
      · rfl
  | listed j transportList known =>
      simp only [step] at hs
      simp only [selection]
      split at hs
      · next hcall =>
          rw [hcall]
          obtain rfl := Option.some.inj hs
          unfold onObserved
          split
          · split
            · rfl
            · rfl
          · rfl
      · next devicePath hcall =>
          rw [hcall]
          exact Option.some.inj hs ▸ deviceConnection_onTransportList s j devicePath transportList
      · next hcall =>
          rw [hcall]
          exact Option.some.inj hs ▸ rfl
      · next hcall =>
          rw [hcall]
          obtain rfl := Option.some.inj hs
          unfold onDevicePaths
          dsimp only
          split
          · rfl
          · rfl
          · rfl
      · cases hs
  | opened j ok known =>
      simp only [step] at hs
      simp only [selection]
      split at hs
      · next hcall =>
          rw [hcall]
          obtain rfl := Option.some.inj hs
          unfold onOpened
          split
          · rfl
          · rfl
      · next hcall =>
          rw [hcall]
          split at hs
          · exact Option.some.inj hs ▸ rfl
          · exact Option.some.inj hs ▸ rfl
      · next oldPath newPath oldDevice hcall =>
          rw [hcall]
          obtain rfl := Option.some.inj hs
          simp only [onReopened, selectionOpened, Option.bind_some]
          split
          · split
            · rfl
            · rfl
          · rfl
      · cases hs
  | answered j =>
      simp only [step] at hs
      split at hs
      · obtain rfl := Option.some.inj hs
        unfold onAnswer
        split
        · rfl
        · rfl
        · split
          · rfl
          · rfl
      · exact Option.some.inj hs ▸ rfl
      · cases hs
  | rejected j isDisconnectError =>
      have hsame (asked : Asked K) : (onRejected s j asked isDisconnectError).deviceConnection = s.deviceConnection := by
        unfold onRejected
        split
        · rfl
        · rfl
      simp only [step] at hs
      split at hs
      · exact Option.some.inj hs ▸ hsame _
      · exact Option.some.inj hs ▸ hsame _
      · cases hs

/-- What is put in `deviceConnection` over a run. -/
def selections (deviceModel : ℕ → Bool) (answer : ℕ → Command K → A) (s : State K A) :
    List (Event K) → List (Option ℕ)
  | [] => []
  | e :: es =>
      (selection s e).toList ++
        match step deviceModel answer s e with
        | some s' => selections deviceModel answer s' es
        | none => []

/-- The last selection counts. -/
theorem deviceConnection_of_exec (es : List (Event K)) (h : (machine deviceModel answer).exec s es = some s') :
    s'.deviceConnection = ((selections deviceModel answer s es).getLast?).getD s.deviceConnection := by
  induction es generalizing s with
  | nil => exact Option.some.inj h ▸ rfl
  | cons e es ih =>
      obtain ⟨t, ht, hs'⟩ := Machine.exec_cons_eq_some.1 h
      have hstep : step deviceModel answer s e = some t := ht
      rw [ih hs', deviceConnection_of_step hstep]
      simp only [selections, hstep, List.getLast?_append]
      cases (selections deviceModel answer t es).getLast? with
      | some connection => rfl
      | none => cases selection s e <;> rfl

/-! ## The device id of a reply -/

/-- In a run, the `k`-th call is a request for a device that has a connection, and `mid` has come after it. -/
inductive Requested (deviceModel : ℕ → Bool) (answer : ℕ → Command K → A) (before mid : List (Event K)) (k : ℕ)
    (asked : Asked K) (connection : ℕ) (selected : List (Option ℕ)) : List (Event K) → Prop
  | intro {request : Event K} {path : Option String} {s s' : State K A} :
      (machine deviceModel answer).exec {} before = some s → request.request = some (asked, path) →
      k = s.calls.length → s.connectionAt path = some connection →
      step deviceModel answer s request = some s' → selected = selections deviceModel answer s' mid →
      Requested deviceModel answer before mid k asked connection selected (before ++ request :: mid)

/-- How the two parts of a reply come about: the first is from the device at the path of the request, the device id
    from the one that was selected last before the first part was there. -/
inductive Replied (deviceModel : ℕ → Bool) (answer : ℕ → Command K → A) (k : ℕ) (first deviceId : A) :
    List (Event K) → Prop
  | intro {before mid after es : List (Event K)} {asked : Asked K} {connection connection' : ℕ}
      {selected : List (Option ℕ)} :
      Requested deviceModel answer before mid k asked connection selected es →
      selected.getLast?.getD (some connection) = some connection' →
      first = answer connection asked.command → deviceId = answer connection' .getSerial →
      Replied deviceModel answer k first deviceId (es ++ .answered k :: after)

/-- What the events before say about the phase of a call. -/
def Explained (deviceModel : ℕ → Bool) (answer : ℕ → Command K → A) (es : List (Event K)) (k : ℕ) :
    Phase K A → Prop
  | .asking asked connection =>
      ∃ before mid selected, Requested deviceModel answer before mid k asked connection selected es
  | .askingSerial _ first connection => Replied deviceModel answer k first (answer connection .getSerial) es
  | .settled (.ok (.withDeviceId first deviceId)) => Replied deviceModel answer k first deviceId es
  | _ => True

theorem Replied.concat {es : List (Event K)} {k : ℕ} {first deviceId : A}
    (h : Replied deviceModel answer k first deviceId es) (e : Event K) :
    Replied deviceModel answer k first deviceId (es ++ [e]) := by
  obtain ⟨hrequested, hselected, hfirst, hdeviceId⟩ := h
  rw [List.append_assoc, List.cons_append]
  exact .intro hrequested hselected hfirst hdeviceId

theorem Explained.concat {es : List (Event K)} {k : ℕ} {phase : Phase K A}
    (h : Explained deviceModel answer es k phase) (e : Event K) :
    Explained deviceModel answer (es ++ [e]) k phase := by
  unfold Explained at h ⊢
  split at h
  · obtain ⟨before, mid, _, hexec, hrequest, hk, hconnection, hstep, rfl⟩ := h
    rw [List.append_assoc, List.cons_append]
    exact ⟨before, mid ++ [e], _, .intro hexec hrequest hk hconnection hstep rfl⟩
  · exact Replied.concat h e
  · exact Replied.concat h e
  · trivial

/-- A request selects the connection that it asks. -/
theorem selection_of_request {e : Event K} {asked : Asked K} {path : Option String} {connection : ℕ}
    (he : e.request = some (asked, path)) (hconnection : s.connectionAt path = some connection) :
    selection s e = some (some connection) := by
  unfold Event.request at he
  split at he
  · split at he
    · next htruthy =>
        obtain ⟨rfl, rfl⟩ := Prod.mk.inj (Option.some.inj he)
        simp [selection, htruthy, hconnection]
    · cases he
  · obtain ⟨rfl, rfl⟩ := Prod.mk.inj (Option.some.inj he)
    exact congrArg some hconnection
  · obtain ⟨rfl, rfl⟩ := Prod.mk.inj (Option.some.inj he)
    exact congrArg some hconnection
  · obtain ⟨rfl, rfl⟩ := Prod.mk.inj (Option.some.inj he)
    exact congrArg some hconnection
  · split at he
    · next htruthy =>
        obtain ⟨rfl, rfl⟩ := Prod.mk.inj (Option.some.inj he)
        simp [selection, htruthy, hconnection]
    · cases he
  · cases he

/-- After a request, the variable has what was selected last since. -/
theorem Requested.deviceConnection {before mid es : List (Event K)} {k connection : ℕ} {asked : Asked K}
    {selected : List (Option ℕ)} (h : Requested deviceModel answer before mid k asked connection selected es)
    (hexec : (machine deviceModel answer).exec {} es = some s) :
    s.deviceConnection = selected.getLast?.getD (some connection) := by
  obtain ⟨hbefore, hrequest, -, hconnection, hstep, rfl⟩ := h
  obtain ⟨t, ht, hrest⟩ := Machine.exec_append_eq_some.1 hexec
  obtain rfl := Option.some.inj (hbefore.symm.trans ht)
  obtain ⟨t', ht', hmid⟩ := Machine.exec_cons_eq_some.1 hrest
  obtain rfl := Option.some.inj (hstep.symm.trans ht')
  rw [deviceConnection_of_exec mid hmid, deviceConnection_of_step hstep, selection_of_request hrequest hconnection]
  rfl

theorem Explained.advance {es : List (Event K)} {e : Event K} {k : ℕ} {phase : Phase K A}
    (hexec : (machine deviceModel answer).exec {} es = some s)
    (h : ∀ k phase, s.calls[k]? = some phase → Explained deviceModel answer es k phase)
    (hs : step deviceModel answer s e = some s') (hadvance : Advance answer s e k phase) :
    Explained deviceModel answer (es ++ [e]) k phase := by
  cases hadvance with
  | started he hconnection => exact ⟨es, [], _, .intro hexec he rfl hconnection hs rfl⟩
  | @askedSerial _ asked connection connection' hasking hselected =>
      obtain ⟨before, mid, selected, hrequested⟩ := h _ _ hasking
      exact .intro hrequested ((hrequested.deviceConnection hexec).symm.trans hselected) rfl rfl
  | replied hasking => exact (h _ _ hasking).concat _
  | plain hplain =>
      unfold Explained
      split
      · cases hplain
      · cases hplain
      · cases hplain
      · trivial

theorem explained_of_exec {es : List (Event K)} (h : (machine deviceModel answer).exec {} es = some s) :
    ∀ k phase, s.calls[k]? = some phase → Explained deviceModel answer es k phase := by
  refine Machine.exec_induction (M := machine deviceModel answer)
    (P := fun es s => ∀ k phase, s.calls[k]? = some phase → Explained deviceModel answer es k phase)
    (fun k phase hk => by simp [machine] at hk) ?_ h
  intro es e t t' hexec ih hs k phase hk
  rcases phase_of_step hs hk with hold | hadvance
  · exact (ih k phase hold).concat e
  · exact Explained.advance hexec ih hs hadvance

/-- A reply with a device id is explained by the run. -/
theorem withDeviceId_settled {es : List (Event K)} {k : ℕ} {first deviceId : A}
    (h : (machine deviceModel answer).exec {} es = some s)
    (hk : s.calls[k]? = some (.settled (.ok (.withDeviceId first deviceId)))) :
    Replied deviceModel answer k first deviceId es :=
  explained_of_exec h k _ hk

/-- Two Ledgers are plugged in, and the key of one is asked while the version of the other is. -/
def overlapping : List (Event Unit) :=
  [.next true "a", .next true "b", .listed 0 ["a", "b"] true, .listed 1 ["a", "b"] true, .opened 0 true true,
    .opened 1 true true, .getExtendedPublicKey (some "a") (), .getBccBccApp (some "b"), .answered 2, .answered 2]

def overlapped : State Unit (ℕ × Command Unit) :=
  ((machine (fun _ => true) Prod.mk).exec {} overlapping).get (by decide)

/-- The key is of the first Ledger, and the device id of the second one. -/
theorem withDeviceId_settled_overlapping :
    Replied (fun _ => true) Prod.mk 2 (0, .getExtendedPublicKey ()) (1, .getSerial) overlapping :=
  withDeviceId_settled (s := overlapped) (Option.some_get _).symm rfl

/-! ## What the renderer was told -/

/-- Nothing is kept but what the observer has opened. -/
def observerOnly (s : State K A) : Event K → Prop
  | .listed k _ _ => ∀ devicePath connection, s.calls[k]? ≠ some (.relisting devicePath connection)
  | .opened k _ _ => ∀ oldPath newPath oldDevice, s.calls[k]? ≠ some (.reopening oldPath newPath oldDevice)
  | _ => True

/-- What is kept changes together with a message. -/
inductive Told (s s' : State K A) : Prop
  | same : s'.devicesMemo = s.devicesMemo → s'.sent = s.sent → Told s s'
  | connected (path : String) (deviceMemo : DeviceMemo) :
      s'.devicesMemo = Function.update s.devicesMemo path (some deviceMemo) → s'.sent = s.sent ++ [(false, path)] →
      Told s s'
  | disconnected (path : String) :
      s'.devicesMemo = Function.update s.devicesMemo path none → s'.sent = s.sent ++ [(true, path)] → Told s s'

theorem told_askLedger (s : State K A) (devicePath : Option String) (asked : Asked K) :
    Told s (askLedger s devicePath asked) := by
  unfold askLedger
  split
  · exact .same rfl rfl
  · exact .same rfl rfl

theorem told_of_step {e : Event K} (hok : observerOnly s e) (hs : step deviceModel answer s e = some s') :
    Told s s' := by
  cases e with
  | next isAdd path => exact Option.some.inj hs ▸ .same rfl rfl
  | getTransport devicePath => exact Option.some.inj hs ▸ .same rfl rfl
  | getBccBccApp path =>
      obtain rfl := Option.some.inj hs
      unfold getBccBccApp
      split
      · exact .same rfl rfl
      · exact .same rfl rfl
  | getExtendedPublicKey devicePath path => exact Option.some.inj hs ▸ told_askLedger s devicePath _
  | deriveAddress devicePath isTrezor address =>
      cases isTrezor with
      | true => exact Option.some.inj hs ▸ .same rfl rfl
      | false => exact Option.some.inj hs ▸ told_askLedger s devicePath _
  | showAddress devicePath isTrezor address =>
      cases isTrezor with
      | true => exact Option.some.inj hs ▸ .same rfl rfl
      | false => exact Option.some.inj hs ▸ told_askLedger s devicePath _
  | signTransactionLedger devicePath tx =>
      obtain rfl := Option.some.inj hs
      unfold signTransactionLedger
      split
      · split
        · exact .same rfl rfl
        · exact .same rfl rfl
      · exact .same rfl rfl
  | listed k transportList known =>
      simp only [step] at hs
      split at hs
      · next path _ =>
          obtain rfl := Option.some.inj hs
          unfold onObserved
          split
          · split
            · exact .same rfl rfl
            · exact .same rfl rfl
          · exact .disconnected path rfl rfl
      · obtain rfl := Option.some.inj hs
        unfold onTransportList
        split
        · exact .same rfl rfl
        · split
          · exact .same rfl rfl
          · split
            · exact .same rfl rfl
            · exact .same rfl rfl
      · next hcall => exact absurd hcall (hok _ _)
      · obtain rfl := Option.some.inj hs
        unfold onDevicePaths
        dsimp only
        split
        · exact .same rfl rfl
        · exact .same rfl rfl
        · exact .same rfl rfl
      · cases hs
  | opened k ok known =>
      simp only [step] at hs
      split at hs
      · next path _ =>
          obtain rfl := Option.some.inj hs
          unfold onOpened
          split
          · exact .connected path ⟨true, s.opened⟩ rfl rfl
          · exact .same rfl rfl
      · split at hs
        · exact Option.some.inj hs ▸ .same rfl rfl
        · exact Option.some.inj hs ▸ .same rfl rfl
      · next hcall => exact absurd hcall (hok _ _ _)
      · cases hs
  | answered k =>
      simp only [step] at hs
      split at hs
      · obtain rfl := Option.some.inj hs
        unfold onAnswer
        split
        · exact .same rfl rfl
        · exact .same rfl rfl
        · split
          · exact .same rfl rfl
          · exact .same rfl rfl
      · exact Option.some.inj hs ▸ .same rfl rfl
      · cases hs
  | rejected k isDisconnectError =>
      have hsame (asked : Asked K) : Told s (onRejected s k asked isDisconnectError) := by
        unfold onRejected
        split
        · exact .same rfl rfl
        · exact .same rfl rfl
      simp only [step] at hs
      split at hs
      · exact Option.some.inj hs ▸ hsame _
      · exact Option.some.inj hs ▸ hsame _
      · cases hs

/-- The last message about a device. -/
def lastSent (s : State K A) (path : String) : Option (Bool × String) := (s.sent.filter (·.2 = path)).getLast?

theorem lastSent_concat {disconnected : Bool} {path path' : String}
    (hsent : s'.sent = s.sent ++ [(disconnected, path)]) :
    lastSent s' path' = if path = path' then some (disconnected, path) else lastSent s path' := by
  unfold lastSent
  rw [hsent, List.filter_append]
  split
  · next h => simp [h]
  · next h => simp [h]

theorem isSome_devicesMemo_iff (hr : (machine deviceModel answer).Reaches observerOnly s) (path : String) :
    (s.devicesMemo path).isSome = true ↔ lastSent s path = some (false, path) := by
  refine hr.invariant
    (P := fun s => ∀ path, (s.devicesMemo path).isSome = true ↔ lastSent s path = some (false, path))
    (fun path => by simp [machine, lastSent]) ?_ path
  intro s e s' _ hok ih hs path'
  cases told_of_step hok hs with
  | same hmemo hsent =>
      unfold lastSent at ih ⊢
      rw [hmemo, hsent]
      exact ih path'
  | connected path deviceMemo hmemo hsent =>
      rw [hmemo, lastSent_concat hsent]
      by_cases h : path = path'
      · subst h
        simp
      · rw [Function.update_of_ne (Ne.symm h), if_neg h]
        exact ih path'
  | disconnected path hmemo hsent =>
      rw [hmemo, lastSent_concat hsent]
      by_cases h : path = path'
      · subst h
        simp
      · rw [Function.update_of_ne (Ne.symm h), if_neg h]
        exact ih path'

/-- A Ledger is plugged in. -/
def plugging : List (Event Unit) := [.next true "a", .listed 0 ["a"] true, .opened 0 true true]

def pluggedIn : State Unit (ℕ × Command Unit) :=
  ((machine (fun _ => true) Prod.mk).exec {} plugging).get (by decide)

theorem reaches_pluggedIn :
    (machine (fun _ => true) (Prod.mk : ℕ → Command Unit → _)).Reaches observerOnly pluggedIn :=
  .exec plugging .init ⟨trivial, fun _ _ h => (by cases h), fun _ _ _ h => (by cases h), trivial⟩
    (Option.some_get _).symm

theorem isSome_devicesMemo_iff_pluggedIn :
    (pluggedIn.devicesMemo "a").isSome = true ↔ lastSent pluggedIn "a" = some (false, "a") :=
  isSome_devicesMemo_iff reaches_pluggedIn "a"

end Klarity.HardwareWalletChannel
