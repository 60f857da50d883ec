import Klarity.Library.Machine
import Klarity.Main.Ipc.ElectronStoreConversation

set_option autoImplicit false

/-! # The local data of the wallets

The record of a wallet is changed by reading it and writing it back: two messages, between which other calls and
other messages come. `tidy_of_reaches` says what every record has whatever the order, `creationDate_stable` that
the creation date is never replaced once the calls that were under way when it was written are over, and
`refresh_entry` what a refresh adds. -/

namespace Klarity.WalletLocalData

open Klarity.ElectronStore

variable {S A : Type}

/-- The fields that hold one value. -/
def single (name : String) (v : Nested A) : Fields A := fun other => if other = name then some v else none

section
variable (text : String → A)

/-- What a missing record is read as. -/
def fallbackValue (walletId : Id) : Nested A := .object (single "id" (.leaf (text walletId.1)))

/-- `Object.assign({}, defaultData, currentWalletData, updatedWalletData, unmutableData)` -/
def assign (walletId : Id) (now currentWalletData : Nested A) (updatedWalletData : Fields A) : Fields A :=
  (((single "creationDate" now).assign currentWalletData.fields).assign updatedWalletData).assign
    (single "id" (.leaf (text walletId.1)))

/-- A record has the id that it is under, and a creation date. -/
structure Tidy (walletId : Id) (walletData : Nested A) : Prop where
  id : walletData.fields "id" = some (.leaf (text walletId.1))
  creationDate : (walletData.fields "creationDate").isSome

theorem assign_creationDate (walletId : Id) (now currentWalletData : Nested A) (updatedWalletData : Fields A) :
    assign text walletId now currentWalletData updatedWalletData "creationDate" =
      ((updatedWalletData "creationDate").or (currentWalletData.fields "creationDate")).or (some now) := by
  simp [assign, Fields.assign, single]

theorem tidy_assign (walletId : Id) (now currentWalletData : Nested A) (updatedWalletData : Fields A) :
    Tidy text walletId (.object (assign text walletId now currentWalletData updatedWalletData)) where
  id := by simp [assign, Fields.assign, single]
  creationDate := by
    rw [Nested.fields_object, assign_creationDate]
    simp

/-- Nothing changes in a tidy record that is assigned nothing. -/
theorem assign_of_tidy {walletId : Id} {walletData : Nested A} (h : Tidy text walletId walletData)
    (now : Nested A) : assign text walletId now walletData (fun _ => none) = walletData.fields := by
  funext name
  simp only [assign, Fields.assign, single, Option.none_or]
  by_cases hid : name = "id"
  · rw [if_pos hid, Option.some_or, hid, h.id]
  · rw [if_neg hid, Option.none_or]
    by_cases hdate : name = "creationDate"
    · obtain ⟨date, hsome⟩ := Option.isSome_iff_exists.1 h.creationDate
      rw [hdate, hsome, Option.some_or]
    · rw [if_neg hdate, Option.or_none]

end

/-! ## The messages about one wallet -/

def getWalletMessage (walletId : Id) : StoreMessage A := getMessage (some .wallets) (some walletId)

def setWalletMessage (walletId : Id) (walletData : Fields A) : StoreMessage A where
  type := .set
  key := some .wallets
  data := some (.object walletData)
  id := some walletId

def unsetWalletMessage (walletId : Id) : StoreMessage A where
  type := .delete
  key := some .wallets
  id := some walletId

section
variable [DottedStore S A]

/-- The record of a wallet. -/
def entry (network : Network) (s : S) (walletId : Id) : Option (Nested A) :=
  Table.entry (table s (network, some .wallets)) (some walletId)

theorem entry_set (network : Network) (s : S) (walletId other : Id) (walletData : Fields A) :
    entry network (requestElectronStore network (setWalletMessage walletId walletData) s).2 other =
      if walletId = other then some (.object walletData) else entry network s other := by
  unfold entry
  rw [(requestElectronStore_eq network _ s).2]
  simp only [Table.request, setWalletMessage, Function.update_self]
  exact Table.entry_setEntry _ _ _ _

theorem entry_unset (network : Network) (s : S) (walletId other : Id) :
    entry network (requestElectronStore network (unsetWalletMessage walletId) s).2 other =
      if walletId = other then none else entry network s other := by
  unfold entry
  rw [(requestElectronStore_eq network _ s).2]
  simp only [Table.request, unsetWalletMessage, Function.update_self]
  exact Table.entry_deleteEntry _ _ _

/-- A message that is not about the wallets. -/
def isOther (message : StoreMessage A) : Bool :=
  message.type = .get || message.type = .reset || message.key ≠ some .wallets

theorem entry_other (network : Network) (s : S) {message : StoreMessage A} (h : isOther message)
    (walletId : Id) :
    entry network (requestElectronStore network message s).2 walletId = entry network s walletId := by
  unfold entry
  rw [(requestElectronStore_eq network _ s).2]
  suffices h : touches network (some .wallets) (some walletId) (network, message) = false from
    Table.entry_request_of_not_touches _ h
  obtain ⟨type, key, data, id⟩ := message
  cases type with
  | get => simp [touches]
  | reset => simp [touches, resetKeys]
  | set => simp_all [touches, isOther]
  | delete => simp_all [touches, isOther]

end

section
variable [DottedStore S A] (text : String → A) (network : Network)

def getWalletLocalData (s : S) (walletId : Id) : Nested A :=
  match (requestElectronStore network (getWalletMessage walletId) s).1 with
  | .ok (some walletData) => walletData
  | _ => fallbackValue text walletId

theorem getWalletLocalData_eq (s : S) (walletId : Id) :
    getWalletLocalData text network s walletId =
      (entry network s walletId).getD (fallbackValue text walletId) := by
  unfold getWalletLocalData getWalletMessage
  rw [requestElectronStore_getMessage]
  unfold entry
  cases Table.entry (table s (network, some .wallets)) (some walletId) <;> rfl

end

/-! ## Calls that interleave -/

/-- How far a call of `setWalletLocalData()` has come: the record is asked for, it is answered, and the new one
    is sent. -/
inductive Phase (A : Type)
  | getting
  | got (currentWalletData : Nested A)
  | setting (walletData : Fields A)
  | done

structure Call (A : Type) where
  walletId : Id
  updatedWalletData : Fields A
  phase : Phase A := .getting

structure State (S A : Type) where
  store : S
  calls : List (Call A) := []

inductive Event (A : Type)
  | call (walletId : Id) (updatedWalletData : Fields A)
  | getHandled (k : ℕ)
  | resume (k : ℕ) (now : Nested A)
  | setHandled (k : ℕ)
  | unsetHandled (walletId : Id)
  | otherHandled (message : StoreMessage A)

section
variable [DottedStore S A] (text : String → A) (network : Network)

def State.setPhase (s : State S A) (k : ℕ) (phase : Phase A) : State S A :=
  { s with calls := s.calls.modify k fun call => { call with phase := phase } }

def step (s : State S A) : Event A → Option (State S A)
  | .call walletId updatedWalletData =>
      some { s with calls := s.calls ++ [{ walletId := walletId, updatedWalletData := updatedWalletData }] }
  | .getHandled k =>
      match s.calls[k]? with
      | some ⟨walletId, _, .getting⟩ =>
          some (s.setPhase k (.got (getWalletLocalData text network s.store walletId)))
      | _ => none
  | .resume k now =>
      match s.calls[k]? with
      | some ⟨walletId, updatedWalletData, .got currentWalletData⟩ =>
          some (s.setPhase k (.setting (assign text walletId now currentWalletData updatedWalletData)))
      | _ => none
  | .setHandled k =>
      match s.calls[k]? with
      | some ⟨walletId, _, .setting walletData⟩ =>
          some { s.setPhase k .done with
            store := (requestElectronStore network (setWalletMessage walletId walletData) s.store).2 }
      | _ => none
  | .unsetHandled walletId =>
      some { s with store := (requestElectronStore network (unsetWalletMessage walletId) s.store).2 }
  | .otherHandled message =>
      if isOther message then some { s with store := (requestElectronStore network message s.store).2 }
      else none

/-- The storage from a state on. -/
def machine (init : State S A) : Machine (State S A) (Event A) where
  init := init
  step := step text network

/-- What a step can do: it changes the phase of one call, or one record, or neither. -/
theorem step_cases {s s' : State S A} {e : Event A} (h : step text network s e = some s') :
    (∃ walletId updatedWalletData, e = .call walletId updatedWalletData ∧
      s' = { s with calls := s.calls ++ [{ walletId := walletId, updatedWalletData := updatedWalletData }] }) ∨
    (∃ k walletId updatedWalletData, e = .getHandled k ∧
      s.calls[k]? = some ⟨walletId, updatedWalletData, .getting⟩ ∧
      s' = s.setPhase k (.got (getWalletLocalData text network s.store walletId))) ∨
    (∃ k now walletId updatedWalletData currentWalletData, e = .resume k now ∧
      s.calls[k]? = some ⟨walletId, updatedWalletData, .got currentWalletData⟩ ∧
      s' = s.setPhase k (.setting (assign text walletId now currentWalletData updatedWalletData))) ∨
    (∃ k walletId updatedWalletData walletData, e = .setHandled k ∧
      s.calls[k]? = some ⟨walletId, updatedWalletData, .setting walletData⟩ ∧
      s'.calls = (s.setPhase k .done).calls ∧
      ∀ other, entry network s'.store other =
        if walletId = other then some (.object walletData) else entry network s.store other) ∨
    (∃ walletId, e = .unsetHandled walletId ∧ s'.calls = s.calls ∧
      ∀ other, entry network s'.store other = if walletId = other then none else entry network s.store other) ∨
    (∃ message, e = .otherHandled message ∧ s'.calls = s.calls ∧
      ∀ other, entry network s'.store other = entry network s.store other) := by
  cases e with
  | call walletId updatedWalletData => exact .inl ⟨_, _, rfl, (Option.some.inj h).symm⟩
  | getHandled k =>
      simp only [step] at h
      split at h
      · next hk => exact .inr (.inl ⟨k, _, _, rfl, hk, (Option.some.inj h).symm⟩)
      · cases h
  | resume k now =>
      simp only [step] at h
      split at h
      · next hk => exact .inr (.inr (.inl ⟨k, now, _, _, _, rfl, hk, (Option.some.inj h).symm⟩))
      · cases h
  | setHandled k =>
      simp only [step] at h
      split at h
      · next walletId _ walletData hk =>
          obtain rfl := Option.some.inj h
          exact .inr (.inr (.inr (.inl ⟨k, _, _, _, rfl, hk, rfl,
            fun other => entry_set network s.store walletId other walletData⟩)))
      · cases h
  | unsetHandled walletId =>
      obtain rfl := Option.some.inj h
      exact .inr (.inr (.inr (.inr (.inl ⟨walletId, rfl, rfl,
        fun other => entry_unset network s.store walletId other⟩))))
  | otherHandled message =>
      simp only [step] at h
      split at h
      · next hother =>
          obtain rfl := Option.some.inj h
          exact .inr (.inr (.inr (.inr (.inr ⟨message, rfl, rfl, entry_other network s.store hother⟩))))
      · cases h

/-- Every record is tidy, and so is every one that is sent. -/
structure Inv (s : State S A) : Prop where
  stored : ∀ walletId v, entry network s.store walletId = some v → Tidy text walletId v
  sent : ∀ call ∈ s.calls, ∀ walletData, call.phase = .setting walletData →
    Tidy text call.walletId (.object walletData)

theorem inv_step {s s' : State S A} {e : Event A} (hi : Inv text network s)
    (h : step text network s e = some s') : Inv text network s' := by
  obtain ⟨walletId, _, -, rfl⟩ | ⟨k, walletId, _, -, hk, rfl⟩ | ⟨k, now, walletId, updated, current, -, hk, rfl⟩ |
    ⟨k, walletId, _, walletData, -, hk, hcalls, hentry⟩ | ⟨walletId, -, hcalls, hentry⟩ |
    ⟨message, -, hcalls, hentry⟩ := step_cases text network h
  · refine ⟨hi.stored, fun call hcall walletData hphase => ?_⟩
    rcases List.mem_append.1 hcall with hcall | hcall
    · exact hi.sent call hcall walletData hphase
    · obtain rfl := List.mem_singleton.1 hcall
      cases hphase
  · exact ⟨hi.stored, List.forall_mem_modify hk hi.sent fun walletData hphase => by cases hphase⟩
  · refine ⟨hi.stored, List.forall_mem_modify hk hi.sent fun walletData hphase => ?_⟩
    cases hphase
    exact tidy_assign text walletId now current updated
  · have htidy := hi.sent _ (List.mem_of_getElem? hk) walletData rfl
    refine ⟨fun other v hv => ?_, ?_⟩
    · rw [hentry other] at hv
      split at hv
      · next heq => exact Option.some.inj hv ▸ heq ▸ htidy
      · exact hi.stored other v hv
    · rw [hcalls]
      exact List.forall_mem_modify hk hi.sent fun walletData hphase => by cases hphase
  · refine ⟨fun other v hv => ?_, hcalls ▸ hi.sent⟩
    rw [hentry other] at hv
    split at hv
    · cases hv
    · exact hi.stored other v hv
  · refine ⟨fun other v hv => ?_, hcalls ▸ hi.sent⟩
    rw [hentry other] at hv
    exact hi.stored other v hv

/-- However calls and other messages interleave, every record has the id that it is under and a creation date. -/
theorem tidy_of_reaches {start : S}
    (hstart : ∀ walletId v, entry network start walletId = some v → Tidy text walletId v) {s : State S A}
    (hr : (machine text network { store := start }).Reaches Machine.anyStep s) {walletId : Id} {v : Nested A}
    (hv : entry network s.store walletId = some v) : Tidy text walletId v := by
  have hinv : Inv text network s :=
    hr.invariant (P := Inv text network) ⟨hstart, fun call hcall => absurd hcall List.not_mem_nil⟩
      fun _ _ _ _ _ hi hs => inv_step text network hi hs
  exact hinv.stored walletId v hv

/-! ## The creation date -/

/-- A step that neither removes the record of a wallet nor asks for another creation date. -/
def keepsDate (walletId : Id) (_ : State S A) : Event A → Prop
  | .call other updatedWalletData => other = walletId → updatedWalletData "creationDate" = none
  | .unsetHandled other => other ≠ walletId
  | _ => True

/-- A call that does not change the creation date. -/
structure Call.Keeps (call : Call A) (date : Nested A) : Prop where
  updated : call.updatedWalletData "creationDate" = none
  got : ∀ v, call.phase = .got v → v.fields "creationDate" = some date
  setting : ∀ walletData, call.phase = .setting walletData → walletData "creationDate" = some date

/-- The record has a creation date, and no call changes it. -/
structure Dated (walletId : Id) (date : Nested A) (s : State S A) : Prop where
  stored : ∃ v, entry network s.store walletId = some v ∧ v.fields "creationDate" = some date
  calls : ∀ call ∈ s.calls, call.walletId = walletId → call.phase ≠ .done → call.Keeps date

theorem dated_step {walletId : Id} {date : Nested A} {s s' : State S A} {e : Event A}
    (hi : Dated network walletId date s) (hok : keepsDate walletId s e)
    (h : step text network s e = some s') : Dated network walletId date s' := by
  obtain ⟨v, hv, hdate⟩ := hi.stored
  obtain ⟨other, updated, rfl, rfl⟩ | ⟨k, other, updated, rfl, hk, rfl⟩ |
    ⟨k, now, other, updated, current, rfl, hk, rfl⟩ | ⟨k, other, updated, walletData, rfl, hk, hcalls, hentry⟩ |
    ⟨other, rfl, hcalls, hentry⟩ | ⟨message, rfl, hcalls, hentry⟩ := step_cases text network h
  · refine ⟨hi.stored, fun call hcall hid hphase => ?_⟩
    rcases List.mem_append.1 hcall with hcall | hcall
    · exact hi.calls call hcall hid hphase
    · obtain rfl := List.mem_singleton.1 hcall
      exact ⟨hok hid, fun _ hgot => (by cases hgot), fun _ hsetting => (by cases hsetting)⟩
  · refine ⟨hi.stored, List.forall_mem_modify hk hi.calls fun hid _ => ?_⟩
    have hcall := hi.calls _ (List.mem_of_getElem? hk) hid (by simp)
    refine ⟨hcall.updated, fun w hw => ?_, fun _ hsetting => by cases hsetting⟩
    obtain rfl := Phase.got.inj hw
    rw [getWalletLocalData_eq, show other = walletId from hid, hv]
    exact hdate
  · refine ⟨hi.stored, List.forall_mem_modify hk hi.calls fun hid _ => ?_⟩
    have hcall := hi.calls _ (List.mem_of_getElem? hk) hid (by simp)
    refine ⟨hcall.updated, fun _ hgot => (by cases hgot), fun walletData hsetting => ?_⟩
    obtain rfl := Phase.setting.inj hsetting
    have hupdated : updated "creationDate" = none := hcall.updated
    have hcurrent : current.fields "creationDate" = some date := hcall.got current rfl
    rw [assign_creationDate, hupdated, hcurrent]
    rfl
  · refine ⟨?_, ?_⟩
    · rw [hentry walletId]
      by_cases hid : other = walletId
      · have hcall := hi.calls _ (List.mem_of_getElem? hk) hid (by simp)
        exact ⟨_, if_pos hid, hcall.setting walletData rfl⟩
      · exact ⟨v, (if_neg hid).trans hv, hdate⟩
    · rw [hcalls]
      exact List.forall_mem_modify hk hi.calls fun _ hdone => absurd rfl hdone
  · refine ⟨⟨v, ?_, hdate⟩, hcalls ▸ hi.calls⟩
    rw [hentry walletId, if_neg hok, hv]
  · refine ⟨⟨v, ?_, hdate⟩, hcalls ▸ hi.calls⟩
    rw [hentry walletId, hv]

/-- Once a record is there and no call for it is under way, its creation date stays for as long as the record is
    not removed and no call names another date, whatever calls for it overlap. -/
theorem creationDate_stable {walletId : Id} {date v : Nested A} {s s' : State S A}
    (hv : entry network s.store walletId = some v) (hdate : v.fields "creationDate" = some date)
    (hcalls : ∀ call ∈ s.calls, call.walletId = walletId → call.phase = .done)
    (hr : (machine text network s).Reaches (keepsDate walletId) s') :
    ∃ v', entry network s'.store walletId = some v' ∧ v'.fields "creationDate" = some date := by
  have hdated : Dated network walletId date s' :=
    hr.invariant (P := Dated network walletId date) ⟨⟨v, hv, hdate⟩, fun call hcall hid hphase => absurd (hcalls call hcall hid) hphase⟩
      fun _ _ _ _ hok hi hs => dated_step text network hi hok hs
  exact hdated.stored

/-! ## A refresh -/

/-- A whole call, when no other message comes between its two. -/
def setWalletLocalData (walletId : Id) (now : Nested A) (updatedWalletData : Fields A) (s : S) : S :=
  let currentWalletData := getWalletLocalData text network s walletId
  let walletData := assign text walletId now currentWalletData updatedWalletData
  (requestElectronStore network (setWalletMessage walletId walletData) s).2

/-- `!walletLocalData || !walletLocalData.creationDate` -/
def isMissing (currentLocalWallets : Fields A) (walletId : Id) : Bool :=
  ((currentLocalWallets walletId.1).bind (·.fields "creationDate")).isNone

/-- The records of the wallets that miss one are written, each with the date of its call.
    `currentLocalWallets` is what was read of the records last, some time ago. -/
def refreshWalletsLocalData (currentLocalWallets : Fields A) : List (Id × Nested A) → S → S
  | [], s => s
  | (walletId, now) :: wallets, s =>
      if isMissing currentLocalWallets walletId then
        refreshWalletsLocalData currentLocalWallets wallets
          (setWalletLocalData text network walletId now (fun _ => none) s)
      else refreshWalletsLocalData currentLocalWallets wallets s

theorem entry_setWalletLocalData (walletId other : Id) (now : Nested A) (updatedWalletData : Fields A) (s : S) :
    entry network (setWalletLocalData text network walletId now updatedWalletData s) other =
      if walletId = other then
        some (.object (assign text walletId now (getWalletLocalData text network s walletId) updatedWalletData))
      else entry network s other :=
  entry_set network s walletId other _

/-- A refresh leaves what a tidy record has. -/
theorem refresh_of_some (currentLocalWallets : Fields A) (wallets : List (Id × Nested A)) {s : S} {walletId : Id}
    {v : Nested A} (hv : entry network s walletId = some v) (htidy : Tidy text walletId v) :
    ∃ v', entry network (refreshWalletsLocalData text network currentLocalWallets wallets s) walletId = some v' ∧
      v'.fields = v.fields := by
  induction wallets generalizing s v with
  | nil => exact ⟨v, hv, rfl⟩
  | cons wallet wallets ih =>
      obtain ⟨other, now⟩ := wallet
      simp only [refreshWalletsLocalData]
      split
      · by_cases hid : other = walletId
        · subst hid
          have hsame : assign text other now (getWalletLocalData text network s other) (fun _ => none) = v.fields := by
            rw [getWalletLocalData_eq, hv]
            exact assign_of_tidy text htidy now
          have hentry := entry_setWalletLocalData text network other other now (fun _ => none) s
          rw [if_pos rfl, hsame] at hentry
          exact ih (v := .object v.fields) hentry ⟨htidy.id, htidy.creationDate⟩
        · have hentry := entry_setWalletLocalData text network other walletId now (fun _ => none) s
          rw [if_neg hid] at hentry
          exact ih (hentry.trans hv) htidy
      · exact ih hv htidy

/-- A refresh adds a record where there is none exactly for the wallets that seem to miss one. -/
theorem refresh_of_none (currentLocalWallets : Fields A) (wallets : List (Id × Nested A)) {s : S} {walletId : Id}
    (hnone : entry network s walletId = none) :
    if walletId ∈ wallets.map Prod.fst ∧ isMissing currentLocalWallets walletId then
      ∃ v, entry network (refreshWalletsLocalData text network currentLocalWallets wallets s) walletId = some v ∧
        Tidy text walletId v
    else entry network (refreshWalletsLocalData text network currentLocalWallets wallets s) walletId = none := by
  induction wallets generalizing s with
  | nil => simpa [refreshWalletsLocalData] using hnone
  | cons wallet wallets ih =>
      obtain ⟨other, now⟩ := wallet
      simp only [refreshWalletsLocalData, List.map_cons, List.mem_cons]
      by_cases hid : other = walletId
      · subst hid
        by_cases hmissing : isMissing currentLocalWallets other = true
        · rw [if_pos ⟨.inl rfl, hmissing⟩, if_pos hmissing]
          have hentry := entry_setWalletLocalData text network other other now (fun _ => none) s
          rw [if_pos rfl] at hentry
          have htidy := tidy_assign text other now (getWalletLocalData text network s other) (fun _ => none)
          obtain ⟨v, hv, hfields⟩ := refresh_of_some text network currentLocalWallets wallets hentry htidy
          exact ⟨v, hv, ⟨hfields ▸ htidy.id, hfields ▸ htidy.creationDate⟩⟩
        · rw [if_neg fun h => hmissing h.2, if_neg hmissing]
          have hrest := ih hnone
          rwa [if_neg fun h => hmissing h.2] at hrest
      · have hne : (walletId = other) = False := eq_false fun h => hid h.symm
        simp only [hne, false_or]
        by_cases hmissing : isMissing currentLocalWallets other = true
        · have hentry := entry_setWalletLocalData text network other walletId now (fun _ => none) s
          rw [if_neg hid] at hentry
          simp only [if_pos hmissing]
          exact ih (hentry.trans hnone)
        · simp only [if_neg hmissing]
          exact ih hnone

/-- What a refresh makes of a record: a tidy one stays, and there is a new one for exactly those wallets of the
    list that are taken to miss one. -/
inductive Refreshed (currentLocalWallets : Fields A) (wallets : List (Id × Nested A)) (walletId : Id) :
    Option (Nested A) → Option (Nested A) → Prop
  | kept {v v' : Nested A} : v'.fields = v.fields →
      Refreshed currentLocalWallets wallets walletId (some v) (some v')
  | added {v : Nested A} : walletId ∈ wallets.map Prod.fst → isMissing currentLocalWallets walletId →
      Tidy text walletId v → Refreshed currentLocalWallets wallets walletId none (some v)
  | absent : ¬ (walletId ∈ wallets.map Prod.fst ∧ isMissing currentLocalWallets walletId) →
      Refreshed currentLocalWallets wallets walletId none none

end

/-! ## A wallet -/

def w : Id := ⟨"w1", by decide⟩

abbrev noWallet : State (Nested String) String := { store := Nested.empty }

/-- Two calls for one wallet, both of which read before either writes: the date of the later write stays. -/
def overlapping : List (Event String) :=
  [.call w fun _ => none, .call w fun _ => none, .getHandled 0, .getHandled 1, .resume 0 (.leaf "Monday"),
    .resume 1 (.leaf "Tuesday"), .setHandled 0, .setHandled 1]

def overlapped : State (Nested String) String :=
  ((machine id .mainnet noWallet).exec noWallet overlapping).get (by decide)

theorem tidy_of_reaches_overlapped : ∃ v, entry .mainnet overlapped.store w = some v ∧ Tidy id w v :=
  ⟨(entry .mainnet overlapped.store w).get (by decide), (Option.some_get _).symm,
    tidy_of_reaches id .mainnet (fun _ _ hv => by cases hv)
      (Machine.reaches_of_exec (M := machine id .mainnet noWallet) overlapping (Option.some_get _).symm)
      (Option.some_get _).symm⟩

/-- A wallet that was created on Tuesday. -/
def record : Nested String := .object (assign id w (.leaf "Tuesday") .empty fun _ => none)

def tuesday : State (Nested String) String where
  store := .object (single "mainnet-WALLETS" (.object (single "w1" record)))

theorem entry_tuesday : entry .mainnet tuesday.store w = some record := rfl

theorem record_creationDate : record.fields "creationDate" = some (.leaf "Tuesday") := rfl

def later : List (Event String) :=
  [.call w fun _ => none, .getHandled 0, .resume 0 (.leaf "Wednesday"), .setHandled 0]

def wednesday : State (Nested String) String :=
  ((machine id .mainnet tuesday).exec tuesday later).get (by decide)

theorem exec_later : (machine id .mainnet tuesday).exec tuesday later = some wednesday := (Option.some_get _).symm

theorem allSteps_later : (machine id .mainnet tuesday).allSteps (keepsDate w) tuesday later :=
  ⟨fun _ => rfl, trivial, trivial, trivial, trivial⟩

theorem reaches_wednesday : (machine id .mainnet tuesday).Reaches (keepsDate w) wednesday :=
  .exec later .init allSteps_later exec_later

theorem creationDate_stable_wednesday :
    ∃ v, entry .mainnet wednesday.store w = some v ∧ v.fields "creationDate" = some (.leaf "Tuesday") :=
  creationDate_stable id .mainnet entry_tuesday record_creationDate
    (fun _ hcall => absurd hcall List.not_mem_nil) reaches_wednesday

end Klarity.WalletLocalData
