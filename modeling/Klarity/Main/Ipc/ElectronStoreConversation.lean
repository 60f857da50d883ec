import Klarity.Library.Lists
import Klarity.Library.NestedStore

set_option autoImplicit false

/-! # The settings of all networks in one store

The main process answers the messages of the renderer about the settings from one store with dotted keys. A
message names a key of the settings and perhaps an id, of one wallet or one device, and the key of the store is
made of the network, the key and the id.

`answers_eq` says what the store is for: it behaves as a table that has, for every network and every key, one
object of its own, of which an id names a property. `get_filter` says which of the earlier messages an answer
depends on, and `get_reset` what is left after a reset. -/

namespace Klarity.ElectronStore

inductive Network
  | mainnet | mainnetFlight | testnet | staging | sophieQa | aurumPurple | selfnode | development
  deriving DecidableEq

def Network.text : Network → String
  | .mainnet => "mainnet"
  | .mainnetFlight => "mainnet_flight"
  | .testnet => "testnet"
  | .staging => "staging"
  | .sophieQa => "sophie_qa"
  | .aurumPurple => "aurum_purple"
  | .selfnode => "selfnode"
  | .development => "development"

inductive StorageType
  | get | set | delete | reset
  deriving DecidableEq

/-- The keys of `STORAGE_KEYS`. -/
inductive StorageKey
  | appAutomaticUpdateFailed | appUpdateCompleted | assetData | assetSettingsDialogWasOpened
  | currencyActive | currencySelected | dataLayerMigrationAcceptance | downloadManager
  | hardwareWalletDevices | hardwareWallets | readNews | reset | smashServer | stakingInfoWasOpen
  | termsOfUseAcceptance | theme | userDateFormatEnglish | userDateFormatJapanese | userLocale
  | userNumberFormat | userTimeFormat | walletMigrationStatus | wallets | windowBounds
  deriving DecidableEq

def StorageKey.text : StorageKey → String
  | .appAutomaticUpdateFailed => "APP-AUTOMATIC-UPDATE-FAILED"
  | .appUpdateCompleted => "APP-UPDATE-COMPLETED"
  | .assetData => "ASSET-DATA"
  | .assetSettingsDialogWasOpened => "ASSET-SETTINGS-DIALOG-WAS-OPENED"
  | .currencyActive => "CURRENCY-ACTIVE"
  | .currencySelected => "CURRENCY-SELECTED"
  | .dataLayerMigrationAcceptance => "DATA-LAYER-MIGRATION-ACCEPTANCE"
  | .downloadManager => "DOWNLOAD-MANAGER"
  | .hardwareWalletDevices => "HARDWARE-WALLET-DEVICES"
  | .hardwareWallets => "HARDWARE-WALLETS"
  | .readNews => "READ-NEWS"
  | .reset => "RESET"
  | .smashServer => "SMASH-SERVER"
  | .stakingInfoWasOpen => "AURUM-INFO-WAS-OPEN"
  | .termsOfUseAcceptance => "TERMS-OF-USE-ACCEPTANCE"
  | .theme => "THEME"
  | .userDateFormatEnglish => "USER-DATE-FORMAT-ENGLISH"
  | .userDateFormatJapanese => "USER-DATE-FORMAT-JAPANESE"
  | .userLocale => "USER-LOCALE"
  | .userNumberFormat => "USER-NUMBER-FORMAT"
  | .userTimeFormat => "USER-TIME-FORMAT"
  | .walletMigrationStatus => "WALLET-MIGRATION-STATUS"
  | .wallets => "WALLETS"
  | .windowBounds => "WINDOW-BOUNDS"

/-- A key as `STORAGE_KEYS` answers a name with it; a name that is not there gives `undefined`. -/
abbrev Key := Option StorageKey

/-- `${key}` -/
def Key.text : Key → String
  | none => "undefined"
  | some key => key.text

/-- The id of a wallet, a device, an asset or a download. -/
abbrev Id := {id : String // Dotted.IsName id}

structure StoreMessage (A : Type) where
  type : StorageType
  key : Key
  data : Option (Nested A) := none
  id : Option Id := none

/-- The store refuses to write `undefined`. -/
inductive StoreError
  | undefinedData
  deriving DecidableEq

abbrev Answer (A : Type) := Except StoreError (Option (Nested A))

variable {S A : Type}

section
variable [DottedStore S A]

/-- `${environment.network}-${key}` -/
def getNetworkKey (network : Network) (key : String) : String := network.text ++ "-" ++ key

def keyWithId (key : Key) : Option Id → String
  | some id => key.text ++ "." ++ id.1
  | none => key.text

def unset (network : Network) (s : S) (key : Key) : S :=
  DottedStore.delete s (getNetworkKey network (keyWithId key none))

/-- The keys in the order in which `reset()` unsets them. There is no `USER_THEME` among the keys, the theme is
    kept under `THEME`. -/
def resetKeys : List Key :=
  [some .userLocale, some .userNumberFormat, some .userDateFormatEnglish, some .userDateFormatJapanese,
    some .userTimeFormat, some .termsOfUseAcceptance, none, some .dataLayerMigrationAcceptance,
    some .readNews, some .hardwareWallets, some .walletMigrationStatus, some .hardwareWalletDevices,
    some .windowBounds]

def reset (network : Network) (s : S) : S := resetKeys.foldl (unset network) s

/-- The answer and the store after it. -/
def requestElectronStore (network : Network) (request : StoreMessage A) (s : S) : Answer A × S :=
  let networkKey := getNetworkKey network (keyWithId request.key request.id)
  match request.type with
  | .get => (.ok (DottedStore.get s networkKey), s)
  | .delete => (.ok none, DottedStore.delete s networkKey)
  | .set =>
      match request.data with
      | some data => (.ok none, DottedStore.set s networkKey data)
      | none => (.error .undefinedData, s)
  | .reset =>
      -- `reset()` is not awaited: only its first key is unset when the answer is read
      (.ok (DottedStore.get (unset network s (some .userLocale)) networkKey), reset network s)

/-- The answers to a list of messages, and the store after them. Klarity is started on one network at a time,
    and the store stays. -/
def conversation : List (Network × StoreMessage A) → S → List (Answer A) × S
  | [], s => ([], s)
  | (network, request) :: requests, s =>
      let (answer, s') := requestElectronStore network request s
      let (answers, s'') := conversation requests s'
      (answer :: answers, s'')

end

/-! ## The table -/

/-- One object for every network and key. -/
abbrev Table (A : Type) := Network × Key → Option (Nested A)

namespace Table

/-- The object itself, or the property that the id names. -/
def entry (object : Option (Nested A)) : Option Id → Option (Nested A)
  | none => object
  | some id => object.bind (·.fields id.1)

def setEntry (object : Option (Nested A)) (data : Nested A) : Option Id → Nested A
  | none => data
  | some id => (object.getD .empty).set [id.1] data

def deleteEntry (object : Option (Nested A)) : Option Id → Option (Nested A)
  | none => none
  | some id => object.map (·.delete [id.1])

def request (network : Network) (request : StoreMessage A) (t : Table A) : Answer A × Table A :=
  let object := t (network, request.key)
  match request.type with
  | .get => (.ok (entry object request.id), t)
  | .delete => (.ok none, Function.update t (network, request.key) (deleteEntry object request.id))
  | .set =>
      match request.data with
      | some data => (.ok none, Function.update t (network, request.key) (some (setEntry object data request.id)))
      | none => (.error .undefinedData, t)
  | .reset =>
      (.ok (entry (if request.key = some .userLocale then none else object) request.id),
        fun place => if place.1 = network ∧ place.2 ∈ resetKeys then none else t place)

def conversation : List (Network × StoreMessage A) → Table A → List (Answer A) × Table A
  | [], t => ([], t)
  | (network, request) :: requests, t =>
      let (answer, t') := Table.request network request t
      let (answers, t'') := conversation requests t'
      (answer :: answers, t'')

end Table

/-! ## The keys of the store -/

/-- The key of the store that the object of a network and a key is under. -/
def place (p : Network × Key) : String := getNetworkKey p.1 (keyWithId p.2 none)

/-- A literal is the text of its characters, which is cheaper to see than its characters. -/
theorem not_mem_ofList {c : Char} {l : List Char} (h : c ∉ l) : c ∉ (String.ofList l).toList := by
  rwa [String.toList_ofList]

theorem dash_not_mem_text (network : Network) : '-' ∉ network.text.toList := by
  cases network <;> exact not_mem_ofList (by decide)

theorem dot_not_mem_network (network : Network) : '.' ∉ network.text.toList := by
  cases network <;> exact not_mem_ofList (by decide)

theorem dot_not_mem_key (key : Key) : '.' ∉ key.text.toList := by
  rcases key with _ | key
  · exact not_mem_ofList (by decide)
  · cases key <;> exact not_mem_ofList (by decide)

theorem text_injective : Function.Injective Network.text := by
  intro a b
  cases a <;> cases b <;> simp [Network.text]

theorem keyText_injective : Function.Injective Key.text := by
  intro a b
  rcases a with _ | a <;> rcases b with _ | b
  · simp
  · cases b <;> simp [Key.text, StorageKey.text]
  · cases a <;> simp [Key.text, StorageKey.text]
  · cases a <;> cases b <;> simp [Key.text, StorageKey.text]

/-- The dash after the network is the first one, so the network and the key can be told apart. -/
theorem place_injective : Function.Injective place := by
  rintro ⟨network, key⟩ ⟨network', key'⟩ h
  have hlist := congrArg String.toList h
  simp only [place, getNetworkKey, keyWithId, String.toList_append, String.reduceToList,
    List.append_assoc, List.singleton_append] at hlist
  obtain ⟨hnetwork, hkey⟩ := List.append_cons_inj_of_not_mem (dash_not_mem_text network)
    (dash_not_mem_text network') hlist
  rw [Prod.mk.injEq]
  exact ⟨text_injective (String.toList_inj.1 hnetwork), keyText_injective (String.toList_inj.1 hkey)⟩

theorem dot_not_mem_place (p : Network × Key) : '.' ∉ (place p).toList := by
  simp only [place, getNetworkKey, keyWithId, String.toList_append, List.mem_append, not_or]
  exact ⟨⟨dot_not_mem_network p.1, not_mem_ofList (by decide)⟩, dot_not_mem_key p.2⟩

/-- An id adds one name to the path. -/
theorem segments_networkKey (network : Network) (key : Key) (id : Option Id) :
    Dotted.segments (getNetworkKey network (keyWithId key id)) =
      place (network, key) :: id.toList.map Subtype.val := by
  cases id with
  | none => exact Dotted.segments_of_not_mem (dot_not_mem_place (network, key))
  | some id =>
      have htext : getNetworkKey network (keyWithId key (some id)) = place (network, key) ++ "." ++ id.1 := by
        simp only [place, getNetworkKey, keyWithId, String.append_assoc]
      rw [htext, Dotted.segments_append_dot (dot_not_mem_place _) id.2.2.1]
      rfl

/-! ## The store behaves as the table -/

section
variable [DottedStore S A]

/-- The table that is in a store. -/
def table (s : S) : Table A := (DottedStore.content s).fields ∘ place

theorem get_networkKey (network : Network) (key : Key) (id : Option Id) (s : S) :
    DottedStore.get s (getNetworkKey network (keyWithId key id)) =
      Table.entry (table s (network, key)) id := by
  rw [DottedStore.get_eq, segments_networkKey, Nested.get_cons]
  cases id with
  | none => exact Option.bind_fun_some _
  | some id =>
      refine Option.bind_congr ?_
      intro v _
      exact Option.bind_fun_some _

theorem table_set (network : Network) (key : Key) (id : Option Id) (data : Nested A) (s : S) :
    table (DottedStore.set s (getNetworkKey network (keyWithId key id)) data) =
      Function.update (table s) (network, key) (some (Table.setEntry (table s (network, key)) data id)) := by
  unfold table
  rw [DottedStore.content_set, segments_networkKey, Nested.fields_set,
    Function.update_comp_eq_of_injective _ place_injective]
  cases id <;> rfl

theorem table_delete (network : Network) (key : Key) (id : Option Id) (s : S) :
    table (DottedStore.delete s (getNetworkKey network (keyWithId key id))) =
      Function.update (table s) (network, key) (Table.deleteEntry (table s (network, key)) id) := by
  unfold table
  rw [DottedStore.content_delete, segments_networkKey]
  cases id with
  | none => exact Function.update_comp_eq_of_injective _ place_injective _ _
  | some id => exact Function.update_comp_eq_of_injective _ place_injective _ _

/-- Unsetting keys one after the other empties all of them. -/
theorem table_foldl_unset (network : Network) (keys : List Key) (s : S) (p : Network × Key) :
    table (keys.foldl (unset network) s) p = if p.1 = network ∧ p.2 ∈ keys then none else table s p := by
  induction keys generalizing s with
  | nil => simp
  | cons key keys ih =>
      rw [List.foldl_cons, ih, unset, table_delete]
      by_cases hp : p = (network, key)
      · subst hp
        simp [Table.deleteEntry]
      · rw [Function.update_of_ne hp]
        refine if_congr ?_ rfl rfl
        rw [List.mem_cons]
        refine and_congr_right ?_
        intro hnetwork
        have hkey : p.2 ≠ key := fun h => hp (Prod.ext hnetwork h)
        simp [hkey]

/-- One message: the answer and the next table. -/
theorem requestElectronStore_eq (network : Network) (request : StoreMessage A) (s : S) :
    (requestElectronStore network request s).1 = (Table.request network request (table s)).1 ∧
      table (requestElectronStore network request s).2 = (Table.request network request (table s)).2 := by
  obtain ⟨type, key, data, id⟩ := request
  cases type with
  | get => exact ⟨congrArg Except.ok (get_networkKey network key id s), rfl⟩
  | delete => exact ⟨rfl, table_delete network key id s⟩
  | set =>
      cases data with
      | none => exact ⟨rfl, rfl⟩
      | some data => exact ⟨rfl, table_set network key id data s⟩
  | reset =>
      refine ⟨congrArg Except.ok ?_, funext fun p => table_foldl_unset network resetKeys s p⟩
      rw [get_networkKey]
      have hfirst := table_foldl_unset network [some StorageKey.userLocale] s (network, key)
      simp only [List.foldl_cons, List.foldl_nil, true_and, List.mem_singleton] at hfirst
      rw [hfirst]

theorem conversation_eq (requests : List (Network × StoreMessage A)) (s : S) :
    (conversation requests s).1 = (Table.conversation requests (table s)).1 ∧
      table (conversation requests s).2 = (Table.conversation requests (table s)).2 := by
  induction requests generalizing s with
  | nil => exact ⟨rfl, rfl⟩
  | cons r requests ih =>
      obtain ⟨hanswer, htable⟩ := requestElectronStore_eq r.1 r.2 s
      obtain ⟨hanswers, htables⟩ := ih (requestElectronStore r.1 r.2 s).2
      simp only [conversation, Table.conversation]
      rw [hanswer, hanswers, htables, htable]
      exact ⟨rfl, rfl⟩

/-- A message that can change what is read with a key and an id. -/
def touches (network : Network) (key : Key) (id : Option Id) (message : Network × StoreMessage A) : Bool :=
  message.1 = network &&
    match message.2.type with
    | .get => false
    | .set | .delete => message.2.key = key && (message.2.id = none || id = none || message.2.id = id)
    | .reset => key ∈ resetKeys

/-- The message that reads a key with an id. -/
def getMessage (key : Key) (id : Option Id) : StoreMessage A := { type := .get, key := key, id := id }

def resetMessage : StoreMessage A := { type := .reset, key := some .reset }

namespace Table

theorem entry_setEntry (object : Option (Nested A)) (data : Nested A) (i j : Id) :
    entry (some (setEntry object data (some j))) (some i) = if j = i then some data else entry object (some i) := by
  simp only [entry, setEntry, Option.bind_some, Nested.fields_set, Nested.set_nil]
  by_cases hij : j = i
  · rw [if_pos hij, hij, Function.update_self]
  · rw [if_neg hij, Function.update_of_ne (fun h => hij (Subtype.ext h.symm))]
    cases object <;> rfl

theorem entry_deleteEntry (object : Option (Nested A)) (i j : Id) :
    entry (deleteEntry object (some j)) (some i) = if j = i then none else entry object (some i) := by
  cases object with
  | none => simp [entry, deleteEntry]
  | some v =>
      simp only [entry, deleteEntry, Option.map_some, Option.bind_some, Nested.fields_delete_singleton]
      by_cases hij : j = i
      · rw [if_pos hij, hij, Function.update_self]
      · rw [if_neg hij, Function.update_of_ne (fun h => hij (Subtype.ext h.symm))]

/-- What is read with a key and an id after a message depends on what was read with them before. -/
theorem entry_request_congr (message : Network × StoreMessage A) {t t' : Table A} {network : Network} {key : Key}
    {id : Option Id} (h : entry (t (network, key)) id = entry (t' (network, key)) id) :
    entry ((request message.1 message.2 t).2 (network, key)) id =
      entry ((request message.1 message.2 t').2 (network, key)) id := by
  obtain ⟨network', type, key', data, id'⟩ := message
  by_cases hp : (network, key) = (network', key')
  · obtain ⟨rfl, rfl⟩ := Prod.mk.inj hp
    cases type with
    | get => exact h
    | reset =>
        simp only [request]
        split
        · rfl
        · exact h
    | delete =>
        simp only [request, Function.update_self]
        rcases id' with _ | j
        · rfl
        · rcases id with _ | i
          · exact congrArg (deleteEntry · (some j)) h
          · rw [entry_deleteEntry, entry_deleteEntry, h]
    | set =>
        rcases data with _ | data
        · exact h
        · simp only [request, Function.update_self]
          rcases id' with _ | j
          · rfl
          · rcases id with _ | i
            · exact congrArg (fun object => some (setEntry object data (some j))) h
            · rw [entry_setEntry, entry_setEntry, h]
  · cases type with
    | get => exact h
    | reset =>
        simp only [request]
        split
        · rfl
        · exact h
    | delete =>
        simp only [request, Function.update_of_ne hp]
        exact h
    | set =>
        rcases data with _ | data
        · exact h
        · simp only [request, Function.update_of_ne hp]
          exact h

/-- A message that does not touch a key and an id leaves what is read with them. -/
theorem entry_request_of_not_touches {message : Network × StoreMessage A} (t : Table A) {network : Network}
    {key : Key} {id : Option Id} (h : touches network key id message = false) :
    entry ((request message.1 message.2 t).2 (network, key)) id = entry (t (network, key)) id := by
  obtain ⟨network', type, key', data, id'⟩ := message
  simp only [touches, Bool.and_eq_false_imp, decide_eq_true_eq] at h
  cases type with
  | get => rfl
  | reset =>
      simp only [request]
      rw [if_neg]
      rintro ⟨hnetwork, hkey⟩
      exact absurd (h hnetwork.symm) (by simpa using hkey)
  | delete =>
      simp only [request]
      by_cases hp : (network, key) = (network', key')
      · obtain ⟨rfl, rfl⟩ := Prod.mk.inj hp
        have hids := h rfl
        rcases id' with _ | j <;> rcases id with _ | i <;> simp at hids
        rw [Function.update_self, entry_deleteEntry, if_neg hids]
      · rw [Function.update_of_ne hp]
  | set =>
      rcases data with _ | data
      · rfl
      · simp only [request]
        by_cases hp : (network, key) = (network', key')
        · obtain ⟨rfl, rfl⟩ := Prod.mk.inj hp
          have hids := h rfl
          rcases id' with _ | j <;> rcases id with _ | i <;> simp at hids
          rw [Function.update_self, entry_setEntry, if_neg hids]
        · rw [Function.update_of_ne hp]

/-- The entries after two conversations from tables with one entry, the second without what does not touch it. -/
theorem entry_conversation_filter (requests : List (Network × StoreMessage A)) {t t' : Table A} {network : Network}
    {key : Key} {id : Option Id} (h : entry (t (network, key)) id = entry (t' (network, key)) id) :
    entry ((conversation requests t).2 (network, key)) id =
      entry ((conversation (requests.filter (touches network key id)) t').2 (network, key)) id := by
  induction requests generalizing t t' with
  | nil => exact h
  | cons message requests ih =>
      rw [List.filter_cons]
      split
      · exact ih (entry_request_congr message h)
      · next huntouched =>
          exact ih ((entry_request_of_not_touches t (by simpa using huntouched)).trans h)

end Table

theorem requestElectronStore_getMessage (network : Network) (key : Key) (id : Option Id) (s : S) :
    (requestElectronStore network (getMessage key id) s).1 = .ok (Table.entry (table s (network, key)) id) :=
  congrArg Except.ok (get_networkKey network key id s)

/-- What is read does not depend on the messages for other networks, other keys or other ids. -/
theorem get_filter (requests : List (Network × StoreMessage A)) (network : Network) (key : Key)
    (id : Option Id) (s : S) :
    (requestElectronStore network (getMessage key id) (conversation requests s).2).1 =
      (requestElectronStore network (getMessage key id)
        (conversation (requests.filter (touches network key id)) s).2).1 := by
  rw [requestElectronStore_getMessage, requestElectronStore_getMessage, (conversation_eq requests s).2,
    (conversation_eq (requests.filter _) s).2]
  exact congrArg Except.ok (Table.entry_conversation_filter requests rfl)

theorem Table.conversation_append (before after : List (Network × StoreMessage A)) (t : Table A) :
    (conversation (before ++ after) t).2 = (conversation after (conversation before t).2).2 := by
  induction before generalizing t with
  | nil => rfl
  | cons message before ih => exact ih _

/-- After a reset the keys of `resetKeys` read as missing on its network, until they are written again. All
    other keys, the theme and the wallets among them, read as if there had been no reset. -/
theorem get_after_reset (before after : List (Network × StoreMessage A)) (network network' : Network)
    (key : Key) (id : Option Id) (s : S)
    (hafter : ∀ message ∈ after, touches network key id message = false) :
    (requestElectronStore network (getMessage key id)
        (conversation (before ++ (network', resetMessage) :: after) s).2).1 =
      if network = network' ∧ key ∈ resetKeys then .ok none
      else (requestElectronStore network (getMessage key id) (conversation before s).2).1 := by
  have hnone : after.filter (touches network key id) = [] :=
    List.filter_eq_nil_iff.2 fun message h => by simp [hafter message h]
  rw [requestElectronStore_getMessage, requestElectronStore_getMessage, (conversation_eq _ s).2, (conversation_eq _ s).2,
    Table.conversation_append, Table.conversation, Table.entry_conversation_filter after rfl, hnone]
  simp only [Table.conversation, Table.request, resetMessage]
  by_cases hreset : network = network' ∧ key ∈ resetKeys
  · rw [if_pos hreset, if_pos hreset]
    cases id <;> rfl
  · rw [if_neg hreset, if_neg hreset]

/-- A theme, a wallet and a locale are written on mainnet, and all is reset there. -/
def settings : List (Network × StoreMessage Bool) :=
  [(.mainnet, { type := .set, key := some .theme, data := some (.leaf true) }),
    (.mainnet, { type := .set, key := some .wallets, data := some (.leaf true), id := some ⟨"w", by decide⟩ }),
    (.mainnet, { type := .set, key := some .userLocale, data := some (.leaf true) })]

theorem get_after_reset_settings :
    (requestElectronStore .mainnet (getMessage (some .userLocale) none)
        (conversation (settings ++ [(.mainnet, resetMessage)]) (Nested.empty : Nested Bool)).2).1 = .ok none ∧
      (requestElectronStore .mainnet (getMessage (some .theme) none)
        (conversation (settings ++ [(.mainnet, resetMessage)]) (Nested.empty : Nested Bool)).2).1 =
        (requestElectronStore .mainnet (getMessage (some .theme) none)
          (conversation settings (Nested.empty : Nested Bool)).2).1 :=
  ⟨(get_after_reset settings [] .mainnet .mainnet (some .userLocale) none _ (by simp)).trans
      (if_pos (by decide)),
    (get_after_reset settings [] .mainnet .mainnet (some .theme) none _ (by simp)).trans
      (if_neg (by decide))⟩

end

end Klarity.ElectronStore
