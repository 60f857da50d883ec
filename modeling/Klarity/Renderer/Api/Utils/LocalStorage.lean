import Mathlib.Data.List.Nodup

set_option autoImplicit false

/-! # Hardware wallets in the local storage

The hardware wallets are the entries of one key of the storage, which the main process reads and writes. An
entry is changed by two messages: it is read, and written with the changes. -/

namespace Klarity.LocalStorage

variable {Data Err : Type}

/-- An id is not empty, so `if (walletId)` holds. -/
abbrev WalletId := {id : String // id ≠ ""}

/-- The fields besides `id` and `disconnected` are in `others`, by their names. -/
structure HardwareWalletLocalData (Data : Type) where
  id : WalletId
  disconnected : Option Bool := none
  others : String → Option Data := fun _ => none

/-- The fields that an entry is changed by. -/
structure Changes (Data : Type) where
  disconnected : Option Bool := none
  others : String → Option Data := fun _ => none

/-- `Object.assign({}, currentWalletData, data, { id: walletId })` -/
def assign (currentWalletData : HardwareWalletLocalData Data) (data : Changes Data) (walletId : WalletId) :
    HardwareWalletLocalData Data where
  id := walletId
  disconnected := data.disconnected.or currentWalletData.disconnected
  others key := (data.others key).or (currentWalletData.others key)

/-- The object under the key `HARDWARE_WALLETS`: every entry is under its id. -/
structure HardwareWallets (Data : Type) where
  entries : List (HardwareWalletLocalData Data)
  nodup : (entries.map (·.id)).Nodup

/-- What an entry is read as; a missing one is read as the fallback. -/
def HardwareWallets.get (wallets : HardwareWallets Data) (walletId : WalletId) :
    HardwareWalletLocalData Data :=
  (wallets.entries.find? (·.id = walletId)).getD { id := walletId }

/-- A write keeps the place of an entry that exists. -/
def setEntry (entries : List (HardwareWalletLocalData Data)) (walletData : HardwareWalletLocalData Data) :
    List (HardwareWalletLocalData Data) :=
  if walletData.id ∈ entries.map (·.id) then
    entries.map fun entry => if entry.id = walletData.id then walletData else entry
  else entries ++ [walletData]

theorem map_id_replace (entries : List (HardwareWalletLocalData Data))
    (walletData : HardwareWalletLocalData Data) :
    (entries.map fun entry => if entry.id = walletData.id then walletData else entry).map (·.id) =
      entries.map (·.id) := by
  rw [List.map_map]
  refine List.map_congr_left ?_
  intro entry _
  by_cases hid : entry.id = walletData.id
  · simp [hid]
  · simp [hid]

theorem nodup_setEntry {entries : List (HardwareWalletLocalData Data)}
    (walletData : HardwareWalletLocalData Data) (h : (entries.map (·.id)).Nodup) :
    ((setEntry entries walletData).map (·.id)).Nodup := by
  unfold setEntry
  split
  · rw [map_id_replace]
    exact h
  · next hnew =>
    rw [List.map_append]
    exact h.append (List.nodup_singleton _) (by simpa using hnew)

def HardwareWallets.set (wallets : HardwareWallets Data) (walletData : HardwareWalletLocalData Data) :
    HardwareWallets Data :=
  ⟨setEntry wallets.entries walletData, nodup_setEntry walletData wallets.nodup⟩

/-- How far a call of `setHardwareWalletLocalData()` has come: the entry is asked for, answered, written, and
the write is answered. -/
inductive Access (Data Err : Type)
  | getting
  | got (answer : Except Err (HardwareWalletLocalData Data))
  | setting (walletData : HardwareWalletLocalData Data)
  | set (walletData : HardwareWalletLocalData Data) (answer : Except Err Unit)

end Klarity.LocalStorage
