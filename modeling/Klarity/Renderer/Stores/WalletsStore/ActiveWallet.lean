import Klarity.Renderer.Stores.WalletsStore

set_option autoImplicit false

/-! # The active wallet

`_setActiveWallet()` is called with the list of wallets as it is at the time. A wallet that is active already is
updated in place, so it keeps its id. -/

namespace Klarity.WalletsStore

def hasActiveWalletBeenChanged (active : Option ListedWallet) (walletId : String) : Bool :=
  active.map (·.id) ≠ some walletId

/-- What is active after `_setActiveWallet()`. -/
def setActiveWallet (all : List ListedWallet) (active : Option ListedWallet) (walletId : String) :
    Option ListedWallet :=
  if all.isEmpty then active
  else
    let newActiveWallet := all.find? (·.id = walletId)
    -- Active wallet has been replaced or removed, or else updated
    if hasActiveWalletBeenChanged active walletId then newActiveWallet else newActiveWallet.or active

variable {all : List ListedWallet} {active : Option ListedWallet} {walletId : String}

/-- Only a wallet with another id takes the place of the active one. -/
theorem map_id_setActiveWallet (h : hasActiveWalletBeenChanged active walletId = false) :
    (setActiveWallet all active walletId).map (·.id) = active.map (·.id) := by
  have hid : active.map (·.id) = some walletId := by simpa [hasActiveWalletBeenChanged] using h
  unfold setActiveWallet
  rw [h]
  split
  · rfl
  · cases hfind : all.find? (·.id = walletId) with
    | none => rfl
    | some newActiveWallet =>
      have hnew : newActiveWallet.id = walletId := by simpa using List.find?_some hfind
      show some newActiveWallet.id = active.map (·.id)
      rw [hid, hnew]

end Klarity.WalletsStore
