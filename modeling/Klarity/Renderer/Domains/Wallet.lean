import Mathlib.Data.Nat.Notation

set_option autoImplicit false

/-! # Wallets -/

namespace Klarity

/-- What the app shows of a hardware wallet device. -/
inductive HwDeviceStatus
  | connecting
  | connectingFailed
  | trezorBridgeFailure
  | launchingBccApp
  | exportingPublicKey
  | exportingPublicKeyFailed
  | ready
  | verifyingTransaction
  | verifyingTransactionFailed
  | wrongFirmware
  | wrongBccAppVersion
  | unsupportedDevice
  | verifyingTransactionSucceeded
  | verifyingAddress
  | verifyingAddressConfirmation
  | verifyingAddressFailed
  | verifyingAddressAborted
  | verifyingAddressSucceeded
  deriving DecidableEq, Repr

/-- A wallet with its balances, in entropics. -/
structure Wallet where
  id : String
  amount : ℕ
  availableAmount : ℕ
  reward : ℕ
  deriving DecidableEq, Repr

end Klarity
