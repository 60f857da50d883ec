import Mathlib.Data.Nat.Notation

set_option autoImplicit false

/-! # Coin selections

The answer of the backend to `selectCoins`, as far as the signing of a transaction reads it. Amounts of
inputs, outputs and withdrawals are quantities of entropics; the fee is in BCC. -/

namespace Klarity

structure Asset where
  policyId : String
  assetName : String
  quantity : ℕ
  deriving DecidableEq, Repr

structure CoinSelectionInput where
  address : String
  amount : ℕ
  id : String
  index : ℕ
  derivationPath : List String
  deriving DecidableEq, Repr

/-- An output with a derivation path is change. -/
structure CoinSelectionOutput where
  address : String
  amount : ℕ
  derivationPath : Option (List String)
  assets : Option (List Asset)
  deriving DecidableEq, Repr

inductive CertificateType
  | registerRewardAccount
  | quitPool
  | joinPool
  deriving DecidableEq, Repr

structure CoinSelectionCertificate where
  pool : Option String
  certificateType : CertificateType
  rewardAccountPath : List String
  deriving DecidableEq, Repr

structure CoinSelectionWithdrawal where
  stakeAddress : String
  derivationPath : List String
  amount : ℕ
  deriving DecidableEq, Repr

structure CoinSelection where
  inputs : List CoinSelectionInput
  outputs : List CoinSelectionOutput
  certificates : List CoinSelectionCertificate
  withdrawals : List CoinSelectionWithdrawal
  fee : Rat
  deriving DecidableEq

/-- What a voting registration is made of. -/
structure VotingData where
  stakeAddress : String
  stakeKey : String
  votingKey : String
  nonce : ℕ
  deriving DecidableEq, Repr

end Klarity
