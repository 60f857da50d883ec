import Klarity.Library.BigNumber.Amount
import Klarity.Renderer.Api.Api
import Klarity.Renderer.Stores.HardwareWallets.SignTransaction

set_option autoImplicit false

/-! # Which coin selections balance

The fee is exact in every branch but one: when a delegation ends, the deposits of the answer are left
out. The conversions to BCC and back are exact as far as a double can hold the fee. -/

namespace Klarity.BccApi

open HardwareWallets.SelectCoins (Args DelegationAction)

open JsNumber (IsDouble)

open LawfulBigNumber

variable {N : Type} [BigNumber N] {Metadata : Type} {request : Args Metadata}
  {response : SelectCoinsResponse} {selection : CoinSelectionsResponse N}

/-- The signing functions take the fee in BCC; what they make of it is the integer that is signed. -/
theorem feeInEntropic_of_feeSigned {x : ℚ} (h : FeeSigned N selection)
    (hx : BigNumber.value selection.fee = some x) (hpos : 0 ≤ x) :
    formattedAmountToEntropic N (BigNumber.toString selection.fee) =
      some (HardwareWallets.SignTransaction.feeInEntropic x : ℤ) := by
  obtain ⟨fee, hfee, hsigned⟩ := h
  rw [entropics, hx, Option.map_some] at hfee
  have heq : x * 1000000 = (fee : ℚ) := by
    rw [← Option.some.inj hfee]
    norm_num [entropicsPerBcc]
  have hfeePos : 0 ≤ fee := by
    have h : (0 : ℚ) ≤ (fee : ℚ) := by
      rw [← heq]
      exact mul_nonneg hpos (by norm_num)
    exact Int.cast_nonneg_iff.1 h
  have hfloor : (x * 1000000).floor = fee := by
    rw [heq]
    exact Rat.floor_intCast fee
  rw [hsigned, HardwareWallets.SignTransaction.feeInEntropic, hfloor, Int.toNat_of_nonneg hfeePos]

variable [LawfulBigNumber N]

/-! ## Sums -/

theorem value_total (quantities : List ℕ) :
    BigNumber.value (total N quantities) = some (quantities.sum : ℚ) := by
  have h := BigNumber.value_sum (N := N) (BigNumber.value_ofNat 0) quantities
  rw [Nat.zero_add] at h
  exact h

theorem value_sumOfQuantities (quantities : List ℕ) :
    BigNumber.value (sumOfQuantities N quantities) = some (quantities.sum : ℚ) := by
  cases quantities with
  | nil => exact BigNumber.value_ofNat 0
  | cons quantity quantities =>
      rw [List.sum_cons]
      exact BigNumber.value_sum (BigNumber.value_ofNat quantity) quantities

theorem value_depositsReclaimed (request : Args Metadata) :
    BigNumber.value (depositsReclaimed N request) = some (reclaimedTotal request : ℚ) := by
  unfold depositsReclaimed reclaimedTotal
  split
  · rw [value_times (BigNumber.value_ofNat _) (BigNumber.value_ofNat _), Nat.cast_mul]
  · exact BigNumber.value_ofNat 0

/-- What the code leaves out of the balance. -/
def ignoredDeposits (request : Args Metadata) (response : SelectCoinsResponse) : ℕ :=
  if isQuit request then depositsTotal response else 0

/-- What goes in and what comes out, before deposits. -/
theorem value_difference (response : SelectCoinsResponse) :
    BigNumber.value (BigNumber.minus (total N (response.inputs.map fun input => input.amount))
      (BigNumber.minus (total N ((response.outputs ++ response.change).map CoinSelectionOutput.amount))
        (withdrawals N response))) =
      some ((inputsTotal response : ℚ)
        - (((outputsTotal response + changeTotal response : ℕ) : ℚ) - withdrawalsTotal response)) := by
  have houtputs : ((response.outputs ++ response.change).map CoinSelectionOutput.amount).sum =
      outputsTotal response + changeTotal response := by
    rw [List.map_append, List.sum_append]
    rfl
  have htotal := value_total (N := N) ((response.outputs ++ response.change).map CoinSelectionOutput.amount)
  rw [houtputs] at htotal
  exact value_minus (value_total _) (value_minus htotal (value_sumOfQuantities _))

theorem value_fee (request : Args Metadata) (response : SelectCoinsResponse) :
    BigNumber.value (fee N request response) =
      some ((ledgerFee request response + ignoredDeposits request response : ℤ) : ℚ) := by
  have hdifference := value_difference (N := N) response
  have hreclaimed := value_depositsReclaimed (N := N) request
  have hdeposits : BigNumber.value (deposits N response) = some (depositsTotal response : ℚ) :=
    value_sumOfQuantities _
  unfold fee ledgerFee ignoredDeposits
  by_cases hquit : isQuit request = true
  · rw [if_pos hquit, if_pos hquit]
    refine (value_plus hdifference hreclaimed).trans (congrArg some ?_)
    push_cast
    ring
  · have hnone : reclaimedTotal request = 0 := if_neg hquit
    rw [if_neg hquit, if_neg hquit, hnone]
    refine (value_minus hdifference hdeposits).trans (congrArg some ?_)
    push_cast
    ring

/-! ## From entropics to BCC and back -/

theorem value_inBcc {a : N} {n : ℤ} (h : BigNumber.value a = some (n : ℚ)) :
    BigNumber.value (inBcc N a) = some ((n : ℚ) / 10 ^ 6) := by
  have hunit := BigNumber.value_ofNat (N := N) entropicsPerBcc
  have hexact : (n : ℚ) / (entropicsPerBcc : ℕ) = ((n * 10 ^ 14 : ℤ) : ℚ) / 10 ^ 20 := by
    norm_num [entropicsPerBcc]
    ring
  have h := value_dividedBy h hunit (by norm_num [entropicsPerBcc]) hexact
  rw [inBcc, h]
  norm_num [entropicsPerBcc]

theorem entropics_inBcc {a : N} {n : ℤ} (h : BigNumber.value a = some (n : ℚ)) :
    entropics N (inBcc N a) = some (n : ℚ) :=
  entropics_of_value N (value_inBcc h)

/-! ## The balance and the signed fee -/

theorem balanced_iff : Balanced N response (extendedResponse N request response) ↔
    ignoredDeposits request response = 0 := by
  have hfee := entropics_inBcc (value_fee (N := N) request response)
  have hdeposits : entropics N (inBcc N (deposits N response)) = some (depositsTotal response : ℚ) :=
    entropics_inBcc (n := depositsTotal response) (value_sumOfQuantities (response.deposits.getD []))
  have hreclaimed : entropics N (inBcc N (depositsReclaimed N request)) =
      some (reclaimedTotal request : ℚ) :=
    entropics_inBcc (n := reclaimedTotal request) (value_depositsReclaimed request)
  constructor
  · rintro ⟨fee, deposits, reclaimed, h1, h2, h3, hbalance⟩
    obtain rfl := Option.some.inj (hfee.symm.trans h1)
    obtain rfl := Option.some.inj (hdeposits.symm.trans h2)
    obtain rfl := Option.some.inj (hreclaimed.symm.trans h3)
    unfold ledgerFee at hbalance
    push_cast at hbalance
    have hzero : (ignoredDeposits request response : ℚ) = 0 := by linarith
    exact_mod_cast hzero
  · intro hzero
    refine ⟨_, _, _, hfee, hdeposits, hreclaimed, ?_⟩
    rw [hzero]
    unfold ledgerFee
    push_cast
    ring

/-- A fee survives being shown and read again if a double can hold it. -/
theorem feeSigned_iff {a : N} {n : ℤ} (h : BigNumber.value a = some (n : ℚ))
    (hfee : selection.fee = inBcc N a) :
    FeeSigned N selection ↔ n.natAbs < 10 ^ 21 ∧ IsDouble n.natAbs := by
  have hbcc : BigNumber.value selection.fee = some ((n : ℚ) / 10 ^ 6) := by
    rw [hfee]
    exact value_inBcc h
  have hread : BigNumber.value (formattedAmountToBigNumber N (BigNumber.toString selection.fee)) =
      some ((n : ℚ) / 10 ^ 6) := by
    rw [formattedAmountToBigNumber_of_noComma (toString_ne_empty hbcc) (comma_not_mem_toString hbcc)]
    exact value_ofString_toString hbcc
  have hiff := formattedAmountToEntropic_eq_some_iff hread
  constructor
  · rintro ⟨fee, hentropics, hsigned⟩
    have heq : (n : ℚ) = fee := Option.some.inj ((entropics_of_value N hbcc).symm.trans hentropics)
    obtain rfl : n = fee := by exact_mod_cast heq
    exact hiff.1 hsigned
  · intro hn
    exact ⟨n, entropics_of_value N hbcc, hiff.2 hn⟩

/-- **Coin-selection balance.** The amounts balance, and the fee is signed as it is, exactly when no
    deposits come with the end of a delegation and a double can hold the fee of the ledger. -/
theorem balanced_and_feeSigned_iff (h : selectCoins N request response = some selection) :
    Balanced N response selection ∧ FeeSigned N selection ↔
      (isQuit request = true → depositsTotal response = 0) ∧
        (ledgerFee request response).natAbs < 10 ^ 21 ∧ IsDouble (ledgerFee request response).natAbs := by
  obtain ⟨data, -, rfl⟩ := Option.map_eq_some_iff.1 h
  have hignored : ignoredDeposits request response = 0 ↔
      (isQuit request = true → depositsTotal response = 0) := by
    unfold ignoredDeposits
    split
    · next hquit => exact ⟨fun hzero _ => hzero, fun hzero => hzero hquit⟩
    · next hquit => exact ⟨fun _ h => absurd h hquit, fun _ => rfl⟩
  rw [balanced_iff, ← hignored]
  refine and_congr_right fun hzero => ?_
  have hfee := value_fee (N := N) request response
  rw [hzero, Nat.cast_zero, add_zero] at hfee
  exact feeSigned_iff hfee rfl

/-- A request for a payment, or for the end of a delegation. -/
def sampleRequest (delegationAction : Option DelegationAction) : Args Unit :=
  { walletId := "wallet"
    walletBalance := 5000000
    availableBalance := 5000000
    rewardsBalance := 0
    payments := some ⟨"addr", 1000000, none⟩
    delegation := delegationAction.map fun action => ⟨"pool", action⟩ }

/-- One input, and the change of it. -/
def sampleResponse (input change : ℕ) (deposits : List ℕ) : SelectCoinsResponse :=
  { inputs := [⟨⟨"addr", input, "id", 0, []⟩, none⟩]
    outputs := []
    change := [⟨"change", change, some [], none⟩]
    deposits := some deposits }

theorem balanced_and_feeSigned_payment :
    let selection := extendedResponse Amount (sampleRequest none) (sampleResponse 5000000 4800000 [])
    Balanced Amount (sampleResponse 5000000 4800000 []) selection ∧ FeeSigned Amount selection := by
  have h : selectCoins Amount (sampleRequest none) (sampleResponse 5000000 4800000 []) = some _ := rfl
  exact (balanced_and_feeSigned_iff h).2 ⟨by decide, by decide, by decide⟩

/-- Deposits that come with the end of a delegation are left out, and a large fee is signed as another
    integer. -/
theorem quit_ignores_deposits_and_large_fee_rounded :
    (∃ selection, selectCoins Amount (sampleRequest (some .quit)) (sampleResponse 5000000 4800000 [2000000])
        = some selection ∧
      ¬ Balanced Amount (sampleResponse 5000000 4800000 [2000000]) selection) ∧
    ∃ selection, selectCoins Amount (sampleRequest none) (sampleResponse 9007199254740993 0 [])
        = some selection ∧ ¬ FeeSigned Amount selection := by
  refine ⟨⟨_, rfl, fun h => ?_⟩, _, rfl, fun h => ?_⟩
  · exact absurd (balanced_iff.1 h) (by decide)
  · have hfee := value_fee (N := Amount) (sampleRequest none) (sampleResponse 9007199254740993 0 [])
    exact absurd ((feeSigned_iff hfee rfl).1 h).2 (by decide)

end Klarity.BccApi
