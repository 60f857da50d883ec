import Klarity.Library.BigNumber.Amount
import Klarity.Renderer.Components.Wallet.WalletSendForm.TransactionFee

set_option autoImplicit false

/-! # Whether the fee shown is the fee of what is sent

A change of what would be sent starts a new fee request only after its validation, and an answer to an
earlier request is shown until then. The fee shown is the right one in runs without such a change: what
would be sent stays the same while a fee is shown, and while the newest request is answered. -/

namespace Klarity.WalletSendForm

variable {N : Type} [BigNumber N] {allAssets : List AssetToken} {s s' : State N} {e : Event N}

/-! ## What a fee is for -/

variable (allAssets) in
/-- The fee shown is the answer to a request for what would be sent. -/
def FeeIsCurrent (s : State N) : Prop :=
  ∃ request ∈ s.requests, request.response = some (.fee s.transactionFee) ∧
    payment allAssets s = some request.payment

/-- Two states with the same values for the same selected assets. -/
structure SameInputs (s s' : State N) : Prop where
  receiver : s'.receiver.value = s.receiver.value
  bccAmount : s'.bccAmount.value = s.bccAmount.value
  selectedAssetUniqueIds : s'.selectedAssetUniqueIds = s.selectedAssetUniqueIds
  assetField : ∀ uniqueId,
    (s'.assetField uniqueId).map Field.value = (s.assetField uniqueId).map Field.value

theorem SameInputs.payment_eq (h : SameInputs s s') : payment allAssets s' = payment allAssets s := by
  have hquantity : ∀ uniqueId (asset : AssetToken),
      ((s'.assetField uniqueId).bind fun field => some (⟨asset.policyId, asset.assetName,
        BigNumber.ofString (formattedAmountToNaturalUnits field.value)⟩ : ApiToken N)) =
      (s.assetField uniqueId).bind fun field => some ⟨asset.policyId, asset.assetName,
        BigNumber.ofString (formattedAmountToNaturalUnits field.value)⟩ := by
    intro uniqueId asset
    have hfield := h.assetField uniqueId
    rcases hs' : s'.assetField uniqueId with _ | f' <;> rcases hs : s.assetField uniqueId with _ | f
    · rfl
    · simp [hs, hs'] at hfield
    · simp [hs, hs'] at hfield
    · have hvalue : f'.value = f.value := by simpa [hs, hs'] using hfield
      simp only [Option.bind_some, hvalue]
  unfold payment
  simp only [Option.bind_eq_bind, Option.pure_def, h.receiver, h.bccAmount,
    h.selectedAssetUniqueIds, hquantity]

/-- What says that the fee shown is current stays there. -/
theorem FeeIsCurrent.of_same (h : FeeIsCurrent allAssets s) (hfee : s'.transactionFee = s.transactionFee)
    (hpayment : payment allAssets s' = payment allAssets s)
    (hrequests : ∀ request ∈ s.requests, request.response ≠ none → request ∈ s'.requests) :
    FeeIsCurrent allAssets s' := by
  obtain ⟨request, hmem, hresponse, hfor⟩ := h
  refine ⟨request, hrequests request hmem (by simp [hresponse]), ?_, ?_⟩
  · rw [hfee]
    exact hresponse
  · rw [hpayment]
    exact hfor

/-! ## The invariant -/

variable (allAssets) in
/-- A fee that is shown is current. -/
def ShownIsCurrent (s : State N) : Prop :=
  s.isTransactionFeeCalculated = true → FeeIsCurrent allAssets s

theorem ShownIsCurrent.of_not_calculated (h : s.isTransactionFeeCalculated = false) :
    ShownIsCurrent allAssets s := by
  intro hcalculated
  rw [h] at hcalculated
  cases hcalculated

/-- The step changed neither the fee shown, nor what would be sent. -/
theorem ShownIsCurrent.of_same (h : ShownIsCurrent allAssets s)
    (hcalculated : s'.isTransactionFeeCalculated = s.isTransactionFeeCalculated)
    (hfee : s'.transactionFee = s.transactionFee) (hrequests : s'.requests = s.requests)
    (hpayment : s.isTransactionFeeCalculated = true → payment allAssets s' = payment allAssets s) :
    ShownIsCurrent allAssets s' := by
  intro hshown
  rw [hcalculated] at hshown
  refine (h hshown).of_same hfee (hpayment hshown) ?_
  intro request hmem _
  rw [hrequests]
  exact hmem

theorem isTransactionFeeCalculated_resetTransactionFee (hmounted : s.isMounted = true) :
    (resetTransactionFee s).isTransactionFeeCalculated = false := by
  unfold resetTransactionFee
  rw [if_pos hmounted]

theorem ShownIsCurrent.resetTransactionFee (h : ShownIsCurrent allAssets s) :
    ShownIsCurrent allAssets (resetTransactionFee s) := by
  by_cases hmounted : s.isMounted = true
  · exact .of_not_calculated (isTransactionFeeCalculated_resetTransactionFee hmounted)
  · unfold WalletSendForm.resetTransactionFee
    rw [if_neg hmounted]
    exact h

theorem ShownIsCurrent.calculateTransactionFee (h : ShownIsCurrent allAssets s) :
    ShownIsCurrent allAssets (calculateTransactionFee allAssets s) := by
  unfold WalletSendForm.calculateTransactionFee
  split
  · exact h
  · split
    · exact h
    · split
      · exact h
      · next payment _ =>
          by_cases hmounted : s.isMounted = true
          · apply ShownIsCurrent.of_not_calculated
            simp only [State.setState, hmounted, if_true]
          · intro hshown
            simp only [State.setState, hmounted] at hshown ⊢
            refine (h hshown).of_same rfl rfl ?_
            intro request hmem _
            exact List.mem_append_left _ hmem

theorem ShownIsCurrent.validated (h : ShownIsCurrent allAssets s) (name : FieldName) (isValid : Bool) :
    ShownIsCurrent allAssets (validated allAssets s name isValid) := by
  unfold WalletSendForm.validated
  cases name with
  | receiver =>
      dsimp only
      split
      · exact h.calculateTransactionFee
      · exact h.resetTransactionFee
  | bccAmount =>
      dsimp only
      split
      · exact h.calculateTransactionFee
      · exact h.resetTransactionFee
  | asset uniqueId =>
      dsimp only
      split
      · exact h
      · split
        · exact h.calculateTransactionFee
        · exact h.resetTransactionFee

theorem ShownIsCurrent.validate (h : ShownIsCurrent allAssets s) (name : FieldName) (value : String) :
    ShownIsCurrent allAssets (validate s name value) := by
  unfold WalletSendForm.validate
  split
  · exact h.resetTransactionFee
  · exact h.of_same rfl rfl rfl fun _ => rfl

/-! ## Answers -/

/-- An answer is used when the request is the newest one and every selected asset has an amount. -/
def IsUsed (s : State N) (prevFeeCalculationRequestQue : ℕ) : Prop :=
  s.isMounted = true ∧
    isLatestTransactionFeeRequest s.feeCalculationRequestQue prevFeeCalculationRequestQue = true ∧
    ∃ amounts, s.selectedAssetsAmounts = some amounts ∧ amounts.contains emptyAssetFieldValue = false

/-- The answer to a request for what would be sent is its fee. -/
theorem ShownIsCurrent.useResponse {request : FeeRequest N} {response : FeeResponse N}
    (h : ShownIsCurrent allAssets s) (hmem : request ∈ s.requests)
    (hresponse : request.response = some response)
    (hpayment : (∃ fee, response = .fee fee) → IsUsed s request.prevFeeCalculationRequestQue →
      payment allAssets s = some request.payment) :
    ShownIsCurrent allAssets (useResponse s request response) := by
  unfold WalletSendForm.useResponse
  split
  · next hlatest =>
      obtain ⟨hmounted, hlatest⟩ := (Bool.and_eq_true _ _).mp hlatest
      split
      · next fee amounts hamounts =>
          split
          · exact h
          · next hempty =>
              intro _
              refine ⟨request, hmem, hresponse, ?_⟩
              exact hpayment ⟨fee, rfl⟩ ⟨hmounted, hlatest, amounts, hamounts, by simpa using hempty⟩
      · exact h.resetTransactionFee
  · exact h

/-! ## Runs without a change at the wrong time -/

variable (allAssets) in
/-- What would be sent is changed only while no fee is shown, and the newest request is answered with a fee
    only while it is for what would be sent. -/
def ChangedInTime (s : State N) (e : Event N) : Prop :=
  match e with
  | .onChange name value =>
      s.isTransactionFeeCalculated = true →
        payment allAssets (s.setValue name value) = payment allAssets s
  | .removeAssetRow uniqueId =>
      s.isTransactionFeeCalculated = true →
        payment allAssets (removeAssetRow s uniqueId) = payment allAssets s
  | .handleOnReset =>
      s.isTransactionFeeCalculated = true →
        payment allAssets (handleOnReset s) = payment allAssets s
  | .feeAnswered i (.fee _) =>
      ∀ request, s.requests[i]? = some request → IsUsed s request.prevFeeCalculationRequestQue →
        payment allAssets s = some request.payment
  | _ => True

omit [BigNumber N] in
theorem sameInputs_setIsValid (s : State N) (name : FieldName) (isValid : Bool) :
    SameInputs s (s.updateField name fun field => { field with isValid := isValid }) := by
  cases name with
  | receiver => exact ⟨rfl, rfl, rfl, fun _ => rfl⟩
  | bccAmount => exact ⟨rfl, rfl, rfl, fun _ => rfl⟩
  | asset uniqueId =>
      refine ⟨rfl, rfl, rfl, fun id => ?_⟩
      have hkey : ∀ entry : String × Field, (if entry.1 = uniqueId then
          (entry.1, ({ entry.2 with isValid := isValid } : Field)) else entry).1 = entry.1 := by
        intro entry
        split <;> rfl
      have hvalue : ∀ entry : String × Field, (if entry.1 = uniqueId then
          (entry.1, ({ entry.2 with isValid := isValid } : Field)) else entry).2.value =
            entry.2.value := by
        intro entry
        split <;> rfl
      simp only [State.assetField, State.updateField, List.find?_map, Option.map_map,
        Function.comp_def, hkey, hvalue]

theorem ShownIsCurrent.step (h : ShownIsCurrent allAssets s) (hok : ChangedInTime allAssets s e)
    (hs : step allAssets s e = some s') : ShownIsCurrent allAssets s' := by
  cases e with
  | onChange name value =>
      obtain ⟨_, ⟨⟩⟩ := Option.ite_none_right_eq_some.1 hs
      refine h.of_same ?_ ?_ ?_ hok <;> cases name <;> rfl
  | setIsValid name isValid =>
      obtain rfl := Option.some.inj hs
      refine h.of_same ?_ ?_ ?_ fun _ => (sameInputs_setIsValid s name isValid).payment_eq <;>
        cases name <;> rfl
  | validate name =>
      obtain ⟨field, _, rfl⟩ := Option.map_eq_some_iff.1 hs
      exact h.validate name field.value
  | validateRemoved i =>
      obtain ⟨entry, _, rfl⟩ := Option.map_eq_some_iff.1 hs
      exact h.validate _ _
  | validated i isValid =>
      obtain ⟨name, _, rfl⟩ := Option.map_eq_some_iff.1 hs
      refine ShownIsCurrent.validated ?_ name isValid
      exact h.of_same rfl rfl rfl fun _ => rfl
  | feeAnswered i response =>
      simp only [WalletSendForm.step, feeAnswered] at hs
      split at hs
      · next payment prev hi =>
          obtain rfl := Option.some.inj hs
          apply ShownIsCurrent.useResponse
          · intro hshown
            refine (h hshown).of_same rfl rfl ?_
            intro request hmem hanswered
            exact List.mem_set_of_ne hmem hi (fun heq => hanswered (congrArg FeeRequest.response heq))
          · exact List.mem_set_self hi
          · rfl
          · rintro ⟨fee, rfl⟩ hused
            exact hok ⟨payment, prev, none⟩ hi hused
      · cases hs
  | addAssetRow uniqueId =>
      obtain ⟨hmounted, ⟨⟩⟩ := Option.ite_none_right_eq_some.1 hs
      exact .of_not_calculated (isTransactionFeeCalculated_resetTransactionFee hmounted)
  | removeAssetRow uniqueId =>
      obtain ⟨_, ⟨⟩⟩ := Option.ite_none_right_eq_some.1 hs
      exact h.of_same rfl rfl rfl hok
  | removalTimeout =>
      obtain ⟨_, ⟨⟩⟩ := Option.ite_none_left_eq_some.1 hs
      apply ShownIsCurrent.calculateTransactionFee
      exact h.of_same rfl rfl rfl fun _ => rfl
  | onChangeAsset currentUniqueId newUniqueId =>
      obtain ⟨hmounted, ⟨⟩⟩ := Option.ite_none_right_eq_some.1 hs
      unfold onChangeAsset
      split
      · exact h
      · exact .of_not_calculated (isTransactionFeeCalculated_resetTransactionFee hmounted)
  | clearAssetFieldValue uniqueId =>
      obtain ⟨hmounted, ⟨⟩⟩ := Option.ite_none_right_eq_some.1 hs
      exact .of_not_calculated (isTransactionFeeCalculated_resetTransactionFee hmounted)
  | handleOnReset =>
      obtain ⟨_, ⟨⟩⟩ := Option.ite_none_right_eq_some.1 hs
      exact h.of_same rfl rfl rfl hok
  | componentWillUnmount =>
      obtain rfl := Option.some.inj hs
      exact h.of_same rfl rfl rfl fun _ => rfl

omit [BigNumber N] in
theorem isTransactionFeeCalculated_of_not_disabled (h : s.isDisabled = false) :
    s.isTransactionFeeCalculated = true := by
  unfold State.isDisabled at h
  simp only [Bool.or_eq_false_iff, Bool.not_eq_false'] at h
  exact h.1.2

/-- A receiver and an amount, a fee, and another receiver while the fee is shown. -/
def changedReceiver : List (Event Amount) :=
  [.validate .receiver, .setIsValid .receiver false, .validate .bccAmount, .setIsValid .bccAmount false,
    .onChange .receiver "first", .setIsValid .receiver true, .validate .receiver, .validated 0 true,
    .onChange .bccAmount "5", .setIsValid .bccAmount true, .validate .bccAmount, .validated 0 true,
    .feeAnswered 0 (.fee (some 1)), .onChange .receiver "second"]

end Klarity.WalletSendForm
