import Klarity.Library.Lists
import Klarity.Library.Machine
import Klarity.Renderer.Components.Wallet.WalletSendForm

set_option autoImplicit false

/-! # The transaction fee in the send form

The form asks for a fee when a validator accepts a value, or after an asset row is removed, and shows the
answer to the newest request. A validation starts some time after the value changed (`validate`, it is
debounced), also when the field was removed since, and ends with the answer of the wallet (`validated`).
So edits, validations and fees come in any order.

Which fields are valid is what the form library says (`setIsValid`); the messages of the validators, the
minimum amount and the text of an error, which are only displayed, are left out. `null` is an empty value. -/

namespace Klarity.WalletSendForm

structure Field where
  value : String
  isValid : Bool
  deriving DecidableEq, Repr

/-- The fields with validators; each asset row has one. -/
inductive FieldName
  | receiver
  | bccAmount
  | asset (uniqueId : String)
  deriving DecidableEq, Repr

structure AssetToken where
  uniqueId : String
  policyId : String
  assetName : String
  deriving DecidableEq, Repr

structure ApiToken (N : Type) where
  policyId : String
  assetName : String
  quantity : N

/-- What a fee is asked for, and what is sent. -/
structure Payment (N : Type) where
  receiver : String
  bccAmount : Option ℤ
  assets : List (ApiToken N)

inductive FeeResponse (N : Type)
  | fee (fee : N)
  | error

structure FeeRequest (N : Type) where
  payment : Payment N
  prevFeeCalculationRequestQue : ℕ
  response : Option (FeeResponse N)

/-- `requests` are the fee requests made so far, `validating` the validations that wait for the wallet,
    `removedFields` the fields that are no longer in the form and `removals` the timeouts that
    `removeAssetRow()` has set. -/
structure State (N : Type) where
  receiver : Field
  bccAmount : Field
  assetFields : List (String × Field)
  selectedAssetUniqueIds : List String
  feeCalculationRequestQue : ℕ
  transactionFee : N
  isTransactionFeeCalculated : Bool
  isCalculatingTransactionFee : Bool
  isMounted : Bool
  requests : List (FeeRequest N)
  validating : List FieldName
  removedFields : List (String × Field)
  removals : ℕ

inductive Event (N : Type)
  | onChange (name : FieldName) (value : String)
  | setIsValid (name : FieldName) (isValid : Bool)
  | validate (name : FieldName)
  | validateRemoved (i : ℕ)
  | validated (i : ℕ) (isValid : Bool)
  | feeAnswered (i : ℕ) (response : FeeResponse N)
  | addAssetRow (uniqueId : String)
  | removeAssetRow (uniqueId : String)
  | removalTimeout
  | onChangeAsset (currentUniqueId newUniqueId : String)
  | clearAssetFieldValue (uniqueId : String)
  | handleOnReset
  | componentWillUnmount

namespace State

variable {N : Type}

/-! ## Fields -/

def assetField (s : State N) (uniqueId : String) : Option Field :=
  (s.assetFields.find? fun entry => entry.1 = uniqueId).map Prod.snd

def field (s : State N) : FieldName → Option Field
  | .receiver => some s.receiver
  | .bccAmount => some s.bccAmount
  | .asset uniqueId => s.assetField uniqueId

def updateField (s : State N) (name : FieldName) (f : Field → Field) : State N :=
  match name with
  | .receiver => { s with receiver := f s.receiver }
  | .bccAmount => { s with bccAmount := f s.bccAmount }
  | .asset uniqueId =>
      { s with
        assetFields := s.assetFields.map fun entry =>
          if entry.1 = uniqueId then (entry.1, f entry.2) else entry }

def setValue (s : State N) (name : FieldName) (value : String) : State N :=
  s.updateField name fun field => { field with value := value }

/-- `form.isValid` -/
def isValid (s : State N) : Bool :=
  s.receiver.isValid && s.bccAmount.isValid && s.assetFields.all fun entry => entry.2.isValid

def isDisabled (s : State N) : Bool :=
  s.isCalculatingTransactionFee || !s.isTransactionFeeCalculated || !s.isValid

/-- `none` when a selected asset has no field, on which the getter throws. -/
def selectedAssetsAmounts (s : State N) : Option (List String) :=
  s.selectedAssetUniqueIds.mapM fun uniqueId =>
    (s.assetField uniqueId).map fun field => formattedAmountToNaturalUnits field.value

/-- A component that is not mounted ignores `setState`. -/
def setState (s : State N) (f : State N → State N) : State N :=
  if s.isMounted then f s else s

end State

/-! ## Requests for a fee -/

section

variable {N : Type} [BigNumber N] (allAssets : List AssetToken)

/-- The arguments of a fee request; `none` when a selected asset is not there. -/
def payment (s : State N) : Option (Payment N) := do
  let assets ← s.selectedAssetUniqueIds.mapM fun uniqueId => do
    let asset ← allAssets.find? fun asset => asset.uniqueId = uniqueId
    let field ← s.assetField uniqueId
    -- the filter by quantity keeps every asset: a `BigNumber` is an object, hence truthy
    return ⟨asset.policyId, asset.assetName,
      BigNumber.ofString (formattedAmountToNaturalUnits field.value)⟩
  return ⟨s.receiver.value, feeAmount N s.bccAmount.value, assets⟩

def isLatestTransactionFeeRequest (current prev : ℕ) : Bool :=
  decide (current - prev = 1)

def emptyAssetFieldValue : String := "0"

/-- Up to the answer of the wallet. -/
def calculateTransactionFee (s : State N) : State N :=
  match s.selectedAssetsAmounts with
  | none => s
  | some amounts =>
      if !s.isValid || amounts.contains emptyAssetFieldValue then s
      else
        match payment allAssets s with
        | none => s
        | some payment =>
            let requested := s.setState fun s =>
              { s with
                feeCalculationRequestQue := s.feeCalculationRequestQue + 1
                isTransactionFeeCalculated := false
                transactionFee := BigNumber.ofNat 0 }
            { requested with
              isCalculatingTransactionFee := true
              requests := s.requests ++ [⟨payment, s.feeCalculationRequestQue, none⟩] }

def resetTransactionFee (s : State N) : State N :=
  if s.isMounted then
    { s with
      isCalculatingTransactionFee := false
      isTransactionFeeCalculated := false
      transactionFee := BigNumber.ofNat 0 }
  else s

/-- The answer is used, or the error when there is none. -/
def useResponse (s : State N) (request : FeeRequest N) (response : FeeResponse N) : State N :=
  if s.isMounted && isLatestTransactionFeeRequest s.feeCalculationRequestQue
      request.prevFeeCalculationRequestQue then
    match response, s.selectedAssetsAmounts with
    | .fee fee, some amounts =>
        if amounts.contains emptyAssetFieldValue then s
        else
          { s with
            isCalculatingTransactionFee := false
            isTransactionFeeCalculated := true
            transactionFee := fee }
    -- also when the amounts throw, inside the `try` block
    | _, _ => resetTransactionFee s
  else s

/-- `calculateTransactionFee()` from the answer on. -/
def feeAnswered (s : State N) (i : ℕ) (response : FeeResponse N) : Option (State N) :=
  match s.requests[i]? with
  | some ⟨payment, prev, none⟩ =>
      let request := ⟨payment, prev, some response⟩
      some (useResponse { s with requests := s.requests.set i request } request response)
  | _ => none

/-! ## Asset rows -/

def removeAssetFields (s : State N) (uniqueId : String) : State N :=
  { s with
    assetFields := s.assetFields.filter fun entry => entry.1 ≠ uniqueId
    removedFields := s.removedFields ++ s.assetFields.filter fun entry => entry.1 = uniqueId }

/-- A field of the same name is replaced. -/
def addAssetFields (s : State N) (uniqueId : String) : State N :=
  let removed := removeAssetFields s uniqueId
  { removed with assetFields := removed.assetFields ++ [(uniqueId, ⟨"", true⟩)] }

def addAssetRow (s : State N) (uniqueId : String) : State N :=
  let added := addAssetFields s uniqueId
  resetTransactionFee
    { added with selectedAssetUniqueIds := s.selectedAssetUniqueIds ++ [uniqueId] }

/-- Up to the timeout that calculates the fee. -/
def removeAssetRow (s : State N) (uniqueId : String) : State N :=
  let removed := removeAssetFields s uniqueId
  { removed with
    selectedAssetUniqueIds := s.selectedAssetUniqueIds.filter fun id => id ≠ uniqueId
    removals := s.removals + 1 }

/-- The await of `setState` in between is of no promise, so nothing the user does comes between. -/
def onChangeAsset (s : State N) (currentUniqueId newUniqueId : String) : State N :=
  if currentUniqueId = newUniqueId then s
  else
    let added := addAssetFields s newUniqueId
    let selectedAssetUniqueIds :=
      if s.selectedAssetUniqueIds.contains currentUniqueId then
        s.selectedAssetUniqueIds.set (s.selectedAssetUniqueIds.idxOf currentUniqueId) newUniqueId
      else s.selectedAssetUniqueIds ++ [newUniqueId]
    resetTransactionFee
      (removeAssetRow { added with selectedAssetUniqueIds := selectedAssetUniqueIds } currentUniqueId)

def clearAssetFieldValue (s : State N) (uniqueId : String) : State N :=
  resetTransactionFee (s.setValue (.asset uniqueId) "")

/-- The fields of the assets stay in the form, but no asset is selected. -/
def handleOnReset (s : State N) : State N :=
  { s with
    receiver := { s.receiver with value := "" }
    bccAmount := { s.bccAmount with value := "" }
    assetFields := s.assetFields.map fun entry => (entry.1, { entry.2 with value := "" })
    selectedAssetUniqueIds := [] }

/-! ## Validators -/

/-- A validator up to its await. -/
def validate (s : State N) (name : FieldName) (value : String) : State N :=
  if value = "" then resetTransactionFee s else { s with validating := s.validating ++ [name] }

/-- A validator from the answer of the wallet on. For an asset the answer includes that the amount is in the
    range of the wallet's quantity. -/
def validated (s : State N) (name : FieldName) (isValid : Bool) : State N :=
  match name with
  | .receiver =>
      if isValid && s.bccAmount.isValid then calculateTransactionFee allAssets s
      else resetTransactionFee s
  | .bccAmount => if isValid then calculateTransactionFee allAssets s else resetTransactionFee s
  | .asset uniqueId =>
      match allAssets.find? fun asset => asset.uniqueId = uniqueId with
      | none => s
      | some _ => if isValid then calculateTransactionFee allAssets s else resetTransactionFee s

/-! ## The form as a machine -/

def step (s : State N) : Event N → Option (State N)
  | .onChange name value =>
      if s.isMounted && (s.field name).isSome then some (s.setValue name value) else none
  | .setIsValid name isValid =>
      some (s.updateField name fun field => { field with isValid := isValid })
  | .validate name => (s.field name).map fun field => validate s name field.value
  | .validateRemoved i =>
      s.removedFields[i]?.map fun entry => validate s (.asset entry.1) entry.2.value
  | .validated i isValid =>
      s.validating[i]?.map fun name =>
        validated allAssets { s with validating := s.validating.eraseIdx i } name isValid
  | .feeAnswered i response => feeAnswered s i response
  | .addAssetRow uniqueId => if s.isMounted then some (addAssetRow s uniqueId) else none
  | .removeAssetRow uniqueId => if s.isMounted then some (removeAssetRow s uniqueId) else none
  | .removalTimeout =>
      if s.removals = 0 then none
      else some (calculateTransactionFee allAssets { s with removals := s.removals - 1 })
  | .onChangeAsset currentUniqueId newUniqueId =>
      if s.isMounted then some (onChangeAsset s currentUniqueId newUniqueId) else none
  | .clearAssetFieldValue uniqueId =>
      if s.isMounted then some (clearAssetFieldValue s uniqueId) else none
  | .handleOnReset => if s.isMounted then some (handleOnReset s) else none
  | .componentWillUnmount => some { s with isMounted := false }

variable (N) in
def machine : Machine (State N) (Event N) where
  init :=
    { receiver := ⟨"", true⟩
      bccAmount := ⟨"", true⟩
      assetFields := []
      selectedAssetUniqueIds := []
      feeCalculationRequestQue := 0
      transactionFee := BigNumber.ofNat 0
      isTransactionFeeCalculated := false
      isCalculatingTransactionFee := false
      isMounted := true
      requests := []
      validating := []
      removedFields := []
      removals := 0 }
  step := step allAssets

end

end Klarity.WalletSendForm
