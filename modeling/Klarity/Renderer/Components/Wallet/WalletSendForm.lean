import Klarity.Renderer.Utils.Formatters

set_option autoImplicit false

/-! # Amounts in the send form

The field of the form holds an amount as a plain decimal numeral. Three paths lead from it to a number of
entropics: the validator of the field takes the digits, the fee is calculated for the product of the
amount with a million, and what is sent are the digits of the amount as the confirmation dialog shows it,
in the number format of the profile. -/

namespace Klarity

open Decimal (Format)

open JsNumber (parseInt)

/-- `NUMBER_FORMATS` -/
def numberFormats : List (String × Format) :=
  [("number-1", ⟨',', '.'⟩), ("number-2", ⟨'.', ','⟩), ("number-3", ⟨' ', '.'⟩)]

/-- Natural units keep no separator of a number format. -/
theorem isKept_separators {format : Format} (hformat : format ∈ numberFormats.map Prod.snd) :
    isKept format.groupSeparator = false ∧ isKept format.decimalSeparator = false := by
  revert format
  decide

section

variable (N : Type) [BigNumber N]

/-- `isInt` stands for the function of the package `validator` with `allow_leading_zeroes: false`. -/
def isValidAmountInEntropics (isInt : String → Bool) (value : String) : Bool :=
  if !isInt value then false
  else
    let numericValue : N := BigNumber.ofString value
    let minValue : N := BigNumber.ofNat 1
    let maxValue : N := BigNumber.ofNat 45000000000000000
    BigNumber.isGreaterThanOrEqualTo numericValue minValue &&
      BigNumber.isLessThanOrEqualTo numericValue maxValue

namespace WalletSendForm

/-- The validator of the field `bccAmount`, with the id of the message that it gives; `null` is treated as
    the empty string is. -/
def validateBccAmount (isInt : String → Bool) (value : String) : Bool × String :=
  if value = "" then (false, "global.errors.fieldIsRequired")
  else
    (isValidAmountInEntropics N isInt (formattedAmountToNaturalUnits value),
      "wallet.send.form.errors.invalidAmount")

/-- The amount that `calculateTransactionFee` passes on. -/
def feeAmount (value : String) : Option ℤ := formattedAmountToEntropic N value

/-- The amount in the confirmation dialog. -/
def dialogAmount (format : Format) (value : String) : String :=
  let bccAmount : N := if value ≠ "" then BigNumber.ofString value else BigNumber.ofNat 0
  BigNumber.toFormat bccAmount decimalPlacesInBcc format

/-- The amount that `_sendMoney` is given by the dialog, and submits. -/
def submittedAmount (format : Format) (value : String) : Option ℤ :=
  parseInt (formattedAmountToNaturalUnits (dialogAmount N format value))

end WalletSendForm

end

end Klarity
