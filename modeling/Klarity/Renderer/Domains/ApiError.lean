import Mathlib.Data.Int.Notation
import Mathlib.Data.List.Basic

set_option autoImplicit false

/-! # API errors

An error of the server is wrapped into an `ApiError`, which carries a message that can be shown. The wrapped
error is refined by a chain of calls: `set()` proposes another message, `where()` and `inc()` take it back
unless a field of the error has or contains a value, and `result()` decides. -/

namespace Klarity.ApiError

/-! ## Data -/

/-- A message that can be localized. -/
structure Message where
  id : String
  defaultMessage : String
  deriving DecidableEq, Repr

/-- The values that a field of an error can have. -/
inductive Value
  | string (value : String)
  | number (value : ℤ)
  | boolean (value : Bool)
  | null
  | array (elements : List Value)
  | object (fields : List (String × Value))

/-- An object by its fields. -/
abbrev Fields := String → Option Value

/-- The messages by their keys, and the conversions of `lodash`. -/
structure Dictionary where
  messages : String → Option Message
  camelCase : String → String
  snakeCase : String → String
  stringToPath : String → List String

/-- Of `additionalValues` only the keys are read. -/
structure State where
  tempError : String := ""
  clause : Bool := false
  forceSet : Bool := false
  additionalValues : List String := []
  isFinalError : Bool
  message : Message
  values : Fields
  code : Option Value

/-- What is thrown in the end. -/
structure Outcome where
  message : Message
  values : Fields
  code : Option Value

def genericApiError : Message :=
  ⟨"api.errors.GenericApiError", "!!!An error occurred."⟩

/-! ## Values -/

def Value.truthy : Value → Bool
  | .string value => value ≠ ""
  | .number value => value ≠ 0
  | .boolean value => value
  | .null => false
  | .array _ | .object _ => true

/-- `value === declaration` -/
def Value.isString (declaration : String) : Value → Bool
  | .string value => value = declaration
  | _ => false

/-- `indexOf()` of a string finds it. -/
def isPart (part value : String) : Bool :=
  value.toList.tails.any part.toList.isPrefixOf

/-- `includes()` of `lodash`: a part of a string, an element of an array, a value of an object. -/
def Value.includes (declaration : String) : Value → Bool
  | .string value => isPart declaration value
  | .array elements => elements.any (isString declaration)
  | .object fields => fields.any fun field => isString declaration field.2
  | _ => false

/-- A property of a value. -/
def Value.property : Value → String → Option Value
  | .object fields, key => fields.lookup key
  | .array elements, key => key.toNat?.bind fun index => elements[index]?
  | _, _ => none

def Message.toValue (message : Message) : Value :=
  .object [("id", .string message.id), ("defaultMessage", .string message.defaultMessage)]

/-! ## The calls -/

variable (d : Dictionary)

/-- `get()` of `lodash`: a key of the object, or a path into it. -/
def get (values : Fields) (type : String) : Option Value :=
  match values type, d.stringToPath type with
  | some value, _ => some value
  | none, [] => none
  | none, key :: path => path.foldl (fun value key => value.bind (·.property key)) (values key)

/-- The localized message of the code of an error. -/
def localizableError (error : Fields) : Option Message :=
  match error "code" with
  | some (.string code) => if code = "" then none else d.messages (d.camelCase code)
  | _ => none

/-- The constructor. -/
def new (error : Fields) : State :=
  match localizableError d error with
  | some message => { isFinalError := true, message := message, values := error, code := error "code" }
  | none =>
      { isFinalError := false, message := genericApiError, values := error, code := error "code" }

/-- A value that names a message is replaced by the message. -/
def translate : Value → Value
  | .string value =>
      match d.messages value with
      | some message => message.toValue
      | none => .string value
  | value => value

def addValues (s : State) (values : List (String × Value)) : State :=
  let transformedValues := values.map fun (key, value) => (key, translate d value)
  { s with
    additionalValues := transformedValues.map (·.1)
    values := fun key => (transformedValues.reverse.lookup key).or (s.values key) }

def set (s : State) (predefinedError : String) (force : Bool) (values : Option (List (String × Value))) :
    State :=
  let proposed :=
    if predefinedError ≠ "" && !s.clause && (!s.isFinalError || (s.isFinalError && force)) then
      { s with tempError := predefinedError, clause := true, forceSet := force }
    else { s with clause := false }
  match values with
  | some values => if proposed.clause then addValues d proposed values else proposed
  | none => proposed

/-- `where()` -/
def whereIs (s : State) (type declaration : String) : State :=
  if s.clause && (!s.isFinalError || (s.isFinalError && s.forceSet)) then
    if (s.values type).any (Value.isString declaration) then s
    else
      { s with
        clause := false
        tempError := ""
        values := fun key => if key ∈ s.additionalValues then none else s.values key
        forceSet := false }
  else s

/-- `inc()` -/
def inc (s : State) (type declaration : String) : State :=
  let fullMessage := (get d s.values type).getD (.string "")
  if s.clause && !s.isFinalError && fullMessage.truthy then
    if fullMessage.includes declaration then s else { s with clause := false, tempError := "" }
  else s

/-- A fallback without a message throws. -/
def result (s : State) (fallbackError : String) : Option Outcome :=
  if s.isFinalError && !s.forceSet then some ⟨s.message, s.values, s.code⟩
  else
    match if s.tempError = "" then none else d.messages s.tempError with
    | some message => some ⟨message, s.values, s.values "code"⟩
    | none =>
        if fallbackError = "" then some ⟨genericApiError, s.values, none⟩
        else (d.messages fallbackError).map fun message =>
          ⟨message, s.values, some (.string (d.snakeCase fallbackError))⟩

/-! ## Chains -/

inductive Condition
  | whereIs (type declaration : String)
  | inc (type declaration : String)
  deriving DecidableEq, Repr

/-- A `set()` with the conditions that follow it. -/
structure Clause where
  predefinedError : String
  force : Bool
  conditions : List Condition
  deriving DecidableEq, Repr

def Condition.run (s : State) : Condition → State
  | .whereIs type declaration => ApiError.whereIs s type declaration
  | .inc type declaration => ApiError.inc d s type declaration

def Clause.run (s : State) (clause : Clause) : State :=
  clause.conditions.foldl (Condition.run d) (set d s clause.predefinedError clause.force none)

/-- A chain from the constructor to `result()`; no fallback is the empty one. -/
def throws (error : Fields) (chain : List Clause) (fallbackError : String) : Option Outcome :=
  result d (chain.foldl (Clause.run d) (new d error)) fallbackError

end Klarity.ApiError
