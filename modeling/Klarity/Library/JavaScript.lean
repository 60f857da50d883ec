import Mathlib.Logic.Basic

set_option autoImplicit false

/-! # JavaScript values and promises

The parts of the language that the models of message passing rest on: values of which only
`undefined`, the booleans and truthiness matter, and the attempts made at settling a promise. -/

/-- A type of JavaScript values: `undefined` and the booleans are among them, and every value is
    either truthy or falsy. -/
class JsValue (V : Type) where
  undefined : V
  ofBool : Bool → V
  truthy : V → Bool
  truthy_ofBool : ∀ b, truthy (ofBool b) = b

attribute [simp] JsValue.truthy_ofBool

/-- Booleans and `undefined` alone, the smallest type of values. -/
instance : JsValue (Option Bool) where
  undefined := none
  ofBool := some
  truthy v := v = some true
  truthy_ofBool b := by cases b <;> rfl

/-- How an asynchronous computation ends: it resolves with a value or rejects with one. -/
abbrev Outcome (V : Type) := Except V V

/-- The arguments `isOk, payload` that report an outcome. -/
def Outcome.args {V : Type} [JsValue V] : Outcome V → V × V
  | .ok response => (JsValue.ofBool true, response)
  | .error error => (JsValue.ofBool false, error)

/-- The outcome that the arguments `isOk, payload` report: `isOk` is only tested for truthiness. -/
def Outcome.ofArgs {V : Type} [JsValue V] (args : V × V) : Outcome V :=
  if JsValue.truthy args.1 then .ok args.2 else .error args.2

@[simp] theorem Outcome.ofArgs_args {V : Type} [JsValue V] (o : Outcome V) :
    Outcome.ofArgs o.args = o := by
  cases o <;> simp [Outcome.ofArgs, Outcome.args]
