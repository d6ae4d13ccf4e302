import OnePass.Callback
import OnePass.Formula
import OnePass.Scalar

namespace OnePass.Formula

/-!
# Callbacks from formulas

A formula becomes a callback on values of any type: the callback shows its
arguments to the formula as JSON and reads its result from JSON.  A formula sees
the context only if its callback is to receive it.
-/

variable {context element : ValueType Scalar}

/-- Values of the base types that come with the library. -/
abbrev Plain (type : ValueType Scalar) : Type :=
  type.Value Scalar.Value

/--
The callback that binds its arguments to the variables of the formula, evaluates
it, and reads the result.
-/
def callback
    {α β : Type}
    (contextual : Bool)
    (bind : α → Nat → Json → Bindings)
    (result : Json → β)
    (context : ValueType Scalar)
    (formula : Formula) :
    Callback String (Plain context) α β :=
  if contextual then
    .contextual fun value index environment =>
      (formula.eval (bind value index (context.view environment))).map result
  else
    .plain fun value index =>
      (formula.eval (bind value index .null)).map result

/-- What the variables stand for when an element is visited. -/
def visit
    (element : ValueType Scalar)
    (value : Plain element)
    (index : Nat)
    (environment : Json) :
    Bindings where
  value := element.view value
  index := .int index
  context := environment
  accumulator := .null

/-- What the variables stand for when an element is folded into an accumulator. -/
def fold
    (accumulator element : ValueType Scalar)
    (value : Plain accumulator × Plain element)
    (index : Nat)
    (environment : Json) :
    Bindings where
  value := element.view value.2
  index := .int index
  context := environment
  accumulator := accumulator.view value.1

/-- A predicate accepts an element if the formula yields exactly `true`. -/
def predicate
    (formula : Formula)
    (contextual : Bool) :
    Callback String (Plain context) (Plain element) Bool :=
  callback contextual (visit element) Json.isTrue context formula

/-- A mapper yields what the formula does, converted to the type asked for. -/
def mapper
    (formula : Formula)
    (contextual : Bool)
    (after : ValueType Scalar) :
    Callback String (Plain context) (Plain element) (Plain after) :=
  callback contextual (visit element) after.read context formula

/-- An effect drops what the formula yields. -/
def effect
    (formula : Formula)
    (contextual : Bool) :
    Callback String (Plain context) (Plain element) Unit :=
  callback contextual (visit element) (fun _ => ()) context formula

/-- A reducer yields the next accumulator. -/
def reducer
    (formula : Formula)
    (contextual : Bool)
    (accumulator : ValueType Scalar) :
    Callback String (Plain context)
      (Plain accumulator × Plain element) (Plain accumulator) :=
  callback contextual (fold accumulator element) accumulator.read context formula

end OnePass.Formula
