import OnePass.Json.Text

namespace OnePass

/-!
# Formulas

A formula is a callback written down as data: an expression over the value it is
called on, the visible index, the context and the accumulator.  Formulas compute
with JSON values; an operation whose arguments do not suit it yields null, and
only an explicit failure aborts.  Operands are evaluated from left to right; what
is pushed is evaluated only if there is an array to push it to.
-/

/-- An operation on two integers. -/
inductive Arithmetic where
  | add
  | sub
  | mul
  | mod

/-- An expression of the callback language. -/
inductive Formula where
  | value
  | index
  | context
  | accumulator
  | constant (value : Json)
  | arithmetic (operation : Arithmetic) (left right : Formula)
  | equal (left right : Formula)
  | less (left right : Formula)
  | negation (operand : Formula)
  | all (operands : List Formula)
  | any (operands : List Formula)
  | choose (test positive negative : Formula)
  | get (container key : Formula)
  | size (operand : Formula)
  | array (items : List Formula)
  /-- Keys and values in turn. -/
  | object (parts : List Formula)
  | concat (operands : List Formula)
  | push (container item : Formula)
  | hasForm (operand : Formula) (form : String)
  | fail (message : String)

/-- What the variables of a formula stand for. -/
structure Bindings where
  value : Json
  index : Json
  context : Json
  accumulator : Json

namespace Json

/-- The form of a value: its kind, with integers and floating-point numbers apart. -/
def form : Json → String
  | .null => "null"
  | .bool _ => "bool"
  | .int _ => "int"
  | .float _ => "float"
  | .string _ => "string"
  | .array _ => "array"
  | .object _ => "object"

/-- A member of an object by its key, or an item of an array by its position. -/
def get : (container key : Json) → Json
  | .object members, .string key => (members.lookup key).getD .null
  | .array items, key =>
      match key.uint64? with
      | some position => items.getD position .null
      | none => .null
  | _, _ => .null

/-- The number of characters, items or members. -/
def size : Json → Json
  | .string text => .int text.length
  | .array items => .int items.length
  | .object members => .int members.length
  | _ => .null

/-- Strings in the order of their characters, signed words by size, nothing else. -/
def less : (left right : Json) → Bool
  | .string left, .string right => left < right
  | left, right =>
      match left.int64?, right.int64? with
      | some left, some right => left < right
      | _, _ => false

/-- The object of keys and values that stand in turn; a key is a plain text. -/
def ofParts : List Json → List (String × Json)
  | key :: value :: rest => (key.plainText, value) :: ofParts rest
  | _ => []

end Json

/--
Signed 64-bit arithmetic, which wraps around; the remainder is never negative.
There is none by zero.
-/
def Arithmetic.apply : Arithmetic → (left right : Int) → Json
  | .add, left, right => .int (Word.wrap (left + right))
  | .sub, left, right => .int (Word.wrap (left - right))
  | .mul, left, right => .int (Word.wrap (left * right))
  | .mod, left, right => if right = 0 then .null else .int (left.emod right)

/-- An operation on two values; null unless both are signed 64-bit integers. -/
def Arithmetic.onJson
    (operation : Arithmetic)
    (left right : Json) :
    Json :=
  match left.int64?, right.int64? with
  | some left, some right => operation.apply left right
  | _, _ => .null

namespace Formula

mutual

/-- The value of a formula, or the message it aborts with. -/
def eval (bindings : Bindings) : Formula → Except String Json
  | .value => .ok bindings.value
  | .index => .ok bindings.index
  | .context => .ok bindings.context
  | .accumulator => .ok bindings.accumulator
  | .constant given => .ok given
  | .arithmetic operation left right => do
      let left ← eval bindings left
      let right ← eval bindings right
      .ok (operation.onJson left right)
  | .equal left right => do
      let left ← eval bindings left
      let right ← eval bindings right
      .ok (.bool (left.same right))
  | .less left right => do
      let left ← eval bindings left
      let right ← eval bindings right
      .ok (.bool (left.less right))
  | .negation operand => do
      let operand ← eval bindings operand
      .ok (.bool (!operand.isTrue))
  | .all operands => do
      let holds ← evalAll bindings operands
      .ok (.bool holds)
  | .any operands => do
      let holds ← evalAny bindings operands
      .ok (.bool holds)
  | .choose test positive negative => do
      let test ← eval bindings test
      if test.isTrue then eval bindings positive else eval bindings negative
  | .get container key => do
      let container ← eval bindings container
      let key ← eval bindings key
      .ok (container.get key)
  | .size operand => do
      let operand ← eval bindings operand
      .ok operand.size
  | .array items => do
      let items ← evalEach bindings items
      .ok (.array items)
  | .object parts => do
      let parts ← evalEach bindings parts
      .ok (.ofMembers (Json.ofParts parts))
  | .concat operands => do
      let operands ← evalEach bindings operands
      .ok (.string (String.join (operands.map Json.plainText)))
  | .push container item => do
      let container ← eval bindings container
      match container with
      | .array items =>
          let item ← eval bindings item
          .ok (.array (items ++ [item]))
      | _ => .ok .null
  | .hasForm operand form => do
      let operand ← eval bindings operand
      .ok (.bool (operand.form == form))
  | .fail message => .error message

/-- The values of several formulas, from left to right. -/
def evalEach (bindings : Bindings) : List Formula → Except String (List Json)
  | [] => .ok []
  | first :: rest => do
      let first ← eval bindings first
      let rest ← evalEach bindings rest
      .ok (first :: rest)

/-- Whether every formula is true, up to the first that is not. -/
def evalAll (bindings : Bindings) : List Formula → Except String Bool
  | [] => .ok true
  | first :: rest => do
      let first ← eval bindings first
      if first.isTrue then evalAll bindings rest else .ok false

/-- Whether some formula is true, up to the first that is. -/
def evalAny (bindings : Bindings) : List Formula → Except String Bool
  | [] => .ok false
  | first :: rest => do
      let first ← eval bindings first
      if first.isTrue then .ok true else evalAny bindings rest

end

/-- The variable or constant that a string of the written form stands for. -/
def ofName (name : String) : Formula :=
  match name with
  | "v" => .value
  | "i" => .index
  | "c" => .context
  | "a" => .accumulator
  | other => .constant (.string other)

/--
The operation of a name on its operands, which are given both as they are
written and as formulas; an unknown operation is the constant null.
-/
def ofOperation
    (name : String)
    (written : List Json)
    (operands : List Formula) :
    Formula :=
  match name, operands with
  | "lit", _ => .constant (written.headD .null)
  | "fail", _ => .fail (written.headD .null).plainText
  | "add", [left, right] => .arithmetic .add left right
  | "sub", [left, right] => .arithmetic .sub left right
  | "mul", [left, right] => .arithmetic .mul left right
  | "mod", [left, right] => .arithmetic .mod left right
  | "eq", [left, right] => .equal left right
  | "lt", [left, right] => .less left right
  | "not", [operand] => .negation operand
  | "and", operands => .all operands
  | "or", operands => .any operands
  | "if", [test, positive, negative] => .choose test positive negative
  | "get", [container, key] => .get container key
  | "len", [operand] => .size operand
  | "arr", items => .array items
  | "obj", parts => .object parts
  | "cat", operands => .concat operands
  | "push", [container, item] => .push container item
  | "is", operand :: _ => .hasForm operand (written.getD 1 .null).plainText
  | _, _ => .constant .null

mutual

/-- The formula that a JSON value writes down. -/
def ofJson : Json → Formula
  | .string name => ofName name
  | .array items =>
      match items, ofJsonItems items with
      | .string name :: written, _ :: operands => ofOperation name written operands
      | _, _ => .constant .null
  | other => .constant other

/-- The formulas that the items of an array write down. -/
def ofJsonItems : List Json → List Formula
  | [] => []
  | first :: rest => ofJson first :: ofJsonItems rest

end

end Formula

end OnePass
