import OnePass.Binary64
import OnePass.Word

namespace OnePass

/-!
# JSON values

The dynamic values that pipelines may carry and the format that reduce seeds
are embedded in.  A number is an integer or a floating-point word, and an integer
never equals a floating-point number.  The members of an object stand in
ascending order of their keys, each key once.
-/

/-- A JSON value. -/
inductive Json where
  | null
  | bool (value : Bool)
  | int (value : Int)
  | float (value : Binary64)
  | string (value : String)
  | array (items : List Json)
  | object (members : List (String × Json))

namespace Json

instance : Inhabited Json :=
  ⟨.null⟩

/-- The kind of a value, as a rejected input names it. -/
def kind : Json → String
  | .null => "null"
  | .bool _ => "boolean"
  | .int _ => "number"
  | .float _ => "number"
  | .string _ => "string"
  | .array _ => "array"
  | .object _ => "object"

mutual

/-- Structural equality, floating-point numbers being compared numerically. -/
def same : Json → Json → Bool
  | .null, .null => true
  | .bool left, .bool right => left == right
  | .int left, .int right => left == right
  | .float left, .float right => left.same right
  | .string left, .string right => left == right
  | .array left, .array right => sameItems left right
  | .object left, .object right => sameMembers left right
  | _, _ => false

/-- Item by item equality of two lists of equal length. -/
def sameItems : List Json → List Json → Bool
  | [], [] => true
  | left :: leftRest, right :: rightRest =>
      same left right && sameItems leftRest rightRest
  | _, _ => false

/-- Equality of two objects, member by member. -/
def sameMembers : List (String × Json) → List (String × Json) → Bool
  | [], [] => true
  | (leftKey, left) :: leftRest, (rightKey, right) :: rightRest =>
      leftKey == rightKey && same left right && sameMembers leftRest rightRest
  | _, _ => false

end

/-- Put a member in its place by key, replacing an earlier one of the same key. -/
def insertMember (key : String) (value : Json) :
    List (String × Json) → List (String × Json)
  | [] => [(key, value)]
  | (otherKey, other) :: rest =>
      if key < otherKey then (key, value) :: (otherKey, other) :: rest
      else if key = otherKey then (key, value) :: rest
      else (otherKey, other) :: insertMember key value rest

/-- The object with the given members; of two with one key the later stays. -/
def ofMembers (members : List (String × Json)) : Json :=
  .object (members.foldl (fun sorted member =>
    insertMember member.1 member.2 sorted) [])

/-- The member of an object under a key. -/
def member? (key : String) : Json → Option Json
  | .object members => members.lookup key
  | _ => none

/-- The items of an array. -/
def items? : Json → Option (List Json)
  | .array items => some items
  | _ => none

/-- An integer that a signed 64-bit word holds. -/
def int64? : Json → Option Int
  | .int value => if Word.holdsSigned value then some value else none
  | _ => none

/-- An integer that an unsigned 64-bit word holds. -/
def uint64? : Json → Option Nat
  | .int value => if Word.holdsUnsigned value then some value.toNat else none
  | _ => none

/-- Whether the value is exactly `true`. -/
def isTrue : Json → Bool
  | .bool value => value
  | _ => false

end Json

end OnePass
