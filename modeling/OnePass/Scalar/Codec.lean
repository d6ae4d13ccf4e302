import OnePass.Scalar
import OnePass.Seed

namespace OnePass

/-!
# Embedding typed values

How values of the types built from the base types are written as JSON and read
back.  Three things are written as null: the unit, a missing optional value, and
a floating-point number that is not finite.  An optional value that is present is
written as what it holds, so that null is where embedding can lose a value: silently
where an optional value is expected, with a reason anywhere else.
-/

namespace Json

/-- How a value of an unexpected kind is named. -/
def unexpected : Json → String
  | .null => "null"
  | .bool value => "boolean `" ++ toString value ++ "`"
  | .int value => "integer `" ++ toString value ++ "`"
  | .float value => "floating point `" ++ text (.float value) ++ "`"
  | .string value => "string " ++ quoted value
  | .array _ => "sequence"
  | .object _ => "map"

/-- The reason for which a value of the wrong kind is refused. -/
def mismatch (found : Json) (expected : String) : String :=
  "invalid type: " ++ found.unexpected ++ ", expected " ++ expected

end Json

namespace Scalar

/-- Why an integer cannot be written. -/
def outOfRange : String :=
  "number out of range"

/-- Why a value cannot be the key of a map. -/
def keyNotText : String :=
  "key must be a string"

/-- Why a floating-point number cannot be the key of a map. -/
def keyNotFinite : String :=
  "float key must be finite (got NaN or +/-inf)"

/-- Why a text cannot be read as a number that is the key of a map. -/
def keyNotNumber : String :=
  "invalid value: expected key to be a number in quotes"

/-- Write an integer, if one of the two 64-bit words holds it. -/
def encodeInt (value : Int) : Except String Json :=
  if Word.holdsSigned value || Word.holdsUnsigned value then .ok (.int value)
  else .error outOfRange

/-- Write a value of a base type. -/
def encode : (name : Scalar) → name.Value → Except String Json
  | .int64, value => .ok (.int value.toInt)
  | .uint64, value => .ok (.int value.toNat)
  | .int128, value => encodeInt value
  | .uint128, value => encodeInt (value : Nat)
  | .float, value => .ok (if value.isFinite then .float value else .null)
  | .character, value => .ok (.string (String.singleton value))
  | .transient, value => .ok (.object [("kept", .int value.kept.toInt)])

/-- Read a value of a base type. -/
def decode : (name : Scalar) → Json → Except String name.Value
  | .int64, found =>
      match found.int64? with
      | some value => .ok (Int64.ofInt value)
      | none => .error (found.mismatch "i64")
  | .uint64, found =>
      match found.uint64? with
      | some value => .ok (UInt64.ofNat value)
      | none => .error (found.mismatch "u64")
  | .int128, .int value => .ok value
  | .int128, found => .error (found.mismatch "i128")
  | .uint128, .int value => .ok value.toNat
  | .uint128, found => .error (found.mismatch "u128")
  | .float, .float value => .ok value
  | .float, .int value => .ok (.ofInt value)
  | .float, found => .error (found.mismatch "f64")
  | .character, .string text =>
      match text.toList with
      | [only] => .ok only
      | _ => .error ("invalid value: string " ++ Json.quoted text ++
          ", expected a character")
  | .character, found => .error (found.mismatch "a character")
  | .transient, found =>
      match (found.member? "kept").bind Json.int64? with
      | some kept => .ok ⟨Int64.ofInt kept, 0⟩
      | none => .error "missing field `kept`"

/-- Equality of two values of a base type, numerical for floating-point numbers. -/
def same : (name : Scalar) → name.Value → name.Value → Bool
  | .int64, left, right => left == right
  | .uint64, left, right => left == right
  | .int128, left, right => left == right
  | .uint128, left, right => left == right
  | .float, left, right => left.same right
  | .character, left, right => left == right
  | .transient, left, right => left == right

/-- Write a value of a base type as the key of a map. -/
def encodeKey : (name : Scalar) → name.Value → Except String String
  | .int64, value => .ok (toString value.toInt)
  | .uint64, value => .ok (toString value.toNat)
  | .int128, value => .ok (toString value)
  | .uint128, value => .ok (toString value)
  | .float, value =>
      if value.isFinite then .ok (Json.numberLayout.text value)
      else .error keyNotFinite
  | .character, value => .ok (String.singleton value)
  | .transient, _ => .error keyNotText

/-- Read a value of a base type from the key of a map. -/
def decodeKey : (name : Scalar) → String → Except String name.Value
  | .character, key => decode .character (.string key)
  | .transient, _ => .error keyNotText
  | name, key =>
      match Json.parse? key with
      | some (.int value) => decode name (.int value)
      | some (.float value) => decode name (.float value)
      | _ => .error keyNotNumber

end Scalar

namespace ValueType

/-- Write a value as the key of a map. -/
def encodeKey : (type : ValueType Scalar) → type.Value Scalar.Value → Except String String
  | .base name, value => name.encodeKey value
  | .truth, value => .ok (if value then "true" else "false")
  | .text, value => .ok value
  | .position, value => .ok (toString (value : Nat))
  | .json, .string name => .ok name
  | _, _ => .error Scalar.keyNotText

/-- Read a value from the key of a map. -/
def decodeKey : (type : ValueType Scalar) → String → Except String (type.Value Scalar.Value)
  | .base name, key => name.decodeKey key
  | .truth, "true" => .ok true
  | .truth, "false" => .ok false
  | .text, key => .ok key
  | .position, key =>
      match (Json.parse? key).bind Json.uint64? with
      | some value => .ok value
      | none => .error Scalar.keyNotNumber
  | .json, key => .ok (.string key)
  | _, _ => .error Scalar.keyNotText

/-- Write a value. -/
def encode : (type : ValueType Scalar) → type.Value Scalar.Value → Except String Json
  | .base name, value => name.encode value
  | .unit, _ => .ok .null
  | .truth, value => .ok (.bool value)
  | .text, value => .ok (.string value)
  | .position, value => .ok (.int (value : Nat))
  | .json, value => .ok value
  | .optional _, none => .ok .null
  | .optional inner, some value => inner.encode value
  | .list inner, items => (items.mapM inner.encode).map .array
  | .pair first second, (left, right) => do
      let left ← first.encode left
      let right ← second.encode right
      .ok (.array [left, right])
  | .map key value, entries => do
      let members ← entries.mapM fun (name, item) => do
        let name ← key.encodeKey name
        let item ← value.encode item
        .ok (name, item)
      .ok (.ofMembers members)

/-- Read a value. -/
def decode : (type : ValueType Scalar) → Json → Except String (type.Value Scalar.Value)
  | .base name, found => name.decode found
  | .unit, .null => .ok ()
  | .unit, found => .error (found.mismatch "unit")
  | .truth, .bool value => .ok value
  | .truth, found => .error (found.mismatch "a boolean")
  | .text, .string value => .ok value
  | .text, found => .error (found.mismatch "a string")
  | .position, found =>
      match found.uint64? with
      | some value => .ok value
      | none => .error (found.mismatch "a position")
  | .json, found => .ok found
  | .optional _, .null => .ok none
  | .optional inner, found => (inner.decode found).map some
  | .list inner, .array items => items.mapM inner.decode
  | .list _, found => .error (found.mismatch "a sequence")
  | .pair first second, .array [left, right] => do
      let left ← first.decode left
      let right ← second.decode right
      .ok (left, right)
  | .pair _ _, found => .error (found.mismatch "a tuple of size 2")
  | .map key value, .object members => do
      let entries ← members.mapM fun (name, item) => do
        let name ← key.decodeKey name
        let item ← value.decode item
        .ok (name, item)
      .ok (ofEntries entries)
  | .map _ _, found => .error (found.mismatch "a map")

/-- Item by item equality of two lists of equal length. -/
def sameList {α : Type} (same : α → α → Bool) : List α → List α → Bool
  | [], [] => true
  | left :: leftRest, right :: rightRest =>
      same left right && sameList same leftRest rightRest
  | _, _ => false

/--
Equality of two values; maps are equal if they have the same keys with equal
values.
-/
def same : (type : ValueType Scalar) → (left right : type.Value Scalar.Value) → Bool
  | .base name, left, right => name.same left right
  | .unit, _, _ => true
  | .truth, left, right => left == right
  | .text, left, right => left == right
  | .position, left, right => (left : Nat) == right
  | .json, left, right => Json.same left right
  | .optional _, none, none => true
  | .optional inner, some left, some right => inner.same left right
  | .optional _, _, _ => false
  | .list inner, left, right => sameList inner.same left right
  | .pair first second, (leftFirst, leftSecond), (rightFirst, rightSecond) =>
      first.same leftFirst rightFirst && second.same leftSecond rightSecond
  | .map key value, left, right =>
      left.length == right.length &&
        left.all fun (name, item) =>
          right.any fun (otherName, other) =>
            (key.view name).same (key.view otherName) && value.same item other

/-- The codec of a type; it never aborts. -/
def codec (ε : Type) (type : ValueType Scalar) :
    Codec ε (type.Value Scalar.Value) where
  encode := fun value => .ok (type.encode value)
  decode := fun found => .ok (type.decode found)
  same := type.same

end ValueType

end OnePass
