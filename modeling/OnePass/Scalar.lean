import OnePass.Json.Text
import OnePass.Json.Reader
import OnePass.ValueType

namespace OnePass

/-!
# The base types

The base types that come with the library, and how values of every type built
from them are shown as JSON and read from it.  A floating-point number is shown by
its bits, since JSON has no text for all of them.
-/

/-- The names of the base types. -/
inductive Scalar where
  | int64
  | uint64
  | int128
  | uint128
  | float
  | character
  | transient
  deriving DecidableEq

/-- A record of which only one field is meant to last. -/
structure Transient where
  kept : Int64
  lost : Int64
  deriving DecidableEq

namespace Scalar

/-- The values of a base type. -/
@[reducible] def Value : Scalar → Type
  | .int64 => Int64
  | .uint64 => UInt64
  | .int128 => Int
  | .uint128 => Nat
  | .float => Binary64
  | .character => Char
  | .transient => Transient

end Scalar

namespace Json

/-- The signed word of a number, or zero. -/
def int64 (found : Json) : Int64 :=
  Int64.ofInt (found.int64?.getD 0)

/-- The integer that a decimal text spells, or zero. -/
def spelledInt : Json → Int
  | .string text =>
      match text.toList with
      | '-' :: digits => -(decimalValue digits : Int)
      | digits => (decimalValue digits : Int)
  | _ => 0

end Json

namespace Binary64

/-- The bits as sixteen hexadecimal digits after their mark. -/
def hexText (word : Binary64) : String :=
  let digits := (List.range 16).reverse.map fun place =>
    Json.hexDigit (word.bits.toNat / Nat.pow 16 place % 16)
  "0x" ++ String.ofList digits

/--
The word whose bits a text spells in hexadecimal digits after the mark, where a
plus sign may precede them; zero if it spells none, or a number too large.
-/
def ofHexText (text : String) : Binary64 :=
  let bits? :=
    match text.toList with
    | '0' :: 'x' :: '+' :: digits => Json.hexNumber? digits
    | '0' :: 'x' :: digits => Json.hexNumber? digits
    | _ => none
  match bits? with
  | some bits => if bits < Word.count then ⟨UInt64.ofNat bits⟩ else .zero false
  | none => .zero false

/--
Numbers for display: always positional, nothing after a number without a
fraction, and a tie between two nearest decimals goes up.
-/
def displayLayout : Decimal.Layout where
  tie := .upward
  positional := fun _ => true
  wholeEnding := ""
  notNumber := "NaN"
  infinite := "inf"

end Binary64

namespace Scalar

/-- A value of a base type as JSON. -/
def view : (name : Scalar) → name.Value → Json
  | .int64, value => .int value.toInt
  | .uint64, value => .int value.toNat
  | .int128, value => .string (toString value)
  | .uint128, value => .string (toString value)
  | .float, value => .string value.hexText
  | .character, value => .string (String.singleton value)
  | .transient, value =>
      .object [("kept", .int value.kept.toInt), ("lost", .int value.lost.toInt)]

/-- The value of a base type that a JSON value gives. -/
def read : (name : Scalar) → Json → name.Value
  | .int64, found => found.int64
  | .uint64, found => UInt64.ofNat (found.uint64?.getD 0)
  | .int128, found => found.spelledInt
  | .uint128, found => found.spelledInt.toNat
  | .float, .string text => .ofHexText text
  | .float, _ => .zero false
  | .character, found => found.plainText.toList.headD ' '
  | .transient, found =>
      { kept := ((found.member? "kept").getD .null).int64
        lost := ((found.member? "lost").getD .null).int64 }

/-- The display form of a value of a base type. -/
def display : (name : Scalar) → name.Value → String
  | .int64, value => toString value.toInt
  | .uint64, value => toString value.toNat
  | .int128, value => toString value
  | .uint128, value => toString value
  | .float, value => Binary64.displayLayout.text value
  | .character, value => String.singleton value
  | .transient, value => (view .transient value).text

end Scalar

namespace ValueType

/-- A value as JSON; a map is shown by the number of its entries. -/
def view : (type : ValueType Scalar) → type.Value Scalar.Value → Json
  | .base name, value => name.view value
  | .unit, _ => .null
  | .truth, value => .bool value
  | .text, value => .string value
  | .position, value => .int (value : Nat)
  | .json, value => value
  | .optional _, none => .null
  | .optional inner, some value => .object [("some", inner.view value)]
  | .list inner, items => .array (items.map inner.view)
  | .pair first second, (left, right) =>
      .array [first.view left, second.view right]
  | .map _ _, entries => .int entries.length

/-- Put an entry under a key, replacing the entry that was there. -/
def putEntry
    {key value : ValueType Scalar}
    (name : key.Value Scalar.Value)
    (item : value.Value Scalar.Value) :
    List (key.Value Scalar.Value × value.Value Scalar.Value) →
      List (key.Value Scalar.Value × value.Value Scalar.Value)
  | [] => [(name, item)]
  | (otherName, other) :: rest =>
      if (key.view name).same (key.view otherName) then (name, item) :: rest
      else (otherName, other) :: putEntry name item rest

/-- The map with the given entries; of two under one key the later stays. -/
def ofEntries
    {key value : ValueType Scalar}
    (entries : List (key.Value Scalar.Value × value.Value Scalar.Value)) :
    List (key.Value Scalar.Value × value.Value Scalar.Value) :=
  entries.foldl (fun put entry => putEntry entry.1 entry.2 put) []

/-- The value of a type that a JSON value gives; a text is its plain text. -/
def read : (type : ValueType Scalar) → Json → type.Value Scalar.Value
  | .base name, found => name.read found
  | .unit, _ => ()
  | .truth, found => found.isTrue
  | .text, found => found.plainText
  | .position, found => found.uint64?.getD 0
  | .json, found => found
  | .optional inner, found => (found.member? "some").map inner.read
  | .list inner, found => (found.items?.getD []).map inner.read
  | .pair first second, found =>
      let items := found.items?.getD []
      (first.read (items.getD 0 .null), second.read (items.getD 1 .null))
  | .map key value, found =>
      ofEntries ((found.items?.getD []).map fun entry =>
        let parts := entry.items?.getD []
        (key.read (parts.getD 0 .null), value.read (parts.getD 1 .null)))

/-- The display form of a value. -/
def display : (type : ValueType Scalar) → type.Value Scalar.Value → String
  | .base name, value => name.display value
  | .text, value => value
  | other, value => (other.view value).text

end ValueType

end OnePass
