import OnePass.Json.Basic
import OnePass.Decimal.Layout

namespace OnePass.Json

/-!
# The text of a JSON value

Values are written without blanks.  Inside a string only the quote, the
backslash and the characters below the blank are escaped.
-/

/--
Numbers keep a fraction or an exponent, so that they read back as floating-point
numbers; positional notation holds from `0.00001` to below `10 ^ 16`, and a tie
between two nearest decimals goes to the even digit.
-/
def numberLayout : Decimal.Layout where
  tie := .toEven
  positional := fun point => -5 < point && point ≤ 16
  wholeEnding := ".0"
  notNumber := "null"
  infinite := "null"

/-- The hexadecimal digit of a number below sixteen, in lower case. -/
def hexDigit (value : Nat) : Char :=
  if value < 10 then Char.ofNat (48 + value) else Char.ofNat (87 + value)

/-- A character as it stands inside a quoted string. -/
def escape (character : Char) : List Char :=
  match character with
  | '"' => ['\\', '"']
  | '\\' => ['\\', '\\']
  | '\x08' => ['\\', 'b']
  | '\x0c' => ['\\', 'f']
  | '\n' => ['\\', 'n']
  | '\r' => ['\\', 'r']
  | '\t' => ['\\', 't']
  | other =>
      if other.toNat < 32 then
        ['\\', 'u', '0', '0',
          hexDigit (other.toNat / 16), hexDigit (other.toNat % 16)]
      else [other]

/-- A string in quotes. -/
def quoted (text : String) : String :=
  "\"" ++ String.ofList (text.toList.flatMap escape) ++ "\""

mutual

/-- The compact text of a value. -/
def text : Json → String
  | .null => "null"
  | .bool true => "true"
  | .bool false => "false"
  | .int value => toString value
  | .float value => if value.isFinite then numberLayout.text value else "null"
  | .string value => quoted value
  | .array items => "[" ++ ",".intercalate (itemTexts items) ++ "]"
  | .object members =>
      "\x7b" ++ ",".intercalate (memberTexts members) ++ "\x7d"

/-- The texts of the items of an array. -/
def itemTexts : List Json → List String
  | [] => []
  | item :: rest => text item :: itemTexts rest

/-- The texts of the members of an object. -/
def memberTexts : List (String × Json) → List String
  | [] => []
  | (key, value) :: rest => (quoted key ++ ":" ++ text value) :: memberTexts rest

end

/-- The text form of a value: a string is itself, all else its JSON text. -/
def plainText : Json → String
  | .string value => value
  | other => text other

end OnePass.Json
