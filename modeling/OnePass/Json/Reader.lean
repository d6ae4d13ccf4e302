import OnePass.Json.Number

namespace OnePass.Json

/-!
# Reading a JSON text

A reader takes the characters that begin with what it reads and gives the value
together with the characters that follow it.  `parse?` accepts a text that is one
value with blanks around it.
-/

/-- Drop the blanks at the front. -/
def skipBlanks (characters : List Char) : List Char :=
  characters.dropWhile fun character =>
    character == ' ' || character == '\n' || character == '\r' ||
      character == '\t'

/-- The value of a hexadecimal digit. -/
def hexValue? (character : Char) : Option Nat :=
  if '0' ≤ character ∧ character ≤ '9' then some (character.toNat - 48)
  else if 'a' ≤ character ∧ character ≤ 'f' then some (character.toNat - 87)
  else if 'A' ≤ character ∧ character ≤ 'F' then some (character.toNat - 55)
  else none

/-- The value of a run of hexadecimal digits. -/
def hexNumber? (digits : List Char) : Option Nat :=
  digits.foldlM (fun value digit =>
    (hexValue? digit).map fun low => value * 16 + low) 0

/-- Four hexadecimal digits and what follows them. -/
def readUnit? : List Char → Option (Nat × List Char)
  | first :: second :: third :: fourth :: rest =>
      (hexNumber? [first, second, third, fourth]).map fun value => (value, rest)
  | _ => none

/--
The character of an escaped code unit and what follows it; a code unit of the
upper half must be followed by an escaped one of the lower half.
-/
def readCodePoint? (characters : List Char) : Option (Char × List Char) := do
  let (unit, rest) ← readUnit? characters
  if 0xD800 ≤ unit ∧ unit < 0xDC00 then
    match rest with
    | '\\' :: 'u' :: tail =>
        let (low, rest) ← readUnit? tail
        if 0xDC00 ≤ low ∧ low < 0xE000 then
          some (Char.ofNat
            (0x10000 + (unit - 0xD800) * 0x400 + (low - 0xDC00)), rest)
        else none
    | _ => none
  else if 0xDC00 ≤ unit ∧ unit < 0xE000 then none
  else some (Char.ofNat unit, rest)

/-- The character that a one-letter escape stands for. -/
def escaped? : Char → Option Char
  | '"' => some '"'
  | '\\' => some '\\'
  | '/' => some '/'
  | 'b' => some '\x08'
  | 'f' => some '\x0c'
  | 'n' => some '\n'
  | 'r' => some '\r'
  | 't' => some '\t'
  | _ => none

/-- The rest of a string after its opening quote, gathered backwards. -/
def readString? :
    (fuel : Nat) → (gathered : List Char) → List Char →
      Option (String × List Char)
  | 0, _, _ => none
  | fuel + 1, gathered, characters =>
      match characters with
      | [] => none
      | '"' :: rest => some (String.ofList gathered.reverse, rest)
      | '\\' :: 'u' :: rest =>
          match readCodePoint? rest with
          | some (character, rest) =>
              readString? fuel (character :: gathered) rest
          | none => none
      | '\\' :: letter :: rest =>
          match escaped? letter with
          | some character => readString? fuel (character :: gathered) rest
          | none => none
      | character :: rest =>
          if character.toNat < 32 ∨ character = '\\' then none
          else readString? fuel (character :: gathered) rest

/-- A run of digits, at least one, and what follows it. -/
def readDigits? (characters : List Char) : Option (List Char × List Char) :=
  match characters.takeWhile Char.isDigit with
  | [] => none
  | digits => some (digits, characters.dropWhile Char.isDigit)

/-- The value of a run of decimal digits. -/
def decimalValue (digits : List Char) : Nat :=
  digits.foldl (fun value digit => value * 10 + digitValue digit) 0

/-- The whole part of a number: a zero alone, or digits that begin with another. -/
def readWhole? : List Char → Option (List Char × List Char)
  | '0' :: rest =>
      if (rest.takeWhile Char.isDigit).isEmpty then some (['0'], rest) else none
  | characters => readDigits? characters

/-- The fraction of a number, if there is one. -/
def readFraction? : List Char → Option (Option (List Char) × List Char)
  | '.' :: rest =>
      (readDigits? rest).map fun (digits, rest) => (some digits, rest)
  | characters => some (none, characters)

/-- The digits of a power of ten with their sign. -/
def readSignedPower? : List Char → Option (Int × List Char)
  | '-' :: rest =>
      (readDigits? rest).map fun (digits, rest) => (-(decimalValue digits : Int), rest)
  | '+' :: rest =>
      (readDigits? rest).map fun (digits, rest) => ((decimalValue digits : Int), rest)
  | characters =>
      (readDigits? characters).map fun (digits, rest) =>
        ((decimalValue digits : Int), rest)

/-- The power of ten of a number, if there is one. -/
def readPower? : List Char → Option (Option Int × List Char)
  | 'e' :: rest =>
      (readSignedPower? rest).map fun (power, rest) => (some power, rest)
  | 'E' :: rest =>
      (readSignedPower? rest).map fun (power, rest) => (some power, rest)
  | characters => some (none, characters)

/-- A number and what follows it. -/
def readNumber? (characters : List Char) : Option (Json × List Char) := do
  let (negative, unsigned) :=
    match characters with
    | '-' :: rest => (true, rest)
    | other => (false, other)
  let (whole, rest) ← readWhole? unsigned
  let (fraction, rest) ← readFraction? rest
  let (power, rest) ← readPower? rest
  let value ← NumberParts.value? ⟨negative, whole, fraction, power⟩
  some (value, rest)

mutual

/-- A value and what follows it. -/
def readValue? : (fuel : Nat) → List Char → Option (Json × List Char)
  | 0, _ => none
  | fuel + 1, characters =>
      match skipBlanks characters with
      | 'n' :: 'u' :: 'l' :: 'l' :: rest => some (.null, rest)
      | 't' :: 'r' :: 'u' :: 'e' :: rest => some (.bool true, rest)
      | 'f' :: 'a' :: 'l' :: 's' :: 'e' :: rest => some (.bool false, rest)
      | '"' :: rest =>
          (readString? (rest.length + 1) [] rest).map fun (value, rest) =>
            (.string value, rest)
      | '[' :: rest =>
          match skipBlanks rest with
          | ']' :: rest => some (.array [], rest)
          | _ =>
              (readItems? fuel rest).map fun (items, rest) =>
                (.array items, rest)
      | '\x7b' :: rest =>
          match skipBlanks rest with
          | '\x7d' :: rest => some (.object [], rest)
          | _ =>
              (readMembers? fuel rest).map fun (members, rest) =>
                (.ofMembers members, rest)
      | other => readNumber? other

/-- The items of an array up to its closing bracket. -/
def readItems? : (fuel : Nat) → List Char → Option (List Json × List Char)
  | 0, _ => none
  | fuel + 1, characters =>
      match readValue? fuel characters with
      | none => none
      | some (item, rest) =>
          match skipBlanks rest with
          | ']' :: rest => some ([item], rest)
          | ',' :: rest =>
              (readItems? fuel rest).map fun (items, rest) =>
                (item :: items, rest)
          | _ => none

/-- The members of an object up to its closing brace. -/
def readMembers? :
    (fuel : Nat) → List Char → Option (List (String × Json) × List Char)
  | 0, _ => none
  | fuel + 1, characters =>
      match skipBlanks characters with
      | '"' :: rest =>
          match readString? (rest.length + 1) [] rest with
          | none => none
          | some (key, rest) =>
              match skipBlanks rest with
              | ':' :: rest =>
                  match readValue? fuel rest with
                  | none => none
                  | some (value, rest) =>
                      match skipBlanks rest with
                      | '\x7d' :: rest => some ([(key, value)], rest)
                      | ',' :: rest =>
                          (readMembers? fuel rest).map fun (members, rest) =>
                            ((key, value) :: members, rest)
                      | _ => none
              | _ => none
      | _ => none

end

/-- The value of a text that holds one value and nothing but blanks beside it. -/
def parse? (text : String) : Option Json :=
  let characters := text.toList
  match readValue? (2 * characters.length + 1) characters with
  | some (value, rest) =>
      if (skipBlanks rest).isEmpty then some value else none
  | none => none

end OnePass.Json
