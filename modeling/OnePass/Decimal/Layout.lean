import OnePass.Decimal.Shortest

namespace OnePass.Decimal

/-!
# Writing a decimal down

A `Layout` holds the decisions that a number format makes once the digits are
known: how ties were settled, where positional notation ends, and what follows
a number without a fraction.
-/

/-- The decisions of one number format. -/
structure Layout where
  /-- How the digits settle a tie. -/
  tie : Tie
  /--
  Whether a number is written positionally, given where the decimal point
  stands counted from before its first digit.
  -/
  positional : Int → Bool
  /-- What follows the digits of a number without a fraction. -/
  wholeEnding : String
  /-- The text of a word that denotes no number. -/
  notNumber : String
  /-- The text of the positive infinity. -/
  infinite : String

/-- The given number of zeros. -/
def zeros (count : Nat) : String :=
  String.ofList (List.replicate count '0')

/-- The digits with the decimal point at `point`, counted from before the first. -/
def Layout.positionalText
    (layout : Layout)
    (digits : List Char)
    (point : Int) :
    String :=
  if point ≤ 0 then
    "0." ++ zeros (-point).toNat ++ String.ofList digits
  else if digits.length ≤ point.toNat then
    String.ofList digits ++ zeros (point.toNat - digits.length) ++
      layout.wholeEnding
  else
    String.ofList (digits.take point.toNat) ++ "." ++
      String.ofList (digits.drop point.toNat)

/--
The digits with one before the point, and the power of ten after the mark with
its sign.
-/
def exponentText (digits : List Char) (point : Int) : String :=
  let mantissa :=
    match digits with
    | [] => "0"
    | [only] => String.singleton only
    | first :: rest => String.singleton first ++ "." ++ String.ofList rest
  let power := point - 1
  mantissa ++ "e" ++ (if 0 ≤ power then "+" else "") ++ toString power

/-- The text of the magnitude of a finite word. -/
def Layout.magnitudeText (layout : Layout) (word : Binary64) : String :=
  if word.isZero then "0" ++ layout.wholeEnding
  else
    let number := shortest layout.tie word
    let digits := Nat.toDigits 10 number.digits
    let point := (digits.length : Int) + number.exponent
    if layout.positional point then layout.positionalText digits point
    else exponentText digits point

/-- The text of a word; the sign of a zero is written too. -/
def Layout.text (layout : Layout) (word : Binary64) : String :=
  if word.isNaN then layout.notNumber
  else
    let magnitude :=
      if word.isFinite then layout.magnitudeText word else layout.infinite
    if word.negative then "-" ++ magnitude else magnitude

end OnePass.Decimal
