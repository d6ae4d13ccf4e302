import OnePass.Json.Basic

namespace OnePass.Json

/-!
# Reading a number

The leading digits that fit in 64 bits form the significand.  A further digit of
the whole part only raises the power of ten, and a further digit of the fraction
is dropped.  The significand is rounded to a word first, and its product or
quotient with the power of ten is rounded again, which is why a decimal of many
digits can miss the nearest word.
-/

/-- The value of a decimal digit. -/
def digitValue (character : Char) : Nat :=
  character.toNat - 48

/-- A significand with the power of ten that goes with it. -/
structure Significand where
  value : Nat
  exponent : Int

/-- Take the digits of the whole part, counting those that no longer fit. -/
def Significand.ofWhole (digits : List Char) : Significand :=
  digits.foldl (fun number digit =>
    let grown := number.value * 10 + digitValue digit
    if number.exponent = 0 ∧ grown < Word.count then ⟨grown, 0⟩
    else ⟨number.value, number.exponent + 1⟩) ⟨0, 0⟩

/-- Take the digits of the fraction up to the first that no longer fits. -/
def Significand.withFraction (number : Significand) : List Char → Significand
  | [] => number
  | digit :: rest =>
      let grown := number.value * 10 + digitValue digit
      if grown < Word.count then
        Significand.withFraction ⟨grown, number.exponent - 1⟩ rest
      else number

/-- The word nearest to a power of ten. -/
def powerOfTen (exponent : Nat) : Binary64 :=
  .ofRatio false (Nat.pow 10 exponent) 1

/-- The word a significand and its power of ten stand for, unless it is too large. -/
def Significand.word? (negative : Bool) (number : Significand) : Option Binary64 :=
  let base := Binary64.ofRatio negative number.value 1
  if number.exponent < -308 then
    let lowered := base.div (powerOfTen 308)
    if number.exponent < -616 then some (.zero negative)
    else some (lowered.div (powerOfTen (-number.exponent - 308).toNat))
  else if number.exponent < 0 then
    some (base.div (powerOfTen (-number.exponent).toNat))
  else if number.exponent ≤ 308 then
    let raised := base.mul (powerOfTen number.exponent.toNat)
    if raised.isFinite then some raised else none
  else if base.isZero then some base
  else none

/-- The parts of a number's text. -/
structure NumberParts where
  negative : Bool
  whole : List Char
  fraction : Option (List Char)
  power : Option Int

/--
The number that the parts stand for.  One without fraction and power is an
integer if 64 bits hold it with its sign; a negative zero is a floating-point
number.
-/
def NumberParts.value? (parts : NumberParts) : Option Json :=
  let whole := Significand.ofWhole parts.whole
  let number := whole.withFraction (parts.fraction.getD [])
  let powered : Significand :=
    ⟨number.value, number.exponent + parts.power.getD 0⟩
  let isWhole := parts.fraction.isNone && parts.power.isNone
  if isWhole && whole.exponent == 0 && !parts.negative then
    some (.int whole.value)
  else if isWhole && whole.exponent == 0 &&
      0 < whole.value && whole.value ≤ Word.half then
    some (.int (-whole.value))
  else
    (powered.word? parts.negative).map .float

end OnePass.Json
