import OnePass.Binary64

namespace OnePass.Decimal

/-!
# The fewest decimal digits that read back

Every finite word other than zero stands for the interval of reals that round
to it.  `shortest` gives the decimal with the fewest digits in that interval;
among those with equally many digits it is the nearest to the word's value, and
`Tie` settles the case of two that are equally near.
-/

/-- The decimal number `digits * 10 ^ exponent`. -/
structure Scaled where
  digits : Nat
  exponent : Int
  deriving DecidableEq, Inhabited

/-- Which of two equally near decimals is taken. -/
inductive Tie where
  | toEven
  | upward
  deriving DecidableEq

/-- Drop the zeros at the end of the digits, at most `fuel` of them. -/
def Scaled.trim : Nat → Scaled → Scaled
  | 0, number => number
  | fuel + 1, number =>
      if number.digits ≠ 0 ∧ number.digits % 10 = 0 then
        Scaled.trim fuel ⟨number.digits / 10, number.exponent + 1⟩
      else number

/--
The reals that round to a word, over the common denominator `denominator`: the
value itself, the two ends, and whether the ends belong to the interval.
-/
structure Interval where
  low : Nat
  value : Nat
  high : Nat
  denominator : Nat
  closed : Bool

/-- The interval of the reals that round to a finite word other than zero. -/
def Interval.ofWord (word : Binary64) : Interval :=
  let significand := word.significand
  let narrow := significand == Binary64.hiddenBit && 1 < word.field
  let scale := word.scale - 2
  let factor := Nat.pow 2 scale.toNat
  { low := (4 * significand - if narrow then 1 else 2) * factor
    value := 4 * significand * factor
    high := (4 * significand + 2) * factor
    denominator := Nat.pow 2 (-scale).toNat
    closed := significand % 2 == 0 }

/-- Whether `digits * 10 ^ exponent` lies in the interval. -/
def Interval.holds (interval : Interval) (number : Scaled) : Bool :=
  let top :=
    number.digits * Nat.pow 10 number.exponent.toNat * interval.denominator
  let bottom := Nat.pow 10 (-number.exponent).toNat
  if interval.closed then
    interval.low * bottom ≤ top && top ≤ interval.high * bottom
  else
    interval.low * bottom < top && top < interval.high * bottom

/--
The position of the decimal point before the first digit of the value.  No
finite word other than zero is as small as `10 ^ -330`, so that the shifted value
has a whole part, whose digits are counted.
-/
def Interval.point (interval : Interval) : Int :=
  let shifted := interval.value * Nat.pow 10 330 / interval.denominator
  (Nat.toDigits 10 shifted).length - 330

/--
The decimal in the interval on the grid of the given exponent that is nearest to
the value, if the grid has a point there.
-/
def Interval.nearest?
    (interval : Interval)
    (tie : Tie)
    (exponent : Int) :
    Option Scaled :=
  let top := interval.value * Nat.pow 10 (-exponent).toNat
  let bottom := interval.denominator * Nat.pow 10 exponent.toNat
  let below := top / bottom
  let twice := 2 * (top % bottom)
  let down : Scaled := ⟨below, exponent⟩
  let up : Scaled := ⟨below + 1, exponent⟩
  match interval.holds down, interval.holds up with
  | false, false => none
  | true, false => some down
  | false, true => some up
  | true, true =>
      if twice < bottom then some down
      else if bottom < twice then some up
      else
        match tie with
        | .upward => some up
        | .toEven => some (if below % 2 = 0 then down else up)

/-- The first grid, of one digit and more, that has a point in the interval. -/
def Interval.firstGrid
    (interval : Interval)
    (tie : Tie)
    (point : Int) :
    (fuel count : Nat) → Scaled
  | 0, _ => default
  | fuel + 1, count =>
      match interval.nearest? tie (point - count) with
      | some number => number
      | none => interval.firstGrid tie point fuel (count + 1)

/-- The fewest digits that read back as the magnitude of a finite word. -/
def shortest (tie : Tie) (word : Binary64) : Scaled :=
  if word.isZero then ⟨0, 0⟩
  else
    let interval := Interval.ofWord word
    (interval.firstGrid tie interval.point 17 1).trim 20

end OnePass.Decimal
