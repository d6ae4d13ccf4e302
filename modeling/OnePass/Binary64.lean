import OnePass.Word

namespace OnePass

/-!
# Binary floating-point words

A `Binary64` is a 64-bit word read as a sign bit, an eleven-bit exponent field
and a 52-bit fraction.  A finite word denotes `significand * 2 ^ scale`; the
exponent field 2047 is kept for the infinities and the words that denote no
number.  `ofRatio` rounds an exact quotient to the nearest word, a tie going to
the even significand, and every operation here is derived from it, so nothing
depends on the machine's own floating-point unit.
-/

/-- A floating-point number, given by its 64 bits. -/
structure Binary64 where
  bits : UInt64
  deriving DecidableEq, Inhabited

namespace Binary64

/-- The weight of the bit above the fraction, `2 ^ 52`. -/
def hiddenBit : Nat :=
  4503599627370496

/-- Whether the sign bit is set. -/
def negative (word : Binary64) : Bool :=
  word.bits.toNat / Word.half == 1

/-- The eleven-bit exponent field. -/
def field (word : Binary64) : Nat :=
  word.bits.toNat / hiddenBit % 2048

/-- The 52-bit fraction. -/
def fraction (word : Binary64) : Nat :=
  word.bits.toNat % hiddenBit

/-- A word is finite unless its exponent field is the reserved one. -/
def isFinite (word : Binary64) : Bool :=
  word.field != 2047

/-- A word that denotes no number at all. -/
def isNaN (word : Binary64) : Bool :=
  word.field == 2047 && word.fraction != 0

/-- Either of the two zeros. -/
def isZero (word : Binary64) : Bool :=
  word.field == 0 && word.fraction == 0

/-- The integer significand of a finite word, with its hidden bit. -/
def significand (word : Binary64) : Nat :=
  if word.field = 0 then word.fraction else word.fraction + hiddenBit

/-- The power of two that multiplies the significand. -/
def scale (word : Binary64) : Int :=
  (max word.field 1 : Nat) - 1075

/--
Numerical equality: a word that is no number equals nothing, and the two zeros
are equal to each other.
-/
def same (left right : Binary64) : Bool :=
  !left.isNaN && !right.isNaN &&
    (left.bits == right.bits || (left.isZero && right.isZero))

/-- The word with the given sign and the given magnitude bits. -/
def ofMagnitude (negative : Bool) (magnitude : Nat) : Binary64 :=
  ⟨UInt64.ofNat (if negative then magnitude + Word.half else magnitude)⟩

/-- The zero of the given sign. -/
def zero (negative : Bool) : Binary64 :=
  ofMagnitude negative 0

/-- The infinity of the given sign. -/
def infinity (negative : Bool) : Binary64 :=
  ofMagnitude negative (2047 * hiddenBit)

/-- The quotient rounded to the nearest integer, a tie going to the even one. -/
def roundedQuotient (numerator denominator : Nat) : Nat :=
  let quotient := numerator / denominator
  let twice := 2 * (numerator % denominator)
  if twice < denominator then quotient
  else if denominator < twice then quotient + 1
  else quotient + quotient % 2

/-- The largest `exponent` with `2 ^ exponent ≤ numerator / denominator`. -/
def floorLog (numerator denominator : Nat) : Int :=
  let guess : Int := (Nat.log2 numerator : Int) - (Nat.log2 denominator : Int)
  let reached : Bool :=
    if 0 ≤ guess then denominator * Nat.pow 2 guess.toNat ≤ numerator
    else denominator ≤ numerator * Nat.pow 2 (-guess).toNat
  if reached then guess else guess - 1

/--
The word nearest to `numerator / denominator`, a tie going to the even
significand; what is too large becomes an infinity.
-/
def ofRatio (negative : Bool) (numerator denominator : Nat) : Binary64 :=
  if numerator = 0 then zero negative
  else
    let unit : Int := max (floorLog numerator denominator - 52) (-1074)
    let rounded :=
      if 0 ≤ unit then
        roundedQuotient numerator (denominator * Nat.pow 2 unit.toNat)
      else
        roundedQuotient (numerator * Nat.pow 2 (-unit).toNat) denominator
    let magnitude := (unit + 1074).toNat * hiddenBit + rounded
    if 2047 * hiddenBit ≤ magnitude then infinity negative
    else ofMagnitude negative magnitude

/-- The magnitude of a finite word as an exact quotient. -/
def ratio (word : Binary64) : Nat × Nat :=
  if 0 ≤ word.scale then
    (word.significand * Nat.pow 2 word.scale.toNat, 1)
  else
    (word.significand, Nat.pow 2 (-word.scale).toNat)

/-- The product of two finite words, rounded once. -/
def mul (left right : Binary64) : Binary64 :=
  let (leftTop, leftBottom) := left.ratio
  let (rightTop, rightBottom) := right.ratio
  ofRatio (left.negative != right.negative)
    (leftTop * rightTop) (leftBottom * rightBottom)

/-- The quotient of a finite word by a finite word other than zero, rounded once. -/
def div (left right : Binary64) : Binary64 :=
  let (leftTop, leftBottom) := left.ratio
  let (rightTop, rightBottom) := right.ratio
  ofRatio (left.negative != right.negative)
    (leftTop * rightBottom) (leftBottom * rightTop)

/-- The word nearest to an integer. -/
def ofInt (value : Int) : Binary64 :=
  ofRatio (value < 0) value.natAbs 1

end Binary64

end OnePass
