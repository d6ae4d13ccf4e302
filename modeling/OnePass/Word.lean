namespace OnePass.Word

/-!
# Words of 64 bits

Integers of a word's size, signed and unsigned, and counting in words.
-/

/-- The number of words. -/
def count : Nat :=
  18446744073709551616

/-- The number of words without the highest bit. -/
def half : Nat :=
  9223372036854775808

/-- Whether an unsigned word holds the integer. -/
def holdsUnsigned (value : Int) : Bool :=
  0 ≤ value && value < count

/-- Whether a signed word holds the integer. -/
def holdsSigned (value : Int) : Bool :=
  -half ≤ value && value < half

/-- The signed word that agrees with the integer in its lowest 64 bits. -/
def wrap (value : Int) : Int :=
  value.bmod count

/-- The next word; zero follows the last one. -/
def next (value : Nat) : Nat :=
  (value + 1) % count

end OnePass.Word
