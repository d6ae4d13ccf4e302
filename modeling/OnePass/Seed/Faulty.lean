import OnePass.Seed

namespace OnePass

/-!
# Seeds with a faulty encoder

A JSON accumulator whose embedding goes wrong at its first attempts, or at all
of them, and is in order afterwards.
-/

/-- What goes wrong with an attempt. -/
inductive Fault where
  /-- Encoding fails with the message as its reason. -/
  | encoding
  /-- Encoding works, and decoding fails with the message as its reason. -/
  | decoding
  /-- The value is encoded as null. -/
  | loss
  /-- Encoding aborts with the message. -/
  | abort
  deriving DecidableEq

/-- A fault, its message, and the number of attempts that meet it, if bounded. -/
structure Faulty where
  fault : Fault
  message : String
  times : Option Nat

namespace Codec

/-- The embedding of a JSON value is the value itself. -/
def json (ε : Type) : Codec ε Json where
  encode := fun value => .ok (.ok value)
  decode := fun encoded => .ok (.ok encoded)
  same := Json.same

/-- The embedding of a JSON value at an attempt that meets a fault. -/
def faulty (fault : Fault) (message : String) : Codec String Json :=
  match fault with
  | .encoding => { json String with encode := fun _ => .ok (.error message) }
  | .decoding => { json String with decode := fun _ => .ok (.error message) }
  | .loss => { json String with encode := fun _ => .ok (.ok .null) }
  | .abort => { json String with encode := fun _ => .error message }

end Codec

/-- Whether the attempt with the given number meets the fault. -/
def Faulty.strikes (faulty : Faulty) (attempt : Nat) : Bool :=
  match faulty.times with
  | some times => attempt < times
  | none => true

/-- The JSON seed whose attempts meet a fault as described, if one is. -/
def Seed.json (initial : Json) (faulty? : Option Faulty) : Seed String Json where
  initial := initial
  codec := fun attempt =>
    match faulty? with
    | some faulty =>
        if faulty.strikes attempt then .faulty faulty.fault faulty.message
        else .json String
    | none => .json String

end OnePass
