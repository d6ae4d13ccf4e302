import OnePass.Failure
import OnePass.Json.Basic

namespace OnePass

/-!
# Reduce seeds

The initial value of a reduce must survive embedding: written as JSON and read
back, it must equal itself.  The check is made when a pipeline is compiled, and
an encoder may answer differently from one attempt to the next, so a seed says
which codec each attempt meets.
-/

/--
How values of a type are embedded as JSON.  Encoding and decoding may abort,
and they may fail with a reason.
-/
structure Codec (ε α : Type) where
  encode : α → Except ε (Except String Json)
  decode : Json → Except ε (Except String α)
  /-- Whether two values are equal. -/
  same : α → α → Bool

namespace Codec

variable {ε α : Type}

/-- Why a value that was encoded and decoded without fault may still fail. -/
def changedReason : String :=
  "value changes across a JSON round trip"

/-- Encode the value, decode the result, and compare it with the value. -/
def check (codec : Codec ε α) (value : α) : Except (Failure ε) Unit :=
  match codec.encode value with
  | .error reason => .error (.aborted reason)
  | .ok (.error reason) => .error (.refused (.notEmbeddable reason))
  | .ok (.ok encoded) =>
      match codec.decode encoded with
      | .error reason => .error (.aborted reason)
      | .ok (.error reason) => .error (.refused (.notEmbeddable reason))
      | .ok (.ok decoded) =>
          if codec.same decoded value then .ok ()
          else .error (.refused (.notEmbeddable changedReason))

end Codec

/-- The initial value of a reduce with the codec that each encoding attempt meets. -/
structure Seed (ε α : Type) where
  initial : α
  codec : (attempt : Nat) → Codec ε α

namespace Seed

variable {ε α : Type}

/-- A seed whose codec is the same at every attempt. -/
def steady (initial : α) (codec : Codec ε α) : Seed ε α where
  initial := initial
  codec := fun _ => codec

/-- The outcome of the attempt with the given number, counted from zero. -/
def check (seed : Seed ε α) (attempt : Nat) : Except (Failure ε) Unit :=
  (seed.codec attempt).check seed.initial

end Seed

end OnePass
