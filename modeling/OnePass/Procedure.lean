import OnePass.Event
import OnePass.Failure
import OnePass.Input
import OnePass.Run

namespace OnePass

/-!
# Procedures

A fused procedure is a chain and a terminal with the plan they were compiled
from.  Its shared view hides the type of the elements that leave the chain, so
that procedures with the same signature can be kept together.  Every procedure has
an identity, by which two of them can be told apart.
-/

variable {Name : Type} {Base : Name → Type} {ε : Type}
variable {context source element output : ValueType Name}

/-- A procedure together with the types of its chain. -/
structure Fused
    (Base : Name → Type)
    (ε : Type)
    (context source element output : ValueType Name) where
  identity : Nat
  chain : Chain Base ε context source element
  terminal : Terminal Base ε context element output
  plan : Plan

/-- A procedure as its signature shows it. -/
structure Shared (Base : Name → Type) (ε : Type) (signature : Signature Name) where
  identity : Nat
  plan : Plan
  /-- Run over the elements of an input that was found to be a sequence. -/
  runElements :
    (elements : List (signature.element.Value Base)) →
      (environment : signature.context.Value Base) →
      Run Base ε (signature.output.Value Base)

/-- What calling a procedure answers, the calls it made, and its events. -/
structure Execution (Base : Name → Type) (ε β : Type) where
  outcome : Except (Failure ε) β
  calls : List (Call Base)
  events : List Event

/-- Run on the elements of an input, or reject it if it is not a sequence. -/
def Input.execute
    {β : Type}
    (input : Input Base element)
    (run : List (element.Value Base) → Run Base ε β) :
    Execution Base ε β :=
  match input.elements? with
  | none =>
      { outcome := .error (.refused (.invalidInput input.kind))
        calls := []
        events := [.rejected input.kind] }
  | some elements =>
      let run := run elements
      { outcome := run.outcome.mapError .aborted
        calls := run.calls
        events := [] }

namespace Fused

/-- Run over elements, reserving the room that the plan asks for. -/
def run
    (procedure : Fused Base ε context source element output)
    (elements : List (source.Value Base))
    (environment : context.Value Base) :
    Run Base ε (output.Value Base) :=
  runWith Nat.succ procedure.chain procedure.terminal
    (procedure.plan.shape.capacity elements.length) elements environment

/-- Call with an explicit context. -/
def executeWith
    (procedure : Fused Base ε context source element output)
    (input : Input Base source)
    (environment : context.Value Base) :
    Execution Base ε (output.Value Base) :=
  input.execute fun elements => procedure.run elements environment

/-- Call with the default context. -/
def execute
    [Inhabited (context.Value Base)]
    (procedure : Fused Base ε context source element output)
    (input : Input Base source) :
    Execution Base ε (output.Value Base) :=
  procedure.executeWith input default

/-- The view of a procedure that its signature gives. -/
def share
    (procedure : Fused Base ε context source element output) :
    Shared Base ε ⟨source, context, output⟩ where
  identity := procedure.identity
  plan := procedure.plan
  runElements := procedure.run

end Fused

namespace Shared

variable {signature : Signature Name}

/-- Call with an explicit context. -/
def executeWith
    (procedure : Shared Base ε signature)
    (input : Input Base signature.element)
    (environment : signature.context.Value Base) :
    Execution Base ε (signature.output.Value Base) :=
  input.execute fun elements => procedure.runElements elements environment

/-- Call with the default context. -/
def execute
    [Inhabited (signature.context.Value Base)]
    (procedure : Shared Base ε signature)
    (input : Input Base signature.element) :
    Execution Base ε (signature.output.Value Base) :=
  procedure.executeWith input default

end Shared

end OnePass
