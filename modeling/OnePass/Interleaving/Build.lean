import OnePass.Build
import OnePass.Interleaving

namespace OnePass

/-!
# Concurrent builds of one pipeline

A build holds the pipeline's lock from the test whether it was compiled up to
marking it so, with the preparation of the terminal in between.
-/

variable {Name : Type} {Base : Name → Type} {ε : Type}
variable {context source element output : ValueType Name}

/-- A sealed pipeline that several threads build, and what its builds left behind. -/
structure Workshop
    (Base : Name → Type)
    (ε : Type)
    (context source element output : ValueType Name) where
  pipeline : Sealed Base ε context source element output
  /-- How often the terminal was prepared. -/
  prepared : Nat
  attempts : Nat
  events : List Event

namespace Workshop

/-- The workshop of a pipeline that nobody has built yet. -/
def fresh
    (pipeline : Sealed Base ε context source element output) :
    Workshop Base ε context source element output where
  pipeline := pipeline
  prepared := 0
  attempts := 0
  events := []

/-- What a build answers. -/
abbrev Outcome
    (Base : Name → Type)
    (ε : Type)
    (context source element output : ValueType Name) :=
  Except (Failure ε) (Fused Base ε context source element output)

/-- A section of a build. -/
abbrev Task
    (Base : Name → Type)
    (ε : Type)
    (context source element output : ValueType Name) :=
  Section
    (Workshop Base ε context source element output)
    (Outcome Base ε context source element output)

/-- Count a preparation of the terminal and the encoding attempt it makes. -/
def countPreparation
    (workshop : Workshop Base ε context source element output) :
    Workshop Base ε context source element output :=
  { workshop with
    prepared := workshop.prepared + 1
    attempts :=
      (workshop.pipeline.procedure.terminal.prepare workshop.attempts).attempts }

/-- Record that the pipeline was compiled. -/
def markCompiled
    (workshop : Workshop Base ε context source element output) :
    Workshop Base ε context source element output where
  pipeline := { workshop.pipeline with compiled := true }
  prepared := workshop.prepared
  attempts := workshop.attempts
  events := workshop.events ++ [workshop.pipeline.compiledEvent]

/-- Mark the pipeline and answer with its procedure. -/
def mark : Task Base ε context source element output :=
  .step markCompiled fun workshop => .release (.ok workshop.pipeline.procedure)

/-- Prepare the terminal; a failure ends the build at once. -/
def prepare : Task Base ε context source element output :=
  .step countPreparation fun workshop =>
    match
      (workshop.pipeline.procedure.terminal.prepare workshop.attempts).outcome
    with
    | .ok () => mark
    | .error (.refused error) => .release (.error (.refused error))
    | .error (.aborted reason) => .unwind (.error (.aborted reason))

/-- Build: test whether the pipeline was compiled, and compile it if it was not. -/
def build : Task Base ε context source element output :=
  .step id fun workshop =>
    if workshop.pipeline.compiled then .release (.ok workshop.pipeline.procedure)
    else prepare

end Workshop

end OnePass
