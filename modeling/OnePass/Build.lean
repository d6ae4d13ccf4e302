import OnePass.Pipeline

namespace OnePass

/-!
# Compiling sealed pipelines

The first build that succeeds compiles the pipeline; every later one returns the
same procedure without further work.  A build that fails leaves the pipeline as it
was, and the next one tries again.  The number of encoding attempts belongs to
the accumulator and is handed from build to build.
-/

variable {Name : Type} {Base : Name → Type} {ε : Type}
variable {context source element output : ValueType Name}

/-- What a build answers, the pipeline and the attempts afterwards, and the events. -/
structure Built
    (Base : Name → Type)
    (ε : Type)
    (context source element output : ValueType Name) where
  outcome : Except (Failure ε) (Fused Base ε context source element output)
  pipeline : Sealed Base ε context source element output
  /-- How often the terminal was prepared. -/
  prepared : Nat
  attempts : Nat
  events : List Event

/-- One use of a sealed pipeline: build it, or build and then run it. -/
inductive Use
    (Base : Name → Type)
    (context source : ValueType Name) where
  | build
  | run (input : Input Base source) (environment : context.Value Base)

/-- What a use answers: the procedure that was built, or the result of its run. -/
inductive Answer
    (Base : Name → Type)
    (ε : Type)
    (context source element output : ValueType Name) where
  | built (procedure : Fused Base ε context source element output)
  | ran (result : output.Value Base)

/-- What a use leaves behind. -/
structure Used
    (Base : Name → Type)
    (ε : Type)
    (context source element output : ValueType Name) where
  outcome :
    Except (Failure ε) (Answer Base ε context source element output)
  pipeline : Sealed Base ε context source element output
  /-- How often the terminal was prepared. -/
  prepared : Nat
  attempts : Nat
  calls : List (Call Base)
  events : List Event

namespace Sealed

/-- The declared stages, the terminal included. -/
def queue (pipeline : Sealed Base ε context source element output) : Queue :=
  pipeline.procedure.plan.queue

/-- The event that a first successful build leaves. -/
def compiledEvent
    (pipeline : Sealed Base ε context source element output) :
    Event :=
  .compiled pipeline.queue.text pipeline.procedure.plan.shape

/-- Compile, or return the procedure that was compiled earlier. -/
def build
    (pipeline : Sealed Base ε context source element output)
    (attempts : Nat) :
    Built Base ε context source element output :=
  if pipeline.compiled then
    { outcome := .ok pipeline.procedure
      pipeline := pipeline
      prepared := 0
      attempts := attempts
      events := [] }
  else
    let prepared := pipeline.procedure.terminal.prepare attempts
    match prepared.outcome with
    | .error failure =>
        { outcome := .error failure
          pipeline := pipeline
          prepared := 1
          attempts := prepared.attempts
          events := [] }
    | .ok () =>
        { outcome := .ok pipeline.procedure
          pipeline := { pipeline with compiled := true }
          prepared := 1
          attempts := prepared.attempts
          events := [pipeline.compiledEvent] }

/-- Use the pipeline once; a failed build comes before any look at the input. -/
def use
    (pipeline : Sealed Base ε context source element output)
    (attempts : Nat)
    (request : Use Base context source) :
    Used Base ε context source element output :=
  let built := pipeline.build attempts
  match built.outcome, request with
  | .error failure, _ =>
      { outcome := .error failure
        pipeline := built.pipeline
        prepared := built.prepared
        attempts := built.attempts
        calls := []
        events := built.events }
  | .ok procedure, .build =>
      { outcome := .ok (.built procedure)
        pipeline := built.pipeline
        prepared := built.prepared
        attempts := built.attempts
        calls := []
        events := built.events }
  | .ok procedure, .run input environment =>
      let execution := procedure.executeWith input environment
      { outcome := execution.outcome.map .ran
        pipeline := built.pipeline
        prepared := built.prepared
        attempts := built.attempts
        calls := execution.calls
        events := built.events ++ execution.events }

/-- Use the pipeline several times in a row. -/
def useAll
    (pipeline : Sealed Base ε context source element output)
    (attempts : Nat) :
    List (Use Base context source) →
      List (Used Base ε context source element output)
  | [] => []
  | request :: rest =>
      let used := pipeline.use attempts request
      used :: used.pipeline.useAll used.attempts rest

end Sealed

/-- Seal as a collection and build at once. -/
def Pipeline.build
    (pipeline : Pipeline Base ε context source element)
    (attempts : Nat) :
    Built Base ε context source element (.list element) :=
  pipeline.collect.build attempts

end OnePass
