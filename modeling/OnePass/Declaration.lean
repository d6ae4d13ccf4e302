import OnePass.Build

namespace OnePass

/-!
# Declarations

A declaration says how to extend a fresh pipeline and how to end it, or that
declaring aborts.  Since it only extends the pipeline it is handed, the identity
of the procedure is that of the pipeline.
-/

variable {Name : Type} {Base : Name → Type} {ε : Type}
variable {context source element output : ValueType Name}

/-- Stages to declare one after another, from one element type to another. -/
inductive Script
    (Base : Name → Type)
    (ε : Type)
    (context : ValueType Name) :
    ValueType Name → ValueType Name → Type where
  | done {element : ValueType Name} : Script Base ε context element element
  | stage {before between after : ValueType Name}
      (first : Stage Base ε context before between)
      (rest : Script Base ε context between after) :
      Script Base ε context before after

/-- How a declaration ends: with a terminal, or by leaving the pipeline open. -/
inductive Ending
    (Base : Name → Type)
    (ε : Type)
    (context element : ValueType Name) :
    ValueType Name → Type where
  | terminal {output : ValueType Name}
      (terminal : Terminal Base ε context element output) :
      Ending Base ε context element output
  | leaveOpen : Ending Base ε context element (.list element)

/-- What to do with a fresh pipeline of the given signature. -/
inductive Declaration
    (Base : Name → Type)
    (ε : Type)
    (signature : Signature Name) where
  /-- Declaring aborts. -/
  | aborts (reason : ε)
  /-- Declare the stages, then the ending. -/
  | declares {element : ValueType Name}
      (script : Script Base ε signature.context signature.element element)
      (ending : Ending Base ε signature.context element signature.output)

/-- Declare the stages of a script. -/
def Pipeline.follow
    {element after : ValueType Name}
    (pipeline : Pipeline Base ε context source element) :
    Script Base ε context element after →
      Pipeline Base ε context source after
  | .done => pipeline
  | .stage first rest => (pipeline.extend first).follow rest

/-- The open pipeline's queue at the start of a script and after each of its stages. -/
def Pipeline.queues
    {element after : ValueType Name}
    (pipeline : Pipeline Base ε context source element) :
    Script Base ε context element after → List Queue
  | .done => [pipeline.queue]
  | .stage first rest =>
      pipeline.queue :: (pipeline.extend first).queues rest

/-- Seal as the ending says; an open pipeline is compiled as a collection. -/
def Pipeline.conclude
    (pipeline : Pipeline Base ε context source element) :
    Ending Base ε context element output →
      Sealed Base ε context source element output
  | .terminal terminal => pipeline.endWith terminal
  | .leaveOpen => pipeline.collect

end OnePass
