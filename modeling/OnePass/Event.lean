import OnePass.Plan

namespace OnePass

/-!
# Log events

Compiling, caching and rejecting leave events behind, in the order in which they
happened.
-/

/-- An event of the log. -/
inductive Event where
  /-- A pipeline was compiled for the first time. -/
  | compiled (stages : String) (shape : Shape)
  /-- A procedure was registered in a cache. -/
  | registered (key : String) (stages : String)
  /-- A key was found in a cache. -/
  | hit (key : String)
  /-- A procedure was called with something that is not a sequence. -/
  | rejected (found : String)
  deriving DecidableEq, Repr

namespace Event

/-- The level of an event. -/
def level : Event → String
  | .rejected _ => "WARN"
  | _ => "DEBUG"

/-- The message of an event. -/
def message : Event → String
  | .compiled _ _ => "compiled fused pipeline"
  | .registered _ _ => "pipeline cache registered procedure"
  | .hit _ => "pipeline cache hit"
  | .rejected _ => "fused procedure called with a non-sequence"

/-- What an event tells beside its message, by name. -/
def fields : Event → List (String × String)
  | .compiled stages shape => [("stages", stages), ("shape", shape.text)]
  | .registered key stages => [("key", key), ("stages", stages)]
  | .hit key => [("key", key)]
  | .rejected found => [("found", found)]

end Event

end OnePass
