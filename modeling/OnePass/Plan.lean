import OnePass.Queue

namespace OnePass

/-!
# Execution plans

A plan is what the declared stages alone tell about a run: the shape of its
output, how much room to reserve for it, and whether the run may end early.
-/

/-- The shape of a pipeline's output. -/
inductive Shape where
  /-- A list with one element for each element of the input. -/
  | preSized
  /-- A list whose length is known only after the run. -/
  | growable
  /-- The one value that a terminal stage produces. -/
  | scalar (kind : StageKind)
  deriving DecidableEq, Repr

namespace Shape

/-- The room to reserve for the output of an input of the given length. -/
def capacity : Shape → Nat → Nat
  | .preSized, length => length
  | .growable, _ => 0
  | .scalar _, _ => 0

/-- The title of a stage kind, as it stands in the name of a scalar shape. -/
def title : StageKind → String
  | .filter => "Filter"
  | .map => "Map"
  | .forEach => "ForEach"
  | .reduce => "Reduce"
  | .join => "Join"
  | .find => "Find"
  | .findIndex => "FindIndex"
  | .some => "Some"
  | .every => "Every"

/-- The name of a shape. -/
def text : Shape → String
  | .preSized => "PreSized"
  | .growable => "Growable"
  | .scalar kind => "Scalar(" ++ title kind ++ ")"

/-- The shape that a queue of declared stages asks for. -/
def ofQueue (queue : Queue) : Shape :=
  match queue.terminal? with
  | some stage => .scalar stage.kind
  | none => if queue.hasFilter then .growable else .preSized

end Shape

/-- A queue of declared stages together with the shape of its output. -/
structure Plan where
  queue : Queue
  shape : Shape
  deriving DecidableEq, Repr

namespace Plan

/-- The plan for a queue. -/
def ofQueue (queue : Queue) : Plan where
  queue := queue
  shape := .ofQueue queue

/-- Whether a run may end before the end of its input. -/
def shortCircuits (plan : Plan) : Bool :=
  match plan.shape with
  | .scalar kind => kind.shortCircuits
  | _ => false

end Plan

end OnePass
