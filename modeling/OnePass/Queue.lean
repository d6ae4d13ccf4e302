import OnePass.StageKind

namespace OnePass

/-!
# The queue of declared stages

The chain of stages carries the callbacks; the queue records what was declared,
in order, so that a plan can be made and a pipeline inspected without running it.
Stages are only ever added at the end.
-/

/-- The record of one declared stage. -/
structure Descriptor where
  kind : StageKind
  /-- The separator of a join that was declared with one. -/
  separator : Option String
  /-- Whether the stage's callback receives the context. -/
  contextual : Bool
  deriving DecidableEq, Repr

namespace Descriptor

/-- A stage whose callback does not receive the context. -/
def plain (kind : StageKind) : Descriptor where
  kind := kind
  separator := none
  contextual := false

/-- A stage whose callback receives the context. -/
def withContext (kind : StageKind) : Descriptor where
  kind := kind
  separator := none
  contextual := true

/-- A join with its separator. -/
def join (separator : String) : Descriptor where
  kind := .join
  separator := some separator
  contextual := false

end Descriptor

/--
The declared stages in order, with two facts about them kept up to date: whether
any is a filter, and whether any has a terminal kind.
-/
structure Queue where
  stages : List Descriptor
  hasFilter : Bool
  hasTerminal : Bool
  deriving DecidableEq, Repr

namespace Queue

/-- The queue of a pipeline without stages. -/
def empty : Queue where
  stages := []
  hasFilter := false
  hasTerminal := false

/-- Add a stage at the end. -/
def push (queue : Queue) (stage : Descriptor) : Queue where
  stages := queue.stages ++ [stage]
  hasFilter := queue.hasFilter || stage.kind == .filter
  hasTerminal := queue.hasTerminal || stage.kind.isTerminal

/-- The queue that arises by adding the given stages to the empty one. -/
def ofList (stages : List Descriptor) : Queue :=
  stages.foldl push empty

/-- The number of declared stages. -/
def length (queue : Queue) : Nat :=
  queue.stages.length

/-- Whether no stage was declared. -/
def isEmpty (queue : Queue) : Bool :=
  queue.stages.isEmpty

/-- The last stage, if it has a terminal kind. -/
def terminal? (queue : Queue) : Option Descriptor :=
  queue.stages.getLast?.filter fun stage => stage.kind.isTerminal

/-- The kinds of the declared stages in order. -/
def kinds (queue : Queue) : List StageKind :=
  queue.stages.map Descriptor.kind

/-- Write the name of a numbered stage at the end, after an arrow unless it is first. -/
def writeStage (written : String) (numbered : Descriptor × Nat) : String :=
  (if 0 < numbered.2 then written ++ " -> " else written) ++
    numbered.1.kind.name

/-- The names of the stages in order, with arrows between them. -/
def text (queue : Queue) : String :=
  queue.stages.zipIdx.foldl writeStage ""

@[simp] theorem stages_push
    (queue : Queue)
    (stage : Descriptor) :
    (queue.push stage).stages = queue.stages ++ [stage] :=
  rfl

@[simp] theorem stages_empty : empty.stages = [] :=
  rfl

end Queue

end OnePass
