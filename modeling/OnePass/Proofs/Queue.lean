import OnePass.Plan

namespace OnePass.Queue

/-!
# Queues and the stages pushed onto them

Whatever stages are pushed onto a queue, it lists them in order after those it had,
and its two flags tell of all of them.
-/

/-- Pushed stages are listed in order after the earlier ones. -/
theorem stages_foldl_push
    (queue : Queue)
    (stages : List Descriptor) :
    (stages.foldl push queue).stages = queue.stages ++ stages := by
  induction stages generalizing queue with
  | nil =>
      simp
  | cons stage rest inductionHypothesis =>
      simp [inductionHypothesis]

/-- The first flag tells whether an earlier or a pushed stage is a filter. -/
theorem hasFilter_foldl_push
    (queue : Queue)
    (stages : List Descriptor) :
    (stages.foldl push queue).hasFilter =
      (queue.hasFilter || stages.any fun stage => stage.kind == .filter) := by
  induction stages generalizing queue with
  | nil =>
      simp
  | cons stage rest inductionHypothesis =>
      simp [inductionHypothesis, push, Bool.or_assoc]

/-- The second flag tells whether an earlier or a pushed stage has a terminal kind. -/
theorem hasTerminal_foldl_push
    (queue : Queue)
    (stages : List Descriptor) :
    (stages.foldl push queue).hasTerminal =
      (queue.hasTerminal || stages.any fun stage => stage.kind.isTerminal) := by
  induction stages generalizing queue with
  | nil =>
      simp
  | cons stage rest inductionHypothesis =>
      simp [inductionHypothesis, push, Bool.or_assoc]

@[simp] theorem stages_ofList (stages : List Descriptor) :
    (ofList stages).stages = stages :=
  stages_foldl_push empty stages

@[simp] theorem hasFilter_ofList (stages : List Descriptor) :
    (ofList stages).hasFilter =
      stages.any fun stage => stage.kind == .filter :=
  hasFilter_foldl_push empty stages

@[simp] theorem hasTerminal_ofList (stages : List Descriptor) :
    (ofList stages).hasTerminal =
      stages.any fun stage => stage.kind.isTerminal :=
  hasTerminal_foldl_push empty stages

end OnePass.Queue
