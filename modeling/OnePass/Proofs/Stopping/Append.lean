import OnePass.Proofs.Fusion.Run

namespace OnePass

/-!
# Runs over longer inputs

A run over a concatenation is the run over its first part and, if that is still going
on, its continuation over the rest from the counters and the state reached there.
How much room was reserved makes no difference to a run.
-/

variable {Name : Type} {Base : Name → Type} {ε : Type}
variable {context source element output : ValueType Name}

/-! ## Reserved room -/

namespace Terminal

variable {terminal : Terminal Base ε context element output}

/-- A step, as far as it shows in the result of a run. -/
def shown
    (terminal : Terminal Base ε context element output) :
    Step terminal.State (output.Value Base) →
      Step (output.Value Base) (output.Value Base)
  | .proceed state => .proceed (terminal.finish state)
  | .stop result => .stop result

/-- However much room was reserved, nothing shows at the start. -/
theorem finish_start
    (terminal : Terminal Base ε context element output)
    (first second : Nat) :
    terminal.finish (terminal.start first) =
      terminal.finish (terminal.start second) := by
  cases terminal <;> rfl

/-- From states that show the same result, an element is taken in alike. -/
theorem accept_alike
    {first second : terminal.State}
    (alike : terminal.finish first = terminal.finish second)
    (value : element.Value Base)
    (index : Nat)
    (environment : context.Value Base) :
    (terminal.accept first value index environment).map terminal.shown =
      (terminal.accept second value index environment).map
        terminal.shown := by
  cases terminal with
  | collect =>
      simp only [finish] at alike
      simp [accept, Except.map, shown, finish, alike]
  | reduce reducer seed =>
      have same : first = second := alike
      rw [same]
  | join separator display =>
      have same : first = second := alike
      rw [same]
  | find predicate | findIndex predicate | some predicate | every predicate =>
      rfl

end Terminal

/-- Loops from states that show the same result come to the same. -/
theorem loopWith_alike
    (advance : Nat → Nat)
    (chain : Chain Base ε context source element)
    {terminal : Terminal Base ε context element output}
    (environment : context.Value Base)
    {first second : terminal.State}
    (alike : terminal.finish first = terminal.finish second)
    (elements : List (source.Value Base))
    (raw : Nat)
    (counters : chain.Counters) :
    let left :=
      loopWith advance chain terminal environment elements raw counters first
    let right :=
      loopWith advance chain terminal environment elements raw counters second
    terminal.conclude left.status = terminal.conclude right.status ∧
      left.calls = right.calls ∧
      left.consumed = right.consumed := by
  induction elements generalizing raw counters first second with
  | nil =>
      simpa [loopWith, Terminal.conclude] using alike
  | cons value rest inductionHypothesis =>
      simp only [loopWith]
      generalize chain.feedWith advance value raw environment counters = fed
      rcases fed.outcome with reason | (_ | ⟨survivor, index⟩)
      · exact ⟨rfl, rfl, rfl⟩
      · obtain ⟨status, calls, consumed⟩ :=
          inductionHypothesis alike (advance raw) fed.counters
        simp only [Progress.after]
        exact ⟨status, by rw [calls], by rw [consumed]⟩
      · have steps := Terminal.accept_alike alike survivor index environment
        -- What shows of the two steps is the same, so they are of one kind.
        rcases accepted :
            terminal.accept first survivor index environment with
          reason | (next | result) <;>
          rcases otherAccepted :
            terminal.accept second survivor index environment with
            otherReason | (otherNext | otherResult) <;>
          simp only [accepted, otherAccepted, Except.map, Terminal.shown,
            Except.ok.injEq, Except.error.injEq, Step.proceed.injEq,
            Step.stop.injEq, reduceCtorEq] at steps
        · simp only [accepted, otherAccepted, steps, Terminal.conclude, and_self]
        · obtain ⟨status, calls, consumed⟩ :=
            inductionHypothesis steps (advance raw) fed.counters
          simp only [accepted, otherAccepted, Progress.after]
          exact ⟨status, by rw [calls], by rw [consumed]⟩
        · simp only [accepted, otherAccepted, steps, Terminal.conclude, and_self]

/-- A run does not depend on the room reserved for its result. -/
theorem runWith_capacity
    (advance : Nat → Nat)
    (chain : Chain Base ε context source element)
    (terminal : Terminal Base ε context element output)
    (first second : Nat)
    (elements : List (source.Value Base))
    (environment : context.Value Base) :
    runWith advance chain terminal first elements environment =
      runWith advance chain terminal second elements environment := by
  obtain ⟨status, calls, consumed⟩ :=
    loopWith_alike advance chain environment
      (terminal.finish_start first second) elements 0 chain.fresh
  simp only [runWith, status, calls, consumed]

/-! ## Concatenations -/

/-- What a run comes to that goes on from where it stands, if it is still going on. -/
def Progress.resume
    {κ σ β : Type}
    (progress : Progress Base κ σ β ε)
    (next : κ → σ → Progress Base κ σ β ε) :
    Progress Base κ σ β ε :=
  match progress.status with
  | .running counters state =>
      { status := (next counters state).status
        calls := progress.calls ++ (next counters state).calls
        consumed := progress.consumed + (next counters state).consumed }
  | .stopped _ => progress
  | .aborted _ => progress

namespace Progress

variable {κ σ β : Type} {progress : Progress Base κ σ β ε}
variable {next : κ → σ → Progress Base κ σ β ε}

/-- A run that is still going on goes on from where it stands. -/
theorem resume_of_running
    {counters : κ}
    {state : σ}
    (running : progress.status = .running counters state) :
    progress.resume next =
      { status := (next counters state).status
        calls := progress.calls ++ (next counters state).calls
        consumed := progress.consumed + (next counters state).consumed } := by
  simp only [resume, running]

/-- A run that has ended stays as it is. -/
theorem resume_of_ended
    (ended :
      ∀ counters state, progress.status ≠ .running counters state) :
    progress.resume next = progress := by
  cases status : progress.status with
  | running counters state =>
      exact absurd status (ended counters state)
  | stopped | aborted =>
      simp only [resume, status]

/-- An element in front of a run is in front of what the run goes on to. -/
theorem resume_after
    (progress : Progress Base κ σ β ε)
    (calls : List (Call Base))
    (next : κ → σ → Progress Base κ σ β ε) :
    (progress.after calls).resume next = (progress.resume next).after calls := by
  obtain ⟨status, recorded, consumed⟩ := progress
  cases status with
  | running counters state =>
      simp [resume, after, Nat.add_right_comm]
  | stopped | aborted =>
      rfl

end Progress

/-- A loop over a concatenation resumes after the first part. -/
theorem loopWith_append
    (chain : Chain Base ε context source element)
    (terminal : Terminal Base ε context element output)
    (environment : context.Value Base)
    (first later : List (source.Value Base))
    (raw : Nat)
    (counters : chain.Counters)
    (state : terminal.State) :
    loopWith Nat.succ chain terminal environment
        (first ++ later) raw counters state =
      (loopWith Nat.succ chain terminal environment
        first raw counters state).resume
          (loopWith Nat.succ chain terminal environment
            later (raw + first.length)) := by
  induction first generalizing raw counters state with
  | nil =>
      simp [loopWith, Progress.resume]
  | cons value rest inductionHypothesis =>
      have position : raw.succ + rest.length = raw + (value :: rest).length := by
        simp only [List.length_cons]
        omega
      simp only [List.cons_append, loopWith, inductionHypothesis, position]
      generalize
        chain.feedWith Nat.succ value raw environment counters = fed
      rcases fed.outcome with reason | (_ | ⟨survivor, index⟩)
      · rfl
      · exact (Progress.resume_after _ _ _).symm
      · rcases accepted :
            terminal.accept state survivor index environment with
          reason | (next | result)
        · simp only [accepted]
          rfl
        · simp only [accepted]
          exact (Progress.resume_after _ _ _).symm
        · simp only [accepted]
          rfl

namespace Fused

/--
A run over a longer input: one that has stopped or aborted stays as it is, and one
that has not goes on from its counters and its state.
-/
theorem run_append
    (procedure : Fused Base ε context source element output)
    (first later : List (source.Value Base))
    (environment : context.Value Base) :
    procedure.run (first ++ later) environment =
      match procedure.ending first environment with
      | .running counters state =>
          let continued :=
            loopWith Nat.succ procedure.chain procedure.terminal environment
              later first.length counters state
          { outcome := procedure.terminal.conclude continued.status
            calls := (procedure.run first environment).calls ++ continued.calls
            consumed := first.length + continued.consumed }
      | .stopped _ => procedure.run first environment
      | .aborted _ => procedure.run first environment := by
  have sameRoom :
      procedure.run (first ++ later) environment =
        runWith Nat.succ procedure.chain procedure.terminal
          (procedure.plan.shape.capacity first.length) (first ++ later)
          environment :=
    runWith_capacity _ _ _ _ _ _ _
  rw [sameRoom, runWith, loopWith_append, Nat.zero_add]
  cases ended : procedure.ending first environment with
  | running counters state =>
      have all := consumed_of_running ended
      rw [Progress.resume_of_running ended]
      simp only [all]
      rfl
  | stopped | aborted =>
      rw [Progress.resume_of_ended]
      · rfl
      · intro counters state running
        rw [ending, running] at ended
        contradiction

end Fused

end OnePass
