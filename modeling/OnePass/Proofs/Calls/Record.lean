import OnePass.Proofs.Calls.Abort
import OnePass.Proofs.Calls.Mending

namespace OnePass

/-!
# The record of a run

The calls of a fused run, element by element, against those of stage-by-stage
evaluation, stage by stage, and against those of a run none of whose callbacks
abort.
-/

variable {Name : Type} {Base : Name → Type} {ε : Type}
variable {context source element output : ValueType Name}

/-- Before the first call, none of the terminal's calls is recorded. -/
theorem records_nil
    (chain : Chain Base ε context source element)
    (terminal : Terminal Base ε context element output) :
    Records chain terminal [] [] := by
  simp [Records, callsAt, callsOn]

/-- Nothing is called on an empty input. -/
theorem Chain.staged_nil
    (environment : context.Value Base)
    (chain : Chain Base ε context source element) :
    chain.staged environment [] = ⟨.ok [], []⟩ := by
  induction chain with
  | source =>
      rfl
  | link earlier stage inductionHypothesis =>
      simp [staged, inductionHypothesis]

namespace Fused

variable
  {procedure : Fused Base ε context source element output}
  {elements : List (source.Value Base)}
  {environment : context.Value Base}

/-- The procedure with another chain and another terminal. -/
def replace
    (procedure : Fused Base ε context source element output)
    (chain : Chain Base ε context source element)
    (terminal : Terminal Base ε context element output) :
    Fused Base ε context source element output :=
  { procedure with
    chain := chain
    terminal := terminal }

/-- A run answers with an abort exactly if it ends in one. -/
theorem outcome_eq_error
    {reason : ε} :
    (procedure.run elements environment).outcome = .error reason ↔
      procedure.ending elements environment = .aborted reason := by
  rw [outcome_run]
  cases procedure.ending elements environment <;> simp [Terminal.conclude]

/-- A run that returns does not end in an abort. -/
theorem ending_ne_aborted
    {result : output.Value Base}
    (returned : (procedure.run elements environment).outcome = .ok result)
    (reason : ε) :
    procedure.ending elements environment ≠ .aborted reason := by
  intro aborted
  rw [outcome_eq_error.mpr aborted] at returned
  contradiction

/-- A run aborts in the last call of its record, if at all. -/
theorem run_abortsLast
    (procedure : Fused Base ε context source element output)
    (elements : List (source.Value Base))
    (environment : context.Value Base) :
    AbortsLast procedure.chain procedure.terminal environment
      (procedure.plan.shape.capacity elements.length)
      (procedure.ending elements environment)
      [] (procedure.run elements environment).calls :=
  loopWith_abortsLast
    (standing_start procedure.chain procedure.terminal environment
      (procedure.plan.shape.capacity elements.length))
    (records_nil _ _) elements

/-- A run with mended callbacks returns and makes at least the calls of the run. -/
theorem run_replace
    {chain : Chain Base ε context source element}
    {terminal : Terminal Base ε context element output}
    (mends : chain.Mends procedure.chain)
    (terminalMends : terminal.Mends procedure.terminal) :
    (∃ result,
      ((procedure.replace chain terminal).run elements environment).outcome =
        .ok result) ∧
      (procedure.run elements environment).calls <+:
        ((procedure.replace chain terminal).run elements
          environment).calls := by
  constructor
  · cases answered :
        ((procedure.replace chain terminal).run elements
          environment).outcome with
    | ok result =>
        exact ⟨result, rfl⟩
    | error reason =>
        exact absurd (outcome_eq_error.mp answered)
          (loopWith_ne_aborted mends terminalMends reason)
  · exact calls_prefix_loopWith mends terminalMends mends.counts_fresh
      (terminalMends.finish_start _) Nat.succ elements 0

/-- No call in the record of a run that returns aborts. -/
theorem abortFree_of_returned
    {result : output.Value Base}
    (returned : (procedure.run elements environment).outcome = .ok result) :
    AbortFree procedure.chain procedure.terminal environment
      (procedure.plan.shape.capacity elements.length)
      [] (procedure.run elements environment).calls := by
  have ends := procedure.run_abortsLast elements environment
  cases ended : procedure.ending elements environment with
  | running | stopped =>
      rwa [ended] at ends
  | aborted reason =>
      exact absurd ended (ending_ne_aborted returned reason)

/--
A run that returns calls every stage with what stage-by-stage evaluation of the
elements taken calls it with.
-/
theorem callsAt_of_returned
    {result : output.Value Base}
    (returned : (procedure.run elements environment).outcome = .ok result)
    (place : Nat) :
    callsAt place (procedure.run elements environment).calls =
      callsAt place
        (staged procedure.chain procedure.terminal
          (elements.take (procedure.run elements environment).consumed)
          environment).calls := by
  have standing :=
    standing_start procedure.chain procedure.terminal environment
      (procedure.plan.shape.capacity elements.length)
  have projected :=
    loopWith_callsAt standing (ending_ne_aborted returned) place
  rw [standing.staged_calls, Chain.staged_nil] at projected
  simp only [callsOn, List.zipIdx_nil, List.map_nil, ite_self, List.append_nil,
    List.nil_append, callsAt_nil] at projected
  exact projected.symm

/--
The record of a run that aborts ends with the call that aborts, which is the first
to do so.
-/
theorem calls_of_aborted
    {reason : ε}
    (aborted :
      (procedure.run elements environment).outcome = .error reason) :
    ∃ calls last,
      (procedure.run elements environment).calls = calls ++ [last] ∧
        AbortFree procedure.chain procedure.terminal environment
          (procedure.plan.shape.capacity elements.length) [] calls ∧
        CallAborts procedure.chain procedure.terminal environment
          (procedure.plan.shape.capacity elements.length)
          calls last reason := by
  have ends := procedure.run_abortsLast elements environment
  rw [outcome_eq_error.mp aborted] at ends
  exact ends

/--
Order and completeness of the calls of a run.  If it returns, no call in its record
aborts, the record is a sequence of segments, one for each element taken in the
order of the input, and every stage is called with exactly what stage-by-stage
evaluation of the elements taken calls it with.  If it aborts, the record is that of
the run with mended callbacks, whatever these return, cut off after the first call
that aborts.
-/
theorem run_calls_in_order
    (procedure : Fused Base ε context source element output)
    (elements : List (source.Value Base))
    (environment : context.Value Base) :
    (∀ result,
      (procedure.run elements environment).outcome = .ok result →
      AbortFree procedure.chain procedure.terminal environment
          (procedure.plan.shape.capacity elements.length)
          [] (procedure.run elements environment).calls ∧
        (∃ segments,
          (procedure.run elements environment).calls = segments.flatten ∧
            List.Forall₂
              (fun taken segment =>
                IsSegment procedure.chain procedure.terminal environment
                  taken.1 taken.2 segment)
              (elements.take
                (procedure.run elements environment).consumed).zipIdx
              segments) ∧
        ∀ place,
          callsAt place (procedure.run elements environment).calls =
            callsAt place
              (staged procedure.chain procedure.terminal
                (elements.take (procedure.run elements environment).consumed)
                environment).calls) ∧
    (∀ reason,
      (procedure.run elements environment).outcome = .error reason →
      ∃ calls last,
        (procedure.run elements environment).calls = calls ++ [last] ∧
          AbortFree procedure.chain procedure.terminal environment
            (procedure.plan.shape.capacity elements.length) [] calls ∧
          CallAborts procedure.chain procedure.terminal environment
            (procedure.plan.shape.capacity elements.length)
            calls last reason ∧
          ∀ chain terminal,
            chain.Mends procedure.chain →
            terminal.Mends procedure.terminal →
            (∃ result,
              ((procedure.replace chain terminal).run elements
                environment).outcome = .ok result) ∧
              calls ++ [last] <+:
                ((procedure.replace chain terminal).run elements
                  environment).calls) := by
  constructor
  · intro result returned
    exact ⟨abortFree_of_returned returned,
      loopWith_segments (ending_ne_aborted returned),
      callsAt_of_returned returned⟩
  · intro reason aborted
    obtain ⟨calls, last, shape, free, aborts⟩ := calls_of_aborted aborted
    refine ⟨calls, last, shape, free, aborts, ?_⟩
    intro chain terminal mends terminalMends
    rw [← shape]
    exact run_replace mends terminalMends

/-- Doubles the odd numbers of its input, seven among them. -/
def mendedOdds :
    Chain (fun _ : Empty => Unit) String .unit .position .position :=
  (Chain.source.link .keepingOdds).link .doubling

/-- Doubling seven mends the procedure that aborts on it. -/
theorem mendedOdds_mends :
    mendedOdds.Mends doubledOdds.chain := by
  refine .link (.link .source (.filter ?_)) (.map ?_)
  · intro value index environment
    exact ⟨⟨_, rfl⟩, fun result called => called⟩
  · intro value index environment
    refine ⟨⟨_, rfl⟩, fun result called => ?_⟩
    simp only [Callback.call_plain] at called ⊢
    split at called
    · contradiction
    · exact called

/-- The calls of a run that returns, and of one that aborts. -/
theorem calls_doubledOdds :
    (∀ place,
      callsAt place (doubledOdds.run [1, 2, 3] ()).calls =
        callsAt place
          (staged doubledOdds.chain doubledOdds.terminal [1, 2, 3] ()).calls) ∧
      (doubledOdds.run [1, 7, 3] ()).calls <+:
        ((doubledOdds.replace mendedOdds .collect).run [1, 7, 3] ()).calls := by
  obtain ⟨returns, _⟩ := run_calls_in_order doubledOdds [1, 2, 3] ()
  obtain ⟨_, aborts⟩ := run_calls_in_order doubledOdds [1, 7, 3] ()
  obtain ⟨calls, last, shape, _, _, mended⟩ := aborts "seven" rfl
  refine ⟨(returns [2, 6] rfl).2.2, ?_⟩
  rw [shape]
  exact (mended mendedOdds .collect mendedOdds_mends .collect).2

end Fused

end OnePass
