import OnePass.Proofs.Calls.Record
import OnePass.Proofs.Declaring

namespace OnePass

/-!
# What a plan says about its runs

A plan is made from the declared stages alone, a run is driven by the chain and the
terminal.  What the plan says comes true nevertheless: a chain without filters hands
on as many elements as it takes, any chain hands on at most as many, a collection holds
what reaches it in the room reserved for it, and only a search leaves elements of its
input behind.
-/

variable {Name : Type} {Base : Name → Type} {ε : Type}
variable {context source before after element output : ValueType Name}

/-! ## How many elements leave a chain -/

/-- A stage hands on at most as many elements as it receives. -/
theorem Stage.length_pass_le
    {stage : Stage Base ε context before after}
    {place position : Nat}
    {environment : context.Value Base}
    {values : List (before.Value Base)}
    {handed : List (after.Value Base)}
    (passed : (stage.pass place environment values position).outcome = .ok handed) :
    handed.length ≤ values.length := by
  induction values generalizing position handed with
  | nil =>
      simp only [pass_nil, Except.ok.injEq] at passed
      subst handed
      exact Nat.le_refl 0
  | cons value rest inductionHypothesis =>
      simp only [pass_cons] at passed
      cases applied : stage.apply value position environment with
      | error reason =>
          simp [applied] at passed
      | ok handed? =>
          cases restPassed :
              (stage.pass place environment rest (position + 1)).outcome with
          | error reason =>
              simp [applied, restPassed, Except.map] at passed
          | ok restHanded =>
              simp only [applied, restPassed, Except.map,
                Except.ok.injEq] at passed
              subst handed
              have restBound := inductionHypothesis restPassed
              have single : handed?.toList.length ≤ 1 := by
                cases handed? <;> simp
              simp only [List.length_append, List.length_cons]
              omega

namespace Chain

variable {chain : Chain Base ε context source element}
variable {environment : context.Value Base}
variable {values : List (source.Value Base)}
variable {survivors : List (element.Value Base)}

/-- What leaves a chain is what its last stage hands on of what leaves the others. -/
theorem exists_between_of_staged
    {earlier : Chain Base ε context source before}
    {stage : Stage Base ε context before element}
    (passed :
      ((earlier.link stage).staged environment values).outcome =
        .ok survivors) :
    ∃ between,
      (earlier.staged environment values).outcome = .ok between ∧
        (stage.pass earlier.length environment between 0).outcome =
          .ok survivors := by
  cases earlierPassed : (earlier.staged environment values).outcome with
  | error reason =>
      rw [staged_link_of_error earlierPassed] at passed
      contradiction
  | ok between =>
      rw [staged_link_of_ok earlierPassed] at passed
      exact ⟨between, rfl, passed⟩

/-- A chain hands on at most as many elements as it takes. -/
theorem length_staged_le
    (passed : (chain.staged environment values).outcome = .ok survivors) :
    survivors.length ≤ values.length := by
  induction chain with
  | source =>
      cases passed
      exact Nat.le_refl _
  | link earlier stage inductionHypothesis =>
      obtain ⟨between, earlierPassed, stagePassed⟩ :=
        exists_between_of_staged passed
      exact Nat.le_trans (Stage.length_pass_le stagePassed)
        (inductionHypothesis earlierPassed)

/-- A chain without filters hands on as many elements as it takes. -/
theorem length_staged
    (unfiltered :
      (chain.descriptors.any fun stage => stage.kind == .filter) = false)
    (passed : (chain.staged environment values).outcome = .ok survivors) :
    survivors.length = values.length := by
  induction chain with
  | source =>
      cases passed
      rfl
  | link earlier stage inductionHypothesis =>
      simp only [descriptors, List.any_append, Bool.or_eq_false_iff] at unfiltered
      obtain ⟨earlierUnfiltered, stageUnfiltered⟩ := unfiltered
      have notFilter : stage.kind ≠ .filter := by
        simpa [Stage.descriptor] using stageUnfiltered
      obtain ⟨between, earlierPassed, stagePassed⟩ :=
        exists_between_of_staged passed
      exact (Stage.length_pass notFilter stagePassed).trans
        (inductionHypothesis earlierUnfiltered earlierPassed)

end Chain

/-! ## What a collection holds -/

/-- The number of items of a value that is a list. -/
def ValueType.itemCount? :
    (type : ValueType Name) → (value : type.Value Base) → Option Nat
  | .list _, items => some items.length
  | _, _ => none

namespace Terminal

/-- The room reserved in a state; only a collection reserves any. -/
def reserved :
    (terminal : Terminal Base ε context element output) →
      (state : terminal.State) →
      Nat
  | .collect, buffer => buffer.reserved
  | .reduce _ _, _ => 0
  | .join _ _, _ => 0
  | .find _, _ => 0
  | .findIndex _, _ => 0
  | .some _, _ => 0
  | .every _, _ => 0

/-- A collection holds what it has taken in, in the room reserved at the start. -/
theorem collected_of_absorbed
    {terminal : Terminal Base ε context element output}
    (collects : terminal.kind? = none)
    {environment : context.Value Base}
    {capacity : Nat}
    {survivors : List (element.Value Base)}
    {state : terminal.State}
    (absorbed :
      terminal.absorb environment (terminal.start capacity) survivors.zipIdx =
        .ok (.proceed state)) :
    output.itemCount? (terminal.finish state) = Option.some survivors.length ∧
      terminal.reserved state = capacity := by
  cases terminal with
  | collect =>
      rw [absorb_collect] at absorbed
      cases absorbed
      simp [ValueType.itemCount?, finish, reserved, start]
  | reduce | join | find | findIndex | some | every =>
      contradiction

/-- A terminal whose kind does not stop early collects, folds or joins. -/
theorem unhurried_of_shortCircuits
    {terminal : Terminal Base ε context element output}
    (unhurried : terminal.kind?.any StageKind.shortCircuits = false) :
    terminal.kind? ∈ [none, Option.some .reduce, Option.some .join] := by
  cases terminal with
  | collect | reduce | join =>
      simp [kind?]
  | find | findIndex | some | every =>
      contradiction

end Terminal

/-! ## How a run ends that nothing aborts -/

/-- The later ones of calls that are free of aborts are free of aborts. -/
theorem AbortFree.of_append
    {chain : Chain Base ε context source element}
    {terminal : Terminal Base ε context element output}
    {environment : context.Value Base}
    {capacity : Nat}
    {earlier first later : List (Call Base)}
    (free :
      AbortFree chain terminal environment capacity earlier (first ++ later)) :
    AbortFree chain terminal environment capacity (earlier ++ first) later := by
  induction first generalizing earlier with
  | nil =>
      simpa using free
  | cons call rest inductionHypothesis =>
      simpa using inductionHypothesis free.2

namespace Fused

variable {procedure : Fused Base ε context source element output}
variable {elements : List (source.Value Base)}
variable {environment : context.Value Base}

/-- The room reserved in the state that a run ends in, if it ends with its input. -/
def reservedAtEnd
    (procedure : Fused Base ε context source element output)
    (elements : List (source.Value Base))
    (environment : context.Value Base) :
    Option Nat :=
  match procedure.ending elements environment with
  | .running _ state => some (procedure.terminal.reserved state)
  | .stopped _ => none
  | .aborted _ => none

/-- A run returns if no call in its record aborts. -/
theorem returned_of_abortFree
    (free :
      AbortFree procedure.chain procedure.terminal environment
        (procedure.plan.shape.capacity elements.length)
        [] (procedure.run elements environment).calls) :
    ∃ result, (procedure.run elements environment).outcome = .ok result := by
  cases answered : (procedure.run elements environment).outcome with
  | ok result =>
      exact ⟨result, rfl⟩
  | error reason =>
      -- The record of a run that aborts ends in a call that does.
      obtain ⟨calls, last, shape, _, aborts⟩ := calls_of_aborted answered
      rw [shape] at free
      exact absurd aborts (free.of_append.1 reason)

/--
A collection that returns has as many items as leave the chain, in the room that the
plan asks for.
-/
theorem collected_of_returned
    (collects : procedure.terminal.kind? = none)
    {result : output.Value Base}
    (returned : (procedure.run elements environment).outcome = .ok result) :
    ∃ survivors,
      (procedure.chain.staged environment elements).outcome = .ok survivors ∧
        output.itemCount? result = some survivors.length ∧
        procedure.reservedAtEnd elements environment =
          some (procedure.plan.shape.capacity elements.length) := by
  -- The state that the run ends in has taken in all that leaves the chain.
  obtain ⟨counters, state, running⟩ :=
    running_of_returned (by simp [collects]) returned
  have agrees := procedure.ending_agrees elements environment
  rw [running, consumed_of_ending running, List.take_length] at agrees
  obtain ⟨survivors, standing⟩ := agrees
  obtain ⟨counted, reserved⟩ :=
    Terminal.collected_of_absorbed collects standing.absorbed
  have finished : procedure.terminal.finish state = result := by
    rw [outcome_run, running] at returned
    exact Except.ok.inj returned
  refine ⟨survivors, standing.reached.staged_outcome, ?_, ?_⟩
  · rw [← finished]
    exact counted
  · simp only [reservedAtEnd, running, reserved]

end Fused

namespace Pipeline

section Declared

variable {identity : Nat} {script : Script Base ε context source element}
variable {ending : Ending Base ε context element output}

/-- A pipeline whose shape is not that of a scalar collects. -/
theorem collects_of_shape
    {shape : Shape}
    (planned :
      (((new identity).follow script).conclude
        ending).procedure.plan.shape = shape)
    (listed : ∀ kind, shape ≠ .scalar kind) :
    ending.sealedBy.kind? = none := by
  cases declared : ending.sealedBy.kind? with
  | none =>
      rfl
  | some kind =>
      rw [shape_conclude_follow, declared] at planned
      exact absurd planned.symm (listed kind)

/-- A pipeline with one element of output for each of its input has no filter. -/
theorem unfiltered_of_preSized
    (preSized :
      (((new identity).follow script).conclude
        ending).procedure.plan.shape = .preSized) :
    (script.descriptors.any fun stage => stage.kind == .filter) = false := by
  have collects : ending.sealedBy.kind? = none :=
    collects_of_shape preSized (by simp)
  rw [shape_conclude_follow, collects] at preSized
  cases filtered :
      script.descriptors.any fun stage => stage.kind == .filter with
  | false =>
      rfl
  | true =>
      simp [filtered] at preSized

end Declared

/--
The plan predicts the run.  If no call of a run aborts, the run returns.  Planned as
one element for each of the input, its result is a list of just as many, in room
reserved for just as many.  Planned as a list of unknown length, it is a list of at
most as many, for which no room is reserved; neither is any for a scalar.  Unless the
plan says that it may end early, the run takes every element, so that a run that
leaves elements behind has a plan that says so.
-/
theorem plan_predicts_run
    (identity : Nat)
    (script : Script Base ε context source element)
    (ending : Ending Base ε context element output)
    (elements : List (source.Value Base))
    (environment : context.Value Base) :
    let procedure := (((new identity).follow script).conclude ending).procedure
    let room := procedure.plan.shape.capacity elements.length
    let run := procedure.run elements environment
    AbortFree procedure.chain procedure.terminal environment room [] run.calls →
    ∃ result,
      run.outcome = .ok result ∧
      (procedure.plan.shape = .preSized →
        output.itemCount? result = Option.some elements.length ∧
          room = elements.length ∧
          procedure.reservedAtEnd elements environment = Option.some room) ∧
      (procedure.plan.shape = .growable →
        (∃ count ≤ elements.length,
            output.itemCount? result = Option.some count) ∧
          room = 0 ∧
          procedure.reservedAtEnd elements environment = Option.some room) ∧
      (∀ kind, procedure.plan.shape = .scalar kind → room = 0) ∧
      (procedure.plan.shortCircuits = false →
        run.consumed = elements.length) ∧
      (run.consumed < elements.length →
        procedure.plan.shortCircuits = true) := by
  intro procedure room run free
  have chained : procedure.chain = Chain.source.followedBy script := by
    simp only [procedure, conclude_follow]
  have ended : procedure.terminal = ending.sealedBy := by
    simp only [procedure, conclude_follow]
  obtain ⟨result, returned⟩ := Fused.returned_of_abortFree free
  have allTaken (unhurried : procedure.plan.shortCircuits = false) :
      run.consumed = elements.length := by
    rw [shortCircuits_conclude_follow, ← ended] at unhurried
    obtain ⟨counters, state, running⟩ :=
      Fused.running_of_returned
        (Terminal.unhurried_of_shortCircuits unhurried) returned
    exact Fused.consumed_of_ending running
  refine ⟨result, returned, fun preSized => ?_, fun growable => ?_,
    fun kind scalar => ?_, allTaken, fun early => ?_⟩
  · have collects : procedure.terminal.kind? = none := by
      rw [ended]
      exact collects_of_shape preSized (by simp)
    obtain ⟨survivors, passed, counted, reserved⟩ :=
      Fused.collected_of_returned collects returned
    have unfiltered :
        (procedure.chain.descriptors.any fun stage =>
          stage.kind == .filter) = false := by
      rw [chained, Chain.descriptors_followedBy]
      exact unfiltered_of_preSized preSized
    have sameLength := Chain.length_staged unfiltered passed
    refine ⟨sameLength ▸ counted, ?_, reserved⟩
    simp only [room, preSized, Shape.capacity]
  · have collects : procedure.terminal.kind? = none := by
      rw [ended]
      exact collects_of_shape growable (by simp)
    obtain ⟨survivors, passed, counted, reserved⟩ :=
      Fused.collected_of_returned collects returned
    refine ⟨⟨survivors.length, Chain.length_staged_le passed, counted⟩, ?_,
      reserved⟩
    simp only [room, growable, Shape.capacity]
  · simp only [room, scalar, Shape.capacity]
  · cases stops : procedure.plan.shortCircuits with
    | true =>
        rfl
    | false =>
        have all := allTaken stops
        omega

/-- Triples every number, and aborts on seven. -/
def tripling : Script (fun _ : Empty => Unit) String .unit .position .position :=
  .stage
    (.map (.plain fun value _ =>
      if value = 7 then .error "seven" else .ok (3 * value)))
    .done

/-- Three numbers are tripled into a list of three, with room for three. -/
theorem plan_predicts_tripling :
    let procedure := (((new 0).follow tripling).conclude .leaveOpen).procedure
    (procedure.run [1, 2, 3] ()).outcome = .ok [3, 6, 9] ∧
      procedure.reservedAtEnd [1, 2, 3] () = Option.some 3 ∧
      (procedure.run [1, 2, 3] ()).consumed = 3 := by
  intro procedure
  have returned : (procedure.run [1, 2, 3] ()).outcome = .ok [3, 6, 9] :=
    rfl
  obtain ⟨_, _, sized, _, _, taken, _⟩ :=
    plan_predicts_run 0 tripling .leaveOpen [1, 2, 3] ()
      (Fused.abortFree_of_returned returned)
  obtain ⟨_, _, reserved⟩ := sized rfl
  exact ⟨returned, reserved, taken rfl⟩

end Pipeline

end OnePass
