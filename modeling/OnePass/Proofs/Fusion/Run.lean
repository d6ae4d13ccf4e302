import OnePass.Procedure
import OnePass.Proofs.Fusion.Chain
import OnePass.Proofs.Looping
import OnePass.Proofs.Staged.Terminal

namespace OnePass

/-!
# Fusion preserves meaning

A run takes elements one by one; stage-by-stage evaluation takes whole lists.  On
the elements that a run takes, both come to the same result or the same abort.
Elements that a run does not take can only add an abort to stage-by-stage
evaluation, never another result, and a run whose terminal does not search takes
all elements.
-/

variable {Name : Type} {Base : Name → Type} {ε : Type}
variable {context source element output : ValueType Name}
variable {chain : Chain Base ε context source element}
variable {terminal : Terminal Base ε context element output}
variable {environment : context.Value Base}

/-! ## Chains and terminals together -/

/-- The terminal is applied to what leaves the chain. -/
theorem staged_of_ok
    {values : List (source.Value Base)}
    {survivors : List (element.Value Base)}
    (passed : (chain.staged environment values).outcome = .ok survivors) :
    staged chain terminal values environment =
      { outcome :=
          (terminal.staged chain.length environment survivors).outcome
        calls :=
          (chain.staged environment values).calls ++
            (terminal.staged chain.length environment survivors).calls } := by
  simp only [staged, passed]

/-- The terminal is not reached if the chain aborts. -/
theorem staged_of_error
    {values : List (source.Value Base)}
    {reason : ε}
    (aborted : (chain.staged environment values).outcome = .error reason) :
    staged chain terminal values environment =
      { outcome := .error reason
        calls := (chain.staged environment values).calls } := by
  simp only [staged, aborted]

/-- An evaluation that finishes lets every element pass the chain first. -/
theorem exists_survivors_of_staged
    {values : List (source.Value Base)}
    {result : output.Value Base}
    (finished : (staged chain terminal values environment).outcome = .ok result)
    (capacity : Nat) :
    ∃ survivors,
      (chain.staged environment values).outcome = .ok survivors ∧
        (terminal.absorb environment (terminal.start capacity)
          survivors.zipIdx).map terminal.resultOf = .ok result := by
  cases passed : (chain.staged environment values).outcome with
  | error reason =>
      rw [staged_of_error passed] at finished
      contradiction
  | ok survivors =>
      rw [staged_of_ok passed,
        terminal.staged_outcome chain.length capacity] at finished
      exact ⟨survivors, rfl, finished⟩

/-- More input never undoes an abort. -/
theorem staged_append_ne_ok
    {first : List (source.Value Base)}
    {reason : ε}
    (aborted :
      (staged chain terminal first environment).outcome = .error reason)
    (later : List (source.Value Base))
    (result : output.Value Base) :
    (staged chain terminal (first ++ later) environment).outcome ≠
      .ok result := by
  intro finished
  obtain ⟨survivors, passed, absorbed⟩ := exists_survivors_of_staged finished 0
  obtain ⟨begun, rest, rfl, firstPassed⟩ :=
    Chain.exists_staged_of_append passed
  rw [staged_of_ok firstPassed,
    terminal.staged_outcome chain.length 0] at aborted
  rw [List.zipIdx_append, terminal.absorb_append] at absorbed
  rcases begunAbsorbed :
      terminal.absorb environment (terminal.start 0) begun.zipIdx with
    abort | (state | ended)
  · simp [begunAbsorbed, Except.map] at absorbed
  · simp [begunAbsorbed, Except.map] at aborted
  · simp [begunAbsorbed, Except.map] at aborted

/-! ## Where a run stands -/

/--
A run that stands at these counters and this state has taken these elements, and
these survivors have reached its terminal.
-/
structure Standing
    (chain : Chain Base ε context source element)
    (terminal : Terminal Base ε context element output)
    (environment : context.Value Base)
    (capacity : Nat)
    (taken : List (source.Value Base))
    (counters : chain.Counters)
    (state : terminal.State)
    (survivors : List (element.Value Base)) :
    Prop where
  reached : chain.Reached environment taken counters survivors
  absorbed :
    terminal.absorb environment (terminal.start capacity) survivors.zipIdx =
      .ok (.proceed state)

/-- Every run starts out having taken nothing. -/
theorem standing_start
    (chain : Chain Base ε context source element)
    (terminal : Terminal Base ε context element output)
    (environment : context.Value Base)
    (capacity : Nat) :
    Standing chain terminal environment capacity
      [] chain.fresh (terminal.start capacity) [] where
  reached := chain.reached_fresh environment
  absorbed := rfl

namespace Standing

variable {capacity : Nat} {taken : List (source.Value Base)}
variable {counters : chain.Counters} {state : terminal.State}
variable {survivors : List (element.Value Base)}

/-- An element that the chain drops changes only the counters. -/
theorem dropped
    (standing :
      Standing chain terminal environment capacity
        taken counters state survivors)
    {value : source.Value Base}
    (left :
      (chain.feedWith Nat.succ value taken.length environment
        counters).outcome = .ok none) :
    Standing chain terminal environment capacity (taken ++ [value])
      (chain.feedWith Nat.succ value taken.length environment
        counters).counters
      state survivors where
  reached := standing.reached.dropped left
  absorbed := standing.absorbed

/-- Taking in one more survivor is one more step of the terminal. -/
theorem absorb_snoc
    (standing :
      Standing chain terminal environment capacity
        taken counters state survivors)
    (survivor : element.Value Base) :
    terminal.absorb environment (terminal.start capacity)
        (survivors ++ [survivor]).zipIdx =
      terminal.accept state survivor survivors.length environment := by
  rw [List.zipIdx_append, terminal.absorb_append, standing.absorbed]
  simp only [Nat.zero_add, List.zipIdx_cons, List.zipIdx_nil, Terminal.absorb]
  rcases terminal.accept state survivor survivors.length environment with
    reason | (next | result) <;>
    rfl

/-- An element that the terminal takes in is one more survivor. -/
theorem proceeded
    (standing :
      Standing chain terminal environment capacity
        taken counters state survivors)
    {value : source.Value Base}
    {survivor : element.Value Base}
    {index : Nat}
    {next : terminal.State}
    (left :
      (chain.feedWith Nat.succ value taken.length environment
        counters).outcome = .ok (some (survivor, index)))
    (accepted :
      terminal.accept state survivor index environment =
        .ok (.proceed next)) :
    Standing chain terminal environment capacity (taken ++ [value])
      (chain.feedWith Nat.succ value taken.length environment
        counters).counters
      next (survivors ++ [survivor]) := by
  obtain ⟨rfl, reached⟩ := standing.reached.handed left
  exact ⟨reached, (standing.absorb_snoc survivor).trans accepted⟩

end Standing

/-! ## How a run ends -/

/--
What the status of a run says about stage-by-stage evaluation of the elements it
has taken.
-/
def Status.Agrees
    (chain : Chain Base ε context source element)
    (terminal : Terminal Base ε context element output)
    (environment : context.Value Base)
    (capacity : Nat)
    (taken : List (source.Value Base)) :
    Status chain.Counters terminal.State (output.Value Base) ε → Prop
  | .running counters state =>
      ∃ survivors,
        Standing chain terminal environment capacity
          taken counters state survivors
  | .stopped result =>
      ∃ survivors,
        (chain.staged environment taken).outcome = .ok survivors ∧
          terminal.absorb environment (terminal.start capacity)
            survivors.zipIdx = .ok (.stop result)
  | .aborted reason =>
      (staged chain terminal taken environment).outcome = .error reason

/-- On the elements taken, a run concludes what stage-by-stage evaluation yields. -/
theorem Status.Agrees.staged_outcome
    {capacity : Nat}
    {taken : List (source.Value Base)}
    {status : Status chain.Counters terminal.State (output.Value Base) ε}
    (agrees : status.Agrees chain terminal environment capacity taken) :
    (staged chain terminal taken environment).outcome =
      terminal.conclude status := by
  cases status with
  | running counters state =>
      obtain ⟨survivors, standing⟩ := agrees
      rw [staged_of_ok standing.reached.staged_outcome,
        terminal.staged_outcome chain.length capacity, standing.absorbed]
      rfl
  | stopped result =>
      obtain ⟨survivors, passed, absorbed⟩ := agrees
      rw [staged_of_ok passed,
        terminal.staged_outcome chain.length capacity, absorbed]
      rfl
  | aborted reason =>
      exact agrees

/--
Wherever a run stands, its status after further elements agrees with stage-by-stage
evaluation of all elements it has then taken.
-/
theorem loopWith_agrees
    {capacity : Nat}
    {taken : List (source.Value Base)}
    {counters : chain.Counters}
    {state : terminal.State}
    {survivors : List (element.Value Base)}
    (standing :
      Standing chain terminal environment capacity
        taken counters state survivors)
    (rest : List (source.Value Base)) :
    let progress :=
      loopWith Nat.succ chain terminal environment
        rest taken.length counters state
    progress.status.Agrees chain terminal environment capacity
      (taken ++ rest.take progress.consumed) := by
  induction rest generalizing taken counters state survivors with
  | nil =>
      simpa [loopWith, Status.Agrees] using ⟨survivors, standing⟩
  | cons value rest inductionHypothesis =>
      intro progress
      have step :=
        loopWith_cons Nat.succ chain terminal environment value rest
          taken.length counters state
      -- An element that lets the run go on moves from the rest to those taken.
      have moved (count : Nat) :
          taken ++ (value :: rest).take (count + 1) =
            (taken ++ [value]) ++ rest.take count := by
        simp
      have length_taken : taken.length.succ = (taken ++ [value]).length := by
        simp
      change ElementTaken _ _ _ _ _ _ _ _ progress at step
      generalize progress = progress at step
      cases step with
      | chainAborts left =>
          simp only [moved, List.take_zero, List.append_nil, Status.Agrees]
          rw [staged_of_error (standing.reached.aborted left)]
      | chainDrops left =>
          simp only [Progress.after, moved, length_taken]
          exact inductionHypothesis (standing.dropped left)
      | terminalAborts left accepted =>
          obtain ⟨rfl, reached⟩ := standing.reached.handed left
          simp only [moved, List.take_zero, List.append_nil, Status.Agrees]
          rw [staged_of_ok reached.staged_outcome,
            terminal.staged_outcome chain.length capacity,
            standing.absorb_snoc, accepted]
          rfl
      | terminalStops left accepted =>
          obtain ⟨rfl, reached⟩ := standing.reached.handed left
          simp only [moved, List.take_zero, List.append_nil, Status.Agrees]
          exact ⟨_, reached.staged_outcome,
            (standing.absorb_snoc _).trans accepted⟩
      | terminalProceeds left accepted =>
          simp only [Progress.after, moved, length_taken]
          exact inductionHypothesis (standing.proceeded left accepted)

/-- A stop of the terminal is not undone by more input. -/
theorem staged_append_of_stopped
    {capacity : Nat}
    {taken : List (source.Value Base)}
    {result : output.Value Base}
    (agrees :
      (Status.stopped result :
        Status chain.Counters terminal.State _ ε).Agrees
          chain terminal environment capacity taken)
    {later : List (source.Value Base)}
    {finished : output.Value Base}
    (evaluated :
      (staged chain terminal (taken ++ later) environment).outcome =
        .ok finished) :
    finished = result := by
  obtain ⟨begun, passed, absorbed⟩ := agrees
  obtain ⟨survivors, allPassed, allAbsorbed⟩ :=
    exists_survivors_of_staged evaluated capacity
  obtain ⟨first, rest, rfl, firstPassed⟩ :=
    Chain.exists_staged_of_append allPassed
  rw [firstPassed, Except.ok.injEq] at passed
  subst first
  rw [List.zipIdx_append, terminal.absorb_append, absorbed] at allAbsorbed
  simpa [Except.map, Terminal.resultOf] using allAbsorbed.symm

/-- Collecting, folding and joining never stop a run. -/
theorem Terminal.absorb_ne_stop
    (unhurried :
      terminal.kind? ∈ [none, Option.some .reduce, Option.some .join])
    (state : terminal.State)
    (values : List (element.Value Base × Nat))
    (result : output.Value Base) :
    terminal.absorb environment state values ≠ .ok (.stop result) := by
  cases terminal with
  | collect =>
      simp [absorb_collect]
  | reduce reducer seed =>
      rw [absorb_reduce]
      cases foldIndexed
          (fun state value position =>
            reducer.call (state, value) position environment)
          state values <;>
        simp [Except.map]
  | join separator display =>
      intro stopped
      induction values generalizing state with
      | nil =>
          simp [absorb] at stopped
      | cons pair rest inductionHypothesis =>
          exact inductionHypothesis _ stopped
  | find | findIndex | some | every =>
      simp [kind?] at unhurried

namespace Fused

variable
  {procedure : Fused Base ε context source element output}
  {elements : List (source.Value Base)}

/-- Where the run of a procedure stands at its end. -/
def ending
    (procedure : Fused Base ε context source element output)
    (elements : List (source.Value Base))
    (environment : context.Value Base) :
    Status procedure.chain.Counters procedure.terminal.State
      (output.Value Base) ε :=
  (loopWith Nat.succ procedure.chain procedure.terminal environment elements 0
    procedure.chain.fresh
    (procedure.terminal.start
      (procedure.plan.shape.capacity elements.length))).status

/-- A run answers as where it stands at its end says. -/
theorem outcome_run
    (procedure : Fused Base ε context source element output)
    (elements : List (source.Value Base))
    (environment : context.Value Base) :
    (procedure.run elements environment).outcome =
      procedure.terminal.conclude (procedure.ending elements environment) :=
  rfl

/-- The end of a run agrees with stage-by-stage evaluation of what it has taken. -/
theorem ending_agrees
    (procedure : Fused Base ε context source element output)
    (elements : List (source.Value Base))
    (environment : context.Value Base) :
    (procedure.ending elements environment).Agrees
      procedure.chain procedure.terminal environment
      (procedure.plan.shape.capacity elements.length)
      (elements.take (procedure.run elements environment).consumed) :=
  loopWith_agrees
    (standing_start procedure.chain procedure.terminal environment
      (procedure.plan.shape.capacity elements.length))
    elements

/-- A run that is not ended early has taken the whole input. -/
theorem consumed_of_ending
    {counters : procedure.chain.Counters}
    {state : procedure.terminal.State}
    (running :
      procedure.ending elements environment = .running counters state) :
    (procedure.run elements environment).consumed = elements.length :=
  consumed_of_running running

/-- A run finishes whenever stage-by-stage evaluation does, with the same result. -/
theorem run_of_staged
    {result : output.Value Base}
    (evaluated :
      (staged procedure.chain procedure.terminal elements
        environment).outcome = .ok result) :
    (procedure.run elements environment).outcome = .ok result := by
  have agrees := procedure.ending_agrees elements environment
  have split :=
    List.take_append_drop
      (procedure.run elements environment).consumed elements
  rw [outcome_run]
  cases ended : procedure.ending elements environment with
  | running counters state =>
      rw [ended, consumed_of_ending ended, List.take_length] at agrees
      rw [← agrees.staged_outcome, evaluated]
  | stopped early =>
      rw [ended] at agrees
      rw [← split] at evaluated
      rw [staged_append_of_stopped agrees evaluated]
      rfl
  | aborted reason =>
      rw [ended] at agrees
      rw [← split] at evaluated
      exact (staged_append_ne_ok agrees _ _ evaluated).elim

/-- A run that returns and cannot stop early ends with its input. -/
theorem running_of_returned
    (unhurried :
      procedure.terminal.kind? ∈ [none, some .reduce, some .join])
    {result : output.Value Base}
    (returned : (procedure.run elements environment).outcome = .ok result) :
    ∃ counters state,
      procedure.ending elements environment = .running counters state := by
  have agrees := procedure.ending_agrees elements environment
  rw [outcome_run] at returned
  cases ended : procedure.ending elements environment with
  | running counters state =>
      exact ⟨counters, state, rfl⟩
  | stopped early =>
      rw [ended] at agrees
      obtain ⟨survivors, _, absorbed⟩ := agrees
      exact (Terminal.absorb_ne_stop unhurried _ _ _ absorbed).elim
  | aborted reason =>
      rw [ended] at returned
      contradiction

/-- A run that is not ended early finishes as stage-by-stage evaluation does. -/
theorem staged_of_run
    (unhurried :
      procedure.terminal.kind? ∈ [none, some .reduce, some .join])
    {result : output.Value Base}
    (returned : (procedure.run elements environment).outcome = .ok result) :
    (staged procedure.chain procedure.terminal elements environment).outcome =
      .ok result := by
  obtain ⟨counters, state, running⟩ := running_of_returned unhurried returned
  have agrees := (procedure.ending_agrees elements environment).staged_outcome
  rw [consumed_of_ending running, List.take_length, ← outcome_run] at agrees
  exact agrees.trans returned

/-- A run comes to what stage-by-stage evaluation of the elements taken comes to. -/
theorem run_of_taken
    (procedure : Fused Base ε context source element output)
    (elements : List (source.Value Base))
    (environment : context.Value Base) :
    (procedure.run elements environment).outcome =
      (staged procedure.chain procedure.terminal
        (elements.take (procedure.run elements environment).consumed)
        environment).outcome := by
  rw [outcome_run, (procedure.ending_agrees elements environment).staged_outcome]

/--
Fusion preserves meaning.  A run returns whatever stage-by-stage evaluation of its
input finishes with.  If the terminal collects, folds or joins, the run returns
only that, so that both abort on the same inputs.  Whatever the terminal, the run
comes to the result or abort of stage-by-stage evaluation on the elements taken.
-/
theorem run_preserves_staged_meaning
    (procedure : Fused Base ε context source element output)
    (elements : List (source.Value Base))
    (environment : context.Value Base) :
    (∀ result,
      (staged procedure.chain procedure.terminal elements
        environment).outcome = .ok result →
      (procedure.run elements environment).outcome = .ok result) ∧
    (procedure.terminal.kind? ∈ [none, some .reduce, some .join] →
      (∀ result,
        (procedure.run elements environment).outcome = .ok result ↔
          (staged procedure.chain procedure.terminal elements
            environment).outcome = .ok result) ∧
      ((∃ reason,
        (procedure.run elements environment).outcome = .error reason) ↔
          ∃ reason,
            (staged procedure.chain procedure.terminal elements
              environment).outcome = .error reason)) ∧
    (procedure.run elements environment).outcome =
      (staged procedure.chain procedure.terminal
        (elements.take (procedure.run elements environment).consumed)
        environment).outcome := by
  refine ⟨fun result => run_of_staged, fun unhurried => ?_,
    procedure.run_of_taken elements environment⟩
  have same (result : output.Value Base) :
      (procedure.run elements environment).outcome = .ok result ↔
        (staged procedure.chain procedure.terminal elements
          environment).outcome = .ok result :=
    ⟨staged_of_run unhurried, run_of_staged⟩
  refine ⟨same, ?_⟩
  cases returned : (procedure.run elements environment).outcome with
  | error reason =>
      cases evaluated :
          (staged procedure.chain procedure.terminal elements
            environment).outcome with
      | error _ =>
          simp
      | ok result =>
          rw [(same result).mpr evaluated] at returned
          contradiction
  | ok result =>
      simp [(same result).mp returned]

end Fused

/-- Whether a number is odd. -/
def isOdd (value : Nat) : Bool :=
  value % 2 == 1

namespace Stage

/-- Keeps the odd numbers. -/
def keepingOdds : Stage (fun _ : Empty => Unit) String .unit .position .position :=
  .filter (.plain fun value _ => .ok (isOdd value))

/-- Doubles every number. -/
def doubling : Stage (fun _ : Empty => Unit) String .unit .position .position :=
  .map (.plain fun value _ => .ok (2 * value))

end Stage

namespace Fused

/-- Doubles the odd numbers of its input, and aborts on seven. -/
def doubledOdds :
    Fused (fun _ : Empty => Unit) String .unit .position .position
      (.list .position) where
  identity := 0
  chain :=
    (Chain.source.link .keepingOdds).link
      (.map (.plain fun value _ =>
        if value = 7 then .error "seven" else .ok (2 * value)))
  terminal := .collect
  plan := .ofQueue (.ofList [.plain .filter, .plain .map])

/-- A run that returns and one that aborts, as stage-by-stage evaluation does. -/
theorem run_doubledOdds :
    (doubledOdds.run [1, 2, 3] ()).outcome = .ok [2, 6] ∧
      ∃ reason, (doubledOdds.run [1, 7, 3] ()).outcome = .error reason :=
  ⟨(run_preserves_staged_meaning doubledOdds [1, 2, 3] ()).1 [2, 6] rfl,
    ((run_preserves_staged_meaning doubledOdds [1, 7, 3] ()).2.1
      (by decide)).2.mpr ⟨"seven", rfl⟩⟩

end Fused

end OnePass
