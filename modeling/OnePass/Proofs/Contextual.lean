import OnePass.Proofs.Declaring

namespace OnePass

/-!
# What the context can change

A context reaches a run only through contextual callbacks, and the queue marks the
stages that have one.  If no marked stage tells two contexts apart, then the runs
under the two are the same, call by call.
-/

variable {Name : Type} {Base : Name → Type} {ε : Type}
variable {context source before after element output : ValueType Name}

/-! ## Callbacks that do not tell two contexts apart -/

/-- The callback answers alike in the two contexts, whatever else it receives. -/
def Callback.Indifferent
    {γ α β : Type}
    (first second : γ)
    (callback : Callback ε γ α β) :
    Prop :=
  ∀ value index,
    callback.call value index first = callback.call value index second

/-- A plain callback tells no contexts apart. -/
theorem Callback.indifferent_of_plain
    {γ α β : Type}
    {callback : Callback ε γ α β}
    (plain : callback.isContextual = false)
    (first second : γ) :
    callback.Indifferent first second := by
  cases callback with
  | plain function =>
      intro value index
      rfl
  | contextual function =>
      contradiction

namespace Stage

/-- The stage's callback answers alike in the two contexts. -/
def Indifferent
    (first second : context.Value Base) :
    Stage Base ε context before after → Prop
  | .filter predicate => predicate.Indifferent first second
  | .map mapper => mapper.Indifferent first second
  | .forEach effect => effect.Indifferent first second

variable {stage : Stage Base ε context before after}
variable {first second : context.Value Base}

/-- A stage that is not contextual tells no contexts apart. -/
theorem indifferent_of_plain
    (plain : stage.isContextual = false) :
    stage.Indifferent first second := by
  cases stage <;> exact Callback.indifferent_of_plain plain first second

/-- An indifferent stage makes the same of an element in both contexts. -/
theorem Indifferent.apply_eq
    (indifferent : stage.Indifferent first second)
    (value : before.Value Base)
    (index : Nat) :
    stage.apply value index first = stage.apply value index second := by
  cases stage <;> simp only [apply, indifferent value index]

end Stage

namespace Terminal

/-- The terminal's callback, if it has one, answers alike in the two contexts. -/
def Indifferent
    (first second : context.Value Base) :
    Terminal Base ε context element output → Prop
  | .collect => True
  | .reduce reducer _ => reducer.Indifferent first second
  | .join _ _ => True
  | .find predicate => predicate.Indifferent first second
  | .findIndex predicate => predicate.Indifferent first second
  | .some predicate => predicate.Indifferent first second
  | .every predicate => predicate.Indifferent first second

variable {terminal : Terminal Base ε context element output}
variable {first second : context.Value Base}

/-- A terminal that is not contextual tells no contexts apart. -/
theorem indifferent_of_plain
    (plain : terminal.isContextual = false) :
    terminal.Indifferent first second := by
  cases terminal with
  | collect | join =>
      trivial
  | reduce | find | findIndex | some | every =>
      exact Callback.indifferent_of_plain plain first second

/-- A contextual terminal is declared by a stage that is marked so. -/
theorem exists_descriptor_of_contextual
    (contextual : terminal.isContextual = true) :
    ∃ descriptor,
      terminal.descriptor? = Option.some descriptor ∧
        descriptor.contextual = true := by
  cases terminal with
  | collect | join =>
      contradiction
  | reduce | find | findIndex | some | every =>
      exact ⟨_, rfl, contextual⟩

/-- An indifferent terminal takes an element in alike in both contexts. -/
theorem Indifferent.accept_eq
    (indifferent : terminal.Indifferent first second)
    (state : terminal.State)
    (value : element.Value Base)
    (index : Nat) :
    terminal.accept state value index first =
      terminal.accept state value index second := by
  cases terminal with
  | collect | join =>
      rfl
  | reduce =>
      simp only [accept, indifferent (state, value) index]
  | find | findIndex | some | every =>
      simp only [accept, indifferent value index]

end Terminal

/-! ## Stages by their position -/

namespace Chain

/-- If the chain has a stage at the position, it answers alike in the two contexts. -/
def IndifferentAt
    (first second : context.Value Base)
    {element : ValueType Name} :
    (chain : Chain Base ε context source element) →
      (position : Nat) →
      Prop
  | .source, _ => True
  | .link earlier stage, position =>
      earlier.IndifferentAt first second position ∧
        (position = earlier.length → stage.Indifferent first second)

variable {chain : Chain Base ε context source element}
variable {first second : context.Value Base}

/-- A chain has one record for each stage. -/
theorem length_descriptors
    (chain : Chain Base ε context source element) :
    chain.descriptors.length = chain.length := by
  induction chain with
  | source =>
      rfl
  | link earlier stage inductionHypothesis =>
      simp [descriptors, length, inductionHypothesis]

/-- If the stages whose records are marked answer alike, then all stages do. -/
theorem indifferentAt_of_marked
    (marked :
      ∀ position descriptor,
        chain.descriptors[position]? = some descriptor →
        descriptor.contextual = true →
        chain.IndifferentAt first second position)
    (position : Nat) :
    chain.IndifferentAt first second position := by
  induction chain with
  | source =>
      trivial
  | link earlier stage inductionHypothesis =>
      refine ⟨inductionHypothesis ?_, ?_⟩
      · intro place descriptor listed contextual
        have within := (List.getElem?_eq_some_iff.mp listed).1
        refine (marked place descriptor ?_ contextual).1
        rw [descriptors, List.getElem?_append_left within]
        exact listed
      · -- Only a contextual callback can tell the two apart, and its record is marked.
        intro isLast
        cases contextual : stage.isContextual with
        | false =>
            exact Stage.indifferent_of_plain contextual
        | true =>
            have listed :
                (earlier.link stage).descriptors[earlier.length]? =
                  some stage.descriptor := by
              rw [descriptors, ← earlier.length_descriptors]
              exact List.getElem?_concat_length
            exact (marked _ _ listed contextual).2 rfl

/-- A chain whose stages answer alike makes the same of an element in both contexts. -/
theorem feedWith_of_indifferent
    (indifferent : ∀ position, chain.IndifferentAt first second position)
    (advance : Nat → Nat)
    (value : source.Value Base)
    (raw : Nat)
    (counters : chain.Counters) :
    chain.feedWith advance value raw first counters =
      chain.feedWith advance value raw second counters := by
  induction chain with
  | source =>
      rfl
  | link earlier stage inductionHypothesis =>
      have stageIndifferent : stage.Indifferent first second :=
        (indifferent earlier.length).2 rfl
      simp only [feedWith, Stage.process, stageIndifferent.apply_eq,
        inductionHypothesis (fun position => (indifferent position).1)]

end Chain

/-! ## Runs -/

section Runs

variable {chain : Chain Base ε context source element}
variable {terminal : Terminal Base ε context element output}
variable {first second : context.Value Base}

/-- Indifferent stages and an indifferent terminal loop alike in both contexts. -/
theorem loopWith_of_indifferent
    (chainIndifferent : ∀ position, chain.IndifferentAt first second position)
    (terminalIndifferent : terminal.Indifferent first second)
    (advance : Nat → Nat)
    (elements : List (source.Value Base))
    (raw : Nat)
    (counters : chain.Counters)
    (state : terminal.State) :
    loopWith advance chain terminal first elements raw counters state =
      loopWith advance chain terminal second elements raw counters state := by
  induction elements generalizing raw counters state with
  | nil =>
      rfl
  | cons value rest inductionHypothesis =>
      simp only [loopWith, terminalIndifferent.accept_eq, inductionHypothesis,
        Chain.feedWith_of_indifferent chainIndifferent]

end Runs

namespace Fused

/-- The stage at the position, or the terminal after the last one, answers alike. -/
def IndifferentAt
    (procedure : Fused Base ε context source element output)
    (first second : context.Value Base)
    (position : Nat) :
    Prop :=
  procedure.chain.IndifferentAt first second position ∧
    (position = procedure.chain.length →
      procedure.terminal.Indifferent first second)

variable {procedure : Fused Base ε context source element output}
variable {first second : context.Value Base}

/-- A procedure none of whose marked stages tells the contexts apart runs alike. -/
theorem run_of_marked
    (described :
      procedure.plan.queue.stages =
        procedure.chain.descriptors ++ procedure.terminal.descriptor?.toList)
    (marked :
      ∀ position descriptor,
        procedure.plan.queue.stages[position]? = some descriptor →
        descriptor.contextual = true →
        procedure.IndifferentAt first second position)
    (elements : List (source.Value Base)) :
    procedure.run elements first = procedure.run elements second := by
  rw [described] at marked
  have chainIndifferent :
      ∀ position, procedure.chain.IndifferentAt first second position := by
    apply Chain.indifferentAt_of_marked
    intro position descriptor listed contextual
    have within := (List.getElem?_eq_some_iff.mp listed).1
    refine (marked position descriptor ?_ contextual).1
    rw [List.getElem?_append_left within]
    exact listed
  have terminalIndifferent : procedure.terminal.Indifferent first second := by
    cases contextual : procedure.terminal.isContextual with
    | false =>
        exact Terminal.indifferent_of_plain contextual
    | true =>
        obtain ⟨descriptor, declared, isMarked⟩ :=
          Terminal.exists_descriptor_of_contextual contextual
        have listed :
            (procedure.chain.descriptors ++
                procedure.terminal.descriptor?.toList)[
              procedure.chain.length]? = some descriptor := by
          rw [declared, ← procedure.chain.length_descriptors]
          exact List.getElem?_concat_length
        exact (marked _ _ listed isMarked).2 rfl
  simp only [run, runWith,
    loopWith_of_indifferent chainIndifferent terminalIndifferent]

end Fused

namespace Pipeline

/--
The context reaches contextual callbacks only.  If every stage whose record in the
queue of a sealed pipeline is marked contextual answers alike in two contexts, as is so
if no record is marked, then calling its procedure in the one or in the other answers
the same, makes the same calls and logs the same, directly and through the shared view.
-/
theorem context_reaches_contextual_only
    (identity : Nat)
    (script : Script Base ε context source element)
    (ending : Ending Base ε context element output)
    (input : Input Base source)
    (first second : context.Value Base) :
    let complete := ((new identity).follow script).conclude ending
    (∀ position descriptor,
      complete.queue.stages[position]? = Option.some descriptor →
      descriptor.contextual = true →
      complete.procedure.IndifferentAt first second position) →
    complete.procedure.executeWith input first =
        complete.procedure.executeWith input second ∧
      complete.procedure.share.executeWith input first =
        complete.procedure.share.executeWith input second := by
  intro complete marked
  have described :
      complete.procedure.plan.queue.stages =
        complete.procedure.chain.descriptors ++
          complete.procedure.terminal.descriptor?.toList := by
    simp only [complete, conclude_follow, Plan.ofQueue, Queue.stages_ofList,
      Chain.descriptors_followedBy]
    rfl
  have sameRun : ∀ elements,
      complete.procedure.run elements first =
        complete.procedure.run elements second :=
    Fused.run_of_marked described marked
  have sameExecution :
      complete.procedure.executeWith input first =
        complete.procedure.executeWith input second := by
    simp only [Fused.executeWith, sameRun]
  exact ⟨sameExecution, sameExecution⟩

/-- Keeps the odd numbers if the context is positive, and doubles what is kept. -/
def switchedOdds :
    Script (fun _ : Empty => Unit) String .position .position .position :=
  .stage (.filter (.contextual fun value _ switch =>
      .ok (decide (0 < switch) && isOdd value)))
    (.stage (.map (.plain fun value _ => .ok (2 * value))) .done)

/-- No stage tells one positive context from another, but one tells it from zero. -/
theorem execute_switchedOdds :
    let procedure := (((new 0).follow switchedOdds).conclude .leaveOpen).procedure
    procedure.executeWith (.vector [1, 2, 3]) 5 =
        procedure.executeWith (.vector [1, 2, 3]) 7 ∧
      (procedure.executeWith (.vector [1, 2, 3]) 5).outcome = .ok [2, 6] ∧
      (procedure.executeWith (.vector [1, 2, 3]) 0).outcome = .ok [] := by
  intro procedure
  have sameExecution :=
    context_reaches_contextual_only 0 switchedOdds .leaveOpen
      (.vector [1, 2, 3]) 5 7 (by
        intro position descriptor listed contextual
        refine ⟨⟨⟨trivial, ?_⟩, ?_⟩, ?_⟩
        · intro isFirst value index
          rfl
        · intro isSecond value index
          rfl
        · intro isLast
          trivial)
  exact ⟨sameExecution.1, rfl, rfl⟩

end Pipeline

end OnePass
