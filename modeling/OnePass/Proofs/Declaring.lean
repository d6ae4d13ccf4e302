import OnePass.Declaration
import OnePass.Proofs.Queue
import OnePass.Proofs.Stopping.Append

namespace OnePass

/-!
# Declared stages and the chain that runs

A pipeline is declared through methods of which each names its own record and wraps
its own callback.  Every record is that of the stage it stands beside, so the queue
can be read off the chain and the terminal, and from the queue the plan.
-/

variable {Name : Type} {Base : Name → Type} {ε : Type}
variable {context source element before after output : ValueType Name}

/-- The record that describes a stage: its kind, and whether it sees the context. -/
def Stage.descriptor (stage : Stage Base ε context before after) : Descriptor where
  kind := stage.kind
  separator := none
  contextual := stage.isContextual

/-- A stage that hands elements on is of no terminal kind. -/
theorem Stage.isTerminal_kind
    (stage : Stage Base ε context before after) :
    stage.kind.isTerminal = false := by
  cases stage <;> rfl

namespace Chain

/-- The records of a chain's stages, in the order in which elements pass them. -/
def descriptors {element : ValueType Name} :
    Chain Base ε context source element → List Descriptor
  | .source => []
  | .link earlier stage => earlier.descriptors ++ [stage.descriptor]

/-- The chain with the stages of a script after its own. -/
def followedBy {element after : ValueType Name} :
    (chain : Chain Base ε context source element) →
      (script : Script Base ε context element after) →
      Chain Base ε context source after
  | chain, .done => chain
  | chain, .stage first rest => (chain.link first).followedBy rest

end Chain

namespace Script

/-- The number of stages. -/
def length {before after : ValueType Name} :
    Script Base ε context before after → Nat
  | .done => 0
  | .stage _ rest => rest.length + 1

/-- The records of the stages that a script declares, in its order. -/
def descriptors {before after : ValueType Name} :
    Script Base ε context before after → List Descriptor
  | .done => []
  | .stage first rest => first.descriptor :: rest.descriptors

/-- A script has one record for each stage. -/
theorem length_descriptors
    (script : Script Base ε context before after) :
    script.descriptors.length = script.length := by
  induction script with
  | done =>
      rfl
  | stage first rest inductionHypothesis =>
      simp [descriptors, length, inductionHypothesis]

/-- No record of a script has a terminal kind or a separator. -/
theorem plain_of_mem
    {script : Script Base ε context before after}
    {descriptor : Descriptor}
    (member : descriptor ∈ script.descriptors) :
    descriptor.kind.isTerminal = false ∧ descriptor.separator = none := by
  induction script with
  | done =>
      cases member
  | stage first rest inductionHypothesis =>
      rcases List.mem_cons.mp member with isFirst | isLater
      · subst descriptor
        exact ⟨first.isTerminal_kind, rfl⟩
      · exact inductionHypothesis isLater

end Script

/-- The stages of a script are recorded in order after those of the chain. -/
theorem Chain.descriptors_followedBy
    (chain : Chain Base ε context source element)
    (script : Script Base ε context element after) :
    (chain.followedBy script).descriptors =
      chain.descriptors ++ script.descriptors := by
  induction script with
  | done =>
      simp [followedBy, Script.descriptors]
  | stage first rest inductionHypothesis =>
      simp [followedBy, descriptors, Script.descriptors, inductionHypothesis]

namespace Terminal

/-- The separator that a join puts between elements. -/
def separator? : Terminal Base ε context element output → Option String
  | .join separator _ => Option.some separator
  | _ => none

/-- The record that describes a terminal; collecting has none. -/
def descriptor?
    (terminal : Terminal Base ε context element output) :
    Option Descriptor :=
  terminal.kind?.map fun kind =>
    { kind := kind
      separator := terminal.separator?
      contextual := terminal.isContextual }

/-- A terminal that is declared by a stage is declared by one of a terminal kind. -/
theorem isTerminal_of_kind?
    {terminal : Terminal Base ε context element output}
    {kind : StageKind}
    (declared : terminal.kind? = Option.some kind) :
    kind.isTerminal = true := by
  cases terminal with
  | collect =>
      contradiction
  | reduce | join | find | findIndex | some | every =>
      cases declared
      rfl

/-- A terminal has a separator exactly if it is declared by a join. -/
theorem isSome_separator?
    (terminal : Terminal Base ε context element output) :
    terminal.separator?.isSome = true ↔
      terminal.kind? = Option.some .join := by
  cases terminal <;> simp [separator?, kind?]

end Terminal

/-- The terminal that an ending seals with; what is left open is collected. -/
def Ending.sealedBy :
    Ending Base ε context element output →
      Terminal Base ε context element output
  | .terminal closing => closing
  | .leaveOpen => .collect

namespace Pipeline

/-- Every stage method appends its stage with the record that describes it. -/
theorem extend_eq
    (pipeline : Pipeline Base ε context source element)
    (stage : Stage Base ε context element after) :
    pipeline.extend stage = pipeline.append stage.descriptor stage := by
  cases stage with
  | filter callback | map callback | forEach callback =>
      cases callback <;> rfl

/-- Every sealing method closes with its terminal and the record that describes it. -/
theorem conclude_eq
    (pipeline : Pipeline Base ε context source element)
    (ending : Ending Base ε context element output) :
    pipeline.conclude ending =
      pipeline.close ending.sealedBy.descriptor? ending.sealedBy := by
  cases ending with
  | leaveOpen =>
      rfl
  | terminal terminal =>
      cases terminal with
      | collect | join =>
          rfl
      | reduce callback | find callback | findIndex callback | some callback
      | every callback =>
          cases callback <;> rfl

/-- Sealing with a terminal closes with it and the record that describes it. -/
theorem endWith_eq
    (pipeline : Pipeline Base ε context source element)
    (terminal : Terminal Base ε context element output) :
    pipeline.endWith terminal = pipeline.close terminal.descriptor? terminal :=
  pipeline.conclude_eq (.terminal terminal)

/-- A run of a sealed pipeline is one of its chain and its terminal, whatever the plan. -/
theorem run_conclude
    (pipeline : Pipeline Base ε context source element)
    (ending : Ending Base ε context element output)
    (elements : List (source.Value Base))
    (environment : context.Value Base) :
    (pipeline.conclude ending).procedure.run elements environment =
      runWith Nat.succ pipeline.chain ending.sealedBy 0 elements environment := by
  rw [conclude_eq]
  exact runWith_capacity _ _ _ _ _ _ _

/-- Following a script extends chain and queue by the same stages. -/
theorem follow_eq
    (pipeline : Pipeline Base ε context source element)
    (script : Script Base ε context element after) :
    pipeline.follow script =
      { identity := pipeline.identity
        chain := pipeline.chain.followedBy script
        queue := script.descriptors.foldl Queue.push pipeline.queue } := by
  induction script with
  | done =>
      rfl
  | stage first rest inductionHypothesis =>
      rw [follow, inductionHypothesis, extend_eq]
      rfl

/-- The queues along a script hold its first stages, one more each time. -/
theorem queues_eq
    (pipeline : Pipeline Base ε context source element)
    (script : Script Base ε context element after) :
    pipeline.queues script =
      (List.range (script.length + 1)).map fun count =>
        (script.descriptors.take count).foldl Queue.push pipeline.queue := by
  induction script with
  | done =>
      rfl
  | stage first rest inductionHypothesis =>
      rw [queues, inductionHypothesis, extend_eq, Script.length,
        List.range_succ_eq_map (n := rest.length + 1)]
      simp [Script.descriptors, append]

/-- A sealed pipeline has the declared chain, terminal and queue, and their plan. -/
theorem conclude_follow
    (identity : Nat)
    (script : Script Base ε context source element)
    (ending : Ending Base ε context element output) :
    ((new identity).follow script).conclude ending =
      { procedure :=
          { identity := identity
            chain := Chain.source.followedBy script
            terminal := ending.sealedBy
            plan :=
              .ofQueue
                (.ofList
                  (script.descriptors ++
                    ending.sealedBy.descriptor?.toList)) }
        compiled := false } := by
  rw [conclude_eq, follow_eq, close]
  cases ending.sealedBy.descriptor? <;> simp [new, Queue.ofList]

end Pipeline

/-! ## Queues that end with a terminal or with none -/

section Ended

variable {script : Script Base ε context source element}
variable {terminal : Terminal Base ε context element output}

/-- A record of a terminal kind stands last. -/
theorem last_of_isTerminal
    {position : Nat}
    {stage : Descriptor}
    (listed :
      (script.descriptors ++ terminal.descriptor?.toList)[position]? =
        some stage)
    (isTerminal : stage.kind.isTerminal = true) :
    position + 1 =
      (script.descriptors ++ terminal.descriptor?.toList).length := by
  by_cases early : position < script.descriptors.length
  · rw [List.getElem?_append_left early] at listed
    have plain := (Script.plain_of_mem (List.mem_of_getElem? listed)).1
    rw [isTerminal] at plain
    contradiction
  · have within := (List.getElem?_eq_some_iff.mp listed).1
    rw [List.length_append] at within ⊢
    have single : terminal.descriptor?.toList.length ≤ 1 := by
      cases terminal.descriptor? <;> simp
    omega

/-- A record has a separator exactly if it is that of a join. -/
theorem isSome_separator_of_mem
    {stage : Descriptor}
    (member : stage ∈ script.descriptors ++ terminal.descriptor?.toList) :
    stage.separator.isSome = true ↔ stage.kind = .join := by
  rcases List.mem_append.mp member with isStage | isLast
  · obtain ⟨plain, unseparated⟩ := Script.plain_of_mem isStage
    rw [unseparated]
    constructor
    · intro separated
      contradiction
    · intro joins
      rw [joins] at plain
      contradiction
  · obtain ⟨kind, declared, rfl⟩ :=
      Option.map_eq_some_iff.mp (Option.mem_toList.mp isLast)
    have joins := terminal.isSome_separator?
    rw [declared, Option.some.injEq] at joins
    exact joins

/-- The last record of a terminal kind is that of the terminal. -/
theorem terminal?_ofList :
    (Queue.ofList
        (script.descriptors ++ terminal.descriptor?.toList)).terminal? =
      terminal.descriptor? := by
  rw [Queue.terminal?, Queue.stages_ofList]
  cases declared : terminal.kind? with
  | some kind =>
      simp [Terminal.descriptor?, declared, Option.filter,
        Terminal.isTerminal_of_kind? declared]
  | none =>
      simp only [Terminal.descriptor?, declared, Option.map_none,
        Option.toList_none, List.append_nil, Option.filter_eq_none_iff]
      intro stage last
      simp [(Script.plain_of_mem (List.mem_of_getLast? last)).1]

/-- The second flag tells whether the terminal is declared by a stage. -/
theorem hasTerminal_ofList_append :
    (Queue.ofList
        (script.descriptors ++ terminal.descriptor?.toList)).hasTerminal =
      terminal.kind?.isSome := by
  have plain :
      (script.descriptors.any fun stage => stage.kind.isTerminal) = false := by
    rw [List.any_eq_false]
    intro stage member
    simp [(Script.plain_of_mem member).1]
  rw [Queue.hasTerminal_ofList, List.any_append, plain, Bool.false_or]
  cases declared : terminal.kind? with
  | some kind =>
      simp [Terminal.descriptor?, declared,
        Terminal.isTerminal_of_kind? declared]
  | none =>
      simp [Terminal.descriptor?, declared]

/-- The shape is that of the terminal's kind or, if it has none, depends on filters. -/
theorem shape_ofList :
    Shape.ofQueue
        (.ofList (script.descriptors ++ terminal.descriptor?.toList)) =
      match terminal.kind? with
      | some kind => .scalar kind
      | none =>
          if script.descriptors.any fun stage => stage.kind == .filter then
            .growable
          else .preSized := by
  rw [Shape.ofQueue, terminal?_ofList]
  cases declared : terminal.kind? with
  | some kind =>
      simp [Terminal.descriptor?, declared]
  | none =>
      simp [Terminal.descriptor?, declared]

end Ended

/-- A join separates what leaves its chain by the separator it was declared with. -/
theorem run_of_join
    (procedure : Fused Base ε context source element .text)
    {separator : String}
    {display : element.Value Base → String}
    (joins : procedure.terminal = .join separator display)
    {elements : List (source.Value Base)}
    {environment : context.Value Base}
    {survivors : List (element.Value Base)}
    (passed :
      (procedure.chain.staged environment elements).outcome = .ok survivors) :
    (procedure.run elements environment).outcome =
      .ok (separator.intercalate (survivors.map display)) := by
  apply Fused.run_of_staged
  rw [staged_of_ok passed, joins]
  rfl

namespace Pipeline

section Declared

variable (identity : Nat) (script : Script Base ε context source element)

/-- The queue of a sealed pipeline is that of its declared stages and terminal. -/
theorem queue_conclude_follow
    (ending : Ending Base ε context element output) :
    (((new identity).follow script).conclude ending).queue =
      .ofList (script.descriptors ++ ending.sealedBy.descriptor?.toList) := by
  rw [conclude_follow]
  rfl

/-- The shape of a sealed pipeline is that of its terminal or depends on its filters. -/
theorem shape_conclude_follow
    (ending : Ending Base ε context element output) :
    (((new identity).follow script).conclude ending).procedure.plan.shape =
      match ending.sealedBy.kind? with
      | Option.some kind => .scalar kind
      | none =>
          if script.descriptors.any fun stage => stage.kind == .filter then
            .growable
          else .preSized := by
  rw [conclude_follow]
  exact shape_ofList

/-- A plan says that a run may end early exactly if the terminal's kind does. -/
theorem shortCircuits_conclude_follow
    (ending : Ending Base ε context element output) :
    (((new identity).follow script).conclude
        ending).procedure.plan.shortCircuits =
      ending.sealedBy.kind?.any StageKind.shortCircuits := by
  rw [Plan.shortCircuits, shape_conclude_follow]
  cases ending.sealedBy.kind? with
  | some kind =>
      rfl
  | none =>
      by_cases filtered :
          (script.descriptors.any fun stage => stage.kind == .filter) = true
      · simp only [filtered, ↓reduceIte, Option.any_none]
      · simp only [filtered, Option.any_none]
        rfl

/-- A join's record is the last one and has its separator. -/
theorem terminal?_joinBy
    (separator : String)
    (display : element.Value Base → String) :
    (((new identity).follow script).joinBy separator display).queue.terminal? =
      Option.some (.join separator) := by
  have declared :=
    queue_conclude_follow identity script
      (.terminal (.join separator display) : Ending Base ε context element .text)
  change (((new identity).follow script).conclude
    (.terminal (.join separator display))).queue.terminal? = _
  rw [declared]
  exact terminal?_ofList

/-- The open queue holds the first stages, whatever the pipeline is sealed with. -/
theorem queues_new
    (last : List Descriptor) :
    (new identity : Pipeline Base ε context source source).queues script =
      (List.range (script.length + 1)).map fun count =>
        .ofList ((script.descriptors ++ last).take count) := by
  rw [queues_eq]
  apply List.map_congr_left
  intro count member
  have bound : count ≤ script.descriptors.length := by
    rw [script.length_descriptors]
    exact Nat.le_of_lt_succ (List.mem_range.mp member)
  rw [List.take_append_of_le_length bound]
  rfl

end Declared

/-- What a pipeline holds, open and sealed, of the script and the ending declared. -/
structure Declared
    (identity : Nat)
    (script : Script Base ε context source element)
    (ending : Ending Base ε context element output)
    (opened : Pipeline Base ε context source element)
    (complete : Sealed Base ε context source element output) :
    Prop where
  chain : complete.procedure.chain = Chain.source.followedBy script
  terminal : complete.procedure.terminal = ending.sealedBy
  stages :
    complete.queue.stages =
      script.descriptors ++ ending.sealedBy.descriptor?.toList
  /-- Each record is that of the stage in its place in the chain. -/
  records :
    complete.queue.stages =
      complete.procedure.chain.descriptors ++
        complete.procedure.terminal.descriptor?.toList
  separators :
    ∀ stage ∈ complete.queue.stages,
      stage.separator.isSome = true ↔ stage.kind = .join
  joinRecord :
    ∀ separator display,
      (opened.joinBy separator display).queue.terminal? =
        Option.some (.join separator)
  /-- The separator that a join lists is the one that its run puts in. -/
  joinRun :
    ∀ separator display elements environment survivors,
      (opened.chain.staged environment elements).outcome = .ok survivors →
      ((opened.joinBy separator display).procedure.run
          elements environment).outcome =
        .ok (separator.intercalate (survivors.map display))
  joinDefault : ∀ display, opened.join display = opened.joinBy "," display
  /-- The open queue after so many stages lists the first ones. -/
  queues :
    (new identity).queues script =
      (List.range (script.length + 1)).map fun count =>
        .ofList (complete.queue.stages.take count)
  terminalLast :
    ∀ position stage,
      complete.queue.stages[position]? = Option.some stage →
      stage.kind.isTerminal = true →
      position + 1 = complete.queue.stages.length
  hasTerminal : complete.queue.hasTerminal = complete.queue.terminal?.isSome
  hasTerminalKind :
    complete.queue.hasTerminal = ending.sealedBy.kind?.isSome
  shape :
    complete.procedure.plan.shape =
      match ending.sealedBy.kind? with
      | Option.some kind => .scalar kind
      | none =>
          if script.descriptors.any fun stage => stage.kind == .filter then
            .growable
          else .preSized

/--
The queue and the chain of a pipeline stay in step.  Whatever is declared, the sealed
queue lists one record for each stage in order, then one for the terminal unless it
collects, and each is the record of the stage that stands there in the chain, or of
the terminal.  Separators belong to joins and are those that the run puts between
elements.  The open queue after so many stages lists the first ones.  A terminal kind
stands last if at all, the two ways to ask for it agree, and the shape of the plan is
that of the terminal.
-/
theorem conclude_in_step
    (identity : Nat)
    (script : Script Base ε context source element)
    (ending : Ending Base ε context element output) :
    let opened := (new identity).follow script
    Declared identity script ending opened (opened.conclude ending) := by
  intro opened
  have declared := conclude_follow identity script ending
  have queued := queue_conclude_follow identity script ending
  have stages :
      (opened.conclude ending).queue.stages =
        script.descriptors ++ ending.sealedBy.descriptor?.toList := by
    rw [queued, Queue.stages_ofList]
  have chained :
      (opened.conclude ending).procedure.chain =
        Chain.source.followedBy script := by
    rw [declared]
  have ended :
      (opened.conclude ending).procedure.terminal = ending.sealedBy := by
    rw [declared]
  have flagged :
      (opened.conclude ending).queue.hasTerminal =
        ending.sealedBy.kind?.isSome := by
    rw [queued, hasTerminal_ofList_append]
  refine
    { chain := chained
      terminal := ended
      stages := stages
      records := ?_
      separators := ?_
      joinRecord := terminal?_joinBy identity script
      joinRun := ?_
      joinDefault := fun _ => rfl
      queues := ?_
      terminalLast := ?_
      hasTerminal := ?_
      hasTerminalKind := flagged
      shape := shape_conclude_follow identity script ending }
  · rw [stages, chained, ended, Chain.descriptors_followedBy]
    rfl
  · intro stage member
    rw [stages] at member
    exact isSome_separator_of_mem member
  · intro separator display elements environment survivors passed
    exact run_of_join (opened.joinBy separator display).procedure rfl passed
  · rw [stages]
    exact queues_new identity script _
  · intro position stage listed isTerminal
    rw [stages] at listed ⊢
    exact last_of_isTerminal listed isTerminal
  · rw [flagged, queued, terminal?_ofList]
    simp [Terminal.descriptor?]

/-- Doubles the odd numbers, which are told apart with a look at the context. -/
def doublingOdds : Script (fun _ : Empty => Unit) String .unit .position .position :=
  .stage (.filter (.contextual fun value _ _ => .ok (isOdd value)))
    (.stage .doubling .done)

/-- Sealed with a join, this lists three records and runs with the separator listed. -/
theorem joinBy_doublingOdds :
    let opened := (new 0).follow doublingOdds
    (opened.conclude (.terminal (.join ";" fun _ => "x"))).queue.stages =
        [.withContext .filter, .plain .map, .join ";"] ∧
      ((opened.joinBy ";" fun _ => "x").procedure.run [1, 2, 3] ()).outcome =
        .ok (";".intercalate ["x", "x"]) := by
  have declared :=
    conclude_in_step 0 doublingOdds (.terminal (.join ";" fun _ => "x"))
  exact ⟨declared.stages,
    declared.joinRun ";" (fun _ => "x") [1, 2, 3] () [2, 6] rfl⟩

end Pipeline

end OnePass
