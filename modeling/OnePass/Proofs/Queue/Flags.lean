import OnePass.Proofs.Queue

namespace OnePass

/-!
# Flags, terminal and plan of a queue

The flags of a queue are kept from push to push and never cleared, while its terminal
is looked for in the last stage only.  So the two ways to ask for a terminal part
where a terminal kind is followed by another stage.  Both nevertheless depend on the
pushed stages alone, and so do the equality of queues and the plan, whose shape goes
by the last stage and, failing that, by the filters.
-/

namespace Queue

/-! ## The terminal -/

/-- The terminal is the last stage, if that has a terminal kind. -/
theorem terminal?_eq_some_iff
    {queue : Queue}
    {stage : Descriptor} :
    queue.terminal? = some stage ↔
      queue.stages.getLast? = some stage ∧ stage.kind.isTerminal = true := by
  simp [terminal?, Option.filter_eq_some_iff]

/-- There is no terminal if the last stage, if any, hands elements on. -/
theorem terminal?_eq_none_iff
    {queue : Queue} :
    queue.terminal? = none ↔
      ∀ stage ∈ queue.stages.getLast?, stage.kind.isTerminal = false := by
  simp [terminal?, Option.filter_eq_none_iff]

/-- A terminal is one of the stages that the second flag tells of. -/
theorem hasTerminal_of_terminal?
    {pushed : List Descriptor}
    (present : (ofList pushed).terminal?.isSome = true) :
    (ofList pushed).hasTerminal = true := by
  obtain ⟨stage, found⟩ := Option.isSome_iff_exists.mp present
  obtain ⟨last, isTerminal⟩ := terminal?_eq_some_iff.mp found
  rw [hasTerminal_ofList, List.any_eq_true]
  rw [stages_ofList] at last
  exact ⟨stage, List.mem_of_getLast? last, isTerminal⟩

/--
The flag tells of a terminal that is not found exactly if a stage of a terminal kind
was pushed before a last stage of another kind.
-/
theorem hasTerminal_without_terminal?
    (pushed : List Descriptor) :
    (ofList pushed).hasTerminal = true ∧ (ofList pushed).terminal? = none ↔
      ∃ earlier last,
        pushed = earlier ++ [last] ∧
          last.kind.isTerminal = false ∧
          ∃ stage ∈ earlier, stage.kind.isTerminal = true := by
  rw [hasTerminal_ofList, List.any_eq_true, terminal?_eq_none_iff,
    stages_ofList]
  constructor
  · rintro ⟨⟨stage, member, isTerminal⟩, lastHandsOn⟩
    rcases ends : pushed.getLast? with _ | last
    · rw [List.getLast?_eq_none_iff.mp ends] at member
      contradiction
    · have handsOn : last.kind.isTerminal = false := lastHandsOn last ends
      obtain ⟨earlier, rfl⟩ := List.getLast?_eq_some_iff.mp ends
      rcases List.mem_append.mp member with isEarlier | isLast
      · exact ⟨earlier, last, rfl, handsOn, stage, isEarlier, isTerminal⟩
      · rw [List.mem_singleton.mp isLast, handsOn] at isTerminal
        contradiction
  · rintro ⟨earlier, last, rfl, handsOn, stage, isEarlier, isTerminal⟩
    exact ⟨⟨stage, by simp [isEarlier], isTerminal⟩, by simpa using handsOn⟩

/-! ## Equality -/

/-- Queues are equal, flags included, exactly if the same stages were pushed. -/
theorem ofList_inj
    {first second : List Descriptor} :
    ofList first = ofList second ↔ first = second := by
  constructor
  · intro same
    simpa using congrArg stages same
  · rintro rfl
    rfl

end Queue

/-- A plan holds its queue, so different queues have different plans. -/
theorem Plan.ofQueue_inj
    {first second : Queue} :
    ofQueue first = ofQueue second ↔ first = second := by
  constructor
  · intro same
    exact congrArg queue same
  · rintro rfl
    rfl

namespace Shape

/-! ## The shape of the output -/

variable {queue : Queue}

/-- Without a terminal the first flag decides. -/
theorem ofQueue_of_no_terminal
    (absent : queue.terminal? = none) :
    ofQueue queue = if queue.hasFilter then .growable else .preSized := by
  rw [ofQueue, absent]

/-- A scalar is planned exactly if the last stage has the terminal kind it is named for. -/
theorem ofQueue_eq_scalar_iff
    {kind : StageKind} :
    ofQueue queue = .scalar kind ↔
      kind.isTerminal = true ∧
        ∃ stage ∈ queue.stages.getLast?, stage.kind = kind := by
  constructor
  · intro planned
    rcases found : queue.terminal? with _ | stage
    · rw [ofQueue_of_no_terminal found] at planned
      by_cases filtered : queue.hasFilter = true <;> simp [filtered] at planned
    · rw [ofQueue, found] at planned
      obtain ⟨last, isTerminal⟩ := Queue.terminal?_eq_some_iff.mp found
      cases planned
      exact ⟨isTerminal, stage, last, rfl⟩
  · rintro ⟨isTerminal, stage, last, rfl⟩
    have found : queue.terminal? = some stage :=
      Queue.terminal?_eq_some_iff.mpr ⟨last, isTerminal⟩
    rw [ofQueue, found]

/-- With a terminal the output is no list. -/
theorem ofQueue_ne_list
    {stage : Descriptor}
    (found : queue.terminal? = some stage) :
    ofQueue queue ≠ .growable ∧ ofQueue queue ≠ .preSized := by
  simp [ofQueue, found]

/-- A list of unknown length is planned exactly without a terminal and with a filter. -/
theorem ofQueue_eq_growable_iff :
    ofQueue queue = .growable ↔
      queue.terminal? = none ∧ queue.hasFilter = true := by
  rcases found : queue.terminal? with _ | stage
  · simp [ofQueue_of_no_terminal found]
  · simp [(ofQueue_ne_list found).1]

/-- A list as long as the input is planned exactly without a terminal or a filter. -/
theorem ofQueue_eq_preSized_iff :
    ofQueue queue = .preSized ↔
      queue.terminal? = none ∧ queue.hasFilter = false := by
  rcases found : queue.terminal? with _ | stage
  · simp [ofQueue_of_no_terminal found]
  · simp [(ofQueue_ne_list found).2]

end Shape

namespace Queue

/-- What a queue and its plan tell of the stages pushed. -/
structure Faithful (pushed : List Descriptor) (queue : Queue) (plan : Plan) :
    Prop where
  stages : queue.stages = pushed
  hasFilter :
    queue.hasFilter = true ↔ ∃ stage ∈ pushed, stage.kind = .filter
  hasTerminal :
    queue.hasTerminal = true ↔
      ∃ stage ∈ pushed, stage.kind.isTerminal = true
  terminal? :
    ∀ stage,
      queue.terminal? = some stage ↔
        pushed.getLast? = some stage ∧ stage.kind.isTerminal = true
  flagged : queue.terminal?.isSome = true → queue.hasTerminal = true
  /-- The flag is set without a terminal exactly if other stages come after one. -/
  flaggedAlone :
    queue.hasTerminal = true ∧ queue.terminal? = none ↔
      ∃ earlier last,
        pushed = earlier ++ [last] ∧
          last.kind.isTerminal = false ∧
          ∃ stage ∈ earlier, stage.kind.isTerminal = true
  equalQueues : ∀ other, queue = ofList other ↔ pushed = other
  equalPlans :
    ∀ other, plan = Plan.ofQueue (ofList other) ↔ queue = ofList other
  scalar :
    ∀ kind,
      plan.shape = .scalar kind ↔
        kind.isTerminal = true ∧
          ∃ stage ∈ pushed.getLast?, stage.kind = kind
  growable :
    plan.shape = .growable ↔
      (∀ stage ∈ pushed.getLast?, stage.kind.isTerminal = false) ∧
        ∃ stage ∈ pushed, stage.kind = .filter
  preSized :
    plan.shape = .preSized ↔
      (∀ stage ∈ pushed.getLast?, stage.kind.isTerminal = false) ∧
        ∀ stage ∈ pushed, stage.kind ≠ .filter

/--
Flags and plans are faithful to the pushed stages, whatever their order.  The queue
lists them; its flags tell whether any is a filter and whether any has a terminal
kind; its terminal is the last one, if that has a terminal kind, and then the flag is
set, though the flag may be set without it.  Queues are equal exactly if the same
stages were pushed, and plans exactly if the queues are.  The shape is scalar of the
last stage's terminal kind; if the last stage has none, whatever comes before it, a
filter makes the shape growable, and without filters it is sized beforehand.
-/
theorem pushed_queue_faithful (pushed : List Descriptor) :
    Faithful pushed (ofList pushed) (.ofQueue (ofList pushed)) := by
  have listed : (ofList pushed).stages = pushed := stages_ofList pushed
  have filters :
      (ofList pushed).hasFilter = true ↔
        ∃ stage ∈ pushed, stage.kind = .filter := by
    simp
  have unfiltered :
      (ofList pushed).hasFilter = false ↔
        ∀ stage ∈ pushed, stage.kind ≠ .filter := by
    simp
  have noTerminal :
      (ofList pushed).terminal? = none ↔
        ∀ stage ∈ pushed.getLast?, stage.kind.isTerminal = false := by
    rw [terminal?_eq_none_iff, listed]
  have scalar (kind : StageKind) :
      (Plan.ofQueue (ofList pushed)).shape = .scalar kind ↔
        kind.isTerminal = true ∧
          ∃ stage ∈ (ofList pushed).stages.getLast?, stage.kind = kind :=
    Shape.ofQueue_eq_scalar_iff
  exact
    { stages := listed
      hasFilter := filters
      hasTerminal := by simp
      terminal? := fun stage => by rw [terminal?_eq_some_iff, listed]
      flagged := hasTerminal_of_terminal?
      flaggedAlone := hasTerminal_without_terminal? pushed
      equalQueues := fun other => ofList_inj
      equalPlans := fun other => Plan.ofQueue_inj
      scalar := fun kind => by rw [scalar, listed]
      growable :=
        Shape.ofQueue_eq_growable_iff.trans (and_congr noTerminal filters)
      preSized :=
        Shape.ofQueue_eq_preSized_iff.trans
          (and_congr noTerminal unfiltered) }

/--
A search that is followed by a map still sets the flag but is no terminal, so that the
filter before it decides the shape; the same search at the end is the terminal.
-/
theorem pushed_search_before_map :
    let followed := ofList [.plain .filter, .withContext .find, .plain .map]
    let last := ofList [.plain .map, .withContext .find]
    (followed.hasTerminal = true ∧
        followed.terminal? = none ∧
        (Plan.ofQueue followed).shape = .growable) ∧
      last.hasTerminal = true ∧
      (Plan.ofQueue last).shape = .scalar .find := by
  intro followed last
  have faithful :=
    pushed_queue_faithful [.plain .filter, .withContext .find, .plain .map]
  have lastFaithful :=
    pushed_queue_faithful [.plain .map, .withContext .find]
  have alone :=
    faithful.flaggedAlone.mpr
      ⟨[.plain .filter, .withContext .find], .plain .map, rfl, rfl,
        .withContext .find, by decide, rfl⟩
  have grows :=
    faithful.growable.mpr ⟨by decide, .plain .filter, by decide, rfl⟩
  exact ⟨⟨alone.1, alone.2, grows⟩, lastFaithful.flagged rfl,
    (lastFaithful.scalar .find).mpr ⟨rfl, .withContext .find, rfl, rfl⟩⟩

end Queue

end OnePass
