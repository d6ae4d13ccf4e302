import OnePass.Proofs.Calls.Projection
import OnePass.Proofs.Declaring

namespace OnePass

/-!
# Stages that only look on

An effect that never aborts, or a filter that never aborts and accepts everything,
hands on every element as it is.  Inserted anywhere in a chain it changes neither the
outcome of a run nor the calls of the other stages.  For the filter this rests on the
index that reaches it: the filter hands on its own count in place of that index, and
the two are the same because indices leave no gaps.
-/

variable {Name : Type} {Base : Name → Type} {ε : Type}
variable {context source before between after element output : ValueType Name}

/-! ## Observers -/

namespace Stage

/-- A stage that never aborts in a context and hands on every element as it is. -/
def Observes
    (environment : context.Value Base) :
    Stage Base ε context before after → Prop
  | .filter predicate =>
      ∀ value index, predicate.call value index environment = .ok true
  | .map _ => False
  | .forEach effect =>
      ∀ value index, effect.call value index environment = .ok ()

/-- An observer hands on what it receives. -/
theorem Observes.apply_eq
    {observer : Stage Base ε context between between}
    {environment : context.Value Base}
    (observes : observer.Observes environment)
    (value : between.Value Base)
    (index : Nat) :
    observer.apply value index environment = .ok (some value) := by
  cases observer with
  | filter predicate =>
      simp only [apply, observes value index]
  | map mapper =>
      exact observes.elim
  | forEach effect =>
      simp only [apply, observes value index]

/-- A stage that has handed on everything hands the index on as it is. -/
theorem outgoing_counted_self
    (stage : Stage Base ε context before after)
    (index : Nat) :
    stage.outgoing index (stage.counted index) = index := by
  cases stage <;> rfl

end Stage

/-! ## Records without a stage -/

/-- The calls but for those of the stage at a place; the stages after it move up. -/
def withoutStage (place : Nat) (calls : List (Call Base)) : List (Call Base) :=
  (calls.filter fun call => call.stage != place).map fun call =>
    if place < call.stage then { call with stage := call.stage - 1 } else call

section WithoutStage

variable {place : Nat}

@[simp] theorem withoutStage_nil :
    withoutStage place ([] : List (Call Base)) = [] :=
  rfl

@[simp] theorem withoutStage_append
    (first later : List (Call Base)) :
    withoutStage place (first ++ later) =
      withoutStage place first ++ withoutStage place later := by
  simp [withoutStage]

/-- Calls of earlier stages stay as they are. -/
theorem withoutStage_of_lt
    {calls : List (Call Base)}
    (earlier : ∀ call ∈ calls, call.stage < place) :
    withoutStage place calls = calls := by
  have kept : calls.filter (fun call => call.stage != place) = calls := by
    rw [List.filter_eq_self]
    intro call member
    simpa using Nat.ne_of_lt (earlier call member)
  have unmoved :
      calls.map (fun call =>
        if place < call.stage then { call with stage := call.stage - 1 }
        else call) = calls.map id := by
    apply List.map_congr_left
    intro call member
    exact if_neg (Nat.lt_asymm (earlier call member))
  rw [withoutStage, kept, unmoved, List.map_id]

/-- A call of the stage itself is left out. -/
theorem withoutStage_own
    (index : Nat)
    (value : element.Value Base) :
    withoutStage place [⟨place, index, element, value⟩] = [] := by
  simp [withoutStage]

/-- A call of a later stage moves up. -/
theorem withoutStage_later
    {stage : Nat}
    (later : place ≤ stage)
    (index : Nat)
    (value : element.Value Base) :
    withoutStage place [⟨stage + 1, index, element, value⟩] =
      [⟨stage, index, element, value⟩] := by
  have other : stage + 1 ≠ place := by
    omega
  have beyond : place < stage + 1 := by
    omega
  simp [withoutStage, other, beyond]

end WithoutStage

/-! ## Two chains in step -/

/--
Two chains that differ by an observer at a place, after the same elements were taken:
the stages that both have stand at the same counts, and the observer has handed on
what reached it.
-/
inductive InStep
    (environment : context.Value Base)
    (taken : List (source.Value Base))
    (place : Nat) :
    {element : ValueType Name} →
      (observed original : Chain Base ε context source element) →
      observed.Counters →
      original.Counters →
      Prop where
  /-- The observer is the last stage. -/
  | here {between : ValueType Name}
      {earlier : Chain Base ε context source between}
      {observer : Stage Base ε context between between}
      {counters : earlier.Counters}
      {survivors : List (between.Value Base)}
      (placed : earlier.length = place)
      (observes : observer.Observes environment)
      (reached : earlier.Reached environment taken counters survivors) :
      InStep environment taken place (earlier.link observer) earlier
        (counters, observer.counted survivors.length) counters
  /-- The last stage is one that both chains have. -/
  | link {before after : ValueType Name}
      {observed original : Chain Base ε context source before}
      {observedCounters : observed.Counters}
      {originalCounters : original.Counters}
      (inStep :
        InStep environment taken place observed original
          observedCounters originalCounters)
      (stage : Stage Base ε context before after)
      (counter : stage.Counter) :
      InStep environment taken place (observed.link stage) (original.link stage)
        (observedCounters, counter) (originalCounters, counter)

namespace InStep

variable {environment : context.Value Base}
variable {taken : List (source.Value Base)} {place : Nat}
variable {observed original : Chain Base ε context source element}
variable {observedCounters : observed.Counters}
variable {originalCounters : original.Counters}

/-- The observed chain has one stage more, at a place within the original one. -/
theorem lengths
    (inStep :
      InStep environment taken place observed original
        observedCounters originalCounters) :
    observed.length = original.length + 1 ∧ place ≤ original.length := by
  induction inStep with
  | here placed observes reached =>
      exact ⟨rfl, Nat.le_of_eq placed.symm⟩
  | link inStep stage counter inductionHypothesis =>
      simp only [Chain.length]
      omega

/--
One element goes through both chains alike: it meets the same fate, causes the same
calls but for the observer's, and leaves the chains in step.
-/
theorem feedWith_eq
    (inStep :
      InStep environment taken place observed original
        observedCounters originalCounters)
    (value : source.Value Base) :
    let observedFed :=
      observed.feedWith Nat.succ value taken.length environment observedCounters
    let originalFed :=
      original.feedWith Nat.succ value taken.length environment originalCounters
    observedFed.outcome = originalFed.outcome ∧
      withoutStage place observedFed.calls = originalFed.calls ∧
      ∀ handed?,
        originalFed.outcome = .ok handed? →
        InStep environment (taken ++ [value]) place observed original
          observedFed.counters originalFed.counters := by
  induction inStep with
  | @here between earlier observer counters survivors placed observes reached =>
      have below :
          withoutStage place
              (earlier.feedWith Nat.succ value taken.length environment
                counters).calls =
            (earlier.feedWith Nat.succ value taken.length environment
              counters).calls := by
        apply withoutStage_of_lt
        rw [← placed]
        exact Chain.stage_lt_of_mem_feedWith
      simp only [Chain.feedWith]
      rcases left :
          (earlier.feedWith Nat.succ value taken.length environment
            counters).outcome with
        reason | (_ | ⟨survivor, index⟩)
      · exact ⟨rfl, below, by simp⟩
      · exact ⟨rfl, below, fun _ _ => .here placed observes (reached.dropped left)⟩
      · -- The index that the observer receives is the count that it hands on.
        obtain ⟨rfl, nextReached⟩ := reached.handed left
        simp only [Stage.process, observes.apply_eq, Stage.outgoing_counted_self,
          Stage.advanced_counted, withoutStage_append, below, placed,
          withoutStage_own, List.append_nil, true_and]
        intro _ _
        have next := InStep.here placed observes nextReached
        simpa using next
  | @link before after observed original observedCounters originalCounters inStep
      stage counter inductionHypothesis =>
      obtain ⟨sameOutcome, sameCalls, next⟩ := inductionHypothesis
      obtain ⟨length_observed, place_le⟩ := inStep.lengths
      simp only [Chain.feedWith, sameOutcome]
      rcases left :
          (original.feedWith Nat.succ value taken.length environment
            originalCounters).outcome with
        reason | (_ | ⟨survivor, index⟩)
      · exact ⟨rfl, sameCalls, by simp⟩
      · exact ⟨rfl, sameCalls, fun _ _ => .link (next _ left) stage counter⟩
      · refine ⟨rfl, ?_, fun _ _ => .link (next _ left) stage _⟩
        simp only [withoutStage_append, sameCalls, length_observed,
          withoutStage_later place_le]

/-- The calls of a terminal move up by the observer's place. -/
theorem calls_eq
    (inStep :
      InStep environment taken place observed original
        observedCounters originalCounters)
    (terminal : Terminal Base ε context element output)
    (survivor : element.Value Base)
    (index : Nat) :
    withoutStage place (terminal.calls observed.length survivor index) =
      terminal.calls original.length survivor index := by
  obtain ⟨length_observed, place_le⟩ := inStep.lengths
  rw [length_observed, Terminal.calls, Terminal.calls]
  by_cases callback : terminal.hasCallback = true
  · rw [if_pos callback, if_pos callback]
    exact withoutStage_later place_le index survivor
  · rw [if_neg callback, if_neg callback]
    exact withoutStage_nil

/-- Chains that are in step are run alike but for the observer's calls. -/
theorem loopWith_eq
    (inStep :
      InStep environment taken place observed original
        observedCounters originalCounters)
    (terminal : Terminal Base ε context element output)
    (rest : List (source.Value Base))
    (state : terminal.State) :
    let observedProgress :=
      loopWith Nat.succ observed terminal environment
        rest taken.length observedCounters state
    let originalProgress :=
      loopWith Nat.succ original terminal environment
        rest taken.length originalCounters state
    terminal.conclude observedProgress.status =
        terminal.conclude originalProgress.status ∧
      withoutStage place observedProgress.calls = originalProgress.calls ∧
      observedProgress.consumed = originalProgress.consumed := by
  induction rest generalizing taken observedCounters originalCounters state with
  | nil =>
      exact ⟨rfl, rfl, rfl⟩
  | cons value rest inductionHypothesis =>
      have length_taken : taken.length.succ = (taken ++ [value]).length := by
        simp
      obtain ⟨sameOutcome, sameCalls, next⟩ := inStep.feedWith_eq value
      simp only [loopWith, sameOutcome]
      rcases left :
          (original.feedWith Nat.succ value taken.length environment
            originalCounters).outcome with
        reason | (_ | ⟨survivor, index⟩)
      · exact ⟨rfl, sameCalls, rfl⟩
      · obtain ⟨status, calls, consumed⟩ :=
          inductionHypothesis (next _ left) state
        simp only [Progress.after, length_taken, withoutStage_append, sameCalls,
          status, calls, consumed, and_self]
      · have ownCalls := inStep.calls_eq terminal survivor index
        rcases accepted :
            terminal.accept state survivor index environment with
          reason | (following | result)
        · simp only [accepted, withoutStage_append, sameCalls, ownCalls,
            Terminal.conclude, and_self]
        · obtain ⟨status, calls, consumed⟩ :=
            inductionHypothesis (next _ left) following
          simp only [accepted, Progress.after, length_taken, withoutStage_append,
            sameCalls, ownCalls, status, calls, consumed, and_self]
        · simp only [accepted, withoutStage_append, sameCalls, ownCalls,
            Terminal.conclude, and_self]

end InStep

/-! ## Inserting a stage -/

/-- The stages of one script and then those of another. -/
def Script.followedBy {before between after : ValueType Name} :
    (first : Script Base ε context before between) →
      (later : Script Base ε context between after) →
      Script Base ε context before after
  | .done, later => later
  | .stage opening rest, later => .stage opening (rest.followedBy later)

/-- The records of two scripts stand one after the other. -/
theorem Script.descriptors_followedBy
    (first : Script Base ε context before between)
    (later : Script Base ε context between after) :
    (first.followedBy later).descriptors =
      first.descriptors ++ later.descriptors := by
  induction first with
  | done =>
      rfl
  | stage opening rest inductionHypothesis =>
      simp [followedBy, descriptors, inductionHypothesis]

/-- Following two scripts is following the one and then the other. -/
theorem Pipeline.follow_followedBy
    (pipeline : Pipeline Base ε context source before)
    (first : Script Base ε context before between)
    (later : Script Base ε context between after) :
    (pipeline.follow first).follow later =
      pipeline.follow (first.followedBy later) := by
  induction first with
  | done =>
      rfl
  | stage opening rest inductionHypothesis =>
      exact inductionHypothesis (pipeline.extend opening) later

namespace Chain

/-- A chain gains the stages of both scripts in order. -/
theorem followedBy_followedBy
    (chain : Chain Base ε context source before)
    (first : Script Base ε context before between)
    (later : Script Base ε context between after) :
    chain.followedBy (first.followedBy later) =
      (chain.followedBy first).followedBy later := by
  induction first with
  | done =>
      rfl
  | stage opening rest inductionHypothesis =>
      exact inductionHypothesis (chain.link opening) later

/-- A chain gains as many stages as a script has. -/
theorem length_followedBy
    (chain : Chain Base ε context source before)
    (script : Script Base ε context before after) :
    (chain.followedBy script).length = chain.length + script.length := by
  induction script with
  | done =>
      rfl
  | stage opening rest inductionHypothesis =>
      rw [followedBy, inductionHypothesis, length, Script.length]
      omega

end Chain

/-- Chains that start in step stay so with the same stages after both. -/
theorem InStep.followedBy
    {environment : context.Value Base}
    {taken : List (source.Value Base)}
    {place : Nat}
    {observed original : Chain Base ε context source before}
    (inStep :
      InStep environment taken place observed original
        observed.fresh original.fresh)
    (script : Script Base ε context before after) :
    InStep environment taken place
      (observed.followedBy script) (original.followedBy script)
      (observed.followedBy script).fresh (original.followedBy script).fresh := by
  induction script with
  | done =>
      exact inStep
  | stage opening rest inductionHypothesis =>
      exact inductionHypothesis (inStep.link opening opening.fresh)

/-- A chain without an observer and the same chain with it start in step. -/
theorem inStep_insert
    {environment : context.Value Base}
    {observer : Stage Base ε context between between}
    (observes : observer.Observes environment)
    (first : Script Base ε context source between)
    (later : Script Base ε context between element) :
    InStep environment [] first.length
      (Chain.source.followedBy (first.followedBy (.stage observer later)))
      (Chain.source.followedBy (first.followedBy later))
      (Chain.source.followedBy (first.followedBy (.stage observer later))).fresh
      (Chain.source.followedBy (first.followedBy later)).fresh := by
  have placed :
      ((Chain.source : Chain Base ε context source source).followedBy
        first).length = first.length := by
    rw [Chain.length_followedBy]
    exact Nat.zero_add _
  have start :
      InStep environment [] first.length
        ((Chain.source.followedBy first).link observer)
        (Chain.source.followedBy first)
        ((Chain.source.followedBy first).link observer).fresh
        (Chain.source.followedBy first).fresh := by
    have here := InStep.here placed observes (Chain.reached_fresh environment _)
    rwa [List.length_nil, Stage.counted_zero] at here
  rw [Chain.followedBy_followedBy, Chain.followedBy_followedBy]
  exact start.followedBy later

namespace Pipeline

/--
Inserting a stage changes neither whether a run may end early nor which scalar it
produces; the shape changes only by a filter in a collection that had none.
-/
theorem plan_insert
    (identity : Nat)
    (first : Script Base ε context source between)
    (inserted : Stage Base ε context between between)
    (later : Script Base ε context between element)
    (ending : Ending Base ε context element output) :
    let original :=
      (((new identity).follow (first.followedBy later)).conclude
        ending).procedure.plan
    let changed :=
      (((new identity).follow
        (first.followedBy (.stage inserted later))).conclude
          ending).procedure.plan
    changed.shortCircuits = original.shortCircuits ∧
      (∀ kind, changed.shape = .scalar kind ↔ original.shape = .scalar kind) ∧
      (changed.shape ≠ original.shape →
        original.shape = .preSized ∧
          changed.shape = .growable ∧
          inserted.kind = .filter ∧
          ending.sealedBy.kind? = none) := by
  intro original changed
  have originalShape :=
    shape_conclude_follow identity (first.followedBy later) ending
  have changedShape :=
    shape_conclude_follow identity (first.followedBy (.stage inserted later))
      ending
  change original.shape = _ at originalShape
  change changed.shape = _ at changedShape
  constructor
  · simp only [original, changed, shortCircuits_conclude_follow]
  cases declared : ending.sealedBy.kind? with
  | some kind =>
      rw [declared] at originalShape changedShape
      simp [originalShape, changedShape]
  | none =>
      rw [declared] at originalShape changedShape
      have filters :
          ((first.followedBy (.stage inserted later)).descriptors.any fun stage =>
              stage.kind == .filter) =
            ((inserted.kind == .filter) ||
              (first.followedBy later).descriptors.any fun stage =>
                stage.kind == .filter) := by
        simp only [Script.descriptors_followedBy, Script.descriptors,
          Stage.descriptor, List.any_append, List.any_cons, Bool.or_left_comm]
      rw [filters] at changedShape
      -- Only without a filter before can the inserted stage make a difference.
      cases hasFilter :
          (first.followedBy later).descriptors.any fun stage =>
            stage.kind == .filter with
      | true =>
          simp only [hasFilter, Bool.or_true, ↓reduceIte]
            at originalShape changedShape
          simp [originalShape, changedShape]
      | false =>
          simp only [hasFilter, Bool.or_false, Bool.false_eq_true, ↓reduceIte]
            at originalShape changedShape
          by_cases isFilter : inserted.kind = .filter
          · simp only [isFilter, beq_self_eq_true, ↓reduceIte] at changedShape
            simp [originalShape, changedShape, isFilter]
          · simp only [beq_iff_eq, isFilter, ↓reduceIte] at changedShape
            simp [originalShape, changedShape]

/--
Observers are transparent.  Inserted anywhere in a pipeline, a stage that never aborts
and hands on every element as it is leaves the result or abort of every run as it was,
and the calls as well once its own are left out and the stages after it move up.  The
plan says the same about runs that end early and about scalars; its shape changes at
most from one element for each of the input to an unknown number, by a filter in a
pipeline that collects.
-/
theorem observer_transparent
    (identity : Nat)
    (first : Script Base ε context source between)
    (observer : Stage Base ε context between between)
    (later : Script Base ε context between element)
    (ending : Ending Base ε context element output)
    (elements : List (source.Value Base))
    (environment : context.Value Base)
    (observes : observer.Observes environment) :
    let original :=
      ((((new identity).follow first).follow later).conclude ending).procedure
    let observed :=
      (((((new identity).follow first).extend observer).follow later).conclude
        ending).procedure
    ((observed.run elements environment).outcome =
        (original.run elements environment).outcome ∧
      withoutStage first.length (observed.run elements environment).calls =
        (original.run elements environment).calls ∧
      (observed.run elements environment).consumed =
        (original.run elements environment).consumed) ∧
    observed.plan.shortCircuits = original.plan.shortCircuits ∧
    (∀ kind,
      observed.plan.shape = .scalar kind ↔
        original.plan.shape = .scalar kind) ∧
    (observed.plan.shape ≠ original.plan.shape →
      original.plan.shape = .preSized ∧
        observed.plan.shape = .growable ∧
        observer.kind = .filter ∧
        ending.sealedBy.kind? = none) := by
  have inserted :
      (((new identity).follow first).extend observer).follow later =
        (new identity).follow (first.followedBy (.stage observer later)) :=
    (new identity).follow_followedBy first (.stage observer later)
  rw [inserted, follow_followedBy]
  refine ⟨?_, plan_insert identity first observer later ending⟩
  rw [run_conclude, run_conclude, follow_eq, follow_eq]
  exact (inStep_insert observes first later).loopWith_eq ending.sealedBy elements
    (ending.sealedBy.start 0)

/-- Accepts every number. -/
def acceptingAll : Stage (fun _ : Empty => Unit) String .unit .position .position :=
  .filter (.plain fun _ _ => .ok true)

/-- Between two stages, a filter that accepts everything leaves result and calls alone. -/
theorem observer_acceptingAll :
    let observed :=
      (((((new 0).follow (.stage .keepingOdds .done)).extend
        acceptingAll).follow (.stage .doubling .done)).conclude
          .leaveOpen).procedure
    acceptingAll.Observes () ∧
      (observed.run [1, 2, 3] ()).outcome = .ok [2, 6] ∧
      withoutStage 1 (observed.run [1, 2, 3] ()).calls =
        [⟨0, 0, .position, 1⟩, ⟨1, 0, .position, 1⟩, ⟨0, 1, .position, 2⟩,
          ⟨0, 2, .position, 3⟩, ⟨1, 1, .position, 3⟩] := by
  intro observed
  have observes : acceptingAll.Observes () := fun _ _ => rfl
  obtain ⟨⟨outcome, calls, _⟩, _⟩ :=
    observer_transparent 0 (.stage .keepingOdds .done) acceptingAll
      (.stage .doubling .done) .leaveOpen [1, 2, 3] () observes
  exact ⟨observes, outcome, calls⟩

end Pipeline

end OnePass
