import Mathlib.Data.List.Forall2
import OnePass.Proofs.Feeding
import OnePass.Proofs.Looping

namespace OnePass

/-!
# One segment of calls for each element

The record of a run is made of segments, one for each element it takes.  A segment
starts at the first stage, calls the stages one after another without leaving one
out, and ends at the first filter that rejects the element or else at the last
stage that has a callback.
-/

variable {Name : Type} {Base : Name → Type} {ε : Type}
variable {context source before after element output : ValueType Name}

/-! ## How a stage answers a call -/

/-- What becomes of an element at a stage. -/
inductive Verdict (ε : Type) where
  | handedOn
  | rejected
  | aborted (reason : ε)

/-- The verdict that an outcome stands for. -/
def Verdict.ofOutcome
    {α : Type} :
    Except ε (Option α) → Verdict ε
  | .ok (some _) => .handedOn
  | .ok none => .rejected
  | .error reason => .aborted reason

/-- The verdict of a stage on an element; only a filter rejects. -/
def Stage.verdict :
    (stage : Stage Base ε context before after) →
      (value : before.Value Base) →
      (index : Nat) →
      (environment : context.Value Base) →
      Verdict ε
  | .filter predicate, value, index, environment =>
      match predicate.call value index environment with
      | .ok true => .handedOn
      | .ok false => .rejected
      | .error reason => .aborted reason
  | .map mapper, value, index, environment =>
      match mapper.call value index environment with
      | .ok _ => .handedOn
      | .error reason => .aborted reason
  | .forEach effect, value, index, environment =>
      match effect.call value index environment with
      | .ok _ => .handedOn
      | .error reason => .aborted reason

/-- The verdict of a stage is that of what it makes of the element. -/
theorem Stage.verdict_eq
    (stage : Stage Base ε context before after)
    (value : before.Value Base)
    (index : Nat)
    (environment : context.Value Base) :
    stage.verdict value index environment =
      .ofOutcome (stage.apply value index environment) := by
  cases stage with
  | filter predicate =>
      simp only [apply, verdict]
      rcases predicate.call value index environment with reason | (_ | _) <;>
        rfl
  | map mapper =>
      simp only [apply, verdict]
      cases mapper.call value index environment <;> rfl
  | forEach effect =>
      simp only [apply, verdict]
      cases effect.call value index environment <;> rfl

namespace Chain

/-- The stage that a call belongs to is one of the chain and gives this verdict. -/
def Answers
    (environment : context.Value Base)
    {element : ValueType Name} :
    (chain : Chain Base ε context source element) →
      (call : Call Base) →
      (verdict : Verdict ε) →
      Prop
  | .source, _, _ => False
  | .link earlier stage, call, verdict =>
      earlier.Answers environment call verdict ∨
        ∃ index value,
          call = ⟨earlier.length, index, _, value⟩ ∧
            stage.verdict value index environment = verdict

variable {environment : context.Value Base}

/-- A call that a chain answers belongs to one of its stages. -/
theorem Answers.stage_lt
    {chain : Chain Base ε context source element}
    {call : Call Base}
    {verdict : Verdict ε}
    (answers : chain.Answers environment call verdict) :
    call.stage < chain.length := by
  induction chain with
  | source =>
      exact answers.elim
  | link earlier stage inductionHypothesis =>
      rcases answers with earlierAnswers | ⟨index, value, rfl, _⟩
      · exact Nat.lt_succ_of_lt (inductionHypothesis earlierAnswers)
      · exact Nat.lt_succ_self _

/-- A chain gives one verdict on a call. -/
theorem Answers.unique
    {chain : Chain Base ε context source element}
    {call : Call Base}
    {first second : Verdict ε}
    (firstAnswers : chain.Answers environment call first)
    (secondAnswers : chain.Answers environment call second) :
    first = second := by
  induction chain with
  | source =>
      exact firstAnswers.elim
  | link earlier stage inductionHypothesis =>
      rcases firstAnswers with firstEarlier | ⟨index, value, rfl, rfl⟩
      · rcases secondAnswers with secondEarlier | ⟨index, value, rfl, _⟩
        · exact inductionHypothesis firstEarlier secondEarlier
        · exact absurd firstEarlier.stage_lt (Nat.lt_irrefl _)
      · rcases secondAnswers with secondEarlier | ⟨_, _, same, rfl⟩
        · exact absurd secondEarlier.stage_lt (Nat.lt_irrefl _)
        · cases same
          rfl

/-- A last stage answers its own calls. -/
theorem answers_last
    {earlier : Chain Base ε context source before}
    {stage : Stage Base ε context before after}
    {value : before.Value Base}
    {index : Nat}
    {outcome : Except ε (Option (after.Value Base))}
    (applied : stage.apply value index environment = outcome) :
    (earlier.link stage).Answers environment
      ⟨earlier.length, index, before, value⟩ (.ofOutcome outcome) :=
  .inr ⟨index, value, rfl, by rw [stage.verdict_eq, applied]⟩

/-! ## Feeding one element -/

/-- An element that leaves the chain was handed on by every stage. -/
theorem calls_of_handed
    {advance : Nat → Nat}
    {chain : Chain Base ε context source element}
    {value : source.Value Base}
    {raw : Nat}
    {counters : chain.Counters}
    {survivor : element.Value Base × Nat}
    (left :
      (chain.feedWith advance value raw environment counters).outcome =
        .ok (some survivor)) :
    (chain.feedWith advance value raw environment counters).calls.length =
        chain.length ∧
      ∀ call ∈ (chain.feedWith advance value raw environment counters).calls,
        chain.Answers environment call .handedOn := by
  induction chain with
  | source =>
      simp [feedWith, length]
  | link earlier stage inductionHypothesis =>
      have linked :=
        feedWith_link advance earlier stage value raw environment counters
      generalize (earlier.link stage).feedWith advance value raw environment
        counters = result at left linked ⊢
      cases linked with
      | earlierAborts | earlierDrops | aborts | drops =>
          simp at left
      | handsOn reached applied =>
          obtain ⟨complete, answers⟩ := inductionHypothesis reached
          constructor
          · simp [complete, length]
          · intro call member
            rcases List.mem_append.mp member with inEarlier | isLast
            · exact .inl (answers call inEarlier)
            · rw [List.mem_singleton.mp isLast]
              exact answers_last applied

/--
An element that does not leave the chain was handed on by the stages before the one
that rejects it or aborts.
-/
theorem calls_of_kept
    {advance : Nat → Nat}
    {chain : Chain Base ε context source element}
    {value : source.Value Base}
    {raw : Nat}
    {counters : chain.Counters}
    (kept :
      ∀ survivor,
        (chain.feedWith advance value raw environment counters).outcome ≠
          .ok (some survivor)) :
    ∃ calls last,
      (chain.feedWith advance value raw environment counters).calls =
          calls ++ [last] ∧
        (∀ call ∈ calls, chain.Answers environment call .handedOn) ∧
        chain.Answers environment last
          (.ofOutcome
            (chain.feedWith advance value raw environment
              counters).outcome) := by
  induction chain with
  | source =>
      exact absurd rfl (kept (value, raw))
  | link earlier stage inductionHypothesis =>
      have linked :=
        feedWith_link advance earlier stage value raw environment counters
      generalize (earlier.link stage).feedWith advance value raw environment
        counters = result at kept linked ⊢
      cases linked with
      | earlierAborts reached | earlierDrops reached =>
          have earlierKept :
              ∀ survivor,
                (earlier.feedWith advance value raw environment
                  counters.1).outcome ≠ .ok (some survivor) := by
            simp [reached]
          obtain ⟨calls, last, shape, answers, ending⟩ :=
            inductionHypothesis earlierKept
          rw [reached] at ending
          exact ⟨calls, last, shape,
            fun call member => .inl (answers call member), .inl ending⟩
      | aborts reached applied | drops reached applied =>
          exact ⟨_, _, rfl,
            fun call member => .inl ((calls_of_handed reached).2 call member),
            answers_last applied⟩
      | handsOn reached applied =>
          exact absurd rfl (kept _)

/-- The calls on one element go from stage to stage, starting at the first. -/
theorem stages_of_feedWith
    (advance : Nat → Nat)
    (chain : Chain Base ε context source element)
    (value : source.Value Base)
    (raw : Nat)
    (environment : context.Value Base)
    (counters : chain.Counters) :
    (chain.feedWith advance value raw environment counters).calls.map
        Call.stage =
      List.range
        (chain.feedWith advance value raw environment
          counters).calls.length := by
  induction chain with
  | source =>
      rfl
  | link earlier stage inductionHypothesis =>
      have linked :=
        feedWith_link advance earlier stage value raw environment counters
      generalize (earlier.link stage).feedWith advance value raw environment
        counters = result at linked ⊢
      cases linked with
      | earlierAborts reached | earlierDrops reached =>
          exact inductionHypothesis counters.1
      | aborts reached applied | drops reached applied
      | handsOn reached applied =>
          simp [inductionHypothesis counters.1, List.range_succ,
            (calls_of_handed reached).1]

/--
If the first call on an element receives it at its raw position, so does the first
of these calls and the one made when the element leaves the chain.
-/
theorem head_append_of_handed
    {advance : Nat → Nat}
    {chain : Chain Base ε context source element}
    {value : source.Value Base}
    {raw : Nat}
    {counters : chain.Counters}
    (head :
      ∀ call ∈
          (chain.feedWith advance value raw environment counters).calls.head?,
        call = ⟨0, raw, source, value⟩)
    {survivor : element.Value Base}
    {index : Nat}
    (left :
      (chain.feedWith advance value raw environment counters).outcome =
        .ok (some (survivor, index))) :
    ∀ call ∈
        ((chain.feedWith advance value raw environment counters).calls ++
          [Call.mk chain.length index element survivor]).head?,
      call = ⟨0, raw, source, value⟩ := by
  cases chain with
  | source =>
      simp only [feedWith, Except.ok.injEq, Option.some.injEq,
        Prod.mk.injEq] at left
      obtain ⟨rfl, rfl⟩ := left
      simp [feedWith, length]
  | link earlier stage =>
      have complete := (calls_of_handed left).1
      cases calls :
          ((earlier.link stage).feedWith advance value raw environment
            counters).calls with
      | nil =>
          simp [calls, length] at complete
      | cons call rest =>
          simpa [calls] using head

/-- The first call on an element receives the element itself at its raw position. -/
theorem head_of_feedWith
    (advance : Nat → Nat)
    (chain : Chain Base ε context source element)
    (value : source.Value Base)
    (raw : Nat)
    (environment : context.Value Base)
    (counters : chain.Counters) :
    ∀ call ∈
        (chain.feedWith advance value raw environment counters).calls.head?,
      call = ⟨0, raw, source, value⟩ := by
  induction chain with
  | source =>
      simp [feedWith]
  | link earlier stage inductionHypothesis =>
      have linked :=
        feedWith_link advance earlier stage value raw environment counters
      generalize (earlier.link stage).feedWith advance value raw environment
        counters = result at linked ⊢
      have head := inductionHypothesis counters.1
      cases linked with
      | earlierAborts reached | earlierDrops reached =>
          exact head
      | aborts reached applied | drops reached applied
      | handsOn reached applied =>
          exact head_append_of_handed head reached

end Chain

/-! ## The record of a run -/

/--
A segment of calls on one element: the stages are called one after another from
the first, every call but the last hands the element on, and the last one is that
of the filter that rejects the element or, if none does, of the last stage that has
a callback.
-/
structure IsSegment
    (chain : Chain Base ε context source element)
    (terminal : Terminal Base ε context element output)
    (environment : context.Value Base)
    (value : source.Value Base)
    (raw : Nat)
    (calls : List (Call Base)) :
    Prop where
  starts : ∀ call ∈ calls.head?, call = ⟨0, raw, source, value⟩
  consecutive : calls.map Call.stage = List.range calls.length
  goesOn : ∀ call ∈ calls.dropLast, chain.Answers environment call .handedOn
  ends :
    (∃ call ∈ calls.getLast?, chain.Answers environment call .rejected) ∨
      ((∀ call ∈ calls, ¬chain.Answers environment call .rejected) ∧
        calls.length =
          chain.length + if terminal.hasCallback then 1 else 0)

variable {chain : Chain Base ε context source element}
variable {terminal : Terminal Base ε context element output}
variable {environment : context.Value Base}
variable {advance : Nat → Nat} {value : source.Value Base} {raw : Nat}
variable {counters : chain.Counters}

/-- The calls on an element that a filter drops are a segment. -/
theorem isSegment_of_dropped
    (left :
      (chain.feedWith advance value raw environment counters).outcome =
        .ok none) :
    IsSegment chain terminal environment value raw
      (chain.feedWith advance value raw environment counters).calls := by
  have kept :
      ∀ survivor,
        (chain.feedWith advance value raw environment counters).outcome ≠
          .ok (some survivor) := by
    simp [left]
  obtain ⟨calls, last, shape, answers, ending⟩ := Chain.calls_of_kept kept
  rw [left] at ending
  refine
    ⟨chain.head_of_feedWith advance value raw environment counters,
      chain.stages_of_feedWith advance value raw environment counters, ?_, ?_⟩
  · simpa [shape] using answers
  · exact .inl ⟨last, by simp [shape], ending⟩

/-- The calls on an element that reaches the terminal are a segment. -/
theorem isSegment_of_handed
    {survivor : element.Value Base}
    {index : Nat}
    (left :
      (chain.feedWith advance value raw environment counters).outcome =
        .ok (some (survivor, index))) :
    IsSegment chain terminal environment value raw
      ((chain.feedWith advance value raw environment counters).calls ++
        terminal.calls chain.length survivor index) := by
  obtain ⟨complete, answers⟩ := Chain.calls_of_handed left
  have stages :=
    chain.stages_of_feedWith advance value raw environment counters
  have head := chain.head_of_feedWith advance value raw environment counters
  have notRejected :
      ∀ call ∈ (chain.feedWith advance value raw environment counters).calls,
        ¬chain.Answers environment call .rejected := by
    intro call member rejected
    have same := (answers call member).unique rejected
    contradiction
  unfold Terminal.calls
  split
  · rename_i callback
    refine ⟨Chain.head_append_of_handed head left, ?_, ?_, .inr ⟨?_, ?_⟩⟩
    · simp [stages, complete, List.range_succ]
    · simpa using answers
    · intro call member rejected
      rcases List.mem_append.mp member with inChain | isLast
      · exact notRejected call inChain rejected
      · rw [List.mem_singleton.mp isLast] at rejected
        exact Nat.lt_irrefl _ rejected.stage_lt
    · simp [complete, callback]
  · rename_i silent
    rw [List.append_nil]
    refine ⟨head, stages, ?_, .inr ⟨notRejected, ?_⟩⟩
    · intro call member
      exact answers call ((List.dropLast_sublist _).subset member)
    · simp [complete, silent]

/--
The record of a run that does not abort is a sequence of segments, one for each
element taken, in the order of the input.
-/
theorem loopWith_segments
    {state : terminal.State}
    {elements : List (source.Value Base)}
    (smooth :
      ∀ reason,
        (loopWith Nat.succ chain terminal environment
          elements raw counters state).status ≠ .aborted reason) :
    ∃ segments,
      (loopWith Nat.succ chain terminal environment
          elements raw counters state).calls = segments.flatten ∧
        List.Forall₂
          (fun taken segment =>
            IsSegment chain terminal environment taken.1 taken.2 segment)
          ((elements.take
            (loopWith Nat.succ chain terminal environment
              elements raw counters state).consumed).zipIdx raw)
          segments := by
  induction elements generalizing raw counters state with
  | nil =>
      exact ⟨[], rfl, .nil⟩
  | cons value rest inductionHypothesis =>
      have step :=
        loopWith_cons Nat.succ chain terminal environment value rest raw
          counters state
      generalize loopWith Nat.succ chain terminal environment
        (value :: rest) raw counters state = progress at smooth step ⊢
      cases step with
      | chainAborts | terminalAborts =>
          exact absurd rfl (smooth _)
      | chainDrops left =>
          obtain ⟨segments, flattened, related⟩ := inductionHypothesis smooth
          refine ⟨_ :: segments, ?_, .cons (isSegment_of_dropped left) related⟩
          simp [Progress.after, flattened]
      | terminalStops left accepted =>
          exact ⟨[_], by simp, .cons (isSegment_of_handed left) .nil⟩
      | terminalProceeds left accepted =>
          obtain ⟨segments, flattened, related⟩ := inductionHypothesis smooth
          refine ⟨_ :: segments, ?_, .cons (isSegment_of_handed left) related⟩
          simp [Progress.after, flattened]

end OnePass
