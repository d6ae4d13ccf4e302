import OnePass.Proofs.Feeding
import OnePass.Proofs.Staged.Growth

namespace OnePass

/-!
# Feeding a chain and evaluating it stage by stage

After some elements were fed through a chain one by one, its counters are those
of stage-by-stage evaluation on the elements so far: a filter's counter is the
length of the list that leaves the filter, and so the index handed on with the
next survivor is its position in that list.  Feeding one more element extends the
list that leaves the chain by at most that survivor, and aborts exactly as
evaluation stage by stage aborts on the elements with the new one.
-/

variable {Name : Type} {Base : Name → Type} {ε : Type}
variable {context source before after element output : ValueType Name}

namespace Stage

/-- The counter of a stage that has handed on the given number of elements. -/
def counted :
    (stage : Stage Base ε context before after) →
      (handedOn : Nat) →
      stage.Counter
  | .filter _, handedOn => handedOn
  | .map _, _ => ()
  | .forEach _, _ => ()

/-- A stage that has handed on nothing has its fresh counter. -/
theorem counted_zero
    (stage : Stage Base ε context before after) :
    stage.counted 0 = stage.fresh := by
  cases stage <;> rfl

/-- Handing on one more element advances the counter. -/
theorem advanced_counted
    (stage : Stage Base ε context before after)
    (handedOn : Nat) :
    stage.advanced Nat.succ (stage.counted handedOn) =
      stage.counted (handedOn + 1) := by
  cases stage <;> rfl

variable {stage : Stage Base ε context before after}
variable {place position : Nat} {environment : context.Value Base}

/-- Only a filter drops an element. -/
theorem isSome_of_kind_ne_filter
    (notFilter : stage.kind ≠ .filter)
    {value : before.Value Base}
    {handed? : Option (after.Value Base)}
    (applied : stage.apply value position environment = .ok handed?) :
    handed?.isSome := by
  cases stage with
  | filter predicate =>
      exact absurd rfl notFilter
  | map mapper =>
      simp only [apply] at applied
      cases called : mapper.call value position environment with
      | error reason =>
          simp [called] at applied
      | ok mapped =>
          simp only [called, Except.ok.injEq] at applied
          subst handed?
          rfl
  | forEach effect =>
      simp only [apply] at applied
      cases called : effect.call value position environment with
      | error reason =>
          simp [called] at applied
      | ok _ =>
          simp only [called, Except.ok.injEq] at applied
          subst handed?
          rfl

/-- A stage that is not a filter hands on every element. -/
theorem length_pass
    (notFilter : stage.kind ≠ .filter)
    {values : List (before.Value Base)}
    {handed : List (after.Value Base)}
    (passed : (stage.pass place environment values position).outcome = .ok handed) :
    handed.length = values.length := by
  induction values generalizing position handed with
  | nil =>
      simp only [pass_nil, Except.ok.injEq] at passed
      subst handed
      rfl
  | cons value rest inductionHypothesis =>
      simp only [pass_cons] at passed
      cases applied : stage.apply value position environment with
      | error reason =>
          simp [applied] at passed
      | ok handed? =>
          obtain ⟨first, rfl⟩ :=
            Option.isSome_iff_exists.mp
              (isSome_of_kind_ne_filter notFilter applied)
          cases restPassed :
              (stage.pass place environment rest (position + 1)).outcome with
          | error reason =>
              simp [applied, restPassed, Except.map] at passed
          | ok restHanded =>
              simp only [applied, restPassed, Except.map,
                Except.ok.injEq] at passed
              subst handed
              simp [inductionHypothesis restPassed]

/--
The index that a stage hands on with its next survivor is the number of elements
it has handed on before.
-/
theorem outgoing_counted
    {values : List (before.Value Base)}
    {handed : List (after.Value Base)}
    (passed : (stage.pass place environment values position).outcome = .ok handed) :
    stage.outgoing values.length (stage.counted handed.length) =
      handed.length := by
  cases stage with
  | filter predicate =>
      rfl
  | map mapper =>
      exact (length_pass (by simp [kind]) passed).symm
  | forEach effect =>
      exact (length_pass (by simp [kind]) passed).symm

/-- A pass over one more element calls the stage on it and adds what it hands on. -/
theorem pass_snoc
    {values : List (before.Value Base)}
    {handed : List (after.Value Base)}
    (passed : (stage.pass place environment values 0).outcome = .ok handed)
    (value : before.Value Base) :
    stage.pass place environment (values ++ [value]) 0 =
      { outcome :=
          (stage.apply value values.length environment).map fun handed? =>
            handed ++ handed?.toList
        calls :=
          (stage.pass place environment values 0).calls ++
            [⟨place, values.length, before, value⟩] } := by
  rw [pass_append_of_ok passed, Nat.zero_add]
  simp only [pass_cons, pass_nil]
  cases stage.apply value values.length environment <;>
    simp [Except.map]

end Stage

namespace Chain

/--
Where a chain stands after some elements were taken: the counters are those of
stage-by-stage evaluation on these elements, which leaves the given survivors.
-/
def Reached
    (environment : context.Value Base)
    (taken : List (source.Value Base))
    {element : ValueType Name} :
    (chain : Chain Base ε context source element) →
      (counters : chain.Counters) →
      (survivors : List (element.Value Base)) →
      Prop
  | .source, _, survivors => survivors = taken
  | .link earlier stage, counters, survivors =>
      ∃ between,
        earlier.Reached environment taken counters.1 between ∧
          (stage.pass earlier.length environment between 0).outcome =
            .ok survivors ∧
          counters.2 = stage.counted survivors.length

/-- A fresh chain stands where no element was taken. -/
theorem reached_fresh
    (environment : context.Value Base)
    (chain : Chain Base ε context source element) :
    chain.Reached environment [] chain.fresh [] := by
  induction chain with
  | source =>
      rfl
  | link earlier stage inductionHypothesis =>
      exact ⟨[], inductionHypothesis, by simp, (stage.counted_zero).symm⟩

variable {chain : Chain Base ε context source element}
variable {environment : context.Value Base}
variable {taken : List (source.Value Base)}
variable {counters : chain.Counters} {survivors : List (element.Value Base)}

namespace Reached

/-- Where a chain stands tells what leaves it stage by stage. -/
theorem staged_outcome
    (reached : chain.Reached environment taken counters survivors) :
    (chain.staged environment taken).outcome = .ok survivors := by
  induction chain with
  | source =>
      rw [show survivors = taken from reached]
      rfl
  | link earlier stage inductionHypothesis =>
      obtain ⟨between, earlierReached, passed, _⟩ := reached
      rw [staged_link_of_ok (inductionHypothesis earlierReached)]
      exact passed

/--
An element that leaves the chain has the position after the earlier survivors as
its index, and joins them.
-/
theorem handed
    (reached : chain.Reached environment taken counters survivors)
    {value : source.Value Base}
    {survivor : element.Value Base}
    {index : Nat}
    (fed :
      (chain.feedWith Nat.succ value taken.length environment counters).outcome =
        .ok (some (survivor, index))) :
    index = survivors.length ∧
      chain.Reached environment (taken ++ [value])
        (chain.feedWith Nat.succ value taken.length environment
          counters).counters
        (survivors ++ [survivor]) := by
  induction chain generalizing index with
  | source =>
      simp only [feedWith, Except.ok.injEq, Option.some.injEq,
        Prod.mk.injEq] at fed
      obtain ⟨rfl, rfl⟩ := fed
      have same : survivors = taken := reached
      subst survivors
      exact ⟨rfl, rfl⟩
  | link earlier stage inductionHypothesis =>
      obtain ⟨between, earlierReached, passed, counted⟩ := reached
      have linked :=
        feedWith_link Nat.succ earlier stage value taken.length environment
          counters
      generalize (earlier.link stage).feedWith Nat.succ value taken.length
        environment counters = result at fed linked ⊢
      cases linked with
      | earlierAborts | earlierDrops | aborts | drops =>
          simp at fed
      | handsOn earlierFed applied =>
          obtain ⟨rfl, nextReached⟩ :=
            inductionHypothesis earlierReached earlierFed
          simp only [Except.ok.injEq, Option.some.injEq, Prod.mk.injEq] at fed
          obtain ⟨rfl, rfl⟩ := fed
          rw [counted, Stage.outgoing_counted passed, Stage.advanced_counted]
          refine ⟨rfl, _, nextReached, ?_, ?_⟩
          · simp [Stage.pass_snoc passed, applied, Except.map]
          · simp

/-- An element that is dropped leaves the survivors as they were. -/
theorem dropped
    (reached : chain.Reached environment taken counters survivors)
    {value : source.Value Base}
    (fed :
      (chain.feedWith Nat.succ value taken.length environment counters).outcome =
        .ok none) :
    chain.Reached environment (taken ++ [value])
      (chain.feedWith Nat.succ value taken.length environment counters).counters
      survivors := by
  induction chain with
  | source =>
      simp [feedWith] at fed
  | link earlier stage inductionHypothesis =>
      obtain ⟨between, earlierReached, passed, counted⟩ := reached
      have linked :=
        feedWith_link Nat.succ earlier stage value taken.length environment
          counters
      generalize (earlier.link stage).feedWith Nat.succ value taken.length
        environment counters = result at fed linked ⊢
      cases linked with
      | earlierAborts | aborts | handsOn =>
          simp at fed
      | earlierDrops earlierFed =>
          exact ⟨between, inductionHypothesis earlierReached earlierFed, passed,
            counted⟩
      | drops earlierFed applied =>
          obtain ⟨rfl, nextReached⟩ := earlierReached.handed earlierFed
          refine ⟨_, nextReached, ?_, counted⟩
          simp [Stage.pass_snoc passed, applied, Except.map]

/-- An element on which the chain aborts makes stage-by-stage evaluation abort too. -/
theorem aborted
    (reached : chain.Reached environment taken counters survivors)
    {value : source.Value Base}
    {reason : ε}
    (fed :
      (chain.feedWith Nat.succ value taken.length environment counters).outcome =
        .error reason) :
    (chain.staged environment (taken ++ [value])).outcome = .error reason := by
  induction chain with
  | source =>
      simp [feedWith] at fed
  | link earlier stage inductionHypothesis =>
      obtain ⟨between, earlierReached, passed, counted⟩ := reached
      have linked :=
        feedWith_link Nat.succ earlier stage value taken.length environment
          counters
      generalize (earlier.link stage).feedWith Nat.succ value taken.length
        environment counters = result at fed linked
      cases linked with
      | earlierDrops | drops | handsOn =>
          simp at fed
      | earlierAborts earlierFed =>
          simp only [Except.error.injEq] at fed
          subst reason
          rw [staged_link_of_error
            (inductionHypothesis earlierReached earlierFed)]
      | aborts earlierFed applied =>
          simp only [Except.error.injEq] at fed
          subst reason
          obtain ⟨rfl, nextReached⟩ := earlierReached.handed earlierFed
          rw [staged_link_of_ok nextReached.staged_outcome,
            Stage.pass_snoc passed, applied]
          rfl

end Reached

end Chain

end OnePass
