import OnePass.Proofs.Feeding
import OnePass.Proofs.Looping

namespace OnePass

/-!
# Runs without their aborts

A callback is mended by one that answers as it does wherever it answers and returns
some result wherever it aborts.  A run with mended callbacks makes the calls of the
run itself up to the first one that aborts, whatever the mended callbacks return
from then on.
-/

variable {Name : Type} {Base : Name → Type} {ε : Type}
variable {context source before after element output : ValueType Name}

/-- The first callback never aborts and returns what the second returns. -/
def Callback.Mends
    {γ α β : Type}
    (mended original : Callback ε γ α β) :
    Prop :=
  ∀ value index environment,
    (∃ result, mended.call value index environment = .ok result) ∧
      ∀ result,
        original.call value index environment = .ok result →
        mended.call value index environment = .ok result

/-- The stages have the same kind, and one's callback mends the other's. -/
inductive Stage.Mends :
    {before after : ValueType Name} →
      (mended original : Stage Base ε context before after) →
      Prop where
  | filter
      {element : ValueType Name}
      {mended original :
        Callback ε (context.Value Base) (element.Value Base) Bool}
      (mends : mended.Mends original) :
      Stage.Mends (.filter mended) (.filter original)
  | map
      {before after : ValueType Name}
      {mended original :
        Callback ε (context.Value Base) (before.Value Base) (after.Value Base)}
      (mends : mended.Mends original) :
      Stage.Mends (.map mended) (.map original)
  | forEach
      {element : ValueType Name}
      {mended original :
        Callback ε (context.Value Base) (element.Value Base) Unit}
      (mends : mended.Mends original) :
      Stage.Mends (.forEach mended) (.forEach original)

/-- The chains have stages of which one's mend the other's, place by place. -/
inductive Chain.Mends :
    {element : ValueType Name} →
      (mended original : Chain Base ε context source element) →
      Prop where
  | source :
      Chain.Mends .source .source
  | link
      {before after : ValueType Name}
      {mendedEarlier originalEarlier : Chain Base ε context source before}
      {mended original : Stage Base ε context before after}
      (earlier : Chain.Mends mendedEarlier originalEarlier)
      (mends : mended.Mends original) :
      Chain.Mends (mendedEarlier.link mended) (originalEarlier.link original)

/-- The terminals are of the same kind, and one's callback mends the other's. -/
inductive Terminal.Mends :
    {output : ValueType Name} →
      (mended original : Terminal Base ε context element output) →
      Prop where
  | collect :
      Terminal.Mends .collect .collect
  | reduce
      {accumulator : ValueType Name}
      {mended original :
        Callback ε (context.Value Base)
          (accumulator.Value Base × element.Value Base)
          (accumulator.Value Base)}
      (mends : mended.Mends original)
      (seed : Seed ε (accumulator.Value Base)) :
      Terminal.Mends (.reduce mended seed) (.reduce original seed)
  | join
      (separator : String)
      (display : element.Value Base → String) :
      Terminal.Mends (.join separator display) (.join separator display)
  | find
      {mended original :
        Callback ε (context.Value Base) (element.Value Base) Bool}
      (mends : mended.Mends original) :
      Terminal.Mends (.find mended) (.find original)
  | findIndex
      {mended original :
        Callback ε (context.Value Base) (element.Value Base) Bool}
      (mends : mended.Mends original) :
      Terminal.Mends (.findIndex mended) (.findIndex original)
  | some
      {mended original :
        Callback ε (context.Value Base) (element.Value Base) Bool}
      (mends : mended.Mends original) :
      Terminal.Mends (.some mended) (.some original)
  | every
      {mended original :
        Callback ε (context.Value Base) (element.Value Base) Bool}
      (mends : mended.Mends original) :
      Terminal.Mends (.every mended) (.every original)

/-! ## One element -/

/-- A mended stage makes of an element what the stage itself makes of it. -/
theorem Stage.Mends.apply_eq
    {mended original : Stage Base ε context before after}
    (mends : mended.Mends original)
    {value : before.Value Base}
    {index : Nat}
    {environment : context.Value Base}
    {handed? : Option (after.Value Base)}
    (applied : original.apply value index environment = .ok handed?) :
    mended.apply value index environment = .ok handed? := by
  cases mends with
  | @filter mended original mends =>
      simp only [apply] at applied ⊢
      cases called : original.call value index environment with
      | error reason =>
          simp [called] at applied
      | ok accepts =>
          rw [(mends value index environment).2 accepts called]
          simpa only [called] using applied
  | @map after mended original mends =>
      simp only [apply] at applied ⊢
      cases called : original.call value index environment with
      | error reason =>
          simp [called] at applied
      | ok mapped =>
          rw [(mends value index environment).2 mapped called]
          simpa only [called] using applied
  | @forEach mended original mends =>
      simp only [apply] at applied ⊢
      cases called : original.call value index environment with
      | error reason =>
          simp [called] at applied
      | ok result =>
          rw [(mends value index environment).2 result called]
          simpa only [called] using applied

/-- A mended stage never aborts. -/
theorem Stage.Mends.apply_ne_error
    {mended original : Stage Base ε context before after}
    (mends : mended.Mends original)
    (value : before.Value Base)
    (index : Nat)
    (environment : context.Value Base)
    (reason : ε) :
    mended.apply value index environment ≠ .error reason := by
  cases mends with
  | @filter mended original mends =>
      obtain ⟨accepts, called⟩ := (mends value index environment).1
      cases accepts <;> simp [apply, called]
  | @map after mended original mends | @forEach mended original mends =>
      obtain ⟨result, called⟩ := (mends value index environment).1
      simp [apply, called]

/-- Stages that mend each other and have counted alike hand on the same index. -/
theorem Stage.Mends.outgoing_eq
    {mended original : Stage Base ε context before after}
    (mends : mended.Mends original)
    {mendedCounter : mended.Counter}
    {counter : original.Counter}
    (same : mended.filterCount? mendedCounter = original.filterCount? counter)
    (index : Nat) :
    mended.outgoing index mendedCounter = original.outgoing index counter := by
  cases mends with
  | filter =>
      exact Option.some.inj same
  | map | forEach =>
      rfl

/-- Stages that mend each other and have counted alike go on counting alike. -/
theorem Stage.Mends.filterCount?_advanced
    {mended original : Stage Base ε context before after}
    (mends : mended.Mends original)
    {mendedCounter : mended.Counter}
    {counter : original.Counter}
    (same : mended.filterCount? mendedCounter = original.filterCount? counter)
    (advance : Nat → Nat) :
    mended.filterCount? (mended.advanced advance mendedCounter) =
      original.filterCount? (original.advanced advance counter) := by
  cases mends with
  | filter =>
      exact congrArg (Option.map advance) same
  | map | forEach =>
      rfl

namespace Chain.Mends

variable {mended original : Chain Base ε context source element}
variable {mendedCounters : mended.Counters} {counters : original.Counters}
variable {advance : Nat → Nat} {value : source.Value Base} {raw : Nat}
variable {environment : context.Value Base}

/-- Mending keeps the number of stages. -/
theorem length_eq
    (mends : mended.Mends original) :
    mended.length = original.length := by
  induction mends with
  | source =>
      rfl
  | link earlier mends inductionHypothesis =>
      simp [length, inductionHypothesis]

/-- Fresh chains that mend each other have counted alike. -/
theorem counts_fresh
    (mends : mended.Mends original) :
    mended.counts mended.fresh = original.counts original.fresh := by
  induction mends with
  | source =>
      rfl
  | link earlier mends inductionHypothesis =>
      cases mends <;>
        simp [counts, fresh, inductionHypothesis, Stage.fresh,
          Stage.filterCount?]

/-- A mended chain never aborts. -/
theorem feedWith_ne_error
    (mends : mended.Mends original)
    (reason : ε) :
    (mended.feedWith advance value raw environment
      mendedCounters).outcome ≠ .error reason := by
  induction mends generalizing reason with
  | source =>
      simp [feedWith]
  | @link before after mendedEarlier originalEarlier mended original earlier
      mends inductionHypothesis =>
      have linked :=
        feedWith_link advance mendedEarlier mended value raw environment
          mendedCounters
      generalize (mendedEarlier.link mended).feedWith advance value raw
        environment mendedCounters = result at linked ⊢
      cases linked with
      | earlierAborts reached =>
          exact absurd reached (inductionHypothesis _)
      | aborts reached applied =>
          exact absurd applied (mends.apply_ne_error _ _ _ _)
      | earlierDrops | drops | handsOn =>
          simp

/-- On an element on which a chain does not abort, mending makes no difference. -/
theorem feedWith_eq
    (mends : mended.Mends original)
    (same : mended.counts mendedCounters = original.counts counters)
    {handed? : Option (element.Value Base × Nat)}
    (fed :
      (original.feedWith advance value raw environment counters).outcome =
        .ok handed?) :
    (mended.feedWith advance value raw environment
        mendedCounters).outcome = .ok handed? ∧
      (mended.feedWith advance value raw environment mendedCounters).calls =
        (original.feedWith advance value raw environment counters).calls ∧
      mended.counts
          (mended.feedWith advance value raw environment
            mendedCounters).counters =
        original.counts
          (original.feedWith advance value raw environment
            counters).counters := by
  induction mends with
  | source =>
      exact ⟨fed, rfl, rfl⟩
  | @link before after mendedEarlier originalEarlier mended original earlier
      mends inductionHypothesis =>
      obtain ⟨sameEarlier, sameLast⟩ := List.append_inj' same rfl
      have sameCount := List.singleton_inj.mp sameLast
      have linked :=
        feedWith_link advance originalEarlier original value raw environment
          counters
      generalize (originalEarlier.link original).feedWith advance value raw
        environment counters = result at fed linked ⊢
      cases linked with
      | earlierAborts | aborts =>
          simp at fed
      | earlierDrops reached =>
          obtain ⟨outcome, calls, counted⟩ :=
            inductionHypothesis sameEarlier reached
          refine ⟨?_, ?_, ?_⟩
          · simpa only [feedWith, outcome] using fed
          · simp only [feedWith, outcome, calls]
          · simp only [feedWith, outcome, counts, counted, sameCount]
      | drops reached applied =>
          obtain ⟨outcome, calls, counted⟩ :=
            inductionHypothesis sameEarlier reached
          have sameApplied := mends.apply_eq applied
          refine ⟨?_, ?_, ?_⟩
          · simpa only [feedWith, outcome, Stage.process, sameApplied] using fed
          · simp only [feedWith, outcome, calls, earlier.length_eq]
          · simp only [feedWith, outcome, Stage.process, sameApplied, counts,
              counted, sameCount]
      | handsOn reached applied =>
          obtain ⟨outcome, calls, counted⟩ :=
            inductionHypothesis sameEarlier reached
          have sameApplied := mends.apply_eq applied
          refine ⟨?_, ?_, ?_⟩
          · simpa only [feedWith, outcome, Stage.process, sameApplied,
              mends.outgoing_eq sameCount] using fed
          · simp only [feedWith, outcome, calls, earlier.length_eq]
          · simp only [feedWith, outcome, Stage.process, sameApplied, counts,
              counted, mends.filterCount?_advanced sameCount]

/-- On any element, a mended chain makes at least the calls of the chain itself. -/
theorem calls_prefix_feedWith
    (mends : mended.Mends original)
    (same : mended.counts mendedCounters = original.counts counters) :
    (original.feedWith advance value raw environment counters).calls <+:
      (mended.feedWith advance value raw environment mendedCounters).calls := by
  induction mends with
  | source =>
      exact List.prefix_rfl
  | @link before after mendedEarlier originalEarlier mended original earlier
      mends inductionHypothesis =>
      obtain ⟨sameEarlier, _⟩ := List.append_inj' same rfl
      have extends_earlier :
          (mendedEarlier.feedWith advance value raw environment
              mendedCounters.1).calls <+:
            ((mendedEarlier.link mended).feedWith advance value raw environment
              mendedCounters).calls := by
        have linked :=
          feedWith_link advance mendedEarlier mended value raw environment
            mendedCounters
        generalize (mendedEarlier.link mended).feedWith advance value raw
          environment mendedCounters = result at linked ⊢
        cases linked with
        | earlierAborts | earlierDrops =>
            exact List.prefix_rfl
        | aborts | drops | handsOn =>
            exact List.prefix_append _ _
      have linked :=
        feedWith_link advance originalEarlier original value raw environment
          counters
      generalize (originalEarlier.link original).feedWith advance value raw
        environment counters = result at linked ⊢
      cases linked with
      | earlierAborts | earlierDrops =>
          exact (inductionHypothesis sameEarlier).trans extends_earlier
      | aborts reached applied | drops reached applied
      | handsOn reached applied =>
          obtain ⟨outcome, calls, _⟩ := earlier.feedWith_eq sameEarlier reached
          simp only [feedWith, outcome, calls, earlier.length_eq]
          exact List.prefix_rfl

end Chain.Mends

namespace Terminal.Mends

variable {mended original : Terminal Base ε context element output}
variable {mendedState : mended.State} {state : original.State}
variable {value : element.Value Base} {index : Nat}
variable {environment : context.Value Base}

/-- Mending keeps whether there is a callback, and so the calls. -/
theorem calls_eq
    (mends : mended.Mends original)
    (place : Nat) :
    mended.calls place value index = original.calls place value index := by
  cases mends <;> rfl

/-- Terminals that mend each other start alike. -/
theorem finish_start
    (mends : mended.Mends original)
    (capacity : Nat) :
    mended.finish (mended.start capacity) =
      original.finish (original.start capacity) := by
  cases mends <;> rfl

/-- A mended terminal never aborts. -/
theorem accept_ne_error
    (mends : mended.Mends original)
    (reason : ε) :
    mended.accept mendedState value index environment ≠ .error reason := by
  cases mends with
  | collect | join =>
      simp [accept]
  | @reduce accumulator mended original mends seed =>
      obtain ⟨folded, called⟩ := (mends (mendedState, value) index environment).1
      simp [accept, called]
  | @find mended original mends | @findIndex mended original mends
  | @some mended original mends | @every mended original mends =>
      obtain ⟨accepts, called⟩ := (mends value index environment).1
      cases accepts <;> simp [accept, called]

/-- A terminal that takes an element in without aborting does so when mended. -/
theorem accept_eq
    (mends : mended.Mends original)
    (same : mended.finish mendedState = original.finish state)
    {next : original.State}
    (accepted :
      original.accept state value index environment = .ok (.proceed next)) :
    ∃ mendedNext,
      mended.accept mendedState value index environment =
          .ok (.proceed mendedNext) ∧
        mended.finish mendedNext = original.finish next := by
  cases mends with
  | collect =>
      simp only [accept, Except.ok.injEq, Step.proceed.injEq] at accepted
      subst next
      refine ⟨_, rfl, ?_⟩
      simp only [finish] at same
      simp [finish, same]
  | @reduce accumulator mended original mends seed =>
      have sameState : mendedState = state := same
      subst sameState
      simp only [accept] at accepted ⊢
      cases called : original.call (mendedState, value) index environment with
      | error reason =>
          simp [called] at accepted
      | ok folded =>
          rw [(mends _ _ _).2 folded called]
          exact ⟨next, by simpa only [called] using accepted, rfl⟩
  | join separator display =>
      have sameState : mendedState = state := same
      subst sameState
      exact ⟨next, accepted, rfl⟩
  | @find mended original mends | @findIndex mended original mends
  | @some mended original mends | @every mended original mends =>
      simp only [accept] at accepted ⊢
      cases called : original.call value index environment with
      | error reason =>
          simp [called] at accepted
      | ok accepts =>
          rw [(mends _ _ _).2 accepts called]
          exact ⟨(), by simpa only [called] using accepted, rfl⟩

end Terminal.Mends

/-! ## Whole runs -/

variable {mended original : Chain Base ε context source element}
variable {mendedTerminal originalTerminal : Terminal Base ε context element output}
variable {environment : context.Value Base}

/-- A mended run never aborts. -/
theorem loopWith_ne_aborted
    (mends : mended.Mends original)
    (terminalMends : mendedTerminal.Mends originalTerminal)
    {advance : Nat → Nat}
    {elements : List (source.Value Base)}
    {raw : Nat}
    {mendedCounters : mended.Counters}
    {mendedState : mendedTerminal.State}
    (reason : ε) :
    (loopWith advance mended mendedTerminal environment
      elements raw mendedCounters mendedState).status ≠ .aborted reason := by
  induction elements generalizing raw mendedCounters mendedState with
  | nil =>
      simp [loopWith]
  | cons value rest inductionHypothesis =>
      have step :=
        loopWith_cons advance mended mendedTerminal environment value rest
          raw mendedCounters mendedState
      generalize loopWith advance mended mendedTerminal environment
        (value :: rest) raw mendedCounters mendedState = progress at step ⊢
      cases step with
      | chainAborts left =>
          exact absurd left (mends.feedWith_ne_error _)
      | terminalAborts left accepted =>
          exact absurd accepted (terminalMends.accept_ne_error _)
      | terminalStops =>
          simp
      | chainDrops | terminalProceeds =>
          exact inductionHypothesis

/-- A mended run makes at least the calls of the run itself. -/
theorem calls_prefix_loopWith
    (mends : mended.Mends original)
    (terminalMends : mendedTerminal.Mends originalTerminal)
    {mendedCounters : mended.Counters}
    {counters : original.Counters}
    (sameCounts : mended.counts mendedCounters = original.counts counters)
    {mendedState : mendedTerminal.State}
    {state : originalTerminal.State}
    (sameState :
      mendedTerminal.finish mendedState = originalTerminal.finish state)
    (advance : Nat → Nat)
    (elements : List (source.Value Base))
    (raw : Nat) :
    (loopWith advance original originalTerminal environment
        elements raw counters state).calls <+:
      (loopWith advance mended mendedTerminal environment
        elements raw mendedCounters mendedState).calls := by
  induction elements generalizing raw mendedCounters counters mendedState
      state with
  | nil =>
      exact List.prefix_rfl
  | cons value rest inductionHypothesis =>
      have step :=
        loopWith_cons advance original originalTerminal environment value rest
          raw counters state
      generalize loopWith advance original originalTerminal environment
        (value :: rest) raw counters state = progress at step ⊢
      cases step with
      | chainAborts left =>
          exact (mends.calls_prefix_feedWith sameCounts).trans calls_prefix_of_fed
      | chainDrops left =>
          obtain ⟨mendedLeft, sameCalls, counted⟩ :=
            mends.feedWith_eq sameCounts left
          simp only [loopWith, mendedLeft, Progress.after, sameCalls]
          exact (List.prefix_append_right_inj _).mpr
            (inductionHypothesis counted sameState _)
      | terminalAborts left accepted | terminalStops left accepted =>
          obtain ⟨mendedLeft, sameCalls, _⟩ := mends.feedWith_eq sameCounts left
          rw [← sameCalls, ← mends.length_eq, ← terminalMends.calls_eq]
          exact calls_prefix_of_handed mendedLeft
      | terminalProceeds left accepted =>
          obtain ⟨mendedLeft, sameCalls, counted⟩ :=
            mends.feedWith_eq sameCounts left
          obtain ⟨mendedNext, mendedAccepted, sameNext⟩ :=
            terminalMends.accept_eq sameState accepted
          simp only [loopWith, mendedLeft, mendedAccepted, Progress.after,
            sameCalls, mends.length_eq, terminalMends.calls_eq]
          exact (List.prefix_append_right_inj _).mpr
            (inductionHypothesis counted sameNext _)

end OnePass
