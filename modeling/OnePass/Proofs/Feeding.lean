import OnePass.Chain

namespace OnePass

/-!
# Feeding one element

What a chain can do with one element, said once: the stages before the last one
abort, or drop the element, or hand it to the last stage, which in turn aborts,
drops it or hands it on.  Only the stages that hand the element on advance their
counters, and the record gains one call for each stage that the element reaches.
-/

variable {Name : Type} {Base : Name → Type} {ε : Type}
variable {context source before after element : ValueType Name}

/-- The counter of a filter; other stages have none. -/
def Stage.filterCount? :
    (stage : Stage Base ε context before after) →
      (counter : stage.Counter) →
      Option Nat
  | .filter _, counter => some counter
  | .map _, _ => none
  | .forEach _, _ => none

namespace Chain

/-- What the stages of a chain have counted, in the order in which elements pass them. -/
def counts {element : ValueType Name} :
    (chain : Chain Base ε context source element) →
      (counters : chain.Counters) →
      List (Option Nat)
  | .source, _ => []
  | .link earlier stage, counters =>
      earlier.counts counters.1 ++ [stage.filterCount? counters.2]

/--
What can become of an element in a chain with a last stage, given what the earlier
stages made of it and the counter of the last one.
-/
inductive LinkFed
    (advance : Nat → Nat)
    (earlier : Chain Base ε context source before)
    (stage : Stage Base ε context before after)
    (environment : context.Value Base)
    (fed : Fed Base ε before earlier.Counters)
    (counter : stage.Counter) :
    Fed Base ε after (earlier.link stage).Counters → Prop where
  | earlierAborts
      {reason : ε}
      (reached : fed.outcome = .error reason) :
      LinkFed advance earlier stage environment fed counter
        ⟨.error reason, (fed.counters, counter), fed.calls⟩
  | earlierDrops
      (reached : fed.outcome = .ok none) :
      LinkFed advance earlier stage environment fed counter
        ⟨.ok none, (fed.counters, counter), fed.calls⟩
  | aborts
      {value : before.Value Base}
      {index : Nat}
      {reason : ε}
      (reached : fed.outcome = .ok (some (value, index)))
      (applied : stage.apply value index environment = .error reason) :
      LinkFed advance earlier stage environment fed counter
        ⟨.error reason, (fed.counters, counter),
          fed.calls ++ [⟨earlier.length, index, before, value⟩]⟩
  | drops
      {value : before.Value Base}
      {index : Nat}
      (reached : fed.outcome = .ok (some (value, index)))
      (applied : stage.apply value index environment = .ok none) :
      LinkFed advance earlier stage environment fed counter
        ⟨.ok none, (fed.counters, counter),
          fed.calls ++ [⟨earlier.length, index, before, value⟩]⟩
  | handsOn
      {value : before.Value Base}
      {index : Nat}
      {handed : after.Value Base}
      (reached : fed.outcome = .ok (some (value, index)))
      (applied : stage.apply value index environment = .ok (some handed)) :
      LinkFed advance earlier stage environment fed counter
        ⟨.ok (some (handed, stage.outgoing index counter)),
          (fed.counters, stage.advanced advance counter),
          fed.calls ++ [⟨earlier.length, index, before, value⟩]⟩

/-- Feeding an element to a chain with a last stage comes to one of these cases. -/
theorem feedWith_link
    (advance : Nat → Nat)
    (earlier : Chain Base ε context source before)
    (stage : Stage Base ε context before after)
    (value : source.Value Base)
    (raw : Nat)
    (environment : context.Value Base)
    (counters : (earlier.link stage).Counters) :
    LinkFed advance earlier stage environment
      (earlier.feedWith advance value raw environment counters.1) counters.2
      ((earlier.link stage).feedWith advance value raw environment counters) := by
  simp only [feedWith]
  generalize earlier.feedWith advance value raw environment counters.1 = fed
  rcases reached : fed.outcome with reason | (_ | ⟨reaching, index⟩)
  · exact .earlierAborts reached
  · exact .earlierDrops reached
  · simp only [Stage.process]
    rcases applied : stage.apply reaching index environment with
      reason | (_ | handed)
    · exact .aborts reached applied
    · exact .drops reached applied
    · exact .handsOn reached applied

end Chain

end OnePass
