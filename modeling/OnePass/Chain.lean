import OnePass.Callback
import OnePass.Queue
import OnePass.ValueType

namespace OnePass

/-!
# Fused chains of stages

A chain is a source followed by stages, and one element runs through the whole
chain before the next one enters it.  Each stage receives an element with its
visible index: its position among the elements that the filters before the stage
let through.  A filter therefore keeps a counter of the elements it accepted and
hands that on as the index.

The counters of a chain advance by a given function, so that a chain that counts
in machine words and one that counts without bound are both instances of one
definition; `feed` counts without bound.
-/

variable {Name : Type} {Base : Name → Type} {ε : Type}
variable {context source before after : ValueType Name}

/-- A stage that takes elements of one type and hands on elements of another. -/
inductive Stage (Base : Name → Type) (ε : Type) (context : ValueType Name) :
    ValueType Name → ValueType Name → Type where
  /-- Hand on the elements that the predicate accepts. -/
  | filter {element : ValueType Name}
      (predicate :
        Callback ε (context.Value Base) (element.Value Base) Bool) :
      Stage Base ε context element element
  /-- Hand on what the mapper makes of each element. -/
  | map {before after : ValueType Name}
      (mapper :
        Callback ε (context.Value Base) (before.Value Base) (after.Value Base)) :
      Stage Base ε context before after
  /-- Call the effect on each element and hand the element on. -/
  | forEach {element : ValueType Name}
      (effect :
        Callback ε (context.Value Base) (element.Value Base) Unit) :
      Stage Base ε context element element

namespace Stage

/-- The kind of a stage. -/
def kind : Stage Base ε context before after → StageKind
  | .filter _ => .filter
  | .map _ => .map
  | .forEach _ => .forEach

/-- Whether the stage's callback receives the context. -/
def isContextual : Stage Base ε context before after → Bool
  | .filter predicate => predicate.isContextual
  | .map mapper => mapper.isContextual
  | .forEach effect => effect.isContextual

/--
What a stage makes of one element by itself: the element to hand on, or none if
a filter drops it.
-/
def apply :
    (stage : Stage Base ε context before after) →
      (value : before.Value Base) →
      (index : Nat) →
      (environment : context.Value Base) →
      Except ε (Option (after.Value Base))
  | .filter predicate, value, index, environment =>
      match predicate.call value index environment with
      | .ok true => .ok (some value)
      | .ok false => .ok none
      | .error reason => .error reason
  | .map mapper, value, index, environment =>
      match mapper.call value index environment with
      | .ok mapped => .ok (some mapped)
      | .error reason => .error reason
  | .forEach effect, value, index, environment =>
      match effect.call value index environment with
      | .ok _ => .ok (some value)
      | .error reason => .error reason

/-- What a stage keeps between elements: a filter counts those it accepted. -/
@[reducible] def Counter : Stage Base ε context before after → Type
  | .filter _ => Nat
  | .map _ => Unit
  | .forEach _ => Unit

/-- The counter of a stage that has seen no element. -/
def fresh : (stage : Stage Base ε context before after) → stage.Counter
  | .filter _ => (0 : Nat)
  | .map _ => ()
  | .forEach _ => ()

/-- The index handed on with an element: a filter hands on its own count. -/
def outgoing :
    (stage : Stage Base ε context before after) →
      (index : Nat) →
      (counter : stage.Counter) →
      Nat
  | .filter _, _, counter => counter
  | .map _, index, _ => index
  | .forEach _, index, _ => index

/-- The counter after an element was handed on. -/
def advanced
    (advance : Nat → Nat) :
    (stage : Stage Base ε context before after) →
      (counter : stage.Counter) →
      stage.Counter
  | .filter _, counter => advance counter
  | .map _, counter => counter
  | .forEach _, counter => counter

end Stage

/-- What a stage makes of an element that reached it, and its counter afterwards. -/
structure Processed
    (Base : Name → Type)
    (ε : Type)
    (element : ValueType Name)
    (σ : Type) where
  /-- The element handed on with its index; none if it was dropped. -/
  outcome : Except ε (Option (element.Value Base × Nat))
  counter : σ

/--
Run one element through one stage.  The counter advances only if the element is
handed on.
-/
def Stage.process
    (advance : Nat → Nat)
    (stage : Stage Base ε context before after)
    (value : before.Value Base)
    (index : Nat)
    (environment : context.Value Base)
    (counter : stage.Counter) :
    Processed Base ε after stage.Counter :=
  match stage.apply value index environment with
  | .error reason => ⟨.error reason, counter⟩
  | .ok none => ⟨.ok none, counter⟩
  | .ok (some handed) =>
      ⟨.ok (some (handed, stage.outgoing index counter)),
        stage.advanced advance counter⟩

/-- A chain of stages, the last one outermost. -/
inductive Chain
    (Base : Name → Type)
    (ε : Type)
    (context source : ValueType Name) :
    ValueType Name → Type where
  /-- The start of every chain hands elements on with their raw position. -/
  | source : Chain Base ε context source source
  /-- A stage after those of an earlier chain. -/
  | link {before after : ValueType Name}
      (earlier : Chain Base ε context source before)
      (stage : Stage Base ε context before after) :
      Chain Base ε context source after

/-- What a chain makes of one element, its counters afterwards, and the calls made. -/
structure Fed
    (Base : Name → Type)
    (ε : Type)
    (element : ValueType Name)
    (σ : Type) where
  /-- The element with its visible index; none if a filter dropped it. -/
  outcome : Except ε (Option (element.Value Base × Nat))
  counters : σ
  calls : List (Call Base)

namespace Chain

/-- The number of stages. -/
def length {element : ValueType Name} :
    Chain Base ε context source element → Nat
  | .source => 0
  | .link earlier _ => earlier.length + 1

/-- The kinds of the stages, in the order in which elements pass them. -/
def kinds {element : ValueType Name} :
    Chain Base ε context source element → List StageKind
  | .source => []
  | .link earlier stage => earlier.kinds ++ [stage.kind]

/-- The state of a chain during a run: one counter for each stage. -/
@[reducible] def Counters {element : ValueType Name} :
    Chain Base ε context source element → Type
  | .source => Unit
  | .link earlier stage => earlier.Counters × stage.Counter

/-- The counters at the start of a run. -/
def fresh {element : ValueType Name} :
    (chain : Chain Base ε context source element) → chain.Counters
  | .source => ()
  | .link earlier stage => (earlier.fresh, stage.fresh)

/--
Run one element through the chain.  A stage is called exactly if every stage
before it handed the element on, and what the stages before an aborting one did
to their counters stays done.
-/
def feedWith
    (advance : Nat → Nat)
    {element : ValueType Name} :
    (chain : Chain Base ε context source element) →
      (value : source.Value Base) →
      (raw : Nat) →
      (environment : context.Value Base) →
      (counters : chain.Counters) →
      Fed Base ε element chain.Counters
  | .source, value, raw, _, _ => ⟨.ok (some (value, raw)), (), []⟩
  | .link earlier stage, value, raw, environment, counters =>
      let fed := earlier.feedWith advance value raw environment counters.1
      match fed.outcome with
      | .ok (some (value, index)) =>
          let processed := stage.process advance value index environment counters.2
          { outcome := processed.outcome
            counters := (fed.counters, processed.counter)
            calls := fed.calls ++ [⟨earlier.length, index, _, value⟩] }
      | .ok none => ⟨.ok none, (fed.counters, counters.2), fed.calls⟩
      | .error reason => ⟨.error reason, (fed.counters, counters.2), fed.calls⟩

/-- Run one element through the chain, counting without bound. -/
def feed
    {element : ValueType Name}
    (chain : Chain Base ε context source element)
    (value : source.Value Base)
    (raw : Nat)
    (environment : context.Value Base)
    (counters : chain.Counters) :
    Fed Base ε element chain.Counters :=
  chain.feedWith Nat.succ value raw environment counters

end Chain

end OnePass
