import OnePass.Callback
import OnePass.Queue
import OnePass.Seed
import OnePass.ValueType

namespace OnePass

/-!
# Terminals

A terminal consumes the elements that leave a chain and produces the result of a
run.  It starts from a state, accepts elements one by one, and may stop the run
with a result; if it never does, the result is read off the last state.
-/

variable {Name : Type} {Base : Name → Type} {ε : Type}
variable {context element output : ValueType Name}

/-- The end of a pipeline, by the type of the elements and the type of the result. -/
inductive Terminal
    (Base : Name → Type)
    (ε : Type)
    (context element : ValueType Name) :
    ValueType Name → Type where
  /-- All elements in order. -/
  | collect : Terminal Base ε context element (.list element)
  /-- The elements folded into an accumulator. -/
  | reduce {accumulator : ValueType Name}
      (reducer :
        Callback ε (context.Value Base)
          (accumulator.Value Base × element.Value Base)
          (accumulator.Value Base))
      (seed : Seed ε (accumulator.Value Base)) :
      Terminal Base ε context element accumulator
  /-- The display forms of the elements with separators between them. -/
  | join
      (separator : String)
      (display : element.Value Base → String) :
      Terminal Base ε context element .text
  /-- The first element that the predicate accepts. -/
  | find
      (predicate :
        Callback ε (context.Value Base) (element.Value Base) Bool) :
      Terminal Base ε context element (.optional element)
  /-- The visible index of the first element that the predicate accepts. -/
  | findIndex
      (predicate :
        Callback ε (context.Value Base) (element.Value Base) Bool) :
      Terminal Base ε context element (.optional .position)
  /-- Whether the predicate accepts any element. -/
  | some
      (predicate :
        Callback ε (context.Value Base) (element.Value Base) Bool) :
      Terminal Base ε context element .truth
  /-- Whether the predicate accepts every element. -/
  | every
      (predicate :
        Callback ε (context.Value Base) (element.Value Base) Bool) :
      Terminal Base ε context element .truth

/-- Elements gathered in order, with the room that was reserved for them. -/
structure Buffer (α : Type) where
  reserved : Nat
  items : Array α

/-- What follows an accepted element: the next state, or the result of the run. -/
inductive Step (σ β : Type) where
  | proceed (state : σ)
  | stop (result : β)

/-- The outcome of preparing a terminal, and the encoding attempts made so far. -/
structure Prepared (ε : Type) where
  outcome : Except (Failure ε) Unit
  attempts : Nat

namespace Terminal

/-- The separator of a join that is declared without one. -/
def defaultSeparator : String :=
  ","

/-- The kind of the stage that a terminal is declared by; collecting declares none. -/
def kind? : Terminal Base ε context element output → Option StageKind
  | .collect => none
  | .reduce _ _ => Option.some .reduce
  | .join _ _ => Option.some .join
  | .find _ => Option.some .find
  | .findIndex _ => Option.some .findIndex
  | .some _ => Option.some .some
  | .every _ => Option.some .every

/-- Whether the terminal's callback receives the context. -/
def isContextual : Terminal Base ε context element output → Bool
  | .collect => false
  | .reduce reducer _ => reducer.isContextual
  | .join _ _ => false
  | .find predicate => predicate.isContextual
  | .findIndex predicate => predicate.isContextual
  | .some predicate => predicate.isContextual
  | .every predicate => predicate.isContextual

/-- Whether the terminal has a callback; collecting and joining have none. -/
def hasCallback : Terminal Base ε context element output → Bool
  | .collect => false
  | .join _ _ => false
  | _ => true

/-- What a terminal keeps between elements. -/
@[reducible] def State :
    Terminal Base ε context element output → Type
  | .collect => Buffer (element.Value Base)
  | .reduce _ _ => output.Value Base
  | .join _ _ => String
  | .find _ => Unit
  | .findIndex _ => Unit
  | .some _ => Unit
  | .every _ => Unit

/--
What is done once, before the first run: a reduce makes one attempt at embedding
its seed, given the number of attempts made before.
-/
def prepare
    (attempts : Nat) :
    Terminal Base ε context element output → Prepared ε
  | .reduce _ seed => ⟨seed.check attempts, attempts + 1⟩
  | _ => ⟨.ok (), attempts⟩

/-- The state at the start of a run; a collection reserves the planned room. -/
def start
    (capacity : Nat) :
    (terminal : Terminal Base ε context element output) → terminal.State
  | .collect => ⟨capacity, #[]⟩
  | .reduce _ seed => seed.initial
  | .join _ _ => ""
  | .find _ => ()
  | .findIndex _ => ()
  | .some _ => ()
  | .every _ => ()

/--
Take in one element with its visible index.  A join puts its separator before
every element but the one with index zero.
-/
def accept :
    (terminal : Terminal Base ε context element output) →
      (state : terminal.State) →
      (value : element.Value Base) →
      (index : Nat) →
      (environment : context.Value Base) →
      Except ε (Step terminal.State (output.Value Base))
  | .collect, state, value, _, _ =>
      .ok (.proceed { state with items := state.items.push value })
  | .reduce reducer _, state, value, index, environment =>
      match reducer.call (state, value) index environment with
      | .ok next => .ok (.proceed next)
      | .error reason => .error reason
  | .join separator display, state, value, index, _ =>
      let separated := if 0 < index then state ++ separator else state
      .ok (.proceed (separated ++ display value))
  | .find predicate, _, value, index, environment =>
      match predicate.call value index environment with
      | .ok true => .ok (.stop (Option.some value))
      | .ok false => .ok (.proceed ())
      | .error reason => .error reason
  | .findIndex predicate, _, value, index, environment =>
      match predicate.call value index environment with
      | .ok true => .ok (.stop (Option.some index))
      | .ok false => .ok (.proceed ())
      | .error reason => .error reason
  | .some predicate, _, value, index, environment =>
      match predicate.call value index environment with
      | .ok true => .ok (.stop true)
      | .ok false => .ok (.proceed ())
      | .error reason => .error reason
  | .every predicate, _, value, index, environment =>
      match predicate.call value index environment with
      | .ok true => .ok (.proceed ())
      | .ok false => .ok (.stop false)
      | .error reason => .error reason

/-- The result once the input is exhausted. -/
def finish :
    (terminal : Terminal Base ε context element output) →
      (state : terminal.State) →
      output.Value Base
  | .collect, state => state.items.toList
  | .reduce _ _, state => state
  | .join _ _, state => state
  | .find _, _ => none
  | .findIndex _, _ => none
  | .some _, _ => false
  | .every _, _ => true

/-- The calls that accepting an element makes, as the stage at the given position. -/
def calls
    (terminal : Terminal Base ε context element output)
    (stage : Nat)
    (value : element.Value Base)
    (index : Nat) :
    List (Call Base) :=
  if terminal.hasCallback then [⟨stage, index, element, value⟩] else []

end Terminal

end OnePass
