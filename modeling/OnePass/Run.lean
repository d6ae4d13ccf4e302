import OnePass.Chain
import OnePass.Terminal

namespace OnePass

/-!
# Single-pass runs

A run feeds the elements of its input through a chain one by one and hands what
comes out to a terminal.  It ends at the end of the input, at the element on which
the terminal stops it, or at the first callback that aborts.  Its record lists
every call made and counts the elements taken from the input.
-/

variable {Name : Type} {Base : Name → Type} {ε : Type}
variable {context source element output : ValueType Name}

/-- Where a run stands after some elements. -/
inductive Status (κ σ β ε : Type) where
  /-- More elements can be taken, from these counters and this state on. -/
  | running (counters : κ) (state : σ)
  | stopped (result : β)
  | aborted (reason : ε)

/-- The status after some elements, the calls made, and the elements taken. -/
structure Progress (Base : Name → Type) (κ σ β ε : Type) where
  status : Status κ σ β ε
  calls : List (Call Base)
  consumed : Nat

/-- Account for one element and its calls in front of what followed it. -/
def Progress.after
    {κ σ β : Type}
    (progress : Progress Base κ σ β ε)
    (calls : List (Call Base)) :
    Progress Base κ σ β ε where
  status := progress.status
  calls := calls ++ progress.calls
  consumed := progress.consumed + 1

/-- Take elements until the input ends or the run does. -/
def loopWith
    (advance : Nat → Nat)
    (chain : Chain Base ε context source element)
    (terminal : Terminal Base ε context element output)
    (environment : context.Value Base) :
    (elements : List (source.Value Base)) →
      (raw : Nat) →
      (counters : chain.Counters) →
      (state : terminal.State) →
      Progress Base chain.Counters terminal.State (output.Value Base) ε
  | [], _, counters, state => ⟨.running counters state, [], 0⟩
  | value :: rest, raw, counters, state =>
      let fed := chain.feedWith advance value raw environment counters
      match fed.outcome with
      | .error reason => ⟨.aborted reason, fed.calls, 1⟩
      | .ok none =>
          (loopWith advance chain terminal environment
            rest (advance raw) fed.counters state).after fed.calls
      | .ok (some (survivor, index)) =>
          let calls := fed.calls ++ terminal.calls chain.length survivor index
          match terminal.accept state survivor index environment with
          | .error reason => ⟨.aborted reason, calls, 1⟩
          | .ok (.stop result) => ⟨.stopped result, calls, 1⟩
          | .ok (.proceed next) =>
              (loopWith advance chain terminal environment
                rest (advance raw) fed.counters next).after calls

/-- A finished run: its result or abort, the calls made, and the elements taken. -/
structure Run (Base : Name → Type) (ε β : Type) where
  outcome : Except ε β
  calls : List (Call Base)
  consumed : Nat

/-- The outcome of a run that stands where the status says when its input ends. -/
def Terminal.conclude
    {κ : Type}
    (terminal : Terminal Base ε context element output) :
    Status κ terminal.State (output.Value Base) ε →
      Except ε (output.Value Base)
  | .running _ state => .ok (terminal.finish state)
  | .stopped result => .ok result
  | .aborted reason => .error reason

/-- Run a chain and a terminal over the elements of an input. -/
def runWith
    (advance : Nat → Nat)
    (chain : Chain Base ε context source element)
    (terminal : Terminal Base ε context element output)
    (capacity : Nat)
    (elements : List (source.Value Base))
    (environment : context.Value Base) :
    Run Base ε (output.Value Base) :=
  let progress :=
    loopWith advance chain terminal environment
      elements 0 chain.fresh (terminal.start capacity)
  { outcome := terminal.conclude progress.status
    calls := progress.calls
    consumed := progress.consumed }

end OnePass
