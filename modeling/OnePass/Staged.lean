import OnePass.Run

namespace OnePass

/-!
# Evaluation stage by stage

The plain meaning of a pipeline, without fusion: the first stage is applied to
the whole input, its output is written down, the next stage is applied to that
with positions of its own, and so on; the terminal is applied to the last list.
The first call that aborts ends the evaluation.  What stages and terminals do to
a list is said of the list as a whole, without what they do to one element.
-/

variable {Name : Type} {Base : Name → Type} {ε : Type}
variable {context source element before after output : ValueType Name}

/-- What a pass over a list yields, and the calls it makes. -/
structure Pass (Base : Name → Type) (ε β : Type) where
  outcome : Except ε β
  calls : List (Call Base)

/-- The elements of a list with positions that pass a test. -/
def filterIndexed
    {α : Type}
    (test : α → Nat → Except ε Bool) :
    List (α × Nat) → Except ε (List α)
  | [] => .ok []
  | (value, position) :: rest =>
      match test value position with
      | .ok true => (filterIndexed test rest).map (List.cons value)
      | .ok false => filterIndexed test rest
      | .error reason => .error reason

/-- The results of a function on the elements of a list with positions. -/
def mapIndexed
    {α β : Type}
    (function : α → Nat → Except ε β) :
    List (α × Nat) → Except ε (List β)
  | [] => .ok []
  | (value, position) :: rest =>
      match function value position with
      | .ok result => (mapIndexed function rest).map (List.cons result)
      | .error reason => .error reason

/-- The elements with positions that a function is called on, up to an abort. -/
def calledOn
    {α β : Type}
    (function : α → Nat → Except ε β) :
    List (α × Nat) → List (α × Nat)
  | [] => []
  | (value, position) :: rest =>
      match function value position with
      | .ok _ => (value, position) :: calledOn function rest
      | .error _ => [(value, position)]

/-- The calls of the stage at a place on elements with their positions. -/
def callsOn
    (place : Nat)
    (values : List (element.Value Base × Nat)) :
    List (Call Base) :=
  values.map fun (value, position) => ⟨place, position, element, value⟩

/-- The test that a predicate makes in a context. -/
def Callback.test
    {γ α : Type}
    (predicate : Callback ε γ α Bool)
    (environment : γ) :
    α → Nat → Except ε Bool :=
  fun value position => predicate.call value position environment

/-- Apply a stage to a list as a whole, with positions from the given one on. -/
def Stage.pass :
    (stage : Stage Base ε context before after) →
      (place : Nat) →
      (environment : context.Value Base) →
      (values : List (before.Value Base)) →
      (position : Nat) →
      Pass Base ε (List (after.Value Base))
  | .filter predicate, place, environment, values, position =>
      let test := predicate.test environment
      let numbered := values.zipIdx position
      ⟨filterIndexed test numbered, callsOn place (calledOn test numbered)⟩
  | .map mapper, place, environment, values, position =>
      let function := fun value position =>
        mapper.call value position environment
      let numbered := values.zipIdx position
      ⟨mapIndexed function numbered,
        callsOn place (calledOn function numbered)⟩
  | .forEach effect, place, environment, values, position =>
      let function := fun value position =>
        effect.call value position environment
      let numbered := values.zipIdx position
      ⟨(mapIndexed function numbered).map fun _ => values,
        callsOn place (calledOn function numbered)⟩

/-- Apply the stages of a chain to a list, one stage after another. -/
def Chain.staged
    {element : ValueType Name}
    (environment : context.Value Base)
    (values : List (source.Value Base)) :
    Chain Base ε context source element →
      Pass Base ε (List (element.Value Base))
  | .source => ⟨.ok values, []⟩
  | .link earlier stage =>
      let passed := earlier.staged environment values
      match passed.outcome with
      | .error reason => ⟨.error reason, passed.calls⟩
      | .ok between =>
          let pass := stage.pass earlier.length environment between 0
          ⟨pass.outcome, passed.calls ++ pass.calls⟩

/-- Fold a list with positions from the left. -/
def foldIndexed
    {α β : Type}
    (combine : β → α → Nat → Except ε β) :
    β → List (α × Nat) → Except ε β
  | state, [] => .ok state
  | state, (value, position) :: rest =>
      match combine state value position with
      | .ok next => foldIndexed combine next rest
      | .error reason => .error reason

/-- The elements with positions that a search looks at, up to the first match. -/
def lookedAt
    {α : Type}
    (test : α → Nat → Except ε Bool) :
    List (α × Nat) → List (α × Nat)
  | [] => []
  | (value, position) :: rest =>
      match test value position with
      | .ok false => (value, position) :: lookedAt test rest
      | _ => [(value, position)]

/-- The first element with its position that passes the test. -/
def firstMatch
    {α : Type}
    (test : α → Nat → Except ε Bool) :
    List (α × Nat) → Except ε (Option (α × Nat))
  | [] => .ok none
  | (value, position) :: rest =>
      match test value position with
      | .ok true => .ok (some (value, position))
      | .ok false => firstMatch test rest
      | .error reason => .error reason

/-- The elements with positions that a fold takes in, up to an abort. -/
def foldedOver
    {α β : Type}
    (combine : β → α → Nat → Except ε β) :
    β → List (α × Nat) → List (α × Nat)
  | _, [] => []
  | state, (value, position) :: rest =>
      match combine state value position with
      | .ok next => (value, position) :: foldedOver combine next rest
      | .error _ => [(value, position)]

/-- The test that fails where a predicate accepts. -/
def Callback.counterTest
    {γ α : Type}
    (predicate : Callback ε γ α Bool)
    (environment : γ) :
    α → Nat → Except ε Bool :=
  fun value position => (predicate.call value position environment).map not

/-- Apply a terminal to the list of all elements that reach it. -/
def Terminal.staged
    (place : Nat)
    (environment : context.Value Base)
    (values : List (element.Value Base)) :
    Terminal Base ε context element output →
      Pass Base ε (output.Value Base)
  | .collect => ⟨.ok values, []⟩
  | .reduce reducer seed =>
      let combine := fun state value position =>
        reducer.call (state, value) position environment
      ⟨foldIndexed combine seed.initial values.zipIdx,
        callsOn place (foldedOver combine seed.initial values.zipIdx)⟩
  | .join separator display =>
      ⟨.ok (separator.intercalate (values.map display)), []⟩
  | .find predicate =>
      let test := predicate.test environment
      ⟨(firstMatch test values.zipIdx).map fun found => found.map Prod.fst,
        callsOn place (lookedAt test values.zipIdx)⟩
  | .findIndex predicate =>
      let test := predicate.test environment
      ⟨(firstMatch test values.zipIdx).map fun found => found.map Prod.snd,
        callsOn place (lookedAt test values.zipIdx)⟩
  | .some predicate =>
      let test := predicate.test environment
      ⟨(firstMatch test values.zipIdx).map Option.isSome,
        callsOn place (lookedAt test values.zipIdx)⟩
  | .every predicate =>
      let test := predicate.counterTest environment
      ⟨(firstMatch test values.zipIdx).map Option.isNone,
        callsOn place (lookedAt test values.zipIdx)⟩

/-- Evaluate a chain and a terminal stage by stage. -/
def staged
    (chain : Chain Base ε context source element)
    (terminal : Terminal Base ε context element output)
    (values : List (source.Value Base))
    (environment : context.Value Base) :
    Pass Base ε (output.Value Base) :=
  let passed := chain.staged environment values
  match passed.outcome with
  | .error reason => ⟨.error reason, passed.calls⟩
  | .ok survivors =>
      let last := terminal.staged chain.length environment survivors
      ⟨last.outcome, passed.calls ++ last.calls⟩

end OnePass
