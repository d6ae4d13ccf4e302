import OnePass.Pipeline

namespace OnePass

/-!
# Inputs behind references and options

An input is a base inside any number of references and present options.  Whether it
is a sequence and what it is called are both read off the base, so that an input is
rejected under the name of its base exactly if that base is no sequence.  Any other
input is run like the plain list of the elements that its base holds.
-/

variable {Name : Type} {Base : Name → Type} {ε : Type}
variable {context source element output : ValueType Name}

namespace Input

/-- The base that is left without the references and options around it. -/
def innermost {element : ValueType Name} :
    Input Base element → Input Base element
  | .vector items => .vector items
  | .array items => .array items
  | .slice items first past => .slice items first past
  | .json value => .json value
  | .missing => .missing
  | .reference inner => inner.innermost
  | .present inner => inner.innermost

/-- The base is a sequence of these elements. -/
inductive Holds :
    {element : ValueType Name} →
      Input Base element → List (element.Value Base) → Prop where
  | vector {element : ValueType Name}
      (items : List (element.Value Base)) :
      Holds (.vector items) items
  | array {element : ValueType Name}
      (items : List (element.Value Base)) :
      Holds (.array items) items
  | slice {element : ValueType Name}
      (items : List (element.Value Base))
      (first past : Nat) :
      Holds (.slice items first past) (items.extract first past)
  | json (items : List Json) :
      Holds (.json (.array items)) items

/-- The base is no sequence: nothing, or a JSON value other than an array. -/
inductive Unlisted :
    {element : ValueType Name} → Input Base element → Prop where
  | missing {element : ValueType Name} :
      Unlisted (.missing : Input Base element)
  | json {value : Json}
      (other : ∀ items, value ≠ .array items) :
      Unlisted (.json value)

/-- The base is no sequence, and this is the name of what it is instead. -/
inductive UnlistedAs :
    {element : ValueType Name} → Input Base element → String → Prop where
  | missing {element : ValueType Name} :
      UnlistedAs (.missing : Input Base element) "none"
  | null : UnlistedAs (.json .null) "null"
  | bool (value : Bool) : UnlistedAs (.json (.bool value)) "boolean"
  | int (value : Int) : UnlistedAs (.json (.int value)) "number"
  | float (value : Binary64) : UnlistedAs (.json (.float value)) "number"
  | string (value : String) : UnlistedAs (.json (.string value)) "string"
  | object (members : List (String × Json)) :
      UnlistedAs (.json (.object members)) "object"

/-! ## The base decides -/

/-- An input has the elements of its base. -/
theorem elements?_innermost (input : Input Base element) :
    input.innermost.elements? = input.elements? := by
  induction input with
  | vector | array | slice | json | missing =>
      rfl
  | reference inner inductionHypothesis | present inner inductionHypothesis =>
      exact inductionHypothesis

/-- An input is called what its base is called. -/
theorem kind_innermost (input : Input Base element) :
    input.innermost.kind = input.kind := by
  induction input with
  | vector | array | slice | json | missing =>
      rfl
  | reference inner inductionHypothesis | present inner inductionHypothesis =>
      exact inductionHypothesis

/-- A base is a sequence or it is none. -/
theorem innermost_listed_or_unlisted (input : Input Base element) :
    (∃ elements, input.innermost.Holds elements) ∨ input.innermost.Unlisted := by
  induction input with
  | vector items =>
      exact .inl ⟨_, .vector items⟩
  | array items =>
      exact .inl ⟨_, .array items⟩
  | slice items first past =>
      exact .inl ⟨_, .slice items first past⟩
  | missing =>
      exact .inr .missing
  | json value =>
      cases value with
      | array items =>
          exact .inl ⟨_, .json items⟩
      | null | bool | int | float | string | object =>
          exact .inr (.json (by simp))
  | reference inner inductionHypothesis | present inner inductionHypothesis =>
      exact inductionHypothesis

/-- A sequence hands out the elements it holds. -/
theorem Holds.elements?_eq
    {base : Input Base element}
    {elements : List (element.Value Base)}
    (holds : base.Holds elements) :
    base.elements? = some elements := by
  cases holds with
  | vector | array | json =>
      rfl
  | slice items first past =>
      rw [elements?, List.drop_take]

/-- What is no sequence hands out nothing. -/
theorem Unlisted.elements?_eq
    {base : Input Base element}
    (unlisted : base.Unlisted) :
    base.elements? = none := by
  cases unlisted with
  | missing =>
      rfl
  | @json value other =>
      cases value with
      | array items =>
          exact absurd rfl (other items)
      | null | bool | int | float | string | object =>
          rfl

/-- What is no sequence is called by the name of what it is. -/
theorem Unlisted.unlistedAs_kind
    {base : Input Base element}
    (unlisted : base.Unlisted) :
    base.UnlistedAs base.kind := by
  cases unlisted with
  | missing =>
      exact .missing
  | @json value other =>
      cases value with
      | null =>
          exact .null
      | bool value =>
          exact .bool value
      | int value =>
          exact .int value
      | float value =>
          exact .float value
      | string value =>
          exact .string value
      | array items =>
          exact absurd rfl (other items)
      | object members =>
          exact .object members

/-- What is no sequence is not called one. -/
theorem UnlistedAs.not_mem
    {base : Input Base element}
    {name : String}
    (unlisted : base.UnlistedAs name) :
    name ∉ ["sequence", "array"] := by
  cases unlisted <;> simp

/-! ## Calling a procedure -/

/-- An input whose base is no sequence is rejected under the name of the base. -/
theorem execute_of_unlisted
    {β : Type}
    {input : Input Base element}
    (unlisted : input.innermost.Unlisted)
    (run : List (element.Value Base) → Run Base ε β) :
    input.execute run =
      { outcome := .error (.refused (.invalidInput input.innermost.kind))
        calls := []
        events := [.rejected input.innermost.kind] } := by
  have none := unlisted.elements?_eq
  rw [elements?_innermost] at none
  rw [execute, none, kind_innermost]

/-- An input whose base is a sequence is run like the list of its elements. -/
theorem execute_of_holds
    {β : Type}
    {input : Input Base element}
    {elements : List (element.Value Base)}
    (holds : input.innermost.Holds elements)
    (run : List (element.Value Base) → Run Base ε β) :
    input.execute run =
      { outcome := (run elements).outcome.mapError .aborted
        calls := (run elements).calls
        events := [] } := by
  have some := holds.elements?_eq
  rw [elements?_innermost] at some
  rw [execute, some]

/-- A run over elements that were handed out ends in no refusal. -/
theorem execute_ne_refused
    {β : Type}
    {input : Input Base element}
    {elements : List (element.Value Base)}
    (holds : input.innermost.Holds elements)
    (run : List (element.Value Base) → Run Base ε β)
    (error : Error) :
    (input.execute run).outcome ≠ .error (.refused error) := by
  rw [execute_of_holds holds]
  intro refused
  cases ran : (run elements).outcome with
  | error reason =>
      rw [ran] at refused
      cases Except.error.inj refused
  | ok result =>
      rw [ran] at refused
      contradiction

end Input

namespace Fused

/-- What calling a procedure on an input under a rejected name comes to. -/
structure Rejected
    (base : Input Base source)
    (name : String)
    (execution : Execution Base ε (output.Value Base)) :
    Prop where
  named : base.UnlistedAs name
  kind : base.kind = name
  notSequence : name ∉ ["sequence", "array"]
  outcome : execution.outcome = .error (.refused (.invalidInput name))
  calls : execution.calls = []
  /-- The one event is the warning. -/
  events : execution.events = [.rejected name]

/-- How a procedure treats an input with this base, in this execution. -/
structure Validated
    (procedure : Fused Base ε context source element output)
    (input base : Input Base source)
    (environment : context.Value Base)
    (execution : Execution Base ε (output.Value Base)) :
    Prop where
  /-- The shared view of the procedure does the same. -/
  shared : procedure.share.executeWith input environment = execution
  invalid :
    (∃ found, execution.outcome = .error (.refused (.invalidInput found))) ↔
      base.Unlisted
  rejected : base.Unlisted → ∃ name, Rejected base name execution
  listed : ¬base.Unlisted → ∃ elements, base.Holds elements
  outcome :
    ∀ elements,
      base.Holds elements →
      execution.outcome =
        (procedure.run elements environment).outcome.mapError .aborted
  calls :
    ∀ elements,
      base.Holds elements →
      execution.calls = (procedure.run elements environment).calls
  events : ∀ elements, base.Holds elements → execution.events = []
  /-- Any form of the base is treated like a vector of its elements. -/
  asVector :
    ∀ elements,
      base.Holds elements →
      execution = procedure.executeWith (.vector elements) environment

/--
Inputs are validated through any wrapping.  Called directly or through its shared
view, a procedure refuses an input as invalid exactly if the base inside all
references and options is missing or a JSON value other than an array.  It then calls
nothing, leaves one warning, and names the base in both, never as a sequence or an
array.  Any other base holds a list of elements, and what is answered and called is
that of the run over this list, as for a plain vector of it.
-/
theorem executeWith_validates
    (procedure : Fused Base ε context source element output)
    (input : Input Base source)
    (environment : context.Value Base) :
    Validated procedure input input.innermost environment
      (procedure.executeWith input environment) := by
  have rejected (unlisted : input.innermost.Unlisted) :
      procedure.executeWith input environment =
        { outcome := .error (.refused (.invalidInput input.innermost.kind))
          calls := []
          events := [.rejected input.innermost.kind] } :=
    Input.execute_of_unlisted unlisted _
  have ran
      {elements : List (source.Value Base)}
      (holds : input.innermost.Holds elements) :
      procedure.executeWith input environment =
        { outcome :=
            (procedure.run elements environment).outcome.mapError .aborted
          calls := (procedure.run elements environment).calls
          events := [] } :=
    Input.execute_of_holds holds _
  refine
    { shared := rfl
      invalid := ⟨?_, ?_⟩
      rejected := ?_
      listed := input.innermost_listed_or_unlisted.resolve_right
      outcome := fun elements holds => by rw [ran holds]
      calls := fun elements holds => by rw [ran holds]
      events := fun elements holds => by rw [ran holds]
      asVector := fun elements holds => ran holds }
  · rintro ⟨found, refused⟩
    rcases input.innermost_listed_or_unlisted with ⟨elements, holds⟩ | unlisted
    · exact absurd refused (Input.execute_ne_refused holds _ _)
    · exact unlisted
  · intro unlisted
    exact ⟨_, by rw [rejected unlisted]⟩
  · intro unlisted
    have named := unlisted.unlistedAs_kind
    rw [rejected unlisted]
    exact ⟨_, named, rfl, named.not_mem, rfl, rfl, rfl⟩

/-- Aborts on the first element. -/
def unwilling :
    Fused (fun _ : Empty => Unit) String .unit .json .json (.list .json) :=
  ((Pipeline.new 0).map fun _ _ => .error "called").collect.procedure

/-- Wrapped, a text and nothing at all are refused without a call, an array is run. -/
theorem executeWith_unwilling :
    let text :=
      unwilling.executeWith (.reference (.present (.json (.string "a")))) ()
    let nothing := unwilling.executeWith (.present (.reference .missing)) ()
    (text.outcome = .error (.refused (.invalidInput "string")) ∧
        text.calls = []) ∧
      (nothing.outcome = .error (.refused (.invalidInput "none")) ∧
        nothing.events = [.rejected "none"]) ∧
      (unwilling.executeWith
          (.present (.reference (.json (.array [.null])))) ()).outcome =
        .error (.aborted "called") := by
  intro text nothing
  obtain ⟨_, ofText⟩ :=
    (executeWith_validates unwilling
      (.reference (.present (.json (.string "a")))) ()).rejected
        (.json (by simp))
  obtain ⟨_, ofNothing⟩ :=
    (executeWith_validates unwilling
      (.present (.reference .missing)) ()).rejected .missing
  have ofArray :=
    executeWith_validates unwilling
      (.present (.reference (.json (.array [.null])))) ()
  refine ⟨?_, ?_, ofArray.outcome [.null] (.json [.null])⟩
  · cases ofText.named
    exact ⟨ofText.outcome, ofText.calls⟩
  · cases ofNothing.named
    exact ⟨ofNothing.outcome, ofNothing.events⟩

end Fused

end OnePass
