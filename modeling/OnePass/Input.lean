import OnePass.ValueType

namespace OnePass

/-!
# Inputs

A run accepts anything that can hand out its elements in order.  A missing
optional input and a JSON value other than an array cannot; they are rejected
when the run is called, under the name of what they are.  A reference to an input
and an optional input that is present stand for what they wrap.
-/

variable {Name : Type} {Base : Name → Type} {element : ValueType Name}

/-- An input that offers elements of a type. -/
inductive Input (Base : Name → Type) : ValueType Name → Type where
  | vector {element : ValueType Name}
      (items : List (element.Value Base)) :
      Input Base element
  | array {element : ValueType Name}
      (items : List (element.Value Base)) :
      Input Base element
  /-- The part of a vector from one position to before another. -/
  | slice {element : ValueType Name}
      (items : List (element.Value Base))
      (first past : Nat) :
      Input Base element
  | json (value : Json) : Input Base .json
  | missing {element : ValueType Name} : Input Base element
  | reference {element : ValueType Name}
      (inner : Input Base element) :
      Input Base element
  | present {element : ValueType Name}
      (inner : Input Base element) :
      Input Base element

namespace Input

/-- The elements of an input, if it is a sequence. -/
def elements? {element : ValueType Name} :
    Input Base element → Option (List (element.Value Base))
  | .vector items => some items
  | .array items => some items
  | .slice items first past => some ((items.take past).drop first)
  | .json value => value.items?
  | .missing => none
  | .reference inner => inner.elements?
  | .present inner => inner.elements?

/-- The name of what an input is. -/
def kind {element : ValueType Name} : Input Base element → String
  | .vector _ => "sequence"
  | .array _ => "sequence"
  | .slice _ _ _ => "sequence"
  | .json value => value.kind
  | .missing => "none"
  | .reference inner => inner.kind
  | .present inner => inner.kind

end Input

end OnePass
