import OnePass.Json.Basic

namespace OnePass

/-!
# Types of values

Pipelines, contexts, accumulators and results are typed by expressions over a
family of base types.  Having the expressions as data lets a cache compare the
types of two pipelines and lets a record of calls hold values of different types.
-/

/-- A type expression over the base types that `Name` lists. -/
inductive ValueType (Name : Type) where
  | base (name : Name)
  | unit
  | truth
  | text
  | position
  | json
  | optional (inner : ValueType Name)
  | list (inner : ValueType Name)
  | pair (first second : ValueType Name)
  | map (key value : ValueType Name)
  deriving DecidableEq

/-- The values of a type expression, given those of the base types. -/
@[reducible] def ValueType.Value {Name : Type} (Base : Name → Type) :
    ValueType Name → Type
  | .base name => Base name
  | .unit => Unit
  | .truth => Bool
  | .text => String
  | .position => Nat
  | .json => Json
  | .optional inner => Option (inner.Value Base)
  | .list inner => List (inner.Value Base)
  | .pair first second => first.Value Base × second.Value Base
  | .map key value => List (key.Value Base × value.Value Base)

/-- One call of a callback: the position of its stage, and what it received. -/
structure Call {Name : Type} (Base : Name → Type) where
  stage : Nat
  index : Nat
  type : ValueType Name
  value : type.Value Base

/-- The types that a procedure is known by from the outside. -/
structure Signature (Name : Type) where
  element : ValueType Name
  context : ValueType Name
  output : ValueType Name
  deriving DecidableEq

end OnePass
