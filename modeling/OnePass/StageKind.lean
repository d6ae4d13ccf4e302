namespace OnePass

/-!
# Kinds of stages

A pipeline is declared as a sequence of stages.  Three kinds of stage hand
elements on to the next one; the other six end the pipeline with one value, and
four of these may stop before the end of the input.
-/

/-- What a declared stage does. -/
inductive StageKind where
  | filter
  | map
  | forEach
  | reduce
  | join
  | find
  | findIndex
  | some
  | every
  deriving DecidableEq, Repr

namespace StageKind

/-- All kinds, those that hand elements on before those that end a pipeline. -/
def all : List StageKind :=
  [.filter, .map, .forEach, .reduce, .join, .find, .findIndex, .some, .every]

/-- The name under which a kind is declared. -/
def name : StageKind → String
  | .filter => "filter"
  | .map => "map"
  | .forEach => "forEach"
  | .reduce => "reduce"
  | .join => "join"
  | .find => "find"
  | .findIndex => "findIndex"
  | .some => "some"
  | .every => "every"

/-- The kind with a given name. -/
def ofName? (name : String) : Option StageKind :=
  all.find? fun kind => kind.name == name

/-- Whether a stage of this kind ends the pipeline and produces one value. -/
def isTerminal : StageKind → Bool
  | .filter => false
  | .map => false
  | .forEach => false
  | _ => true

/-- Whether a stage of this kind may stop before the end of the input. -/
def shortCircuits : StageKind → Bool
  | .find => true
  | .findIndex => true
  | .some => true
  | .every => true
  | _ => false

/-- A name leads back to its kind. -/
theorem ofName?_name (kind : StageKind) : ofName? kind.name = Option.some kind := by
  cases kind <;> rfl

end StageKind

end OnePass
