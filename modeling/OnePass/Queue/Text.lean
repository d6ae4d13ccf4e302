import OnePass.Queue

namespace OnePass.Queue

/-!
# Reading the text of a queue

The text of a queue is the names of its stages with arrows between them.
`readKinds?` cuts a text at the arrows and looks each piece up; the empty text
is that of the queue without stages.
-/

/-- The pieces of a text between its arrows. -/
def splitArrows : List Char → List (List Char)
  | [] => [[]]
  | ' ' :: '-' :: '>' :: ' ' :: rest => [] :: splitArrows rest
  | character :: rest =>
      match splitArrows rest with
      | [] => [[character]]
      | piece :: pieces => (character :: piece) :: pieces

/-- The kinds that a text of names and arrows lists. -/
def readKinds? (text : String) : Option (List StageKind) :=
  if text.isEmpty then some []
  else
    (splitArrows text.toList).mapM fun piece =>
      StageKind.ofName? (String.ofList piece)

end OnePass.Queue
