namespace OnePass

/-!
# What can go wrong

An `Error` is a refusal by the library itself.  A callback, a declaration or an
encoder may also abort, with a reason of its own type; a `Failure` is either.
-/

/-- A refusal by the library. -/
inductive Error where
  /-- The input of a run is not a sequence; `found` names what it is. -/
  | invalidInput (found : String)
  /-- The initial value of a reduce does not survive embedding. -/
  | notEmbeddable (reason : String)
  /-- The procedure cached under the key has other types. -/
  | cacheTypeMismatch (key : String)
  deriving DecidableEq, Repr

/-- The text of a refusal. -/
def Error.message : Error → String
  | .invalidInput found =>
      "invalid input: expected a sequence, found " ++ found
  | .notEmbeddable reason =>
      "reduce initial value is not embeddable: " ++ reason
  | .cacheTypeMismatch key =>
      "pipeline cache entry `" ++ key ++ "` was registered with different types"

/-- Why there is no result: a refusal, or an abort with its reason. -/
inductive Failure (ε : Type) where
  | refused (error : Error)
  | aborted (reason : ε)
  deriving DecidableEq, Repr

end OnePass
