import OnePass.Declaration

namespace OnePass

/-!
# The cache of procedures

A cache shares one compiled procedure among all who ask for it under one key.  The
first declaration under a key that compiles is registered; later ones are not even
looked at, and the procedure is handed out to those who ask for it with the types
it was registered with.  Entries are never replaced or removed.
-/

variable {Name : Type} {Base : Name → Type} {ε : Type}

/-- A registered procedure with its key and its signature. -/
structure Entry (Base : Name → Type) (ε : Type) where
  key : String
  signature : Signature Name
  procedure : Shared Base ε signature

/-- The registered procedures in the order of their registration. -/
structure Cache (Base : Name → Type) (ε : Type) where
  entries : List (Entry Base ε)

/-- A demand for the procedure under a key, declared like this if there is none. -/
structure Demand (Base : Name → Type) (ε : Type) where
  key : String
  signature : Signature Name
  declaration : Declaration Base ε signature

/-- What a demand answers and leaves behind. -/
structure Obtained (Base : Name → Type) (ε : Type) (signature : Signature Name) where
  outcome : Except (Failure ε) (Shared Base ε signature)
  cache : Cache Base ε
  /-- How often the declaration was run. -/
  declared : Nat
  /-- The encoding attempts on the accumulator of the declaration so far. -/
  attempts : Nat
  events : List Event

namespace Entry

/-- The registered procedure, if it has the given signature. -/
def procedure?
    [DecidableEq Name]
    (entry : Entry Base ε)
    (signature : Signature Name) :
    Option (Shared Base ε signature) :=
  if same : entry.signature = signature then some (same ▸ entry.procedure)
  else none

/-- Hand out the procedure found under a key, or refuse if its signature differs. -/
def handOut
    [DecidableEq Name]
    (entry : Entry Base ε)
    (key : String)
    (signature : Signature Name) :
    Except (Failure ε) (Shared Base ε signature) :=
  match entry.procedure? signature with
  | some procedure => .ok procedure
  | none => .error (.refused (.cacheTypeMismatch key))

end Entry

namespace Cache

/-- The cache without entries. -/
def empty : Cache Base ε where
  entries := []

/-- The entry under a key. -/
def find? (cache : Cache Base ε) (key : String) : Option (Entry Base ε) :=
  cache.entries.find? fun entry => entry.key == key

/-- Whether there is an entry under a key. -/
def contains (cache : Cache Base ε) (key : String) : Bool :=
  (cache.find? key).isSome

/-- The number of registered procedures. -/
def length (cache : Cache Base ε) : Nat :=
  cache.entries.length

/-- Whether no procedure is registered. -/
def isEmpty (cache : Cache Base ε) : Bool :=
  cache.entries.isEmpty

/-- Register a procedure under a key. -/
def insert (cache : Cache Base ε) (entry : Entry Base ε) : Cache Base ε where
  entries := cache.entries ++ [entry]

/-- The identity of the pipeline that is handed to the next declaration. -/
def nextIdentity (cache : Cache Base ε) : Nat :=
  cache.entries.length

/--
Compile what a declaration makes of a fresh pipeline, and register the result
under the key.
-/
def register
    (cache : Cache Base ε)
    (key : String)
    {signature : Signature Name}
    (declaration : Declaration Base ε signature)
    (attempts : Nat) :
    Obtained Base ε signature :=
  match declaration with
  | .aborts reason =>
      { outcome := .error (.aborted reason)
        cache := cache
        declared := 1
        attempts := attempts
        events := [] }
  | .declares script ending =>
      let pipeline :=
        ((Pipeline.new cache.nextIdentity).follow script).conclude ending
      let built := pipeline.build attempts
      match built.outcome with
      | .error failure =>
          { outcome := .error failure
            cache := cache
            declared := 1
            attempts := built.attempts
            events := built.events }
      | .ok procedure =>
          { outcome := .ok procedure.share
            cache := cache.insert ⟨key, signature, procedure.share⟩
            declared := 1
            attempts := built.attempts
            events :=
              built.events ++ [.registered key procedure.plan.queue.text] }

/--
Answer a demand: hand out what is registered under the key, or else declare,
compile and register.
-/
def obtain
    [DecidableEq Name]
    (cache : Cache Base ε)
    (demand : Demand Base ε)
    (attempts : Nat) :
    Obtained Base ε demand.signature :=
  match cache.find? demand.key with
  | some entry =>
      { outcome := entry.handOut demand.key demand.signature
        cache := cache
        declared := 0
        attempts := attempts
        events := [.hit demand.key] }
  | none => cache.register demand.key demand.declaration attempts

end Cache

end OnePass
