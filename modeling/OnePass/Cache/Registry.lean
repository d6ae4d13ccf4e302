import OnePass.Cache

namespace OnePass

/-!
# Demands on one cache

Demands may share an accumulator, and with it the count of the attempts to encode
it.  A registry is a cache together with these counts, the number of declarations
that were run, and the log.
-/

variable {Name : Type} {Base : Name → Type} {ε : Type}

/-- A cache with what the demands on it left behind. -/
structure Registry (Base : Name → Type) (ε : Type) where
  cache : Cache Base ε
  /-- The encoding attempts made on each accumulator. -/
  attempts : (accumulator : Nat) → Nat
  /-- The number of declarations that were run. -/
  declared : Nat
  events : List Event

/-- A demand, and the accumulator that its declaration encodes. -/
structure Caller (Base : Name → Type) (ε : Type) where
  demand : Demand Base ε
  accumulator : Nat

/-- What a demand answers, with the signature it asked for. -/
structure Reply (Base : Name → Type) (ε : Type) where
  signature : Signature Name
  outcome : Except (Failure ε) (Shared Base ε signature)

namespace Registry

/-- The registry of an empty cache. -/
def empty : Registry Base ε where
  cache := .empty
  attempts := fun _ => 0
  declared := 0
  events := []

/-- Add events to the log. -/
def log (registry : Registry Base ε) (events : List Event) : Registry Base ε :=
  { registry with events := registry.events ++ events }

/-- Count one more declaration. -/
def countDeclaration (registry : Registry Base ε) : Registry Base ε :=
  { registry with declared := registry.declared + 1 }

/-- Set the number of attempts on one accumulator. -/
def setAttempts
    (registry : Registry Base ε)
    (accumulator attempts : Nat) :
    Registry Base ε :=
  { registry with
    attempts := fun other =>
      if other = accumulator then attempts else registry.attempts other }

/-- Record a procedure under a key. -/
def enter (registry : Registry Base ε) (entry : Entry Base ε) : Registry Base ε :=
  { registry.log [.registered entry.key entry.procedure.plan.queue.text] with
    cache := registry.cache.insert entry }

/-- Answer a demand and account for it. -/
def obtain
    [DecidableEq Name]
    (registry : Registry Base ε)
    (caller : Caller Base ε) :
    Reply Base ε × Registry Base ε :=
  let obtained :=
    registry.cache.obtain caller.demand (registry.attempts caller.accumulator)
  let counted := registry.setAttempts caller.accumulator obtained.attempts
  (⟨caller.demand.signature, obtained.outcome⟩,
    { counted.log obtained.events with
      cache := obtained.cache
      declared := registry.declared + obtained.declared })

/-- Answer several demands one after another. -/
def obtainAll
    [DecidableEq Name]
    (registry : Registry Base ε) :
    List (Caller Base ε) → List (Reply Base ε) × Registry Base ε
  | [] => ([], registry)
  | caller :: rest =>
      let (reply, registry) := registry.obtain caller
      let (replies, registry) := registry.obtainAll rest
      (reply :: replies, registry)

end Registry

end OnePass
