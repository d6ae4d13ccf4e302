import OnePass.Cache.Registry
import OnePass.Interleaving

namespace OnePass

/-!
# Concurrent demands on one cache

A demand holds the cache's lock from looking the key up to registering the
procedure, with declaring and compiling in between.
-/

variable {Name : Type} {Base : Name → Type} {ε : Type}

/-- A section of a demand. -/
abbrev DemandTask (Base : Name → Type) (ε : Type) :=
  Section (Registry Base ε) (Reply Base ε)

namespace Caller

/-- The answer of a demand that failed; an abort leaves the lock poisoned. -/
def fail (caller : Caller Base ε) : Failure ε → DemandTask Base ε
  | .refused error =>
      .release ⟨caller.demand.signature, .error (.refused error)⟩
  | .aborted reason =>
      .unwind ⟨caller.demand.signature, .error (.aborted reason)⟩

/-- Register the procedure and answer with it. -/
def insert
    (caller : Caller Base ε)
    (procedure : Shared Base ε caller.demand.signature) :
    DemandTask Base ε :=
  .step (fun registry => registry.enter ⟨caller.demand.key, _, procedure⟩)
    fun _ => .release ⟨caller.demand.signature, .ok procedure⟩

/-- Compile the declared pipeline. -/
def compile
    (caller : Caller Base ε)
    {element : ValueType Name}
    (pipeline :
      Sealed Base ε caller.demand.signature.context
        caller.demand.signature.element element
        caller.demand.signature.output) :
    DemandTask Base ε :=
  .step
    (fun registry =>
      let built := pipeline.build (registry.attempts caller.accumulator)
      (registry.setAttempts caller.accumulator built.attempts).log built.events)
    fun registry =>
      match (pipeline.build (registry.attempts caller.accumulator)).outcome with
      | .ok procedure => caller.insert procedure.share
      | .error failure => caller.fail failure

/-- Run the declaration on a fresh pipeline. -/
def declare (caller : Caller Base ε) : DemandTask Base ε :=
  .step Registry.countDeclaration fun registry =>
    match caller.demand.declaration with
    | .aborts reason => caller.fail (.aborted reason)
    | .declares script ending =>
        caller.compile
          (((Pipeline.new registry.cache.nextIdentity).follow script).conclude
            ending)

/-- Answer the demand: look the key up, and declare on a miss. -/
def obtain [DecidableEq Name] (caller : Caller Base ε) : DemandTask Base ε :=
  .step
    (fun registry =>
      if registry.cache.contains caller.demand.key then
        registry.log [.hit caller.demand.key]
      else registry)
    fun registry =>
      match registry.cache.find? caller.demand.key with
      | some entry =>
          .release
            ⟨caller.demand.signature,
              entry.handOut caller.demand.key caller.demand.signature⟩
      | none => caller.declare

end Caller

end OnePass
