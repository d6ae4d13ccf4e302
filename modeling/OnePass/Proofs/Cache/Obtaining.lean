import Mathlib.Data.List.Nodup
import OnePass.Cache.Registry

namespace OnePass

/-!
# What a demand can come to

A demand finds its key, or its declaration fails, or its procedure is registered.
Each of the three says exactly what is answered and what is left behind, and every
fact about a cache is derived from them.
-/

variable {Name : Type} {Base : Name → Type} {ε : Type}
variable {context source element after output : ValueType Name}
variable {signature : Signature Name}

/-! ## Renumbering

A procedure takes its identity from the fresh pipeline it was declared on, and
nothing else depends on that identity.
-/

/-- The procedure with another identity. -/
def Shared.renumber
    (identity : Nat)
    (procedure : Shared Base ε signature) :
    Shared Base ε signature :=
  { procedure with identity := identity }

/-- The procedure with another identity. -/
def Fused.renumber
    (identity : Nat)
    (procedure : Fused Base ε context source element output) :
    Fused Base ε context source element output :=
  { procedure with identity := identity }

/-- The pipeline with another identity. -/
def Pipeline.renumber
    (identity : Nat)
    (pipeline : Pipeline Base ε context source element) :
    Pipeline Base ε context source element :=
  { pipeline with identity := identity }

/-- The sealed pipeline with another identity. -/
def Sealed.renumber
    (identity : Nat)
    (pipeline : Sealed Base ε context source element output) :
    Sealed Base ε context source element output :=
  { pipeline with procedure := pipeline.procedure.renumber identity }

namespace Pipeline

/-- Declaring a stage does not look at the identity. -/
theorem extend_renumber
    (identity : Nat)
    (pipeline : Pipeline Base ε context source element)
    (stage : Stage Base ε context element after) :
    (pipeline.renumber identity).extend stage =
      (pipeline.extend stage).renumber identity := by
  cases stage with
  | filter callback | map callback | forEach callback =>
      cases callback <;> rfl

/-- Following a script does not look at the identity. -/
theorem follow_renumber
    (identity : Nat)
    (pipeline : Pipeline Base ε context source element)
    (script : Script Base ε context element after) :
    (pipeline.renumber identity).follow script =
      (pipeline.follow script).renumber identity := by
  induction script with
  | done =>
      rfl
  | stage first rest inductionHypothesis =>
      simp only [follow, extend_renumber, inductionHypothesis]

/-- Sealing does not look at the identity. -/
theorem conclude_renumber
    (identity : Nat)
    (pipeline : Pipeline Base ε context source element)
    (ending : Ending Base ε context element output) :
    (pipeline.renumber identity).conclude ending =
      (pipeline.conclude ending).renumber identity := by
  cases ending with
  | leaveOpen =>
      rfl
  | terminal terminal =>
      cases terminal with
      | collect | join =>
          rfl
      | reduce callback | find callback | findIndex callback | some callback
      | every callback =>
          cases callback <;> rfl

end Pipeline

/-- Building does not look at the identity. -/
theorem Sealed.build_renumber
    (identity : Nat)
    (pipeline : Sealed Base ε context source element output)
    (attempts : Nat) :
    ((pipeline.renumber identity).build attempts).outcome =
        (pipeline.build attempts).outcome.map (Fused.renumber identity) ∧
      ((pipeline.renumber identity).build attempts).attempts =
        (pipeline.build attempts).attempts ∧
      ((pipeline.renumber identity).build attempts).events =
        (pipeline.build attempts).events := by
  unfold build
  cases compiled : pipeline.compiled with
  | true =>
      simp [renumber, compiled, Except.map]
  | false =>
      cases prepared : (pipeline.procedure.terminal.prepare attempts).outcome <;>
        simp [renumber, Fused.renumber, compiled, prepared, Except.map,
          compiledEvent, queue]

/-! ## Compiling a declaration -/

/-- What compiling a declaration comes to. -/
structure Compiled
    (Base : Name → Type)
    (ε : Type)
    (signature : Signature Name) where
  outcome : Except (Failure ε) (Shared Base ε signature)
  /-- The encoding attempts on the accumulator of the declaration afterwards. -/
  attempts : Nat
  events : List Event

namespace Declaration

/-- Compile what a declaration makes of a fresh pipeline with the given identity. -/
def compile
    (declaration : Declaration Base ε signature)
    (identity attempts : Nat) :
    Compiled Base ε signature :=
  match declaration with
  | .aborts reason => ⟨.error (.aborted reason), attempts, []⟩
  | .declares script ending =>
      let built :=
        (((Pipeline.new identity).follow script).conclude ending).build attempts
      ⟨built.outcome.map Fused.share, built.attempts, built.events⟩

/-- The identity of the fresh pipeline only numbers the procedure. -/
theorem compile_eq
    (declaration : Declaration Base ε signature)
    (identity attempts : Nat) :
    declaration.compile identity attempts =
      { declaration.compile 0 attempts with
        outcome :=
          (declaration.compile 0 attempts).outcome.map
            (Shared.renumber identity) } := by
  cases declaration with
  | aborts reason =>
      rfl
  | declares script ending =>
      obtain ⟨outcome, counted, logged⟩ :=
        Sealed.build_renumber identity
          (((Pipeline.new 0).follow script).conclude ending) attempts
      have fresh :
          ((Pipeline.new identity).follow script).conclude ending =
            (((Pipeline.new 0).follow script).conclude ending).renumber
              identity := by
        rw [← Pipeline.conclude_renumber, ← Pipeline.follow_renumber]
        rfl
      simp only [compile, fresh, outcome, counted, logged]
      congr 1
      cases ((((Pipeline.new 0).follow script).conclude ending).build
        attempts).outcome <;> rfl

/-- A compiled procedure has the identity of the pipeline that was declared on. -/
theorem identity_compile
    {declaration : Declaration Base ε signature}
    {identity attempts : Nat}
    {procedure : Shared Base ε signature}
    (compiled :
      (declaration.compile identity attempts).outcome = .ok procedure) :
    procedure.identity = identity := by
  rw [compile_eq] at compiled
  cases fresh : (declaration.compile 0 attempts).outcome with
  | error failure =>
      simp [fresh, Except.map] at compiled
  | ok numbered =>
      simp only [fresh, Except.map, Except.ok.injEq] at compiled
      rw [← compiled]
      rfl

end Declaration

/-! ## Answering a demand -/

namespace Cache

variable {cache : Cache Base ε} {key : String}

/-- An entry that is found under a key is one of the cache and has that key. -/
theorem mem_of_find?
    {entry : Entry Base ε}
    (found : cache.find? key = some entry) :
    entry ∈ cache.entries ∧ entry.key = key :=
  ⟨List.mem_of_find?_eq_some found, by
    simpa using List.find?_some found⟩

/-- Nothing is found under a key exactly if no entry has it. -/
theorem find?_eq_none :
    cache.find? key = none ↔ ∀ entry ∈ cache.entries, entry.key ≠ key := by
  simp [find?]

/-- A key is found exactly if some entry has it. -/
theorem contains_eq_any
    (cache : Cache Base ε)
    (key : String) :
    cache.contains key = cache.entries.any fun entry => entry.key == key := by
  rw [Bool.eq_iff_iff]
  simp [contains, find?]

/-- The three things that a demand can come to. -/
inductive Answering
    [DecidableEq Name]
    (cache : Cache Base ε)
    (demand : Demand Base ε)
    (attempts : Nat) :
    Obtained Base ε demand.signature → Prop where
  | hit
      {entry : Entry Base ε}
      (found : cache.find? demand.key = some entry) :
      Answering cache demand attempts
        { outcome := entry.handOut demand.key demand.signature
          cache := cache
          declared := 0
          attempts := attempts
          events := [.hit demand.key] }
  | fails
      {failure : Failure ε}
      (missing : cache.find? demand.key = none)
      (compiled :
        (demand.declaration.compile cache.nextIdentity attempts).outcome =
          .error failure) :
      Answering cache demand attempts
        { outcome := .error failure
          cache := cache
          declared := 1
          attempts :=
            (demand.declaration.compile cache.nextIdentity attempts).attempts
          events :=
            (demand.declaration.compile cache.nextIdentity attempts).events }
  | registers
      {procedure : Shared Base ε demand.signature}
      (missing : cache.find? demand.key = none)
      (compiled :
        (demand.declaration.compile cache.nextIdentity attempts).outcome =
          .ok procedure) :
      Answering cache demand attempts
        { outcome := .ok procedure
          cache := cache.insert ⟨demand.key, demand.signature, procedure⟩
          declared := 1
          attempts :=
            (demand.declaration.compile cache.nextIdentity attempts).attempts
          events :=
            (demand.declaration.compile cache.nextIdentity attempts).events ++
              [.registered demand.key procedure.plan.queue.text] }

/-- Every demand comes to one of the three. -/
theorem obtain_answering
    [DecidableEq Name]
    (cache : Cache Base ε)
    (demand : Demand Base ε)
    (attempts : Nat) :
    cache.Answering demand attempts (cache.obtain demand attempts) := by
  obtain ⟨key, signature, declaration⟩ := demand
  cases found : cache.find? key with
  | some entry =>
      simp only [obtain, found]
      exact .hit found
  | none =>
      simp only [obtain, found]
      cases declaration with
      | aborts reason =>
          exact .fails found rfl
      | declares script ending =>
          simp only [register]
          cases built :
              ((((Pipeline.new cache.nextIdentity).follow script).conclude
                ending).build attempts).outcome with
          | error failure =>
              exact .fails found (by simp [Declaration.compile, built, Except.map])
          | ok procedure =>
              exact .registers found
                (by simp [Declaration.compile, built, Except.map])

end Cache

end OnePass
