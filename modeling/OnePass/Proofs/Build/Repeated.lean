import OnePass.Build

namespace OnePass

/-!
# Builds one after another

Preparations fail until one passes.  Up to there every build prepares the terminal
once and answers with what that comes to; from there on every build answers with the
procedure and prepares nothing.  The number of builds made before therefore tells
what the next build finds, what it answers and what it leaves behind.
-/

variable {Name : Type} {Base : Name → Type} {ε : Type}
variable {context source element output : ValueType Name}

namespace Terminal

/-- The encoding attempts that one preparation makes: a reduce makes one. -/
def encodings : Terminal Base ε context element output → Nat
  | .reduce _ _ => 1
  | _ => 0

/-- A preparation counts its encoding attempts. -/
theorem attempts_prepare
    (terminal : Terminal Base ε context element output)
    (attempts : Nat) :
    (terminal.prepare attempts).attempts = attempts + terminal.encodings := by
  cases terminal <;> rfl

/-- Only a terminal that encodes can fail to be prepared. -/
theorem encodings_of_error
    {terminal : Terminal Base ε context element output}
    {attempts : Nat}
    {failure : Failure ε}
    (failed : (terminal.prepare attempts).outcome = .error failure) :
    terminal.encodings = 1 := by
  cases terminal with
  | reduce reducer seed =>
      rfl
  | collect | join | find | findIndex | some | every =>
      simp [prepare] at failed

/--
Of so many preparations in a row, the given number fail, and the one after them, if
there is one, is the first to pass.
-/
structure FirstPass
    (terminal : Terminal Base ε context element output)
    (attempts count failed : Nat) :
    Prop where
  bounded : failed ≤ count
  fails :
    ∀ step < failed,
      ∃ failure, (terminal.prepare (attempts + step)).outcome = .error failure
  passes :
    failed < count →
      (terminal.prepare (attempts + failed)).outcome = .ok ()

/-- In every row of preparations some number fail before the first that passes. -/
theorem exists_firstPass
    (terminal : Terminal Base ε context element output)
    (attempts count : Nat) :
    ∃ failed, terminal.FirstPass attempts count failed := by
  induction count with
  | zero =>
      exact ⟨0, Nat.le_refl 0, by simp, by simp⟩
  | succ count inductionHypothesis =>
      obtain ⟨failed, firstPass⟩ := inductionHypothesis
      by_cases passed : failed < count
      · exact ⟨failed, Nat.le_succ_of_le firstPass.bounded, firstPass.fails,
          fun _ => firstPass.passes passed⟩
      · -- None of the earlier ones has passed, so the last one decides.
        have all : failed = count :=
          Nat.le_antisymm firstPass.bounded (Nat.le_of_not_lt passed)
        subst all
        cases prepared : (terminal.prepare (attempts + failed)).outcome with
        | ok _ =>
            exact ⟨failed, Nat.le_succ _, firstPass.fails, fun _ => prepared⟩
        | error failure =>
            refine ⟨failed + 1, Nat.le_refl _, ?_, by simp⟩
            intro step bound
            rcases Nat.lt_succ_iff_lt_or_eq.mp bound with earlier | last
            · exact firstPass.fails step earlier
            · subst step
              exact ⟨failure, prepared⟩

namespace FirstPass

variable {terminal : Terminal Base ε context element output}
variable {attempts count failed step : Nat}

/-- Up to the first pass, every preparation has made one encoding attempt. -/
theorem encodings_mul
    (firstPass : terminal.FirstPass attempts count failed)
    (early : step ≤ failed) :
    terminal.encodings * step = step := by
  cases step with
  | zero =>
      rfl
  | succ step =>
      obtain ⟨failure, prepared⟩ := firstPass.fails step early
      rw [encodings_of_error prepared, Nat.one_mul]

/-- Only the preparation after the failing ones passes. -/
theorem eq_of_passes
    (firstPass : terminal.FirstPass attempts count failed)
    (early : step ≤ failed)
    (passes : (terminal.prepare (attempts + step)).outcome = .ok ()) :
    step = failed := by
  rcases Nat.lt_or_eq_of_le early with earlier | same
  · obtain ⟨failure, prepared⟩ := firstPass.fails step earlier
    rw [prepared] at passes
    contradiction
  · exact same

/-- Only one number fails before the first that passes. -/
theorem unique
    (firstPass : terminal.FirstPass attempts count failed)
    {other : Nat}
    (otherPass : terminal.FirstPass attempts count other) :
    failed = other := by
  rcases Nat.lt_trichotomy failed other with less | same | more
  · have within : failed < count := Nat.lt_of_lt_of_le less otherPass.bounded
    exact otherPass.eq_of_passes (Nat.le_of_lt less) (firstPass.passes within)
  · exact same
  · have within : other < count := Nat.lt_of_lt_of_le more firstPass.bounded
    exact (firstPass.eq_of_passes (Nat.le_of_lt more)
      (otherPass.passes within)).symm

end FirstPass

end Terminal

namespace Sealed

/-- The pipeline after so many builds of which the given number fail at first. -/
def afterBuilds
    (pipeline : Sealed Base ε context source element output)
    (failed count : Nat) :
    Sealed Base ε context source element output :=
  { pipeline with compiled := decide (failed < count) }

/-- The encoding attempts after so many builds of which the given number fail at first. -/
def attemptsAfter
    (pipeline : Sealed Base ε context source element output)
    (attempts failed count : Nat) :
    Nat :=
  attempts + pipeline.procedure.terminal.encodings * min count (failed + 1)

/--
What a build comes to after so many others, if the given number of preparations fail
before one passes.
-/
def builtAt
    (pipeline : Sealed Base ε context source element output)
    (attempts failed step : Nat) :
    Built Base ε context source element output where
  outcome :=
    if step < failed then
      (pipeline.procedure.terminal.prepare (attempts + step)).outcome.map
        fun _ => pipeline.procedure
    else .ok pipeline.procedure
  pipeline := pipeline.afterBuilds failed (step + 1)
  prepared := if step ≤ failed then 1 else 0
  attempts := pipeline.attemptsAfter attempts failed (step + 1)
  events := if step = failed then [pipeline.compiledEvent] else []

variable {pipeline : Sealed Base ε context source element output}
variable {attempts count failed step : Nat}

/-- A pipeline that was not compiled is one that was not built. -/
theorem afterBuilds_zero
    (unbuilt : pipeline.compiled = false)
    (failed : Nat) :
    pipeline.afterBuilds failed 0 = pipeline := by
  simp [afterBuilds, ← unbuilt]

/-- Before the first build no encoding attempt was made. -/
theorem attemptsAfter_zero
    (attempts failed : Nat) :
    pipeline.attemptsAfter attempts failed 0 = attempts := by
  simp [attemptsAfter]

/-- Each build, given those before it, comes to what its number says. -/
theorem build_afterBuilds
    (firstPass :
      pipeline.procedure.terminal.FirstPass attempts count failed)
    (bound : step < count) :
    (pipeline.afterBuilds failed step).build
        (pipeline.attemptsAfter attempts failed step) =
      pipeline.builtAt attempts failed step := by
  rcases Nat.lt_or_ge failed step with compiled | early
  · -- The pipeline was compiled by an earlier build.
    have sameAttempts :
        pipeline.attemptsAfter attempts failed step =
          pipeline.attemptsAfter attempts failed (step + 1) := by
      have sameCount : min step (failed + 1) = min (step + 1) (failed + 1) := by
        omega
      rw [attemptsAfter, attemptsAfter, sameCount]
    have stays : failed < step + 1 := Nat.lt_succ_of_lt compiled
    simp [build, builtAt, afterBuilds, sameAttempts, compiled, stays,
      Nat.not_lt_of_gt compiled, Nat.not_le_of_gt compiled,
      Nat.ne_of_gt compiled]
  · have counted :
        pipeline.attemptsAfter attempts failed step = attempts + step := by
      rw [attemptsAfter, Nat.min_eq_left (Nat.le_succ_of_le early),
        firstPass.encodings_mul early]
    have next :
        pipeline.attemptsAfter attempts failed (step + 1) =
          attempts + step + pipeline.procedure.terminal.encodings := by
      rw [← counted, attemptsAfter, attemptsAfter,
        Nat.min_eq_left (Nat.succ_le_succ early),
        Nat.min_eq_left (Nat.le_succ_of_le early), Nat.mul_succ, Nat.add_assoc]
    rcases Nat.lt_or_eq_of_le early with failing | passing
    · obtain ⟨failure, prepared⟩ := firstPass.fails step failing
      simp [build, builtAt, counted, next, afterBuilds, prepared,
        Terminal.attempts_prepare, Nat.not_lt_of_ge early, failing, early,
        Nat.not_lt_of_ge failing, Nat.ne_of_lt failing, Except.map]
    · subst step
      have prepared := firstPass.passes bound
      simp [build, builtAt, counted, next, afterBuilds, prepared,
        Terminal.attempts_prepare, compiledEvent, queue]

end Sealed

/-! ## A seed that falters -/

/-- A seed whose first attempt is refused and whose second aborts; all others pass. -/
def faltering : Seed String Nat where
  initial := 0
  codec := fun attempt =>
    { encode := fun _ =>
        match attempt with
        | 0 => .ok (.error "unreadable")
        | 1 => .error "broken"
        | _ => .ok (.ok .null)
      decode := fun _ => .ok (.ok 0)
      same := fun first second => first == second }

/-- A pipeline that adds its input up, from that seed. -/
def totalling :
    Sealed (fun _ : Empty => Unit) String .unit .position .position .position :=
  (Pipeline.new 0).reduce (fun value _ => .ok (value.1 + value.2)) faltering

/-- Two preparations of that pipeline fail before one passes. -/
theorem totalling_firstPass
    {count : Nat}
    (enough : 2 ≤ count) :
    totalling.procedure.terminal.FirstPass 0 count 2 where
  bounded := enough
  fails := by
    intro step bound
    match step with
    | 0 => exact ⟨_, rfl⟩
    | 1 => exact ⟨_, rfl⟩
  passes := fun _ => rfl

end OnePass
