import OnePass.Interleaving.Build
import OnePass.Proofs.Build.Repeated
import OnePass.Proofs.Interleaving.Linearization

namespace OnePass

/-!
# Concurrent builds compile once

A build's critical section, carried out without interruption, is the build itself.
Threads that build one pipeline therefore answer as builds one after another do, in
the order in which they took its lock, and what these come to depends on their number
alone.
-/

variable {Name : Type} {Base : Name → Type} {ε : Type}
variable {context source element output : ValueType Name}

namespace Workshop

/-- Take into account what a build has come to. -/
def account
    (workshop : Workshop Base ε context source element output)
    (built : Built Base ε context source element output) :
    Workshop Base ε context source element output where
  pipeline := built.pipeline
  prepared := workshop.prepared + built.prepared
  attempts := built.attempts
  events := workshop.events ++ built.events

/-- A build's section does what the build does. -/
theorem perform_build
    (workshop : Workshop Base ε context source element output) :
    build.perform workshop =
      ((workshop.pipeline.build workshop.attempts).outcome,
        workshop.account (workshop.pipeline.build workshop.attempts)) := by
  cases compiled : workshop.pipeline.compiled with
  | true =>
      simp [build, Section.perform, Sealed.build, compiled, account]
  | false =>
      have prepares : build.perform workshop = prepare.perform workshop := by
        simp [build, Section.perform, compiled]
      rw [prepares]
      rcases prepared :
          (workshop.pipeline.procedure.terminal.prepare
            workshop.attempts).outcome with
        (refused | aborted) | passed
      · simp [prepare, Section.perform, Sealed.build, compiled, prepared,
          account, countPreparation]
      · simp [prepare, Section.perform, Sealed.build, compiled, prepared,
          account, countPreparation]
      · simp [prepare, mark, Section.perform, Sealed.build, compiled, prepared,
          account, countPreparation, markCompiled, Sealed.compiledEvent,
          Sealed.queue]

/-- The workshop after so many builds of which the given number fail at first. -/
def afterBuilds
    (pipeline : Sealed Base ε context source element output)
    (failed count : Nat) :
    Workshop Base ε context source element output where
  pipeline := pipeline.afterBuilds failed count
  prepared := min count (failed + 1)
  attempts := pipeline.attemptsAfter 0 failed count
  events := if failed < count then [pipeline.compiledEvent] else []

variable {pipeline : Sealed Base ε context source element output}
variable {count failed step : Nat}

/-- A fresh workshop is one in which nothing was built. -/
theorem afterBuilds_zero
    (unbuilt : pipeline.compiled = false)
    (failed : Nat) :
    afterBuilds pipeline failed 0 = fresh pipeline := by
  simp [afterBuilds, fresh, Sealed.afterBuilds_zero unbuilt,
    Sealed.attemptsAfter_zero]

/-- One more build answers, and leaves the workshop, as its number says. -/
theorem perform_afterBuilds
    (firstPass : pipeline.procedure.terminal.FirstPass 0 count failed)
    (bound : step < count) :
    build.perform (afterBuilds pipeline failed step) =
      ((pipeline.builtAt 0 failed step).outcome,
        afterBuilds pipeline failed (step + 1)) := by
  rw [perform_build]
  simp only [afterBuilds, Sealed.build_afterBuilds firstPass bound, account,
    Sealed.builtAt, Prod.mk.injEq, true_and, mk.injEq]
  rcases Nat.lt_trichotomy step failed with failing | same | compiled
  · refine ⟨?_, ?_⟩
    · rw [if_pos (Nat.le_of_lt failing)]
      omega
    · simp [Nat.ne_of_lt failing, Nat.not_lt_of_gt failing,
        Nat.not_lt_of_ge failing]
  · subst step
    simp
  · refine ⟨?_, ?_⟩
    · rw [if_neg (Nat.not_le_of_gt compiled)]
      omega
    · simp [Nat.ne_of_gt compiled, compiled, Nat.lt_succ_of_lt compiled]

/-- Builds one after another answer, and leave the workshop, as their number says. -/
theorem performAll_afterBuilds
    (firstPass : pipeline.procedure.terminal.FirstPass 0 count failed)
    (step more : Nat)
    (bound : step + more ≤ count) :
    Section.performAll (List.replicate more build)
        (afterBuilds pipeline failed step) =
      ((List.range' step more).map fun step =>
          (pipeline.builtAt 0 failed step).outcome,
        afterBuilds pipeline failed (step + more)) := by
  induction more generalizing step with
  | zero =>
      rfl
  | succ more inductionHypothesis =>
      have next : step + 1 + more = step + (more + 1) := by
        omega
      rw [List.replicate_succ, Section.performAll,
        perform_afterBuilds firstPass (by omega)]
      simp only [inductionHypothesis (step + 1) (by omega), next,
        List.range'_succ, List.map_cons]

/-- The answers of so many builds: the failures, then the procedure again and again. -/
def answersInTurn
    (pipeline : Sealed Base ε context source element output)
    (failed count : Nat) :
    List (Outcome Base ε context source element output) :=
  ((List.range failed).map fun attempt =>
      (pipeline.procedure.terminal.prepare attempt).outcome.map fun _ =>
        pipeline.procedure) ++
    List.replicate (count - failed) (.ok pipeline.procedure)

/-- Builds one after another answer with failures first and successes then. -/
theorem outcomes_eq_answersInTurn
    (bounded : failed ≤ count) :
    ((List.range count).map fun step =>
        (pipeline.builtAt 0 failed step).outcome) =
      answersInTurn pipeline failed count := by
  obtain ⟨more, rfl⟩ := Nat.exists_eq_add_of_le bounded
  have succeeds (later : Nat) :
      (pipeline.builtAt 0 failed (failed + later)).outcome =
        .ok pipeline.procedure := by
    simp [Sealed.builtAt, Nat.not_lt_of_ge (Nat.le_add_right failed later)]
  rw [List.range_add, List.map_append, answersInTurn, Nat.add_sub_cancel_left]
  congr 1
  · apply List.map_congr_left
    intro attempt member
    simp [Sealed.builtAt, List.mem_range.mp member]
  · rw [List.map_map, List.eq_replicate_iff]
    simp [succeeds]

section Complete

variable {schedule : List Nat}
variable
  {world :
    World (Workshop Base ε context source element output)
      (Outcome Base ε context source element output)}

/-- Concurrent builds answer, and leave the workshop, as their number says. -/
theorem complete_eq_afterBuilds
    (unbuilt : pipeline.compiled = false)
    (firstPass : pipeline.procedure.terminal.FirstPass 0 count failed)
    (ran :
      (World.start (List.replicate count build) (fresh pipeline)).run?
        schedule = some world)
    (complete : world.isComplete = true) :
    world.order.Perm (List.range count) ∧
      Finished world.threads world.order
        (answersInTurn pipeline failed count) ∧
      world.answers.Perm (answersInTurn pipeline failed count) ∧
      world.shared = afterBuilds pipeline failed count := by
  have linear := (World.linear_start _ _).run ran
  have all := linear.order_perm complete
  have finished := linear.finished_of_complete complete
  have answered := linear.answers_perm complete
  -- All threads build, so the order of their sections makes no difference.
  have sections :
      inOrder (List.replicate count build) world.order =
        List.replicate count build :=
    List.perm_replicate.mp (inOrder_perm all)
  have performed :
      Section.performAll (List.replicate count build) (fresh pipeline) =
        (answersInTurn pipeline failed count,
          afterBuilds pipeline failed count) := by
    have numbered := performAll_afterBuilds firstPass 0 count (by simp)
    rwa [afterBuilds_zero unbuilt, Nat.zero_add, ← List.range_eq_range',
      outcomes_eq_answersInTurn firstPass.bounded] at numbered
  rw [sections, performed] at finished answered
  rw [List.length_replicate] at all
  exact ⟨all, finished.1, answered, finished.2⟩

/--
Concurrent builds compile once.  Whatever the schedule, once all threads have
finished, those that took the lock first have failed, each with what its own
preparation came to, and all from the first preparation that passes on have answered
with the one procedure.  Nothing is prepared after that.  Who gets which answer
depends on the schedule; how often each answer is given, and what is left behind,
does not.
-/
theorem builds_compile_once
    (pipeline : Sealed Base ε context source element output)
    (unbuilt : pipeline.compiled = false)
    (count : Nat)
    (schedule : List Nat)
    (world :
      World (Workshop Base ε context source element output)
        (Outcome Base ε context source element output))
    (ran :
      (World.start (List.replicate count build) (fresh pipeline)).run?
        schedule = some world)
    (complete : world.isComplete = true) :
    ∃ failed,
      pipeline.procedure.terminal.FirstPass 0 count failed ∧
        world.order.Perm (List.range count) ∧
        Finished world.threads world.order
          (answersInTurn pipeline failed count) ∧
        world.shared.prepared = min count (failed + 1) ∧
        (∀ attempt < world.shared.prepared,
          (pipeline.procedure.terminal.prepare attempt).outcome = .ok () →
          attempt = failed) ∧
        world.shared.attempts =
          pipeline.procedure.terminal.encodings * min count (failed + 1) ∧
        ∀ otherSchedule otherWorld,
          (World.start (List.replicate count build) (fresh pipeline)).run?
            otherSchedule = some otherWorld →
          otherWorld.isComplete = true →
          otherWorld.answers.Perm world.answers ∧
            otherWorld.shared = world.shared := by
  obtain ⟨failed, firstPass⟩ :=
    pipeline.procedure.terminal.exists_firstPass 0 count
  obtain ⟨all, finished, answered, left⟩ :=
    complete_eq_afterBuilds unbuilt firstPass ran complete
  refine ⟨failed, firstPass, all, finished, ?_, ?_, ?_, ?_⟩
  · rw [left]
    rfl
  · intro attempt bound passes
    rw [left] at bound
    have early : attempt ≤ failed :=
      Nat.le_of_lt_succ (Nat.lt_of_lt_of_le bound (Nat.min_le_right _ _))
    exact firstPass.eq_of_passes early (by rwa [Nat.zero_add])
  · rw [left]
    exact Nat.zero_add _
  · intro otherSchedule otherWorld otherRan otherComplete
    obtain ⟨_, _, otherAnswered, otherLeft⟩ :=
      complete_eq_afterBuilds unbuilt firstPass otherRan otherComplete
    exact ⟨otherAnswered.trans answered.symm, otherLeft.trans left.symm⟩

end Complete

/-- Four threads of which the first two to take the lock fail, the second by an abort. -/
theorem builds_totalling :
    ∃ world,
      (World.start (List.replicate 4 build) (fresh totalling)).run?
          [1, 1, 1, 1, 3, 3, 3, 3, 0, 0, 0, 0, 0, 2, 2, 2] = some world ∧
        world.isComplete = true ∧
        Finished world.threads world.order (answersInTurn totalling 2 4) ∧
        world.shared.prepared = 3 ∧
        world.shared.attempts = 3 := by
  obtain ⟨world, ran, complete⟩ :
      ∃ world,
        (World.start (List.replicate 4 build) (fresh totalling)).run?
            [1, 1, 1, 1, 3, 3, 3, 3, 0, 0, 0, 0, 0, 2, 2, 2] = some world ∧
          world.isComplete = true :=
    ⟨_, rfl, rfl⟩
  obtain ⟨failed, firstPass, _, finished, prepared, _, encoded, _⟩ :=
    builds_compile_once totalling rfl 4 _ world ran complete
  have two : failed = 2 := firstPass.unique (totalling_firstPass (by decide))
  subst two
  exact ⟨world, ran, complete, finished, prepared, encoded⟩

end Workshop

end OnePass
