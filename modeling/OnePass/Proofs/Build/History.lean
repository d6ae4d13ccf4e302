import OnePass.Proofs.Build.Repeated

namespace OnePass

/-!
# Histories of uses of one pipeline

A use builds and then, if it was built, runs.  Uses one after another meet builds one
after another, and nothing else passes from one use to the next: what a use answers
after a successful build is what the procedure makes of it by itself.
-/

variable {Name : Type} {Base : Name → Type} {ε : Type}
variable {context source element output : ValueType Name}

/-- What a procedure makes of a use by itself. -/
def Fused.serve
    (procedure : Fused Base ε context source element output) :
    Use Base context source →
      Execution Base ε (Answer Base ε context source element output)
  | .build => ⟨.ok (.built procedure), [], []⟩
  | .run input environment =>
      let execution := procedure.executeWith input environment
      ⟨execution.outcome.map .ran, execution.calls, execution.events⟩

namespace Built

/-- What a use comes to whose build comes to this. -/
def use
    (built : Built Base ε context source element output)
    (request : Use Base context source) :
    Used Base ε context source element output :=
  let served : Execution Base ε (Answer Base ε context source element output) :=
    match built.outcome with
    | .error failure => ⟨.error failure, [], []⟩
    | .ok procedure => procedure.serve request
  { outcome := served.outcome
    pipeline := built.pipeline
    prepared := built.prepared
    attempts := built.attempts
    calls := served.calls
    events := built.events ++ served.events }

variable {built : Built Base ε context source element output}
variable {request : Use Base context source}

/-- A use whose build fails answers with that failure and does nothing else. -/
theorem use_of_error
    {failure : Failure ε}
    (failed : built.outcome = .error failure) :
    (built.use request).outcome = .error failure ∧
      (built.use request).calls = [] ∧
      (built.use request).events = built.events := by
  simp [use, failed]

/-- A use whose build succeeds answers as the procedure does by itself. -/
theorem use_of_ok
    {procedure : Fused Base ε context source element output}
    (succeeded : built.outcome = .ok procedure) :
    (built.use request).outcome = (procedure.serve request).outcome ∧
      (built.use request).calls = (procedure.serve request).calls ∧
      (built.use request).events =
        built.events ++ (procedure.serve request).events := by
  simp [use, succeeded]

end Built

/-- How often the terminal was prepared in a row of uses. -/
def preparations :
    (uses : List (Used Base ε context source element output)) →
      Nat
  | [] => 0
  | used :: rest => used.prepared + preparations rest

namespace Sealed

/-- A use is a build and what its outcome allows. -/
theorem use_eq
    (pipeline : Sealed Base ε context source element output)
    (attempts : Nat)
    (request : Use Base context source) :
    pipeline.use attempts request = (pipeline.build attempts).use request := by
  unfold use Built.use
  generalize pipeline.build attempts = built
  obtain ⟨outcome, _, _, _, _⟩ := built
  cases outcome with
  | error failure =>
      simp
  | ok procedure =>
      cases request <;> simp [Fused.serve]

/--
What a use comes to after so many others, if the given number of preparations fail
before one passes.
-/
structure UsedAt
    (pipeline : Sealed Base ε context source element output)
    (attempts failed step : Nat)
    (request : Use Base context source)
    (used : Used Base ε context source element output) :
    Prop where
  /-- The terminal is prepared exactly if no earlier preparation has passed. -/
  prepared : used.prepared = if step ≤ failed then 1 else 0
  /-- A reduce has made one encoding attempt at each preparation, others none. -/
  encoded :
    used.attempts =
      attempts +
        pipeline.procedure.terminal.encodings * min (step + 1) (failed + 1)
  /--
  A preparation that fails is the answer, whatever was asked for.  Nothing is called,
  and the pipeline stays as it was.
  -/
  fails :
    step < failed →
      ∃ failure,
        (pipeline.procedure.terminal.prepare (attempts + step)).outcome =
            .error failure ∧
          used.outcome = .error failure ∧
          used.calls = [] ∧
          used.events = [] ∧
          used.pipeline = pipeline
  /--
  From the first preparation that passes on, the answer and the calls are those of
  the one procedure by itself.
  -/
  serves :
    failed ≤ step →
      used.outcome = (pipeline.procedure.serve request).outcome ∧
        used.calls = (pipeline.procedure.serve request).calls ∧
        used.events =
          (if step = failed then [pipeline.compiledEvent] else []) ++
            (pipeline.procedure.serve request).events ∧
        used.pipeline = { pipeline with compiled := true }

variable {pipeline : Sealed Base ε context source element output}
variable {attempts count failed step : Nat}

/-- The use of what is built after so many builds is such a use. -/
theorem usedAt_builtAt
    (unbuilt : pipeline.compiled = false)
    (firstPass :
      pipeline.procedure.terminal.FirstPass attempts count failed)
    (request : Use Base context source) :
    pipeline.UsedAt attempts failed step request
      ((pipeline.builtAt attempts failed step).use request) where
  prepared := rfl
  encoded := rfl
  fails := by
    intro failing
    obtain ⟨failure, prepared⟩ := firstPass.fails step failing
    have failed :
        (pipeline.builtAt attempts failed step).outcome = .error failure := by
      simp [builtAt, failing, prepared, Except.map]
    obtain ⟨answered, silent, quiet⟩ := Built.use_of_error failed
    refine ⟨failure, prepared, answered, silent, ?_, ?_⟩
    · simpa [builtAt, Nat.ne_of_lt failing] using quiet
    · have early : ¬ _ < step + 1 := Nat.not_lt_of_ge failing
      simp [Built.use, builtAt, afterBuilds, early, ← unbuilt]
  serves := by
    intro late
    have succeeded :
        (pipeline.builtAt attempts failed step).outcome =
          .ok pipeline.procedure := by
      simp [builtAt, Nat.not_lt_of_ge late]
    obtain ⟨answered, called, logged⟩ := Built.use_of_ok succeeded
    refine ⟨answered, called, logged, ?_⟩
    simp [Built.use, builtAt, afterBuilds, Nat.lt_succ_of_le late]

/-- Each use, given those before it, comes to what its number says. -/
theorem useAll_afterBuilds
    (firstPass :
      pipeline.procedure.terminal.FirstPass attempts count failed)
    (step : Nat)
    (requests : List (Use Base context source))
    (bound : step + requests.length ≤ count) :
    (pipeline.afterBuilds failed step).useAll
        (pipeline.attemptsAfter attempts failed step) requests =
      (requests.zipIdx step).map fun request =>
        (pipeline.builtAt attempts failed request.2).use request.1 := by
  induction requests generalizing step with
  | nil =>
      rfl
  | cons request rest inductionHypothesis =>
      rw [List.length_cons] at bound
      have first :
          (pipeline.afterBuilds failed step).use
              (pipeline.attemptsAfter attempts failed step) request =
            (pipeline.builtAt attempts failed step).use request := by
        rw [use_eq, build_afterBuilds firstPass (by omega)]
      simp only [useAll, first, List.zipIdx_cons, List.map_cons, List.cons.injEq,
        true_and]
      exact inductionHypothesis (step + 1) (by omega)

/-- The preparations that uses make in all, from a step on. -/
theorem preparations_builtAt
    (pipeline : Sealed Base ε context source element output)
    (attempts failed : Nat)
    (requests : List (Use Base context source))
    (step : Nat) :
    min step (failed + 1) +
        preparations
          ((requests.zipIdx step).map fun request =>
            (pipeline.builtAt attempts failed request.2).use request.1) =
      min (step + requests.length) (failed + 1) := by
  induction requests generalizing step with
  | nil =>
      simp [preparations]
  | cons request rest inductionHypothesis =>
      have later := inductionHypothesis (step + 1)
      simp only [List.zipIdx_cons, List.map_cons, List.length_cons,
        preparations, Built.use, builtAt] at later ⊢
      by_cases early : step ≤ failed
      · rw [if_pos early]
        omega
      · rw [if_neg early]
        omega

/--
A pipeline compiles once over its whole history.  Every use up to the first whose
preparation passes prepares the terminal once and, but for that one, answers with
what went wrong and leaves the pipeline as it was.  That use and all later ones
answer with the one procedure, or as it runs by itself on their own input.
-/
theorem useAll_compiles_once
    (pipeline : Sealed Base ε context source element output)
    (unbuilt : pipeline.compiled = false)
    (attempts : Nat)
    (requests : List (Use Base context source)) :
    ∃ failed,
      pipeline.procedure.terminal.FirstPass attempts requests.length failed ∧
        (pipeline.useAll attempts requests).length = requests.length ∧
        preparations (pipeline.useAll attempts requests) =
          min requests.length (failed + 1) ∧
        ∀ step request used,
          requests[step]? = some request →
          (pipeline.useAll attempts requests)[step]? = some used →
          pipeline.UsedAt attempts failed step request used := by
  obtain ⟨failed, firstPass⟩ :=
    pipeline.procedure.terminal.exists_firstPass attempts requests.length
  have uses :
      pipeline.useAll attempts requests =
        requests.zipIdx.map fun request =>
          (pipeline.builtAt attempts failed request.2).use request.1 := by
    have numbered :=
      useAll_afterBuilds firstPass 0 requests (by simp)
    rwa [afterBuilds_zero unbuilt, attemptsAfter_zero] at numbered
  refine ⟨failed, firstPass, ?_, ?_, ?_⟩
  · simp [uses]
  · have counted :=
      pipeline.preparations_builtAt attempts failed requests 0
    simpa [uses] using counted
  · intro step request used asked answered
    have here : requests.zipIdx[step]? = some (request, step) := by
      simp [List.getElem?_zipIdx, asked]
    rw [uses, List.getElem?_map, here, Option.map_some,
      Option.some.injEq] at answered
    rw [← answered]
    exact usedAt_builtAt unbuilt firstPass request

/-- Uses of which two fail, one of them on an input that is no sequence. -/
def falteringUses :
    List (Use (fun _ : Empty => Unit) .unit (.position : ValueType Empty)) :=
  [.run .missing (), .build, .run (.vector [1, 2]) (), .run .missing (), .build,
    .run (.vector [3]) ()]

/-- Three preparations serve six uses, and the last use adds up its own input only. -/
theorem useAll_totalling :
    totalling.compiled = false ∧
      preparations (totalling.useAll 0 falteringUses) = 3 ∧
      ∀ used,
        (totalling.useAll 0 falteringUses)[5]? = some used →
        used.prepared = 0 ∧ used.outcome = .ok (.ran 3) := by
  obtain ⟨failed, firstPass, _, prepared, uses⟩ :=
    useAll_compiles_once totalling rfl 0 falteringUses
  have two : failed = 2 := firstPass.unique (totalling_firstPass (by decide))
  subst two
  refine ⟨rfl, prepared, fun used answered => ?_⟩
  have last := uses 5 _ used rfl answered
  exact ⟨last.prepared, (last.serves (by decide)).1⟩

end Sealed

end OnePass
