import OnePass.Staged

namespace OnePass

/-!
# Stage-by-stage evaluation of a growing input

A pass over a list hands on what the stage makes of each element by itself.  It extends
a pass over any beginning of the list, because the position of an element does not
depend on what comes after it.  The same then holds of a whole chain: what leaves it
for a longer input extends what leaves it for a shorter one, and an abort on a shorter
input is never undone by more input.
-/

variable {Name : Type} {Base : Name → Type} {ε : Type}
variable {context source before after element output : ValueType Name}

namespace Stage

variable {stage : Stage Base ε context before after}
variable {place position : Nat} {environment : context.Value Base}

@[simp] theorem pass_nil :
    stage.pass place environment [] position = ⟨.ok [], []⟩ := by
  cases stage <;> rfl

/-- A pass hands on what the stage makes of each element by itself. -/
theorem pass_cons
    (value : before.Value Base)
    (rest : List (before.Value Base)) :
    stage.pass place environment (value :: rest) position =
      match stage.apply value position environment with
      | .error reason => ⟨.error reason, [⟨place, position, before, value⟩]⟩
      | .ok handed? =>
          let later := stage.pass place environment rest (position + 1)
          { outcome := later.outcome.map fun values => handed?.toList ++ values
            calls := ⟨place, position, before, value⟩ :: later.calls } := by
  cases stage with
  | filter predicate =>
      simp only [pass, apply, Callback.test, List.zipIdx_cons, filterIndexed,
        calledOn]
      rcases predicate.call value position environment with _ | _ | _
      · rfl
      · cases filterIndexed _ (rest.zipIdx (position + 1)) <;> rfl
      · cases filterIndexed _ (rest.zipIdx (position + 1)) <;> rfl
  | map mapper =>
      simp only [pass, apply, List.zipIdx_cons, mapIndexed, calledOn]
      cases mapper.call value position environment with
      | error reason =>
          rfl
      | ok mapped =>
          cases mapIndexed _ (rest.zipIdx (position + 1)) <;> rfl
  | forEach effect =>
      simp only [pass, apply, List.zipIdx_cons, mapIndexed, calledOn]
      cases effect.call value position environment with
      | error reason =>
          rfl
      | ok _ =>
          cases mapIndexed _ (rest.zipIdx (position + 1)) <;> rfl

/-- A pass over a concatenation goes on where the pass over the first part ended. -/
theorem pass_append_of_ok
    {first : List (before.Value Base)}
    {handed : List (after.Value Base)}
    (passed : (stage.pass place environment first position).outcome = .ok handed)
    (later : List (before.Value Base)) :
    stage.pass place environment (first ++ later) position =
      { outcome :=
          (stage.pass place environment later
            (position + first.length)).outcome.map fun values => handed ++ values
        calls :=
          (stage.pass place environment first position).calls ++
            (stage.pass place environment later
              (position + first.length)).calls } := by
  induction first generalizing position handed with
  | nil =>
      simp only [pass_nil, Except.ok.injEq] at passed
      subst handed
      simp only [List.nil_append, List.length_nil, Nat.add_zero, pass_nil]
      generalize stage.pass place environment later position = rest
      rcases rest with ⟨outcome, calls⟩
      cases outcome <;> rfl
  | cons value rest inductionHypothesis =>
      simp only [List.cons_append, pass_cons] at passed ⊢
      cases applied : stage.apply value position environment with
      | error reason =>
          simp [applied] at passed
      | ok handed? =>
          simp only [applied] at passed ⊢
          cases restPassed :
              (stage.pass place environment rest (position + 1)).outcome with
          | error reason =>
              simp [restPassed, Except.map] at passed
          | ok restHanded =>
              simp only [restPassed, Except.map, Except.ok.injEq] at passed
              subst handed
              have shifted :
                  position + 1 + rest.length =
                    position + (value :: rest).length := by
                simp only [List.length_cons]
                omega
              rw [inductionHypothesis restPassed, shifted]
              cases (stage.pass place environment later
                  (position + (value :: rest).length)).outcome <;>
                simp [Except.map, List.append_assoc]

/-- A pass that aborts in the first part of a concatenation never sees the rest. -/
theorem pass_append_of_error
    {first : List (before.Value Base)}
    {reason : ε}
    (aborted :
      (stage.pass place environment first position).outcome = .error reason)
    (later : List (before.Value Base)) :
    stage.pass place environment (first ++ later) position =
      stage.pass place environment first position := by
  induction first generalizing position with
  | nil =>
      simp at aborted
  | cons value rest inductionHypothesis =>
      simp only [List.cons_append, pass_cons] at aborted ⊢
      cases applied : stage.apply value position environment with
      | error reason =>
          rfl
      | ok handed? =>
          simp only [applied] at aborted ⊢
          cases restPassed :
              (stage.pass place environment rest (position + 1)).outcome with
          | error restReason =>
              rw [inductionHypothesis
                (by simpa [restPassed, Except.map] using aborted), restPassed]
          | ok restHanded =>
              simp [restPassed, Except.map] at aborted

/-- A pass over a concatenation that succeeds extends one over the first part. -/
theorem exists_pass_of_append
    {first later : List (before.Value Base)}
    {handed : List (after.Value Base)}
    (passed :
      (stage.pass place environment (first ++ later) position).outcome =
        .ok handed) :
    ∃ begun rest,
      handed = begun ++ rest ∧
        (stage.pass place environment first position).outcome = .ok begun := by
  cases firstPassed : (stage.pass place environment first position).outcome with
  | error reason =>
      rw [pass_append_of_error firstPassed, firstPassed] at passed
      contradiction
  | ok begun =>
      rw [pass_append_of_ok firstPassed] at passed
      cases laterPassed :
          (stage.pass place environment later
            (position + first.length)).outcome with
      | error reason =>
          simp [laterPassed, Except.map] at passed
      | ok rest =>
          simp only [laterPassed, Except.map, Except.ok.injEq] at passed
          exact ⟨begun, rest, passed.symm, rfl⟩

end Stage

namespace Chain

/-- One more stage passes over what the earlier ones left. -/
theorem staged_link_of_ok
    {earlier : Chain Base ε context source before}
    {stage : Stage Base ε context before after}
    {environment : context.Value Base}
    {values : List (source.Value Base)}
    {between : List (before.Value Base)}
    (passed : (earlier.staged environment values).outcome = .ok between) :
    (earlier.link stage).staged environment values =
      { outcome := (stage.pass earlier.length environment between 0).outcome
        calls :=
          (earlier.staged environment values).calls ++
            (stage.pass earlier.length environment between 0).calls } := by
  simp only [staged, passed]

/-- A stage after an abort of the earlier ones is not reached. -/
theorem staged_link_of_error
    {earlier : Chain Base ε context source before}
    {stage : Stage Base ε context before after}
    {environment : context.Value Base}
    {values : List (source.Value Base)}
    {reason : ε}
    (aborted : (earlier.staged environment values).outcome = .error reason) :
    (earlier.link stage).staged environment values =
      { outcome := .error reason
        calls := (earlier.staged environment values).calls } := by
  simp only [staged, aborted]

/-- What leaves a chain for a longer input extends what leaves it for a shorter one. -/
theorem exists_staged_of_append
    {chain : Chain Base ε context source element}
    {environment : context.Value Base}
    {first later : List (source.Value Base)}
    {survivors : List (element.Value Base)}
    (passed :
      (chain.staged environment (first ++ later)).outcome = .ok survivors) :
    ∃ begun rest,
      survivors = begun ++ rest ∧
        (chain.staged environment first).outcome = .ok begun := by
  induction chain with
  | source =>
      simp only [staged, Except.ok.injEq] at passed
      exact ⟨first, later, passed.symm, rfl⟩
  | link earlier stage inductionHypothesis =>
      cases earlierPassed :
          (earlier.staged environment (first ++ later)).outcome with
      | error reason =>
          rw [staged_link_of_error earlierPassed] at passed
          contradiction
      | ok between =>
          obtain ⟨betweenBegun, betweenRest, rfl, betweenPassed⟩ :=
            inductionHypothesis earlierPassed
          rw [staged_link_of_ok earlierPassed] at passed
          rw [staged_link_of_ok betweenPassed]
          exact Stage.exists_pass_of_append passed

end Chain

end OnePass
