import OnePass.Proofs.Calls.Record
import OnePass.Proofs.Stopping.Append

namespace OnePass

/-!
# Where a run stops

A search ends at the first element that passes all filters and settles the result.
Which element that is can be told without running: an element passes the filters if
stage-by-stage evaluation of the input up to it leaves one more element than before,
and the number of those before is the index under which it is seen.
-/

variable {Name : Type} {Base : Name → Type} {ε : Type}
variable {context source element output : ValueType Name}

/-- The element at a position leaves the chain as this survivor, seen under this index. -/
def Chain.Survives
    (chain : Chain Base ε context source element)
    (environment : context.Value Base)
    (elements : List (source.Value Base))
    (position : Nat)
    (survivor : element.Value Base)
    (index : Nat) :
    Prop :=
  position < elements.length ∧
    ∃ earlier,
      (chain.staged environment (elements.take position)).outcome =
          .ok earlier ∧
        (chain.staged environment (elements.take (position + 1))).outcome =
          .ok (earlier ++ [survivor]) ∧
        index = earlier.length

/-- An element settles the result: a search has found it, or a check has failed on it. -/
def Terminal.Decides
    (environment : context.Value Base) :
    (terminal : Terminal Base ε context element output) →
      (value : element.Value Base) →
      (index : Nat) →
      Prop
  | .find predicate, value, index =>
      predicate.call value index environment = .ok true
  | .findIndex predicate, value, index =>
      predicate.call value index environment = .ok true
  | .some predicate, value, index =>
      predicate.call value index environment = .ok true
  | .every predicate, value, index =>
      predicate.call value index environment = .ok false
  | .collect, _, _ => False
  | .reduce _ _, _, _ => False
  | .join _ _, _, _ => False

/-- The element at a position passes all filters and settles the result. -/
def DecidedAt
    (chain : Chain Base ε context source element)
    (terminal : Terminal Base ε context element output)
    (environment : context.Value Base)
    (elements : List (source.Value Base))
    (position : Nat) :
    Prop :=
  ∃ survivor index,
    chain.Survives environment elements position survivor index ∧
      terminal.Decides environment survivor index

/-! ## Elements one by one -/

variable {chain : Chain Base ε context source element}
variable {terminal : Terminal Base ε context element output}
variable {environment : context.Value Base}

/-- A terminal stops exactly on the elements that settle the result. -/
theorem Terminal.accept_stops_iff
    (state : terminal.State)
    (value : element.Value Base)
    (index : Nat) :
    (∃ result,
      terminal.accept state value index environment = .ok (.stop result)) ↔
        terminal.Decides environment value index := by
  cases terminal with
  | collect | join =>
      simp [accept, Decides]
  | reduce reducer seed =>
      simp only [accept, Decides, iff_false, not_exists]
      intro result
      cases reducer.call (state, value) index environment <;> simp
  | find predicate | findIndex predicate | some predicate | every predicate =>
      simp only [accept, Decides]
      rcases predicate.call value index environment with reason | (_ | _) <;>
        simp

/-- Collecting, folding and joining leave nothing to settle before the end. -/
theorem not_decidedAt
    (unhurried :
      terminal.kind? ∈ [none, Option.some .reduce, Option.some .join])
    (elements : List (source.Value Base))
    (position : Nat) :
    ¬DecidedAt chain terminal environment elements position := by
  rintro ⟨survivor, index, _, decides⟩
  cases terminal with
  | collect | reduce | join =>
      exact decides
  | find | findIndex | some | every =>
      simp [Terminal.kind?] at unhurried

namespace Chain.Reached

variable {taken : List (source.Value Base)}
variable {counters : chain.Counters} {survivors : List (element.Value Base)}
variable {value : source.Value Base}

/-- The next element survives if evaluation with it leaves one element more. -/
theorem survives_iff
    (reached : chain.Reached environment taken counters survivors)
    (rest : List (source.Value Base))
    (survivor : element.Value Base)
    (index : Nat) :
    chain.Survives environment (taken ++ value :: rest)
        taken.length survivor index ↔
      (chain.staged environment (taken ++ [value])).outcome =
          .ok (survivors ++ [survivor]) ∧
        index = survivors.length := by
  have upToNext :
      (taken ++ value :: rest).take (taken.length + 1) = taken ++ [value] := by
    rw [List.take_length_add_append]
    rfl
  simp only [Survives, List.take_left, upToNext, reached.staged_outcome]
  constructor
  · rintro ⟨_, earlier, same, after, numbered⟩
    cases same
    exact ⟨after, numbered⟩
  · rintro ⟨after, numbered⟩
    exact ⟨by simp, survivors, rfl, after, numbered⟩

/-- An element that the chain drops does not settle the result. -/
theorem not_decidedAt_of_dropped
    (reached : chain.Reached environment taken counters survivors)
    (left :
      (chain.feedWith Nat.succ value taken.length environment
        counters).outcome = .ok none)
    (rest : List (source.Value Base)) :
    ¬DecidedAt chain terminal environment
      (taken ++ value :: rest) taken.length := by
  rintro ⟨survivor, index, survives, _⟩
  obtain ⟨after, _⟩ := (reached.survives_iff rest survivor index).mp survives
  rw [(reached.dropped left).staged_outcome] at after
  simp at after

/-- An element that leaves the chain settles the result if the terminal says so. -/
theorem decidedAt_iff_of_handed
    (reached : chain.Reached environment taken counters survivors)
    {survivor : element.Value Base}
    {index : Nat}
    (left :
      (chain.feedWith Nat.succ value taken.length environment
        counters).outcome = .ok (some (survivor, index)))
    (rest : List (source.Value Base)) :
    DecidedAt chain terminal environment
        (taken ++ value :: rest) taken.length ↔
      terminal.Decides environment survivor index := by
  obtain ⟨numbered, nextReached⟩ := reached.handed left
  have after := nextReached.staged_outcome
  constructor
  · rintro ⟨other, otherIndex, survives, decides⟩
    obtain ⟨otherAfter, otherNumbered⟩ :=
      (reached.survives_iff rest other otherIndex).mp survives
    rw [after] at otherAfter
    have same : survivor = other := by
      simpa using otherAfter
    rwa [same, numbered, ← otherNumbered]
  · intro decides
    exact ⟨survivor, index,
      (reached.survives_iff rest survivor index).mpr ⟨after, numbered⟩, decides⟩

end Chain.Reached

/-! ## Up to the first decided position -/

/--
Of so many positions from a start on, those up to the first decided one are taken,
or all of them if none is decided.
-/
def StopsFrom
    (decided : Nat → Prop)
    (start available consumed : Nat) :
    Prop :=
  (∃ position,
      decided position ∧
        (∀ between, start ≤ between → between < position → ¬decided between) ∧
        start + consumed = position + 1) ∨
    ((∀ position, start ≤ position → ¬decided position) ∧
      consumed = available)

namespace StopsFrom

variable {decided : Nat → Prop} {start available consumed : Nat}

/-- One more position that is not decided is one more to take in front. -/
theorem after
    (stops : StopsFrom decided (start + 1) available consumed)
    (undecided : ¬decided start) :
    StopsFrom decided start (available + 1) (consumed + 1) := by
  rcases stops with ⟨position, decides, before, ends⟩ | ⟨never, all⟩
  · refine Or.inl ⟨position, decides, ?_, by omega⟩
    intro between start_le less
    rcases Nat.eq_or_lt_of_le start_le with rfl | start_lt
    · exact undecided
    · exact before between start_lt less
  · refine Or.inr ⟨?_, by omega⟩
    intro position start_le
    rcases Nat.eq_or_lt_of_le start_le with rfl | start_lt
    · exact undecided
    · exact never position start_lt

/-- Everything up to the first decided position is taken. -/
theorem consumed_of_first
    (stops : StopsFrom decided 0 available consumed)
    {position : Nat}
    (decides : decided position)
    (first : ∀ earlier < position, ¬decided earlier) :
    consumed = position + 1 := by
  rcases stops with ⟨other, otherDecides, otherFirst, ends⟩ | ⟨never, _⟩
  · have le : other ≤ position := by
      by_contra less
      exact otherFirst position (Nat.zero_le _) (by omega) decides
    have ge : position ≤ other := by
      by_contra less
      exact first other (by omega) otherDecides
    omega
  · exact absurd decides (never position (Nat.zero_le _))

/-- Everything is taken if no position is decided. -/
theorem consumed_of_none
    (stops : StopsFrom decided 0 available consumed)
    (never : ∀ position, ¬decided position) :
    consumed = available := by
  rcases stops with ⟨position, decides, _⟩ | ⟨_, all⟩
  · exact absurd decides (never position)
  · exact all

end StopsFrom

/-! ## Runs -/

/--
Wherever a run stands that is not going to abort, it goes on up to the next element
that settles the result, or takes all that is left if there is none.
-/
theorem loopWith_stopsFrom
    {capacity : Nat}
    {taken : List (source.Value Base)}
    {counters : chain.Counters}
    {state : terminal.State}
    {survivors : List (element.Value Base)}
    (standing :
      Standing chain terminal environment capacity
        taken counters state survivors)
    (rest : List (source.Value Base))
    (returns :
      ∀ reason,
        (loopWith Nat.succ chain terminal environment
          rest taken.length counters state).status ≠ .aborted reason) :
    StopsFrom (DecidedAt chain terminal environment (taken ++ rest))
      taken.length rest.length
      (loopWith Nat.succ chain terminal environment
        rest taken.length counters state).consumed := by
  induction rest generalizing taken counters state survivors with
  | nil =>
      refine Or.inr ⟨?_, rfl⟩
      rintro position taken_le ⟨_, _, ⟨inside, _⟩, _⟩
      simp only [List.append_nil] at inside
      omega
  | cons value rest inductionHypothesis =>
      have step :=
        loopWith_cons Nat.succ chain terminal environment value rest
          taken.length counters state
      -- An element that lets the run go on moves from the rest to those taken.
      have moved : taken ++ value :: rest = (taken ++ [value]) ++ rest := by
        simp
      have length_taken : taken.length.succ = (taken ++ [value]).length := by
        simp
      generalize loopWith Nat.succ chain terminal environment
        (value :: rest) taken.length counters state = progress at step returns ⊢
      cases step with
      | chainAborts | terminalAborts =>
          exact absurd rfl (returns _)
      | chainDrops left =>
          have undecided :
              ¬DecidedAt chain terminal environment
                (taken ++ value :: rest) taken.length :=
            standing.reached.not_decidedAt_of_dropped left rest
          refine StopsFrom.after ?_ undecided
          rw [moved, ← Nat.succ_eq_add_one, length_taken]
          rw [length_taken] at returns
          exact inductionHypothesis (standing.dropped left) returns
      | terminalStops left accepted =>
          have decided :
              DecidedAt chain terminal environment
                (taken ++ value :: rest) taken.length := by
            rw [standing.reached.decidedAt_iff_of_handed left rest,
              ← Terminal.accept_stops_iff state]
            exact ⟨_, accepted⟩
          refine Or.inl ⟨taken.length, decided, ?_, rfl⟩
          intro between taken_le less
          omega
      | terminalProceeds left accepted =>
          have undecided :
              ¬DecidedAt chain terminal environment
                (taken ++ value :: rest) taken.length := by
            rw [standing.reached.decidedAt_iff_of_handed left rest,
              ← Terminal.accept_stops_iff state]
            simp [accepted]
          refine StopsFrom.after ?_ undecided
          rw [moved, ← Nat.succ_eq_add_one, length_taken]
          rw [length_taken] at returns
          exact inductionHypothesis (standing.proceeded left accepted) returns

namespace Fused

/-- A run that returns ends at the first element that settles the result. -/
theorem run_stopsFrom
    {procedure : Fused Base ε context source element output}
    {elements : List (source.Value Base)}
    {result : output.Value Base}
    (returned : (procedure.run elements environment).outcome = .ok result) :
    StopsFrom
      (DecidedAt procedure.chain procedure.terminal environment elements)
      0 elements.length (procedure.run elements environment).consumed :=
  loopWith_stopsFrom
    (standing_start procedure.chain procedure.terminal environment
      (procedure.plan.shape.capacity elements.length))
    elements (ending_ne_aborted returned)

/--
Where a run stops, and what more input does to it.  A run that has stopped or
aborted is the same over every longer input; one that has not goes on over the rest
from the counters and the state reached, numbering on from the length of the input
so far.  A run that returns takes the elements up to the first that passes all
filters and settles the result, or all if there is none; collecting, folding and
joining always take all.
-/
theorem run_stops_exactly
    (procedure : Fused Base ε context source element output)
    (elements : List (source.Value Base))
    (environment : context.Value Base) :
    (∀ later,
      procedure.run (elements ++ later) environment =
        match procedure.ending elements environment with
        | .running counters state =>
            let continued :=
              loopWith Nat.succ procedure.chain procedure.terminal environment
                later elements.length counters state
            { outcome := procedure.terminal.conclude continued.status
              calls :=
                (procedure.run elements environment).calls ++ continued.calls
              consumed := elements.length + continued.consumed }
        | .stopped _ => procedure.run elements environment
        | .aborted _ => procedure.run elements environment) ∧
    (∀ result,
      (procedure.run elements environment).outcome = .ok result →
      let decided :=
        DecidedAt procedure.chain procedure.terminal environment elements
      (∀ position,
        decided position →
        (∀ earlier < position, ¬decided earlier) →
        (procedure.run elements environment).consumed = position + 1) ∧
      ((∀ position, ¬decided position) →
        (procedure.run elements environment).consumed = elements.length) ∧
      (procedure.terminal.kind? ∈ [none, some .reduce, some .join] →
        (procedure.run elements environment).consumed = elements.length)) := by
  refine ⟨fun later => procedure.run_append elements later environment, ?_⟩
  intro result returned decided
  have stops := run_stopsFrom returned
  refine ⟨fun position decides first => ?_, fun never => ?_, fun unhurried => ?_⟩
  · exact stops.consumed_of_first decides first
  · exact stops.consumed_of_none never
  · exact stops.consumed_of_none (not_decidedAt unhurried elements)

/-- Looks for a doubled odd number of at least six, and aborts on seven. -/
def searchedOdds :
    Fused (fun _ : Empty => Unit) String .unit .position .position
      (.optional .position) where
  identity := 0
  chain := doubledOdds.chain
  terminal := .find (.plain fun value _ => .ok (6 ≤ value))
  plan :=
    .ofQueue (.ofList [.plain .filter, .plain .map, .plain .find])

/-- The search ends at the three, which it sees second, and does not reach the seven. -/
theorem run_searchedOdds :
    searchedOdds.run ([1, 2, 3] ++ [7]) () = searchedOdds.run [1, 2, 3] () ∧
      DecidedAt searchedOdds.chain searchedOdds.terminal () [1, 2, 3, 7] 2 ∧
      (searchedOdds.run [1, 2, 3, 7] ()).consumed = 3 := by
  have decided :
      DecidedAt searchedOdds.chain searchedOdds.terminal () [1, 2, 3, 7] 2 :=
    ⟨6, 1, ⟨by decide, [2], rfl, rfl, rfl⟩, rfl⟩
  obtain ⟨appended, _⟩ := run_stops_exactly searchedOdds [1, 2, 3] ()
  obtain ⟨_, stopped⟩ := run_stops_exactly searchedOdds [1, 2, 3, 7] ()
  refine ⟨appended [7], decided, (stopped (some 6) rfl).1 2 decided ?_⟩
  rintro earlier less ⟨survivor, index, ⟨_, before, left, after, _⟩, decides⟩
  obtain rfl | rfl : earlier = 0 ∨ earlier = 1 := by omega
  · cases left
    cases after
    cases decides
  · cases left
    cases after

end Fused

end OnePass
