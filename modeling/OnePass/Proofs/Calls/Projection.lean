import OnePass.Proofs.Calls.Segment
import OnePass.Proofs.Fusion.Run

namespace OnePass

/-!
# The calls of one stage

A run and stage-by-stage evaluation make their calls in different orders: the one
goes from element to element, the other from stage to stage.  The calls of any one
stage nevertheless are the same and in the same order, on the elements that the run
takes.
-/

variable {Name : Type} {Base : Name → Type} {ε : Type}
variable {context source before after element output : ValueType Name}

/-- The calls of the stage at a place, in the order of the record. -/
def callsAt (place : Nat) (calls : List (Call Base)) : List (Call Base) :=
  calls.filter fun call => call.stage == place

@[simp] theorem callsAt_nil (place : Nat) :
    callsAt place ([] : List (Call Base)) = [] :=
  rfl

@[simp] theorem callsAt_append
    (place : Nat)
    (first later : List (Call Base)) :
    callsAt place (first ++ later) =
      callsAt place first ++ callsAt place later :=
  List.filter_append first later

/-- A stage that made none of the calls has no calls among them. -/
theorem callsAt_eq_nil
    {place : Nat}
    {calls : List (Call Base)}
    (absent : ∀ call ∈ calls, call.stage ≠ place) :
    callsAt place calls = [] := by
  rw [callsAt, List.filter_eq_nil_iff]
  intro call member
  simpa using absent call member

/-- Calls of different stages can change places without a stage noticing. -/
theorem callsAt_comm
    {border : Nat}
    {first later : List (Call Base)}
    (below : ∀ call ∈ first, call.stage < border)
    (at_border : ∀ call ∈ later, call.stage = border)
    (place : Nat) :
    callsAt place first ++ callsAt place later =
      callsAt place later ++ callsAt place first := by
  by_cases onBorder : place = border
  · have empty : callsAt place first = [] :=
      callsAt_eq_nil fun call member => by
        have := below call member
        omega
    simp [empty]
  · have empty : callsAt place later = [] :=
      callsAt_eq_nil fun call member => by
        have := at_border call member
        omega
    simp [empty]

/-- A pass makes calls of its own stage only. -/
theorem Stage.stage_of_mem_pass
    {stage : Stage Base ε context before after}
    {place : Nat}
    {environment : context.Value Base}
    {values : List (before.Value Base)}
    {position : Nat} :
    ∀ call ∈ (stage.pass place environment values position).calls,
      call.stage = place := by
  induction values generalizing position with
  | nil =>
      simp
  | cons value rest inductionHypothesis =>
      intro call member
      simp only [pass_cons] at member
      cases applied : stage.apply value position environment with
      | error reason =>
          simp only [applied, List.mem_singleton] at member
          rw [member]
      | ok handed? =>
          simp only [applied, List.mem_cons] at member
          rcases member with rfl | inRest
          · rfl
          · exact inductionHypothesis call inRest

namespace Chain

variable {chain : Chain Base ε context source element}
variable {environment : context.Value Base}
variable {taken : List (source.Value Base)}
variable {counters : chain.Counters} {survivors : List (element.Value Base)}

/-- Feeding an element makes calls of the chain's own stages only. -/
theorem stage_lt_of_mem_feedWith
    {advance : Nat → Nat}
    {value : source.Value Base}
    {raw : Nat} :
    ∀ call ∈ (chain.feedWith advance value raw environment counters).calls,
      call.stage < chain.length := by
  intro call member
  by_cases kept :
      ∀ survivor,
        (chain.feedWith advance value raw environment counters).outcome ≠
          .ok (some survivor)
  · obtain ⟨calls, last, shape, answers, ending⟩ := calls_of_kept kept
    rw [shape] at member
    rcases List.mem_append.mp member with inCalls | isLast
    · exact (answers call inCalls).stage_lt
    · rw [List.mem_singleton.mp isLast]
      exact ending.stage_lt
  · simp only [not_forall, not_not] at kept
    obtain ⟨survivor, left⟩ := kept
    exact ((calls_of_handed left).2 call member).stage_lt

/--
Evaluating one more element stage by stage adds to the calls of every stage those
that feeding the element makes.
-/
theorem Reached.callsAt_snoc
    (reached : chain.Reached environment taken counters survivors)
    {value : source.Value Base}
    {handed? : Option (element.Value Base × Nat)}
    (fed :
      (chain.feedWith Nat.succ value taken.length environment counters).outcome =
        .ok handed?)
    (place : Nat) :
    callsAt place (chain.staged environment (taken ++ [value])).calls =
      callsAt place (chain.staged environment taken).calls ++
        callsAt place
          (chain.feedWith Nat.succ value taken.length environment
            counters).calls := by
  induction chain with
  | source =>
      rfl
  | link earlier stage inductionHypothesis =>
      obtain ⟨between, earlierReached, passed, counted⟩ := reached
      -- The earlier stages' calls on the new element come before the last
      -- stage's calls on the old ones in one order and after them in the other.
      have swap :
          callsAt place
              (earlier.feedWith Nat.succ value taken.length environment
                counters.1).calls ++
              callsAt place
                (stage.pass earlier.length environment between 0).calls =
            callsAt place
                (stage.pass earlier.length environment between 0).calls ++
              callsAt place
                (earlier.feedWith Nat.succ value taken.length environment
                  counters.1).calls :=
        callsAt_comm stage_lt_of_mem_feedWith Stage.stage_of_mem_pass place
      have linked :=
        feedWith_link Nat.succ earlier stage value taken.length environment
          counters
      rw [staged_link_of_ok earlierReached.staged_outcome]
      generalize (earlier.link stage).feedWith Nat.succ value taken.length
        environment counters = result at fed linked ⊢
      cases linked with
      | earlierAborts | aborts =>
          simp at fed
      | earlierDrops earlierFed =>
          have nextReached := earlierReached.dropped earlierFed
          rw [staged_link_of_ok nextReached.staged_outcome]
          simp [inductionHypothesis earlierReached earlierFed, swap]
      | drops earlierFed applied | handsOn earlierFed applied =>
          obtain ⟨rfl, nextReached⟩ := earlierReached.handed earlierFed
          rw [staged_link_of_ok nextReached.staged_outcome,
            Stage.pass_snoc passed]
          simp only [callsAt_append,
            inductionHypothesis earlierReached earlierFed]
          rw [List.append_assoc, ← List.append_assoc _ _ (callsAt place [_]),
            swap]
          simp only [List.append_assoc]

end Chain

variable {chain : Chain Base ε context source element}
variable {terminal : Terminal Base ε context element output}
variable {environment : context.Value Base}

namespace Standing

variable {capacity : Nat} {taken : List (source.Value Base)}
variable {counters : chain.Counters} {state : terminal.State}
variable {survivors : List (element.Value Base)}

/-- The calls that stage-by-stage evaluation makes on the elements taken. -/
theorem staged_calls
    (standing :
      Standing chain terminal environment capacity
        taken counters state survivors) :
    (staged chain terminal taken environment).calls =
      (chain.staged environment taken).calls ++
        if terminal.hasCallback then callsOn chain.length survivors.zipIdx
        else [] := by
  have attended :=
    Terminal.attended_append_of_proceed standing.absorbed []
  rw [staged_of_ok standing.reached.staged_outcome,
    terminal.staged_calls chain.length capacity,
    ← List.append_nil survivors.zipIdx, attended]
  simp [Terminal.attended]

/--
The calls that stage-by-stage evaluation makes if one more element reaches the
terminal, whatever the terminal makes of it.
-/
theorem staged_calls_snoc
    (standing :
      Standing chain terminal environment capacity
        taken counters state survivors)
    {value : source.Value Base}
    {survivor : element.Value Base}
    {index : Nat}
    (left :
      (chain.feedWith Nat.succ value taken.length environment
        counters).outcome = .ok (some (survivor, index))) :
    (staged chain terminal (taken ++ [value]) environment).calls =
      (chain.staged environment (taken ++ [value])).calls ++
        ((if terminal.hasCallback then callsOn chain.length survivors.zipIdx
          else []) ++
          terminal.calls chain.length survivor index) := by
  obtain ⟨rfl, reached⟩ := standing.reached.handed left
  have attended :=
    Terminal.attended_append_of_proceed standing.absorbed
      [(survivor, survivors.length)]
  have last :
      terminal.attended environment state [(survivor, survivors.length)] =
        [(survivor, survivors.length)] := by
    simp only [Terminal.attended]
    rcases terminal.accept state survivor survivors.length environment with
      reason | (next | result) <;>
      rfl
  rw [staged_of_ok reached.staged_outcome,
    terminal.staged_calls chain.length capacity, List.zipIdx_append]
  simp only [Nat.zero_add, List.zipIdx_cons, List.zipIdx_nil]
  rw [attended, last]
  unfold Terminal.calls
  split <;> simp [callsOn]

/-- The chain's calls on a new element pass over the terminal's earlier calls. -/
theorem swap_calls
    (value : source.Value Base)
    (place : Nat) :
    callsAt place
          (chain.feedWith Nat.succ value taken.length environment
            counters).calls ++
        callsAt place
          (if terminal.hasCallback then callsOn chain.length survivors.zipIdx
          else []) =
      callsAt place
          (if terminal.hasCallback then callsOn chain.length survivors.zipIdx
          else []) ++
        callsAt place
          (chain.feedWith Nat.succ value taken.length environment
            counters).calls := by
  apply callsAt_comm Chain.stage_lt_of_mem_feedWith
  intro call member
  split at member
  · obtain ⟨pair, _, rfl⟩ := List.mem_map.mp member
    rfl
  · simp at member

/-- An element that the chain drops adds the chain's calls on it. -/
theorem callsAt_dropped
    (standing :
      Standing chain terminal environment capacity
        taken counters state survivors)
    {value : source.Value Base}
    (left :
      (chain.feedWith Nat.succ value taken.length environment
        counters).outcome = .ok none)
    (place : Nat) :
    callsAt place
        (staged chain terminal (taken ++ [value]) environment).calls =
      callsAt place (staged chain terminal taken environment).calls ++
        callsAt place
          (chain.feedWith Nat.succ value taken.length environment
            counters).calls := by
  rw [(standing.dropped left).staged_calls, standing.staged_calls]
  simp only [callsAt_append, standing.reached.callsAt_snoc left,
    List.append_assoc]
  rw [swap_calls]

/-- An element that reaches the terminal adds the chain's and the terminal's calls. -/
theorem callsAt_handed
    (standing :
      Standing chain terminal environment capacity
        taken counters state survivors)
    {value : source.Value Base}
    {survivor : element.Value Base}
    {index : Nat}
    (left :
      (chain.feedWith Nat.succ value taken.length environment
        counters).outcome = .ok (some (survivor, index)))
    (place : Nat) :
    callsAt place
        (staged chain terminal (taken ++ [value]) environment).calls =
      callsAt place (staged chain terminal taken environment).calls ++
        callsAt place
          ((chain.feedWith Nat.succ value taken.length environment
              counters).calls ++
            terminal.calls chain.length survivor index) := by
  rw [standing.staged_calls_snoc left, standing.staged_calls]
  simp only [callsAt_append, standing.reached.callsAt_snoc left]
  rw [List.append_assoc, ← List.append_assoc _ _ (callsAt place _),
    swap_calls]
  simp only [List.append_assoc]

end Standing

/--
A run that does not abort calls every stage as stage-by-stage evaluation of the
elements taken does.
-/
theorem loopWith_callsAt
    {capacity : Nat}
    {taken : List (source.Value Base)}
    {counters : chain.Counters}
    {state : terminal.State}
    {survivors : List (element.Value Base)}
    (standing :
      Standing chain terminal environment capacity
        taken counters state survivors)
    {rest : List (source.Value Base)}
    (smooth :
      ∀ reason,
        (loopWith Nat.succ chain terminal environment
          rest taken.length counters state).status ≠ .aborted reason)
    (place : Nat) :
    callsAt place
        (staged chain terminal
          (taken ++
            rest.take
              (loopWith Nat.succ chain terminal environment
                rest taken.length counters state).consumed)
          environment).calls =
      callsAt place (staged chain terminal taken environment).calls ++
        callsAt place
          (loopWith Nat.succ chain terminal environment
            rest taken.length counters state).calls := by
  induction rest generalizing taken counters state survivors with
  | nil =>
      simp [loopWith]
  | cons value rest inductionHypothesis =>
      have step :=
        loopWith_cons Nat.succ chain terminal environment value rest
          taken.length counters state
      have moved (count : Nat) :
          taken ++ (value :: rest).take (count + 1) =
            (taken ++ [value]) ++ rest.take count := by
        simp
      have length_taken : taken.length.succ = (taken ++ [value]).length := by
        simp
      generalize loopWith Nat.succ chain terminal environment
        (value :: rest) taken.length counters state = progress at smooth step ⊢
      cases step with
      | chainAborts | terminalAborts =>
          exact absurd rfl (smooth _)
      | chainDrops left =>
          simp only [Progress.after, moved, length_taken] at smooth ⊢
          rw [inductionHypothesis (standing.dropped left) smooth,
            standing.callsAt_dropped left, callsAt_append, List.append_assoc]
      | terminalStops left accepted =>
          simp only [moved, List.take_zero, List.append_nil]
          exact standing.callsAt_handed left place
      | terminalProceeds left accepted =>
          simp only [Progress.after, moved, length_taken] at smooth ⊢
          rw [inductionHypothesis (standing.proceeded left accepted) smooth,
            standing.callsAt_handed left, callsAt_append _ (_ ++ _),
            List.append_assoc]

end OnePass
