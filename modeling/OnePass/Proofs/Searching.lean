import OnePass.Proofs.Calls.Record
import OnePass.Proofs.Declaring

namespace OnePass

/-!
# Searches for the same thing

Finding an element, finding its index, asking whether there is one, and asking
whether all others fail are four ways to search.  For one predicate they call the
same callbacks on the same elements and end at the same element; they differ only in
what they answer.
-/

variable {Name : Type} {Base : Name → Type} {ε : Type}
variable {context source element output otherOutput : ValueType Name}

/-! ## Runs in lockstep -/

/-- Whether a step stops the run. -/
def Step.stops {σ β : Type} : Step σ β → Bool
  | .proceed _ => false
  | .stop _ => true

section Lockstep

variable {environment : context.Value Base}
variable {terminal : Terminal Base ε context element output}
variable {other : Terminal Base ε context element otherOutput}

/-- A search stops exactly where its test passes. -/
theorem Terminal.SearchesBy.stops_eq
    {test : element.Value Base → Nat → Except ε Bool}
    {answer : element.Value Base → Nat → output.Value Base}
    (searches : terminal.SearchesBy environment test answer)
    (state : terminal.State)
    (value : element.Value Base)
    (index : Nat) :
    (terminal.accept state value index environment).map Step.stops =
      test value index := by
  rw [searches]
  rcases test value index with reason | (_ | _) <;> rfl

/--
Two terminals that stop on the same elements and abort on the same elements are run
alike, whatever they keep between elements.
-/
theorem loopWith_lockstep
    (callback : other.hasCallback = terminal.hasCallback)
    (stops :
      ∀ state otherState value index,
        (other.accept otherState value index environment).map Step.stops =
          (terminal.accept state value index environment).map Step.stops)
    (chain : Chain Base ε context source element)
    (elements : List (source.Value Base))
    (raw : Nat)
    (counters : chain.Counters)
    (state : terminal.State)
    (otherState : other.State) :
    let progress :=
      loopWith Nat.succ chain terminal environment elements raw counters state
    let otherProgress :=
      loopWith Nat.succ chain other environment elements raw counters otherState
    otherProgress.calls = progress.calls ∧
      otherProgress.consumed = progress.consumed := by
  have sameCalls (place : Nat) (value : element.Value Base) (index : Nat) :
      other.calls place value index = terminal.calls place value index := by
    rw [Terminal.calls, Terminal.calls, callback]
  induction elements generalizing raw counters state otherState with
  | nil =>
      exact ⟨rfl, rfl⟩
  | cons value rest inductionHypothesis =>
      simp only [loopWith, sameCalls]
      generalize chain.feedWith Nat.succ value raw environment counters = fed
      rcases fed.outcome with reason | (_ | ⟨survivor, index⟩)
      · exact ⟨rfl, rfl⟩
      · obtain ⟨calls, consumed⟩ :=
          inductionHypothesis raw.succ fed.counters state otherState
        simp only [Progress.after, calls, consumed, and_self]
      · have steps := stops state otherState survivor index
        -- The two steps are of one kind, since they stop or abort together.
        rcases accepted :
            terminal.accept state survivor index environment with
          reason | (next | result) <;>
          rcases otherAccepted :
            other.accept otherState survivor index environment with
            otherReason | (otherNext | otherResult) <;>
          simp only [accepted, otherAccepted, Except.map, Step.stops,
            Except.ok.injEq, Bool.false_eq_true, Bool.true_eq_false,
            reduceCtorEq] at steps
        · simp only [accepted, otherAccepted, and_self]
        · obtain ⟨calls, consumed⟩ :=
            inductionHypothesis raw.succ fed.counters next otherNext
          simp only [accepted, otherAccepted, Progress.after, calls, consumed,
            and_self]
        · simp only [accepted, otherAccepted, and_self]

end Lockstep

/-! ## The last call -/

section Last

variable {chain : Chain Base ε context source element}
variable {terminal : Terminal Base ε context element output}
variable {environment : context.Value Base}

/-- Only a terminal with a callback stops. -/
theorem Terminal.hasCallback_of_stop
    {state : terminal.State}
    {value : element.Value Base}
    {index : Nat}
    {result : output.Value Base}
    (accepted :
      terminal.accept state value index environment = .ok (.stop result)) :
    terminal.hasCallback = true := by
  cases terminal with
  | collect | join =>
      simp [accept] at accepted
  | reduce | find | findIndex | some | every =>
      rfl

/-- The last call of a run that stops is the terminal's, on the element it stops at. -/
theorem last_of_stopped
    {elements : List (source.Value Base)}
    {raw : Nat}
    {counters : chain.Counters}
    {state : terminal.State}
    {result : output.Value Base}
    (stopped :
      (loopWith Nat.succ chain terminal environment
        elements raw counters state).status = .stopped result) :
    ∃ stopping survivor index,
      (loopWith Nat.succ chain terminal environment
          elements raw counters state).calls.getLast? =
        some ⟨chain.length, index, element, survivor⟩ ∧
      terminal.accept stopping survivor index environment =
        .ok (.stop result) := by
  induction elements generalizing raw counters state with
  | nil =>
      simp [loopWith] at stopped
  | cons value rest inductionHypothesis =>
      have step :=
        loopWith_cons Nat.succ chain terminal environment value rest raw
          counters state
      generalize loopWith Nat.succ chain terminal environment
        (value :: rest) raw counters state = progress at stopped step ⊢
      cases step with
      | chainAborts | terminalAborts =>
          simp at stopped
      | chainDrops | terminalProceeds =>
          obtain ⟨stopping, survivor, index, last, accepted⟩ :=
            inductionHypothesis stopped
          exact ⟨stopping, survivor, index, by simp [Progress.after, last],
            accepted⟩
      | terminalStops left accepted =>
          simp only [Status.stopped.injEq] at stopped
          subst result
          exact ⟨state, _, _,
            by simp [Terminal.calls, Terminal.hasCallback_of_stop accepted],
            accepted⟩

/-- However a run ends, the terminal's calls in its record are those on its survivors. -/
theorem loopWith_records
    {capacity : Nat}
    {taken : List (source.Value Base)}
    {counters : chain.Counters}
    {state : terminal.State}
    {survivors : List (element.Value Base)}
    {earlier : List (Call Base)}
    (standing :
      Standing chain terminal environment capacity
        taken counters state survivors)
    (records : Records chain terminal survivors earlier)
    (rest : List (source.Value Base)) :
    ∃ reached,
      Records chain terminal reached
        (earlier ++
          (loopWith Nat.succ chain terminal environment
            rest taken.length counters state).calls) := by
  induction rest generalizing taken counters state survivors earlier with
  | nil =>
      exact ⟨survivors, by simpa [loopWith] using records⟩
  | cons value rest inductionHypothesis =>
      have step :=
        loopWith_cons Nat.succ chain terminal environment value rest
          taken.length counters state
      have length_taken : taken.length.succ = (taken ++ [value]).length := by
        simp
      have recordsFed :
          Records chain terminal survivors
            (earlier ++
              (chain.feedWith Nat.succ value taken.length environment
                counters).calls) :=
        records.append_fed
      generalize loopWith Nat.succ chain terminal environment
        (value :: rest) taken.length counters state = progress at step ⊢
      cases step with
      | chainAborts left =>
          exact ⟨survivors, recordsFed⟩
      | chainDrops left =>
          simp only [Progress.after, length_taken, ← List.append_assoc]
          exact inductionHypothesis (standing.dropped left) recordsFed
      | terminalAborts left accepted | terminalStops left accepted =>
          obtain ⟨rfl, _⟩ := standing.reached.handed left
          rw [← List.append_assoc]
          exact ⟨_, recordsFed.append_calls _⟩
      | terminalProceeds left accepted =>
          have next := standing.proceeded left accepted
          obtain ⟨rfl, _⟩ := standing.reached.handed left
          simp only [Progress.after, length_taken, ← List.append_assoc]
          exact inductionHypothesis next (recordsFed.append_calls _)

/-- The last of some calls on a list with positions has the number of the others. -/
theorem index_of_callsOn
    {place index : Nat}
    {before : List (Call Base)}
    {value : element.Value Base}
    {values : List (element.Value Base)}
    (same :
      before ++ [⟨place, index, element, value⟩] =
        callsOn place values.zipIdx) :
    index = before.length := by
  have last : (callsOn place values.zipIdx)[before.length]? =
      some ⟨place, index, element, value⟩ := by
    rw [← same, List.getElem?_concat_length]
  simp only [callsOn, List.getElem?_map, List.getElem?_zipIdx, Nat.zero_add,
    Option.map_eq_some_iff] at last
  obtain ⟨_, ⟨_, _, rfl⟩, sameCall⟩ := last
  cases sameCall
  rfl

/-- A last call of the terminal has the number of its earlier calls as its index. -/
theorem index_of_last
    {capacity : Nat}
    {elements : List (source.Value Base)}
    {value : element.Value Base}
    {index : Nat}
    (callback : terminal.hasCallback = true)
    (last :
      (runWith Nat.succ chain terminal capacity elements
          environment).calls.getLast? =
        some ⟨chain.length, index, element, value⟩) :
    index =
      (callsAt chain.length
        (runWith Nat.succ chain terminal capacity elements
          environment).calls.dropLast).length := by
  obtain ⟨reached, records⟩ :=
    loopWith_records
      (standing_start chain terminal environment capacity)
      (records_nil chain terminal) elements
  change Records chain terminal reached
    (runWith Nat.succ chain terminal capacity elements environment).calls
    at records
  obtain ⟨before, ends⟩ := List.getLast?_eq_some_iff.mp last
  rw [ends, Records, if_pos callback, callsAt_append] at records
  rw [ends, List.dropLast_concat]
  exact index_of_callsOn (by simpa [callsAt] using records)

/--
A search that answers with what it does not answer for want of a match has ended in
its call on the element that it answers for.
-/
theorem Terminal.SearchesBy.last_of_found
    {test : element.Value Base → Nat → Except ε Bool}
    {answer : element.Value Base → Nat → output.Value Base}
    (searches : terminal.SearchesBy environment test answer)
    {capacity : Nat}
    {elements : List (source.Value Base)}
    {result : output.Value Base}
    (found : ∀ state, terminal.finish state ≠ result)
    (returned :
      (runWith Nat.succ chain terminal capacity elements environment).outcome =
        .ok result) :
    ∃ survivor index,
      (runWith Nat.succ chain terminal capacity elements
          environment).calls.getLast? =
        Option.some ⟨chain.length, index, element, survivor⟩ ∧
      result = answer survivor index := by
  have stopped :
      (loopWith Nat.succ chain terminal environment elements 0 chain.fresh
        (terminal.start capacity)).status = .stopped result := by
    simp only [runWith] at returned
    generalize (loopWith Nat.succ chain terminal environment elements 0
      chain.fresh (terminal.start capacity)).status = status at returned ⊢
    cases status with
    | running counters state =>
        exact absurd (Except.ok.inj returned) (found state)
    | stopped early =>
        rw [Except.ok.inj returned]
    | aborted reason =>
        contradiction
  obtain ⟨stopping, survivor, index, last, accepted⟩ := last_of_stopped stopped
  refine ⟨survivor, index, last, ?_⟩
  rw [searches] at accepted
  rcases tested : test survivor index with reason | (_ | _) <;>
    rw [tested] at accepted <;>
    cases accepted
  rfl

end Last

/-! ## One predicate, four searches -/

/-- The predicate that accepts what another rejects, and aborts where it does. -/
def Callback.negated
    {γ α : Type} :
    Callback ε γ α Bool → Callback ε γ α Bool
  | .plain function => .plain fun value index => (function value index).map not
  | .contextual function =>
      .contextual fun value index environment =>
        (function value index environment).map not

/-- Where the negated predicate fails, the predicate accepts. -/
theorem Callback.counterTest_negated
    {γ α : Type}
    (predicate : Callback ε γ α Bool)
    (environment : γ) :
    predicate.negated.counterTest environment = predicate.test environment := by
  funext value index
  cases predicate with
  | plain function =>
      simp only [counterTest, test, negated, call_plain]
      rcases function value index with reason | (_ | _) <;> rfl
  | contextual function =>
      simp only [counterTest, test, negated, call_contextual]
      rcases function value index environment with reason | (_ | _) <;> rfl

section Searches

variable
  (chain : Chain Base ε context source element)
  (predicate : Callback ε (context.Value Base) (element.Value Base) Bool)
  (environment : context.Value Base)

/-- The first match among what leaves the chain stage by stage, with its position. -/
def sighted
    (values : List (source.Value Base)) :
    Except ε (Option (element.Value Base × Nat)) :=
  match (chain.staged environment values).outcome with
  | .error reason => .error reason
  | .ok survivors => firstMatch (predicate.test environment) survivors.zipIdx

/-- Stage by stage, the four searches show the same match in their own ways. -/
theorem staged_searches
    (values : List (source.Value Base)) :
    let sight := sighted chain predicate environment values
    (staged chain (.find predicate) values environment).outcome =
        sight.map (Option.map Prod.fst) ∧
      (staged chain (.findIndex predicate) values environment).outcome =
        sight.map (Option.map Prod.snd) ∧
      (staged chain (.some predicate) values environment).outcome =
        sight.map Option.isSome ∧
      (staged chain (.every predicate.negated) values environment).outcome =
        sight.map Option.isNone := by
  simp only [staged, sighted, Terminal.staged, Callback.counterTest_negated]
  cases (chain.staged environment values).outcome <;> exact ⟨rfl, rfl, rfl, rfl⟩

/-- The four searches make the same calls and take the same elements. -/
theorem searches_lockstep
    (elements : List (source.Value Base)) :
    let found :=
      runWith Nat.succ chain (.find predicate) 0 elements environment
    let position :=
      runWith Nat.succ chain (.findIndex predicate) 0 elements environment
    let any := runWith Nat.succ chain (.some predicate) 0 elements environment
    let all :=
      runWith Nat.succ chain (.every predicate.negated) 0 elements environment
    (position.calls = found.calls ∧
        any.calls = found.calls ∧
        all.calls = found.calls) ∧
      position.consumed = found.consumed ∧
      any.consumed = found.consumed ∧
      all.consumed = found.consumed := by
  have find :
      (Terminal.find predicate).SearchesBy environment
        (predicate.test environment) fun value _ => some value :=
    Terminal.find_searchesBy predicate
  have every :
      (Terminal.every predicate.negated).SearchesBy environment
        (predicate.test environment) fun _ _ => false := by
    rw [← Callback.counterTest_negated]
    exact Terminal.every_searchesBy predicate.negated
  -- Each search stops where one test passes, whatever its answer.
  have lockstep
      {output : ValueType Name}
      {terminal : Terminal Base ε context element output}
      {answer : element.Value Base → Nat → output.Value Base}
      (searches :
        terminal.SearchesBy environment (predicate.test environment) answer)
      (callback : terminal.hasCallback = (Terminal.find predicate).hasCallback) :=
    loopWith_lockstep callback
      (fun state otherState value index =>
        (searches.stops_eq otherState value index).trans
          (find.stops_eq state value index).symm)
      chain elements 0 chain.fresh () (terminal.start 0)
  obtain ⟨positionCalls, positionConsumed⟩ :=
    lockstep (Terminal.findIndex_searchesBy predicate) rfl
  obtain ⟨anyCalls, anyConsumed⟩ :=
    lockstep (Terminal.some_searchesBy predicate) rfl
  obtain ⟨allCalls, allConsumed⟩ := lockstep every rfl
  exact ⟨⟨positionCalls, anyCalls, allCalls⟩, positionConsumed, anyConsumed,
    allConsumed⟩

/-- The four searches show one match in their own ways, or abort alike. -/
theorem searches_outcome
    (elements : List (source.Value Base)) :
    ∃ sight : Except ε (Option (element.Value Base × Nat)),
      (runWith Nat.succ chain (.find predicate) 0 elements
          environment).outcome = sight.map (Option.map Prod.fst) ∧
        (runWith Nat.succ chain (.findIndex predicate) 0 elements
          environment).outcome = sight.map (Option.map Prod.snd) ∧
        (runWith Nat.succ chain (.some predicate) 0 elements
          environment).outcome = sight.map Option.isSome ∧
        (runWith Nat.succ chain (.every predicate.negated) 0 elements
          environment).outcome = sight.map Option.isNone := by
  obtain ⟨_, position, any, all⟩ :=
    searches_lockstep chain predicate environment elements
  have taken
      {output : ValueType Name}
      (terminal : Terminal Base ε context element output) :
      (runWith Nat.succ chain terminal 0 elements environment).outcome =
        (staged chain terminal
          (elements.take
            (runWith Nat.succ chain terminal 0 elements environment).consumed)
          environment).outcome :=
    (loopWith_agrees (standing_start chain terminal environment 0)
      elements).staged_outcome.symm
  -- All four have taken the same elements, which are evaluated stage by stage.
  rw [taken (.find predicate), taken (.findIndex predicate),
    taken (.some predicate), taken (.every predicate.negated),
    position, any, all]
  exact ⟨_, staged_searches chain predicate environment _⟩

/-- A run with a match ends in the terminal's call on the value and the index found. -/
theorem searches_last
    {elements : List (source.Value Base)}
    {value : element.Value Base}
    {index : Nat}
    (found :
      (runWith Nat.succ chain (.find predicate) 0 elements
        environment).outcome = .ok (some value))
    (position :
      (runWith Nat.succ chain (.findIndex predicate) 0 elements
        environment).outcome = .ok (some index)) :
    (runWith Nat.succ chain (.find predicate) 0 elements
        environment).calls.getLast? =
      some ⟨chain.length, index, element, value⟩ := by
  obtain ⟨⟨sameCalls, _⟩, _⟩ :=
    searches_lockstep chain predicate environment elements
  obtain ⟨survivor, _, last, foundValue⟩ :=
    (Terminal.find_searchesBy predicate).last_of_found (by simp [Terminal.finish])
      found
  obtain ⟨_, number, otherLast, foundIndex⟩ :=
    (Terminal.findIndex_searchesBy predicate).last_of_found
      (by simp [Terminal.finish]) position
  cases foundValue
  cases foundIndex
  rw [sameCalls, last] at otherLast
  cases otherLast
  exact last

end Searches

namespace Pipeline

/-- A run of a pipeline sealed with a terminal is one of its chain and the terminal. -/
theorem run_endWith
    (pipeline : Pipeline Base ε context source element)
    (terminal : Terminal Base ε context element output)
    (elements : List (source.Value Base))
    (environment : context.Value Base) :
    (pipeline.endWith terminal).procedure.run elements environment =
      runWith Nat.succ pipeline.chain terminal 0 elements environment :=
  pipeline.run_conclude (.terminal terminal) elements environment

/--
The four searches agree.  Sealed with a search for an element, for its index, for
whether there is one, and for whether all fail, a pipeline makes the same calls, takes
the same elements and aborts alike.  If it does not abort, an element is found exactly
if an index is, exactly if there is one, and exactly if not all fail; and then the
last call is the terminal's on the element found, under the index found, which is the
number of elements that reached the terminal before.
-/
theorem searches_agree
    (pipeline : Pipeline Base ε context source element)
    (predicate : Callback ε (context.Value Base) (element.Value Base) Bool)
    (elements : List (source.Value Base))
    (environment : context.Value Base) :
    let found :=
      (pipeline.endWith (.find predicate)).procedure.run elements environment
    let position :=
      (pipeline.endWith (.findIndex predicate)).procedure.run elements
        environment
    let any :=
      (pipeline.endWith (.some predicate)).procedure.run elements environment
    let all :=
      (pipeline.endWith (.every predicate.negated)).procedure.run elements
        environment
    (position.calls = found.calls ∧
      any.calls = found.calls ∧
      all.calls = found.calls) ∧
    (position.consumed = found.consumed ∧
      any.consumed = found.consumed ∧
      all.consumed = found.consumed) ∧
    (∀ reason,
      (position.outcome = .error reason ↔ found.outcome = .error reason) ∧
      (any.outcome = .error reason ↔ found.outcome = .error reason) ∧
      (all.outcome = .error reason ↔ found.outcome = .error reason)) ∧
    (∀ value?,
      found.outcome = .ok value? →
      ∃ index?,
        position.outcome = .ok index? ∧
        index?.isSome = value?.isSome ∧
        any.outcome = .ok value?.isSome ∧
        all.outcome = .ok value?.isNone ∧
        ∀ value index,
          value? = Option.some value →
          index? = Option.some index →
          found.calls.getLast? =
              Option.some ⟨pipeline.chain.length, index, element, value⟩ ∧
            index =
              (callsAt pipeline.chain.length found.calls.dropLast).length) := by
  simp only [run_endWith]
  obtain ⟨calls, consumed⟩ :=
    searches_lockstep pipeline.chain predicate environment elements
  obtain ⟨sight, found, position, any, all⟩ :=
    searches_outcome pipeline.chain predicate environment elements
  refine ⟨calls, consumed, ?_, ?_⟩
  · intro reason
    rw [found, position, any, all]
    cases sight <;> simp [Except.map]
  · intro value? returned
    rcases sight with reason | sighted?
    · rw [found] at returned
      contradiction
    · have shown : sighted?.map Prod.fst = value? :=
        Except.ok.inj (found.symm.trans returned)
      refine ⟨_, position, ?_, ?_, ?_, ?_⟩
      · rw [← shown, Option.isSome_map, Option.isSome_map]
      · rw [any, ← shown, Option.isSome_map]
        rfl
      · rw [all, ← shown, Option.isNone_map]
        rfl
      · rintro value index rfl sameIndex
        rw [Except.map, sameIndex] at position
        have last :=
          searches_last pipeline.chain predicate environment returned position
        exact ⟨last, index_of_last rfl last⟩

/-- Accepts numbers of at least six. -/
def atLeastSix :
    Callback String Unit Nat Bool :=
  .plain fun value _ => .ok (6 ≤ value)

/-- The doubled three is found as the second element, and every search ends there. -/
theorem searches_doublingOdds :
    let pipeline := (new 0).follow doublingOdds
    let found :=
      (pipeline.endWith (.find atLeastSix)).procedure.run [1, 2, 3, 7] ()
    found.calls.getLast? = Option.some ⟨2, 1, .position, 6⟩ ∧
      ((pipeline.endWith (.findIndex atLeastSix)).procedure.run
        [1, 2, 3, 7] ()).consumed = 3 ∧
      ((pipeline.endWith (.every atLeastSix.negated)).procedure.run
        [1, 2, 3, 7] ()).outcome = .ok false := by
  intro pipeline found
  obtain ⟨_, ⟨consumed, _⟩, _, answers⟩ :=
    searches_agree pipeline atLeastSix [1, 2, 3, 7] ()
  obtain ⟨index?, position, _, _, all, last⟩ := answers (Option.some 6) rfl
  cases position
  exact ⟨(last 6 1 rfl rfl).1, consumed, all⟩

end Pipeline

end OnePass
