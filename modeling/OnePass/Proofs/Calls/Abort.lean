import OnePass.Proofs.Calls.Projection

namespace OnePass

/-!
# The call that aborts a run

A callback is a function of its arguments, and the record holds the arguments of
every call but for the accumulator of a reduce, which follows from the terminal's
earlier calls.  So the record tells which of its calls abort.  In the record of a
run that aborts this is the last call, and no other.
-/

variable {Name : Type} {Base : Name → Type} {ε : Type}
variable {context source before after element output : ValueType Name}

/--
A call made after the given ones aborts: the stage it belongs to does, or the
terminal does from the state that its earlier calls have brought it to.
-/
def CallAborts
    (chain : Chain Base ε context source element)
    (terminal : Terminal Base ε context element output)
    (environment : context.Value Base)
    (capacity : Nat)
    (earlier : List (Call Base))
    (call : Call Base)
    (reason : ε) :
    Prop :=
  chain.Answers environment call (.aborted reason) ∨
    ∃ values state value index,
      callsAt chain.length earlier = callsOn chain.length values ∧
        terminal.absorb environment (terminal.start capacity) values =
          .ok (.proceed state) ∧
        call = ⟨chain.length, index, element, value⟩ ∧
        terminal.accept state value index environment = .error reason

/-- None of the calls aborts that are made one after another after the given ones. -/
def AbortFree
    (chain : Chain Base ε context source element)
    (terminal : Terminal Base ε context element output)
    (environment : context.Value Base)
    (capacity : Nat) :
    (earlier calls : List (Call Base)) → Prop
  | _, [] => True
  | earlier, call :: rest =>
      (∀ reason,
        ¬CallAborts chain terminal environment capacity
          earlier call reason) ∧
        AbortFree chain terminal environment capacity (earlier ++ [call]) rest

variable {chain : Chain Base ε context source element}
variable {terminal : Terminal Base ε context element output}
variable {environment : context.Value Base} {capacity : Nat}

/-- Calls are free of aborts if their parts are. -/
theorem AbortFree.append
    {earlier first later : List (Call Base)}
    (firstFree :
      AbortFree chain terminal environment capacity earlier first)
    (laterFree :
      AbortFree chain terminal environment capacity (earlier ++ first) later) :
    AbortFree chain terminal environment capacity
      earlier (first ++ later) := by
  induction first generalizing earlier with
  | nil =>
      simpa using laterFree
  | cons call rest inductionHypothesis =>
      refine ⟨firstFree.1, inductionHypothesis firstFree.2 ?_⟩
      simpa using laterFree

/-- Calls to which the stages of the chain answer without aborting are free of aborts. -/
theorem abortFree_of_answers
    {calls : List (Call Base)}
    (answered :
      ∀ call ∈ calls,
        ∃ verdict,
          chain.Answers environment call verdict ∧
            ∀ reason, verdict ≠ .aborted reason)
    (earlier : List (Call Base)) :
    AbortFree chain terminal environment capacity earlier calls := by
  induction calls generalizing earlier with
  | nil =>
      trivial
  | cons call rest inductionHypothesis =>
      obtain ⟨verdict, answers, smooth⟩ := answered call (by simp)
      refine ⟨?_, inductionHypothesis
        (fun later member => answered later (by simp [member])) _⟩
      rintro reason (aborts | ⟨_, _, _, _, _, _, rfl, _⟩)
      · exact smooth reason (answers.unique aborts)
      · exact Nat.lt_irrefl _ answers.stage_lt

/-- The elements of calls can be read off the calls. -/
theorem callsOn_injective
    (place : Nat)
    {first second : List (element.Value Base × Nat)}
    (same : callsOn place first = callsOn place second) :
    first = second := by
  refine List.map_injective_iff.mpr ?_ same
  rintro ⟨firstValue, firstIndex⟩ ⟨secondValue, secondIndex⟩ sameCall
  simp only [Call.mk.injEq, heq_eq_eq, true_and] at sameCall
  rw [sameCall.1, sameCall.2]

/-! ## Calls on one element -/

/-- A chain that does not abort on an element makes calls free of aborts. -/
theorem abortFree_of_fed
    {value : source.Value Base}
    {raw : Nat}
    {counters : chain.Counters}
    {handed? : Option (element.Value Base × Nat)}
    (fed :
      (chain.feedWith Nat.succ value raw environment counters).outcome =
        .ok handed?)
    (earlier : List (Call Base)) :
    AbortFree chain terminal environment capacity earlier
      (chain.feedWith Nat.succ value raw environment counters).calls := by
  apply abortFree_of_answers
  intro call member
  cases handed? with
  | some survivor =>
      exact ⟨.handedOn, (Chain.calls_of_handed fed).2 call member, by simp⟩
  | none =>
      have kept :
          ∀ survivor,
            (chain.feedWith Nat.succ value raw environment counters).outcome ≠
              .ok (some survivor) := by
        simp [fed]
      obtain ⟨calls, last, shape, answers, ending⟩ := Chain.calls_of_kept kept
      rw [fed] at ending
      rw [shape] at member
      rcases List.mem_append.mp member with inCalls | isLast
      · exact ⟨.handedOn, answers call inCalls, by simp⟩
      · rw [List.mem_singleton.mp isLast]
        exact ⟨.rejected, ending, by simp⟩

/-- A chain that aborts on an element does so in its last call on it. -/
theorem aborts_of_fed
    {value : source.Value Base}
    {raw : Nat}
    {counters : chain.Counters}
    {reason : ε}
    (fed :
      (chain.feedWith Nat.succ value raw environment counters).outcome =
        .error reason)
    (earlier : List (Call Base)) :
    ∃ calls last,
      (chain.feedWith Nat.succ value raw environment counters).calls =
          calls ++ [last] ∧
        AbortFree chain terminal environment capacity earlier calls ∧
        CallAborts chain terminal environment capacity
          (earlier ++ calls) last reason := by
  have kept :
      ∀ survivor,
        (chain.feedWith Nat.succ value raw environment counters).outcome ≠
          .ok (some survivor) := by
    simp [fed]
  obtain ⟨calls, last, shape, answers, ending⟩ := Chain.calls_of_kept kept
  rw [fed] at ending
  refine ⟨calls, last, shape, ?_, .inl ending⟩
  exact abortFree_of_answers
    (fun call member => ⟨.handedOn, answers call member, by simp⟩) earlier

/-- Only a terminal with a callback aborts. -/
theorem Terminal.hasCallback_of_error
    {state : terminal.State}
    {value : element.Value Base}
    {index : Nat}
    {reason : ε}
    (accepted :
      terminal.accept state value index environment = .error reason) :
    terminal.hasCallback = true := by
  cases terminal with
  | collect | join =>
      simp [accept] at accepted
  | reduce | find | findIndex | some | every =>
      rfl

/-! ## Calls of a run -/

/-- The terminal's calls in a record are those on the survivors so far. -/
def Records
    (chain : Chain Base ε context source element)
    (terminal : Terminal Base ε context element output)
    (survivors : List (element.Value Base))
    (calls : List (Call Base)) :
    Prop :=
  callsAt chain.length calls =
    if terminal.hasCallback then callsOn chain.length survivors.zipIdx else []

section Records

variable {survivors : List (element.Value Base)} {calls : List (Call Base)}
variable {counters : chain.Counters} {value : source.Value Base} {raw : Nat}

/-- The chain's calls on an element are none of the terminal's. -/
theorem Records.append_fed
    (records : Records chain terminal survivors calls) :
    Records chain terminal survivors
      (calls ++
        (chain.feedWith Nat.succ value raw environment counters).calls) := by
  have none :
      callsAt chain.length
        (chain.feedWith Nat.succ value raw environment counters).calls = [] :=
    callsAt_eq_nil fun call member =>
      Nat.ne_of_lt (Chain.stage_lt_of_mem_feedWith call member)
  rw [Records, callsAt_append, none, List.append_nil]
  exact records

/-- A call on one more survivor is one more of the terminal's calls. -/
theorem Records.append_calls
    (records : Records chain terminal survivors calls)
    (survivor : element.Value Base) :
    Records chain terminal (survivors ++ [survivor])
      (calls ++
        terminal.calls chain.length survivor survivors.length) := by
  rw [Records, callsAt_append, records, Terminal.calls]
  split <;> simp [callsOn, callsAt, List.zipIdx_append]

/--
In a run that has recorded its calls, the terminal's next call aborts exactly if
the terminal does.
-/
theorem Standing.callAborts_iff
    {taken : List (source.Value Base)}
    {state : terminal.State}
    (standing :
      Standing chain terminal environment capacity
        taken counters state survivors)
    (records : Records chain terminal survivors calls)
    (callback : terminal.hasCallback = true)
    (survivor : element.Value Base)
    (index : Nat)
    (reason : ε) :
    CallAborts chain terminal environment capacity calls
        ⟨chain.length, index, element, survivor⟩ reason ↔
      terminal.accept state survivor index environment = .error reason := by
  rw [Records, if_pos callback] at records
  constructor
  · rintro (aborts | ⟨values, reached, _, _, same, absorbed, sameCall, aborts⟩)
    · exact absurd aborts.stage_lt (Nat.lt_irrefl _)
    · rw [records] at same
      rw [← callsOn_injective _ same, standing.absorbed] at absorbed
      cases absorbed
      cases sameCall
      exact aborts
  · intro aborts
    exact .inr ⟨survivors.zipIdx, state, survivor, index, records,
      standing.absorbed, rfl, aborts⟩

/-- A terminal that takes an element in makes calls free of aborts. -/
theorem Standing.abortFree_of_accepted
    {taken : List (source.Value Base)}
    {state : terminal.State}
    (standing :
      Standing chain terminal environment capacity
        taken counters state survivors)
    (records : Records chain terminal survivors calls)
    {survivor : element.Value Base}
    {index : Nat}
    {step : Step terminal.State (output.Value Base)}
    (accepted :
      terminal.accept state survivor index environment = .ok step) :
    AbortFree chain terminal environment capacity calls
      (terminal.calls chain.length survivor index) := by
  unfold Terminal.calls
  split
  · rename_i callback
    refine ⟨fun reason aborts => ?_, trivial⟩
    rw [standing.callAborts_iff records callback, accepted] at aborts
    contradiction
  · trivial

end Records

/--
What a record says about aborts: a run that aborts does so in the last call of its
record and in none before it, and no call aborts in the record of any other run.
-/
def AbortsLast
    {κ : Type}
    (chain : Chain Base ε context source element)
    (terminal : Terminal Base ε context element output)
    (environment : context.Value Base)
    (capacity : Nat)
    (status : Status κ terminal.State (output.Value Base) ε)
    (earlier calls : List (Call Base)) :
    Prop :=
  match status with
  | .aborted reason =>
      ∃ before last,
        calls = before ++ [last] ∧
          AbortFree chain terminal environment capacity earlier before ∧
          CallAborts chain terminal environment capacity
            (earlier ++ before) last reason
  | .running _ _ | .stopped _ =>
      AbortFree chain terminal environment capacity earlier calls

/-- Calls free of aborts do not change what the record after them says. -/
theorem AbortFree.abortsLast
    {κ : Type}
    {status : Status κ terminal.State (output.Value Base) ε}
    {earlier first later : List (Call Base)}
    (firstFree : AbortFree chain terminal environment capacity earlier first)
    (ends :
      AbortsLast chain terminal environment capacity status
        (earlier ++ first) later) :
    AbortsLast chain terminal environment capacity status
      earlier (first ++ later) := by
  cases status with
  | running | stopped =>
      exact firstFree.append ends
  | aborted reason =>
      obtain ⟨before, last, rfl, free, aborts⟩ := ends
      refine ⟨first ++ before, last, ?_, firstFree.append free, ?_⟩
      · rw [List.append_assoc]
      · rwa [← List.append_assoc]

/-- Every run aborts in the last call of its record, if at all. -/
theorem loopWith_abortsLast
    {taken : List (source.Value Base)}
    {counters : chain.Counters}
    {state : terminal.State}
    {survivors : List (element.Value Base)}
    {earlier : List (Call Base)}
    (standing :
      Standing chain terminal environment capacity
        taken counters state survivors)
    (records : Records chain terminal survivors earlier)
    (rest : List (source.Value Base)) :
    AbortsLast chain terminal environment capacity
      (loopWith Nat.succ chain terminal environment
        rest taken.length counters state).status
      earlier
      (loopWith Nat.succ chain terminal environment
        rest taken.length counters state).calls := by
  induction rest generalizing taken counters state survivors earlier with
  | nil =>
      trivial
  | cons value rest inductionHypothesis =>
      have step :=
        loopWith_cons Nat.succ chain terminal environment value rest
          taken.length counters state
      have length_taken : taken.length.succ = (taken ++ [value]).length := by
        simp
      have recordsFed :
          Records chain terminal survivors
            (earlier ++
              (chain.feedWith Nat.succ value taken.length environment
                counters).calls) :=
        records.append_fed
      generalize loopWith Nat.succ chain terminal environment
        (value :: rest) taken.length counters state = progress at step ⊢
      cases step with
      | chainAborts left =>
          exact aborts_of_fed left earlier
      | chainDrops left =>
          simp only [Progress.after, length_taken]
          exact (abortFree_of_fed left earlier).abortsLast
            (inductionHypothesis (standing.dropped left) recordsFed)
      | terminalAborts left accepted =>
          have callback := Terminal.hasCallback_of_error accepted
          refine ⟨_, _, ?_, abortFree_of_fed left earlier,
            (standing.callAborts_iff recordsFed callback _ _ _).mpr accepted⟩
          simp [Terminal.calls, callback]
      | terminalStops left accepted =>
          exact (abortFree_of_fed left earlier).append
            (standing.abortFree_of_accepted recordsFed accepted)
      | terminalProceeds left accepted =>
          have free :=
            (abortFree_of_fed left earlier).append
              (standing.abortFree_of_accepted recordsFed accepted)
          have next := standing.proceeded left accepted
          obtain ⟨rfl, _⟩ := standing.reached.handed left
          simp only [Progress.after, length_taken]
          have later :=
            inductionHypothesis next (recordsFed.append_calls _)
          rw [List.append_assoc] at later
          exact free.abortsLast later

end OnePass
