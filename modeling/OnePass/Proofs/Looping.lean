import OnePass.Run

namespace OnePass

/-!
# Taking one element

What a run can do with its next element, said once: the chain aborts or drops it,
or the terminal takes it in and aborts, stops or proceeds.  A run that neither
aborts nor stops takes every element.
-/

variable {Name : Type} {Base : Name → Type} {ε : Type}
variable {context source element output : ValueType Name}

/--
What can become of a run over an element and the rest of the input, given what the
chain made of the element and the state of the terminal.
-/
inductive ElementTaken
    (advance : Nat → Nat)
    (chain : Chain Base ε context source element)
    (terminal : Terminal Base ε context element output)
    (environment : context.Value Base)
    (rest : List (source.Value Base))
    (raw : Nat)
    (fed : Fed Base ε element chain.Counters)
    (state : terminal.State) :
    Progress Base chain.Counters terminal.State (output.Value Base) ε → Prop where
  | chainAborts
      {reason : ε}
      (left : fed.outcome = .error reason) :
      ElementTaken advance chain terminal environment rest raw fed state
        ⟨.aborted reason, fed.calls, 1⟩
  | chainDrops
      (left : fed.outcome = .ok none) :
      ElementTaken advance chain terminal environment rest raw fed state
        ((loopWith advance chain terminal environment
          rest (advance raw) fed.counters state).after fed.calls)
  | terminalAborts
      {survivor : element.Value Base}
      {index : Nat}
      {reason : ε}
      (left : fed.outcome = .ok (some (survivor, index)))
      (accepted :
        terminal.accept state survivor index environment = .error reason) :
      ElementTaken advance chain terminal environment rest raw fed state
        ⟨.aborted reason,
          fed.calls ++ terminal.calls chain.length survivor index, 1⟩
  | terminalStops
      {survivor : element.Value Base}
      {index : Nat}
      {result : output.Value Base}
      (left : fed.outcome = .ok (some (survivor, index)))
      (accepted :
        terminal.accept state survivor index environment =
          .ok (.stop result)) :
      ElementTaken advance chain terminal environment rest raw fed state
        ⟨.stopped result,
          fed.calls ++ terminal.calls chain.length survivor index, 1⟩
  | terminalProceeds
      {survivor : element.Value Base}
      {index : Nat}
      {next : terminal.State}
      (left : fed.outcome = .ok (some (survivor, index)))
      (accepted :
        terminal.accept state survivor index environment =
          .ok (.proceed next)) :
      ElementTaken advance chain terminal environment rest raw fed state
        ((loopWith advance chain terminal environment
          rest (advance raw) fed.counters next).after
            (fed.calls ++ terminal.calls chain.length survivor index))

/-- A run over a non-empty input comes to one of these cases. -/
theorem loopWith_cons
    (advance : Nat → Nat)
    (chain : Chain Base ε context source element)
    (terminal : Terminal Base ε context element output)
    (environment : context.Value Base)
    (value : source.Value Base)
    (rest : List (source.Value Base))
    (raw : Nat)
    (counters : chain.Counters)
    (state : terminal.State) :
    ElementTaken advance chain terminal environment rest raw
      (chain.feedWith advance value raw environment counters) state
      (loopWith advance chain terminal environment
        (value :: rest) raw counters state) := by
  simp only [loopWith]
  generalize chain.feedWith advance value raw environment counters = fed
  rcases left : fed.outcome with reason | (_ | ⟨survivor, index⟩)
  · exact .chainAborts left
  · exact .chainDrops left
  · rcases accepted : terminal.accept state survivor index environment with
      reason | (next | result)
    · simp only [accepted]
      exact .terminalAborts left accepted
    · simp only [accepted]
      exact .terminalProceeds left accepted
    · simp only [accepted]
      exact .terminalStops left accepted

section Calls

variable
  {advance : Nat → Nat}
  {chain : Chain Base ε context source element}
  {terminal : Terminal Base ε context element output}
  {environment : context.Value Base}
  {value : source.Value Base}
  {rest : List (source.Value Base)}
  {raw : Nat}
  {counters : chain.Counters}
  {state : terminal.State}

/-- A run starts with the chain's calls on the first element. -/
theorem calls_prefix_of_fed :
    (chain.feedWith advance value raw environment counters).calls <+:
      (loopWith advance chain terminal environment
        (value :: rest) raw counters state).calls := by
  have step :=
    loopWith_cons advance chain terminal environment value rest raw counters
      state
  generalize loopWith advance chain terminal environment
    (value :: rest) raw counters state = progress at step ⊢
  cases step with
  | chainAborts =>
      exact List.prefix_rfl
  | chainDrops | terminalAborts | terminalStops =>
      exact List.prefix_append _ _
  | terminalProceeds =>
      simp [Progress.after, List.append_assoc]

/-- If the first element reaches the terminal, the terminal's call on it comes next. -/
theorem calls_prefix_of_handed
    {survivor : element.Value Base}
    {index : Nat}
    (left :
      (chain.feedWith advance value raw environment counters).outcome =
        .ok (some (survivor, index))) :
    (chain.feedWith advance value raw environment counters).calls ++
        terminal.calls chain.length survivor index <+:
      (loopWith advance chain terminal environment
        (value :: rest) raw counters state).calls := by
  have step :=
    loopWith_cons advance chain terminal environment value rest raw counters
      state
  generalize loopWith advance chain terminal environment
    (value :: rest) raw counters state = progress at step ⊢
  cases step with
  | chainAborts other | chainDrops other =>
      rw [left] at other
      simp at other
  | terminalAborts same | terminalStops same | terminalProceeds same =>
      rw [left] at same
      cases same
      simp [Progress.after]

end Calls

/-- A run that is still going on has taken every element. -/
theorem consumed_of_running
    {advance : Nat → Nat}
    {chain : Chain Base ε context source element}
    {terminal : Terminal Base ε context element output}
    {environment : context.Value Base}
    {elements : List (source.Value Base)}
    {raw : Nat}
    {counters finalCounters : chain.Counters}
    {state finalState : terminal.State}
    (running :
      (loopWith advance chain terminal environment
        elements raw counters state).status =
          .running finalCounters finalState) :
    (loopWith advance chain terminal environment
      elements raw counters state).consumed = elements.length := by
  induction elements generalizing raw counters state with
  | nil =>
      rfl
  | cons value rest inductionHypothesis =>
      have taken :=
        loopWith_cons advance chain terminal environment value rest raw
          counters state
      generalize loopWith advance chain terminal environment
        (value :: rest) raw counters state = progress at running taken ⊢
      cases taken with
      | chainAborts | terminalAborts | terminalStops =>
          simp at running
      | chainDrops left =>
          simpa [Progress.after] using inductionHypothesis running
      | terminalProceeds left accepted =>
          simpa [Progress.after] using inductionHypothesis running

end OnePass
