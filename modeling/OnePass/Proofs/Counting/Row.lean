import Mathlib.Data.List.Induction
import OnePass.Proofs.Calls.Projection
import OnePass.Proofs.Declaring

namespace OnePass

/-!
# Feeding a row of elements

A chain can be fed by hand: elements come one after another, each with a raw position
and a context of its own, and the counters stay between them.  Whatever positions they
come with, the stages share the work as in a run: what leaves a chain is what its last
stage hands on of what leaves the stages before it, and the last stage has counted just
these.
-/

variable {Name : Type} {Base : Name → Type} {ε : Type}
variable {context source before after element : ValueType Name}

/-! ## Rows -/

/-- An element on its way, with the index it comes with and the context of the call. -/
structure Arrival (Base : Name → Type) (context element : ValueType Name) where
  value : element.Value Base
  index : Nat
  environment : context.Value Base

/-- The call that an element makes at the stage of a place. -/
def Arrival.call
    (place : Nat)
    (arrival : Arrival Base context element) :
    Call Base :=
  ⟨place, arrival.index, element, arrival.value⟩

/-- What a chain has made of the elements of a row so far. -/
structure FedRow
    (Base : Name → Type)
    (ε : Type)
    (context element : ValueType Name)
    (σ : Type) where
  /-- The elements that left the chain, with their visible indices. -/
  departures : List (Arrival Base context element)
  counters : σ
  calls : List (Call Base)
  /-- The reasons of the calls that aborted. -/
  aborts : List ε

namespace Fed

variable {σ : Type}

/-- The element that leaves the chain, if one does. -/
def departure?
    (fed : Fed Base ε element σ)
    (environment : context.Value Base) :
    Option (Arrival Base context element) :=
  match fed.outcome with
  | .ok (some (value, index)) => some ⟨value, index, environment⟩
  | .ok none => none
  | .error _ => none

/-- The reason of the call that aborts, if one does. -/
def abort? (fed : Fed Base ε element σ) : Option ε :=
  match fed.outcome with
  | .ok _ => none
  | .error reason => some reason

end Fed

namespace Chain

/-- Where a chain stands that was fed nothing. -/
def unfed
    (chain : Chain Base ε context source element) :
    FedRow Base ε context element chain.Counters where
  departures := []
  counters := chain.fresh
  calls := []
  aborts := []

/-- Feed the next element of a row. -/
def feedNextWith
    (advance : Nat → Nat)
    (chain : Chain Base ε context source element)
    (row : FedRow Base ε context element chain.Counters)
    (arrival : Arrival Base context source) :
    FedRow Base ε context element chain.Counters :=
  let fed :=
    chain.feedWith advance arrival.value arrival.index arrival.environment
      row.counters
  { departures := row.departures ++ (fed.departure? arrival.environment).toList
    counters := fed.counters
    calls := row.calls ++ fed.calls
    aborts := row.aborts ++ fed.abort?.toList }

/-- Feed the elements of a row to a fresh chain. -/
def feedRowWith
    (advance : Nat → Nat)
    (chain : Chain Base ε context source element)
    (arrivals : List (Arrival Base context source)) :
    FedRow Base ε context element chain.Counters :=
  arrivals.foldl (chain.feedNextWith advance) chain.unfed

/-- Feed the elements of a row to a fresh chain, counting without bound. -/
def feedRow
    (chain : Chain Base ε context source element)
    (arrivals : List (Arrival Base context source)) :
    FedRow Base ε context element chain.Counters :=
  chain.feedRowWith Nat.succ arrivals

/-- A row with one more element is fed the others first. -/
theorem feedRowWith_snoc
    (advance : Nat → Nat)
    (chain : Chain Base ε context source element)
    (arrivals : List (Arrival Base context source))
    (arrival : Arrival Base context source) :
    chain.feedRowWith advance (arrivals ++ [arrival]) =
      chain.feedNextWith advance (chain.feedRowWith advance arrivals) arrival := by
  simp [feedRowWith]

end Chain

/-! ## What one stage hands on of a row -/

namespace Stage

/-- What a stage hands on of an element, still with the index the element came with. -/
def handed?
    (stage : Stage Base ε context before after)
    (arrival : Arrival Base context before) :
    Option (Arrival Base context after) :=
  match stage.apply arrival.value arrival.index arrival.environment with
  | .ok (some value) => some ⟨value, arrival.index, arrival.environment⟩
  | .ok none => none
  | .error _ => none

/-- A filter numbers what it hands on from zero; other stages leave the indices. -/
def numbered :
    (stage : Stage Base ε context before after) →
      (handed : List (Arrival Base context after)) →
      List (Arrival Base context after)
  | .filter _, handed =>
      handed.mapIdx fun place arrival => { arrival with index := place }
  | .map _, handed => handed
  | .forEach _, handed => handed

/-- What a stage hands on of a row. -/
def handOn
    (stage : Stage Base ε context before after)
    (row : List (Arrival Base context before)) :
    List (Arrival Base context after) :=
  stage.numbered (row.filterMap stage.handed?)

variable (stage : Stage Base ε context before after)

@[simp] theorem length_numbered
    (handed : List (Arrival Base context after)) :
    (stage.numbered handed).length = handed.length := by
  cases stage <;> simp [numbered]

/-- One more element is numbered by the count of those before it. -/
theorem numbered_snoc
    (handed : List (Arrival Base context after))
    (arrival : Arrival Base context after) :
    stage.numbered (handed ++ [arrival]) =
      stage.numbered handed ++
        [{ arrival with
            index := stage.outgoing arrival.index
              (stage.counted handed.length) }] := by
  cases stage <;> simp [numbered, outgoing, counted]

/-- An element that is handed on comes after those handed on before it. -/
theorem handOn_snoc_of_handed
    (row : List (Arrival Base context before))
    (arrival : Arrival Base context before)
    {value : after.Value Base}
    (applied :
      stage.apply arrival.value arrival.index arrival.environment =
        .ok (some value)) :
    stage.handOn (row ++ [arrival]) =
      stage.handOn row ++
        [⟨value,
          stage.outgoing arrival.index
            (stage.counted (stage.handOn row).length),
          arrival.environment⟩] := by
  simp [handOn, handed?, applied, numbered_snoc]

/-- An element that is not handed on changes nothing. -/
theorem handOn_snoc_of_kept
    (row : List (Arrival Base context before))
    (arrival : Arrival Base context before)
    (kept :
      ∀ value,
        stage.apply arrival.value arrival.index arrival.environment ≠
          .ok (some value)) :
    stage.handOn (row ++ [arrival]) = stage.handOn row := by
  have none_handed : stage.handed? arrival = none := by
    rcases applied :
        stage.apply arrival.value arrival.index arrival.environment with
      reason | (_ | value)
    · simp [handed?, applied]
    · simp [handed?, applied]
    · exact absurd applied (kept value)
  simp [handOn, none_handed]

end Stage

/-! ## The last stage of a chain and those before it -/

/-- A stage has no calls among those of the stages before it. -/
theorem callsAt_of_below
    {border : Nat}
    {calls : List (Call Base)}
    (below : ∀ call ∈ calls, call.stage < border) :
    callsAt border calls = [] :=
  callsAt_eq_nil fun call member => Nat.ne_of_lt (below call member)

/--
How the row of a chain with a last stage follows from that of the stages before it.
-/
structure LinkedRows
    (earlier : Chain Base ε context source before)
    (stage : Stage Base ε context before after)
    (part : FedRow Base ε context before earlier.Counters)
    (whole : FedRow Base ε context after (earlier.link stage).Counters) :
    Prop where
  departures : whole.departures = stage.handOn part.departures
  counters :
    whole.counters = (part.counters, stage.counted whole.departures.length)
  /-- The last stage is called on what leaves the stages before it. -/
  received :
    callsAt earlier.length whole.calls =
      part.departures.map (Arrival.call earlier.length)
  /-- The stages before it do not notice it. -/
  undisturbed :
    ∀ place < earlier.length,
      callsAt place whole.calls = callsAt place part.calls
  smooth :
    whole.aborts = [] →
      part.aborts = [] ∧
        ∀ arrival ∈ part.departures,
          ∀ reason,
            stage.apply arrival.value arrival.index arrival.environment ≠
              .error reason

namespace LinkedRows

variable
  {earlier : Chain Base ε context source before}
  {stage : Stage Base ε context before after}
  {part : FedRow Base ε context before earlier.Counters}
  {whole : FedRow Base ε context after (earlier.link stage).Counters}

/-- An element that does not reach the last stage adds calls of earlier stages only. -/
theorem missed
    (linked : LinkedRows earlier stage part whole)
    (counters : earlier.Counters)
    {calls : List (Call Base)}
    (below : ∀ call ∈ calls, call.stage < earlier.length)
    (reasons : List ε) :
    LinkedRows earlier stage
      ⟨part.departures, counters, part.calls ++ calls, part.aborts ++ reasons⟩
      ⟨whole.departures, (counters, stage.counted whole.departures.length),
        whole.calls ++ calls, whole.aborts ++ reasons⟩ where
  departures := linked.departures
  counters := rfl
  received := by
    simpa [callsAt_of_below below] using linked.received
  undisturbed := by
    intro place isEarlier
    simp [linked.undisturbed place isEarlier]
  smooth := by
    intro silent
    obtain ⟨wholeSilent, rfl⟩ := List.append_eq_nil_iff.mp silent
    simpa using linked.smooth wholeSilent

/-- An element that reaches the last stage adds a call of it, whatever it makes of it. -/
theorem reached
    (linked : LinkedRows earlier stage part whole)
    (reaching : Arrival Base context before)
    (counters : earlier.Counters)
    {calls : List (Call Base)}
    (below : ∀ call ∈ calls, call.stage < earlier.length)
    (leaving : List (Arrival Base context after))
    (handedOn :
      stage.handOn (part.departures ++ [reaching]) =
        whole.departures ++ leaving)
    (reasons : List ε)
    (told :
      reasons = [] →
        ∀ reason,
          stage.apply reaching.value reaching.index reaching.environment ≠
            .error reason) :
    LinkedRows earlier stage
      ⟨part.departures ++ [reaching], counters, part.calls ++ calls,
        part.aborts⟩
      ⟨whole.departures ++ leaving,
        (counters, stage.counted (whole.departures ++ leaving).length),
        whole.calls ++ (calls ++ [reaching.call earlier.length]),
        whole.aborts ++ reasons⟩ where
  departures := handedOn.symm
  counters := rfl
  received := by
    have own :
        callsAt earlier.length [reaching.call earlier.length] =
          [reaching.call earlier.length] := by
      simp [callsAt, Arrival.call]
    simp [callsAt_of_below below, own, linked.received]
  undisturbed := by
    intro place isEarlier
    have other : callsAt place [reaching.call earlier.length] = [] :=
      callsAt_eq_nil (by simp [Arrival.call]; omega)
    simp [other, linked.undisturbed place isEarlier]
  smooth := by
    intro silent
    obtain ⟨wholeSilent, noReason⟩ := List.append_eq_nil_iff.mp silent
    obtain ⟨partSilent, applied⟩ := linked.smooth wholeSilent
    refine ⟨partSilent, ?_⟩
    intro arrival member
    rcases List.mem_append.mp member with isOld | isNew
    · exact applied arrival isOld
    · rw [List.mem_singleton.mp isNew]
      exact told noReason

/-- An element that the last stage keeps back adds nothing to what leaves it. -/
theorem handOn_of_kept
    (linked : LinkedRows earlier stage part whole)
    (reaching : Arrival Base context before)
    (kept :
      ∀ value,
        stage.apply reaching.value reaching.index reaching.environment ≠
          .ok (some value)) :
    stage.handOn (part.departures ++ [reaching]) = whole.departures ++ [] := by
  rw [stage.handOn_snoc_of_kept _ _ kept, ← linked.departures,
    List.append_nil]

/-- Feeding one more element keeps the rows linked. -/
theorem next
    (linked : LinkedRows earlier stage part whole)
    (arrival : Arrival Base context source) :
    LinkedRows earlier stage
      (earlier.feedNextWith Nat.succ part arrival)
      ((earlier.link stage).feedNextWith Nat.succ whole arrival) := by
  have below :
      ∀ call ∈
          (earlier.feedWith Nat.succ arrival.value arrival.index
            arrival.environment part.counters).calls,
        call.stage < earlier.length :=
    Chain.stage_lt_of_mem_feedWith
  have step :=
    Chain.feedWith_link Nat.succ earlier stage arrival.value arrival.index
      arrival.environment whole.counters
  simp only [Chain.feedNextWith]
  -- Both rows have the same counters before the last stage, so that one step of the
  -- longer chain tells what becomes of the element in either.
  rw [linked.counters] at step ⊢
  dsimp only at step
  generalize (earlier.link stage).feedWith Nat.succ arrival.value arrival.index
    arrival.environment _ = fed at step ⊢
  generalize earlier.feedWith Nat.succ arrival.value arrival.index
    arrival.environment part.counters = earlierFed at step below ⊢
  cases step with
  | @earlierAborts reason left =>
      simpa [Fed.departure?, Fed.abort?, left] using
        linked.missed earlierFed.counters below [reason]
  | earlierDrops left =>
      simpa [Fed.departure?, Fed.abort?, left] using
        linked.missed earlierFed.counters below []
  | @aborts value index reason left applied =>
      have kept :=
        linked.handOn_of_kept ⟨value, index, arrival.environment⟩
          (by simp [applied])
      simpa [Fed.departure?, Fed.abort?, Arrival.call, left] using
        linked.reached _ earlierFed.counters below [] kept [reason] (by simp)
  | @drops value index left applied =>
      have kept :=
        linked.handOn_of_kept ⟨value, index, arrival.environment⟩
          (by simp [applied])
      simpa [Fed.departure?, Fed.abort?, Arrival.call, left] using
        linked.reached _ earlierFed.counters below [] kept []
          (by simp [applied])
  | @handsOn value index handed left applied =>
      have handedOn :=
        stage.handOn_snoc_of_handed part.departures
          ⟨value, index, arrival.environment⟩ applied
      rw [← linked.departures] at handedOn
      simpa [Fed.departure?, Fed.abort?, Arrival.call, left,
        Stage.advanced_counted] using
        linked.reached _ earlierFed.counters below _ handedOn []
          (by simp [applied])

end LinkedRows

namespace Chain

/-- The row of a chain with a last stage follows from that of the stages before it. -/
theorem feedRow_link
    (earlier : Chain Base ε context source before)
    (stage : Stage Base ε context before after)
    (arrivals : List (Arrival Base context source)) :
    LinkedRows earlier stage
      (earlier.feedRow arrivals) ((earlier.link stage).feedRow arrivals) := by
  induction arrivals using List.reverseRecOn with
  | nil =>
      refine ⟨?_, ?_, rfl, fun _ _ => rfl, fun _ => ⟨rfl, ?_⟩⟩
      · cases stage <;> rfl
      · exact congrArg (Prod.mk earlier.fresh) stage.counted_zero.symm
      · simp [feedRow, feedRowWith, unfed]
  | append_singleton taken arrival inductionHypothesis =>
      simp only [feedRow, feedRowWith_snoc] at inductionHypothesis ⊢
      exact inductionHypothesis.next arrival

/-- Later stages neither hide an abort of the earlier ones nor change their calls. -/
theorem feedRow_followedBy
    (chain : Chain Base ε context source element)
    (script : Script Base ε context element after)
    (arrivals : List (Arrival Base context source)) :
    (((chain.followedBy script).feedRow arrivals).aborts = [] →
        (chain.feedRow arrivals).aborts = []) ∧
      ∀ place < chain.length,
        callsAt place ((chain.followedBy script).feedRow arrivals).calls =
          callsAt place (chain.feedRow arrivals).calls := by
  induction script with
  | done =>
      exact ⟨id, fun _ _ => rfl⟩
  | stage first rest inductionHypothesis =>
      have linked := chain.feedRow_link first arrivals
      obtain ⟨smooth, undisturbed⟩ := inductionHypothesis (chain.link first)
      refine ⟨fun silent => (linked.smooth (smooth silent)).1, ?_⟩
      intro place isEarlier
      exact (undisturbed place (Nat.lt_succ_of_lt isEarlier)).trans
        (linked.undisturbed place isEarlier)

/-- Every stage of a chain is called on what leaves the stages before it. -/
theorem received_feedRow
    (earlier : Chain Base ε context source before)
    (stage : Stage Base ε context before after)
    (later : Script Base ε context after element)
    (arrivals : List (Arrival Base context source)) :
    callsAt earlier.length
        (((earlier.link stage).followedBy later).feedRow arrivals).calls =
      (earlier.feedRow arrivals).departures.map
        (Arrival.call earlier.length) := by
  have undisturbed :=
    ((earlier.link stage).feedRow_followedBy later arrivals).2
      earlier.length (Nat.lt_succ_self _)
  exact undisturbed.trans (earlier.feedRow_link stage arrivals).received

end Chain

end OnePass
