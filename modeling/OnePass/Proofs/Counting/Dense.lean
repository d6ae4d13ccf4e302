import OnePass.Proofs.Counting.Words

namespace OnePass

/-!
# Counters are dense

A filter hands its counter on as the index of the element and then advances it.  So
the elements that it accepts are numbered from zero without a gap, whatever positions
they came with, and the stages after it see these numbers until another filter numbers
anew.  Each counter is the number of elements accepted so far, so that counters decline
from filter to filter and never exceed the number of elements fed.
-/

variable {Name : Type} {Base : Name → Type} {ε : Type}
variable {context source before after element output : ValueType Name}

/-- Whether a predicate accepts an element. -/
def Arrival.passes
    (predicate : Callback ε (context.Value Base) (element.Value Base) Bool)
    (arrival : Arrival Base context element) :
    Bool :=
  match predicate.call arrival.value arrival.index arrival.environment with
  | .ok accepted => accepted
  | .error _ => false

/-! ## One stage -/

namespace Stage

/-- How many elements of a row a filter accepts; other stages accept by no predicate. -/
def acceptance? :
    (stage : Stage Base ε context before after) →
      (row : List (Arrival Base context before)) →
      Option Nat
  | .filter predicate, row => some (row.countP (Arrival.passes predicate))
  | .map _, _ => none
  | .forEach _, _ => none

/-- A stage that accepts by no predicate is no filter. -/
theorem kind_ne_filter_of_acceptance?
    {stage : Stage Base ε context before after}
    {row : List (Arrival Base context before)}
    (unaccepted : stage.acceptance? row = none) :
    stage.kind ≠ .filter := by
  cases stage with
  | filter predicate =>
      contradiction
  | map | forEach =>
      simp [kind]

/-- A filter hands on the elements that its predicate accepts. -/
theorem filterMap_handed?_filter
    (predicate : Callback ε (context.Value Base) (element.Value Base) Bool)
    (row : List (Arrival Base context element)) :
    row.filterMap (filter predicate).handed? =
      row.filter (Arrival.passes predicate) := by
  rw [← List.filterMap_eq_filter]
  congr 1
  funext arrival
  rcases called :
      predicate.call arrival.value arrival.index arrival.environment with
    reason | (_ | _) <;>
    simp [handed?, apply, Arrival.passes, Option.guard, called]

/-- A stage hands on at most what it receives. -/
theorem length_handOn_le
    (stage : Stage Base ε context before after)
    (row : List (Arrival Base context before)) :
    (stage.handOn row).length ≤ row.length := by
  simpa [handOn] using List.length_filterMap_le stage.handed? row

/-- A filter hands on as many elements as it accepts. -/
theorem length_handOn_of_acceptance?
    {stage : Stage Base ε context before after}
    {row : List (Arrival Base context before)}
    {count : Nat}
    (accepted : stage.acceptance? row = some count) :
    (stage.handOn row).length = count := by
  cases stage with
  | filter predicate =>
      cases accepted
      simp [handOn, filterMap_handed?_filter, List.countP_eq_length_filter]
  | map | forEach =>
      contradiction

/-- The counter of a filter that has handed on a row is the number accepted. -/
theorem filterCount?_counted
    (stage : Stage Base ε context before after)
    (row : List (Arrival Base context before)) :
    stage.filterCount? (stage.counted (stage.handOn row).length) =
      stage.acceptance? row := by
  cases stage with
  | filter predicate =>
      rw [length_handOn_of_acceptance? rfl]
      rfl
  | map | forEach =>
      rfl

/-- A filter numbers what it hands on from zero without a gap. -/
theorem indices_handOn_of_acceptance?
    {stage : Stage Base ε context before after}
    {row : List (Arrival Base context before)}
    {count : Nat}
    (accepted : stage.acceptance? row = some count) :
    (stage.handOn row).map Arrival.index = List.range count := by
  rw [← length_handOn_of_acceptance? accepted]
  cases stage with
  | filter predicate =>
      apply List.ext_getElem <;> simp [handOn, numbered]
  | map | forEach =>
      contradiction

/-- A stage other than a filter hands every element on at the index it came with. -/
theorem indices_handOn_of_kind_ne_filter
    {stage : Stage Base ε context before after}
    (notFilter : stage.kind ≠ .filter)
    {row : List (Arrival Base context before)}
    (smooth :
      ∀ arrival ∈ row,
        ∀ reason,
          stage.apply arrival.value arrival.index arrival.environment ≠
            .error reason) :
    (stage.handOn row).map Arrival.index = row.map Arrival.index := by
  have unnumbered : stage.handOn row = row.filterMap stage.handed? := by
    cases stage with
    | filter predicate =>
        exact absurd rfl notFilter
    | map | forEach =>
        rfl
  rw [unnumbered]
  clear unnumbered
  induction row with
  | nil =>
      rfl
  | cons arrival rest inductionHypothesis =>
      obtain ⟨applied, restSmooth⟩ := List.forall_mem_cons.mp smooth
      rcases outcome :
          stage.apply arrival.value arrival.index arrival.environment with
        reason | handed?
      · exact absurd outcome (applied reason)
      · obtain ⟨value, rfl⟩ :=
          Option.isSome_iff_exists.mp
            (isSome_of_kind_ne_filter notFilter outcome)
        simp [handed?, outcome, inductionHypothesis restSmooth]

end Stage

/-! ## Chains -/

namespace Chain

/--
How many elements of a row each filter of a chain accepts, of those that leave the
stages before it.
-/
def acceptances
    (arrivals : List (Arrival Base context source))
    {element : ValueType Name} :
    Chain Base ε context source element → List Nat
  | .source => []
  | .link earlier stage =>
      earlier.acceptances arrivals ++
        (stage.acceptance? (earlier.feedRow arrivals).departures).toList

/-- What leaves a chain without stages is what was fed. -/
theorem departures_source (arrivals : List (Arrival Base context source)) :
    ((.source : Chain Base ε context source source).feedRow
        arrivals).departures = arrivals := by
  induction arrivals using List.reverseRecOn with
  | nil =>
      rfl
  | append_singleton taken arrival inductionHypothesis =>
      simp only [feedRow, feedRowWith_snoc] at inductionHypothesis ⊢
      simp [feedNextWith, feedWith, Fed.departure?, inductionHypothesis]

variable {chain : Chain Base ε context source element}
variable {arrivals : List (Arrival Base context source)}

/-- Every filter's counter is the number of elements that its predicate accepted. -/
theorem filterCounts_feedRow
    (chain : Chain Base ε context source element)
    (arrivals : List (Arrival Base context source)) :
    chain.filterCounts (chain.feedRow arrivals).counters =
      chain.acceptances arrivals := by
  induction chain with
  | source =>
      rfl
  | link earlier stage inductionHypothesis =>
      have linked := earlier.feedRow_link stage arrivals
      rw [linked.counters, linked.departures]
      simp only [filterCounts_link, acceptances, inductionHypothesis,
        Stage.filterCount?_counted]

/-- Every filter accepts at least as many elements as leave the chain. -/
theorem departures_le_of_mem_acceptances :
    ∀ count ∈ chain.acceptances arrivals,
      (chain.feedRow arrivals).departures.length ≤ count := by
  induction chain with
  | source =>
      simp [acceptances]
  | link earlier stage inductionHypothesis =>
      have linked := earlier.feedRow_link stage arrivals
      rw [linked.departures]
      intro count member
      rcases List.mem_append.mp member with isEarlier | isLast
      · exact Nat.le_trans (stage.length_handOn_le _)
          (inductionHypothesis count isEarlier)
      · exact Nat.le_of_eq
          (Stage.length_handOn_of_acceptance? (Option.mem_toList.mp isLast))

/-- No filter accepts more elements than one before it. -/
theorem acceptances_decline :
    (chain.acceptances arrivals).Pairwise fun upstream downstream =>
      downstream ≤ upstream := by
  induction chain with
  | source =>
      exact .nil
  | link earlier stage inductionHypothesis =>
      rw [acceptances, List.pairwise_append]
      refine ⟨inductionHypothesis, ?_, ?_⟩
      · cases stage.acceptance? (earlier.feedRow arrivals).departures <;> simp
      · intro upstream isEarlier downstream isLast
        have accepted :=
          Stage.length_handOn_of_acceptance? (Option.mem_toList.mp isLast)
        calc
          downstream = (stage.handOn (earlier.feedRow arrivals).departures).length :=
            accepted.symm
          _ ≤ (earlier.feedRow arrivals).departures.length :=
            stage.length_handOn_le _
          _ ≤ upstream := departures_le_of_mem_acceptances upstream isEarlier

/-- After a filter the indices are its count of accepted elements, without a gap. -/
theorem indices_of_filtered
    (smooth : (chain.feedRow arrivals).aborts = [])
    (filtered : .filter ∈ chain.kinds) :
    ∃ count ∈ (chain.acceptances arrivals).getLast?,
      (chain.feedRow arrivals).departures.map Arrival.index =
        List.range count := by
  induction chain with
  | source =>
      simp [kinds] at filtered
  | link earlier stage inductionHypothesis =>
      have linked := earlier.feedRow_link stage arrivals
      obtain ⟨earlierSmooth, applied⟩ := linked.smooth smooth
      rw [linked.departures]
      rcases accepted :
          stage.acceptance? (earlier.feedRow arrivals).departures with
        _ | count
      · have notFilter := Stage.kind_ne_filter_of_acceptance? accepted
        have earlierFiltered : .filter ∈ earlier.kinds := by
          simpa [kinds, notFilter.symm] using filtered
        obtain ⟨count, last, dense⟩ :=
          inductionHypothesis earlierSmooth earlierFiltered
        refine ⟨count, by simpa [acceptances, accepted] using last, ?_⟩
        exact (Stage.indices_handOn_of_kind_ne_filter notFilter applied).trans
          dense
      · exact ⟨count, by simp [acceptances, accepted],
          Stage.indices_handOn_of_acceptance? accepted⟩

/-- Without a filter every element leaves the chain at its raw position. -/
theorem indices_of_unfiltered
    (smooth : (chain.feedRow arrivals).aborts = [])
    (unfiltered : .filter ∉ chain.kinds) :
    (chain.feedRow arrivals).departures.map Arrival.index =
      arrivals.map Arrival.index := by
  induction chain with
  | source =>
      rw [departures_source]
  | link earlier stage inductionHypothesis =>
      have linked := earlier.feedRow_link stage arrivals
      obtain ⟨earlierSmooth, applied⟩ := linked.smooth smooth
      simp only [kinds, List.mem_append, List.mem_singleton, not_or] at unfiltered
      obtain ⟨earlierUnfiltered, notFilter⟩ := unfiltered
      rw [linked.departures,
        Stage.indices_handOn_of_kind_ne_filter (Ne.symm notFilter) applied]
      exact inductionHypothesis earlierSmooth earlierUnfiltered

/-- A stage with a filter before it receives the indices that the nearest one gives. -/
theorem indices_received
    (earlier : Chain Base ε context source before)
    (stage : Stage Base ε context before after)
    (later : Script Base ε context after element)
    (smooth :
      (((earlier.link stage).followedBy later).feedRow arrivals).aborts = [])
    (filtered : .filter ∈ earlier.kinds) :
    ∃ count ∈ (earlier.acceptances arrivals).getLast?,
      (callsAt earlier.length
          (((earlier.link stage).followedBy later).feedRow
            arrivals).calls).map Call.index =
        List.range count := by
  have linkSmooth :=
    ((earlier.link stage).feedRow_followedBy later arrivals).1 smooth
  have earlierSmooth := ((earlier.feedRow_link stage arrivals).smooth linkSmooth).1
  obtain ⟨count, last, dense⟩ := indices_of_filtered earlierSmooth filtered
  refine ⟨count, last, ?_⟩
  rw [received_feedRow, List.map_map]
  exact dense

/-- What the counters, the indices and the calls of a chain are that was fed. -/
structure Dense
    (chain : Chain Base ε context source element)
    (arrivals : List (Arrival Base context source))
    (row : FedRow Base ε context element chain.Counters) :
    Prop where
  /-- Each counter is the number of elements that the filter accepted. -/
  counted : chain.filterCounts row.counters = chain.acceptances arrivals
  declining :
    (chain.filterCounts row.counters).Pairwise
      fun upstream downstream => downstream ≤ upstream
  bounded :
    ∀ count ∈ chain.filterCounts row.counters, count ≤ arrivals.length
  /-- The last filter numbers what leaves the chain from zero without a gap. -/
  numbered :
    row.aborts = [] →
    .filter ∈ chain.kinds →
    ∃ count ∈ (chain.acceptances arrivals).getLast?,
      row.departures.map Arrival.index = List.range count
  unnumbered :
    row.aborts = [] →
    .filter ∉ chain.kinds →
    row.departures.map Arrival.index = arrivals.map Arrival.index
  /-- A stage is called on what leaves the stages before it. -/
  received :
    ∀ {before after : ValueType Name}
      (earlier : Chain Base ε context source before)
      (stage : Stage Base ε context before after)
      (later : Script Base ε context after element),
      chain = (earlier.link stage).followedBy later →
      callsAt earlier.length row.calls =
        (earlier.feedRow arrivals).departures.map
          (Arrival.call earlier.length)
  /-- The last filter before a stage numbers its calls from zero without a gap. -/
  receivedNumbered :
    ∀ {before after : ValueType Name}
      (earlier : Chain Base ε context source before)
      (stage : Stage Base ε context before after)
      (later : Script Base ε context after element),
      chain = (earlier.link stage).followedBy later →
      row.aborts = [] →
      .filter ∈ earlier.kinds →
      ∃ count ∈ (earlier.acceptances arrivals).getLast?,
        (callsAt earlier.length row.calls).map Call.index =
          List.range count
  /-- On fewer elements than there are words, counting in words is counting. -/
  inWords :
    arrivals.length < Word.count →
    chain.feedRowWith Word.next arrivals = row

/--
Counters are dense and never wrap.  After any elements, fed with any raw positions,
the counter of every filter is the number of elements that its predicate accepted;
counters do not increase from one filter to the next and do not exceed the number of
elements fed.  Every stage is called on what leaves the stages before it.  If nothing
aborts, elements leave the last filter of a chain, or of the stages before a given one,
numbered from zero without a gap; without a filter each leaves at its raw position.
Hence counting in words is counting, on fewer elements than there are words, both for
a chain that is fed by hand and for a run.
-/
theorem counters_dense
    (chain : Chain Base ε context source element)
    (arrivals : List (Arrival Base context source)) :
    chain.Dense arrivals (chain.feedRow arrivals) ∧
      ∀ {output : ValueType Name}
        (procedure : Fused Base ε context source element output)
        (elements : List (source.Value Base))
        (environment : context.Value Base),
        elements.length < Word.count →
        procedure.runInWords elements environment =
          procedure.run elements environment := by
  have counted := chain.filterCounts_feedRow arrivals
  refine ⟨⟨counted, ?_, chain.filterCounts_feedRow_le arrivals,
    indices_of_filtered, indices_of_unfiltered, ?_, ?_,
    chain.feedRowWith_words⟩, ?_⟩
  · rw [counted]
    exact acceptances_decline
  · rintro before after earlier stage later rfl
    exact received_feedRow earlier stage later arrivals
  · rintro before after earlier stage later rfl
    exact indices_received earlier stage later
  · intro output procedure elements environment small
    exact procedure.runInWords_eq small environment

/-- Keeps every second number, by its index. -/
def everySecond :
    Stage (fun _ : Empty => Unit) String .unit .position .position :=
  .filter (.plain fun _ index => .ok (index % 2 == 0))

/-- Keeps every second odd number and looks at what is left. -/
def everySecondOdd :
    Chain (fun _ : Empty => Unit) String .unit .position .position :=
  ((Chain.source.link .keepingOdds).link everySecond).followedBy
    (.stage (.forEach (.plain fun _ _ => .ok ())) .done)

/-- Numbers whose raw positions are out of order and in part the same. -/
def scattered : List (Arrival (fun _ : Empty => Unit) .unit .position) :=
  [⟨1, 9, ()⟩, ⟨2, 9, ()⟩, ⟨3, 4, ()⟩, ⟨5, 0, ()⟩, ⟨6, 7, ()⟩, ⟨7, 7, ()⟩]

/--
Four odd numbers reach the second filter as 0, 1, 2, 3 and two of them are left as
0 and 1, whatever their positions, and just so in words; a chain of no stages leaves
the positions as they are.
-/
theorem counters_dense_everySecondOdd :
    let row := everySecondOdd.feedRow scattered
    let untouched : Chain (fun _ : Empty => Unit) String .unit .position _ :=
      .source
    let procedure : Fused (fun _ : Empty => Unit) String .unit .position
        .position (.list .position) :=
      ⟨0, everySecondOdd, .collect,
        .ofQueue (.ofList [.plain .filter, .plain .filter, .plain .forEach])⟩
    everySecondOdd.filterCounts row.counters = [4, 2] ∧
      row.departures.map Arrival.index = [0, 1] ∧
      (callsAt 1 row.calls).map Call.index = [0, 1, 2, 3] ∧
      everySecondOdd.feedRowWith Word.next scattered = row ∧
      procedure.runInWords [1, 2, 3] () = procedure.run [1, 2, 3] () ∧
      (untouched.feedRow scattered).departures.map Arrival.index =
        [9, 9, 4, 0, 7, 7] := by
  intro row untouched procedure
  obtain ⟨dense, runs⟩ := counters_dense everySecondOdd scattered
  obtain ⟨untouchedDense, _⟩ := counters_dense untouched scattered
  have four : everySecondOdd.acceptances scattered = [4, 2] := by decide
  obtain ⟨count, last, leaving⟩ := dense.numbered rfl (by decide)
  obtain ⟨reachingCount, reachingLast, reaching⟩ :=
    dense.receivedNumbered (.link .source .keepingOdds) everySecond _ rfl rfl
      (by decide)
  refine ⟨dense.counted.trans four, ?_, ?_, dense.inWords (by decide),
    runs procedure [1, 2, 3] () (by decide),
    untouchedDense.unnumbered rfl (by decide)⟩
  · cases last
    exact leaving
  · cases reachingLast
    exact reaching

end Chain

end OnePass
