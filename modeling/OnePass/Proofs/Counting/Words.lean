import OnePass.Proofs.Counting.Row
import OnePass.Word

namespace OnePass

/-!
# Counting in words

In words of 64 bits zero follows the last word, so a counter that gets there starts
anew.  But an element raises the counter of a filter by one at most: while fewer
elements were fed than there are words, no counter gets there, and counting in words
is counting.
-/

variable {Name : Type} {Base : Name → Type} {ε : Type}
variable {context source before after element output : ValueType Name}

/-- The next word is the next number, unless zero follows. -/
theorem Word.next_of_lt
    {value : Nat}
    (small : value + 1 < count) :
    next value = value + 1 :=
  Nat.mod_eq_of_lt small

/-- Of the words of 64 bits, the last one alone is not followed by the next number. -/
example :
    Word.count = 2 ^ 64 ∧
      Word.next (Word.count - 2) = Word.count - 1 ∧
      Word.next (Word.count - 1) = 0 := by
  decide

/-! ## The counters of the filters -/

namespace Stage

variable {stage : Stage Base ε context before after}
variable {counter : stage.Counter}

/-- A counter advances as if without bound where the two ways to advance agree. -/
theorem advanced_of_agrees
    {advance : Nat → Nat}
    (agrees : ∀ count ∈ stage.filterCount? counter, advance count = count + 1) :
    stage.advanced advance counter = stage.advanced Nat.succ counter := by
  cases stage with
  | filter predicate =>
      exact agrees counter rfl
  | map | forEach =>
      rfl

/-- A counter advances by one. -/
theorem filterCount?_advanced_le
    {bound : Nat}
    (bounded : ∀ count ∈ stage.filterCount? counter, count ≤ bound) :
    ∀ count ∈ stage.filterCount? (stage.advanced Nat.succ counter),
      count ≤ bound + 1 := by
  cases stage with
  | filter predicate =>
      rintro count ⟨⟩
      exact Nat.succ_le_succ (bounded counter rfl)
  | map | forEach =>
      simp [filterCount?]

end Stage

namespace Chain

/-- The counters of the filters of a chain, in the order in which elements pass them. -/
def filterCounts
    (chain : Chain Base ε context source element)
    (counters : chain.Counters) :
    List Nat :=
  (chain.counts counters).filterMap id

/-- The filters of a chain with a last stage are those before it and itself. -/
theorem filterCounts_link
    (earlier : Chain Base ε context source before)
    (stage : Stage Base ε context before after)
    (counters : (earlier.link stage).Counters) :
    (earlier.link stage).filterCounts counters =
      earlier.filterCounts counters.1 ++
        (stage.filterCount? counters.2).toList := by
  simp only [filterCounts, counts, List.filterMap_append]
  cases stage.filterCount? counters.2 <;> rfl

variable {chain : Chain Base ε context source element}
variable {counters : chain.Counters}

/-- Every filter starts from zero. -/
theorem filterCounts_fresh
    (chain : Chain Base ε context source element) :
    ∀ count ∈ chain.filterCounts chain.fresh, count = 0 := by
  induction chain with
  | source =>
      simp [filterCounts, counts]
  | link earlier stage inductionHypothesis =>
      intro count member
      rw [filterCounts_link] at member
      rcases List.mem_append.mp member with isEarlier | isLast
      · exact inductionHypothesis count isEarlier
      · cases stage with
        | filter predicate =>
            exact List.mem_singleton.mp isLast
        | map | forEach =>
            contradiction

/-- What holds of all filters holds of those before the last stage and of itself. -/
theorem forall_mem_filterCounts_link
    {earlier : Chain Base ε context source before}
    {stage : Stage Base ε context before after}
    {counters : (earlier.link stage).Counters}
    {property : Nat → Prop} :
    (∀ count ∈ (earlier.link stage).filterCounts counters, property count) ↔
      (∀ count ∈ earlier.filterCounts counters.1, property count) ∧
        ∀ count ∈ stage.filterCount? counters.2, property count := by
  simp [filterCounts_link, List.mem_append, or_imp, forall_and]

/-- An element raises no counter by more than one. -/
theorem filterCounts_feedWith_le
    {bound : Nat}
    (bounded : ∀ count ∈ chain.filterCounts counters, count ≤ bound)
    (value : source.Value Base)
    (raw : Nat)
    (environment : context.Value Base) :
    ∀ count ∈
        chain.filterCounts
          (chain.feedWith Nat.succ value raw environment counters).counters,
      count ≤ bound + 1 := by
  induction chain with
  | source =>
      simp [filterCounts, counts]
  | link earlier stage inductionHypothesis =>
      obtain ⟨earlierBounded, stageBounded⟩ :=
        forall_mem_filterCounts_link.mp bounded
      have earlierRaised := inductionHypothesis earlierBounded
      have stageKept :
          ∀ count ∈ stage.filterCount? counters.2, count ≤ bound + 1 :=
        fun count member => Nat.le_succ_of_le (stageBounded count member)
      have step :=
        feedWith_link Nat.succ earlier stage value raw environment counters
      generalize (earlier.link stage).feedWith Nat.succ value raw environment
        counters = fed at step ⊢
      rw [forall_mem_filterCounts_link]
      cases step with
      | earlierAborts | earlierDrops | aborts | drops =>
          exact ⟨earlierRaised, stageKept⟩
      | handsOn =>
          exact ⟨earlierRaised, Stage.filterCount?_advanced_le stageBounded⟩

/-- No filter counts more elements than were fed. -/
theorem filterCounts_feedRow_le
    (chain : Chain Base ε context source element)
    (arrivals : List (Arrival Base context source)) :
    ∀ count ∈ chain.filterCounts (chain.feedRow arrivals).counters,
      count ≤ arrivals.length := by
  induction arrivals using List.reverseRecOn with
  | nil =>
      intro count member
      exact Nat.le_of_eq (chain.filterCounts_fresh count member)
  | append_singleton taken arrival inductionHypothesis =>
      simp only [feedRow, feedRowWith_snoc, List.length_append,
        List.length_singleton] at inductionHypothesis ⊢
      exact filterCounts_feedWith_le inductionHypothesis _ _ _

/-! ## Agreement -/

/-- A chain does the same with an element where the two ways to advance agree. -/
theorem feedWith_of_agrees
    {advance : Nat → Nat}
    (agrees : ∀ count ∈ chain.filterCounts counters, advance count = count + 1)
    (value : source.Value Base)
    (raw : Nat)
    (environment : context.Value Base) :
    chain.feedWith advance value raw environment counters =
      chain.feedWith Nat.succ value raw environment counters := by
  induction chain with
  | source =>
      rfl
  | link earlier stage inductionHypothesis =>
      obtain ⟨earlierAgrees, stageAgrees⟩ :=
        forall_mem_filterCounts_link.mp agrees
      simp only [feedWith, Stage.process, inductionHypothesis earlierAgrees,
        Stage.advanced_of_agrees stageAgrees]

/-- In words a chain does the same with an element that comes after few enough others. -/
theorem feedWith_words
    {fed : Nat}
    (bounded : ∀ count ∈ chain.filterCounts counters, count ≤ fed)
    (small : fed + 1 < Word.count)
    (value : source.Value Base)
    (raw : Nat)
    (environment : context.Value Base) :
    chain.feedWith Word.next value raw environment counters =
      chain.feedWith Nat.succ value raw environment counters := by
  apply feedWith_of_agrees
  intro count member
  have atMost := bounded count member
  exact Word.next_of_lt (by omega)

/-- In words a chain does the same with a row of fewer elements than there are words. -/
theorem feedRowWith_words
    (chain : Chain Base ε context source element)
    {arrivals : List (Arrival Base context source)}
    (small : arrivals.length < Word.count) :
    chain.feedRowWith Word.next arrivals = chain.feedRow arrivals := by
  induction arrivals using List.reverseRecOn with
  | nil =>
      rfl
  | append_singleton taken arrival inductionHypothesis =>
      rw [List.length_append, List.length_singleton] at small
      have same := inductionHypothesis (Nat.lt_of_succ_lt small)
      have fedSame :=
        feedWith_words (chain.filterCounts_feedRow_le taken) small
          arrival.value arrival.index arrival.environment
      simp only [feedRow, feedRowWith_snoc] at same fedSame ⊢
      simp only [feedNextWith, same, fedSame]

end Chain

/-! ## Runs -/

/--
In words a run goes the same way over its rest if, together with what it has taken,
the rest has fewer elements than there are words.
-/
theorem loopWith_words
    {chain : Chain Base ε context source element}
    {terminal : Terminal Base ε context element output}
    {environment : context.Value Base}
    {elements : List (source.Value Base)}
    {raw : Nat}
    {counters : chain.Counters}
    (bounded : ∀ count ∈ chain.filterCounts counters, count ≤ raw)
    (small : raw + elements.length < Word.count)
    (state : terminal.State) :
    loopWith Word.next chain terminal environment elements raw counters state =
      loopWith Nat.succ chain terminal environment elements raw counters
        state := by
  induction elements generalizing raw counters state with
  | nil =>
      rfl
  | cons value rest inductionHypothesis =>
      rw [List.length_cons] at small
      have nextSmall : raw + 1 < Word.count := by omega
      have fedSame :=
        Chain.feedWith_words bounded nextSmall value raw environment
      -- Neither the position nor a counter has reached the last word.
      have restSame (next : terminal.State) :=
        inductionHypothesis
          (Chain.filterCounts_feedWith_le bounded value raw environment)
          (by omega) next
      simp only [loopWith, fedSame, Word.next_of_lt nextSmall, restSame]

namespace Fused

/-- Run over elements, counting in words. -/
def runInWords
    (procedure : Fused Base ε context source element output)
    (elements : List (source.Value Base))
    (environment : context.Value Base) :
    Run Base ε (output.Value Base) :=
  runWith Word.next procedure.chain procedure.terminal
    (procedure.plan.shape.capacity elements.length) elements environment

/-- In words a run over fewer elements than there are words is the same. -/
theorem runInWords_eq
    (procedure : Fused Base ε context source element output)
    {elements : List (source.Value Base)}
    (small : elements.length < Word.count)
    (environment : context.Value Base) :
    procedure.runInWords elements environment =
      procedure.run elements environment := by
  have bounded :
      ∀ count ∈ procedure.chain.filterCounts procedure.chain.fresh,
        count ≤ 0 :=
    fun count member =>
      Nat.le_of_eq (procedure.chain.filterCounts_fresh count member)
  simp only [runInWords, run, runWith,
    loopWith_words bounded (by simpa using small)]

end Fused

end OnePass
