import OnePass.Staged

namespace OnePass

/-!
# Terminals applied to whole lists

A terminal takes in elements one by one until they end, until it stops, or until
its callback aborts.  Applied to the list of all elements that reach it, it yields
exactly what taking them in yields, and it makes exactly the calls of the elements
taken in.
-/

variable {Name : Type} {Base : Name → Type} {ε : Type}
variable {context element output : ValueType Name}

namespace Terminal

/-- Take in elements with their indices until they end or the terminal does. -/
def absorb
    (terminal : Terminal Base ε context element output)
    (environment : context.Value Base) :
    (state : terminal.State) →
      (values : List (element.Value Base × Nat)) →
      Except ε (Step terminal.State (output.Value Base))
  | state, [] => .ok (.proceed state)
  | state, (value, index) :: rest =>
      match terminal.accept state value index environment with
      | .error reason => .error reason
      | .ok (.stop result) => .ok (.stop result)
      | .ok (.proceed next) => terminal.absorb environment next rest

/-- The elements taken in, with the one on which the terminal stops or aborts. -/
def attended
    (terminal : Terminal Base ε context element output)
    (environment : context.Value Base) :
    (state : terminal.State) →
      (values : List (element.Value Base × Nat)) →
      List (element.Value Base × Nat)
  | _, [] => []
  | state, (value, index) :: rest =>
      match terminal.accept state value index environment with
      | .ok (.proceed next) =>
          (value, index) :: terminal.attended environment next rest
      | _ => [(value, index)]

/-- The result if the elements end after a step. -/
def resultOf
    (terminal : Terminal Base ε context element output) :
    Step terminal.State (output.Value Base) → output.Value Base
  | .proceed state => terminal.finish state
  | .stop result => result

variable {environment : context.Value Base}

/-- Taking in a concatenation goes on where taking in its first part ended. -/
theorem absorb_append
    (terminal : Terminal Base ε context element output)
    (state : terminal.State)
    (first later : List (element.Value Base × Nat)) :
    terminal.absorb environment state (first ++ later) =
      match terminal.absorb environment state first with
      | .error reason => .error reason
      | .ok (.stop result) => .ok (.stop result)
      | .ok (.proceed next) => terminal.absorb environment next later := by
  induction first generalizing state with
  | nil =>
      rfl
  | cons pair rest inductionHypothesis =>
      simp only [List.cons_append, absorb]
      rcases terminal.accept state pair.1 pair.2 environment with
        reason | (next | result)
      · rfl
      · exact inductionHypothesis next
      · rfl

/-- Elements that a terminal takes in without ending are all attended to. -/
theorem attended_append_of_proceed
    {terminal : Terminal Base ε context element output}
    {state next : terminal.State}
    {first : List (element.Value Base × Nat)}
    (absorbed :
      terminal.absorb environment state first = .ok (.proceed next))
    (later : List (element.Value Base × Nat)) :
    terminal.attended environment state (first ++ later) =
      first ++ terminal.attended environment next later := by
  induction first generalizing state with
  | nil =>
      simp only [absorb, Except.ok.injEq, Step.proceed.injEq] at absorbed
      rw [absorbed, List.nil_append, List.nil_append]
  | cons pair rest inductionHypothesis =>
      simp only [List.cons_append, absorb, attended] at absorbed ⊢
      rcases accepted : terminal.accept state pair.1 pair.2 environment with
        reason | (middle | result)
      · simp [accepted] at absorbed
      · simp only [accepted] at absorbed ⊢
        rw [inductionHypothesis absorbed]
      · simp [accepted] at absorbed

/-! ## Collecting, folding and joining -/

/-- A collection takes in every element. -/
theorem absorb_collect
    (buffer : Buffer (element.Value Base))
    (values : List (element.Value Base × Nat)) :
    (Terminal.collect : Terminal Base ε context element (.list element)).absorb
        environment buffer values =
      .ok (.proceed
        { buffer with
          items := buffer.items ++ (values.map Prod.fst).toArray }) := by
  induction values generalizing buffer with
  | nil =>
      simp [absorb]
  | cons pair rest inductionHypothesis =>
      simp only [absorb, accept]
      rw [inductionHypothesis]
      simp

section Reduce

variable {accumulator : ValueType Name}
variable
  {reducer :
    Callback ε (context.Value Base)
      (accumulator.Value Base × element.Value Base)
      (accumulator.Value Base)}
variable {seed : Seed ε (accumulator.Value Base)}

/-- A reduce folds the elements from the left. -/
theorem absorb_reduce
    (state : accumulator.Value Base)
    (values : List (element.Value Base × Nat)) :
    (Terminal.reduce reducer seed).absorb environment state values =
      (foldIndexed
        (fun state value position =>
          reducer.call (state, value) position environment)
        state values).map .proceed := by
  induction values generalizing state with
  | nil =>
      rfl
  | cons pair rest inductionHypothesis =>
      simp only [absorb, accept, foldIndexed]
      cases reducer.call (state, pair.1) pair.2 environment with
      | error reason =>
          rfl
      | ok next =>
          exact inductionHypothesis next

/-- A reduce attends to the elements that the fold takes in. -/
theorem attended_reduce
    (state : accumulator.Value Base)
    (values : List (element.Value Base × Nat)) :
    (Terminal.reduce reducer seed).attended environment state values =
      foldedOver
        (fun state value position =>
          reducer.call (state, value) position environment)
        state values := by
  induction values generalizing state with
  | nil =>
      rfl
  | cons pair rest inductionHypothesis =>
      simp only [attended, accept, foldedOver]
      cases reducer.call (state, pair.1) pair.2 environment with
      | error reason =>
          rfl
      | ok next =>
          simp only [inductionHypothesis]

end Reduce

section Join

variable {separator : String} {display : element.Value Base → String}

/-- Past the first index, a join writes its separator before every element. -/
theorem absorb_join_later
    (text : String)
    (values : List (element.Value Base))
    (position : Nat) :
    (Terminal.join separator display :
        Terminal Base ε context element .text).absorb
        environment text (values.zipIdx (position + 1)) =
      .ok (.proceed
        (separator.intercalate (text :: values.map display))) := by
  induction values generalizing text position with
  | nil =>
      simp [absorb]
  | cons value rest inductionHypothesis =>
      simp only [List.zipIdx_cons, absorb, accept, Nat.zero_lt_succ, ↓reduceIte,
        List.map_cons]
      rw [inductionHypothesis, String.intercalate_cons_append,
        String.intercalate_cons_cons]

/-- A join puts its separator between the display forms of the elements. -/
theorem absorb_join
    (values : List (element.Value Base)) :
    (Terminal.join separator display :
        Terminal Base ε context element .text).absorb
        environment "" values.zipIdx =
      .ok (.proceed (separator.intercalate (values.map display))) := by
  cases values with
  | nil =>
      rfl
  | cons value rest =>
      simp only [List.zipIdx_cons, absorb, accept, Nat.lt_irrefl, ↓reduceIte,
        List.map_cons, String.empty_append]
      exact absorb_join_later _ rest 0

end Join

/-! ## Searching -/

/--
A terminal searches by a test if it stops exactly at the elements that pass it,
with the given answer.
-/
def SearchesBy
    (terminal : Terminal Base ε context element output)
    (environment : context.Value Base)
    (test : element.Value Base → Nat → Except ε Bool)
    (answer : element.Value Base → Nat → output.Value Base) :
    Prop :=
  ∀ state value index,
    terminal.accept state value index environment =
      (test value index).map fun passes =>
        if passes then .stop (answer value index) else .proceed state

section Search

variable {terminal : Terminal Base ε context element output}
variable {test : element.Value Base → Nat → Except ε Bool}
variable {answer : element.Value Base → Nat → output.Value Base}

/-- A search ends at the first match and goes on without one. -/
theorem SearchesBy.absorb_eq
    (searches : terminal.SearchesBy environment test answer)
    (state : terminal.State)
    (values : List (element.Value Base × Nat)) :
    terminal.absorb environment state values =
      (firstMatch test values).map fun found =>
        match found with
        | Option.some (value, index) => .stop (answer value index)
        | none => .proceed state := by
  induction values with
  | nil =>
      rfl
  | cons pair rest inductionHypothesis =>
      simp only [absorb, firstMatch]
      rw [searches]
      rcases test pair.1 pair.2 with reason | (_ | _)
      · rfl
      · exact inductionHypothesis
      · rfl

/-- A search attends to the elements up to the first match. -/
theorem SearchesBy.attended_eq
    (searches : terminal.SearchesBy environment test answer)
    (state : terminal.State)
    (values : List (element.Value Base × Nat)) :
    terminal.attended environment state values = lookedAt test values := by
  induction values with
  | nil =>
      rfl
  | cons pair rest inductionHypothesis =>
      simp only [attended, lookedAt]
      rw [searches]
      rcases test pair.1 pair.2 with reason | (_ | _)
      · rfl
      · simpa [Except.map] using inductionHypothesis
      · rfl

end Search

/-- A find searches by its predicate. -/
theorem find_searchesBy
    (predicate : Callback ε (context.Value Base) (element.Value Base) Bool) :
    (Terminal.find predicate).SearchesBy environment
      (predicate.test environment) (fun value _ => Option.some value) := by
  intro state value index
  simp only [accept, Callback.test]
  rcases predicate.call value index environment with reason | (_ | _) <;> rfl

/-- A find of an index searches by its predicate. -/
theorem findIndex_searchesBy
    (predicate : Callback ε (context.Value Base) (element.Value Base) Bool) :
    (Terminal.findIndex predicate).SearchesBy environment
      (predicate.test environment) (fun _ index => Option.some index) := by
  intro state value index
  simp only [accept, Callback.test]
  rcases predicate.call value index environment with reason | (_ | _) <;> rfl

/-- Asking whether any element is accepted searches for one that is. -/
theorem some_searchesBy
    (predicate : Callback ε (context.Value Base) (element.Value Base) Bool) :
    (Terminal.some predicate).SearchesBy environment
      (predicate.test environment) (fun _ _ => true) := by
  intro state value index
  simp only [accept, Callback.test]
  rcases predicate.call value index environment with reason | (_ | _) <;> rfl

/-- Asking whether every element is accepted searches for one that is not. -/
theorem every_searchesBy
    (predicate : Callback ε (context.Value Base) (element.Value Base) Bool) :
    (Terminal.every predicate).SearchesBy environment
      (predicate.counterTest environment) (fun _ _ => false) := by
  intro state value index
  simp only [accept, Callback.counterTest]
  rcases predicate.call value index environment with reason | (_ | _) <;> rfl

/-! ## Every terminal -/

/--
Applying a terminal to a whole list yields what taking its elements in one by one
yields, whatever room was reserved.
-/
theorem staged_outcome
    (terminal : Terminal Base ε context element output)
    (place capacity : Nat)
    (values : List (element.Value Base)) :
    (terminal.staged place environment values).outcome =
      (terminal.absorb environment (terminal.start capacity)
        values.zipIdx).map terminal.resultOf := by
  cases terminal with
  | collect =>
      simp [staged, start, absorb_collect, resultOf, finish, Except.map]
  | reduce reducer seed =>
      simp only [staged, start, absorb_reduce]
      cases foldIndexed
          (fun state value position =>
            reducer.call (state, value) position environment)
          seed.initial values.zipIdx <;>
        rfl
  | join separator display =>
      simp [staged, start, absorb_join, resultOf, finish, Except.map]
  | find predicate =>
      rw [(find_searchesBy predicate).absorb_eq]
      simp only [staged]
      rcases firstMatch (predicate.test environment) values.zipIdx with
        reason | (_ | _) <;>
        rfl
  | findIndex predicate =>
      rw [(findIndex_searchesBy predicate).absorb_eq]
      simp only [staged]
      rcases firstMatch (predicate.test environment) values.zipIdx with
        reason | (_ | _) <;>
        rfl
  | some predicate =>
      rw [(some_searchesBy predicate).absorb_eq]
      simp only [staged]
      rcases firstMatch (predicate.test environment) values.zipIdx with
        reason | (_ | _) <;>
        rfl
  | every predicate =>
      rw [(every_searchesBy predicate).absorb_eq]
      simp only [staged]
      rcases firstMatch (predicate.counterTest environment) values.zipIdx with
        reason | (_ | _) <;>
        rfl

/-- Applying a terminal to a whole list calls back on the elements it attends to. -/
theorem staged_calls
    (terminal : Terminal Base ε context element output)
    (place capacity : Nat)
    (values : List (element.Value Base)) :
    (terminal.staged place environment values).calls =
      if terminal.hasCallback then
        callsOn place
          (terminal.attended environment (terminal.start capacity)
            values.zipIdx)
      else [] := by
  cases terminal with
  | collect =>
      rfl
  | reduce reducer seed =>
      simp only [staged, hasCallback, start, attended_reduce, ↓reduceIte]
  | join separator display =>
      rfl
  | find predicate =>
      rw [(find_searchesBy predicate).attended_eq]
      rfl
  | findIndex predicate =>
      rw [(findIndex_searchesBy predicate).attended_eq]
      rfl
  | some predicate =>
      rw [(some_searchesBy predicate).attended_eq]
      rfl
  | every predicate =>
      rw [(every_searchesBy predicate).attended_eq]
      rfl

end Terminal

end OnePass
