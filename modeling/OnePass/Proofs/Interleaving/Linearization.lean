import Mathlib.Data.List.Nodup
import OnePass.Interleaving

namespace OnePass

/-!
# Sections under one lock linearize

Whatever the schedule, the threads that have finished did so with the answers, and
left the shared state, of their sections carried out one after another in the order
in which they took the lock.  The thread that holds the lock is the last one of that
order, and what remains of its section leads to where the whole section would.
-/

variable {σ ρ : Type}

/-- Sections carried out one after another can be split anywhere. -/
theorem Section.performAll_append
    (first later : List (Section σ ρ))
    (state : σ) :
    performAll (first ++ later) state =
      ((performAll first state).1 ++
          (performAll later (performAll first state).2).1,
        (performAll later (performAll first state).2).2) := by
  induction first generalizing state with
  | nil =>
      rfl
  | cons task rest inductionHypothesis =>
      simp [performAll, inductionHypothesis]

/-- The items of the given threads, in the order of the threads. -/
def inOrder
    {α : Type}
    (items : List α)
    (threads : List Nat) :
    List α :=
  threads.filterMap fun thread => items[thread]?

/-- What is made of the items of threads is what is made of each thread's item. -/
theorem inOrder_map
    {α β : Type}
    (change : α → β)
    (items : List α)
    (threads : List Nat) :
    inOrder (items.map change) threads =
      (inOrder items threads).map change := by
  simp [inOrder, List.map_filterMap]

/-- All threads in some order have all items in some order. -/
theorem inOrder_perm
    {α : Type}
    {items : List α}
    {order : List Nat}
    (all : order.Perm (List.range items.length)) :
    (inOrder items order).Perm items := by
  have places :
      (List.range items.length).map (fun thread => items[thread]?) =
        items.map some := by
    apply List.ext_getElem <;> simp
  have listed : inOrder items (List.range items.length) = items := by
    have same := congrArg (List.filterMap id) places
    simpa [List.filterMap_map, inOrder, Function.comp_def] using same
  have permuted := all.filterMap fun thread => items[thread]?
  rwa [← inOrder, ← inOrder, listed] at permuted

/-- The section of one more thread is carried out after the others. -/
theorem performAll_inOrder_snoc
    {tasks : List (Section σ ρ)}
    {thread : Nat}
    {task : Section σ ρ}
    (given : tasks[thread]? = some task)
    (earlier : List Nat)
    (state : σ) :
    Section.performAll (inOrder tasks (earlier ++ [thread])) state =
      ((Section.performAll (inOrder tasks earlier) state).1 ++
          [(task.perform
            (Section.performAll (inOrder tasks earlier) state).2).1],
        (task.perform
          (Section.performAll (inOrder tasks earlier) state).2).2) := by
  have split :
      inOrder tasks (earlier ++ [thread]) = inOrder tasks earlier ++ [task] := by
    simp [inOrder, given]
  rw [split, Section.performAll_append]
  rfl

/-- The given threads have finished with these answers. -/
def Finished
    (threads : List (Thread σ ρ))
    (order : List Nat)
    (answers : List ρ) :
    Prop :=
  order.map (fun thread => threads[thread]?) =
    answers.map fun answer => some (.finished answer)

namespace Finished

variable {threads : List (Thread σ ρ)} {order : List Nat} {answers : List ρ}

/-- A thread that has finished has an answer. -/
theorem exists_answer
    (finished : Finished threads order answers)
    {thread : Nat}
    (member : thread ∈ order) :
    ∃ answer ∈ answers, threads[thread]? = some (.finished answer) := by
  have place :
      threads[thread]? ∈
        answers.map fun answer => some (Thread.finished answer) := by
    rw [← finished]
    exact List.mem_map_of_mem member
  obtain ⟨answer, answered, same⟩ := List.mem_map.mp place
  exact ⟨answer, answered, same.symm⟩

/-- What relates items to answers in order relates them thread by thread. -/
theorem related
    {α : Type}
    {items : List α}
    {Related : α → ρ → Prop}
    (finished : Finished threads order answers)
    (relates : List.Forall₂ Related (inOrder items order) answers)
    (bounded : ∀ thread ∈ order, thread < items.length)
    {thread : Nat}
    (member : thread ∈ order)
    {item : α}
    (given : items[thread]? = some item)
    {answer : ρ}
    (place : threads[thread]? = some (.finished answer)) :
    Related item answer := by
  induction order generalizing answers with
  | nil =>
      cases member
  | cons first rest inductionHypothesis =>
      have firstGiven := List.getElem?_eq_getElem (bounded first (.head _))
      rw [inOrder, List.filterMap_cons_some firstGiven] at relates
      cases relates with
      | @cons _ firstAnswer _ laterAnswers relatesFirst relatesRest =>
          simp only [Finished, List.map_cons, List.cons.injEq] at finished
          rcases List.mem_cons.mp member with rfl | later
          · rw [given] at firstGiven
            rw [place] at finished
            cases firstGiven
            cases finished.1
            exact relatesFirst
          · exact inductionHypothesis finished.2 relatesRest
              (fun other isOther => bounded other (.tail _ isOther)) later

/-- Another thread's move changes nothing for those that have finished. -/
theorem set
    (finished : Finished threads order answers)
    {thread : Nat}
    (other : thread ∉ order)
    (place : Thread σ ρ) :
    Finished (threads.set thread place) order answers := by
  unfold Finished at finished ⊢
  rw [← finished]
  apply List.map_congr_left
  intro earlier member
  apply List.getElem?_set_ne
  rintro rfl
  exact other member

/-- One more thread finishes. -/
theorem snoc
    (finished : Finished threads order answers)
    {thread : Nat}
    {answer : ρ}
    (place : threads[thread]? = some (.finished answer)) :
    Finished threads (order ++ [thread]) (answers ++ [answer]) := by
  unfold Finished at finished ⊢
  simp [finished, place]

end Finished

namespace World

/-! ## The steps of a thread -/

/-- What one step of a thread leads to: it takes the lock, works, or is done. -/
inductive Stepped
    (world : World σ ρ)
    (thread : Nat) :
    World σ ρ → Prop where
  | acquires
      {task : Section σ ρ}
      (waits : world.threads[thread]? = some (.waiting task))
      (free : world.holder = none) :
      Stepped world thread
        { world.move thread (.inside task) with
          holder := some thread
          order := world.order ++ [thread] }
  | works
      {change : σ → σ}
      {next : σ → Section σ ρ}
      (inside : world.threads[thread]? = some (.inside (.step change next))) :
      Stepped world thread
        { world.move thread (.inside (next world.shared)) with
          shared := change world.shared }
  | leaves
      {task : Section σ ρ}
      {answer : ρ}
      (inside : world.threads[thread]? = some (.inside task))
      (ends : ∀ state, task.perform state = (answer, state))
      (poisoned : Bool) :
      Stepped world thread
        { world.move thread (.finished answer) with
          holder := none
          poisoned := poisoned }

/-- Every step is one of the three. -/
theorem stepped_of_step?
    {world next : World σ ρ}
    {thread : Nat}
    (step : world.step? thread = some next) :
    world.Stepped thread next := by
  unfold step? at step
  split at step
  · rename_i task waits
    split at step
    · contradiction
    · rename_i free
      cases step
      exact .acquires waits free
  · rename_i inside
    cases step
    exact .works inside
  · rename_i inside
    cases step
    exact .leaves inside (fun _ => rfl) world.poisoned
  · rename_i inside
    cases step
    exact .leaves inside (fun _ => rfl) true
  · contradiction
  · contradiction

/-! ## The invariant of a run -/

/-- Where the threads that have taken the lock stand. -/
inductive Turns
    (tasks : List (Section σ ρ))
    (shared : σ)
    (world : World σ ρ) :
    Prop where
  | free
      (holder : world.holder = none)
      (finished :
        Finished world.threads world.order
          (Section.performAll (inOrder tasks world.order) shared).1)
      (state :
        world.shared =
          (Section.performAll (inOrder tasks world.order) shared).2)
  | held
      {earlier : List Nat}
      {thread : Nat}
      {task remaining : Section σ ρ}
      (holder : world.holder = some thread)
      (order : world.order = earlier ++ [thread])
      (given : tasks[thread]? = some task)
      (finished :
        Finished world.threads earlier
          (Section.performAll (inOrder tasks earlier) shared).1)
      (inside : world.threads[thread]? = some (.inside remaining))
      (remains :
        remaining.perform world.shared =
          task.perform
            (Section.performAll (inOrder tasks earlier) shared).2)

/-- What holds of the world after any schedule. -/
structure Linear
    (tasks : List (Section σ ρ))
    (shared : σ)
    (world : World σ ρ) :
    Prop where
  length : world.threads.length = tasks.length
  /-- Every thread takes the lock once. -/
  once : world.order.Nodup
  waiting :
    ∀ thread,
      thread ∉ world.order →
      world.threads[thread]? = tasks[thread]?.map .waiting
  turns : world.Turns tasks shared

/-- At the start every thread waits. -/
theorem linear_start
    (tasks : List (Section σ ρ))
    (shared : σ) :
    (start tasks shared).Linear tasks shared where
  length := by
    simp [start]
  once := List.nodup_nil
  waiting := by
    intro thread _
    simp [start]
  turns := .free rfl rfl rfl

/-- In a complete world every thread has an answer. -/
theorem exists_answer_of_complete
    {world : World σ ρ}
    (complete : world.isComplete = true)
    {thread : Nat}
    {place : Thread σ ρ}
    (stands : world.threads[thread]? = some place) :
    ∃ answer, place = .finished answer := by
  have answered :=
    List.all_eq_true.mp complete place (List.mem_of_getElem? stands)
  cases place with
  | waiting | inside =>
      simp [Thread.answer?] at answered
  | finished answer =>
      exact ⟨answer, rfl⟩

namespace Linear

variable {tasks : List (Section σ ρ)} {shared : σ} {world next : World σ ρ}
variable {thread : Nat}

/-- A thread that waits has not taken the lock. -/
theorem given_of_waits
    (linear : world.Linear tasks shared)
    {task : Section σ ρ}
    (waits : world.threads[thread]? = some (.waiting task)) :
    thread ∉ world.order ∧ tasks[thread]? = some task := by
  have untaken : thread ∉ world.order := by
    intro taken
    cases linear.turns with
    | free holder finished state =>
        obtain ⟨answer, _, place⟩ := finished.exists_answer taken
        rw [place] at waits
        cases waits
    | held holder order given finished inside remains =>
        rw [order] at taken
        rcases List.mem_append.mp taken with isEarlier | isHolder
        · obtain ⟨answer, _, place⟩ := finished.exists_answer isEarlier
          rw [place] at waits
          cases waits
        · rw [List.mem_singleton.mp isHolder, inside] at waits
          cases waits
  refine ⟨untaken, ?_⟩
  rw [linear.waiting thread untaken] at waits
  simpa using waits

/-- A thread inside its section is the one that holds the lock. -/
theorem held_of_inside
    (linear : world.Linear tasks shared)
    {remaining : Section σ ρ}
    (inside : world.threads[thread]? = some (.inside remaining)) :
    ∃ earlier task,
      world.holder = some thread ∧
        world.order = earlier ++ [thread] ∧
        thread ∉ earlier ∧
        tasks[thread]? = some task ∧
        Finished world.threads earlier
          (Section.performAll (inOrder tasks earlier) shared).1 ∧
        remaining.perform world.shared =
          task.perform
            (Section.performAll (inOrder tasks earlier) shared).2 := by
  have taken : thread ∈ world.order := by
    by_contra untaken
    rw [linear.waiting thread untaken] at inside
    simp at inside
  cases linear.turns with
  | free holder finished state =>
      obtain ⟨answer, _, place⟩ := finished.exists_answer taken
      rw [place] at inside
      cases inside
  | @held earlier holding task _ holder order given finished holds remains =>
      rw [order] at taken
      rcases List.mem_append.mp taken with isEarlier | isHolder
      · obtain ⟨answer, _, place⟩ := finished.exists_answer isEarlier
        rw [place] at inside
        cases inside
      · obtain rfl := List.mem_singleton.mp isHolder
        rw [holds] at inside
        cases inside
        have once := linear.once
        rw [order] at once
        have untaken : thread ∉ earlier := by
          simpa using (List.nodup_append_comm.mp once).notMem
        exact ⟨earlier, task, holder, order, untaken, given, finished, remains⟩

/-- A thread that has taken the lock is moved without touching those that wait. -/
theorem waiting_set
    (linear : world.Linear tasks shared)
    {order : List Nat}
    (extends_order : world.order ⊆ order)
    (taken : thread ∈ order)
    (place : Thread σ ρ)
    (other : Nat)
    (untaken : other ∉ order) :
    (world.threads.set thread place)[other]? =
      tasks[other]?.map .waiting := by
  rw [List.getElem?_set_ne, linear.waiting other]
  · intro member
    exact untaken (extends_order member)
  · rintro rfl
    exact untaken taken

/-- The place of a thread that was moved. -/
theorem getElem?_set
    (linear : world.Linear tasks shared)
    {task : Section σ ρ}
    (given : tasks[thread]? = some task)
    (place : Thread σ ρ) :
    (world.threads.set thread place)[thread]? = some place := by
  apply List.getElem?_set_self
  rw [linear.length]
  exact (List.getElem?_eq_some_iff.mp given).1

/-- One step keeps the invariant. -/
theorem step
    (linear : world.Linear tasks shared)
    (stepped : world.Stepped thread next) :
    next.Linear tasks shared := by
  cases stepped with
  | acquires waits free =>
      obtain ⟨untaken, given⟩ := linear.given_of_waits waits
      refine ⟨by simpa [move] using linear.length, ?_, ?_, ?_⟩
      · exact List.nodup_append_comm.mp
          (List.nodup_cons.mpr ⟨untaken, linear.once⟩)
      · exact linear.waiting_set (List.subset_append_left _ _) (by simp) _
      · cases linear.turns with
        | held holder =>
            rw [free] at holder
            contradiction
        | free holder finished state =>
            exact .held rfl rfl given (finished.set untaken _)
              (linear.getElem?_set given _) (by rw [← state]; rfl)
  | works inside =>
      obtain ⟨earlier, task, holder, order, untaken, given, finished, remains⟩ :=
        linear.held_of_inside inside
      have taken : thread ∈ world.order := by simp [order]
      refine ⟨by simpa [move] using linear.length, linear.once, ?_, ?_⟩
      · exact linear.waiting_set (List.Subset.refl _) taken _
      · exact .held holder order given (finished.set untaken _)
          (linear.getElem?_set given _) remains
  | leaves inside ends poisoned =>
      obtain ⟨earlier, task, holder, order, untaken, given, finished, remains⟩ :=
        linear.held_of_inside inside
      have taken : thread ∈ world.order := by simp [order]
      have performed := performAll_inOrder_snoc given earlier shared
      rw [← remains, ends, ← order] at performed
      refine ⟨by simpa [move] using linear.length, linear.once, ?_, ?_⟩
      · exact linear.waiting_set (List.Subset.refl _) taken _
      · refine .free rfl ?_ ?_
        · simp only [move, performed]
          rw [order]
          exact (finished.set untaken _).snoc (linear.getElem?_set given _)
        · simp only [move, performed]

/-- A whole schedule keeps the invariant. -/
theorem run
    (linear : world.Linear tasks shared)
    {schedule : List Nat}
    (ran : world.run? schedule = some next) :
    next.Linear tasks shared := by
  induction schedule generalizing world with
  | nil =>
      cases ran
      exact linear
  | cons thread rest inductionHypothesis =>
      simp only [run?] at ran
      cases stepped : world.step? thread with
      | none =>
          simp [stepped] at ran
      | some between =>
          rw [stepped] at ran
          exact inductionHypothesis (linear.step (stepped_of_step? stepped)) ran

/-- Once every thread has finished, nobody holds the lock. -/
theorem finished_of_complete
    (linear : world.Linear tasks shared)
    (complete : world.isComplete = true) :
    Finished world.threads world.order
        (Section.performAll (inOrder tasks world.order) shared).1 ∧
      world.shared =
        (Section.performAll (inOrder tasks world.order) shared).2 := by
  cases linear.turns with
  | free holder finished state =>
      exact ⟨finished, state⟩
  | held holder order given finished inside remains =>
      obtain ⟨answer, same⟩ := exists_answer_of_complete complete inside
      cases same

/-- Once every thread has finished, every one has taken the lock. -/
theorem order_perm
    (linear : world.Linear tasks shared)
    (complete : world.isComplete = true) :
    world.order.Perm (List.range tasks.length) := by
  rw [List.perm_ext_iff_of_nodup linear.once List.nodup_range]
  intro thread
  rw [List.mem_range]
  constructor
  · intro taken
    obtain ⟨answer, _, place⟩ :=
      (linear.finished_of_complete complete).1.exists_answer taken
    rw [← linear.length]
    exact (List.getElem?_eq_some_iff.mp place).1
  · intro bound
    by_contra untaken
    have place := linear.waiting thread untaken
    rw [List.getElem?_eq_getElem bound, Option.map_some] at place
    obtain ⟨answer, same⟩ := exists_answer_of_complete complete place
    cases same

/-- The answers are those of the sections one after another, in some order. -/
theorem answers_perm
    (linear : world.Linear tasks shared)
    (complete : world.isComplete = true) :
    world.answers.Perm
      (Section.performAll (inOrder tasks world.order) shared).1 := by
  have finished := (linear.finished_of_complete complete).1
  have all := linear.order_perm complete
  rw [← linear.length] at all
  have inTurn :
      inOrder world.threads world.order =
        (Section.performAll (inOrder tasks world.order) shared).1.map
          .finished := by
    have places := congrArg (List.filterMap id) finished
    simpa [inOrder, List.filterMap_map, Function.comp_def] using places
  have permuted := (inOrder_perm all).symm.filterMap Thread.answer?
  rw [inTurn] at permuted
  simpa [answers, List.filterMap_map, Function.comp_def, Thread.answer?]
    using permuted

end Linear

/--
A schedule that lets every thread finish gives the answers and leaves the state of
the sections carried out one after another in the order in which they took the lock.
-/
theorem linearizes
    {tasks : List (Section σ ρ)}
    {shared : σ}
    {schedule : List Nat}
    {world : World σ ρ}
    (ran : (start tasks shared).run? schedule = some world)
    (complete : world.isComplete = true) :
    world.order.Perm (List.range tasks.length) ∧
      Finished world.threads world.order
        (Section.performAll (inOrder tasks world.order) shared).1 ∧
      world.shared =
        (Section.performAll (inOrder tasks world.order) shared).2 := by
  have linear := (linear_start tasks shared).run ran
  exact ⟨linear.order_perm complete, linear.finished_of_complete complete⟩

end World

end OnePass
