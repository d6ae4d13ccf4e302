namespace OnePass

/-!
# Threads under one lock

A critical section is a sequence of steps on a shared state, each chosen by what
the one before it read.  Threads that wait for one lock take turns as a schedule
says: a waiting thread may take the lock while nobody holds it, and the holder
may take its next step or release the lock.  A section that aborts releases the
lock too and leaves it poisoned, which keeps nobody from taking it again.
-/

variable {σ ρ : Type}

/-- What remains of a critical section. -/
inductive Section (σ ρ : Type) where
  /-- Change the shared state, and go on according to what it was before. -/
  | step (change : σ → σ) (next : σ → Section σ ρ)
  /-- Release the lock with an answer. -/
  | release (answer : ρ)
  /-- Abort: release the lock with an answer and leave it poisoned. -/
  | unwind (answer : ρ)

/-- A section carried out without interruption: its answer and the state after it. -/
def Section.perform : Section σ ρ → σ → ρ × σ
  | .step change next, state => (next state).perform (change state)
  | .release answer, state => (answer, state)
  | .unwind answer, state => (answer, state)

/-- Several sections carried out one after another. -/
def Section.performAll : List (Section σ ρ) → σ → List ρ × σ
  | [], state => ([], state)
  | task :: rest, state =>
      let (answer, state) := task.perform state
      let (answers, state) := performAll rest state
      (answer :: answers, state)

/-- Where a thread stands. -/
inductive Thread (σ ρ : Type) where
  | waiting (task : Section σ ρ)
  | inside (task : Section σ ρ)
  | finished (answer : ρ)

/-- The answer of a thread that has finished. -/
def Thread.answer? : Thread σ ρ → Option ρ
  | .finished answer => some answer
  | _ => none

/-- The shared state, the lock and the threads. -/
structure World (σ ρ : Type) where
  shared : σ
  /-- The thread that holds the lock. -/
  holder : Option Nat
  /-- Whether a section aborted while it held the lock. -/
  poisoned : Bool
  threads : List (Thread σ ρ)
  /-- The threads in the order in which they took the lock. -/
  order : List Nat

namespace World

/-- The world in which every thread still waits. -/
def start (tasks : List (Section σ ρ)) (shared : σ) : World σ ρ where
  shared := shared
  holder := none
  poisoned := false
  threads := tasks.map .waiting
  order := []

/-- Put a thread into another place. -/
def move
    (world : World σ ρ)
    (thread : Nat)
    (place : Thread σ ρ) :
    World σ ρ :=
  { world with threads := world.threads.set thread place }

/-- One step of a thread, if it can take one. -/
def step? (world : World σ ρ) (thread : Nat) : Option (World σ ρ) :=
  match world.threads[thread]? with
  | some (.waiting task) =>
      match world.holder with
      | some _ => none
      | none =>
          some
            { world.move thread (.inside task) with
              holder := some thread
              order := world.order ++ [thread] }
  | some (.inside (.step change next)) =>
      some
        { world.move thread (.inside (next world.shared)) with
          shared := change world.shared }
  | some (.inside (.release answer)) =>
      some { world.move thread (.finished answer) with holder := none }
  | some (.inside (.unwind answer)) =>
      some
        { world.move thread (.finished answer) with
          holder := none
          poisoned := true }
  | some (.finished _) => none
  | none => none

/-- Follow a schedule that names only threads able to take a step. -/
def run? (world : World σ ρ) : List Nat → Option (World σ ρ)
  | [] => some world
  | thread :: rest =>
      match world.step? thread with
      | some next => next.run? rest
      | none => none

/-- Follow a schedule, passing over a thread that cannot take a step. -/
def follow (world : World σ ρ) (schedule : List Nat) : World σ ρ :=
  schedule.foldl (fun world thread => (world.step? thread).getD world) world

/-- The answers of the finished threads. -/
def answers (world : World σ ρ) : List ρ :=
  world.threads.filterMap Thread.answer?

/-- Whether every thread has finished. -/
def isComplete (world : World σ ρ) : Bool :=
  world.threads.all fun thread => thread.answer?.isSome

end World

/-- The schedule that lets one thread after another take a number of steps. -/
def inTurn (threads steps : Nat) : List Nat :=
  (List.range threads).flatMap fun thread => List.replicate steps thread

end OnePass
