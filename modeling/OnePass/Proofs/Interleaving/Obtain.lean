import OnePass.Interleaving.Obtain
import OnePass.Proofs.Cache.Independence
import OnePass.Proofs.Cache.SharedSeed
import OnePass.Proofs.Interleaving.Linearization

namespace OnePass

/-!
# Concurrent demands linearize

A demand's critical section, carried out without interruption, is the demand itself.
Concurrent demands therefore answer as demands one after another do, in the order in
which they took the lock of the cache.  What is answered under a key depends on the
other keys only through accumulators that demands under both encode; the last theorem
shows that it can.
-/

variable {Name : Type} {Base : Name → Type} {ε : Type}
variable [DecidableEq Name]

namespace Caller

/-- A demand's section does what the demand does. -/
theorem perform_obtain
    (caller : Caller Base ε)
    (registry : Registry Base ε) :
    caller.obtain.perform registry = registry.obtain caller := by
  cases found : registry.cache.find? caller.demand.key with
  | some entry =>
      rw [Registry.obtain_of_found found]
      simp [obtain, Section.perform, Cache.contains, found]
  | none =>
      have declares :
          caller.obtain.perform registry = caller.declare.perform registry := by
        simp [obtain, Section.perform, Cache.contains, found]
      rw [declares]
      obtain ⟨⟨key, signature, declaration⟩, accumulator⟩ := caller
      cases declaration with
      | aborts reason =>
          rw [Registry.obtain_of_error found rfl]
          exact Prod.ext rfl (Registry.accountFor_of_aborts registry).symm
      | declares script ending =>
          cases built :
              ((((Pipeline.new registry.cache.nextIdentity).follow
                script).conclude ending).build
                  (registry.attempts accumulator)).outcome with
          | error failure =>
              have compiled :
                  (registry.compileFor
                    ⟨⟨key, signature, .declares script ending⟩,
                      accumulator⟩).outcome = .error failure := by
                simp [Registry.compileFor, Declaration.compile, built, Except.map]
              rw [Registry.obtain_of_error found compiled]
              simp only [declare, compile, Section.perform,
                Registry.countDeclaration, built]
              cases failure <;> rfl
          | ok procedure =>
              have compiled :
                  (registry.compileFor
                    ⟨⟨key, signature, .declares script ending⟩,
                      accumulator⟩).outcome = .ok procedure.share := by
                simp [Registry.compileFor, Declaration.compile, built, Except.map]
              rw [Registry.obtain_of_ok found compiled]
              simp only [declare, compile, Section.perform,
                Registry.countDeclaration, built]
              rfl

end Caller

/-- Sections of demands one after another do what the demands do. -/
theorem performAll_obtain
    (callers : List (Caller Base ε))
    (registry : Registry Base ε) :
    Section.performAll (callers.map Caller.obtain) registry =
      registry.obtainAll callers := by
  induction callers generalizing registry with
  | nil =>
      rfl
  | cons caller rest inductionHypothesis =>
      simp only [List.map_cons, Section.performAll, Registry.obtainAll,
        Caller.perform_obtain, inductionHypothesis]

section Complete

variable {callers : List (Caller Base ε)} {schedule : List Nat}
variable {world : World (Registry Base ε) (Reply Base ε)}

/-- Concurrent demands answer and leave behind what demands in lock order do. -/
theorem obtain_sequential
    (ran :
      (World.start (callers.map Caller.obtain) .empty).run? schedule =
        some world)
    (complete : world.isComplete = true) :
    world.order.Perm (List.range callers.length) ∧
      Finished world.threads world.order
        (Registry.empty.obtainAll (inOrder callers world.order)).1 ∧
      world.shared =
        (Registry.empty.obtainAll (inOrder callers world.order)).2 := by
  have linearized := World.linearizes ran complete
  rwa [List.length_map, inOrder_map, performAll_obtain] at linearized

/-- A thread's success is with what is registered under its key in the end. -/
theorem find?_of_success
    (ran :
      (World.start (callers.map Caller.obtain) .empty).run? schedule =
        some world)
    (complete : world.isComplete = true)
    {thread : Nat}
    {caller : Caller Base ε}
    (called : callers[thread]? = some caller)
    {signature : Signature Name}
    {procedure : Shared Base ε signature}
    (succeeded :
      world.threads[thread]? = some (.finished ⟨signature, .ok procedure⟩)) :
    world.shared.cache.find? caller.demand.key =
      some ⟨caller.demand.key, signature, procedure⟩ := by
  obtain ⟨all, finished, state⟩ := obtain_sequential ran complete
  have taken (other : Nat) : other ∈ world.order ↔ other < callers.length := by
    rw [all.mem_iff, List.mem_range]
  have member :=
    finished.related
      (Registry.empty.mem_entries_of_obtainAll
        (inOrder callers world.order))
      (fun other => (taken other).mp)
      ((taken thread).mpr (List.getElem?_eq_some_iff.mp called).1)
      called succeeded signature procedure rfl
  rw [← state] at member
  have sound : world.shared.cache.Sound := by
    rw [state, Registry.obtainAll_eq_after]
    exact Registry.sound_after Cache.sound_empty _
  exact sound.find?_of_mem member

/-- What concurrent demands on a fresh cache have come to when all have finished. -/
structure Linearized
    (callers : List (Caller Base ε))
    (world : World (Registry Base ε) (Reply Base ε)) :
    Prop where
  /-- Every thread has taken the lock once. -/
  order : world.order.Perm (List.range callers.length)
  answers :
    Finished world.threads world.order
      (Registry.empty.obtainAll (inOrder callers world.order)).1
  registry :
    world.shared =
      (Registry.empty.obtainAll (inOrder callers world.order)).2
  entries :
    world.shared.cache.entries =
      Registry.empty.registrations
        ((inOrder callers world.order).map .obtain)
  oneForEachKey : (world.shared.cache.entries.map Entry.key).Nodup
  /-- A success is with the procedure that its key has in the end. -/
  successes :
    ∀ (thread : Nat) (caller : Caller Base ε) (signature : Signature Name)
      (procedure : Shared Base ε signature),
      callers[thread]? = some caller →
      world.threads[thread]? = some (.finished ⟨signature, .ok procedure⟩) →
      world.shared.cache.find? caller.demand.key =
        some ⟨caller.demand.key, signature, procedure⟩
  /-- Under a key, the demands and the attempts they meet decide the answers. -/
  underKey :
    ∀ key,
      (Registry.repliesUnder key (inOrder callers world.order)
          (Registry.empty.obtainAll
            (inOrder callers world.order)).1).map Reply.unnumbered =
        Caller.settleAll none
          ((Registry.empty.met (inOrder callers world.order)).filter
            fun turn => turn.1.demand.key == key)
  /-- Under a key apart from the others, the demands alone decide the answers. -/
  underKeyApart :
    ∀ key,
      Registry.Apart key callers →
      (Registry.repliesUnder key (inOrder callers world.order)
          (Registry.empty.obtainAll
            (inOrder callers world.order)).1).map Reply.unnumbered =
        (Registry.empty.obtainAll
          ((inOrder callers world.order).filter fun caller =>
            caller.demand.key == key)).1.map Reply.unnumbered
  sharedSeed :
    ∀ key signature accumulator seed failed,
      (∀ caller ∈ callers,
        caller.SharesSeed key signature accumulator seed) →
      (∀ attempt < failed, ∃ failure, seed.check attempt = .error failure) →
      (failed < callers.length → seed.check failed = .ok ()) →
      ∃ failures successes,
        Finished world.threads world.order (failures ++ successes) ∧
          Registry.SharedOutcome callers.length failed accumulator seed
            world.shared failures successes

/--
Concurrent demands linearize.  Whatever the schedule, once all threads have finished
they have answered, and left the cache, as the demands one after another in the order
in which they took the lock.  The entries are exactly what these registered, one for
each key, and every success under a key is with its one procedure.  The answers under
a key follow, but for the numbering of procedures, from the demands under that key in
their order and the encoding attempts they meet; and from these demands alone, unless
others encode an accumulator of theirs that is not steady.  Demands under one key that
share a seed fail until its first attempt that passes, and then no more.
-/
theorem obtain_linearizes
    (callers : List (Caller Base ε))
    (schedule : List Nat)
    (world : World (Registry Base ε) (Reply Base ε))
    (ran :
      (World.start (callers.map Caller.obtain) .empty).run? schedule =
        some world)
    (complete : world.isComplete = true) :
    Linearized callers world := by
  obtain ⟨all, finished, state⟩ := obtain_sequential ran complete
  have permuted := inOrder_perm all
  refine
    { order := all
      answers := finished
      registry := state
      entries := ?_
      oneForEachKey := ?_
      successes := ?_
      underKey := fun key => Registry.repliesUnder_obtainAll key .empty _
      underKeyApart := ?_
      sharedSeed := ?_ }
  · rw [state, Registry.obtainAll_eq_after, Registry.entries_after_empty]
  · rw [state, Registry.obtainAll_eq_after]
    exact (Registry.sound_after Cache.sound_empty _).keys
  · intro thread caller signature procedure called
    exact find?_of_success ran complete called
  · intro key apart
    refine Registry.repliesUnder_of_apart ?_ .empty
    intro caller member sameKey unsteady other otherMember
    exact apart caller (permuted.subset member) sameKey unsteady other
      (permuted.subset otherMember)
  · intro key signature accumulator seed failed share fails passes
    have shared := Registry.obtainAll_of_shared
      (fun caller member => share caller (permuted.subset member)) fails
      (permuted.length_eq.symm ▸ passes)
    rw [permuted.length_eq, ← state] at shared
    obtain ⟨failures, successes, replies, outcome⟩ := shared
    rw [replies] at finished
    exact ⟨failures, successes, finished, outcome⟩

end Complete

/-- A seed whose first encoding attempt aborts, while all others pass. -/
def wavering : Seed String Nat where
  initial := 0
  codec := fun attempt =>
    { encode := fun _ =>
        if attempt = 0 then .error "first" else .ok (.ok .null)
      decode := fun _ => .ok (.ok 0)
      same := fun first second => first == second }

/-- A demand for a procedure that adds its input up, from that seed. -/
def summing : Caller (fun _ : Empty => Unit) String where
  demand :=
    { key := "sum"
      signature := ⟨.position, .unit, .position⟩
      declaration :=
        .declares .done
          (.terminal
            (.reduce (.plain fun value _ => .ok (value.1 + value.2))
              wavering)) }
  accumulator := 0

/-- Two threads of which the second takes the lock first and aborts. -/
theorem obtain_summing :
    ∃ world,
      (World.start ([summing, summing].map Caller.obtain) .empty).run?
          [1, 1, 1, 1, 1, 0, 0, 0, 0, 0, 0] = some world ∧
        world.isComplete = true ∧
        world.shared.declared = 2 ∧
        world.shared.attempts 0 = 2 ∧
        world.shared.cache.length = 1 := by
  obtain ⟨world, ran, complete⟩ :
      ∃ world,
        (World.start ([summing, summing].map Caller.obtain) .empty).run?
            [1, 1, 1, 1, 1, 0, 0, 0, 0, 0, 0] = some world ∧
          world.isComplete = true :=
    ⟨_, rfl, rfl⟩
  have linearized :=
    obtain_linearizes [summing, summing] _ world ran complete
  have share :
      ∀ caller ∈ [summing, summing],
        caller.SharesSeed "sum" ⟨.position, .unit, .position⟩ 0 wavering := by
    simp only [List.mem_cons, List.not_mem_nil, or_false, or_self, forall_eq]
    exact ⟨_, rfl, .declares _ _⟩
  have fails :
      ∀ attempt < 1, ∃ failure, wavering.check attempt = .error failure := by
    intro attempt bound
    obtain rfl := Nat.lt_one_iff.mp bound
    exact ⟨_, rfl⟩
  obtain ⟨_, _, _, outcome⟩ :=
    linearized.sharedSeed _ _ _ _ 1 share fails (fun _ => rfl)
  exact ⟨world, ran, complete, outcome.declared, outcome.attempts,
    outcome.registered⟩

/-- The same demand under another key. -/
def summingElsewhere : Caller (fun _ : Empty => Unit) String :=
  { summing with demand := { summing.demand with key := "elsewhere" } }

/--
Demands under other keys can change an answer.  A demand that is the only one under
its key aborts by itself, but succeeds if a demand under another key has made the
first encoding attempt on the accumulator that both have.
-/
theorem summing_after_elsewhere :
    ∃ alone together,
      ((World.start ([summing].map Caller.obtain) .empty).run?
            [0, 0, 0, 0, 0] = some alone ∧
          alone.isComplete = true ∧
          alone.order = [0]) ∧
        ((World.start ([summing, summingElsewhere].map Caller.obtain)
              .empty).run? [1, 1, 1, 1, 1, 0, 0, 0, 0, 0, 0] = some together ∧
          together.isComplete = true ∧
          together.order = [1, 0]) ∧
        summingElsewhere.demand.key ≠ summing.demand.key ∧
        alone.threads[0]? =
          some (.finished
            ⟨summing.demand.signature, .error (.aborted "first")⟩) ∧
        ∃ procedure,
          together.threads[0]? =
            some (.finished ⟨summing.demand.signature, .ok procedure⟩) :=
  ⟨_, _, ⟨rfl, rfl, rfl⟩, ⟨rfl, rfl, rfl⟩, by decide, rfl, _, rfl⟩

end OnePass
