import OnePass.Proofs.Cache.Sequence

namespace OnePass

/-!
# Keys do not interfere

What is registered under a key, and how demands under it are answered, is decided by
the demands under that key and by the encoding attempts they meet.  Demands under
other keys only shift the identities of procedures, and touch no accumulator but
their own.
-/

variable {Name : Type} {Base : Name → Type} {ε : Type}

/-- The entry without the identity of its procedure. -/
def Entry.unnumbered (entry : Entry Base ε) : Entry Base ε where
  key := entry.key
  signature := entry.signature
  procedure := entry.procedure.renumber 0

/-- The reply without the identity of its procedure. -/
def Reply.unnumbered (reply : Reply Base ε) : Reply Base ε where
  signature := reply.signature
  outcome := reply.outcome.map (Shared.renumber 0)

/-- What is registered under a key, up to its identity. -/
def Cache.slot? (cache : Cache Base ε) (key : String) : Option (Entry Base ε) :=
  (cache.find? key).map Entry.unnumbered

/-- What a demand comes to under its own key. -/
structure Settled (Base : Name → Type) (ε : Type) where
  reply : Reply Base ε
  slot? : Option (Entry Base ε)
  attempts : Nat

namespace Caller

variable [DecidableEq Name]

/-- Answer a demand from what is registered under its key and the attempts so far. -/
def settle
    (caller : Caller Base ε)
    (slot? : Option (Entry Base ε))
    (attempts : Nat) :
    Settled Base ε :=
  match slot? with
  | some entry =>
      { reply :=
          ⟨caller.demand.signature,
            entry.handOut caller.demand.key caller.demand.signature⟩
        slot? := some entry
        attempts := attempts }
  | none =>
      let compiled := caller.demand.declaration.compile 0 attempts
      { reply := ⟨caller.demand.signature, compiled.outcome⟩
        slot? :=
          compiled.outcome.toOption.map fun procedure =>
            ⟨caller.demand.key, caller.demand.signature, procedure⟩
        attempts := compiled.attempts }

/-- Answer demands under one key, given the attempts that each of them meets. -/
def settleAll :
    Option (Entry Base ε) →
      List (Caller Base ε × Nat) →
      List (Reply Base ε)
  | _, [] => []
  | slot?, (caller, attempts) :: rest =>
      (caller.settle slot? attempts).reply ::
        settleAll (caller.settle slot? attempts).slot? rest

/-- Compiling the declaration comes to the same at every encoding attempt. -/
def IsSteady (caller : Caller Base ε) : Prop :=
  ∀ first second,
    (caller.demand.declaration.compile 0 first).outcome =
      (caller.demand.declaration.compile 0 second).outcome

/-- A steady demand is settled alike whatever attempts it meets. -/
theorem settle_eq
    (caller : Caller Base ε)
    (slot? : Option (Entry Base ε))
    {first second : Nat}
    (same : ¬caller.IsSteady → first = second) :
    (caller.settle slot? first).reply = (caller.settle slot? second).reply ∧
      (caller.settle slot? first).slot? =
        (caller.settle slot? second).slot? := by
  by_cases steady : caller.IsSteady
  · cases slot? with
    | none =>
        simp [settle, steady first second]
    | some entry =>
        exact ⟨rfl, rfl⟩
  · rw [same steady]
    exact ⟨rfl, rfl⟩

end Caller

/-! ## One demand -/

/-- Handing an entry out does not look at the identity. -/
theorem Entry.handOut_unnumbered
    [DecidableEq Name]
    (entry : Entry Base ε)
    (key : String)
    (signature : Signature Name) :
    entry.unnumbered.handOut key signature =
      (entry.handOut key signature).map (Shared.renumber 0) := by
  by_cases same : entry.signature = signature
  · subst same
    simp [handOut, procedure?, unnumbered, Except.map]
  · simp [handOut, procedure?, unnumbered, same, Except.map]

namespace Registry

variable {registry : Registry Base ε} {caller : Caller Base ε} {key : String}

/-- Compiling does not look at the identity. -/
theorem compileFor_unnumbered
    (registry : Registry Base ε)
    (caller : Caller Base ε) :
    (registry.compileFor caller).outcome.map (Shared.renumber 0) =
        (caller.demand.declaration.compile 0
          (registry.attempts caller.accumulator)).outcome ∧
      (registry.compileFor caller).attempts =
        (caller.demand.declaration.compile 0
          (registry.attempts caller.accumulator)).attempts := by
  rw [compileFor, Declaration.compile_eq]
  refine ⟨?_, rfl⟩
  cases compiled :
      (caller.demand.declaration.compile 0
        (registry.attempts caller.accumulator)).outcome with
  | error failure =>
      rfl
  | ok procedure =>
      have identity := Declaration.identity_compile compiled
      simp only [Except.map, Shared.renumber, ← identity]

variable [DecidableEq Name]

/-- A demand is settled by what is registered under its key. -/
theorem obtain_settles
    (registry : Registry Base ε)
    (caller : Caller Base ε) :
    (registry.obtain caller).1.unnumbered =
        (caller.settle (registry.cache.slot? caller.demand.key)
          (registry.attempts caller.accumulator)).reply ∧
      (registry.obtain caller).2.cache.slot? caller.demand.key =
        (caller.settle (registry.cache.slot? caller.demand.key)
          (registry.attempts caller.accumulator)).slot? ∧
      (registry.obtain caller).2.attempts caller.accumulator =
        (caller.settle (registry.cache.slot? caller.demand.key)
          (registry.attempts caller.accumulator)).attempts := by
  obtain ⟨outcome, counted⟩ := registry.compileFor_unnumbered caller
  have answering := registry.obtain_answering caller
  generalize registry.obtain caller = answer at answering ⊢
  cases answering with
  | hit found =>
      simp [Caller.settle, Cache.slot?, log, found, Reply.unnumbered,
        Entry.handOut_unnumbered]
  | fails missing compiled =>
      rw [compiled] at outcome
      simp [Caller.settle, Cache.slot?, missing, Reply.unnumbered, ← outcome,
        counted, Except.map, Except.toOption]
  | registers missing compiled =>
      rw [compiled] at outcome
      simp only [Cache.find?] at missing
      simp [Caller.settle, Cache.slot?, Cache.find?, missing, Reply.unnumbered,
        ← outcome, counted, Except.map, Except.toOption, enter, log,
        Cache.insert, Entry.unnumbered]

/-- A demand under another key changes nothing under this one. -/
theorem slot?_obtain_of_ne
    (other : caller.demand.key ≠ key) :
    (registry.obtain caller).2.cache.slot? key =
      registry.cache.slot? key := by
  have answering := registry.obtain_answering caller
  generalize registry.obtain caller = answer at answering ⊢
  cases answering with
  | hit | fails =>
      rfl
  | registers missing compiled =>
      simp [Cache.slot?, Cache.find?, enter, Cache.insert, other]

/-- A demand leaves the accumulators of others alone. -/
theorem attempts_obtain_of_ne
    {accumulator : Nat}
    (other : caller.accumulator ≠ accumulator) :
    (registry.obtain caller).2.attempts accumulator =
      registry.attempts accumulator := by
  have answering := registry.obtain_answering caller
  generalize registry.obtain caller = answer at answering ⊢
  cases answering with
  | hit =>
      rfl
  | fails | registers =>
      simp [accountFor, enter, log, setAttempts, countDeclaration, other.symm]

/-! ## Demands one after another -/

/-- The demands with the encoding attempts that each of them meets. -/
def met
    (registry : Registry Base ε) :
    List (Caller Base ε) → List (Caller Base ε × Nat)
  | [] => []
  | caller :: rest =>
      (caller, registry.attempts caller.accumulator) ::
        (registry.obtain caller).2.met rest

/-- The replies to the demands under a key. -/
def repliesUnder
    (key : String)
    (callers : List (Caller Base ε))
    (replies : List (Reply Base ε)) :
    List (Reply Base ε) :=
  ((callers.zip replies).filter fun turn => turn.1.demand.key == key).map
    Prod.snd

/--
The replies under a key are settled by the demands under it and the attempts that
these meet.
-/
theorem repliesUnder_obtainAll
    (key : String)
    (registry : Registry Base ε)
    (callers : List (Caller Base ε)) :
    (repliesUnder key callers (registry.obtainAll callers).1).map
        Reply.unnumbered =
      Caller.settleAll (registry.cache.slot? key)
        ((registry.met callers).filter fun turn =>
          turn.1.demand.key == key) := by
  induction callers generalizing registry with
  | nil =>
      rfl
  | cons caller rest inductionHypothesis =>
      by_cases same : caller.demand.key = key
      · subst same
        obtain ⟨reply, slot, _⟩ := registry.obtain_settles caller
        have later := inductionHypothesis (registry.obtain caller).2
        simp only [repliesUnder, obtainAll, met, List.zip_cons_cons,
          List.filter_cons, beq_self_eq_true, if_true, List.map_cons,
          Caller.settleAll, ← reply, ← slot] at later ⊢
        rw [later]
      · have later := inductionHypothesis (registry.obtain caller).2
        rw [slot?_obtain_of_ne same] at later
        simpa [repliesUnder, obtainAll, met, same] using later

/--
Demands under other keys encode no accumulator of a demand under this one that is
not steady.
-/
def Apart (key : String) (callers : List (Caller Base ε)) : Prop :=
  ∀ caller ∈ callers,
    caller.demand.key = key →
    ¬caller.IsSteady →
    ∀ other ∈ callers,
      other.demand.key ≠ key →
      other.accumulator ≠ caller.accumulator

/-- The demands that meet attempts are the given ones. -/
theorem mem_of_mem_met
    {callers : List (Caller Base ε)}
    {turn : Caller Base ε × Nat}
    (member : turn ∈ registry.met callers) :
    turn.1 ∈ callers := by
  induction callers generalizing registry with
  | nil =>
      cases member
  | cons caller rest inductionHypothesis =>
      cases member with
      | head =>
          exact .head _
      | tail _ later =>
          exact .tail _ (inductionHypothesis later)

/-- Apart from the others, demands under a key are settled by their own attempts. -/
theorem settleAll_met
    {callers : List (Caller Base ε)}
    (apart : Apart key callers)
    {full own : Registry Base ε}
    (sameSlot : full.cache.slot? key = own.cache.slot? key)
    (sameAttempts :
      ∀ caller ∈ callers,
        caller.demand.key = key →
        ¬caller.IsSteady →
        full.attempts caller.accumulator = own.attempts caller.accumulator) :
    Caller.settleAll (full.cache.slot? key)
        ((full.met callers).filter fun turn => turn.1.demand.key == key) =
      Caller.settleAll (own.cache.slot? key)
        (own.met (callers.filter fun caller => caller.demand.key == key)) := by
  induction callers generalizing full own with
  | nil =>
      simp [met, Caller.settleAll]
  | cons caller rest inductionHypothesis =>
      have apartRest : Apart key rest := by
        intro first firstMember firstKey unsteady other otherMember
        exact apart first (.tail _ firstMember) firstKey unsteady other
          (.tail _ otherMember)
      by_cases same : caller.demand.key = key
      · -- Both sides settle the demand alike; only the attempts on an
        -- accumulator that is met by steady demands alone may differ.
        subst same
        obtain ⟨_, fullSlot, fullAttempts⟩ := full.obtain_settles caller
        obtain ⟨_, ownSlot, ownAttempts⟩ := own.obtain_settles caller
        obtain ⟨replies, slots⟩ :=
          caller.settle_eq (own.cache.slot? caller.demand.key)
            (sameAttempts caller (.head _) rfl)
        rw [sameSlot] at fullSlot fullAttempts
        rw [slots, ← ownSlot] at fullSlot
        have later :=
          inductionHypothesis apartRest fullSlot
            fun other member otherKey unsteady => by
              have before :=
                sameAttempts other (.tail _ member) otherKey unsteady
              by_cases shared : caller.accumulator = other.accumulator
              · rw [← shared] at before ⊢
                rw [fullAttempts, ownAttempts, before]
              · rw [attempts_obtain_of_ne shared, attempts_obtain_of_ne shared]
                exact before
        rw [fullSlot] at later
        simp only [met, List.filter_cons, beq_self_eq_true, if_true,
          Caller.settleAll, sameSlot, replies, slots, ← ownSlot, later]
      · have later :=
          inductionHypothesis apartRest
            ((slot?_obtain_of_ne same).trans sameSlot)
            fun other member otherKey unsteady => by
              rw [attempts_obtain_of_ne
                (apart other (.tail _ member) otherKey unsteady caller (.head _)
                  same)]
              exact sameAttempts other (.tail _ member) otherKey unsteady
        rw [slot?_obtain_of_ne same] at later
        simpa [met, same] using later

/-- Demands that are all under one key have all the replies. -/
theorem repliesUnder_of_forall
    {callers : List (Caller Base ε)}
    (under : ∀ caller ∈ callers, caller.demand.key = key)
    (registry : Registry Base ε) :
    repliesUnder key callers (registry.obtainAll callers).1 =
      (registry.obtainAll callers).1 := by
  have lengths := (registry.mem_entries_of_obtainAll callers).length_eq
  rw [repliesUnder, List.filter_eq_self.mpr]
  · exact List.map_snd_zip (Nat.le_of_eq lengths.symm)
  · intro turn member
    exact beq_iff_eq.mpr (under turn.1 (List.of_mem_zip member).1)

/-- Apart from the others, demands under a key are answered as if on their own. -/
theorem repliesUnder_of_apart
    {callers : List (Caller Base ε)}
    (apart : Apart key callers)
    (registry : Registry Base ε) :
    (repliesUnder key callers (registry.obtainAll callers).1).map
        Reply.unnumbered =
      (registry.obtainAll
        (callers.filter fun caller =>
          caller.demand.key == key)).1.map Reply.unnumbered := by
  have under :
      ∀ caller ∈ callers.filter fun caller => caller.demand.key == key,
        caller.demand.key = key := by
    intro caller member
    exact beq_iff_eq.mp (List.mem_filter.mp member).2
  have own := repliesUnder_obtainAll key registry
    (callers.filter fun caller => caller.demand.key == key)
  have allUnder :
      (registry.met
          (callers.filter fun caller => caller.demand.key == key)).filter
            (fun turn => turn.1.demand.key == key) =
        registry.met
          (callers.filter fun caller => caller.demand.key == key) :=
    List.filter_eq_self.mpr fun turn member =>
      beq_iff_eq.mpr (under turn.1 (mem_of_mem_met member))
  rw [repliesUnder_of_forall under, allUnder] at own
  rw [own, repliesUnder_obtainAll]
  exact settleAll_met apart rfl fun _ _ _ _ => rfl

end Registry

end OnePass
