import OnePass.Proofs.Cache.Sequence

namespace OnePass

/-!
# Demands that share a seed

Demands under one key whose declarations fold from one seed make one encoding
attempt each until one passes.  From then on they are answered from the entry it
registered.
-/

variable {Name : Type} {Base : Name → Type} {ε : Type}
variable {signature : Signature Name}
variable {seed : Seed ε (signature.output.Value Base)}

/-- The declaration does not abort, and folds from the seed. -/
inductive Declaration.ReducesFrom
    (seed : Seed ε (signature.output.Value Base)) :
    Declaration Base ε signature → Prop where
  | declares
      {element : ValueType Name}
      (script : Script Base ε signature.context signature.element element)
      (reducer :
        Callback ε (signature.context.Value Base)
          (signature.output.Value Base × element.Value Base)
          (signature.output.Value Base)) :
      ReducesFrom seed (.declares script (.terminal (.reduce reducer seed)))

/-- The demand is under the key and signature and folds from the shared seed. -/
def Caller.SharesSeed
    (key : String)
    (signature : Signature Name)
    (accumulator : Nat)
    (seed : Seed ε (signature.output.Value Base))
    (caller : Caller Base ε) :
    Prop :=
  ∃ declaration : Declaration Base ε signature,
    caller = ⟨⟨key, signature, declaration⟩, accumulator⟩ ∧
      declaration.ReducesFrom seed

namespace Declaration.ReducesFrom

variable {declaration : Declaration Base ε signature} {identity attempts : Nat}

/-- Compiling makes one encoding attempt. -/
theorem attempts_compile
    (reduces : declaration.ReducesFrom seed) :
    (declaration.compile identity attempts).attempts = attempts + 1 := by
  cases reduces with
  | declares script reducer =>
      cases reducer <;>
        · simp only [compile, Pipeline.conclude, Pipeline.endWith,
            Pipeline.reduce, Pipeline.reduceWith, Pipeline.close, Sealed.build,
            Terminal.prepare, Bool.false_eq_true, if_false]
          cases seed.check attempts <;> rfl

/-- An attempt that fails is the outcome of compiling. -/
theorem compile_of_error
    (reduces : declaration.ReducesFrom seed)
    {failure : Failure ε}
    (checked : seed.check attempts = .error failure) :
    (declaration.compile identity attempts).outcome = .error failure := by
  cases reduces with
  | declares script reducer =>
      cases reducer <;>
        simp [compile, Pipeline.conclude, Pipeline.endWith, Pipeline.reduce,
          Pipeline.reduceWith, Pipeline.close, Sealed.build, Terminal.prepare,
          checked, Except.map]

/-- An attempt that passes compiles the declaration. -/
theorem compile_of_ok
    (reduces : declaration.ReducesFrom seed)
    (checked : seed.check attempts = .ok ()) :
    ∃ procedure,
      (declaration.compile identity attempts).outcome = .ok procedure := by
  cases reduces with
  | declares script reducer =>
      cases reducer <;>
        simp [compile, Pipeline.conclude, Pipeline.endWith, Pipeline.reduce,
          Pipeline.reduceWith, Pipeline.close, Sealed.build, Terminal.prepare,
          checked, Except.map]

end Declaration.ReducesFrom

namespace Registry

variable [DecidableEq Name]
variable {registry : Registry Base ε} {caller : Caller Base ε}
variable {callers : List (Caller Base ε)}
variable {key : String} {accumulator : Nat}

/-! ## One demand -/

/-- A demand whose attempt fails answers with its failure and registers nothing. -/
theorem obtain_of_failing
    (shares : caller.SharesSeed key signature accumulator seed)
    (vacant : registry.cache.entries = [])
    {failure : Failure ε}
    (checked :
      seed.check (registry.attempts accumulator) = .error failure) :
    (registry.obtain caller).1 = ⟨signature, .error failure⟩ ∧
      (registry.obtain caller).2.cache.entries = [] ∧
      (registry.obtain caller).2.declared = registry.declared + 1 ∧
      (registry.obtain caller).2.attempts accumulator =
        registry.attempts accumulator + 1 := by
  obtain ⟨declaration, rfl, reduces⟩ := shares
  have missing : registry.cache.find? key = none := by
    simp [Cache.find?, vacant]
  have compiled :
      (registry.compileFor
        ⟨⟨key, signature, declaration⟩, accumulator⟩).outcome =
          .error failure :=
    reduces.compile_of_error checked
  rw [obtain_of_error missing compiled]
  exact ⟨rfl, vacant, rfl, attempts_accountFor.trans reduces.attempts_compile⟩

/-- A demand whose attempt passes registers the first entry and answers with it. -/
theorem obtain_of_passing
    (shares : caller.SharesSeed key signature accumulator seed)
    (vacant : registry.cache.entries = [])
    (checked : seed.check (registry.attempts accumulator) = .ok ()) :
    ∃ entry : Entry Base ε,
      entry.key = key ∧
        entry.signature = signature ∧
        (registry.obtain caller).1 = entry.reply ∧
        (registry.obtain caller).2.cache.entries = [entry] ∧
        (registry.obtain caller).2.declared = registry.declared + 1 ∧
        (registry.obtain caller).2.attempts accumulator =
          registry.attempts accumulator + 1 := by
  obtain ⟨declaration, rfl, reduces⟩ := shares
  have missing : registry.cache.find? key = none := by
    simp [Cache.find?, vacant]
  obtain ⟨procedure, compiled⟩ :
      ∃ procedure,
        (registry.compileFor
          ⟨⟨key, signature, declaration⟩, accumulator⟩).outcome =
            .ok procedure :=
    reduces.compile_of_ok checked
  have counted :
      (registry.compileFor
        ⟨⟨key, signature, declaration⟩, accumulator⟩).attempts =
          registry.attempts accumulator + 1 :=
    reduces.attempts_compile
  rw [obtain_of_ok missing compiled]
  refine ⟨⟨key, signature, procedure⟩, rfl, rfl, rfl, ?_, rfl, ?_⟩
  · simp [enter, Cache.insert, vacant]
  · exact attempts_accountFor.trans counted

/-- A demand after that is answered from the entry. -/
theorem obtain_of_registered
    (shares : caller.SharesSeed key signature accumulator seed)
    {entry : Entry Base ε}
    (registered : registry.cache.entries = [entry])
    (sameKey : entry.key = key)
    (sameSignature : entry.signature = signature) :
    registry.obtain caller = (entry.reply, registry.log [.hit key]) := by
  obtain ⟨declaration, rfl, _⟩ := shares
  have found : registry.cache.find? key = some entry := by
    simp [Cache.find?, registered, sameKey]
  rw [obtain_of_found found, Entry.handOut_of_same sameSignature]

/-! ## Demands one after another -/

/-- The reply of a demand whose attempt fails. -/
def FailsAt
    (seed : Seed ε (signature.output.Value Base))
    (attempt : Nat)
    (reply : Reply Base ε) :
    Prop :=
  ∃ failure,
    seed.check attempt = .error failure ∧
      reply = ⟨signature, .error failure⟩

/-- While the attempts fail, every demand makes one and answers with its failure. -/
theorem obtainAll_of_failing
    (share :
      ∀ caller ∈ callers, caller.SharesSeed key signature accumulator seed)
    (vacant : registry.cache.entries = [])
    (fails :
      ∀ attempt,
        attempt < registry.attempts accumulator + callers.length →
        ∃ failure, seed.check attempt = .error failure) :
    List.Forall₂ (FailsAt seed)
        (List.range' (registry.attempts accumulator) callers.length)
        (registry.obtainAll callers).1 ∧
      (registry.obtainAll callers).2.cache.entries = [] ∧
      (registry.obtainAll callers).2.declared =
        registry.declared + callers.length ∧
      (registry.obtainAll callers).2.attempts accumulator =
        registry.attempts accumulator + callers.length := by
  induction callers generalizing registry with
  | nil =>
      exact ⟨.nil, vacant, rfl, rfl⟩
  | cons caller rest inductionHypothesis =>
      obtain ⟨failure, checked⟩ :=
        fails (registry.attempts accumulator) (by simp)
      obtain ⟨answered, vacantNext, declared, attempts⟩ :=
        obtain_of_failing (share caller (.head _)) vacant checked
      have moved :
          (registry.obtain caller).2.attempts accumulator + rest.length =
            registry.attempts accumulator + (caller :: rest).length := by
        rw [attempts, List.length_cons]
        omega
      obtain ⟨replies, vacantLast, declaredLast, attemptsLast⟩ :=
        inductionHypothesis
          (fun later member => share later (.tail _ member)) vacantNext
          (fun attempt bound => fails attempt (moved ▸ bound))
      rw [attempts] at replies
      refine ⟨.cons ⟨failure, checked, answered⟩ replies, vacantLast, ?_,
        attemptsLast.trans moved⟩
      rw [obtainAll, declaredLast, declared, List.length_cons]
      omega

/-- Once the procedure is registered, every demand is answered with it. -/
theorem obtainAll_of_registered
    (share :
      ∀ caller ∈ callers, caller.SharesSeed key signature accumulator seed)
    {entry : Entry Base ε}
    (registered : registry.cache.entries = [entry])
    (sameKey : entry.key = key)
    (sameSignature : entry.signature = signature) :
    (∀ reply ∈ (registry.obtainAll callers).1, reply = entry.reply) ∧
      (registry.obtainAll callers).2.cache.entries = [entry] ∧
      (registry.obtainAll callers).2.declared = registry.declared ∧
      (registry.obtainAll callers).2.attempts accumulator =
        registry.attempts accumulator := by
  induction callers generalizing registry with
  | nil =>
      exact ⟨by simp [obtainAll], registered, rfl, rfl⟩
  | cons caller rest inductionHypothesis =>
      have answered :=
        obtain_of_registered (share caller (.head _)) registered sameKey
          sameSignature
      have stillRegistered :
          (registry.log [.hit key]).cache.entries = [entry] :=
        registered
      obtain ⟨replies, registeredLast, declared, attempts⟩ :=
        inductionHypothesis (fun later member => share later (.tail _ member))
          stillRegistered
      simp only [obtainAll, answered]
      refine ⟨fun reply member => ?_, registeredLast, declared, attempts⟩
      rcases List.mem_cons.mp member with isFirst | isLater
      · exact isFirst
      · exact replies reply isLater

/-- What demands that share a seed come to, if so many attempts fail at first. -/
structure SharedOutcome
    (demands failed accumulator : Nat)
    (seed : Seed ε (signature.output.Value Base))
    (registry : Registry Base ε)
    (failures successes : List (Reply Base ε)) :
    Prop where
  /-- Each failure is that of the demand's own attempt. -/
  failing :
    List.Forall₂ (FailsAt seed) (List.range (min demands failed)) failures
  /-- Each success is with the one procedure that is registered. -/
  succeeding :
    ∀ reply ∈ successes,
      ∃ entry, registry.cache.entries = [entry] ∧ reply = entry.reply
  declared : registry.declared = min demands (failed + 1)
  attempts : registry.attempts accumulator = min demands (failed + 1)
  registered : registry.cache.length = if failed < demands then 1 else 0

/--
Demands that share a seed fail up to the first attempt that passes, each with the
failure of its own attempt, and all others are answered with the one procedure that
is then registered.  Nothing is declared or encoded after that.
-/
theorem obtainAll_of_shared
    (share :
      ∀ caller ∈ callers, caller.SharesSeed key signature accumulator seed)
    {failed : Nat}
    (fails :
      ∀ attempt < failed, ∃ failure, seed.check attempt = .error failure)
    (passes : failed < callers.length → seed.check failed = .ok ()) :
    ∃ failures successes,
      (empty.obtainAll callers).1 = failures ++ successes ∧
        SharedOutcome callers.length failed accumulator seed
          (empty.obtainAll callers).2 failures successes := by
  have unused : (empty : Registry Base ε).cache.entries = [] := rfl
  have uncounted : (empty : Registry Base ε).attempts accumulator = 0 := rfl
  have undeclared : (empty : Registry Base ε).declared = 0 := rfl
  by_cases enough : failed < callers.length
  · -- The first attempt that passes splits the demands in three.
    obtain ⟨failing, caller, rest, rfl, rfl⟩ :
        ∃ failing caller rest,
          callers = failing ++ caller :: rest ∧ failing.length = failed :=
      ⟨callers.take failed, callers[failed], callers.drop (failed + 1), by simp,
        by simp [Nat.le_of_lt enough]⟩
    have shareFailing :
        ∀ other ∈ failing,
          other.SharesSeed key signature accumulator seed :=
      fun other member => share other (by simp [member])
    have shareRest :
        ∀ other ∈ rest, other.SharesSeed key signature accumulator seed :=
      fun other member => share other (by simp [member])
    obtain ⟨failures, vacant, declared, attempts⟩ :=
      obtainAll_of_failing shareFailing unused
        (fun attempt bound => fails attempt (by omega))
    rw [uncounted, Nat.zero_add] at attempts
    rw [undeclared, Nat.zero_add] at declared
    rw [uncounted, ← List.range_eq_range'] at failures
    obtain ⟨entry, sameKey, sameSignature, answered, registered, declaredNext,
        attemptsNext⟩ :=
      obtain_of_passing (share caller (by simp)) vacant
        (attempts.symm ▸ passes enough)
    obtain ⟨replies, registeredLast, declaredLast, attemptsLast⟩ :=
      obtainAll_of_registered shareRest registered sameKey sameSignature
    rw [obtainAll_append]
    refine ⟨_, _, rfl, ?_, fun reply member => ⟨entry, registeredLast, ?_⟩,
      ?_, ?_, ?_⟩
    · rwa [Nat.min_eq_right (Nat.le_of_lt enough)]
    · rcases List.mem_cons.mp member with isFirst | isLater
      · exact isFirst.trans answered
      · exact replies reply isLater
    · rw [obtainAll, declaredLast, declaredNext, declared,
        Nat.min_eq_right enough]
    · rw [obtainAll, attemptsLast, attemptsNext, attempts,
        Nat.min_eq_right enough]
    · rw [Cache.length, obtainAll, registeredLast, if_pos enough,
        List.length_singleton]
  · have many : callers.length ≤ failed := Nat.le_of_not_lt enough
    obtain ⟨failures, vacant, declared, attempts⟩ :=
      obtainAll_of_failing share unused
        (fun attempt bound => fails attempt (by omega))
    rw [uncounted, ← List.range_eq_range'] at failures
    refine ⟨_, [], (List.append_nil _).symm, ?_, by simp, ?_, ?_, ?_⟩
    · rwa [Nat.min_eq_left many]
    · rw [declared, undeclared, Nat.zero_add,
        Nat.min_eq_left (Nat.le_succ_of_le many)]
    · rw [attempts, uncounted, Nat.zero_add,
        Nat.min_eq_left (Nat.le_succ_of_le many)]
    · rw [Cache.length, vacant, if_neg enough, List.length_nil]

end Registry

end OnePass
