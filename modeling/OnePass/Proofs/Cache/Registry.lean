import OnePass.Proofs.Cache.Obtaining

namespace OnePass

/-!
# Registries under demands

The entries of a cache have different keys, and the identity of a procedure is the
number of those registered before it.  Demands keep this so, and what they answer
with is an entry afterwards.
-/

variable {Name : Type} {Base : Name → Type} {ε : Type}

/-- No two entries share a key, and every procedure has the identity it was given. -/
structure Cache.Sound (cache : Cache Base ε) : Prop where
  keys : (cache.entries.map Entry.key).Nodup
  identities :
    cache.entries.map (fun entry => entry.procedure.identity) =
      List.range cache.entries.length

/-- The empty cache is sound. -/
theorem Cache.sound_empty : (empty : Cache Base ε).Sound where
  keys := List.nodup_nil
  identities := rfl

namespace Cache.Sound

variable {cache : Cache Base ε}

/-- In a sound cache every entry is found under its key. -/
theorem find?_of_mem
    (sound : cache.Sound)
    {entry : Entry Base ε}
    (member : entry ∈ cache.entries) :
    cache.find? entry.key = some entry := by
  cases found : cache.find? entry.key with
  | none =>
      exact absurd rfl (Cache.find?_eq_none.mp found entry member)
  | some other =>
      obtain ⟨otherMember, sameKey⟩ := Cache.mem_of_find? found
      rw [List.inj_on_of_nodup_map sound.keys otherMember member sameKey]

/-- In a sound cache the next identity is that of no entry. -/
theorem identity_ne
    (sound : cache.Sound)
    {entry : Entry Base ε}
    (member : entry ∈ cache.entries) :
    entry.procedure.identity ≠ cache.nextIdentity := by
  have given : entry.procedure.identity ∈ List.range cache.entries.length := by
    rw [← sound.identities]
    exact List.mem_map_of_mem member
  exact Nat.ne_of_lt (List.mem_range.mp given)

/-- Registering a procedure of the next identity under a new key is sound. -/
theorem insert
    (sound : cache.Sound)
    {entry : Entry Base ε}
    (missing : cache.find? entry.key = none)
    (identity : entry.procedure.identity = cache.nextIdentity) :
    (cache.insert entry).Sound where
  keys := by
    have absent : entry.key ∉ cache.entries.map Entry.key := by
      simpa using Cache.find?_eq_none.mp missing
    simp only [Cache.insert, List.map_append, List.map_cons, List.map_nil]
    exact List.nodup_append_comm.mp (List.nodup_cons.mpr ⟨absent, sound.keys⟩)
  identities := by
    simp [Cache.insert, sound.identities, identity, Cache.nextIdentity,
      List.range_succ]

end Cache.Sound

/-! ## Handing an entry out -/

namespace Entry

variable {entry : Entry Base ε} {key : String} {signature : Signature Name}

/-- The reply that hands an entry's procedure out. -/
def reply (entry : Entry Base ε) : Reply Base ε where
  signature := entry.signature
  outcome := .ok entry.procedure

/-- An entry is handed out to those who ask for its signature. -/
theorem handOut_of_same
    [DecidableEq Name]
    (same : entry.signature = signature) :
    (⟨signature, entry.handOut key signature⟩ : Reply Base ε) =
      entry.reply := by
  subst same
  simp [handOut, procedure?, reply]

/-- Those who ask for another signature than an entry has are refused. -/
theorem handOut_of_different
    [DecidableEq Name]
    (different : entry.signature ≠ signature) :
    entry.handOut key signature =
      .error (.refused (.cacheTypeMismatch key)) := by
  simp [handOut, procedure?, different]

end Entry

/-! ## One demand -/

namespace Registry

variable {registry : Registry Base ε} {caller : Caller Base ε}

/-- What compiling a caller's declaration comes to. -/
def compileFor
    (registry : Registry Base ε)
    (caller : Caller Base ε) :
    Compiled Base ε caller.demand.signature :=
  caller.demand.declaration.compile registry.cache.nextIdentity
    (registry.attempts caller.accumulator)

/-- Account for compiling a caller's declaration. -/
def accountFor
    (registry : Registry Base ε)
    (caller : Caller Base ε) :
    Registry Base ε :=
  (registry.countDeclaration.setAttempts caller.accumulator
    (registry.compileFor caller).attempts).log
      (registry.compileFor caller).events

@[simp] theorem cache_accountFor :
    (registry.accountFor caller).cache = registry.cache :=
  rfl

@[simp] theorem declared_accountFor :
    (registry.accountFor caller).declared = registry.declared + 1 :=
  rfl

@[simp] theorem attempts_accountFor :
    (registry.accountFor caller).attempts caller.accumulator =
      (registry.compileFor caller).attempts := by
  simp [accountFor, log, setAttempts]

/-- Setting the attempts to what they are changes nothing. -/
theorem setAttempts_self
    (registry : Registry Base ε)
    (accumulator : Nat) :
    registry.setAttempts accumulator (registry.attempts accumulator) =
      registry := by
  have same :
      (fun other =>
        if other = accumulator then registry.attempts accumulator
        else registry.attempts other) = registry.attempts := by
    funext other
    split
    · rename_i isSame
      rw [isSame]
    · rfl
  simp only [setAttempts, same]

/-- The three things that a demand on a registry can come to. -/
inductive Answering
    [DecidableEq Name]
    (registry : Registry Base ε)
    (caller : Caller Base ε) :
    Reply Base ε × Registry Base ε → Prop where
  | hit
      {entry : Entry Base ε}
      (found : registry.cache.find? caller.demand.key = some entry) :
      Answering registry caller
        (⟨caller.demand.signature,
            entry.handOut caller.demand.key caller.demand.signature⟩,
          registry.log [.hit caller.demand.key])
  | fails
      {failure : Failure ε}
      (missing : registry.cache.find? caller.demand.key = none)
      (compiled : (registry.compileFor caller).outcome = .error failure) :
      Answering registry caller
        (⟨caller.demand.signature, .error failure⟩,
          registry.accountFor caller)
  | registers
      {procedure : Shared Base ε caller.demand.signature}
      (missing : registry.cache.find? caller.demand.key = none)
      (compiled : (registry.compileFor caller).outcome = .ok procedure) :
      Answering registry caller
        (⟨caller.demand.signature, .ok procedure⟩,
          (registry.accountFor caller).enter
            ⟨caller.demand.key, caller.demand.signature, procedure⟩)

/-- A declaration that aborts makes no encoding attempt. -/
theorem accountFor_of_aborts
    (registry : Registry Base ε)
    {key : String}
    {signature : Signature Name}
    {reason : ε}
    {accumulator : Nat} :
    registry.accountFor ⟨⟨key, signature, .aborts reason⟩, accumulator⟩ =
      registry.countDeclaration := by
  have unchanged := registry.countDeclaration.setAttempts_self accumulator
  change
    (registry.countDeclaration.setAttempts accumulator
      (registry.countDeclaration.attempts accumulator)).log [] = _
  rw [unchanged]
  simp [log]

variable [DecidableEq Name]

/-- Every demand comes to one of the three. -/
theorem obtain_answering
    (registry : Registry Base ε)
    (caller : Caller Base ε) :
    registry.Answering caller (registry.obtain caller) := by
  have answering :=
    registry.cache.obtain_answering caller.demand
      (registry.attempts caller.accumulator)
  unfold obtain
  generalize registry.cache.obtain caller.demand
    (registry.attempts caller.accumulator) = obtained at answering
  cases answering with
  | hit found =>
      simp only [setAttempts_self]
      exact .hit found
  | fails missing compiled =>
      exact .fails missing compiled
  | registers missing compiled =>
      simp only [log, setAttempts, ← List.append_assoc]
      exact .registers missing compiled

/-- A demand comes to only one of the three. -/
theorem Answering.unique
    {first second : Reply Base ε × Registry Base ε}
    (firstAnswering : registry.Answering caller first)
    (secondAnswering : registry.Answering caller second) :
    first = second := by
  cases firstAnswering with
  | hit found =>
      cases secondAnswering with
      | hit other =>
          rw [found] at other
          cases other
          rfl
      | fails missing | registers missing =>
          rw [found] at missing
          contradiction
  | fails missing compiled =>
      cases secondAnswering with
      | hit found =>
          rw [missing] at found
          contradiction
      | fails _ other =>
          rw [compiled] at other
          cases other
          rfl
      | registers _ other =>
          rw [compiled] at other
          contradiction
  | registers missing compiled =>
      cases secondAnswering with
      | hit found =>
          rw [missing] at found
          contradiction
      | fails _ other =>
          rw [compiled] at other
          contradiction
      | registers _ other =>
          rw [compiled] at other
          cases other
          rfl

/-- A demand that finds its key is answered from the entry, and only logged. -/
theorem obtain_of_found
    {entry : Entry Base ε}
    (found : registry.cache.find? caller.demand.key = some entry) :
    registry.obtain caller =
      (⟨caller.demand.signature,
          entry.handOut caller.demand.key caller.demand.signature⟩,
        registry.log [.hit caller.demand.key]) :=
  (registry.obtain_answering caller).unique (.hit found)

/-- A demand under a new key whose declaration fails answers with the failure. -/
theorem obtain_of_error
    (missing : registry.cache.find? caller.demand.key = none)
    {failure : Failure ε}
    (compiled : (registry.compileFor caller).outcome = .error failure) :
    registry.obtain caller =
      (⟨caller.demand.signature, .error failure⟩,
        registry.accountFor caller) :=
  (registry.obtain_answering caller).unique (.fails missing compiled)

/-- A demand under a new key whose declaration compiles registers the procedure. -/
theorem obtain_of_ok
    (missing : registry.cache.find? caller.demand.key = none)
    {procedure : Shared Base ε caller.demand.signature}
    (compiled : (registry.compileFor caller).outcome = .ok procedure) :
    registry.obtain caller =
      (⟨caller.demand.signature, .ok procedure⟩,
        (registry.accountFor caller).enter
          ⟨caller.demand.key, caller.demand.signature, procedure⟩) :=
  (registry.obtain_answering caller).unique (.registers missing compiled)

/-- A demand keeps a sound cache sound. -/
theorem sound_obtain
    (sound : registry.cache.Sound) :
    (registry.obtain caller).2.cache.Sound := by
  have answering := registry.obtain_answering caller
  generalize registry.obtain caller = answer at answering ⊢
  cases answering with
  | hit | fails =>
      exact sound
  | registers missing compiled =>
      exact sound.insert missing (Declaration.identity_compile compiled)

/-- A procedure that was handed out or registered is that of an entry afterwards. -/
theorem mem_entries_of_obtained
    {signature : Signature Name}
    {procedure : Shared Base ε signature}
    (obtained : (registry.obtain caller).1 = ⟨signature, .ok procedure⟩) :
    ⟨caller.demand.key, signature, procedure⟩ ∈
      (registry.obtain caller).2.cache.entries := by
  have answering := registry.obtain_answering caller
  generalize registry.obtain caller = answer at answering obtained ⊢
  cases answering with
  | fails =>
      cases obtained
  | registers =>
      cases obtained
      exact List.mem_append_right _ (List.mem_singleton_self _)
  | @hit entry found =>
      obtain ⟨member, sameKey⟩ := Cache.mem_of_find? found
      by_cases same : entry.signature = caller.demand.signature
      · rw [Entry.handOut_of_same same] at obtained
        cases obtained
        rw [← sameKey]
        exact member
      · rw [Entry.handOut_of_different same] at obtained
        cases obtained

end Registry

end OnePass
