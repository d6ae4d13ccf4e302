import OnePass.Proofs.Cache.History
import OnePass.Proofs.Declaring

namespace OnePass

/-!
# What the log tells about the cache

A demand that finds its key logs a hit, one that registers logs that it compiled and
then that it registered, and one that fails logs nothing.  The log of a history
therefore accounts for the cache: every entry was compiled once and registered once,
and no key was hit before its registration.
-/

variable {Name : Type} {Base : Name → Type} {ε : Type}
variable {context source element output : ValueType Name}
variable {signature : Signature Name}

namespace Event

/-- The key of a registration. -/
def registeredKey? : Event → Option String
  | .registered key _ => some key
  | .compiled _ _ | .hit _ | .rejected _ => none

/-- Whether the event tells of a pipeline that was compiled. -/
def isCompiled : Event → Bool
  | .compiled _ _ => true
  | .registered _ _ | .hit _ | .rejected _ => false

/-- Every key that the log tells was hit had been registered before. -/
def HitsCovered (log : List Event) : Prop :=
  ∀ before key later,
    log = before ++ .hit key :: later →
    key ∈ before.filterMap registeredKey?

/-- A key is that of a registration exactly if the log lists one with it. -/
theorem mem_registeredKeys
    {log : List Event}
    {key : String} :
    key ∈ log.filterMap registeredKey? ↔
      ∃ stages, .registered key stages ∈ log := by
  rw [List.mem_filterMap]
  constructor
  · rintro ⟨event, member, named⟩
    cases event with
    | registered other stages =>
        cases named
        exact ⟨stages, member⟩
    | compiled | hit | rejected =>
        contradiction
  · rintro ⟨stages, member⟩
    exact ⟨_, member, rfl⟩

/-- Hits stay covered if only keys that were registered before are hit. -/
theorem HitsCovered.append
    {log later : List Event}
    (covered : HitsCovered log)
    (registered :
      ∀ key, .hit key ∈ later → key ∈ log.filterMap registeredKey?) :
    HitsCovered (log ++ later) := by
  intro before key behind split
  rcases List.append_eq_append_iff.mp split with
    ⟨between, rfl, isLater⟩ | ⟨between, isLog, isHit⟩
  · -- The hit is one of the later events.
    rw [List.filterMap_append]
    apply List.mem_append_left
    exact registered key (by simp [isLater])
  · cases between with
    | nil =>
        rw [List.append_nil] at isLog
        rw [List.nil_append] at isHit
        rw [← isLog]
        exact registered key (by rw [← isHit]; exact List.mem_cons_self)
    | cons event rest =>
        cases isHit
        exact covered before key rest isLog

end Event

/-! ## The log beside the cache -/

namespace Registry

variable {registry : Registry Base ε}

/-- The log tells of every entry once, and of no hit before its registration. -/
structure Accounted (registry : Registry Base ε) : Prop where
  registered :
    registry.events.filterMap Event.registeredKey? =
      registry.cache.entries.map Entry.key
  compiled :
    registry.events.countP Event.isCompiled = registry.cache.length
  hits : Event.HitsCovered registry.events

/-- Nothing is logged at the start, and nothing is registered. -/
theorem accounted_empty : (empty : Registry Base ε).Accounted where
  registered := rfl
  compiled := rfl
  hits := by simp [Event.HitsCovered, empty]

/-- A key is that of a registration in the log exactly if the cache contains it. -/
theorem Accounted.mem_registeredKeys_iff
    (accounted : registry.Accounted)
    (key : String) :
    key ∈ registry.events.filterMap Event.registeredKey? ↔
      registry.cache.contains key = true := by
  rw [accounted.registered, Cache.contains_eq_any]
  simp

end Registry

/-- Registering a procedure adds one entry. -/
theorem Cache.length_insert
    (cache : Cache Base ε)
    (entry : Entry Base ε) :
    (cache.insert entry).length = cache.length + 1 := by
  simp [insert, length]

/-! ## What one demand logs -/

namespace Sealed

variable {pipeline : Sealed Base ε context source element output}
variable {attempts : Nat}

/-- A build that fails logs nothing. -/
theorem events_build_of_error
    {failure : Failure ε}
    (failed : (pipeline.build attempts).outcome = .error failure) :
    (pipeline.build attempts).events = [] := by
  unfold build at failed ⊢
  cases compiled : pipeline.compiled with
  | true =>
      simp
  | false =>
      cases prepared :
          (pipeline.procedure.terminal.prepare attempts).outcome with
      | error other =>
          simp [prepared]
      | ok _ =>
          simp [compiled, prepared] at failed

/-- A first build that succeeds logs the stages and the shape of its procedure. -/
theorem events_build_of_ok
    (fresh : pipeline.compiled = false)
    {procedure : Fused Base ε context source element output}
    (built : (pipeline.build attempts).outcome = .ok procedure) :
    (pipeline.build attempts).events =
      [.compiled procedure.plan.queue.text procedure.plan.shape] := by
  unfold build at built ⊢
  cases prepared : (pipeline.procedure.terminal.prepare attempts).outcome with
  | error failure =>
      simp [fresh, prepared] at built
  | ok _ =>
      simp only [fresh, prepared, Bool.false_eq_true, if_false,
        Except.ok.injEq] at built ⊢
      rw [← built]
      rfl

end Sealed

namespace Declaration

variable {declaration : Declaration Base ε signature}
variable {identity attempts : Nat}

/-- A declaration that fails to compile logs nothing. -/
theorem events_compile_of_error
    {failure : Failure ε}
    (compiled :
      (declaration.compile identity attempts).outcome = .error failure) :
    (declaration.compile identity attempts).events = [] := by
  cases declaration with
  | aborts reason =>
      rfl
  | declares script ending =>
      simp only [compile] at compiled ⊢
      cases built :
          ((((Pipeline.new identity).follow script).conclude ending).build
            attempts).outcome with
      | error other =>
          exact Sealed.events_build_of_error built
      | ok procedure =>
          simp [built, Except.map] at compiled

/-- A declaration that compiles logs so, once. -/
theorem events_compile_of_ok
    {procedure : Shared Base ε signature}
    (compiled :
      (declaration.compile identity attempts).outcome = .ok procedure) :
    (declaration.compile identity attempts).events =
      [.compiled procedure.plan.queue.text procedure.plan.shape] := by
  cases declaration with
  | aborts reason =>
      simp [compile] at compiled
  | declares script ending =>
      simp only [compile] at compiled ⊢
      have fresh :
          (((Pipeline.new identity).follow script).conclude
            ending).compiled = false := by
        rw [Pipeline.conclude_follow]
      cases built :
          ((((Pipeline.new identity).follow script).conclude ending).build
            attempts).outcome with
      | error failure =>
          simp [built, Except.map] at compiled
      | ok fused =>
          simp only [built, Except.map, Except.ok.injEq] at compiled
          rw [← compiled]
          exact Sealed.events_build_of_ok fresh built

end Declaration

namespace Registry

variable {registry : Registry Base ε} {caller : Caller Base ε}

/-- The three things that a demand can come to, by what it logs. -/
inductive Logging
    (registry : Registry Base ε)
    (caller : Caller Base ε) :
    Reply Base ε × Registry Base ε → Prop where
  | hit
      {reply : Reply Base ε}
      (present : registry.cache.contains caller.demand.key = true) :
      Logging registry caller (reply, registry.log [.hit caller.demand.key])
  | fails
      {failure : Failure ε}
      {later : Registry Base ε}
      (absent : registry.cache.contains caller.demand.key = false)
      (unchanged : later.cache = registry.cache)
      (silent : later.events = registry.events) :
      Logging registry caller
        (⟨caller.demand.signature, .error failure⟩, later)
  | registers
      {procedure : Shared Base ε caller.demand.signature}
      {later : Registry Base ε}
      (absent : registry.cache.contains caller.demand.key = false)
      (inserted :
        later.cache =
          registry.cache.insert
            ⟨caller.demand.key, caller.demand.signature, procedure⟩)
      (logged :
        later.events =
          registry.events ++
            [.compiled procedure.plan.queue.text procedure.plan.shape,
              .registered caller.demand.key procedure.plan.queue.text]) :
      Logging registry caller
        (⟨caller.demand.signature, .ok procedure⟩, later)

/-- Every demand logs in one of the three ways. -/
theorem obtain_logging
    [DecidableEq Name]
    (registry : Registry Base ε)
    (caller : Caller Base ε) :
    registry.Logging caller (registry.obtain caller) := by
  have answering := registry.obtain_answering caller
  generalize registry.obtain caller = answer at answering ⊢
  cases answering with
  | hit found =>
      exact .hit (by simp [Cache.contains, found])
  | fails missing compiled =>
      refine .fails (by simp [Cache.contains, missing]) rfl ?_
      rw [accountFor, compileFor, Declaration.events_compile_of_error compiled]
      exact List.append_nil _
  | registers missing compiled =>
      refine .registers (by simp [Cache.contains, missing]) rfl ?_
      rw [accountFor, compileFor, Declaration.events_compile_of_ok compiled]
      exact List.append_assoc _ _ _

namespace Logging

variable {answer : Reply Base ε × Registry Base ε}

/-- A demand that finds its key logs one hit, whatever it answers. -/
theorem events_of_present
    (logging : registry.Logging caller answer)
    (present : registry.cache.contains caller.demand.key = true) :
    answer.2.events = registry.events ++ [.hit caller.demand.key] := by
  cases logging with
  | hit =>
      rfl
  | fails absent | registers absent =>
      rw [present] at absent
      contradiction

/-- A demand that answers under a new key logs what it compiled and registered. -/
theorem events_of_ok
    (logging : registry.Logging caller answer)
    (absent : registry.cache.contains caller.demand.key = false)
    {signature : Signature Name}
    {procedure : Shared Base ε signature}
    (answered : answer.1 = ⟨signature, .ok procedure⟩) :
    answer.2.cache.length = registry.cache.length + 1 ∧
      answer.2.events =
        registry.events ++
          [.compiled procedure.plan.queue.text procedure.plan.shape,
            .registered caller.demand.key procedure.plan.queue.text] := by
  cases logging with
  | hit present =>
      rw [absent] at present
      contradiction
  | fails =>
      cases answered
  | registers _ inserted logged =>
      cases answered
      exact ⟨by rw [inserted, Cache.length_insert], logged⟩

/-- A demand that fails under a new key logs nothing. -/
theorem events_of_error
    (logging : registry.Logging caller answer)
    (absent : registry.cache.contains caller.demand.key = false)
    {signature : Signature Name}
    {failure : Failure ε}
    (answered : answer.1 = ⟨signature, .error failure⟩) :
    answer.2.cache.length = registry.cache.length ∧
      answer.2.events = registry.events := by
  cases logging with
  | hit present =>
      rw [absent] at present
      contradiction
  | fails _ unchanged silent =>
      exact ⟨by rw [unchanged], silent⟩
  | registers =>
      cases answered

/-- A demand keeps the log in step with the cache. -/
theorem accounted
    (logging : registry.Logging caller answer)
    (before : registry.Accounted) :
    answer.2.Accounted := by
  cases logging with
  | hit present =>
      refine ⟨?_, ?_, before.hits.append ?_⟩
      · rw [log, List.filterMap_append, before.registered]
        exact List.append_nil _
      · rw [log, List.countP_append, before.compiled]
        rfl
      · intro key isHit
        cases List.mem_singleton.mp isHit
        exact (before.mem_registeredKeys_iff _).mpr present
  | fails _ unchanged silent =>
      constructor
      · rw [silent, unchanged]
        exact before.registered
      · rw [silent, unchanged]
        exact before.compiled
      · rw [silent]
        exact before.hits
  | registers _ inserted logged =>
      constructor
      · rw [logged, inserted, List.filterMap_append, before.registered,
          Cache.insert, List.map_append]
        rfl
      · rw [logged, inserted, List.countP_append, before.compiled,
          Cache.length_insert]
        rfl
      · rw [logged]
        exact before.hits.append (by simp)

end Logging

/-! ## What a history logs -/

variable [DecidableEq Name]

/-- A history keeps the log in step with the cache. -/
theorem Accounted.after
    (accounted : registry.Accounted)
    (history : List (Operation Base ε)) :
    (registry.after history).Accounted := by
  induction history generalizing registry with
  | nil =>
      exact accounted
  | cons operation rest inductionHypothesis =>
      cases operation with
      | obtain caller =>
          exact inductionHypothesis
            ((registry.obtain_logging caller).accounted accounted)
      | contains | length | isEmpty =>
          exact inductionHypothesis accounted

/--
The log accounts for the cache.  After any history of a fresh cache, a demand that
finds its key logs one hit with it and nothing else, whether it is then answered or
refused.  A demand that registers logs that a pipeline was compiled and then that its
procedure was registered under the key, with the same stages.  A demand that fails
under a new key logs nothing.  In the log of a history, the keys of the registrations
are different and are those of the cache, there are as many compilations and as many
registrations as entries, and every hit of a key comes after its registration.
-/
theorem log_accounts_for_cache
    (history : List (Operation Base ε))
    (caller : Caller Base ε) :
    let registry := empty.after history
    let reply := (registry.obtain caller).1
    let later := (registry.obtain caller).2
    let key := caller.demand.key
    ((registry.cache.contains key = true →
        later.events = registry.events ++ [.hit key]) ∧
      (registry.cache.contains key = false →
        ∀ signature procedure,
          reply = ⟨signature, .ok procedure⟩ →
          later.cache.length = registry.cache.length + 1 ∧
            later.events =
              registry.events ++
                [.compiled procedure.plan.queue.text procedure.plan.shape,
                  .registered key procedure.plan.queue.text]) ∧
      (registry.cache.contains key = false →
        ∀ signature failure,
          reply = ⟨signature, .error failure⟩ →
          later.cache.length = registry.cache.length ∧
            later.events = registry.events)) ∧
    (registry.events.filterMap Event.registeredKey?).Nodup ∧
    (∀ other,
      (∃ stages, .registered other stages ∈ registry.events) ↔
        registry.cache.contains other = true) ∧
    registry.events.countP Event.isCompiled = registry.cache.length ∧
    (registry.events.filterMap Event.registeredKey?).length =
      registry.cache.length ∧
    ∀ before other behind,
      registry.events = before ++ .hit other :: behind →
      ∃ stages, .registered other stages ∈ before := by
  intro registry reply later key
  have accounted : registry.Accounted := accounted_empty.after history
  have sound : registry.cache.Sound := sound_after Cache.sound_empty history
  have logging := registry.obtain_logging caller
  refine ⟨⟨logging.events_of_present, ?_, ?_⟩, ?_, ?_, accounted.compiled, ?_, ?_⟩
  · intro absent signature procedure answered
    exact logging.events_of_ok absent answered
  · intro absent signature failure answered
    exact logging.events_of_error absent answered
  · rw [accounted.registered]
    exact sound.keys
  · intro other
    rw [← Event.mem_registeredKeys]
    exact accounted.mem_registeredKeys_iff other
  · rw [accounted.registered, List.length_map]
    rfl
  · intro before other behind split
    exact Event.mem_registeredKeys.mp
      (accounted.hits before other behind split)

/-- A registration, and a refusal that is a hit. -/
theorem log_copying_joining :
    (empty.obtain copying).2.events =
        [.compiled "" .preSized, .registered "k" ""] ∧
      ((empty.after [.obtain copying]).obtain joining).2.events =
        [.compiled "" .preSized, .registered "k" "", .hit "k"] := by
  obtain ⟨⟨_, registers, _⟩, _⟩ := log_accounts_for_cache [] copying
  obtain ⟨⟨hits, _⟩, _⟩ := log_accounts_for_cache [.obtain copying] joining
  exact ⟨(registers rfl _ _ rfl).2, hits rfl⟩

end Registry

end OnePass
