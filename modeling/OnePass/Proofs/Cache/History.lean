import OnePass.Proofs.Cache.Registry

namespace OnePass

/-!
# Histories of a cache

A history is any sequence of demands and inquiries.  What it has registered can be
read off its answers: a demand registers the procedure it answers with if it ran
its declaration.  These registrations are the entries of the cache, and they alone
decide how the next operation is answered.
-/

variable {Name : Type} {Base : Name → Type} {ε : Type}

/-- An operation on a cache. -/
inductive Operation (Base : Name → Type) (ε : Type) where
  | obtain (caller : Caller Base ε)
  | contains (key : String)
  | length
  | isEmpty

/-- What an operation answers. -/
inductive Response (Base : Name → Type) (ε : Type) where
  | reply (reply : Reply Base ε)
  | truth (holds : Bool)
  | count (number : Nat)

namespace Registry

variable [DecidableEq Name]
variable {registry : Registry Base ε} {history : List (Operation Base ε)}

/-- Answer an operation. -/
def answer
    (registry : Registry Base ε) :
    Operation Base ε → Response Base ε × Registry Base ε
  | .obtain caller =>
      (.reply (registry.obtain caller).1, (registry.obtain caller).2)
  | .contains key => (.truth (registry.cache.contains key), registry)
  | .length => (.count registry.cache.length, registry)
  | .isEmpty => (.truth registry.cache.isEmpty, registry)

/-- The registry after a history. -/
def after
    (registry : Registry Base ε) :
    List (Operation Base ε) → Registry Base ε
  | [] => registry
  | operation :: rest => (registry.answer operation).2.after rest

/-- What an operation registers. -/
def registration?
    (registry : Registry Base ε) :
    Operation Base ε → Option (Entry Base ε)
  | .obtain caller =>
      if registry.declared < (registry.obtain caller).2.declared then
        match (registry.obtain caller).1 with
        | ⟨signature, .ok procedure⟩ =>
            some ⟨caller.demand.key, signature, procedure⟩
        | ⟨_, .error _⟩ => none
      else none
  | .contains _ | .length | .isEmpty => none

/-- What the operations of a history register, in order. -/
def registrations
    (registry : Registry Base ε) :
    List (Operation Base ε) → List (Entry Base ε)
  | [] => []
  | operation :: rest =>
      (registry.registration? operation).toList ++
        (registry.answer operation).2.registrations rest

/-- An operation adds what it registers to the entries. -/
theorem entries_answer
    (registry : Registry Base ε)
    (operation : Operation Base ε) :
    (registry.answer operation).2.cache.entries =
      registry.cache.entries ++
        (registry.registration? operation).toList := by
  cases operation with
  | contains | length | isEmpty =>
      exact (List.append_nil _).symm
  | obtain caller =>
      simp only [answer, registration?]
      have answering := registry.obtain_answering caller
      generalize registry.obtain caller = answered at answering ⊢
      cases answering with
      | hit found =>
          simp [log]
      | fails missing compiled =>
          simp
      | registers missing compiled =>
          simp [enter, log, Cache.insert]

/-- A history adds what it registers to the entries. -/
theorem entries_after
    (registry : Registry Base ε)
    (history : List (Operation Base ε)) :
    (registry.after history).cache.entries =
      registry.cache.entries ++ registry.registrations history := by
  induction history generalizing registry with
  | nil =>
      exact (List.append_nil _).symm
  | cons operation rest inductionHypothesis =>
      rw [after, registrations, inductionHypothesis, entries_answer,
        List.append_assoc]

/-- The entries after a history of a fresh cache are its registrations. -/
theorem entries_after_empty
    (history : List (Operation Base ε)) :
    (empty.after history).cache.entries = empty.registrations history :=
  entries_after empty history

/-- An operation keeps a sound cache sound. -/
theorem sound_answer
    (sound : registry.cache.Sound)
    (operation : Operation Base ε) :
    (registry.answer operation).2.cache.Sound := by
  cases operation with
  | contains | length | isEmpty =>
      exact sound
  | obtain caller =>
      exact sound_obtain sound

/-- A history keeps a sound cache sound. -/
theorem sound_after
    (sound : registry.cache.Sound)
    (history : List (Operation Base ε)) :
    (registry.after history).cache.Sound := by
  induction history generalizing registry with
  | nil =>
      exact sound
  | cons operation rest inductionHypothesis =>
      exact inductionHypothesis (sound_answer sound operation)

/-! ## The next demand -/

variable {caller : Caller Base ε}

/-- A demand under a new key runs its declaration once and answers its outcome. -/
theorem obtain_of_missing
    (missing : registry.cache.find? caller.demand.key = none) :
    (registry.obtain caller).1 =
        ⟨caller.demand.signature, (registry.compileFor caller).outcome⟩ ∧
      (registry.obtain caller).2.declared = registry.declared + 1 ∧
      (∀ procedure,
        (registry.compileFor caller).outcome = .ok procedure →
        (registry.obtain caller).2.cache.entries =
          registry.cache.entries ++
            [⟨caller.demand.key, caller.demand.signature, procedure⟩]) ∧
      ∀ failure,
        (registry.compileFor caller).outcome = .error failure →
        (registry.obtain caller).2.cache = registry.cache := by
  cases compiled : (registry.compileFor caller).outcome with
  | error failure =>
      rw [obtain_of_error missing compiled]
      simp
  | ok procedure =>
      rw [obtain_of_ok missing compiled]
      simp [enter, log, Cache.insert]

/-- What a demand comes to under the key of an entry. -/
structure Hits
    (registry : Registry Base ε)
    (caller : Caller Base ε)
    (entry : Entry Base ε) :
    Prop where
  /-- The entry is the answer exactly if it has the signature demanded. -/
  answered :
    (registry.obtain caller).1 = entry.reply ↔
      entry.signature = caller.demand.signature
  refused :
    entry.signature ≠ caller.demand.signature →
      (registry.obtain caller).1 =
        ⟨caller.demand.signature,
          .error (.refused (.cacheTypeMismatch caller.demand.key))⟩
  /-- Nothing is declared, encoded or registered. -/
  untouched :
    (registry.obtain caller).2 = registry.log [.hit caller.demand.key]

/-- What a demand comes to under a key that has no entry. -/
structure Misses
    (registry : Registry Base ε)
    (caller : Caller Base ε) :
    Prop where
  answered :
    (registry.obtain caller).1 =
      ⟨caller.demand.signature, (registry.compileFor caller).outcome⟩
  declaredOnce :
    (registry.obtain caller).2.declared = registry.declared + 1
  /-- A success becomes an entry, with a procedure unlike all earlier ones. -/
  registered :
    ∀ procedure,
      (registry.compileFor caller).outcome = .ok procedure →
      (registry.obtain caller).2.cache.entries =
          registry.cache.entries ++
            [⟨caller.demand.key, caller.demand.signature, procedure⟩] ∧
        ∀ entry ∈ registry.cache.entries,
          entry.procedure.identity ≠ procedure.identity
  /-- A failure leaves no entry, so that the next demand declares again. -/
  failed :
    ∀ failure,
      (registry.compileFor caller).outcome = .error failure →
      (registry.obtain caller).2.cache.entries = registry.cache.entries ∧
        ∀ next : Caller Base ε,
          next.demand.key = caller.demand.key →
          ((registry.obtain caller).2.obtain next).2.declared =
            (registry.obtain caller).2.declared + 1

/-- A demand under the key of an entry is a hit. -/
theorem hits_of_found
    {entry : Entry Base ε}
    (found : registry.cache.find? caller.demand.key = some entry) :
    registry.Hits caller entry := by
  have obtained := obtain_of_found found
  refine ⟨⟨?_, ?_⟩, ?_, by rw [obtained]⟩
  · intro answered
    rw [obtained] at answered
    exact (congrArg Reply.signature answered).symm
  · intro same
    rw [obtained]
    exact Entry.handOut_of_same same
  · intro different
    rw [obtained, Entry.handOut_of_different different]

/-- A demand under a key that has no entry is a miss. -/
theorem misses_of_missing
    (sound : registry.cache.Sound)
    (missing : registry.cache.find? caller.demand.key = none) :
    registry.Misses caller := by
  obtain ⟨answered, declared, registered, failed⟩ := obtain_of_missing missing
  refine ⟨answered, declared, ?_, ?_⟩
  · intro procedure compiled
    refine ⟨registered procedure compiled, ?_⟩
    intro entry member
    rw [Declaration.identity_compile compiled]
    exact sound.identity_ne member
  · intro failure compiled
    have unchanged := failed failure compiled
    refine ⟨congrArg Cache.entries unchanged, ?_⟩
    intro next sameKey
    have stillMissing :
        (registry.obtain caller).2.cache.find? next.demand.key = none := by
      rw [unchanged, sameKey]
      exact missing
    exact (obtain_of_missing stillMissing).2.1

/-- How a fresh cache answers a demand, and inquiries, after a history. -/
structure FirstSuccess
    (history : List (Operation Base ε))
    (caller : Caller Base ε) :
    Prop where
  entries : (empty.after history).cache.entries = empty.registrations history
  oneForEachKey : ((empty.registrations history).map Entry.key).Nodup
  hits :
    ∀ entry ∈ empty.registrations history,
      entry.key = caller.demand.key →
      (empty.after history).Hits caller entry
  misses :
    (∀ entry ∈ empty.registrations history,
      entry.key ≠ caller.demand.key) →
    (empty.after history).Misses caller
  contains :
    ∀ key,
      (empty.after history).answer (.contains key) =
        (.truth
            ((empty.registrations history).any fun entry => entry.key == key),
          empty.after history)
  length :
    (empty.after history).answer .length =
      (.count (empty.registrations history).length, empty.after history)
  isEmpty :
    (empty.after history).answer .isEmpty =
      (.truth (empty.registrations history).isEmpty, empty.after history)

/--
First success wins.  After any history of a fresh cache, a demand under a key that
was registered is answered with the registered procedure exactly if it asks for its
signature and is refused otherwise; nothing is declared, encoded or registered.  A
demand under any other key runs its declaration once and answers with what compiling
it comes to.  A success is registered, with a procedure unlike all earlier ones; a
failure leaves the entries as they were, so that the next demand under the key
declares again.  The inquiries tell what was registered.
-/
theorem obtain_first_success
    (history : List (Operation Base ε))
    (caller : Caller Base ε) :
    FirstSuccess history caller := by
  have entries := entries_after_empty history
  have sound : (empty.after history).cache.Sound :=
    sound_after Cache.sound_empty history
  refine ⟨entries, ?_, ?_, ?_, ?_, ?_, ?_⟩ <;> rw [← entries]
  · exact sound.keys
  · intro entry member sameKey
    have found := sound.find?_of_mem member
    rw [sameKey] at found
    exact hits_of_found found
  · intro missing
    exact misses_of_missing sound (Cache.find?_eq_none.mpr missing)
  · intro key
    rw [answer, Cache.contains_eq_any]
  · rfl
  · rfl

/-- A demand for a procedure that returns its input. -/
def copying : Caller (fun _ : Empty => Unit) String where
  demand :=
    { key := "k"
      signature := ⟨.position, .unit, .list .position⟩
      declaration := .declares .done .leaveOpen }
  accumulator := 0

/-- A demand under the same key for a procedure that joins its input. -/
def joining : Caller (fun _ : Empty => Unit) String where
  demand :=
    { key := "k"
      signature := ⟨.position, .unit, .text⟩
      declaration := .declares .done (.terminal (.join "," toString)) }
  accumulator := 0

/-- The entry that the first of the two demands leads to. -/
def copied : Entry (fun _ : Empty => Unit) String where
  key := "k"
  signature := ⟨.position, .unit, .list .position⟩
  procedure := ((Pipeline.new 0).collect).procedure.share

/-- A registration, a hit and a refusal. -/
theorem obtain_copying_joining :
    ((empty.after []).obtain copying).2.declared = 1 ∧
      ((empty.after [.obtain copying]).obtain copying).1 = copied.reply ∧
      ((empty.after [.obtain copying]).obtain joining).1 =
        ⟨⟨.position, .unit, .text⟩,
          .error (.refused (.cacheTypeMismatch "k"))⟩ := by
  have registered : copied ∈ empty.registrations [.obtain copying] :=
    List.mem_singleton.mpr rfl
  have first := obtain_first_success [] copying
  have again := obtain_first_success [.obtain copying] copying
  have other := obtain_first_success [.obtain copying] joining
  refine ⟨(first.misses (by simp [registrations])).declaredOnce, ?_, ?_⟩
  · exact (again.hits copied registered rfl).answered.mpr rfl
  · exact (other.hits copied registered rfl).refused (by decide)

end Registry

end OnePass
