import OnePass.Proofs.Declaring
import OnePass.Proofs.Embedding.Format

namespace OnePass

/-!
# Which seeds last

A seed is embedded if it is read back equal to itself.  Null is what can go wrong: it
is written for a floating-point number that is not finite and for a missing value,
and read as a missing value or not at all.  So a seed lasts exactly if no such number
occurs in it and no present value directly holds a missing one.
-/

namespace SeedType

/-- Whether a floating-point number that is not finite occurs in a value. -/
def hasNonFinite : (seed : SeedType) → seed.Value → Bool
  | .base kind, value => !kind.isFinite value
  | .optional _, none => false
  | .optional inner, some value => inner.hasNonFinite value
  | .list inner, values => List.any values inner.hasNonFinite

/-- Whether a value is a missing optional value. -/
def isMissing : (seed : SeedType) → seed.Value → Bool
  | .base _, _ => false
  | .optional _, none => true
  | .optional _, some _ => false
  | .list _, _ => false

/-- Whether a present value that directly holds a missing one occurs in a value. -/
def holdsMissing : (seed : SeedType) → seed.Value → Bool
  | .base _, _ => false
  | .optional _, none => false
  | .optional inner, some value =>
      inner.isMissing value || inner.holdsMissing value
  | .list inner, values => List.any values inner.holdsMissing

/-- Neither of the two things that null hides occurs in a value. -/
def Lasts (seed : SeedType) (value : seed.Value) : Prop :=
  seed.hasNonFinite value = false ∧ seed.holdsMissing value = false

/-- A value of a base type lasts if it is finite. -/
theorem lasts_base
    (kind : SeedBase)
    (value : kind.Value) :
    (SeedType.base kind).Lasts value ↔ kind.isFinite value = true := by
  simp [Lasts, hasNonFinite, holdsMissing]

/-- A missing value lasts. -/
theorem lasts_none (inner : SeedType) : (optional inner).Lasts none :=
  ⟨rfl, rfl⟩

/-- A present value lasts if what it holds does and is not missing. -/
theorem lasts_some
    (inner : SeedType)
    (value : inner.Value) :
    (optional inner).Lasts (some value) ↔
      inner.Lasts value ∧ inner.isMissing value = false := by
  simp only [Lasts, hasNonFinite, holdsMissing, Bool.or_eq_false_iff]
  tauto

/-- A list lasts if all its items do. -/
theorem lasts_list
    (inner : SeedType)
    (values : List inner.Value) :
    (list inner).Lasts values ↔ ∀ value ∈ values, inner.Lasts value := by
  simp only [Lasts, hasNonFinite, holdsMissing, List.any_eq_false,
    Bool.not_eq_true]
  exact ⟨fun lasts value member => ⟨lasts.1 value member, lasts.2 value member⟩,
    fun lasts => ⟨fun value member => (lasts value member).1,
      fun value member => (lasts value member).2⟩⟩

end SeedType

namespace Format

variable {format : Format}

/-- A value is written, read back, and what is read equals it. -/
def Keeps (format : Format) (seed : SeedType) (value : seed.Value) : Prop :=
  ∃ found decoded,
    format.write seed.type value = .ok found ∧
      format.read seed.type found = .ok decoded ∧
      seed.type.same decoded value = true

namespace Regular

/-- A finite value of a base type is kept, and no other. -/
theorem keeps_base
    (regular : format.Regular)
    (kind : SeedBase)
    (value : kind.Value) :
    format.Keeps (.base kind) value ↔ kind.isFinite value = true := by
  cases finite : kind.isFinite value with
  | true =>
      have written := regular.write_base kind value
      rw [finite, if_pos rfl] at written
      simp only [iff_true]
      exact ⟨_, value, written, regular.read_base kind value finite,
        SeedBase.same_self finite⟩
  | false =>
      have written := regular.write_base kind value
      rw [finite, if_neg Bool.false_ne_true] at written
      obtain ⟨reason, refused⟩ := regular.read_base_null kind
      simp only [Bool.false_eq_true, iff_false]
      rintro ⟨found, decoded, foundWritten, read, _⟩
      rw [written, Except.ok.injEq] at foundWritten
      rw [← foundWritten, refused] at read
      contradiction

/-- A missing value is kept. -/
theorem keeps_none
    (regular : format.Regular)
    (inner : SeedType) :
    format.Keeps (.optional inner) none :=
  ⟨.null, none, regular.write_none inner, regular.read_optional_null inner, rfl⟩

/-- A present value is kept if what it holds is, and is not written as null. -/
theorem keeps_some
    (regular : format.Regular)
    (inner : SeedType)
    (value : inner.Value) :
    format.Keeps (.optional inner) (some value) ↔
      format.Keeps inner value ∧
        format.write inner.type value ≠ .ok .null := by
  constructor
  · rintro ⟨found, decoded, written, read, same⟩
    rw [regular.write_some] at written
    by_cases isNull : found = .null
    · -- Null would be read as a missing value, which a present one never equals.
      rw [isNull, regular.read_optional_null, Except.ok.injEq] at read
      rw [← read] at same
      contradiction
    · obtain ⟨held, heldRead, rfl⟩ :=
        (regular.read_optional inner found decoded isNull).mp read
      refine ⟨⟨found, held, written, heldRead, same⟩, ?_⟩
      rw [written]
      intro sameFound
      exact isNull (Except.ok.inj sameFound)
  · rintro ⟨⟨found, held, written, read, same⟩, notNull⟩
    have isPresent : found ≠ .null := by
      rintro rfl
      exact notNull written
    exact ⟨found, some held, by rw [regular.write_some, written],
      (regular.read_optional inner found (some held) isPresent).mpr
        ⟨held, read, rfl⟩, same⟩

/-- The empty list is kept. -/
theorem keeps_nil
    (regular : format.Regular)
    (inner : SeedType) :
    format.Keeps (.list inner) [] :=
  ⟨.array [], [], (regular.write_list inner [] _).mpr ⟨[], .nil, rfl⟩,
    (regular.read_list inner [] []).mpr .nil, rfl⟩

/-- A list with a first item is kept if the item and the rest are. -/
theorem keeps_cons
    (regular : format.Regular)
    (inner : SeedType)
    (value : inner.Value)
    (rest : List inner.Value) :
    format.Keeps (.list inner) (value :: rest) ↔
      format.Keeps inner value ∧ format.Keeps (.list inner) rest := by
  constructor
  · rintro ⟨found, decoded, written, read, same⟩
    obtain ⟨items, itemsWritten, rfl⟩ :=
      (regular.write_list inner _ found).mp written
    obtain ⟨item, others, itemWritten, othersWritten, rfl⟩ :=
      List.forall₂_cons_left_iff.mp itemsWritten
    obtain ⟨first, later, firstRead, laterRead, rfl⟩ :=
      List.forall₂_cons_left_iff.mp ((regular.read_list inner _ decoded).mp read)
    obtain ⟨firstSame, laterSame⟩ :
        inner.type.same first value = true ∧
          ValueType.sameList inner.type.same later rest = true :=
      Bool.and_eq_true_iff.mp same
    exact ⟨⟨item, first, itemWritten, firstRead, firstSame⟩,
      ⟨.array others, later,
        (regular.write_list inner rest _).mpr ⟨others, othersWritten, rfl⟩,
        (regular.read_list inner others later).mpr laterRead, laterSame⟩⟩
  · rintro ⟨⟨item, first, itemWritten, firstRead, firstSame⟩,
      ⟨found, later, written, read, laterSame⟩⟩
    obtain ⟨others, othersWritten, rfl⟩ :=
      (regular.write_list inner rest found).mp written
    have laterRead := (regular.read_list inner others later).mp read
    exact ⟨.array (item :: others), first :: later,
      (regular.write_list inner _ _).mpr
        ⟨_, .cons itemWritten othersWritten, rfl⟩,
      (regular.read_list inner _ _).mpr (.cons firstRead laterRead),
      Bool.and_eq_true_iff.mpr ⟨firstSame, laterSame⟩⟩

/-- A list is kept if all its items are. -/
theorem keeps_list
    (regular : format.Regular)
    (inner : SeedType)
    (values : List inner.Value) :
    format.Keeps (.list inner) values ↔
      ∀ value ∈ values, format.Keeps inner value := by
  induction values with
  | nil =>
      simp [regular.keeps_nil inner]
  | cons value rest inductionHypothesis =>
      rw [regular.keeps_cons, inductionHypothesis, List.forall_mem_cons]

/-- Of what lasts, exactly the missing values are written as null. -/
theorem write_eq_null_iff
    (regular : format.Regular)
    {seed : SeedType}
    {value : seed.Value}
    (lasts : seed.Lasts value) :
    format.write seed.type value = .ok .null ↔ seed.isMissing value = true := by
  induction seed with
  | base kind =>
      have finite := (SeedType.lasts_base kind value).mp lasts
      have written := regular.write_base kind value
      rw [finite, if_pos rfl] at written
      simp [written, SeedType.isMissing, kind.json_ne_null value]
  | optional inner inductionHypothesis =>
      cases value with
      | none =>
          simp [regular.write_none, SeedType.isMissing]
      | some held =>
          obtain ⟨heldLasts, notMissing⟩ :=
            (SeedType.lasts_some inner held).mp lasts
          rw [regular.write_some, inductionHypothesis heldLasts, notMissing]
          rfl
  | list inner =>
      rw [regular.write_list]
      simp [SeedType.isMissing]

/-- What is kept is exactly what lasts. -/
theorem keeps_iff_lasts
    (regular : format.Regular)
    (seed : SeedType)
    (value : seed.Value) :
    format.Keeps seed value ↔ seed.Lasts value := by
  induction seed with
  | base kind =>
      rw [regular.keeps_base, SeedType.lasts_base]
  | optional inner inductionHypothesis =>
      cases value with
      | none =>
          exact iff_of_true (regular.keeps_none inner)
            (SeedType.lasts_none inner)
      | some held =>
          rw [regular.keeps_some, SeedType.lasts_some, inductionHypothesis]
          refine and_congr_right fun heldLasts => ?_
          rw [ne_eq, regular.write_eq_null_iff heldLasts, Bool.not_eq_true]
  | list inner inductionHypothesis =>
      simp only [regular.keeps_list, SeedType.lasts_list, inductionHypothesis]

end Regular

/-! ## The check -/

section Check

variable (ε : Type) {seed : SeedType} {value : seed.Value}

/-- The check passes what the format keeps. -/
theorem check_of_keeps (keeps : format.Keeps seed value) :
    (format.codec ε seed.type).check value = .ok () := by
  obtain ⟨found, decoded, written, read, same⟩ := keeps
  simp [Codec.check, codec, written, read, same]

/-- The check refuses everything else as not embeddable. -/
theorem check_of_not_keeps (lost : ¬format.Keeps seed value) :
    ∃ reason,
      (format.codec ε seed.type).check value =
        .error (.refused (.notEmbeddable reason)) := by
  simp only [Codec.check, codec]
  cases written : format.write seed.type value with
  | error reason =>
      exact ⟨reason, rfl⟩
  | ok found =>
      cases read : format.read seed.type found with
      | error reason =>
          exact ⟨reason, by simp only [read]⟩
      | ok decoded =>
          have different : seed.type.same decoded value ≠ true := fun same =>
            lost ⟨found, decoded, written, read, same⟩
          exact ⟨Codec.changedReason, by simp [read, different]⟩

end Check

end Format

/-! ## Builds -/

section Build

variable {Name : Type} {Base : Name → Type} {ε : Type}
variable {context source element accumulator : ValueType Name}

/-- A first build of a reduce answers as the check of its seed does. -/
theorem build_endWith_reduce
    (pipeline : Pipeline Base ε context source element)
    (reducer :
      Callback ε (context.Value Base)
        (accumulator.Value Base × element.Value Base)
        (accumulator.Value Base))
    (seed : Seed ε (accumulator.Value Base))
    (attempts : Nat) :
    let complete := pipeline.endWith (.reduce reducer seed)
    (complete.procedure.terminal.prepare attempts).outcome =
        seed.check attempts ∧
      (complete.build attempts).outcome =
        (seed.check attempts).map fun _ => complete.procedure := by
  rw [Pipeline.endWith_eq]
  refine ⟨rfl, ?_⟩
  cases checked : seed.check attempts with
  | error failure | ok passed =>
      simp [Sealed.build, Pipeline.close, Terminal.prepare, checked, Except.map]

/-- A run of a reduce folds what leaves its chain, from the seed on. -/
theorem run_endWith_reduce
    (pipeline : Pipeline Base ε context source element)
    (reducer :
      Callback ε (context.Value Base)
        (accumulator.Value Base × element.Value Base)
        (accumulator.Value Base))
    (seed : Seed ε (accumulator.Value Base))
    {elements : List (source.Value Base)}
    {environment : context.Value Base}
    {survivors : List (element.Value Base)}
    (passed :
      (pipeline.chain.staged environment elements).outcome = .ok survivors)
    {result : accumulator.Value Base}
    (folded :
      foldIndexed
        (fun state value position =>
          reducer.call (state, value) position environment)
        seed.initial survivors.zipIdx = .ok result) :
    ((pipeline.endWith (.reduce reducer seed)).procedure.run
      elements environment).outcome = .ok result := by
  rw [Pipeline.endWith_eq]
  apply Fused.run_of_staged
  change (staged pipeline.chain (.reduce reducer seed) _ _).outcome = _
  rw [staged_of_ok passed]
  exact folded

end Build

namespace Format

/--
Exactly the seeds that last are embedded.  The library's own format is regular, and
under every regular format the check passes a seed of any type exactly if no
floating-point number in it fails to be finite and no present value in it directly
holds a missing one; any other seed is refused as not embeddable.  A first build of a
reduce answers as the check does, and its runs fold from the seed itself.
-/
theorem check_exactly_lasting (ε : Type) :
    (standard.Regular ∧ ∀ type, standard.codec ε type = type.codec ε) ∧
    ∀ (format : Format), format.Regular →
    ∀ (seed : SeedType) (value : seed.Value),
      ((format.codec ε seed.type).check value = .ok () ↔
        seed.hasNonFinite value = false ∧ seed.holdsMissing value = false) ∧
      (¬(seed.hasNonFinite value = false ∧ seed.holdsMissing value = false) →
        ∃ reason,
          (format.codec ε seed.type).check value =
            .error (.refused (.notEmbeddable reason))) ∧
      ∀ {context source element : ValueType Scalar}
        (pipeline : Pipeline Scalar.Value ε context source element)
        (reducer :
          Callback ε (context.Value Scalar.Value)
            (seed.Value × element.Value Scalar.Value) seed.Value),
        let checked := (format.codec ε seed.type).check value
        let complete :=
          pipeline.endWith
            (.reduce reducer (.steady value (format.codec ε seed.type)))
        (∀ attempts,
          (complete.procedure.terminal.prepare attempts).outcome = checked ∧
            (complete.build attempts).outcome =
              checked.map fun _ => complete.procedure) ∧
        ∀ elements environment survivors result,
          (pipeline.chain.staged environment elements).outcome =
            .ok survivors →
          foldIndexed
            (fun state element position =>
              reducer.call (state, element) position environment)
            value survivors.zipIdx = .ok result →
          (complete.procedure.run elements environment).outcome =
            .ok result := by
  refine ⟨⟨regular_standard, codec_standard ε⟩, ?_⟩
  intro format regular seed value
  have kept : format.Keeps seed value ↔ seed.Lasts value :=
    regular.keeps_iff_lasts seed value
  refine ⟨⟨fun passes => ?_, fun lasts => ?_⟩, fun lost => ?_, ?_⟩
  · by_contra lost
    obtain ⟨reason, refused⟩ := check_of_not_keeps ε (mt kept.mp lost)
    rw [passes] at refused
    contradiction
  · exact check_of_keeps ε (kept.mpr lasts)
  · exact check_of_not_keeps ε (mt kept.mp lost)
  · intro context source element pipeline reducer
    exact ⟨fun attempts => build_endWith_reduce pipeline reducer _ attempts,
      fun _ _ _ _ passed folded =>
        run_endWith_reduce pipeline reducer _ passed folded⟩

/-- Optional floating-point numbers in a list. -/
def optionalFloats : SeedType :=
  .list (.optional (.base .float))

/-- A missing value in a list lasts; an infinity and a held missing value do not. -/
theorem check_optionalFloats :
    (optionalFloats.type.codec String).check [none, some (.zero true)] = .ok () ∧
      (∃ reason,
        (optionalFloats.type.codec String).check [some (.infinity false)] =
          .error (.refused (.notEmbeddable reason))) ∧
      ∃ reason,
        ((SeedType.optional optionalFloats).optional.type.codec String).check
            (some none) =
          .error (.refused (.notEmbeddable reason)) := by
  obtain ⟨⟨regular, _⟩, exactly⟩ := check_exactly_lasting String
  refine ⟨?_, ?_, ?_⟩
  · exact (exactly standard regular optionalFloats _).1.mpr ⟨rfl, rfl⟩
  · exact (exactly standard regular optionalFloats _).2.1 (by decide)
  · exact (exactly standard regular (.optional (.optional optionalFloats)) _).2.1
      (by decide)

end Format

end OnePass
