import Mathlib.Data.List.Forall2
import OnePass.Scalar.Codec

namespace OnePass

/-!
# Formats for seeds

A seed's type is a truth value, a word, a text, a floating-point number, or an
optional value or a list of such a type, to any depth.  What a format owes to these
types is a handful of rules on how they are written and read.  The library's own way
of writing JSON keeps them.
-/

/-- The types of seeds that hold no others. -/
inductive SeedBase where
  | truth
  | int64
  | uint64
  | text
  | float
  deriving DecidableEq

/-- The types of seeds. -/
inductive SeedType where
  | base (kind : SeedBase)
  | optional (inner : SeedType)
  | list (inner : SeedType)
  deriving DecidableEq

namespace SeedBase

/-- The type expression that a base type stands for. -/
@[reducible] def type : SeedBase → ValueType Scalar
  | .truth => .truth
  | .int64 => .base .int64
  | .uint64 => .base .uint64
  | .text => .text
  | .float => .base .float

/-- The values of a base type. -/
@[reducible] def Value (base : SeedBase) : Type :=
  base.type.Value Scalar.Value

/-- Whether a value is finite; only a floating-point number can fail to be. -/
def isFinite : (base : SeedBase) → base.Value → Bool
  | .truth, _ => true
  | .int64, _ => true
  | .uint64, _ => true
  | .text, _ => true
  | .float, value => Binary64.isFinite value

/-- The JSON value that says the same as a value. -/
def json : (base : SeedBase) → base.Value → Json
  | .truth, value => .bool value
  | .int64, value => .int (Int64.toInt value)
  | .uint64, value => .int (UInt64.toNat value)
  | .text, value => .string value
  | .float, value => .float value

/-- Nothing but null says the same as null. -/
theorem json_ne_null
    (base : SeedBase)
    (value : base.Value) :
    base.json value ≠ .null := by
  cases base <;> simp [json]

/-- A finite value equals itself. -/
theorem same_self
    {base : SeedBase}
    {value : base.Value}
    (finite : base.isFinite value = true) :
    base.type.same value value = true := by
  cases base with
  | truth | int64 | uint64 | text =>
      simp [ValueType.same, Scalar.same]
  | float =>
      have field : Binary64.field value ≠ 2047 := by
        simpa [isFinite, Binary64.isFinite] using finite
      simp [ValueType.same, Scalar.same, Binary64.same, Binary64.isNaN, field]

end SeedBase

namespace SeedType

/-- The type expression that a seed's type stands for. -/
@[reducible] def type : SeedType → ValueType Scalar
  | .base kind => kind.type
  | .optional inner => .optional inner.type
  | .list inner => .list inner.type

/-- The values of a seed's type. -/
@[reducible] def Value (seed : SeedType) : Type :=
  seed.type.Value Scalar.Value

end SeedType

/-- How values of every type are written as JSON and read back. -/
structure Format where
  write :
    (type : ValueType Scalar) → type.Value Scalar.Value → Except String Json
  read :
    (type : ValueType Scalar) → Json → Except String (type.Value Scalar.Value)

namespace Format

/-- The codec that a format gives a type; it never aborts. -/
def codec
    (format : Format)
    (ε : Type)
    (type : ValueType Scalar) :
    Codec ε (type.Value Scalar.Value) where
  encode := fun value => .ok (format.write type value)
  decode := fun found => .ok (format.read type found)
  same := type.same

/-- The library's own format. -/
def standard : Format where
  write := ValueType.encode
  read := ValueType.decode

/-- The library's own format gives every type the library's own codec. -/
theorem codec_standard (ε : Type) (type : ValueType Scalar) :
    standard.codec ε type = type.codec ε :=
  rfl

/--
The rules by which seeds are written and read.  A finite value of a base type is
written as what says the same and read back from it.  A floating-point number that
is not finite and a missing optional value are written as null, a present one as
what it holds, a list as the array of its items.  Null is read as a missing optional
value and as nothing else.
-/
structure Regular (format : Format) : Prop where
  write_base :
    ∀ (base : SeedBase) (value : base.Value),
      format.write base.type value =
        .ok (if base.isFinite value then base.json value else .null)
  read_base :
    ∀ (base : SeedBase) (value : base.Value),
      base.isFinite value = true →
      format.read base.type (base.json value) = .ok value
  read_base_null :
    ∀ base : SeedBase,
      ∃ reason, format.read base.type .null = .error reason
  write_none :
    ∀ inner : SeedType,
      format.write (.optional inner.type) none = .ok .null
  write_some :
    ∀ (inner : SeedType) (value : inner.Value),
      format.write (.optional inner.type) (some value) =
        format.write inner.type value
  read_optional_null :
    ∀ inner : SeedType,
      format.read (.optional inner.type) .null = .ok none
  read_optional :
    ∀ (inner : SeedType) (found : Json) (held : Option inner.Value),
      found ≠ .null →
      (format.read (.optional inner.type) found = .ok held ↔
        ∃ value, format.read inner.type found = .ok value ∧ held = some value)
  write_list :
    ∀ (inner : SeedType) (values : List inner.Value) (found : Json),
      format.write (.list inner.type) values = .ok found ↔
        ∃ items,
          List.Forall₂
              (fun value item => format.write inner.type value = .ok item)
              values items ∧
            found = .array items
  read_list :
    ∀ (inner : SeedType) (items : List Json) (values : List inner.Value),
      format.read (.list inner.type) (.array items) = .ok values ↔
        List.Forall₂
          (fun item value => format.read inner.type item = .ok value)
          items values
  read_list_null :
    ∀ inner : SeedType,
      ∃ reason, format.read (.list inner.type) .null = .error reason

/-! ## The library's own format -/

/-- A list is worked through without fault if each of its items is. -/
theorem mapM_eq_ok_iff
    {α β : Type}
    {work : α → Except String β}
    {values : List α}
    {results : List β} :
    values.mapM work = .ok results ↔
      List.Forall₂ (fun value result => work value = .ok result)
        values results := by
  induction values generalizing results with
  | nil =>
      cases results <;> simp [pure, Except.pure]
  | cons value rest inductionHypothesis =>
      rw [List.mapM_cons]
      cases worked : work value with
      | error reason =>
          cases results <;> simp [bind, Except.bind, worked]
      | ok result =>
          cases restWorked : rest.mapM work with
          | error reason =>
              cases results <;>
                simp [bind, Except.bind, ← inductionHypothesis, restWorked]
          | ok others =>
              cases results <;>
                simp [bind, Except.bind, pure, Except.pure, worked,
                  ← inductionHypothesis, restWorked]

/-- A signed word is the integer that it is written as. -/
theorem int64?_toInt (value : Int64) :
    (Json.int value.toInt).int64? = some value.toInt := by
  have bounds : -(Word.half : Int) ≤ value.toInt ∧ value.toInt < Word.half :=
    ⟨Int64.le_toInt value, Int64.toInt_lt value⟩
  simpa [Json.int64?, Word.holdsSigned] using bounds

/-- An unsigned word is the integer that it is written as. -/
theorem uint64?_toNat (value : UInt64) :
    (Json.int value.toNat).uint64? = some value.toNat := by
  have bound : value.toNat < Word.count :=
    UInt64.toNat_lt value
  simpa [Json.uint64?, Word.holdsUnsigned] using bound

/-- A signed word is read from the integer that it is. -/
theorem decode_int64
    {found : Json}
    {value : Int}
    (held : found.int64? = some value) :
    Scalar.decode .int64 found = .ok (Int64.ofInt value) := by
  simp only [Scalar.decode, held]

/-- An unsigned word is read from the integer that it is. -/
theorem decode_uint64
    {found : Json}
    {value : Nat}
    (held : found.uint64? = some value) :
    Scalar.decode .uint64 found = .ok (UInt64.ofNat value) := by
  simp only [Scalar.decode, held]

/-- Every value of a base type is read back from what says the same. -/
theorem read_standard_base
    (base : SeedBase)
    (value : base.Value) :
    standard.read base.type (base.json value) = .ok value := by
  cases base with
  | truth | text | float =>
      rfl
  | int64 =>
      -- Opened before the word is in its place, so that no bound is computed.
      have read (found : Json) :
          standard.read SeedBase.int64.type found =
            Scalar.decode .int64 found :=
        rfl
      rw [read, SeedBase.json, decode_int64 (int64?_toInt value),
        Int64.ofInt_toInt]
  | uint64 =>
      have read (found : Json) :
          standard.read SeedBase.uint64.type found =
            Scalar.decode .uint64 found :=
        rfl
      rw [read, SeedBase.json, decode_uint64 (uint64?_toNat value),
        UInt64.ofNat_toNat]

/-- What is not null is read as a present value. -/
theorem read_standard_optional
    (inner : ValueType Scalar)
    {found : Json}
    (present : found ≠ .null) :
    standard.read (.optional inner) found =
      (standard.read inner found).map some := by
  cases found with
  | null =>
      exact absurd rfl present
  | bool | int | float | string | array | object =>
      rfl

/-- The library's own format keeps the rules. -/
theorem regular_standard : standard.Regular where
  write_base := by
    intro base value
    cases base <;> rfl
  read_base := by
    intro base value _
    exact read_standard_base base value
  read_base_null := by
    intro base
    cases base <;> exact ⟨_, rfl⟩
  write_none := by
    intro inner
    rfl
  write_some := by
    intro inner value
    rfl
  read_optional_null := by
    intro inner
    rfl
  read_optional := by
    intro inner found held present
    rw [read_standard_optional inner.type present]
    cases standard.read inner.type found <;> simp [Except.map, eq_comm]
  write_list := by
    intro inner values found
    have written :
        standard.write (.list inner.type) values =
          (values.mapM (standard.write inner.type)).map .array :=
      rfl
    simp only [written, ← mapM_eq_ok_iff]
    cases values.mapM (standard.write inner.type) <;>
      simp [Except.map, eq_comm]
  read_list := by
    intro inner items values
    exact mapM_eq_ok_iff
  read_list_null := by
    intro inner
    exact ⟨_, rfl⟩

end Format

end OnePass
