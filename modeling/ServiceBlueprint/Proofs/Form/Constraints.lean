import Mathlib
import ServiceBlueprint.Proofs.Form.Alone
import ServiceBlueprint.Proofs.Number.Whole

/-!
# Which constraints can be applied

What reaches the constraints of a field depends on its type. A text is bounded by its length and
matched by a pattern, a number is bounded by its size, and all other types bring constraints of
their own that hold no property of the field, or hold it as one option among others. So only bounds
and patterns of texts and bounds of numbers have to be of the right kind.
-/

namespace ServiceBlueprint.Form

/-! ### Values of the right kind -/

/-- A whole number that is not negative, however it is written. -/
def IsSize (v : Value) : Prop :=
  ∃ n : Nat, v.toExact? = some (.ofRat n)

/-- A text that can be read as a pattern. -/
def IsPattern (v : Value) : Prop :=
  ∃ s p, v = .text s ∧ Pattern.read s = .ok p

theorem exists_natCast_iff {p : Int → Prop} : (∃ n : Nat, p n) ↔ ∃ k, p k ∧ 0 ≤ k := by
  constructor
  · rintro ⟨n, hn⟩
    exact ⟨n, hn, Int.natCast_nonneg n⟩
  · rintro ⟨k, hk, hpos⟩
    obtain ⟨n, rfl⟩ := Int.eq_ofNat_of_zero_le hpos
    exact ⟨n, hk⟩

theorem isLength_iff {v : Value} : isLength v = true ↔ IsSize v := by
  have hcast : IsSize v ↔ ∃ k : Int, v.toExact? = some (.ofRat k) ∧ 0 ≤ k := by
    rw [← @exists_natCast_iff fun k => v.toExact? = some (.ofRat k)]
    simp only [IsSize, Int.cast_natCast]
  rw [hcast]
  unfold isLength
  cases v with
  | int n =>
    have hexact : (Value.int n).toExact? = some (.ofRat n) := rfl
    simp [hexact, Exact.strictMono_ofRat.injective.eq_iff]
  | float x =>
    have hexact : (Value.float x).toExact? = x.toExact? := rfl
    simp [hexact, ← Binary64.toInt?_eq_some_iff, Option.any_eq_true]
  | _ => simp [Value.toExact?, Value.number?]

theorem pattern_sound_iff {v : Value} :
    (Keyword.pattern v).isWellTyped = true ∧ (Keyword.pattern v).checkPattern = .ok () ↔
      IsPattern v := by
  constructor
  · rintro ⟨htyped, hcheck⟩
    obtain ⟨s, rfl⟩ := Value.exists_eq_text htyped
    obtain ⟨p, hread, -⟩ := readPattern_of_checkPattern hcheck
    exact ⟨s, p, rfl, hread⟩
  · rintro ⟨s, p, rfl, hread⟩
    simp [Keyword.isWellTyped, Keyword.checkPattern, hread, Value.isText]

/-! ### The patterns of addresses -/

/-- Letters, digits, lines below, points and dashes, in any number. -/
def nameNode : Pattern.Node :=
  .repeated (.set false [.category .word false false, .single '.'.toNat, .single '-'.toNat] .exact)
    1 none .greedy

def emailNodes : List Pattern.Node :=
  [.anchor .textStart, nameNode, .set false [.single '@'.toNat] .exact, nameNode,
    .set false [.single '.'.toNat] .exact,
    .repeated (.set false [.range 'a'.toNat 'z'.toNat, .range 'A'.toNat 'Z'.toNat] .exact) 2 none
      .greedy,
    .anchor .lastLineEnd]

def phoneNodes : List Pattern.Node :=
  [.anchor .textStart, .repeated (.set false [.single '+'.toNat] .exact) 0 (some 1) .greedy,
    .repeated (.set false [.range '0'.toNat '9'.toNat, .category .space false false,
      .single '-'.toNat, .single '('.toNat, .single ')'.toNat] .exact) 7 (some 20) .greedy,
    .anchor .lastLineEnd]

theorem read_emailPattern :
    Pattern.read emailPattern = .ok ⟨.sequence emailNodes, 0, false⟩ := by
  cbv

theorem read_phonePattern :
    Pattern.read phonePattern = .ok ⟨.sequence phoneNodes, 0, false⟩ := by
  cbv

/-! ### Constraints by type -/

/-- The bounds of lengths are sizes, where there are any, and so the pattern can be read. -/
structure Field.LengthsFit (f : Field) : Prop where
  minLength : f.property "minLength" = .null ∨ IsSize (f.property "minLength")
  maxLength : f.property "maxLength" = .null ∨ IsSize (f.property "maxLength")
  pattern : (f.property "pattern").truthy = true → IsPattern (f.property "pattern")

/-- The bounds of a number are numbers, where there are any. -/
structure Field.BoundsFit (f : Field) : Prop where
  min : f.property "min" = .null ∨ IsNumber (f.property "min")
  max : f.property "max" = .null ∨ IsNumber (f.property "max")

section

variable {f : Field}

theorem forall_sound_lengthKeywords_iff :
    (∀ k ∈ f.lengthKeywords, k.isWellTyped = true ∧ k.checkPattern = .ok ()) ↔ f.LengthsFit := by
  have hmin : (Keyword.minLength (f.property "minLength")).isWellTyped = true ∧
      (Keyword.minLength (f.property "minLength")).checkPattern = .ok () ↔
        IsSize (f.property "minLength") :=
    (and_iff_left rfl).trans isLength_iff
  have hmax : (Keyword.maxLength (f.property "maxLength")).isWellTyped = true ∧
      (Keyword.maxLength (f.property "maxLength")).checkPattern = .ok () ↔
        IsSize (f.property "maxLength") :=
    (and_iff_left rfl).trans isLength_iff
  unfold Field.lengthKeywords
  rw [List.forall_mem_append, List.forall_mem_append, forall_mem_unlessNull_iff,
    forall_mem_unlessNull_iff, forall_mem_ifTruthy, hmin, hmax, pattern_sound_iff, and_assoc]
  exact ⟨fun ⟨hmin, hmax, hpattern⟩ => ⟨hmin, hmax, hpattern⟩,
    fun ⟨hmin, hmax, hpattern⟩ => ⟨hmin, hmax, hpattern⟩⟩

theorem forall_sound_boundKeywords_iff :
    (∀ k ∈ f.boundKeywords, k.isWellTyped = true ∧ k.checkPattern = .ok ()) ↔ f.BoundsFit := by
  have hmin : (Keyword.minimum (f.property "min")).isWellTyped = true ∧
      (Keyword.minimum (f.property "min")).checkPattern = .ok () ↔ IsNumber (f.property "min") :=
    (and_iff_left rfl).trans number?_isSome_iff
  have hmax : (Keyword.maximum (f.property "max")).isWellTyped = true ∧
      (Keyword.maximum (f.property "max")).checkPattern = .ok () ↔ IsNumber (f.property "max") :=
    (and_iff_left rfl).trans number?_isSome_iff
  unfold Field.boundKeywords
  rw [List.forall_mem_append, forall_mem_unlessNull_iff, forall_mem_unlessNull_iff, hmin, hmax]
  exact ⟨fun ⟨hmin, hmax⟩ => ⟨hmin, hmax⟩, fun ⟨hmin, hmax⟩ => ⟨hmin, hmax⟩⟩

theorem sound_of_optionKeywords {ks : List Keyword} (h : f.optionKeywords = .ok ks) :
    ∀ k ∈ ks, k.isWellTyped = true ∧ k.checkPattern = .ok () := by
  unfold Field.optionKeywords at h
  split at h
  next options hoptions =>
    obtain ⟨values, -, h⟩ := Attempt.bind_eq_ok.mp h
    rw [← Except.ok.inj h, List.forall_mem_cons, List.forall_mem_singleton]
    exact ⟨⟨rfl, rfl⟩, ⟨rfl, rfl⟩⟩
  next =>
    cases h
    exact fun k hk => absurd hk List.not_mem_nil

/-- Only texts and numbers can have constraints that cannot be applied. -/
theorem Field.wellConstrained_iff : f.WellConstrained ↔
    (f.type? = some .text ∨ f.type? = some .textArea → f.LengthsFit) ∧
      (f.type? = some .number → f.BoundsFit) := by
  unfold Field.WellConstrained Field.constraints
  generalize f.type? = t
  match t with
  | some .text => simp [forall_sound_lengthKeywords_iff]
  | some .textArea => simp [forall_sound_lengthKeywords_iff]
  | some .number => simp [forall_sound_boundKeywords_iff]
  | some .email =>
    simp [Keyword.isWellTyped, Keyword.checkPattern, read_emailPattern, Value.isText]
  | some .phone =>
    simp [Keyword.isWellTyped, Keyword.checkPattern, read_phonePattern, Value.isText]
  | some .date => simp [Keyword.isWellTyped, Keyword.checkPattern]
  | some .select => simpa using fun _ => sound_of_optionKeywords
  | some .radio => simpa using fun _ => sound_of_optionKeywords
  | some .file => simp [Keyword.isWellTyped, Keyword.checkPattern]
  | some .checkbox => simp
  | none => simp

end

end ServiceBlueprint.Form
