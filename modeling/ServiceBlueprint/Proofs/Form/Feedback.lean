import ServiceBlueprint.Proofs.Form.Bounds
import ServiceBlueprint.Proofs.Number.Range

/-!
# When there is feedback on a value

Where the properties of a field are well typed, feedback on a value fails in two ways only: a whole
number beyond the range of doubles is no number to the check of a number field, and a bound of too
many digits cannot be quoted. All other values of whatever type get a complaint or none.
-/

namespace ServiceBlueprint.Form

/-- What callers promise of the properties of a field, each of which may be left out. A date bound
needs no promise, since one that cannot be read is ignored. -/
structure Field.WellTyped (f : Field) : Prop where
  minLength : IsWhole (f.property "minLength")
  maxLength : IsWhole (f.property "maxLength")
  min : f.property "min" = .null ∨ (f.property "min").number?.isSome = true
  max : f.property "max" = .null ∨ (f.property "max").number?.isSome = true
  options : f.property "options" = .null ∨ ∃ options, f.property "options" = .list options ∧
    ∀ o ∈ options, (o.get? "value").isSome = true

/-- A number field is given a whole number to which no double is nearest. -/
def Field.Overflows (f : Field) (v : Value) : Prop :=
  f.type? = some .number ∧ ∃ n : Int, v = .int n ∧ 2 ^ 1024 - 2 ^ 970 ≤ n.natAbs

/-- There is a complaint about the value, and the bound it quotes has too many digits. -/
def Field.QuotesTooMuch (f : Field) (v : Value) : Prop :=
  ∃ complaint n, f.check v = .ok (some complaint) ∧ complaint.bound? = some (.int n) ∧
    10 ^ Number.maxDigits ≤ n.natAbs

/-! ### Parts of the check that do not fail -/

theorem compareToBound_isOk {bound : Value} (h : bound.number?.isSome = true)
    (q : Value.Quantity) : ∃ order, compareToBound q bound = .ok order := by
  obtain ⟨r, hr⟩ := Option.isSome_iff_exists.mp h
  exact ⟨_, compareToBound_of_number? hr q⟩

/-- A bound that can be compared with, if there is one, lets the check go on. -/
theorem bounded_isOk {p : Prop} [Decidable p] {compared : Attempt (Option Ordering)}
    {refused : Ordering} {complaint : Complaint} {rest : Attempt (Option Complaint)}
    (hcompared : p → ∃ order, compared = .ok order) (hrest : ∃ o, rest = .ok o) :
    ∃ o, (if p then do
      if (← compared) = some refused then return some complaint
      rest
    else rest) = .ok o := by
  by_cases hp : p
  · obtain ⟨order, horder⟩ := hcompared hp
    rw [if_pos hp, horder]
    by_cases hrefused : order = some refused
    · exact ⟨some complaint, if_pos hrefused⟩
    · obtain ⟨o, ho⟩ := hrest
      exact ⟨o, (if_neg hrefused).trans ho⟩
  · rw [if_neg hp]
    exact hrest

theorem number?_of_isWhole {bound : Value} (h : IsWhole bound) (htruthy : bound.truthy = true) :
    bound.number?.isSome = true := by
  rcases h with rfl | ⟨n, rfl⟩
  · cases htruthy
  · rfl

section

variable {f : Field} {v : Value}

theorem checkText_isOk (hw : f.WellTyped) (v : Value) : ∃ o, f.checkText v = .ok o := by
  cases v with
  | text s =>
    have hleast : (f.property "minLength").truthy = true →
        ∃ order, compareToBound (.whole s.length) (f.property "minLength") = .ok order :=
      fun htruthy => compareToBound_isOk (number?_of_isWhole hw.minLength htruthy) _
    have hmost : (f.property "maxLength").truthy = true →
        ∃ order, compareToBound (.whole s.length) (f.property "maxLength") = .ok order :=
      fun htruthy => compareToBound_isOk (number?_of_isWhole hw.maxLength htruthy) _
    exact bounded_isOk hleast (bounded_isOk hmost ⟨none, rfl⟩)
  | _ => exact ⟨some .notText, rfl⟩

theorem number?_of_not_isNull {bound : Value} (h : bound = .null ∨ bound.number?.isSome = true)
    (hnull : (!bound.isNull) = true) : bound.number?.isSome = true := by
  rcases h with rfl | h
  · cases hnull
  · exact h

/-- What has become a double is compared with bounds that are numbers. -/
theorem checkNumber_isOk (hw : f.WellTyped) {v : Value} {x : Binary64} (hx : v.toFloat = .ok x) :
    ∃ o, f.checkNumber v = .ok o := by
  have hleast : (!(f.property "min").isNull) = true →
      ∃ order, compareToBound (.real x) (f.property "min") = .ok order :=
    fun hnull => compareToBound_isOk (number?_of_not_isNull hw.min hnull) _
  have hmost : (!(f.property "max").isNull) = true →
      ∃ order, compareToBound (.real x) (f.property "max") = .ok order :=
    fun hnull => compareToBound_isOk (number?_of_not_isNull hw.max hnull) _
  unfold Field.checkNumber
  rw [hx]
  exact bounded_isOk hleast (bounded_isOk hmost ⟨none, rfl⟩)

theorem checkOption_isOk (hw : f.WellTyped) (v : Value) : ∃ o, f.checkOption v = .ok o := by
  unfold Field.checkOption
  rcases hw.options with hoptions | ⟨options, hoptions, hvalues⟩
  · rw [hoptions]
    exact ⟨none, rfl⟩
  · obtain ⟨values, hfound⟩ : ∃ values, options.mapM (·.index "value") = .ok values := by
      rw [Attempt.mapM_isOk_iff]
      exact fun o ho => Value.index_isOk_iff.mpr (hvalues o ho)
    rw [hoptions]
    by_cases htruthy : (Value.list options).truthy
    · simp only [htruthy, if_true]
      refine ⟨if values.contains v then none else some .notOption, ?_⟩
      exact Attempt.bind_eq_ok.mpr ⟨options, rfl, Attempt.bind_eq_ok.mpr ⟨values, hfound, rfl⟩⟩
    · simp only [htruthy]
      exact ⟨none, rfl⟩

/-! ### Numbers out of range -/

theorem toFloat_int_eq_outOfRange_iff (n : Int) :
    (Value.int n).toFloat = .error .outOfRange ↔ 2 ^ 1024 - 2 ^ 970 ≤ n.natAbs := by
  rw [← Nat.not_lt, ← Binary64.ofInt_isFinite_iff]
  rcases toFloat_int_cases n with ⟨hfloat, negative, hinfinite⟩ | ⟨hfloat, hfinite, -⟩
  · simp [hfloat, hinfinite, Binary64.isFinite]
  · simp [hfloat, hfinite]

/-- Texts may stand for numbers of any size, which become infinities; only whole numbers that come as
such are refused. -/
theorem toFloat_eq_outOfRange_iff (v : Value) :
    v.toFloat = .error .outOfRange ↔ ∃ n : Int, v = .int n ∧ 2 ^ 1024 - 2 ^ 970 ≤ n.natAbs := by
  have hint := toFloat_int_eq_outOfRange_iff
  generalize 2 ^ 1024 - 2 ^ 970 = limit at hint ⊢
  cases v with
  | int n => simp [hint]
  | text s => cases hread : Number.readFloat? s <;> simp [Value.toFloat, hread]
  | _ => simp [Value.toFloat]

theorem checkNumber_cases (hw : f.WellTyped) (v : Value) :
    v.toFloat = .error .outOfRange ∧ f.checkNumber v = .error .outOfRange ∨
      v.toFloat ≠ .error .outOfRange ∧ ∃ o, f.checkNumber v = .ok o := by
  cases hfloat : v.toFloat with
  | ok x => exact Or.inr ⟨by simp, checkNumber_isOk hw hfloat⟩
  | error fault =>
    unfold Field.checkNumber
    rw [hfloat]
    cases fault with
    | outOfRange => exact Or.inl ⟨rfl, rfl⟩
    | _ => exact Or.inr ⟨by simp, some .notNumber, rfl⟩

/-- The check of a value fails by overflow or not at all. -/
theorem check_cases (hw : f.WellTyped) (v : Value) :
    f.Overflows v ∧ f.check v = .error .outOfRange ∨
      ¬ f.Overflows v ∧ ∃ o, f.check v = .ok o := by
  unfold Field.Overflows Field.check
  rw [← toFloat_eq_outOfRange_iff]
  by_cases hblank : isBlank v
  · have hfloat : v.toFloat ≠ .error .outOfRange := by
      rw [ne_eq, toFloat_eq_outOfRange_iff]
      rintro ⟨n, rfl, -⟩
      cases hblank
    rw [if_pos hblank]
    exact Or.inr ⟨fun h => hfloat h.2, _, rfl⟩
  · rw [if_neg hblank]
    generalize f.type? = t
    have hother : t ≠ some .number → ¬ (t = some .number ∧ v.toFloat = .error .outOfRange) :=
      fun hne h => hne h.1
    match t with
    | some .number =>
      rcases checkNumber_cases hw v with ⟨hfloat, hcheck⟩ | ⟨hfloat, hcheck⟩
      · exact Or.inl ⟨⟨rfl, hfloat⟩, hcheck⟩
      · exact Or.inr ⟨fun h => hfloat h.2, hcheck⟩
    | some .text => exact Or.inr ⟨hother (by simp), checkText_isOk hw v⟩
    | some .textArea => exact Or.inr ⟨hother (by simp), checkText_isOk hw v⟩
    | some .email => exact Or.inr ⟨hother (by simp), _, rfl⟩
    | some .phone => exact Or.inr ⟨hother (by simp), _, rfl⟩
    | some .date => exact Or.inr ⟨hother (by simp), _, rfl⟩
    | some .select => exact Or.inr ⟨hother (by simp), checkOption_isOk hw v⟩
    | some .radio => exact Or.inr ⟨hother (by simp), checkOption_isOk hw v⟩
    | some .checkbox => exact Or.inr ⟨hother (by simp), _, rfl⟩
    | some .file => exact Or.inr ⟨hother (by simp), _, rfl⟩
    | none => exact Or.inr ⟨hother (by simp), _, rfl⟩

/-! ### Bounds that cannot be quoted -/

theorem isWritable_int_iff (n : Int) :
    isWritable (.int n) = true ↔ n.natAbs < 10 ^ Number.maxDigits := by
  unfold isWritable
  rw [decide_eq_true_eq]
  exact Nat.length_toDigits_le_iff (by omega) (by decide)

theorem text_eq_error_iff {complaint : Complaint} {fault : Fault} :
    complaint.text = .error fault ↔ fault = .invalidValue ∧
      ∃ n, complaint.bound? = some (.int n) ∧ 10 ^ Number.maxDigits ≤ n.natAbs := by
  have hwritable : complaint.bound?.all isWritable = false ↔
      ∃ n, complaint.bound? = some (.int n) ∧ 10 ^ Number.maxDigits ≤ n.natAbs := by
    cases complaint.bound? with
    | none => simp
    | some bound =>
      cases bound with
      | int n =>
        rw [Option.all_some, ← Bool.not_eq_true, isWritable_int_iff, Nat.not_lt]
        simp
      | _ => simp [isWritable]
  rw [← hwritable]
  unfold Complaint.text
  by_cases hall : complaint.bound?.all isWritable
  · simp [hall]
  · simp [hall, eq_comm]

theorem feedback_eq_error_iff (hw : f.WellTyped) (v : Value) (fault : Fault) :
    f.feedback v = .error fault ↔
      fault = .outOfRange ∧ f.Overflows v ∨ fault = .invalidValue ∧ f.QuotesTooMuch v := by
  unfold Field.QuotesTooMuch Field.feedback
  rcases check_cases hw v with ⟨hover, hcheck⟩ | ⟨hover, o, hcheck⟩
  · rw [hcheck]
    simp [hover, bind, Except.bind, eq_comm]
  · rw [hcheck]
    cases o with
    | none => simp [hover, bind, Except.bind, pure, Except.pure]
    | some complaint =>
      have htext : (do return some (← complaint.text) : Attempt (Option String)) = .error fault ↔
          complaint.text = .error fault := by
        rw [Attempt.bind_eq_error]
        exact or_iff_left fun ⟨_, _, h⟩ => by cases h
      change (do return some (← complaint.text) : Attempt (Option String)) = .error fault ↔ _
      rw [htext, text_eq_error_iff]
      simp [hover]

/-- Every value gets feedback from a field whose properties are well typed, except for whole numbers
out of the range of doubles and for complaints that would quote a bound of too many digits. -/
theorem feedback_isOk_iff (hw : f.WellTyped) (v : Value) :
    ((∃ said, f.feedback v = .ok said) ↔ ¬ f.Overflows v ∧ ¬ f.QuotesTooMuch v) ∧
      ∀ fault, f.feedback v = .error fault ↔
        fault = .outOfRange ∧ f.Overflows v ∨ fault = .invalidValue ∧ f.QuotesTooMuch v := by
  have herror := feedback_eq_error_iff hw v
  refine ⟨?_, herror⟩
  rw [Attempt.isOk_iff_ne_error]
  simp only [ne_eq, herror]
  constructor
  · intro h
    exact ⟨fun hover => h _ (Or.inl ⟨rfl, hover⟩), fun hquotes => h _ (Or.inr ⟨rfl, hquotes⟩)⟩
  · intro ⟨hover, hquotes⟩ fault h
    rcases h with ⟨-, h⟩ | ⟨-, h⟩
    · exact hover h
    · exact hquotes h

theorem feedback_isOk_iff_poll :
    let f := question "NUMBER" [(.text "min", .int 0), (.text "max", .int (10 ^ 4300))]
    let v := Value.text "1e400"
    f.WellTyped ∧ ((∃ said, f.feedback v = .ok said) ↔ ¬ f.Overflows v ∧ ¬ f.QuotesTooMuch v) ∧
      ∀ fault, f.feedback v = .error fault ↔
        fault = .outOfRange ∧ f.Overflows v ∨ fault = .invalidValue ∧ f.QuotesTooMuch v := by
  intro f v
  have hw : f.WellTyped :=
    { minLength := Or.inl rfl
      maxLength := Or.inl rfl
      min := Or.inr rfl
      max := Or.inr rfl
      options := Or.inl rfl }
  exact ⟨hw, feedback_isOk_iff hw v⟩

/-- No double is nearest to this number, and a field without bounds has nothing to say of it. -/
theorem not_feedback_poll :
    let f := question "NUMBER" []
    let v := Value.int ((2 ^ 1024 : Nat) : Int)
    f.WellTyped ∧ ¬ ∃ said, f.feedback v = .ok said := by
  intro f v
  have hw : f.WellTyped :=
    { minLength := Or.inl rfl
      maxLength := Or.inl rfl
      min := Or.inl rfl
      max := Or.inl rfl
      options := Or.inl rfl }
  have hover : f.Overflows v := by
    refine ⟨by decide, _, rfl, ?_⟩
    rw [Int.natAbs_natCast]
    exact Nat.sub_le _ _
  refine ⟨hw, ?_⟩
  rintro ⟨said, hsaid⟩
  have hfault := (feedback_eq_error_iff hw v .outOfRange).mpr (Or.inl ⟨rfl, hover⟩)
  rw [hsaid] at hfault
  cases hfault

end

end ServiceBlueprint.Form
