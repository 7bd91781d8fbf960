import ServiceBlueprint.Proofs.Form.Agreement
import ServiceBlueprint.Proofs.Number.Rounding

/-!
# Numbers and their bounds

The verdict on a whole number compares the number itself with the bounds of its field, and the check
compares the double nearest to it. So the two differ just where the way to the double crosses a
bound or leaves the range of doubles, and never for a number that is a double itself.
-/

namespace ServiceBlueprint.Form

/-- A bound that is left out, or a whole number. -/
def IsWhole (bound : Value) : Prop :=
  bound = .null ∨ ∃ n : Int, bound = .int n

/-- A number lies within the bounds of a field that are whole numbers. -/
def Field.Encloses (f : Field) (q : ℚ) : Prop :=
  (∀ lo : Int, f.property "min" = .int lo → (lo : ℚ) ≤ q) ∧
    ∀ hi : Int, f.property "max" = .int hi → q ≤ hi

/-- A whole number out of the range of doubles is refused, and any other becomes a double that
stands for a number. -/
theorem toFloat_int_cases (n : Int) :
    ((Value.int n).toFloat = .error .outOfRange ∧
        ∃ negative, Binary64.ofInt n = .infinite negative) ∨
      (Value.int n).toFloat = .ok (Binary64.ofInt n) ∧ (Binary64.ofInt n).isFinite = true ∧
        ∃ q, (Binary64.ofInt n).toExact? = some (.ofRat q) := by
  cases h : Binary64.ofInt n with
  | indeterminate => exact absurd h (Binary64.ofInt_ne_indeterminate n)
  | infinite negative => exact Or.inl ⟨by simp only [Value.toFloat, h], negative, rfl⟩
  | finite negative m e => exact Or.inr ⟨by simp only [Value.toFloat, h], rfl, _, rfl⟩

theorem compareToBound_of_isWhole {bound : Value} (h : IsWhole bound) {x : Binary64} {q : ℚ}
    (hx : x.toExact? = some (.ofRat q)) :
    ∃ order, ((!bound.isNull) = true → compareToBound (.real x) bound = .ok order) ∧
      (((!bound.isNull) = true → order ≠ some .lt) ↔ ∀ lo : Int, bound = .int lo → (lo : ℚ) ≤ q) ∧
      (((!bound.isNull) = true → order ≠ some .gt) ↔ ∀ hi : Int, bound = .int hi → q ≤ hi) := by
  rcases h with rfl | ⟨m, rfl⟩
  · refine ⟨none, fun h => absurd h Bool.false_ne_true, ?_, ?_⟩
    · simp
    · simp
  · have hcompare : Value.Quantity.compare? (.real x) (.whole m) = some (compare q m) := by
      change x.compareInt? m = _
      rw [Binary64.compareInt?_eq, hx, Option.map_some, Exact.compare_ofRat]
    refine ⟨some (compare q m), fun _ => congrArg Except.ok hcompare, ?_, ?_⟩
    · simp [Value.isNull, compare_lt_iff_lt]
    · simp [Value.isNull, compare_gt_iff_gt]

section

variable {form : Form} {f : Field} {c : CompiledForm}

theorem check_int_eq (ht : f.type? = some .number) (n : Int) :
    f.check (.int n) = f.checkNumber (.int n) := by
  unfold Field.check
  rw [ht]
  rfl

/-- The check of a whole number compares the double nearest to it. -/
theorem complainsUnless_number (ht : f.type? = some .number) (hmin : IsWhole (f.property "min"))
    (hmax : IsWhole (f.property "max")) {n : Int} {q : ℚ}
    (hfloat : (Value.int n).toFloat = .ok (.ofInt n))
    (hq : (Binary64.ofInt n).toExact? = some (.ofRat q)) :
    ComplainsUnless (f.check (.int n)) (f.Encloses q) := by
  obtain ⟨least, hleast, hlow, -⟩ := compareToBound_of_isWhole hmin hq
  obtain ⟨most, hmost, -, hhigh⟩ := compareToBound_of_isWhole hmax hq
  have hchecked := ComplainsUnless.bounded .lt (.belowMinimum (f.property "min")) hleast
    (ComplainsUnless.bounded .gt (.aboveMaximum (f.property "max")) hmost
      (complainsUnless_none trivial))
  rw [hlow, hhigh, and_true] at hchecked
  rw [check_int_eq ht, Field.checkNumber, hfloat]
  exact hchecked

theorem check_int_eq_none_iff (ht : f.type? = some .number) (hmin : IsWhole (f.property "min"))
    (hmax : IsWhole (f.property "max")) (n : Int) :
    ((∃ o, f.check (.int n) = .ok o) ↔ (Binary64.ofInt n).isFinite = true) ∧
      (f.check (.int n) = .ok none ↔
        ∃ q, (Binary64.ofInt n).toExact? = some (.ofRat q) ∧ f.Encloses q) := by
  -- beyond the range of doubles the check fails, and an infinity stands for no number
  rcases toFloat_int_cases n with ⟨hfloat, negative, hinfinite⟩ | ⟨hfloat, hfinite, q, hq⟩
  · have hcheck : f.check (.int n) = .error .outOfRange := by
      rw [check_int_eq ht, Field.checkNumber, hfloat]
    rw [hcheck, hinfinite]
    refine ⟨by simp [Binary64.isFinite], ?_⟩
    simp [Binary64.toExact?, (Exact.ofRat_ne_infinite _ negative).symm]
  · obtain ⟨o, ho, hnone⟩ := complainsUnless_number ht hmin hmax hfloat hq
    rw [ho, hfinite, hq]
    refine ⟨by simp, ?_⟩
    rw [Except.ok.injEq, hnone]
    simp [Exact.strictMono_ofRat.injective.eq_iff]

theorem IsWhole.isNumber {bound : Value} (h : IsWhole bound) : bound = .null ∨ IsNumber bound :=
  h.imp_right Or.inl

theorem wellConstrained_of_number (ht : f.type? = some .number)
    (hmin : IsWhole (f.property "min")) (hmax : IsWhole (f.property "max")) :
    f.WellConstrained := by
  rw [Field.wellConstrained_iff, ht]
  exact ⟨by simp, fun _ => ⟨hmin.isNumber, hmax.isNumber⟩⟩

theorem admissible_int_iff (ht : f.type? = some .number)
    (hmin : IsWhole (f.property "min")) (hmax : IsWhole (f.property "max")) (n : Int) :
    f.Admissible (.int n) ↔ f.Encloses n := by
  have hlow : ¬ Below (.int n) (f.property "min") ↔
      ∀ lo : Int, f.property "min" = .int lo → (lo : ℚ) ≤ n := by
    rcases hmin with h | ⟨lo, h⟩
    · simp [h, not_below_null]
    · simp [h, below_int_iff]
  have hhigh : ¬ Below (f.property "max") (.int n) ↔
      ∀ hi : Int, f.property "max" = .int hi → (n : ℚ) ≤ hi := by
    rcases hmax with h | ⟨hi, h⟩
    · simp [h, not_null_below]
    · simp [h, below_int_iff]
  unfold Field.Admissible
  rw [ht]
  change (_ ∧ _ ∧ _) ↔ _
  rw [hlow, hhigh]
  exact and_iff_right rfl

/-- The verdict on a whole number accepts it within the bounds, whatever its size. The check accepts
it if the double nearest to it is within the bounds, and fails where there is none. -/
theorem check_agrees_on_numbers_iff (h : form.compile = .ok c) (ha : form.StandsAlone f)
    (ht : f.type? = some .number) (hmin : IsWhole (f.property "min"))
    (hmax : IsWhole (f.property "max")) (n : Int) :
    ∃ verdict, judge c (.map [(f.name, .int n)]) = .ok verdict ∧
      (verdict.errors = [] ↔ f.Encloses n) ∧
      ((∃ o, f.check (.int n) = .ok o) ↔ (Binary64.ofInt n).isFinite = true) ∧
      ((f.check (.int n) = .ok none ↔ verdict.errors = []) ↔
        (f.Encloses n ↔ ∃ q, (Binary64.ofInt n).toExact? = some (.ofRat q) ∧ f.Encloses q)) ∧
      ∀ (m : Int) (e : Nat), n = m * 2 ^ e → m.natAbs < 2 ^ 53 → e ≤ 971 →
        (f.check (.int n) = .ok none ↔ verdict.errors = []) := by
  obtain ⟨verdict, hverdict, herrors⟩ :=
    ha.judge_errors_iff h (wellConstrained_of_number ht hmin hmax) (.int n)
  rw [admissible_int_iff ht hmin hmax] at herrors
  obtain ⟨hfails, hnone⟩ := check_int_eq_none_iff ht hmin hmax n
  refine ⟨verdict, hverdict, herrors, hfails, ?_, ?_⟩
  · rw [hnone, herrors]
    exact iff_comm
  · intro m e hn hm he
    rw [hnone, herrors, Binary64.toExact?_ofInt hn hm he]
    simp [Exact.strictMono_ofRat.injective.eq_iff]

theorem check_agrees_on_numbers_iff_poll :
    let f := question "NUMBER" [(.text "min", .int 9007199254740993)]
    let n : Int := 9007199254740994
    ∃ c, (poll f).compile = .ok c ∧ (poll f).StandsAlone f ∧ f.type? = some .number ∧
      IsWhole (f.property "min") ∧ IsWhole (f.property "max") ∧
      ∃ verdict, judge c (.map [(f.name, .int n)]) = .ok verdict ∧
        (verdict.errors = [] ↔ f.Encloses n) ∧
        ((∃ o, f.check (.int n) = .ok o) ↔ (Binary64.ofInt n).isFinite = true) ∧
        ((f.check (.int n) = .ok none ↔ verdict.errors = []) ↔
          (f.Encloses n ↔ ∃ q, (Binary64.ofInt n).toExact? = some (.ofRat q) ∧ f.Encloses q)) ∧
        (f.check (.int n) = .ok none ↔ verdict.errors = []) := by
  intro f n
  have ha : (poll f).StandsAlone f := standsAlone_poll _ _
  have ht : f.type? = some .number := by decide
  have hmin : IsWhole (f.property "min") := Or.inr ⟨9007199254740993, rfl⟩
  have hmax : IsWhole (f.property "max") := Or.inl rfl
  obtain ⟨c, hcompile⟩ : ∃ c, (poll f).compile = .ok c :=
    poll_compiles fun hchoice => absurd hchoice (by decide)
  obtain ⟨verdict, hverdict, herrors, hfails, hiff, hdouble⟩ :=
    check_agrees_on_numbers_iff hcompile ha ht hmin hmax n
  exact ⟨c, hcompile, ha, ht, hmin, hmax, verdict, hverdict, herrors, hfails, hiff,
    hdouble 4503599627370497 1 (by decide) (by decide) (by decide)⟩

/-- The double nearest to a number that is its own least is less by one. -/
theorem not_check_agrees_on_numbers_poll :
    let f := question "NUMBER"
      [(.text "min", .int 9007199254740993), (.text "max", .int 9007199254740993)]
    let n : Int := 9007199254740993
    ∃ c verdict, (poll f).compile = .ok c ∧ (poll f).StandsAlone f ∧ f.type? = some .number ∧
      IsWhole (f.property "min") ∧ IsWhole (f.property "max") ∧
      judge c (.map [(f.name, .int n)]) = .ok verdict ∧
      ¬ (f.check (.int n) = .ok none ↔ verdict.errors = []) := by
  intro f n
  have hrun : (do
      let c ← (poll f).compile
      let verdict ← judge c (.map [(f.name, .int n)])
      return verdict.valid : Attempt Bool) = .ok true := by
    cbv
  obtain ⟨c, verdict, hcompile, hverdict, herrors⟩ := poll_judge_of_run hrun
  have ht : f.type? = some .number := by decide
  have hmin : IsWhole (f.property "min") := Or.inr ⟨9007199254740993, rfl⟩
  have hmax : IsWhole (f.property "max") := Or.inr ⟨9007199254740993, rfl⟩
  refine ⟨c, verdict, hcompile, standsAlone_poll _ _, ht, hmin, hmax, hverdict, ?_⟩
  intro hiff
  have hcheck : f.check (.int n) = .ok none := hiff.mpr (herrors.mpr rfl)
  obtain ⟨q, hq, hleast, -⟩ := (check_int_eq_none_iff ht hmin hmax n).2.mp hcheck
  have hnearest : Binary64.ofInt n = .finite false 4503599627370496 1 := by decide
  rw [hnearest, Binary64.toExact?, Option.some.injEq, Exact.strictMono_ofRat.injective.eq_iff] at hq
  have hle := hleast 9007199254740993 rfl
  rw [← hq] at hle
  norm_num [signed] at hle

end

end ServiceBlueprint.Form
