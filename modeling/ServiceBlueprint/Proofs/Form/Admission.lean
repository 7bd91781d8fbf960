import ServiceBlueprint.Form.Violation
import ServiceBlueprint.Proofs.Attempt
import ServiceBlueprint.Proofs.Calendar.DateText
import ServiceBlueprint.Proofs.Form.Conditions
import ServiceBlueprint.Proofs.Value.Access

/-!
# Which values a field admits

`Field.Admissible` says by the type of a field, with no mention of keywords, which values it admits.
A value violates nothing of the property that a field is given exactly if the field admits it; the
property has to be well formed, so that all of its bounds and patterns can be applied.
-/

namespace ServiceBlueprint.Form

/-- Both are numbers, and the first is the smaller one. -/
def Below (v bound : Value) : Prop := Ordered v bound (· < ·)

/-- The pattern that is written in a text is found somewhere in another. -/
def FoundIn (pattern : Value) (s : String) : Prop :=
  ∃ t p, pattern = .text t ∧ Pattern.read t = .ok p ∧ p.foundIn s = true

/-- Bounds that are null bound nothing. -/
def Field.Admissible (f : Field) (v : Value) : Prop :=
  match f.type? with
  | some .text | some .textArea =>
    ∃ s, v = .text s ∧ ¬ Below (.int s.length) (f.property "minLength") ∧
      ¬ Below (f.property "maxLength") (.int s.length) ∧
      ((f.property "pattern").truthy = true → FoundIn (f.property "pattern") s)
  | some .number =>
    v.number?.isSome = true ∧ ¬ Below v (f.property "min") ∧ ¬ Below (f.property "max") v
  | some .checkbox => ∃ b, v = .bool b
  | some .email => ∃ s, v = .text s ∧ FoundIn (.text emailPattern) s ∧ '@' ∈ s.toList
  | some .phone => ∃ s, v = .text s ∧ FoundIn (.text phonePattern) s
  | some .date => ∃ d : Date, d.isReal = true ∧ v = .text d.isoText
  | some .select | some .radio =>
    ∃ s, v = .text s ∧ ∀ options, f.property "options" = .list options →
      ∃ o ∈ options, o.get? "value" = some (.text s)
  | some .file | none => ∃ s, v = .text s

/-! ### Comparing with bounds -/

section

variable {a b : Value} {q r : Value.Quantity}

theorem below_iff_compare? (ha : a.number? = some q) (hb : b.number? = some r) :
    Below a b ↔ q.compare? r = some .lt := by
  unfold Below Ordered Value.toExact?
  rw [ha, hb, Value.Quantity.compare?_eq]
  change (∃ x y, q.toExact? = some x ∧ r.toExact? = some y ∧ x < y) ↔ _
  cases q.toExact? with
  | none => simp
  | some x => cases r.toExact? <;> simp [compare_lt_iff_lt]

theorem below_iff_compare?_gt (ha : a.number? = some q) (hb : b.number? = some r) :
    Below b a ↔ q.compare? r = some .gt := by
  unfold Below Ordered Value.toExact?
  rw [ha, hb, Value.Quantity.compare?_eq]
  change (∃ y x, r.toExact? = some y ∧ q.toExact? = some x ∧ y < x) ↔ _
  cases q.toExact? with
  | none => simp
  | some x => cases r.toExact? <;> simp [compare_gt_iff_gt]

theorem not_below_null : ¬ Below a .null := by
  rintro ⟨x, y, -, hy, -⟩
  cases hy

theorem not_null_below : ¬ Below .null b := by
  rintro ⟨x, y, hx, -⟩
  cases hx

theorem below_int_iff {m n : Int} : Below (.int m) (.int n) ↔ m < n := by
  have hcompare : Value.Quantity.compare? (.whole m) (.whole n) = some (compare m n) := rfl
  rw [below_iff_compare? rfl rfl, hcompare, Option.some.injEq, compare_lt_iff_lt]

end

theorem compareToBound_of_number? {bound : Value} {r : Value.Quantity}
    (h : bound.number? = some r) (q : Value.Quantity) :
    compareToBound q bound = .ok (q.compare? r) := by
  cases bound with
  | int n =>
    cases h
    rfl
  | float x =>
    cases h
    rfl
  | _ => cases h

theorem number?_of_isLength {bound : Value} (h : isLength bound = true) :
    ∃ r, bound.number? = some r := by
  cases bound with
  | int n => exact ⟨_, rfl⟩
  | float x => exact ⟨_, rfl⟩
  | _ => cases h

/-! ### Keywords -/

/-- What a keyword asks of a value. -/
def Keyword.Admits : Keyword → Value → Prop
  | .type .string, v => ∃ s, v = .text s
  | .type .number, v => v.number?.isSome = true
  | .type .boolean, v => ∃ b, v = .bool b
  | .minLength bound, v => ∀ s, v = .text s → ¬ Below (.int s.length) bound
  | .maxLength bound, v => ∀ s, v = .text s → ¬ Below bound (.int s.length)
  | .pattern p, v => ∀ s, v = .text s → FoundIn p s
  | .minimum bound, v => ¬ Below v bound
  | .maximum bound, v => ¬ Below bound v
  | .enum options, v => ∃ o ∈ options, o.strictlySame v = true
  | .format f, v => ∀ s, v = .text s → f.admits s = true
  | .title _, _ | .description _, _ | .enumNames _, _ | .default _, _ => True

/-- An attempt that does not fail, and finds no violation exactly if something holds. -/
def FindsUnless (found : Attempt (Option Violation)) (admitted : Prop) : Prop :=
  ∃ o, found = .ok o ∧ (o = none ↔ admitted)

theorem findsUnless_violationIf {p : Bool} {violation : Violation} {admitted : Prop}
    (h : p = false ↔ admitted) : FindsUnless (.ok (violationIf p violation)) admitted := by
  refine ⟨_, rfl, ?_⟩
  rw [← h]
  cases p <;> simp [violationIf]

theorem findsUnless_none {admitted : Prop} (h : admitted) : FindsUnless (.ok none) admitted :=
  ⟨none, rfl, by simp [h]⟩

theorem findsUnless_type (t : DataType) (v : Value) :
    FindsUnless ((Keyword.type t).violation? v) ((Keyword.type t).Admits v) := by
  apply findsUnless_violationIf
  rw [Bool.not_eq_false']
  cases t with
  | string =>
    constructor
    · exact Value.exists_eq_text
    · rintro ⟨s, rfl⟩
      rfl
  | number => exact Iff.rfl
  | boolean =>
    constructor
    · intro h
      cases v with
      | bool b => exact ⟨b, rfl⟩
      | _ => cases h
    · rintro ⟨b, rfl⟩
      rfl

theorem findsUnless_length {bound : Value} (h : isLength bound = true) (v : Value) :
    FindsUnless ((Keyword.minLength bound).violation? v) ((Keyword.minLength bound).Admits v) ∧
    FindsUnless ((Keyword.maxLength bound).violation? v) ((Keyword.maxLength bound).Admits v) := by
  obtain ⟨r, hr⟩ := number?_of_isLength h
  cases v with
  | text s =>
    have hs : (Value.int s.length).number? = some (.whole s.length) := rfl
    have hbound := compareToBound_of_number? hr (.whole s.length)
    simp only [Keyword.violation?, hbound]
    constructor
    · apply findsUnless_violationIf
      simp [Keyword.Admits, below_iff_compare? hs hr]
    · apply findsUnless_violationIf
      simp [Keyword.Admits, below_iff_compare?_gt hs hr]
  | _ =>
    constructor
    · exact findsUnless_none (by simp [Keyword.Admits])
    · exact findsUnless_none (by simp [Keyword.Admits])

theorem findsUnless_size {bound : Value} (h : bound.number?.isSome = true) (v : Value) :
    FindsUnless ((Keyword.minimum bound).violation? v) ((Keyword.minimum bound).Admits v) ∧
      FindsUnless ((Keyword.maximum bound).violation? v) ((Keyword.maximum bound).Admits v) := by
  obtain ⟨r, hr⟩ := Option.isSome_iff_exists.mp h
  cases hv : v.number? with
  | none =>
    have hnot : v.toExact? = none := by rw [Value.toExact?, hv, Option.bind_none]
    simp only [Keyword.violation?, hv]
    constructor
    · apply findsUnless_none
      rintro ⟨x, y, hx, -⟩
      rw [hnot] at hx
      cases hx
    · apply findsUnless_none
      rintro ⟨y, x, -, hx, -⟩
      rw [hnot] at hx
      cases hx
  | some q =>
    have hbound := compareToBound_of_number? hr q
    simp only [Keyword.violation?, hv, hbound]
    constructor
    · apply findsUnless_violationIf
      simp [Keyword.Admits, below_iff_compare? hv hr]
    · apply findsUnless_violationIf
      simp [Keyword.Admits, below_iff_compare?_gt hv hr]

theorem readPattern_of_checkPattern {t : String}
    (h : (Keyword.pattern (.text t)).checkPattern = .ok ()) :
    ∃ p, Pattern.read t = .ok p ∧ readPattern (.text t) = .ok p := by
  cases hread : Pattern.read t with
  | ok p => exact ⟨p, rfl, by simp only [readPattern, hread]⟩
  | error e =>
    simp only [Keyword.checkPattern, hread] at h
    cases e <;> cases h

theorem findsUnless_pattern {t : String} (h : (Keyword.pattern (.text t)).checkPattern = .ok ())
    (v : Value) : FindsUnless ((Keyword.pattern (.text t)).violation? v)
      ((Keyword.pattern (.text t)).Admits v) := by
  obtain ⟨p, hread, hp⟩ := readPattern_of_checkPattern h
  cases v with
  | text s =>
    simp only [Keyword.violation?, hp]
    apply findsUnless_violationIf
    simp [Keyword.Admits, FoundIn, hread]
  | _ => exact findsUnless_none (by simp [Keyword.Admits])

theorem findsUnless_format (f : Format) (v : Value) :
    FindsUnless ((Keyword.format f).violation? v) ((Keyword.format f).Admits v) := by
  cases v with
  | text s =>
    apply findsUnless_violationIf
    simp [Keyword.Admits]
  | _ => exact findsUnless_none (by simp [Keyword.Admits])

/-- No keyword fails on a value if it is of the right kind itself and its pattern can be read. -/
theorem Keyword.findsUnless {k : Keyword} (htyped : k.isWellTyped = true)
    (hcheck : k.checkPattern = .ok ()) (v : Value) : FindsUnless (k.violation? v) (k.Admits v) := by
  cases k with
  | type t => exact findsUnless_type t v
  | minLength bound => exact (findsUnless_length htyped v).1
  | maxLength bound => exact (findsUnless_length htyped v).2
  | minimum bound => exact (findsUnless_size htyped v).1
  | maximum bound => exact (findsUnless_size htyped v).2
  | pattern p =>
    obtain ⟨s, rfl⟩ := Value.exists_eq_text htyped
    exact findsUnless_pattern hcheck v
  | enum options =>
    apply findsUnless_violationIf
    rw [Bool.not_eq_false', List.any_eq_true]
    rfl
  | format f => exact findsUnless_format f v
  | title _ => exact findsUnless_none trivial
  | description _ => exact findsUnless_none trivial
  | enumNames _ => exact findsUnless_none trivial
  | default _ => exact findsUnless_none trivial

theorem violations_of_findsUnless {p : Property} {v : Value}
    (h : ∀ k ∈ p, FindsUnless (k.violation? v) (k.Admits v)) :
    ∃ vs, violations p v = .ok vs ∧ (vs = [] ↔ ∀ k ∈ p, k.Admits v) := by
  induction p with
  | nil => exact ⟨[], rfl, by simp⟩
  | cons k p ih =>
    obtain ⟨o, ho, hadmits⟩ := h k List.mem_cons_self
    obtain ⟨vs, hvs, hrest⟩ := ih fun k' hk' => h k' (List.mem_cons_of_mem _ hk')
    obtain ⟨os, hos, hvs⟩ := Attempt.bind_eq_ok.mp hvs
    cases hvs
    refine ⟨(o :: os).filterMap fun o => o, ?_, ?_⟩
    · unfold violations
      rw [List.mapM_cons, ho, hos]
      rfl
    · rw [List.forall_mem_cons, ← hadmits, ← hrest]
      cases o <;> simp

/-! ### Well-formed schemas -/

theorem require_eq_ok_iff {ok : Bool} : require ok = .ok () ↔ ok = true := by
  unfold require
  cases ok <;> simp

theorem checkProperty_eq_ok_iff {p : Property} :
    checkProperty p = .ok () ↔ ∀ k ∈ p, k.isWellTyped = true ∧ k.checkPattern = .ok () := by
  rw [forall₂_and, ← List.all_eq_true, ← Attempt.forM_eq_ok_iff, ← require_eq_ok_iff]
  constructor
  · intro h
    obtain ⟨u, htyped, hpatterns⟩ := Attempt.bind_eq_ok.mp h
    exact ⟨htyped, hpatterns⟩
  · rintro ⟨htyped, hpatterns⟩
    exact Attempt.bind_eq_ok.mpr ⟨(), htyped, hpatterns⟩

theorem hasRepeats_eq_false_iff {vs : List Value} :
    hasRepeats vs = false ↔ vs.Pairwise fun a b => (a == b) = false := by
  induction vs with
  | nil => simp [hasRepeats]
  | cons v vs ih =>
    rw [hasRepeats, Bool.or_eq_false_iff, ih, List.pairwise_cons, ← Bool.not_eq_true,
      List.contains_iff_exists_mem_beq]
    simp

theorem Schema.check_eq_ok_iff {s : Schema} : s.check = .ok () ↔
    s.title.isText = true ∧
      ((∀ n ∈ s.required, n.isText = true) ∧ s.required.Pairwise fun a b => (a == b) = false) ∧
      ∀ e ∈ s.properties, checkProperty e.2 = .ok () := by
  have hrequired : (s.required.all (·.isText) && !hasRepeats s.required) = true ↔
      (∀ n ∈ s.required, n.isText = true) ∧
        s.required.Pairwise fun a b => (a == b) = false := by
    rw [Bool.and_eq_true, List.all_eq_true, Bool.not_eq_true', hasRepeats_eq_false_iff]
  rw [← hrequired, ← require_eq_ok_iff, ← require_eq_ok_iff, ← Attempt.forM_eq_ok_iff]
  constructor
  · intro h
    obtain ⟨u, htitle, h⟩ := Attempt.bind_eq_ok.mp h
    obtain ⟨u', hnames, hproperties⟩ := Attempt.bind_eq_ok.mp h
    exact ⟨htitle, hnames, hproperties⟩
  · rintro ⟨htitle, hnames, hproperties⟩
    exact Attempt.bind_eq_ok.mpr
      ⟨(), htitle, Attempt.bind_eq_ok.mpr ⟨(), hnames, hproperties⟩⟩

theorem violations_eq_ok {p : Property} (h : checkProperty p = .ok ()) (v : Value) :
    ∃ vs, violations p v = .ok vs ∧ (vs = [] ↔ ∀ k ∈ p, k.Admits v) := by
  apply violations_of_findsUnless
  intro k hk
  obtain ⟨htyped, hcheck⟩ := checkProperty_eq_ok_iff.mp h k hk
  exact Keyword.findsUnless htyped hcheck v

/-! ### Fields -/

theorem forall_mem_unlessNull_iff {p : Keyword → Prop} {bound : Value}
    {keyword : Value → Keyword} :
    (∀ k ∈ unlessNull bound keyword, p k) ↔ bound = .null ∨ p (keyword bound) := by
  unfold unlessNull
  cases bound with
  | null => simp [Value.isNull]
  | _ => simp [Value.isNull]

theorem forall_mem_unlessNull (keyword : Value → Keyword) {v : Value}
    (h : (keyword .null).Admits v) (bound : Value) :
    (∀ k ∈ unlessNull bound keyword, k.Admits v) ↔ (keyword bound).Admits v := by
  rw [forall_mem_unlessNull_iff]
  apply or_iff_right_of_imp
  rintro rfl
  exact h

theorem forall_mem_ifTruthy {p : Keyword → Prop} {w : Value} {keyword : Value → Keyword} :
    (∀ k ∈ ifTruthy w keyword, p k) ↔ (w.truthy = true → p (keyword w)) := by
  unfold ifTruthy
  by_cases h : w.truthy
  · simp [h]
  · simp [h]

/-- A property adds titles, texts and defaults to the type and the constraints of its field. -/
theorem Field.forall_mem_schema_iff {f : Field} {p : Property} (h : f.schema = .ok p)
    (asked : Keyword → Prop) :
    ∃ ks, f.constraints = .ok ks ∧ ((∀ k ∈ p, asked k) ↔
      asked (.type f.dataType) ∧ asked (.title f.label) ∧
        ((f.property "helpText").truthy = true → asked (.description (f.property "helpText"))) ∧
        (∀ k ∈ ks, asked k) ∧
        (f.property "defaultValue" = .null ∨ asked (.default (f.property "defaultValue")))) := by
  unfold Field.schema at h
  obtain ⟨ks, hks, h⟩ := Attempt.bind_eq_ok.mp h
  refine ⟨ks, hks, ?_⟩
  rw [← Except.ok.inj h, List.forall_mem_cons, List.forall_mem_cons, List.forall_mem_append,
    List.forall_mem_append, forall_mem_ifTruthy, forall_mem_unlessNull_iff, and_assoc]

theorem Field.schema_eq_ok {f : Field} {p : Property} (h : f.schema = .ok p) (v : Value) :
    ∃ ks, f.constraints = .ok ks ∧ ((∀ k ∈ p, k.Admits v) ↔
      (Keyword.type f.dataType).Admits v ∧ ∀ k ∈ ks, k.Admits v) := by
  obtain ⟨ks, hks, hall⟩ := Field.forall_mem_schema_iff h (·.Admits v)
  refine ⟨ks, hks, hall.trans ?_⟩
  -- the type has to stay closed: unfolding it would read the name of the type
  generalize f.dataType = t
  constructor
  · exact fun hall => ⟨hall.1, hall.2.2.2.1⟩
  · exact fun hall => ⟨hall.1, trivial, fun _ => trivial, hall.2, Or.inr trivial⟩

theorem forall_mem_lengthKeywords {f : Field} {s : String} :
    (∀ k ∈ f.lengthKeywords, k.Admits (.text s)) ↔
      ¬ Below (.int s.length) (f.property "minLength") ∧
      ¬ Below (f.property "maxLength") (.int s.length) ∧
      ((f.property "pattern").truthy = true → FoundIn (f.property "pattern") s) := by
  unfold Field.lengthKeywords
  rw [List.forall_mem_append, List.forall_mem_append, forall_mem_ifTruthy,
    forall_mem_unlessNull .minLength fun _ _ => not_below_null,
    forall_mem_unlessNull .maxLength fun _ _ => not_null_below]
  simp [Keyword.Admits, and_assoc]

theorem forall_mem_boundKeywords {f : Field} {v : Value} :
    (∀ k ∈ f.boundKeywords, k.Admits v) ↔
      ¬ Below v (f.property "min") ∧ ¬ Below (f.property "max") v := by
  unfold Field.boundKeywords
  rw [List.forall_mem_append, forall_mem_unlessNull .minimum not_below_null,
    forall_mem_unlessNull .maximum not_null_below]
  exact Iff.rfl

theorem mapM_index_eq_ok {options values : List Value} {key : String}
    (h : options.mapM (·.index key) = .ok values) {w : Value} :
    w ∈ values ↔ ∃ o ∈ options, o.get? key = some w := by
  have hg : ∀ o ∈ options, ∀ y, o.index key = .ok y → y = (o.get? key).getD .null := by
    intro o _ y hy
    rw [Value.index_eq_ok_iff.mp hy]
    rfl
  obtain ⟨rfl, hall⟩ := Attempt.mapM_eq_ok h hg
  rw [List.mem_map]
  constructor
  · rintro ⟨o, ho, rfl⟩
    exact ⟨o, ho, Value.index_eq_ok_iff.mp (hall o ho)⟩
  · rintro ⟨o, ho, hget⟩
    exact ⟨o, ho, by rw [hget]; rfl⟩

theorem forall_mem_optionKeywords {f : Field} {ks : List Keyword} (h : f.optionKeywords = .ok ks)
    {s : String} :
    (∀ k ∈ ks, k.Admits (.text s)) ↔ ∀ options, f.property "options" = .list options →
      ∃ o ∈ options, o.get? "value" = some (.text s) := by
  unfold Field.optionKeywords at h
  split at h
  next options hoptions =>
    obtain ⟨values, hvalues, h⟩ := Attempt.bind_eq_ok.mp h
    have hlisted : (Keyword.enum values).Admits (.text s) ↔
        ∃ o ∈ options, o.get? "value" = some (.text s) := by
      rw [← mapM_index_eq_ok hvalues]
      simp [Keyword.Admits, Value.strictlySame_text_iff]
    rw [← Except.ok.inj h, List.forall_mem_cons, List.forall_mem_singleton, hlisted, hoptions]
    constructor
    · rintro ⟨hin, -⟩ options' heq
      cases heq
      exact hin
    · exact fun hin => ⟨hin options rfl, trivial⟩
  next hnot =>
    cases h
    constructor
    · exact fun _ options heq => absurd heq (hnot options)
    · exact fun _ k hk => absurd hk List.not_mem_nil

theorem isDateShape_iff {s : String} : isDateShape s = true ↔
    ∃ ys ms ds, s.toList = ys ++ '-' :: (ms ++ '-' :: ds) ∧
      (AllDigits ys ∧ AllDigits ms ∧ AllDigits ds) ∧
      (ys.length = 4 ∧ ms.length = 2 ∧ ds.length = 2) := by
  unfold isDateShape
  constructor
  · intro h
    split at h
    next a b c d e f g i hs =>
      rw [List.all_eq_true] at h
      refine ⟨[a, b, c, d], [e, f], [g, i], hs, ⟨?_, ?_, ?_⟩, rfl, rfl, rfl⟩
      all_goals
        intro x hx
        exact h x (by simp at hx ⊢; tauto)
    next => cases h
  · rintro ⟨ys, ms, ds, hs, ⟨hy, hm, hd⟩, hylen, hmlen, hdlen⟩
    match ys, ms, ds, hylen, hmlen, hdlen with
    | [a, b, c, d], [e, f], [g, i], _, _, _ =>
      rw [hs]
      change [a, b, c, d, e, f, g, i].all Char.isDigit = true
      have hall : AllDigits ([a, b, c, d] ++ [e, f] ++ [g, i]) := by
        intro x hx
        rcases List.mem_append.mp hx with hx | hx
        · rcases List.mem_append.mp hx with hx | hx
          · exact hy x hx
          · exact hm x hx
        · exact hd x hx
      exact List.all_eq_true.mpr hall

/-- A text is in the format of a date exactly if a real date is written that way. -/
theorem Format.admits_date_iff {s : String} :
    Format.date.admits s = true ↔ ∃ d : Date, d.isReal = true ∧ s = d.isoText := by
  change (isDateShape s && (Calendar.readDate? s).isSome) = true ↔ _
  rw [Bool.and_eq_true, isDateShape_iff]
  constructor
  · rintro ⟨⟨ys, ms, ds, hs, ⟨hy, hm, hd⟩, hylen, hmlen, hdlen⟩, hread⟩
    rw [Calendar.readDate?_of_digits hs hy hm hd hylen hmlen hdlen] at hread
    obtain ⟨d, hd'⟩ := Option.isSome_iff_exists.mp hread
    obtain ⟨rfl, hreal⟩ := Date.real?_eq_some_iff.mp hd'
    exact ⟨_, hreal, Date.eq_isoText_of_digits hs hy hm hd hylen hmlen hdlen⟩
  · rintro ⟨d, hreal, rfl⟩
    obtain ⟨ys, ms, ds, hs, hdigits, hlens, -⟩ := Date.isoText_digits hreal
    rw [Date.readDate?_isoText hreal]
    exact ⟨⟨ys, ms, ds, hs, hdigits, hlens⟩, rfl⟩

/-- Keywords of a field of texts are met by a text that has what they ask of texts. -/
theorem text_keywords_iff {ks : List Keyword} {v : Value} {asked : String → Prop}
    (h : ∀ s, (∀ k ∈ ks, k.Admits (.text s)) ↔ asked s) :
    ((Keyword.type .string).Admits v ∧ ∀ k ∈ ks, k.Admits v) ↔ ∃ s, v = .text s ∧ asked s := by
  constructor
  · rintro ⟨⟨s, rfl⟩, hks⟩
    exact ⟨s, rfl, (h s).mp hks⟩
  · rintro ⟨s, rfl, hasked⟩
    exact ⟨⟨s, rfl⟩, (h s).mpr hasked⟩

theorem email_keywords_iff {s : String} :
    (∀ k ∈ [.format .email, .pattern (.text emailPattern)], Keyword.Admits k (.text s)) ↔
      FoundIn (.text emailPattern) s ∧ '@' ∈ s.toList := by
  simp [Keyword.Admits, Format.admits, and_comm]

theorem phone_keywords_iff {s : String} :
    (∀ k ∈ [.pattern (.text phonePattern)], Keyword.Admits k (.text s)) ↔
      FoundIn (.text phonePattern) s := by
  simp [Keyword.Admits]

theorem date_keywords_iff {s : String} :
    (∀ k ∈ [.format .date], Keyword.Admits k (.text s)) ↔
      ∃ d : Date, d.isReal = true ∧ s = d.isoText := by
  simp [Keyword.Admits, Format.admits_date_iff]

theorem exists_date_iff {v : Value} :
    (∃ s, v = .text s ∧ ∃ d : Date, d.isReal = true ∧ s = d.isoText) ↔
      ∃ d : Date, d.isReal = true ∧ v = .text d.isoText := by
  constructor
  · rintro ⟨s, rfl, d, hreal, rfl⟩
    exact ⟨d, hreal, rfl⟩
  · rintro ⟨d, hreal, rfl⟩
    exact ⟨_, rfl, d, hreal, rfl⟩

/-- A property that a field is given asks of values just what the field admits. -/
theorem Field.admits_iff {f : Field} {p : Property} (h : f.schema = .ok p) (v : Value) :
    (∀ k ∈ p, k.Admits v) ↔ f.Admissible v := by
  obtain ⟨ks, hks, hall⟩ := Field.schema_eq_ok h v
  rw [hall]
  unfold Field.Admissible Field.dataType
  unfold Field.constraints at hks
  generalize f.type? = t at hks ⊢
  match t with
  | some .text =>
    cases hks
    exact text_keywords_iff fun _ => forall_mem_lengthKeywords
  | some .textArea =>
    cases hks
    exact text_keywords_iff fun _ => forall_mem_lengthKeywords
  | some .number =>
    cases hks
    exact and_congr_right fun _ => forall_mem_boundKeywords
  | some .email =>
    cases hks
    exact text_keywords_iff fun _ => email_keywords_iff
  | some .phone =>
    cases hks
    exact text_keywords_iff fun _ => phone_keywords_iff
  | some .date =>
    cases hks
    exact (text_keywords_iff fun _ => date_keywords_iff).trans exists_date_iff
  | some .select => exact text_keywords_iff fun _ => forall_mem_optionKeywords hks
  | some .radio => exact text_keywords_iff fun _ => forall_mem_optionKeywords hks
  | some .checkbox =>
    cases hks
    exact and_iff_left fun k hk => absurd hk List.not_mem_nil
  | some .file =>
    cases hks
    exact and_iff_left_of_imp fun _ k hk => List.mem_singleton.mp hk ▸ fun _ _ => rfl
  | none =>
    cases hks
    exact and_iff_left fun k hk => absurd hk List.not_mem_nil

-- from here on `admits_iff` stands for the cases; opening them would read the name of a type
attribute [irreducible] Field.Admissible

end ServiceBlueprint.Form
