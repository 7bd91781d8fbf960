import ServiceBlueprint.Proofs.Form.Constraints

/-!
# Well-formed schemas

A form can be compiled whatever its titles, bounds and patterns are, and the schema that it gives is
checked afterwards. Where names are told apart, the schema is well formed exactly if the form is
named and labelled by texts, explained by texts where it is at all, and bounded by values of the
right kind. Defaults, options and properties that a type does not use may be anything.
-/

namespace ServiceBlueprint.Form

/-- What is configured is of the right kind wherever it reaches the schema. -/
structure WellConfigured (form : Form) : Prop where
  name : form.name.isText = true
  labels : ∀ f ∈ form.activeFields, f.label.isText = true
  helpTexts : ∀ f ∈ form.activeFields, (f.property "helpText").truthy = true →
    (f.property "helpText").isText = true
  lengths : ∀ f ∈ form.activeFields, f.type? = some .text ∨ f.type? = some .textArea →
    f.LengthsFit
  bounds : ∀ f ∈ form.activeFields, f.type? = some .number → f.BoundsFit

section

variable {form : Form} {c : CompiledForm} {f : Field}

theorem title_of_build {s : Schema} (h : Schema.build form = .ok s) : s.title = form.name := by
  obtain ⟨entries, -, h⟩ := Attempt.bind_eq_ok.mp h
  cases h
  rfl

/-- No name is required twice. -/
theorem DistinctNames.required (hn : form.DistinctNames) (hc : Compiled form c) :
    (∀ n ∈ c.schema.required, n.isText = true) ∧
      c.schema.required.Pairwise fun a b => (a == b) = false := by
  rw [hc.required]
  constructor
  · rw [List.forall_mem_map]
    exact fun f hf => hn.texts f (List.mem_of_mem_filter hf)
  · rw [List.pairwise_map]
    exact hn.differ.sublist List.filter_sublist

theorem checkProperty_ownProperty_iff (h : f.schema = .ok f.ownProperty) :
    checkProperty f.ownProperty = .ok () ↔ f.label.isText = true ∧
      ((f.property "helpText").truthy = true → (f.property "helpText").isText = true) ∧
      f.WellConstrained := by
  obtain ⟨ks, hks, hall⟩ := Field.forall_mem_schema_iff h
    fun k => k.isWellTyped = true ∧ k.checkPattern = .ok ()
  have hconstrained : f.WellConstrained ↔
      ∀ k ∈ ks, k.isWellTyped = true ∧ k.checkPattern = .ok () := by
    unfold Field.WellConstrained
    rw [hks]
    simp
  have hlabel : (Keyword.title f.label).isWellTyped = true ∧
      (Keyword.title f.label).checkPattern = .ok () ↔ f.label.isText = true :=
    and_iff_left rfl
  have hhelp : (Keyword.description (f.property "helpText")).isWellTyped = true ∧
      (Keyword.description (f.property "helpText")).checkPattern = .ok () ↔
        (f.property "helpText").isText = true :=
    and_iff_left rfl
  rw [checkProperty_eq_ok_iff, hall, hconstrained, hlabel, hhelp]
  constructor
  · exact fun hsound => ⟨hsound.2.1, hsound.2.2.1, hsound.2.2.2.1⟩
  · exact fun hsound => ⟨⟨rfl, rfl⟩, hsound.1, hsound.2.1, hsound.2.2, Or.inr ⟨rfl, rfl⟩⟩

/-- The schema of a form that compiles is well formed exactly if the form is well configured. -/
theorem compile_wellFormed_iff (h : form.compile = .ok c) (hn : form.DistinctNames) :
    c.schema.check = .ok () ↔ WellConfigured form := by
  have hc := compiled_of_compile h hn
  have hproperties : (∀ e ∈ c.schema.properties, checkProperty e.2 = .ok ()) ↔
      ∀ f ∈ form.activeFields, f.label.isText = true ∧
        ((f.property "helpText").truthy = true → (f.property "helpText").isText = true) ∧
        (f.type? = some .text ∨ f.type? = some .textArea → f.LengthsFit) ∧
        (f.type? = some .number → f.BoundsFit) := by
    rw [hc.properties, List.forall_mem_map]
    apply forall₂_congr
    intro f hf
    rw [checkProperty_ownProperty_iff (hc.schemas f hf), Field.wellConstrained_iff]
  rw [Schema.check_eq_ok_iff, title_of_build (compile_eq_ok h).1, hproperties]
  constructor
  · rintro ⟨hname, -, hfields⟩
    exact
      { name := hname
        labels := fun f hf => (hfields f hf).1
        helpTexts := fun f hf => (hfields f hf).2.1
        lengths := fun f hf => (hfields f hf).2.2.1
        bounds := fun f hf => (hfields f hf).2.2.2 }
  · intro hw
    exact ⟨hw.name, hn.required hc, fun f hf =>
      ⟨hw.labels f hf, hw.helpTexts f hf, hw.lengths f hf, hw.bounds f hf⟩⟩

end

/-! ### A booking -/

/-- A code with a pattern, a number of guests within bounds, and an explanation that is left out. -/
def booking (pattern : String) : Form :=
  let code : Field := ⟨.text "1", .text "code", .text "Code", "TEXT", true, .null, 0,
    [(.text "minLength", .float (.finite false 1 1)), (.text "maxLength", .int 8),
      (.text "pattern", .text pattern), (.text "min", .text "none")], none, true⟩
  let guests : Field := ⟨.text "2", .text "guests", .text "Guests", "NUMBER", false, .null, 1,
    [(.text "min", .int 1), (.text "max", .null), (.text "helpText", .text ""),
      (.text "defaultValue", .list [])], none, true⟩
  ⟨.text "f", .text "Booking", ⟨⟨2024, 1, 15⟩, 10, 30, 0, 0, some 0⟩, [code, guests], []⟩

theorem activeFields_booking (pattern : String) :
    (booking pattern).activeFields = (booking pattern).fields := by
  cbv

theorem distinctNames_booking (pattern : String) : (booking pattern).DistinctNames := by
  constructor
  · rw [activeFields_booking]
    simp [booking, Value.isText]
  · rw [activeFields_booking]
    simp [booking]

theorem booking_compiles (pattern : String) : ∃ c, (booking pattern).compile = .ok c :=
  ⟨_, by cbv⟩

theorem wellConfigured_booking_iff {pattern : String} :
    WellConfigured (booking pattern) ↔ (pattern ≠ "" → IsPattern (.text pattern)) := by
  have htext : FieldType.parse? "TEXT" = some .text := by decide
  have hnumber : FieldType.parse? "NUMBER" = some .number := by decide
  constructor
  · intro hw hne
    have hlengths := hw.lengths
    rw [activeFields_booking] at hlengths
    have hcode := (hlengths _ List.mem_cons_self (Or.inl htext)).pattern
    exact hcode (decide_eq_true hne)
  · intro hpattern
    constructor
    case name => rfl
    all_goals
      rw [activeFields_booking]
      refine List.forall_mem_cons.mpr ⟨?_, List.forall_mem_singleton.mpr ?_⟩
    case labels.refine_1 => rfl
    case labels.refine_2 => rfl
    case helpTexts.refine_1 => exact fun h => absurd h Bool.false_ne_true
    case helpTexts.refine_2 => exact fun _ => rfl
    case lengths.refine_1 =>
      refine fun _ => ⟨Or.inr (isLength_iff.mp ?_), Or.inr (isLength_iff.mp ?_), ?_⟩
      · rfl
      · rfl
      · exact fun h => hpattern (of_decide_eq_true h)
    case lengths.refine_2 =>
      rintro (h | h)
      · exact absurd (hnumber.symm.trans h) (by decide)
      · exact absurd (hnumber.symm.trans h) (by decide)
    case bounds.refine_1 => exact fun h => absurd (htext.symm.trans h) (by decide)
    case bounds.refine_2 => exact fun _ => ⟨Or.inr (Or.inl ⟨1, rfl⟩), Or.inl rfl⟩

/-- With a class of letters for its pattern the schema is well formed, and with half of one not. -/
theorem compile_wellFormed_iff_booking :
    (∃ c, (booking "[A-Z]+").compile = .ok c ∧ (booking "[A-Z]+").DistinctNames ∧
      WellConfigured (booking "[A-Z]+") ∧ c.schema.check = .ok ()) ∧
    ∃ c, (booking "[A-Z").compile = .ok c ∧ (booking "[A-Z").DistinctNames ∧
      ¬ WellConfigured (booking "[A-Z") ∧ c.schema.check ≠ .ok () := by
  have hread : ∃ p, Pattern.read "[A-Z]+" = .ok p := ⟨_, by cbv⟩
  have hfail : Pattern.read "[A-Z" = .error .malformed := by cbv
  have hwell : WellConfigured (booking "[A-Z]+") := by
    obtain ⟨p, hp⟩ := hread
    exact wellConfigured_booking_iff.mpr fun _ => ⟨_, p, rfl, hp⟩
  have hill : ¬ WellConfigured (booking "[A-Z") := by
    rw [wellConfigured_booking_iff]
    intro h
    obtain ⟨s, p, hs, hp⟩ := h (by decide)
    cases hs
    rw [hfail] at hp
    cases hp
  obtain ⟨c, hc⟩ := booking_compiles "[A-Z]+"
  obtain ⟨c', hc'⟩ := booking_compiles "[A-Z"
  exact ⟨⟨c, hc, distinctNames_booking _, hwell,
      (compile_wellFormed_iff hc (distinctNames_booking _)).mpr hwell⟩,
    c', hc', distinctNames_booking _, hill,
      mt (compile_wellFormed_iff hc' (distinctNames_booking _)).mp hill⟩

end ServiceBlueprint.Form
