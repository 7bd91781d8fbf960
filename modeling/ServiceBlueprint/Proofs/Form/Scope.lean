import ServiceBlueprint.Proofs.Form.Layout
import ServiceBlueprint.Proofs.Json.Pointer

/-!
# Where the scope of a control leads

The scope of a control is a reference into the schema, to the property of the field. The name of
the field is put into it as it is. So it leads to the property if the name has neither `%` nor `/`
nor `~`, and no character that has to be escaped. With any other name it leads nowhere, or into the
property of another field.
-/

namespace ServiceBlueprint.Form

open Json Json.Pointer

/-- What a reader of references finds at a control's scope, if it admits the given characters. -/
def atScope? (c : CompiledForm) (admits : Char → Bool) (ctl : Control) : Option Value :=
  (ofReference? admits ctl.scope).bind (resolve? · c.schema.toValue)

/-- Every control is scoped to the property of the field that it is for. -/
def ScopesFit (form : Form) (c : CompiledForm) (admits : Char → Bool) : Prop :=
  ∀ ctl ∈ c.layout.controls, ∃ f ∈ form.activeFields, f.control = ctl ∧
    atScope? c admits ctl = some (propertyValue f.ownProperty)

section

variable {form : Form} {c : CompiledForm} {admits : Char → Bool}

/-- A control is for one field only. -/
theorem DistinctNames.eq_of_control_eq (hn : form.DistinctNames) {f g : Field}
    (hf : f ∈ form.activeFields) (hg : g ∈ form.activeFields) (h : f.control = g.control) :
    f = g :=
  List.inj_on_of_nodup_map hn.nodup hf hg (congrArg Control.field h)

/-- The properties of a schema, as a pointer goes through them. -/
theorem resolve?_properties (hc : Compiled form c) (step : String) (p : Pointer) :
    resolve? ("properties" :: step :: p) c.schema.toValue =
      (Table.find? (form.activeFields.map fun f => (f.name, propertyValue f.ownProperty))
        (.text step)).bind (resolve? p) := by
  have htable : c.schema.properties.map (fun e => (e.1, propertyValue e.2)) =
      form.activeFields.map fun f => (f.name, propertyValue f.ownProperty) := by
    rw [hc.properties, List.map_map]
    simp only [Function.comp_def]
  rw [← htable]
  rfl

/-- By its name the property of a field is found. -/
theorem resolve?_name (hc : Compiled form c) (hn : form.DistinctNames) {f : Field}
    (hf : f ∈ form.activeFields) :
    resolve? ["properties", f.name.display] c.schema.toValue =
      some (propertyValue f.ownProperty) := by
  have hdistinct : Table.Distinct (form.activeFields.map fun f =>
      (f.name, propertyValue f.ownProperty)) := by
    apply hn.differ.distinct
    rw [Table.keys, List.map_map]
    exact List.Sublist.refl _
  have hfind : Table.find? (form.activeFields.map fun f => (f.name, propertyValue f.ownProperty))
      f.name = some (propertyValue f.ownProperty) :=
    Table.find?_eq_some_of_mem hdistinct (List.mem_map_of_mem hf)
  rw [resolve?_properties hc, Value.text_display (hn.texts f hf), hfind]
  rfl

/-- What is found among the properties belongs to the field that the first step names. -/
theorem exists_field_of_resolve? (hc : Compiled form c) (hn : form.DistinctNames) {step : String}
    {p : Pointer} {v : Value}
    (h : resolve? ("properties" :: step :: p) c.schema.toValue = some v) :
    ∃ g ∈ form.activeFields, g.name = .text step ∧
      resolve? p (propertyValue g.ownProperty) = some v := by
  rw [resolve?_properties hc] at h
  obtain ⟨w, hw, h⟩ := Option.bind_eq_some_iff.mp h
  obtain ⟨e, he, hkey, rfl⟩ := Table.mem_of_find? hw
  obtain ⟨g, hg, rfl⟩ := List.mem_map.mp he
  exact ⟨g, hg, (Value.beq_iff_eq_of_isText (hn.texts g hg)).mp hkey, h⟩

theorem ofReference?_scope (hslash : admits '/' = true) (hproperties : IsPlain admits "properties")
    (ctl : Control) :
    ofReference? admits ctl.scope =
      (ofReference? admits ("#/" ++ ctl.field.display)).map ("properties" :: ·) :=
  ofReference?_below hslash (by simp) hproperties ctl.field.display

/-- A name that stands for itself leads to the property of its field. -/
theorem atScope?_of_isPlain (hc : Compiled form c) (hn : form.DistinctNames)
    (hslash : admits '/' = true) (hproperties : IsPlain admits "properties") {f : Field}
    (hf : f ∈ form.activeFields) (hplain : IsPlain admits f.name.display) :
    atScope? c admits f.control = some (propertyValue f.ownProperty) := by
  rw [atScope?, ofReference?_scope hslash hproperties, Field.control,
    ofReference?_of_isPlain hslash hplain]
  exact resolve?_name hc hn hf

/-- Any other name leads to nothing that its field has. -/
theorem exists_other_of_atScope? (hc : Compiled form c) (hn : form.DistinctNames)
    (hslash : admits '/' = true) (hproperties : IsPlain admits "properties") {f : Field}
    (hplain : ¬ IsPlain admits f.name.display) {v : Value}
    (hv : atScope? c admits f.control = some v) :
    ∃ g ∈ form.activeFields, g.name ≠ f.name ∧
      ∃ p, resolve? p (propertyValue g.ownProperty) = some v := by
  rw [atScope?, ofReference?_scope hslash hproperties, Option.bind_map] at hv
  obtain ⟨p, hp, hv⟩ := Option.bind_eq_some_iff.mp hv
  rcases ofReference?_cases hslash hp with ⟨hplain', -⟩ | ⟨step, rest, rfl, hwidth⟩
  · exact absurd hplain' hplain
  · obtain ⟨g, hg, hname, hrest⟩ := exists_field_of_resolve? hc hn hv
    refine ⟨g, hg, ?_, rest, hrest⟩
    -- the step that is read is narrower than the name, so it is another one
    intro hsame
    have hdisplay : f.control.field.display = step := by
      rw [Field.control, ← hsame, hname]
      rfl
    rw [hdisplay] at hwidth
    exact Nat.lt_irrefl _ hwidth

/-- A scope leads to the property of the field if the name stands for itself, and where it does
not, to nothing or into the property of a field of another name. -/
theorem compile_scopes (h : form.compile = .ok c) (hn : form.DistinctNames)
    (hslash : admits '/' = true) (hproperties : IsPlain admits "properties") :
    ∀ ctl ∈ c.layout.controls, ∃ f ∈ form.activeFields, f.control = ctl ∧
      (IsPlain admits f.name.display →
        atScope? c admits ctl = some (propertyValue f.ownProperty)) ∧
      (¬ IsPlain admits f.name.display → ∀ v, atScope? c admits ctl = some v →
        ∃ g ∈ form.activeFields, g.name ≠ f.name ∧
          ∃ p, resolve? p (propertyValue g.ownProperty) = some v) := by
  intro ctl hctl
  have hc := compiled_of_compile h hn
  obtain ⟨f, hf, -, rfl⟩ := (mem_controls_iff (compile_eq_ok h).2.1).mp hctl
  exact ⟨f, hf, rfl, atScope?_of_isPlain hc hn hslash hproperties hf,
    fun hplain v hv => exists_other_of_atScope? hc hn hslash hproperties hplain hv⟩

/-- Written with escapes, a reference leads to the property under any name. -/
theorem resolve?_toReference (h : form.compile = .ok c) (hn : form.DistinctNames) {f : Field}
    (hf : f ∈ form.activeFields) :
    (ofReference? admits (toReference admits ["properties", f.name.display])).bind
      (resolve? · c.schema.toValue) = some (propertyValue f.ownProperty) := by
  rw [ofReference?_toReference, Option.bind_some]
  exact resolve?_name (compiled_of_compile h hn) hn hf

end

/-! ### Names with a percent sign -/

def loanAmount : Field :=
  ⟨.text "1", .text "amount", .text "Amount", "NUMBER", false, .null, 0, [], none, true⟩

def loanRate : Field :=
  ⟨.text "2", .text "rate%", .text "Rate", "NUMBER", false, .null, 1, [], none, true⟩

/-- A field whose name is that of the rate, with its last character escaped. -/
def loanQuarter : Field :=
  ⟨.text "3", .text "rate%25", .text "Rate for a quarter", "TEXT", false, .null, 2, [], none, true⟩

def loan : Form :=
  ⟨.text "f", .text "Loan", ⟨⟨2024, 1, 15⟩, 10, 30, 0, 0, some 0⟩,
    [loanAmount, loanRate, loanQuarter], []⟩

theorem activeFields_loan : loan.activeFields = [loanAmount, loanRate, loanQuarter] := by
  cbv

theorem distinctNames_loan : loan.DistinctNames := by
  decide

theorem loan_compiles : ∃ c, loan.compile = .ok c :=
  ⟨_, by cbv⟩

theorem mem_loan : loanAmount ∈ loan.activeFields ∧ loanRate ∈ loan.activeFields ∧
    loanQuarter ∈ loan.activeFields := by
  rw [activeFields_loan]
  simp

theorem control_mem_loan {c : CompiledForm} (h : loan.compile = .ok c) {f : Field}
    (hf : f ∈ loan.activeFields) : f.control ∈ c.layout.controls := by
  rw [mem_controls_iff (compile_eq_ok h).2.1]
  refine ⟨f, hf, Or.inl ?_, rfl⟩
  rw [activeFields_loan] at hf
  revert f
  decide

theorem not_isPlain_quarter (admits : Char → Bool) : ¬ IsPlain admits "rate%25" :=
  fun h => (h '%' (by simp)).1.1 rfl

/-- The scope of the amount leads to its property. That of the rate for a quarter leads, if
anywhere, into another one. -/
theorem compile_scopes_loan : ∃ c, loan.compile = .ok c ∧ loan.DistinctNames ∧
    inFragment '/' = true ∧ IsPlain inFragment "properties" ∧
    atScope? c inFragment loanAmount.control = some (propertyValue loanAmount.ownProperty) ∧
    ∀ v, atScope? c inFragment loanQuarter.control = some v →
      ∃ g ∈ loan.activeFields, g.name ≠ loanQuarter.name ∧
        ∃ p, resolve? p (propertyValue g.ownProperty) = some v := by
  obtain ⟨c, hc⟩ := loan_compiles
  obtain ⟨hamount, -, hquarter⟩ := mem_loan
  have hslash : inFragment '/' = true := by decide
  have hproperties : IsPlain inFragment "properties" := by
    simp [IsPlain, inFragment]
  have hname : IsPlain inFragment "amount" := by
    simp [IsPlain, inFragment]
  have hscopes := compile_scopes hc distinctNames_loan hslash hproperties
  refine ⟨c, hc, distinctNames_loan, hslash, hproperties, ?_, ?_⟩
  · obtain ⟨f, hf, hcontrol, hplain, -⟩ := hscopes _ (control_mem_loan hc hamount)
    obtain rfl := distinctNames_loan.eq_of_control_eq hf hamount hcontrol
    exact hplain hname
  · obtain ⟨f, hf, hcontrol, -, hother⟩ := hscopes _ (control_mem_loan hc hquarter)
    obtain rfl := distinctNames_loan.eq_of_control_eq hf hquarter hcontrol
    exact hother (not_isPlain_quarter inFragment)

/-- A reference to the rate for a quarter is one to the rate. -/
theorem ofReference?_quarter {admits : Char → Bool} (hslash : admits '/' = true)
    (hrate : ∀ ch ∈ "rate".toList, ch ≠ '%' ∧ admits ch = true) :
    ofReference? admits ("#/" ++ "rate%25") = some ["rate%"] := by
  have hoctets : octets? admits "%25".toList = some (Text.toOctets "%") := by
    rw [Text.toOctets_of_ascii (by simp)]
    rfl
  have hsign : unescape? admits "%25".toList = some "%" := by
    rw [unescape?, hoctets]
    exact Text.ofOctets?_toOctets "%"
  have hname : unescape? admits "rate%25".toList = some "rate%" := by
    change unescape? admits ("rate".toList ++ "%25".toList) = _
    rw [unescape?_append (by simp) hrate, hsign]
    rfl
  rw [ofReference?_slash hslash, hname]
  rfl

theorem atScope?_quarter {c : CompiledForm} (h : loan.compile = .ok c) {admits : Char → Bool}
    (hslash : admits '/' = true) (hproperties : IsPlain admits "properties")
    (hrate : ∀ ch ∈ "rate".toList, ch ≠ '%' ∧ admits ch = true) :
    atScope? c admits loanQuarter.control = some (propertyValue loanRate.ownProperty) := by
  have hread : ofReference? admits loanQuarter.control.scope = some ["properties", "rate%"] := by
    rw [ofReference?_scope hslash hproperties]
    change (ofReference? admits ("#/" ++ "rate%25")).map ("properties" :: ·) = _
    rw [ofReference?_quarter hslash hrate, Option.map_some]
  rw [atScope?, hread]
  exact resolve?_name (compiled_of_compile h distinctNames_loan) distinctNames_loan mem_loan.2.1

/-- However strictly references are read, one scope leads to the property of another field. -/
theorem not_scopesFit_loan : ∃ c, loan.compile = .ok c ∧ loan.DistinctNames ∧
    ¬ ScopesFit loan c inFragment ∧ ¬ ScopesFit loan c fun _ => true := by
  obtain ⟨c, hc⟩ := loan_compiles
  obtain ⟨-, -, hquarter⟩ := mem_loan
  have hdiffer : propertyValue loanRate.ownProperty ≠ propertyValue loanQuarter.ownProperty := by
    decide
  have hastray {admits : Char → Bool}
      (hscope : atScope? c admits loanQuarter.control = some (propertyValue loanRate.ownProperty)) :
      ¬ ScopesFit loan c admits := by
    intro hfit
    obtain ⟨f, hf, hcontrol, hown⟩ := hfit _ (control_mem_loan hc hquarter)
    obtain rfl := distinctNames_loan.eq_of_control_eq hf hquarter hcontrol
    exact hdiffer (Option.some_inj.mp (hscope.symm.trans hown))
  refine ⟨c, hc, distinctNames_loan, ?_, ?_⟩
  · exact hastray (atScope?_quarter hc (by decide) (by simp [IsPlain, inFragment])
      (by simp [inFragment]))
  · exact hastray (atScope?_quarter hc rfl (by simp [IsPlain]) (by simp))

end ServiceBlueprint.Form
