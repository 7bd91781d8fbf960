import Mathlib.Data.List.Nodup
import ServiceBlueprint.Form.Compiled
import ServiceBlueprint.Proofs.Attempt
import ServiceBlueprint.Proofs.Value.Access
import ServiceBlueprint.Proofs.Value.Text

/-!
# What a compiled form holds

A form that compiles gives one property per active field, in order, where names are textual and
distinct; the required names, the exported rules and the placements are read off the active fields
and sections. Everything later is said of these parts.
-/

namespace ServiceBlueprint.Form

/-- The names of active fields are texts, and no two are equal. -/
structure DistinctNames (form : Form) : Prop where
  texts : ∀ f ∈ form.activeFields, f.name.isText = true
  nodup : (form.activeFields.map (·.name)).Nodup

/-- The names of active fields are texts. -/
def TextNames (form : Form) : Prop :=
  ∀ f ∈ form.activeFields, f.name.isText = true

/-! ### Deciding about names -/

theorem perm_activeFields (form : Form) :
    form.activeFields.Perm (form.fields.filter (·.isActive)) :=
  List.mergeSort_perm _ _

theorem textNames_iff {form : Form} :
    form.TextNames ↔ ∀ f ∈ form.fields.filter (·.isActive), f.name.isText = true :=
  forall_congr' fun _ => imp_congr_left form.perm_activeFields.mem_iff

theorem distinctNames_iff {form : Form} :
    form.DistinctNames ↔ form.TextNames ∧
      ((form.fields.filter (·.isActive)).map (·.name)).Nodup := by
  rw [← (form.perm_activeFields.map (·.name)).nodup_iff]
  exact ⟨fun h => ⟨h.texts, h.nodup⟩, fun h => ⟨h.1, h.2⟩⟩

instance (form : Form) : Decidable form.TextNames :=
  decidable_of_iff _ textNames_iff.symm

instance (form : Form) : Decidable form.DistinctNames :=
  decidable_of_iff _ distinctNames_iff.symm

/-! ### Parts of a compiled form -/

theorem compile_eq_ok {form : Form} {c : CompiledForm} (h : form.compile = .ok c) :
    Schema.build form = .ok c.schema ∧ Layout.build form = .ok c.layout ∧
      exportRules form = .ok c.rules ∧ c.placements = form.placements := by
  unfold compile at h
  obtain ⟨version, -, h⟩ := Attempt.bind_eq_ok.mp h
  obtain ⟨schema, hschema, h⟩ := Attempt.bind_eq_ok.mp h
  obtain ⟨layout, hlayout, h⟩ := Attempt.bind_eq_ok.mp h
  obtain ⟨rules, hrules, h⟩ := Attempt.bind_eq_ok.mp h
  cases h
  exact ⟨hschema, hlayout, hrules, rfl⟩

theorem TextNames.keys {form : Form} (ht : form.TextNames) :
    ∀ f ∈ form.activeFields, f.name.isKey = true :=
  fun f hf => Value.isKey_of_isText (ht f hf)

/-- Entries under the names of active fields have keys that are the same as no other. -/
theorem TextNames.isolated {form : Form} (ht : form.TextNames) {ν : Type} {fields : List Field}
    (hfields : ∀ f ∈ fields, f ∈ form.activeFields) (value : Field → ν) :
    ∀ e ∈ fields.map fun f => (f.name, value f), Isolated e.1 := by
  intro e he
  obtain ⟨f, hf, rfl⟩ := List.mem_map.mp he
  exact Value.isolated_of_isText (ht f (hfields f hf))

theorem DistinctNames.textNames {form : Form} (hn : form.DistinctNames) : form.TextNames :=
  hn.texts

/-- The names of active fields, of whatever kind, are told apart as keys. -/
def NamesDiffer (form : Form) : Prop :=
  form.activeFields.Pairwise fun f g => (f.name == g.name) = false

theorem DistinctNames.differ {form : Form} (hn : form.DistinctNames) : form.NamesDiffer := by
  apply (List.pairwise_map.mp hn.nodup).imp_of_mem
  intro f g hf _ hne
  exact Bool.eq_false_iff.mpr fun hfg => hne ((Value.beq_iff_eq_of_isText (hn.texts f hf)).mp hfg)

/-- Entries under the names of active fields have distinct keys. -/
theorem NamesDiffer.distinct {form : Form} (hn : form.NamesDiffer) {ν : Type}
    {entries : Table Value ν} (h : entries.keys.Sublist (form.activeFields.map (·.name))) :
    entries.Distinct := by
  have hnames : (form.activeFields.map (·.name)).Pairwise fun a b => (a == b) = false :=
    List.pairwise_map.mpr hn
  rw [Table.distinct_iff_keys]
  exact hnames.sublist h

/-! ### The schema -/

/-- The property of a field, or none at all if it has no schema. -/
def Field.ownProperty (f : Field) : Property :=
  f.schema.toOption.getD []

theorem eq_ownProperty_of_entry {f : Field} {e : Value × Property}
    (h : (do let property ← f.schema; return (← f.name.asKey, property)) = Except.ok e) :
    f.schema = .ok f.ownProperty ∧ e = (f.name, f.ownProperty) := by
  obtain ⟨property, hproperty, h⟩ := Attempt.bind_eq_ok.mp h
  obtain ⟨key, hkey, h⟩ := Attempt.bind_eq_ok.mp h
  obtain ⟨-, rfl⟩ := Value.asKey_eq_ok_iff.mp hkey
  cases h
  rw [Field.ownProperty, hproperty]
  exact ⟨rfl, rfl⟩

theorem required_of_build {form : Form} {s : Schema} (h : Schema.build form = .ok s) :
    s.required = (form.activeFields.filter (·.required)).map (·.name) := by
  obtain ⟨entries, -, h⟩ := Attempt.bind_eq_ok.mp h
  cases h
  rfl

/-- Of several fields with one name the last one gives the property. -/
theorem properties_of_build {form : Form} {s : Schema} (h : Schema.build form = .ok s) :
    (∀ f ∈ form.activeFields, f.schema = .ok f.ownProperty) ∧
      s.properties = Table.ofList (form.activeFields.map fun f => (f.name, f.ownProperty)) := by
  unfold Schema.build at h
  obtain ⟨entries, hentries, h⟩ := Attempt.bind_eq_ok.mp h
  cases h
  obtain ⟨rfl, hall⟩ := Attempt.mapM_eq_ok hentries fun f _ e he =>
    (eq_ownProperty_of_entry he).2
  exact ⟨fun f hf => (eq_ownProperty_of_entry (hall f hf)).1, rfl⟩

theorem build_eq_ok {form : Form} {s : Schema} (h : Schema.build form = .ok s)
    (hn : form.NamesDiffer) :
    (∀ f ∈ form.activeFields, f.schema = .ok f.ownProperty) ∧
      s.properties = form.activeFields.map fun f => (f.name, f.ownProperty) := by
  obtain ⟨hschemas, hproperties⟩ := properties_of_build h
  refine ⟨hschemas, ?_⟩
  rw [hproperties]
  apply Table.ofList_of_distinct
  apply hn.distinct
  rw [Table.keys, List.map_map]
  exact List.Sublist.refl _

/-! ### Placements and rules -/

theorem placements_eq {form : Form} (hn : form.NamesDiffer) :
    form.placements =
      (form.activeFields.filter (·.sectionId.truthy)).map fun f => (f.name, f.sectionId) := by
  apply Table.ofList_of_distinct
  apply hn.distinct
  rw [Table.keys, List.map_map]
  exact List.filter_sublist.map _

theorem exportRules_eq_ok {form : Form} {rules : RuleExport} (h : exportRules form = .ok rules) :
    rules = ⟨form.activeFields.filterMap (·.owner.exported? form.activeFields),
      form.activeSections.filterMap (·.owner.exported? form.activeFields)⟩ := by
  unfold exportRules at h
  split at h
  · cases h
    rfl
  · cases h

/-! ### When a form compiles -/

/-- Where options are offered, each has a value. -/
def Field.OptionsValued (f : Field) : Prop :=
  f.type? = some .select ∨ f.type? = some .radio →
    ∀ options, f.property "options" = .list options → ∀ o ∈ options, (o.get? "value").isSome = true

theorem Field.constraints_of_option {f : Field}
    (h : f.type? = some .select ∨ f.type? = some .radio) : f.constraints = f.optionKeywords := by
  unfold Field.constraints
  rcases h with h | h
  · rw [h]
  · rw [h]

theorem Field.optionKeywords_isOk_iff {f : Field} :
    (∃ ks, f.optionKeywords = .ok ks) ↔
      ∀ options, f.property "options" = .list options →
        ∀ o ∈ options, (o.get? "value").isSome = true := by
  unfold Field.optionKeywords
  cases f.property "options" with
  | list options =>
    simp only [Value.list.injEq, forall_eq', ← Value.index_isOk_iff, ← Attempt.mapM_isOk_iff]
    exact Attempt.bind_isOk_iff fun values => ⟨_, rfl⟩
  | _ => simp

theorem Field.schema_isOk_iff {f : Field} : (∃ p, f.schema = .ok p) ↔ f.OptionsValued := by
  have hconstraints : (∃ p, f.schema = .ok p) ↔ ∃ ks, f.constraints = .ok ks :=
    Attempt.bind_isOk_iff fun ks => ⟨_, rfl⟩
  rw [hconstraints, Field.OptionsValued, ← Field.optionKeywords_isOk_iff, Field.constraints]
  cases f.type? with
  | none => simp
  | some t => cases t <;> simp

/-- What a form needs to be compiled: a version, values of options, and keys wherever fields or
sections are told apart. -/
structure Compilable (form : Form) : Prop where
  version : form.updatedAt.version?.isSome = true
  options : ∀ f ∈ form.activeFields, f.OptionsValued
  names : ∀ f ∈ form.activeFields, f.name.isKey = true
  places : ∀ f ∈ form.activeFields, f.placement.isKey = true
  sectionIds : ∀ s ∈ form.activeSections, s.id.isKey = true
  fieldIds : ∀ f ∈ form.activeFields, f.id.isKey = true
  sources : ∀ o ∈ owners form, ∀ r, o.rule = some r → r.source.isKey = true

theorem version_isOk_iff {form : Form} :
    (∃ v, form.version = .ok v) ↔ form.updatedAt.version?.isSome = true := by
  unfold Form.version
  cases form.updatedAt.version? <;> simp

theorem build_isOk_iff {form : Form} :
    (∃ s, Schema.build form = .ok s) ↔
      ∀ f ∈ form.activeFields, f.OptionsValued ∧ f.name.isKey = true := by
  have hentries : (∃ s, Schema.build form = .ok s) ↔ ∃ es, form.activeFields.mapM (fun f => do
      let property ← f.schema
      return (← f.name.asKey, property)) = .ok es :=
    Attempt.bind_isOk_iff fun es => ⟨_, rfl⟩
  rw [hentries, Attempt.mapM_isOk_iff]
  apply forall₂_congr
  intro f _
  rw [← Field.schema_isOk_iff]
  constructor
  · rintro ⟨e, he⟩
    obtain ⟨p, hp, he⟩ := Attempt.bind_eq_ok.mp he
    obtain ⟨key, hkey, -⟩ := Attempt.bind_eq_ok.mp he
    exact ⟨⟨p, hp⟩, (Value.asKey_eq_ok_iff.mp hkey).1⟩
  · rintro ⟨⟨p, hp⟩, hkey⟩
    have hname : f.name.asKey = .ok f.name := Value.asKey_eq_ok_iff.mpr ⟨hkey, rfl⟩
    rw [hp, hname]
    exact ⟨_, rfl⟩

theorem layout_isOk_iff {form : Form} :
    (∃ l, Layout.build form = .ok l) ↔
      (∀ f ∈ form.activeFields, f.placement.isKey = true) ∧
        ∀ s ∈ form.activeSections, s.id.isKey = true := by
  rw [← List.all_eq_true, ← List.all_eq_true, ← Bool.and_eq_true, Layout.build]
  split
  next hkeys => simp [hkeys]
  next hkeys => simp [hkeys]

theorem exportRules_isOk_iff {form : Form} :
    (∃ rules, exportRules form = .ok rules) ↔
      (∀ f ∈ form.activeFields, f.id.isKey = true) ∧
        ∀ o ∈ owners form, ∀ r, o.rule = some r → r.source.isKey = true := by
  unfold exportRules
  have hkeys : hasKeys form = true ↔ (∀ f ∈ form.activeFields, f.id.isKey = true) ∧
      ∀ o ∈ owners form, ∀ r, o.rule = some r → r.source.isKey = true := by
    unfold hasKeys
    rw [Bool.and_eq_true, List.all_eq_true, List.all_eq_true]
    simp only [Option.all_eq_true]
  rw [← hkeys]
  by_cases h : hasKeys form <;> simp [h]

theorem compile_isOk_iff {form : Form} : (∃ c, form.compile = .ok c) ↔ Compilable form := by
  constructor
  · rintro ⟨c, h⟩
    obtain ⟨version, hversion, -⟩ := Attempt.bind_eq_ok.mp h
    obtain ⟨hschema, hlayout, hrules, -⟩ := compile_eq_ok h
    have hfields := build_isOk_iff.mp ⟨_, hschema⟩
    obtain ⟨hplaces, hsections⟩ := layout_isOk_iff.mp ⟨_, hlayout⟩
    obtain ⟨hids, hsources⟩ := exportRules_isOk_iff.mp ⟨_, hrules⟩
    exact
      { version := version_isOk_iff.mp ⟨version, hversion⟩
        options := fun f hf => (hfields f hf).1
        names := fun f hf => (hfields f hf).2
        places := hplaces
        sectionIds := hsections
        fieldIds := hids
        sources := hsources }
  · intro h
    obtain ⟨version, hversion⟩ := version_isOk_iff.mpr h.version
    obtain ⟨schema, hschema⟩ := build_isOk_iff.mpr fun f hf => ⟨h.options f hf, h.names f hf⟩
    obtain ⟨layout, hlayout⟩ := layout_isOk_iff.mpr ⟨h.places, h.sectionIds⟩
    obtain ⟨rules, hrules⟩ := exportRules_isOk_iff.mpr ⟨h.fieldIds, h.sources⟩
    rw [compile, hversion, hschema, hlayout, hrules]
    exact ⟨_, rfl⟩

/-- What goes into a compiled form, however its fields are named. -/
structure Assembled (form : Form) (c : CompiledForm) : Prop where
  schemas : ∀ f ∈ form.activeFields, f.schema = .ok f.ownProperty
  table : c.schema.properties =
    Table.ofList (form.activeFields.map fun f => (f.name, f.ownProperty))
  required : c.schema.required = (form.activeFields.filter (·.required)).map (·.name)
  placed : c.placements = form.placements
  fieldRules : c.rules.fields = form.activeFields.filterMap (·.owner.exported? form.activeFields)
  sectionRules :
    c.rules.sections = form.activeSections.filterMap (·.owner.exported? form.activeFields)
  sectionKeys : ∀ s ∈ form.activeSections, s.id.isKey = true

theorem assembled_of_compile {form : Form} {c : CompiledForm} (h : form.compile = .ok c) :
    Assembled form c := by
  obtain ⟨hschema, hlayout, hrules, hplacements⟩ := compile_eq_ok h
  obtain ⟨hschemas, hproperties⟩ := properties_of_build hschema
  have hexport := exportRules_eq_ok hrules
  exact
    { schemas := hschemas
      table := hproperties
      required := required_of_build hschema
      placed := hplacements
      fieldRules := congrArg RuleExport.fields hexport
      sectionRules := congrArg RuleExport.sections hexport
      sectionKeys := (layout_isOk_iff.mp ⟨_, hlayout⟩).2 }

/-- Each entry of the schema is that of an active field. -/
theorem Assembled.mem_properties {form : Form} {c : CompiledForm} (hc : Assembled form c)
    (ht : form.TextNames) {e : Value × Property} (he : e ∈ c.schema.properties) :
    ∃ g ∈ form.activeFields, (g.name, g.ownProperty) = e := by
  rw [hc.table] at he
  exact List.mem_map.mp (Table.mem_of_mem_ofList (ht.isolated (fun _ hg => hg) _) he)

theorem Assembled.isText_entry {form : Form} {c : CompiledForm} (hc : Assembled form c)
    (ht : form.TextNames) {e : Value × Property} (he : e ∈ c.schema.properties) : e.1.isText = true := by
  obtain ⟨g, hg, rfl⟩ := hc.mem_properties ht he
  exact ht g hg

/-- Every part of a compiled form, read off the active fields and sections. -/
structure Compiled (form : Form) (c : CompiledForm) : Prop extends Assembled form c where
  properties : c.schema.properties = form.activeFields.map fun f => (f.name, f.ownProperty)
  placements : c.placements =
    (form.activeFields.filter (·.sectionId.truthy)).map fun f => (f.name, f.sectionId)

theorem compiled_of_namesDiffer {form : Form} {c : CompiledForm} (h : form.compile = .ok c)
    (hn : form.NamesDiffer) : Compiled form c := by
  have hall := assembled_of_compile h
  exact
    { hall with
      properties := (build_eq_ok (compile_eq_ok h).1 hn).2
      placements := hall.placed.trans (placements_eq hn) }

theorem compiled_of_compile {form : Form} {c : CompiledForm} (h : form.compile = .ok c)
    (hn : form.DistinctNames) : Compiled form c :=
  compiled_of_namesDiffer h hn.differ

end ServiceBlueprint.Form
