import ServiceBlueprint.Proofs.Form.Alone
import ServiceBlueprint.Proofs.Form.Layout

/-!
# Offered options

The property of a field with options lists their values as they are configured, and asks for a text
besides. So where the field is always shown, the value of an option is refused exactly if it is no
text, and then for its type only. It does not matter what else a form asks for, nor whether other
fields share a name.
-/

namespace ServiceBlueprint.Form

/-- The field is active and nothing hides it, names are texts, and no other active field has its
name. -/
structure AlwaysShows (form : Form) (f : Field) : Prop where
  mem : f ∈ form.activeFields
  textNames : form.TextNames
  own : ∀ g ∈ form.activeFields, g.name = f.name → g = f
  rule : f.rule = none
  unplaced : f.sectionId.truthy = false

section

variable {form : Form} {f : Field} {c : CompiledForm} {facts : Facts} {v : Value}

/-! ### What is hidden -/

theorem AlwaysShows.name_notMem_concealed (ha : form.AlwaysShows f) (hc : Assembled form c) :
    f.name ∉ concealed c facts := by
  intro h
  rcases List.mem_append.mp h with h | h
  · rw [mem_distinct (hc.isText_targetName ha.textNames)] at h
    obtain ⟨r, hr, hname⟩ := List.mem_map.mp h
    obtain ⟨o, ho, hexported⟩ := hc.mem_rules (List.mem_of_mem_filter hr)
    obtain ⟨rule, hrule, condition, -, rfl⟩ := exported?_eq_some_iff.mp hexported
    obtain ⟨g, hg, rfl⟩ := List.mem_map.mp ho
    have hnone : g.owner.rule = none := by
      rw [ha.own g hg hname]
      exact ha.rule
    rw [hrule] at hnone
    cases hnone
  · obtain ⟨g, hg, hname, htruthy⟩ := hc.of_mem_namesPlacedIn ha.textNames h
    rw [ha.own g hg hname, ha.unplaced] at htruthy
    cases htruthy

theorem AlwaysShows.name_notMem_hidden (ha : form.AlwaysShows f) (hc : Assembled form c)
    {hidden : List Value} (h : hiddenFields c (.map facts) = .ok hidden) : f.name ∉ hidden := by
  obtain ⟨names, hnames, -, hmem⟩ := hc.hiddenFields_eq_ok ha.textNames facts
  have hnot : f.name ∉ concealed c facts := ha.name_notMem_concealed hc
  rw [hnames] at h
  cases h
  intro hin
  obtain ⟨n, hn, hname⟩ := List.mem_map.mp hin
  rw [← hname, ← hmem] at hnot
  exact hnot hn

/-! ### The entries of the schema -/

theorem AlwaysShows.filter_properties (ha : form.AlwaysShows f) (hc : Assembled form c) :
    c.schema.properties.filter (fun e => e.1 = f.name) = [(f.name, f.ownProperty)] := by
  have hkey : c.schema.properties.hasKey f.name = true := by
    rw [hc.table]
    exact Table.hasKey_ofList (List.mem_map_of_mem ha.mem)
  have hmem : (f.name, f.ownProperty) ∈ c.schema.properties := by
    obtain ⟨e, he, hname⟩ := Table.hasKey_iff.mp hkey
    obtain ⟨g, hg, rfl⟩ := hc.mem_properties ha.textNames he
    rw [ha.own g hg ((Value.beq_iff_eq_of_isText (ha.textNames g hg)).mp hname)] at he
    exact he
  have hdistinct : c.schema.properties.Distinct := hc.table ▸ Table.distinct_ofList _
  apply filter_eq_singleton (hdistinct.imp ?_) hmem (decide_eq_true rfl)
  intro a b hab ⟨ha, hb⟩
  rw [of_decide_eq_true ha, of_decide_eq_true hb, BEq.rfl] at hab
  cases hab

/-! ### The errors of one field -/

/-- If the results of an element pass a test exactly if the element does, those that pass are the
results of the elements that do. -/
theorem filter_flatten_of_mapM {α β : Type} {attempt : α → Attempt (List β)} {p : α → Bool}
    {q : β → Bool} {xs : List α} {yss : List (List β)} (h : xs.mapM attempt = .ok yss)
    (hpq : ∀ x ∈ xs, ∀ ys, attempt x = .ok ys → ∀ y ∈ ys, q y = p x) :
    ∃ zss, (xs.filter p).mapM attempt = .ok zss ∧ yss.flatten.filter q = zss.flatten := by
  rw [Attempt.mapM_eq_ok_iff] at h
  induction h with
  | nil => exact ⟨[], rfl, rfl⟩
  | @cons x ys xs yss hx _ ih =>
    obtain ⟨hfirst, hrest⟩ := List.forall_mem_cons.mp hpq
    obtain ⟨zss, hzss, hflatten⟩ := ih hrest
    rw [List.flatten_cons, List.filter_append, hflatten, List.filter_cons]
    by_cases hp : p x
    · have hall : ys.filter q = ys :=
        List.filter_eq_self.mpr fun y hy => (hfirst ys hx y hy).trans hp
      rw [if_pos hp, hall]
      exact ⟨ys :: zss, by rw [List.mapM_cons, hx, hzss]; rfl, rfl⟩
    · have hnone : ys.filter q = [] :=
        List.filter_eq_nil_iff.mpr fun y hy => (hfirst ys hx y hy) ▸ hp
      rw [if_neg hp, hnone]
      exact ⟨zss, hzss, rfl⟩

theorem AlwaysShows.filter_valueErrors (ha : form.AlwaysShows f) (hc : Assembled form c)
    {hidden : List Value} (hin : f.name ∉ hidden) (hv : facts.find? f.name = some v)
    {found : List Violation} (hfound : violations f.ownProperty v = .ok found)
    {errors : List SubmissionError}
    (h : valueErrors (without hidden c.schema.properties) facts = .ok errors) :
    errors.filter (·.field = f.name) = found.map fun violation => ⟨f.name, violation⟩ := by
  have htext := ha.textNames f ha.mem
  have hentries : (without hidden c.schema.properties).filter (·.1 = f.name) =
      [(f.name, f.ownProperty)] := by
    have hcontains : hidden.contains f.name = false := by
      rw [← Bool.not_eq_true, Value.contains_iff_mem htext]
      exact hin
    rw [without, List.filter_comm, ha.filter_properties hc, List.filter_singleton, hcontains]
    rfl
  have hown : entryErrors facts (f.name, f.ownProperty) =
      .ok (found.map fun violation => ⟨f.name, violation⟩) := by
    unfold entryErrors
    simp only [hv, hfound, Value.text_display htext]
    rfl
  have hfields : ∀ e ∈ without hidden c.schema.properties, ∀ es, entryErrors facts e = .ok es →
      ∀ x ∈ es, decide (x.field = f.name) = decide (e.1 = f.name) := by
    intro e he es hes x hx
    have htext := hc.isText_entry ha.textNames (List.mem_of_mem_filter he)
    rw [field_of_entryErrors htext hes x hx]
  rw [valueErrors_eq_mapM] at h
  obtain ⟨ess, hess, h⟩ := Attempt.bind_eq_ok.mp h
  cases h
  obtain ⟨own, hmapM, hfilter⟩ := filter_flatten_of_mapM hess hfields
  rw [hentries, List.mapM_cons, hown] at hmapM
  cases hmapM
  rw [hfilter]
  exact List.append_nil _

/-- Nothing is reported as missing under a name that has a value. -/
theorem filter_requiredErrors {required : List Value} {name : Value}
    (h : facts.hasKey name = true) :
    (requiredErrors required facts).filter (·.field = name) = [] := by
  rw [List.filter_eq_nil_iff]
  intro e he hname
  have hmissing := List.of_mem_filter (field_of_mem_missingErrors he)
  rw [of_decide_eq_true hname, h] at hmissing
  cases hmissing

/-- The errors under the name of a field that is always shown are those of its value. -/
theorem AlwaysShows.filter_errors (ha : form.AlwaysShows f) (hc : Assembled form c)
    (hv : facts.find? f.name = some v) {found : List Violation}
    (hfound : violations f.ownProperty v = .ok found) {verdict : Verdict}
    (h : judge c (.map facts) = .ok verdict) :
    (verdict.errors.filter (·.field = f.name)).Perm
      (found.map fun violation => ⟨f.name, violation⟩) := by
  obtain ⟨facts', values, hfacts, hhidden, hvalues, hsorted⟩ := of_judge h
  cases hfacts
  have hin := ha.name_notMem_hidden hc hhidden
  have hvisible : (without verdict.hiddenFields facts).find? f.name = some v := by
    rw [find?_without (ha.textNames f ha.mem) hin, hv]
  have hkey : (without verdict.hiddenFields facts).hasKey f.name = true := by
    rw [Table.hasKey, hvisible]
    rfl
  have hperm := (perm_of_sortErrors hsorted).filter (·.field = f.name)
  rw [List.filter_append, ha.filter_valueErrors hc hin hvisible hfound hvalues,
    filter_requiredErrors hkey, List.append_nil] at hperm
  exact hperm

/-! ### Options -/

theorem violations_cons_of_forall {k : Keyword} {p : Property} {o : Option Violation}
    (hk : k.violation? v = .ok o) (hp : ∀ k' ∈ p, k'.violation? v = .ok none) :
    violations (k :: p) v = .ok o.toList := by
  have hrest : p.mapM (·.violation? v) = .ok (p.map fun _ => none) := Attempt.mapM_of_forall hp
  unfold violations
  rw [List.mapM_cons, hk, hrest]
  change Except.ok ((o :: p.map fun _ => none).filterMap fun o => o) = _
  cases o <;> simp

/-- The value of an option is among those listed, so all that it can violate is the type. -/
theorem violations_of_option {p : Property} (hschema : f.schema = .ok p)
    (ht : f.type? = some .select ∨ f.type? = some .radio) {options : List Value}
    (hoptions : f.property "options" = .list options) {o : Value} (ho : o ∈ options)
    (hv : o.get? "value" = some v) :
    violations p v = .ok (if v.isText then [] else [.notOfType v .string]) := by
  have htype : f.dataType = .string := by
    unfold Field.dataType
    rcases ht with ht | ht
    · rw [ht]
    · rw [ht]
  unfold Field.schema at hschema
  obtain ⟨ks, hks, hschema⟩ := Attempt.bind_eq_ok.mp hschema
  rw [Field.constraints_of_option ht, Field.optionKeywords, hoptions] at hks
  obtain ⟨values, hvalues, hks⟩ := Attempt.bind_eq_ok.mp hks
  have hlisted : (Keyword.enum values).violation? v = .ok none := by
    have hany : values.any (·.strictlySame v) = true := by
      rw [List.any_eq_true]
      exact ⟨v, (mapM_index_eq_ok hvalues).mpr ⟨o, ho, hv⟩, decide_eq_true rfl⟩
    simp only [Keyword.violation?, hany, Bool.not_true, violationIf, if_neg Bool.false_ne_true]
  have hhelp : ∀ k ∈ ifTruthy (f.property "helpText") .description, k.violation? v = .ok none :=
    forall_mem_ifTruthy.mpr fun _ => rfl
  have hdefault : ∀ k ∈ unlessNull (f.property "defaultValue") .default,
      k.violation? v = .ok none :=
    forall_mem_unlessNull_iff.mpr (Or.inr rfl)
  have hrest : ∀ k ∈ Keyword.title f.label :: (ifTruthy (f.property "helpText") .description ++
      ks ++ unlessNull (f.property "defaultValue") .default), k.violation? v = .ok none := by
    rw [← Except.ok.inj hks, List.forall_mem_cons, List.forall_mem_append, List.forall_mem_append,
      List.forall_mem_cons, List.forall_mem_singleton]
    exact ⟨rfl, ⟨hhelp, hlisted, rfl⟩, hdefault⟩
  rw [← Except.ok.inj hschema, htype, violations_cons_of_forall rfl hrest]
  change Except.ok (violationIf (!v.isText) (.notOfType v .string)).toList = _
  cases v.isText <;> rfl

/-- The value of an option is submitted without an error for the field exactly if it is a text. For
anything else the one error is that of its type, which the compiled property fixes, whatever the
options are. -/
theorem judge_offered (h : form.compile = .ok c) (ha : form.AlwaysShows f)
    (ht : f.type? = some .select ∨ f.type? = some .radio) {options : List Value}
    (hoptions : f.property "options" = .list options) {o : Value} (ho : o ∈ options)
    (hv : o.get? "value" = some v) :
    (∃ verdict, judge c (.map [(f.name, v)]) = .ok verdict) ∧
      ∀ (facts : Facts) (verdict : Verdict), facts.find? f.name = some v →
        judge c (.map facts) = .ok verdict →
        verdict.errors.filter (·.field = f.name) =
          if v.isText then [] else [⟨f.name, .notOfType v .string⟩] := by
  have hc := assembled_of_compile h
  have hfound := violations_of_option (hc.schemas f ha.mem) ht hoptions ho hv
  constructor
  · apply hc.judge_isOk ha.textNames
    intro g hg w hfind
    rw [Table.find?_cons] at hfind
    by_cases hname : f.name == g.name
    · rw [if_pos hname] at hfind
      have hsame := (Value.beq_iff_eq_of_isText (ha.textNames f ha.mem)).mp hname
      rw [ha.own g hg hsame.symm, ← Option.some.inj hfind]
      exact ⟨_, hfound⟩
    · rw [if_neg hname] at hfind
      cases hfind
  · intro facts verdict hfind hverdict
    have hperm := ha.filter_errors hc hfind hfound hverdict
    cases htext : v.isText with
    | true =>
      rw [htext] at hperm
      exact List.perm_nil.mp hperm
    | false =>
      rw [htext] at hperm
      exact List.perm_singleton.mp hperm

end

theorem alwaysShows_poll (typeName : String) (properties : Facts) :
    (poll (question typeName properties)).AlwaysShows (question typeName properties) := by
  have hfields := (standsAlone_poll typeName properties).fields
  constructor
  case mem =>
    rw [hfields]
    exact List.mem_singleton_self _
  case textNames =>
    rw [TextNames, hfields, List.forall_mem_singleton]
    rfl
  case own =>
    rw [hfields, List.forall_mem_singleton]
    exact fun _ => rfl
  all_goals rfl

/-- A choice between a text and a number. -/
def mixedOptions : List Value :=
  [.map [(.text "value", .text "none"), (.text "label", .text "None")],
    .map [(.text "value", .int 1), (.text "label", .text "One")]]

theorem mixed_compiles :
    ∃ c, (poll (question "SELECT" [(.text "options", .list mixedOptions)])).compile = .ok c := by
  apply poll_compiles
  intro _ options hoptions
  cases hoptions
  decide

theorem judge_offered_poll :
    let f := question "SELECT" [(.text "options", .list mixedOptions)]
    let o := Value.map [(.text "value", .text "none"), (.text "label", .text "None")]
    let v := Value.text "none"
    ∃ c, (poll f).compile = .ok c ∧ (poll f).AlwaysShows f ∧ f.type? = some .select ∧
      f.property "options" = .list mixedOptions ∧ o ∈ mixedOptions ∧ o.get? "value" = some v ∧
      (∃ verdict, judge c (.map [(f.name, v)]) = .ok verdict) ∧
      ∀ (facts : Facts) (verdict : Verdict), facts.find? f.name = some v →
        judge c (.map facts) = .ok verdict →
        verdict.errors.filter (·.field = f.name) =
          if v.isText then [] else [⟨f.name, .notOfType v .string⟩] := by
  intro f o v
  obtain ⟨c, hcompile⟩ := mixed_compiles
  have ha : (poll f).AlwaysShows f := alwaysShows_poll _ _
  have ht : f.type? = some .select := by decide
  have ho : o ∈ mixedOptions := List.mem_cons_self
  exact ⟨c, hcompile, ha, ht, rfl, ho, rfl,
    judge_offered hcompile ha (Or.inl ht) rfl ho rfl⟩

/-- The number is offered and refused. -/
theorem not_judge_offered_poll :
    let f := question "SELECT" [(.text "options", .list mixedOptions)]
    let o := Value.map [(.text "value", .int 1), (.text "label", .text "One")]
    let v := Value.int 1
    ∃ c verdict, (poll f).compile = .ok c ∧ (poll f).AlwaysShows f ∧ f.type? = some .select ∧
      f.property "options" = .list mixedOptions ∧ o ∈ mixedOptions ∧ o.get? "value" = some v ∧
      judge c (.map [(f.name, v)]) = .ok verdict ∧
      ¬ verdict.errors.filter (·.field = f.name) = [] := by
  intro f o v
  obtain ⟨c, hcompile⟩ := mixed_compiles
  have hc := assembled_of_compile hcompile
  have ha : (poll f).AlwaysShows f := alwaysShows_poll _ _
  have hstands : (poll f).StandsAlone f := standsAlone_poll _ _
  have ht : f.type? = some .select := by decide
  have ho : o ∈ mixedOptions := List.mem_cons_of_mem _ List.mem_cons_self
  have hfound := violations_of_option (hc.schemas f ha.mem) (Or.inl ht) rfl ho
    (rfl : o.get? "value" = some v)
  obtain ⟨verdict, hverdict, -⟩ := hstands.judge_eq_ok hcompile hfound
  refine ⟨c, verdict, hcompile, ha, ht, rfl, ho, rfl, hverdict, ?_⟩
  intro hnone
  have hperm := ha.filter_errors hc (find?_only f.name v) hfound hverdict
  rw [hnone] at hperm
  exact List.cons_ne_nil _ _ (List.nil_perm.mp hperm)

end ServiceBlueprint.Form
