import Mathlib
import ServiceBlueprint.Proofs.Gap.Analysis
import ServiceBlueprint.Proofs.Table

/-!
# Fixes settle what they are for

The fixes that come with the library are applied in two rounds: first the fields that are missing
are added to the first form, then the validations that are missing are merged into the fields. After
that no analysis finds a missing field or a missing validation.
-/

namespace ServiceBlueprint

namespace Gap

/-! ### Applying fixes -/

/-- A parameter of the fix of a gap. -/
def param (g : Gap) (key : String) : Value :=
  (g.fix.bind fun f => Table.find? f.params (.text key)).getD .null

/-- The validation among the parameters of the fix of a gap. -/
def suggestedValidation (g : Gap) : Table Value Value :=
  match g.param "validation" with
  | .map es => es
  | _ => []

/-- The field that the fix of a gap adds, under any id. -/
def suggestedField (g : Gap) (id : Value) : Service.Field where
  id := id
  name := g.param "fieldName"
  type := g.param "fieldType"
  required := false
  validation := g.suggestedValidation
  sectionId := .null

/-- One field for each missing field that is reported. -/
def Report.newFields (r : Report) (id : Gap → Value) : List Service.Field :=
  (r.allGaps.filter (·.kind = .missingField)).map fun g => g.suggestedField (id g)

/-- The gaps of validation that are reported for a field. -/
def Report.coverageGapsOf (r : Report) (f : Service.Field) : List Gap :=
  r.allGaps.filter fun g => g.kind = .missingValidation && g.location.id == f.id

/-- Entries put into a table, in place of those under the same keys. -/
def override (t entries : Table Value Value) : Table Value Value :=
  entries.foldl (fun t e => t.insert e.1 e.2) t

end Gap

open Gap (Report override)

/-- The service with more fields at the end of its first form, outside of the sections. -/
def Service.withFields (s : Service) (fields : List Service.Field) : Service :=
  match s.forms with
  | [] => s
  | first :: rest =>
    { s with forms := { first with fields := first.fields ++ fields } :: rest }

/-- The field with the validations of all gaps that are reported for it. -/
def Service.Field.covered (f : Service.Field) (r : Report) : Service.Field :=
  { f with
    validation :=
      override f.validation ((r.coverageGapsOf f).flatMap (·.suggestedValidation)) }

def Service.Form.covered (form : Service.Form) (r : Report) : Service.Form :=
  { form with
    fields := form.fields.map (·.covered r)
    sections := form.sections.map fun sec => { sec with fields := sec.fields.map (·.covered r) } }

/-- The service with the validations of the gaps of a report in all its fields. -/
def Service.covered (s : Service) (r : Report) : Service :=
  { s with forms := s.forms.map (·.covered r) }

namespace Service

variable {s : Service} {fields : List Field}

theorem flow_withFields : (s.withFields fields).flow = s.flow := by
  unfold withFields
  split <;> rfl

theorem mem_allFields_withFields {f : Field} :
    f ∈ (s.withFields fields).allFields ↔ f ∈ s.allFields ∨ f ∈ fields ∧ s.forms ≠ [] := by
  unfold withFields
  split
  next h => simp [allFields, h]
  next first rest h =>
    simp only [allFields, h, List.flatMap_cons, Form.allFields, List.mem_append, ne_eq,
      List.cons_ne_nil, not_false_eq_true, and_true]
    tauto

theorem allFields_covered (r : Report) :
    (s.covered r).allFields = s.allFields.map (·.covered r) := by
  have hform (form : Form) : (form.covered r).allFields = form.allFields.map (·.covered r) := by
    simp [Form.allFields, Form.covered, List.flatMap_map, List.map_flatMap]
  simp [allFields, covered, List.flatMap_map, List.map_flatMap, hform]

end Service

namespace Gap

variable {s : Service}

/-! ### The rules that come with the library -/

/-- The fix of a rule adds a field with a name that the rule looks for. -/
structure PresenceRule.Remedied (r : PresenceRule) (name type : String)
    (validation : List (String × Value)) : Prop where
  fix : r.fix = some (.addField name type validation)
  name : r.matchesName name = true

theorem remedied_of_builtIn {r : PresenceRule}
    (h : r ∈ defaultPresenceRules ++ businessPresenceRules) :
    ∃ name type validation, r.Remedied name type validation := by
  simp only [defaultPresenceRules, businessPresenceRules, List.cons_append, List.nil_append,
    List.mem_cons, List.not_mem_nil, or_false] at h
  rcases h with rfl | rfl | rfl | rfl | rfl | rfl <;> exact ⟨_, _, _, rfl, by decide +kernel⟩

theorem builtIn_of_presenceRulesFor {type : Value} {rules : List PresenceRule}
    (h : presenceRulesFor type = .ok rules) {r : PresenceRule} (hr : r ∈ rules) :
    r ∈ defaultPresenceRules ++ businessPresenceRules := by
  unfold presenceRulesFor at h
  split at h
  · split at h
    · cases h
      split at hr
      · exact hr
      · exact List.mem_append_left _ hr
    · cases h
  · cases h
    exact List.mem_append_left _ hr

theorem builtIn_of_mem_presenceRules {o : Options} (hcustom : o.customRules = [])
    {rules : List PresenceRule} (h : o.presenceRules = .ok rules) {r : PresenceRule}
    (hr : r ∈ rules) : r ∈ defaultPresenceRules ++ businessPresenceRules := by
  obtain ⟨builtIn, hbuiltIn, h⟩ := Attempt.bind_eq_ok.mp h
  cases h
  rw [hcustom] at hr
  exact builtIn_of_presenceRulesFor hbuiltIn (by simpa using mem_of_mem_mergeRules hr)

/-- The fix of a rule sets a key that the rule asks for. -/
structure CoverageRule.Remedied (r : CoverageRule) (validation : Table Value Value) : Prop where
  fix : r.fixValidation = some validation
  key : ∃ key ∈ r.anyOf, ∃ e ∈ validation, (e.1 == .text key) = true
  set : ∀ e ∈ validation, isSet (some e.2) = true

theorem remedied_of_default {r : CoverageRule} (h : r ∈ defaultCoverageRules) :
    ∃ validation, r.Remedied validation := by
  simp only [defaultCoverageRules, List.mem_cons, List.not_mem_nil, or_false] at h
  rcases h with rfl | rfl | rfl | rfl <;>
    exact ⟨_, rfl, ⟨_, List.mem_cons_self, _, List.mem_cons_self, BEq.rfl⟩, by decide +kernel⟩

theorem default_of_mem_coverageRules {o : Options} (hcustom : o.customCoverageRules = [])
    {r : CoverageRule} (hr : r ∈ o.coverageRules) : r ∈ defaultCoverageRules := by
  rw [Options.coverageRules, hcustom] at hr
  simpa using mem_of_mem_mergeRules hr

/-! ### Coverage is kept -/

/-- What is set stays so, and each key of an entry becomes so. -/
theorem isSet_override {t entries : Table Value Value} {k : Value}
    (hentries : ∀ e ∈ entries, isSet (some e.2) = true)
    (hk : isSet (t.find? k) = true ∨ ∃ e ∈ entries, (e.1 == k) = true) :
    isSet ((override t entries).find? k) = true := by
  induction entries generalizing t with
  | nil =>
    rcases hk with hk | ⟨e, he, -⟩
    · exact hk
    · exact absurd he List.not_mem_nil
  | cons first entries ih =>
    obtain ⟨hfirst, hrest⟩ := List.forall_mem_cons.mp hentries
    refine ih hrest ?_
    rw [Table.find?_insert]
    rcases hk with hk | ⟨e, he, hek⟩
    · left
      split
      · exact hfirst
      · exact hk
    · rcases List.mem_cons.mp he with rfl | he
      · left
        rwa [if_pos hek]
      · exact Or.inr ⟨e, he, hek⟩

/-! ### Gaps in a report -/

theorem mem_allGaps_number {t : Timestamp} {gaps : List Gap} {g : Gap} :
    g ∈ (Report.mk t (number gaps)).allGaps ↔ ∃ e ∈ gaps.zipIdx, numbered e = g := by
  rw [← List.mem_map]
  exact (holds_number t gaps).once.mem_iff

theorem exists_of_mem_allGaps {t : Timestamp} {gaps : List Gap} {g : Gap}
    (h : g ∈ (Report.mk t (number gaps)).allGaps) :
    ∃ found ∈ gaps, ∃ n, numbered (found, n) = g := by
  obtain ⟨e, he, rfl⟩ := mem_allGaps_number.mp h
  exact ⟨e.1, List.fst_mem_of_mem_zipIdx he, e.2, rfl⟩

theorem exists_mem_allGaps (t : Timestamp) {gaps : List Gap} {found : Gap} (h : found ∈ gaps) :
    ∃ n, numbered (found, n) ∈ (Report.mk t (number gaps)).allGaps := by
  obtain ⟨n, hn, rfl⟩ := List.mem_iff_getElem.mp h
  exact ⟨n, mem_allGaps_number.mpr ⟨_, List.mem_zipIdx_iff_getElem?.mpr (by simp [hn]), rfl⟩⟩

/-! ### What the families find -/

section

variable {o : Options} {gaps : List Gap} {g : Gap}

theorem of_mem_when {asked : Bool} {family : Attempt (List Gap)}
    (h : when asked family = .ok gaps) (hg : g ∈ gaps) : asked = true ∧ family = .ok gaps := by
  cases asked with
  | false =>
    cases h
    exact absurd hg List.not_mem_nil
  | true => exact ⟨rfl, h⟩

theorem exists_rule_of_mem_missingFields (hs : s.Textual) (h : missingFields o s = .ok gaps)
    (hg : g ∈ gaps) :
    ∃ first rules, o.presenceRules = .ok rules ∧ ∃ r ∈ rules, presenceGap first r = g := by
  cases hforms : s.forms with
  | nil =>
    rw [missingFields, hforms] at h
    cases h
    exact absurd hg List.not_mem_nil
  | cons first rest =>
    have hasked := h
    rw [missingFields, hforms] at hasked
    obtain ⟨rules, hrules, -⟩ := Attempt.bind_eq_ok.mp hasked
    rw [missingFields_eq hs hforms hrules] at h
    cases h
    obtain ⟨r, hr, rfl⟩ := List.mem_map.mp hg
    exact ⟨first, rules, hrules, r, List.mem_of_mem_filter hr, rfl⟩

theorem kind_of_mem_validationGaps (hs : s.Textual) (h : validationGaps o s = .ok gaps)
    (hg : g ∈ gaps) : g.kind = .missingValidation := by
  obtain ⟨p, -, r, -, -, hgap⟩ := (mem_validationGaps_iff hs h).mp hg
  obtain ⟨name, -, hkind, -⟩ := coverageGap_eq_ok hgap
  exact hkind

theorem kind_of_mem_workflowGaps (h : workflowGaps s = .ok gaps) (hg : g ∈ gaps) :
    ∃ r : TopologyRule, g.kind = r.kind := by
  unfold workflowGaps at h
  split at h
  · cases h
    exact absurd hg List.not_mem_nil
  · obtain ⟨found, hfound, h⟩ := Attempt.bind_eq_ok.mp h
    cases h
    obtain ⟨lists, hlists, hg⟩ := List.mem_flatten.mp hg
    obtain ⟨r, -, hr⟩ := Attempt.exists_of_mem_mapM hfound hlists
    obtain ⟨findings, -, hr⟩ := Attempt.bind_eq_ok.mp hr
    cases hr
    obtain ⟨finding, -, rfl⟩ := List.mem_map.mp hg
    exact ⟨r, rfl⟩

/-- The kind of a gap tells the family that found it. -/
theorem Findings.Of.mem_family {x : Findings} (hs : s.Textual) (hx : x.Of o s) (hg : g ∈ x.all) :
    (g.kind = .missingField → g ∈ x.missing) ∧
      (g.kind = .missingValidation → g ∈ x.uncovered) := by
  rw [all, List.mem_append, List.mem_append] at hg
  rcases hg with (hg | hg) | hg
  · obtain ⟨first, -, -, r, -, rfl⟩ :=
      exists_rule_of_mem_missingFields hs (of_mem_when hx.missing hg).2 hg
    exact ⟨fun _ => hg, fun h => (by cases h)⟩
  · have hkind := kind_of_mem_validationGaps hs (of_mem_when hx.uncovered hg).2 hg
    exact ⟨fun h => (by cases h.symm.trans hkind), fun _ => hg⟩
  · obtain ⟨r, hr⟩ := kind_of_mem_workflowGaps (of_mem_when hx.unconnected hg).2 hg
    rw [hr]
    exact ⟨fun h => (by cases r <;> cases h), fun h => (by cases r <;> cases h)⟩

end

/-! ### The two rounds -/

section

variable {o : Options}

/-- Each rule finds the field that it asks for. -/
def Complete (o : Options) (s : Service) : Prop :=
  ∀ rules, o.presenceRules = .ok rules → ∀ r ∈ rules, ∃ f ∈ s.allFields, r.fits f = true

/-- No rule that applies to a field is unsatisfied. -/
def Covered (o : Options) (s : Service) : Prop :=
  ∀ f ∈ s.allFields, ∀ r ∈ o.coverageRules, ¬ r.Broken f

theorem missingFields_eq_nil (hs : s.Textual)
    (ho : o.serviceType = .null ∨ o.serviceType.isText = true) (hcomplete : Complete o s) :
    missingFields o s = .ok [] := by
  cases hforms : s.forms with
  | nil =>
    rw [missingFields, hforms]
  | cons first rest =>
    obtain ⟨rules, hrules⟩ := presenceRules_isOk ho
    have hkept : (rules.filter fun r => !s.allFields.any r.fits) = [] := by
      rw [List.filter_eq_nil_iff]
      intro r hr
      obtain ⟨f, hf, hfits⟩ := hcomplete rules hrules r hr
      simpa using ⟨f, hf, hfits⟩
    rw [missingFields_eq hs hforms hrules, hkept]
    rfl

theorem validationGaps_eq_nil {gaps : List Gap} (hs : s.Textual) (hcovered : Covered o s)
    (h : validationGaps o s = .ok gaps) : gaps = [] := by
  apply List.eq_nil_iff_forall_not_mem.mpr
  intro g hg
  obtain ⟨p, hp, r, hr, hbroken, -⟩ := (mem_validationGaps_iff hs h).mp hg
  exact hcovered p.field (mem_allFields_of_placedFields hp) r hr hbroken

/-- A field that is suggested by a rule has texts for its name and its type, and is found by it. -/
theorem PresenceRule.Remedied.fits {r : PresenceRule} {name type : String}
    {validation : List (String × Value)} (h : r.Remedied name type validation)
    (first : Service.Form) (id : Value) :
    ((presenceGap first r).suggestedField id).name = .text name ∧
      ((presenceGap first r).suggestedField id).type = .text type ∧
      r.fits ((presenceGap first r).suggestedField id) = true := by
  have hfix : (presenceGap first r).fix = some (.addField name type validation) := h.fix
  have hname : ((presenceGap first r).suggestedField id).name = .text name := by
    unfold suggestedField param
    rw [hfix]
    rfl
  have htype : ((presenceGap first r).suggestedField id).type = .text type := by
    unfold suggestedField param
    rw [hfix]
    rfl
  refine ⟨hname, htype, ?_⟩
  rw [PresenceRule.fits, matchesField, hname]
  dsimp only
  rw [if_pos h.name]
  rfl

theorem CoverageRule.Remedied.suggestedValidation {r : CoverageRule}
    {validation : Table Value Value} (h : r.Remedied validation) {g : Gap} {f : Service.Field}
    {name : String} (hg : g.fix = coverageFix r f name) : g.suggestedValidation = validation := by
  have hparam : g.param "validation" = .map validation := by
    unfold param
    rw [hg, coverageFix, h.fix]
    rfl
  rw [Gap.suggestedValidation, hparam]

variable {t : Timestamp} {x : Findings} {id : Gap → Value}

/-- The added fields are those that are suggested for the fields found missing. -/
theorem mem_newFields (hs : s.Textual) (hx : x.Of o s) {f : Service.Field} :
    f ∈ (Report.mk t (number x.all)).newFields id →
      ∃ found ∈ x.missing, ∃ v, found.suggestedField v = f := by
  intro hf
  obtain ⟨g, hg, rfl⟩ := List.mem_map.mp hf
  obtain ⟨hg, hkind⟩ := List.mem_filter.mp hg
  obtain ⟨found, hfound, n, rfl⟩ := exists_of_mem_allGaps hg
  exact ⟨found, (hx.mem_family hs hfound).1 (of_decide_eq_true hkind), _, rfl⟩

theorem exists_mem_newFields (t : Timestamp) (id : Gap → Value) (hs : s.Textual) (hx : x.Of o s)
    {found : Gap} (hfound : found ∈ x.missing) :
    ∃ v, found.suggestedField v ∈ (Report.mk t (number x.all)).newFields id := by
  have hall : found ∈ x.all := List.mem_append_left _ (List.mem_append_left _ hfound)
  obtain ⟨n, hn⟩ := exists_mem_allGaps t hall
  obtain ⟨first, -, -, r, -, rfl⟩ :=
    exists_rule_of_mem_missingFields hs (of_mem_when hx.missing hfound).2 hfound
  exact ⟨_, List.mem_map.mpr ⟨_, List.mem_filter.mpr ⟨hn, decide_eq_true rfl⟩, rfl⟩⟩

theorem textual_withFields (hcustom : o.customRules = []) (hs : s.Textual) (hx : x.Of o s) :
    (s.withFields ((Report.mk t (number x.all)).newFields id)).Textual := by
  intro f hf
  rcases Service.mem_allFields_withFields.mp hf with hf | ⟨hf, -⟩
  · exact hs f hf
  · obtain ⟨found, hfound, v, rfl⟩ := mem_newFields hs hx hf
    obtain ⟨first, rules, hrules, r, hr, rfl⟩ :=
      exists_rule_of_mem_missingFields hs (of_mem_when hx.missing hfound).2 hfound
    obtain ⟨name, type, validation, hremedied⟩ :=
      remedied_of_builtIn (builtIn_of_mem_presenceRules hcustom hrules hr)
    obtain ⟨hname, htype, -⟩ := hremedied.fits first v
    rw [hname, htype]
    exact ⟨rfl, rfl⟩

/-- After the first round each rule finds a field: one that was there, or the one it suggested. -/
theorem complete_withFields (hcustom : o.customRules = []) (hs : s.Textual)
    (hforms : s.forms ≠ []) (hx : x.Of o s) (hasked : o.checkFields = true) :
    Complete o (s.withFields ((Report.mk t (number x.all)).newFields id)) := by
  intro rules hrules r hr
  by_cases hthere : ∃ f ∈ s.allFields, r.fits f = true
  · obtain ⟨f, hf, hfits⟩ := hthere
    exact ⟨f, Service.mem_allFields_withFields.mpr (Or.inl hf), hfits⟩
  · obtain ⟨first, rest, hfirst⟩ := List.exists_cons_of_ne_nil hforms
    have hmissing := hx.missing
    rw [hasked] at hmissing
    have hfound : presenceGap first r ∈ x.missing := by
      rw [← Except.ok.inj ((missingFields_eq hs hfirst hrules).symm.trans hmissing)]
      refine List.mem_map_of_mem (List.mem_filter.mpr ⟨hr, ?_⟩)
      simpa using hthere
    obtain ⟨v, hv⟩ := exists_mem_newFields t id hs hx hfound
    obtain ⟨name, type, validation, hremedied⟩ :=
      remedied_of_builtIn (builtIn_of_mem_presenceRules hcustom hrules hr)
    obtain ⟨-, -, hfits⟩ := hremedied.fits first v
    exact ⟨_, Service.mem_allFields_withFields.mpr (Or.inr ⟨hv, hforms⟩), hfits⟩

theorem textual_covered {r : Report} (hs : s.Textual) : (s.covered r).Textual := by
  rw [Service.Textual, Service.allFields_covered]
  exact List.forall_mem_map.mpr hs

theorem Complete.covered {r : Report} (h : Complete o s) : Complete o (s.covered r) := by
  intro rules hrules rule hrule
  obtain ⟨f, hf, hfits⟩ := h rules hrules rule hrule
  rw [Service.allFields_covered]
  exact ⟨f.covered r, List.mem_map_of_mem hf, hfits⟩

/-- What a report suggests for a field is set. -/
theorem isSet_of_mem_coverageGapsOf (hcustom : o.customCoverageRules = []) (hs : s.Textual)
    (hx : x.Of o s) {f : Service.Field} :
    ∀ e ∈ ((Report.mk t (number x.all)).coverageGapsOf f).flatMap (·.suggestedValidation),
      isSet (some e.2) = true := by
  intro e he
  obtain ⟨g, hg, he⟩ := List.mem_flatMap.mp he
  obtain ⟨hg, hkind⟩ := List.mem_filter.mp hg
  obtain ⟨found, hfound, n, rfl⟩ := exists_of_mem_allGaps hg
  have huncovered := (hx.mem_family hs hfound).2
    (of_decide_eq_true (Bool.and_eq_true_iff.mp hkind).1)
  obtain ⟨p, -, r, hr, -, hgap⟩ :=
    (mem_validationGaps_iff hs (of_mem_when hx.uncovered huncovered).2).mp huncovered
  obtain ⟨name, -, -, -, hfix⟩ := coverageGap_eq_ok hgap
  obtain ⟨validation, hremedied⟩ := remedied_of_default (default_of_mem_coverageRules hcustom hr)
  have hsuggested : (numbered (found, n)).suggestedValidation = validation :=
    hremedied.suggestedValidation hfix
  rw [hsuggested] at he
  exact hremedied.set e he

/-- The gap of each rule that is broken is reported for the field. -/
theorem exists_mem_coverageGapsOf (t : Timestamp) (hs : s.Textual) (hx : x.Of o s)
    (hasked : o.checkValidation = true) {f : Service.Field} (hf : f ∈ s.allFields)
    {r : CoverageRule} (hr : r ∈ o.coverageRules) (hbroken : r.Broken f) :
    ∃ g ∈ (Report.mk t (number x.all)).coverageGapsOf f, ∃ name, g.fix = coverageFix r f name := by
  obtain ⟨p, hp, rfl⟩ := exists_placed hf
  obtain ⟨name, hname⟩ := Value.exists_eq_text (hs p.field hf).1
  obtain ⟨found, hgap⟩ : ∃ found, coverageGap r p = .ok found := by
    rw [coverageGap, hname]
    exact ⟨_, rfl⟩
  have hgaps := hx.uncovered
  rw [hasked] at hgaps
  have huncovered : found ∈ x.uncovered :=
    (mem_validationGaps_iff hs hgaps).mpr ⟨p, hp, r, hr, hbroken, hgap⟩
  have hall : found ∈ x.all := List.mem_append_left _ (List.mem_append_right _ huncovered)
  obtain ⟨n, hn⟩ := exists_mem_allGaps t hall
  obtain ⟨name, -, hkind, hid, hfix⟩ := coverageGap_eq_ok hgap
  refine ⟨_, List.mem_filter.mpr ⟨hn, ?_⟩, name, hfix⟩
  rw [Bool.and_eq_true]
  exact ⟨decide_eq_true hkind, hid ▸ BEq.rfl⟩

/-- After the second round a rule that applies to a field is satisfied: it was before, or one of its
keys was set for it. -/
theorem covered_covered (hcustom : o.customCoverageRules = []) (hs : s.Textual) (hx : x.Of o s)
    (hasked : o.checkValidation = true) : Covered o (s.covered ⟨t, number x.all⟩) := by
  rw [Covered, Service.allFields_covered, List.forall_mem_map]
  intro f hf r hr hbroken
  have hset := isSet_of_mem_coverageGapsOf (t := t) hcustom hs hx (f := f)
  have hsatisfied : r.isSatisfied (f.covered ⟨t, number x.all⟩) = true := by
    rw [CoverageRule.isSatisfied_iff]
    by_cases hthere : r.isSatisfied f = true
    · obtain ⟨key, hkey, hkeyset⟩ := CoverageRule.isSatisfied_iff.mp hthere
      exact ⟨key, hkey, isSet_override hset (Or.inl hkeyset)⟩
    · obtain ⟨validation, hremedied⟩ :=
        remedied_of_default (default_of_mem_coverageRules hcustom hr)
      obtain ⟨key, hkey, e, he, hekey⟩ := hremedied.key
      obtain ⟨g, hg, name, hfix⟩ := exists_mem_coverageGapsOf t hs hx hasked hf hr
        ⟨hbroken.applies, Bool.eq_false_iff.mpr hthere⟩
      have hsuggested : e ∈ g.suggestedValidation := by
        rwa [hremedied.suggestedValidation hfix]
      exact ⟨key, hkey, isSet_override hset
        (Or.inr ⟨e, List.mem_flatMap.mpr ⟨g, hg, hsuggested⟩, hekey⟩)⟩
  exact absurd hsatisfied (Bool.eq_false_iff.mp hbroken.unsatisfied)

theorem fixes_converge (hrules : o.customRules = []) (hcoverage : o.customCoverageRules = [])
    (ho : o.serviceType = .null ∨ o.serviceType.isText = true) (hforms : s.forms ≠ [])
    (hs : s.Textual) (hflow : o.checkWorkflow = true → ∀ p, s.flow = some p → Keyed p)
    (id : Gap → Value) (t t' t'' : Timestamp) :
    ∃ r r' r'', analyze o s t = .ok r ∧
      analyze o (s.withFields (r.newFields id)) t' = .ok r' ∧
      analyze o ((s.withFields (r.newFields id)).covered r') t'' = .ok r'' ∧
      ∀ g ∈ r''.allGaps, g.kind ≠ .missingField ∧ g.kind ≠ .missingValidation := by
  obtain ⟨r, hr⟩ := (analyze_isOk_iff hs ho t).mpr hflow
  obtain ⟨x, hx, rfl⟩ := analyze_eq_ok_iff.mp hr
  let s' := s.withFields ((Report.mk t (number x.all)).newFields id)
  have hs' : s'.Textual := textual_withFields hrules hs hx
  have hflow' : o.checkWorkflow = true → ∀ p, s'.flow = some p → Keyed p := by
    rwa [Service.flow_withFields]
  obtain ⟨r', hr'⟩ := (analyze_isOk_iff hs' ho t').mpr hflow'
  obtain ⟨x', hx', rfl⟩ := analyze_eq_ok_iff.mp hr'
  let s'' := s'.covered ⟨t', number x'.all⟩
  have hs'' : s''.Textual := textual_covered hs'
  obtain ⟨r'', hr''⟩ := (analyze_isOk_iff hs'' ho t'').mpr hflow'
  obtain ⟨x'', hx'', rfl⟩ := analyze_eq_ok_iff.mp hr''
  refine ⟨_, _, _, hr, hr', hr'', ?_⟩
  intro g hg
  obtain ⟨found, hfound, n, rfl⟩ := exists_of_mem_allGaps hg
  obtain ⟨hfield, hvalidation⟩ := hx''.mem_family hs'' hfound
  constructor
  · intro hkind
    have hmissing := hfield hkind
    obtain ⟨hasked, hgaps⟩ := of_mem_when hx''.missing hmissing
    have hcomplete : Complete o s'' := (complete_withFields hrules hs hforms hx hasked).covered
    have hnone := hgaps.symm.trans (missingFields_eq_nil hs'' ho hcomplete)
    rw [Except.ok.inj hnone] at hmissing
    exact absurd hmissing List.not_mem_nil
  · intro hkind
    have huncovered := hvalidation hkind
    obtain ⟨hasked, hgaps⟩ := of_mem_when hx''.uncovered huncovered
    have hcovered : Covered o s'' := covered_covered hcoverage hs' hx' hasked
    rw [validationGaps_eq_nil hs'' hcovered hgaps] at huncovered
    exact absurd huncovered List.not_mem_nil

end

/-! ### A bakery that is a business -/

def businessOptions : Options :=
  { fullOptions with customRules := [], serviceType := .text "business_registration" }

theorem length_newFields_bakery {r : Report} (h : analyze businessOptions bakery noon = .ok r) :
    (r.newFields fun g => .text g.id).length = 4 := by
  have hrun : (analyze businessOptions bakery noon).toOption.map
      (fun (r : Report) => (r.newFields fun g => .text g.id).length) = some 4 := by
    decide +kernel
  rw [h] at hrun
  exact Option.some.inj hrun

/-- Four fields are added, and the last analysis finds gaps in the flow only. -/
theorem fixes_converge_bakery :
    businessOptions.customRules = [] ∧ businessOptions.customCoverageRules = [] ∧
      businessOptions.serviceType.isText = true ∧ bakery.forms ≠ [] ∧ bakery.Textual ∧
      (∀ p, bakery.flow = some p → Keyed p) ∧
      ∃ (r r' r'' : Report) (fields : List Service.Field),
        analyze businessOptions bakery noon = .ok r ∧
        r.newFields (fun g => .text g.id) = fields ∧ fields.length = 4 ∧
        analyze businessOptions (bakery.withFields fields) noon = .ok r' ∧
        analyze businessOptions ((bakery.withFields fields).covered r') noon = .ok r'' ∧
        ∀ g ∈ r''.allGaps, g.kind ≠ .missingField ∧ g.kind ≠ .missingValidation := by
  have hforms : bakery.forms ≠ [] := List.cons_ne_nil _ _
  obtain ⟨r, r', r'', hr, hr', hr'', hsettled⟩ :=
    fixes_converge (o := businessOptions) rfl rfl (Or.inr rfl) hforms textual_bakery
      (fun _ => keyed_bakery) (fun g => .text g.id) noon noon noon
  exact ⟨rfl, rfl, rfl, hforms, textual_bakery, keyed_bakery, r, r', r'', _, hr, rfl,
    length_newFields_bakery hr, hr', hr'', hsettled⟩

end Gap

end ServiceBlueprint
