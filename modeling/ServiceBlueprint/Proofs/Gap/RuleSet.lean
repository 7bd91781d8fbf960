import ServiceBlueprint.Proofs.Gap.RuleDocument

/-!
# Which documents hold rules

A plain document holds rules exactly if it spells rules that can be used. It then holds one rule for
each that is spelt, in the same order and with the same contents. Any other one is refused as a
document, and in no other way.
-/

namespace ServiceBlueprint

namespace Gap

/-! ### Rules that can be used -/

/-- Presence rules have something to match by, coverage rules have something to ask for and types to
ask it of, and all types that are named are known. -/
structure RuleDocument.Usable (d : RuleDocument) : Prop where
  matching : ∀ r ∈ d.missingFields, r.patterns ≠ [] ∨ r.fieldTypes ≠ []
  requiring : ∀ r ∈ d.validationGaps, r.fieldTypes ≠ [] ∧ r.requiredValidation ≠ []
  known : ∀ r ∈ d.missingFields ++ d.validationGaps, ∀ raw ∈ r.fieldTypes,
    ∃ t, FieldType.parse? raw = some t

/-- The types are those that some text of the written rule names. -/
structure PresenceRule.Follows (p : PresenceRule) (r : WrittenRule) : Prop where
  name : p.name = r.name
  description : p.description = r.description
  severity : p.severity = r.severity
  patterns : p.patterns = r.patterns
  types : ∀ t, t ∈ p.types ↔ ∃ raw ∈ r.fieldTypes, FieldType.parse? raw = some t
  once : p.types.Nodup
  fix : p.fix = r.fix.map (·.toFix)
  message : p.message = orText (r.message.getD "") r.description
  suggestion : p.suggestion = r.suggestion.getD ""

structure CoverageRule.Follows (c : CoverageRule) (r : WrittenRule) : Prop where
  name : c.name = r.name
  description : c.description = r.description
  severity : c.severity = r.severity
  types : ∀ t, t ∈ c.types ↔ ∃ raw ∈ r.fieldTypes, FieldType.parse? raw = some t
  once : c.types.Nodup
  anyOf : c.anyOf = r.requiredValidation
  fixValidation : c.fixValidation = r.fixValidation
  messageTemplate : c.messageTemplate = orText (r.message.getD "") r.usualTemplate
  suggestion : c.suggestion = r.suggestion.getD ""

namespace WrittenRule

variable {r : WrittenRule}

theorem types_isOk_iff :
    (∃ types, r.types = .ok types) ↔ ∀ raw ∈ r.fieldTypes, ∃ t, FieldType.parse? raw = some t := by
  refine (Attempt.bind_isOk_iff fun types => ⟨_, rfl⟩).trans ?_
  rw [Attempt.mapM_isOk_iff]
  apply forall₂_congr
  intro raw _
  cases FieldType.parse? raw <;> simp

theorem of_types_eq_ok {types : List FieldType} (h : r.types = .ok types) :
    (∀ t, t ∈ types ↔ ∃ raw ∈ r.fieldTypes, FieldType.parse? raw = some t) ∧ types.Nodup := by
  obtain ⟨parsed, hparsed, h⟩ := Attempt.bind_eq_ok.mp h
  cases h
  refine ⟨?_, nodup_foldl_addUnlessThere (fun t _ => isolated_of_lawful t) List.nodup_nil⟩
  intro t
  rw [mem_foldl_addUnlessThere fun t _ => isolated_of_lawful t, or_iff_right List.not_mem_nil]
  constructor
  · intro ht
    obtain ⟨raw, hraw, hparse⟩ := Attempt.exists_of_mem_mapM hparsed ht
    split at hparse
    next h =>
      cases hparse
      exact ⟨raw, hraw, h⟩
    next => cases hparse
  · rintro ⟨raw, hraw, hparse⟩
    obtain ⟨t', ht', hparse'⟩ := Attempt.exists_mem_of_mapM hparsed hraw
    rw [hparse] at hparse'
    cases hparse'
    exact ht'

theorem toPresence_isOk_iff :
    (∃ p, r.toPresence = .ok p) ↔ (r.patterns ≠ [] ∨ r.fieldTypes ≠ []) ∧
      ∀ raw ∈ r.fieldTypes, ∃ t, FieldType.parse? raw = some t := by
  unfold toPresence
  refine (exists_congr fun p => Attempt.unless_eq_ok_iff).trans ?_
  rw [exists_and_left, Bool.and_eq_false_iff, List.isEmpty_eq_false_iff, List.isEmpty_eq_false_iff]
  exact and_congr_right fun _ =>
    (Attempt.bind_isOk_iff fun types => ⟨_, rfl⟩).trans types_isOk_iff

theorem toCoverage_isOk_iff :
    (∃ c, r.toCoverage = .ok c) ↔ (r.fieldTypes ≠ [] ∧ r.requiredValidation ≠ []) ∧
      ∀ raw ∈ r.fieldTypes, ∃ t, FieldType.parse? raw = some t := by
  unfold toCoverage
  refine (exists_congr fun c => Attempt.unless_eq_ok_iff).trans ?_
  rw [exists_and_left, Bool.or_eq_false_iff, List.isEmpty_eq_false_iff, List.isEmpty_eq_false_iff]
  exact and_congr_right fun _ =>
    (Attempt.bind_isOk_iff fun types => ⟨_, rfl⟩).trans types_isOk_iff

theorem follows_of_toPresence {p : PresenceRule} (h : r.toPresence = .ok p) : p.Follows r := by
  obtain ⟨-, h⟩ := Attempt.unless_eq_ok_iff.mp h
  obtain ⟨types, htypes, h⟩ := Attempt.bind_eq_ok.mp h
  cases h
  obtain ⟨hmem, honce⟩ := of_types_eq_ok htypes
  exact ⟨rfl, rfl, rfl, rfl, hmem, honce, rfl, rfl, rfl⟩

theorem follows_of_toCoverage {c : CoverageRule} (h : r.toCoverage = .ok c) : c.Follows r := by
  obtain ⟨-, h⟩ := Attempt.unless_eq_ok_iff.mp h
  obtain ⟨types, htypes, h⟩ := Attempt.bind_eq_ok.mp h
  cases h
  obtain ⟨hmem, honce⟩ := of_types_eq_ok htypes
  exact ⟨rfl, rfl, rfl, hmem, honce, rfl, rfl, rfl, rfl⟩

end WrittenRule

theorem RuleDocument.toRules_eq_ok_iff {d : RuleDocument} {rules : RuleSet} :
    d.toRules = .ok rules ↔ d.missingFields.mapM (·.toPresence) = .ok rules.presence ∧
      d.validationGaps.mapM (·.toCoverage) = .ok rules.coverage := by
  constructor
  · intro h
    obtain ⟨presence, hpresence, h⟩ := Attempt.bind_eq_ok.mp h
    obtain ⟨coverage, hcoverage, h⟩ := Attempt.bind_eq_ok.mp h
    cases h
    exact ⟨hpresence, hcoverage⟩
  · rintro ⟨hpresence, hcoverage⟩
    exact Attempt.bind_eq_ok.mpr ⟨_, hpresence, Attempt.bind_eq_ok.mpr ⟨_, hcoverage, rfl⟩⟩

theorem RuleDocument.toRules_isOk_iff {d : RuleDocument} :
    (∃ rules, d.toRules = .ok rules) ↔ d.Usable := by
  have hgroups : (∃ rules, d.toRules = .ok rules) ↔
      (∃ presence, d.missingFields.mapM (·.toPresence) = .ok presence) ∧
        ∃ coverage, d.validationGaps.mapM (·.toCoverage) = .ok coverage := by
    simp only [toRules_eq_ok_iff]
    constructor
    · rintro ⟨rules, hpresence, hcoverage⟩
      exact ⟨⟨rules.presence, hpresence⟩, rules.coverage, hcoverage⟩
    · rintro ⟨⟨presence, hpresence⟩, coverage, hcoverage⟩
      exact ⟨⟨presence, coverage⟩, hpresence, hcoverage⟩
  rw [hgroups, Attempt.mapM_isOk_iff, Attempt.mapM_isOk_iff]
  simp only [WrittenRule.toPresence_isOk_iff, WrittenRule.toCoverage_isOk_iff]
  constructor
  · rintro ⟨hpresence, hcoverage⟩
    refine ⟨fun r hr => (hpresence r hr).1, fun r hr => (hcoverage r hr).1, ?_⟩
    intro r hr
    obtain hr | hr := List.mem_append.mp hr
    · exact (hpresence r hr).2
    · exact (hcoverage r hr).2
  · intro h
    exact ⟨fun r hr => ⟨h.matching r hr, h.known r (List.mem_append_left _ hr)⟩,
      fun r hr => ⟨h.requiring r hr, h.known r (List.mem_append_right _ hr)⟩⟩

/-! ### Documents -/

namespace RuleSet

/-- The rules of a set follow the written rules of a document, one each and in order. -/
structure Follows (s : RuleSet) (d : RuleDocument) : Prop where
  presence : List.Forall₂ PresenceRule.Follows s.presence d.missingFields
  coverage : List.Forall₂ CoverageRule.Follows s.coverage d.validationGaps

theorem follows_of_toRules {s : RuleSet} {d : RuleDocument} (h : d.toRules = .ok s) :
    s.Follows d := by
  obtain ⟨hpresence, hcoverage⟩ := RuleDocument.toRules_eq_ok_iff.mp h
  constructor
  · have hpairs := Attempt.mapM_eq_ok_iff.mp hpresence
    exact (hpairs.imp fun _ _ => WrittenRule.follows_of_toPresence).flip
  · have hpairs := Attempt.mapM_eq_ok_iff.mp hcoverage
    exact (hpairs.imp fun _ _ => WrittenRule.follows_of_toCoverage).flip

theorem ofDocument_eq_ok_iff {document : Value} {s : RuleSet} :
    ofDocument document = .ok s ↔
      ∃ d, (RuleDocument.check document).result = some d ∧ d.toRules = .ok s := by
  unfold ofDocument
  dsimp only
  cases (RuleDocument.check document).result with
  | none => simp
  | some d => simp

theorem ofMarkup_eq {content : String} {document : Value}
    (hread : Markup.read content = .ok document) :
    ofMarkup content = asFault (ofDocument document) := by
  rw [ofMarkup, hread]

theorem asFault_eq_ok_iff {α : Type} {x : Except RulesError α} {a : α} :
    asFault x = .ok a ↔ x = .ok a := by
  cases x <;> simp [asFault]

theorem exists_eq_rules_of_asFault {α : Type} {x : Except RulesError α} {f : Fault}
    (h : asFault x = .error f) : ∃ e, f = .rules e := by
  cases x with
  | ok a => cases h
  | error e =>
    cases h
    exact ⟨e, rfl⟩

/-- A plain document holds rules exactly if it spells rules that can be used, and then rules that
follow these. Otherwise it is refused as a document of rules. -/
theorem ofMarkup_spelt {content : String} {document : Value}
    (hread : Markup.read content = .ok document) (hplain : document.isPlain = true) :
    ((∃ s, ofMarkup content = .ok s) ↔ ∃ d, SpellsDocument document d ∧ d.Usable) ∧
      (∀ f, ofMarkup content = .error f → ∃ e, f = .rules e) ∧
      ∀ s, ofMarkup content = .ok s → ∀ d, SpellsDocument document d → s.Follows d := by
  have hrules (s : RuleSet) :
      ofMarkup content = .ok s ↔ ∃ d, SpellsDocument document d ∧ d.toRules = .ok s := by
    rw [ofMarkup_eq hread, asFault_eq_ok_iff, ofDocument_eq_ok_iff]
    simp only [checks_document document hplain]
  refine ⟨?_, ?_, ?_⟩
  · simp only [hrules, ← RuleDocument.toRules_isOk_iff]
    rw [exists_comm]
    simp only [exists_and_left]
  · intro f hf
    rw [ofMarkup_eq hread] at hf
    exact exists_eq_rules_of_asFault hf
  · intro s hs d hd
    obtain ⟨d', hd', hs⟩ := (hrules s).mp hs
    rw [← checks_document document hplain] at hd hd'
    rw [hd] at hd'
    cases hd'
    exact follows_of_toRules hs

/-- A document with one presence rule, which matches by type. -/
def permitText : String :=
  "rules: \x7bmissing_fields: [\x7bname: permit, description: wanted, severity: warning, " ++
    "fieldTypes: [tel]\x7d]\x7d"

def permitValue : Value :=
  let entry : Value := .map [(.text "name", .text "permit"), (.text "description", .text "wanted"),
    (.text "severity", .text "warning"), (.text "fieldTypes", .list [.text "tel"])]
  .map [(.text "rules", .map [(.text "missing_fields", .list [entry])])]

def permitDocument : RuleDocument :=
  ⟨[⟨"permit", "wanted", .warning, [], ["tel"], [], none, none, none⟩], []⟩

theorem read_permitText : Markup.read permitText = .ok permitValue := by
  have hread : (Markup.read permitText).toOption = some permitValue := by decide +kernel
  cases h : Markup.read permitText with
  | error e =>
    rw [h] at hread
    cases hread
  | ok v =>
    rw [h] at hread
    exact congrArg Except.ok (Option.some.inj hread)

theorem spells_permitDocument : SpellsDocument permitValue permitDocument := by
  refine ⟨_, rfl, rfl, ⟨_, rfl, .cons ?_ .nil⟩, rfl⟩
  exact ⟨rfl, rfl, rfl, rfl, ⟨_, rfl, .cons rfl .nil⟩, rfl, rfl, rfl, rfl⟩

theorem usable_permitDocument : permitDocument.Usable := by
  refine ⟨?_, ?_, ?_⟩
  · intro r hr
    cases List.mem_singleton.mp hr
    exact Or.inr (List.cons_ne_nil _ _)
  · exact fun r hr => absurd hr List.not_mem_nil
  · intro r hr raw hraw
    cases List.mem_singleton.mp hr
    cases List.mem_singleton.mp hraw
    exact ⟨.phone, by decide +kernel⟩

theorem ofMarkup_spelt_permit :
    Markup.read permitText = .ok permitValue ∧ permitValue.isPlain = true ∧
      SpellsDocument permitValue permitDocument ∧ permitDocument.Usable ∧
      ∃ s, ofMarkup permitText = .ok s ∧ s.Follows permitDocument := by
  have hplain : permitValue.isPlain = true := by decide
  obtain ⟨hholds, -, hfollows⟩ := ofMarkup_spelt read_permitText hplain
  obtain ⟨s, hs⟩ := hholds.mpr ⟨permitDocument, spells_permitDocument, usable_permitDocument⟩
  exact ⟨read_permitText, hplain, spells_permitDocument, usable_permitDocument, s, hs,
    hfollows s hs permitDocument spells_permitDocument⟩

end RuleSet

end Gap

end ServiceBlueprint
