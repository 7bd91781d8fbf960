import Mathlib
import ServiceBlueprint.Gap.Analysis
import ServiceBlueprint.Proofs.Attempt
import ServiceBlueprint.Proofs.Gap.MergedRules
import ServiceBlueprint.Proofs.Service.Fields
import ServiceBlueprint.Proofs.Value.Text

/-!
# Missing fields as a service grows

A presence rule is kept exactly if it matches some field of the service, wherever that is, and
there is one gap for each rule that is not. As a service grows no field goes, so no rule that was
kept is broken, and a gap that was found goes exactly if its rule matches a field by now.
-/

namespace ServiceBlueprint

namespace Gap

/-! ### What a rule matches -/

section

variable {r : PresenceRule} {f : Service.Field}

/-- The name contains a pattern, in whatever letter case, or the type is among the types. -/
def PresenceRule.Matches (r : PresenceRule) (f : Service.Field) : Prop :=
  (∃ name, f.name = .text name ∧
      ∃ p ∈ r.patterns, (Text.lower p).toList <:+: (Text.lower name).toList) ∨
    ∃ type t, f.type = .text type ∧ FieldType.parse? type = some t ∧ t ∈ r.types

theorem PresenceRule.matchesField_isOk (r : PresenceRule) (hname : f.name.isText = true)
    (htype : f.type.isText = true) :
    ∃ b, r.matchesField f = .ok b := by
  obtain ⟨name, hname⟩ := Value.exists_eq_text hname
  obtain ⟨type, htype⟩ := Value.exists_eq_text htype
  unfold PresenceRule.matchesField
  rw [hname, htype]
  dsimp only
  split
  · exact ⟨_, rfl⟩
  · split <;> exact ⟨_, rfl⟩

/-- Whether a rule finds what it asks for in a field whose name and type are texts. -/
def PresenceRule.fits (r : PresenceRule) (f : Service.Field) : Bool :=
  (r.matchesField f).toOption.getD false

theorem PresenceRule.matchesField_eq (r : PresenceRule)
    (hf : f.name.isText = true ∧ f.type.isText = true) : r.matchesField f = .ok (r.fits f) :=
  Attempt.eq_ok_getD (r.matchesField_isOk hf.1 hf.2)

theorem PresenceRule.matchesName_iff {name : String} :
    r.matchesName name = true ↔
      ∃ p ∈ r.patterns, (Text.lower p).toList <:+: (Text.lower name).toList := by
  rw [matchesName, List.any_eq_true]
  simp only [Value.occursIn_iff]

theorem PresenceRule.fits_iff (hf : f.name.isText = true ∧ f.type.isText = true) :
    r.fits f = true ↔ r.Matches f := by
  obtain ⟨name, hname⟩ := Value.exists_eq_text hf.1
  obtain ⟨type, htype⟩ := Value.exists_eq_text hf.2
  have hmatches : r.Matches f ↔ r.matchesName name = true ∨
      ∃ t, FieldType.parse? type = some t ∧ t ∈ r.types := by
    simp [Matches, hname, htype, matchesName_iff]
  rw [hmatches, fits, matchesField, hname, htype]
  dsimp only
  by_cases hpattern : r.matchesName name = true
  · rw [if_pos hpattern]
    exact iff_of_true rfl (Or.inl hpattern)
  · rw [if_neg hpattern, or_iff_right hpattern]
    by_cases hnone : r.types.isEmpty = true
    · rw [if_pos hnone, List.isEmpty_iff.mp hnone]
      simp [Except.toOption]
    · rw [if_neg hnone]
      simp [Except.toOption, Option.any_eq_true]

theorem PresenceRule.anyMatches_eq (r : PresenceRule) {fs : List Service.Field}
    (h : ∀ f ∈ fs, f.name.isText = true ∧ f.type.isText = true) :
    r.anyMatches fs = .ok (fs.any r.fits) := by
  induction fs with
  | nil => rfl
  | cons f fs ih =>
    obtain ⟨hfirst, hrest⟩ := List.forall_mem_cons.mp h
    rw [anyMatches, r.matchesField_eq hfirst, List.any_cons]
    cases r.fits f with
    | false => exact ih hrest
    | true => rfl

end

/-! ### The gaps of the rules that match no field -/

section

variable {o : Options} {s s' : Service} {rules : List PresenceRule} {first : Service.Form}

theorem presenceRules_isOk (ho : o.serviceType = .null ∨ o.serviceType.isText = true) :
    ∃ rules, o.presenceRules = .ok rules := by
  refine (Attempt.bind_isOk_iff fun rules => ⟨_, rfl⟩).mpr ?_
  unfold presenceRulesFor
  obtain hnull | htext := ho
  · rw [hnull]
    exact ⟨_, rfl⟩
  · obtain ⟨type, htype⟩ := Value.exists_eq_text htext
    rw [htype]
    split <;> exact ⟨_, rfl⟩

theorem missingFields_eq {rest : List Service.Form} (hs : s.Textual)
    (hforms : s.forms = first :: rest) (hrules : o.presenceRules = .ok rules) :
    missingFields o s =
      .ok ((rules.filter fun r => !s.allFields.any r.fits).map (presenceGap first)) := by
  have hbroken : rules.filterM (fun r => do return !(← r.isSatisfied s)) =
      (Except.ok (rules.filter fun r => !s.allFields.any r.fits) : Attempt _) := by
    apply Attempt.filterM_of_forall
    intro r _
    exact Attempt.bind_eq_ok.mpr ⟨_, r.anyMatches_eq hs, rfl⟩
  rw [missingFields, hforms]
  exact Attempt.bind_eq_ok.mpr ⟨rules, hrules, Attempt.bind_eq_ok.mpr ⟨_, hbroken, rfl⟩⟩

theorem missingFields_isOk (hs : s.Textual)
    (ho : o.serviceType = .null ∨ o.serviceType.isText = true) :
    ∃ gaps, missingFields o s = .ok gaps := by
  cases hforms : s.forms with
  | nil => exact ⟨[], by rw [missingFields, hforms]⟩
  | cons first rest =>
    obtain ⟨rules, hrules⟩ := presenceRules_isOk ho
    exact ⟨_, missingFields_eq hs hforms hrules⟩

theorem nodup_names_presenceRules (hrules : o.presenceRules = .ok rules) :
    (rules.map (·.name)).Nodup := by
  obtain ⟨builtIn, -, h⟩ := Attempt.bind_eq_ok.mp hrules
  cases h
  exact nodup_names_mergeRules [builtIn, o.customRules]

theorem presenceGap_of_growsTo {first' : Service.Form} (h : first.GrowsTo first') :
    presenceGap first' = presenceGap first := by
  funext r
  rw [presenceGap, presenceGap, h.id, h.name]

/-- A gap tells its rule by name, so only the rule itself puts it into the list. -/
theorem mem_map_presenceGap_iff (hnames : (rules.map (·.name)).Nodup) {q : PresenceRule → Bool}
    {r : PresenceRule} (hr : r ∈ rules) {g : Gap}
    (hg : g ∈ rules.map (presenceGap first)) (hname : g.rule = r.name) :
    g ∈ (rules.filter q).map (presenceGap first) ↔ q r = true := by
  have hrule : ∀ r' ∈ rules, presenceGap first r' = g → r' = r := by
    rintro r' hr' rfl
    exact List.inj_on_of_nodup_map hnames hr' hr hname
  obtain ⟨r', hr', hgap⟩ := List.mem_map.mp hg
  cases hrule r' hr' hgap
  constructor
  · intro h
    obtain ⟨r', hr', hgap⟩ := List.mem_map.mp h
    obtain ⟨hr', hq⟩ := List.mem_filter.mp hr'
    rwa [hrule r' hr' hgap] at hq
  · exact fun hq => List.mem_map.mpr ⟨r, List.mem_filter.mpr ⟨hr, hq⟩, hgap⟩

/-- As a service grows no gap of a missing field comes up, those that are left stay in order, and a
gap goes exactly if its rule matches a field by now. -/
theorem missingFields_of_growsTo (hgrows : s.GrowsTo s') (hforms : s.forms ≠ []) (hs' : s'.Textual)
    (ho : o.serviceType = .null ∨ o.serviceType.isText = true) :
    ∃ gaps gaps', missingFields o s = .ok gaps ∧ missingFields o s' = .ok gaps' ∧
      gaps'.Sublist gaps ∧
      ∀ rules, o.presenceRules = .ok rules → ∀ r ∈ rules, ∀ g ∈ gaps, g.rule = r.name →
        (g ∉ gaps' ↔ ∃ f ∈ s'.allFields, r.Matches f) := by
  obtain ⟨rules, hrules⟩ := presenceRules_isOk ho
  obtain ⟨first, rest, hfirst⟩ := List.exists_cons_of_ne_nil hforms
  obtain ⟨first', rest', hfirst', hgrown⟩ := hgrows.exists_first hfirst
  have hgaps' := missingFields_eq hs' hfirst' hrules
  rw [presenceGap_of_growsTo hgrown] at hgaps'
  refine ⟨_, _, missingFields_eq (hgrows.textual hs') hfirst hrules, hgaps', ?_, ?_⟩
  · -- A rule that matches nothing in the grown service matched nothing before.
    apply List.Sublist.map
    apply List.monotone_filter_right
    intro r hnone
    simp only [Bool.not_eq_true', List.any_eq_false] at hnone ⊢
    exact fun f hf => hnone f (hgrows.allFields_sublist.subset hf)
  · intro rules' hrules' r hr g hg hname
    cases hrules.symm.trans hrules'
    have hg : g ∈ rules.map (presenceGap first) := (List.filter_sublist.map _).subset hg
    rw [mem_map_presenceGap_iff (nodup_names_presenceRules hrules) hr hg hname, Bool.not_eq_true',
      ← Bool.not_eq_true, not_not, List.any_eq_true]
    exact exists_congr fun f => and_congr_right fun hf => PresenceRule.fits_iff (hs' f hf)

end

/-! ### A bakery that grows -/

/-- A licence with two bare fields, and a flow that starts and goes nowhere. -/
def bakery : Service :=
  let owner : Service.Field := ⟨.text "1", .text "Owner name", .text "text", true, [], .null⟩
  let phone : Service.Field := ⟨.text "2", .text "Phone", .text "tel", false, [], .text "s"⟩
  let start : Service.Step := ⟨.text "a", .text "Apply", .null, true, false, .null, .null⟩
  ⟨.text "b", .text "Bakery", .null,
    [⟨.text "f", .text "Licence", .null, [owner], [⟨.text "s", .text "Contact", [phone]⟩]⟩],
    some ⟨.text "w", .text "Licensing", [start], [], .null⟩⟩

/-- All families are asked for, and a stall besides the usual fields. -/
def fullOptions : Options where
  checkFields := true
  checkValidation := true
  checkWorkflow := true
  customRules := [⟨"stall", "A stall is wanted", .warning, ["stall"], [], none, "", ""⟩]
  customCoverageRules := []
  serviceType := .null

theorem textual_bakery : bakery.Textual := by
  unfold Service.Textual
  decide

/-- The bakery asks for an address among the contacts, and has a second form. -/
def grownBakery : Service :=
  let owner : Service.Field := ⟨.text "1", .text "Owner name", .text "text", true, [], .null⟩
  let phone : Service.Field := ⟨.text "2", .text "Phone", .text "tel", false, [], .text "s"⟩
  let mail : Service.Field := ⟨.text "3", .text "Post to", .text "email", false, [], .text "s"⟩
  let oven : Service.Field := ⟨.text "4", .text "Oven", .text "text", false, [], .null⟩
  { bakery with
    forms :=
      [⟨.text "f", .text "Licence", .null, [owner], [⟨.text "s", .text "Contact", [mail, phone]⟩]⟩,
        ⟨.text "g", .text "Premises", .null, [oven], []⟩] }

theorem bakery_growsTo : bakery.GrowsTo grownBakery := by
  constructor
  refine List.Forall₂.cons ⟨rfl, rfl, List.Sublist.refl _, ?_⟩ .nil
  exact List.SublistForall₂.cons (List.sublist_cons_self _ _) .nil

theorem textual_grownBakery : grownBakery.Textual := by
  unfold Service.Textual
  decide

/-- The gap of the address goes, and that of the stall is left. -/
theorem missingFields_of_growsTo_bakery :
    bakery.GrowsTo grownBakery ∧ bakery.forms ≠ [] ∧ grownBakery.Textual ∧
      fullOptions.serviceType = .null ∧
      ∃ gaps gaps', missingFields fullOptions bakery = .ok gaps ∧
        missingFields fullOptions grownBakery = .ok gaps' ∧ gaps'.Sublist gaps ∧
        gaps.map (·.rule) = ["contact_email", "stall"] ∧ gaps'.map (·.rule) = ["stall"] := by
  have hforms : bakery.forms ≠ [] := List.cons_ne_nil _ _
  obtain ⟨gaps, gaps', hgaps, hgaps', hsub, -⟩ :=
    missingFields_of_growsTo (o := fullOptions) bakery_growsTo hforms textual_grownBakery
      (Or.inl rfl)
  have hrun (s : Service) (names : List String) {gaps : List Gap}
      (hnames : (missingFields fullOptions s).toOption.map (·.map (·.rule)) = some names)
      (h : missingFields fullOptions s = .ok gaps) : gaps.map (·.rule) = names := by
    rw [h] at hnames
    exact Option.some.inj hnames
  exact ⟨bakery_growsTo, hforms, textual_grownBakery, rfl, gaps, gaps', hgaps, hgaps', hsub,
    hrun bakery _ (by decide +kernel) hgaps, hrun grownBakery _ (by decide +kernel) hgaps'⟩

end Gap

end ServiceBlueprint
