import Mathlib.Data.List.Forall2
import ServiceBlueprint.Gap.RuleSet
import ServiceBlueprint.Proofs.Attempt
import ServiceBlueprint.Proofs.Value.Plain

/-!
# What a rules document spells

What a value spells is said key by key, without regard to how it is checked and to what is reported.
On plain values each check gives just what the value spells, or nothing where it spells nothing.
-/

namespace ServiceBlueprint

namespace Gap

/-! ### Results of readings -/

namespace Checked

variable {α β : Type}

theorem exists_result_seq {f : Checked (α → β)} {x : Checked α} {p : β → Prop} :
    (∃ b, (f <*> x).result = some b ∧ p b) ↔
      ∃ g, f.result = some g ∧ ∃ a, x.result = some a ∧ p (g a) := by
  change (∃ b, (f.result.bind fun g => x.result.map g) = some b ∧ p b) ↔ _
  cases f.result with
  | none => simp
  | some g => cases x.result <;> simp

theorem exists_result_map {f : α → β} {x : Checked α} {p : β → Prop} :
    (∃ b, (f <$> x).result = some b ∧ p b) ↔ ∃ a, x.result = some a ∧ p (f a) := by
  change (∃ b, x.result.map f = some b ∧ p b) ↔ _
  cases x.result <;> simp

theorem result_eq_some_iff {c : Checked α} {a : α} :
    c.result = some a ↔ ∃ a', c.result = some a' ∧ a' = a := by
  rw [exists_eq_right]

theorem result_map_eq_some_iff {f : α → β} {x : Checked α} {b : β} :
    (f <$> x).result = some b ↔ ∃ a, x.result = some a ∧ f a = b := by
  change (x.result.map f) = some b ↔ _
  rw [Option.map_eq_some_iff]

@[simp] theorem result_within (step : PathStep) (c : Checked α) :
    (c.within step).result = c.result := rfl

/-- Readings one after another have a result if each has one. -/
theorem result_all_eq_some_iff {cs : List (Checked α)} {as : List α} :
    (all cs).result = some as ↔ List.Forall₂ (fun c a => c.result = some a) cs as := by
  induction cs generalizing as with
  | nil =>
    rw [List.forall₂_nil_left_iff]
    exact ⟨fun h => (Option.some.inj h).symm, fun h => congrArg some h.symm⟩
  | cons c cs ih =>
    rw [all, result_eq_some_iff]
    simp only [exists_result_seq, exists_result_map, ih]
    constructor
    · rintro ⟨a, ha, as', has', rfl⟩
      exact .cons ha has'
    · rintro (_ | ⟨ha, has'⟩)
      exact ⟨_, ha, _, has', rfl⟩

end Checked

/-! ### What a value spells -/

section

variable {α : Type}

def SpellsText (v : Value) (s : String) : Prop :=
  v = .text s

def SpellsTextOrNull (v : Value) (s : Option String) : Prop :=
  v = textOrNull s

def SpellsList (spells : Value → α → Prop) (v : Value) (as : List α) : Prop :=
  ∃ items, v = .list items ∧ List.Forall₂ spells items as

/-- The value at a key spells something; without the key the usual is meant. -/
def SpellsAt (key : String) (usual : α) (spells : Value → α → Prop) (v : Value) (a : α) : Prop :=
  match v.get? key with
  | some w => spells w a
  | none => a = usual

/-- A map with text keys spells its entries. -/
inductive SpellsDetails : Value → Option Entries → Prop
  | none : SpellsDetails .null none
  | some {es : Entries} (keys : ∀ e ∈ es, e.1.isText = true) :
      SpellsDetails (.map es) (some (Table.ofList es))

structure SpellsFix (v : Value) (f : WrittenFix) : Prop where
  map : v.isMap = true
  action : SpellsAt "action" .addField (fun w a => w = .text a.name) v f.action
  fieldName : SpellsAt "fieldName" none SpellsTextOrNull v f.fieldName
  fieldType : SpellsAt "fieldType" none SpellsTextOrNull v f.fieldType
  validation : SpellsAt "validation" none SpellsDetails v f.validation

inductive SpellsFixOrNull : Value → Option WrittenFix → Prop
  | none : SpellsFixOrNull .null none
  | some {v : Value} {f : WrittenFix} (h : SpellsFix v f) : SpellsFixOrNull v (some f)

structure SpellsRule (v : Value) (r : WrittenRule) : Prop where
  name : v.get? "name" = some (.text r.name)
  description : v.get? "description" = some (.text r.description)
  severity : v.get? "severity" = some (.text r.severity.name)
  patterns : SpellsAt "patterns" [] (SpellsList SpellsText) v r.patterns
  fieldTypes : SpellsAt "fieldTypes" [] (SpellsList SpellsText) v r.fieldTypes
  requiredValidation :
    SpellsAt "requiredValidation" [] (SpellsList SpellsText) v r.requiredValidation
  fix : SpellsAt "fix" none SpellsFixOrNull v r.fix
  message : SpellsAt "message" none SpellsTextOrNull v r.message
  suggestion : SpellsAt "suggestion" none SpellsTextOrNull v r.suggestion

structure SpellsGroups (v : Value) (d : RuleDocument) : Prop where
  map : v.isMap = true
  missingFields : SpellsAt "missing_fields" [] (SpellsList SpellsRule) v d.missingFields
  validationGaps : SpellsAt "validation_gaps" [] (SpellsList SpellsRule) v d.validationGaps

def SpellsDocument (v : Value) (d : RuleDocument) : Prop :=
  ∃ w, v.get? "rules" = some w ∧ SpellsGroups w d

/-! ### Checks give what is spelt -/

/-- On plain values a check gives just what the value spells. -/
def Checks (check : Value → Checked α) (spells : Value → α → Prop) : Prop :=
  ∀ v : Value, v.isPlain = true → ∀ a, (check v).result = some a ↔ spells v a

theorem checks_text : Checks checkText SpellsText := by
  intro v hv s
  unfold SpellsText
  cases v with
  | bytes octets => cases hv
  | text t =>
    rw [checkText, Value.text.injEq]
    exact Option.some_inj
  | _ => simp [checkText, Checked.wrong]

theorem checks_textOrNull : Checks checkTextOrNull SpellsTextOrNull := by
  intro v hv s
  unfold SpellsTextOrNull
  cases v with
  | null => cases s <;> simp [checkTextOrNull, Checked.ok, textOrNull]
  | _ =>
    rw [checkTextOrNull, Checked.result_map_eq_some_iff]
    · simp only [checks_text _ hv, SpellsText]
      cases s <;> simp [textOrNull]
    · exact Value.noConfusion

/-- Where two relations agree on the elements of a list they relate it to the same lists. -/
theorem forall₂_congr_of_mem {β : Type} {R S : α → β → Prop} {xs : List α} {ys : List β}
    (h : ∀ x ∈ xs, ∀ y, R x y ↔ S x y) : List.Forall₂ R xs ys ↔ List.Forall₂ S xs ys := by
  induction xs generalizing ys with
  | nil => rw [List.forall₂_nil_left_iff, List.forall₂_nil_left_iff]
  | cons x xs ih =>
    obtain ⟨hfirst, hrest⟩ := List.forall_mem_cons.mp h
    simp only [List.forall₂_cons_left_iff, hfirst, ih hrest]

theorem forall₂_result_mapIdx {f : Nat → Value → Checked α} {check : Value → Checked α}
    (hf : ∀ i v, (f i v).result = (check v).result) {items : List Value} {as : List α} :
    List.Forall₂ (fun c a => c.result = some a) (items.mapIdx f) as ↔
      List.Forall₂ (fun v a => (check v).result = some a) items as := by
  induction items generalizing f as with
  | nil => rw [List.mapIdx_nil, List.forall₂_nil_left_iff, List.forall₂_nil_left_iff]
  | cons v items ih =>
    simp only [List.mapIdx_cons, List.forall₂_cons_left_iff, hf, ih fun i => hf (i + 1)]

theorem checks_list {check : Value → Checked α} {spells : Value → α → Prop}
    (h : Checks check spells) : Checks (checkList check) (SpellsList spells) := by
  intro v hv as
  unfold SpellsList
  cases v with
  | tuple items => cases hv
  | set items => cases hv
  | list items =>
    rw [checkList, checkItems, Checked.result_all_eq_some_iff,
      forall₂_result_mapIdx fun i w => Checked.result_within (.index i) (check w)]
    simp only [Value.list.injEq, exists_eq_left']
    exact forall₂_congr_of_mem fun w hw => h w (Value.isPlain_list_iff.mp hv w hw)
  | _ => simp [checkList, Checked.wrong]

theorem checks_member {ofName? : String → Option α} {name : α → String}
    (hname : ∀ s a, ofName? s = some a ↔ s = name a) :
    Checks (checkMember ofName?) fun v a => v = .text (name a) := by
  intro v hv a
  have hspelt : (checkMember ofName? v).result = (checkText v).result.bind ofName? := by
    unfold checkMember
    split
    next h => rw [h]; rfl
    next h => rw [h]; rfl
  rw [hspelt, Option.bind_eq_some_iff]
  simp only [checks_text v hv, SpellsText, hname]
  constructor
  · rintro ⟨_, rfl, rfl⟩
    rfl
  · rintro rfl
    exact ⟨_, rfl, rfl⟩

theorem Severity.ofName?_eq_some_iff (s : String) (v : Severity) :
    Severity.ofName? s = some v ↔ s = v.name :=
  find?_name_eq_some_iff (fun v => by cases v <;> rfl) s v

theorem Action.ofName?_eq_some_iff (s : String) (a : Action) :
    Action.ofName? s = some a ↔ s = a.name :=
  find?_name_eq_some_iff (fun a => by cases a <;> rfl) s a

theorem result_checkEntry_eq_some_iff {e e' : Value × Value} (he : e.1.isPlain = true) :
    (checkEntry e).result = some e' ↔ e.1.isText = true ∧ e = e' := by
  rw [checkEntry, Checked.result_within, Checked.result_within, Checked.result_map_eq_some_iff]
  simp only [checks_text e.1 he, SpellsText]
  constructor
  · rintro ⟨s, hs, rfl⟩
    exact ⟨hs ▸ rfl, Prod.ext hs rfl⟩
  · rintro ⟨hs, rfl⟩
    obtain ⟨s, hs⟩ := Value.exists_eq_text hs
    exact ⟨s, hs, Prod.ext hs.symm rfl⟩

theorem checks_details : Checks checkDetails SpellsDetails := by
  intro v hv o
  cases v with
  | null =>
    constructor
    · intro h
      cases h
      exact .none
    · rintro ⟨⟩
      rfl
  | map es =>
    rw [checkDetails, Checked.result_map_eq_some_iff]
    have hkeys (es' : Entries) : (Checked.all (es.map checkEntry)).result = some es' ↔
        (∀ e ∈ es, e.1.isText = true) ∧ es = es' := by
      rw [Checked.result_all_eq_some_iff, List.forall₂_map_left_iff,
        forall₂_congr_of_mem fun e he =>
          fun e' => result_checkEntry_eq_some_iff (Value.isPlain_map_iff.mp hv e he).1,
        List.forall₂_and_left, List.forall₂_eq_eq_eq]
    simp only [hkeys]
    constructor
    · rintro ⟨_, ⟨htexts, rfl⟩, rfl⟩
      exact .some htexts
    · rintro (_ | htexts)
      exact ⟨es, ⟨htexts, rfl⟩, rfl⟩
  | _ =>
    constructor
    · intro h
      cases h
    · rintro ⟨⟩

theorem result_optional_iff {check : Value → Checked α} {spells : Value → α → Prop}
    (h : Checks check spells) {es : Entries} (hes : (Value.map es).isPlain = true) (key : String)
    (usual a : α) :
    (optional es key usual check).result = some a ↔ SpellsAt key usual spells (.map es) a := by
  rw [optional, Checked.result_within]
  unfold SpellsAt
  rw [Value.get?]
  cases hw : Table.find? es (.text key) with
  | none => exact ⟨fun h => (Option.some.inj h).symm, fun h => congrArg some h.symm⟩
  | some w => exact h w (Value.isPlain_of_find? hes hw) a

theorem result_needed_iff {check : Value → Checked α} {spells : Value → α → Prop}
    (h : Checks check spells) {es : Entries} (hes : (Value.map es).isPlain = true) (key : String)
    (a : α) :
    (needed es key check).result = some a ↔ ∃ w, (Value.map es).get? key = some w ∧ spells w a := by
  rw [needed, Checked.result_within, Value.get?]
  cases hw : Table.find? es (.text key) with
  | none => simp [Checked.wrong]
  | some w => simpa using h w (Value.isPlain_of_find? hes hw) a

/-- What only maps spell is checked by reading the entries of a map. -/
theorem checks_record {read : Entries → Checked α} {spells : Value → α → Prop}
    (hread : ∀ es : Entries, (Value.map es).isPlain = true →
      ∀ a, (read es).result = some a ↔ spells (.map es) a)
    (hmap : ∀ v a, spells v a → v.isMap = true) : Checks (checkRecord read) spells := by
  intro v hv a
  cases v with
  | map es => exact hread es hv a
  | _ =>
    constructor
    · intro h
      cases h
    · intro h
      cases hmap _ _ h

theorem checks_fix : Checks checkFix SpellsFixOrNull := by
  intro v hv o
  cases v with
  | null =>
    constructor
    · intro h
      cases h
      exact .none
    · rintro (_ | h)
      · rfl
      · cases h.map
  | map es =>
    change (checkRecord _ (.map es)).result = some o ↔ _
    rw [checkRecord, Checked.result_eq_some_iff]
    simp only [Checked.exists_result_seq, Checked.exists_result_map,
      result_optional_iff (checks_member Action.ofName?_eq_some_iff) hv,
      result_optional_iff checks_textOrNull hv, result_optional_iff checks_details hv]
    constructor
    · rintro ⟨action, haction, name, hname, type, htype, details, hdetails, rfl⟩
      exact .some ⟨rfl, haction, hname, htype, hdetails⟩
    · rintro (_ | h)
      exact ⟨_, h.action, _, h.fieldName, _, h.fieldType, _, h.validation, rfl⟩
  | _ =>
    constructor
    · intro h
      cases h
    · rintro (_ | h)
      cases h.map

theorem checks_rule : Checks checkRule SpellsRule := by
  refine checks_record ?_ fun v r h => Value.isMap_of_get? h.name
  intro es hes r
  rw [Checked.result_eq_some_iff]
  simp only [Checked.exists_result_seq, Checked.exists_result_map,
    result_needed_iff checks_text hes,
    result_needed_iff (checks_member Severity.ofName?_eq_some_iff) hes,
    result_optional_iff (checks_list checks_text) hes, result_optional_iff checks_fix hes,
    result_optional_iff checks_textOrNull hes]
  simp only [SpellsText, exists_eq_right]
  constructor
  · rintro ⟨name, hname, description, hdescription, severity, hseverity, patterns, hpatterns, types,
      htypes, required, hrequired, fix, hfix, message, hmessage, suggestion, hsuggestion, rfl⟩
    exact ⟨hname, hdescription, hseverity, hpatterns, htypes, hrequired, hfix, hmessage,
      hsuggestion⟩
  · intro h
    exact ⟨_, h.name, _, h.description, _, h.severity, _, h.patterns, _, h.fieldTypes, _,
      h.requiredValidation, _, h.fix, _, h.message, _, h.suggestion, rfl⟩

theorem checks_groups : Checks checkGroups SpellsGroups := by
  refine checks_record ?_ fun v d h => h.map
  intro es hes d
  rw [Checked.result_eq_some_iff]
  simp only [Checked.exists_result_seq, Checked.exists_result_map,
    result_optional_iff (checks_list checks_rule) hes]
  constructor
  · rintro ⟨missing, hmissing, uncovered, huncovered, rfl⟩
    exact ⟨rfl, hmissing, huncovered⟩
  · intro h
    exact ⟨_, h.missingFields, _, h.validationGaps, rfl⟩

theorem checks_document : Checks RuleDocument.check SpellsDocument := by
  refine checks_record ?_ fun v d h => Value.isMap_of_get? h.choose_spec.1
  exact fun es hes d => result_needed_iff checks_groups hes "rules" d

end

end Gap

end ServiceBlueprint
