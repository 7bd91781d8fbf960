import ServiceBlueprint.Proofs.Value.Plain
import ServiceBlueprint.Proofs.Workflow.Review
import ServiceBlueprint.Workflow.Loading

/-!
# Reviews of loaded workflows

Loading takes ids, targets and names as they come. A workflow that was loaded from plain values is
reviewed exactly if no list or map stands for an id or for the target of a transition that can be
taken, and if the names of its start roles are texts where there are several. The fault is a wrong
type otherwise.
-/

namespace ServiceBlueprint

namespace Workflow

variable {raw : Value}

theorem pickOr_of_isMap (h : raw.isMap = true) (keys : List String) (default : Value) :
    pickOr raw keys default = .ok ((raw.first? keys).getD default) := by
  rw [pickOr, Value.pick_of_isMap h]
  rfl

theorem pickOr_singleton (h : raw.isMap = true) (key : String) (default : Value) :
    pickOr raw [key] default = .ok ((raw.get? key).getD default) := by
  rw [pickOr_of_isMap h, Value.first?_singleton]

theorem require_congr {raw' : Value} (hraw : raw.isMap = true) (hraw' : raw'.isMap = true)
    {owner field : String} {others : List String}
    (h : raw'.first? (field :: others) = raw.first? (field :: others)) :
    require raw' owner field others = require raw owner field others := by
  rw [require, require, Value.pick_of_isMap hraw, Value.pick_of_isMap hraw', h]

/-! ### What is loaded from plain values -/

theorem isPlain_of_require {owner field : String} {others : List String} {v : Value}
    (hraw : raw.isPlain = true) (h : require raw owner field others = .ok v) :
    v.isPlain = true := by
  obtain ⟨found, hfound, h⟩ := Attempt.bind_eq_ok.mp h
  split at h
  · cases h
  · cases h
  · cases h
    exact Value.isPlain_of_pick hraw hfound

theorem isPlain_of_pickOr {keys : List String} {default v : Value} (hraw : raw.isPlain = true)
    (hdefault : default.isPlain = true) (h : pickOr raw keys default = .ok v) :
    v.isPlain = true := by
  obtain ⟨found, hfound, h⟩ := Attempt.bind_eq_ok.mp h
  cases h
  cases found with
  | none => exact hdefault
  | some w => exact Value.isPlain_of_pick hraw hfound

/-- What is loaded from the elements under a key is loaded from plain values. -/
theorem exists_of_mem_loaded {α : Type} {load : Value → Attempt α} {entries : Value}
    {xs : List Value} {as : List α} {a : α} (hentries : entries.isPlain = true)
    (hxs : entries.elements = .ok xs) (has : xs.mapM load = .ok as) (ha : a ∈ as) :
    ∃ x, x.isPlain = true ∧ load x = .ok a := by
  obtain ⟨x, hx, hload⟩ := Attempt.exists_of_mem_mapM has ha
  exact ⟨x, Value.isPlain_of_mem_elements hentries hxs hx, hload⟩

theorem Transition.isPlain_target {t : Transition} (hraw : raw.isPlain = true)
    (h : Transition.ofValue raw = .ok t) : t.target.isPlain = true := by
  obtain ⟨id, -, h⟩ := Attempt.bind_eq_ok.mp h
  obtain ⟨target, htarget, h⟩ := Attempt.bind_eq_ok.mp h
  obtain ⟨condition, -, h⟩ := Attempt.bind_eq_ok.mp h
  obtain ⟨order, -, h⟩ := Attempt.bind_eq_ok.mp h
  obtain ⟨sortOrder, -, h⟩ := Attempt.bind_eq_ok.mp h
  cases h
  exact isPlain_of_require hraw htarget

theorem Status.isPlain_target {s : Status} (hraw : raw.isPlain = true)
    (h : Status.ofValue raw = .ok s) : ∀ t ∈ s.transitions, t.target.isPlain = true := by
  obtain ⟨code, -, h⟩ := Attempt.bind_eq_ok.mp h
  split at h
  · cases h
  obtain ⟨id, -, h⟩ := Attempt.bind_eq_ok.mp h
  obtain ⟨entries, hentries, h⟩ := Attempt.bind_eq_ok.mp h
  obtain ⟨xs, hxs, h⟩ := Attempt.bind_eq_ok.mp h
  obtain ⟨transitions, htransitions, h⟩ := Attempt.bind_eq_ok.mp h
  cases h
  intro t ht
  have hplain := isPlain_of_pickOr hraw rfl hentries
  obtain ⟨x, hx, hload⟩ := exists_of_mem_loaded hplain hxs htransitions ht
  exact Transition.isPlain_target hx hload

theorem Role.isPlain_ofValue {r : Role} (hraw : raw.isPlain = true)
    (h : Role.ofValue raw = .ok r) :
    r.id.isPlain = true ∧ ∀ t ∈ r.outgoing, t.target.isPlain = true := by
  obtain ⟨id, hid, h⟩ := Attempt.bind_eq_ok.mp h
  obtain ⟨rawType, -, h⟩ := Attempt.bind_eq_ok.mp h
  dsimp only at h
  split at h
  · cases h
  obtain ⟨type, -, h⟩ := Attempt.bind_eq_ok.mp h
  obtain ⟨name, -, h⟩ := Attempt.bind_eq_ok.mp h
  obtain ⟨start, -, h⟩ := Attempt.bind_eq_ok.mp h
  obtain ⟨entries, hentries, h⟩ := Attempt.bind_eq_ok.mp h
  obtain ⟨xs, hxs, h⟩ := Attempt.bind_eq_ok.mp h
  obtain ⟨statuses, hstatuses, h⟩ := Attempt.bind_eq_ok.mp h
  obtain ⟨assigned, -, h⟩ := Attempt.bind_eq_ok.mp h
  obtain ⟨institutions, -, h⟩ := Attempt.bind_eq_ok.mp h
  cases h
  refine ⟨isPlain_of_require hraw hid, ?_⟩
  intro t ht
  obtain ⟨s, hs, -, ht⟩ := mem_outgoing_iff.mp ht
  have hplain := isPlain_of_pickOr hraw rfl hentries
  obtain ⟨x, hx, hload⟩ := exists_of_mem_loaded hplain hxs hstatuses hs
  exact Status.isPlain_target hx hload t ht

theorem isPlain_of_ofValue {w : Workflow} (hraw : raw.isPlain = true)
    (h : Workflow.ofValue raw = .ok w) :
    ∀ r ∈ w.roles, r.id.isPlain = true ∧ ∀ t ∈ r.outgoing, t.target.isPlain = true := by
  obtain ⟨found, hfound, h⟩ := Attempt.bind_eq_ok.mp h
  obtain ⟨xs, hxs, h⟩ := Attempt.bind_eq_ok.mp h
  obtain ⟨roles, hroles, h⟩ := Attempt.bind_eq_ok.mp h
  obtain ⟨found', -, h⟩ := Attempt.bind_eq_ok.mp h
  obtain ⟨ys, -, h⟩ := Attempt.bind_eq_ok.mp h
  obtain ⟨registrations, -, h⟩ := Attempt.bind_eq_ok.mp h
  cases h
  intro r hr
  have hplain : (found.getD (.list [])).isPlain = true := by
    cases found with
    | none => rfl
    | some v => exact Value.isPlain_of_lookup hraw hfound
  obtain ⟨x, hx, hload⟩ := exists_of_mem_loaded hplain hxs hroles hr
  exact Role.isPlain_ofValue hx hload

/-! ### When a loaded workflow is reviewed -/

/-- No list or map stands for an id, and several start roles have texts for names. -/
structure Reviewable (roles : List Role) : Prop where
  ids : ∀ r ∈ roles, r.id.isList = false ∧ r.id.isMap = false
  targets : ∀ r ∈ roles, ∀ t ∈ r.outgoing, t.target.isList = false ∧ t.target.isMap = false
  starts : 2 ≤ (startRoles roles).length → ∀ s ∈ startRoles roles, s.name.isText = true

theorem keyed_iff_of_isPlain {roles : List Role}
    (h : ∀ r ∈ roles, r.id.isPlain = true ∧ ∀ t ∈ r.outgoing, t.target.isPlain = true) :
    Keyed roles ↔ (∀ r ∈ roles, r.id.isList = false ∧ r.id.isMap = false) ∧
      ∀ r ∈ roles, ∀ t ∈ r.outgoing, t.target.isList = false ∧ t.target.isMap = false := by
  rw [← forall₂_and]
  apply forall₂_congr
  intro r hr
  refine and_congr (Value.isKey_iff_of_isPlain (h r hr).1) ?_
  apply forall₂_congr
  intro t ht
  exact Value.isKey_iff_of_isPlain ((h r hr).2 t ht)

theorem review_eq_error {roles : List Role} {registrations : List Registration} {f : Fault}
    (h : review roles registrations = .error f) : f = .wrongType := by
  unfold review at h
  split at h
  · cases h
  obtain h | ⟨start, -, h⟩ := Attempt.bind_eq_error.mp h
  · unfold startIssues at h
    split at h
    · cases h
    · cases h
    · obtain h | ⟨names, -, h⟩ := Attempt.bind_eq_error.mp h
      · unfold listedNames at h
        split at h <;> cases h
        rfl
      · cases h
  · obtain h | ⟨g, -, h⟩ := Attempt.bind_eq_error.mp h
    · unfold graph at h
      split at h <;> cases h
      rfl
    · cases h

/-- A workflow that was loaded from plain values is reviewed exactly if it is reviewable, and a
wrong type is the only fault there is. -/
theorem validate_isOk_iff_of_ofValue {w : Workflow} (hraw : raw.isPlain = true)
    (hw : Workflow.ofValue raw = .ok w) :
    ((∃ r, w.validate = .ok r) ↔ Reviewable w.roles) ∧
      ∀ f, w.validate = .error f → f = .wrongType := by
  refine ⟨?_, fun f => review_eq_error⟩
  have hkeyed := keyed_iff_of_isPlain (isPlain_of_ofValue hraw hw)
  by_cases hne : w.roles = []
  · constructor
    · intro _
      rw [hne]
      exact ⟨by simp, by simp, by simp [startRoles]⟩
    · intro _
      rw [Workflow.validate, hne]
      exact ⟨_, rfl⟩
  · rw [Workflow.validate, review_isOk_iff w.registrations hne, hkeyed]
    constructor
    · rintro ⟨⟨hids, htargets⟩, hstarts⟩
      exact ⟨hids, htargets, hstarts⟩
    · exact fun h => ⟨⟨h.ids, h.targets⟩, h.starts⟩

/-- A start that passes to a role with a number for an id and no name. -/
def numberedClerk : Value :=
  let passed : Value := .map [(.text "code", .text "PASSED"),
    (.text "transitions", .list [.map [(.text "toRoleId", .int 7)]])]
  let start : Value := .map [(.text "id", .text "a"), (.text "isStartRole", .bool true),
    (.text "statuses", .list [passed])]
  .map [(.text "roles", .list [start, .map [(.text "id", .int 7), (.text "name", .null)]])]

def numberedRoles : List Role :=
  [⟨.text "a", .text "a", .user, true,
      [⟨"PASSED", .passed, [⟨"", .int 7, .null, 0⟩]⟩], []⟩,
    ⟨.int 7, .null, .user, false, [], []⟩]

theorem ofValue_numberedClerk : Workflow.ofValue numberedClerk = .ok ⟨numberedRoles, []⟩ := by
  rfl

theorem validate_isOk_iff_of_ofValue_numberedClerk :
    numberedClerk.isPlain = true ∧ Workflow.ofValue numberedClerk = .ok ⟨numberedRoles, []⟩ ∧
      Reviewable numberedRoles ∧
      ∃ r, Workflow.validate ⟨numberedRoles, []⟩ = .ok r := by
  have hplain : numberedClerk.isPlain = true := by decide
  have hreviewable : Reviewable numberedRoles := by
    constructor <;> decide
  exact ⟨hplain, ofValue_numberedClerk, hreviewable,
    (validate_isOk_iff_of_ofValue hplain ofValue_numberedClerk).1.mpr hreviewable⟩

/-- Two start roles that have numbers for ids, and so for names. -/
def twoStarts : Value :=
  let start (id : Int) : Value := .map [(.text "id", .int id), (.text "isStartRole", .bool true),
    (.text "roleType", .text "BOT")]
  .map [(.text "roles", .list [start 1, start 2])]

/-- They load, and their review is a fault. -/
theorem not_reviewed_twoStarts :
    ∃ w, Workflow.ofValue twoStarts = .ok w ∧ w.validate = .error .wrongType := by
  refine ⟨⟨[⟨.int 1, .int 1, .bot, true, [], []⟩, ⟨.int 2, .int 2, .bot, true, [], []⟩], []⟩,
    ?_, ?_⟩
  · rfl
  · rfl

end Workflow

end ServiceBlueprint
