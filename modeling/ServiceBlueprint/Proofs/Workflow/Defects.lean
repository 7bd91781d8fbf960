import ServiceBlueprint.Proofs.Value.Plain
import ServiceBlueprint.Proofs.Workflow.Loading

/-!
# Workflows with a defect

A document that loads is spoilt at one place, however deep: a mandatory entry is taken out or made
null, or a role type or a status code is replaced by a value that names none. Loading then fails at
that place, with the error that belongs to the defect. A role type that is no text is the exception,
for it is a fault of another kind.
-/

namespace ServiceBlueprint

namespace Value

/-- A map with the entries of another, except that a key has a new value, or none, under whichever
of its spellings counts. -/
structure Replaces (keys : List String) (new : Option Value) (raw raw' : Value) : Prop where
  isMap : raw'.isMap = true
  value : raw'.first? keys = new
  others : ∀ key ∉ keys, raw'.get? key = raw.get? key

/-- A key of the second map has no value but null. -/
def Lacks (keys : List String) (raw raw' : Value) : Prop :=
  ∃ new : Option Value, new.getD .null = .null ∧ Replaces keys new raw raw'

/-- The list under a key has another element at one place. -/
inductive ReplacesOne (key : String) (R : Value → Value → Prop) (raw raw' : Value) : Prop
  | intro (before : List Value) (x x' : Value) (after : List Value)
    (items : raw.get? key = some (.list (before ++ x :: after)))
    (replaces : Replaces [key] (some (.list (before ++ x' :: after))) raw raw') (element : R x x')

/-- A new value under the spelling that counts replaces the old one. -/
theorem Replaces.insert (before : List String) (key : String) (after : List String)
    {es : List (Value × Value)} (hbefore : ∀ k ∈ before, (Value.map es).get? k = none ∧ k ≠ key)
    (new : Value) : Replaces (before ++ key :: after) (some new) (.map es)
      (.map (Table.insert es (.text key) new)) where
  isMap := rfl
  value := by
    induction before with
    | nil =>
      rw [List.nil_append, first?_cons, get?, find?_insert_text_self]
      rfl
    | cons k before ih =>
      obtain ⟨⟨habsent, hne⟩, hrest⟩ := List.forall_mem_cons.mp hbefore
      rw [List.cons_append, first?_cons, ih hrest, get?, find?_insert_text_of_ne hne.symm]
      rw [get?] at habsent
      rw [habsent]
      rfl
  others other h := by
    apply find?_insert_text_of_ne
    rintro rfl
    exact h (List.mem_append_right before List.mem_cons_self)

/-- Without the one spelling that is there nothing is left of a key. -/
theorem Replaces.erase {keys : List String} (key : String) (hkey : key ∈ keys)
    {es : List (Value × Value)} (hothers : ∀ k ∈ keys, k ≠ key → (Value.map es).get? k = none) :
    Replaces keys none (.map es) (.map (Table.erase es (.text key))) := by
  have herase (k : String) : (Value.map (Table.erase es (.text key))).get? k =
      if k = key then none else (Value.map es).get? k := by
    rw [get?, Table.erase, Table.find?_filter es (fun k => !(k == .text key)) fun a b h => by
      rw [BEq.congr_left h]]
    by_cases hk : k = key <;> simp [hk, get?]
  refine ⟨rfl, ?_, ?_⟩
  · rw [first?, List.findSome?_eq_none_iff]
    intro k hk
    rw [herase]
    split
    · rfl
    next hne => exact hothers k hk hne
  · intro k hk
    have hne : k ≠ key := by
      rintro rfl
      exact hk hkey
    rw [herase, if_neg hne]

theorem Replaces.get?_eq {key : String} {new : Option Value} {raw raw' : Value}
    (h : Replaces [key] new raw raw') : raw'.get? key = new := by
  rw [← h.value, first?_singleton]

/-- Keys that are not among the replaced ones have what they had. -/
theorem Replaces.first?_eq {keys : List String} {new : Option Value} {raw raw' : Value}
    (h : Replaces keys new raw raw') {others : List String} (hothers : ∀ key ∈ others, key ∉ keys) :
    raw'.first? others = raw.first? others :=
  first?_congr fun key hkey => h.others key (hothers key hkey)

theorem ReplacesOne.isMap {key : String} {R : Value → Value → Prop} {raw raw' : Value}
    (h : ReplacesOne key R raw raw') : raw.isMap = true := by
  obtain ⟨_, _, _, _, hitems, -, -⟩ := h
  exact isMap_of_get? hitems

theorem ReplacesOne.exists_replaces {key : String} {R : Value → Value → Prop} {raw raw' : Value}
    (h : ReplacesOne key R raw raw') : ∃ new, Replaces [key] new raw raw' := by
  obtain ⟨_, _, _, _, -, hr, -⟩ := h
  exact ⟨_, hr⟩

/-- Another list under a key, with another element at one place. -/
theorem ReplacesOne.insert (before : List Value) {after : List Value} {key : String}
    {R : Value → Value → Prop} {es : List (Value × Value)} {x x' : Value}
    (hitems : (Value.map es).get? key = some (.list (before ++ x :: after))) (hx : R x x') :
    ReplacesOne key R (.map es)
      (.map (Table.insert es (.text key) (.list (before ++ x' :: after)))) :=
  .intro before x x' after hitems (Replaces.insert [] key [] nofun _) hx

end Value

namespace Workflow

open Value (Lacks Replaces ReplacesOne loadFrom)

variable {raw raw' : Value}

/-! ### What is read from maps -/

theorem require_eq_ok_iff (h : raw.isMap = true) {owner field : String} {others : List String}
    {v : Value} :
    require raw owner field others = .ok v ↔ raw.first? (field :: others) = some v ∧ v ≠ .null := by
  rw [require, Value.pick_of_isMap h]
  cases raw.first? (field :: others) with
  | none =>
    constructor
    · intro hv
      cases hv
    · rintro ⟨hv, -⟩
      cases hv
  | some w =>
    rw [Option.some_inj]
    cases w with
    | null =>
      constructor
      · intro hv
        cases hv
      · rintro ⟨rfl, hne⟩
        exact absurd rfl hne
    | _ =>
      constructor
      · intro hv
        cases hv
        exact ⟨rfl, by simp⟩
      · rintro ⟨rfl, -⟩
        rfl

/-- What is required and not replaced is there as before. -/
theorem require_of_replaces {keys : List String} {new : Option Value} (hraw : raw.isMap = true)
    (h : Replaces keys new raw raw') {owner field : String} {others : List String}
    (hothers : ∀ key ∈ field :: others, key ∉ keys) :
    require raw' owner field others = require raw owner field others :=
  require_congr hraw h.isMap (h.first?_eq hothers)

theorem require_of_lacks {owner field : String} {others : List String}
    (h : Lacks (field :: others) raw raw') :
    require raw' owner field others = .error (.load (.missingField owner field)) := by
  obtain ⟨new, hnull, hr⟩ := h
  rw [require, Value.pick_of_isMap hr.isMap, hr.value]
  cases new with
  | none => rfl
  | some v =>
    cases hnull
    rfl

/-- Where the list under a key was loaded, it fails like the element that is now at one place. -/
theorem loadFrom_of_replacesOne {α β γ : Type} {load : Value → Attempt α} {key : String}
    {R : Value → Value → Prop} {f : Fault} (h : ReplacesOne key R raw raw')
    (hR : ∀ x x' a, load x = .ok a → R x x' → load x' = .error f) {next : List α → Attempt β}
    {b : β} (hok : loadFrom load next ((raw.get? key).getD (.list [])) = .ok b)
    (next' : List α → Attempt γ) :
    loadFrom load next' ((raw'.get? key).getD (.list [])) = .error f := by
  obtain ⟨before, x, x', after, hitems, hr, hx⟩ := h
  rw [hitems] at hok
  obtain ⟨xs, hxs, hok⟩ := Attempt.bind_eq_ok.mp hok
  cases hxs
  obtain ⟨as, has, -⟩ := Attempt.bind_eq_ok.mp hok
  have hall := Attempt.mapM_isOk_iff.mp ⟨as, has⟩
  obtain ⟨a, ha⟩ := hall x (List.mem_append_right before List.mem_cons_self)
  have hfails : (before ++ x' :: after).mapM load = .error f :=
    Attempt.mapM_eq_error (fun y hy => hall y (List.mem_append_left _ hy)) (hR x x' a ha hx)
  rw [hr.get?_eq]
  exact Attempt.bind_eq_error.mpr (Or.inr ⟨_, rfl, Attempt.bind_eq_error.mpr (Or.inl hfails)⟩)

/-! ### Defects -/

/-- What may be wrong at one place of a document. -/
inductive Defect where
  | noTarget
  | noCode
  | unknownCode (code : Value)
  | noRoleId
  | unknownType (role type : Value)
  | noRegistrationId

/-- What loading comes to. A role type is read from text only. -/
def Defect.fault : Defect → Fault
  | .noTarget => .load (.missingField "Transition" "toRoleId")
  | .noCode => .load (.missingField "Status" "code")
  | .unknownCode code => .load (.invalidStatusCode code)
  | .noRoleId => .load (.missingField "Role" "id")
  | .unknownType role type =>
    if type.isText then .load (.invalidRoleType role type) else .missingAttribute
  | .noRegistrationId => .load (.missingField "Registration" "id")

/-- The four codes, as they are written. -/
def StatusCode.IsNamed (v : Value) : Prop :=
  ∃ code : StatusCode, v = .text code.name

/-- The words for role types, in any letter case. -/
def RoleType.IsNamed (v : Value) : Prop :=
  ∃ s, v = .text s ∧ (Text.lower s = "human" ∨ Text.lower s = "automated" ∨
    Text.upper s = "USER" ∨ Text.upper s = "BOT")

inductive Transition.Spoilt : Defect → Value → Value → Prop
  | target {raw raw' : Value} (h : Lacks ["toRoleId", "to_role_id"] raw raw') :
      Spoilt .noTarget raw raw'

inductive Status.Spoilt : Defect → Value → Value → Prop
  | code {raw raw' : Value} (h : Lacks ["code"] raw raw') : Spoilt .noCode raw raw'
  | unknown {raw raw' code : Value} (h : Replaces ["code"] (some code) raw raw')
      (hplain : code.isPlain = true) (hne : code ≠ .null) (hname : ¬ StatusCode.IsNamed code) :
      Spoilt (.unknownCode code) raw raw'
  | transition {defect : Defect} {raw raw' : Value}
      (h : ReplacesOne "transitions" (Transition.Spoilt defect) raw raw') : Spoilt defect raw raw'

inductive Role.Spoilt : Defect → Value → Value → Prop
  | id {raw raw' : Value} (h : Lacks ["id", "role_id"] raw raw') : Spoilt .noRoleId raw raw'
  | unknown {raw raw' role type : Value} (hrole : raw.first? ["id", "role_id"] = some role)
      (h : Replaces ["roleType", "role_type", "kind"] (some type) raw raw')
      (hplain : type.isPlain = true) (hname : ¬ RoleType.IsNamed type) :
      Spoilt (.unknownType role type) raw raw'
  | status {defect : Defect} {raw raw' : Value}
      (h : ReplacesOne "statuses" (Status.Spoilt defect) raw raw') : Spoilt defect raw raw'

inductive Registration.Spoilt : Defect → Value → Value → Prop
  | id {raw raw' : Value} (h : Lacks ["id", "registration_id"] raw raw') :
      Spoilt .noRegistrationId raw raw'

/-- The second document is the first with the given defect at one place. -/
inductive Spoilt : Defect → Value → Value → Prop
  | role {defect : Defect} {raw raw' : Value}
      (h : ReplacesOne "roles" (Role.Spoilt defect) raw raw') : Spoilt defect raw raw'
  | registration {defect : Defect} {raw raw' : Value}
      (h : ReplacesOne "registrations" (Registration.Spoilt defect) raw raw') :
      Spoilt defect raw raw'

/-! ### Loading what is spoilt -/

theorem StatusCode.ofValue_of_not_isNamed {v : Value} (h : ¬ IsNamed v) :
    StatusCode.ofValue v = .error .invalidValue := by
  have hnone : v.text?.bind ofName? = none := by
    rw [Option.eq_none_iff_forall_ne_some]
    intro code hcode
    obtain ⟨s, hs, hname⟩ := Option.bind_eq_some_iff.mp hcode
    rw [ofName?, find?_name_eq_some_iff (fun c => by cases c <;> rfl)] at hname
    cases v with
    | text t =>
      cases hs
      exact h ⟨code, congrArg Value.text hname⟩
    | _ => cases hs
  rw [StatusCode.ofValue, hnone]

theorem RoleType.ofValue_of_not_isNamed {v : Value} (h : ¬ IsNamed v) :
    RoleType.ofValue v = .error (if v.isText then .invalidValue else .missingAttribute) := by
  cases v with
  | text s =>
    have hnot : ¬ (Text.lower s = "human" ∨ Text.lower s = "automated" ∨
        Text.upper s = "USER" ∨ Text.upper s = "BOT") := fun hs => h ⟨s, rfl, hs⟩
    simp only [not_or] at hnot
    obtain ⟨hhuman, hautomated, huser, hbot⟩ := hnot
    rw [RoleType.ofValue, parse?, if_neg hhuman, if_neg hautomated, if_neg huser, if_neg hbot]
    rfl
  | _ => rfl

variable {defect : Defect}

theorem Transition.ofValue_of_spoilt (h : Transition.Spoilt defect raw raw') :
    Transition.ofValue raw' = .error defect.fault := by
  obtain ⟨h⟩ := h
  have hmap : raw'.isMap = true := h.choose_spec.2.isMap
  rw [Transition.ofValue, pickOr_of_isMap hmap, require_of_lacks h]
  rfl

theorem Status.ofValue_of_spoilt {s : Status} (hs : Status.ofValue raw = .ok s)
    (h : Status.Spoilt defect raw raw') : Status.ofValue raw' = .error defect.fault := by
  cases h with
  | code h =>
    rw [Status.ofValue, require_of_lacks h]
    rfl
  | unknown h _ hne hname =>
    refine Attempt.bind_eq_error.mpr
      (Or.inr ⟨_, (require_eq_ok_iff h.isMap).mpr ⟨h.value, hne⟩, ?_⟩)
    rw [StatusCode.ofValue_of_not_isNamed hname]
    rfl
  | transition h =>
    have hraw := h.isMap
    obtain ⟨new, hr⟩ := h.exists_replaces
    obtain ⟨code, hcode, hs⟩ := Attempt.bind_eq_ok.mp hs
    refine Attempt.bind_eq_error.mpr (Or.inr ⟨code, ?_, ?_⟩)
    · rw [require_of_replaces hraw hr (by decide), hcode]
    split at hs
    · cases hs
    next status hstatus =>
    obtain ⟨id, -, hs⟩ := Attempt.bind_eq_ok.mp hs
    rw [pickOr_of_isMap hr.isMap]
    rw [pickOr_singleton hraw] at hs
    refine Attempt.bind_eq_error.mpr (Or.inr ⟨_, rfl, ?_⟩)
    rw [pickOr_singleton hr.isMap]
    exact loadFrom_of_replacesOne h (fun x x' t _ => Transition.ofValue_of_spoilt) hs _

theorem Role.ofValue_of_spoilt {r : Role} (hr : Role.ofValue raw = .ok r)
    (h : Role.Spoilt defect raw raw') : Role.ofValue raw' = .error defect.fault := by
  obtain ⟨id, hid, hrest⟩ := Attempt.bind_eq_ok.mp hr
  cases h with
  | id h =>
    rw [Role.ofValue, require_of_lacks h]
    rfl
  | unknown hrole h _ hname =>
    have hraw := Value.isMap_of_first? hrole
    have hid' := ((require_eq_ok_iff hraw).mp hid).1
    rw [hrole] at hid'
    cases hid'
    refine Attempt.bind_eq_error.mpr (Or.inr ⟨id, ?_, ?_⟩)
    · rw [require_of_replaces hraw h (by decide), hid]
    rw [pickOr_of_isMap h.isMap, h.value]
    refine Attempt.bind_eq_error.mpr (Or.inr ⟨_, rfl, ?_⟩)
    dsimp only [Option.getD_some]
    rw [RoleType.ofValue_of_not_isNamed hname, Defect.fault]
    cases Value.isText _ <;> rfl
  | status h =>
    have hraw := h.isMap
    obtain ⟨new, hreplaces⟩ := h.exists_replaces
    have hmap := hreplaces.isMap
    refine Attempt.bind_eq_error.mpr (Or.inr ⟨id, ?_, ?_⟩)
    · rw [require_of_replaces hraw hreplaces (by decide), hid]
    rw [pickOr_of_isMap hmap, hreplaces.first?_eq (by decide)]
    rw [pickOr_of_isMap hraw] at hrest
    refine Attempt.bind_eq_error.mpr (Or.inr ⟨_, rfl, ?_⟩)
    obtain ⟨rawType, htype, hrest⟩ := Attempt.bind_eq_ok.mp hrest
    cases htype
    dsimp only at hrest ⊢
    split at hrest
    · cases hrest
    obtain ⟨type, htype, hrest⟩ := Attempt.bind_eq_ok.mp hrest
    refine Attempt.bind_eq_error.mpr (Or.inr ⟨type, htype, ?_⟩)
    obtain ⟨name, -, hrest⟩ := Attempt.bind_eq_ok.mp hrest
    rw [pickOr_of_isMap hmap]
    refine Attempt.bind_eq_error.mpr (Or.inr ⟨_, rfl, ?_⟩)
    obtain ⟨start, -, hrest⟩ := Attempt.bind_eq_ok.mp hrest
    rw [pickOr_of_isMap hmap]
    refine Attempt.bind_eq_error.mpr (Or.inr ⟨_, rfl, ?_⟩)
    rw [pickOr_singleton hraw] at hrest
    rw [pickOr_singleton hmap]
    exact loadFrom_of_replacesOne h (fun x x' s => Status.ofValue_of_spoilt) hrest _

theorem Registration.ofValue_of_spoilt (h : Registration.Spoilt defect raw raw') :
    Registration.ofValue raw' = .error defect.fault := by
  obtain ⟨h⟩ := h
  rw [Registration.ofValue, require_of_lacks h]
  rfl

theorem ofValue_eq_error_of_spoilt {w : Workflow} (hw : Workflow.ofValue raw = .ok w)
    (h : Spoilt defect raw raw') : Workflow.ofValue raw' = .error defect.fault := by
  cases h with
  | role h =>
    obtain ⟨new, hr⟩ := h.exists_replaces
    rw [Workflow.ofValue, Value.lookup_of_isMap h.isMap] at hw
    rw [Workflow.ofValue, Value.lookup_of_isMap hr.isMap]
    exact loadFrom_of_replacesOne h (fun x x' r => Role.ofValue_of_spoilt) hw _
  | registration h =>
    obtain ⟨new, hr⟩ := h.exists_replaces
    rw [Workflow.ofValue, Value.lookup_of_isMap h.isMap] at hw
    rw [Workflow.ofValue, Value.lookup_of_isMap hr.isMap, hr.others "roles" (by decide)]
    obtain ⟨found, hfound, hw⟩ := Attempt.bind_eq_ok.mp hw
    cases hfound
    obtain ⟨entries, hentries, hw⟩ := Attempt.bind_eq_ok.mp hw
    obtain ⟨roles, hroles, hw⟩ := Attempt.bind_eq_ok.mp hw
    rw [Value.lookup_of_isMap h.isMap] at hw
    refine Attempt.bind_eq_error.mpr (Or.inr ⟨_, rfl, ?_⟩)
    refine Attempt.bind_eq_error.mpr (Or.inr ⟨entries, hentries, ?_⟩)
    refine Attempt.bind_eq_error.mpr (Or.inr ⟨roles, hroles, ?_⟩)
    rw [Value.lookup_of_isMap hr.isMap]
    exact loadFrom_of_replacesOne h (fun x x' r _ => Registration.ofValue_of_spoilt) hw _

/-- A document that loads and is spoilt at one place fails there, with the error of its defect. It
is refused as a document of workflows exactly if the defect is not a role type that is no text. -/
theorem spoilt_refused_iff {w : Workflow} (hw : Workflow.ofValue raw = .ok w)
    (h : Spoilt defect raw raw') :
    Workflow.ofValue raw' = .error defect.fault ∧
      ((∃ e, Workflow.ofValue raw' = .error (.load e)) ↔
        ∀ role type, defect = .unknownType role type → type.isText = true) := by
  have hfault := ofValue_eq_error_of_spoilt hw h
  refine ⟨hfault, ?_⟩
  rw [hfault]
  constructor
  · rintro ⟨e, he⟩ role type rfl
    by_contra hnot
    rw [Defect.fault, if_neg hnot] at he
    cases he
  · intro htexts
    cases defect with
    | unknownType role type =>
      refine ⟨.invalidRoleType role type, ?_⟩
      rw [Defect.fault, if_pos (htexts role type rfl)]
    | _ => exact ⟨_, rfl⟩

/-- A desk that passes files on to an archive by a step with the given entries. -/
def deskDocument (step : List (Value × Value)) (archiveType : Value) : Value :=
  let passed : Value :=
    .map [(.text "code", .text "PASSED"), (.text "transitions", .list [.map step])]
  let desk : Value := .map [(.text "id", .text "desk"), (.text "isStartRole", .bool true),
    (.text "statuses", .list [.map [(.text "code", .text "PENDING")], passed])]
  .map [(.text "roles", .list
    [desk, .map [(.text "id", .text "archive"), (.text "roleType", archiveType)]])]

def stepToArchive : List (Value × Value) :=
  [(.text "sort_order", .int 1), (.text "to_role_id", .text "archive")]

def deskRoles : List Role :=
  [⟨.text "desk", .text "desk", .user, true, [⟨"PENDING", .pending, []⟩,
      ⟨"PASSED", .passed, [⟨"", .text "archive", .null, 1⟩]⟩], []⟩,
    ⟨.text "archive", .text "archive", .bot, false, [], []⟩]

theorem ofValue_deskDocument :
    Workflow.ofValue (deskDocument stepToArchive (.text "Automated")) = .ok ⟨deskRoles, []⟩ := by
  rfl

theorem spoilt_refused_iff_deskDocument :
    Workflow.ofValue (deskDocument stepToArchive (.text "Automated")) = .ok ⟨deskRoles, []⟩ ∧
      Spoilt .noTarget (deskDocument stepToArchive (.text "Automated"))
        (deskDocument [(.text "sort_order", .int 1)] (.text "Automated")) ∧
      Workflow.ofValue (deskDocument [(.text "sort_order", .int 1)] (.text "Automated")) =
        .error (.load (.missingField "Transition" "toRoleId")) := by
  have hstep : Transition.Spoilt .noTarget (.map stepToArchive)
      (.map [(.text "sort_order", .int 1)]) :=
    .target ⟨none, rfl, Replaces.erase "to_role_id" (by decide) (by decide)⟩
  have hspoilt : Spoilt .noTarget (deskDocument stepToArchive (.text "Automated"))
      (deskDocument [(.text "sort_order", .int 1)] (.text "Automated")) := by
    refine .role (ReplacesOne.insert [] rfl ?_)
    refine .status (ReplacesOne.insert [_] rfl ?_)
    exact .transition (ReplacesOne.insert [] rfl hstep)
  exact ⟨ofValue_deskDocument, hspoilt, (spoilt_refused_iff ofValue_deskDocument hspoilt).1⟩

/-- A number for a role type is a fault of another kind. -/
theorem not_refused_numberedType :
    ¬ ∀ (raw raw' : Value) (w : Workflow) (defect : Defect), Workflow.ofValue raw = .ok w →
      Spoilt defect raw raw' → ∃ e, Workflow.ofValue raw' = .error (.load e) := by
  intro h
  have htype : Role.Spoilt (.unknownType (.text "archive") (.int 5))
      (.map [(.text "id", .text "archive"), (.text "roleType", .text "Automated")])
      (.map [(.text "id", .text "archive"), (.text "roleType", .int 5)]) := by
    refine .unknown rfl (Replaces.insert [] "roleType" _ nofun (.int 5)) rfl ?_
    rintro ⟨s, hs, -⟩
    cases hs
  have hspoilt : Spoilt (.unknownType (.text "archive") (.int 5))
      (deskDocument stepToArchive (.text "Automated")) (deskDocument stepToArchive (.int 5)) :=
    .role (ReplacesOne.insert [_] rfl htype)
  obtain ⟨e, he⟩ := h _ _ _ _ ofValue_deskDocument hspoilt
  have hfault : Workflow.ofValue (deskDocument stepToArchive (.int 5)) =
      .error .missingAttribute := rfl
  rw [hfault] at he
  cases he

end Workflow

end ServiceBlueprint
