import ServiceBlueprint.Form.Loading
import ServiceBlueprint.Proofs.Value.Shape
import ServiceBlueprint.Proofs.Workflow.Loading
import ServiceBlueprint.Service.Loading

/-!
# Documents in another spelling

Workflows, forms and services have keys in camel case, each of which may be spelt with underscores
instead. A document that is written in camel case throughout loads as the same model when all these
keys are respelt, or is refused with the same error.
-/

namespace ServiceBlueprint

open Shape (HasOneSpelling Settled SpeltOnce isFirstSpelt_map_iff)

variable {raw : Value}

/-! ### Workflows -/

namespace Workflow

section

variable {spellings : List (String × String)} {inner : String → Shape} {es : List (Value × Value)}
  {keys others : List String} {field : String}

theorem pickOr_respell (hes : SpeltOnce spellings (.map es)) (h : Settled spellings inner keys)
    (default : Value) :
    pickOr ((Shape.object spellings inner).respell (.map es)) keys default =
      pickOr (.map es) keys default := by
  rw [pickOr_of_isMap rfl, pickOr_of_isMap rfl, h.first?_respell hes]

theorem require_respell (hes : SpeltOnce spellings (.map es))
    (h : Settled spellings inner (field :: others)) (owner : String) :
    require ((Shape.object spellings inner).respell (.map es)) owner field others =
      require (.map es) owner field others :=
  require_congr rfl rfl (h.first?_respell hes)

/-- A list is read from under a key and its elements are loaded. -/
theorem pickOr_loaded_respell {α β : Type} {load : Value → Attempt α} {item : Shape}
    (h : (Shape.object spellings inner).isFirstSpelt (.map es) = true) (key : String)
    (hkey : HasOneSpelling spellings key) (hitem : inner key = .each item)
    (hload : ∀ x, item.isFirstSpelt x = true → load (item.respell x) = load x)
    (next : List α → Attempt β) :
    (pickOr ((Shape.object spellings inner).respell (.map es)) [key] (.list []) >>=
        Value.loadFrom load next) =
      pickOr (.map es) [key] (.list []) >>= Value.loadFrom load next := by
  rw [pickOr_singleton rfl, pickOr_singleton rfl]
  exact Shape.loadFrom_get?_respell h key hkey hitem hload next

end

def Transition.shape : Shape :=
  .object [("toRoleId", "to_role_id"), ("sortOrder", "sort_order")] fun _ => .any

-- The keys of a status have one spelling, but the transitions in it are respelt.
def Status.shape : Shape :=
  .object [] fun key => if key = "transitions" then .each Transition.shape else .any

def Role.shape : Shape :=
  .object
    [("roleType", "role_type"), ("isStartRole", "is_start"), ("isStart", "is_start"),
      ("institutionIds", "institution_ids")]
    fun key => if key = "statuses" then .each Status.shape else .any

def Registration.shape : Shape :=
  .object [("roleIds", "role_ids")] fun _ => .any

def shape : Shape :=
  .object [] fun key =>
    if key = "roles" then .each Role.shape
    else if key = "registrations" then .each Registration.shape
    else .any

theorem Transition.ofValue_respell (h : Transition.shape.isFirstSpelt raw = true) :
    Transition.ofValue (Transition.shape.respell raw) = Transition.ofValue raw := by
  cases raw with
  | map es =>
    have hes := (isFirstSpelt_map_iff.mp h).1
    simp (disch := decide) only [Transition.ofValue, Transition.shape, pickOr_respell hes,
      require_respell hes]
  | _ => rfl

theorem Status.ofValue_respell (h : Status.shape.isFirstSpelt raw = true) :
    Status.ofValue (Status.shape.respell raw) = Status.ofValue raw := by
  cases raw with
  | map es =>
    have hes := (isFirstSpelt_map_iff.mp h).1
    simp (disch := decide) only [Status.ofValue, Status.shape, pickOr_respell hes,
      require_respell hes]
    refine bind_congr fun code => ?_
    -- An unknown code ends the loading before the transitions are read.
    split
    · rfl
    · refine bind_congr fun id => ?_
      exact pickOr_loaded_respell h "transitions" (by decide) rfl
        (fun x => Transition.ofValue_respell) _
  | _ => rfl

theorem Role.ofValue_respell (h : Role.shape.isFirstSpelt raw = true) :
    Role.ofValue (Role.shape.respell raw) = Role.ofValue raw := by
  cases raw with
  | map es =>
    have hes := (isFirstSpelt_map_iff.mp h).1
    simp (disch := decide) only [Role.ofValue, Role.shape, pickOr_respell hes,
      require_respell hes]
    refine bind_congr fun id => bind_congr fun rawType => ?_
    split
    · rfl
    · refine bind_congr fun type => bind_congr fun name => bind_congr fun isStart => ?_
      exact pickOr_loaded_respell h "statuses" (by decide) rfl
        (fun x => Status.ofValue_respell) _
  | _ => rfl

theorem Registration.ofValue_respell (h : Registration.shape.isFirstSpelt raw = true) :
    Registration.ofValue (Registration.shape.respell raw) = Registration.ofValue raw := by
  cases raw with
  | map es =>
    have hes := (isFirstSpelt_map_iff.mp h).1
    simp (disch := decide) only [Registration.ofValue, Registration.shape, pickOr_respell hes,
      require_respell hes]
  | _ => rfl

theorem ofValue_respell (h : shape.isFirstSpelt raw = true) :
    Workflow.ofValue (shape.respell raw) = Workflow.ofValue raw := by
  cases raw with
  | map es =>
    have hregistrations (roles : List Role) := Shape.loadFrom_get?_respell h
      "registrations" (by decide) rfl (fun x => Registration.ofValue_respell)
      fun registrations => pure (⟨roles, registrations⟩ : Workflow)
    rw [Workflow.ofValue, Workflow.ofValue]
    refine (Shape.loadFrom_get?_respell h "roles" (by decide) rfl
      (fun x => Role.ofValue_respell) _).trans ?_
    refine bind_congr fun xs => bind_congr fun roles => ?_
    exact hregistrations roles
  | _ => rfl

end Workflow

/-! ### Forms -/

namespace Form

section

variable {spellings : List (String × String)} {inner : String → Shape} {es : List (Value × Value)}
  {keys : List String} {field first second : String}

theorem lookupOr_of_isMap (h : raw.isMap = true) (keys : List String) (default : Value) :
    lookupOr raw keys default = .ok ((raw.first? keys).getD default) := by
  rw [lookupOr, Value.lookupFirst_of_isMap h]
  rfl

theorem mandatory_of_isMap (h : raw.isMap = true) (owner field : String) :
    mandatory raw owner field =
      (raw.first? [field]).elim (.error (.load (.missingField owner field))) .ok := by
  rw [mandatory, Value.index_of_isMap h, Value.first?_singleton]
  cases raw.get? field <;> rfl

theorem mandatoryEither_of_isMap (h : raw.isMap = true) (owner first second : String) :
    mandatoryEither raw owner first second =
      (raw.first? [first, second]).elim (.error (.load (.missingField owner second))) .ok := by
  rw [mandatoryEither, Value.has_of_isMap h, Value.index_of_isMap h, mandatory_of_isMap h,
    Value.first?_cons raw first]
  cases raw.get? first <;> rfl

theorem lookupOr_respell (hes : SpeltOnce spellings (.map es)) (h : Settled spellings inner keys)
    (default : Value) :
    lookupOr ((Shape.object spellings inner).respell (.map es)) keys default =
      lookupOr (.map es) keys default := by
  rw [lookupOr_of_isMap rfl, lookupOr_of_isMap rfl, h.first?_respell hes]

theorem mandatory_respell (hes : SpeltOnce spellings (.map es))
    (h : Settled spellings inner [field]) (owner : String) :
    mandatory ((Shape.object spellings inner).respell (.map es)) owner field =
      mandatory (.map es) owner field := by
  rw [mandatory_of_isMap rfl, mandatory_of_isMap rfl, h.first?_respell hes]

theorem mandatoryEither_respell (hes : SpeltOnce spellings (.map es))
    (h : Settled spellings inner [first, second]) (owner : String) :
    mandatoryEither ((Shape.object spellings inner).respell (.map es)) owner first second =
      mandatoryEither (.map es) owner first second := by
  rw [mandatoryEither_of_isMap rfl, mandatoryEither_of_isMap rfl, h.first?_respell hes]

/-- A list is read from under a key and its elements are loaded. -/
theorem lookupOr_loaded_respell {α β : Type} {load : Value → Attempt α} {item : Shape}
    (h : (Shape.object spellings inner).isFirstSpelt (.map es) = true) (key : String)
    (hkey : HasOneSpelling spellings key) (hitem : inner key = .each item)
    (hload : ∀ x, item.isFirstSpelt x = true → load (item.respell x) = load x)
    (next : List α → Attempt β) :
    (lookupOr ((Shape.object spellings inner).respell (.map es)) [key] (.list []) >>=
        Value.loadFrom load next) =
      lookupOr (.map es) [key] (.list []) >>= Value.loadFrom load next := by
  rw [lookupOr_of_isMap rfl, lookupOr_of_isMap rfl, Value.first?_singleton, Value.first?_singleton]
  exact Shape.loadFrom_get?_respell h key hkey hitem hload next

end

def VisibilityRule.shape : Shape :=
  .object [("sourceFieldId", "source_field_id")] fun _ => .any

/-- The spellings that fields and sections have in common. -/
def placementSpellings : List (String × String) :=
  [("sortOrder", "sort_order"), ("visibilityRule", "visibility_rule"), ("isActive", "is_active")]

def ruleShape (key : String) : Shape :=
  if key = "visibilityRule" then VisibilityRule.shape else .any

def Field.shape : Shape :=
  .object (("sectionId", "section_id") :: placementSpellings) ruleShape

def Section.shape : Shape :=
  .object (("parentSectionId", "parent_section_id") :: placementSpellings) ruleShape

def shape : Shape :=
  .object [("updatedAt", "updated_at")] fun key =>
    if key = "fields" then .each Field.shape
    else if key = "sections" then .each Section.shape
    else .any

theorem VisibilityRule.ofValue?_of_isMap (h : raw.isMap = true) :
    VisibilityRule.ofValue? raw =
      let source := (raw.first? ["sourceFieldId", "source_field_id"]).getD .null
      if source.truthy then
        some
          { source := source
            writtenOperator := ((raw.first? ["operator"]).getD (.text "")).display
            value := (raw.first? ["value"]).getD .null }
      else none := by
  cases raw with
  | map es =>
    rw [VisibilityRule.ofValue?, Value.first?_cons, Value.first?_singleton,
      Value.first?_singleton, Value.first?_singleton]
    cases (Value.map es).get? "sourceFieldId" <;> rfl
  | _ => cases h

theorem VisibilityRule.ofValue?_respell (h : VisibilityRule.shape.isFirstSpelt raw = true) :
    VisibilityRule.ofValue? (VisibilityRule.shape.respell raw) =
      VisibilityRule.ofValue? raw := by
  cases raw with
  | map es =>
    have hes := (isFirstSpelt_map_iff.mp h).1
    have hfirst {keys : List String} (hkeys : Settled _ (fun _ => .any) keys) :=
      hkeys.first?_respell hes
    rw [VisibilityRule.ofValue?_of_isMap rfl, VisibilityRule.ofValue?_of_isMap rfl,
      VisibilityRule.shape]
    simp (disch := decide) only [hfirst]
  | _ => rfl

/-- A rule is an object of its own, so what is found under its key is respelt as well. -/
theorem readRule_respell {spellings : List (String × String)} {inner : String → Shape}
    {es : List (Value × Value)}
    (h : (Shape.object spellings inner).isFirstSpelt (.map es) = true)
    (hkeys : Shape.AreKeysOf spellings ["visibilityRule"] "visibility_rule")
    (hrule : inner "visibilityRule" = VisibilityRule.shape) :
    readRule ((Shape.object spellings inner).respell (.map es)) = readRule (.map es) := by
  have hes := (isFirstSpelt_map_iff.mp h).1
  have hfound : (Value.map es).first? ["visibilityRule", "visibility_rule"] =
      (Value.map es).get? "visibilityRule" := by
    have hnone := (hes _ (hkeys.mem_spellings List.mem_cons_self)).1
    rw [Value.first?_cons, Value.first?_singleton, hnone, Option.or_none]
  have hrespelt := hkeys.first?_respell (List.cons_ne_nil _ _) hes fun p hp =>
    List.mem_singleton.mp hp ▸ hrule
  rw [List.singleton_append, hfound] at hrespelt
  rw [readRule, readRule, lookupOr_of_isMap rfl, lookupOr_of_isMap rfl, hrespelt, hfound]
  cases hv : (Value.map es).get? "visibilityRule" with
  | none => rfl
  | some v =>
    have hfirst := Shape.isFirstSpelt_of_get? h hv
    rw [hrule] at hfirst
    exact congrArg Except.ok (VisibilityRule.ofValue?_respell hfirst)

theorem Field.ofValue_respell (h : Field.shape.isFirstSpelt raw = true) :
    Field.ofValue (Field.shape.respell raw) = Field.ofValue raw := by
  cases raw with
  | map es =>
    have hes := (isFirstSpelt_map_iff.mp h).1
    have hrule := readRule_respell h (by decide) rfl
    simp (disch := decide) only [Field.ofValue, Field.shape, mandatory_respell hes,
      mandatoryEither_respell hes, lookupOr_respell hes, readSortOrder, readIsActive, hrule]
  | _ => rfl

theorem Section.ofValue_respell (h : Section.shape.isFirstSpelt raw = true) :
    Section.ofValue (Section.shape.respell raw) = Section.ofValue raw := by
  cases raw with
  | map es =>
    have hes := (isFirstSpelt_map_iff.mp h).1
    have hrule := readRule_respell h (by decide) rfl
    simp (disch := decide) only [Section.ofValue, Section.shape, mandatory_respell hes,
      mandatoryEither_respell hes, lookupOr_respell hes, readSortOrder, readIsActive, hrule]
  | _ => rfl

theorem ofValue_respell (h : shape.isFirstSpelt raw = true) :
    Form.ofValue (shape.respell raw) = Form.ofValue raw := by
  cases raw with
  | map es =>
    have hes := (isFirstSpelt_map_iff.mp h).1
    have hsections (id name : Value) (updatedAt : Timestamp) (fields : List Field) :=
      lookupOr_loaded_respell h "sections" (by decide) rfl (fun x => Section.ofValue_respell)
        fun sections => pure (⟨id, name, updatedAt, fields, sections⟩ : Form)
    simp (disch := decide) only [Form.ofValue, shape, mandatory_respell hes,
      mandatoryEither_respell hes]
    refine bind_congr fun id => bind_congr fun name => bind_congr fun time => ?_
    refine bind_congr fun updatedAt => ?_
    refine (lookupOr_loaded_respell h "fields" (by decide) rfl
      (fun x => Field.ofValue_respell) _).trans ?_
    refine bind_congr fun documents => bind_congr fun xs => bind_congr fun fields => ?_
    exact hsections id name updatedAt fields
  | _ => rfl

end Form

/-! ### Services -/

namespace Service

section

variable {spellings : List (String × String)} {inner : String → Shape} {es : List (Value × Value)}
  {keys : List String} {field : String}

theorem lookupOr_of_isMap (h : raw.isMap = true) (keys : List String) (default : Value) :
    lookupOr raw keys default = .ok ((raw.first? keys).getD default) :=
  Form.lookupOr_of_isMap h keys default

theorem mandatory_of_isMap (h : raw.isMap = true) (owner field : String) :
    mandatory raw owner field =
      (raw.first? [field]).elim (.error (.load (.missingField owner field))) .ok := by
  rw [mandatory, Value.has_of_isMap h, Value.index_of_isMap h, Value.first?_singleton]
  cases raw.get? field <;> rfl

theorem loadAll_of_isMap {α : Type} (h : raw.isMap = true) (key : String)
    (load : Value → Attempt α) :
    loadAll raw key load = Value.loadFrom load pure ((raw.get? key).getD (.list [])) := by
  rw [loadAll, lookupOr_of_isMap h, Value.first?_singleton]
  exact bind_congr fun (xs : List Value) => (bind_pure (xs.mapM load)).symm

theorem lookupOr_respell (hes : SpeltOnce spellings (.map es)) (h : Settled spellings inner keys)
    (default : Value) :
    lookupOr ((Shape.object spellings inner).respell (.map es)) keys default =
      lookupOr (.map es) keys default :=
  Form.lookupOr_respell hes h default

theorem mandatory_respell (hes : SpeltOnce spellings (.map es))
    (h : Settled spellings inner [field]) (owner : String) :
    mandatory ((Shape.object spellings inner).respell (.map es)) owner field =
      mandatory (.map es) owner field := by
  rw [mandatory_of_isMap rfl, mandatory_of_isMap rfl, h.first?_respell hes]

theorem loadAll_respell {α : Type} {load : Value → Attempt α} {item : Shape}
    (h : (Shape.object spellings inner).isFirstSpelt (.map es) = true) (key : String)
    (hkey : HasOneSpelling spellings key) (hitem : inner key = .each item)
    (hload : ∀ x, item.isFirstSpelt x = true → load (item.respell x) = load x) :
    loadAll ((Shape.object spellings inner).respell (.map es)) key load =
      loadAll (.map es) key load := by
  rw [loadAll_of_isMap rfl, loadAll_of_isMap rfl]
  exact Shape.loadFrom_get?_respell h key hkey hitem hload pure

end

def Field.shape : Shape :=
  .object [("sectionId", "section_id")] fun _ => .any

def Section.shape : Shape :=
  .object [] fun key => if key = "fields" then .each Field.shape else .any

def Form.shape : Shape :=
  .object [] fun key =>
    if key = "fields" then .each Field.shape
    else if key = "sections" then .each Section.shape
    else .any

def Step.shape : Shape :=
  .object
    [("isStart", "is_start"), ("isTerminal", "is_terminal"), ("roleId", "role_id"),
      ("formId", "form_id")]
    fun _ => .any

def Transition.shape : Shape :=
  .object [("fromStepId", "from_step_id"), ("toStepId", "to_step_id")] fun _ => .any

def Flow.shape : Shape :=
  .object [("startStepId", "start_step_id")] fun key =>
    if key = "steps" then .each Step.shape
    else if key = "transitions" then .each Transition.shape
    else .any

def shape : Shape :=
  .object [] fun key =>
    if key = "forms" then .each Form.shape
    else if key = "workflow" then Flow.shape
    else .any

theorem Field.ofValue_respell (h : Field.shape.isFirstSpelt raw = true) :
    Field.ofValue (Field.shape.respell raw) = Field.ofValue raw := by
  cases raw with
  | map es =>
    have hes := (isFirstSpelt_map_iff.mp h).1
    simp (disch := decide) only [Field.ofValue, Field.shape, mandatory_respell hes,
      lookupOr_respell hes]
  | _ => rfl

theorem Section.ofValue_respell (h : Section.shape.isFirstSpelt raw = true) :
    Section.ofValue (Section.shape.respell raw) = Section.ofValue raw := by
  cases raw with
  | map es =>
    have hes := (isFirstSpelt_map_iff.mp h).1
    have hfields := loadAll_respell h "fields" (by decide) rfl fun x => Field.ofValue_respell
    simp (disch := decide) only [Section.ofValue, Section.shape, mandatory_respell hes, hfields]
  | _ => rfl

theorem Form.ofValue_respell (h : Form.shape.isFirstSpelt raw = true) :
    Form.ofValue (Form.shape.respell raw) = Form.ofValue raw := by
  cases raw with
  | map es =>
    have hes := (isFirstSpelt_map_iff.mp h).1
    have hfields := loadAll_respell h "fields" (by decide) rfl fun x => Field.ofValue_respell
    have hsections := loadAll_respell h "sections" (by decide) rfl fun x =>
      Section.ofValue_respell
    simp (disch := decide) only [Form.ofValue, Form.shape, mandatory_respell hes,
      lookupOr_respell hes, hfields, hsections]
  | _ => rfl

theorem Step.ofValue_respell (h : Step.shape.isFirstSpelt raw = true) :
    Step.ofValue (Step.shape.respell raw) = Step.ofValue raw := by
  cases raw with
  | map es =>
    have hes := (isFirstSpelt_map_iff.mp h).1
    simp (disch := decide) only [Step.ofValue, Step.shape, mandatory_respell hes,
      lookupOr_respell hes]
  | _ => rfl

theorem Transition.ofValue_respell (h : Transition.shape.isFirstSpelt raw = true) :
    Transition.ofValue (Transition.shape.respell raw) = Transition.ofValue raw := by
  cases raw with
  | map es =>
    have hes := (isFirstSpelt_map_iff.mp h).1
    simp (disch := decide) only [Transition.ofValue, Transition.shape, lookupOr_respell hes]
  | _ => rfl

theorem Flow.ofValue_respell (h : Flow.shape.isFirstSpelt raw = true) :
    Flow.ofValue (Flow.shape.respell raw) = Flow.ofValue raw := by
  cases raw with
  | map es =>
    have hes := (isFirstSpelt_map_iff.mp h).1
    have hsteps := loadAll_respell h "steps" (by decide) rfl fun x => Step.ofValue_respell
    have htransitions := loadAll_respell h "transitions" (by decide) rfl fun x =>
      Transition.ofValue_respell
    simp (disch := decide) only [Flow.ofValue, Flow.shape, mandatory_respell hes,
      lookupOr_respell hes, hsteps, htransitions]
  | _ => rfl

theorem ofValue_respell (h : shape.isFirstSpelt raw = true) :
    Service.ofValue (shape.respell raw) = Service.ofValue raw := by
  cases raw with
  | map es =>
    have hes := (isFirstSpelt_map_iff.mp h).1
    have hforms := loadAll_respell h "forms" (by decide) rfl fun x => Form.ofValue_respell
    simp (disch := decide) only [Service.ofValue, shape, lookupOr_respell hes, hforms]
    refine bind_congr fun id => bind_congr fun name => bind_congr fun type => ?_
    refine bind_congr fun forms => ?_
    have hkey : HasOneSpelling [] "workflow" := by decide
    rw [lookupOr_of_isMap rfl, lookupOr_of_isMap rfl, Value.first?_singleton,
      Value.first?_singleton, hkey.get?_respell]
    cases hv : (Value.map es).get? "workflow" with
    | none => rfl
    | some flow =>
      have hflow : Flow.shape.isFirstSpelt flow = true := Shape.isFirstSpelt_of_get? h hv
      change (do
        let loaded ← if (Flow.shape.respell flow).truthy then
          some <$> Flow.ofValue (Flow.shape.respell flow) else pure none
        pure (⟨id, name, type, forms, loaded⟩ : Service)) = _
      rw [Flow.shape, Shape.truthy_respell, ← Flow.shape, Flow.ofValue_respell hflow]
      rfl
  | _ => rfl

end Service

/-! ### All documents -/

/-- A document that is written in camel case throughout loads alike in the other spelling, as a
workflow, a form or a service: it gives the same model, or it is refused for the same reason. -/
theorem respelt_loads_alike (raw : Value) :
    (Workflow.shape.isFirstSpelt raw = true →
        Workflow.ofValue (Workflow.shape.respell raw) = Workflow.ofValue raw) ∧
      (Form.shape.isFirstSpelt raw = true →
        Form.ofValue (Form.shape.respell raw) = Form.ofValue raw) ∧
      (Service.shape.isFirstSpelt raw = true →
        Service.ofValue (Service.shape.respell raw) = Service.ofValue raw) :=
  ⟨Workflow.ofValue_respell, Form.ofValue_respell, Service.ofValue_respell⟩

/-- A desk that passes files on, with the keys spelt as given. -/
def permitWorkflow (start type target order : String) : Value :=
  let passed : Value := .map [(.text "code", .text "PASSED"),
    (.text "transitions", .list [.map [(.text target, .text "archive"), (.text order, .int 2)]])]
  let desk : Value := .map [(.text "id", .text "desk"), (.text start, .bool true),
    (.text "statuses", .list [passed])]
  let archive : Value := .map [(.text "id", .text "archive"), (.text type, .text "BOT")]
  .map [(.text "roles", .list [desk, archive])]

/-- A field that is shown by a rule, whose value has a key that is not respelt. -/
def permitForm (time order rule source : String) : Value :=
  let shown : Value := .map [(.text source, .text "1"), (.text "operator", .text "eq"),
    (.text "value", .map [(.text "sortOrder", .int 1)])]
  let field : Value := .map [(.text "id", .text "2"), (.text "name", .text "note"),
    (.text "type", .text "TEXT"), (.text order, .int 3), (.text rule, shown)]
  .map [(.text "id", .text "f"), (.text "name", .text "Permit"),
    (.text time, .text "2024-01-15T10:30:00Z"), (.text "fields", .list [field])]

/-- A step without a name, which is refused. -/
def permitService (first start : String) : Value :=
  .map [(.text "workflow", .map [(.text "id", .text "w"), (.text first, .text "s"),
    (.text "steps", .list [.map [(.text "id", .text "s"), (.text start, .bool true)]])])]

theorem respelt_loads_alike_permit :
    (Workflow.ofValue (permitWorkflow "is_start" "role_type" "to_role_id" "sort_order") =
        Workflow.ofValue (permitWorkflow "isStartRole" "roleType" "toRoleId" "sortOrder") ∧
      (Workflow.ofValue
        (permitWorkflow "isStartRole" "roleType" "toRoleId" "sortOrder")).isOk = true) ∧
    (Form.ofValue (permitForm "updated_at" "sort_order" "visibility_rule" "source_field_id") =
        Form.ofValue (permitForm "updatedAt" "sortOrder" "visibilityRule" "sourceFieldId") ∧
      (Form.ofValue
        (permitForm "updatedAt" "sortOrder" "visibilityRule" "sourceFieldId")).isOk = true) ∧
    Service.ofValue (permitService "start_step_id" "is_start") =
        Service.ofValue (permitService "startStepId" "isStart") ∧
      Service.ofValue (permitService "startStepId" "isStart") =
        .error (.load (.missingField "Step" "name")) := by
  have hworkflow : Workflow.shape.isFirstSpelt
      (permitWorkflow "isStartRole" "roleType" "toRoleId" "sortOrder") = true := by
    decide +kernel
  have hform : Form.shape.isFirstSpelt
      (permitForm "updatedAt" "sortOrder" "visibilityRule" "sourceFieldId") = true := by
    decide +kernel
  have hservice : Service.shape.isFirstSpelt (permitService "startStepId" "isStart") = true := by
    decide +kernel
  refine ⟨⟨(respelt_loads_alike _).1 hworkflow, ?_⟩, ⟨(respelt_loads_alike _).2.1 hform, ?_⟩,
    (respelt_loads_alike _).2.2 hservice, ?_⟩
  · decide +kernel
  · decide +kernel
  · rfl

end ServiceBlueprint
