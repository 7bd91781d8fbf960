import Mathlib
import ServiceBlueprint.Form.Loading
import ServiceBlueprint.Proofs.Calendar.Instant
import ServiceBlueprint.Proofs.Form.Compilation

/-!
# Versions as times of change

The version of a compiled form may be put into the form's document as the time of its last change.
Loading then gives the form again, at the same instant cut to the millisecond, exactly if that instant
falls in a year of four digits. Earlier instants have a version that cannot be loaded, and instants
outside the calendar of universal time have none.
-/

namespace ServiceBlueprint.Form

open Date (padded)
open Calendar (clockWithMillis)

/-! ### Documents under another time -/

section

variable {es : Table Value Value} {k owner first second : String} {v : Value}

theorem mandatory_insert_of_ne (h : k ≠ first) :
    mandatory (.map (es.insert (.text k) v)) owner first = mandatory (.map es) owner first := by
  unfold mandatory
  rw [Value.index_insert_of_ne h]

theorem mandatoryEither_insert_of_ne (hfirst : k ≠ first) (hsecond : k ≠ second) :
    mandatoryEither (.map (es.insert (.text k) v)) owner first second =
      mandatoryEither (.map es) owner first second := by
  unfold mandatoryEither
  rw [Value.has_insert_of_ne hfirst, Value.index_insert_of_ne hfirst,
    mandatory_insert_of_ne hsecond]

theorem mandatoryEither_insert_self :
    mandatoryEither (.map (es.insert (.text first) v)) owner first second = .ok v := by
  simp only [mandatoryEither, Value.has, Value.index, Value.find?_insert_text_self]
  rfl

theorem lookupOr_insert_of_notMem {keys : List String} {default : Value} (h : k ∉ keys) :
    lookupOr (.map (es.insert (.text k) v)) keys default = lookupOr (.map es) keys default := by
  unfold lookupOr
  rw [Value.lookupFirst_insert_of_notMem h]

theorem exists_of_mandatoryEither (h : mandatoryEither (.map es) owner first second = .ok v) :
    ∃ e ∈ es, e.2 = v := by
  obtain ⟨there, -, h⟩ := Attempt.bind_eq_ok.mp h
  split at h
  next => exact Value.mem_of_get? (Value.index_eq_ok_iff.mp h)
  next =>
    unfold mandatory at h
    split at h
    next => cases h
    next => exact Value.mem_of_get? (Value.index_eq_ok_iff.mp h)

/-- What the parts of a form are loaded from. -/
structure LoadedFrom (raw : Value) (form : Form) : Prop where
  id : mandatoryEither raw "Form" "id" "form_id" = .ok form.id
  name : mandatory raw "Form" "name" = .ok form.name
  updatedAt : ∃ time, mandatoryEither raw "Form" "updatedAt" "updated_at" = .ok time ∧
    readTime time = .ok form.updatedAt
  fields : ∃ all documents, lookupOr raw ["fields"] (.list []) = .ok all ∧
    all.elements = .ok documents ∧ documents.mapM Field.ofValue = .ok form.fields
  sections : ∃ all documents, lookupOr raw ["sections"] (.list []) = .ok all ∧
    all.elements = .ok documents ∧ documents.mapM Section.ofValue = .ok form.sections

theorem loadedFrom {raw : Value} {form : Form} (h : Form.ofValue raw = .ok form) :
    LoadedFrom raw form := by
  obtain ⟨id, hid, h⟩ := Attempt.bind_eq_ok.mp h
  obtain ⟨name, hname, h⟩ := Attempt.bind_eq_ok.mp h
  obtain ⟨time, htime, h⟩ := Attempt.bind_eq_ok.mp h
  obtain ⟨updatedAt, hupdatedAt, h⟩ := Attempt.bind_eq_ok.mp h
  obtain ⟨allFields, hallFields, h⟩ := Attempt.bind_eq_ok.mp h
  obtain ⟨fieldDocuments, hfieldDocuments, h⟩ := Attempt.bind_eq_ok.mp h
  obtain ⟨fields, hfields, h⟩ := Attempt.bind_eq_ok.mp h
  obtain ⟨allSections, hallSections, h⟩ := Attempt.bind_eq_ok.mp h
  obtain ⟨sectionDocuments, hsectionDocuments, h⟩ := Attempt.bind_eq_ok.mp h
  obtain ⟨sections, hsections, h⟩ := Attempt.bind_eq_ok.mp h
  cases h
  exact
    { id := hid
      name := hname
      updatedAt := ⟨time, htime, hupdatedAt⟩
      fields := ⟨allFields, fieldDocuments, hallFields, hfieldDocuments, hfields⟩
      sections := ⟨allSections, sectionDocuments, hallSections, hsectionDocuments, hsections⟩ }

/-- The document of a form with another time of its last change. -/
def restamped (es : Table Value Value) (time : Value) : Value :=
  .map (es.insert (.text "updatedAt") time)

/-- Another time of change leaves the rest of a form as it was loaded. -/
theorem ofValue_restamped {form : Form} (h : Form.ofValue (.map es) = .ok form) (time : Value) :
    Form.ofValue (restamped es time) =
      (readTime time).map fun t => { form with updatedAt := t } := by
  obtain ⟨hid, hname, -, ⟨allFields, fieldDocuments, hallFields, hfieldDocuments, hfields⟩,
    ⟨allSections, sectionDocuments, hallSections, hsectionDocuments, hsections⟩⟩ := loadedFrom h
  unfold Form.ofValue restamped
  rw [mandatoryEither_insert_of_ne (by decide) (by decide), hid,
    mandatory_insert_of_ne (by decide), hname, mandatoryEither_insert_self,
    lookupOr_insert_of_notMem (by decide), hallFields, lookupOr_insert_of_notMem (by decide),
    hallSections]
  simp only [bind, Except.bind, hfieldDocuments, hfields, hsectionDocuments, hsections]
  cases readTime time <;> rfl

end

/-! ### Reading a version -/

theorem expandZone_append (s t : String) : expandZone (s ++ t) = expandZone s ++ expandZone t := by
  unfold expandZone
  rw [String.toList_append, List.flatMap_append, String.ofList_append]

theorem expandZone_of_forall {s : String} (h : ∀ c ∈ s.toList, c ≠ 'Z') : expandZone s = s := by
  have hsame : ∀ c ∈ s.toList, (if c = 'Z' then "+00:00".toList else [c]) = [c] :=
    fun c hc => if_neg (h c hc)
  unfold expandZone
  rw [List.flatMap_congr hsame, List.flatMap_singleton', String.ofList_toList]

theorem expandZone_of_digits {s : String} (h : AllDigits s.toList) : expandZone s = s := by
  apply expandZone_of_forall
  rintro c hc rfl
  exact absurd (h _ hc) (by decide)

theorem expandZone_padded {width n : Nat} (hw : 0 < width) (hn : n < 10 ^ width) :
    expandZone (padded width n) = padded width n :=
  expandZone_of_digits (padded_spec hw hn).2.1

section

variable {u : Timestamp}

/-- The sign of universal time is the only letter that is replaced. -/
theorem expandZone_versionText (h : u.OnClock) :
    expandZone u.versionText = toString u.date.year ++ ("-" ++ (padded 2 u.date.month ++ ("-" ++
      (padded 2 u.date.day ++ ("T" ++ (clockWithMillis u.hour u.minute u.second
        (u.microsecond / 1000) ++ "+00:00")))))) := by
  obtain ⟨hdate, hhour, hminute, hsecond, hmicro⟩ := h
  obtain ⟨-, hmonth, hday⟩ := Date.bounds_of_isReal hdate
  -- The year is a run of digits of any length, the rest has a fixed count of them.
  have hyear : expandZone (toString u.date.year) = toString u.date.year :=
    expandZone_of_digits (Calendar.allDigits_toString _)
  have htwo {n : Nat} (hn : n < 10 ^ 2) : expandZone (padded 2 n) = padded 2 n :=
    expandZone_padded (by omega) hn
  have hmilli : expandZone (padded 3 (u.microsecond / 1000)) = padded 3 (u.microsecond / 1000) :=
    expandZone_padded (by omega) (by omega)
  have hhyphen : expandZone "-" = "-" := by decide
  have hT : expandZone "T" = "T" := by decide
  have hcolon : expandZone ":" = ":" := by decide
  have hpoint : expandZone "." = "." := by decide
  have hzone : expandZone "Z" = "+00:00" := by decide
  unfold Timestamp.versionText Timestamp.plainText clockWithMillis Timestamp.clockText
  simp only [expandZone_append, hyear, htwo hmonth, htwo hday, htwo (by omega : u.hour < 10 ^ 2),
    htwo (by omega : u.minute < 10 ^ 2), htwo (by omega : u.second < 10 ^ 2), hmilli, hhyphen, hT,
    hcolon, hpoint, hzone, String.append_assoc]

/-- A version with a year of four digits is read as universal time, cut to the millisecond. -/
theorem readTime_versionText (h : u.OnClock) (hyear : 1000 ≤ u.date.year) :
    readTime (.text u.versionText) =
      .ok { u with microsecond := u.microsecond / 1000 * 1000, offset := some 0 } := by
  have hmilli : u.microsecond / 1000 < 10 ^ 3 := by
    have hmicro := h.microsecond
    omega
  have hread := Calendar.readTimestamp?_isoText h.date h.hour h.minute h.second hmilli
  unfold Date.isoText at hread
  rw [Calendar.padded_succ_eq_toString (by omega) hyear] at hread
  simp only [String.append_assoc] at hread
  unfold readTime
  simp only [expandZone_versionText h, hread]

theorem readTime_versionText_of_lt (h : u.OnClock) (hyear : u.date.year < 1000) :
    readTime (.text u.versionText) =
      .error (.load (.invalidTimestamp (.text u.versionText))) := by
  unfold readTime
  simp only [expandZone_versionText h, Calendar.readTimestamp?_eq_none hyear]

theorem universalMicros_cut :
    ({ u with microsecond := u.microsecond / 1000 * 1000, offset := some 0 } :
      Timestamp).universalMicros = (u.localMicros : Int) / 1000 * 1000 := by
  unfold Timestamp.universalMicros Timestamp.localMicros Timestamp.microsOfDay
    Timestamp.microsPerDay Timestamp.microsPerSecond
  dsimp only [Option.getD_some]
  omega

end

/-! ### Times of loaded forms -/

theorem isReal_of_readTime {raw : Value} {t : Timestamp}
    (hraw : ∀ moment, raw = .timestamp moment → moment.isReal = true) (h : readTime raw = .ok t) :
    t.isReal = true := by
  unfold readTime at h
  dsimp only at h
  split at h
  next moment hread =>
    cases h
    split at hread
    next =>
      cases hread
      exact hraw _ rfl
    next => exact Calendar.isReal_of_readTimestamp? hread
    next => cases hread
  next => cases h

theorem isReal_updatedAt {es : Table Value Value} {form : Form}
    (h : Form.ofValue (.map es) = .ok form)
    (hes : ∀ e ∈ es, ∀ t, e.2 = .timestamp t → t.isReal = true) :
    form.updatedAt.isReal = true := by
  obtain ⟨raw, hraw, ht⟩ := (loadedFrom h).updatedAt
  obtain ⟨e, he, rfl⟩ := exists_of_mandatoryEither hraw
  exact isReal_of_readTime (hes e he) ht

/-! ### Versions of compiled forms -/

section

variable {form : Form}

theorem version?_of_compile {c : CompiledForm} (h : form.compile = .ok c) :
    form.updatedAt.version? = some c.version := by
  unfold compile at h
  obtain ⟨version, hversion, h⟩ := Attempt.bind_eq_ok.mp h
  obtain ⟨schema, -, h⟩ := Attempt.bind_eq_ok.mp h
  obtain ⟨layout, -, h⟩ := Attempt.bind_eq_ok.mp h
  obtain ⟨rules, -, h⟩ := Attempt.bind_eq_ok.mp h
  cases h
  unfold Form.version at hversion
  split at hversion
  next hsome =>
    cases hversion
    exact hsome
  next => cases hversion

theorem compile_eq_outOfRange (h : form.updatedAt.version? = none) :
    form.compile = .error .outOfRange := by
  have hversion : form.version = .error .outOfRange := by
    unfold Form.version
    rw [h]
  rw [compile, hversion]
  rfl

/-- Of the time of its last change a compilation needs no more than that it has a version. -/
theorem exists_compile_of_version? {time : Timestamp} {compiled : CompiledForm} {v : String}
    (hrest : ({ form with updatedAt := time } : Form).compile = .ok compiled)
    (hv : form.updatedAt.version? = some v) : ∃ c, form.compile = .ok c ∧ c.version = v := by
  have hother := compile_isOk_iff.mp ⟨compiled, hrest⟩
  have hcompilable : Compilable form :=
    { version := Option.isSome_iff_exists.mpr ⟨v, hv⟩
      options := hother.options
      names := hother.names
      places := hother.places
      sectionIds := hother.sectionIds
      fieldIds := hother.fieldIds
      sources := hother.sources }
  obtain ⟨c, hc⟩ := compile_isOk_iff.mpr hcompilable
  have hversion := version?_of_compile hc
  rw [hv] at hversion
  exact ⟨c, hc, (Option.some.inj hversion).symm⟩

end

/-- Nothing but the time of its last change keeps a form from being compiled. -/
def CompilesAtSomeTime (form : Form) : Prop :=
  ∃ time c, ({ form with updatedAt := time } : Form).compile = .ok c

/-- A form compiles, and its document under the version loads as the same form at the instant of its
last change, cut to the millisecond. -/
def VersionReloads (es : Table Value Value) (form : Form) : Prop :=
  ∃ c t, form.compile = .ok c ∧
    Form.ofValue (restamped es (.text c.version)) = .ok { form with updatedAt := t } ∧
    t.universalMicros = form.updatedAt.universalMicros / 1000 * 1000

section

variable {es : Table Value Value} {form : Form}

/-- An instant in the calendar of universal time has a version, which is written from its reading. -/
theorem exists_compile_of_within (hreal : form.updatedAt.isReal = true)
    (hrest : form.CompilesAtSomeTime)
    (hin : form.updatedAt.Within 1 Date.maxYear) :
    ∃ c, ∃ u : Timestamp, form.compile = .ok c ∧ c.version = u.versionText ∧ u.OnClock ∧
      (u.localMicros : Int) = form.updatedAt.universalMicros := by
  obtain ⟨time, compiled, hrest⟩ := hrest
  obtain ⟨u, hclock, hinstant, hversion⟩ := Timestamp.exists_version hreal hin
  obtain ⟨c, hcompile, htext⟩ := exists_compile_of_version? hrest hversion
  exact ⟨c, u, hcompile, htext, hclock, hinstant⟩

theorem versionReloads_of_within (hload : Form.ofValue (.map es) = .ok form)
    (hreal : form.updatedAt.isReal = true)
    (hrest : form.CompilesAtSomeTime)
    (hin : form.updatedAt.Within 1000 Date.maxYear) : VersionReloads es form := by
  have hthousand : Timestamp.startOf 1 ≤ Timestamp.startOf 1000 := by decide
  obtain ⟨c, u, hcompile, htext, hclock, hinstant⟩ :=
    exists_compile_of_within hreal hrest ⟨Int.le_trans hthousand hin.1, hin.2⟩
  have hyear : 1000 ≤ u.date.year := by
    rw [← Nat.not_lt, hclock.year_lt_iff (by omega), Int.not_lt, hinstant]
    exact hin.1
  refine ⟨c, { u with microsecond := u.microsecond / 1000 * 1000, offset := some 0 }, hcompile,
    ?_, ?_⟩
  · rw [ofValue_restamped hload, htext, readTime_versionText hclock hyear]
    rfl
  · rw [universalMicros_cut, hinstant]

theorem reload_eq_error_of_within (hload : Form.ofValue (.map es) = .ok form)
    (hreal : form.updatedAt.isReal = true)
    (hrest : form.CompilesAtSomeTime)
    (hin : form.updatedAt.Within 1 999) :
    ∃ c, form.compile = .ok c ∧ Form.ofValue (restamped es (.text c.version)) =
      .error (.load (.invalidTimestamp (.text c.version))) := by
  have hlast : Timestamp.startOf 1000 ≤ Timestamp.startOf (Date.maxYear + 1) := by decide
  obtain ⟨c, u, hcompile, htext, hclock, hinstant⟩ :=
    exists_compile_of_within hreal hrest ⟨hin.1, Int.lt_of_lt_of_le hin.2 hlast⟩
  have hyear : u.date.year < 1000 := by
    rw [hclock.year_lt_iff (by omega), hinstant]
    exact hin.2
  refine ⟨c, hcompile, ?_⟩
  rw [ofValue_restamped hload, htext, readTime_versionText_of_lt hclock hyear]
  rfl

/-- The version of a loaded form reloads it exactly if the instant of its last change lies in a year
of four digits. In the years before, the version is a text that is not read as a time, and outside
the calendar there is no version. -/
theorem version_reloads_iff (hload : Form.ofValue (.map es) = .ok form)
    (hreal : ∀ e ∈ es, ∀ t, e.2 = .timestamp t → t.isReal = true)
    (hrest : form.CompilesAtSomeTime) :
    (VersionReloads es form ↔ form.updatedAt.Within 1000 9999) ∧
      (form.updatedAt.Within 1 999 → ∃ c, form.compile = .ok c ∧
        Form.ofValue (restamped es (.text c.version)) =
          .error (.load (.invalidTimestamp (.text c.version)))) ∧
      (¬ form.updatedAt.Within 1 9999 → form.compile = .error .outOfRange) := by
  have hstamp := isReal_updatedAt hload hreal
  have hearly := reload_eq_error_of_within hload hstamp hrest
  have houtside : ¬ form.updatedAt.Within 1 9999 → form.compile = .error .outOfRange :=
    fun hout => compile_eq_outOfRange (Timestamp.version?_eq_none hstamp hout)
  refine ⟨⟨?_, versionReloads_of_within hload hstamp hrest⟩, hearly, houtside⟩
  rintro ⟨c, t, hcompile, hreload, -⟩
  by_contra hnot
  -- Before the year 1000 the reload fails, and outside the calendar the compilation does.
  by_cases hin : form.updatedAt.Within 1 9999
  · have hbefore : form.updatedAt.Within 1 999 :=
      ⟨hin.1, Int.not_le.mp fun hfirst => hnot ⟨hfirst, hin.2⟩⟩
    obtain ⟨c', hcompile', hfault⟩ := hearly hbefore
    obtain rfl := Except.ok.inj (hcompile.symm.trans hcompile')
    rw [hreload] at hfault
    cases hfault
  · rw [houtside hin] at hcompile
    cases hcompile

end

/-- The document of a form that asks nothing. -/
def notice (time : Value) : Table Value Value :=
  [(.text "id", .text "n"), (.text "name", .text "Notice"), (.text "updated_at", time)]

/-- The last of February in a zone ahead of universal time. -/
def leapDay : Timestamp := ⟨⟨2024, 2, 29⟩, 0, 30, 15, 987654, some 19800000000⟩

theorem version_notice : (do
    let form ← Form.ofValue (.map (notice (.timestamp leapDay)))
    let c ← form.compile
    return (form.updatedAt, c.version)) = .ok (leapDay, "2024-02-28T19:00:15.987Z") := by
  cbv

theorem version_reloads_iff_notice : let es := notice (.timestamp leapDay)
    ∃ form c, Form.ofValue (.map es) = .ok form ∧
      (∀ e ∈ es, ∀ t, e.2 = .timestamp t → t.isReal = true) ∧
      form.CompilesAtSomeTime ∧ form.compile = .ok c ∧ form.updatedAt.Within 1000 9999 ∧
      c.version = "2024-02-28T19:00:15.987Z" ∧ VersionReloads es form := by
  intro es
  obtain ⟨form, hload, hrun⟩ := Attempt.bind_eq_ok.mp version_notice
  obtain ⟨c, hcompile, hpair⟩ := Attempt.bind_eq_ok.mp hrun
  obtain ⟨htime, hversion⟩ := Prod.mk.inj (Except.ok.inj hpair)
  have hrest : form.CompilesAtSomeTime := ⟨form.updatedAt, c, hcompile⟩
  have hreal : ∀ e ∈ es, ∀ t, e.2 = .timestamp t → t.isReal = true := by
    have hleap : leapDay.isReal = true := by decide
    simp [es, notice, hleap]
  have hin : form.updatedAt.Within 1000 9999 := by
    rw [htime]
    constructor <;> decide
  obtain ⟨hiff, -⟩ := version_reloads_iff hload hreal hrest
  exact ⟨form, c, hload, hreal, hrest, hcompile, hin, hversion, hiff.mpr hin⟩

/-- The year is not padded, so the version of a time in the year 999 is no time. -/
theorem not_version_reloads_notice :
    let es := notice (.text "0999-12-31T23:59:59Z")
    ∃ form c, Form.ofValue (.map es) = .ok form ∧ form.compile = .ok c ∧
      c.version = "999-12-31T23:59:59.000Z" ∧ ¬ VersionReloads es form := by
  intro es
  have hrun : (do
      let form ← Form.ofValue (.map es)
      let c ← form.compile
      return c.version) = .ok "999-12-31T23:59:59.000Z" := by cbv
  have hreload : Form.ofValue (restamped es (.text "999-12-31T23:59:59.000Z")) =
      .error (.load (.invalidTimestamp (.text "999-12-31T23:59:59.000Z"))) := by cbv
  obtain ⟨form, hload, hrun⟩ := Attempt.bind_eq_ok.mp hrun
  obtain ⟨c, hcompile, hversion⟩ := Attempt.bind_eq_ok.mp hrun
  have hversion := Except.ok.inj hversion
  refine ⟨form, c, hload, hcompile, hversion, ?_⟩
  rintro ⟨c', t, hcompile', hloaded, -⟩
  obtain rfl := Except.ok.inj (hcompile.symm.trans hcompile')
  rw [hversion, hreload] at hloaded
  cases hloaded

end ServiceBlueprint.Form
