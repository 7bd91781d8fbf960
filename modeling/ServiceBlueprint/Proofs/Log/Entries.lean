import ServiceBlueprint.Log.Record
import ServiceBlueprint.Proofs.Attempt
import ServiceBlueprint.Proofs.Calendar.Instant
import ServiceBlueprint.Proofs.Value.Text

/-!
# What stands in the JSON form of a record

Time, level, logger and message of a record stand under names of their own, and further entries
beside them. The names that a record refuses for further entries are not these: only the message is
safe. An entry called for the time, the level or the logger takes its place, so the record keeps its
own entries exactly if there is no such entry, or none of another value.
-/

namespace ServiceBlueprint.Log

open Value (Quantity)

/-! ### The time of a record -/

/-- The reading of universal time after as many microseconds since 1970. -/
structure IsMomentOf (created : Quantity) (t : Timestamp) : Prop where
  onClock : t.OnClock
  universal : t.offset = some 0
  micros : microsOf? created = some (t.localMicros - epochOrdinal * Timestamp.microsPerDay)

theorem isoTime?_eq_bind (created : Quantity) : isoTime? created =
    (microsOf? created).bind fun n =>
      let micros := n + epochOrdinal * Timestamp.microsPerDay
      if micros.fdiv Timestamp.microsPerDay < 1 ∨
          (Date.maxOrdinal : Int) < micros.fdiv Timestamp.microsPerDay then none
      else some (Timestamp.ofMicros (some 0) micros.toNat).isoText := rfl

/-- The days of the calendar are those from its first microsecond to its last. -/
theorem isDay_iff (micros : Int) :
    ¬ (micros.fdiv Timestamp.microsPerDay < 1 ∨
        (Date.maxOrdinal : Int) < micros.fdiv Timestamp.microsPerDay) ↔
      Timestamp.startOf 1 ≤ micros ∧ micros < Timestamp.startOf (Date.maxYear + 1) := by
  have hstart : Timestamp.startOf 1 = (86400000000 : Nat) := rfl
  have hend : Timestamp.startOf (Date.maxYear + 1) =
      ((Date.maxOrdinal + 1) * 86400000000 : Nat) := rfl
  have hday : ((Timestamp.microsPerDay : Nat) : Int) = 86400000000 := rfl
  rw [hstart, hend, hday, Int.fdiv_eq_ediv_of_nonneg _ (by omega)]
  omega

theorem isoTime?_of_isMomentOf {created : Quantity} {t : Timestamp} (h : IsMomentOf created t) :
    isoTime? created = some t.isoText := by
  have hin := (isDay_iff t.localMicros).mpr h.onClock.localMicros_bounds
  rw [isoTime?_eq_bind, h.micros, Option.bind_some, Int.sub_add_cancel]
  dsimp only
  rw [if_neg hin, Int.toNat_natCast, ← h.universal,
    h.onClock.ofMicros_localMicros]

/-- The time is the text of the moment, if the calendar has one for it. -/
theorem isoTime?_eq_some_iff {created : Quantity} {time : String} :
    isoTime? created = some time ↔ ∃ t, IsMomentOf created t ∧ t.isoText = time := by
  constructor
  · intro h
    rw [isoTime?_eq_bind] at h
    obtain ⟨n, hn, h⟩ := Option.bind_eq_some_iff.mp h
    dsimp only at h
    split at h
    · cases h
    next hin =>
      obtain ⟨hfirst, hlast⟩ := (isDay_iff _).mp hin
      have hnonneg : ((n + epochOrdinal * Timestamp.microsPerDay).toNat : Int) =
          n + epochOrdinal * Timestamp.microsPerDay := by
        have hstart : Timestamp.startOf 1 = (86400000000 : Nat) := rfl
        omega
      rw [← hnonneg] at hfirst hlast
      obtain ⟨hclock, hlocal⟩ := Timestamp.ofMicros_spec (some 0) hfirst hlast
      refine ⟨_, ⟨hclock, rfl, ?_⟩, Option.some.inj h⟩
      rw [hlocal, hnonneg, Int.add_sub_cancel, hn]
  · rintro ⟨t, ht, rfl⟩
    exact isoTime?_of_isMomentOf ht

/-! ### Further entries -/

/-- Entries under names as those of a map. -/
def keyed (es : Table String Value) : Table Value Value :=
  es.map fun e => (.text e.1, e.2)

theorem isRefused_text_iff {name : String} :
    isRefused (.text name) = true ↔ name ∈ refusedNames := by
  unfold isRefused
  simp

/-- Entries under names are taken as they are, unless the record has one of the names itself. -/
theorem readExtra_keyed_iff {extra : Table String Value} {es : Table Value Value} :
    readExtra (.map (keyed extra)) = .ok es ↔
      (∀ e ∈ extra, e.1 ∉ refusedNames) ∧ keyed extra = es := by
  have hentry (e e' : Value × Value) :
      (if isRefused e.1 then .error .missingKey else .ok e : Attempt (Value × Value)) = .ok e' ↔
        ¬ isRefused e.1 = true ∧ e = e' := by
    cases isRefused e.1 <;> simp
  change (keyed extra).mapM (m := Attempt) _ = .ok es ↔ _
  rw [Attempt.mapM_eq_ok_iff]
  simp only [hentry]
  rw [List.forall₂_and_left, List.forall₂_eq_eq_eq]
  refine and_congr_left fun _ => ?_
  rw [keyed, List.forall_mem_map]
  simp only [isRefused_text_iff]

/-! ### The entries of a record -/

/-- The entries of a record whose time and message can be written. -/
def Record.entriesWith (r : Record) (extra : Table String Value) (time text : String) :
    Table String Value :=
  let added := (extra.filter fun e => isWritten e.1).foldl (fun t e => t.insert e.1 e.2)
    (r.standardEntries time text)
  match r.raised with
  | none => added
  | some e => added.insert "exception" (.text e.display)

section

variable {r : Record} {extra es : Table String Value}

theorem namedExtra?_of_keyed (h : keyed extra = r.extra) : r.namedExtra? = some extra := by
  unfold Record.namedExtra?
  rw [← h]
  clear h
  induction extra with
  | nil => rfl
  | cons e extra ih =>
    have hcons : keyed (e :: extra) = (.text e.1, e.2) :: keyed extra := rfl
    rw [hcons, List.mapM_cons, ih]
    rfl

theorem entries?_eq_some_iff (h : keyed extra = r.extra) : r.entries? = some es ↔
    ∃ time text, isoTime? r.created = some time ∧ r.text? = some text ∧
      r.entriesWith extra time text = es := by
  unfold Record.entries?
  rw [namedExtra?_of_keyed h]
  constructor
  · intro hes
    obtain ⟨time, htime, hes⟩ := Option.bind_eq_some_iff.mp hes
    obtain ⟨text, htext, hes⟩ := Option.bind_eq_some_iff.mp hes
    refine ⟨time, text, htime, htext, ?_⟩
    unfold Record.entriesWith
    cases hraised : r.raised <;> rw [hraised] at hes <;> exact Option.some.inj hes
  · rintro ⟨time, text, htime, htext, rfl⟩
    rw [htime, htext]
    unfold Record.entriesWith
    cases r.raised <;> rfl

theorem find?_entriesWith (hd : extra.Distinct) {name : String} (hname : name ≠ "exception")
    (time text : String) : (r.entriesWith extra time text).find? name =
      (if isWritten name then extra.find? name else none).or
        ((r.standardEntries time text).find? name) := by
  have hwritten : Table.Distinct (extra.filter fun e => isWritten e.1) := hd.filter _
  have hadded := Table.find?_foldl_insert_of_distinct hwritten (r.standardEntries time text) name
  rw [Table.find?_filter extra isWritten fun a b hab => by rw [eq_of_beq hab]] at hadded
  unfold Record.entriesWith
  split
  · exact hadded
  · rw [Table.find?_insert, if_neg (by simpa using hname.symm)]
    exact hadded

theorem distinct_standardEntries (r : Record) (time text : String) :
    Table.Distinct (r.standardEntries time text) := by
  simp [Table.Distinct, Record.standardEntries]

theorem distinct_entriesWith (time text : String) :
    Table.Distinct (r.entriesWith extra time text) := by
  have hadded := Table.distinct_foldl_insert (distinct_standardEntries r time text)
    (extra.filter fun e => isWritten e.1)
  unfold Record.entriesWith
  split
  · exact hadded
  · exact Table.distinct_insert hadded _ _

theorem json?_of_entries? (h : r.entries? = some es) :
    r.json? = some (Json.write (.map (keyed es))) := by
  unfold Record.json?
  rw [h]
  rfl

/-! ### Own entries and further ones -/

/-- Each entry of a record itself stands under its name. -/
def Keeps (own es : Table String Value) : Prop :=
  ∀ e ∈ own, es.find? e.1 = some e.2

theorem find?_own (hd : extra.Distinct) {time text : String} {e : String × Value}
    (he : e ∈ r.standardEntries time text) :
    (r.entriesWith extra time text).find? e.1 = (extra.find? e.1).or (some e.2) := by
  have hnames : ∀ name ∈ ["timestamp", "level", "logger", "message"],
      isWritten name = true ∧ name ≠ "exception" := by decide
  have hname := hnames e.1 (List.mem_map_of_mem (f := Prod.fst) he)
  rw [find?_entriesWith hd hname.2, if_pos hname.1,
    Table.find?_eq_some_of_mem (distinct_standardEntries r time text) he]

theorem keeps_entriesWith_iff (hd : extra.Distinct) (time text : String) :
    Keeps (r.standardEntries time text) (r.entriesWith extra time text) ↔
      ∀ e ∈ r.standardEntries time text, ∀ v, extra.find? e.1 = some v → v = e.2 := by
  refine forall_congr' fun e => forall_congr' fun he => ?_
  rw [find?_own hd he]
  cases extra.find? e.1 <;> simp

/-- No further entry may be called a message. -/
theorem find?_message (hd : extra.Distinct) (hfree : ∀ e ∈ extra, e.1 ∉ refusedNames)
    (time text : String) :
    (r.entriesWith extra time text).find? "message" = some (.text text) := by
  have hnone : extra.find? "message" = none := by
    rw [Table.find?_eq_none_iff]
    intro e he
    rw [beq_eq_false_iff_ne]
    intro hname
    exact hfree e he (hname ▸ by decide)
  have hmem : ("message", .text text) ∈ r.standardEntries time text := by
    simp [Record.standardEntries]
  have hown := find?_own hd hmem
  rwa [hnone] at hown

/-- A record that has a time and a message is written with its further entries beside its own. Its
own are kept exactly if no further entry of another value has the name of one, as may happen with
all but the message. -/
theorem own_entries_kept_iff (hd : extra.Distinct)
    (hextra : readExtra (.map (keyed extra)) = .ok r.extra) :
    ((∃ es, r.entries? = some es) ↔
        (∃ t, IsMomentOf r.created t) ∧ ∃ text, r.text? = some text) ∧
      ∀ es, r.entries? = some es →
        r.json? = some (Json.write (.map (keyed es))) ∧ es.Distinct ∧
        ∃ t text, IsMomentOf r.created t ∧ r.text? = some text ∧
          (Keeps (r.standardEntries t.isoText text) es ↔
            ∀ e ∈ r.standardEntries t.isoText text, ∀ v, extra.find? e.1 = some v → v = e.2) ∧
          es.find? "message" = some (.text text) ∧
          ∀ name, name ≠ "exception" → es.find? name =
            (if isWritten name then extra.find? name else none).or
              ((r.standardEntries t.isoText text).find? name) := by
  obtain ⟨hfree, hkeyed⟩ := readExtra_keyed_iff.mp hextra
  constructor
  · constructor
    · rintro ⟨es, hes⟩
      obtain ⟨time, text, htime, htext, -⟩ := (entries?_eq_some_iff hkeyed).mp hes
      obtain ⟨t, ht, -⟩ := isoTime?_eq_some_iff.mp htime
      exact ⟨⟨t, ht⟩, text, htext⟩
    · rintro ⟨⟨t, ht⟩, text, htext⟩
      exact ⟨_, (entries?_eq_some_iff hkeyed).mpr
        ⟨t.isoText, text, isoTime?_of_isMomentOf ht, htext, rfl⟩⟩
  · intro es hes
    obtain ⟨time, text, htime, htext, hes'⟩ := (entries?_eq_some_iff hkeyed).mp hes
    obtain ⟨t, ht, rfl⟩ := isoTime?_eq_some_iff.mp htime
    refine ⟨json?_of_entries? hes, hes' ▸ distinct_entriesWith _ _, t, text, ht, htext, ?_⟩
    subst hes'
    exact ⟨keeps_entriesWith_iff hd _ _, find?_message hd hfree _ _,
      fun name hname => find?_entriesWith hd hname _ _⟩

end

/-- A record of an application, with what else is known about it. -/
def application (extra : Table String Value) : Record where
  logger := "permits"
  level := .info
  message := .text "Application %s received"
  arguments := [.int 7]
  created := .whole 1705314600
  extra := keyed extra
  raised := none

theorem entries?_application (extra : Table String Value) :
    (application extra).entries? = some ((application extra).entriesWith extra
      "2024-01-15T10:30:00+00:00" "Application 7 received") := by
  have htime : isoTime? (.whole 1705314600) = some "2024-01-15T10:30:00+00:00" := by
    decide +kernel
  have htext : Template.fill "Application %s received" (.list [.int 7]) =
      some "Application 7 received" := by decide +kernel
  exact (entries?_eq_some_iff rfl).mpr ⟨_, _, htime, htext, rfl⟩

/-- Letter case tells names apart, and what begins with an underscore is kept back. -/
theorem own_entries_kept_iff_application :
    let extra : Table String Value :=
      [("gap_count", .int 3), ("Level", .text "ground"), ("_seen", .bool true)]
    extra.Distinct ∧ readExtra (.map (keyed extra)) = .ok (application extra).extra ∧
      ∃ es t text, (application extra).entries? = some es ∧
        IsMomentOf (application extra).created t ∧ (application extra).text? = some text ∧
        Keeps ((application extra).standardEntries t.isoText text) es ∧
        es.find? "gap_count" = some (.int 3) ∧ es.find? "Level" = some (.text "ground") ∧
        es.find? "_seen" = none := by
  intro extra
  have hd : extra.Distinct := by
    unfold Table.Distinct
    decide
  have hextra : readExtra (.map (keyed extra)) = .ok (application extra).extra :=
    readExtra_keyed_iff.mpr ⟨by decide, rfl⟩
  obtain ⟨-, hwritten⟩ := own_entries_kept_iff hd hextra
  obtain ⟨-, -, t, text, ht, htext, hkeeps, -, hfind⟩ := hwritten _ (entries?_application extra)
  refine ⟨hd, hextra, _, t, text, entries?_application extra, ht, htext, hkeeps.mpr ?_, ?_, ?_, ?_⟩
  · have hnone : ∀ name ∈ ["timestamp", "level", "logger", "message"],
        extra.find? name = none := by decide
    intro e he v hv
    rw [hnone e.1 (List.mem_map_of_mem (f := Prod.fst) he)] at hv
    cases hv
  · exact hfind "gap_count" (by decide)
  · exact hfind "Level" (by decide)
  · exact hfind "_seen" (by decide)

theorem not_own_entries_kept_urgent :
    ¬ ∀ (r : Record) (extra es : Table String Value), extra.Distinct →
      readExtra (.map (keyed extra)) = .ok r.extra → r.entries? = some es →
      ∃ t text, IsMomentOf r.created t ∧ r.text? = some text ∧
        Keeps (r.standardEntries t.isoText text) es := by
  intro h
  let extra : Table String Value := [("gap_count", .int 3), ("level", .text "urgent")]
  have hd : extra.Distinct := by
    unfold Table.Distinct
    decide
  have hextra : readExtra (.map (keyed extra)) = .ok (application extra).extra :=
    readExtra_keyed_iff.mpr ⟨by decide, rfl⟩
  obtain ⟨t, text, -, -, hkeeps⟩ := h _ _ _ hd hextra (entries?_application extra)
  have hmem (time text : String) :
      ("level", .text "INFO") ∈ (application extra).standardEntries time text :=
    List.mem_cons_of_mem _ List.mem_cons_self
  have hlevel := hkeeps _ (hmem _ _)
  rw [find?_own hd (hmem _ _)] at hlevel
  exact absurd hlevel (by decide)

end ServiceBlueprint.Log
