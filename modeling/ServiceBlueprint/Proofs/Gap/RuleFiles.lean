import ServiceBlueprint.Gap.Configured
import ServiceBlueprint.Proofs.Attempt
import ServiceBlueprint.Proofs.Text.Octets

/-!
# Rules in files

Every stored file is found by its own steps, and has a text exactly if its octets are the UTF-8 form
of one. The rules of a file are those of its text with every line ended by a line feed. Where there
is no text the fault is that of octets that cannot be decoded, and no refusal of the rules.
-/

namespace ServiceBlueprint

namespace Storage

/-! ### Files that are stored -/

namespace Directory

variable {d : Directory} {f : File}

/-- No file is at the place of another or below it, and the names of all can be stored. -/
structure Sound (d : Directory) : Prop where
  apart : ∀ f ∈ d, ∀ g ∈ d, f.steps <+: g.steps → f = g
  nonempty : ∀ f ∈ d, f.steps ≠ []
  names : ∀ f ∈ d, ∀ s ∈ f.steps, s ≠ ".." ∧ s.utf8ByteSize ≤ maxNameLength
  paths : ∀ f ∈ d, (Path.mk .here f.steps).text.utf8ByteSize ≤ maxPathLength

theorem Sound.file?_eq (hd : d.Sound) (hf : f ∈ d) {steps : List String}
    (h : steps <+: f.steps) : d.file? steps = if steps = f.steps then some f.octets else none := by
  have hsame {g : File} (hg : g ∈ d) (hsteps : g.steps = steps) : g = f :=
    hd.apart g hg f hf (hsteps ▸ h)
  unfold file?
  split
  next heq =>
    obtain ⟨g, hg⟩ : ∃ g, d.find? (·.steps = steps) = some g := by
      rw [← Option.isSome_iff_exists, List.find?_isSome]
      exact ⟨f, hf, decide_eq_true heq.symm⟩
    have hsteps := List.find?_some hg
    rw [hg, hsame (List.mem_of_find?_eq_some hg) (of_decide_eq_true hsteps)]
    rfl
  next hne =>
    rw [Option.map_eq_none_iff, List.find?_eq_none]
    intro g hg hsteps
    have hgf := hsame hg (of_decide_eq_true hsteps)
    exact hne (hgf ▸ (of_decide_eq_true hsteps).symm)

/-- The walk to a file, from any place on the way. -/
theorem Sound.walk (hd : d.Sound) (hf : f ∈ d) {pre rest : List String} (hrest : rest ≠ [])
    (h : pre ++ rest = f.steps) :
    rest.foldlM d.step (.inside pre) = .ok (.file f.octets) := by
  induction rest generalizing pre with
  | nil => exact absurd rfl hrest
  | cons s rest ih =>
    have hthere : pre ++ [s] ++ rest = f.steps := by
      rw [← h, List.append_assoc, List.singleton_append]
    have hs : s ∈ f.steps := h ▸ List.mem_append_right pre List.mem_cons_self
    obtain ⟨hup, hshort⟩ := hd.names f hf s hs
    have hfile := hd.file?_eq hf (Exists.intro rest hthere)
    have hstep : d.step (.inside pre) s = .ok
        (if rest = [] then .file f.octets else .inside (pre ++ [s])) := by
      have hdirectory : d.hasDirectory (pre ++ [s]) = true :=
        List.any_eq_true.mpr ⟨f, hf, List.isPrefixOf_iff_prefix.mpr ⟨rest, hthere⟩⟩
      simp only [step, if_neg hup, if_neg (Nat.not_lt.mpr hshort), hfile]
      by_cases hlast : rest = []
      · rw [hlast, List.append_nil] at hthere
        rw [if_pos hthere, if_pos hlast]
      · have hbefore : pre ++ [s] ≠ f.steps := fun heq => hlast (by simpa [heq] using hthere)
        rw [if_neg hbefore, if_neg hlast, if_pos hdirectory]
    rw [List.foldlM_cons, hstep]
    by_cases hlast : rest = []
    · rw [if_pos hlast, hlast]
      rfl
    · rw [if_neg hlast]
      exact ih hlast hthere

/-- The octets of a stored file are read by its steps. -/
theorem Sound.readOctets_eq (hd : d.Sound) (hf : f ∈ d) :
    d.readOctets ⟨.here, f.steps⟩ = .ok f.octets := by
  have hlocate : d.locate ⟨.here, f.steps⟩ = .ok (.file f.octets) := by
    rw [locate, if_neg (Nat.not_lt.mpr (hd.paths f hf))]
    exact hd.walk hf (hd.nonempty f hf) (List.nil_append _)
  rw [readOctets, hlocate]
  rfl

end Directory

/-! ### Texts of files -/

/-- The second text has the lines of the first, each ended by a line feed alone. -/
inductive SameLines : List Char → List Char → Prop
  | nil : SameLines [] []
  | pair {cs ds : List Char} (h : SameLines cs ds) : SameLines ('\r' :: '\n' :: cs) ('\n' :: ds)
  | alone {cs ds : List Char} (hcs : cs.head? ≠ some '\n') (h : SameLines cs ds) :
      SameLines ('\r' :: cs) ('\n' :: ds)
  | other {c : Char} {cs ds : List Char} (hc : c ≠ '\r') (h : SameLines cs ds) :
      SameLines (c :: cs) (c :: ds)

theorem normalBreaks_alone {cs : List Char} (h : cs.head? ≠ some '\n') :
    normalBreaks ('\r' :: cs) = '\n' :: normalBreaks cs := by
  cases cs with
  | nil => rfl
  | cons c cs =>
    rw [normalBreaks]
    intro cs' hcs'
    cases hcs'
    exact h rfl

theorem sameLines_iff {cs ds : List Char} : SameLines cs ds ↔ normalBreaks cs = ds := by
  constructor
  · intro h
    induction h with
    | nil => rfl
    | pair _ ih => rw [normalBreaks, ih]
    | alone hcs _ ih => rw [normalBreaks_alone hcs, ih]
    | other hc _ ih =>
      rw [normalBreaks, ih]
      · exact fun _ h => absurd h hc
      · exact hc
  · rintro rfl
    fun_induction normalBreaks cs with
    | case1 cs ih => exact .pair ih
    | case2 cs hcs ih =>
      refine .alone ?_ ih
      cases cs with
      | nil => exact nofun
      | cons c cs =>
        rintro ⟨⟩
        exact hcs cs rfl
    | case3 c cs _ hc ih => exact .other hc ih
    | case4 => exact .nil

/-- The octets are the UTF-8 form of a text with the lines of the given one. -/
def IsTextOf (octets : List Nat) (t : String) : Prop :=
  ∃ s, Text.toOctets s = octets ∧ SameLines s.toList t.toList

theorem exists_isTextOf {octets : List Nat} {s : String} (h : Text.toOctets s = octets) :
    ∃ t, IsTextOf octets t :=
  ⟨String.ofList (normalBreaks s.toList), s, h, sameLines_iff.mpr String.toList_ofList.symm⟩

theorem textOf_eq_ok {octets : List Nat} (hoctets : ∀ o ∈ octets, o < 256) {t : String}
    (h : IsTextOf octets t) : textOf octets = .ok t := by
  obtain ⟨s, hs, hlines⟩ := h
  rw [textOf, (Text.ofOctets?_eq_some_iff hoctets).mpr hs]
  change Except.ok (String.ofList (normalBreaks s.toList)) = _
  rw [sameLines_iff.mp hlines, String.ofList_toList]

theorem textOf_eq_error {octets : List Nat} (hoctets : ∀ o ∈ octets, o < 256)
    (h : ¬ ∃ s, Text.toOctets s = octets) : textOf octets = .error .undecodable := by
  have hnone : Text.ofOctets? octets = none := by
    rw [Option.eq_none_iff_forall_ne_some]
    intro s hs
    exact h ⟨s, (Text.ofOctets?_eq_some_iff hoctets).mp hs⟩
  rw [textOf, hnone]

end Storage

/-! ### Rules of files -/

namespace Gap

open Storage

variable {d : Directory} {p : Path} {octets : List Nat}

/-- A file has the rules of its text, and is refused as one of rules if it has no text. -/
structure ReadAsRules (d : Directory) (p : Path) (octets : List Nat) : Prop where
  text : ∀ t, IsTextOf octets t → RuleSet.ofFile d p = RuleSet.ofMarkup t
  noText : (¬ ∃ s, Text.toOctets s = octets) → ∃ e, RuleSet.ofFile d p = .error (.rules e)

namespace RuleSet

theorem ofFile_eq (hfile : d.readOctets p = .ok octets) :
    ofFile d p = textOf octets >>= ofMarkup := by
  rw [ofFile, hfile]

theorem ofFile_of_isTextOf (hoctets : ∀ o ∈ octets, o < 256)
    (hfile : d.readOctets p = .ok octets) {t : String} (ht : IsTextOf octets t) :
    ofFile d p = ofMarkup t := by
  rw [ofFile_eq hfile, textOf_eq_ok hoctets ht]
  rfl

theorem ofFile_of_noText (hoctets : ∀ o ∈ octets, o < 256)
    (hfile : d.readOctets p = .ok octets) (h : ¬ ∃ s, Text.toOctets s = octets) :
    ofFile d p = .error .undecodable := by
  rw [ofFile_eq hfile, textOf_eq_error hoctets h]
  rfl

end RuleSet

/-- A file whose octets are the UTF-8 form of a text has the rules of that text, its lines ended by
line feeds. Any other file is a fault of its own, so what is asked of reading holds exactly for the
files that have a text. -/
theorem readAsRules_iff (hoctets : ∀ o ∈ octets, o < 256)
    (hfile : d.readOctets p = .ok octets) :
    (ReadAsRules d p octets ↔ ∃ s, Text.toOctets s = octets) ∧
      ((∃ t, IsTextOf octets t ∧ RuleSet.ofFile d p = RuleSet.ofMarkup t) ∨
        (¬ ∃ s, Text.toOctets s = octets) ∧ RuleSet.ofFile d p = .error .undecodable) := by
  constructor
  · constructor
    · intro h
      by_contra hnone
      obtain ⟨e, he⟩ := h.noText hnone
      rw [RuleSet.ofFile_of_noText hoctets hfile hnone] at he
      cases he
    · intro hs
      exact ⟨fun t => RuleSet.ofFile_of_isTextOf hoctets hfile, fun hnone => absurd hs hnone⟩
  · by_cases hs : ∃ s, Text.toOctets s = octets
    · obtain ⟨s, hs⟩ := hs
      obtain ⟨t, ht⟩ := exists_isTextOf hs
      exact Or.inl ⟨t, ht, RuleSet.ofFile_of_isTextOf hoctets hfile ht⟩
    · exact Or.inr ⟨hs, RuleSet.ofFile_of_noText hoctets hfile hs⟩

/-- Rules below a directory, with lines that end in two ways, and beside them an octet that is no
text. -/
def rulesFolder : Directory :=
  [⟨["rules", "local.yaml"], Text.toOctets "rules:\r\n  missing_fields: []\r"⟩,
    ⟨["rules", "stray.yaml"], [0xff]⟩]

theorem sound_rulesFolder : rulesFolder.Sound where
  apart := by simp [rulesFolder]
  nonempty := by simp [rulesFolder]
  names := List.forall_mem_cons.mpr ⟨by decide, List.forall_mem_singleton.mpr (by decide)⟩
  paths := List.forall_mem_cons.mpr ⟨by decide, List.forall_mem_singleton.mpr (by decide)⟩

theorem readAsRules_iff_rulesFolder :
    rulesFolder.readOctets ⟨.here, ["rules", "local.yaml"]⟩ =
        .ok (Text.toOctets "rules:\r\n  missing_fields: []\r") ∧
      ReadAsRules rulesFolder ⟨.here, ["rules", "local.yaml"]⟩
        (Text.toOctets "rules:\r\n  missing_fields: []\r") ∧
      IsTextOf (Text.toOctets "rules:\r\n  missing_fields: []\r")
        "rules:\n  missing_fields: []\n" := by
  have hfile := sound_rulesFolder.readOctets_eq List.mem_cons_self
  exact ⟨hfile, (readAsRules_iff (fun _ => Text.lt_of_mem_toOctets) hfile).1.mpr ⟨_, rfl⟩,
    _, rfl, sameLines_iff.mpr (by decide)⟩

theorem not_readAsRules_stray :
    ¬ ∀ (d : Directory) (p : Path) (octets : List Nat), (∀ o ∈ octets, o < 256) →
      d.readOctets p = .ok octets → ReadAsRules d p octets := by
  intro h
  have hfile : rulesFolder.readOctets ⟨.here, ["rules", "stray.yaml"]⟩ = .ok [0xff] :=
    sound_rulesFolder.readOctets_eq (List.mem_cons_of_mem _ List.mem_cons_self)
  have hoctets : ∀ o ∈ [0xff], o < 256 := by decide
  have hnone : ¬ ∃ s, Text.toOctets s = [0xff] := by
    rintro ⟨s, hs⟩
    have hread := (Text.ofOctets?_eq_some_iff hoctets).mpr hs
    have hfail : Text.ofOctets? [0xff] = none := by decide +kernel
    rw [hfail] at hread
    cases hread
  obtain ⟨e, he⟩ := (h _ _ _ hoctets hfile).noText hnone
  rw [RuleSet.ofFile_of_noText hoctets hfile hnone] at he
  cases he

end Gap

end ServiceBlueprint
