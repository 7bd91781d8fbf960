import ServiceBlueprint.Proofs.Text.Octets
import ServiceBlueprint.Value.Access

/-!
# Pointers into JSON

A pointer leads from a value to a part of it, step by step, by keys of maps and places in lists.
Its text has a `/` in front of every step; in a step `~0` stands for `~` and `~1` for `/`. As a
reference the text follows a `#`, and there an octet may stand as `%` with two hexadecimal digits.
A step that is put into a reference unescaped is read back only if it has none of the three
characters; if it has one, nothing is read or the first step that is read is shorter.
-/

namespace ServiceBlueprint.Json

/-- The steps from a value to a part of it. -/
abbrev Pointer := List String

namespace Pointer

/-- A place in a list, written without leading zeros. -/
def index? (step : String) : Option Nat :=
  step.toNat?.filter fun n => toString n = step

/-- The part of a value that a pointer leads to. -/
def resolve? : Pointer → Value → Option Value
  | [], v => some v
  | step :: p, .map entries => (Table.find? entries (.text step)).bind (resolve? p)
  | step :: p, .list items => ((index? step).bind fun i => items[i]?).bind (resolve? p)
  | _ :: _, _ => none

/-! ### Reading -/

/-- What a character behind `~` stands for. -/
def escaped? : Char → Option Char
  | '0' => some '~'
  | '1' => some '/'
  | _ => none

/-- The step that the characters begin with, and the steps behind it. -/
def readSteps : List Char → Option (List Char × List (List Char))
  | [] => some ([], [])
  | '/' :: cs => do
    let (step, steps) ← readSteps cs
    return ([], step :: steps)
  | '~' :: c :: cs => do
    let c ← escaped? c
    let (step, steps) ← readSteps cs
    return (c :: step, steps)
  | c :: cs =>
    if c ≠ '~' then do
      let (step, steps) ← readSteps cs
      return (c :: step, steps)
    else none

def ofSteps (read : List Char × List (List Char)) : Pointer :=
  (read.1 :: read.2).map String.ofList

def ofText? (s : String) : Option Pointer :=
  match s.toList with
  | [] => some []
  | '/' :: cs => (readSteps cs).map ofSteps
  | _ => none

/-- Whether a character may stand for itself in the fragment of a URI. -/
def inFragment (c : Char) : Bool :=
  c.isAlphanum || "-._~!$&'()*+,;=:@/?".toList.contains c

variable (admits : Char → Bool)

/-- The octets that characters stand for. A character that is not admitted has to be escaped. -/
def octets? : List Char → Option (List Nat)
  | [] => some []
  | '%' :: a :: b :: cs => do
    let high ← hexValue? a
    let low ← hexValue? b
    return (16 * high + low) :: (← octets? cs)
  | c :: cs =>
    if c ≠ '%' ∧ admits c then
      (octets? cs).map ((String.utf8EncodeChar c).map (·.toNat) ++ ·)
    else none

/-- The text that escaped characters stand for. -/
def unescape? (cs : List Char) : Option String :=
  (octets? admits cs).bind Text.ofOctets?

def ofReference? (s : String) : Option Pointer :=
  match s.toList with
  | '#' :: cs => (unescape? admits cs).bind ofText?
  | _ => none

/-! ### What characters stand for -/

section

variable {admits : Char → Bool} {cs : List Char} {os : List Nat}

theorem octets?_lt (h : octets? admits cs = some os) : ∀ o ∈ os, o < 256 := by
  fun_induction octets? admits cs generalizing os with
  | case1 =>
    cases h
    exact List.forall_mem_nil _
  | case2 a b cs ih =>
    obtain ⟨high, hhigh, h⟩ := Option.bind_eq_some_iff.mp h
    obtain ⟨low, hlow, h⟩ := Option.bind_eq_some_iff.mp h
    obtain ⟨os, hos, h⟩ := Option.bind_eq_some_iff.mp h
    cases h
    have hboth : 16 * high + low < 256 := by
      have := hexValue?_lt hhigh
      have := hexValue?_lt hlow
      omega
    exact List.forall_mem_cons.mpr ⟨hboth, ih hos⟩
  | case3 c cs _ hc ih =>
    obtain ⟨os, hos, rfl⟩ := Option.map_eq_some_iff.mp h
    refine List.forall_mem_append.mpr ⟨List.forall_mem_map.mpr fun b _ => b.toNat_lt, ih hos⟩
  | case4 => cases h

theorem octets?_cons {c : Char} (hc : c ≠ '%' ∧ admits c = true) (cs : List Char) :
    octets? admits (c :: cs) =
      (octets? admits cs).map ((String.utf8EncodeChar c).map (·.toNat) ++ ·) := by
  rw [octets?, if_pos hc]
  exact fun _ _ _ h => absurd h hc.1

theorem octets?_append {ps : List Char} (h : ∀ c ∈ ps, c ≠ '%' ∧ admits c = true)
    (cs : List Char) :
    octets? admits (ps ++ cs) =
      (octets? admits cs).map (Text.toOctets (String.ofList ps) ++ ·) := by
  rw [Text.toOctets_eq, String.toList_ofList]
  induction ps with
  | nil => simp
  | cons c ps ih =>
    obtain ⟨hc, hrest⟩ := List.forall_mem_cons.mp h
    rw [List.cons_append, octets?_cons hc, ih hrest, Option.map_map, List.flatMap_cons,
      List.map_append]
    simp only [Function.comp_def, List.append_assoc]

/-- Characters stand for themselves, or for fewer octets than they have. -/
theorem octets?_cases (h : octets? admits cs = some os) :
    (∀ c ∈ cs, c ≠ '%' ∧ admits c = true) ∧ os = Text.toOctets (String.ofList cs) ∨
      os.length < Text.width cs := by
  fun_induction octets? admits cs generalizing os with
  | case1 =>
    cases h
    exact Or.inl ⟨List.forall_mem_nil _, (Text.toOctets_eq_nil_iff.mpr rfl).symm⟩
  | case2 a b cs ih =>
    obtain ⟨high, -, h⟩ := Option.bind_eq_some_iff.mp h
    obtain ⟨low, -, h⟩ := Option.bind_eq_some_iff.mp h
    obtain ⟨os, hos, h⟩ := Option.bind_eq_some_iff.mp h
    cases h
    have hle : os.length ≤ Text.width cs := by
      rcases ih hos with ⟨-, rfl⟩ | hlt
      · exact Nat.le_of_eq (by rw [Text.length_toOctets, String.toList_ofList])
      · exact Nat.le_of_lt hlt
    have ha := a.utf8Size_pos
    have hb := b.utf8Size_pos
    right
    simp only [Text.width_cons, List.length_cons]
    omega
  | case3 c cs _ hc ih =>
    obtain ⟨os, hos, rfl⟩ := Option.map_eq_some_iff.mp h
    rcases ih hos with ⟨hall, rfl⟩ | hlt
    · refine Or.inl ⟨List.forall_mem_cons.mpr ⟨hc, hall⟩, ?_⟩
      rw [Text.toOctets_eq, Text.toOctets_eq, String.toList_ofList, String.toList_ofList,
        List.flatMap_cons, List.map_append]
    · right
      rw [List.length_append, List.length_map, String.length_utf8EncodeChar, Text.width_cons]
      omega
  | case4 => cases h

/-- A text is no wider than the characters that it was read from, and as wide only if they stand
for themselves. -/
theorem unescape?_cases {t : String} (h : unescape? admits cs = some t) :
    (∀ c ∈ cs, c ≠ '%' ∧ admits c = true) ∧ t.toList = cs ∨ Text.width t.toList < Text.width cs := by
  obtain ⟨os, hos, ht⟩ := Option.bind_eq_some_iff.mp h
  rw [Text.ofOctets?_eq_some_iff (octets?_lt hos)] at ht
  rcases octets?_cases hos with ⟨hall, rfl⟩ | hlt
  · rw [Text.toOctets_inj] at ht
    rw [ht, String.toList_ofList]
    exact Or.inl ⟨hall, rfl⟩
  · rw [← ht, Text.length_toOctets] at hlt
    exact Or.inr hlt

theorem unescape?_of_forall {s : String} (h : ∀ c ∈ s.toList, c ≠ '%' ∧ admits c = true) :
    unescape? admits s.toList = some s := by
  have hoctets := octets?_append h []
  rw [List.append_nil, octets?, Option.map_some, List.append_nil, String.ofList_toList] at hoctets
  rw [unescape?, hoctets]
  exact Text.ofOctets?_toOctets s

/-- An ASCII text without escapes is read by itself. -/
theorem unescape?_append {p : String} (hp : ∀ c ∈ p.toList, c.toNat < 128)
    (h : ∀ c ∈ p.toList, c ≠ '%' ∧ admits c = true) (cs : List Char) :
    unescape? admits (p.toList ++ cs) = (unescape? admits cs).map (p ++ ·) := by
  rw [unescape?, octets?_append h, String.ofList_toList, unescape?]
  cases hos : octets? admits cs with
  | none => rfl
  | some os => exact Text.ofOctets?_append hp (octets?_lt hos)

end

/-! ### Steps -/

theorem readSteps_cons {c : Char} (hc : c ≠ '/' ∧ c ≠ '~') (cs : List Char) :
    readSteps (c :: cs) = (readSteps cs).map fun r => (c :: r.1, r.2) := by
  rw [readSteps, if_pos hc.2]
  · cases readSteps cs <;> rfl
  · exact fun h => hc.1 h
  · exact fun _ _ h _ => hc.2 h

theorem readSteps_append {ps : List Char} (h : ∀ c ∈ ps, c ≠ '/' ∧ c ≠ '~') (cs : List Char) :
    readSteps (ps ++ cs) = (readSteps cs).map fun r => (ps ++ r.1, r.2) := by
  induction ps with
  | nil => simp
  | cons c ps ih =>
    obtain ⟨hc, hrest⟩ := List.forall_mem_cons.mp h
    rw [List.cons_append, readSteps_cons hc, ih hrest, Option.map_map]
    rfl

theorem readSteps_of_forall {cs : List Char} (h : ∀ c ∈ cs, c ≠ '/' ∧ c ≠ '~') :
    readSteps cs = some (cs, []) := by
  have happend := readSteps_append h []
  rw [List.append_nil] at happend
  rw [happend, readSteps, Option.map_some, List.append_nil]

theorem utf8Size_of_escaped? {c d : Char} (h : escaped? c = some d) : d.utf8Size = 1 := by
  unfold escaped? at h
  split at h
  · cases h
    rfl
  · cases h
    rfl
  · cases h

/-- The first step is all there is, or it is narrower. -/
theorem readSteps_cases {cs step : List Char} {steps : List (List Char)}
    (h : readSteps cs = some (step, steps)) :
    (∀ c ∈ cs, c ≠ '/' ∧ c ≠ '~') ∧ step = cs ∧ steps = [] ∨ Text.width step < Text.width cs := by
  fun_induction readSteps cs generalizing step steps with
  | case1 =>
    cases h
    exact Or.inl ⟨List.forall_mem_nil _, rfl, rfl⟩
  | case2 cs ih =>
    obtain ⟨⟨next, after⟩, -, h⟩ := Option.bind_eq_some_iff.mp h
    cases h
    right
    rw [Text.width_cons, Text.width_nil]
    exact Nat.add_pos_left (Char.utf8Size_pos _) _
  | case3 c cs ih =>
    obtain ⟨d, hd, h⟩ := Option.bind_eq_some_iff.mp h
    obtain ⟨⟨rest, after⟩, hrest, h⟩ := Option.bind_eq_some_iff.mp h
    cases h
    have hle : Text.width rest ≤ Text.width cs := by
      rcases ih hrest with ⟨-, rfl, -⟩ | hlt
      · exact Nat.le_refl _
      · exact Nat.le_of_lt hlt
    have hsize := utf8Size_of_escaped? hd
    have htilde := Char.utf8Size_pos '~'
    have hc := c.utf8Size_pos
    right
    rw [Text.width_cons, Text.width_cons, Text.width_cons]
    omega
  | case4 c cs hslash _ htilde ih =>
    obtain ⟨⟨rest, after⟩, hrest, h⟩ := Option.bind_eq_some_iff.mp h
    cases h
    rcases ih hrest with ⟨hall, rfl, rfl⟩ | hlt
    · exact Or.inl ⟨List.forall_mem_cons.mpr ⟨⟨hslash, htilde⟩, hall⟩, rfl, rfl⟩
    · right
      rw [Text.width_cons, Text.width_cons]
      exact Nat.add_lt_add_left hlt _
  | case5 => cases h

section

variable {admits : Char → Bool}

theorem ofReference?_slash (hadmits : admits '/' = true) (s : String) :
    ofReference? admits ("#/" ++ s) =
      (unescape? admits s.toList).bind fun t => (readSteps t.toList).map ofSteps := by
  have hread : ofReference? admits ("#/" ++ s) =
      (unescape? admits ("/".toList ++ s.toList)).bind ofText? := by
    rw [ofReference?, String.toList_append]
    rfl
  have hslash : ∀ c ∈ "/".toList, c ≠ '%' ∧ admits c = true := by
    intro c hc
    obtain rfl : c = '/' := List.mem_singleton.mp hc
    exact ⟨by decide, hadmits⟩
  rw [hread, unescape?_append (by simp) hslash, Option.bind_map]
  congr 1
  funext t
  change ofText? ("/" ++ t) = _
  rw [ofText?, String.toList_append]
  rfl

/-- Written as it is, a step stands for itself. -/
def IsPlain (admits : Char → Bool) (step : String) : Prop :=
  ∀ c ∈ step.toList, (c ≠ '%' ∧ admits c = true) ∧ c ≠ '/' ∧ c ≠ '~'

theorem ofReference?_of_isPlain (hadmits : admits '/' = true) {s : String} (h : IsPlain admits s) :
    ofReference? admits ("#/" ++ s) = some [s] := by
  rw [ofReference?_slash hadmits, unescape?_of_forall fun c hc => (h c hc).1, Option.bind_some,
    readSteps_of_forall fun c hc => (h c hc).2, Option.map_some, ofSteps, List.map_singleton,
    String.ofList_toList]

/-- An unescaped step is read as itself alone, or the first step that is read is narrower. -/
theorem ofReference?_cases (hadmits : admits '/' = true) {s : String} {p : Pointer}
    (h : ofReference? admits ("#/" ++ s) = some p) :
    IsPlain admits s ∧ p = [s] ∨
      ∃ step rest, p = step :: rest ∧ Text.width step.toList < Text.width s.toList := by
  rw [ofReference?_slash hadmits] at h
  obtain ⟨t, ht, h⟩ := Option.bind_eq_some_iff.mp h
  obtain ⟨⟨step, steps⟩, hsteps, rfl⟩ := Option.map_eq_some_iff.mp h
  have hnarrower (hlt : Text.width step < Text.width s.toList) :
      ∃ first rest, ofSteps (step, steps) = first :: rest ∧
        Text.width first.toList < Text.width s.toList :=
    ⟨_, _, List.map_cons, by rwa [String.toList_ofList]⟩
  rcases unescape?_cases ht with ⟨hplain, htext⟩ | hlt
  · rw [htext] at hsteps
    rcases readSteps_cases hsteps with ⟨hone, rfl, rfl⟩ | hlt
    · left
      rw [ofSteps, List.map_singleton, String.ofList_toList]
      exact ⟨fun c hc => ⟨hplain c hc, hone c hc⟩, rfl⟩
    · exact Or.inr (hnarrower hlt)
  · right
    apply hnarrower
    rcases readSteps_cases hsteps with ⟨-, rfl, -⟩ | hlt'
    · exact hlt
    · exact Nat.lt_trans hlt' hlt

/-- A step in front that stands for itself is read by itself. -/
theorem ofReference?_below (hadmits : admits '/' = true) {parent : String}
    (hascii : ∀ c ∈ parent.toList, c.toNat < 128) (hplain : IsPlain admits parent) (s : String) :
    ofReference? admits ("#/" ++ (parent ++ "/") ++ s) =
      (ofReference? admits ("#/" ++ s)).map (parent :: ·) := by
  have hlist : (parent ++ "/").toList = parent.toList ++ ['/'] := String.toList_append
  have hfront : ∀ c ∈ (parent ++ "/").toList, c.toNat < 128 ∧ c ≠ '%' ∧ admits c = true := by
    rw [hlist, List.forall_mem_append, List.forall_mem_singleton]
    exact ⟨fun c hc => ⟨hascii c hc, (hplain c hc).1⟩, by decide, by decide, hadmits⟩
  rw [String.append_assoc, ofReference?_slash hadmits, ofReference?_slash hadmits,
    String.toList_append, unescape?_append (fun c hc => (hfront c hc).1) fun c hc => (hfront c hc).2,
    Option.bind_map, Option.map_bind]
  congr 1
  funext t
  change (readSteps (parent ++ "/" ++ t).toList).map ofSteps =
    ((readSteps t.toList).map ofSteps).map (parent :: ·)
  rw [String.toList_append, hlist, List.append_assoc,
    readSteps_append fun c hc => (hplain c hc).2, List.singleton_append, readSteps]
  cases readSteps t.toList <;> simp [ofSteps]

end

/-! ### Writing -/

def tildeEscape (c : Char) : List Char :=
  if c = '~' then ['~', '0'] else if c = '/' then ['~', '1'] else [c]

def toText (p : Pointer) : String :=
  String.ofList (p.flatMap fun step => '/' :: step.toList.flatMap tildeEscape)

def percentEscape (admits : Char → Bool) (o : Nat) : List Char :=
  if o < 128 ∧ Char.ofNat o ≠ '%' ∧ admits (Char.ofNat o) then [Char.ofNat o]
  else '%' :: Text.hexDigits 2 o

/-- The reference for a pointer, whatever characters are in its steps. -/
def toReference (admits : Char → Bool) (p : Pointer) : String :=
  String.ofList ('#' :: (Text.toOctets p.toText).flatMap (percentEscape admits))

theorem readSteps_tildeEscape (c : Char) (cs : List Char) :
    readSteps (tildeEscape c ++ cs) = (readSteps cs).map fun r => (c :: r.1, r.2) := by
  unfold tildeEscape
  split
  next hc =>
    rw [hc]
    change readSteps ('~' :: '0' :: cs) = _
    rw [readSteps]
    cases readSteps cs <;> rfl
  next htilde =>
    split
    next hc =>
      rw [hc]
      change readSteps ('~' :: '1' :: cs) = _
      rw [readSteps]
      cases readSteps cs <;> rfl
    next hslash => exact readSteps_cons ⟨hslash, htilde⟩ cs

theorem readSteps_escaped (step : List Char) (cs : List Char) :
    readSteps (step.flatMap tildeEscape ++ cs) =
      (readSteps cs).map fun r => (step ++ r.1, r.2) := by
  induction step with
  | nil => simp
  | cons c step ih =>
    rw [List.flatMap_cons, List.append_assoc, readSteps_tildeEscape, ih, Option.map_map]
    rfl

theorem readSteps_flatMap (step : String) (p : Pointer) :
    readSteps (step.toList.flatMap tildeEscape ++
        p.flatMap fun step => '/' :: step.toList.flatMap tildeEscape) =
      some (step.toList, p.map String.toList) := by
  rw [readSteps_escaped]
  induction p generalizing step with
  | nil => simp [readSteps]
  | cons next p ih =>
    rw [List.flatMap_cons, List.cons_append, readSteps, readSteps_escaped, ih next]
    simp

theorem ofText?_toText (p : Pointer) : ofText? p.toText = some p := by
  rw [ofText?, toText, String.toList_ofList]
  cases p with
  | nil => rfl
  | cons step p =>
    rw [List.flatMap_cons, List.cons_append]
    change (readSteps _).map ofSteps = _
    rw [readSteps_flatMap, Option.map_some, ofSteps, ← List.map_cons (f := String.toList)]
    simp

theorem octets?_percentEscape {admits : Char → Bool} {o : Nat} (h : o < 256) (cs : List Char) :
    octets? admits (percentEscape admits o ++ cs) = (octets? admits cs).map (o :: ·) := by
  unfold percentEscape
  split
  next hc =>
    have hcode := Text.toNat_ofNat_of_ascii hc.1
    rw [List.singleton_append, octets?_cons hc.2, Text.utf8EncodeChar_of_ascii (hcode.symm ▸ hc.1), hcode]
    rfl
  next =>
    have hvalue : 16 * (o / 16) + o % 16 = o := Nat.div_add_mod o 16
    rw [Text.hexDigits_two o h]
    change octets? admits ('%' :: _ :: _ :: cs) = _
    rw [octets?, hexValue?_digitChar _ (by omega), hexValue?_digitChar _ (by omega)]
    simp only [Option.bind_eq_bind, Option.bind_some, hvalue]
    cases octets? admits cs <;> rfl

theorem octets?_flatMap {admits : Char → Bool} {os : List Nat} (h : ∀ o ∈ os, o < 256) :
    octets? admits (os.flatMap (percentEscape admits)) = some os := by
  induction os with
  | nil => rfl
  | cons o os ih =>
    obtain ⟨ho, hrest⟩ := List.forall_mem_cons.mp h
    rw [List.flatMap_cons, octets?_percentEscape ho, ih hrest, Option.map_some]

/-- Written with its escapes, every pointer is read back. -/
theorem ofReference?_toReference (admits : Char → Bool) (p : Pointer) :
    ofReference? admits (p.toReference admits) = some p := by
  rw [ofReference?, toReference, String.toList_ofList]
  change (unescape? admits _).bind ofText? = _
  rw [unescape?, octets?_flatMap fun _ => Text.lt_of_mem_toOctets, Option.bind_some,
    Text.ofOctets?_toOctets, Option.bind_some, ofText?_toText]

end Pointer

end ServiceBlueprint.Json
