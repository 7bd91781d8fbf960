import ServiceBlueprint.Proofs.Attempt
import ServiceBlueprint.Proofs.Value.Access
import ServiceBlueprint.Proofs.Value.Text

/-!
# Keys in another spelling

A shape says which keys of an object have another spelling, and what is respelt in the values under
its keys. Respelling a value changes the keys of its objects and nothing else. What a reader finds
under a key and its other spelling is the same before and after, if the value was written in the
first spellings only.
-/

namespace ServiceBlueprint

/-- What is respelt in a value: nothing, the elements of a list, or the keys of an object and then
what its shape says of the value under each. -/
inductive Shape where
  | any
  | each (item : Shape)
  | object (spellings : List (String × String)) (inner : String → Shape)

namespace Shape

/-- The other spelling of a key, which is the key itself unless it is among those that have one. -/
def otherSpelling (spellings : List (String × String)) (key : String) : String :=
  match spellings.find? (·.1 = key) with
  | some s => s.2
  | none => key

/-- The entry with its key in the other spelling, and with its value respelt as its key says. -/
def respellEntry (spellings : List (String × String)) (respell : String → Value → Value)
    (e : Value × Value) : Value × Value :=
  match e.1 with
  | .text key => (.text (otherSpelling spellings key), respell key e.2)
  | _ => e

def respell : Shape → Value → Value
  | .any, v => v
  | .each item, v =>
    match v with
    | .list xs => .list (xs.map item.respell)
    | _ => v
  | .object spellings inner, v =>
    match v with
    | .map es => .map (es.map (respellEntry spellings fun key => (inner key).respell))
    | _ => v

/-- No key is written in its other spelling, and of several keys with one other spelling at most one
is there. -/
def SpeltOnce (spellings : List (String × String)) (v : Value) : Prop :=
  ∀ s ∈ spellings, v.get? s.2 = none ∧
    ∀ t ∈ spellings, s.2 = t.2 → v.get? s.1 ≠ none → v.get? t.1 ≠ none → s.1 = t.1

instance (spellings : List (String × String)) (v : Value) : Decidable (SpeltOnce spellings v) :=
  inferInstanceAs (Decidable (∀ s ∈ spellings, _))

/-- Whether all objects of a value are written in the first spellings of their keys. -/
def isFirstSpelt : Shape → Value → Bool
  | .any, _ => true
  | .each item, v =>
    match v with
    | .list xs => xs.all item.isFirstSpelt
    | _ => true
  | .object spellings inner, v =>
    match v with
    | .map es => decide (SpeltOnce spellings v) && es.all fun e =>
        match e.1 with
        | .text key => (inner key).isFirstSpelt e.2
        | _ => true
    | _ => true

/-! ### Keys and their other spellings -/

section

variable {spellings : List (String × String)} {q : String}

theorem mem_of_otherSpelling_ne {key : String} (h : otherSpelling spellings key ≠ key) :
    (key, otherSpelling spellings key) ∈ spellings := by
  unfold otherSpelling at h ⊢
  split
  next s hs =>
    have hfound := List.find?_some hs
    rw [← of_decide_eq_true hfound]
    exact List.mem_of_find?_eq_some hs
  next hs =>
    rw [hs] at h
    exact absurd rfl h

/-- What is spelt as a key in the other spelling is that key, or one it is the other spelling of. -/
theorem eq_or_mem_of_otherSpelling_eq {key : String} (h : otherSpelling spellings key = q) :
    key = q ∨ (key, q) ∈ spellings := by
  by_cases hkey : otherSpelling spellings key = key
  · exact Or.inl (hkey.symm.trans h)
  · exact Or.inr (h ▸ mem_of_otherSpelling_ne hkey)

/-- A key with one spelling, which is not the other spelling of any. -/
def HasOneSpelling (spellings : List (String × String)) (key : String) : Prop :=
  ∀ s ∈ spellings, s.1 ≠ key ∧ s.2 ≠ key

instance (spellings : List (String × String)) (key : String) :
    Decidable (HasOneSpelling spellings key) :=
  inferInstanceAs (Decidable (∀ s ∈ spellings, _))

theorem HasOneSpelling.otherSpelling_eq_iff (h : HasOneSpelling spellings q) (key : String) :
    otherSpelling spellings key = q ↔ key = q := by
  constructor
  · intro hkey
    rcases eq_or_mem_of_otherSpelling_eq hkey with heq | hmem
    · exact heq
    · exact absurd rfl (h _ hmem).2
  · rintro rfl
    by_contra hne
    exact (h _ (mem_of_otherSpelling_ne hne)).1 rfl

/-- All keys that have a given other spelling, which is none of the first spellings. -/
structure AreKeysOf (spellings : List (String × String)) (keys : List String) (q : String) :
    Prop where
  spelt : ∀ p ∈ keys, otherSpelling spellings p = q ∧ p ≠ q
  only : ∀ s ∈ spellings, s.2 = q → s.1 ∈ keys
  first : ∀ s ∈ spellings, s.1 ≠ q ∧ s.2 ∉ keys

instance (spellings : List (String × String)) (keys : List String) (q : String) :
    Decidable (AreKeysOf spellings keys q) :=
  decidable_of_iff ((∀ p ∈ keys, otherSpelling spellings p = q ∧ p ≠ q) ∧
      (∀ s ∈ spellings, s.2 = q → s.1 ∈ keys) ∧ ∀ s ∈ spellings, s.1 ≠ q ∧ s.2 ∉ keys)
    ⟨fun h => ⟨h.1, h.2.1, h.2.2⟩, fun h => ⟨h.spelt, h.only, h.first⟩⟩

end

/-! ### What is found under a key -/

section

variable {spellings : List (String × String)} {inner : String → Shape} {es : List (Value × Value)}
  {p q : String}

theorem get?_cons (e : Value × Value) (es : List (Value × Value)) (key : String) :
    (Value.map (e :: es)).get? key =
      if e.1 = .text key then some e.2 else (Value.map es).get? key := by
  rw [Value.get?, Table.find?_cons]
  simp only [Value.beq_iff_eq_of_isText_right (w := .text key) rfl]
  rfl

/-- If of the keys that are there only one comes to have a given spelling, its value is found
there. -/
theorem get?_respell (h : ∀ key, (Value.map es).get? key ≠ none →
    (otherSpelling spellings key = q ↔ key = p)) :
    ((object spellings inner).respell (.map es)).get? q =
      ((Value.map es).get? p).map (inner p).respell := by
  rw [respell]
  induction es with
  | nil => rfl
  | cons e es ih =>
    have hrest := ih fun key hkey => h key (by rw [get?_cons]; split <;> simp [hkey])
    rw [List.map_cons, get?_cons, get?_cons, hrest]
    by_cases htext : e.1.isText = true
    · obtain ⟨key, hkey⟩ := Value.exists_eq_text htext
      have hiff := h key (by rw [get?_cons, if_pos hkey]; exact Option.some_ne_none _)
      have hentry : respellEntry spellings (fun key => (inner key).respell) e =
          (.text (otherSpelling spellings key), (inner key).respell e.2) := by
        rw [respellEntry, hkey]
      rw [hentry, hkey]
      by_cases hp : key = p
      · rw [if_pos (congrArg Value.text (hiff.mpr hp)), if_pos (congrArg Value.text hp), hp]
        rfl
      · have hne : ∀ {a b : String}, a ≠ b → Value.text a ≠ Value.text b := by simp
        rw [if_neg (hne fun hq => hp (hiff.mp hq)), if_neg (hne hp)]
    · have hne : ∀ key, e.1 ≠ .text key := by
        rintro key hkey
        rw [hkey] at htext
        exact htext rfl
      have hentry : respellEntry spellings (fun key => (inner key).respell) e = e := by
        rw [respellEntry]
        split
        next key hkey => exact absurd hkey (hne key)
        next => rfl
      rw [hentry, if_neg (hne q), if_neg (hne p)]

/-- A key with one spelling has what it had, respelt. -/
theorem HasOneSpelling.get?_respell (h : HasOneSpelling spellings q) :
    ((object spellings inner).respell (.map es)).get? q =
      ((Value.map es).get? q).map (inner q).respell :=
  Shape.get?_respell fun key _ => h.otherSpelling_eq_iff key

/-- Where at most one of several keys has a value, what is found first is the value of that one. -/
theorem first?_eq_get? {v : Value} {keys : List String} (hp : p ∈ keys)
    (h : ∀ key ∈ keys, v.get? key ≠ none → key = p) : v.first? keys = v.get? p := by
  cases hv : v.get? p with
  | none =>
    rw [Value.first?, List.findSome?_eq_none_iff]
    intro key hkey
    by_contra hne
    exact hne (h key hkey hne ▸ hv)
  | some w =>
    induction keys with
    | nil => cases hp
    | cons key keys ih =>
      obtain ⟨hfirst, hrest⟩ := List.forall_mem_cons.mp h
      rw [Value.first?_cons]
      by_cases hkey : key = p
      · rw [hkey, hv]
        rfl
      · have hnone : v.get? key = none := by
          by_contra hne
          exact hkey (hfirst hne)
        rw [hnone, Option.none_or]
        exact ih ((List.mem_cons.mp hp).resolve_left (Ne.symm hkey)) hrest

namespace AreKeysOf

variable {keys : List String}

theorem mem_spellings (h : AreKeysOf spellings keys q) (hp : p ∈ keys) : (p, q) ∈ spellings := by
  obtain ⟨hspelt, hne⟩ := h.spelt p hp
  have hmem := mem_of_otherSpelling_ne (hspelt ▸ hne.symm : otherSpelling spellings p ≠ p)
  rwa [hspelt] at hmem

/-- Of keys with a common other spelling that is not there, one is there that becomes it. -/
theorem get?_respell (h : AreKeysOf spellings keys q) (hq : (Value.map es).get? q = none)
    (hp : p ∈ keys) (honly : ∀ key ∈ keys, (Value.map es).get? key ≠ none → key = p) :
    ((object spellings inner).respell (.map es)).get? q =
      ((Value.map es).get? p).map (inner p).respell := by
  apply Shape.get?_respell
  intro key hkey
  constructor
  · intro hspelt
    rcases eq_or_mem_of_otherSpelling_eq hspelt with rfl | hmem
    · exact absurd hq hkey
    · exact honly key (h.only _ hmem rfl) hkey
  · rintro rfl
    exact (h.spelt _ hp).1

/-- The first spelling of a key with another one is not there any more. -/
theorem get?_respell_eq_none (h : AreKeysOf spellings keys q)
    (hq : (Value.map es).get? q = none) (hp : p ∈ keys) :
    ((object spellings inner).respell (.map es)).get? p = none := by
  have hgone : ((object spellings inner).respell (.map es)).get? p =
      ((Value.map es).get? q).map (inner q).respell := by
    apply Shape.get?_respell
    intro key hkey
    constructor
    · intro hspelt
      rcases eq_or_mem_of_otherSpelling_eq hspelt with rfl | hmem
      · exact hspelt.symm.trans (h.spelt _ hp).1
      · exact absurd hp (h.first _ hmem).2
    · rintro rfl
      exact absurd hq hkey
  rw [hgone, hq]
  rfl

/-- A reader that takes the first spellings before the other one finds the same, respelt. -/
theorem first?_respell (h : AreKeysOf spellings keys q) (hne : keys ≠ [])
    (hes : SpeltOnce spellings (.map es)) {shape : Shape} (hinner : ∀ p ∈ keys, inner p = shape) :
    ((object spellings inner).respell (.map es)).first? (keys ++ [q]) =
      ((Value.map es).first? (keys ++ [q])).map shape.respell := by
  obtain ⟨first, hfirst⟩ := List.exists_mem_of_ne_nil keys hne
  have hq := (hes _ (h.mem_spellings hfirst)).1
  -- The key that is there, or else any of them.
  obtain ⟨p, hp, honly⟩ : ∃ p ∈ keys, ∀ key ∈ keys, (Value.map es).get? key ≠ none → key = p := by
    by_cases hthere : ∃ p ∈ keys, (Value.map es).get? p ≠ none
    · obtain ⟨p, hp, hthere⟩ := hthere
      refine ⟨p, hp, fun key hkey hsome => ?_⟩
      exact (hes _ (h.mem_spellings hkey)).2 _ (h.mem_spellings hp) rfl hsome hthere
    · exact ⟨first, hfirst, fun key hkey hsome => absurd ⟨key, hkey, hsome⟩ hthere⟩
  have hbefore : (Value.map es).first? (keys ++ [q]) = (Value.map es).get? p := by
    apply first?_eq_get? (List.mem_append_left _ hp)
    intro key hkey hsome
    rcases List.mem_append.mp hkey with hkey | hkey
    · exact honly key hkey hsome
    · exact absurd (List.mem_singleton.mp hkey ▸ hq) hsome
  have hafter : ((object spellings inner).respell (.map es)).first? (keys ++ [q]) =
      ((object spellings inner).respell (.map es)).get? q := by
    apply first?_eq_get? (List.mem_append_right _ (List.mem_singleton_self q))
    intro key hkey hsome
    rcases List.mem_append.mp hkey with hkey | hkey
    · exact absurd (h.get?_respell_eq_none hq hkey) hsome
    · exact List.mem_singleton.mp hkey
  rw [hbefore, hafter, h.get?_respell hq hp honly, hinner p hp]

end AreKeysOf

/-! ### What a reader finds -/

def isAny : Shape → Bool
  | .any => true
  | _ => false

theorem eq_any_of_isAny {shape : Shape} (h : shape.isAny = true) : shape = .any := by
  cases shape with
  | any => rfl
  | _ => cases h

theorem truthy_respell (v : Value) :
    ((object spellings inner).respell v).truthy = v.truthy := by
  cases v with
  | map es => cases es <;> rfl
  | _ => rfl

/-- Keys that are read in turn, whose values are left as they are: the other spelling of some comes
right after them and they come before all else, and the rest have one spelling. -/
def Settled (spellings : List (String × String)) (inner : String → Shape) (keys : List String) :
    Prop :=
  (∀ key ∈ keys, (inner key).isAny = true) ∧
    ∃ n, n ≤ keys.length ∧
      (keys.take n = [] ∨ ((keys.take n).dropLast ≠ [] ∧
        AreKeysOf spellings (keys.take n).dropLast ((keys.take n).getLastD ""))) ∧
      ∀ key ∈ keys.drop n, HasOneSpelling spellings key

instance (spellings : List (String × String)) (inner : String → Shape) (keys : List String) :
    Decidable (Settled spellings inner keys) :=
  inferInstanceAs (Decidable (_ ∧ _))

theorem Settled.first?_respell {keys : List String} (h : Settled spellings inner keys)
    (hes : SpeltOnce spellings (.map es)) :
    ((object spellings inner).respell (.map es)).first? keys = (Value.map es).first? keys := by
  obtain ⟨hany, n, -, hfirst, hrest⟩ := h
  have hinner : ∀ key ∈ keys, inner key = .any := fun key hkey => eq_any_of_isAny (hany key hkey)
  have hsame (v : Option Value) : v.map Shape.any.respell = v := by cases v <;> rfl
  rw [← keys.take_append_drop n, Value.first?_append, Value.first?_append]
  congr 1
  · rcases hfirst with hnil | ⟨hne, hkeys⟩
    · rw [hnil]
      rfl
    · have hsplit : (keys.take n).dropLast ++ [(keys.take n).getLastD ""] = keys.take n := by
        have hnonempty : keys.take n ≠ [] := fun hnil => hne (by rw [hnil]; rfl)
        rw [List.getLastD_eq_getLast?, List.getLast?_eq_some_getLast hnonempty, Option.getD_some,
          List.dropLast_append_getLast]
      have hblock : ∀ key ∈ (keys.take n).dropLast, inner key = .any := fun key hkey =>
        hinner key (List.take_subset n keys (List.dropLast_subset _ hkey))
      rw [← hsplit, hkeys.first?_respell hne hes hblock, hsame]
  · apply Value.first?_congr
    intro key hkey
    rw [(hrest key hkey).get?_respell, hinner key (List.drop_subset n keys hkey), hsame]

end

/-! ### Objects and lists in the first spellings -/

theorem isFirstSpelt_map_iff {spellings : List (String × String)} {inner : String → Shape}
    {es : List (Value × Value)} :
    (object spellings inner).isFirstSpelt (.map es) = true ↔ SpeltOnce spellings (.map es) ∧
      ∀ e ∈ es, ∀ key, e.1 = .text key → (inner key).isFirstSpelt e.2 = true := by
  rw [isFirstSpelt, Bool.and_eq_true, decide_eq_true_iff, List.all_eq_true]
  refine and_congr_right fun _ => forall₂_congr fun e _ => ?_
  constructor
  · intro h key hkey
    rwa [hkey] at h
  · intro h
    split
    next key hkey => exact h key hkey
    next => rfl

theorem isFirstSpelt_of_get? {spellings : List (String × String)} {inner : String → Shape}
    {es : List (Value × Value)} (h : (object spellings inner).isFirstSpelt (.map es) = true)
    {key : String} {v : Value} (hv : (Value.map es).get? key = some v) :
    (inner key).isFirstSpelt v = true := by
  obtain ⟨e, he, hkey, rfl⟩ := Table.mem_of_find? hv
  exact (isFirstSpelt_map_iff.mp h).2 e he key ((Value.beq_iff_eq_of_isText_right rfl).mp hkey)

/-- A list whose elements load alike when they are respelt loads alike. -/
theorem loadFrom_respell {α β : Type} {item : Shape} {load : Value → Attempt α}
    (hload : ∀ x, item.isFirstSpelt x = true → load (item.respell x) = load x)
    (next : List α → Attempt β) {v : Value} (hv : (each item).isFirstSpelt v = true) :
    Value.loadFrom load next ((each item).respell v) = Value.loadFrom load next v := by
  cases v with
  | list xs =>
    have hmap : (xs.map item.respell).mapM load = xs.mapM load := by
      rw [List.mapM_map]
      exact Attempt.mapM_congr fun x hx => hload x (List.all_eq_true.mp hv x hx)
    change (xs.map item.respell).mapM load >>= next = xs.mapM load >>= next
    rw [hmap]
  | _ => rfl

/-- So does the list under a key with one spelling. -/
theorem loadFrom_get?_respell {α β : Type} {spellings : List (String × String)}
    {inner : String → Shape} {es : List (Value × Value)}
    {load : Value → Attempt α} {item : Shape}
    (h : (object spellings inner).isFirstSpelt (.map es) = true) (key : String)
    (hkey : HasOneSpelling spellings key) (hitem : inner key = each item)
    (hload : ∀ x, item.isFirstSpelt x = true → load (item.respell x) = load x)
    (next : List α → Attempt β) :
    Value.loadFrom load next
        ((((object spellings inner).respell (.map es)).get? key).getD (.list [])) =
      Value.loadFrom load next (((Value.map es).get? key).getD (.list [])) := by
  rw [hkey.get?_respell, hitem]
  cases hv : (Value.map es).get? key with
  | none => rfl
  | some v => exact loadFrom_respell hload next (hitem ▸ isFirstSpelt_of_get? h hv)

end Shape

end ServiceBlueprint
