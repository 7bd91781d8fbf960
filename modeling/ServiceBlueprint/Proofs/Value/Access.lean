import ServiceBlueprint.Proofs.Table
import ServiceBlueprint.Value.Access

/-!
# The entries of maps

Only a map gives the value at a key, and it gives what is found there. Another value at one key
changes nothing at the others.
-/

namespace ServiceBlueprint.Value

section

variable {v w : Value} {key : String}

theorem index_eq_ok_iff : v.index key = .ok w ↔ v.get? key = some w := by
  cases v with
  | map es =>
    simp only [index, get?]
    cases Table.find? es (.text key) <;> simp
  | _ => simp [index, get?]

theorem index_isOk_iff : (∃ w, v.index key = .ok w) ↔ (v.get? key).isSome = true := by
  rw [Option.isSome_iff_exists]
  exact exists_congr fun w => index_eq_ok_iff

theorem isMap_of_get? (h : v.get? key = some w) : v.isMap = true := by
  cases v with
  | map es => rfl
  | _ => cases h

theorem has_of_isMap (h : v.isMap = true) (key : String) :
    v.has key = .ok (v.get? key).isSome := by
  cases v with
  | map es => rfl
  | _ => cases h

theorem lookup_of_get? (h : v.get? key = some w) : v.lookup key = .ok (some w) := by
  cases v with
  | map es => exact congrArg Except.ok h
  | _ => cases h

theorem mem_of_get? {es : Table Value Value} (h : (Value.map es).get? key = some w) :
    ∃ e ∈ es, e.2 = w := by
  obtain ⟨e, he, -, hvalue⟩ := Table.mem_of_find? h
  exact ⟨e, he, hvalue⟩

end

/-! ### Several spellings of a key -/

/-- The value at the first of several keys that is there. -/
def first? (v : Value) (keys : List String) : Option Value :=
  keys.findSome? v.get?

section

variable {v w : Value}

theorem first?_cons (v : Value) (key : String) (others : List String) :
    v.first? (key :: others) = (v.get? key).or (v.first? others) := by
  rw [first?, List.findSome?_cons]
  cases v.get? key <;> rfl

theorem first?_singleton (v : Value) (key : String) : v.first? [key] = v.get? key := by
  rw [first?_cons]
  exact Option.or_none ..

theorem first?_append (v : Value) (keys others : List String) :
    v.first? (keys ++ others) = (v.first? keys).or (v.first? others) := by
  induction keys with
  | nil => exact (Option.none_or ..).symm
  | cons key keys ih => rw [List.cons_append, first?_cons, first?_cons, ih, Option.or_assoc]

theorem first?_congr {keys : List String} (h : ∀ key ∈ keys, w.get? key = v.get? key) :
    w.first? keys = v.first? keys := by
  induction keys with
  | nil => rfl
  | cons key keys ih =>
    obtain ⟨hfirst, hrest⟩ := List.forall_mem_cons.mp h
    rw [first?_cons, first?_cons, hfirst, ih hrest]

theorem isMap_of_first? {keys : List String} (h : v.first? keys = some w) : v.isMap = true := by
  obtain ⟨key, -, hkey⟩ := List.exists_of_findSome?_eq_some h
  exact isMap_of_get? hkey

theorem index_of_isMap (h : v.isMap = true) (key : String) :
    v.index key = (v.get? key).elim (.error .missingKey) .ok := by
  cases v with
  | map es =>
    simp only [index, get?]
    cases Table.find? es (.text key) <;> rfl
  | _ => cases h

theorem lookup_of_isMap (h : v.isMap = true) (key : String) :
    v.lookup key = .ok (v.get? key) := by
  cases v with
  | map es => rfl
  | _ => cases h

theorem pick_of_isMap (h : v.isMap = true) (keys : List String) :
    v.pick keys = .ok (v.first? keys) := by
  induction keys with
  | nil => rfl
  | cons key keys ih =>
    rw [pick, has_of_isMap h, first?_cons, index_of_isMap h, ih]
    cases v.get? key <;> rfl

theorem lookupFirst_of_isMap (h : v.isMap = true) (keys : List String) :
    v.lookupFirst keys = .ok (v.first? keys) := by
  induction keys with
  | nil => rfl
  | cons key keys ih =>
    rw [lookupFirst, lookup_of_isMap h, first?_cons, ih]
    cases v.get? key <;> rfl

end

/-- What is made of the elements of a value once each of them is loaded. -/
def loadFrom {α β : Type} (load : Value → Attempt α) (next : List α → Attempt β) (v : Value) :
    Attempt β := do
  next (← (← v.elements).mapM load)

/-! ### Another value at one key -/

section

variable {es : Table Value Value} {k key : String} {v : Value}

theorem find?_insert_text_self : Table.find? (es.insert (.text k) v) (.text k) = some v := by
  rw [Table.find?_insert, if_pos BEq.rfl]

theorem find?_insert_text_of_ne (h : k ≠ key) :
    Table.find? (es.insert (.text k) v) (.text key) = Table.find? es (.text key) := by
  rw [Table.find?_insert, if_neg]
  rw [text_beq_text, beq_iff_eq]
  exact h

theorem has_insert_of_ne (h : k ≠ key) :
    (Value.map (es.insert (.text k) v)).has key = (Value.map es).has key := by
  simp only [has, find?_insert_text_of_ne h]

theorem index_insert_of_ne (h : k ≠ key) :
    (Value.map (es.insert (.text k) v)).index key = (Value.map es).index key := by
  simp only [index, find?_insert_text_of_ne h]

theorem lookupFirst_insert_of_notMem {keys : List String} (h : k ∉ keys) :
    (Value.map (es.insert (.text k) v)).lookupFirst keys = (Value.map es).lookupFirst keys := by
  induction keys with
  | nil => rfl
  | cons key others ih =>
    obtain ⟨hkey, hothers⟩ := List.ne_and_not_mem_of_not_mem_cons h
    simp only [lookupFirst, lookup, find?_insert_text_of_ne hkey, ih hothers]

end

end ServiceBlueprint.Value
