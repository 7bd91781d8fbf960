import ServiceBlueprint.Json.Reader
import ServiceBlueprint.Text.Octets
import ServiceBlueprint.Text.Quoted

/-!
# The octets of texts

A text of ASCII characters has one octet for each, its code. The octets of any other character are no
codes of ASCII, so a text begins with an ASCII text if its octets do. From its octets a text is read
back.
-/

namespace ServiceBlueprint.Text

/-- What has been read is carried in reverse. -/
theorem toList_loop (bs : ByteArray) (i : Nat) (r : List UInt8) :
    ByteArray.toList.loop bs i r = r.reverse ++ bs.data.toList.drop i := by
  induction hk : bs.size - i generalizing i r with
  | zero =>
    have hlen : bs.data.toList.length ≤ i := by
      rw [Array.length_toList]
      exact Nat.le_of_sub_eq_zero hk
    rw [ByteArray.toList.loop, if_neg (by omega), List.drop_eq_nil_of_le hlen, List.append_nil]
  | succ k ih =>
    have hsize : i < bs.size := by omega
    have hi : i < bs.data.toList.length := by
      rw [Array.length_toList]
      exact hsize
    have hget : bs.get! i = bs.data.toList[i] := by
      rw [Array.getElem_toList]
      exact getElem!_pos bs.data i hsize
    rw [ByteArray.toList.loop, if_pos hsize, ih (i + 1) _ (by omega), hget,
      List.drop_eq_getElem_cons hi, List.reverse_cons, List.append_assoc]
    rfl

theorem toList_eq (bs : ByteArray) : bs.toList = bs.data.toList := by
  rw [ByteArray.toList, toList_loop]
  rfl

theorem toOctets_eq (s : String) :
    toOctets s = (s.toList.flatMap String.utf8EncodeChar).map (·.toNat) := by
  rw [toOctets, toList_eq, String.toUTF8_eq_toByteArray, ← String.utf8Encode_toList,
    List.utf8Encode, List.toList_data_toByteArray]

theorem toNat_ofNat_of_ascii {o : Nat} (h : o < 128) : (Char.ofNat o).toNat = o := by
  have hvalid : o.isValidChar := Or.inl (by omega)
  rw [Char.ofNat, dif_pos hvalid]
  rfl

theorem utf8EncodeChar_of_ascii {c : Char} (h : c.toNat < 128) :
    (String.utf8EncodeChar c).map (·.toNat) = [c.toNat] := by
  have hsize : c.utf8Size = 1 := Char.utf8Size_eq_one_iff.mpr (UInt32.le_iff_toNat_le.mpr (by
    change c.toNat ≤ 127
    omega))
  rw [String.utf8EncodeChar_eq_singleton hsize]
  change [c.toNat % 256] = [c.toNat]
  rw [Nat.mod_eq_of_lt (by omega)]

theorem toOctets_of_ascii {s : String} (h : ∀ c ∈ s.toList, c.toNat < 128) :
    toOctets s = s.toList.map Char.toNat := by
  rw [toOctets_eq]
  generalize s.toList = cs at h ⊢
  induction cs with
  | nil => rfl
  | cons c cs ih =>
    rw [List.flatMap_cons, List.map_append, utf8EncodeChar_of_ascii (h c List.mem_cons_self),
      ih fun d hd => h d (List.mem_cons_of_mem _ hd)]
    rfl

theorem toOctets_append (s t : String) : toOctets (s ++ t) = toOctets s ++ toOctets t := by
  simp only [toOctets_eq, String.toList_append, List.flatMap_append, List.map_append]

theorem toOctets_eq_nil_iff {s : String} : toOctets s = [] ↔ s = "" := by
  rw [toOctets_eq, List.map_eq_nil_iff, ← String.toList_eq_nil_iff]
  constructor
  · intro h
    cases hs : s.toList with
    | nil => rfl
    | cons c cs =>
      rw [hs, List.flatMap_cons] at h
      exact absurd (List.append_eq_nil_iff.mp h).1 String.utf8EncodeChar_ne_nil
  · intro h
    rw [h, List.flatMap_nil]

theorem length_toOctets_eq_zero_iff {s : String} : (toOctets s).length = 0 ↔ s = "" := by
  rw [List.length_eq_zero_iff, toOctets_eq_nil_iff]

/-- A character is outside ASCII exactly if its first octet is. -/
theorem utf8EncodeChar_eq_cons (c : Char) :
    ∃ b bs, (String.utf8EncodeChar c).map (·.toNat) = b :: bs ∧ (b < 128 ↔ c.toNat < 128) := by
  by_cases h : c.toNat < 128
  · exact ⟨c.toNat, [], utf8EncodeChar_of_ascii h, Iff.rfl⟩
  · have hval : ¬ c.val.toNat ≤ 127 := fun hle => h (Nat.lt_succ_of_le hle)
    unfold String.utf8EncodeChar
    rw [if_neg hval]
    split
    · refine ⟨_, _, rfl, ?_⟩
      change (c.val.toNat / 64 % 32 + 192) % 256 < 128 ↔ _
      omega
    · split
      · refine ⟨_, _, rfl, ?_⟩
        change (c.val.toNat / 4096 % 16 + 224) % 256 < 128 ↔ _
        omega
      · refine ⟨_, _, rfl, ?_⟩
        change (c.val.toNat / 262144 % 8 + 240) % 256 < 128 ↔ _
        omega

/-- Where the octets begin with those of an ASCII text, so does the text. -/
theorem exists_eq_append_of_toOctets {s p : String} (hp : ∀ c ∈ p.toList, c.toNat < 128)
    {rest : List Nat} (h : toOctets s = toOctets p ++ rest) :
    ∃ t, s = p ++ t ∧ toOctets t = rest := by
  rw [toOctets_of_ascii hp, toOctets_eq] at h
  obtain ⟨cs, hs, hrest⟩ : ∃ cs, s.toList = p.toList ++ cs ∧
      (cs.flatMap String.utf8EncodeChar).map (·.toNat) = rest := by
    generalize s.toList = cs at h ⊢
    generalize p.toList = ps at hp h
    induction ps generalizing cs with
    | nil => exact ⟨cs, rfl, h⟩
    | cons d ps ih =>
      obtain ⟨hfirst, hothers⟩ := List.forall_mem_cons.mp hp
      cases cs with
      | nil => cases h
      | cons c cs =>
        rw [List.flatMap_cons, List.map_append, List.map_cons, List.cons_append] at h
        have hc : c.toNat < 128 := by
          obtain ⟨b, bs, hb, hiff⟩ := utf8EncodeChar_eq_cons c
          rw [hb, List.cons_append, List.cons_eq_cons] at h
          rw [← hiff, h.1]
          exact hfirst
        rw [utf8EncodeChar_of_ascii hc, List.singleton_append, List.cons_eq_cons] at h
        obtain ⟨t, ht, hrest⟩ := ih cs hothers h.2
        exact ⟨t, by rw [ht, Char.toNat_inj.mp h.1, List.cons_append], hrest⟩
  refine ⟨String.ofList cs, ?_, ?_⟩
  · apply String.toList_injective
    rw [String.toList_append, String.toList_ofList, hs]
  · rw [toOctets_eq, String.toList_ofList, hrest]

/-! ### Reading octets -/

theorem lt_of_mem_toOctets {s : String} {o : Nat} (h : o ∈ toOctets s) : o < 256 := by
  obtain ⟨b, -, rfl⟩ := List.mem_map.mp h
  exact b.toNat_lt

theorem fromUTF8?_eq_some_iff {bs : ByteArray} {s : String} :
    String.fromUTF8? bs = some s ↔ s.toByteArray = bs := by
  unfold String.fromUTF8?
  split
  next h =>
    rw [Option.some_inj, ← String.toByteArray_inj, eq_comm]
    rfl
  next h =>
    constructor
    · intro hnone
      cases hnone
    · rintro rfl
      exact absurd s.isValidUTF8 h

/-- Reading undoes writing, and nothing else is read. -/
theorem ofOctets?_eq_some_iff {os : List Nat} (h : ∀ o ∈ os, o < 256) {s : String} :
    ofOctets? os = some s ↔ toOctets s = os := by
  rw [ofOctets?, fromUTF8?_eq_some_iff, toOctets, toList_eq, String.toUTF8_eq_toByteArray]
  constructor
  · intro hs
    rw [hs]
    change (os.map UInt8.ofNat).map (·.toNat) = os
    rw [List.map_map]
    calc os.map ((·.toNat) ∘ UInt8.ofNat) = os.map id :=
          List.map_congr_left fun o ho => UInt8.toNat_ofNat_of_lt' (h o ho)
      _ = os := List.map_id os
  · rintro rfl
    rw [List.map_map]
    have hid : UInt8.ofNat ∘ (·.toNat) = id := funext fun b => UInt8.ofNat_toNat
    rw [hid, List.map_id, Array.toArray_toList]

theorem ofOctets?_toOctets (s : String) : ofOctets? (toOctets s) = some s :=
  (ofOctets?_eq_some_iff fun _ => lt_of_mem_toOctets).mpr rfl

theorem toOctets_inj {s t : String} : toOctets s = toOctets t ↔ s = t := by
  constructor
  · intro h
    have hread := ofOctets?_toOctets t
    rw [← h, ofOctets?_toOctets] at hread
    exact Option.some_inj.mp hread
  · exact congrArg toOctets

/-- An ASCII text in front is read by itself. -/
theorem ofOctets?_append {p : String} (hp : ∀ c ∈ p.toList, c.toNat < 128) {os : List Nat}
    (h : ∀ o ∈ os, o < 256) :
    ofOctets? (toOctets p ++ os) = (ofOctets? os).map (p ++ ·) := by
  have hall : ∀ o ∈ toOctets p ++ os, o < 256 :=
    List.forall_mem_append.mpr ⟨fun _ => lt_of_mem_toOctets, h⟩
  ext s
  rw [ofOctets?_eq_some_iff hall, Option.map_eq_some_iff]
  constructor
  · intro hs
    obtain ⟨t, rfl, ht⟩ := exists_eq_append_of_toOctets hp hs
    exact ⟨t, (ofOctets?_eq_some_iff h).mpr ht, rfl⟩
  · rintro ⟨t, ht, rfl⟩
    rw [toOctets_append, (ofOctets?_eq_some_iff h).mp ht]

/-! ### How many octets there are -/

def width : List Char → Nat
  | [] => 0
  | c :: cs => c.utf8Size + width cs

@[simp] theorem width_nil : width [] = 0 := rfl

@[simp] theorem width_cons (c : Char) (cs : List Char) : width (c :: cs) = c.utf8Size + width cs :=
  rfl

theorem length_toOctets (s : String) : (toOctets s).length = width s.toList := by
  rw [toOctets_eq, List.length_map]
  induction s.toList with
  | nil => rfl
  | cons c cs ih =>
    rw [List.flatMap_cons, List.length_append, ih, String.length_utf8EncodeChar, width_cons]

/-! ### Octets in digits -/

theorem hexDigits_two : ∀ o < 256,
    hexDigits 2 o = [Nat.digitChar (o / 16), Nat.digitChar (o % 16)] := by
  decide +kernel

end ServiceBlueprint.Text

namespace ServiceBlueprint.Json

theorem hexValue?_digitChar : ∀ d < 16, hexValue? (Nat.digitChar d) = some d := by
  decide

theorem hexValue?_lt {c : Char} {n : Nat} (h : hexValue? c = some n) : n < 16 := by
  unfold hexValue? at h
  split at h
  next hc =>
    cases h
    have hdigit : 48 ≤ c.toNat ∧ c.toNat ≤ 57 := Char.isDigit_iff_toNat.mp hc
    omega
  next =>
    split at h
    next hc =>
      cases h
      have hle : c.toNat ≤ 102 := UInt32.le_iff_toNat_le.mp hc.2
      omega
    next =>
      split at h
      next hc =>
        cases h
        have hle : c.toNat ≤ 70 := UInt32.le_iff_toNat_le.mp hc.2
        omega
      next => cases h

end ServiceBlueprint.Json
