import CryptoLending.Lib.Bytes
import CryptoLending.Lib.JsonRecord

namespace CryptoLending.Lib

namespace JsString

/-- A string without unpaired surrogates. -/
def WellFormed (us : JsString) : Prop := ∃ cs, us = encode cs

theorem scalars_unitsOf (c : Char) (us : JsString) : scalars (unitsOf c ++ us) = c :: scalars us := by
  obtain ⟨u, hu, hhigh, hlow, hc⟩ | ⟨u, v, huv, hhigh, hlow, hc⟩ := unitsOf_cases c
  · rw [hu, List.singleton_append, scalars.eq_def]
    simp only [hhigh, hlow, hc, Bool.false_eq_true, if_false]
  · rw [huv, List.cons_append, List.cons_append, List.nil_append, scalars.eq_def]
    simp only [hhigh, hlow, hc, if_true]

theorem scalars_encode_append (cs : List Char) (us : JsString) :
    scalars (encode cs ++ us) = cs ++ scalars us := by
  induction cs with
  | nil => rfl
  | cons c cs ih =>
    rw [encode, List.flatMap_cons, List.append_assoc, scalars_unitsOf]
    rw [encode] at ih
    rw [ih, List.cons_append]

theorem scalars_encode (cs : List Char) : scalars (encode cs) = cs := by
  have h := scalars_encode_append cs []
  rw [List.append_nil, scalars, List.append_nil] at h
  exact h

theorem utf8_ofString_append (s : String) (us : JsString) :
    utf8 (ofString s ++ us) = Bytes.utf8 s ++ utf8 us := by
  rw [utf8, ofString, scalars_encode_append, List.flatMap_append, Bytes.utf8_eq_flatMap, utf8]

theorem utf8_ofString (s : String) : utf8 (ofString s) = Bytes.utf8 s := by
  rw [utf8, ofString, scalars_encode, Bytes.utf8_eq_flatMap]

/-- Bytes determine the string that they encode. -/
theorem WellFormed.utf8_inj {us vs : JsString} (hu : WellFormed us) (hv : WellFormed vs)
    (h : utf8 us = utf8 vs) : us = vs := by
  obtain ⟨cs, rfl⟩ := hu
  obtain ⟨ds, rfl⟩ := hv
  rw [utf8, utf8, scalars_encode, scalars_encode] at h
  have hbytes : Bytes.utf8 (String.ofList cs) = Bytes.utf8 (String.ofList ds) := by
    rw [Bytes.utf8_eq_flatMap, Bytes.utf8_eq_flatMap, String.toList_ofList, String.toList_ofList, h]
  have hlist := congrArg String.toList (Bytes.utf8_injective hbytes)
  rw [String.toList_ofList, String.toList_ofList] at hlist
  rw [hlist]

theorem WellFormed.nil : WellFormed [] := ⟨[], rfl⟩

theorem WellFormed.append {us vs : JsString} (hu : WellFormed us) (hv : WellFormed vs) :
    WellFormed (us ++ vs) := by
  obtain ⟨cs, rfl⟩ := hu
  obtain ⟨ds, rfl⟩ := hv
  exact ⟨cs ++ ds, by rw [encode, encode, encode, List.flatMap_append]⟩

theorem WellFormed.ascii {cs : List Char} (h : cs.all isAscii = true) : WellFormed (cs.map unit) :=
  ⟨cs, (encode_ascii h).symm⟩

theorem WellFormed.ofString (s : String) : WellFormed (ofString s) := ⟨s.toList, rfl⟩

theorem toNat_ofNat_valid {n : Nat} (h : n.isValidChar) : (Char.ofNat n).toNat = n := by
  rw [Char.ofNat, dif_pos h]
  rfl

theorem wellFormed_pair {u v : UInt16} (hu : isHigh u = true) (hv : isLow v = true) :
    WellFormed [u, v] := by
  obtain ⟨hu₁, hu₂⟩ := (isHigh_iff u).mp hu
  obtain ⟨hv₁, hv₂⟩ := (isLow_iff v).mp hv
  have hvalid : (0x10000 + (u.toNat - 0xd800) * 0x400 + (v.toNat - 0xdc00)).isValidChar :=
    Or.inr ⟨by omega, by omega⟩
  have hpair : (pair u v).toNat = 0x10000 + (u.toNat - 0xd800) * 0x400 + (v.toNat - 0xdc00) := by
    rw [pair, toNat_ofNat_valid hvalid]
  refine ⟨[pair u v], ?_⟩
  have hlarge : ¬(pair u v).toNat < 0x10000 := by omega
  have hupper : 0xd800 + ((pair u v).toNat - 0x10000) / 0x400 = u.toNat := by omega
  have hlower : 0xdc00 + ((pair u v).toNat - 0x10000) % 0x400 = v.toNat := by omega
  rw [encode, List.flatMap_singleton, unitsOf, if_neg hlarge, hupper, hlower, UInt16.ofNat_toNat,
    UInt16.ofNat_toNat]

theorem wellFormed_unit {u : UInt16} (hu : isHigh u = false) (hv : isLow u = false) :
    WellFormed [u] := by
  rw [← Bool.not_eq_true, isHigh_iff] at hu
  rw [← Bool.not_eq_true, isLow_iff] at hv
  have hlt := u.toNat_lt
  have hvalid : u.toNat.isValidChar := by
    by_cases hsmall : u.toNat < 0xd800
    · exact Or.inl hsmall
    · exact Or.inr ⟨by omega, by omega⟩
  have hchar : (Char.ofNat u.toNat).toNat = u.toNat := toNat_ofNat_valid hvalid
  refine ⟨[Char.ofNat u.toNat], ?_⟩
  rw [encode, List.flatMap_singleton, unitsOf, hchar, if_pos (by omega), UInt16.ofNat_toNat]

end JsString

namespace JsonTree

open JsString

theorem isAscii_hexDigit (n : Nat) : isAscii (Nat.digitChar (n % 16)) = true := by
  have h : ∀ m < 16, isAscii (Nat.digitChar m) = true := by decide
  exact h (n % 16) (Nat.mod_lt n (by omega))

theorem wellFormed_unicodeEscape (u : UInt16) : WellFormed (unicodeEscape u) := by
  have hall : (['\\', 'u', Nat.digitChar (u.toNat / 4096 % 16), Nat.digitChar (u.toNat / 256 % 16),
      Nat.digitChar (u.toNat / 16 % 16), Nat.digitChar (u.toNat % 16)]).all isAscii = true := by
    simp only [List.all_cons, List.all_nil, isAscii_hexDigit, Bool.and_true]
    decide
  exact .ascii hall

theorem wellFormed_escapeUnit {u : UInt16} (hhigh : isHigh u = false) (hlow : isLow u = false) :
    WellFormed (escapeUnit u) := by
  have hshort : ∀ p ∈ shortEscapes, ∃ c, isAscii c = true ∧ p.2 = unit c := by
    simp only [shortEscapes, List.forall_mem_cons]
    exact ⟨⟨'b', rfl, rfl⟩, ⟨'t', rfl, rfl⟩, ⟨'n', rfl, rfl⟩, ⟨'f', rfl, rfl⟩, ⟨'r', rfl, rfl⟩,
      ⟨'"', rfl, rfl⟩, ⟨'\\', rfl, rfl⟩, List.forall_mem_nil _⟩
  unfold escapeUnit
  split
  · rename_i v hlookup
    obtain ⟨l, m, hsplit, -⟩ := List.lookup_eq_some_iff.mp hlookup
    obtain ⟨c, hc, hv⟩ := hshort (u, v) (by rw [hsplit]; simp)
    have hv : v = unit c := hv
    rw [hv]
    have hall : (['\\', c]).all isAscii = true := by
      rw [List.all_cons, List.all_cons, hc]
      rfl
    exact .ascii hall
  · split
    · exact wellFormed_unicodeEscape u
    · exact wellFormed_unit hhigh hlow

/-- Quoting escapes every unpaired surrogate. -/
theorem wellFormed_quotedUnits (us : JsString) : WellFormed (quotedUnits us) := by
  induction us using quotedUnits.induct with
  | case1 => exact .nil
  | case2 u hhigh =>
    rw [quotedUnits.eq_def]
    simp only [hhigh, if_true]
    exact wellFormed_unicodeEscape u
  | case3 u hhigh v vs hlow ih =>
    rw [quotedUnits.eq_def]
    simp only [hhigh, hlow, if_true]
    exact (wellFormed_pair hhigh hlow).append ih
  | case4 u hhigh v vs hlow ih =>
    rw [quotedUnits.eq_def]
    simp only [hhigh, hlow, if_true]
    exact (wellFormed_unicodeEscape u).append ih
  | case5 u us hhigh hlow ih =>
    rw [quotedUnits.eq_def]
    simp only [hhigh, hlow, if_true]
    exact (wellFormed_unicodeEscape u).append ih
  | case6 u us hhigh hlow ih =>
    rw [quotedUnits.eq_def]
    simp only [hhigh, hlow]
    exact (wellFormed_escapeUnit (by simpa using hhigh) (by simpa using hlow)).append ih

theorem wellFormed_mark {c : Char} (h : isAscii c = true) : WellFormed [unit c] :=
  @WellFormed.ascii [c] (by simp [h])

theorem wellFormed_quote (us : JsString) : WellFormed (quote us) :=
  (wellFormed_mark rfl).append ((wellFormed_quotedUnits us).append (wellFormed_mark rfl))

theorem wellFormed_bracketed {left right : Char} (hl : isAscii left = true)
    (hr : isAscii right = true) {parts : List JsString} (h : ∀ part ∈ parts, WellFormed part) :
    WellFormed (bracketed left right parts) := by
  have hparts : WellFormed ([unit ','].intercalate parts) := by
    induction parts with
    | nil => exact .nil
    | cons part parts ih =>
      obtain ⟨hpart, hparts⟩ := List.forall_mem_cons.mp h
      cases parts with
      | nil =>
        rw [List.intercalate_singleton]
        exact hpart
      | cons next parts =>
        rw [List.intercalate_cons_cons]
        exact (hpart.append (wellFormed_mark rfl)).append (ih hparts)
  exact (wellFormed_mark hl).append (hparts.append (wellFormed_mark hr))

theorem Listed.wellFormed {t : JsonTree} (h : Listed t) : WellFormed (stringify t) := by
  induction h with
  | null => exact ⟨_, rfl⟩
  | boolean value => exact ⟨_, rfl⟩
  | natural hn =>
    rw [stringify, if_pos (JsNumber.isFinite_ofNat hn)]
    exact ⟨_, rfl⟩
  | string value => exact wellFormed_quote value
  | array _ ih =>
    rw [stringify, itemTexts_eq]
    exact wellFormed_bracketed rfl rfl (List.forall_mem_map.mpr ih)
  | object _ ih =>
    rw [stringify, memberTexts_eq]
    refine wellFormed_bracketed rfl rfl (List.forall_mem_map.mpr fun m hm => ?_)
    exact (wellFormed_quote m.1).append ((wellFormed_mark rfl).append (ih m hm))

end JsonTree

end CryptoLending.Lib

namespace CryptoLending.Lib.JsonTree

open JsString

/-- An array of texts. -/
def texts (l : List JsString) : JsonTree := array (l.map string)

/-- An array of arrays of texts. -/
def rows (l : List (List String)) : JsonTree := array (l.map fun row => texts (row.map ofString))

theorem listed_texts (l : List JsString) : Listed (texts l) :=
  .array (List.forall_mem_map.mpr fun us _ => .string us)

theorem listed_rows (l : List (List String)) : Listed (rows l) :=
  .array (List.forall_mem_map.mpr fun _ _ => listed_texts _)

theorem texts_injective : Function.Injective texts := by
  intro l m h
  have hstring : Function.Injective string := fun us vs h => JsonTree.string.inj h
  exact List.map_injective_iff.mpr hstring (JsonTree.array.inj h)

theorem rows_injective : Function.Injective rows := by
  intro l m h
  have hrow : Function.Injective fun row : List String => texts (row.map ofString) := fun r s h =>
    List.map_injective_iff.mpr ofString_injective (texts_injective h)
  exact List.map_injective_iff.mpr hrow (JsonTree.array.inj h)

/-- Rows are determined by their text. -/
theorem stringify_rows_inj {l m : List (List String)} (h : stringify (rows l) = stringify (rows m)) :
    l = m := rows_injective ((listed_rows l).stringify_inj (listed_rows m) h)

/-- Texts are determined by the bytes of their array. -/
theorem utf8_texts_inj {l m : List JsString}
    (h : utf8 (stringify (texts l)) = utf8 (stringify (texts m))) : l = m :=
  texts_injective ((listed_texts l).stringify_inj (listed_texts m)
    ((listed_texts l).wellFormed.utf8_inj (listed_texts m).wellFormed h))

end CryptoLending.Lib.JsonTree
