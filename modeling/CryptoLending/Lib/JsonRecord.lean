import CryptoLending.Lib.JsonText

namespace CryptoLending.Lib

open JsString

namespace JsString

theorem isHigh_iff (u : UInt16) : isHigh u = true ↔ 0xd800 ≤ u.toNat ∧ u.toNat ≤ 0xdbff := by
  rw [isHigh, Bool.and_eq_true, decide_eq_true_eq, decide_eq_true_eq, UInt16.le_iff_toNat_le,
    UInt16.le_iff_toNat_le]
  rfl

theorem isLow_iff (u : UInt16) : isLow u = true ↔ 0xdc00 ≤ u.toNat ∧ u.toNat ≤ 0xdfff := by
  rw [isLow, Bool.and_eq_true, decide_eq_true_eq, decide_eq_true_eq, UInt16.le_iff_toNat_le,
    UInt16.le_iff_toNat_le]
  rfl

theorem toNat_ofNat_lt {n : Nat} (h : n < 0x10000) : (UInt16.ofNat n).toNat = n :=
  Nat.mod_eq_of_lt h

/-- A character is no surrogate. -/
theorem toNat_not_surrogate (c : Char) : c.toNat < 0xd800 ∨ 0xdfff < c.toNat ∧ c.toNat < 0x110000 :=
  c.valid

/-- A character is one unit that is no surrogate, or a pair of surrogates. -/
theorem unitsOf_cases (c : Char) :
    (∃ u, unitsOf c = [u] ∧ isHigh u = false ∧ isLow u = false ∧ Char.ofNat u.toNat = c) ∨
    ∃ u v, unitsOf c = [u, v] ∧ isHigh u = true ∧ isLow v = true ∧ pair u v = c := by
  have hvalid := toNat_not_surrogate c
  rw [unitsOf]
  by_cases hc : c.toNat < 0x10000
  · left
    have hunit := toNat_ofNat_lt hc
    refine ⟨_, if_pos hc, ?_, ?_, by rw [hunit, Char.ofNat_toNat]⟩
    · rw [← Bool.not_eq_true, isHigh_iff, hunit]
      omega
    · rw [← Bool.not_eq_true, isLow_iff, hunit]
      omega
  · right
    have hupper := toNat_ofNat_lt (n := 0xd800 + (c.toNat - 0x10000) / 0x400) (by omega)
    have hlower := toNat_ofNat_lt (n := 0xdc00 + (c.toNat - 0x10000) % 0x400) (by omega)
    refine ⟨_, _, if_neg hc, ?_, ?_, ?_⟩
    · rw [isHigh_iff, hupper]
      omega
    · rw [isLow_iff, hlower]
      omega
    · rw [pair, hupper, hlower]
      have hsum : 0x10000 + (0xd800 + (c.toNat - 0x10000) / 0x400 - 0xd800) * 0x400 +
          (0xdc00 + (c.toNat - 0x10000) % 0x400 - 0xdc00) = c.toNat := by omega
      rw [hsum, Char.ofNat_toNat]

/-- The code units of a character are read back. -/
theorem decode_unitsOf (c : Char) (us : JsString) :
    decode (unitsOf c ++ us) = (decode us).map (c :: ·) := by
  obtain ⟨u, hu, hhigh, hlow, hc⟩ | ⟨u, v, huv, hhigh, hlow, hc⟩ := unitsOf_cases c
  · rw [hu, List.singleton_append, decode.eq_def]
    simp only [hhigh, hlow, hc, Bool.false_eq_true, if_false]
  · rw [huv, List.cons_append, List.cons_append, List.nil_append, decode.eq_def]
    simp only [hhigh, hlow, hc, if_true]

theorem decode_encode (cs : List Char) : decode (encode cs) = some cs := by
  induction cs with
  | nil => rfl
  | cons c cs ih =>
    rw [encode, List.flatMap_cons, decode_unitsOf]
    rw [encode] at ih
    rw [ih, Option.map_some]

theorem encode_injective : Function.Injective encode := by
  intro cs ds h
  have hd := congrArg decode h
  rw [decode_encode, decode_encode] at hd
  exact Option.some.inj hd

theorem ofString_injective : Function.Injective ofString := by
  intro s t h
  exact String.toList_inj.mp (encode_injective h)

end JsString

namespace JsNumber

open Double

/-- The number of a natural number, rounded when it is large. -/
def ofNat (n : Nat) : JsNumber := ofDecimal false n 0

theorem roundDecimal_nat {n : Nat} (h : n < 2 ^ 53) :
    roundDecimal n 0 = 2 ^ unitExponent * n := by
  have hexact := roundUnits_exact (isRepresentable_of_le (e := unitExponent) rfl h.le) Nat.one_pos
  rw [Nat.mul_one] at hexact
  rw [roundDecimal, Int.toNat_zero, Int.neg_zero, Int.toNat_zero, Nat.pow_zero, Nat.mul_one,
    Nat.mul_comm n]
  exact hexact

theorem two_pow_mul_lt (e k : Nat) {n : Nat} (h : n < 2 ^ 53) (hk : 53 ≤ k) :
    2 ^ e * n < 2 ^ (e + k) := by
  rw [Nat.pow_add]
  have hlt : n < 2 ^ k := h.trans_le (Nat.pow_le_pow_right Nat.two_pos hk)
  exact Nat.mul_lt_mul_of_pos_left hlt (Nat.two_pow_pos e)

theorem ofNat_eq {n : Nat} (h : n < 2 ^ 53) :
    ∃ hrep hbound, ofNat n = .finite false ⟨2 ^ unitExponent * n, hrep, hbound⟩ := by
  have hbound := two_pow_mul_lt unitExponent 1024 h (by omega)
  exact ⟨isRepresentable_of_le rfl h.le, hbound, ofDecimal_eq (roundDecimal_nat h)⟩

theorem isFinite_ofNat {n : Nat} (h : n < 2 ^ 53) : (ofNat n).isFinite = true := by
  obtain ⟨_, _, hn⟩ := ofNat_eq h
  rw [hn]
  rfl

theorem withoutSignedZero_ofNat {n : Nat} (h : n < 2 ^ 53) :
    (ofNat n).withoutSignedZero = ofNat n := by
  obtain ⟨_, _, hn⟩ := ofNat_eq h
  rw [hn]
  rfl

theorem ofNat_inj {m n : Nat} (hm : m < 2 ^ 53) (hn : n < 2 ^ 53) (h : ofNat m = ofNat n) :
    m = n := by
  obtain ⟨_, _, hm'⟩ := ofNat_eq hm
  obtain ⟨_, _, hn'⟩ := ofNat_eq hn
  rw [hm', hn', finite.injEq, Magnitude.mk.injEq] at h
  exact Nat.eq_of_mul_eq_mul_left (Nat.two_pow_pos unitExponent) h.2

end JsNumber

namespace JsonTree

/-- A value of texts and small natural numbers. -/
inductive Written : JsonTree → Prop
  | null : Written null
  | boolean (value : Bool) : Written (boolean value)
  | natural {n : Nat} (h : n < 2 ^ 53) : Written (number (.ofNat n))
  | string (value : JsString) : Written (string value)
  | array {items : List JsonTree} (h : ∀ item ∈ items, Written item) : Written (array items)
  | object {members : List (JsString × JsonTree)} (ordered : KeysOrdered (members.map Prod.fst))
      (h : ∀ member ∈ members, Written member.2) : Written (object members)

theorem Written.plain {t : JsonTree} (h : Written t) : Plain t := by
  induction h with
  | null => exact .null
  | boolean value => exact .boolean value
  | natural h => exact .number (JsNumber.isFinite_ofNat h)
  | string value => exact .string value
  | array _ ih => exact .array ih
  | object ordered _ ih => exact .object ordered ih

theorem Written.withoutSignedZeros_eq {t : JsonTree} (h : Written t) : t.withoutSignedZeros = t := by
  induction h with
  | null => rfl
  | boolean value => rfl
  | natural h => rw [withoutSignedZeros, JsNumber.withoutSignedZero_ofNat h]
  | string value => rfl
  | array _ ih =>
    rw [withoutSignedZeros, itemsWithoutSignedZeros_eq, List.map_congr_left ih, List.map_id']
  | @object members _ _ ih =>
    have hmembers : members.map (fun m => (m.1, m.2.withoutSignedZeros)) = members.map id :=
      List.map_congr_left fun m hm => by rw [ih m hm]; rfl
    rw [withoutSignedZeros, membersWithoutSignedZeros_eq, hmembers, List.map_id]

/-- A value is determined by its text. -/
theorem Written.stringify_inj {t u : JsonTree} (ht : Written t) (hu : Written u)
    (h : stringify t = stringify u) : t = u := by
  have hparse := congrArg JsonText.parse h
  rw [JsonText.parse_stringify ht.plain, JsonText.parse_stringify hu.plain,
    ht.withoutSignedZeros_eq, hu.withoutSignedZeros_eq] at hparse
  exact Option.some.inj hparse

def text (s : String) : JsonTree := string (ofString s)

def natural (n : Nat) : JsonTree := number (.ofNat n)

/-- An object with the given fields. -/
def record (fields : List (String × JsonTree)) : JsonTree :=
  object (fields.map fun f => (ofString f.1, f.2))

theorem written_record {fields : List (String × JsonTree)}
    (hkeys : KeysOrdered (fields.map fun f => ofString f.1))
    (h : ∀ f ∈ fields, Written f.2) : Written (record fields) := by
  refine .object ?_ (List.forall_mem_map.mpr h)
  rwa [List.map_map]

theorem text_inj {s t : String} : text s = text t ↔ s = t := by
  rw [text, text, string.injEq, ofString_injective.eq_iff]

theorem natural_inj {m n : Nat} (hm : m < 2 ^ 53) (hn : n < 2 ^ 53) (h : natural m = natural n) :
    m = n := JsNumber.ofNat_inj hm hn (number.inj h)

/-- Fields under the same keys are told apart by the object. -/
theorem record_inj {fields fields' : List (String × JsonTree)} (h : record fields = record fields') :
    fields = fields' := by
  have hinj : Function.Injective (fun f : String × JsonTree => (ofString f.1, f.2)) := by
    rintro ⟨k, t⟩ ⟨l, u⟩ hkl
    simp only [Prod.mk.injEq, ofString_injective.eq_iff] at hkl
    rw [hkl.1, hkl.2]
  exact List.map_injective_iff.mpr hinj (object.inj h)

end JsonTree

end CryptoLending.Lib

namespace CryptoLending.Lib

open JsString

namespace JsonTree

/-- A value of texts and small natural numbers, whose objects list their keys in any order. -/
inductive Listed : JsonTree → Prop
  | null : Listed null
  | boolean (value : Bool) : Listed (boolean value)
  | natural {n : Nat} (h : n < 2 ^ 53) : Listed (number (.ofNat n))
  | string (value : JsString) : Listed (string value)
  | array {items : List JsonTree} (h : ∀ item ∈ items, Listed item) : Listed (array items)
  | object {members : List (JsString × JsonTree)} (h : ∀ member ∈ members, Listed member.2) :
      Listed (object members)

theorem Listed.finite {t : JsonTree} (h : Listed t) (value : JsNumber) (ht : t = .number value) :
    value.isFinite = true := by
  cases h with
  | natural hn =>
    rw [← JsonTree.number.inj ht]
    exact JsNumber.isFinite_ofNat hn
  | null | boolean | string | array | object => cases ht

end JsonTree

namespace JsonText

open JsonTree JsNumber

/-- Read a value whose objects keep the order of their members. -/
def readListed : Nat → JsString → Option (JsonTree × JsString)
  | 0, _ => none
  | fuel + 1, us =>
    match us with
    | [] => none
    | u :: rest =>
      if u = unit '[' then
        (readBracketed (readListed fuel) ']' rest).map fun p => (array p.1, p.2)
      else if u = unit '\x7b' then
        (readBracketed (readMember (readListed fuel)) '\x7d' rest).map fun p => (object p.1, p.2)
      else readValue 1 us

theorem readListed_leaf {u : UInt16} (harray : u ≠ unit '[') (hobject : u ≠ unit '\x7b')
    (fuel : Nat) (us : JsString) : readListed (fuel + 1) (u :: us) = readValue 1 (u :: us) := by
  rw [readListed]
  exact (if_neg harray).trans (if_neg hobject)

theorem readListed_array (fuel : Nat) (us : JsString) : readListed (fuel + 1) (unit '[' :: us) =
    (readBracketed (readListed fuel) ']' us).map fun p => (array p.1, p.2) := by
  rw [readListed]
  exact if_pos rfl

theorem readListed_object (fuel : Nat) (us : JsString) :
    readListed (fuel + 1) (unit '\x7b' :: us) =
      (readBracketed (readMember (readListed fuel)) '\x7d' us).map fun p => (object p.1, p.2) := by
  rw [readListed]
  exact (if_neg (by decide)).trans (if_pos rfl)

/-- The text of a value is read back, whatever follows it. -/
theorem readListed_stringify {t : JsonTree} (h : Listed t) {fuel : Nat}
    (hfuel : (stringify t).length ≤ fuel) {rest : JsString} (hrest : Stops rest) :
    readListed fuel (stringify t ++ rest) = some (t, rest) := by
  have hpositive := length_stringify_pos h.finite
  induction h generalizing fuel rest with
  | null =>
    obtain ⟨fuel, rfl⟩ := exists_fuel hpositive hfuel
    exact readListed_leaf (by decide) (by decide) fuel _
  | boolean value =>
    obtain ⟨fuel, rfl⟩ := exists_fuel hpositive hfuel
    cases value with
    | true => exact readListed_leaf (by decide) (by decide) fuel _
    | false => exact readListed_leaf (by decide) (by decide) fuel _
  | @natural n hn =>
    obtain ⟨fuel, rfl⟩ := exists_fuel hpositive hfuel
    have hfinite := JsNumber.isFinite_ofNat hn
    have hread := @readValue_number _ hfinite 0 _ hrest
    obtain ⟨c, cs, htext, hc⟩ := head_toString hfinite
    rw [stringify, if_pos hfinite, htext, List.cons_append, readListed_leaf
      (numberHead_ne hc '[' (by decide)) (numberHead_ne hc '\x7b' (by decide)), ← List.cons_append,
      ← htext, hread, JsNumber.withoutSignedZero_ofNat hn]
  | string value =>
    obtain ⟨fuel, rfl⟩ := exists_fuel hpositive hfuel
    rw [stringify, quote, List.cons_append, List.append_assoc, List.singleton_append,
      readListed_leaf (by decide) (by decide), readValue_quote, readQuoted_quotedUnits]
    rfl
  | @array items hitems ih =>
    rw [stringify, length_bracketed, itemTexts_eq] at hfuel
    obtain ⟨fuel, rfl⟩ := exists_fuel (Nat.succ_pos _) hfuel
    have hitem : ∀ t ∈ items, ∀ rest, Stops rest →
        readListed fuel (stringify t ++ rest) = some (t, rest) := by
      intro t ht rest hstops
      have hle := @length_part_le [unit ','] _ _ (List.mem_map_of_mem (f := stringify) ht)
      exact ih t ht (by omega) hstops (length_stringify_pos (hitems t ht).finite)
    have hread := @readBracketed_intercalate _ _ _ _ _ id (Or.inl rfl) _
      (fun t ht => begins_stringify (Or.inl rfl) (hitems t ht).finite) hitem rest
    rw [stringify, bracketed_append, itemTexts_eq, readListed_array, hread, List.map_id]
    rfl
  | @object members hmembers ih =>
    rw [stringify, length_bracketed, memberTexts_eq] at hfuel
    obtain ⟨fuel, rfl⟩ := exists_fuel (Nat.succ_pos _) hfuel
    have hitem : ∀ m ∈ members, ∀ rest, Stops rest →
        readMember (readListed fuel) (memberText m ++ rest) = some (m, rest) := by
      intro m hm rest hstops
      have hle := @length_part_le [unit ','] _ _ (List.mem_map_of_mem (f := memberText) hm)
      have hvalue := length_memberText m
      exact readMember_text
        (ih m hm (by omega) hstops (length_stringify_pos (hmembers m hm).finite))
    have hbegins : ∀ m ∈ members, Begins '\x7d' (memberText m) := fun m _ =>
      begins_quote (Or.inr rfl) _
    have hread := @readBracketed_intercalate _ _ _ _ _ id (Or.inr rfl) _ hbegins hitem rest
    rw [stringify, bracketed_append, memberTexts_eq, readListed_object, hread, List.map_id]
    rfl

end JsonText

namespace JsonTree

/-- A value is determined by its text, with the order of its keys. -/
theorem Listed.stringify_inj {t u : JsonTree} (ht : Listed t) (hu : Listed u)
    (h : stringify t = stringify u) : t = u := by
  have hread : ∀ {v : JsonTree}, Listed v →
      JsonText.readListed (stringify v).length (stringify v) = some (v, []) := by
    intro v hv
    have hstops : JsNumber.Stops [] := by
      intro u hu
      cases hu
    have hv := JsonText.readListed_stringify hv (Nat.le_refl _) hstops
    rwa [List.append_nil] at hv
  have hboth := (hread ht).symm.trans (h ▸ hread hu)
  exact (Prod.mk.inj (Option.some.inj hboth)).1

end JsonTree

end CryptoLending.Lib
