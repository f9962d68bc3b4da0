import CryptoLending.Lib.JsValue
import CryptoLending.Lib.Transaction

namespace CryptoLending.Lib.JsValue

/-- Two values that are the same up to the order of the keys of their objects, at every depth. -/
inductive Rearranged : Value → Value → Prop
  | same (v : Value) : Rearranged v v
  | items {items items' : List Value} (h : List.Forall₂ Rearranged items items') :
      Rearranged (ofItems items) (ofItems items')
  | object {proxy proxy' : Bool} {ps qs rs : List (Key × Property Value)}
      (h : List.Forall₂ (RelatedProperty (fun _ => Rearranged)) ps qs) (hp : qs.Perm rs)
      (hk : (qs.map Prod.fst).Nodup) : Rearranged (.object proxy ps) (.object proxy' rs)

section Optional

variable {proxy : Bool} {ps : List (Key × Property Value)} {keys : List String} {name : String}

theorem hasExactKeys_iff : hasExactKeys ps keys = true ↔
    ps.length = keys.length ∧ ∀ p ∈ ps, ∃ name ∈ keys, p.1 = .text name := by
  rw [hasExactKeys, Bool.and_eq_true, beq_iff_eq, List.all_eq_true]
  refine and_congr_right fun _ => forall₂_congr fun p _ => ?_
  cases p.1 with
  | text key => simp
  | symbol => simp

theorem lookup_of_not_mem {key : Key} (h : key ∉ ps.map Prod.fst) : ps.lookup key = none := by
  refine List.lookup_eq_none_iff.mpr fun p hp => ?_
  exact bne_iff_ne.mpr fun heq => h (heq ▸ List.mem_map_of_mem hp)

theorem hasExactKeys_concat (hps : .text name ∉ ps.map Prod.fst) (p : Property Value) :
    hasExactKeys (ps ++ [(.text name, p)]) (keys ++ [name]) = hasExactKeys ps keys := by
  rw [Bool.eq_iff_iff, hasExactKeys_iff, hasExactKeys_iff, List.length_append, List.length_append]
  refine and_congr (by simp) ?_
  rw [List.forall_mem_append]
  constructor
  · rintro ⟨h, -⟩ q hq
    obtain ⟨key, hkey, hq'⟩ := h q hq
    obtain hkey | hkey := List.mem_append.mp hkey
    · exact ⟨key, hkey, hq'⟩
    · rw [List.mem_singleton.mp hkey] at hq'
      exact absurd (hq' ▸ List.mem_map_of_mem hq) hps
  · intro h
    refine ⟨fun q hq => ?_, by simp⟩
    obtain ⟨key, hkey, hq'⟩ := h q hq
    exact ⟨key, List.mem_append_left _ hkey, hq'⟩

theorem dataValue_concat {key : String} (h : key ≠ name) (p : Property Value) :
    dataValue (ps ++ [(.text name, p)]) key = dataValue ps key := by
  have hkey : (Key.text key == Key.text name) = false := by simp [h]
  rw [dataValue, dataValue, List.lookup_append, List.lookup_cons, hkey]
  simp

/-- An object that has one more key, which is then read last. -/
theorem exactRecord_concat (hps : .text name ∉ ps.map Prod.fst) (hkeys : name ∉ keys)
    (v : Value) :
    exactRecord (.object proxy (ps ++ [(.text name, .data v true)])) (keys ++ [name]) =
      (exactRecord (.object proxy ps) keys).map (· ++ [(name, v)]) := by
  have hvalue : dataValue (ps ++ [(.text name, .data v true)]) name = some v := by
    simp [dataValue, List.lookup_append, lookup_of_not_mem hps]
  have hvalues : ∀ {l : List String}, name ∉ l → l.mapM (fun key =>
        (dataValue (ps ++ [(.text name, .data v true)]) key).map (key, ·)) =
      l.mapM (fun key => (dataValue ps key).map (key, ·)) := by
    intro l hl
    induction l with
    | nil => rfl
    | cons key l ih =>
      obtain ⟨hkey, hl⟩ := not_or.mp (mt List.mem_cons.mpr hl)
      rw [List.mapM_cons, List.mapM_cons, ih hl, dataValue_concat (Ne.symm hkey)]
  simp only [exactRecord, dataDescriptors, Option.bind_eq_bind, Option.bind_some,
    hasExactKeys_concat hps, List.mapM_append, hvalues hkeys]
  cases hasExactKeys ps keys with
  | false => rfl
  | true =>
    have hlast : [name].mapM (fun key =>
        (dataValue (ps ++ [(.text name, .data v true)]) key).map (key, ·)) = some [(name, v)] := by
      simp [hvalue]
    rw [hlast]
    cases keys.mapM (fun key => (dataValue ps key).map (key, ·)) <;> rfl

/-- An object without a key is not one that has to have it. -/
theorem exactRecord_of_absent (hps : .text name ∉ ps.map Prod.fst) :
    exactRecord (.object proxy ps) (keys ++ [name]) = none := by
  have hvalue : dataValue ps name = none := by
    rw [dataValue, lookup_of_not_mem hps]
  have hvalues : (keys ++ [name]).mapM (fun key => (dataValue ps key).map (key, ·)) = none :=
    ListOption.mapM_eq_none.mpr ⟨name, by simp, by rw [hvalue, Option.map_none]⟩
  simp only [exactRecord, dataDescriptors, Option.bind_eq_bind, Option.bind_some, hvalues]
  cases hasExactKeys ps (keys ++ [name]) <;> rfl

/-- An object with a further key is not one that has no others. -/
theorem exactRecord_of_further (hkeys : name ∉ keys) (p : Property Value) :
    exactRecord (.object proxy (ps ++ [(.text name, p)])) keys = none := by
  have hexact : hasExactKeys (ps ++ [(.text name, p)]) keys = false := by
    refine Bool.eq_false_iff.mpr fun h => ?_
    obtain ⟨key, hkey, heq⟩ := (hasExactKeys_iff.1 h).2 (.text name, p) (by simp)
    exact hkeys (Key.text.inj heq ▸ hkey)
  simp only [exactRecord, dataDescriptors, Option.bind_eq_bind, Option.bind_some, hexact]
  rfl

end Optional

namespace Rearranged

theorem lookup_perm {ps qs : List (Key × Property Value)} (h : ps.Perm qs)
    (hk : (ps.map Prod.fst).Nodup) (key : Key) : ps.lookup key = qs.lookup key := by
  have hk' : (qs.map Prod.fst).Nodup := (h.map Prod.fst).nodup_iff.mp hk
  cases hps : ps.lookup key with
  | some p =>
    obtain ⟨l, m, hsplit, -⟩ := List.lookup_eq_some_iff.mp hps
    have hmem : (key, p) ∈ ps := by simp [hsplit]
    exact (JsMap.lookup_of_mem hk' (h.mem_iff.mp hmem)).symm
  | none =>
    rw [List.lookup_eq_none_iff] at hps
    refine (List.lookup_eq_none_iff.mpr ?_).symm
    exact fun p hp => hps p (h.mem_iff.mpr hp)

/-- Reading an object does not show the order of its keys. -/
theorem exactRecord_perm {proxy proxy' : Bool} {ps qs : List (Key × Property Value)}
    (h : ps.Perm qs) (hk : (ps.map Prod.fst).Nodup) (keys : List String) :
    exactRecord (.object proxy ps) keys = exactRecord (.object proxy' qs) keys := by
  have hexact : hasExactKeys ps keys = hasExactKeys qs keys := by
    rw [hasExactKeys, hasExactKeys, h.length_eq, h.all_eq]
  have hvalue : ∀ key, dataValue ps key = dataValue qs key := by
    intro key
    rw [dataValue, dataValue, lookup_perm h hk]
  simp only [exactRecord, dataDescriptors, Option.bind_eq_bind, Option.bind_some, hexact, hvalue]

variable {v w : Value}

theorem exactRecord (h : Rearranged v w) (keys : List String) :
    Option.Rel (RelatedRecord (fun _ => Rearranged)) (JsValue.exactRecord v keys)
      (JsValue.exactRecord w keys) := by
  have hrefl : ∀ (_ : String) (v : Value), Rearranged v v := fun _ v => .same v
  cases h with
  | same => exact exactRecord_related hrefl (.same v) keys
  | items h => exact .none
  | @object proxy _ _ _ _ h hp hk =>
    rw [← @exactRecord_perm proxy _ _ _ hp hk]
    exact exactRecord_related hrefl (.object h) keys

theorem exactArray (h : Rearranged v w) (minimum maximum : Nat) :
    Option.Rel (List.Forall₂ Rearranged) (JsValue.exactArray v minimum maximum)
      (JsValue.exactArray w minimum maximum) := by
  cases h with
  | same =>
    cases JsValue.exactArray v minimum maximum with
    | none => exact .none
    | some items => exact .some (List.forall₂_same.mpr fun v _ => .same v)
  | @items items items' h =>
    by_cases hb : minimum ≤ items.length ∧ items.length ≤ maximum
    · rw [exactArray_ofItems hb, exactArray_ofItems (h.length_eq ▸ hb)]
      exact .some h
    · have hnone : ∀ {l : List Value}, l.length = items.length →
          JsValue.exactArray (ofItems l) minimum maximum = none := by
        intro l hl
        cases ho : JsValue.exactArray (ofItems l) minimum maximum with
        | none => rfl
        | some r =>
          obtain ⟨hr, hlength⟩ := exactArray_eq_some.mp ho
          rw [ofItems_injective hr] at hl
          exact absurd (hl ▸ hlength) hb
      rw [hnone rfl, hnone h.length_eq.symm]
      exact .none
  | object h hp hk => exact .none

theorem string? (h : Rearranged v w) : v.string? = w.string? := by
  cases h <;> rfl

theorem integer? (h : Rearranged v w) : v.integer? = w.integer? := by
  cases h <;> rfl

theorem isNull (h : Rearranged v w) : v.isNull = w.isNull := by
  cases h <;> rfl

theorem isNumber (h : Rearranged v w) (n : Int) : v.isNumber n = w.isNumber n := by
  rw [Value.isNumber, Value.isNumber, h.integer?]

/-- Continuing from related readings. -/
theorem bind_orFail {ε α β : Type} {R : α → α → Prop} {o p : Option α} (h : Option.Rel R o p)
    {e : ε} {f g : α → Except ε β} (hf : ∀ a b, R a b → f a = g b) :
    (orFail o e >>= f) = (orFail p e >>= g) := by
  cases h with
  | none => rfl
  | some hab => exact hf _ _ hab

theorem bind_eq {α β : Type} {R : α → α → Prop} {o p : Option α} (h : Option.Rel R o p)
    {f g : α → Option β} (hf : ∀ a b, R a b → f a = g b) : (o >>= f) = (p >>= g) := by
  cases h with
  | none => rfl
  | some hab => exact hf _ _ hab

theorem isText (h : Rearranged v w) (s : String) : v.isText s = w.isText s := by
  rw [Value.isText, Value.isText, h.string?]

theorem mapM_eq {m : Type → Type} [Monad m] [LawfulMonad m] {α : Type} {f : Value → m α}
    (hf : ∀ v w, Rearranged v w → f v = f w) {l l' : List Value}
    (h : List.Forall₂ Rearranged l l') : l.mapM f = l'.mapM f := by
  induction h with
  | nil => rfl
  | cons hvw _ ih => rw [List.mapM_cons, List.mapM_cons, hf _ _ hvw, ih]

section Building

variable {keys : List String} {r r' : Record}

theorem fields_of_get {R : Value → Value → Prop} (hk : keys.Nodup) (hr : r.map Prod.fst = keys)
    (hr' : r'.map Prod.fst = keys) (h : ∀ key ∈ keys, R (r.get key) (r'.get key)) :
    List.Forall₂ (fun f g : String × Value => f.1 = g.1 ∧ R f.2 g.2) r r' := by
  induction keys generalizing r r' with
  | nil =>
    rw [List.map_eq_nil_iff.mp hr, List.map_eq_nil_iff.mp hr']
    exact .nil
  | cons key keys ih =>
    obtain ⟨⟨k, v⟩, r, rfl, rfl, htail⟩ := List.map_eq_cons_iff.mp hr
    obtain ⟨⟨k', w⟩, r', rfl, hkey, htail'⟩ := List.map_eq_cons_iff.mp hr'
    obtain rfl : k' = k := hkey
    obtain ⟨hnot, hk⟩ := List.nodup_cons.mp hk
    obtain ⟨hhead, hrest⟩ := List.forall_mem_cons.mp h
    rw [get_cons, get_cons, if_pos rfl, if_pos rfl] at hhead
    refine .cons ⟨rfl, hhead⟩ (ih hk htail htail' fun key hkey => ?_)
    have hne : key ≠ k' := fun heq => hnot (heq ▸ hkey)
    have hvalue := hrest key hkey
    rwa [get_cons, get_cons, if_neg hne, if_neg hne] at hvalue

/-- An enumerable data property. -/
def propertyOf (f : String × Value) : Key × Property Value := (.text f.1, .data f.2 true)

/-- An object that was read has just the fields that were read. -/
theorem object_of_exactRecord (hk : keys.Nodup) (h : JsValue.exactRecord v keys = some r) :
    ∃ proxy ps, v = .object proxy ps ∧ ps.Perm (r.map propertyOf) := by
  have hkeys := keys_of_exactRecord h
  obtain ⟨ps, hps, h⟩ := Option.bind_eq_some_iff.mp h
  obtain ⟨_, hexact, h⟩ := Option.bind_eq_some_iff.mp h
  have hexact : hasExactKeys ps keys = true := by
    by_contra hno
    simp [guard, hno] at hexact
  cases v with
  | object proxy qs =>
    obtain rfl : qs = ps := Option.some.inj hps
    refine ⟨proxy, qs, rfl, ?_⟩
    have hlength : (r.map propertyOf).length =
        qs.length := by
      rw [List.length_map, (hasExactKeys_iff.1 hexact).1, ← hkeys, List.length_map]
    have hnodup : (r.map propertyOf).Nodup := by
      have hfst : (r.map Prod.fst).Nodup := hkeys ▸ hk
      refine List.Nodup.map_on ?_ (List.Nodup.of_map _ hfst)
      rintro f _ g _ hfg
      simp only [propertyOf, Prod.mk.injEq, Key.text.injEq, Property.data.injEq, and_true] at hfg
      exact Prod.ext hfg.1 hfg.2
    have hsubset : (r.map propertyOf) ⊆ qs := by
      intro p hp
      obtain ⟨f, hf, rfl⟩ := List.mem_map.mp hp
      obtain ⟨key, -, hvalue⟩ := ListOption.exists_of_mem_right (ListOption.mapM_eq_some.mp h) hf
      obtain ⟨value, hvalue, rfl⟩ := Option.map_eq_some_iff.mp hvalue
      unfold dataValue at hvalue
      split at hvalue
      · rename_i u hlookup
        obtain ⟨l, m, hsplit, -⟩ := List.lookup_eq_some_iff.mp hlookup
        rw [← Option.some.inj hvalue, hsplit, propertyOf]
        simp
      · cases hvalue
    exact ((List.subperm_of_subset hnodup hsubset).perm_of_length_le (Nat.le_of_eq hlength.symm)).symm
  | undefined | null | boolean | integer | nonInteger | bigint | string | date | array | other =>
    cases hps

theorem keys_propertyOf (hk : keys.Nodup) (hr : r.map Prod.fst = keys) :
    ((r.map propertyOf).map Prod.fst).Nodup := by
  have htext : Function.Injective Key.text := fun _ _ hkey => Key.text.inj hkey
  have hmap := (hr.symm ▸ hk).map htext
  rw [List.map_map] at hmap ⊢
  exact hmap

theorem properties_of_get (hk : keys.Nodup) (hr : r.map Prod.fst = keys)
    (hr' : r'.map Prod.fst = keys) (h : ∀ key ∈ keys, Rearranged (r.get key) (r'.get key)) :
    List.Forall₂ (RelatedProperty (fun _ => Rearranged)) (r.map propertyOf) (r'.map propertyOf) := by
  rw [List.forall₂_map_left_iff, List.forall₂_map_right_iff]
  refine (fields_of_get hk hr hr' h).imp ?_
  rintro ⟨k, v⟩ ⟨k', w⟩ ⟨rfl, hvw⟩
  exact .data true hvw

theorem ofFields (hk : keys.Nodup) (hr : r.map Prod.fst = keys) (hr' : r'.map Prod.fst = keys)
    (h : ∀ key ∈ keys, Rearranged (r.get key) (r'.get key)) :
    Rearranged (JsValue.ofFields r) (JsValue.ofFields r') :=
  .object (properties_of_get hk hr hr' h) (.refl _) (keys_propertyOf hk hr')

/-- Two objects of which the same is read are the same up to the order of keys. -/
theorem of_exactRecord (hk : keys.Nodup) (hv : JsValue.exactRecord v keys = some r)
    (hw : JsValue.exactRecord w keys = some r')
    (h : ∀ key ∈ keys, Rearranged (r.get key) (r'.get key)) : Rearranged v w := by
  have hr := keys_of_exactRecord hv
  have hr' := keys_of_exactRecord hw
  obtain ⟨proxy, ps, rfl, hps⟩ := object_of_exactRecord hk hv
  obtain ⟨proxy', qs, rfl, hqs⟩ := object_of_exactRecord hk hw
  obtain ⟨ps', hrelated, hperm⟩ := List.perm_comp_forall₂ hps (properties_of_get hk hr hr' h)
  have hkeys := (hperm.map Prod.fst).nodup_iff.mpr (keys_propertyOf hk hr')
  exact .object hrelated (hperm.trans hqs.symm) hkeys

/-- Reading an object does not show the order of its keys, nor does the record that is read. -/
theorem exactRecord_keys (h : Rearranged v w) (keys : List String) :
    Option.Rel (fun r r' => RelatedRecord (fun _ => Rearranged) r r' ∧ r.map Prod.fst = keys ∧
      r'.map Prod.fst = keys) (JsValue.exactRecord v keys) (JsValue.exactRecord w keys) := by
  have hrelated := h.exactRecord keys
  cases hv : JsValue.exactRecord v keys with
  | none =>
    rw [hv] at hrelated
    cases hw : JsValue.exactRecord w keys with
    | none => exact .none
    | some r' =>
      rw [hw] at hrelated
      cases hrelated
  | some r =>
    rw [hv] at hrelated
    cases hw : JsValue.exactRecord w keys with
    | none =>
      rw [hw] at hrelated
      cases hrelated
    | some r' =>
      rw [hw] at hrelated
      cases hrelated with
      | some hr => exact .some ⟨hr, keys_of_exactRecord hv, keys_of_exactRecord hw⟩

theorem ofItems_inv {l m : List Value} (h : Rearranged (ofItems l) (ofItems m)) :
    List.Forall₂ Rearranged l m := by
  generalize hv : ofItems l = v, hw : ofItems m = w at h
  cases h with
  | same =>
    rw [ofItems_injective (hv.trans hw.symm)]
    exact List.forall₂_same.mpr fun v _ => .same v
  | items h =>
    rw [ofItems_injective hv, ofItems_injective hw]
    exact h
  | object => cases hv

theorem string_inj {s t : String} (h : Rearranged (.string s) (.string t)) : s = t :=
  Option.some.inj h.string?

theorem integer_inj {m n : Int} (h : Rearranged (.integer m) (.integer n)) : m = n :=
  Option.some.inj h.integer?

end Building

end Rearranged

end CryptoLending.Lib.JsValue
