import CryptoLending.Lib.JsRearranged
import CryptoLending.Lib.JsonRecord
import CryptoLending.Lib.Sorting

namespace CryptoLending.Lib.CanonicalTree

open JsValue JsonTree JsString Sorting

section Keys

/-- The code units of a text as numbers. Texts are sorted by them. -/
def units (s : String) : List Nat := (ofString s).map UInt16.toNat

theorem units_injective : Function.Injective units := by
  intro s t h
  exact ofString_injective (List.map_injective_iff.mpr (fun _ _ => UInt16.toNat_inj.mp) h)

def compareUnits (a b : String) : Ordering :=
  if units a < units b then .lt else if units b < units a then .gt else .eq

theorem compareUnits_ne_gt (a b : String) : compareUnits a b ≠ .gt ↔ units a ≤ units b := by
  rw [compareUnits]
  obtain hlt | heq | hgt := lt_trichotomy (units a) (units b)
  · simp [hlt, hlt.le]
  · simp [heq]
  · simp [hgt, hgt.not_gt, hgt.not_ge]

def compareKeys {α : Type} (a b : String × α) : Ordering := compareUnits a.1 b.1

theorem compareKeys_ranks {α : Type} (l : List (String × α)) :
    RanksBy compareKeys (fun f => units f.1) l := fun a _ b _ => compareUnits_ne_gt a.1 b.1

/-- Fields with distinct keys are sorted in one way. -/
theorem sortKeys_perm {α : Type} {l m : List (String × α)} (h : l.Perm m)
    (hk : (l.map Prod.fst).Nodup) : sortBy compareKeys l = sortBy compareKeys m := by
  apply (compareKeys_ranks l).sortBy_eq_of_perm (compareKeys_ranks m) h
  intro a ha b hb hab
  exact List.inj_on_of_nodup_map hk ha hb (units_injective hab)

/-- Fields with related values are sorted alike. -/
theorem sortKeys_related {α β : Type} {R : α → β → Prop} {l : List (String × α)}
    {m : List (String × β)} (h : List.Forall₂ (fun f g => f.1 = g.1 ∧ R f.2 g.2) l m) :
    List.Forall₂ (fun f g => f.1 = g.1 ∧ R f.2 g.2) (sortBy compareKeys l)
      (sortBy compareKeys m) := by
  have hentries : ∃ entries : List (String × α × β), l = entries.map (fun e => (e.1, e.2.1)) ∧
      m = entries.map (fun e => (e.1, e.2.2)) ∧ ∀ e ∈ entries, R e.2.1 e.2.2 := by
    induction h with
    | nil => exact ⟨[], rfl, rfl, List.forall_mem_nil _⟩
    | @cons f g _ _ hfg _ ih =>
      obtain ⟨entries, rfl, rfl, hR⟩ := ih
      obtain ⟨k, v⟩ := f
      obtain ⟨k', w⟩ := g
      obtain ⟨rfl, hvw⟩ := hfg
      exact ⟨(k, v, w) :: entries, rfl, rfl, List.forall_mem_cons.mpr ⟨hvw, hR⟩⟩
  obtain ⟨entries, rfl, rfl, hR⟩ := hentries
  have hsort : ∀ {γ : Type} (f : String × α × β → String × γ), (∀ e, (f e).1 = e.1) →
      sortBy compareKeys (entries.map f) = (sortBy compareKeys entries).map f := by
    intro γ f hf
    rw [sortBy_map]
    congr 2
    funext a b
    rw [compareKeys, compareKeys, hf, hf]
  rw [hsort (fun e => (e.1, e.2.1)) fun _ => rfl, hsort (fun e => (e.1, e.2.2)) fun _ => rfl,
    List.forall₂_map_left_iff,
    List.forall₂_map_right_iff, List.forall₂_same]
  exact fun e he => ⟨rfl, hR e (mem_sortBy.mp he)⟩

end Keys

section Fields

/-- An enumerable data property under a text. -/
def field? : Key × Property Value → Option (String × Value)
  | (.text name, .data v true) => some (name, v)
  | _ => none

theorem field?_eq_some {p : Key × Property Value} {f : String × Value} :
    field? p = some f ↔ p = (.text f.1, .data f.2 true) := by
  constructor
  · intro h
    unfold field? at h
    split at h
    · rw [← Option.some.inj h]
    · cases h
  · rintro rfl
    rfl

/-- The fields of an object without other properties. Own keys are distinct. -/
def ownFields (ps : List (Key × Property Value)) : Option (List (String × Value)) := do
  let fields ← ps.mapM field?
  guard (fields.map Prod.fst).Nodup
  return fields

theorem ownFields_eq_some {ps : List (Key × Property Value)} {fields : List (String × Value)} :
    ownFields ps = some fields ↔
      ps = fields.map (fun f => (.text f.1, .data f.2 true)) ∧ (fields.map Prod.fst).Nodup := by
  have hread : ps.mapM field? = some fields ↔
      ps = fields.map (fun f => (.text f.1, .data f.2 true)) := by
    rw [ListOption.mapM_eq_some]
    simp only [field?_eq_some]
    rw [← List.forall₂_map_right_iff (f := fun f : String × Value =>
      ((.text f.1, .data f.2 true) : Key × Property Value)) (R := Eq), List.forall₂_eq_eq_eq]
  constructor
  · intro h
    obtain ⟨fields', hfields, h⟩ := Option.bind_eq_some_iff.mp h
    obtain ⟨_, hguard, h⟩ := Option.bind_eq_some_iff.mp h
    obtain rfl := Option.some.inj h
    refine ⟨hread.mp hfields, ?_⟩
    by_contra hnodup
    simp [guard, hnodup] at hguard
  · rintro ⟨hps, hnodup⟩
    rw [ownFields, hread.mpr hps]
    simp [guard, hnodup]

/-- Two fields with one key and related values. -/
def RelatedField (f g : String × Value) : Prop := f.1 = g.1 ∧ Rearranged f.2 g.2

theorem relatedField_keys {l m : List (String × Value)} (h : List.Forall₂ RelatedField l m) :
    l.map Prod.fst = m.map Prod.fst := by
  induction h with
  | nil => rfl
  | cons hfg _ ih => rw [List.map_cons, List.map_cons, hfg.1, ih]

theorem mapM_field?_related {ps qs : List (Key × Property Value)}
    (h : List.Forall₂ (RelatedProperty (fun _ => Rearranged)) ps qs) :
    Option.Rel (List.Forall₂ RelatedField) (ps.mapM field?) (qs.mapM field?) := by
  have hfield : ∀ p q, RelatedProperty (fun _ => Rearranged) p q →
      Option.Rel RelatedField (field? p) (field? q) := by
    intro p q hpq
    cases hpq with
    | data enumerable hvw =>
      cases enumerable with
      | true => exact .some ⟨rfl, hvw⟩
      | false => exact .none
    | same =>
      cases field? p with
      | none => exact .none
      | some f => exact .some ⟨rfl, .same _⟩
  induction h with
  | nil => exact .some .nil
  | @cons p q _ _ hpq _ ih =>
    rw [List.mapM_cons, List.mapM_cons]
    refine ListOption.rel_bind (hfield p q hpq) fun f g hfg => ?_
    exact ListOption.rel_bind ih fun l m hlm => .some (.cons hfg hlm)

/-- The sorted fields of two objects that differ in the order of keys are related one by one. -/
theorem sortedFields_rearranged {ps qs rs : List (Key × Property Value)}
    (h : List.Forall₂ (RelatedProperty (fun _ => Rearranged)) ps qs) (hp : qs.Perm rs) :
    Option.Rel (fun l m => List.Forall₂ RelatedField (sortBy compareKeys l) (sortBy compareKeys m))
      (ownFields ps) (ownFields rs) := by
  refine ListOption.rel_bind (R := fun l m => ∃ m', List.Forall₂ RelatedField l m' ∧ m'.Perm m)
    ?_ ?_
  · have hrelated := mapM_field?_related h
    have hperm := ListOption.mapM_perm field? hp
    generalize ps.mapM field? = o, qs.mapM field? = o', rs.mapM field? = o'' at hrelated hperm ⊢
    cases hrelated with
    | none =>
      cases hperm with
      | none => exact .none
    | some hlm =>
      cases hperm with
      | some hp => exact .some ⟨_, hlm, hp⟩
  · rintro l m ⟨m', hlm, hm⟩
    have hkeys : (l.map Prod.fst).Nodup ↔ (m.map Prod.fst).Nodup := by
      rw [relatedField_keys hlm]
      exact (hm.map Prod.fst).nodup_iff
    by_cases hk : (m.map Prod.fst).Nodup
    · have hk' : (m'.map Prod.fst).Nodup := (hm.map Prod.fst).nodup_iff.mpr hk
      rw [guard, guard, if_pos hk, if_pos (hkeys.mpr hk)]
      refine .some ?_
      rw [← sortKeys_perm hm hk']
      exact sortKeys_related hlm
    · rw [guard, guard, if_neg hk, if_neg (mt hkeys.mp hk)]
      exact .none

end Fields

section Trees

/-- The value whose objects list their keys in ascending order, unless it is nested too deeply
or has other parts than texts, booleans and small natural numbers. -/
def canonicalTree : Nat → Value → Option JsonTree
  | 0, _ => none
  | level + 1, v =>
    match v with
    | .null => some .null
    | .boolean value => some (.boolean value)
    | .string s => some (text s)
    | .integer n => if 0 ≤ n ∧ n < 2 ^ 53 then some (natural n.toNat) else none
    | .array items => do
      let values ← exactArray (.array items) 0 items.length
      let trees ← values.mapM (canonicalTree level)
      return .array trees
    | .object _ ps => do
      let fields ← ownFields ps
      let members ← (sortBy compareKeys fields).mapM fun f =>
        (canonicalTree level f.2).map (ofString f.1, ·)
      return .object members
    | _ => none

/-- How a value and its tree are built from those one level below. -/
inductive Layer (level : Nat) (v : Value) (t : JsonTree) : Prop
  | null (hv : v = .null) (ht : t = .null)
  | boolean (value : Bool) (hv : v = .boolean value) (ht : t = .boolean value)
  | string (s : String) (hv : v = .string s) (ht : t = text s)
  | natural (n : Nat) (h : n < 2 ^ 53) (hv : v = .integer n) (ht : t = .natural n)
  | array (values : List Value) (trees : List JsonTree)
      (h : List.Forall₂ (fun v t => canonicalTree level v = some t) values trees)
      (hv : v = ofItems values) (ht : t = .array trees)
  | object (proxy : Bool) (fields : List (String × Value)) (members : List (JsString × JsonTree))
      (hk : (fields.map Prod.fst).Nodup)
      (h : List.Forall₂ (fun f m => m.1 = ofString f.1 ∧ canonicalTree level f.2 = some m.2)
        (sortBy compareKeys fields) members)
      (hv : v = .object proxy (fields.map (fun f => (.text f.1, .data f.2 true))))
      (ht : t = .object members)

theorem layer_of_canonicalTree {level : Nat} {v : Value} {t : JsonTree}
    (h : canonicalTree (level + 1) v = some t) : Layer level v t := by
  cases v with
  | null => exact .null rfl (Option.some.inj h).symm
  | boolean value => exact .boolean value rfl (Option.some.inj h).symm
  | string s => exact .string s rfl (Option.some.inj h).symm
  | integer n =>
    rw [canonicalTree] at h
    obtain ⟨⟨hnonneg, hlt⟩, ht⟩ := Option.ite_none_right_eq_some.mp h
    exact .natural n.toNat (by omega) (by rw [Int.toNat_of_nonneg hnonneg])
      (Option.some.inj ht).symm
  | array items =>
    obtain ⟨values, hvalues, h⟩ := Option.bind_eq_some_iff.mp h
    obtain ⟨trees, htrees, h⟩ := Option.bind_eq_some_iff.mp h
    exact .array values trees (ListOption.mapM_eq_some.mp htrees) (exactArray_eq_some.mp hvalues).1
      (Option.some.inj h).symm
  | object proxy ps =>
    obtain ⟨fields, hfields, hread⟩ := Option.bind_eq_some_iff.mp h
    obtain ⟨members, hmembers, ht⟩ := Option.bind_eq_some_iff.mp hread
    obtain ⟨rfl, hk⟩ := ownFields_eq_some.1 hfields
    refine .object proxy fields members hk ?_ rfl (Option.some.inj ht).symm
    refine (ListOption.mapM_eq_some.mp hmembers).imp fun f m hfm => ?_
    obtain ⟨t, ht, rfl⟩ := Option.map_eq_some_iff.mp hfm
    exact ⟨rfl, ht⟩
  | undefined | nonInteger | bigint | date | other => cases h

theorem listed_of_canonicalTree {level : Nat} {v : Value} {t : JsonTree}
    (h : canonicalTree level v = some t) : Listed t := by
  induction level generalizing v t with
  | zero => cases h
  | succ level ih =>
    cases layer_of_canonicalTree h with
    | null _ ht =>
      rw [ht]
      exact .null
    | boolean value _ ht =>
      rw [ht]
      exact .boolean value
    | string s _ ht =>
      rw [ht]
      exact .string _
    | natural n hn _ ht =>
      rw [ht]
      exact .natural hn
    | array values trees h _ ht =>
      rw [ht]
      refine .array fun tree htree => ?_
      obtain ⟨v, -, hv⟩ := ListOption.exists_of_mem_right h htree
      exact ih hv
    | object _ fields members _ h _ ht =>
      rw [ht]
      refine .object fun member hmember => ?_
      obtain ⟨f, -, hf⟩ := ListOption.exists_of_mem_right h hmember
      exact ih hf.2

/-- Two lists that are read to one list are related by their common readings. -/
theorem forall₂_of_common {α β γ : Type} {R : α → γ → Prop} {S : β → γ → Prop}
    {T : α → β → Prop} (hT : ∀ a b c, R a c → S b c → T a b) {l : List α} {m : List β}
    {n : List γ} (hl : List.Forall₂ R l n) (hm : List.Forall₂ S m n) : List.Forall₂ T l m := by
  induction hl generalizing m with
  | nil =>
    cases hm
    exact .nil
  | cons hac _ ih =>
    cases hm with
    | cons hbc hm => exact .cons (hT _ _ _ hac hbc) (ih hm)

/-- Objects whose sorted fields are related differ in the order of keys only. -/
theorem rearranged_of_sorted {proxy proxy' : Bool} {fields fields' : List (String × Value)}
    (hk : (fields'.map Prod.fst).Nodup)
    (h : List.Forall₂ (fun f g => f.1 = g.1 ∧ Rearranged f.2 g.2) (sortBy compareKeys fields)
      (sortBy compareKeys fields')) :
    Rearranged (.object proxy (fields.map (fun f => (.text f.1, .data f.2 true))))
      (.object proxy' (fields'.map (fun f => (.text f.1, .data f.2 true)))) := by
  obtain ⟨related, hrelated, hperm⟩ :=
    List.perm_comp_forall₂ (sortBy_perm compareKeys fields).symm h
  have hp : related.Perm fields' := hperm.trans (sortBy_perm compareKeys fields')
  refine .object ?_ (hp.map _) ?_
  · rw [List.forall₂_map_left_iff, List.forall₂_map_right_iff]
    refine hrelated.imp ?_
    rintro ⟨k, v⟩ ⟨k', w⟩ ⟨rfl, hvw⟩
    exact .data true hvw
  · have hkeys : (related.map Prod.fst).Nodup := (hp.map Prod.fst).nodup_iff.mpr hk
    rw [List.map_map]
    have htext : Function.Injective Key.text := fun _ _ hkey => Key.text.inj hkey
    have hmap := hkeys.map htext
    rwa [List.map_map] at hmap

/-- Values with the same tree differ in the order of keys only. -/
theorem rearranged_of_canonicalTree {level level' : Nat} {v w : Value} {t : JsonTree}
    (hread : canonicalTree level v = some t) (hread' : canonicalTree level' w = some t) :
    Rearranged v w := by
  induction level generalizing level' v w t with
  | zero => cases hread
  | succ level ih =>
    cases level' with
    | zero => cases hread'
    | succ level' =>
      have hlayer := layer_of_canonicalTree hread'
      cases layer_of_canonicalTree hread with
      | null hv ht =>
        subst ht hv
        cases hlayer with
        | null hw _ => exact hw ▸ .same _
        | boolean _ _ ht | string _ _ ht | natural _ _ _ ht | array _ _ _ _ ht
        | object _ _ _ _ _ _ ht => cases ht
      | boolean value hv ht =>
        subst ht hv
        cases hlayer with
        | boolean _ hw ht => exact JsonTree.boolean.inj ht ▸ hw ▸ .same _
        | null _ ht | string _ _ ht | natural _ _ _ ht | array _ _ _ _ ht
        | object _ _ _ _ _ _ ht => cases ht
      | string s hv ht =>
        subst ht hv
        cases hlayer with
        | string _ hw ht => exact text_inj.mp ht ▸ hw ▸ .same _
        | null _ ht | boolean _ _ ht | natural _ _ _ ht | array _ _ _ _ ht
        | object _ _ _ _ _ _ ht => cases ht
      | natural n hn hv ht =>
        subst ht hv
        cases hlayer with
        | natural _ hm hw ht => exact natural_inj hn hm ht ▸ hw ▸ .same _
        | null _ ht | boolean _ _ ht | string _ _ ht | array _ _ _ _ ht
        | object _ _ _ _ _ _ ht => cases ht
      | array values trees h hv ht =>
        subst ht hv
        cases hlayer with
        | array values' _ h' hw ht =>
          obtain rfl := JsonTree.array.inj ht
          have hcommon : ∀ v w t, canonicalTree level v = some t → canonicalTree level' w = some t →
              Rearranged v w := fun _ _ _ hv hw => ih hv hw
          have hrelated := forall₂_of_common hcommon h h'
          rw [hw]
          exact .items hrelated
        | null _ ht | boolean _ _ ht | string _ _ ht | natural _ _ _ ht
        | object _ _ _ _ _ _ ht => cases ht
      | object proxy fields members hk h hv ht =>
        subst ht hv
        cases hlayer with
        | object _ fields' _ hk' h' hw ht =>
          obtain rfl := JsonTree.object.inj ht
          rw [hw]
          exact rearranged_of_sorted hk' (forall₂_of_common (fun f g m hf hg =>
            ⟨ofString_injective (hf.1.symm.trans hg.1), ih hf.2 hg.2⟩) h h')
        | null _ ht | boolean _ _ ht | string _ _ ht | natural _ _ _ ht
        | array _ _ _ _ ht => cases ht

end Trees

end CryptoLending.Lib.CanonicalTree
