import CryptoLending.Outbox.MessagePolicy

namespace CryptoLending.Outbox.MessageClone

open Lib JsString JsHeap JsonTree MessagePolicy

variable {ρ : Type}

section Each

variable {α β : Type} {clone : Cloning α β}
  {charge : JsonCloneState → β → Except CloneFailure JsonCloneState} {rel : α → β → Prop}

/-- What copies of single items have in common, the copies of a list have. -/
theorem cloneEach_ok
    (h : ∀ x s y s', clone x s = .ok (y, s') → rel x y ∧ charge s y = .ok s')
    {xs : List α} {ys : List β} {s s' : JsonCloneState} (hc : cloneEach clone xs s = .ok (ys, s')) :
    List.Forall₂ rel xs ys ∧ ys.foldlM charge s = .ok s' := by
  induction xs generalizing ys s with
  | nil =>
    obtain ⟨rfl, rfl⟩ := Prod.mk.inj (Except.ok.inj hc)
    exact ⟨.nil, rfl⟩
  | cons x xs ih =>
    obtain ⟨⟨y, s₁⟩, hx, hc⟩ := except_bind_ok.mp hc
    obtain ⟨⟨rest, s₂⟩, hxs, hc⟩ := except_bind_ok.mp hc
    obtain ⟨rfl, rfl⟩ := Prod.mk.inj (Except.ok.inj hc)
    obtain ⟨hrel, hcharge⟩ := h x s y s₁ hx
    obtain ⟨hrels, hcharges⟩ := ih hxs
    refine ⟨.cons hrel hrels, ?_⟩
    rw [List.foldlM_cons, hcharge]
    exact hcharges

theorem cloneEach_of_charge
    (h : ∀ x y, rel x y → ∀ s s', charge s y = .ok s' → clone x s = .ok (y, s'))
    {xs : List α} {ys : List β} (hrel : List.Forall₂ rel xs ys) {s s' : JsonCloneState}
    (hc : ys.foldlM charge s = .ok s') : cloneEach clone xs s = .ok (ys, s') := by
  induction hrel generalizing s with
  | nil =>
    obtain rfl := Except.ok.inj hc
    rfl
  | @cons x y xs ys hxy _ ih =>
    rw [List.foldlM_cons] at hc
    obtain ⟨s₁, hy, hc⟩ := except_bind_ok.mp hc
    rw [cloneEach, h x y hxy s s₁ hy, except_ok_bind]
    change (cloneEach clone xs s₁ >>= fun r => .ok (y :: r.1, r.2)) = _
    rw [ih hc]
    rfl

end Each

section Charge

def chargeMember (charge : JsonTree → JsonCloneState → Except CloneFailure JsonCloneState)
    (state : JsonCloneState) (member : JsString × JsonTree) :
    Except CloneFailure JsonCloneState := do
  let state ← spend state (jsonStringBytes member.1 + 1)
  charge member.2 state

def chargeObject (charge : JsonTree → JsonCloneState → Except CloneFailure JsonCloneState)
    (t : JsonTree) (state : JsonCloneState) : Except CloneFailure JsonCloneState :=
  match t with
  | .array items => do
    let state ← spend state (2 + (items.length - 1))
    items.foldlM (fun state t => charge t state) state
  | .object members => do
    let state ← spend state (2 + (members.length - 1))
    members.foldlM (chargeMember charge) state
  | _ => .error (.data .unsupportedValue)

/-- What the copy of a tree counts. -/
def charge : Nat → JsonTree → JsonCloneState → Except CloneFailure JsonCloneState
  | 0, _, _ => .error (.data .structuralLimits)
  | depth + 1, t, state =>
    if maxJobJsonNodes < state.nodes + 1 then .error (.data .structuralLimits)
    else
      let state := { state with nodes := state.nodes + 1 }
      match t with
      | .null => spend state 4
      | .string s => spend state (jsonStringBytes s)
      | .boolean b => spend state (if b then 4 else 5)
      | .number n => spend state (jsonNumberBytes n)
      | t => chargeObject (charge depth) t state

theorem leaf_ok {t u : JsonTree} {bytes : Nat} {s s' : JsonCloneState}
    (h : leaf t bytes s = .ok (u, s')) : u = t ∧ spend s bytes = .ok s' := by
  rw [leaf] at h
  cases hspend : spend s bytes with
  | error e =>
    rw [hspend] at h
    cases h
  | ok s₁ =>
    rw [hspend] at h
    obtain ⟨rfl, rfl⟩ := Prod.mk.inj (Except.ok.inj h)
    exact ⟨rfl, rfl⟩

theorem leaf_of_spend (t : JsonTree) {bytes : Nat} {s s' : JsonCloneState}
    (h : spend s bytes = .ok s') : leaf t bytes s = .ok (t, s') := by
  rw [leaf, h]
  rfl

end Charge

section Sound

variable {store : Store ρ}

theorem exists_pairs_of_forall₂ {α β γ : Type} {f : γ → α} {rel : γ → β → Prop} {xs : List α}
    {ys : List β} (h : List.Forall₂ (fun x y => ∃ v, x = f v ∧ rel v y) xs ys) :
    ∃ pairs : List (γ × β), xs = pairs.map (fun p => f p.1) ∧ ys = pairs.map Prod.snd ∧
      ∀ p ∈ pairs, rel p.1 p.2 := by
  induction h with
  | nil => exact ⟨[], rfl, rfl, fun _ h => absurd h List.not_mem_nil⟩
  | @cons x y xs ys hxy _ ih =>
    obtain ⟨v, rfl, hv⟩ := hxy
    obtain ⟨pairs, rfl, rfl, hpairs⟩ := ih
    exact ⟨(v, y) :: pairs, rfl, rfl, List.forall_mem_cons.mpr ⟨hv, hpairs⟩⟩

/-- What a copy by `clone` guarantees. -/
def Copies (store : Store ρ) (clone : Cloning (Value ρ) JsonTree)
    (charge : JsonTree → JsonCloneState → Except CloneFailure JsonCloneState) : Prop :=
  ∀ v s t s', clone v s = .ok (t, s') → (Denotes store v t ∧ t.Plain) ∧ charge t s = .ok s'

variable {clone : Cloning (Value ρ) JsonTree}
  {charge' : JsonTree → JsonCloneState → Except CloneFailure JsonCloneState}

theorem cloneElement_ok (h : Copies store clone charge') (e : Option (Property ρ))
    (s : JsonCloneState) (t : JsonTree) (s' : JsonCloneState)
    (hc : cloneElement clone e s = .ok (t, s')) :
    (∃ v, e = some (.data v true) ∧ Denotes store v t ∧ t.Plain) ∧ charge' t s = .ok s' := by
  cases e with
  | none => cases hc
  | some property =>
    cases property with
    | accessor => cases hc
    | data v enumerable =>
      cases enumerable with
      | false => cases hc
      | true =>
        obtain ⟨hv, hcharge⟩ := h v s t s' hc
        exact ⟨⟨v, rfl, hv⟩, hcharge⟩

theorem cloneProperty_ok (h : Copies store clone charge') (p : JsString × Property ρ)
    (s : JsonCloneState) (m : JsString × JsonTree) (s' : JsonCloneState)
    (hc : cloneProperty clone p s = .ok (m, s')) :
    (∃ f : JsString × Value ρ, p = (f.1, .data f.2 true) ∧
      f.1 = m.1 ∧ Denotes store f.2 m.2 ∧ m.2.Plain) ∧ chargeMember charge' s m = .ok s' := by
  obtain ⟨key, property⟩ := p
  cases property with
  | accessor => cases hc
  | data v enumerable =>
    cases enumerable with
    | false => cases hc
    | true =>
      obtain ⟨s₁, hspend, hc⟩ := except_bind_ok.mp hc
      obtain ⟨⟨t, s₂⟩, hclone, hc⟩ := except_bind_ok.mp hc
      obtain ⟨rfl, rfl⟩ := Prod.mk.inj (Except.ok.inj hc)
      obtain ⟨⟨hdenotes, hplain⟩, hcharge⟩ := h v s₁ t s₂ hclone
      refine ⟨⟨(key, v), rfl, rfl, hdenotes, hplain⟩, ?_⟩
      rw [chargeMember, hspend]
      exact hcharge

/-- A dense array has no keys beside its items. -/
theorem properties_of_isDense {o : Object ρ} {elements : List (Option (Property ρ))}
    (h : isDense o elements = true) (hall : ∀ e ∈ elements, e.isSome = true) :
    o.properties = [] ∧ o.symbols = [] := by
  rw [isDense, Bool.and_eq_true, Bool.and_eq_true, beq_iff_eq, List.countP_eq_length.mpr hall] at h
  obtain ⟨⟨hsymbols, _⟩, hlength⟩ := h
  have hkeys : o.keys.length = 0 := by omega
  exact ⟨List.map_eq_nil_iff.mp (List.length_eq_zero_iff.mp hkeys),
    List.isEmpty_iff.mp hsymbols⟩

theorem cloneObject_ok (h : Copies store clone charge') {r : ρ} {s s' : JsonCloneState}
    {t : JsonTree} (hcallable : (store r).callable = false)
    (hc : cloneObject clone (store r) s = .ok (t, s')) :
    (Denotes store (.reference r) t ∧ t.Plain) ∧ chargeObject charge' t s = .ok s' := by
  rw [cloneObject] at hc
  cases helements : (store r).elements with
  | some elements =>
    simp only [helements] at hc
    by_cases hproto : (store r).prototype = .array ∨ (store r).prototype = .null
    · by_cases hdense : isDense (store r) elements = false
      · simp only [hproto, hdense, not_true, if_false, if_true] at hc
        cases hc
      · simp only [hproto, hdense, not_true, if_false] at hc
        obtain ⟨s₁, hspend, hc⟩ := except_bind_ok.mp hc
        obtain ⟨⟨items, s₂⟩, heach, hc⟩ := except_bind_ok.mp hc
        obtain ⟨rfl, rfl⟩ := Prod.mk.inj (Except.ok.inj hc)
        obtain ⟨hrel, hcharge⟩ := @cloneEach_ok _ _ _
          (fun state t => charge' t state) _ (cloneElement_ok h) _ _ _ _ heach
        obtain ⟨pairs, rfl, rfl, hpairs⟩ := exists_pairs_of_forall₂ hrel
        obtain ⟨hproperties, hsymbols⟩ := properties_of_isDense (Bool.eq_true_of_not_eq_false hdense)
          (List.forall_mem_map.mpr fun p _ => rfl)
        refine ⟨⟨.array ⟨hcallable, hproto, ?_, hproperties, hsymbols⟩ fun p hp =>
          (hpairs p hp).1, .array (List.forall_mem_map.mpr fun p hp => (hpairs p hp).2)⟩, ?_⟩
        · rw [helements, List.map_map]
          rfl
        · rw [List.length_map] at hspend
          rw [chargeObject, List.length_map, hspend]
          exact hcharge
    · simp only [hproto, not_false_iff, if_true] at hc
      cases hc
  | none =>
    simp only [helements] at hc
    by_cases hplain : (store r).isPlain = false
    · simp only [hplain, if_true] at hc
      cases hc
    · simp only [hplain] at hc
      obtain ⟨s₁, hspend, hc⟩ := except_bind_ok.mp hc
      obtain ⟨⟨members, s₂⟩, heach, hc⟩ := except_bind_ok.mp hc
      by_cases hsymbols : (store r).symbols.isEmpty = false
      · simp only [hsymbols, if_true] at hc
        cases hc
      · simp only [hsymbols] at hc
        obtain ⟨rfl, rfl⟩ := Prod.mk.inj (Except.ok.inj hc)
        have hnil := List.isEmpty_iff.mp (Bool.eq_true_of_not_eq_false hsymbols)
        obtain ⟨hrel, hcharge⟩ := cloneEach_ok (cloneProperty_ok h) heach
        obtain ⟨entries, hfields, rfl, hentries⟩ := exists_pairs_of_forall₂ hrel
        have hproto : (store r).prototype = .object ∨ (store r).prototype = .null := by
          simpa only [Object.isPlain, Bool.not_eq_false, Bool.or_eq_true, decide_eq_true_eq]
            using hplain
        have hkeys : entries.map Prod.snd = entries.map fun e => (e.1.1, e.2.2) :=
          List.map_congr_left fun e he => Prod.ext (hentries e he).1.symm rfl
        have hordered := (store r).ordered
        rw [hfields, List.map_map] at hordered
        have hdenotes := @Denotes.object _ store r (entries.map fun e => (e.1, e.2.2))
          ⟨hcallable, hproto, helements, by rw [hfields, List.map_map, List.map_map]; rfl, hnil⟩
          (List.forall_mem_map.mpr fun e he => (hentries e he).2.1)
        rw [List.map_map] at hdenotes
        refine ⟨⟨hkeys ▸ hdenotes, .object ?_ ?_⟩, ?_⟩
        · rwa [hkeys, List.map_map]
        · exact List.forall_mem_map.mpr fun e he => (hentries e he).2.2
        · rw [hnil, hfields, List.length_map, List.length_nil, Nat.add_zero] at hspend
          rw [chargeObject, List.length_map, hspend]
          exact hcharge

/-- A copied value denotes the copy, and the copy alone settles what is counted. -/
theorem cloneSupportedJson_ok [DecidableEq ρ] (depth : Nat) (seen : List ρ) :
    Copies store (cloneSupportedJson store depth seen) (charge depth) := by
  induction depth generalizing seen with
  | zero =>
    intro v s t s' hc
    cases hc
  | succ depth ih =>
    intro v s t s' hc
    rw [cloneSupportedJson] at hc
    rw [charge]
    by_cases hnodes : maxJobJsonNodes < s.nodes + 1
    · rw [if_pos hnodes] at hc
      cases hc
    · rw [if_neg hnodes] at hc
      rw [if_neg hnodes]
      cases v with
      | null =>
        obtain ⟨rfl, hspend⟩ := leaf_ok hc
        exact ⟨⟨.null, .null⟩, hspend⟩
      | string text =>
        obtain ⟨rfl, hspend⟩ := leaf_ok hc
        exact ⟨⟨.string text, .string text⟩, hspend⟩
      | boolean b =>
        obtain ⟨rfl, hspend⟩ := leaf_ok hc
        exact ⟨⟨.boolean b, .boolean b⟩, hspend⟩
      | number n =>
        by_cases hfinite : n.isFinite = true
        · simp only [hfinite, if_true] at hc
          obtain ⟨rfl, hspend⟩ := leaf_ok hc
          exact ⟨⟨.number n, .number hfinite⟩, hspend⟩
        · simp only [hfinite] at hc
          cases hc
      | reference r =>
        by_cases hcallable : (store r).callable = true
        · simp only [hcallable, if_true] at hc
          cases hc
        · by_cases hseen : r ∈ seen
          · simp only [hcallable, hseen, if_true] at hc
            cases hc
          · simp only [hcallable, hseen, if_false] at hc
            obtain ⟨hdenotes, hcharge⟩ := cloneObject_ok (ih (r :: seen))
              (Bool.eq_false_of_not_eq_true hcallable) hc
            refine ⟨hdenotes, ?_⟩
            cases t with
            | array items => exact hcharge
            | object members => exact hcharge
            | _ => cases hcharge
      | undefined | bigint | symbol => cases hc

end Sound

section Complete

variable {store : Store ρ}

/-- The objects around a value denote larger trees than the value. -/
def Encloses (store : Store ρ) (seen : List ρ) (t : JsonTree) : Prop :=
  ∀ r ∈ seen, ∃ u, Denotes store (.reference r) u ∧ sizeOf t < sizeOf u

theorem Encloses.not_mem {seen : List ρ} {r : ρ} {t : JsonTree} (h : Encloses store seen t)
    (hr : Denotes store (.reference r) t) : r ∉ seen := by
  intro hmem
  obtain ⟨u, hu, hlt⟩ := h r hmem
  rw [hr.unique hu] at hlt
  exact Nat.lt_irrefl _ hlt

theorem Encloses.cons {seen : List ρ} {r : ρ} {t u : JsonTree} (h : Encloses store seen t)
    (hr : Denotes store (.reference r) t) (hlt : sizeOf u < sizeOf t) :
    Encloses store (r :: seen) u := by
  refine List.forall_mem_cons.mpr ⟨⟨t, hr, hlt⟩, fun r' hr' => ?_⟩
  obtain ⟨w, hw, hw'⟩ := h r' hr'
  exact ⟨w, hw, hlt.trans hw'⟩

theorem sizeOf_item_lt {items : List JsonTree} {t : JsonTree} (h : t ∈ items) :
    sizeOf t < sizeOf (array items) := by
  have hlt := List.sizeOf_lt_of_mem h
  rw [array.sizeOf_spec]
  omega

theorem sizeOf_member_lt {members : List (JsString × JsonTree)} {m : JsString × JsonTree}
    (h : m ∈ members) : sizeOf m.2 < sizeOf (object members) := by
  have hlt := List.sizeOf_lt_of_mem h
  have hpair : sizeOf m = 1 + sizeOf m.1 + sizeOf m.2 := by
    cases m
    exact Prod.mk.sizeOf_spec _ _
  rw [object.sizeOf_spec]
  omega

variable {clone : Cloning (Value ρ) JsonTree}
  {charge' : JsonTree → JsonCloneState → Except CloneFailure JsonCloneState}

theorem cloneObject_items {o : Object ρ} {pairs : List (Value ρ × JsonTree)}
    (holds : HoldsItems o (pairs.map Prod.fst))
    (h : ∀ p ∈ pairs, ∀ s s', charge' p.2 s = .ok s' → clone p.1 s = .ok (p.2, s'))
    {s s' : JsonCloneState} (hc : chargeObject charge' (array (pairs.map Prod.snd)) s = .ok s') :
    cloneObject clone o s = .ok (array (pairs.map Prod.snd), s') := by
  obtain ⟨s₁, hspend, hc⟩ := except_bind_ok.mp hc
  have helements := holds.elements
  rw [List.map_map] at helements
  have hdense : isDense o (pairs.map fun p => some (.data p.1 true)) = true := by
    have hcount : (pairs.map fun p => some (Property.data p.1 true)).countP Option.isSome =
        (pairs.map fun p => some (Property.data p.1 true)).length :=
      List.countP_eq_length.mpr (List.forall_mem_map.mpr fun _ _ => rfl)
    rw [isDense, holds.symbols, Object.keys, holds.properties, hcount]
    exact beq_self_eq_true _
  have heach : cloneEach (cloneElement clone) (pairs.map fun p => some (.data p.1 true)) s₁ =
      .ok (pairs.map Prod.snd, s') := by
    refine @cloneEach_of_charge _ _ _ (fun s t => charge' t s)
      (fun e t => ∃ p ∈ pairs, e = some (.data p.1 true) ∧ t = p.2) ?_ _ _ ?_ _ _ hc
    · rintro e t ⟨p, hp, rfl, rfl⟩ s s' hcharge
      exact h p hp s s' hcharge
    · refine List.forall₂_map_left_iff.mpr (List.forall₂_map_right_iff.mpr ?_)
      exact List.forall₂_same.mpr fun p hp => ⟨p, hp, rfl, rfl⟩
  rw [List.length_map] at hspend
  rw [cloneObject, helements]
  simp only [Function.comp_def, holds.prototype, hdense, not_true, if_false, List.length_map,
    hspend, except_ok_bind, heach, Bool.true_eq_false]

theorem cloneObject_fields {o : Object ρ} {entries : List ((JsString × Value ρ) × JsonTree)}
    (holds : HoldsFields o (entries.map Prod.fst))
    (h : ∀ e ∈ entries, ∀ s s', charge' e.2 s = .ok s' → clone e.1.2 s = .ok (e.2, s'))
    {s s' : JsonCloneState}
    (hc : chargeObject charge' (object (entries.map fun e => (e.1.1, e.2))) s = .ok s') :
    cloneObject clone o s = .ok (object (entries.map fun e => (e.1.1, e.2)), s') := by
  obtain ⟨s₁, hspend, hc⟩ := except_bind_ok.mp hc
  have hproperties := holds.properties
  rw [List.map_map] at hproperties
  have hplain : o.isPlain = true := by
    obtain h | h := holds.prototype
    · rw [Object.isPlain, h]
      rfl
    · rw [Object.isPlain, h]
      rfl
  have heach : cloneEach (cloneProperty clone) (entries.map fun e => (e.1.1, .data e.1.2 true)) s₁ =
      .ok (entries.map fun e => (e.1.1, e.2), s') := by
    refine @cloneEach_of_charge _ _ _ (chargeMember charge')
      (fun p m => ∃ e ∈ entries, p = (e.1.1, .data e.1.2 true) ∧ m = (e.1.1, e.2)) ?_ _ _ ?_ _ _ hc
    · rintro p m ⟨e, he, rfl, rfl⟩ s s' hcharge
      obtain ⟨s₂, hs₂, hcharge⟩ := except_bind_ok.mp hcharge
      rw [cloneProperty, hs₂, except_ok_bind, h e he s₂ s' hcharge]
      rfl
    · refine List.forall₂_map_left_iff.mpr (List.forall₂_map_right_iff.mpr ?_)
      exact List.forall₂_same.mpr fun e he => ⟨e, he, rfl, rfl⟩
  rw [List.length_map] at hspend
  rw [cloneObject, holds.elements]
  simp only [hproperties, Function.comp_def, hplain, if_false, List.length_map, holds.symbols,
    List.length_nil, Nat.add_zero, hspend, except_ok_bind, heach, Bool.true_eq_false,
    List.isEmpty_nil]

/-- A value is copied when the tree that it denotes stays within the limits. -/
theorem cloneSupportedJson_of_charge [DecidableEq ρ] {v : Value ρ} {t : JsonTree}
    (h : Denotes store v t) (hplain : t.Plain) {depth : Nat} {seen : List ρ}
    (hseen : Encloses store seen t) {s s' : JsonCloneState} (hc : charge depth t s = .ok s') :
    cloneSupportedJson store depth seen v s = .ok (t, s') := by
  induction h generalizing depth seen s s' with
  | null | boolean | string =>
    cases depth with
    | zero => cases hc
    | succ depth =>
      rw [charge] at hc
      rw [cloneSupportedJson]
      split at hc
      · cases hc
      · next hnodes =>
        rw [if_neg hnodes]
        exact leaf_of_spend _ hc
  | number n =>
    cases depth with
    | zero => cases hc
    | succ depth =>
      cases hplain with
      | number hfinite =>
        rw [charge] at hc
        rw [cloneSupportedJson]
        split at hc
        · cases hc
        · next hnodes =>
          rw [if_neg hnodes]
          simp only [hfinite, if_true]
          exact leaf_of_spend _ hc
  | @array r pairs holds h ih =>
    cases depth with
    | zero => cases hc
    | succ depth =>
      have hdenotes := Denotes.array holds h
      cases hplain with
      | array hitems =>
        rw [charge] at hc
        rw [cloneSupportedJson]
        split at hc
        · cases hc
        · next hnodes =>
          rw [if_neg hnodes]
          simp only [holds.callable, hseen.not_mem hdenotes, if_false, Bool.false_eq_true]
          refine cloneObject_items holds (fun p hp s s' hcharge => ?_) hc
          have hmem := List.mem_map_of_mem (f := Prod.snd) hp
          exact ih p hp (hitems _ hmem) (hseen.cons hdenotes (sizeOf_item_lt hmem)) hcharge
  | @object r entries holds h ih =>
    cases depth with
    | zero => cases hc
    | succ depth =>
      have hdenotes := Denotes.object holds h
      cases hplain with
      | object _ hmembers =>
        rw [charge] at hc
        rw [cloneSupportedJson]
        split at hc
        · cases hc
        · next hnodes =>
          rw [if_neg hnodes]
          simp only [holds.callable, hseen.not_mem hdenotes, if_false, Bool.false_eq_true]
          refine cloneObject_fields holds (fun e he s s' hcharge => ?_) hc
          have hmem := List.mem_map_of_mem (f := fun e => (e.1.1, e.2)) he
          exact ih e he (hmembers _ hmem) (hseen.cons hdenotes (sizeOf_member_lt hmem)) hcharge

end Complete

section SignedZeros

theorem jsonNumberBytes_withoutSignedZero (n : JsNumber) :
    jsonNumberBytes n.withoutSignedZero = jsonNumberBytes n := by
  cases n with
  | infinity | nan => rfl
  | finite negative magnitude =>
    have htext := JsNumber.toString_withoutSignedZero (.finite negative magnitude)
    by_cases hzero : isNegativeZero (.finite negative magnitude) = true
    · have hunits := eq_of_beq (Bool.and_eq_true_iff.mp hzero).2
      have hlength : (JsNumber.finite negative magnitude).toString.length = 1 := by
        rw [JsNumber.toString, JsNumber.text_finite, JsNumber.magnitudeText, if_pos hunits, hunits]
        cases negative <;> rfl
      have hpositive : isNegativeZero (JsNumber.finite negative magnitude).withoutSignedZero =
          false := by
        rw [JsNumber.withoutSignedZero, isNegativeZero, hunits]
        cases negative <;> rfl
      rw [jsonNumberBytes, jsonNumberBytes, hzero, hpositive, htext, hlength]
      rfl
    · have hpositive : isNegativeZero (JsNumber.finite negative magnitude).withoutSignedZero =
          false := by
        rw [JsNumber.withoutSignedZero, isNegativeZero]
        cases negative <;> cases hunits : magnitude.units == 0 <;> simp [bne, hunits]
      rw [jsonNumberBytes, jsonNumberBytes, Bool.eq_false_of_not_eq_true hzero, hpositive, htext]

theorem charge_withoutSignedZeros (depth : Nat) (t : JsonTree) (s : JsonCloneState) :
    charge depth t.withoutSignedZeros s = charge depth t s := by
  induction depth generalizing t s with
  | zero => rfl
  | succ depth ih =>
    cases t with
    | null | boolean | string => rfl
    | number n =>
      rw [JsonTree.withoutSignedZeros, charge, charge]
      simp only [jsonNumberBytes_withoutSignedZero]
    | array items =>
      rw [JsonTree.withoutSignedZeros, itemsWithoutSignedZeros_eq, charge, charge]
      simp only [chargeObject, List.length_map, List.foldlM_map, ih]
    | object members =>
      rw [JsonTree.withoutSignedZeros, membersWithoutSignedZeros_eq, charge, charge]
      simp only [chargeObject, List.length_map, List.foldlM_map, chargeMember, ih]
      rfl

end SignedZeros

end CryptoLending.Outbox.MessageClone
