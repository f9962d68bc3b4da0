import Mathlib.Data.List.Forall2
import CryptoLending.Lib.JsonTree

namespace CryptoLending.Lib.JsHeap

open JsString

variable {ρ ρ' : Type}

/-- A value of a program whose objects are found by references. -/
inductive Value (ρ : Type) where
  | undefined
  | null
  | boolean (value : Bool)
  | number (value : JsNumber)
  | string (value : JsString)
  | bigint (value : Int)
  | symbol
  | reference (r : ρ)
  deriving DecidableEq

inductive Property (ρ : Type) where
  | data (value : Value ρ) (enumerable : Bool)
  | accessor (enumerable : Bool)
  deriving DecidableEq

/-- The prototypes that are told apart. -/
inductive Prototype where
  | object
  | array
  | null
  | other
  deriving DecidableEq

/-- An object with its own properties. The elements of an array may have holes. -/
structure Object (ρ : Type) where
  callable : Bool
  prototype : Prototype
  elements : Option (List (Option (Property ρ)))
  properties : List (JsString × Property ρ)
  symbols : List (Property ρ)
  ordered : KeysOrdered (properties.map Prod.fst)
  indexed : elements.isSome → ∀ p ∈ properties, arrayIndex? p.1 = none

/-- What every reference stands for. -/
abbrev Store (ρ : Type) := ρ → Object ρ

/-- A record with the given fields. -/
def Object.ofFields (prototype : Prototype) (fields : List (JsString × Value ρ))
    (h : KeysOrdered (fields.map Prod.fst)) : Object ρ where
  callable := false
  prototype
  elements := none
  properties := fields.map fun f => (f.1, .data f.2 true)
  symbols := []
  ordered := by rwa [List.map_map]
  indexed := fun h => absurd h Bool.false_ne_true

/-- An array with the given items. -/
def Object.ofItems (prototype : Prototype) (items : List (Value ρ)) : Object ρ where
  callable := false
  prototype
  elements := some (items.map fun v => some (.data v true))
  properties := []
  symbols := []
  ordered := List.Pairwise.nil
  indexed := fun _ _ h => absurd h List.not_mem_nil

def Object.empty : Object ρ := .ofFields .object [] List.Pairwise.nil

section Reading

variable (store : Store ρ)

/-- The object of a value that is no array and no function. -/
def record? : Value ρ → Option (Object ρ)
  | .reference r => if (store r).callable || (store r).elements.isSome then none else some (store r)
  | _ => none

def Object.isPlain (o : Object ρ) : Bool := o.prototype = .object || o.prototype = .null

def plainObject? (value : Value ρ) : Option (Object ρ) :=
  (record? store value).filter Object.isPlain

def Object.own (o : Object ρ) (name : JsString) : Option (Property ρ) := o.properties.lookup name

def Object.keys (o : Object ρ) : List JsString := o.properties.map Prod.fst

def Property.value? : Property ρ → Option (Value ρ)
  | .data value _ => some value
  | .accessor _ => none

/-- The value of an own data property. -/
def Object.ownData (o : Object ρ) (name : JsString) : Option (Value ρ) :=
  (o.own name).bind Property.value?

def Value.string? : Value ρ → Option JsString
  | .string s => some s
  | _ => none

def Value.number? : Value ρ → Option JsNumber
  | .number n => some n
  | _ => none

end Reading

section Mapping

variable (f : ρ → ρ')

def Value.map : Value ρ → Value ρ'
  | .undefined => .undefined
  | .null => .null
  | .boolean b => .boolean b
  | .number n => .number n
  | .string s => .string s
  | .bigint n => .bigint n
  | .symbol => .symbol
  | .reference r => .reference (f r)

def Property.map : Property ρ → Property ρ'
  | .data value enumerable => .data (value.map f) enumerable
  | .accessor enumerable => .accessor enumerable

/-- An object seen from a larger heap. -/
def Object.map (o : Object ρ) : Object ρ' where
  callable := o.callable
  prototype := o.prototype
  elements := o.elements.map fun es => es.map fun e => e.map (Property.map f)
  properties := o.properties.map fun p => (p.1, p.2.map f)
  symbols := o.symbols.map (Property.map f)
  ordered := by
    rw [List.map_map]
    exact o.ordered
  indexed := by
    rw [Option.isSome_map]
    exact fun h => List.forall_mem_map.mpr (o.indexed h)

theorem Object.elements_map (o : Object ρ) : (o.map f).elements =
    o.elements.map fun es => es.map fun e => e.map (Property.map f) := rfl

theorem Object.properties_map (o : Object ρ) :
    (o.map f).properties = o.properties.map fun p => (p.1, p.2.map f) := rfl

theorem Object.symbols_map (o : Object ρ) :
    (o.map f).symbols = o.symbols.map (Property.map f) := rfl

end Mapping

section Denotation

/-- An array without holes, with enumerable data items only. -/
structure HoldsItems (o : Object ρ) (items : List (Value ρ)) : Prop where
  callable : o.callable = false
  prototype : o.prototype = .array ∨ o.prototype = .null
  elements : o.elements = some (items.map fun v => some (.data v true))
  properties : o.properties = []
  symbols : o.symbols = []

/-- A plain object with enumerable data properties only. -/
structure HoldsFields (o : Object ρ) (fields : List (JsString × Value ρ)) : Prop where
  callable : o.callable = false
  prototype : o.prototype = .object ∨ o.prototype = .null
  elements : o.elements = none
  properties : o.properties = fields.map fun f => (f.1, .data f.2 true)
  symbols : o.symbols = []

/-- A value whose objects, followed to the end, make up a tree. -/
inductive Denotes (store : Store ρ) : Value ρ → JsonTree → Prop
  | null : Denotes store .null .null
  | boolean (b : Bool) : Denotes store (.boolean b) (.boolean b)
  | number (n : JsNumber) : Denotes store (.number n) (.number n)
  | string (s : JsString) : Denotes store (.string s) (.string s)
  | array {r : ρ} {pairs : List (Value ρ × JsonTree)}
      (holds : HoldsItems (store r) (pairs.map Prod.fst))
      (h : ∀ p ∈ pairs, Denotes store p.1 p.2) :
      Denotes store (.reference r) (.array (pairs.map Prod.snd))
  | object {r : ρ} {entries : List ((JsString × Value ρ) × JsonTree)}
      (holds : HoldsFields (store r) (entries.map Prod.fst))
      (h : ∀ e ∈ entries, Denotes store e.1.2 e.2) :
      Denotes store (.reference r) (.object (entries.map fun e => (e.1.1, e.2)))

theorem map_congr_of_map_eq {α β γ : Type} {f : α → β} {g : α → γ} {l l' : List α}
    (hf : l.map f = l'.map f) (h : ∀ a ∈ l, ∀ b ∈ l', f a = f b → g a = g b) :
    l.map g = l'.map g := by
  induction l generalizing l' with
  | nil => rw [List.map_eq_nil_iff.mp hf.symm]
  | cons a l ih =>
    obtain ⟨b, l', rfl, hb, hl⟩ := List.map_eq_cons_iff.mp hf.symm
    rw [List.map_cons, List.map_cons, h a List.mem_cons_self b List.mem_cons_self hb.symm,
      ih hl.symm fun c hc d hd => h c (List.mem_cons_of_mem a hc) d (List.mem_cons_of_mem b hd)]

theorem data_injective : Function.Injective fun v : Value ρ => Property.data v true := by
  intro v w h
  injection h

theorem HoldsItems.unique {o : Object ρ} {items items' : List (Value ρ)} (h : HoldsItems o items)
    (h' : HoldsItems o items') : items = items' := by
  have he := Option.some.inj (h.elements.symm.trans h'.elements)
  refine List.map_injective_iff.mpr (fun v w hvw => ?_) he
  exact data_injective (Option.some.inj hvw)

theorem HoldsFields.unique {o : Object ρ} {fields fields' : List (JsString × Value ρ)}
    (h : HoldsFields o fields) (h' : HoldsFields o fields') : fields = fields' := by
  have he := h.properties.symm.trans h'.properties
  refine List.map_injective_iff.mpr (fun f g hfg => ?_) he
  obtain ⟨hkey, hvalue⟩ := Prod.mk.inj hfg
  exact Prod.ext hkey (data_injective hvalue)

/-- A value denotes one tree. -/
theorem Denotes.unique {store : Store ρ} {v : Value ρ} {t u : JsonTree} (ht : Denotes store v t)
    (hu : Denotes store v u) : t = u := by
  induction ht generalizing u with
  | null | boolean | number | string =>
    cases hu
    rfl
  | array holds h ih =>
    cases hu with
    | array holds' h' =>
      rw [map_congr_of_map_eq (holds.unique holds') fun p hp q hq hpq =>
        ih p hp (hpq ▸ h' q hq)]
    | object holds' _ => cases holds.elements.symm.trans holds'.elements
  | object holds h ih =>
    cases hu with
    | array holds' _ => cases holds.elements.symm.trans holds'.elements
    | object holds' h' =>
      rw [map_congr_of_map_eq (holds.unique holds') fun p hp q hq hpq =>
        congrArg₂ Prod.mk (congrArg Prod.fst hpq) (ih p hp (hpq ▸ h' q hq))]

/-- The fields of an object and the members of the tree that it denotes correspond. -/
theorem denotes_object_iff {store : Store ρ} {v : Value ρ} {members : List (JsString × JsonTree)} :
    Denotes store v (.object members) ↔ ∃ r fields, v = .reference r ∧
      HoldsFields (store r) fields ∧
        List.Forall₂ (fun f m => f.1 = m.1 ∧ Denotes store f.2 m.2) fields members := by
  constructor
  · intro h
    cases h with
    | @object r entries holds h =>
      refine ⟨r, _, rfl, holds, ?_⟩
      rw [List.forall₂_map_left_iff, List.forall₂_map_right_iff, List.forall₂_same]
      exact fun e he => ⟨rfl, h e he⟩
  · rintro ⟨r, fields, rfl, holds, hrel⟩
    have hentries : ∃ entries : List ((JsString × Value ρ) × JsonTree),
        entries.map Prod.fst = fields ∧ entries.map (fun e => (e.1.1, e.2)) = members ∧
          ∀ e ∈ entries, Denotes store e.1.2 e.2 := by
      clear holds
      induction hrel with
      | nil => exact ⟨[], rfl, rfl, fun _ h => absurd h List.not_mem_nil⟩
      | @cons f m _ _ hfm _ ih =>
        obtain ⟨entries, rfl, rfl, hall⟩ := ih
        exact ⟨(f, m.2) :: entries, rfl, congrArg₂ List.cons (Prod.ext hfm.1 rfl) rfl,
          List.forall_mem_cons.mpr ⟨hfm.2, hall⟩⟩
    obtain ⟨entries, rfl, rfl, hall⟩ := hentries
    exact .object holds hall

end Denotation

section Embedding

variable {store : Store ρ} {store' : Store ρ'} {f : ρ → ρ'}

theorem HoldsItems.map {o : Object ρ} {items : List (Value ρ)} (h : HoldsItems o items) :
    HoldsItems (o.map f) (items.map (Value.map f)) where
  callable := h.callable
  prototype := h.prototype
  elements := by
    rw [Object.elements_map, h.elements, Option.map_some, List.map_map, List.map_map]
    rfl
  properties := by rw [Object.properties_map, h.properties, List.map_nil]
  symbols := by rw [Object.symbols_map, h.symbols, List.map_nil]

theorem HoldsFields.map {o : Object ρ} {fields : List (JsString × Value ρ)}
    (h : HoldsFields o fields) :
    HoldsFields (o.map f) (fields.map fun p => (p.1, p.2.map f)) where
  callable := h.callable
  prototype := h.prototype
  elements := by rw [Object.elements_map, h.elements, Option.map_none]
  properties := by
    rw [Object.properties_map, h.properties, List.map_map, List.map_map]
    rfl
  symbols := by rw [Object.symbols_map, h.symbols, List.map_nil]

/-- What a value denotes does not change in a larger heap. -/
theorem Denotes.map (hstore : ∀ r, store' (f r) = (store r).map f) {v : Value ρ} {t : JsonTree}
    (h : Denotes store v t) : Denotes store' (v.map f) t := by
  induction h with
  | null => exact .null
  | boolean b => exact .boolean b
  | number n => exact .number n
  | string s => exact .string s
  | @array r pairs holds h ih =>
    have hmap := @Denotes.array _ store' (f r) (pairs.map fun p => (p.1.map f, p.2))
      (by
        rw [hstore, List.map_map]
        have hitems := holds.map (f := f)
        rwa [List.map_map] at hitems)
      (List.forall_mem_map.mpr ih)
    rwa [List.map_map] at hmap
  | @object r entries holds h ih =>
    have hmap := @Denotes.object _ store' (f r)
      (entries.map fun e => ((e.1.1, e.1.2.map f), e.2))
      (by
        rw [hstore, List.map_map]
        have hfields := holds.map (f := f)
        rwa [List.map_map] at hfields)
      (List.forall_mem_map.mpr ih)
    rwa [List.map_map] at hmap

theorem exists_pairs {α β γ : Type} {g : α → β} {xs : List α} {pairs : List (β × γ)}
    (h : xs.map g = pairs.map Prod.fst) :
    ∃ pairs' : List (α × γ), pairs'.map Prod.fst = xs ∧
      pairs'.map (fun p => (g p.1, p.2)) = pairs := by
  induction pairs generalizing xs with
  | nil => exact ⟨[], (List.map_eq_nil_iff.mp h).symm, rfl⟩
  | cons p pairs ih =>
    obtain ⟨x, xs, rfl, hx, hxs⟩ := List.map_eq_cons_iff.mp h
    obtain ⟨pairs', rfl, rfl⟩ := ih hxs
    exact ⟨(x, p.2) :: pairs', rfl, by rw [List.map_cons, hx]⟩

theorem exists_of_map_eq {α β γ δ : Type} {a : α → γ} {b : β → γ} {c : δ → α} {d : δ → β}
    (hab : ∀ x y, a x = b y → ∃ z, c z = x ∧ d z = y) {xs : List α} {ys : List β}
    (h : xs.map a = ys.map b) : ∃ zs : List δ, zs.map c = xs ∧ zs.map d = ys := by
  induction ys generalizing xs with
  | nil => exact ⟨[], (List.map_eq_nil_iff.mp h).symm, rfl⟩
  | cons y ys ih =>
    obtain ⟨x, xs, rfl, hx, hxs⟩ := List.map_eq_cons_iff.mp h
    obtain ⟨zs, rfl, rfl⟩ := ih hxs
    obtain ⟨z, rfl, rfl⟩ := hab x y hx
    exact ⟨z :: zs, rfl, rfl⟩

theorem exists_of_map_data {property : Property ρ} {w : Value ρ'}
    (h : property.map f = .data w true) : ∃ v : Value ρ, .data v true = property ∧ v.map f = w := by
  cases property with
  | accessor => cases h
  | data v enumerable =>
    obtain ⟨hv, rfl⟩ := Property.data.inj h
    exact ⟨v, rfl, hv⟩

theorem HoldsItems.of_map {o : Object ρ} {items : List (Value ρ')}
    (h : HoldsItems (o.map f) items) :
    ∃ values, HoldsItems o values ∧ values.map (Value.map f) = items := by
  obtain ⟨elements, helements, hmap⟩ := Option.map_eq_some_iff.mp h.elements
  obtain ⟨values, hvalues, hitems⟩ := exists_of_map_eq
    (c := fun v => some (.data v true)) (d := Value.map f) (fun e w hew => by
      obtain ⟨property, rfl, hp⟩ := Option.map_eq_some_iff.mp hew
      obtain ⟨v, rfl, hv⟩ := exists_of_map_data hp
      exact ⟨v, rfl, hv⟩) hmap
  refine ⟨values, ⟨h.callable, h.prototype, ?_, ?_, ?_⟩, hitems⟩
  · rw [helements, hvalues]
  · exact List.map_eq_nil_iff.mp h.properties
  · exact List.map_eq_nil_iff.mp h.symbols

theorem HoldsFields.of_map {o : Object ρ} {fields : List (JsString × Value ρ')}
    (h : HoldsFields (o.map f) fields) :
    ∃ values, HoldsFields o values ∧ values.map (fun p => (p.1, p.2.map f)) = fields := by
  obtain ⟨values, hvalues, hfields⟩ := exists_of_map_eq
    (c := fun p : JsString × Value ρ => (p.1, Property.data p.2 true))
    (d := fun p => (p.1, p.2.map f)) (fun e w hew => by
      obtain ⟨hkey, hp⟩ := Prod.mk.inj hew
      obtain ⟨v, hv, hw⟩ := exists_of_map_data hp
      exact ⟨(e.1, v), Prod.ext rfl hv, Prod.ext hkey hw⟩) h.properties
  refine ⟨values, ⟨h.callable, h.prototype, ?_, hvalues.symm, ?_⟩, hfields⟩
  · exact Option.map_eq_none_iff.mp h.elements
  · exact List.map_eq_nil_iff.mp h.symbols

theorem Denotes.of_map (hstore : ∀ r, store' (f r) = (store r).map f) {w : Value ρ'} {t : JsonTree}
    (h : Denotes store' w t) {v : Value ρ} (hv : v.map f = w) : Denotes store v t := by
  induction h generalizing v with
  | null | boolean | number | string =>
    cases v <;> cases hv
    constructor
  | @array r pairs holds h ih =>
    cases v with
    | reference r' =>
      obtain rfl := Value.reference.inj hv
      rw [hstore] at holds
      obtain ⟨values, hvalues, hitems⟩ := holds.of_map
      obtain ⟨pairs', rfl, rfl⟩ := exists_pairs hitems
      rw [List.map_map]
      exact .array hvalues fun p hp => ih _ (List.mem_map_of_mem hp) rfl
    | _ => cases hv
  | @object r entries holds h ih =>
    cases v with
    | reference r' =>
      obtain rfl := Value.reference.inj hv
      rw [hstore] at holds
      obtain ⟨values, hvalues, hitems⟩ := holds.of_map
      obtain ⟨entries', rfl, rfl⟩ := exists_pairs hitems
      rw [List.map_map]
      exact .object hvalues fun p hp => ih _ (List.mem_map_of_mem hp) rfl
    | _ => cases hv

end Embedding

end CryptoLending.Lib.JsHeap

namespace CryptoLending.Lib.JsonHeap

open JsHeap

def child : JsonTree → Nat → Option JsonTree
  | .array items, i => items[i]?
  | .object members, i => members[i]?.map Prod.snd
  | _, _ => none

/-- The part of a tree at a position. -/
def descend (root : JsonTree) (path : List Nat) : Option JsonTree := path.foldlM child root

/-- The value of a part of a tree. Its object is found by its position. -/
def valueAt (path : List Nat) : JsonTree → Value (List Nat)
  | .null => .null
  | .boolean b => .boolean b
  | .number n => .number n
  | .string s => .string s
  | .array _ => .reference path
  | .object _ => .reference path

def itemValues (path : List Nat) (items : List JsonTree) : List (Value (List Nat)) :=
  items.zipIdx.map fun p => valueAt (path ++ [p.2]) p.1

def memberValues (path : List Nat) (members : List (JsString × JsonTree)) :
    List (JsString × Value (List Nat)) :=
  members.zipIdx.map fun p => (p.1.1, valueAt (path ++ [p.2]) p.1.2)

theorem keys_memberValues (path : List Nat) (members : List (JsString × JsonTree)) :
    (memberValues path members).map Prod.fst = members.map Prod.fst := by
  have hfst := List.zipIdx_map_fst 0 members
  calc (memberValues path members).map Prod.fst = (members.zipIdx.map Prod.fst).map Prod.fst := by
        rw [memberValues, List.map_map, List.map_map]
        rfl
    _ = members.map Prod.fst := by rw [hfst]

/-- The fresh object of a part of a parsed text. -/
def objectAt (path : List Nat) : JsonTree → Object (List Nat)
  | .array items => .ofItems .array (itemValues path items)
  | .object members =>
    if h : KeysOrdered (members.map Prod.fst) then
      .ofFields .object (memberValues path members) (by rwa [keys_memberValues])
    else .empty
  | _ => .empty

/-- The heap of a parsed text. -/
def treeStore (root : JsonTree) : Store (List Nat) := fun path =>
  ((descend root path).map (objectAt path)).getD .empty

def rootValue (root : JsonTree) : Value (List Nat) := valueAt [] root

theorem descend_append {root t u : JsonTree} {path : List Nat} {i : Nat}
    (h : descend root path = some t) (hchild : child t i = some u) :
    descend root (path ++ [i]) = some u := by
  rw [descend, List.foldlM_append, ← descend, h]
  change (child t i).bind some = some u
  rw [hchild]
  rfl

theorem treeStore_eq {root t : JsonTree} {path : List Nat} (h : descend root path = some t) :
    treeStore root path = objectAt path t := by
  rw [treeStore, h]
  rfl

theorem holdsItems_ofItems {ρ : Type} (items : List (Value ρ)) :
    HoldsItems (.ofItems .array items) items := ⟨rfl, Or.inl rfl, rfl, rfl, rfl⟩

theorem holdsFields_ofFields {ρ : Type} (prototype : Prototype)
    (hproto : prototype = .object ∨ prototype = .null) (fields : List (JsString × Value ρ))
    (h : KeysOrdered (fields.map Prod.fst)) :
    HoldsFields (.ofFields prototype fields h) fields := ⟨rfl, hproto, rfl, rfl, rfl⟩

/-- A parsed value denotes its tree. -/
theorem denotes_valueAt {root t : JsonTree} (h : t.Plain) {path : List Nat}
    (hpath : descend root path = some t) : Denotes (treeStore root) (valueAt path t) t := by
  induction h generalizing path with
  | null => exact .null
  | boolean b => exact .boolean b
  | number _ => exact .number _
  | string s => exact .string s
  | @array items hitems ih =>
    have hsnd : (items.zipIdx.map fun p => (valueAt (path ++ [p.2]) p.1, p.1)).map Prod.snd =
        items := by
      rw [List.map_map]
      exact List.zipIdx_map_fst 0 items
    have hdenotes := @Denotes.array _ (treeStore root) path
      (items.zipIdx.map fun p => (valueAt (path ++ [p.2]) p.1, p.1))
      (by
        rw [treeStore_eq hpath, List.map_map]
        exact holdsItems_ofItems (itemValues path items))
      (List.forall_mem_map.mpr fun p hp => by
        have hget := List.mk_mem_zipIdx_iff_getElem?.mp hp
        exact ih p.1 (List.mem_of_getElem? hget) (descend_append hpath hget))
    rwa [hsnd] at hdenotes
  | @object members ordered hmembers ih =>
    have hsnd : (members.zipIdx.map fun p =>
        ((p.1.1, valueAt (path ++ [p.2]) p.1.2), p.1.2)).map (fun e => (e.1.1, e.2)) =
          members := by
      rw [List.map_map]
      exact List.zipIdx_map_fst 0 members
    have hdenotes := @Denotes.object _ (treeStore root) path
      (members.zipIdx.map fun p => ((p.1.1, valueAt (path ++ [p.2]) p.1.2), p.1.2))
      (by
        rw [treeStore_eq hpath, List.map_map, objectAt, dif_pos ordered]
        exact holdsFields_ofFields .object (Or.inl rfl) (memberValues path members) _)
      (List.forall_mem_map.mpr fun p hp => by
        have hget := List.mk_mem_zipIdx_iff_getElem?.mp hp
        exact ih p.1 (List.mem_of_getElem? hget) (descend_append hpath (by
          rw [child, hget]
          rfl)))
    rwa [hsnd] at hdenotes

theorem denotes_rootValue {root : JsonTree} (h : root.Plain) :
    Denotes (treeStore root) (rootValue root) root := denotes_valueAt h rfl

end CryptoLending.Lib.JsonHeap
