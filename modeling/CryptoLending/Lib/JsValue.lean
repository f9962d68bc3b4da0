import CryptoLending.Lib.JsMap
import CryptoLending.Lib.ListOption

namespace CryptoLending.Lib.JsValue

/-- A property key is a text or a symbol. -/
inductive Key where
  | text (name : String)
  | symbol
  deriving DecidableEq

/-- An own property holds a value or runs an accessor. -/
inductive Property (α : Type) where
  | data (value : α) (enumerable : Bool)
  | accessor

/-- An untyped value at the boundary of a program. Objects are those whose prototype
is the plain one or none, arrays those without holes and extra keys; every other
function, symbol, instance or exotic object is `other`. -/
inductive Value where
  | undefined
  | null
  | boolean (value : Bool)
  | integer (value : Int)
  | nonInteger
  | bigint (value : Int)
  | string (value : String)
  | date (milliseconds : Option Int)
  | array (items : List (Property Value))
  | object (proxy : Bool) (properties : List (Key × Property Value))
  | other

namespace Value

def isNull : Value → Bool
  | .null => true
  | _ => false

def string? : Value → Option String
  | .string s => some s
  | _ => none

def bigint? : Value → Option Int
  | .bigint n => some n
  | _ => none

def integer? : Value → Option Int
  | .integer n => some n
  | _ => none

/-- The time value of a valid date. -/
def milliseconds? : Value → Option Int
  | .date milliseconds => milliseconds
  | _ => none

/-- Strict equality with a text. -/
def isText (v : Value) (s : String) : Bool := v.string? == some s

/-- Strict equality with an integer-valued number. -/
def isNumber (v : Value) (n : Int) : Bool := v.integer? == some n

@[simp] theorem isNull_null : Value.null.isNull = true := rfl

theorem isNull_iff (v : Value) : v.isNull = true ↔ v = .null := by
  cases v <;> simp [isNull]

theorem string?_eq_some {v : Value} {s : String} : v.string? = some s ↔ v = .string s := by
  cases v <;> simp [string?]

theorem milliseconds?_eq_some {v : Value} {n : Int} :
    v.milliseconds? = some n ↔ v = .date (some n) := by
  cases v <;> simp [milliseconds?]

theorem isText_iff {v : Value} {s : String} : v.isText s = true ↔ v = .string s := by
  cases v <;> simp [isText, string?]

theorem isNumber_iff {v : Value} {n : Int} : v.isNumber n = true ↔ v = .integer n := by
  cases v <;> simp [isNumber, integer?]

end Value

/-- The fields of an object after its shape was checked, in the order of the checked keys. -/
abbrev Record := List (String × Value)

def Record.get (r : Record) (key : String) : Value := (r.lookup key).getD .undefined

/-- The own properties of a plain object. -/
def dataDescriptors : Value → Option (List (Key × Property Value))
  | .object _ properties => some properties
  | _ => none

/-- The value of an enumerable data property. -/
def dataValue (properties : List (Key × Property Value)) (key : String) : Option Value :=
  match properties.lookup (.text key) with
  | some (.data value true) => some value
  | _ => none

/-- Exactly the listed keys are present. -/
def hasExactKeys (properties : List (Key × Property Value)) (keys : List String) : Bool :=
  properties.length == keys.length &&
    properties.all (fun p => match p.1 with
      | .text name => keys.contains name
      | .symbol => false)

/-- A plain object with exactly the listed keys, all of them enumerable data. -/
def exactRecord (v : Value) (keys : List String) : Option Record := do
  let properties ← dataDescriptors v
  guard (hasExactKeys properties keys)
  keys.mapM (fun key => (dataValue properties key).map (key, ·))

def isProxy : Value → Bool
  | .object proxy _ => proxy
  | _ => false

/-- A plain object, not behind a proxy, with exactly the listed keys. -/
def exactDataRecord (v : Value) (keys : List String) : Option Record :=
  if isProxy v then none else exactRecord v keys

/-- A plain array whose length is in range and whose items are enumerable data. -/
def exactArray (v : Value) (minimum maximum : Nat) : Option (List Value) :=
  match v with
  | .array items => do
      guard (minimum ≤ items.length ∧ items.length ≤ maximum)
      items.mapM (fun item => match item with
        | .data value true => some value
        | _ => none)
  | _ => none

/-- The plain object with the given fields. -/
def ofFields (fields : List (String × Value)) : Value :=
  .object false (fields.map (fun f => (.text f.1, .data f.2 true)))

/-- The plain array of the given items. -/
def ofItems (items : List Value) : Value := .array (items.map (.data · true))

theorem keys_of_exactRecord {v : Value} {keys : List String} {r : Record}
    (h : exactRecord v keys = some r) : r.map Prod.fst = keys := by
  obtain ⟨properties, _, h⟩ := Option.bind_eq_some_iff.mp h
  obtain ⟨_, _, h⟩ := Option.bind_eq_some_iff.mp h
  have hm := ListOption.mapM_map h (fun key => key) Prod.fst (fun key field hf => by
    obtain ⟨value, _, rfl⟩ := Option.map_eq_some_iff.mp hf
    rfl)
  rwa [List.map_id'] at hm

theorem get_cons (key key' : String) (value : Value) (r : Record) :
    Record.get ((key, value) :: r) key' = if key' = key then value else Record.get r key' := by
  by_cases hk : key' = key
  · simp [Record.get, hk]
  · have hn : (key' == key) = false := by simp [hk]
    simp [Record.get, List.lookup_cons, hn, hk]

/-- A record lists its keys with their values. -/
theorem record_eq_map {keys : List String} (hkeys : keys.Nodup) {r : Record}
    (hr : r.map Prod.fst = keys) : r = keys.map (fun key => (key, r.get key)) := by
  induction keys generalizing r with
  | nil => exact List.map_eq_nil_iff.mp hr
  | cons key keys ih =>
    obtain ⟨⟨k, v⟩, t, rfl, hk, ht⟩ := List.map_eq_cons_iff.mp hr
    obtain rfl : k = key := hk
    obtain ⟨hnot, hnodup⟩ := List.nodup_cons.mp hkeys
    have htail : keys.map (fun j => (j, Record.get ((k, v) :: t) j)) =
        keys.map (fun j => (j, Record.get t j)) := by
      apply List.map_congr_left
      intro j hj
      have hne : j ≠ k := fun hjk => hnot (hjk ▸ hj)
      rw [get_cons, if_neg hne]
    rw [List.map_cons, get_cons, if_pos rfl, htail, ← ih hnodup ht]

theorem exactDataRecord_eq {v : Value} {keys : List String} {r : Record}
    (h : exactDataRecord v keys = some r) (hkeys : keys.Nodup) :
    r = keys.map (fun key => (key, r.get key)) := by
  simp only [exactDataRecord, Option.ite_none_left_eq_some] at h
  exact record_eq_map hkeys (keys_of_exactRecord h.2)

/-- The value of an enumerable data property of a plain object. -/
def ownValue (v : Value) (key : String) : Option Value :=
  (dataDescriptors v).bind (dataValue · key)

theorem ownValue_of_exactDataRecord {v : Value} {keys : List String} {r : Record}
    (h : exactDataRecord v keys = some r) (hkeys : keys.Nodup) {key : String} (hkey : key ∈ keys) :
    ownValue v key = some (r.get key) := by
  simp only [exactDataRecord, Option.ite_none_left_eq_some] at h
  have hfst := keys_of_exactRecord h.2
  obtain ⟨properties, hp, h⟩ := Option.bind_eq_some_iff.mp h.2
  obtain ⟨_, _, h⟩ := Option.bind_eq_some_iff.mp h
  obtain ⟨field, hfield, hf⟩ := ListOption.mapM_of_mem h hkey
  obtain ⟨value, hv, rfl⟩ := Option.map_eq_some_iff.mp hf
  have hlookup := JsMap.lookup_of_mem (hfst ▸ hkeys) hfield
  rw [ownValue, hp, Option.bind_some, hv, Record.get, hlookup, Option.getD_some]

/-- Reading a plain object back gives its fields. -/
theorem exactRecord_ofFields {fields : List (String × Value)} (h : (fields.map Prod.fst).Nodup) :
    exactRecord (ofFields fields) (fields.map Prod.fst) = some fields := by
  have hlookup : ∀ {l : List (String × Value)} {key : String},
      (l.map (fun f => (Key.text f.1, Property.data f.2 true))).lookup (.text key) =
        (l.lookup key).map (Property.data · true) := by
    intro l key
    induction l with
    | nil => rfl
    | cons f l ih =>
      have hbeq : (Key.text key == Key.text f.1) = (key == f.1) := by
        by_cases hk : key = f.1 <;> simp [hk]
      rw [List.map_cons, List.lookup_cons, List.lookup_cons, hbeq, ih]
      cases key == f.1 <;> rfl
  have hexact : hasExactKeys (fields.map (fun f => (Key.text f.1, Property.data f.2 true)))
      (fields.map Prod.fst) = true := by
    simp only [hasExactKeys, List.length_map, beq_self_eq_true, Bool.true_and, List.all_map,
      List.all_eq_true, Function.comp_apply, List.contains_iff_mem]
    exact fun f hf => List.mem_map_of_mem hf
  have hvalues : (fields.map Prod.fst).mapM (fun key => (dataValue
      (fields.map (fun f => (Key.text f.1, Property.data f.2 true))) key).map (key, ·)) =
        some fields := by
    rw [ListOption.mapM_eq_some, List.forall₂_map_left_iff, List.forall₂_same]
    intro f hf
    simp only [dataValue, hlookup, JsMap.lookup_of_mem h hf, Option.map_some]
  simp only [exactRecord, ofFields, dataDescriptors, Option.bind_eq_bind, Option.bind_some, hexact,
    guard, if_true]
  exact hvalues

theorem exactRecord_ofFields_keys {fields : List (String × Value)} {keys : List String}
    (hkeys : fields.map Prod.fst = keys) (h : keys.Nodup) :
    exactRecord (ofFields fields) keys = some fields := by
  subst hkeys
  exact exactRecord_ofFields h

theorem ofItems_injective : Function.Injective ofItems := by
  intro xs ys h
  have hinj : Function.Injective (fun v : Value => Property.data v true) := fun v w hvw => by
    injection hvw
  exact List.map_injective_iff.mpr hinj (Value.array.inj h)

theorem exactArray_ofItems {items : List Value} {minimum maximum : Nat}
    (h : minimum ≤ items.length ∧ items.length ≤ maximum) :
    exactArray (ofItems items) minimum maximum = some items := by
  simp only [exactArray, ofItems, List.length_map, h, guard, and_self, if_true,
    Option.bind_eq_bind, Option.pure_def, Option.bind_some]
  rw [ListOption.mapM_eq_some, List.forall₂_map_left_iff, List.forall₂_same]
  exact fun _ _ => rfl

theorem exactArray_eq_some {v : Value} {items : List Value} {minimum maximum : Nat} :
    exactArray v minimum maximum = some items ↔
      v = ofItems items ∧ minimum ≤ items.length ∧ items.length ≤ maximum := by
  constructor
  · intro h
    cases v with
    | array properties =>
      obtain ⟨_, hguard, h⟩ := Option.bind_eq_some_iff.mp h
      have hlength := (Option.guard_eq_some' _).mp hguard
      rw [← ListOption.length_mapM h] at hlength
      refine ⟨?_, hlength⟩
      rw [ListOption.mapM_eq_some] at h
      rw [ofItems, Value.array.injEq, ← List.forall₂_eq_eq_eq, List.forall₂_map_right_iff]
      refine h.imp fun property value hp => ?_
      split at hp
      · rw [Option.some.inj hp]
      · cases hp
    | _ => cases h
  · rintro ⟨rfl, hlength⟩
    exact exactArray_ofItems hlength

/-- Two values that are the same up to the order of an array's items. -/
inductive Reordered : Value → Value → Prop
  | array {items items' : List (Property Value)} (h : items.Perm items') :
      Reordered (.array items) (.array items')
  | same (v : Value) : Reordered v v

section Related

variable {rel : String → Value → Value → Prop}

/-- Two properties with one key and values related at that key. -/
inductive RelatedProperty (rel : String → Value → Value → Prop) :
    Key × Property Value → Key × Property Value → Prop
  | data {name : String} {v w : Value} (enumerable : Bool) (h : rel name v w) :
      RelatedProperty rel (.text name, .data v enumerable) (.text name, .data w enumerable)
  | same (p : Key × Property Value) : RelatedProperty rel p p

/-- Two objects with the same keys whose values are related key by key. -/
inductive RelatedFields (rel : String → Value → Value → Prop) : Value → Value → Prop
  | object {proxy : Bool} {ps qs : List (Key × Property Value)}
      (h : List.Forall₂ (RelatedProperty rel) ps qs) :
      RelatedFields rel (.object proxy ps) (.object proxy qs)
  | same (v : Value) : RelatedFields rel v v

theorem RelatedProperty.key {p q : Key × Property Value} (h : RelatedProperty rel p q) :
    p.1 = q.1 := by
  cases h <;> rfl

theorem RelatedFields.symm (hrel : ∀ k v w, rel k v w → rel k w v) {v w : Value}
    (h : RelatedFields rel v w) : RelatedFields rel w v := by
  cases h with
  | same => exact .same v
  | object h =>
    refine .object (h.flip.imp fun p q hpq => ?_)
    cases hpq with
    | data enumerable hvw => exact .data enumerable (hrel _ _ _ hvw)
    | same => exact .same _

theorem Reordered.symm {v w : Value} (h : Reordered v w) : Reordered w v := by
  cases h with
  | array h => exact .array h.symm
  | same => exact .same v

theorem ofFields_related {fields fields' : List (String × Value)}
    (h : List.Forall₂ (fun f g => f.1 = g.1 ∧ rel f.1 f.2 g.2) fields fields') :
    RelatedFields rel (ofFields fields) (ofFields fields') := by
  refine .object (List.forall₂_map_left_iff.mpr (List.forall₂_map_right_iff.mpr (h.imp ?_)))
  rintro ⟨k, v⟩ ⟨k', w⟩ ⟨rfl, hvw⟩
  exact .data true hvw

theorem ofItems_reordered {items items' : List Value} (h : items.Perm items') :
    Reordered (ofItems items) (ofItems items') := .array (h.map _)

theorem dataValue_related (hrel : ∀ k v, rel k v v) {ps qs : List (Key × Property Value)}
    (h : List.Forall₂ (RelatedProperty rel) ps qs) (key : String) :
    Option.Rel (rel key) (dataValue ps key) (dataValue qs key) := by
  have hrefl : ∀ o : Option Value, Option.Rel (rel key) o o := fun o => by
    cases o with
    | none => exact .none
    | some v => exact .some (hrel key v)
  induction h with
  | nil => exact .none
  | cons hpq _ ih =>
    cases hpq with
    | @data name v w enumerable h =>
      by_cases hk : key = name
      · subst hk
        cases enumerable with
        | false => simp [dataValue]
        | true => simpa [dataValue] using h
      · have hn : (Key.text key == Key.text name) = false := by simp [hk]
        simpa [dataValue, List.lookup_cons, hn] using ih
    | same =>
      rename_i p _ _ _
      obtain ⟨k, property⟩ := p
      cases hb : Key.text key == k with
      | false => simpa [dataValue, List.lookup_cons, hb] using ih
      | true => simpa [dataValue, List.lookup_cons, hb] using hrefl _

theorem hasExactKeys_related {ps qs : List (Key × Property Value)}
    (h : List.Forall₂ (RelatedProperty rel) ps qs) (keys : List String) :
    hasExactKeys ps keys = hasExactKeys qs keys := by
  have hk : ps.map Prod.fst = qs.map Prod.fst := by
    induction h with
    | nil => rfl
    | cons hpq _ ih => rw [List.map_cons, List.map_cons, hpq.key, ih]
  have ha : ∀ l : List (Key × Property Value), hasExactKeys l keys =
      ((l.map Prod.fst).length == keys.length && (l.map Prod.fst).all (fun k => match k with
        | .text name => keys.contains name
        | .symbol => false)) := fun l => by
    simp [hasExactKeys, List.all_map, Function.comp_def]
  rw [ha, ha, hk]

/-- Two readings of the same keys with related values. -/
def RelatedRecord (rel : String → Value → Value → Prop) (r r' : Record) : Prop :=
  ∀ key, rel key (r.get key) (r'.get key)

theorem exactRecord_related (hrel : ∀ k v, rel k v v) {v w : Value}
    (h : RelatedFields rel v w) (keys : List String) :
    Option.Rel (RelatedRecord rel) (exactRecord v keys) (exactRecord w keys) := by
  cases h with
  | same v =>
    cases exactRecord v keys with
    | none => exact .none
    | some r => exact .some fun key => hrel key _
  | @object proxy ps qs h =>
    have hm : ∀ ks : List String, Option.Rel (RelatedRecord rel)
        (ks.mapM (fun key => (dataValue ps key).map (key, ·)))
        (ks.mapM (fun key => (dataValue qs key).map (key, ·))) := by
      intro ks
      induction ks with
      | nil => exact .some fun key => hrel key _
      | cons k ks ih =>
        have hd := dataValue_related hrel h k
        rw [List.mapM_cons, List.mapM_cons]
        generalize dataValue ps k = o, dataValue qs k = o' at hd
        cases hd with
        | none => exact .none
        | @some a b hab =>
          generalize ks.mapM (fun key => (dataValue ps key).map (key, ·)) = t,
            ks.mapM (fun key => (dataValue qs key).map (key, ·)) = t' at ih
          cases ih with
          | none => exact .none
          | @some r r' hr =>
            refine .some fun key => ?_
            by_cases hk : key = k
            · subst hk
              simpa [Record.get] using hab
            · have hn : (key == k) = false := by simp [hk]
              simpa [Record.get, List.lookup_cons, hn] using hr key
    simp only [exactRecord, dataDescriptors, Option.bind_eq_bind, Option.bind_some,
      hasExactKeys_related h]
    cases hasExactKeys qs keys with
    | false => exact .none
    | true => exact hm keys

theorem exactArray_reordered {v w : Value} (h : Reordered v w) (minimum maximum : Nat) :
    Option.Rel List.Perm (exactArray v minimum maximum) (exactArray w minimum maximum) := by
  cases h with
  | same v =>
    cases exactArray v minimum maximum with
    | none => exact .none
    | some l => exact .some (.refl l)
  | @array items items' h =>
    simp only [exactArray, h.length_eq]
    by_cases hg : minimum ≤ items'.length ∧ items'.length ≤ maximum
    · simpa [hg] using ListOption.mapM_perm _ h
    · simp only [hg, guard, if_false]
      exact .none

end Related

end CryptoLending.Lib.JsValue
