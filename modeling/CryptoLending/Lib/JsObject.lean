import CryptoLending.Lib.JsValue

namespace CryptoLending.Lib.JsObject

open JsValue (Key Property)

/-- What an object is known by. -/
abbrev Reference := Nat

/-- What an object inherits from: the prototype of plain objects, that of arrays, nothing, or
something else. -/
inductive Prototype where
  | plain
  | array
  | absent
  | other
  deriving DecidableEq

/-- An untyped value whose objects have an identity, a prototype, and may be frozen. An array is
`dense` when it has its items and no other keys. Functions and instances are `foreign`. -/
inductive Datum where
  | undefined
  | null
  | boolean (value : Bool)
  | number (value : Int)
  | string (value : String)
  | signal (reference : Reference)
  | foreign (reference : Reference)
  | record (reference : Reference) (proxy frozen : Bool) (prototype : Prototype)
      (properties : List (Key × Property Datum))
  | array (reference : Reference) (proxy frozen : Bool) (prototype : Prototype)
      (items : List (Property Datum)) (dense : Bool)

namespace Datum

/-- The identity of an object. -/
def reference? : Datum → Option Reference
  | .signal reference | .foreign reference | .record reference _ _ _ _
  | .array reference _ _ _ _ _ => some reference
  | _ => none

def string? : Datum → Option String
  | .string s => some s
  | _ => none

def signal? : Datum → Option Reference
  | .signal reference => some reference
  | _ => none

def isText (d : Datum) (s : String) : Bool := d.string? == some s

def isNumber (d : Datum) (n : Int) : Bool :=
  match d with
  | .number m => m == n
  | _ => false

def isFalse : Datum → Bool
  | .boolean false => true
  | _ => false

end Datum

section Fields

variable {α : Type}

/-- The value of an enumerable data property. -/
def dataValue (properties : List (Key × Property α)) (key : String) : Option α :=
  match properties.lookup (.text key) with
  | some (.data value true) => some value
  | _ => none

/-- Exactly the listed keys are present. -/
def hasExactKeys (properties : List (Key × Property α)) (keys : List String) : Bool :=
  properties.length == keys.length &&
    properties.all (fun p => match p.1 with
      | .text name => keys.contains name
      | .symbol => false)

def dataFields (properties : List (Key × Property α)) (keys : List String) :
    Option (List (String × α)) := do
  guard (hasExactKeys properties keys)
  keys.mapM (fun key => (dataValue properties key).map (key, ·))

def dataItems (items : List (Property α)) : Option (List α) :=
  items.mapM fun item => match item with
    | .data value true => some value
    | _ => none

/-- Fields are read back from the properties that were made of them. -/
theorem dataFields_map {fields : List (String × α)} (h : (fields.map Prod.fst).Nodup) :
    dataFields (fields.map fun f => (Key.text f.1, Property.data f.2 true))
      (fields.map Prod.fst) = some fields := by
  have hlookup : ∀ {l : List (String × α)} {key : String},
      (l.map (fun f => (Key.text f.1, Property.data f.2 true))).lookup (.text key) =
        (l.lookup key).map (Property.data · true) := by
    intro l key
    induction l with
    | nil => rfl
    | cons f l ih =>
      have hbeq : (Key.text key == Key.text f.1) = (key == f.1) := by
        by_cases hk : key = f.1 <;> simp [hk]
      rw [List.map_cons, List.lookup_cons, List.lookup_cons, hbeq, ih]
      cases key == f.1 <;> rfl
  have hexact : hasExactKeys (fields.map (fun f => (Key.text f.1, Property.data f.2 true)))
      (fields.map Prod.fst) = true := by
    simp only [hasExactKeys, List.length_map, beq_self_eq_true, Bool.true_and, List.all_map,
      List.all_eq_true, Function.comp_apply, List.contains_iff_mem]
    exact fun f hf => List.mem_map_of_mem hf
  rw [dataFields, hexact]
  refine ListOption.mapM_eq_some.mpr (List.forall₂_map_left_iff.mpr (List.forall₂_same.mpr ?_))
  intro f hf
  rw [dataValue, hlookup, JsMap.lookup_of_mem h hf]
  rfl

theorem dataItems_map (items : List α) : dataItems (items.map (Property.data · true)) = some items := by
  refine ListOption.mapM_eq_some.mpr (List.forall₂_map_left_iff.mpr (List.forall₂_same.mpr ?_))
  exact fun _ _ => rfl

end Fields

abbrev Fields := List (String × Datum)

def Fields.get (fields : Fields) (key : String) : Datum := (fields.lookup key).getD .undefined

/-- A plain object, not behind a proxy, with exactly the listed keys. It may have to be frozen, and
to inherit from nothing. -/
def exactDataRecord (value : Datum) (keys : List String) (requireFrozen requireNullPrototype : Bool) :
    Option Fields :=
  match value with
  | .record _ proxy frozen prototype properties => do
    guard (proxy = false ∧ (requireFrozen = true → frozen = true) ∧
      (prototype = .absent ∨ requireNullPrototype = false ∧ prototype = .plain))
    dataFields properties keys
  | _ => none

/-- A plain array, not behind a proxy, of exactly some length. It may have to be frozen. -/
def exactDataArray (value : Datum) (minimum maximum : Nat) (requireFrozen : Bool) :
    Option (List Datum) :=
  match value with
  | .array _ proxy frozen prototype items dense => do
    guard (proxy = false ∧ (requireFrozen = true → frozen = true) ∧ prototype = .array ∧
      dense = true ∧ minimum ≤ items.length ∧ items.length ≤ maximum)
    dataItems items
  | _ => none

/-- `Object.freeze(Object.assign(Object.create(null), fields))`. -/
def frozenRecord (reference : Reference) (fields : Fields) : Datum :=
  .record reference false true .absent (fields.map fun f => (.text f.1, .data f.2 true))

/-- `Object.freeze([...items])`. -/
def frozenArray (reference : Reference) (items : List Datum) : Datum :=
  .array reference false true .array (items.map (.data · true)) true

theorem exactDataRecord_frozenRecord {reference : Reference} {fields : Fields}
    {keys : List String} (requireFrozen requireNullPrototype : Bool)
    (hkeys : fields.map Prod.fst = keys) (h : keys.Nodup) :
    exactDataRecord (frozenRecord reference fields) keys requireFrozen requireNullPrototype =
      some fields := by
  subst hkeys
  have hguard : false = false ∧ (requireFrozen = true → true = true) ∧
      (Prototype.absent = .absent ∨ requireNullPrototype = false ∧ Prototype.absent = .plain) :=
    ⟨rfl, fun _ => rfl, .inl rfl⟩
  rw [frozenRecord, exactDataRecord, guard, if_pos hguard]
  exact dataFields_map h

theorem exactDataArray_frozenArray {reference : Reference} {items : List Datum}
    {minimum maximum : Nat} (requireFrozen : Bool) (hmin : minimum ≤ items.length)
    (hmax : items.length ≤ maximum) :
    exactDataArray (frozenArray reference items) minimum maximum requireFrozen = some items := by
  have hguard : false = false ∧ (requireFrozen = true → true = true) ∧
      Prototype.array = .array ∧ true = true ∧
        minimum ≤ (items.map (Property.data · true)).length ∧
        (items.map (Property.data · true)).length ≤ maximum := by
    rw [List.length_map]
    exact ⟨rfl, fun _ => rfl, rfl, rfl, hmin, hmax⟩
  rw [frozenArray, exactDataArray, guard, if_pos hguard]
  exact dataItems_map items

theorem get_cons (key key' : String) (value : Datum) (fields : Fields) :
    Fields.get ((key, value) :: fields) key' =
      if key' = key then value else Fields.get fields key' := by
  by_cases hk : key' = key
  · simp [Fields.get, hk]
  · have hn : (key' == key) = false := by simp [hk]
    simp [Fields.get, List.lookup_cons, hn, hk]

/-- A text that passed a check. -/
structure Checked (test : List Char → Bool) where
  text : String
  checked : test text.toList = true

def readChecked (test : List Char → Bool) (value : Datum) : Option (Checked test) := do
  let text ← value.string?
  if checked : test text.toList = true then some ⟨text, checked⟩ else none

theorem Checked.ext_text {test : List Char → Bool} {x y : Checked test} (h : x.text = y.text) :
    x = y := by
  cases x
  cases y
  exact Checked.mk.injEq .. ▸ h

theorem Checked.ext_text_iff {test : List Char → Bool} {x y : Checked test} :
    x = y ↔ x.text = y.text := ⟨congrArg _, Checked.ext_text⟩

instance {test : List Char → Bool} : DecidableEq (Checked test) := fun _ _ =>
  decidable_of_iff _ Checked.ext_text_iff.symm

theorem readChecked_string {test : List Char → Bool} (x : Checked test) :
    readChecked test (.string x.text) = some x := by
  rw [readChecked, Datum.string?, Option.bind_eq_bind, Option.bind_some, dif_pos x.checked]

end CryptoLending.Lib.JsObject
