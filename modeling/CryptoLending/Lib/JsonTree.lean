import CryptoLending.Lib.JsNumber
import CryptoLending.Lib.JsString
import CryptoLending.Lib.Text

namespace CryptoLending.Lib

open JsString Text

variable {α : Type}

/-- The index that a property key spells. -/
def arrayIndex? (key : JsString) : Option Nat :=
  match decode key with
  | some cs => if isCanonicalUint cs && decimalValue cs < 2 ^ 32 - 1 then some (decimalValue cs) else none
  | none => none

/-- An index comes before greater ones and before all other keys. -/
def indexBefore (first second : JsString) : Bool :=
  match arrayIndex? first, arrayIndex? second with
  | some i, some j => i < j
  | some _, none => true
  | none, _ => false

/-- Set a property: indices are kept ascending, other keys in the order of their creation. -/
def setProperty (key : JsString) (value : α) : List (JsString × α) → List (JsString × α)
  | [] => [(key, value)]
  | (k, v) :: rest =>
    if k = key then (key, value) :: rest
    else if indexBefore key k then (key, value) :: (k, v) :: rest
    else (k, v) :: setProperty key value rest

/-- The own properties of an object on which the given ones were set in turn. -/
def setProperties (properties : List (JsString × α)) : List (JsString × α) :=
  properties.foldl (fun acc p => setProperty p.1 p.2 acc) []

/-- Keys in the order in which an object lists them. -/
def KeysOrdered (keys : List JsString) : Prop :=
  keys.Pairwise fun first second => first ≠ second ∧ indexBefore second first = false

instance (keys : List JsString) : Decidable (KeysOrdered keys) :=
  inferInstanceAs (Decidable (List.Pairwise _ keys))

theorem KeysOrdered.nodup {keys : List JsString} (h : KeysOrdered keys) : keys.Nodup :=
  h.imp fun hk => hk.1

theorem setProperty_fresh {key : JsString} (value : α) {properties : List (JsString × α)}
    (h : ∀ k ∈ properties.map Prod.fst, k ≠ key ∧ indexBefore key k = false) :
    setProperty key value properties = properties ++ [(key, value)] := by
  induction properties with
  | nil => rfl
  | cons p rest ih =>
    obtain ⟨hp, hrest⟩ := List.forall_mem_cons.mp h
    rw [setProperty, if_neg hp.1, if_neg (by rw [hp.2]; simp), ih hrest, List.cons_append]

/-- Properties in their own order are listed as they were set. -/
theorem setProperties_ordered {properties : List (JsString × α)}
    (h : KeysOrdered (properties.map Prod.fst)) : setProperties properties = properties := by
  induction properties using List.reverseRecOn with
  | nil => rfl
  | append_singleton properties p ih =>
    rw [List.map_append, List.map_singleton, KeysOrdered, List.pairwise_append] at h
    obtain ⟨hinit, _, hlast⟩ := h
    rw [setProperties, List.foldl_append, ← setProperties, ih hinit, List.foldl_cons,
      List.foldl_nil]
    exact setProperty_fresh p.2 fun k hk => hlast k hk p.1 (List.mem_singleton_self _)

end CryptoLending.Lib

namespace CryptoLending.Lib

open JsString

/-- A value without references. -/
inductive JsonTree where
  | null
  | boolean (value : Bool)
  | number (value : JsNumber)
  | string (value : JsString)
  | array (items : List JsonTree)
  | object (members : List (JsString × JsonTree))

namespace JsonTree

section Stringify

def hexUnit (n : Nat) : UInt16 := unit (Nat.digitChar (n % 16))

def unicodeEscape (u : UInt16) : JsString :=
  [unit '\\', unit 'u', hexUnit (u.toNat / 4096), hexUnit (u.toNat / 256),
    hexUnit (u.toNat / 16), hexUnit u.toNat]

/-- The code units with a two-character escape. -/
def shortEscapes : List (UInt16 × UInt16) :=
  [(0x08, unit 'b'), (0x09, unit 't'), (0x0a, unit 'n'), (0x0c, unit 'f'), (0x0d, unit 'r'),
    (unit '"', unit '"'), (unit '\\', unit '\\')]

def escapeUnit (u : UInt16) : JsString :=
  match shortEscapes.lookup u with
  | some v => [unit '\\', v]
  | none => if u < 0x20 then unicodeEscape u else [u]

/-- The code units of a quoted string. Unpaired surrogates are escaped. -/
def quotedUnits : JsString → JsString
  | [] => []
  | u :: us =>
    if isHigh u then
      match us with
      | [] => unicodeEscape u
      | v :: vs =>
        if isLow v then u :: v :: quotedUnits vs else unicodeEscape u ++ quotedUnits (v :: vs)
    else if isLow u then unicodeEscape u ++ quotedUnits us
    else escapeUnit u ++ quotedUnits us

def quote (us : JsString) : JsString := unit '"' :: (quotedUnits us ++ [unit '"'])

def bracketed (left right : Char) (parts : List JsString) : JsString :=
  unit left :: ([unit ','].intercalate parts ++ [unit right])

mutual

/-- The text of a value. -/
def stringify : JsonTree → JsString
  | null => encode "null".toList
  | boolean value => encode (if value then "true" else "false").toList
  | number value => if value.isFinite then value.toString else encode "null".toList
  | string value => quote value
  | array items => bracketed '[' ']' (itemTexts items)
  | object members => bracketed '\x7b' '\x7d' (memberTexts members)

def itemTexts : List JsonTree → List JsString
  | [] => []
  | item :: items => stringify item :: itemTexts items

def memberTexts : List (JsString × JsonTree) → List JsString
  | [] => []
  | (key, value) :: members => (quote key ++ unit ':' :: stringify value) :: memberTexts members

end

end Stringify

section SignedZeros

mutual

/-- A value with every negative zero made positive. -/
def withoutSignedZeros : JsonTree → JsonTree
  | null => null
  | boolean value => boolean value
  | number value => number value.withoutSignedZero
  | string value => string value
  | array items => array (itemsWithoutSignedZeros items)
  | object members => object (membersWithoutSignedZeros members)

def itemsWithoutSignedZeros : List JsonTree → List JsonTree
  | [] => []
  | item :: items => withoutSignedZeros item :: itemsWithoutSignedZeros items

def membersWithoutSignedZeros : List (JsString × JsonTree) → List (JsString × JsonTree)
  | [] => []
  | (key, value) :: members => (key, withoutSignedZeros value) :: membersWithoutSignedZeros members

end

end SignedZeros

/-- A value with finite numbers and with the keys of its objects in their own order. -/
inductive Plain : JsonTree → Prop
  | null : Plain null
  | boolean (value : Bool) : Plain (boolean value)
  | number {value : JsNumber} (h : value.isFinite = true) : Plain (number value)
  | string (value : JsString) : Plain (string value)
  | array {items : List JsonTree} (h : ∀ item ∈ items, Plain item) : Plain (array items)
  | object {members : List (JsString × JsonTree)} (ordered : KeysOrdered (members.map Prod.fst))
      (h : ∀ member ∈ members, Plain member.2) : Plain (object members)

theorem itemTexts_eq (items : List JsonTree) : itemTexts items = items.map stringify := by
  induction items with
  | nil => rfl
  | cons item items ih => rw [itemTexts, ih, List.map_cons]

theorem itemsWithoutSignedZeros_eq (items : List JsonTree) :
    itemsWithoutSignedZeros items = items.map withoutSignedZeros := by
  induction items with
  | nil => rfl
  | cons item items ih => rw [itemsWithoutSignedZeros, ih, List.map_cons]

theorem membersWithoutSignedZeros_eq (members : List (JsString × JsonTree)) :
    membersWithoutSignedZeros members = members.map fun m => (m.1, m.2.withoutSignedZeros) := by
  induction members with
  | nil => rfl
  | cons member members ih => rw [membersWithoutSignedZeros, ih, List.map_cons]

/-- The text of a member of an object. -/
def memberText (member : JsString × JsonTree) : JsString :=
  quote member.1 ++ unit ':' :: stringify member.2

theorem memberTexts_eq (members : List (JsString × JsonTree)) :
    memberTexts members = members.map memberText := by
  induction members with
  | nil => rfl
  | cons member members ih =>
    rw [memberTexts, ih, List.map_cons]
    rfl

theorem Plain.withoutSignedZeros {t : JsonTree} (h : Plain t) : Plain t.withoutSignedZeros := by
  induction h with
  | null => exact .null
  | boolean value => exact .boolean value
  | @number value h =>
    cases value with
    | finite negative magnitude => exact .number rfl
    | infinity | nan => cases h
  | string value => exact .string value
  | array _ ih =>
    rw [JsonTree.withoutSignedZeros, itemsWithoutSignedZeros_eq]
    exact .array (List.forall_mem_map.mpr ih)
  | object ordered _ ih =>
    rw [JsonTree.withoutSignedZeros, membersWithoutSignedZeros_eq]
    refine .object ?_ (List.forall_mem_map.mpr ih)
    rwa [List.map_map]

/-- The text of a value does not show the sign of zeros. -/
theorem stringify_withoutSignedZeros {t : JsonTree} (h : Plain t) :
    stringify t.withoutSignedZeros = stringify t := by
  induction h with
  | null | boolean | string => rfl
  | @number value hfinite =>
    cases value with
    | finite negative magnitude =>
      exact JsNumber.toString_withoutSignedZero (.finite negative magnitude)
    | infinity | nan => cases hfinite
  | array _ ih =>
    rw [JsonTree.withoutSignedZeros, itemsWithoutSignedZeros_eq, stringify, stringify,
      itemTexts_eq, itemTexts_eq, List.map_map]
    exact congrArg (bracketed '[' ']') (List.map_congr_left ih)
  | object _ _ ih =>
    rw [JsonTree.withoutSignedZeros, membersWithoutSignedZeros_eq, stringify, stringify,
      memberTexts_eq, memberTexts_eq, List.map_map]
    refine congrArg (bracketed '\x7b' '\x7d') (List.map_congr_left fun m hm => ?_)
    rw [Function.comp_apply, memberText, ih m hm, memberText]

end JsonTree

end CryptoLending.Lib
