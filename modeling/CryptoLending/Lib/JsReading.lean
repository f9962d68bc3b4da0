import CryptoLending.Lib.JsValue
import CryptoLending.Lib.Text

namespace CryptoLending.Lib.Identifier

open Lib.Text

def isHex (c : Char) : Bool := isLowerHex c || ('A' ≤ c && c ≤ 'F')

def uuidV4Shape : List (Char → Bool) :=
  List.replicate 8 isLowerHex ++ [(· == '-')] ++ List.replicate 4 isLowerHex ++
    [(· == '-'), (· == '4')] ++ List.replicate 3 isLowerHex ++
    [(· == '-'), (fun c => ['8', '9', 'a', 'b'].contains c)] ++ List.replicate 3 isLowerHex ++
    [(· == '-')] ++ List.replicate 12 isLowerHex

def isUuidV4 (cs : List Char) : Bool := matchesShape uuidV4Shape cs

/-- A lower-case SHA-256 digest other than zero. -/
def isSha256 (cs : List Char) : Bool :=
  cs.length == 64 && cs.all isLowerHex && !cs.all (· == '0')

/-- The characters after `0x`. -/
def hexDigits? : List Char → Option (List Char)
  | '0' :: 'x' :: cs => some cs
  | _ => none

/-- A prefixed text of hexadecimal digits in the given class, other than zero. -/
def isHexQuantity (digit : Char → Bool) (lengths : List Nat) (cs : List Char) : Bool :=
  (hexDigits? cs).any (fun ds => lengths.contains ds.length && ds.all digit && !ds.all (· == '0'))

def toLowerCase (s : String) : String := String.ofList (s.toList.map Char.toLower)

example : isUuidV4 "11111111-1111-4111-8111-111111111111".toList = true := by decide

end CryptoLending.Lib.Identifier

namespace CryptoLending.Lib.JsReading

open Text Identifier JsValue

/-- A text whose characters pass a test. -/
def readText (test : List Char → Bool) (v : Value) : Option String := do
  let text ← v.string?
  guard (test text.toList = true)
  return text

/-- The number of a canonical numeral of at most 78 digits. -/
def readUint (maximum : Nat) (v : Value) : Option Nat := do
  let text ← readText (fun cs => isCanonicalUint cs && decide (cs.length ≤ 78)) v
  guard (decimalValue text.toList ≤ maximum)
  return decimalValue text.toList

def isTrue : Value → Bool
  | .boolean true => true
  | _ => false

def isFalse : Value → Bool
  | .boolean false => true
  | _ => false

/-- A lower-case address other than zero. -/
def isLowerAddress (cs : List Char) : Bool := isHexQuantity isLowerHex [40] cs

/-- A lower-case hash with a prefix, other than zero. -/
def isEvmHash (cs : List Char) : Bool := isHexQuantity isLowerHex [64] cs

/-- A lower-case digest other than zero. -/
def isSha256 (cs : List Char) : Bool :=
  cs.length == 64 && cs.all isLowerHex && !cs.all (· == '0')

/-- How much a plain value takes: its nodes and the bytes of its texts. -/
structure Usage where
  nodes : Nat
  bytes : Nat

def Usage.add (u w : Usage) : Usage := ⟨u.nodes + w.nodes, u.bytes + w.bytes⟩

/-- Bounds on plain values. -/
structure PlainBounds where
  nodes : Nat
  bytes : Nat
  keys : Nat
  arrayLength : Nat

/-- What a value takes that is plain data down to a depth. -/
def plainUsage (bounds : PlainBounds) : Nat → Value → Option Usage
  | 0, _ => none
  | depth + 1, v =>
    match v with
    | .string s => some ⟨1, s.utf8ByteSize⟩
    | .null => some ⟨1, 0⟩
    | .boolean _ => some ⟨1, 0⟩
    | .integer n => if n.natAbs < 2 ^ 53 then some ⟨1, 0⟩ else none
    | .array items => do
      guard (items.length ≤ bounds.arrayLength)
      let usages ← items.mapM fun item => match item with
        | .data value true => plainUsage bounds depth value
        | _ => none
      return usages.foldl Usage.add ⟨1, 0⟩
    | .object false properties => do
      guard (properties.length ≤ bounds.keys)
      let usages ← properties.mapM fun p => match p with
        | (.text name, .data value true) =>
          (plainUsage bounds depth value).map (Usage.add ⟨0, name.utf8ByteSize⟩)
        | _ => none
      return usages.foldl Usage.add ⟨1, 0⟩
    | _ => none

def isBoundedPlainData (bounds : PlainBounds) (maximumDepth : Nat) (v : Value) : Bool :=
  (plainUsage bounds (maximumDepth + 1) v).any fun u =>
    decide (u.nodes ≤ bounds.nodes) && decide (u.bytes ≤ bounds.bytes)

end CryptoLending.Lib.JsReading

namespace CryptoLending.Lib.Named

open JsValue

variable {α : Type} {all : List α} {text : α → String}

/-- The listed item whose text is given. -/
def ofText (all : List α) (text : α → String) (s : String) : Option α :=
  all.find? (fun a => text a == s)

/-- The listed item that a value names. -/
def ofValue (all : List α) (text : α → String) (v : Value) : Option α :=
  v.string?.bind (ofText all text)

theorem text_of_ofText {s : String} {a : α} (h : ofText all text s = some a) : text a = s := by
  simpa using List.find?_some h

/-- Items with different texts are found by their texts. -/
theorem ofText_text (hinj : Function.Injective text) {a : α} (ha : a ∈ all) :
    ofText all text (text a) = some a := by
  cases h : ofText all text (text a) with
  | none =>
    have hn := List.find?_eq_none.mp h a ha
    simp at hn
  | some b => rw [hinj (text_of_ofText h)]

theorem ofValue_text (hinj : Function.Injective text) {a : α} (ha : a ∈ all) :
    ofValue all text (.string (text a)) = some a := ofText_text hinj ha

end CryptoLending.Lib.Named

namespace CryptoLending.Lib

open JsValue

/-- A text whose characters pass a test. -/
structure Matching (p : List Char → Bool) where
  text : String
  passes : p text.toList = true
  deriving DecidableEq

namespace Matching

variable {p : List Char → Bool}

def ofText (p : List Char → Bool) (text : String) : Option (Matching p) :=
  if h : p text.toList = true then some ⟨text, h⟩ else none

/-- The text of a value, when it passes the test. -/
def ofValue (p : List Char → Bool) (v : Value) : Option (Matching p) := v.string?.bind (ofText p)

theorem ext_text {x y : Matching p} (h : x.text = y.text) : x = y := by
  cases x
  cases y
  simpa using h

theorem ofText_eq_some {text : String} {x : Matching p} : ofText p text = some x ↔ text = x.text := by
  constructor
  · intro h
    obtain ⟨_, h⟩ := Option.dite_none_right_eq_some.mp h
    rw [← Option.some.inj h]
  · rintro rfl
    exact dif_pos x.passes

theorem ofText_text (x : Matching p) : ofText p x.text = some x := ofText_eq_some.2 rfl

theorem ofValue_eq_some {v : Value} {x : Matching p} :
    ofValue p v = some x ↔ v = .string x.text := by
  rw [ofValue, Option.bind_eq_some_iff]
  constructor
  · rintro ⟨text, hv, hx⟩
    rw [Value.string?_eq_some.mp hv, ofText_eq_some.1 hx]
  · rintro rfl
    exact ⟨x.text, rfl, x.ofText_text⟩

theorem ofValue_text (x : Matching p) : ofValue p (.string x.text) = some x :=
  ofValue_eq_some.2 rfl

end Matching

end CryptoLending.Lib
