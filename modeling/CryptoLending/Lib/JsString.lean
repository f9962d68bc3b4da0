import Mathlib.Algebra.GroupWithZero.Nat
import Mathlib.Data.List.Basic
import Mathlib.Data.String.Basic

namespace CryptoLending.Lib

/-- A string of code units. -/
abbrev JsString := List UInt16

namespace JsString

def isHigh (u : UInt16) : Bool := 0xd800 ≤ u && u ≤ 0xdbff

def isLow (u : UInt16) : Bool := 0xdc00 ≤ u && u ≤ 0xdfff

/-- The code units of a character. -/
def unitsOf (c : Char) : JsString :=
  if c.toNat < 0x10000 then [UInt16.ofNat c.toNat]
  else [UInt16.ofNat (0xd800 + (c.toNat - 0x10000) / 0x400),
    UInt16.ofNat (0xdc00 + (c.toNat - 0x10000) % 0x400)]

def encode (cs : List Char) : JsString := cs.flatMap unitsOf

def ofString (s : String) : JsString := encode s.toList

/-- The character of a surrogate pair. -/
def pair (high low : UInt16) : Char :=
  Char.ofNat (0x10000 + (high.toNat - 0xd800) * 0x400 + (low.toNat - 0xdc00))

/-- The characters of a string without unpaired surrogates. -/
def decode : JsString → Option (List Char)
  | [] => some []
  | u :: us =>
    if isHigh u then
      match us with
      | [] => none
      | v :: vs => if isLow v then (decode vs).map (pair u v :: ·) else none
    else if isLow u then none
    else (decode us).map (Char.ofNat u.toNat :: ·)

/-- The bytes that a string takes in UTF-8. An unpaired surrogate is replaced. -/
def utf8Length : JsString → Nat
  | [] => 0
  | u :: us =>
    if u < 0x80 then utf8Length us + 1
    else if u < 0x800 then utf8Length us + 2
    else if isHigh u then
      match us with
      | [] => 3
      | v :: vs => if isLow v then utf8Length vs + 4 else utf8Length (v :: vs) + 3
    else utf8Length us + 3

/-- The characters of a string. An unpaired surrogate is replaced. -/
def scalars : JsString → List Char
  | [] => []
  | u :: us =>
    if isHigh u then
      match us with
      | [] => ['\uFFFD']
      | v :: vs => if isLow v then pair u v :: scalars vs else '\uFFFD' :: scalars (v :: vs)
    else if isLow u then '\uFFFD' :: scalars us
    else Char.ofNat u.toNat :: scalars us

/-- The code points of a string. An unpaired surrogate is one of its own. -/
def codePoints : JsString → List Nat
  | [] => []
  | u :: us =>
    if isHigh u then
      match us with
      | [] => [u.toNat]
      | v :: vs => if isLow v then (pair u v).toNat :: codePoints vs else u.toNat :: codePoints (v :: vs)
    else u.toNat :: codePoints us

/-- Whether a string without unpaired surrogates passes a test. -/
def matchesText (p : List Char → Bool) (us : JsString) : Bool := (decode us).any p

/-- The bytes of a string in UTF-8. -/
def utf8 (us : JsString) : List UInt8 := (scalars us).flatMap String.utf8EncodeChar

/-- The length that a text has as a string. -/
def utf16Length (s : String) : Nat := (encode s.toList).length

section Ascii

def isAscii (c : Char) : Bool := c.toNat < 0x80

/-- The code unit of an ASCII character. -/
def unit (c : Char) : UInt16 := UInt16.ofNat c.toNat

theorem toNat_unit {c : Char} (h : isAscii c = true) : (unit c).toNat = c.toNat := by
  have hlt := of_decide_eq_true h
  rw [unit, UInt16.toNat_ofNat']
  omega

theorem unitsOf_ascii {c : Char} (h : isAscii c = true) : unitsOf c = [unit c] := by
  have hlt := of_decide_eq_true h
  rw [unitsOf, if_pos (by omega), unit]

theorem encode_ascii {cs : List Char} (h : cs.all isAscii = true) : encode cs = cs.map unit := by
  induction cs with
  | nil => rfl
  | cons c cs ih =>
    obtain ⟨hc, hcs⟩ := Bool.and_eq_true_iff.mp h
    rw [encode, List.flatMap_cons, unitsOf_ascii hc, List.map_cons, ← ih hcs]
    rfl

theorem isHigh_unit {c : Char} (h : isAscii c = true) : isHigh (unit c) = false := by
  have hunit := toNat_unit h
  have hlt := of_decide_eq_true h
  rw [isHigh, Bool.and_eq_false_iff]
  left
  rw [decide_eq_false_iff_not, UInt16.le_iff_toNat_le, hunit]
  change ¬55296 ≤ c.toNat
  omega

theorem isLow_unit {c : Char} (h : isAscii c = true) : isLow (unit c) = false := by
  have hunit := toNat_unit h
  have hlt := of_decide_eq_true h
  rw [isLow, Bool.and_eq_false_iff]
  left
  rw [decide_eq_false_iff_not, UInt16.le_iff_toNat_le, hunit]
  change ¬56320 ≤ c.toNat
  omega

theorem unit_inj {c d : Char} (hc : isAscii c = true) (hd : isAscii d = true)
    (h : unit c = unit d) : c = d := by
  apply Char.toNat_inj.mp
  rw [← toNat_unit hc, ← toNat_unit hd, h]

theorem decode_ascii {cs : List Char} (h : cs.all isAscii = true) :
    decode (cs.map unit) = some cs := by
  induction cs with
  | nil => rfl
  | cons c cs ih =>
    obtain ⟨hc, hcs⟩ := Bool.and_eq_true_iff.mp h
    rw [List.map_cons, decode.eq_def]
    simp only [isHigh_unit hc, isLow_unit hc, ih hcs, toNat_unit hc, Char.ofNat_toNat,
      Bool.false_eq_true, if_false, Option.map_some]

theorem utf8Length_ascii {cs : List Char} (h : cs.all isAscii = true) :
    utf8Length (cs.map unit) = cs.length := by
  induction cs with
  | nil => rfl
  | cons c cs ih =>
    obtain ⟨hc, hcs⟩ := Bool.and_eq_true_iff.mp h
    have hlt : unit c < 0x80 := by
      rw [UInt16.lt_iff_toNat_lt, toNat_unit hc]
      exact of_decide_eq_true hc
    rw [List.map_cons, utf8Length.eq_def]
    simp only [hlt, if_true, ih hcs, List.length_cons]

/-- A visible character or the blank. -/
def isPrintable (c : Char) : Bool := decide (0x20 ≤ c.toNat ∧ c.toNat ≤ 0x7e)

theorem isPrintable_iff {c : Char} : isPrintable c = true ↔ 0x20 ≤ c.toNat ∧ c.toNat ≤ 0x7e :=
  decide_eq_true_iff

theorem isAscii_of_isPrintable {c : Char} (h : isPrintable c = true) : isAscii c = true := by
  have hc := isPrintable_iff.1 h
  apply decide_eq_true
  omega

theorem all_isAscii {cs : List Char} (h : cs.all isPrintable = true) : cs.all isAscii = true := by
  rw [List.all_eq_true] at h ⊢
  exact fun c hc => isAscii_of_isPrintable (h c hc)

theorem notMem_map_unit {cs : List Char} {u : UInt16}
    (h : ∀ c ∈ cs, isAscii c = true ∧ c.toNat ≠ u.toNat) : u ∉ cs.map unit := by
  intro hmem
  obtain ⟨c, hc, rfl⟩ := List.mem_map.mp hmem
  obtain ⟨hascii, hne⟩ := h c hc
  exact hne (toNat_unit hascii).symm

theorem utf16Length_ascii {s : String} (h : s.toList.all isAscii = true) :
    utf16Length s = s.toList.length := by
  rw [utf16Length, encode_ascii h, List.length_map]

theorem map_unit_inj {cs ds : List Char} (hcs : cs.all isAscii = true) (hds : ds.all isAscii = true)
    (h : cs.map unit = ds.map unit) : cs = ds := by
  have hd := congrArg decode h
  rw [decode_ascii hcs, decode_ascii hds] at hd
  exact Option.some.inj hd

end Ascii

section Lines

/-- Encoding goes through a text of lines. -/
theorem encode_intercalate (sep : List Char) (lines : List (List Char)) :
    encode (sep.intercalate lines) = (encode sep).intercalate (lines.map encode) := by
  induction lines with
  | nil => rfl
  | cons line lines ih =>
    cases lines with
    | nil => rw [List.intercalate_singleton, List.map_singleton, List.intercalate_singleton]
    | cons next lines =>
      rw [List.map_cons] at ih
      rw [List.intercalate_cons_cons, List.map_cons, List.map_cons, List.intercalate_cons_cons,
        ← ih, encode, List.flatMap_append, List.flatMap_append]
      rfl

theorem all_intercalate {p : Char → Bool} {sep : List Char} {lines : List (List Char)}
    (hsep : sep.all p = true) (hlines : ∀ line ∈ lines, line.all p = true) :
    (sep.intercalate lines).all p = true := by
  induction lines with
  | nil => rfl
  | cons line lines ih =>
    obtain ⟨hline, hrest⟩ := List.forall_mem_cons.mp hlines
    cases lines with
    | nil => rwa [List.intercalate_singleton]
    | cons next lines =>
      rw [List.intercalate_cons_cons, List.all_append, List.all_append, hline, hsep, ih hrest]
      rfl

theorem length_intercalate_le (sep : List Char) (lines : List (List Char)) :
    (sep.intercalate lines).length ≤ (lines.map (fun line => line.length + sep.length)).sum := by
  induction lines with
  | nil => exact Nat.zero_le _
  | cons line lines ih =>
    rw [List.map_cons, List.sum_cons]
    cases lines with
    | nil =>
      rw [List.intercalate_singleton]
      omega
    | cons next lines =>
      rw [List.intercalate_cons_cons, List.length_append, List.length_append]
      omega

end Lines

end JsString

end CryptoLending.Lib
