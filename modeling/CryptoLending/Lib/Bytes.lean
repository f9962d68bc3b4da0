import Mathlib.Data.Nat.Digits.Defs
import Mathlib.Data.String.Basic
import Mathlib.Tactic.Ring

namespace CryptoLending.Lib.Bytes

/-- The bytes of a text. -/
def utf8 (s : String) : List UInt8 := s.toByteArray.data.toList

theorem utf8_injective : Function.Injective utf8 := by
  intro s t h
  apply String.toByteArray_inj.mp
  apply ByteArray.ext
  exact Array.toList_inj.mp h

theorem utf8_eq_flatMap (s : String) : utf8 s = s.toList.flatMap String.utf8EncodeChar := by
  rw [utf8, ← String.utf8Encode_toList, List.utf8Encode, List.data_toByteArray]

theorem length_utf8_le (s : String) : (utf8 s).length ≤ 4 * s.toList.length := by
  rw [utf8_eq_flatMap]
  induction s.toList with
  | nil => simp
  | cons c cs ih =>
    have hc := c.utf8Size_le_four
    rw [List.flatMap_cons, List.length_append, String.length_utf8EncodeChar, List.length_cons]
    omega

/-- The lowest bytes of a number, highest first. -/
def bigEndian : Nat → Nat → List UInt8
  | 0, _ => []
  | width + 1, n => bigEndian width (n / 256) ++ [UInt8.ofNat n]

@[simp] theorem length_bigEndian (width n : Nat) : (bigEndian width n).length = width := by
  induction width generalizing n with
  | zero => rfl
  | succ width ih => simp [bigEndian, ih]

theorem toNat_ofNat_mod (n : Nat) : (UInt8.ofNat n).toNat = n % 256 := UInt8.toNat_ofNat'

/-- A number that fits its width is read back from its bytes. -/
theorem bigEndian_inj {width m n : Nat} (hm : m < 256 ^ width) (hn : n < 256 ^ width)
    (h : bigEndian width m = bigEndian width n) : m = n := by
  induction width generalizing m n with
  | zero => omega
  | succ width ih =>
    rw [pow_succ] at hm hn
    obtain ⟨hhigh, hlow⟩ := List.append_inj' h rfl
    have hq := ih (by omega) (by omega) hhigh
    have hr := congrArg UInt8.toNat (List.singleton_inj.mp hlow)
    rw [toNat_ofNat_mod, toNat_ofNat_mod] at hr
    omega

/-- The characters of a text, read off its bytes as long as they are ASCII. -/
def characters (s : String) : List Char :=
  if (utf8 s).all (· < 128) then (utf8 s).map fun b => Char.ofNat b.toNat else s.toList

theorem map_ofNat_utf8EncodeChar {c : Char} (h : (String.utf8EncodeChar c).all (· < 128) = true) :
    (String.utf8EncodeChar c).map (fun b => Char.ofNat b.toNat) = [c] := by
  have hbits : c.val.toNat ≤ 0x7f := by
    by_contra hc
    rw [String.utf8EncodeChar] at h
    simp only [hc, if_false] at h
    split at h
    · simp [UInt8.lt_iff_toNat_lt] at h
      omega
    · split at h
      · simp [UInt8.lt_iff_toNat_lt] at h
        omega
      · simp [UInt8.lt_iff_toNat_lt] at h
        omega
  have hcode : String.utf8EncodeChar c = [UInt8.ofNat c.val.toNat] := by
    rw [String.utf8EncodeChar]
    exact if_pos hbits
  rw [hcode, List.map_singleton, toNat_ofNat_mod, Nat.mod_eq_of_lt (by omega)]
  exact congrArg (fun d => [d]) (Char.ofNat_toNat c)

theorem toList_eq_characters (s : String) : s.toList = characters s := by
  have hdecode : ∀ cs : List Char, (cs.flatMap String.utf8EncodeChar).all (· < 128) = true →
      (cs.flatMap String.utf8EncodeChar).map (fun b => Char.ofNat b.toNat) = cs := by
    intro cs h
    induction cs with
    | nil => rfl
    | cons c cs ih =>
      rw [List.flatMap_cons, List.all_append, Bool.and_eq_true] at h
      rw [List.flatMap_cons, List.map_append, map_ofNat_utf8EncodeChar h.1, ih h.2]
      rfl
  rw [characters]
  split
  · rename_i h
    rw [utf8_eq_flatMap] at h ⊢
    exact (hdecode _ h).symm
  · rfl

end CryptoLending.Lib.Bytes

namespace CryptoLending.Lib.ByteSlice

/-- The bytes behind an offset, no more than a number of them. -/
def slice (data : List UInt8) (offset length : Nat) : List UInt8 := (data.drop offset).take length

/-- The number that bytes spell, lowest first. -/
def littleEndian (bytes : List UInt8) : Nat := Nat.ofDigits 256 (bytes.map (·.toNat))

end CryptoLending.Lib.ByteSlice
