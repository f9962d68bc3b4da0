import CryptoLending.Lib.Bytes
import CryptoLending.Lib.Text

namespace CryptoLending.Lib.Hex

open Lib.Text

def hexDigit (c : Char) : Nat :=
  if isDigit c then c.toNat - '0'.toNat else c.toNat - 'a'.toNat + 10

/-- The number of a text of hexadecimal digits. -/
def hexNumber (cs : List Char) : Nat := cs.foldl (fun n c => n * 16 + hexDigit c) 0

/-- A number behind zeros up to a width. -/
def hexWord (width n : Nat) : List Char := (Nat.toDigits 16 n).leftpad width '0'

/-- The bytes of a text of lower-case hexadecimal digits. -/
def hexBytes : List Char → List UInt8
  | c :: d :: cs => UInt8.ofNat (16 * hexDigit c + hexDigit d) :: hexBytes cs
  | _ => []

def toHex (bytes : List UInt8) : List Char :=
  bytes.flatMap fun b => [Nat.digitChar (b.toNat / 16), Nat.digitChar (b.toNat % 16)]

section Digits

theorem hexDigit_lt {c : Char} (h : isLowerHex c = true) : hexDigit c < 16 := by
  rw [hexDigit]
  by_cases hdigit : isDigit c = true
  · have hc := (isDigit_iff c).mp hdigit
    rw [if_pos hdigit]
    change c.toNat - 48 < 16
    omega
  · obtain ⟨hl, hu⟩ := Bool.and_eq_true_iff.mp ((Bool.or_eq_true_iff.mp h).resolve_left hdigit)
    have hlow : 97 ≤ c.toNat := of_decide_eq_true hl
    have hhigh : c.toNat ≤ 102 := of_decide_eq_true hu
    rw [if_neg hdigit]
    change c.toNat - 97 + 10 < 16
    omega

theorem hexDigit_digitChar {d : Nat} (h : d < 16) : hexDigit (Nat.digitChar d) = d := by
  have hall : ∀ k : Fin 16, hexDigit (Nat.digitChar k) = k := by decide
  exact hall ⟨d, h⟩

theorem digitChar_hexDigit {c : Char} (h : isLowerHex c = true) :
    Nat.digitChar (hexDigit c) = c := by
  have hall : ∀ k : Fin 16, Nat.digitChar k =
      Char.ofNat (if k.val < 10 then 48 + k.val else 87 + k.val) := by decide
  have hchar : Nat.digitChar (hexDigit c) =
      Char.ofNat (if hexDigit c < 10 then 48 + hexDigit c else 87 + hexDigit c) :=
    hall ⟨hexDigit c, hexDigit_lt h⟩
  rw [hchar, hexDigit]
  by_cases hdigit : isDigit c = true
  · have hc := (isDigit_iff c).mp hdigit
    rw [if_pos hdigit]
    change Char.ofNat (if c.toNat - 48 < 10 then 48 + (c.toNat - 48) else 87 + (c.toNat - 48)) = c
    rw [if_pos (by omega), Nat.add_sub_of_le hc.1, Char.ofNat_toNat]
  · obtain ⟨hl, hu⟩ := Bool.and_eq_true_iff.mp ((Bool.or_eq_true_iff.mp h).resolve_left hdigit)
    have hlow : 97 ≤ c.toNat := of_decide_eq_true hl
    rw [if_neg hdigit]
    change Char.ofNat (if c.toNat - 97 + 10 < 10 then 48 + (c.toNat - 97 + 10)
      else 87 + (c.toNat - 97 + 10)) = c
    rw [if_neg (by omega), show 87 + (c.toNat - 97 + 10) = c.toNat by omega, Char.ofNat_toNat]

end Digits

section Number

theorem hexNumber_append_singleton (cs : List Char) (c : Char) :
    hexNumber (cs ++ [c]) = hexNumber cs * 16 + hexDigit c := by
  rw [hexNumber, List.foldl_append, List.foldl_cons, List.foldl_nil, ← hexNumber]

theorem hexNumber_toDigits (n : Nat) : hexNumber (Nat.toDigits 16 n) = n := by
  induction n using Nat.strongRecOn with
  | ind n ih =>
    by_cases h : n < 16
    · rw [Nat.toDigits_of_lt_base h]
      change 0 * 16 + hexDigit (Nat.digitChar n) = n
      rw [hexDigit_digitChar h]
      omega
    · rw [Nat.toDigits_of_base_le (by omega) (by omega), hexNumber_append_singleton,
        ih (n / 16) (by omega), hexDigit_digitChar (by omega)]
      omega

theorem hexNumber_zeros (k : Nat) (cs : List Char) :
    hexNumber (List.replicate k '0' ++ cs) = hexNumber cs := by
  induction k with
  | zero => rfl
  | succ k ih =>
    rw [List.replicate_succ, List.cons_append, ← ih]
    rfl

/-- A padded number is read back. -/
theorem hexNumber_hexWord (width n : Nat) : hexNumber (hexWord width n) = n := by
  rw [hexWord, List.leftpad, hexNumber_zeros, hexNumber_toDigits]

theorem length_hexWord {width n : Nat} (hwidth : 0 < width) (h : n < 16 ^ width) :
    (hexWord width n).length = width := by
  have hle := (Nat.length_toDigits_le_iff (by omega) hwidth).mpr h
  rw [hexWord, List.length_leftpad]
  omega

end Number

section Bytes

/-- The text of bytes is read back. -/
theorem hexBytes_toHex (bytes : List UInt8) : hexBytes (toHex bytes) = bytes := by
  induction bytes with
  | nil => rfl
  | cons b bytes ih =>
    have hb := b.toNat_lt
    rw [toHex, List.flatMap_cons, List.cons_append, List.cons_append, List.nil_append, hexBytes,
      ← toHex, ih, hexDigit_digitChar (by omega), hexDigit_digitChar (by omega), Nat.div_add_mod,
      UInt8.ofNat_toNat]

/-- The bytes of a text are written as the text. -/
theorem toHex_hexBytes {cs : List Char} (h : cs.all isLowerHex = true)
    (heven : cs.length % 2 = 0) : toHex (hexBytes cs) = cs := by
  induction cs using hexBytes.induct with
  | case1 c d cs ih =>
    simp only [List.all_cons, Bool.and_eq_true] at h
    obtain ⟨hc, hd, hcs⟩ := h
    have hclt := hexDigit_lt hc
    have hdlt := hexDigit_lt hd
    rw [List.length_cons, List.length_cons] at heven
    rw [hexBytes, toHex, List.flatMap_cons, ← toHex, ih hcs (by omega),
      Bytes.toNat_ofNat_mod, Nat.mod_eq_of_lt (by omega),
      show (16 * hexDigit c + hexDigit d) / 16 = hexDigit c by omega,
      show (16 * hexDigit c + hexDigit d) % 16 = hexDigit d by omega,
      digitChar_hexDigit hc, digitChar_hexDigit hd]
    rfl
  | case2 cs hshort =>
    cases cs with
    | nil => rfl
    | cons c cs =>
      cases cs with
      | nil => cases heven
      | cons d cs => exact absurd rfl (hshort c d cs)

/-- Equal bytes come from equal digits. -/
theorem hexBytes_inj {cs ds : List Char} (hcs : cs.all isLowerHex = true)
    (hds : ds.all isLowerHex = true) (hcseven : cs.length % 2 = 0) (hdseven : ds.length % 2 = 0)
    (h : hexBytes cs = hexBytes ds) : cs = ds := by
  rw [← toHex_hexBytes hcs hcseven, h, toHex_hexBytes hds hdseven]

end Bytes

end CryptoLending.Lib.Hex
