import CryptoLending.Lib.IsoText
import CryptoLending.Lib.Text

namespace CryptoLending.Lib.Numeral

open Lib.IsoText Lib.Text

theorem decimalValue_toDigits (n : Nat) : decimalValue (Nat.toDigits 10 n) = n := by
  induction n using Nat.strongRecOn with
  | ind n ih =>
    by_cases h : n < 10
    · rw [Nat.toDigits_of_lt_base h]
      change 10 * 0 + digitValue (Nat.digitChar n) = n
      rw [(isDigit_digitChar h).2]
      omega
    · rw [Nat.toDigits_of_base_le (by omega) (by omega), decimalValue_append_singleton,
        ih (n / 10) (by omega), (isDigit_digitChar (by omega)).2]
      omega

theorem isPositiveUint_toDigits {n : Nat} (hpos : 0 < n) :
    isPositiveUint (Nat.toDigits 10 n) = true := by
  induction n using Nat.strongRecOn with
  | ind n ih =>
    by_cases h : n < 10
    · have hne : Nat.digitChar n ≠ '0' := fun h0 => by
        rw [Nat.digitChar_eq_zero] at h0
        omega
      rw [Nat.toDigits_of_lt_base h, isPositiveUint, List.all_cons, (isDigit_digitChar h).1,
        List.head?_cons, Option.any_some, bne_iff_ne.mpr hne]
      rfl
    · have hrest := ih (n / 10) (by omega) (by omega)
      rw [isPositiveUint, Bool.and_eq_true] at hrest
      have hdigit := (isDigit_digitChar (n := n % 10) (by omega)).1
      rw [Nat.toDigits_of_base_le (by omega) (by omega), isPositiveUint, List.all_append, hrest.1,
        List.head?_append_of_ne_nil _ Nat.toDigits_ne_nil, hrest.2, List.all_cons, hdigit]
      rfl

theorem isCanonicalUint_toDigits (n : Nat) : isCanonicalUint (Nat.toDigits 10 n) = true := by
  by_cases h : n = 0
  · rw [h]
    rfl
  · rw [isCanonicalUint, isPositiveUint_toDigits (Nat.pos_of_ne_zero h), Bool.or_true]

/-- A canonical numeral is the text of its number. -/
theorem toDigits_decimalValue {cs : List Char} (h : isCanonicalUint cs = true) :
    Nat.toDigits 10 (decimalValue cs) = cs :=
  isCanonicalUint_injective (isCanonicalUint_toDigits _) h (decimalValue_toDigits _)

end CryptoLending.Lib.Numeral

namespace CryptoLending.Lib.BoundedNumeral

open Lib.Text

theorem isPositiveUint_of_two_le {cs : List Char} (h : isCanonicalUint cs = true)
    (hl : 2 ≤ cs.length) : isPositiveUint cs = true := by
  simp only [isCanonicalUint, Bool.or_eq_true, beq_iff_eq] at h
  obtain rfl | h := h
  · simp at hl
  · exact h

theorem length_pos_of_isPositiveUint {cs : List Char} (h : isPositiveUint cs = true) :
    0 < cs.length := by
  cases cs with
  | nil => simp [isPositiveUint] at h
  | cons c cs => exact Nat.succ_pos _

theorem decimalValue_lt_of_length_lt {cs ds : List Char} (hc : cs.all isDigit = true)
    (hd : isPositiveUint ds = true) (hl : cs.length < ds.length) :
    decimalValue cs < decimalValue ds :=
  calc decimalValue cs < 10 ^ cs.length := decimalValue_lt hc
    _ ≤ 10 ^ (ds.length - 1) := Nat.pow_le_pow_right (by omega) (by omega)
    _ ≤ decimalValue ds := isPositiveUint_le hd

/-- A numeral that is neither longer than a bound nor, at its length, above it as a text denotes
at most the number of the bound. -/
theorem not_exceeds_iff {text maximum : String} (ht : isCanonicalUint text.toList = true)
    (hm : isPositiveUint maximum.toList = true) :
    (decide (text.length > maximum.length) ||
        text.length == maximum.length && decide (maximum < text)) = false ↔
      decimalValue text.toList ≤ decimalValue maximum.toList := by
  have htext : text.toList.length = text.length := String.length_toList
  have hmaximum : maximum.toList.length = maximum.length := String.length_toList
  have hdigits := isCanonicalUint_digits ht
  have hcanonical : isCanonicalUint maximum.toList = true := by simp [isCanonicalUint, hm]
  obtain hlt | heq | hgt := Nat.lt_trichotomy text.length maximum.length
  · have hvalue := decimalValue_lt_of_length_lt hdigits hm (by omega)
    simp [hlt.ne, hlt.le, hvalue.le]
  · have hiff := decimalValue_lt_iff (isCanonicalUint_digits hcanonical) hdigits (by omega)
    rw [← String.lt_iff_toList_lt] at hiff
    simp [heq, hiff]
  · have hpos := length_pos_of_isPositiveUint hm
    have hvalue := decimalValue_lt_of_length_lt (isCanonicalUint_digits hcanonical)
      (isPositiveUint_of_two_le ht (by omega)) (by omega)
    simp [hgt, hvalue]

end CryptoLending.Lib.BoundedNumeral
