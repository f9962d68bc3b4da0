import Mathlib.Data.List.DropRight
import CryptoLending.Lib.Decimal
import CryptoLending.Lib.Numeral

namespace CryptoLending.Lib.DecimalText

open Text Numeral

/-- The decimal text of a number. -/
def integerText (n : Nat) : String := String.ofList (Nat.toDigits 10 n)

/-- The text of a number with a fixed number of fractional digits, without the zeros at its end. -/
def fixedText (n scale : Nat) : List Char :=
  let digits := Nat.toDigits 10 n
  if scale = 0 then digits
  else
    let padded := digits.leftpad (scale + 1) '0'
    let integer := padded.take (padded.length - scale)
    let fraction := (padded.drop (padded.length - scale)).rdropWhile (· == '0')
    if fraction = [] then integer else integer ++ '.' :: fraction

/-- The number that a text with at most one point denotes. -/
def readFixed (cs : List Char) : ℚ :=
  let integer := cs.takeWhile (· != '.')
  let fraction := (cs.dropWhile (· != '.')).drop 1
  decimalValue integer + decimalValue fraction / 10 ^ fraction.length

/-- The text of an integer with a fixed number of fractional digits. -/
def signedFixedText (n : Int) (scale : Nat) : List Char :=
  if 0 ≤ n then fixedText n.toNat scale else '-' :: fixedText (-n).toNat scale

def readSignedFixed : List Char → ℚ
  | '-' :: cs => -readFixed cs
  | cs => readFixed cs

section Digits

theorem toList_integerText (n : Nat) : (integerText n).toList = Nat.toDigits 10 n :=
  String.toList_ofList

theorem decimalValue_integerText (n : Nat) : decimalValue (integerText n).toList = n := by
  rw [toList_integerText, decimalValue_toDigits]

theorem decimalValue_append (cs ds : List Char) :
    decimalValue (cs ++ ds) = decimalValue cs * 10 ^ ds.length + decimalValue ds := by
  induction ds using List.reverseRecOn with
  | nil => simp [decimalValue]
  | append_singleton ds d ih =>
    rw [← List.append_assoc, decimalValue_append_singleton, ih, decimalValue_append_singleton,
      List.length_append, List.length_singleton, pow_succ]
    ring

theorem decimalValue_replicate_zero (k : Nat) : decimalValue (List.replicate k '0') = 0 := by
  induction k with
  | zero => rfl
  | succ k ih =>
    rw [List.replicate_succ, decimalValue_cons, ih]
    simp [digitValue]

theorem decimalValue_leftpad (k : Nat) (cs : List Char) :
    decimalValue (cs.leftpad k '0') = decimalValue cs := by
  rw [List.leftpad, decimalValue_append, decimalValue_replicate_zero, Nat.zero_mul, Nat.zero_add]

theorem all_isDigit_toDigits (n : Nat) : (Nat.toDigits 10 n).all isDigit = true :=
  isCanonicalUint_digits (isCanonicalUint_toDigits n)

theorem all_isDigit_leftpad {cs : List Char} (h : cs.all isDigit = true) (k : Nat) :
    (cs.leftpad k '0').all isDigit = true := by
  rw [List.leftpad, List.all_append, h, Bool.and_true, List.all_replicate]
  simp [isDigit]

/-- The zeros at the end of a fraction do not count. -/
theorem value_rdropWhile_zero (cs : List Char) :
    (decimalValue (cs.rdropWhile (· == '0')) : ℚ) / 10 ^ (cs.rdropWhile (· == '0')).length =
      decimalValue cs / 10 ^ cs.length := by
  induction cs using List.reverseRecOn with
  | nil => rfl
  | append_singleton cs c ih =>
    by_cases hc : c = '0'
    · subst hc
      rw [List.rdropWhile_concat_pos _ _ _ (by rfl), ih, decimalValue_append_singleton,
        List.length_append, List.length_singleton, pow_succ]
      simp only [digitValue, Nat.sub_self, Nat.add_zero]
      push_cast
      field_simp
    · rw [List.rdropWhile_concat_neg _ _ _ (by simpa using hc)]

theorem readFixed_digits {cs : List Char} (h : cs.all isDigit = true) :
    readFixed cs = decimalValue cs := by
  have hpoint : ∀ c ∈ cs, (c != '.') = true := by
    intro c hc
    have hdigit := List.all_eq_true.mp h c hc
    rw [bne_iff_ne]
    rintro rfl
    simp [isDigit] at hdigit
  rw [readFixed, List.takeWhile_eq_self_iff.mpr hpoint, List.dropWhile_eq_nil_iff.mpr hpoint]
  simp [decimalValue]

theorem readFixed_point {cs ds : List Char} (h : cs.all isDigit = true) :
    readFixed (cs ++ '.' :: ds) = decimalValue cs + decimalValue ds / 10 ^ ds.length := by
  have hpoint : ∀ c ∈ cs, (c != '.') = true := by
    intro c hc
    have hdigit := List.all_eq_true.mp h c hc
    rw [bne_iff_ne]
    rintro rfl
    simp [isDigit] at hdigit
  rw [readFixed, List.takeWhile_append_of_pos hpoint, List.dropWhile_append_of_pos hpoint]
  simp

end Digits

/-- The text denotes the number at its scale. -/
theorem readFixed_fixedText (n scale : Nat) :
    readFixed (fixedText n scale) = n / 10 ^ scale := by
  rw [fixedText]
  by_cases hscale : scale = 0
  · rw [if_pos hscale, readFixed_digits (all_isDigit_toDigits n), decimalValue_toDigits, hscale]
    simp
  · rw [if_neg hscale]
    dsimp only
    have hvalue := decimalValue_leftpad (scale + 1) (Nat.toDigits 10 n)
    have hdigits := all_isDigit_leftpad (all_isDigit_toDigits n) (scale + 1)
    have hlength : scale + 1 ≤ ((Nat.toDigits 10 n).leftpad (scale + 1) '0').length := by
      rw [List.length_leftpad]
      exact Nat.le_max_left _ _
    generalize (Nat.toDigits 10 n).leftpad (scale + 1) '0' = padded at hvalue hdigits hlength ⊢
    have hfraction : (padded.drop (padded.length - scale)).length = scale := by
      rw [List.length_drop]
      omega
    have hsplit := decimalValue_append (padded.take (padded.length - scale))
      (padded.drop (padded.length - scale))
    rw [List.take_append_drop, hvalue, decimalValue_toDigits, hfraction] at hsplit
    have hinteger : (padded.take (padded.length - scale)).all isDigit = true :=
      List.all_eq_true.mpr fun c hc => List.all_eq_true.mp hdigits c (List.mem_of_mem_take hc)
    have hstrip := value_rdropWhile_zero (padded.drop (padded.length - scale))
    rw [hfraction] at hstrip
    have htotal : (n : ℚ) / 10 ^ scale = decimalValue (padded.take (padded.length - scale)) +
        (decimalValue (padded.drop (padded.length - scale)) : ℚ) / 10 ^ scale := by
      rw [hsplit]
      push_cast
      field_simp
    rw [htotal, ← hstrip]
    generalize (padded.drop (padded.length - scale)).rdropWhile (· == '0') = fraction
    by_cases hempty : fraction = []
    · subst hempty
      rw [if_pos rfl, readFixed_digits hinteger]
      simp [decimalValue]
    · rw [if_neg hempty, readFixed_point hinteger]

theorem isDigit_of_mem_fixedText {n scale : Nat} {c : Char} (h : c ∈ fixedText n scale) :
    isDigit c = true ∨ c = '.' := by
  have hpadded : ∀ d ∈ (Nat.toDigits 10 n).leftpad (scale + 1) '0', isDigit d = true :=
    List.all_eq_true.mp (all_isDigit_leftpad (all_isDigit_toDigits n) (scale + 1))
  rw [fixedText] at h
  by_cases hscale : scale = 0
  · rw [if_pos hscale] at h
    exact .inl (List.all_eq_true.mp (all_isDigit_toDigits n) c h)
  · rw [if_neg hscale] at h
    dsimp only at h
    split at h
    · exact .inl (hpadded c (List.mem_of_mem_take h))
    · obtain h | h := List.mem_append.mp h
      · exact .inl (hpadded c (List.mem_of_mem_take h))
      · obtain rfl | h := List.mem_cons.mp h
        · exact .inr rfl
        · exact .inl (hpadded c (List.mem_of_mem_drop ((List.rdropWhile_prefix _ _).mem h)))

theorem readSignedFixed_unsigned {cs : List Char} (h : ∀ c ∈ cs, isDigit c = true ∨ c = '.') :
    readSignedFixed cs = readFixed cs := by
  cases cs with
  | nil => rfl
  | cons c cs =>
    have hc : c ≠ '-' := by
      rintro rfl
      simpa [isDigit] using h '-' List.mem_cons_self
    rw [readSignedFixed]
    intro ds hds
    exact hc (List.cons.inj hds).1

/-- The text of an integer denotes the integer at its scale. -/
theorem readSignedFixed_signedFixedText (n : Int) (scale : Nat) :
    readSignedFixed (signedFixedText n scale) = n / 10 ^ scale := by
  rw [signedFixedText]
  by_cases hn : 0 ≤ n
  · rw [if_pos hn, readSignedFixed_unsigned fun c hc => isDigit_of_mem_fixedText hc,
      readFixed_fixedText, ← Int.cast_natCast, Int.toNat_of_nonneg hn]
  · have hcast : (((-n).toNat : Nat) : ℚ) = -(n : ℚ) := by
      rw [← Int.cast_natCast, Int.toNat_of_nonneg (by omega), Int.cast_neg]
    rw [if_neg hn, readSignedFixed, readFixed_fixedText, hcast, neg_div, neg_neg]

end CryptoLending.Lib.DecimalText
