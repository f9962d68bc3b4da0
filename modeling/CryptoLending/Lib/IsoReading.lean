import CryptoLending.Lib.IsoText

namespace CryptoLending.Lib.IsoReading

open Lib.Text Lib.IsoDate Lib.IsoText

/-- The year at the start of a text: four digits, or a sign and six digits. -/
def yearField : List Char → Int × List Char
  | '+' :: cs => (decimalValue (cs.take 6), cs.drop 6)
  | '-' :: cs => (-decimalValue (cs.take 6), cs.drop 6)
  | cs => (decimalValue (cs.take 4), cs.drop 4)

/-- The days of a year before a day of a month. -/
def daysBefore (leap : Bool) (month day : Nat) : Nat :=
  ((monthLengths leap).take (month - 1)).sum + (day - 1)

def dayField (leap : Bool) (cs : List Char) : Nat := daysBefore leap (fieldAt cs 1 2) (fieldAt cs 4 2)

def timeField (cs : List Char) : Nat :=
  fieldAt cs 7 2 * 3600000 + fieldAt cs 10 2 * 60000 + fieldAt cs 13 2 * 1000 + fieldAt cs 16 3

/-- The instant whose fields stand at the places where the date formatter prints them. -/
def instant (cs : List Char) : Int :=
  let (year, rest) := yearField cs
  (firstDay year + dayField (isLeap year) rest) * 86400000 + timeField rest

/-- The instant of a text that the date formatter prints unchanged. -/
def ofISOString (text : String) : Option TimeValue :=
  (TimeValue.ofMilliseconds (instant text.toList)).filter (fun t => t.toISOString == text)

theorem toISOString_of_ofISOString {text : String} {t : TimeValue} (h : ofISOString text = some t) :
    t.toISOString = text := by
  have hf := (Option.filter_eq_some_iff.mp h).2
  simpa using hf

section Fields

theorem take_padded_append (width n : Nat) (cs : List Char) :
    (padded width n ++ cs).take width = padded width n := by
  rw [List.take_append_of_le_length (by simp), List.take_of_length_le (by simp)]

theorem drop_padded_append (width n : Nat) (cs : List Char) :
    (padded width n ++ cs).drop width = cs := by
  rw [List.drop_append_of_le_length (by simp), List.drop_of_length_le (by simp), List.nil_append]

/-- A year is read back from in front of anything. -/
theorem yearField_yearText {year : Int} (h : year.natAbs < 10 ^ 6) (cs : List Char) :
    yearField (yearText year ++ cs) = (year, cs) := by
  by_cases hy : 0 ≤ year ∧ year ≤ 9999
  · have hv := decimalValue_padded 4 year.natAbs (by omega)
    obtain ⟨c, ds, hc, hd⟩ := padded_eq_cons year.natAbs
    have hfield : yearField (padded 4 year.natAbs ++ cs) =
        (((decimalValue ((padded 4 year.natAbs ++ cs).take 4) : Nat) : Int),
          (padded 4 year.natAbs ++ cs).drop 4) := by
      rw [hc, List.cons_append, yearField]
      · intro us hus
        rw [(List.cons.inj hus).1] at hd
        exact absurd hd (by decide)
      · intro us hus
        rw [(List.cons.inj hus).1] at hd
        exact absurd hd (by decide)
    rw [yearText_of_mem hy, hfield, take_padded_append, drop_padded_append, hv]
    simp only [Prod.mk.injEq, and_true]
    omega
  · have hv := decimalValue_padded 6 year.natAbs h
    rw [yearText_of_not_mem hy]
    by_cases hs : year < 0
    · simp only [yearSign, if_pos hs, List.cons_append, yearField, take_padded_append,
        drop_padded_append, hv, Prod.mk.injEq, and_true]
      omega
    · simp only [yearSign, if_neg hs, List.cons_append, yearField, take_padded_append,
        drop_padded_append, hv, Prod.mk.injEq, and_true]
      omega

/-- The month and the day of a month give back the days before them. -/
theorem daysBefore_monthDay {lengths : List Nat} (hlengths : ∀ l ∈ lengths, l ≤ 31) (month : Nat)
    {days : Nat} (h : days < lengths.sum) :
    (lengths.take ((monthDay lengths month days).1 - month)).sum +
      ((monthDay lengths month days).2 - 1) = days := by
  induction lengths generalizing month days with
  | nil => simp at h
  | cons l rest ih =>
    simp only [List.forall_mem_cons] at hlengths
    rw [List.sum_cons] at h
    by_cases hl : days < l
    · simp [monthDay, if_pos hl]
    · have hr := @ih hlengths.2 (month + 1) (days - l) (by omega)
      have hm := (@monthDay_bounds rest hlengths.2 (month + 1) (days - l) (by omega)).1
      obtain ⟨k, hk⟩ := Nat.exists_eq_add_of_le hm
      have hsub : month + 1 + k - month = k + 1 := by omega
      have hsub' : month + 1 + k - (month + 1) = k := by omega
      simp only [monthDay, if_neg hl]
      rw [hk, hsub'] at hr
      rw [hk, hsub, List.take_succ_cons, List.sum_cons]
      omega

theorem padded_two (n : Nat) :
    padded 2 n = [Nat.digitChar (n / 10 % 10), Nat.digitChar (n % 10)] := rfl

theorem padded_three (n : Nat) : padded 3 n =
    [Nat.digitChar (n / 10 / 10 % 10), Nat.digitChar (n / 10 % 10), Nat.digitChar (n % 10)] := rfl

/-- The day of a year is read back from the text of a date. -/
theorem dayField_text (leap : Bool) {days : Nat} (h : days < (monthLengths leap).sum)
    (milliseconds : Nat) : dayField leap (dayText leap days ++ timeText milliseconds) = days := by
  have hlengths : ∀ l ∈ monthLengths leap, l ≤ 31 := by cases leap <;> decide
  have hlength : (monthLengths leap).length = 12 := by cases leap <;> rfl
  have hb := monthDay_bounds hlengths 1 h
  have hd := daysBefore_monthDay hlengths 1 h
  rw [hlength] at hb
  have hmonth := decimalValue_padded 2 (monthDay (monthLengths leap) 1 days).1 (by omega)
  have hday := decimalValue_padded 2 (monthDay (monthLengths leap) 1 days).2 (by omega)
  simp only [dayField, daysBefore, dayText, fieldAt, padded_two, List.cons_append,
    List.nil_append, List.drop_succ_cons, List.drop_zero, List.take_succ_cons,
    List.take_zero] at hmonth hday ⊢
  rw [hmonth, hday]
  exact hd

theorem timeField_text (leap : Bool) (days : Nat) {milliseconds : Nat}
    (h : milliseconds < 86400000) :
    timeField (dayText leap days ++ timeText milliseconds) = milliseconds := by
  have hhour := decimalValue_padded 2 (milliseconds / 3600000) (by omega)
  have hminute := decimalValue_padded 2 (milliseconds / 60000 % 60) (by omega)
  have hsecond := decimalValue_padded 2 (milliseconds / 1000 % 60) (by omega)
  have hrest := decimalValue_padded 3 (milliseconds % 1000) (by omega)
  simp only [timeField, dayText, timeText, fieldAt, padded_two, padded_three, List.cons_append,
    List.nil_append, List.drop_succ_cons, List.drop_zero, List.take_succ_cons,
    List.take_zero] at hhour hminute hsecond hrest ⊢
  rw [hhour, hminute, hsecond, hrest]
  omega

end Fields

/-- The fields of a printed instant are the instant's. -/
theorem instant_characters (t : TimeValue) : instant t.characters = t.milliseconds := by
  have hyear := yearField_yearText t.natAbs_year_lt
    (dayText (isLeap t.year) t.dayOfYear ++ timeText t.timeOfDay)
  simp only [instant, TimeValue.characters, hyear, dayField_text _ t.dayOfYear_lt,
    timeField_text _ _ t.timeOfDay_lt]
  exact t.milliseconds_eq.symm

/-- A printed instant is read back. -/
theorem ofISOString_toISOString (t : TimeValue) : ofISOString t.toISOString = some t := by
  have hi : instant t.toISOString.toList = t.milliseconds := by
    rw [TimeValue.toISOString, String.toList_ofList, instant_characters]
  rw [ofISOString, hi, TimeValue.ofMilliseconds_eq_some.mpr rfl]
  simp

section Canonical

/-- The year is printed in four digits. -/
def HasPlainYear (t : TimeValue) : Prop := 0 ≤ t.year ∧ t.year ≤ 9999

theorem isDigit_digitChar_mod (n : Nat) : isDigit (Nat.digitChar (n % 10)) = true :=
  (isDigit_digitChar (Nat.mod_lt n (by decide))).1

theorem matchesShape_characters {t : TimeValue} (h : HasPlainYear t) :
    matchesShape shape t.characters = true := by
  rw [TimeValue.characters, yearText_of_mem h, dayText]
  simp only [timeText, padded, List.nil_append, List.cons_append, shape, matchesShape,
    isDigit_digitChar_mod, isChar, beq_self_eq_true, Bool.and_self]

theorem hasPlainYear_of_shape {text : String} {t : TimeValue}
    (h : matchesShape shape text.toList = true) (ht : ofISOString text = some t) :
    HasPlainYear t := by
  by_cases hyear : 0 ≤ t.year ∧ t.year ≤ 9999
  · exact hyear
  · rw [← toISOString_of_ofISOString ht, TimeValue.toISOString, String.toList_ofList,
      TimeValue.characters, yearText_of_not_mem hyear, List.cons_append, shape, matchesShape,
      Bool.and_eq_true] at h
    have hsign : isDigit (yearSign t.year) = false := by
      rw [yearSign]
      split <;> decide
    rw [hsign] at h
    cases h.1

/-- An instant whose year is printed in four digits. -/
structure PlainTime extends TimeValue where
  plain : HasPlainYear toTimeValue

/-- The instant of a text `YYYY-MM-DDTHH:mm:ss.sssZ` that the date formatter prints unchanged. -/
def canonicalTimestamp (text : String) : Option PlainTime :=
  if hshape : matchesShape shape text.toList = true then
    match ht : ofISOString text with
    | some t => some ⟨t, hasPlainYear_of_shape hshape ht⟩
    | none => none
  else none

theorem PlainTime.ext_time {t u : PlainTime} (h : t.toTimeValue = u.toTimeValue) : t = u := by
  cases t
  cases u
  subst h
  rfl

theorem canonicalTimestamp_eq_some {text : String} {t : PlainTime} :
    canonicalTimestamp text = some t ↔ t.toISOString = text := by
  rw [canonicalTimestamp]
  constructor
  · intro h
    split at h
    case isTrue =>
      split at h
      case h_1 u hu =>
        cases h
        exact toISOString_of_ofISOString hu
      case h_2 => cases h
    case isFalse => cases h
  · rintro rfl
    have hshape : matchesShape shape t.toISOString.toList = true := by
      rw [TimeValue.toISOString, String.toList_ofList]
      exact matchesShape_characters t.plain
    have hread := ofISOString_toISOString t.toTimeValue
    rw [dif_pos hshape]
    split
    case h_1 u hu => exact congrArg some (PlainTime.ext_time (Option.some.inj (hu.symm.trans hread)))
    case h_2 hnone =>
      rw [hnone] at hread
      cases hread

theorem year_mono {t u : TimeValue} (h : t.milliseconds ≤ u.milliseconds) : t.year ≤ u.year :=
  Int.not_lt.mp fun hlt => absurd (TimeValue.lt_of_year_lt _ _ hlt) (Int.not_lt.mpr h)

/-- An instant between two whose years are printed in four digits. -/
theorem hasPlainYear_between {u : TimeValue} (t v : PlainTime)
    (htu : t.milliseconds ≤ u.milliseconds) (huv : u.milliseconds ≤ v.milliseconds) :
    HasPlainYear u :=
  ⟨t.plain.1.trans (year_mono htu), (year_mono huv).trans v.plain.2⟩

end Canonical

end CryptoLending.Lib.IsoReading
