import CryptoLending.Lib.Text

namespace CryptoLending.Lib.IsoDate

open Lib.Text

def isChar (d c : Char) : Bool := c == d

/-- The shape `YYYY-MM-DDTHH:mm:ss.sssZ`. -/
def shape : List (Char → Bool) :=
  [isDigit, isDigit, isDigit, isDigit, isChar '-', isDigit, isDigit, isChar '-', isDigit, isDigit,
    isChar 'T', isDigit, isDigit, isChar ':', isDigit, isDigit, isChar ':', isDigit, isDigit,
    isChar '.', isDigit, isDigit, isDigit, isChar 'Z']

structure Civil where
  year : Nat
  month : Nat
  day : Nat
  hour : Nat
  minute : Nat
  second : Nat
  millisecond : Nat

def isLeapYear (year : Nat) : Bool := year % 4 == 0 && (year % 100 != 0 || year % 400 == 0)

def daysInMonth (year month : Nat) : Nat :=
  if month = 2 then (if isLeapYear year then 29 else 28)
  else if month = 4 ∨ month = 6 ∨ month = 9 ∨ month = 11 then 30 else 31

/-- A date of the proleptic Gregorian calendar and a time of day. -/
def Civil.IsValid (c : Civil) : Prop :=
  1 ≤ c.month ∧ c.month ≤ 12 ∧ 1 ≤ c.day ∧ c.day ≤ daysInMonth c.year c.month ∧
    c.hour ≤ 23 ∧ c.minute ≤ 59 ∧ c.second ≤ 59

instance (c : Civil) : Decidable c.IsValid := inferInstanceAs (Decidable (_ ∧ _))

/-- Days from the epoch to the first day of a year. -/
def dayFromYear (year : Nat) : Int :=
  365 * ((year : Int) - 1970) + ((year : Int) - 1969) / 4 - ((year : Int) - 1901) / 100 +
    ((year : Int) - 1601) / 400

def dayWithinYear (year month day : Nat) : Nat :=
  ((List.range (month - 1)).map (fun i => daysInMonth year (i + 1))).sum + (day - 1)

def Civil.milliseconds (c : Civil) : Int :=
  (dayFromYear c.year + dayWithinYear c.year c.month c.day) * 86400000 +
    (c.hour * 3600000 + c.minute * 60000 + c.second * 1000 + c.millisecond : Nat)

def fieldAt (cs : List Char) (start length : Nat) : Nat :=
  decimalValue ((cs.drop start).take length)

def civilOf (cs : List Char) : Civil where
  year := fieldAt cs 0 4
  month := fieldAt cs 5 2
  day := fieldAt cs 8 2
  hour := fieldAt cs 11 2
  minute := fieldAt cs 14 2
  second := fieldAt cs 17 2
  millisecond := fieldAt cs 20 3

/-- The instant of a text that the date formatter would print unchanged. -/
def parse (text : String) : Option Int :=
  let cs := text.toList
  if matchesShape shape cs && decide (civilOf cs).IsValid then some (civilOf cs).milliseconds
  else none

/-- A canonical text of an instant. -/
structure Timestamp where
  text : String
  milliseconds : Int
  parse_text : parse text = some milliseconds
  deriving DecidableEq

def Timestamp.ofText (text : String) : Option Timestamp :=
  match h : parse text with
  | some milliseconds => some ⟨text, milliseconds, h⟩
  | none => none

theorem Timestamp.ext_text {t u : Timestamp} (h : t.text = u.text) : t = u := by
  obtain ⟨text, m, ht⟩ := t
  obtain ⟨text', n, hu⟩ := u
  obtain rfl : text = text' := h
  obtain rfl : m = n := Option.some.inj (ht.symm.trans hu)
  rfl

theorem Timestamp.ofText_text {text : String} {t : Timestamp} (h : ofText text = some t) :
    t.text = text := by
  unfold ofText at h
  split at h
  · rw [← Option.some.inj h]
  · cases h

theorem Timestamp.ofText_self (t : Timestamp) : ofText t.text = some t := by
  cases h : ofText t.text with
  | none =>
    unfold ofText at h
    split at h
    · cases h
    · rename_i hnone
      exact absurd (hnone.symm.trans t.parse_text) (by simp)
  | some u => rw [ext_text (ofText_text h)]

example : parse "2026-07-20T00:00:00.000Z" = some 1784505600000 := by decide

example : parse "2023-02-29T00:00:00.000Z" = none := by decide

end CryptoLending.Lib.IsoDate

namespace CryptoLending.Lib.IsoText

open Lib.Text

/-- The instants that a date can hold, in milliseconds from the epoch. -/
structure TimeValue where
  milliseconds : Int
  within : -8640000000000000 ≤ milliseconds ∧ milliseconds ≤ 8640000000000000
  deriving DecidableEq

/-- Days from the epoch to the first day of a year. -/
def firstDay (year : Int) : Int :=
  365 * (year - 1970) + (year - 1969) / 4 - (year - 1901) / 100 + (year - 1601) / 400

/-- The year of a day: an estimate from the mean length of a year, corrected by at most one. -/
def yearOfDay (day : Int) : Int :=
  let year := day * 400 / 146097 + 1970
  if day < firstDay year then year - 1
  else if firstDay (year + 1) ≤ day then year + 1
  else year

def isLeap (year : Int) : Bool := year % 4 = 0 && (year % 100 ≠ 0 || year % 400 = 0)

def monthLengths (leap : Bool) : List Nat :=
  [31, if leap then 29 else 28, 31, 30, 31, 30, 31, 31, 30, 31, 30, 31]

/-- The month and the day of a month, from the days since the start of the first month. -/
def monthDay : List Nat → Nat → Nat → Nat × Nat
  | [], month, days => (month, days + 1)
  | length :: rest, month, days =>
    if days < length then (month, days + 1) else monthDay rest (month + 1) (days - length)

/-- A number in a fixed count of decimal digits. -/
def padded : Nat → Nat → List Char
  | 0, _ => []
  | width + 1, n => padded width (n / 10) ++ [Nat.digitChar (n % 10)]

def yearSign (year : Int) : Char := if year < 0 then '-' else '+'

/-- Four digits, or a sign and six digits outside the years 0 to 9999. -/
def yearText (year : Int) : List Char :=
  if 0 ≤ year ∧ year ≤ 9999 then padded 4 year.natAbs
  else yearSign year :: padded 6 year.natAbs

/-- The text of a day of a year. -/
def dayText (leap : Bool) (days : Nat) : List Char :=
  let date := monthDay (monthLengths leap) 1 days
  '-' :: (padded 2 date.1 ++ '-' :: padded 2 date.2)

/-- The text of a time of day. -/
def timeText (milliseconds : Nat) : List Char :=
  'T' :: (padded 2 (milliseconds / 3600000) ++ ':' :: (padded 2 (milliseconds / 60000 % 60) ++
    ':' :: (padded 2 (milliseconds / 1000 % 60) ++ '.' :: (padded 3 (milliseconds % 1000) ++ ['Z']))))

namespace TimeValue

def ofMilliseconds (milliseconds : Int) : Option TimeValue :=
  if h : _ ∧ _ then some ⟨milliseconds, h⟩ else none

def day (t : TimeValue) : Int := t.milliseconds / 86400000

def year (t : TimeValue) : Int := yearOfDay t.day

def dayOfYear (t : TimeValue) : Nat := (t.day - firstDay t.year).toNat

def timeOfDay (t : TimeValue) : Nat := (t.milliseconds % 86400000).toNat

/-- The characters of the text of an instant. -/
def characters (t : TimeValue) : List Char :=
  yearText t.year ++ (dayText (isLeap t.year) t.dayOfYear ++ timeText t.timeOfDay)

def toISOString (t : TimeValue) : String := String.ofList t.characters

end TimeValue

example : (TimeValue.mk 1784505600000 (by decide)).toISOString = "2026-07-20T00:00:00.000Z" := by
  decide

example : (TimeValue.mk (-62198755200001) (by decide)).toISOString =
    "-000002-12-31T23:59:59.999Z" := by
  decide

theorem sum_monthLengths (leap : Bool) :
    (monthLengths leap).sum = if leap then 366 else 365 := by
  cases leap <;> rfl

theorem firstDay_succ (year : Int) :
    firstDay (year + 1) = firstDay year + (monthLengths (isLeap year)).sum := by
  rw [sum_monthLengths]
  simp only [firstDay, isLeap, Bool.and_eq_true, Bool.or_eq_true, decide_eq_true_eq]
  split <;> omega

theorem yearOfDay_spec (day : Int) :
    firstDay (yearOfDay day) ≤ day ∧ day < firstDay (yearOfDay day + 1) := by
  let year := day * 400 / 146097 + 1970
  have hbelow : firstDay (year - 1) ≤ day := by
    simp only [firstDay, year]
    omega
  have habove : day < firstDay (year + 1 + 1) := by
    simp only [firstDay, year]
    omega
  by_cases hlt : day < firstDay year
  · have hyear : yearOfDay day = year - 1 := if_pos hlt
    rw [hyear, Int.sub_add_cancel]
    exact ⟨hbelow, hlt⟩
  · by_cases hle : firstDay (year + 1) ≤ day
    · have hyear : yearOfDay day = year + 1 := (if_neg hlt).trans (if_pos hle)
      rw [hyear]
      exact ⟨hle, habove⟩
    · have hyear : yearOfDay day = year := (if_neg hlt).trans (if_neg hle)
      rw [hyear]
      exact ⟨Int.not_lt.mp hlt, Int.not_le.mp hle⟩

theorem firstDay_mono {y z : Int} (h : y ≤ z) : firstDay y ≤ firstDay z := by
  simp only [firstDay]
  omega

theorem isDigit_digitChar {n : Nat} (h : n < 10) : isDigit (Nat.digitChar n) = true ∧
    digitValue (Nat.digitChar n) = n := by
  have hall : ∀ k : Fin 10, isDigit (Nat.digitChar k) = true ∧
      digitValue (Nat.digitChar k) = k := by decide
  exact hall ⟨n, h⟩

section Padded

variable (width n : Nat)

theorem padded_digits : (padded width n).all isDigit = true := by
  induction width generalizing n with
  | zero => rfl
  | succ width ih =>
    simp [padded, ih, (isDigit_digitChar (Nat.mod_lt n (by omega : 10 > 0))).1]

@[simp] theorem length_padded : (padded width n).length = width := by
  induction width generalizing n with
  | zero => rfl
  | succ width ih => simp [padded, ih]

theorem decimalValue_padded (h : n < 10 ^ width) : decimalValue (padded width n) = n := by
  induction width generalizing n with
  | zero =>
    rw [Nat.pow_zero, Nat.lt_one_iff] at h
    rw [h]
    rfl
  | succ width ih =>
    have hd := (isDigit_digitChar (Nat.mod_lt n (by omega : 10 > 0))).2
    rw [padded, decimalValue_append_singleton, hd, ih (n / 10) (by
      rw [pow_succ] at h
      omega)]
    omega

theorem padded_lt_iff {m : Nat} (hm : m < 10 ^ width) (hn : n < 10 ^ width) :
    padded width m < padded width n ↔ m < n := by
  rw [decimalValue_lt_iff (padded_digits _ _) (padded_digits _ _) (by simp),
    decimalValue_padded _ _ hm, decimalValue_padded _ _ hn]

theorem padded_inj {m : Nat} (hm : m < 10 ^ width) (hn : n < 10 ^ width) :
    padded width m = padded width n ↔ m = n := by
  refine ⟨fun h => ?_, congrArg _⟩
  have hv := congrArg decimalValue h
  rwa [decimalValue_padded _ _ hm, decimalValue_padded _ _ hn] at hv

/-- A padded number followed by a separator and a tail is ordered by the number first. -/
theorem padded_append_lt_iff {m : Nat} {us vs : List Char} (hm : m < 10 ^ width)
    (hn : n < 10 ^ width) (c : Char) :
    padded width m ++ c :: us < padded width n ++ c :: vs ↔ m < n ∨ m = n ∧ us < vs := by
  rw [append_lt_append_iff (by simp), padded_lt_iff _ _ hm hn, padded_inj _ _ hm hn]
  simp

end Padded

theorem cons_lt_cons_self_iff (c : Char) {us vs : List Char} : c :: us < c :: vs ↔ us < vs := by
  simp

section MonthDay

/-- The months and the days of a month keep to their bounds. -/
theorem monthDay_bounds {lengths : List Nat} (hlengths : ∀ l ∈ lengths, l ≤ 31) (month : Nat)
    {days : Nat} (h : days < lengths.sum) :
    month ≤ (monthDay lengths month days).1 ∧
      (monthDay lengths month days).1 < month + lengths.length ∧
      (monthDay lengths month days).2 ≤ 31 := by
  induction lengths generalizing month days with
  | nil => simp at h
  | cons l rest ih =>
    simp only [List.forall_mem_cons] at hlengths
    rw [List.sum_cons] at h
    by_cases hl : days < l
    · simp only [monthDay, if_pos hl, List.length_cons]
      omega
    · have hr := @ih hlengths.2 (month + 1) (days - l) (by omega)
      simp only [monthDay, if_neg hl, List.length_cons]
      omega

/-- Later days of a year have later dates. -/
theorem monthDay_lt {lengths : List Nat} (hlengths : ∀ l ∈ lengths, l ≤ 31) (month : Nat)
    {m n : Nat} (hn : n < lengths.sum) (h : m < n) :
    (monthDay lengths month m).1 < (monthDay lengths month n).1 ∨
      (monthDay lengths month m).1 = (monthDay lengths month n).1 ∧
        (monthDay lengths month m).2 < (monthDay lengths month n).2 := by
  induction lengths generalizing month m n with
  | nil => simp at hn
  | cons l rest ih =>
    simp only [List.forall_mem_cons] at hlengths
    rw [List.sum_cons] at hn
    by_cases hnl : n < l
    · have hm : monthDay (l :: rest) month m = (month, m + 1) := if_pos (h.trans hnl)
      have hn : monthDay (l :: rest) month n = (month, n + 1) := if_pos hnl
      rw [hm, hn]
      exact .inr ⟨rfl, Nat.succ_lt_succ h⟩
    · by_cases hml : m < l
      · have hb := @monthDay_bounds rest hlengths.2 (month + 1) (n - l) (by omega)
        simp only [monthDay, if_pos hml, if_neg hnl]
        omega
      · simp only [monthDay, if_neg hml, if_neg hnl]
        exact ih hlengths.2 (month + 1) (by omega) (by omega)

theorem dayText_append_lt_iff (leap : Bool) {m n : Nat} {us vs : List Char}
    (hm : m < (monthLengths leap).sum) (hn : n < (monthLengths leap).sum) :
    dayText leap m ++ 'T' :: us < dayText leap n ++ 'T' :: vs ↔ m < n ∨ m = n ∧ us < vs := by
  have hlengths : ∀ l ∈ monthLengths leap, l ≤ 31 := by cases leap <;> decide
  have hlength : (monthLengths leap).length = 12 := by cases leap <;> rfl
  have hbm := monthDay_bounds hlengths 1 hm
  have hbn := monthDay_bounds hlengths 1 hn
  rw [hlength] at hbm hbn
  have hlt : (monthDay (monthLengths leap) 1 m).1 < (monthDay (monthLengths leap) 1 n).1 ∨
      (monthDay (monthLengths leap) 1 m).1 = (monthDay (monthLengths leap) 1 n).1 ∧
        ((monthDay (monthLengths leap) 1 m).2 < (monthDay (monthLengths leap) 1 n).2 ∨
          (monthDay (monthLengths leap) 1 m).2 = (monthDay (monthLengths leap) 1 n).2 ∧ us < vs) ↔
      m < n ∨ m = n ∧ us < vs := by
    obtain h | h | h := lt_trichotomy m n
    · have hl := monthDay_lt hlengths 1 hn h
      exact iff_of_true (by omega) (.inl h)
    · subst h
      simp
    · have hl := monthDay_lt hlengths 1 hm h
      exact iff_of_false (by omega) (by omega)
  simp only [dayText, List.cons_append, List.append_assoc, cons_lt_cons_self_iff]
  rw [padded_append_lt_iff 2 _ (by omega) (by omega), padded_append_lt_iff 2 _ (by omega)
    (by omega), hlt]

end MonthDay

theorem timeText_lt_iff {m n : Nat} (hm : m < 86400000) (hn : n < 86400000) :
    timeText m < timeText n ↔ m < n := by
  simp only [timeText, cons_lt_cons_self_iff]
  rw [padded_append_lt_iff 2 _ (by omega) (by omega), padded_append_lt_iff 2 _ (by omega)
    (by omega), padded_append_lt_iff 2 _ (by omega) (by omega), padded_append_lt_iff 3 _ (by omega)
    (by omega)]
  simp only [List.lt_irrefl, and_false, or_false]
  omega

namespace TimeValue

variable (t u : TimeValue)

theorem ext_milliseconds {t u : TimeValue} (h : t.milliseconds = u.milliseconds) : t = u := by
  cases t
  cases u
  simpa using h

theorem ofMilliseconds_eq_some {milliseconds : Int} {t : TimeValue} :
    ofMilliseconds milliseconds = some t ↔ t.milliseconds = milliseconds := by
  constructor
  · intro h
    obtain ⟨_, h⟩ := Option.dite_none_right_eq_some.mp h
    rw [← Option.some.inj h]
  · rintro rfl
    exact dif_pos t.within

theorem dayOfYear_lt : t.dayOfYear < (monthLengths (isLeap t.year)).sum := by
  have h := yearOfDay_spec t.day
  have hs := firstDay_succ (yearOfDay t.day)
  simp only [dayOfYear, year]
  omega

theorem timeOfDay_lt : t.timeOfDay < 86400000 := by
  simp only [timeOfDay]
  omega

theorem milliseconds_eq :
    t.milliseconds = (firstDay t.year + t.dayOfYear) * 86400000 + t.timeOfDay := by
  have h := (yearOfDay_spec t.day).1
  have hd : t.day = t.milliseconds / 86400000 := rfl
  have hy : t.year = yearOfDay t.day := rfl
  simp only [dayOfYear, timeOfDay]
  rw [← hy] at h
  omega

theorem lt_of_year_lt (h : t.year < u.year) : t.milliseconds < u.milliseconds := by
  have ht := (yearOfDay_spec t.day).2
  have hu := (yearOfDay_spec u.day).1
  have hm := firstDay_mono (y := yearOfDay t.day + 1) (z := yearOfDay u.day) h
  have hdt : t.day = t.milliseconds / 86400000 := rfl
  have hdu : u.day = u.milliseconds / 86400000 := rfl
  omega

variable {t u}

/-- Within one year the texts are ordered like the instants. -/
theorem rest_lt_iff (h : t.year = u.year) :
    dayText (isLeap t.year) t.dayOfYear ++ timeText t.timeOfDay <
      dayText (isLeap u.year) u.dayOfYear ++ timeText u.timeOfDay ↔
      t.milliseconds < u.milliseconds := by
  have hdt := dayOfYear_lt t
  have hdu := dayOfYear_lt u
  have ht := timeOfDay_lt t
  have hu := timeOfDay_lt u
  have hmt := milliseconds_eq t
  have hmu := milliseconds_eq u
  rw [← h] at hdu hmu ⊢
  have htime := timeText_lt_iff ht hu
  simp only [timeText, cons_lt_cons_self_iff] at htime ⊢
  rw [dayText_append_lt_iff _ hdt hdu, htime]
  omega

theorem natAbs_year_lt : t.year.natAbs < 10 ^ 6 := by
  have h := yearOfDay_spec t.day
  have hw := t.within
  have hd : t.day = t.milliseconds / 86400000 := rfl
  have hy : t.year = yearOfDay t.day := rfl
  rw [← hy] at h
  simp only [firstDay] at h
  omega

end TimeValue

/-- The years whose texts, and then the texts of all their instants, are ordered in time: signs
sort a year past 9999 below every other year, and two negative years in reverse. -/
def ComparesAsText (y z : Int) : Prop :=
  y = z ∨ 9999 < y ∧ 9999 < z ∨ y ≤ 9999 ∧ z ≤ 9999 ∧ ¬(y < 0 ∧ z < 0)

instance (y z : Int) : Decidable (ComparesAsText y z) := inferInstanceAs (Decidable (_ ∨ _))

theorem comparesAsText_symm {y z : Int} (h : ComparesAsText y z) : ComparesAsText z y := by
  simp only [ComparesAsText] at h ⊢
  omega

theorem padded_eq_cons (n : Nat) : ∃ c cs, padded 4 n = c :: cs ∧ isDigit c = true := by
  obtain ⟨c, cs, h⟩ := List.exists_cons_of_length_eq_add_one (length_padded 4 n)
  have hd := padded_digits 4 n
  rw [h, List.all_cons, Bool.and_eq_true] at hd
  exact ⟨c, cs, h, hd.1⟩

theorem yearSign_lt_digit (year : Int) {c : Char} (h : isDigit c = true) : yearSign year < c := by
  have hc := (isDigit_iff c).mp h
  have hs : (yearSign year).toNat < 48 := by
    by_cases hy : year < 0
    · rw [yearSign, if_pos hy]
      decide
    · rw [yearSign, if_neg hy]
      decide
  exact Nat.lt_of_lt_of_le hs hc.1

theorem yearSign_lt_iff (y z : Int) : yearSign y < yearSign z ↔ 0 ≤ y ∧ z < 0 := by
  have hsigns : '+' < '-' ∧ ¬('-' < '+') := by decide
  by_cases hy : y < 0 <;> by_cases hz : z < 0 <;> simp [yearSign, hy, hz, hsigns]
  omega

theorem yearSign_eq_iff (y z : Int) : yearSign y = yearSign z ↔ (y < 0 ↔ z < 0) := by
  by_cases hy : y < 0 <;> by_cases hz : z < 0 <;> simp [yearSign, hy, hz]

theorem yearText_of_mem {y : Int} (h : 0 ≤ y ∧ y ≤ 9999) : yearText y = padded 4 y.natAbs :=
  if_pos h

theorem yearText_of_not_mem {y : Int} (h : ¬(0 ≤ y ∧ y ≤ 9999)) :
    yearText y = yearSign y :: padded 6 y.natAbs := if_neg h

/-- The texts of instants of two years are ordered like the years, or exactly against them. -/
theorem yearText_append_lt_iff {y z : Int} (hy : y.natAbs < 10 ^ 6) (hz : z.natAbs < 10 ^ 6)
    (hne : y ≠ z) (us vs : List Char) :
    yearText y ++ us < yearText z ++ vs ↔
      ComparesAsText y z ∧ y < z ∨ ¬ComparesAsText y z ∧ z < y := by
  simp only [ComparesAsText]
  by_cases hym : 0 ≤ y ∧ y ≤ 9999
  · by_cases hzm : 0 ≤ z ∧ z ≤ 9999
    · rw [yearText_of_mem hym, yearText_of_mem hzm, append_lt_append_iff (by simp),
        padded_lt_iff _ _ (by omega) (by omega), padded_inj _ _ (by omega) (by omega)]
      omega
    · obtain ⟨c, cs, hc, hd⟩ := padded_eq_cons y.natAbs
      have hs := yearSign_lt_digit z hd
      rw [yearText_of_mem hym, yearText_of_not_mem hzm, hc]
      refine iff_of_false (fun h => ?_) (by omega)
      rw [List.cons_append, List.cons_append, List.cons_lt_cons_iff] at h
      obtain h | ⟨h, -⟩ := h
      · exact Char.lt_asymm h hs
      · rw [h] at hs
        exact Char.lt_irrefl _ hs
  · by_cases hzm : 0 ≤ z ∧ z ≤ 9999
    · obtain ⟨c, cs, hc, hd⟩ := padded_eq_cons z.natAbs
      have hs := yearSign_lt_digit y hd
      rw [yearText_of_not_mem hym, yearText_of_mem hzm, hc, List.cons_append, List.cons_append,
        List.cons_lt_cons_iff]
      exact iff_of_true (.inl hs) (by omega)
    · rw [yearText_of_not_mem hym, yearText_of_not_mem hzm, List.cons_append, List.cons_append,
        List.cons_lt_cons_iff, append_lt_append_iff (by simp), padded_lt_iff _ _ hy hz,
        padded_inj _ _ hy hz, yearSign_lt_iff, yearSign_eq_iff]
      omega

namespace TimeValue

variable {t u : TimeValue}

/-- The texts of two instants are ordered like the instants, or exactly against them. -/
theorem toISOString_lt_iff : t.toISOString < u.toISOString ↔
    ComparesAsText t.year u.year ∧ t.milliseconds < u.milliseconds ∨
      ¬ComparesAsText t.year u.year ∧ u.milliseconds < t.milliseconds := by
  rw [toISOString, toISOString, String.lt_iff_toList_lt, String.toList_ofList,
    String.toList_ofList, characters, characters]
  obtain h | h | h := lt_trichotomy t.year u.year
  · have hm := lt_of_year_lt t u h
    rw [yearText_append_lt_iff natAbs_year_lt natAbs_year_lt h.ne, iff_of_true h hm,
      iff_of_false h.not_gt hm.not_gt]
  · have hc : ComparesAsText u.year u.year := .inl rfl
    rw [h, append_lt_append_iff rfl, ← rest_lt_iff h, h]
    simp [hc]
  · have hm := lt_of_year_lt u t h
    rw [yearText_append_lt_iff natAbs_year_lt natAbs_year_lt h.ne', iff_of_true h hm,
      iff_of_false h.not_gt hm.not_gt]

theorem toISOString_injective : Function.Injective toISOString := by
  intro t u h
  have htu := @toISOString_lt_iff t u
  have hut := @toISOString_lt_iff u t
  rw [h] at htu hut
  simp only [String.lt_irrefl, false_iff, not_or, not_and] at htu hut
  apply ext_milliseconds
  by_cases hyears : ComparesAsText t.year u.year
  · have hle := htu.1 hyears
    have hge := hut.1 (comparesAsText_symm hyears)
    omega
  · have hle := htu.2 hyears
    have hge := hut.2 (mt comparesAsText_symm hyears)
    omega

end TimeValue

end CryptoLending.Lib.IsoText
