import CryptoLending.Lib.Double
import CryptoLending.Lib.JsString
import CryptoLending.Lib.Numeral

namespace CryptoLending.Lib

open Double Text

/-- A number value. The magnitude of a negative zero is zero. -/
inductive JsNumber where
  | finite (negative : Bool) (magnitude : Magnitude)
  | infinity (negative : Bool)
  | nan
  deriving DecidableEq

namespace JsNumber

def Magnitude.zero : Magnitude := ⟨0, ⟨0, rfl⟩, Nat.two_pow_pos _⟩

def isFinite : JsNumber → Bool
  | .finite _ _ => true
  | _ => false

/-- The number with its sign dropped when it is zero. -/
def withoutSignedZero : JsNumber → JsNumber
  | .finite negative magnitude => .finite (negative && magnitude.units != 0) magnitude
  | number => number

/-- The integer that a number is, when it is one below `2 ^ 53`. -/
def safeInteger? : JsNumber → Option Int
  | .finite negative magnitude =>
    if magnitude.units % 2 ^ unitExponent = 0 ∧ magnitude.units < 2 ^ (unitExponent + 53) then
      let value := magnitude.units / 2 ^ unitExponent
      some (if negative then -value else value)
    else none
  | _ => none

section Text

def fractionText (fraction : List Char) : List Char :=
  if fraction = [] then [] else '.' :: fraction

def exponentText : Option (Bool × Nat) → List Char
  | none => []
  | some (negative, value) => 'e' :: (if negative then '-' else '+') :: Nat.toDigits 10 value

/-- A decimal numeral with its parts. -/
def numeralText (whole fraction : List Char) (exponent : Option (Bool × Nat)) : List Char :=
  whole ++ (fractionText fraction ++ exponentText exponent)

/-- The text of a positive decimal number. -/
def positiveText (s : Scientific) : List Char :=
  let digits := Nat.toDigits 10 s.digits
  let point : Int := digits.length + s.exponent
  if digits.length ≤ point ∧ point ≤ 21 then
    numeralText (digits ++ List.replicate s.exponent.toNat '0') [] none
  else if 0 < point ∧ point ≤ 21 then
    numeralText (digits.take point.toNat) (digits.drop point.toNat) none
  else if -6 < point ∧ point ≤ 0 then
    numeralText ['0'] (List.replicate (-point).toNat '0' ++ digits) none
  else
    numeralText (digits.take 1) (digits.drop 1)
      (some (decide (point - 1 < 0), (point - 1).natAbs))

def magnitudeText (magnitude : Magnitude) : List Char :=
  if magnitude.units = 0 then ['0'] else positiveText (shortest magnitude.units)

/-- The text that a number is converted to. -/
def text : JsNumber → List Char
  | .finite negative magnitude =>
    if negative ∧ magnitude.units ≠ 0 then '-' :: magnitudeText magnitude
    else magnitudeText magnitude
  | .infinity negative => (if negative then "-Infinity" else "Infinity").toList
  | .nan => "NaN".toList

def toString (number : JsNumber) : JsString := JsString.encode number.text

end Text

section Reading

open JsString

def isDigitUnit (u : UInt16) : Bool := 0x30 ≤ u && u ≤ 0x39

def digitsValue (us : JsString) : Nat := us.foldl (fun n u => 10 * n + (u.toNat - 0x30)) 0

/-- The rest of a text behind a given character. -/
def accept (c : Char) : JsString → Option JsString
  | [] => none
  | u :: us => if u = unit c then some us else none

/-- A number of digits and the text behind them. -/
def readDigits (us : JsString) : Option (JsString × JsString) :=
  let digits := us.takeWhile isDigitUnit
  if digits = [] then none else some (digits, us.dropWhile isDigitUnit)

def readWhole (us : JsString) : Option (JsString × JsString) := do
  let (digits, rest) ← readDigits us
  if digits.head? = some (unit '0') ∧ digits.length ≠ 1 then none else some (digits, rest)

def readFraction (us : JsString) : Option (JsString × JsString) :=
  match accept '.' us with
  | none => some ([], us)
  | some rest => readDigits rest

def readExponent (us : JsString) : Option (Int × JsString) :=
  match (accept 'e' us).or (accept 'E' us) with
  | none => some (0, us)
  | some rest => do
    let negative := (accept '-' rest).isSome
    let (digits, rest) ← readDigits (((accept '-' rest).or (accept '+' rest)).getD rest)
    some (if negative then -(digitsValue digits : Int) else digitsValue digits, rest)

/-- The number that a decimal numeral denotes. -/
def ofDecimal (negative : Bool) (digits : Nat) (exponent : Int) : JsNumber :=
  if h : roundDecimal digits exponent < 2 ^ (unitExponent + 1024) then
    .finite negative ⟨roundDecimal digits exponent, isRepresentable_roundDecimal _ _, h⟩
  else .infinity negative

/-- Read the number that a text begins with. -/
def read (us : JsString) : Option (JsNumber × JsString) := do
  let negative := (accept '-' us).isSome
  let (whole, rest) ← readWhole ((accept '-' us).getD us)
  let (fraction, rest) ← readFraction rest
  let (exponent, rest) ← readExponent rest
  some (ofDecimal negative (digitsValue (whole ++ fraction)) (exponent - fraction.length), rest)

end Reading

section RoundTrip

open JsString Numeral IsoText

/-- A text that does not continue a numeral before it. -/
def Stops (rest : JsString) : Prop :=
  ∀ u ∈ rest.head?, isDigitUnit u = false ∧ u ≠ unit '.' ∧ u ≠ unit 'e' ∧ u ≠ unit 'E'

theorem isAscii_of_isDigit {c : Char} (h : isDigit c = true) : isAscii c = true := by
  have hc := (isDigit_iff c).mp h
  apply decide_eq_true
  omega

theorem isDigitUnit_unit {c : Char} (h : isDigit c = true) : isDigitUnit (unit c) = true := by
  have hc := (isDigit_iff c).mp h
  have hunit := toNat_unit (isAscii_of_isDigit h)
  rw [isDigitUnit, Bool.and_eq_true, decide_eq_true_eq, decide_eq_true_eq, UInt16.le_iff_toNat_le,
    UInt16.le_iff_toNat_le, hunit]
  exact hc

theorem digitsValue_map_unit {cs : List Char} (h : cs.all isDigit = true) :
    digitsValue (cs.map unit) = decimalValue cs := by
  rw [digitsValue, decimalValue, List.foldl_map]
  apply List.foldl_ext
  intro n c hc
  have hdigit := List.all_eq_true.mp h c hc
  rw [toNat_unit (isAscii_of_isDigit hdigit)]
  rfl

theorem readDigits_append {cs : List Char} {rest : JsString} (h : cs.all isDigit = true)
    (hne : cs ≠ []) (hrest : ∀ u ∈ rest.head?, isDigitUnit u = false) :
    readDigits (cs.map unit ++ rest) = some (cs.map unit, rest) := by
  have hunits : ∀ u ∈ cs.map unit, isDigitUnit u = true := by
    refine List.forall_mem_map.mpr ?_
    exact fun c hc => isDigitUnit_unit (List.all_eq_true.mp h c hc)
  have htake : rest.takeWhile isDigitUnit = [] := by
    cases rest with
    | nil => rfl
    | cons u rest => rw [List.takeWhile_cons, hrest u rfl, if_neg (by simp)]
  have hdrop : rest.dropWhile isDigitUnit = rest := by
    cases rest with
    | nil => rfl
    | cons u rest => rw [List.dropWhile_cons, hrest u rfl, if_neg (by simp)]
  rw [readDigits, List.takeWhile_append_of_pos hunits, List.dropWhile_append_of_pos hunits, htake,
    hdrop, List.append_nil, if_neg (mt List.map_eq_nil_iff.mp hne)]

theorem accept_cons_self (c : Char) (us : JsString) : accept c (unit c :: us) = some us := by
  rw [accept, if_pos rfl]

theorem accept_eq_none {c : Char} {us : JsString} (h : ∀ u ∈ us.head?, u ≠ unit c) :
    accept c us = none := by
  cases us with
  | nil => rfl
  | cons u us => rw [accept, if_neg (h u rfl)]

def exponentValue : Option (Bool × Nat) → Int
  | none => 0
  | some (negative, value) => if negative then -value else value

/-- A numeral with these parts can be read. -/
structure WellFormed (whole fraction : List Char) : Prop where
  whole_digits : whole.all isDigit = true
  whole_ne_nil : whole ≠ []
  no_leading_zero : whole.head? = some '0' → whole.length = 1
  fraction_digits : fraction.all isDigit = true

theorem ne_unit_of_isDigit {c d : Char} (hc : isDigit c = true) (hd : isDigit d = false)
    (hascii : isAscii d = true) : unit c ≠ unit d := by
  intro h
  have he := unit_inj (isAscii_of_isDigit hc) hascii h
  rw [he, hd] at hc
  cases hc

theorem all_isDigit_toDigits (n : Nat) : (Nat.toDigits 10 n).all isDigit = true :=
  isCanonicalUint_digits (isCanonicalUint_toDigits n)

theorem head_map_unit {cs : List Char} (hne : cs ≠ []) (rest : JsString) {u : UInt16}
    (hu : u ∈ (cs.map unit ++ rest).head?) : ∃ c ∈ cs.head?, unit c = u := by
  cases cs with
  | nil => exact absurd rfl hne
  | cons c cs => exact ⟨c, rfl, Option.mem_some.mp hu⟩

theorem readExponent_append (exponent : Option (Bool × Nat)) {rest : JsString} (h : Stops rest) :
    readExponent ((exponentText exponent).map unit ++ rest) =
      some (exponentValue exponent, rest) := by
  have hdigit := fun u hu => (h u hu).1
  cases exponent with
  | none =>
    have hlower := accept_eq_none (c := 'e') fun u hu => (h u hu).2.2.1
    have hupper := accept_eq_none (c := 'E') fun u hu => (h u hu).2.2.2
    rw [exponentText, List.map_nil, List.nil_append, readExponent, hlower, hupper]
    rfl
  | some e =>
    obtain ⟨negative, value⟩ := e
    have hread := readDigits_append (all_isDigit_toDigits value) Nat.toDigits_ne_nil hdigit
    have hvalue := digitsValue_map_unit (all_isDigit_toDigits value)
    rw [decimalValue_toDigits] at hvalue
    rw [exponentText, List.map_cons, List.map_cons, List.cons_append, List.cons_append,
      readExponent, accept_cons_self, Option.some_or]
    cases negative with
    | false =>
      have hminus : ∀ us, accept '-' (unit '+' :: us) = none := fun us => rfl
      simp only [Bool.false_eq_true, if_false, hminus, accept_cons_self, Option.none_or,
        Option.getD_some, hread, Option.bind_eq_bind, Option.bind_some, hvalue, Option.isSome_none]
      rfl
    | true =>
      simp only [if_true, accept_cons_self, Option.some_or, Option.getD_some, hread,
        Option.bind_eq_bind, Option.bind_some, hvalue, Option.isSome_some]
      rfl

/-- What follows the fraction of a numeral. -/
theorem head_exponentText (exponent : Option (Bool × Nat)) {rest : JsString} (h : Stops rest) :
    ∀ u ∈ ((exponentText exponent).map unit ++ rest).head?,
      isDigitUnit u = false ∧ u ≠ unit '.' := by
  intro u hu
  cases exponent with
  | none => exact ⟨(h u hu).1, (h u hu).2.1⟩
  | some e =>
    obtain rfl := Option.mem_some.mp hu
    exact ⟨rfl, by decide⟩

theorem readFraction_append {fraction : List Char} (hdigits : fraction.all isDigit = true)
    {rest : JsString} (hrest : ∀ u ∈ rest.head?, isDigitUnit u = false ∧ u ≠ unit '.') :
    readFraction ((fractionText fraction).map unit ++ rest) = some (fraction.map unit, rest) := by
  have hpoint := accept_eq_none fun u hu => (hrest u hu).2
  by_cases hne : fraction = []
  · rw [hne, fractionText, if_pos rfl, List.map_nil, List.nil_append, readFraction, hpoint]
  · rw [fractionText, if_neg hne, List.map_cons, List.cons_append, readFraction, accept_cons_self]
    exact readDigits_append hdigits hne fun u hu => (hrest u hu).1

theorem head_fractionText (fraction : List Char) {rest : JsString}
    (hrest : ∀ u ∈ rest.head?, isDigitUnit u = false ∧ u ≠ unit '.') :
    ∀ u ∈ ((fractionText fraction).map unit ++ rest).head?, isDigitUnit u = false := by
  intro u hu
  by_cases hne : fraction = []
  · rw [hne, fractionText, if_pos rfl] at hu
    exact (hrest u hu).1
  · rw [fractionText, if_neg hne] at hu
    obtain rfl := Option.mem_some.mp hu
    rfl

theorem readWhole_append {whole fraction : List Char} (h : WellFormed whole fraction)
    {rest : JsString} (hrest : ∀ u ∈ rest.head?, isDigitUnit u = false) :
    readWhole (whole.map unit ++ rest) = some (whole.map unit, rest) := by
  rw [readWhole, readDigits_append h.whole_digits h.whole_ne_nil hrest]
  change (if _ then none else some (whole.map unit, rest)) = _
  apply if_neg
  rintro ⟨hhead, hlength⟩
  obtain ⟨c, hc, hunit⟩ : ∃ c, whole.head? = some c ∧ unit c = unit '0' := by
    rw [List.head?_map] at hhead
    exact Option.map_eq_some_iff.mp hhead
  have hmem := List.mem_of_head? hc
  have hzero := unit_inj (isAscii_of_isDigit (List.all_eq_true.mp h.whole_digits c hmem)) rfl hunit
  rw [List.length_map] at hlength
  exact hlength (h.no_leading_zero (hzero ▸ hc))

/-- Reading a numeral gives the number of its parts. -/
theorem read_numeralText {whole fraction : List Char} (hwell : WellFormed whole fraction)
    (exponent : Option (Bool × Nat)) (negative : Bool) {rest : JsString} (h : Stops rest) :
    read ((if negative then ['-'] else []).map unit ++
        ((numeralText whole fraction exponent).map unit ++ rest)) =
      some (ofDecimal negative (decimalValue (whole ++ fraction))
        (exponentValue exponent - fraction.length), rest) := by
  have hexponent := head_exponentText exponent h
  have hwhole := readWhole_append hwell (head_fractionText fraction hexponent)
  have hfraction := readFraction_append hwell.fraction_digits hexponent
  have hvalue : digitsValue (whole.map unit ++ fraction.map unit) =
      decimalValue (whole ++ fraction) := by
    rw [← List.map_append, digitsValue_map_unit]
    rw [List.all_append, hwell.whole_digits, hwell.fraction_digits]
    rfl
  rw [numeralText, List.map_append, List.map_append, List.append_assoc, List.append_assoc]
  have hminus : accept '-' (whole.map unit ++ ((fractionText fraction).map unit ++
      ((exponentText exponent).map unit ++ rest))) = none := by
    apply accept_eq_none
    intro u hu
    obtain ⟨c, hc, rfl⟩ := head_map_unit hwell.whole_ne_nil _ hu
    exact ne_unit_of_isDigit (List.all_eq_true.mp hwell.whole_digits c (List.mem_of_head? hc)) rfl rfl
  cases negative with
  | false =>
    simp only [Bool.false_eq_true, if_false, List.map_nil, List.nil_append, read, hminus,
      Option.getD_none, hwhole, Option.bind_eq_bind, Option.bind_some, hfraction,
      readExponent_append exponent h, hvalue, List.length_map, Option.isSome_none]
  | true =>
    simp only [if_true, List.map_cons, List.map_nil, List.cons_append, List.nil_append, read,
      accept_cons_self, Option.getD_some, hwhole, Option.bind_eq_bind, Option.bind_some, hfraction,
      readExponent_append exponent h, hvalue, List.length_map, Option.isSome_some]

/-- A numeral that denotes a decimal number. -/
structure Denotes (s : Scientific) (whole fraction : List Char) (exponent : Option (Bool × Nat)) :
    Prop extends WellFormed whole fraction where
  value : roundDecimal (decimalValue (whole ++ fraction))
    (exponentValue exponent - fraction.length) = roundDecimal s.digits s.exponent

theorem decimalValue_append_zeros (cs : List Char) (zeros : Nat) :
    decimalValue (cs ++ List.replicate zeros '0') = decimalValue cs * 10 ^ zeros := by
  induction zeros with
  | zero => rw [List.replicate_zero, List.append_nil, Nat.pow_zero, Nat.mul_one]
  | succ zeros ih =>
    rw [List.replicate_succ', ← List.append_assoc, decimalValue_append_singleton, ih, Nat.pow_succ]
    change 10 * (decimalValue cs * 10 ^ zeros) + 0 = _
    ring

theorem decimalValue_zeros_append (zeros : Nat) (cs : List Char) :
    decimalValue (List.replicate zeros '0' ++ cs) = decimalValue cs := by
  induction zeros with
  | zero => rfl
  | succ zeros ih =>
    rw [List.replicate_succ, List.cons_append, ← ih]
    rfl

theorem all_isDigit_zeros (zeros : Nat) : (List.replicate zeros '0').all isDigit = true := by
  rw [List.all_eq_true]
  intro c hc
  rw [List.eq_of_mem_replicate hc]
  rfl

theorem head_toDigits_ne {n : Nat} (h : 0 < n) : (Nat.toDigits 10 n).head? ≠ some '0' := by
  intro hhead
  have hpositive := isPositiveUint_toDigits h
  rw [isPositiveUint, hhead, Bool.and_eq_true] at hpositive
  cases hpositive.2

theorem denotes_positiveText {s : Scientific} (h : 0 < s.digits) :
    ∃ whole fraction exponent, positiveText s = numeralText whole fraction exponent ∧
      Denotes s whole fraction exponent := by
  have hdigits := all_isDigit_toDigits s.digits
  have hhead := head_toDigits_ne h
  have hvalue := decimalValue_toDigits s.digits
  have hpos : 0 < (Nat.toDigits 10 s.digits).length :=
    List.length_pos_of_ne_nil Nat.toDigits_ne_nil
  simp only [positiveText]
  generalize Nat.toDigits 10 s.digits = digits at hdigits hhead hvalue hpos
  have hne := List.ne_nil_of_length_pos hpos
  -- a prefix of the digits with at least one of them is a whole part
  have hprefix : ∀ n, 0 < n → WellFormed (digits.take n) (digits.drop n) := by
    intro n hn
    have hall := hdigits
    rw [← List.take_append_drop n digits, List.all_append, Bool.and_eq_true] at hall
    refine ⟨hall.1, ?_, ?_, hall.2⟩
    · apply List.ne_nil_of_length_pos
      rw [List.length_take]
      omega
    · intro hzero
      rw [List.head?_take, if_neg (by omega)] at hzero
      exact absurd hzero hhead
  by_cases hinteger : digits.length ≤ (digits.length + s.exponent : Int) ∧
      (digits.length + s.exponent : Int) ≤ 21
  · refine ⟨_, _, _, if_pos hinteger, ⟨?_, ?_, ?_, rfl⟩, ?_⟩
    · rw [List.all_append, hdigits, all_isDigit_zeros]
      rfl
    · exact List.append_ne_nil_of_left_ne_nil hne _
    · intro hzero
      rw [List.head?_append_of_ne_nil _ hne] at hzero
      exact absurd hzero hhead
    · have hshift := roundDecimal_shift s.digits s.exponent.toNat s.exponent
      have hexponent : s.exponent - (s.exponent.toNat : Int) = 0 := by omega
      rw [hexponent] at hshift
      rw [List.append_nil, decimalValue_append_zeros, hvalue]
      exact hshift
  · rw [if_neg hinteger]
    by_cases hpoint : 0 < (digits.length + s.exponent : Int) ∧
        (digits.length + s.exponent : Int) ≤ 21
    · refine ⟨_, _, _, if_pos hpoint, hprefix _ (by omega), ?_⟩
      rw [List.take_append_drop, hvalue, List.length_drop, exponentValue]
      congr 1
      omega
    · rw [if_neg hpoint]
      by_cases hsmall : -6 < (digits.length + s.exponent : Int) ∧
          (digits.length + s.exponent : Int) ≤ 0
      · refine ⟨_, _, _, if_pos hsmall, ⟨rfl, by simp, fun _ => rfl, ?_⟩, ?_⟩
        · rw [List.all_append, hdigits, all_isDigit_zeros]
          rfl
        · have hzero : decimalValue (['0'] ++ (List.replicate
              (-(digits.length + s.exponent : Int)).toNat '0' ++ digits)) = s.digits := by
            rw [← hvalue, ← decimalValue_zeros_append _ digits]
            exact decimalValue_zeros_append 1 _
          rw [hzero, List.length_append, List.length_replicate, exponentValue]
          congr 1
          omega
      · refine ⟨_, _, _, if_neg hsmall, hprefix 1 (by omega), ?_⟩
        rw [List.take_append_drop, hvalue, List.length_drop, exponentValue]
        congr 1
        by_cases hnegative : (digits.length + s.exponent : Int) - 1 < 0
        · rw [decide_eq_true hnegative, if_pos rfl]
          omega
        · rw [decide_eq_false hnegative, if_neg (by simp)]
          omega

theorem denotes_magnitudeText (magnitude : Magnitude) :
    ∃ whole fraction exponent, magnitudeText magnitude = numeralText whole fraction exponent ∧
      WellFormed whole fraction ∧ roundDecimal (decimalValue (whole ++ fraction))
        (exponentValue exponent - fraction.length) = magnitude.units := by
  by_cases hzero : magnitude.units = 0
  · refine ⟨['0'], [], none, ?_, ⟨rfl, by simp, fun _ => rfl, rfl⟩, ?_⟩
    · rw [magnitudeText, if_pos hzero]
      rfl
    · rw [hzero]
      exact roundDecimal_zero _
  · have hpos := digits_shortest_pos magnitude.representable (Nat.pos_of_ne_zero hzero)
    obtain ⟨whole, fraction, exponent, htext, hdenotes⟩ := denotes_positiveText hpos
    refine ⟨whole, fraction, exponent, ?_, hdenotes.toWellFormed, ?_⟩
    · rw [magnitudeText, if_neg hzero, htext]
    · rw [hdenotes.value, roundDecimal_shortest magnitude.representable]

theorem ofDecimal_eq {negative : Bool} {digits : Nat} {exponent : Int} {magnitude : Magnitude}
    (h : roundDecimal digits exponent = magnitude.units) :
    ofDecimal negative digits exponent = .finite negative magnitude := by
  have hbound := magnitude.bounded
  rw [ofDecimal, dif_pos (h ▸ hbound)]
  congr

theorem text_finite (negative : Bool) (magnitude : Magnitude) :
    (finite negative magnitude).text =
      (if negative && magnitude.units != 0 then ['-'] else []) ++ magnitudeText magnitude := by
  by_cases h : negative = true ∧ magnitude.units ≠ 0
  · have hb : (negative && magnitude.units != 0) = true := by simpa using h
    rw [text, if_pos h, hb]
    rfl
  · have hb : (negative && magnitude.units != 0) = false := by
      rw [← Bool.not_eq_true]
      simpa using h
    rw [text, if_neg h, hb]
    rfl

theorem all_isAscii_numeralText {whole fraction : List Char} (h : WellFormed whole fraction)
    (exponent : Option (Bool × Nat)) : (numeralText whole fraction exponent).all isAscii = true := by
  have hdigits : ∀ {cs : List Char}, cs.all isDigit = true → cs.all isAscii = true := by
    intro cs hcs
    rw [List.all_eq_true] at hcs ⊢
    exact fun c hc => isAscii_of_isDigit (hcs c hc)
  have hfraction : (fractionText fraction).all isAscii = true := by
    rw [fractionText]
    split
    · rfl
    · rw [List.all_cons, hdigits h.fraction_digits]
      rfl
  have hexponent : (exponentText exponent).all isAscii = true := by
    cases exponent with
    | none => rfl
    | some e =>
      obtain ⟨negative, value⟩ := e
      rw [exponentText, List.all_cons, List.all_cons, hdigits (all_isDigit_toDigits value)]
      cases negative <;> rfl
  rw [numeralText, List.all_append, List.all_append, hdigits h.whole_digits, hfraction, hexponent]
  rfl

theorem all_isAscii_text (negative : Bool) (magnitude : Magnitude) :
    (finite negative magnitude).text.all isAscii = true := by
  obtain ⟨whole, fraction, exponent, htext, hwell, _⟩ := denotes_magnitudeText magnitude
  rw [text_finite, htext, List.all_append, all_isAscii_numeralText hwell]
  cases negative && magnitude.units != 0 <;> rfl

/-- Reading the text of a finite number gives the number up to the sign of zero. -/
theorem read_toString {number : JsNumber} (hfinite : number.isFinite = true) {rest : JsString}
    (h : Stops rest) : read (number.toString ++ rest) = some (number.withoutSignedZero, rest) := by
  cases number with
  | infinity | nan => cases hfinite
  | finite negative magnitude =>
    obtain ⟨whole, fraction, exponent, htext, hwell, hvalue⟩ := denotes_magnitudeText magnitude
    have hread := read_numeralText hwell exponent (negative && magnitude.units != 0) h
    rw [ofDecimal_eq hvalue] at hread
    rw [toString, encode_ascii (all_isAscii_text negative magnitude), text_finite, htext, List.map_append, List.append_assoc]
    exact hread

theorem toString_withoutSignedZero (number : JsNumber) :
    number.withoutSignedZero.toString = number.toString := by
  cases number with
  | infinity | nan => rfl
  | finite negative magnitude =>
    rw [withoutSignedZero, toString, toString, text_finite, text_finite]
    cases negative <;> cases magnitude.units != 0 <;> rfl

/-- The text of a finite number begins with a digit or a minus sign. -/
theorem head_toString {number : JsNumber} (hfinite : number.isFinite = true) :
    ∃ c cs, number.toString = unit c :: cs ∧ (c = '-' ∨ isDigit c = true) := by
  cases number with
  | infinity | nan => cases hfinite
  | finite negative magnitude =>
    obtain ⟨whole, fraction, exponent, htext, hwell, _⟩ := denotes_magnitudeText magnitude
    rw [toString, encode_ascii (all_isAscii_text negative magnitude), text_finite, htext]
    cases negative && magnitude.units != 0 with
    | true => exact ⟨'-', _, rfl, Or.inl rfl⟩
    | false =>
      obtain ⟨c, cs, hcs⟩ := List.exists_cons_of_ne_nil hwell.whole_ne_nil
      refine ⟨c, _, by rw [hcs]; rfl, Or.inr ?_⟩
      exact List.all_eq_true.mp hwell.whole_digits c (by rw [hcs]; exact List.mem_cons_self)

end RoundTrip

end JsNumber

end CryptoLending.Lib
