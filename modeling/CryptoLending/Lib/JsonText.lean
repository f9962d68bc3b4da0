import CryptoLending.Lib.JsonTree

namespace CryptoLending.Lib.JsonText

open JsString JsNumber JsonTree

section Strings

/-- The value of a hexadecimal digit of either case. -/
def hexDigit? (u : UInt16) : Option Nat :=
  let n := u.toNat
  if 0x30 ≤ n ∧ n ≤ 0x39 then some (n - 0x30)
  else if 0x61 ≤ n ∧ n ≤ 0x66 then some (n - 0x57)
  else if 0x41 ≤ n ∧ n ≤ 0x46 then some (n - 0x37)
  else none

def hexUnits (a b c d : UInt16) : Option UInt16 := do
  let a ← hexDigit? a
  let b ← hexDigit? b
  let c ← hexDigit? c
  let d ← hexDigit? d
  some (UInt16.ofNat (a * 4096 + b * 256 + c * 16 + d))

/-- The code unit that an escape of two characters stands for. -/
def unescape (u : UInt16) : Option UInt16 :=
  if u = unit '/' then some u else (shortEscapes.map Prod.swap).lookup u

/-- Put a code unit in front of a string that was read. -/
def prepend (u : UInt16) (read : Option (JsString × JsString)) : Option (JsString × JsString) :=
  read.map fun p => (u :: p.1, p.2)

/-- Read the rest of a string behind its opening quote. -/
def readQuoted : JsString → Option (JsString × JsString)
  | [] => none
  | u :: us =>
    if u = unit '"' then some ([], us)
    else if u = unit '\\' then
      match us with
      | [] => none
      | v :: vs =>
        if v = unit 'u' then
          match vs with
          | a :: b :: c :: d :: ws => (hexUnits a b c d).bind fun x => prepend x (readQuoted ws)
          | _ => none
        else (unescape v).bind fun x => prepend x (readQuoted vs)
    else if u < 0x20 then none
    else prepend u (readQuoted us)

end Strings

section Values

def isBlank (u : UInt16) : Bool := u = 0x20 || u = 0x09 || u = 0x0a || u = 0x0d

def skipBlanks (us : JsString) : JsString := us.dropWhile isBlank

/-- Read items that are separated by commas, up to a closing character. -/
def readSequence {α : Type} (item : JsString → Option (α × JsString)) (close : Char) :
    Nat → JsString → Option (List α × JsString)
  | 0, _ => none
  | fuel + 1, us => do
    let (x, rest) ← item us
    match accept ',' (skipBlanks rest) with
    | some rest =>
      let (xs, rest) ← readSequence item close fuel rest
      some (x :: xs, rest)
    | none =>
      let rest ← accept close (skipBlanks rest)
      some ([x], rest)

def readBracketed {α : Type} (item : JsString → Option (α × JsString)) (close : Char)
    (us : JsString) : Option (List α × JsString) :=
  match accept close (skipBlanks us) with
  | some rest => some ([], rest)
  | none => readSequence item close us.length us

def readWord (word : List Char) (us : JsString) : Option JsString :=
  match word with
  | [] => some us
  | c :: cs => (accept c us).bind (readWord cs)

def readMember (value : JsString → Option (JsonTree × JsString)) (us : JsString) :
    Option ((JsString × JsonTree) × JsString) := do
  let rest ← accept '"' (skipBlanks us)
  let (key, rest) ← readQuoted rest
  let rest ← accept ':' (skipBlanks rest)
  let (v, rest) ← value rest
  some ((key, v), rest)

/-- Read the value that a text begins with. The first argument bounds the nesting. -/
def readValue : Nat → JsString → Option (JsonTree × JsString)
  | 0, _ => none
  | fuel + 1, us =>
    match skipBlanks us with
    | [] => none
    | u :: rest =>
      if u = unit '"' then (readQuoted rest).map fun p => (string p.1, p.2)
      else if u = unit '[' then
        (readBracketed (readValue fuel) ']' rest).map fun p => (array p.1, p.2)
      else if u = unit '\x7b' then
        (readBracketed (readMember (readValue fuel)) '\x7d' rest).map fun p =>
          (object (setProperties p.1), p.2)
      else if u = unit 'n' then (readWord ['u', 'l', 'l'] rest).map fun r => (null, r)
      else if u = unit 't' then (readWord ['r', 'u', 'e'] rest).map fun r => (boolean true, r)
      else if u = unit 'f' then (readWord ['a', 'l', 's', 'e'] rest).map fun r => (boolean false, r)
      else (JsNumber.read (u :: rest)).map fun p => (number p.1, p.2)

/-- The value of a text. Its nesting is below its length. -/
def parse (text : JsString) : Option JsonTree := do
  let (value, rest) ← readValue (text.length + 1) text
  if skipBlanks rest = [] then some value else none

end Values

section StringRoundTrip

theorem hexDigit_hexUnit (n : Nat) : hexDigit? (hexUnit n) = some (n % 16) := by
  have hall : ∀ k : Fin 16, hexDigit? (unit (Nat.digitChar k)) = some k.val := by decide
  exact hall ⟨n % 16, Nat.mod_lt n (by omega)⟩

theorem hexUnits_toNat (u : UInt16) : hexUnits (hexUnit (u.toNat / 4096))
    (hexUnit (u.toNat / 256)) (hexUnit (u.toNat / 16)) (hexUnit u.toNat) = some u := by
  have hlt := u.toNat_lt
  have hsum : u.toNat / 4096 % 16 * 4096 + u.toNat / 256 % 16 * 256 + u.toNat / 16 % 16 * 16 +
      u.toNat % 16 = u.toNat := by omega
  rw [hexUnits, hexDigit_hexUnit, hexDigit_hexUnit, hexDigit_hexUnit, hexDigit_hexUnit]
  change some (UInt16.ofNat _) = some u
  rw [hsum, UInt16.ofNat_toNat]

theorem readQuoted_unicodeEscape (u : UInt16) (us : JsString) :
    readQuoted (unicodeEscape u ++ us) = prepend u (readQuoted us) := by
  have hquote : unit '\\' ≠ unit '"' := by decide
  rw [unicodeEscape, List.cons_append, List.cons_append, List.cons_append, List.cons_append,
    List.cons_append, List.cons_append, List.nil_append, readQuoted.eq_def]
  simp only [hquote, if_false, if_true, hexUnits_toNat, Option.bind_some]

theorem readQuoted_plain {u : UInt16} (us : JsString) (hquote : u ≠ unit '"')
    (hescape : u ≠ unit '\\') (hcontrol : ¬u < 0x20) :
    readQuoted (u :: us) = prepend u (readQuoted us) := by
  rw [readQuoted.eq_def]
  simp only [hquote, hescape, hcontrol, if_false]

theorem readQuoted_shortEscape {u v : UInt16} (us : JsString) (hu : v ≠ unit 'u')
    (hv : unescape v = some u) : readQuoted (unit '\\' :: v :: us) = prepend u (readQuoted us) := by
  have hquote : unit '\\' ≠ unit '"' := by decide
  rw [readQuoted.eq_def]
  simp only [hquote, hu, hv, if_false, if_true, Option.bind_some]

theorem shortEscapes_spec : ∀ p ∈ shortEscapes, p.2 ≠ unit 'u' ∧ unescape p.2 = some p.1 :=
  List.forall_iff_forall_mem.mp (by decide)

theorem readQuoted_escapeUnit (u : UInt16) (us : JsString) :
    readQuoted (escapeUnit u ++ us) = prepend u (readQuoted us) := by
  rw [escapeUnit]
  cases hlookup : shortEscapes.lookup u with
  | some v =>
    obtain ⟨l₁, l₂, hsplit, _⟩ := List.lookup_eq_some_iff.mp hlookup
    have hmem : (u, v) ∈ shortEscapes := by
      rw [hsplit]
      exact List.mem_append_right l₁ List.mem_cons_self
    obtain ⟨hne, hv⟩ := shortEscapes_spec _ hmem
    exact readQuoted_shortEscape us hne hv
  | none =>
    by_cases hcontrol : u < 0x20
    · simp only [hcontrol, if_true]
      exact readQuoted_unicodeEscape u us
    · simp only [hcontrol, if_false]
      refine readQuoted_plain us ?_ ?_ hcontrol
      · rintro rfl
        exact absurd hlookup (by decide)
      · rintro rfl
        exact absurd hlookup (by decide)

theorem surrogate_plain {u : UInt16} (h : isHigh u = true ∨ isLow u = true) (us : JsString) :
    readQuoted (u :: us) = prepend u (readQuoted us) := by
  have hge : (0xd800 : UInt16) ≤ u := by
    obtain h | h := h
    · exact of_decide_eq_true (Bool.and_eq_true_iff.mp h).1
    · have hlow : (0xdc00 : UInt16) ≤ u := of_decide_eq_true (Bool.and_eq_true_iff.mp h).1
      exact UInt16.le_trans (by decide) hlow
  rw [UInt16.le_iff_toNat_le] at hge
  change 55296 ≤ u.toNat at hge
  refine readQuoted_plain us ?_ ?_ ?_
  · rintro rfl
    exact absurd hge (by decide)
  · rintro rfl
    exact absurd hge (by decide)
  · rw [UInt16.lt_iff_toNat_lt]
    change ¬u.toNat < 32
    omega

/-- A quoted string is read back. -/
theorem readQuoted_quotedUnits (us rest : JsString) :
    readQuoted (quotedUnits us ++ unit '"' :: rest) = some (us, rest) := by
  fun_induction quotedUnits us with
  | case1 => rw [List.nil_append, readQuoted.eq_def]; rfl
  | case2 u hhigh =>
    rw [readQuoted_unicodeEscape, readQuoted.eq_def]
    rfl
  | case3 u hhigh v vs hlow ih =>
    rw [List.cons_append, List.cons_append, surrogate_plain (Or.inl hhigh),
      surrogate_plain (Or.inr hlow), ih]
    rfl
  | case4 u hhigh v vs hlow ih =>
    rw [List.append_assoc, readQuoted_unicodeEscape, ih]
    rfl
  | case5 u us hhigh hlow ih =>
    rw [List.append_assoc, readQuoted_unicodeEscape, ih]
    rfl
  | case6 u us hhigh hlow ih =>
    rw [List.append_assoc, readQuoted_escapeUnit, ih]
    rfl

end StringRoundTrip

section RoundTrip

/-- The characters behind a value inside an array or an object. -/
def IsDelimiter (c : Char) : Prop := c = ',' ∨ c = ']' ∨ c = '\x7d'

/-- The characters that end an array or an object. -/
def IsCloser (c : Char) : Prop := c = ']' ∨ c = '\x7d'

theorem isDelimiter_of_isCloser {c : Char} (h : IsCloser c) : IsDelimiter c := Or.inr h

theorem isBlank_delimiter {c : Char} (h : IsDelimiter c) : isBlank (unit c) = false := by
  obtain rfl | rfl | rfl := h <;> decide

theorem stops_delimiter {c : Char} (h : IsDelimiter c) (rest : JsString) :
    Stops (unit c :: rest) := by
  intro u hu
  obtain rfl := Option.mem_some.mp hu
  obtain rfl | rfl | rfl := h <;> decide

theorem accept_comma_closer {c : Char} (h : IsCloser c) (rest : JsString) :
    accept ',' (unit c :: rest) = none := by
  obtain rfl | rfl := h <;> rfl

theorem skipBlanks_cons {u : UInt16} (h : isBlank u = false) (us : JsString) :
    skipBlanks (u :: us) = u :: us := by
  rw [skipBlanks, List.dropWhile_cons, if_neg (by rw [h]; simp)]

/-- A text that may begin an item in front of a closing character. -/
structure Begins (close : Char) (text : JsString) : Prop where
  ne_nil : text ≠ []
  blank : ∀ u ∈ text.head?, isBlank u = false
  closer : ∀ u ∈ text.head?, u ≠ unit close

variable {α β : Type} {item : JsString → Option (β × JsString)} {close : Char}
  {text : α → JsString} {f : α → β}

theorem readSequence_intercalate (hclose : IsCloser close) {xs : List α} (hne : xs ≠ [])
    (hitem : ∀ x ∈ xs, ∀ rest, Stops rest → item (text x ++ rest) = some (f x, rest))
    {fuel : Nat} (hfuel : xs.length ≤ fuel) (rest : JsString) :
    readSequence item close fuel
        ([unit ','].intercalate (xs.map text) ++ unit close :: rest) =
      some (xs.map f, rest) := by
  have hdelimiter := isDelimiter_of_isCloser hclose
  induction xs generalizing fuel with
  | nil => exact absurd rfl hne
  | cons x xs ih =>
    obtain ⟨hx, hxs⟩ := List.forall_mem_cons.mp hitem
    obtain ⟨fuel, rfl⟩ := Nat.exists_eq_add_of_lt (Nat.lt_of_lt_of_le (Nat.succ_pos _) hfuel)
    rw [Nat.zero_add] at hfuel ⊢
    cases xs with
    | nil =>
      have hread := hx _ (stops_delimiter hdelimiter rest)
      have hskip := skipBlanks_cons (isBlank_delimiter hdelimiter) rest
      rw [List.map_singleton, List.intercalate_singleton, readSequence, hread]
      simp only [Option.bind_eq_bind, Option.bind_some, hskip, accept_comma_closer hclose,
        accept_cons_self, List.map_singleton]
    | cons y ys =>
      have hcomma : IsDelimiter ',' := Or.inl rfl
      have hrest := ih (List.cons_ne_nil y ys) hxs (Nat.le_of_succ_le_succ hfuel)
      rw [List.map_cons, List.map_cons, List.intercalate_cons_cons, ← List.map_cons,
        List.append_assoc, List.append_assoc, List.singleton_append]
      generalize [unit ','].intercalate ((y :: ys).map text) ++ unit close :: rest = tail at hrest ⊢
      have hread := hx _ (stops_delimiter hcomma tail)
      have hskip := skipBlanks_cons (isBlank_delimiter hcomma) tail
      rw [readSequence, hread]
      simp only [Option.bind_eq_bind, Option.bind_some, hskip, accept_cons_self, hrest,
        List.map_cons]

theorem length_le_intercalate {sep : JsString} {parts : List JsString}
    (h : ∀ part ∈ parts, part ≠ []) : parts.length ≤ (sep.intercalate parts).length := by
  induction parts with
  | nil => exact Nat.le_refl _
  | cons part parts ih =>
    obtain ⟨hpart, hparts⟩ := List.forall_mem_cons.mp h
    have hlength := List.length_pos_of_ne_nil hpart
    cases parts with
    | nil => exact Nat.succ_le_of_lt (by rwa [List.intercalate_singleton])
    | cons next parts =>
      have hle := ih hparts
      rw [List.intercalate_cons_cons, List.length_append, List.length_append, List.length_cons]
      omega

theorem length_part_le {sep part : JsString} {parts : List JsString} (h : part ∈ parts) :
    part.length ≤ (sep.intercalate parts).length := by
  induction parts with
  | nil => cases h
  | cons first parts ih =>
    cases parts with
    | nil =>
      rw [List.mem_singleton.mp h, List.intercalate_singleton]
    | cons next parts =>
      rw [List.intercalate_cons_cons, List.length_append, List.length_append]
      obtain rfl | hmem := List.mem_cons.mp h
      · omega
      · have hle := ih hmem
        omega

theorem readBracketed_intercalate (hclose : IsCloser close) {xs : List α}
    (hbegins : ∀ x ∈ xs, Begins close (text x))
    (hitem : ∀ x ∈ xs, ∀ rest, Stops rest → item (text x ++ rest) = some (f x, rest))
    (rest : JsString) :
    readBracketed item close ([unit ','].intercalate (xs.map text) ++ unit close :: rest) =
      some (xs.map f, rest) := by
  cases xs with
  | nil =>
    have hskip := skipBlanks_cons (isBlank_delimiter (isDelimiter_of_isCloser hclose)) rest
    rw [List.map_nil, List.intercalate_nil, List.nil_append, readBracketed, hskip,
      accept_cons_self, List.map_nil]
  | cons x xs =>
    obtain ⟨hx, -⟩ := List.forall_mem_cons.mp hbegins
    have hlength := @length_le_intercalate [unit ','] _
      (List.forall_mem_map.mpr fun y hy => (hbegins y hy).ne_nil)
    rw [List.length_map] at hlength
    have hread := readSequence_intercalate hclose (List.cons_ne_nil x xs) hitem
      (hlength.trans (Nat.le_add_right _ (unit close :: rest).length)) rest
    rw [← List.length_append] at hread
    obtain ⟨u, us, hu⟩ := List.exists_cons_of_ne_nil hx.ne_nil
    have hhead : ∃ vs, [unit ','].intercalate ((x :: xs).map text) ++ unit close :: rest =
        u :: vs := by
      cases xs with
      | nil => exact ⟨_, by rw [List.map_singleton, List.intercalate_singleton, hu]; rfl⟩
      | cons y ys =>
        exact ⟨_, by rw [List.map_cons, List.map_cons, List.intercalate_cons_cons, hu]; rfl⟩
    obtain ⟨vs, hvs⟩ := hhead
    have hskip : skipBlanks (u :: vs) = u :: vs :=
      skipBlanks_cons (hx.blank u (by rw [hu]; rfl)) vs
    have haccept : accept close (u :: vs) = none :=
      if_neg (hx.closer u (by rw [hu]; rfl))
    rw [hvs] at hread ⊢
    rw [readBracketed, hskip, haccept]
    exact hread

theorem numberHead_ne {c : Char} (h : c = '-' ∨ Text.isDigit c = true) :
    ∀ d ∈ ['"', '[', '\x7b', 'n', 't', 'f', ' ', '\t', '\n', '\r', ']', '\x7d'],
      unit c ≠ unit d := by
  obtain rfl | hdigit := h
  · exact List.forall_iff_forall_mem.mp (by decide)
  · have hall : ∀ d ∈ ['"', '[', '\x7b', 'n', 't', 'f', ' ', '\t', '\n', '\r', ']', '\x7d'],
        Text.isDigit d = false ∧ isAscii d = true := List.forall_iff_forall_mem.mp (by decide)
    exact fun d hd => ne_unit_of_isDigit hdigit (hall d hd).1 (hall d hd).2

theorem isBlank_numberHead {c : Char} (h : c = '-' ∨ Text.isDigit c = true) :
    isBlank (unit c) = false := by
  have hne := numberHead_ne h
  have hspace : unit c ≠ 0x20 := hne ' ' (by decide)
  have htab : unit c ≠ 0x09 := hne '\t' (by decide)
  have hline : unit c ≠ 0x0a := hne '\n' (by decide)
  have hreturn : unit c ≠ 0x0d := hne '\r' (by decide)
  rw [isBlank, decide_eq_false hspace, decide_eq_false htab, decide_eq_false hline,
    decide_eq_false hreturn]
  rfl

theorem begins_cons {close : Char} {u : UInt16} (us : JsString) (hblank : isBlank u = false)
    (hclose : u ≠ unit close) : Begins close (u :: us) where
  ne_nil := List.cons_ne_nil u us
  blank := fun _ hv => Option.mem_some.mp hv ▸ hblank
  closer := fun _ hv => Option.mem_some.mp hv ▸ hclose

theorem begins_quote {close : Char} (hclose : IsCloser close) (us : JsString) :
    Begins close (unit '"' :: us) := by
  apply begins_cons
  · rfl
  · obtain rfl | rfl := hclose <;> decide

theorem begins_stringify {close : Char} (hclose : IsCloser close) {t : JsonTree}
    (h : ∀ value, t = .number value → value.isFinite = true) : Begins close (stringify t) := by
  cases t with
  | null =>
    apply begins_cons
    · rfl
    · obtain rfl | rfl := hclose <;> decide
  | boolean value =>
    cases value <;>
    · apply begins_cons
      · rfl
      · obtain rfl | rfl := hclose <;> decide
  | number value =>
    have hfinite := h value rfl
    obtain ⟨c, cs, htext, hc⟩ := head_toString hfinite
    rw [stringify, if_pos hfinite, htext]
    apply begins_cons _ (isBlank_numberHead hc)
    obtain rfl | rfl := hclose
    · exact numberHead_ne hc ']' (by decide)
    · exact numberHead_ne hc '\x7d' (by decide)
  | string value => exact begins_quote hclose _
  | array items =>
    apply begins_cons
    · rfl
    · obtain rfl | rfl := hclose <;> decide
  | object members =>
    apply begins_cons
    · rfl
    · obtain rfl | rfl := hclose <;> decide

theorem finite_of_plain {t : JsonTree} (h : Plain t) (value : JsNumber) (ht : t = .number value) :
    value.isFinite = true := by
  cases h with
  | number hfinite => rwa [← JsonTree.number.inj ht]
  | null | boolean | string | array | object => cases ht

theorem readValue_number {value : JsNumber} (hfinite : value.isFinite = true) (fuel : Nat)
    {rest : JsString} (h : Stops rest) : readValue (fuel + 1) (value.toString ++ rest) =
      some (number value.withoutSignedZero, rest) := by
  have hread := read_toString hfinite h
  obtain ⟨c, cs, htext, hc⟩ := head_toString hfinite
  have hne := numberHead_ne hc
  rw [htext, List.cons_append] at hread ⊢
  rw [readValue, skipBlanks_cons (isBlank_numberHead hc)]
  simp only [hne '"' (by decide), hne '[' (by decide), hne '\x7b' (by decide), hne 'n' (by decide),
    hne 't' (by decide), hne 'f' (by decide), if_false, hread, Option.map_some]

theorem readMember_text {value : JsString → Option (JsonTree × JsString)}
    {member : JsString × JsonTree} {v : JsonTree} {rest : JsString}
    (h : value (stringify member.2 ++ rest) = some (v, rest)) :
    readMember value (memberText member ++ rest) = some ((member.1, v), rest) := by
  have hcolon : skipBlanks (unit ':' :: (stringify member.2 ++ rest)) =
      unit ':' :: (stringify member.2 ++ rest) := skipBlanks_cons rfl _
  have hquote : skipBlanks (unit '"' :: (quotedUnits member.1 ++ unit '"' :: unit ':' ::
      (stringify member.2 ++ rest))) = unit '"' :: (quotedUnits member.1 ++ unit '"' ::
        unit ':' :: (stringify member.2 ++ rest)) := skipBlanks_cons rfl _
  rw [memberText, quote, List.append_assoc, List.cons_append, List.cons_append,
    List.append_assoc, List.singleton_append, readMember, hquote]
  simp only [accept_cons_self, Option.bind_eq_bind, Option.bind_some, readQuoted_quotedUnits,
    hcolon, h]

theorem length_stringify_pos {t : JsonTree} (h : ∀ value, t = .number value → value.isFinite = true) :
    0 < (stringify t).length :=
  List.length_pos_of_ne_nil (begins_stringify (Or.inl rfl) h).ne_nil

theorem length_bracketed (left right : Char) (parts : List JsString) :
    (bracketed left right parts).length = ([unit ','].intercalate parts).length + 2 := by
  rw [bracketed, List.length_cons, List.length_append, List.length_singleton]

theorem length_memberText (member : JsString × JsonTree) :
    (stringify member.2).length ≤ (memberText member).length := by
  rw [memberText, List.length_append, List.length_cons]
  omega

theorem bracketed_append (left right : Char) (parts : List JsString) (rest : JsString) :
    bracketed left right parts ++ rest =
      unit left :: ([unit ','].intercalate parts ++ unit right :: rest) := by
  rw [bracketed, List.cons_append, List.append_assoc, List.singleton_append]

theorem readValue_quote (fuel : Nat) (us : JsString) : readValue (fuel + 1) (unit '"' :: us) =
    (readQuoted us).map fun p => (string p.1, p.2) := by
  rw [readValue, skipBlanks_cons rfl]
  exact if_pos rfl

theorem readValue_open_array (fuel : Nat) (us : JsString) :
    readValue (fuel + 1) (unit '[' :: us) =
      (readBracketed (readValue fuel) ']' us).map fun p => (array p.1, p.2) := by
  rw [readValue, skipBlanks_cons rfl]
  exact (if_neg (by decide)).trans (if_pos rfl)

theorem readValue_open_object (fuel : Nat) (us : JsString) :
    readValue (fuel + 1) (unit '\x7b' :: us) =
      (readBracketed (readMember (readValue fuel)) '\x7d' us).map fun p =>
        (object (setProperties p.1), p.2) := by
  rw [readValue, skipBlanks_cons rfl]
  exact (if_neg (by decide)).trans ((if_neg (by decide)).trans (if_pos rfl))

theorem exists_fuel {length fuel : Nat} (hpos : 0 < length) (h : length ≤ fuel) :
    ∃ k, fuel = k + 1 := ⟨fuel - 1, by omega⟩

/-- The text of a value is read back, up to the sign of zeros. -/
theorem readValue_stringify {t : JsonTree} (h : Plain t) {fuel : Nat}
    (hfuel : (stringify t).length ≤ fuel) {rest : JsString} (hrest : Stops rest) :
    readValue fuel (stringify t ++ rest) = some (t.withoutSignedZeros, rest) := by
  induction h generalizing fuel rest with
  | null =>
    obtain ⟨fuel, rfl⟩ := exists_fuel (length_stringify_pos (finite_of_plain .null)) hfuel
    rfl
  | boolean value =>
    obtain ⟨fuel, rfl⟩ := exists_fuel (length_stringify_pos (finite_of_plain (.boolean value))) hfuel
    cases value <;> rfl
  | number hfinite =>
    obtain ⟨fuel, rfl⟩ := exists_fuel (length_stringify_pos (finite_of_plain (.number hfinite))) hfuel
    rw [stringify, if_pos hfinite]
    exact readValue_number hfinite fuel hrest
  | string value =>
    obtain ⟨fuel, rfl⟩ := exists_fuel (length_stringify_pos (finite_of_plain (.string value))) hfuel
    rw [stringify, quote, List.cons_append, List.append_assoc, List.singleton_append,
      readValue_quote, readQuoted_quotedUnits]
    rfl
  | @array items hitems ih =>
    rw [stringify, length_bracketed, itemTexts_eq] at hfuel
    obtain ⟨fuel, rfl⟩ := exists_fuel (Nat.succ_pos _) hfuel
    have hitem : ∀ t ∈ items, ∀ rest, Stops rest →
        readValue fuel (stringify t ++ rest) = some (t.withoutSignedZeros, rest) := by
      intro t ht rest hstops
      have hle := @length_part_le [unit ','] _ _ (List.mem_map_of_mem (f := stringify) ht)
      exact ih t ht (by omega) hstops
    have hread := readBracketed_intercalate (Or.inl rfl)
      (fun t ht => begins_stringify (Or.inl rfl) (finite_of_plain (hitems t ht))) hitem rest
    rw [stringify, bracketed_append, itemTexts_eq, readValue_open_array, hread,
      withoutSignedZeros, itemsWithoutSignedZeros_eq]
    rfl
  | @object members ordered hmembers ih =>
    rw [stringify, length_bracketed, memberTexts_eq] at hfuel
    obtain ⟨fuel, rfl⟩ := exists_fuel (Nat.succ_pos _) hfuel
    have hitem : ∀ m ∈ members, ∀ rest, Stops rest →
        readMember (readValue fuel) (memberText m ++ rest) =
          some ((m.1, m.2.withoutSignedZeros), rest) := by
      intro m hm rest hstops
      have hle := @length_part_le [unit ','] _ _ (List.mem_map_of_mem (f := memberText) hm)
      have hvalue := length_memberText m
      exact readMember_text (ih m hm (by omega) hstops)
    have hbegins : ∀ m ∈ members, Begins '\x7d' (memberText m) := fun m _ =>
      begins_quote (Or.inr rfl) _
    have hread := readBracketed_intercalate (Or.inr rfl) hbegins hitem rest
    rw [stringify, bracketed_append, memberTexts_eq, readValue_open_object, hread,
      withoutSignedZeros, membersWithoutSignedZeros_eq, Option.map_some, setProperties_ordered]
    rwa [List.map_map]

/-- Parsing the text of a value gives the value up to the sign of zeros. -/
theorem parse_stringify {t : JsonTree} (h : Plain t) :
    parse (stringify t) = some t.withoutSignedZeros := by
  have hread := @readValue_stringify t h ((stringify t).length + 1) (Nat.le_succ _) []
    (by intro u hu; cases hu)
  rw [List.append_nil] at hread
  rw [parse, hread]
  rfl

end RoundTrip

end CryptoLending.Lib.JsonText
