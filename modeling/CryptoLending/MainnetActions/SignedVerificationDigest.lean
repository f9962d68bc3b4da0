import CryptoLending.Lib.Bytes
import CryptoLending.Lib.Wire
import CryptoLending.Lib.ListOption
import CryptoLending.Lib.Text
import Mathlib.Algebra.Order.BigOperators.Group.List

namespace CryptoLending.MainnetActions.SignedVerificationDigest

open Lib Lib.Bytes Lib.LengthPrefixed Lib.Text

variable {δ : Type}

section Framed

/-- A value behind its length in eight bytes. A longer value cannot be written. -/
def framedValue (value : String) : Option (List UInt8) :=
  if (utf8 value).length < 256 ^ 8 then some (sized (bigEndian 8) (utf8 value)) else none

/-- The bytes that are hashed for a domain and its fields. -/
def framedBytes (domain : String) (fields : List String) : Option (List UInt8) :=
  ((domain :: fields).mapM framedValue).map List.flatten

def sha256Framed (sha256 : List UInt8 → δ) (domain : String) (fields : List String) : Option δ :=
  (framedBytes domain fields).map sha256

end Framed

section ClmaFp1

/-- `CLMAFP` and the version of the frame. -/
def clmaFp1Magic : List UInt8 := [0x43, 0x4c, 0x4d, 0x41, 0x46, 0x50, 0x01]
def clmaFp1MaximumFields : Nat := 64
def clmaFp1MaximumValueBytes : Nat := 16384

def isLetter (c : Char) : Bool := ('a' ≤ c && c ≤ 'z') || ('A' ≤ c && c ≤ 'Z')

/-- A lower-case letter, then at most 63 letters and digits. -/
def isClmaFp1FieldName (cs : List Char) : Bool :=
  cs.head?.any (fun c => 'a' ≤ c && c ≤ 'z') && cs.all (fun c => isLetter c || isDigit c) &&
    cs.length ≤ 64

/-- One named field: its name, whether it is present, and its value. -/
def clmaFp1Chunk (field : String × Option String) : List UInt8 :=
  sized (bigEndian 2) (utf8 field.1) ++
    match field.2 with
    | none => 0 :: bigEndian 4 0
    | some value => 1 :: sized (bigEndian 4) (utf8 value)

/-- What `append` checks of a field before it writes it. -/
def isClmaFp1Field (field : String × Option String) : Bool :=
  isClmaFp1FieldName field.1.toList &&
    field.2.all (fun value => (utf8 value).length ≤ clmaFp1MaximumValueBytes)

/-- Field by field, each name once. -/
def clmaFp1Chunks (seenNames : List String) : List (String × Option String) → Option (List UInt8)
  | [] => some []
  | field :: fields =>
    if isClmaFp1Field field && !seenNames.contains field.1 then
      (clmaFp1Chunks (field.1 :: seenNames) fields).map (clmaFp1Chunk field ++ ·)
    else none

/-- The bytes that are hashed for a domain and its named fields. -/
def clmaFp1Bytes (domain : String) (fieldNames : List String) (fieldValues : List (Option String)) :
    Option (List UInt8) :=
  if (utf8 domain).length ≤ clmaFp1MaximumValueBytes ∧ 1 ≤ fieldNames.length ∧
      fieldNames.length ≤ clmaFp1MaximumFields ∧ fieldNames.length = fieldValues.length ∧
      fieldNames.head? = some "fingerprintEncodingVersion" ∧
      fieldValues.head? = some (some "1") then
    (clmaFp1Chunks ["domain"] (fieldNames.zip fieldValues)).map
      (fun chunks => clmaFp1Magic ++ clmaFp1Chunk ("domain", some domain) ++ chunks)
  else none

def sha256ClmaFp1 (sha256 : List UInt8 → δ) (domain : String) (fieldNames : List String)
    (fieldValues : List (Option String)) : Option δ :=
  (clmaFp1Bytes domain fieldNames fieldValues).map sha256

end ClmaFp1

section Injectivity

theorem separates_sizedText (width : Nat) :
    Separates (fun value => (utf8 value).length < 256 ^ width)
      (fun value => sized (bigEndian width) (utf8 value)) := by
  intro x y hx hy r s h
  have hs := separates_sized (fun n => length_bigEndian width n)
    (fun m n hm hn hmn => bigEndian_inj hm hn hmn)
  obtain ⟨hxy, hrs⟩ := hs hx hy h
  exact ⟨utf8_injective hxy, hrs⟩

theorem sized_bigEndian_ne_nil (width : Nat) (bytes : List UInt8) :
    sized (bigEndian (width + 1)) bytes ≠ [] := by
  intro h
  have hl := congrArg List.length h
  rw [sized, List.length_append, length_bigEndian, List.length_nil] at hl
  omega

theorem framedValue_eq_some {value : String} {bytes : List UInt8} :
    framedValue value = some bytes ↔
      (utf8 value).length < 256 ^ 8 ∧ sized (bigEndian 8) (utf8 value) = bytes := by
  rw [framedValue, Option.ite_none_right_eq_some, Option.some.injEq]

theorem framedPieces_eq_some {values : List String} {pieces : List (List UInt8)}
    (h : values.mapM framedValue = some pieces) :
    (∀ value ∈ values, (utf8 value).length < 256 ^ 8) ∧
      pieces.flatten = values.flatMap (fun value => sized (bigEndian 8) (utf8 value)) := by
  rw [ListOption.mapM_eq_some] at h
  induction h with
  | nil => exact ⟨by simp, rfl⟩
  | cons hvalue _ ih =>
    obtain ⟨hlength, rfl⟩ := framedValue_eq_some.1 hvalue
    rw [List.forall_mem_cons, List.flatMap_cons, List.flatten_cons, ih.2]
    exact ⟨⟨hlength, ih.1⟩, rfl⟩

/-- Every value is written behind its length. -/
theorem framedBytes_eq_some {domain : String} {fields : List String} {bytes : List UInt8}
    (h : framedBytes domain fields = some bytes) :
    (∀ value ∈ domain :: fields, (utf8 value).length < 256 ^ 8) ∧
      bytes = (domain :: fields).flatMap (fun value => sized (bigEndian 8) (utf8 value)) := by
  obtain ⟨pieces, hpieces, rfl⟩ := Option.map_eq_some_iff.mp h
  exact framedPieces_eq_some hpieces

theorem framedBytes_inj {domain domain' : String} {fields fields' : List String}
    {bytes : List UInt8} (h : framedBytes domain fields = some bytes)
    (h' : framedBytes domain' fields' = some bytes) : domain = domain' ∧ fields = fields' := by
  obtain ⟨hvalid, rfl⟩ := framedBytes_eq_some h
  obtain ⟨hvalid', hbytes⟩ := framedBytes_eq_some h'
  have hvalues := (separates_sizedText 8).flatMap (fun value => sized_bigEndian_ne_nil 7 _)
    hvalid hvalid' hbytes
  exact List.cons.inj hvalues

/-- A field whose name and value fit their lengths. -/
def FitsClmaFp1Chunk (field : String × Option String) : Prop :=
  (utf8 field.1).length < 256 ^ 2 ∧ ∀ value ∈ field.2, (utf8 value).length < 256 ^ 4

theorem fits_of_isClmaFp1Field {field : String × Option String}
    (h : isClmaFp1Field field = true) : FitsClmaFp1Chunk field := by
  simp only [isClmaFp1Field, isClmaFp1FieldName, clmaFp1MaximumValueBytes, Bool.and_eq_true,
    decide_eq_true_eq, Option.all_eq_true] at h
  have hname := length_utf8_le field.1
  refine ⟨by omega, fun value hvalue => ?_⟩
  have hlength := of_decide_eq_true (h.2 value hvalue)
  omega

/-- Absence is marked apart from the empty value. -/
theorem separates_clmaFp1Chunk : Separates FitsClmaFp1Chunk clmaFp1Chunk := by
  intro x y hx hy r s h
  obtain ⟨name, value⟩ := x
  obtain ⟨name', value'⟩ := y
  simp only [clmaFp1Chunk, List.append_assoc] at h
  obtain ⟨rfl, hrest⟩ := separates_sizedText 2 hx.1 hy.1 h
  cases value with
  | none =>
    cases value' with
    | none =>
      have hrs := List.append_cancel_left (List.cons.inj hrest).2
      exact ⟨rfl, hrs⟩
    | some value' =>
      have hmark := (List.cons.inj hrest).1
      exact absurd hmark (by decide)
  | some value =>
    cases value' with
    | none =>
      have hmark := (List.cons.inj hrest).1
      exact absurd hmark (by decide)
    | some value' =>
      obtain ⟨rfl, hrs⟩ := separates_sizedText 4 (hx.2 value rfl) (hy.2 value' rfl)
        (List.cons.inj hrest).2
      exact ⟨rfl, hrs⟩

theorem clmaFp1Chunk_ne_nil (field : String × Option String) : clmaFp1Chunk field ≠ [] :=
  fun h => sized_bigEndian_ne_nil 1 _ (List.append_eq_nil_iff.mp h).1

theorem clmaFp1Chunks_eq_some {seenNames : List String} {fields : List (String × Option String)}
    {chunks : List UInt8} (h : clmaFp1Chunks seenNames fields = some chunks) :
    (∀ field ∈ fields, isClmaFp1Field field = true) ∧ chunks = fields.flatMap clmaFp1Chunk := by
  induction fields generalizing seenNames chunks with
  | nil => exact ⟨by simp, (Option.some.inj h).symm⟩
  | cons field fields ih =>
    rw [clmaFp1Chunks, Option.ite_none_right_eq_some, Bool.and_eq_true] at h
    obtain ⟨rest, hrest, rfl⟩ := Option.map_eq_some_iff.mp h.2
    obtain ⟨hall, rfl⟩ := ih hrest
    exact ⟨List.forall_mem_cons.mpr ⟨h.1.1, hall⟩, rfl⟩

/-- The frame is the magic and one chunk for the domain and for each field. -/
theorem clmaFp1Bytes_eq_some {domain : String} {fieldNames : List String}
    {fieldValues : List (Option String)} {bytes : List UInt8}
    (h : clmaFp1Bytes domain fieldNames fieldValues = some bytes) :
    fieldNames.length = fieldValues.length ∧ fieldNames.length ≤ clmaFp1MaximumFields ∧
      (utf8 domain).length ≤ clmaFp1MaximumValueBytes ∧
      (∀ field ∈ fieldNames.zip fieldValues, isClmaFp1Field field = true) ∧
      bytes = clmaFp1Magic ++
        (("domain", some domain) :: fieldNames.zip fieldValues).flatMap clmaFp1Chunk := by
  rw [clmaFp1Bytes, Option.ite_none_right_eq_some] at h
  obtain ⟨⟨hdomain, _, hmaximum, hcount, _, _⟩, h⟩ := h
  obtain ⟨chunks, hchunks, rfl⟩ := Option.map_eq_some_iff.mp h
  obtain ⟨hall, rfl⟩ := clmaFp1Chunks_eq_some hchunks
  exact ⟨hcount, hmaximum, hdomain, hall, by rw [List.flatMap_cons, List.append_assoc]⟩

theorem fits_domain {domain : String} (h : (utf8 domain).length ≤ clmaFp1MaximumValueBytes) :
    FitsClmaFp1Chunk ("domain", some domain) := by
  have hname := length_utf8_le "domain"
  refine ⟨lt_of_le_of_lt hname (by decide), fun value hvalue => ?_⟩
  obtain rfl := Option.some.inj hvalue
  exact lt_of_le_of_lt h (by decide)

theorem clmaFp1Bytes_inj {domain domain' : String} {names names' : List String}
    {values values' : List (Option String)} {bytes : List UInt8}
    (h : clmaFp1Bytes domain names values = some bytes)
    (h' : clmaFp1Bytes domain' names' values' = some bytes) :
    domain = domain' ∧ names = names' ∧ values = values' := by
  obtain ⟨hcount, _, hdomain, hall, rfl⟩ := clmaFp1Bytes_eq_some h
  obtain ⟨hcount', _, hdomain', hall', hbytes⟩ := clmaFp1Bytes_eq_some h'
  have hfields := separates_clmaFp1Chunk.flatMap clmaFp1Chunk_ne_nil
    (List.forall_mem_cons.mpr
      ⟨fits_domain hdomain, fun field hf => fits_of_isClmaFp1Field (hall field hf)⟩)
    (List.forall_mem_cons.mpr
      ⟨fits_domain hdomain', fun field hf => fits_of_isClmaFp1Field (hall' field hf)⟩)
    (List.append_cancel_left hbytes)
  obtain ⟨hd, hzip⟩ := List.cons.inj hfields
  refine ⟨Option.some.inj (Prod.ext_iff.mp hd).2, ?_, ?_⟩
  · rw [← List.map_fst_zip hcount.le, hzip, List.map_fst_zip hcount'.le]
  · rw [← List.map_snd_zip hcount.ge, hzip, List.map_snd_zip hcount'.ge]

theorem length_clmaFp1Chunk_le {field : String × Option String}
    (h : isClmaFp1Field field = true) : (clmaFp1Chunk field).length ≤ 16647 := by
  obtain ⟨name, value⟩ := field
  simp only [isClmaFp1Field, isClmaFp1FieldName, clmaFp1MaximumValueBytes, Bool.and_eq_true,
    decide_eq_true_eq] at h
  have hname := length_utf8_le name
  cases value with
  | none =>
    simp only [clmaFp1Chunk, sized, List.length_append, List.length_cons, length_bigEndian]
    omega
  | some value =>
    have hvalue := of_decide_eq_true h.2
    simp only [clmaFp1Chunk, sized, List.length_append, List.length_cons, length_bigEndian]
    omega

theorem length_flatMap_le {α β : Type} {f : α → List β} {bound : Nat} {l : List α}
    (h : ∀ a ∈ l, (f a).length ≤ bound) : (l.flatMap f).length ≤ l.length * bound := by
  rw [List.length_flatMap]
  have hsum := List.sum_le_card_nsmul (l.map fun a => (f a).length) bound
    (List.forall_mem_map.mpr h)
  rwa [List.length_map, Nat.nsmul_eq_mul] at hsum

theorem framedBytes_head {domain : String} {fields : List String} {bytes : List UInt8}
    (h : framedBytes domain fields = some bytes) :
    (utf8 domain).length ≤ bytes.length ∧ bytes.take 8 = bigEndian 8 (utf8 domain).length := by
  obtain ⟨_, rfl⟩ := framedBytes_eq_some h
  rw [List.flatMap_cons, sized, List.append_assoc]
  constructor
  · rw [List.length_append, List.length_append]
    omega
  · exact List.take_left' (length_bigEndian 8 _)

theorem length_utf8_domain : (utf8 "domain").length = 6 := by
  rw [utf8_eq_flatMap]
  rfl

theorem clmaFp1Bytes_head {domain : String} {names : List String} {values : List (Option String)}
    {bytes : List UInt8} (h : clmaFp1Bytes domain names values = some bytes) :
    bytes.length ≤ 2000000 ∧ bytes.take 8 = bigEndian 8 0x434c4d4146500100 := by
  obtain ⟨_, hcount, hdomain, hall, rfl⟩ := clmaFp1Bytes_eq_some h
  have hchunks : ((names.zip values).flatMap clmaFp1Chunk).length ≤ _ :=
    length_flatMap_le (fun field hf => length_clmaFp1Chunk_le (hall field hf))
  rw [List.length_zip] at hchunks
  rw [clmaFp1MaximumFields] at hcount
  rw [clmaFp1MaximumValueBytes] at hdomain
  rw [List.flatMap_cons, clmaFp1Chunk, sized, length_utf8_domain]
  constructor
  · simp only [List.length_append, sized, length_bigEndian, length_utf8_domain,
      List.length_cons, clmaFp1Magic, List.length_nil]
    omega
  · simp only [List.append_assoc]
    exact List.take_left' (length_bigEndian 8 0x434c4d4146500100)

/-- The magic is no length of a domain: such a domain is longer than every frame. -/
theorem framedBytes_ne_clmaFp1Bytes {domain domain' : String} {fields names : List String}
    {values : List (Option String)} {bytes : List UInt8}
    (h : framedBytes domain fields = some bytes) :
    clmaFp1Bytes domain' names values ≠ some bytes := by
  intro h'
  obtain ⟨hlength, hframed⟩ := framedBytes_head h
  obtain ⟨hbound, hclma⟩ := clmaFp1Bytes_head h'
  have hvalid := (framedBytes_eq_some h).1 domain List.mem_cons_self
  have hdomain := bigEndian_inj hvalid (by norm_num) (hframed.symm.trans hclma)
  omega

/-- Both frames are read back, and neither is ever taken for the other. -/
theorem framed_digests_injective (domain domain' : String) (fields fields' : List String)
    (names names' : List String) (values values' : List (Option String)) :
    ((∃ bytes, framedBytes domain fields = some bytes ∧
        framedBytes domain' fields' = some bytes) ↔
      (framedBytes domain fields).isSome = true ∧ domain = domain' ∧ fields = fields') ∧
    ((∃ bytes, clmaFp1Bytes domain names values = some bytes ∧
        clmaFp1Bytes domain' names' values' = some bytes) ↔
      (clmaFp1Bytes domain names values).isSome = true ∧
        domain = domain' ∧ names = names' ∧ values = values') ∧
    ¬ ∃ bytes, framedBytes domain fields = some bytes ∧
      clmaFp1Bytes domain' names values = some bytes := by
  refine ⟨⟨?_, ?_⟩, ⟨?_, ?_⟩, ?_⟩
  · rintro ⟨bytes, h, h'⟩
    exact ⟨Option.isSome_of_eq_some h, framedBytes_inj h h'⟩
  · rintro ⟨hsome, rfl, rfl⟩
    obtain ⟨bytes, hbytes⟩ := Option.isSome_iff_exists.mp hsome
    exact ⟨bytes, hbytes, hbytes⟩
  · rintro ⟨bytes, h, h'⟩
    exact ⟨Option.isSome_of_eq_some h, clmaFp1Bytes_inj h h'⟩
  · rintro ⟨hsome, rfl, rfl, rfl⟩
    obtain ⟨bytes, hbytes⟩ := Option.isSome_iff_exists.mp hsome
    exact ⟨bytes, hbytes, hbytes⟩
  · rintro ⟨bytes, h, h'⟩
    exact framedBytes_ne_clmaFp1Bytes h h'

def sampleNames : List String := ["fingerprintEncodingVersion", "actionIntentId", "memo"]
def sampleValues : List (Option String) := [some "1", some "intent", none]

/-- The frames of the sample fields exist, and are told apart. -/
theorem sampleFields_framed :
    (∃ bytes, framedBytes "domain" ["a", "bc"] = some bytes ∧
      framedBytes "domain" ["ab", "c"] ≠ some bytes) ∧
    ∃ bytes, clmaFp1Bytes "domain" sampleNames sampleValues = some bytes ∧
      framedBytes "domain" ["a", "bc"] ≠ some bytes := by
  obtain ⟨bytes, hframed⟩ : ∃ bytes, framedBytes "domain" ["a", "bc"] = some bytes :=
    Option.isSome_iff_exists.mp (by decide +kernel)
  obtain ⟨bytes', hclma⟩ : ∃ bytes, clmaFp1Bytes "domain" sampleNames sampleValues = some bytes :=
    Option.isSome_iff_exists.mp (by decide +kernel)
  obtain ⟨hinj, _, hapart⟩ := framed_digests_injective "domain" "domain" ["a", "bc"] ["ab", "c"]
    sampleNames [] sampleValues []
  refine ⟨⟨bytes, hframed, fun h => ?_⟩, bytes', hclma, fun h => hapart ⟨bytes', h, hclma⟩⟩
  exact absurd (hinj.mp ⟨bytes, hframed, h⟩).2.2 (by decide)

end Injectivity

section Success

theorem mapM_isSome {α β : Type} {f : α → Option β} {l : List α} :
    (l.mapM f).isSome = true ↔ ∀ a ∈ l, (f a).isSome = true := by
  rw [← Option.ne_none_iff_isSome, Ne, ListOption.mapM_eq_none, not_exists]
  refine forall_congr' fun a => ?_
  rw [not_and, ← Option.ne_none_iff_isSome]

/-- Whatever a length can be written for is framed. -/
theorem framedBytes_isSome {domain : String} {fields : List String} :
    (framedBytes domain fields).isSome = true ↔
      ∀ value ∈ domain :: fields, (utf8 value).length < 256 ^ 8 := by
  rw [framedBytes, Option.isSome_map, mapM_isSome]
  refine forall₂_congr fun value _ => ?_
  rw [framedValue, Option.isSome_ite]

theorem clmaFp1Chunks_isSome {seenNames : List String} {fields : List (String × Option String)} :
    (clmaFp1Chunks seenNames fields).isSome = true ↔
      (∀ field ∈ fields, isClmaFp1Field field = true) ∧ (fields.map Prod.fst).Nodup ∧
        ∀ name ∈ fields.map Prod.fst, name ∉ seenNames := by
  induction fields generalizing seenNames with
  | nil => simp [clmaFp1Chunks]
  | cons field fields ih =>
    rw [clmaFp1Chunks]
    split
    · rename_i hfield
      simp only [Bool.and_eq_true, Bool.not_eq_true', List.contains_eq_mem, decide_eq_false_iff_not]
        at hfield
      rw [Option.isSome_map, ih, List.map_cons, List.forall_mem_cons, List.forall_mem_cons,
        List.nodup_cons]
      simp only [List.mem_cons, not_or]
      constructor
      · rintro ⟨hall, hnodup, hfresh⟩
        exact ⟨⟨hfield.1, hall⟩, ⟨fun hmem => (hfresh _ hmem).1 rfl, hnodup⟩, hfield.2,
          fun name hname => (hfresh name hname).2⟩
      · rintro ⟨⟨_, hall⟩, ⟨hnew, hnodup⟩, _, hfresh⟩
        exact ⟨hall, hnodup, fun name hname => ⟨fun h => hnew (h ▸ hname), hfresh name hname⟩⟩
    · rename_i hfield
      simp only [Option.isSome_none, Bool.false_eq_true, false_iff]
      rintro ⟨hall, _, hfresh⟩
      have hname := hfresh field.1 List.mem_cons_self
      have hvalid := hall field List.mem_cons_self
      exact hfield (by simp [hvalid, hname])

/-- Distinct well-formed fields with the version first are framed. -/
theorem clmaFp1Bytes_isSome {domain : String} {fieldNames : List String}
    {fieldValues : List (Option String)} :
    (clmaFp1Bytes domain fieldNames fieldValues).isSome = true ↔
      ((utf8 domain).length ≤ clmaFp1MaximumValueBytes ∧ 1 ≤ fieldNames.length ∧
        fieldNames.length ≤ clmaFp1MaximumFields ∧ fieldNames.length = fieldValues.length ∧
        fieldNames.head? = some "fingerprintEncodingVersion" ∧
        fieldValues.head? = some (some "1")) ∧
      (∀ field ∈ fieldNames.zip fieldValues, isClmaFp1Field field = true) ∧
      fieldNames.Nodup ∧ "domain" ∉ fieldNames := by
  rw [clmaFp1Bytes]
  split
  · rename_i hshape
    rw [Option.isSome_map, clmaFp1Chunks_isSome, List.map_fst_zip hshape.2.2.2.1.le,
      and_iff_right hshape]
    refine and_congr_right fun _ => and_congr_right fun _ => ?_
    constructor
    · exact fun hfresh hmem => hfresh _ hmem List.mem_cons_self
    · exact fun hnew name hname hdomain => hnew (List.mem_singleton.mp hdomain ▸ hname)
  · rename_i hshape
    simp [hshape]

end Success

section Digests

variable {sha256 : List UInt8 → δ}

/-- Two byte strings with one hash. -/
def Collision (sha256 : List UInt8 → δ) : Prop :=
  ∃ bytes bytes', bytes ≠ bytes' ∧ sha256 bytes = sha256 bytes'

theorem eq_or_collision {encoded encoded' : Option (List UInt8)} {digest : δ}
    {same : Prop} (h : encoded.map sha256 = some digest) (h' : encoded'.map sha256 = some digest)
    (hinj : ∀ bytes, encoded = some bytes → encoded' = some bytes → same) :
    same ∨ Collision sha256 := by
  obtain ⟨bytes, hbytes, hdigest⟩ := Option.map_eq_some_iff.mp h
  obtain ⟨bytes', hbytes', hdigest'⟩ := Option.map_eq_some_iff.mp h'
  by_cases hsame : bytes = bytes'
  · exact .inl (hinj bytes hbytes (hsame ▸ hbytes'))
  · exact .inr ⟨bytes, bytes', hsame, hdigest.trans hdigest'.symm⟩

/-- A digest stands for one domain and one list of fields in one of the frames, short of a
collision. -/
theorem digests_determine {domain domain' : String} {digest : δ} :
    (∀ fields fields', sha256Framed sha256 domain fields = some digest →
      sha256Framed sha256 domain' fields' = some digest →
      (domain = domain' ∧ fields = fields') ∨ Collision sha256) ∧
    (∀ names names' values values', sha256ClmaFp1 sha256 domain names values = some digest →
      sha256ClmaFp1 sha256 domain' names' values' = some digest →
      (domain = domain' ∧ names = names' ∧ values = values') ∨ Collision sha256) ∧
    ∀ fields names values, sha256Framed sha256 domain fields = some digest →
      sha256ClmaFp1 sha256 domain' names values = some digest → Collision sha256 := by
  refine ⟨fun fields fields' h h' => ?_, fun names names' values values' h h' => ?_,
    fun fields names values h h' => ?_⟩
  · exact eq_or_collision h h' fun _ => framedBytes_inj
  · exact eq_or_collision h h' fun _ => clmaFp1Bytes_inj
  · have hapart := @eq_or_collision _ sha256 _ _ digest False h h' fun _ =>
      framedBytes_ne_clmaFp1Bytes
    exact hapart.resolve_left id

end Digests

end CryptoLending.MainnetActions.SignedVerificationDigest
