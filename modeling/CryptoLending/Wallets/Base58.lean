import CryptoLending.Lib.ListOption
import CryptoLending.Lib.Radix

namespace CryptoLending.Wallets.Base58

open Lib Lib.Radix

def base58Alphabet : List Char :=
  "123456789ABCDEFGHJKLMNPQRSTUVWXYZabcdefghijkmnopqrstuvwxyz".toList

def isBase58 (cs : List Char) : Bool := cs.all base58Alphabet.contains

/-- Multiply a little-endian number and add a carry, then push what is left of the carry. -/
def mulAdd (base factor : Nat) : Nat → List Nat → List Nat
  | carry, [] => Nat.digits base carry
  | carry, d :: ds =>
    (carry + d * factor) % base :: mulAdd base factor ((carry + d * factor) / base) ds

/-- The digits, except for the lone zero of an empty number. -/
def significant (digits : List Nat) : List Nat := if digits = [0] then [] else digits

def decodeCharacters (cs : List Char) : Option (List Nat) := do
  let bytes ← cs.foldlM
    (fun bytes c => (base58Alphabet.idxOf? c).map (fun carry => mulAdd 256 58 carry bytes)) [0]
  return List.replicate (cs.takeWhile (· == '1')).length 0 ++ (significant bytes).reverse

def encodeBase58 (bytes : List Nat) : List Char :=
  let digits := bytes.foldl (fun digits byte => mulAdd 58 256 byte digits) [0]
  List.replicate (bytes.takeWhile (· == 0)).length '1' ++
    (significant digits).reverse.filterMap (base58Alphabet[·]?)

/-- Decode a text of a given pattern. -/
def decodeBase58 (pattern : List Char → Bool) (cs : List Char) : Option (List Nat) :=
  if pattern cs then decodeCharacters cs else none

example : decodeCharacters "1112g".toList = some [0, 0, 0, 97] := by decide

example : encodeBase58 [0, 0, 0, 97] = "1112g".toList := by decide

section Carrying

/-- How the running numbers are kept: zero is one digit. -/
def running (base n : Nat) : List Nat := if n = 0 then [0] else Nat.digits base n

theorem significant_running (base n : Nat) : significant (running base n) = Nat.digits base n := by
  by_cases hn : n = 0
  · rw [hn, running, if_pos rfl, significant, if_pos rfl, Nat.digits_zero]
  · rw [running, if_neg hn, significant, if_neg]
    intro h
    have hlast := Nat.getLast_digit_ne_zero base hn
    simp only [h] at hlast
    exact hlast rfl

theorem mulAdd_digits {base factor : Nat} (hbase : 1 < base) (hfactor : 0 < factor)
    (carry n : Nat) :
    mulAdd base factor carry (Nat.digits base n) = Nat.digits base (carry + factor * n) := by
  induction n using Nat.strongRecOn generalizing carry with
  | ind n ih =>
    by_cases hn : n = 0
    · rw [hn, Nat.digits_zero, mulAdd, Nat.mul_zero, Nat.add_zero]
    · have hpos := Nat.pos_of_ne_zero hn
      have hdiv := ih (n / base) (Nat.div_lt_self hpos hbase)
      have hn' : n % base + base * (n / base) = n := Nat.mod_add_div n base
      have hsum : carry + factor * (n % base + base * (n / base)) ≠ 0 := by
        rw [hn']
        have := Nat.mul_pos hfactor hpos
        omega
      have hstep := digits_mul_add hbase carry (n % base) factor (n / base) hsum
      rw [hn'] at hstep
      rw [Nat.digits_def' hbase hpos, mulAdd, hdiv, hstep]

theorem mulAdd_running {base factor : Nat} (hbase : 1 < base) (hfactor : 0 < factor)
    (carry n : Nat) :
    mulAdd base factor carry (running base n) = running base (n * factor + carry) := by
  by_cases hn : n = 0
  · rw [hn, running, if_pos rfl, Nat.zero_mul, Nat.zero_add, mulAdd, Nat.zero_mul, Nat.add_zero,
      mulAdd, running]
    by_cases hcarry : carry = 0
    · rw [if_pos hcarry, hcarry, Nat.zero_mod, Nat.zero_div, Nat.digits_zero]
    · rw [if_neg hcarry, Nat.digits_def' hbase (Nat.pos_of_ne_zero hcarry)]
  · have hsum : n * factor + carry ≠ 0 := by
      have := Nat.mul_pos (Nat.pos_of_ne_zero hn) hfactor
      omega
    rw [running, if_neg hn, mulAdd_digits hbase hfactor, running, if_neg hsum, Nat.mul_comm,
      Nat.add_comm]

/-- The loop over the digits keeps the number they denote. -/
theorem foldl_mulAdd {base factor : Nat} (hbase : 1 < base) (hfactor : 0 < factor)
    (ds : List Nat) (n : Nat) :
    ds.foldl (fun digits d => mulAdd base factor d digits) (running base n) =
      running base (ds.foldl (fun n d => n * factor + d) n) := by
  induction ds generalizing n with
  | nil => rfl
  | cons d ds ih => rw [List.foldl_cons, mulAdd_running hbase hfactor, ih, List.foldl_cons]

end Carrying

section Alphabet

/-- The values of characters. -/
def indices (cs : List Char) : Option (List Nat) := cs.mapM (base58Alphabet.idxOf? ·)

/-- The characters of values. -/
def symbols (ds : List Nat) : List Char := ds.filterMap (base58Alphabet[·]?)

theorem base58Alphabet_spec : base58Alphabet.length = 58 ∧ base58Alphabet.Nodup ∧
    base58Alphabet[0]? = some '1' := by decide

theorem length_base58Alphabet : base58Alphabet.length = 58 := base58Alphabet_spec.1

theorem nodup_base58Alphabet : base58Alphabet.Nodup := base58Alphabet_spec.2.1

theorem head_base58Alphabet : base58Alphabet[0]? = some '1' := base58Alphabet_spec.2.2

theorem idxOf?_eq_some {c : Char} {d : Nat} :
    base58Alphabet.idxOf? c = some d ↔ base58Alphabet[d]? = some c := by
  constructor
  · intro h
    obtain ⟨hd, hc, _⟩ := List.idxOf?_eq_some_iff.mp h
    rw [List.getElem?_eq_getElem hd, hc]
  · intro h
    obtain ⟨hd, hc⟩ := List.getElem?_eq_some_iff.mp h
    apply List.idxOf?_eq_some_iff.mpr
    refine ⟨hd, hc, fun j hj hjc => ?_⟩
    have heq := (List.Nodup.getElem_inj_iff nodup_base58Alphabet).mp (hjc.trans hc.symm)
    omega

theorem indices_eq_some {cs : List Char} {ds : List Nat} :
    indices cs = some ds ↔ (∀ d ∈ ds, d < 58) ∧ symbols ds = cs := by
  rw [indices, ListOption.mapM_eq_some]
  constructor
  · intro h
    induction h with
    | nil => exact ⟨by simp, rfl⟩
    | cons hc _ ih =>
      rw [idxOf?_eq_some] at hc
      obtain ⟨hd, _⟩ := List.getElem?_eq_some_iff.mp hc
      rw [List.forall_mem_cons, symbols, List.filterMap_cons_some hc]
      exact ⟨⟨by rwa [length_base58Alphabet] at hd, ih.1⟩, congrArg _ ih.2⟩
  · rintro ⟨hall, rfl⟩
    induction ds with
    | nil => exact List.Forall₂.nil
    | cons d ds ih =>
      rw [List.forall_mem_cons] at hall
      have hd : d < base58Alphabet.length := by rw [length_base58Alphabet]; exact hall.1
      have hc := List.getElem?_eq_getElem hd
      rw [symbols, List.filterMap_cons_some hc]
      exact List.Forall₂.cons (idxOf?_eq_some.2 hc) (ih hall.2)

theorem isBase58_iff {cs : List Char} : isBase58 cs = true ↔ ∃ ds, indices cs = some ds := by
  rw [isBase58, List.all_eq_true, ← Option.isSome_iff_exists, ← Option.ne_none_iff_isSome, indices,
    Ne, ListOption.mapM_eq_none]
  simp only [List.contains_iff_mem, List.idxOf?_eq_none_iff, not_exists, not_and, not_not]

theorem symbols_cons {d : Nat} (hd : d < 58) (ds : List Nat) :
    ∃ c, base58Alphabet[d]? = some c ∧ symbols (d :: ds) = c :: symbols ds := by
  rw [← length_base58Alphabet] at hd
  have hc := List.getElem?_eq_getElem hd
  exact ⟨_, hc, List.filterMap_cons_some hc⟩

theorem length_symbols {ds : List Nat} (h : ∀ d ∈ ds, d < 58) :
    (symbols ds).length = ds.length := by
  induction ds with
  | nil => rfl
  | cons d ds ih =>
    rw [List.forall_mem_cons] at h
    obtain ⟨c, _, hc⟩ := symbols_cons h.1 ds
    rw [hc, List.length_cons, List.length_cons, ih h.2]

/-- The character one is the value zero. -/
theorem zeros_symbols {ds : List Nat} (h : ∀ d ∈ ds, d < 58) :
    ((symbols ds).takeWhile (· == '1')).length = zeros ds := by
  induction ds with
  | nil => rfl
  | cons d ds ih =>
    rw [List.forall_mem_cons] at h
    obtain ⟨c, hd, hc⟩ := symbols_cons h.1 ds
    rw [hc, zeros]
    by_cases hz : d = 0
    · rw [hz, head_base58Alphabet] at hd
      obtain rfl := Option.some.inj hd
      rw [hz, List.takeWhile_cons_of_pos (by simp), List.takeWhile_cons_of_pos (by simp),
        List.length_cons, List.length_cons, ih h.2, zeros]
    · have hne : c ≠ '1' := by
        intro hc1
        rw [hc1, ← idxOf?_eq_some, idxOf?_eq_some.2 head_base58Alphabet] at hd
        exact hz (Option.some.inj hd).symm
      rw [List.takeWhile_cons_of_neg (by simpa using hne), List.takeWhile_cons_of_neg (by simpa using hz)]
      rfl

end Alphabet

section Conversion

theorem significant_foldl_mulAdd {base factor : Nat} (hbase : 1 < base) (hfactor : 0 < factor)
    (ds : List Nat) :
    significant (ds.foldl (fun digits d => mulAdd base factor d digits) [0]) =
      Nat.digits base (number factor ds) := by
  have hfold := foldl_mulAdd hbase hfactor ds 0
  rw [running, if_pos rfl] at hfold
  rw [hfold, significant_running, number]

/-- The loop of the encoders is a conversion of the bytes to base 58. -/
theorem encodeBase58_eq (bytes : List Nat) : encodeBase58 bytes = symbols (convert 256 58 bytes) := by
  have hzeros : ∀ z, symbols (List.replicate z 0) = List.replicate z '1' := by
    intro z
    induction z with
    | zero => rfl
    | succ z ih => rw [List.replicate_succ, symbols, List.filterMap_cons_some head_base58Alphabet,
        ← symbols, ih, List.replicate_succ]
  rw [convert, symbols, List.filterMap_append, ← symbols, hzeros, encodeBase58]
  change _ ++ List.filterMap _ (significant _).reverse = _
  rw [significant_foldl_mulAdd (by omega) (by omega)]
  rfl

/-- The loop of the decoders is a conversion of the values to bytes. -/
theorem decodeCharacters_eq (cs : List Char) :
    decodeCharacters cs = (indices cs).map (convert 58 256) := by
  have hfold := ListOption.foldlM_map base58Alphabet.idxOf?
    (fun bytes carry => mulAdd 256 58 carry bytes) cs [0]
  rw [decodeCharacters, hfold, ← indices]
  cases hcs : indices cs with
  | none => rfl
  | some ds =>
    obtain ⟨hds, rfl⟩ := indices_eq_some.1 hcs
    change some (_ ++ List.reverse (significant _)) = some (convert 58 256 ds)
    rw [zeros_symbols hds, significant_foldl_mulAdd (by omega) (by omega), convert]

/-- The loop of the decoders over big integers reads the values of the characters. -/
theorem foldlM_idxOf (cs : List Char) :
    cs.foldlM (fun n c => (base58Alphabet.idxOf? c).map (fun digit => n * 58 + digit)) 0 =
      (indices cs).map (number 58) :=
  ListOption.foldlM_map base58Alphabet.idxOf? (fun n digit => n * 58 + digit) cs 0

theorem lt_of_indices {cs : List Char} {ds : List Nat} (h : indices cs = some ds) :
    ∀ d ∈ ds, d < 58 := (indices_eq_some.1 h).1

/-- What is decoded is what encodes to the text. -/
theorem decodeCharacters_eq_some {cs : List Char} {bytes : List Nat} :
    decodeCharacters cs = some bytes ↔ (∀ b ∈ bytes, b < 256) ∧ encodeBase58 bytes = cs := by
  rw [decodeCharacters_eq, Option.map_eq_some_iff]
  constructor
  · rintro ⟨ds, hds, rfl⟩
    refine ⟨fun b hb => lt_of_mem_convert (by omega) hb, ?_⟩
    rw [encodeBase58_eq, convert_convert (by omega) (lt_of_indices hds)]
    exact (indices_eq_some.1 hds).2
  · rintro ⟨hbytes, rfl⟩
    refine ⟨convert 256 58 bytes, ?_, convert_convert (by omega) hbytes⟩
    rw [encodeBase58_eq, indices_eq_some]
    exact ⟨fun d hd => lt_of_mem_convert (by omega) hd, rfl⟩

theorem isBase58_encodeBase58 (bytes : List Nat) : isBase58 (encodeBase58 bytes) = true := by
  apply isBase58_iff.2
  refine ⟨convert 256 58 bytes, ?_⟩
  rw [encodeBase58_eq, indices_eq_some]
  exact ⟨fun d hd => lt_of_mem_convert (by omega) hd, rfl⟩

theorem length_encodeBase58 (bytes : List Nat) :
    (encodeBase58 bytes).length = (convert 256 58 bytes).length := by
  rw [encodeBase58_eq]
  exact length_symbols (fun d hd => lt_of_mem_convert (by omega) hd)

theorem length_le_encodeBase58 {bytes : List Nat} (h : ∀ b ∈ bytes, b < 256) :
    bytes.length ≤ (encodeBase58 bytes).length := by
  rw [length_encodeBase58]
  exact length_convert_ge (by omega) (by omega) h

/-- Keys of 32 bytes are texts of 32 to 44 characters. -/
theorem length_encodeBase58_le {bytes : List Nat} (h : ∀ b ∈ bytes, b < 256)
    (hlength : bytes.length = 32) : (encodeBase58 bytes).length ≤ 44 := by
  have hpow : ∀ k ≤ 32, 256 ^ k ≤ 58 ^ (k + 12) := by decide
  rw [length_encodeBase58]
  rw [← hlength] at hpow
  have hle := length_convert_le 12 (by omega) (by omega) h hpow
  omega

theorem encodeBase58_inj {x y : List Nat} (hx : ∀ b ∈ x, b < 256) (hy : ∀ b ∈ y, b < 256)
    (h : encodeBase58 x = encodeBase58 y) : x = y := by
  have hdx := decodeCharacters_eq_some.2 ⟨hx, rfl⟩
  rw [h, decodeCharacters_eq_some.2 ⟨hy, rfl⟩] at hdx
  exact (Option.some.inj hdx).symm

theorem decodeBase58_eq_some {pattern : List Char → Bool} {cs : List Char} {bytes : List Nat} :
    decodeBase58 pattern cs = some bytes ↔
      pattern cs = true ∧ (∀ b ∈ bytes, b < 256) ∧ encodeBase58 bytes = cs := by
  rw [decodeBase58, Option.ite_none_right_eq_some, decodeCharacters_eq_some]

end Conversion

end CryptoLending.Wallets.Base58
