import CryptoLending.MainnetActions.SolanaSignedTransaction

namespace CryptoLending.MainnetActions.SolanaWireFormat

open Lib Lib.Wire SolanaPublicKey SolanaSignedTransaction

section Lengths

theorem ofNat_toNat (b : UInt8) : UInt8.ofNat b.toNat = b := UInt8.ofNat_toNat

theorem reads_byte : Reads byte (fun n => n < 256) (fun n => [UInt8.ofNat n]) := by
  intro bytes n rest
  simp only [byte, bind_ok, pure_ok, reads_take _ _ _ _ _, id]
  constructor
  · rintro ⟨read, mid, ⟨hlength, rfl⟩, rfl, rfl⟩
    obtain ⟨b, rfl⟩ := List.length_eq_one_iff.mp hlength
    exact ⟨b.toNat_lt, by rw [List.headD_cons, ofNat_toNat]⟩
  · rintro ⟨hn, rfl⟩
    refine ⟨_, _, ⟨rfl, rfl⟩, ?_, rfl⟩
    rw [List.headD_cons, UInt8.toNat_ofNat_of_lt' hn]

/-- One byte of a length: the last one, or one that more bytes follow. -/
theorem shortVectorLengthFrom_ok {left index value n : Nat} {bytes rest : List UInt8} :
    shortVectorLengthFrom (left + 1) index value bytes = .ok (n, rest) ↔
      ∃ next mid, next < 256 ∧ bytes = UInt8.ofNat next :: mid ∧
        ¬((index = 2 ∧ next > 3) ∨ (index > 0 ∧ next % 128 = 0 ∧ next < 0x80)) ∧
        if next < 0x80 then value + next % 128 * 2 ^ (index * 7) = n ∧ mid = rest
        else shortVectorLengthFrom left (index + 1) (value + next % 128 * 2 ^ (index * 7)) mid =
          .ok (n, rest) := by
  have hpayload : ∀ next : Nat, next &&& 0x7f = next % 128 := fun next =>
    Nat.and_two_pow_sub_one_eq_mod next 7
  simp only [shortVectorLengthFrom, bind_ok, rejectWhen_ok, reads_byte _ _ _, hpayload,
    List.cons_append, List.nil_append]
  constructor
  · rintro ⟨next, mid, ⟨hnext, rfl⟩, _, _, ⟨hcanonical, rfl⟩, hrest⟩
    refine ⟨next, mid, hnext, rfl, hcanonical, ?_⟩
    by_cases hlast : next < 0x80
    · rw [if_pos hlast] at hrest ⊢
      exact pure_ok.mp hrest
    · rw [if_neg hlast] at hrest ⊢
      exact hrest
  · rintro ⟨next, mid, hnext, rfl, hcanonical, hrest⟩
    refine ⟨next, mid, ⟨hnext, rfl⟩, (), mid, ⟨hcanonical, rfl⟩, ?_⟩
    by_cases hlast : next < 0x80
    · rw [if_pos hlast] at hrest ⊢
      exact pure_ok.mpr hrest
    · rw [if_neg hlast] at hrest ⊢
      exact hrest

theorem shortVectorLengthFrom_zero {index value n : Nat} {bytes rest : List UInt8} :
    ¬ shortVectorLengthFrom 0 index value bytes = .ok (n, rest) := fun h => reject_ok.mp h

/-- Lengths are read exactly from their canonical bytes. -/
theorem reads_shortVectorLength : Reads shortVectorLength (fun n => n < 65536) compactU16 := by
  intro bytes n rest
  rw [shortVectorLength]
  constructor
  · intro h
    obtain ⟨b₀, mid, hb₀, rfl, -, h⟩ := shortVectorLengthFrom_ok.1 h
    by_cases hlast₀ : b₀ < 0x80
    · rw [if_pos hlast₀] at h
      obtain ⟨hn, rfl⟩ := h
      have hn' : n = b₀ := by omega
      rw [compactU16, if_pos (by omega), hn']
      exact ⟨by omega, rfl⟩
    rw [if_neg hlast₀] at h
    obtain ⟨b₁, mid, hb₁, rfl, hcanonical₁, h⟩ := shortVectorLengthFrom_ok.1 h
    by_cases hlast₁ : b₁ < 0x80
    · rw [if_pos hlast₁] at h
      obtain ⟨hn, rfl⟩ := h
      have hlow : n % 0x80 + 0x80 = b₀ := by omega
      have hhigh : n / 0x80 = b₁ := by omega
      rw [compactU16, if_neg (by omega), if_pos (by omega), hlow, hhigh]
      exact ⟨by omega, rfl⟩
    rw [if_neg hlast₁] at h
    obtain ⟨b₂, mid, hb₂, rfl, hcanonical₂, h⟩ := shortVectorLengthFrom_ok.1 h
    by_cases hlast₂ : b₂ < 0x80
    · rw [if_pos hlast₂] at h
      obtain ⟨hn, rfl⟩ := h
      have hlow : n % 0x80 + 0x80 = b₀ := by omega
      have hmiddle : n / 0x80 % 0x80 + 0x80 = b₁ := by omega
      have hhigh : n / 0x4000 = b₂ := by omega
      rw [compactU16, if_neg (by omega), if_neg (by omega), hlow, hmiddle, hhigh]
      exact ⟨by omega, rfl⟩
    · rw [if_neg hlast₂] at h
      exact absurd h shortVectorLengthFrom_zero
  · rintro ⟨hn, rfl⟩
    rw [compactU16]
    by_cases hone : n < 0x80
    · rw [if_pos hone]
      refine shortVectorLengthFrom_ok.2 ⟨n, rest, by omega, rfl, by omega, ?_⟩
      rw [if_pos hone]
      exact ⟨by omega, rfl⟩
    rw [if_neg hone]
    by_cases htwo : n < 0x4000
    · rw [if_pos htwo]
      refine shortVectorLengthFrom_ok.2 ⟨_, _, by omega, rfl, by omega, ?_⟩
      rw [if_neg (by omega)]
      refine shortVectorLengthFrom_ok.2 ⟨_, _, by omega, rfl, by omega, ?_⟩
      rw [if_pos (by omega)]
      exact ⟨by omega, rfl⟩
    rw [if_neg htwo]
    refine shortVectorLengthFrom_ok.2 ⟨_, _, by omega, rfl, by omega, ?_⟩
    rw [if_neg (by omega)]
    refine shortVectorLengthFrom_ok.2 ⟨_, _, by omega, rfl, by omega, ?_⟩
    rw [if_neg (by omega)]
    refine shortVectorLengthFrom_ok.2 ⟨_, _, by omega, rfl, by omega, ?_⟩
    rw [if_pos (by omega)]
    exact ⟨by omega, rfl⟩

example : shortVectorLength [0x80, 0x01, 0x07] = .ok (128, [0x07]) := rfl

example : shortVectorLength [0x80, 0x00] = .error .invalidSolanaSignedTransaction := rfl

end Lengths

section Parts

theorem reads_shortVector :
    Reads shortVector (fun bytes => bytes.length < 65536) serializeVector := by
  intro bytes data rest
  simp only [shortVector, bind_ok, reads_shortVectorLength _ _ _, reads_take _ _ _ _ _, id]
  constructor
  · rintro ⟨n, mid, ⟨hn, rfl⟩, rfl, rfl⟩
    rw [serializeVector, List.append_assoc]
    exact ⟨hn, rfl⟩
  · rintro ⟨hn, rfl⟩
    rw [serializeVector, List.append_assoc]
    exact ⟨_, _, ⟨hn, rfl⟩, rfl, rfl⟩

theorem toNat_ofNat_map {ns : List Nat} (h : ∀ n ∈ ns, n < 256) :
    (ns.map UInt8.ofNat).map UInt8.toNat = ns := by
  rw [List.map_map]
  exact (List.map_congr_left fun n hn => UInt8.toNat_ofNat_of_lt' (h n hn)).trans (List.map_id ns)

theorem ofNat_toNat_map (bytes : List UInt8) : (bytes.map UInt8.toNat).map UInt8.ofNat = bytes := by
  rw [List.map_map]
  exact (List.map_congr_left fun b _ => ofNat_toNat b).trans (List.map_id bytes)

/-- What the reader alone demands of an instruction. -/
def Fits (instruction : CompiledInstruction) : Prop :=
  instruction.programIdIndex < 256 ∧ instruction.accountKeyIndexes.length < 65536 ∧
    (∀ index ∈ instruction.accountKeyIndexes, index < 256) ∧ instruction.data.length < 65536

theorem reads_compiledInstruction : Reads compiledInstruction Fits serializeInstruction := by
  intro bytes instruction rest
  simp only [compiledInstruction, bind_ok, pure_ok, reads_byte _ _ _, reads_shortVector _ _ _]
  constructor
  · rintro ⟨program, _, ⟨hprogram, rfl⟩, indexes, _, ⟨hindexes, rfl⟩, data, _, ⟨hdata, rfl⟩, rfl, rfl⟩
    refine ⟨⟨hprogram, by rwa [List.length_map], ?_, hdata⟩, ?_⟩
    · intro index hindex
      obtain ⟨b, -, rfl⟩ := List.mem_map.mp hindex
      exact b.toNat_lt
    · simp only [serializeInstruction, ofNat_toNat_map, List.cons_append, List.nil_append,
        List.append_assoc]
  · rintro ⟨⟨hprogram, hindexes, hlt, hdata⟩, rfl⟩
    refine ⟨_, _, ⟨hprogram, rfl⟩, instruction.accountKeyIndexes.map UInt8.ofNat, _,
      ⟨by rwa [List.length_map], List.append_assoc _ _ _⟩, _, _, ⟨hdata, rfl⟩, ?_, rfl⟩
    rw [toNat_ofNat_map hlt]

theorem serializeInstruction_ne_nil (instruction : CompiledInstruction) :
    serializeInstruction instruction ≠ [] := List.cons_ne_nil _ _

theorem length_le_flatMap {α β : Type} {f : α → List β} (h : ∀ a, f a ≠ []) (l : List α) :
    l.length ≤ (l.flatMap f).length := by
  induction l with
  | nil => exact Nat.zero_le _
  | cons a l ih =>
    have ha := List.length_pos_iff.mpr (h a)
    rw [List.flatMap_cons, List.length_append, List.length_cons]
    omega

theorem reads_addressTables (version : MessageVersion) :
    Reads (addressTables version) (fun _ => True) (fun _ => serializeTables version) := by
  intro bytes u rest
  cases version with
  | legacy =>
    rw [addressTables, pure_ok, serializeTables]
    exact ⟨fun h => ⟨trivial, h.2⟩, fun h => ⟨rfl, h.2⟩⟩
  | v0 =>
    simp only [addressTables, bind_ok, rejectWhen_ok, reads_shortVectorLength _ _ _, not_not]
    constructor
    · rintro ⟨_, _, ⟨_, rfl⟩, rfl, rfl⟩
      exact ⟨trivial, rfl⟩
    · rintro ⟨-, rfl⟩
      exact ⟨0, rest, ⟨by omega, rfl⟩, rfl, rfl⟩

theorem blockhashBytes_blockhashText (blockhash : List UInt8) :
    blockhashBytes (blockhashText blockhash) = blockhash := by
  have hlt : ∀ b ∈ blockhash.map UInt8.toNat, b < 256 := by
    intro n hn
    obtain ⟨b, -, rfl⟩ := List.mem_map.mp hn
    exact b.toNat_lt
  have hdecode := Wallets.Base58.decodeCharacters_eq_some.mpr ⟨hlt, rfl⟩
  rw [blockhashBytes, blockhashText, String.toList_ofList, encodeSolanaBase58_eq, hdecode,
    Option.getD_some, ofNat_toNat_map]

/-- The keys that are not writable are the last ones, as many as the header says. -/
theorem countP_not_writable (keyCount readonly : Nat) (h : readonly ≤ keyCount) :
    (List.range keyCount).countP (fun index => !decide (index < keyCount - readonly)) =
      readonly := by
  obtain ⟨writable, rfl⟩ := Nat.exists_eq_add_of_le' h
  rw [List.range_add, List.countP_append, Nat.add_sub_cancel, List.countP_eq_zero.mpr,
    List.countP_eq_length.mpr, List.length_map, List.length_range, Nat.zero_add]
  · intro index hindex
    obtain ⟨offset, -, rfl⟩ := List.mem_map.mp hindex
    rw [Bool.not_eq_true', decide_eq_false_iff_not]
    omega
  · intro index hindex
    have hlt := List.mem_range.mp hindex
    rw [Bool.not_eq_true', decide_eq_false_iff_not, not_not]
    exact hlt

theorem isOutside_eq_false {keyCount : Nat} {instruction : CompiledInstruction} :
    instruction.isOutside keyCount = false ↔
      0 < instruction.programIdIndex ∧ instruction.programIdIndex < keyCount ∧
        ∀ index ∈ instruction.accountKeyIndexes, index < keyCount := by
  simp only [CompiledInstruction.isOutside, Bool.or_eq_false_iff, beq_eq_false_iff_ne, ge_iff_le,
    decide_eq_false_iff_not, List.any_eq_false, decide_eq_true_eq, not_le, and_assoc,
    Nat.pos_iff_ne_zero]

theorem wellFormed_iff {keyCount : Nat} (hcount : keyCount ≤ 256)
    {instruction : CompiledInstruction} :
    instruction.WellFormed keyCount ↔ Fits instruction ∧ instruction.isOutside keyCount = false := by
  rw [isOutside_eq_false]
  constructor
  · intro h
    exact ⟨⟨lt_of_lt_of_le h.program.2 hcount, h.accountCount,
      fun index hindex => lt_of_lt_of_le (h.accounts index hindex) hcount, h.dataLength⟩,
      h.program.1, h.program.2, h.accounts⟩
  · rintro ⟨⟨-, haccounts, -, hdata⟩, hpositive, hprogram, hindexes⟩
    exact ⟨⟨hpositive, hprogram⟩, haccounts, hindexes, hdata⟩

end Parts

section Envelope

theorem reads_messageHeader : Reads messageHeader (fun header => header.2 < 256)
    (fun header => serializeVersion header.1 ++ [1, 0, UInt8.ofNat header.2]) := by
  intro bytes header rest
  simp only [messageHeader, bind_ok, pure_ok, rejectWhen_ok, reads_byte _ _ _, not_or, not_not]
  constructor
  · rintro ⟨versionByte, _, ⟨-, rfl⟩, -, _, ⟨-, rfl⟩, required, _, hrequired, signed, _, ⟨-, rfl⟩,
      unsigned, _, ⟨hunsigned, rfl⟩, -, _, ⟨⟨rfl, rfl⟩, rfl⟩, rfl, rfl⟩
    refine ⟨hunsigned, ?_⟩
    rw [requiredSignatures] at hrequired
    by_cases hversion : versionByte = 0x80
    · rw [if_pos hversion, reads_byte _ _ _] at hrequired
      obtain ⟨-, rfl⟩ := hrequired
      rw [if_pos hversion, hversion]
      rfl
    · rw [if_neg hversion, pure_ok] at hrequired
      obtain ⟨rfl, rfl⟩ := hrequired
      rw [if_neg hversion]
      rfl
  · rintro ⟨hunsigned, rfl⟩
    obtain ⟨version, unsigned⟩ := header
    cases version with
    | legacy =>
      exact ⟨1, _, ⟨by omega, rfl⟩, (), _, ⟨by omega, rfl⟩, 1, _, rfl, 0, _, ⟨by omega, rfl⟩,
        unsigned, _, ⟨hunsigned, rfl⟩, (), _, ⟨⟨rfl, rfl⟩, rfl⟩, rfl, rfl⟩
    | v0 =>
      exact ⟨0x80, _, ⟨by omega, rfl⟩, (), _, ⟨by omega, rfl⟩, 1, _,
        (reads_byte _ _ _).mpr ⟨by omega, rfl⟩, 0, _, ⟨by omega, rfl⟩, unsigned, _,
        ⟨hunsigned, rfl⟩, (), _, ⟨⟨rfl, rfl⟩, rfl⟩, rfl, rfl⟩

/-- The count of instructions never exceeds the bytes that hold them. -/
theorem reads_compiledInstructions : Reads compiledInstructions
    (fun instructions => instructions.length < 65536 ∧ ∀ i ∈ instructions, Fits i)
    (fun instructions =>
      compactU16 instructions.length ++ instructions.flatMap serializeInstruction) := by
  intro bytes instructions rest
  simp only [compiledInstructions, bind_ok, rejectWhen_ok, unread_ok, reads_shortVectorLength _ _ _,
    reads_compiledInstruction.times _ _ _ _]
  constructor
  · rintro ⟨count, _, ⟨hcount, rfl⟩, remaining, _, ⟨rfl, rfl⟩, -, _, ⟨-, rfl⟩, ⟨⟨rfl, hall⟩, rfl⟩⟩
    exact ⟨⟨hcount, hall⟩, (List.append_assoc _ _ _).symm⟩
  · rintro ⟨⟨hcount, hall⟩, rfl⟩
    have hlength := length_le_flatMap serializeInstruction_ne_nil instructions
    refine ⟨_, _, ⟨hcount, List.append_assoc _ _ _⟩, _, _, ⟨rfl, rfl⟩, (), _, ⟨?_, rfl⟩,
      ⟨rfl, hall⟩, rfl⟩
    rw [List.length_append]
    omega

/-- The envelope of a header, keys, a block hash and instructions. -/
def envelopeOf (signature message : List UInt8) (header : MessageVersion × Nat)
    (keys : List (List UInt8)) (blockhash : List UInt8)
    (instructions : List CompiledInstruction) : ParsedSolanaEnvelope where
  version := header.1
  signature := signature
  messageBytes := message
  staticAccountKeys := keys
  recentBlockhash := blockhashText blockhash
  compiledInstructions := instructions
  isAccountSigner := fun index => index == 0
  isAccountWritable := fun index => index < keys.length - header.2

section EnvelopeOf

variable {signature message blockhash : List UInt8} {header : MessageVersion × Nat}
  {keys : List (List UInt8)} {instructions : List CompiledInstruction}

theorem serializeMessage_envelopeOf (h : header.2 < keys.length) :
    (envelopeOf signature message header keys blockhash instructions).serializeMessage =
      serializeVersion header.1 ++ [1, 0, UInt8.ofNat header.2] ++ (compactU16 keys.length ++
        (keys.flatMap id ++ (blockhash ++ (compactU16 instructions.length ++
          instructions.flatMap serializeInstruction ++ (serializeTables header.1 ++ []))))) := by
  have hreadonly := countP_not_writable keys.length header.2 h.le
  have hcount : (envelopeOf signature message header keys blockhash
      instructions).readonlyUnsignedAccounts = header.2 := hreadonly
  rw [ParsedSolanaEnvelope.serializeMessage, hcount]
  simp only [envelopeOf, blockhashBytes_blockhashText, List.append_assoc, List.append_nil,
    List.flatMap_id]

theorem wellFormed_envelopeOf (hsignature : signature.length = 64)
    (hcount : 1 ≤ keys.length ∧ keys.length ≤ 256) (hkeys : ∀ key ∈ keys, key.length = 32)
    (hblockhash : blockhash.length = 32) (hinstructionCount : instructions.length < 65536)
    (hinstructions : ∀ i ∈ instructions, i.WellFormed keys.length) (hbyte : header.2 < 256)
    (hreadonly : header.2 < keys.length) (hmessage : message =
      (envelopeOf signature message header keys blockhash instructions).serializeMessage) :
    (envelopeOf signature message header keys blockhash instructions).WellFormed where
  signature := hsignature
  keyCount := hcount
  keys := hkeys
  blockhash := ⟨blockhash, hblockhash, rfl⟩
  instructionCount := hinstructionCount
  instructions := hinstructions
  signer := rfl
  writable := ⟨header.2, hbyte, hreadonly, rfl⟩
  message := hmessage

end EnvelopeOf

/-- A well-formed envelope is put together from its parts. -/
theorem exists_envelopeOf {e : ParsedSolanaEnvelope} (h : e.WellFormed) :
    ∃ signature message version readonly keys blockhash instructions, readonly < 256 ∧
      readonly < keys.length ∧ blockhash.length = 32 ∧
      e = envelopeOf signature message (version, readonly) keys blockhash instructions := by
  obtain ⟨blockhash, hblockhash, htext⟩ := h.blockhash
  obtain ⟨readonly, hbyte, hlt, hwritable⟩ := h.writable
  have hsigner := h.signer
  obtain ⟨version, signature, message, keys, text, instructions, signer, writable⟩ := e
  refine ⟨signature, message, version, readonly, keys, blockhash, instructions, hbyte, hlt,
    hblockhash, ?_⟩
  simp only at htext hwritable hsigner
  rw [envelopeOf, htext, hwritable, hsigner]

theorem envelope_ok {bytes rest : List UInt8} {e : ParsedSolanaEnvelope} :
    envelope bytes = .ok (e, rest) ↔ e.WellFormed ∧ rest = [] ∧ bytes = e.serialize := by
  simp only [envelope, bind_ok, pure_ok, rejectWhen_ok, unread_ok, reads_shortVectorLength _ _ _,
    reads_take _ _ _ _ _, reads_messageHeader _ _ _, (reads_take _ _).times _ _ _ _,
    reads_compiledInstructions _ _ _, reads_addressTables _ _ _ _, id, not_or, not_not]
  constructor
  · rintro ⟨_, _, ⟨-, rfl⟩, -, _, ⟨rfl, rfl⟩, signature, _, ⟨hsignature, rfl⟩, message, _,
      ⟨rfl, rfl⟩, header, _, ⟨hreadonly, hmessage⟩, keyCount, _, ⟨-, rfl⟩, -, _,
      ⟨⟨hpositive, hmaximum, hlast⟩, rfl⟩, keys, _, ⟨⟨rfl, hkeys⟩, rfl⟩, blockhash, _,
      ⟨hblockhash, rfl⟩, instructions, _, ⟨⟨hinstructionCount, hfits⟩, rfl⟩, -, _, ⟨-, rfl⟩,
      remaining, _, ⟨rfl, rfl⟩, -, _, ⟨rfl, rfl⟩, -, _, ⟨hinside, rfl⟩, rfl, rfl⟩
    have hlt : header.2 < keys.length := by omega
    have hserialize : message =
        (envelopeOf signature message header keys blockhash instructions).serializeMessage := by
      rw [serializeMessage_envelopeOf hlt]
      exact hmessage
    have hinstructions : ∀ i ∈ instructions, i.WellFormed keys.length := by
      intro i hi
      apply (wellFormed_iff (by omega)).mpr
      refine ⟨hfits i hi, Bool.eq_false_iff.mpr fun houtside => hinside ?_⟩
      exact List.any_eq_true.mpr ⟨i, hi, houtside⟩
    refine ⟨wellFormed_envelopeOf hsignature (by omega) hkeys hblockhash hinstructionCount
      hinstructions hreadonly hlt hserialize, rfl, ?_⟩
    rw [ParsedSolanaEnvelope.serialize, ← List.append_assoc]
    exact congrArg _ hserialize
  · rintro ⟨hwell, rfl, rfl⟩
    obtain ⟨signature, message, version, readonly, keys, blockhash, instructions, hbyte, hlt,
      hblockhash, rfl⟩ := exists_envelopeOf hwell
    have hcount : 1 ≤ keys.length ∧ keys.length ≤ 256 := hwell.keyCount
    have hinstructions := fun i hi => (wellFormed_iff hcount.2).mp (hwell.instructions i hi)
    have hmessage := hwell.message
    have hserialize : (envelopeOf signature message (version, readonly) keys blockhash
        instructions).serializeMessage = _ := serializeMessage_envelopeOf hlt
    refine ⟨1, _, ⟨by omega, List.append_assoc _ _ _⟩, (), _, ⟨rfl, rfl⟩, signature, _,
      ⟨hwell.signature, rfl⟩, message, message, ⟨hmessage, hmessage.symm⟩,
      (version, readonly), _, ⟨hbyte, hmessage.trans hserialize⟩, keys.length, _, ⟨by omega, rfl⟩, (), _, ⟨⟨by omega, by omega, by omega⟩, rfl⟩, keys, _,
      ⟨⟨rfl, hwell.keys⟩, rfl⟩, blockhash, _, ⟨hblockhash, rfl⟩, instructions, _,
      ⟨⟨hwell.instructionCount, fun i hi => (hinstructions i hi).1⟩, rfl⟩, (), _, ⟨trivial, rfl⟩,
      [], _, ⟨rfl, rfl⟩, (), _, ⟨rfl, rfl⟩, (), _, ⟨?_, rfl⟩, rfl, rfl⟩
    rw [List.any_eq_true]
    rintro ⟨i, hi, houtside⟩
    exact Bool.false_ne_true ((hinstructions i hi).2.symm.trans houtside)

/-- The parser accepts exactly the texts of well-formed envelopes, each for one envelope. -/
theorem parseSignedEnvelope_ok {bytes : List UInt8} {e : ParsedSolanaEnvelope} :
    parseSignedEnvelope bytes = .ok e ↔ e.WellFormed ∧ bytes = e.serialize := by
  rw [parseSignedEnvelope, except_bind_ok]
  constructor
  · rintro ⟨⟨parsed, rest⟩, henvelope, hparsed⟩
    obtain rfl := Except.ok.inj hparsed
    obtain ⟨hwell, -, hbytes⟩ := envelope_ok.1 henvelope
    exact ⟨hwell, hbytes⟩
  · rintro ⟨hwell, hbytes⟩
    exact ⟨(e, []), envelope_ok.2 ⟨hwell, rfl, hbytes⟩, rfl⟩

/-- Parsing and serializing are inverse, on lengths and on whole envelopes. -/
theorem solana_wire_format (bytes rest : List UInt8) (n : Nat) (e : ParsedSolanaEnvelope) :
    (shortVectorLength bytes = .ok (n, rest) ↔ n ≤ 65535 ∧ compactU16 n ++ rest = bytes) ∧
    (parseSignedEnvelope bytes = .ok e ↔ e.WellFormed ∧ e.serialize = bytes) ∧
    ¬ ∃ other, other ≠ bytes ∧ parseSignedEnvelope other = .ok e ∧
      parseSignedEnvelope bytes = .ok e := by
  refine ⟨?_, ?_, ?_⟩
  · rw [reads_shortVectorLength _ _ _, eq_comm (a := bytes)]
    exact and_congr_left fun _ => Nat.lt_succ_iff
  · rw [parseSignedEnvelope_ok, eq_comm (a := bytes)]
  · rintro ⟨other, hne, hother, hbytes⟩
    have hserialize := (parseSignedEnvelope_ok.1 hother).2
    exact hne (hserialize.trans (parseSignedEnvelope_ok.1 hbytes).2.symm)

end Envelope

end CryptoLending.MainnetActions.SolanaWireFormat
