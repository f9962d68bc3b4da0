import CryptoLending.Lib.Wire
import CryptoLending.Lib.Numeral
import CryptoLending.MainnetActions.WriteManifestMatch

namespace CryptoLending.MainnetActions.WriteManifestReading

open Lib Lib.Bytes Lib.Hex Lib.Identifier Lib.JsValue Lib.Layout Lib.Numeral Lib.Text Intent
  WriteManifest WriteManifestMatch
open SolanaPublicKey (decodeCanonicalSolanaPublicKey decodeCanonicalSolanaPublicKey_ok)
open Wallets.Base58 (encodeBase58)

section Readers

/-- What an argument says about an intent: a field with its text. -/
abbrev Reading := List (IntentField × String)

def decimalText (n : Nat) : String := String.ofList (Nat.toDigits 10 n)

def prefixedText (ds : List Char) : String := String.ofList ('0' :: 'x' :: ds)

def readArgument : EthereumWriteManifestArgument → List Char → Reading
  | .address source, word => [(addressField source, prefixedText (word.drop 24))]
  | .uint _ source, word => [(unsignedIntegerField source, decimalText (hexNumber word))]
  | .bytes32MarketId, word => [(.marketId, prefixedText word)]
  | _, _ => []

/-- The fields behind the words of a call, after `0x` and the selector. -/
def readCalldata (arguments : List EthereumWriteManifestArgument) (calldata : String) : Reading :=
  (readAll (fun _ => 64) readArgument arguments (calldata.toList.drop 10)).flatten

def littleEndianNumber (bytes : List UInt8) : Nat :=
  bytes.foldr (fun b n => b.toNat + 256 * n) 0

def segmentLength : SolanaWriteManifestDataSegment → Nat
  | .staticHex value => value.text.toList.length / 2
  | .u64Static _ | .u64 _ => 8
  | .publicKeyStatic _ | .publicKey _ => 32

def readSegment : SolanaWriteManifestDataSegment → List UInt8 → Reading
  | .u64 source, bytes => [(unsignedIntegerField source, decimalText (littleEndianNumber bytes))]
  | .publicKey source, bytes =>
    [(addressField source, String.ofList (encodeBase58 (bytes.map UInt8.toNat)))]
  | _, _ => []

def readAccount (expected : SolanaWriteManifestAccount)
    (actual : VerifiedSolanaInstructionAccount) : Reading :=
  match expected.source with
  | .static _ => []
  | .intent source => [(addressField source, actual.address)]

def readInstruction (expected : SolanaWriteManifestInstruction)
    (actual : VerifiedSolanaInstruction) : Reading :=
  (List.zipWith readAccount expected.accounts actual.accounts).flatten ++
    (readAll segmentLength readSegment expected.data (hexBytes actual.dataHex.toList)).flatten

/-- What a command asks for. -/
inductive Payload where
  | calldata (calldata : String)
  | instructions (instructions : List VerifiedSolanaInstruction)

def commandPayload : VerifiedSignedCommand → Payload
  | .ethereum command => .calldata command.calldata
  | .solana command => .instructions command.instructions

/-- The fields of the intent behind a payload, read by the manifest alone. -/
def readPayload : MainnetFinancialActionWriteManifest → Payload → Reading
  | .ethereum manifest, .calldata calldata => readCalldata manifest.arguments calldata
  | .solana manifest, .instructions instructions =>
    (List.zipWith readInstruction manifest.instructions instructions).flatten
  | _, _ => []

end Readers

section References

def argumentReferences : EthereumWriteManifestArgument → List IntentField
  | .address source => [addressField source]
  | .uint _ source => [unsignedIntegerField source]
  | .bytes32MarketId => [.marketId]
  | _ => []

def segmentReferences : SolanaWriteManifestDataSegment → List IntentField
  | .u64 source => [unsignedIntegerField source]
  | .publicKey source => [addressField source]
  | _ => []

def accountReferences (account : SolanaWriteManifestAccount) : List IntentField :=
  match account.source with
  | .static _ => []
  | .intent source => [addressField source]

def instructionReferences (instruction : SolanaWriteManifestInstruction) : List IntentField :=
  instruction.accounts.flatMap accountReferences ++ instruction.data.flatMap segmentReferences

/-- The fields that a manifest refers to, in its order. -/
def references : MainnetFinancialActionWriteManifest → List IntentField
  | .ethereum manifest => manifest.arguments.flatMap argumentReferences
  | .solana manifest => manifest.instructions.flatMap instructionReferences

/-- Fields with their texts in an intent. -/
def readingOf (intent : DormantMainnetFinancialActionIntent) (fields : List IntentField) :
    Reading := fields.map (fun field => (field, intentField intent field))

end References

section Words

variable {intent : DormantMainnetFinancialActionIntent}

theorem canonicalUnsignedInteger_ok {bits : Nat} {value : String} {n : Nat} :
    canonicalUnsignedInteger bits value = .ok n ↔
      isCanonicalUint value.toList = true ∧ decimalValue value.toList < 2 ^ bits ∧
        decimalValue value.toList = n := by
  rw [canonicalUnsignedInteger, ← and_assoc, ← decide_eq_true_iff (p := _ < _), ← Bool.and_eq_true,
    ← fitsBits]
  by_cases h : fitsBits bits value.toList = true
  · rw [if_pos h, Except.ok.injEq, and_iff_right h]
  · rw [if_neg h]
    exact ⟨fun herror => (by cases herror), fun hfits => absurd hfits.1 h⟩

theorem decimalText_decimalValue {s : String} (h : isCanonicalUint s.toList = true) :
    decimalText (decimalValue s.toList) = s := by
  rw [decimalText, toDigits_decimalValue h, String.ofList_toList]

theorem isPrefixedHex_iff {count : Nat} {cs : List Char} : isPrefixedHex count cs = true ↔
    ∃ ds, cs = '0' :: 'x' :: ds ∧ ds.length = count ∧ ds.all isLowerHex = true := by
  rw [isPrefixedHex, Option.any_eq_true]
  constructor
  · rintro ⟨ds, hds, h⟩
    rw [Bool.and_eq_true, beq_iff_eq] at h
    rw [hexDigits?.eq_def] at hds
    split at hds
    · obtain rfl := Option.some.inj hds
      exact ⟨_, rfl, h⟩
    · cases hds
  · rintro ⟨ds, rfl, hlength, hall⟩
    exact ⟨ds, rfl, Bool.and_eq_true_iff.mpr ⟨beq_iff_eq.mpr hlength, hall⟩⟩

theorem addressWord_ok {value : String} {word : List Char} :
    addressWord value = .ok word ↔
      ∃ ds, value.toList = '0' :: 'x' :: ds ∧ ds.length = 40 ∧ ds.all isLowerHex = true ∧
        List.replicate 24 '0' ++ ds = word := by
  simp only [addressWord, except_bind_ok, failWhen_ok, except_pure_ok, Bool.not_eq_true',
    Bool.not_eq_false, isPrefixedHex_iff]
  constructor
  · rintro ⟨-, ⟨ds, hvalue, hlength, hall⟩, rfl⟩
    refine ⟨ds, hvalue, hlength, hall, ?_⟩
    rw [hvalue, List.drop_succ_cons, List.drop_succ_cons, List.drop_zero, List.leftpad, hlength]
  · rintro ⟨ds, hvalue, hlength, hall, rfl⟩
    refine ⟨(), ⟨ds, hvalue, hlength, hall⟩, ?_⟩
    rw [hvalue, List.drop_succ_cons, List.drop_succ_cons, List.drop_zero, List.leftpad, hlength]

theorem bytes32Word_ok {value : String} {word : List Char} :
    bytes32Word value = .ok word ↔
      value.toList = '0' :: 'x' :: word ∧ word.length = 64 ∧ word.all isLowerHex = true := by
  simp only [bytes32Word, except_bind_ok, failWhen_ok, except_pure_ok, Bool.not_eq_true',
    Bool.not_eq_false, isPrefixedHex_iff]
  constructor
  · rintro ⟨-, ⟨ds, hvalue, h⟩, rfl⟩
    rw [hvalue]
    exact ⟨rfl, h⟩
  · rintro ⟨hvalue, h⟩
    refine ⟨(), ⟨word, hvalue, h⟩, ?_⟩
    rw [hvalue]
    rfl

theorem uint256Word_ok {bits : Nat} {value : String} {word : List Char} :
    uint256Word bits value = .ok word ↔ isCanonicalUint value.toList = true ∧
      decimalValue value.toList < 2 ^ bits ∧ hexWord 64 (decimalValue value.toList) = word := by
  simp only [uint256Word, except_bind_ok, canonicalUnsignedInteger_ok, except_pure_ok]
  constructor
  · rintro ⟨_, ⟨hcanonical, hlt, rfl⟩, rfl⟩
    exact ⟨hcanonical, hlt, rfl⟩
  · rintro ⟨hcanonical, hlt, rfl⟩
    exact ⟨_, ⟨hcanonical, hlt, rfl⟩, rfl⟩

theorem bits_le (width : UintWidth) : width.bits ≤ 256 := by
  cases width <;> decide

theorem length_uint256Word {width : UintWidth} {value : String} {word : List Char}
    (h : uint256Word width.bits value = .ok word) : word.length = 64 := by
  obtain ⟨_, hlt, rfl⟩ := uint256Word_ok.1 h
  apply length_hexWord (by omega)
  calc decimalValue value.toList < 2 ^ width.bits := hlt
    _ ≤ 2 ^ 256 := Nat.pow_le_pow_right (by omega) (bits_le width)
    _ = 16 ^ 64 := by norm_num

theorem prefixedText_eq {value : String} {ds : List Char} (h : value.toList = '0' :: 'x' :: ds) :
    prefixedText ds = value := by
  rw [prefixedText, ← h, String.ofList_toList]

/-- A word has its length and is read as what it was made from. -/
theorem ethereumArgumentWord_reads {argument : EthereumWriteManifestArgument} {word : List Char}
    (h : ethereumArgumentWord intent argument = .ok word) :
    word.length = 64 ∧ readArgument argument word = readingOf intent (argumentReferences argument) := by
  cases argument with
  | addressStatic value =>
    obtain ⟨ds, _, hlength, _, rfl⟩ := addressWord_ok.1 h
    rw [List.length_append, List.length_replicate, hlength]
    exact ⟨rfl, rfl⟩
  | address source =>
    obtain ⟨ds, hvalue, hlength, _, rfl⟩ := addressWord_ok.1 h
    rw [List.length_append, List.length_replicate, hlength, readArgument]
    rw [List.drop_left' (List.length_replicate ..), prefixedText_eq hvalue]
    exact ⟨rfl, rfl⟩
  | uintStatic width value => exact ⟨length_uint256Word h, rfl⟩
  | uint width source =>
    have hlength := length_uint256Word h
    obtain ⟨hcanonical, _, rfl⟩ := uint256Word_ok.1 h
    rw [readArgument, hexNumber_hexWord, decimalText_decimalValue hcanonical]
    exact ⟨hlength, rfl⟩
  | bytes32Static value =>
    obtain ⟨_, hlength, _⟩ := bytes32Word_ok.1 h
    exact ⟨hlength, rfl⟩
  | bytes32MarketId =>
    obtain ⟨hvalue, hlength, _⟩ := bytes32Word_ok.1 h
    rw [readArgument, prefixedText_eq hvalue]
    exact ⟨hlength, rfl⟩
  | bool value =>
    obtain rfl := Except.ok.inj h
    rw [List.length_append, List.length_replicate]
    exact ⟨rfl, rfl⟩

end Words

section Calldata

variable {P : Platform} {intent : DormantMainnetFinancialActionIntent}

theorem length_selector (functionSignature : String) :
    (selector P functionSignature).length = 8 := by
  obtain ⟨ds, hds, hlength, _⟩ :=
    isPrefixedHex_iff.1 (P.keccak256 (utf8 functionSignature)).passes
  rw [selector, hds, List.drop_succ_cons, List.drop_succ_cons, List.drop_zero, List.length_take,
    hlength]
  rfl

theorem flatten_map_readingOf {σ : Type} (items : List σ) (refs : σ → List IntentField) :
    (items.map (fun item => readingOf intent (refs item))).flatten =
      readingOf intent (items.flatMap refs) := by
  rw [readingOf, List.map_flatMap, ← List.flatMap_def]
  rfl

/-- The calldata of a manifest is read as the fields that it refers to. -/
theorem expectedEthereumCalldata_reads {manifest : EthereumWriteManifest} {calldata : String}
    (h : expectedEthereumCalldata P manifest intent = .ok calldata) :
    readCalldata manifest.arguments calldata =
      readingOf intent (references (.ethereum manifest)) := by
  simp only [expectedEthereumCalldata, except_bind_ok, except_mapM_ok, except_pure_ok] at h
  obtain ⟨words, hwords, rfl⟩ := h
  have hpieces : List.Forall₂ (fun argument word => word.length = 64 ∧
      readArgument argument word = readingOf intent (argumentReferences argument))
      manifest.arguments words := hwords.imp fun _ _ hword => ethereumArgumentWord_reads hword
  have hdrop : ('0' :: 'x' :: (selector P manifest.functionSignature ++ words.flatten)).drop 10 =
      words.flatten := by
    rw [List.drop_succ_cons, List.drop_succ_cons, List.drop_left' (length_selector _)]
  rw [readCalldata, String.toList_ofList, hdrop, readAll_flatten hpieces, flatten_map_readingOf]
  rfl

end Calldata

section Data

variable {intent : DormantMainnetFinancialActionIntent}

theorem length_littleEndian (width n : Nat) : (littleEndian width n).length = width := by
  induction width generalizing n with
  | zero => rfl
  | succ width ih => rw [littleEndian, List.length_cons, ih]

theorem littleEndianNumber_littleEndian {width n : Nat} (h : n < 256 ^ width) :
    littleEndianNumber (littleEndian width n) = n := by
  induction width generalizing n with
  | zero =>
    rw [pow_zero] at h
    change 0 = n
    omega
  | succ width ih =>
    rw [pow_succ] at h
    have hrest := ih (n := n / 256) (by omega)
    rw [littleEndian, littleEndianNumber, List.foldr_cons, ← littleEndianNumber, hrest,
      toNat_ofNat_mod]
    omega

theorem littleEndianU64_ok {value : String} {bytes : List UInt8} :
    littleEndianU64 value = .ok bytes ↔ isCanonicalUint value.toList = true ∧
      decimalValue value.toList < 2 ^ 64 ∧ littleEndian 8 (decimalValue value.toList) = bytes := by
  simp only [littleEndianU64, except_bind_ok, canonicalUnsignedInteger_ok, except_pure_ok]
  constructor
  · rintro ⟨_, ⟨hcanonical, hlt, rfl⟩, rfl⟩
    exact ⟨hcanonical, hlt, rfl⟩
  · rintro ⟨hcanonical, hlt, rfl⟩
    exact ⟨_, ⟨hcanonical, hlt, rfl⟩, rfl⟩

theorem publicKeyBytes_ok {address : String} {bytes : List UInt8} :
    publicKeyBytes address = .ok bytes ↔ ∃ key, bytes = key.map UInt8.ofNat ∧
      encodeBase58 key = address.toList ∧ (∀ b ∈ key, b < 256) ∧ key.length = 32 := by
  simp only [publicKeyBytes, except_bind_ok, orFail_ok, toOption_eq_some, except_pure_ok,
    decodeCanonicalSolanaPublicKey_ok, Value.string.injEq]
  constructor
  · rintro ⟨key, ⟨_, rfl, hkey⟩, rfl⟩
    exact ⟨key, rfl, hkey⟩
  · rintro ⟨key, rfl, hkey⟩
    exact ⟨key, ⟨_, rfl, hkey⟩, rfl⟩

theorem map_toNat_map_ofNat {key : List Nat} (h : ∀ b ∈ key, b < 256) :
    (key.map UInt8.ofNat).map UInt8.toNat = key := by
  rw [List.map_map]
  conv_rhs => rw [← List.map_id key]
  apply List.map_congr_left
  intro b hb
  exact (toNat_ofNat_mod b).trans (Nat.mod_eq_of_lt (h b hb))

theorem length_hexBytes {cs : List Char} (h : cs.length % 2 = 0) :
    (hexBytes cs).length = cs.length / 2 := by
  induction cs using hexBytes.induct with
  | case1 c d cs ih =>
    rw [List.length_cons, List.length_cons] at h ⊢
    rw [hexBytes, List.length_cons, ih (by omega)]
    omega
  | case2 cs hshort =>
    cases cs with
    | nil => rfl
    | cons c cs =>
      cases cs with
      | nil => cases h
      | cons d cs => exact absurd rfl (hshort c d cs)

theorem length_littleEndianU64 {value : String} {bytes : List UInt8}
    (h : littleEndianU64 value = .ok bytes) : bytes.length = 8 := by
  obtain ⟨_, _, rfl⟩ := littleEndianU64_ok.1 h
  exact length_littleEndian 8 _

theorem length_publicKeyBytes {address : String} {bytes : List UInt8}
    (h : publicKeyBytes address = .ok bytes) : bytes.length = 32 := by
  obtain ⟨key, rfl, _, _, hlength⟩ := publicKeyBytes_ok.1 h
  rw [List.length_map, hlength]

/-- A segment has its length and is read as what it was made from. -/
theorem solanaDataChunk_reads {segment : SolanaWriteManifestDataSegment} {bytes : List UInt8}
    (h : solanaDataChunk intent segment = .ok bytes) :
    bytes.length = segmentLength segment ∧
      readSegment segment bytes = readingOf intent (segmentReferences segment) := by
  cases segment with
  | staticHex value =>
    obtain rfl := Except.ok.inj h
    obtain ⟨_, heven⟩ := Bool.and_eq_true_iff.mp value.passes
    exact ⟨length_hexBytes (beq_iff_eq.mp heven), rfl⟩
  | u64Static value => exact ⟨length_littleEndianU64 h, rfl⟩
  | u64 source =>
    have hlength := length_littleEndianU64 h
    obtain ⟨hcanonical, hlt, rfl⟩ := littleEndianU64_ok.1 h
    have hfits : decimalValue (unsignedIntegerFromIntent intent source).toList < 256 ^ 8 :=
      lt_of_lt_of_eq hlt (by norm_num)
    rw [readSegment, littleEndianNumber_littleEndian hfits, decimalText_decimalValue hcanonical]
    exact ⟨hlength, rfl⟩
  | publicKeyStatic value => exact ⟨length_publicKeyBytes h, rfl⟩
  | publicKey source =>
    have hlength := length_publicKeyBytes h
    obtain ⟨key, rfl, hkey, hbytes, _⟩ := publicKeyBytes_ok.1 h
    rw [readSegment, map_toNat_map_ofNat hbytes, hkey, String.ofList_toList]
    exact ⟨hlength, rfl⟩

theorem expectedSolanaData_reads {segments : List SolanaWriteManifestDataSegment} {data : String}
    (h : expectedSolanaData segments intent = .ok data) :
    (readAll segmentLength readSegment segments (hexBytes data.toList)).flatten =
      readingOf intent (segments.flatMap segmentReferences) := by
  simp only [expectedSolanaData, except_bind_ok, except_mapM_ok, except_pure_ok] at h
  obtain ⟨chunks, hchunks, rfl⟩ := h
  have hpieces : List.Forall₂ (fun segment bytes => bytes.length = segmentLength segment ∧
      readSegment segment bytes = readingOf intent (segmentReferences segment))
      segments chunks := hchunks.imp fun _ _ hchunk => solanaDataChunk_reads hchunk
  rw [String.toList_ofList, hexBytes_toHex, readAll_flatten hpieces, flatten_map_readingOf]

end Data

section Expected

variable (P : Platform) (intent : DormantMainnetFinancialActionIntent)

def expectedAccount (account : SolanaWriteManifestAccount) : VerifiedSolanaInstructionAccount where
  address := expectedAddress intent account.source
  isSigner := account.isSigner
  isWritable := account.isWritable

/-- The instruction that a manifest asks for. -/
def expectedInstruction (instruction : SolanaWriteManifestInstruction) :
    Except MatchCode VerifiedSolanaInstruction := do
  let dataHex ← expectedSolanaData instruction.data intent
  return { programId := instruction.programId.text, dataHex,
           accounts := instruction.accounts.map (expectedAccount intent) }

/-- The manifest's encoding of an intent. -/
def expectedPayload : MainnetFinancialActionWriteManifest → Except MatchCode Payload
  | .ethereum manifest => do
    let calldata ← expectedEthereumCalldata P manifest intent
    return .calldata calldata
  | .solana manifest => do
    let instructions ← manifest.instructions.mapM (expectedInstruction intent)
    return .instructions instructions

/-- What is compared of a command beside its payload. -/
def EnvelopeMatches : MainnetFinancialActionWriteManifest → VerifiedSignedCommand → Prop
  | .ethereum manifest, .ethereum command =>
    command.transactionTarget = manifest.transactionTarget.text ∧
      command.maximumNetworkFeeAtomic = intent.maximumNetworkFeeAtomic
  | .solana manifest, .solana command => command.messageVersion = manifest.messageVersion
  | _, _ => False

variable {P intent}

theorem expectedInstruction_reads {expected : SolanaWriteManifestInstruction}
    {actual : VerifiedSolanaInstruction} (h : expectedInstruction intent expected = .ok actual) :
    readInstruction expected actual = readingOf intent (instructionReferences expected) := by
  simp only [expectedInstruction, except_bind_ok, except_pure_ok] at h
  obtain ⟨dataHex, hdata, rfl⟩ := h
  have haccounts : (List.zipWith readAccount expected.accounts
      (expected.accounts.map (expectedAccount intent))).flatten =
        readingOf intent (expected.accounts.flatMap accountReferences) := by
    rw [List.zipWith_map_right, List.zipWith_self, ← flatten_map_readingOf]
    congr 1
    apply List.map_congr_left
    intro account _
    obtain ⟨source, isSigner, isWritable⟩ := account
    cases source <;> rfl
  rw [readInstruction, haccounts, expectedSolanaData_reads hdata, instructionReferences, readingOf,
    readingOf, readingOf, List.map_append]

theorem zipWith_readInstruction {expecteds : List SolanaWriteManifestInstruction}
    {actuals : List VerifiedSolanaInstruction}
    (h : List.Forall₂ (fun expected actual => expectedInstruction intent expected = .ok actual)
      expecteds actuals) : List.zipWith readInstruction expecteds actuals =
        expecteds.map (fun expected => readingOf intent (instructionReferences expected)) := by
  induction h with
  | nil => rfl
  | cons hinstruction _ ih =>
    rw [List.zipWith_cons_cons, expectedInstruction_reads hinstruction, ih, List.map_cons]

/-- The encoding of an intent is read as the fields that the manifest refers to. -/
theorem expectedPayload_reads {manifest : MainnetFinancialActionWriteManifest} {payload : Payload}
    (h : expectedPayload P intent manifest = .ok payload) :
    readPayload manifest payload = readingOf intent (references manifest) := by
  cases manifest with
  | ethereum manifest =>
    simp only [expectedPayload, except_bind_ok, except_pure_ok] at h
    obtain ⟨calldata, hcalldata, rfl⟩ := h
    exact expectedEthereumCalldata_reads hcalldata
  | solana manifest =>
    simp only [expectedPayload, except_bind_ok, except_mapM_ok, except_pure_ok] at h
    obtain ⟨instructions, hinstructions, rfl⟩ := h
    change (List.zipWith readInstruction manifest.instructions instructions).flatten = _
    rw [zipWith_readInstruction hinstructions, flatten_map_readingOf]
    rfl

theorem accountMatches_iff {actual : VerifiedSolanaInstructionAccount}
    {expected : SolanaWriteManifestAccount} :
    accountMatches actual expected intent = true ↔ actual = expectedAccount intent expected := by
  obtain ⟨address, isSigner, isWritable⟩ := actual
  simp only [accountMatches, expectedAccount, Bool.and_eq_true, beq_iff_eq,
    VerifiedSolanaInstructionAccount.mk.injEq, and_assoc]

theorem accounts_iff {actuals : List VerifiedSolanaInstructionAccount}
    {expecteds : List SolanaWriteManifestAccount} :
    actuals.length = expecteds.length ∧ (actuals.zip expecteds).all
        (fun pair => accountMatches pair.1 pair.2 intent) = true ↔
      actuals = expecteds.map (expectedAccount intent) := by
  induction actuals generalizing expecteds with
  | nil =>
    cases expecteds with
    | nil => simp
    | cons expected expecteds => simp
  | cons actual actuals ih =>
    cases expecteds with
    | nil => simp
    | cons expected expecteds =>
      rw [List.zip_cons_cons, List.all_cons, Bool.and_eq_true, accountMatches_iff, List.map_cons,
        List.cons.injEq, ← ih, List.length_cons, List.length_cons, Nat.add_right_cancel_iff]
      tauto

theorem matchInstruction_ok {actual : VerifiedSolanaInstruction}
    {expected : SolanaWriteManifestInstruction} :
    matchInstruction intent actual expected = .ok () ↔
      expectedInstruction intent expected = .ok actual := by
  obtain ⟨programId, accounts, dataHex⟩ := actual
  simp only [matchInstruction, expectedInstruction, except_bind_ok, failWhen_ok, except_pure_ok,
    not_or, not_not, Bool.not_eq_true', Bool.not_eq_false, VerifiedSolanaInstruction.mk.injEq]
  constructor
  · rintro ⟨-, ⟨hprogram, hlength⟩, data, hdata, -, rfl, haccounts⟩
    exact ⟨_, hdata, hprogram.symm, (accounts_iff.1 ⟨hlength, haccounts⟩).symm, rfl⟩
  · rintro ⟨data, hdata, rfl, haccounts, rfl⟩
    obtain ⟨hlength, hall⟩ := accounts_iff.2 haccounts.symm
    exact ⟨(), ⟨rfl, hlength⟩, data, hdata, (), rfl, hall⟩

theorem matchInstructions_ok {actuals : List VerifiedSolanaInstruction}
    {expecteds : List SolanaWriteManifestInstruction} (hlength : actuals.length = expecteds.length) :
    matchInstructions intent actuals expecteds = .ok () ↔
      expecteds.mapM (expectedInstruction intent) = .ok actuals := by
  rw [except_mapM_ok]
  induction actuals generalizing expecteds with
  | nil =>
    obtain rfl := List.length_eq_zero_iff.mp hlength.symm
    exact ⟨fun _ => .nil, fun _ => rfl⟩
  | cons actual actuals ih =>
    cases expecteds with
    | nil => cases hlength
    | cons expected expecteds =>
      rw [matchInstructions, except_bind_ok, List.forall₂_cons, ← ih (Nat.succ.inj hlength),
        ← matchInstruction_ok]
      exact ⟨fun ⟨_, h⟩ => h, fun h => ⟨(), h⟩⟩

/-- A command passes when its envelope does and its payload is the encoding of the intent. -/
theorem matchCommand_ok {manifest : MainnetFinancialActionWriteManifest}
    {command : VerifiedSignedCommand} :
    matchCommand P manifest intent command = .ok () ↔ EnvelopeMatches intent manifest command ∧
      expectedPayload P intent manifest = .ok (commandPayload command) := by
  cases manifest with
  | ethereum manifest =>
    cases command with
    | ethereum command =>
      simp only [matchCommand, EnvelopeMatches, expectedPayload, commandPayload, except_bind_ok,
        failWhen_ok, except_pure_ok, not_or, not_not, Payload.calldata.injEq]
      constructor
      · rintro ⟨-, henvelope, calldata, hcalldata, rfl⟩
        exact ⟨henvelope, _, hcalldata, rfl⟩
      · rintro ⟨henvelope, calldata, hcalldata, rfl⟩
        exact ⟨(), henvelope, _, hcalldata, rfl⟩
    | solana command =>
      simp [matchCommand, EnvelopeMatches]
  | solana manifest =>
    cases command with
    | ethereum command =>
      simp [matchCommand, EnvelopeMatches]
    | solana command =>
      simp only [matchCommand, EnvelopeMatches, expectedPayload, commandPayload, except_bind_ok,
        failWhen_ok, except_pure_ok, not_or, not_not, Payload.instructions.injEq]
      constructor
      · rintro ⟨-, ⟨hversion, hlength⟩, hmatch⟩
        exact ⟨hversion, _, (matchInstructions_ok hlength).mp hmatch, rfl⟩
      · rintro ⟨hversion, instructions, hinstructions, rfl⟩
        have hlength := (except_mapM_ok.mp hinstructions).length_eq.symm
        exact ⟨(), ⟨hversion, hlength⟩, (matchInstructions_ok hlength).mpr hinstructions⟩

end Expected

end CryptoLending.MainnetActions.WriteManifestReading
