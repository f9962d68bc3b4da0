import Mathlib
import CryptoLending.MainnetActions.WriteManifestReading

namespace CryptoLending.MainnetActions.WriteManifestCompleteness

open Lib Lib.Hex Lib.Identifier Lib.JsValue Lib.Text Intent WriteManifest WriteManifestMatch
  WriteManifestReading
open Blockchain.LaunchNetwork (MainnetLaunchNetworkId)
open SolanaKeyAgreement (SolanaKey parseSolanaWalletAddress_ok decodeCanonicalSolanaPublicKey_ok_iff)
open SolanaPublicKey (decodeCanonicalSolanaPublicKey)
open Wallets.WalletIdentity

section Intents

/-- An address in the form that the writes of a network take. -/
def IsNetworkAddress : MainnetLaunchNetworkId → String → Prop
  | .eip155, text => isPrefixedHex 40 text.toList = true
  | .solana, text => isCanonicalSolanaAddress text.toList = true

/-- What the parser of intents has made sure of. -/
structure IntentTexts (intent : DormantMainnetFinancialActionIntent) : Prop where
  walletAddress : IsNetworkAddress intent.networkId intent.walletAddress
  amountAtomic : isCanonicalUint intent.amountAtomic.toList = true
  allowanceAmountAtomic : isCanonicalUint intent.allowanceAmountAtomic.toList = true

theorem isLowerHex_toLower {c : Char} (h : isHex c = true) : isLowerHex c.toLower = true := by
  obtain h | h := Bool.or_eq_true_iff.mp h
  · have hsame : c.toLower = c := by
      have hc : 48 ≤ c.toNat ∧ c.toNat ≤ 57 ∨ 97 ≤ c.toNat := by
        obtain h | h := Bool.or_eq_true_iff.mp h
        · exact .inl ((isDigit_iff c).mp h)
        · exact .inr (of_decide_eq_true (Bool.and_eq_true_iff.mp h).1)
      rw [Char.toLower, dif_neg]
      rintro ⟨hlow, hhigh⟩
      have hlow' : 65 ≤ c.toNat := hlow
      have hhigh' : c.toNat ≤ 90 := hhigh
      omega
    rwa [hsame]
  · obtain ⟨hl, hu⟩ := Bool.and_eq_true_iff.mp h
    have hlow : 65 ≤ c.toNat := of_decide_eq_true hl
    have hhigh : c.toNat ≤ 70 := of_decide_eq_true hu
    have hall : ∀ k : Fin 6, isLowerHex (Char.ofNat (65 + k)).toLower = true := by decide
    have hc : c = Char.ofNat (65 + (c.toNat - 65)) := by
      rw [Nat.add_sub_of_le hlow, Char.ofNat_toNat]
    rw [hc]
    exact hall ⟨c.toNat - 65, by omega⟩

theorem isPrefixedHex_toLowerCase {text : String} (h : isEvmAddressPattern text.toList = true) :
    isPrefixedHex 40 (toLowerCase text).toList = true := by
  obtain ⟨ds, hds, h⟩ := (Option.any_eq_true _ _).mp h
  obtain ⟨hlength, hall⟩ := Bool.and_eq_true_iff.mp h
  rw [hexDigits?.eq_def] at hds
  split at hds
  · rename_i tail htext
    obtain rfl := Option.some.inj hds
    rw [isPrefixedHex_iff]
    refine ⟨tail.map Char.toLower, ?_, ?_, ?_⟩
    · rw [toLowerCase, String.toList_ofList, htext]
      rfl
    · rw [List.length_map]
      exact beq_iff_eq.mp hlength
    · rw [List.all_map]
      rw [List.all_eq_true] at hall ⊢
      exact fun c hc => isLowerHex_toLower (hall c hc)
  · cases hds

theorem isCanonicalSolanaAddress_iff {text : String} :
    isCanonicalSolanaAddress text.toList = true ↔ ∃ key : SolanaKey, key.text = text := by
  rw [isCanonicalSolanaAddress, String.ofList_toList, Option.isSome_iff_exists]
  simp only [toOption_eq_some, decodeCanonicalSolanaPublicKey_ok_iff, Value.string.injEq]
  constructor
  · rintro ⟨_, key, _, rfl⟩
    exact ⟨key, rfl⟩
  · rintro ⟨key, rfl⟩
    exact ⟨key.bytes, key, rfl, rfl⟩

theorem wallet_ok {isAddress : String → Bool} {networkId : MainnetLaunchNetworkId} {value : Value}
    {text : String} (h : wallet isAddress networkId value = .ok text) :
    IsNetworkAddress networkId text := by
  have hparse := mapError_ok.mp h
  cases networkId with
  | eip155 =>
    have hevm : parseEvmWalletAddress isAddress value = .ok text := hparse
    simp only [parseEvmWalletAddress, except_bind_ok, orFail_ok, failWhen_ok, except_pure_ok,
      Bool.or_eq_true, Bool.not_eq_true', not_or, Bool.not_eq_false] at hevm
    obtain ⟨source, _, _, ⟨⟨hpattern, _⟩, _⟩, rfl⟩ := hevm
    exact isPrefixedHex_toLowerCase hpattern
  | solana =>
    have hsolana : parseSolanaWalletAddress value = .ok text := hparse
    obtain ⟨key, _, rfl, _⟩ := parseSolanaWalletAddress_ok.mp hsolana
    exact isCanonicalSolanaAddress_iff.2 ⟨key, rfl⟩

theorem atomic_ok {value : Value} {code : ValidationCode} {allowZero : Bool} {text : String}
    (h : atomic value code allowZero = .ok text) : isCanonicalUint text.toList = true := by
  simp only [atomic, except_bind_ok, orFail_ok, failWhen_ok, except_pure_ok, not_or,
    Bool.not_eq_true', Bool.not_eq_false] at h
  obtain ⟨_, _, _, ⟨_, hcanonical⟩, _, _, rfl⟩ := h
  exact hcanonical

theorem intentTexts_of_parse {isAddress : String → Bool} {input serverNow : Value}
    {intent : DormantMainnetFinancialActionIntent}
    (h : parseDormantMainnetFinancialActionIntent isAddress input serverNow = .ok intent) :
    IntentTexts intent := by
  simp only [parseDormantMainnetFinancialActionIntent, except_bind_ok, except_pure_ok] at h
  obtain ⟨record, _, _, _, _, _, _, _, _, _, _, _, _, _, _, _, networkId, _, walletAddress, hwallet,
    _, _, _, _, _, _, _, _, amount, hamount, _, _, _, _, _, _, _, _, allowance, hallowance, _, _, _,
    _, _, _, _, _, _, _, rfl⟩ := h
  exact { walletAddress := wallet_ok hwallet
          amountAtomic := atomic_ok hamount
          allowanceAmountAtomic := atomic_ok hallowance }

end Intents

section Encodable

variable {P : Platform} {intent : DormantMainnetFinancialActionIntent}

def isBytes32MarketId : EthereumWriteManifestArgument → Bool
  | .bytes32MarketId => true
  | _ => false

/-- Some argument is a word of 32 bytes that is read from the market of the intent. -/
def readsBytes32MarketId : MainnetFinancialActionWriteManifest → Bool
  | .ethereum manifest => manifest.arguments.any isBytes32MarketId
  | .solana _ => false

def argumentFits (intent : DormantMainnetFinancialActionIntent) :
    EthereumWriteManifestArgument → Bool
  | .uint width source =>
    decimalValue (unsignedIntegerFromIntent intent source).toList < 2 ^ width.bits
  | _ => true

def segmentFits (intent : DormantMainnetFinancialActionIntent) :
    SolanaWriteManifestDataSegment → Bool
  | .u64 source => decimalValue (unsignedIntegerFromIntent intent source).toList < 2 ^ 64
  | _ => true

/-- The integers of an intent that a manifest refers to fit their widths. -/
def widthsFit (intent : DormantMainnetFinancialActionIntent) :
    MainnetFinancialActionWriteManifest → Bool
  | .ethereum manifest => manifest.arguments.all (argumentFits intent)
  | .solana manifest =>
    manifest.instructions.all (fun instruction => instruction.data.all (segmentFits intent))

theorem except_mapM_exists {ε α β : Type} {f : α → Except ε β} {l : List α} :
    (∃ r, l.mapM f = .ok r) ↔ ∀ a ∈ l, ∃ b, f a = .ok b := by
  simp only [except_mapM_ok]
  induction l with
  | nil => exact ⟨fun _ => List.forall_mem_nil _, fun _ => ⟨[], .nil⟩⟩
  | cons a l ih =>
    rw [List.forall_mem_cons, ← ih]
    constructor
    · rintro ⟨_, hr⟩
      cases hr with
      | cons hb hrest => exact ⟨⟨_, hb⟩, _, hrest⟩
    · rintro ⟨⟨b, hb⟩, r, hr⟩
      exact ⟨b :: r, .cons hb hr⟩

theorem commonMatches_ethereum {manifest : EthereumWriteManifest}
    (h : commonMatches (.ethereum manifest) intent = true) : intent.networkId = .eip155 ∧
      intent.marketId = manifest.marketId.text ∧
      intent.assetIdentity = manifest.assetIdentity.text := by
  simp only [commonMatches, Bool.and_eq_true, beq_iff_eq] at h
  obtain ⟨⟨⟨⟨⟨⟨⟨⟨hnetwork, _⟩, _⟩, hmarket⟩, _⟩, _⟩, _⟩, hasset⟩, _⟩ := h
  exact ⟨hnetwork.symm, hmarket.symm, hasset.symm⟩

theorem commonMatches_solana {manifest : SolanaWriteManifest}
    (h : commonMatches (.solana manifest) intent = true) : intent.networkId = .solana ∧
      intent.marketId = manifest.marketId.text ∧
      intent.assetIdentity = manifest.assetIdentity.text := by
  simp only [commonMatches, Bool.and_eq_true, beq_iff_eq] at h
  obtain ⟨⟨⟨⟨⟨⟨⟨⟨hnetwork, _⟩, _⟩, hmarket⟩, _⟩, _⟩, _⟩, hasset⟩, _⟩ := h
  exact ⟨hnetwork.symm, hmarket.symm, hasset.symm⟩

theorem canonicalUint_fromIntent (htexts : IntentTexts intent) (source : Value) :
    isCanonicalUint (unsignedIntegerFromIntent intent source).toList = true := by
  rw [unsignedIntegerFromIntent, unsignedIntegerField]
  split
  · exact htexts.amountAtomic
  · exact htexts.allowanceAmountAtomic

theorem networkAddress_fromIntent (htexts : IntentTexts intent)
    (hasset : IsNetworkAddress intent.networkId intent.assetIdentity)
    (hmarket : IsNetworkAddress intent.networkId intent.marketId) (source : Value) :
    IsNetworkAddress intent.networkId (addressFromIntent intent source) := by
  rw [addressFromIntent, addressField]
  split
  · exact htexts.walletAddress
  · split
    · exact hasset
    · exact hmarket

theorem addressWord_exists {value : String} (h : isPrefixedHex 40 value.toList = true) :
    ∃ word, addressWord value = .ok word := by
  obtain ⟨ds, hvalue, hlength, hall⟩ := isPrefixedHex_iff.mp h
  exact ⟨_, addressWord_ok.mpr ⟨ds, hvalue, hlength, hall, rfl⟩⟩

theorem publicKeyBytes_exists {value : String} (h : isCanonicalSolanaAddress value.toList = true) :
    ∃ bytes, publicKeyBytes value = .ok bytes := by
  obtain ⟨key, rfl⟩ := isCanonicalSolanaAddress_iff.1 h
  exact ⟨_, publicKeyBytes_ok.mpr ⟨key.bytes, rfl, key.toList_text.symm, key.lt, key.length⟩⟩

theorem fitsBits_iff {bits : Nat} {cs : List Char} :
    fitsBits bits cs = true ↔ isCanonicalUint cs = true ∧ decimalValue cs < 2 ^ bits := by
  rw [fitsBits, Bool.and_eq_true, decide_eq_true_eq]

/-- Every argument has its word, except the word of 32 bytes from the market: the market of
a manifest is an address of 20 bytes. -/
theorem ethereumArgumentWord_exists_iff {manifest : EthereumWriteManifest}
    (htexts : IntentTexts intent) (hmatches : commonMatches (.ethereum manifest) intent = true)
    (hfits : widthsFit intent (.ethereum manifest) = true) {argument : EthereumWriteManifestArgument}
    (hargument : argument ∈ manifest.arguments) :
    (∃ word, ethereumArgumentWord intent argument = .ok word) ↔
      isBytes32MarketId argument = false := by
  obtain ⟨hnetwork, hmarket, hasset⟩ := commonMatches_ethereum hmatches
  cases argument with
  | addressStatic value => exact iff_of_true (addressWord_exists value.passes) rfl
  | address source =>
    have hassetOk : IsNetworkAddress intent.networkId intent.assetIdentity := by
      rw [hnetwork, hasset]
      exact manifest.assetIdentity.passes
    have hmarketOk : IsNetworkAddress intent.networkId intent.marketId := by
      rw [hnetwork, hmarket]
      exact manifest.marketId.passes
    have haddress := networkAddress_fromIntent htexts hassetOk hmarketOk source
    rw [hnetwork] at haddress
    exact iff_of_true (addressWord_exists haddress) rfl
  | uintStatic width value =>
    obtain ⟨hcanonical, hlt⟩ := fitsBits_iff.1 value.passes
    exact iff_of_true ⟨_, uint256Word_ok.mpr ⟨hcanonical, hlt, rfl⟩⟩ rfl
  | uint width source =>
    have hcanonical := canonicalUint_fromIntent htexts source
    have hlt := of_decide_eq_true (List.all_eq_true.mp hfits _ hargument)
    exact iff_of_true ⟨_, uint256Word_ok.mpr ⟨hcanonical, hlt, rfl⟩⟩ rfl
  | bytes32Static value =>
    obtain ⟨ds, hvalue, hlength, hall⟩ := isPrefixedHex_iff.mp value.passes
    exact iff_of_true ⟨ds, bytes32Word_ok.mpr ⟨hvalue, hlength, hall⟩⟩ rfl
  | bytes32MarketId =>
    refine iff_of_false ?_ (by simp [isBytes32MarketId])
    rintro ⟨word, hword⟩
    obtain ⟨hvalue, hlength, _⟩ := bytes32Word_ok.mp hword
    obtain ⟨ds, hds, hshort, _⟩ := isPrefixedHex_iff.mp manifest.marketId.passes
    rw [hmarket, hds] at hvalue
    obtain rfl : ds = word := (List.cons.inj (List.cons.inj hvalue).2).2
    omega
  | bool value => exact iff_of_true ⟨_, rfl⟩ rfl

theorem solanaDataChunk_exists {manifest : SolanaWriteManifest} (htexts : IntentTexts intent)
    (hmatches : commonMatches (.solana manifest) intent = true)
    (hfits : widthsFit intent (.solana manifest) = true) {instruction : SolanaWriteManifestInstruction}
    (hinstruction : instruction ∈ manifest.instructions)
    {segment : SolanaWriteManifestDataSegment} (hsegment : segment ∈ instruction.data) :
    ∃ bytes, solanaDataChunk intent segment = .ok bytes := by
  obtain ⟨hnetwork, hmarket, hasset⟩ := commonMatches_solana hmatches
  cases segment with
  | staticHex value => exact ⟨_, rfl⟩
  | u64Static value =>
    obtain ⟨hcanonical, hlt⟩ := fitsBits_iff.1 value.passes
    exact ⟨_, littleEndianU64_ok.mpr ⟨hcanonical, hlt, rfl⟩⟩
  | u64 source =>
    have hcanonical := canonicalUint_fromIntent htexts source
    have hdata := List.all_eq_true.mp hfits instruction hinstruction
    have hlt := of_decide_eq_true (List.all_eq_true.mp hdata _ hsegment)
    exact ⟨_, littleEndianU64_ok.mpr ⟨hcanonical, hlt, rfl⟩⟩
  | publicKeyStatic value => exact publicKeyBytes_exists value.passes
  | publicKey source =>
    have hassetOk : IsNetworkAddress intent.networkId intent.assetIdentity := by
      rw [hnetwork, hasset]
      exact manifest.assetIdentity.passes
    have hmarketOk : IsNetworkAddress intent.networkId intent.marketId := by
      rw [hnetwork, hmarket]
      exact manifest.marketId.passes
    have haddress := networkAddress_fromIntent htexts hassetOk hmarketOk source
    rw [hnetwork] at haddress
    exact publicKeyBytes_exists haddress

theorem expectedInstruction_exists {instruction : SolanaWriteManifestInstruction}
    (h : ∀ segment ∈ instruction.data, ∃ bytes, solanaDataChunk intent segment = .ok bytes) :
    ∃ actual, expectedInstruction intent instruction = .ok actual := by
  obtain ⟨chunks, hchunks⟩ := except_mapM_exists.2 h
  rw [expectedInstruction, expectedSolanaData, hchunks]
  exact ⟨_, rfl⟩

/-- A manifest can be encoded when it does not read 32 bytes from the market. -/
theorem expectedPayload_exists_iff {manifest : MainnetFinancialActionWriteManifest}
    (htexts : IntentTexts intent) (hmatches : commonMatches manifest intent = true)
    (hfits : widthsFit intent manifest = true) :
    (∃ payload, expectedPayload P intent manifest = .ok payload) ↔
      readsBytes32MarketId manifest = false := by
  cases manifest with
  | ethereum manifest =>
    have hwords : (∃ words, manifest.arguments.mapM (ethereumArgumentWord intent) = .ok words) ↔
        readsBytes32MarketId (.ethereum manifest) = false := by
      rw [except_mapM_exists, readsBytes32MarketId, List.any_eq_false]
      refine forall₂_congr fun argument hargument => ?_
      rw [ethereumArgumentWord_exists_iff htexts hmatches hfits hargument, Bool.not_eq_true]
    rw [← hwords]
    simp only [expectedPayload, expectedEthereumCalldata, except_bind_ok, except_pure_ok]
    constructor
    · rintro ⟨_, _, ⟨words, hok, _⟩, _⟩
      exact ⟨words, hok⟩
    · rintro ⟨words, hok⟩
      exact ⟨_, _, ⟨words, hok, rfl⟩, rfl⟩
  | solana manifest =>
    refine iff_of_true ?_ rfl
    have hall : ∀ instruction ∈ manifest.instructions,
        ∃ actual, expectedInstruction intent instruction = .ok actual :=
      fun instruction hinstruction => expectedInstruction_exists fun segment hsegment =>
        solanaDataChunk_exists htexts hmatches hfits hinstruction hsegment
    obtain ⟨instructions, hinstructions⟩ := except_mapM_exists.2 hall
    rw [expectedPayload, hinstructions]
    exact ⟨_, rfl⟩

end Encodable

section Matching

variable {P : Platform} {intentRecordFingerprintSha256 : String}
  {intent : DormantMainnetFinancialActionIntent} {registry : List Value}
  {reviewed : ReviewedManifest}

/-- The only manifest of a registry, all of whose manifests are accepted, for an intent. -/
def Selects (P : Platform) (registry : List Value) (intent : DormantMainnetFinancialActionIntent)
    (reviewed : ReviewedManifest) : Prop :=
  ∃ manifests, registry.mapM (reviewedManifest P) = .ok manifests ∧
    manifests.filter (fun entry => commonMatches entry.manifest intent) = [reviewed]

def Accepts (P : Platform) (intentRecordFingerprintSha256 : String)
    (intent : DormantMainnetFinancialActionIntent) (registry : List Value)
    (command : VerifiedSignedCommand) : Prop :=
  ∃ result, matchMainnetFinancialActionWriteManifest P intentRecordFingerprintSha256 intent command
    registry = .ok result

theorem commonMatches_of_selects (h : Selects P registry intent reviewed) :
    commonMatches reviewed.manifest intent = true := by
  obtain ⟨manifests, _, hfilter⟩ := h
  have hmem : reviewed ∈ manifests.filter (fun entry => commonMatches entry.manifest intent) := by
    rw [hfilter]
    exact List.mem_singleton_self _
  exact (List.mem_filter.mp hmem).2

theorem accepts_iff (hfingerprint : isCanonicalSha256 intentRecordFingerprintSha256.toList = true)
    (hselects : Selects P registry intent reviewed) {command : VerifiedSignedCommand} :
    Accepts P intentRecordFingerprintSha256 intent registry command ↔
      EnvelopeMatches intent reviewed.manifest command ∧
        expectedPayload P intent reviewed.manifest = .ok (commandPayload command) := by
  obtain ⟨manifests, hmanifests, hfilter⟩ := hselects
  rw [← matchCommand_ok]
  simp only [Accepts, matchMainnetFinancialActionWriteManifest, hmanifests, except_ok_bind, hfilter,
    fingerprintDormantMainnetSignedVerificationIntent, except_bind_ok, failWhen_ok, except_pure_ok,
    hfingerprint, Bool.not_true, Bool.false_eq_true, not_false_eq_true]
  constructor
  · rintro ⟨_, _, hmatch, _⟩
    exact hmatch
  · intro hmatch
    exact ⟨_, (), hmatch, _, ⟨(), trivial, rfl⟩, rfl⟩

theorem exists_command {manifest : MainnetFinancialActionWriteManifest} {payload : Payload}
    (h : expectedPayload P intent manifest = .ok payload) :
    ∃ command, EnvelopeMatches intent manifest command ∧ commandPayload command = payload := by
  cases manifest with
  | ethereum manifest =>
    simp only [expectedPayload, except_bind_ok, except_pure_ok] at h
    obtain ⟨calldata, _, rfl⟩ := h
    exact ⟨.ethereum ⟨⟨"", "", "", "", ""⟩, manifest.transactionTarget.text,
      intent.maximumNetworkFeeAtomic, calldata⟩, ⟨rfl, rfl⟩, rfl⟩
  | solana manifest =>
    simp only [expectedPayload, except_bind_ok, except_pure_ok] at h
    obtain ⟨instructions, _, rfl⟩ := h
    exact ⟨.solana ⟨⟨"", "", "", "", ""⟩, manifest.messageVersion, instructions⟩, rfl, rfl⟩

/-- Some payload is accepted, no other is, it is the encoding of the intent, and it is read
back as the fields that the manifest refers to. -/
def MatchesOnePayload (P : Platform) (intentRecordFingerprintSha256 : String)
    (intent : DormantMainnetFinancialActionIntent) (registry : List Value)
    (manifest : MainnetFinancialActionWriteManifest) : Prop :=
  ∃ payload, expectedPayload P intent manifest = .ok payload ∧
    (∃ command, Accepts P intentRecordFingerprintSha256 intent registry command ∧
      commandPayload command = payload) ∧
    (∀ command, Accepts P intentRecordFingerprintSha256 intent registry command ↔
      EnvelopeMatches intent manifest command ∧ commandPayload command = payload) ∧
    readPayload manifest payload = readingOf intent (references manifest)

/-- Intents that share an accepted command agree in every field that is referred to. -/
theorem fields_of_shared_command {intent' : DormantMainnetFinancialActionIntent}
    {manifest : MainnetFinancialActionWriteManifest} {payload : Payload}
    (h : expectedPayload P intent manifest = .ok payload)
    (h' : expectedPayload P intent' manifest = .ok payload) :
    ∀ field ∈ references manifest, intentField intent field = intentField intent' field := by
  intro field hfield
  have hread := (expectedPayload_reads h).symm.trans (expectedPayload_reads h')
  have hpair := List.map_inj_left.mp hread field hfield
  exact (Prod.ext_iff.mp hpair).2

/-- Exactly one payload is accepted for a manifest and an intent, unless the manifest reads
a word of 32 bytes from the market: then none is. -/
theorem matches_one_payload_iff {isAddress : String → Bool} {input serverNow : Value}
    (hfingerprint : isCanonicalSha256 intentRecordFingerprintSha256.toList = true)
    (hintent : parseDormantMainnetFinancialActionIntent isAddress input serverNow = .ok intent)
    (hselects : Selects P registry intent reviewed)
    (hfits : widthsFit intent reviewed.manifest = true) :
    (MatchesOnePayload P intentRecordFingerprintSha256 intent registry reviewed.manifest ↔
      readsBytes32MarketId reviewed.manifest = false) ∧
    ∀ (intent' : DormantMainnetFinancialActionIntent) (command : VerifiedSignedCommand),
      Selects P registry intent' reviewed →
      Accepts P intentRecordFingerprintSha256 intent registry command →
      Accepts P intentRecordFingerprintSha256 intent' registry command →
      ∀ field ∈ references reviewed.manifest,
        intentField intent field = intentField intent' field := by
  constructor
  · rw [← expectedPayload_exists_iff (P := P) (intentTexts_of_parse hintent)
      (commonMatches_of_selects hselects) hfits]
    constructor
    · rintro ⟨payload, hpayload, _⟩
      exact ⟨payload, hpayload⟩
    · rintro ⟨payload, hpayload⟩
      have haccepts : ∀ command, Accepts P intentRecordFingerprintSha256 intent registry command ↔
          EnvelopeMatches intent reviewed.manifest command ∧ commandPayload command = payload := by
        intro command
        rw [accepts_iff hfingerprint hselects, hpayload, Except.ok.injEq, eq_comm (a := payload)]
      obtain ⟨command, henvelope, hcommand⟩ := exists_command hpayload
      exact ⟨payload, hpayload, ⟨command, (haccepts command).mpr ⟨henvelope, hcommand⟩, hcommand⟩,
        haccepts, expectedPayload_reads hpayload⟩
  · intro intent' command hselects' haccepts haccepts'
    exact fields_of_shared_command ((accepts_iff hfingerprint hselects).mp haccepts).2
      ((accepts_iff hfingerprint hselects').mp haccepts').2

end Matching

section Sample

/-- A platform for one manifest: its JSON, the hash of that and of its signature. -/
def samplePlatform (json : String) (digest : Matching isCanonicalSha256) (hash : Bytes32) :
    Platform where
  stringOf value := value.string?
  stringify _ := json
  sha256 _ := digest
  keccak256 _ := hash

def sampleIsAddress (address : String) : Bool := address == toLowerCase address

def sampleIntentInput : Value := ofFields
  [("schemaVersion", .integer 1), ("intentId", .string "11111111-1111-4111-8111-111111111111"),
    ("accountId", .string "22222222-2222-4222-8222-222222222222"),
    ("walletRegistrationId", .string "33333333-3333-4333-8333-333333333333"),
    ("replayProtectionId", .string "44444444-4444-4444-8444-444444444444"),
    ("idempotencyKeyDigestSha256",
      .string "abababababababababababababababababababababababababababababababab"),
    ("networkId", .string "eip155:1"),
    ("walletAddress", .string "0x19e7e376e7c213b7e7e7e46cc70a5dd086daff2a"),
    ("providerId", .string "aave"), ("protocolId", .string "aave-v3"),
    ("marketId", .string "0x87870bca3f3fd6335c3f4ce8392d69350b4fa4e2"),
    ("assetRegistryVersion", .integer 1),
    ("assetRegistryFingerprintSha256",
      .string "5058b141479f114c1e5f87ed8798fbb7a7ffcce7b502aa7e0794dc53ca1f767d"),
    ("assetSymbol", .string "USDC"),
    ("assetIdentity", .string "0xa0b86991c6218b36c1d19d4a2e9eb0ce3606eb48"),
    ("action", .string "SUPPLY"), ("amountAtomic", .string "1000000"),
    ("requestedValueUsdMicros", .string "1000000"),
    ("maximumNetworkFeeAtomic", .string "10000000"),
    ("maximumNetworkFeeBasisPoints", .integer 100),
    ("minimumPostActionNativeBalanceAtomic", .string "10000"), ("allowanceMode", .string "EXACT"),
    ("allowanceAmountAtomic", .string "1000000"), ("issuedAt", .string "2026-09-06T11:59:00.000Z"),
    ("expiresAt", .string "2026-09-06T12:04:00.000Z")]

def sampleNow : Value := .date (some 1788696000000)

theorem sampleIntent_parsed : (parseDormantMainnetFinancialActionIntent sampleIsAddress
    sampleIntentInput sampleNow).toOption.isSome = true := by
  decide +kernel

def sampleIntent : DormantMainnetFinancialActionIntent :=
  (parseDormantMainnetFinancialActionIntent sampleIsAddress sampleIntentInput
    sampleNow).toOption.get sampleIntent_parsed

theorem sampleIntent_ok : parseDormantMainnetFinancialActionIntent sampleIsAddress
    sampleIntentInput sampleNow = .ok sampleIntent :=
  toOption_eq_some.mp (Option.some_get _).symm

/-- A manifest of the sample intent for one function. -/
def sampleManifestInput (fingerprint functionSignature : String) (arguments : List Value) : Value :=
  ofFields [("schemaVersion", .integer 1), ("manifestId", .string "test-aave-supply-v1"),
    ("kind", .string "ETHEREUM_EIP1559_ABI_CALL"), ("networkId", .string "eip155:1"),
    ("providerId", .string "aave"), ("protocolId", .string "aave-v3"),
    ("marketId", .string "0x87870bca3f3fd6335c3f4ce8392d69350b4fa4e2"),
    ("assetRegistryVersion", .integer 1),
    ("assetRegistryFingerprintSha256",
      .string "5058b141479f114c1e5f87ed8798fbb7a7ffcce7b502aa7e0794dc53ca1f767d"),
    ("assetSymbol", .string "USDC"),
    ("assetIdentity", .string "0xa0b86991c6218b36c1d19d4a2e9eb0ce3606eb48"),
    ("action", .string "SUPPLY"),
    ("transactionTarget", .string "0x87870bca3f3fd6335c3f4ce8392d69350b4fa4e2"),
    ("functionSignature", .string functionSignature), ("arguments", ofItems arguments),
    ("reviewedManifestFingerprintSha256", .string fingerprint)]

def sampleAmount : Value := boundArgument "UINT256" (.string "INTENT_AMOUNT_ATOMIC")

def supplyPlatform : Platform := samplePlatform
  "\x7b\"schemaVersion\":1,\"manifestId\":\"test-aave-supply-v1\",\"kind\":\"ETHEREUM_EIP1559_ABI_CALL\",\"networkId\":\"eip155:1\",\"providerId\":\"aave\",\"protocolId\":\"aave-v3\",\"marketId\":\"0x87870bca3f3fd6335c3f4ce8392d69350b4fa4e2\",\"assetRegistryVersion\":1,\"assetRegistryFingerprintSha256\":\"5058b141479f114c1e5f87ed8798fbb7a7ffcce7b502aa7e0794dc53ca1f767d\",\"assetSymbol\":\"USDC\",\"assetIdentity\":\"0xa0b86991c6218b36c1d19d4a2e9eb0ce3606eb48\",\"action\":\"SUPPLY\",\"transactionTarget\":\"0x87870bca3f3fd6335c3f4ce8392d69350b4fa4e2\",\"functionSignature\":\"supply(address,uint256,address,uint16)\",\"arguments\":[\x7b\"encoding\":\"ADDRESS\",\"source\":\"INTENT_ASSET_IDENTITY\"\x7d,\x7b\"encoding\":\"UINT256\",\"source\":\"INTENT_AMOUNT_ATOMIC\"\x7d,\x7b\"encoding\":\"ADDRESS\",\"source\":\"INTENT_WALLET_ADDRESS\"\x7d,\x7b\"encoding\":\"UINT16\",\"source\":\"STATIC\",\"value\":\"0\"\x7d]\x7d"
  ⟨"ca2cfe0fdb1c4aff870c55aafab7d764b7082f3782fbe96a3ee98ccde0cb3aa6",
    by rw [String.toList_ofList]; decide⟩
  ⟨"0x617ba037e4e1132b6dea1254b02d210f1da4b072469a8989de0a0bdf66d7800a",
    by rw [String.toList_ofList]; decide⟩

def supplyManifest : Value := sampleManifestInput
  "ca2cfe0fdb1c4aff870c55aafab7d764b7082f3782fbe96a3ee98ccde0cb3aa6"
  "supply(address,uint256,address,uint16)"
  [boundArgument "ADDRESS" (.string "INTENT_ASSET_IDENTITY"), sampleAmount,
    boundArgument "ADDRESS" (.string "INTENT_WALLET_ADDRESS"),
    staticArgument "UINT16" (.string "0")]

def marketPlatform : Platform := samplePlatform
  "\x7b\"schemaVersion\":1,\"manifestId\":\"test-aave-supply-v1\",\"kind\":\"ETHEREUM_EIP1559_ABI_CALL\",\"networkId\":\"eip155:1\",\"providerId\":\"aave\",\"protocolId\":\"aave-v3\",\"marketId\":\"0x87870bca3f3fd6335c3f4ce8392d69350b4fa4e2\",\"assetRegistryVersion\":1,\"assetRegistryFingerprintSha256\":\"5058b141479f114c1e5f87ed8798fbb7a7ffcce7b502aa7e0794dc53ca1f767d\",\"assetSymbol\":\"USDC\",\"assetIdentity\":\"0xa0b86991c6218b36c1d19d4a2e9eb0ce3606eb48\",\"action\":\"SUPPLY\",\"transactionTarget\":\"0x87870bca3f3fd6335c3f4ce8392d69350b4fa4e2\",\"functionSignature\":\"supply(bytes32,uint256)\",\"arguments\":[\x7b\"encoding\":\"BYTES32\",\"source\":\"INTENT_MARKET_ID\"\x7d,\x7b\"encoding\":\"UINT256\",\"source\":\"INTENT_AMOUNT_ATOMIC\"\x7d]\x7d"
  ⟨"14fc93d958dd8af4396b6e9e787ec53378518784a8d3e8d56a808478cde3932c",
    by rw [String.toList_ofList]; decide⟩
  ⟨"0x9ce2807f43fea469ffff9459edc12ebcaad6df54a72be172b437c45a60c0cc05",
    by rw [String.toList_ofList]; decide⟩

/-- A manifest whose first argument is a word of 32 bytes from the market. -/
def marketManifest : Value := sampleManifestInput
  "14fc93d958dd8af4396b6e9e787ec53378518784a8d3e8d56a808478cde3932c" "supply(bytes32,uint256)"
  [boundArgument "BYTES32" (.string "INTENT_MARKET_ID"), sampleAmount]

/-- A manifest belongs to the sample intent, and may read a word of 32 bytes from the market. -/
def fitsSample (reads : Bool) (reviewed : ReviewedManifest) : Bool :=
  commonMatches reviewed.manifest sampleIntent && widthsFit sampleIntent reviewed.manifest &&
    readsBytes32MarketId reviewed.manifest == reads

theorem manifests_fit :
    ((reviewedManifest supplyPlatform supplyManifest).toOption.any (fitsSample false) &&
      (reviewedManifest marketPlatform marketManifest).toOption.any (fitsSample true)) = true := by
  decide +kernel

theorem supplyManifest_reviewed :
    (reviewedManifest supplyPlatform supplyManifest).toOption.isSome = true := by
  obtain ⟨_, h, _⟩ := (Option.any_eq_true _ _).mp ((Bool.and_eq_true _ _).mp manifests_fit).1
  rw [h]
  rfl

theorem marketManifest_reviewed :
    (reviewedManifest marketPlatform marketManifest).toOption.isSome = true := by
  obtain ⟨_, h, _⟩ := (Option.any_eq_true _ _).mp ((Bool.and_eq_true _ _).mp manifests_fit).2
  rw [h]
  rfl

def supplyReviewed : ReviewedManifest :=
  (reviewedManifest supplyPlatform supplyManifest).toOption.get supplyManifest_reviewed

def marketReviewed : ReviewedManifest :=
  (reviewedManifest marketPlatform marketManifest).toOption.get marketManifest_reviewed

theorem fitsSample_get {reads : Bool} {o : Option ReviewedManifest}
    (h : o.any (fitsSample reads) = true) (hsome : o.isSome = true) :
    commonMatches (o.get hsome).manifest sampleIntent = true ∧
      widthsFit sampleIntent (o.get hsome).manifest = true ∧
      readsBytes32MarketId (o.get hsome).manifest = reads := by
  cases o with
  | none => cases hsome
  | some reviewed => simpa [fitsSample, and_assoc] using h

theorem supplyReviewed_fits : commonMatches supplyReviewed.manifest sampleIntent = true ∧
    widthsFit sampleIntent supplyReviewed.manifest = true ∧
    readsBytes32MarketId supplyReviewed.manifest = false :=
  fitsSample_get ((Bool.and_eq_true _ _).mp manifests_fit).1 _

theorem marketReviewed_fits : commonMatches marketReviewed.manifest sampleIntent = true ∧
    widthsFit sampleIntent marketReviewed.manifest = true ∧
    readsBytes32MarketId marketReviewed.manifest = true :=
  fitsSample_get ((Bool.and_eq_true _ _).mp manifests_fit).2 _

theorem selects_singleton {P : Platform} {value : Value} {reviewed : ReviewedManifest}
    {intent : DormantMainnetFinancialActionIntent} (h : reviewedManifest P value = .ok reviewed)
    (hmatches : commonMatches reviewed.manifest intent = true) :
    Selects P [value] intent reviewed :=
  ⟨[reviewed], except_mapM_ok.mpr (.cons h .nil), List.filter_cons_of_pos hmatches⟩

theorem supply_selects : Selects supplyPlatform [supplyManifest] sampleIntent supplyReviewed := by
  apply selects_singleton
  · exact toOption_eq_some.mp (Option.some_get _).symm
  · exact supplyReviewed_fits.1

theorem market_selects : Selects marketPlatform [marketManifest] sampleIntent marketReviewed := by
  apply selects_singleton
  · exact toOption_eq_some.mp (Option.some_get _).symm
  · exact marketReviewed_fits.1

def sampleFingerprint : String := "7777777777777777777777777777777777777777777777777777777777777777"

theorem sampleFingerprint_canonical : isCanonicalSha256 sampleFingerprint.toList = true := by
  rw [sampleFingerprint, String.toList_ofList]
  decide

/-- The calldata of a supply is accepted. -/
theorem supply_matches_one_payload : MatchesOnePayload supplyPlatform sampleFingerprint sampleIntent
    [supplyManifest] supplyReviewed.manifest :=
  (matches_one_payload_iff sampleFingerprint_canonical sampleIntent_ok supply_selects
    supplyReviewed_fits.2.1).1.mpr supplyReviewed_fits.2.2

/-- No command at all is accepted for the manifest that reads 32 bytes from the market, though
the manifest is accepted and belongs to the intent. -/
theorem market_word_never_matches :
    parseDormantMainnetFinancialActionIntent sampleIsAddress sampleIntentInput sampleNow =
      .ok sampleIntent ∧
    Selects marketPlatform [marketManifest] sampleIntent marketReviewed ∧
    widthsFit sampleIntent marketReviewed.manifest = true ∧
    ∀ command, ¬Accepts marketPlatform sampleFingerprint sampleIntent [marketManifest] command := by
  refine ⟨sampleIntent_ok, market_selects, marketReviewed_fits.2.1, ?_⟩
  intro command haccepts
  have hpayload := ((accepts_iff sampleFingerprint_canonical market_selects).mp haccepts).2
  have hreads := (expectedPayload_exists_iff (intentTexts_of_parse sampleIntent_ok)
    (commonMatches_of_selects market_selects) marketReviewed_fits.2.1).mp ⟨_, hpayload⟩
  rw [marketReviewed_fits.2.2] at hreads
  cases hreads

end Sample

end CryptoLending.MainnetActions.WriteManifestCompleteness
