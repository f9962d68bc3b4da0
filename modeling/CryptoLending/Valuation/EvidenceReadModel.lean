import CryptoLending.Valuation.StablecoinPriceEvidence
import CryptoLending.Valuation.ValuationRendering

namespace CryptoLending.Valuation.EvidenceReadModel

open Lib Lib.JsValue Lib.Text Lib.LengthPrefixed
open Blockchain.AssetRegistry Blockchain.LaunchNetwork
open Ledger.Idempotency (utf8 utf8_injective)
open StablecoinPriceEvidence
open ValuationRequest (StablecoinValuationSourceId Instant Numeral StablecoinPriceObservation
  StablecoinValuationAssetReference StablecoinPriceConfidence isActiveAsset parseAsset
  parseObservation)
open ValuationRendering

section Rendering

def EvidenceAsset.toValue (asset : EvidenceAsset) : Value :=
  ofFields [("registryEnvironment", .string "MAINNET"), ("registryVersion", .integer 1),
    ("registryFingerprintSha256", .string registryFingerprint),
    ("stablecoin", .string asset.stablecoin.text), ("networkId", .string asset.networkId),
    ("identity", .string asset.identity), ("decimals", .integer 6)]

def PriceConfidence.toValue : PriceConfidence → Value
  | .publishedAbsoluteUsd mantissa =>
    ofFields [("kind", .string "PUBLISHED_ABSOLUTE_USD"), ("mantissa", .string mantissa.text),
      ("scale", .integer normalizedUsdScale)]
  | .notPublished => ofFields [("kind", .string "NOT_PUBLISHED")]

/-- A normalized observation as a value. -/
def PriceObservation.toValue (o : PriceObservation) : Value :=
  ofFields [("asset", EvidenceAsset.toValue o.asset), ("sourceId", .string o.sourceId.text),
    ("sourceReference", .string o.sourceReference),
    ("sourceSequence", .string o.sourceSequence.text),
    ("sourceUpdateId", .string o.sourceUpdateId), ("pricedAt", .string o.pricedAt.text),
    ("observedAt", .string o.observedAt.text),
    ("usdRateMantissa", .string o.usdRateMantissa.text),
    ("usdRateScale", .integer normalizedUsdScale),
    ("confidence", PriceConfidence.toValue o.confidence)]

end Rendering

section Inclusion

/-- Every active asset on a launch network is one that a valuation can be asked for. -/
theorem isActiveAsset_of_listed : ∀ asset ∈ mainnetSupportedAssetRegistry.assets,
    isMainnetLaunchNetwork asset.networkId = true → asset.activationState = .active →
      isActiveAsset registryFingerprint asset.stablecoin asset.networkId asset.identity
        asset.decimals = true := by
  decide

def policyAsset (asset : EvidenceAsset) : StablecoinValuationAssetReference where
  registryFingerprintSha256 := registryFingerprint
  stablecoin := asset.stablecoin
  networkId := asset.networkId
  identity := asset.identity
  decimals := 6
  decimals_le := by decide
  active := isActiveAsset_of_listed _ asset.listed asset.launch rfl

def policyNumeral {kind : List Char → Bool} (n : Numeral kind maxDigits) :
    Numeral kind ValuationRequest.maxAmountDigits := ⟨n.text, n.kind_text, n.length_le⟩

def policyConfidence : PriceConfidence → StablecoinPriceConfidence
  | .publishedAbsoluteUsd mantissa =>
    .publishedAbsoluteUsd ⟨mantissa.text, mantissa.kind_text, mantissa.length_le⟩
      ValuationRequest.normalizedUsdRateScale
  | .notPublished => .notPublished

theorem policyConfidence_fits {confidence : PriceConfidence}
    {source : StablecoinValuationSourceId} (h : confidence.FromSource source) :
    (policyConfidence confidence).Fits source := by
  cases confidence with
  | publishedAbsoluteUsd mantissa =>
    obtain rfl : source = .pythCore := h
    exact rfl
  | notPublished =>
    cases source with
    | pythCore => exact absurd rfl h
    | chainlinkDataFeeds => exact trivial

theorem validSourceUpdateId_of {source : StablecoinValuationSourceId} {updateId sequence : String}
    (h : isSourceUpdateId source updateId sequence = true) :
    ValuationRequest.validSourceUpdateId source updateId sequence = true := by
  cases source with
  | pythCore => exact h
  | chainlinkDataFeeds => exact h

/-- A persisted observation among those of the valuation. -/
def policyObservation (o : PriceObservation) : StablecoinPriceObservation where
  asset := policyAsset o.asset
  sourceId := o.sourceId
  sourceReference := o.sourceReference
  sourceSequence := policyNumeral o.sourceSequence
  sourceUpdateId := o.sourceUpdateId
  pricedAt := o.pricedAt
  observedAt := o.observedAt
  usdRateMantissa := policyNumeral o.usdRateMantissa
  usdRateScale := ValuationRequest.normalizedUsdRateScale
  confidence := policyConfidence o.confidence
  reference_eq := o.reference_eq
  updateId_valid := validSourceUpdateId_of o.updateId_valid
  scale_eq := rfl
  confidence_fits := policyConfidence_fits o.confidence_source

theorem assetValue_policyAsset (asset : EvidenceAsset) :
    assetValue (policyAsset asset) = EvidenceAsset.toValue asset := rfl

theorem publicObservation_policyObservation (o : PriceObservation) :
    publicObservation (policyObservation o) = PriceObservation.toValue o := by
  have hconfidence : confidenceValue (policyConfidence o.confidence) =
      PriceConfidence.toValue o.confidence := by
    cases o.confidence with
    | publishedAbsoluteUsd mantissa => rfl
    | notPublished => rfl
  rw [PriceObservation.toValue, ← hconfidence]
  rfl

/-- What is persisted is read as the observation that it is. -/
theorem parseObservation_toValue (o : PriceObservation) :
    parseObservation (PriceObservation.toValue o) (policyAsset o.asset) =
      some (policyObservation o) := by
  rw [← publicObservation_policyObservation]
  exact parseObservation_publicObservation (policyObservation o)

theorem parseAsset_toValue (asset : EvidenceAsset) :
    parseAsset (EvidenceAsset.toValue asset) = some (policyAsset asset) := by
  rw [← assetValue_policyAsset]
  exact parseAsset_assetValue (policyAsset asset)

end Inclusion

section Framing

theorem preimage_inj {domain : String} {us vs : List String} :
    preimage domain us = preimage domain vs ↔ us = vs := by
  rw [preimage, preimage, List.append_cancel_left_eq, evidenceField.frames_injective.eq_iff,
    (List.map_injective_iff.mpr utf8_injective).eq_iff]

theorem stablecoinText_inj {a b : SupportedStablecoin} (h : a.text = b.text) : a = b := by
  cases a <;> cases b <;> first | rfl | exact absurd h (by decide)

theorem sourceText_inj {a b : StablecoinValuationSourceId} (h : a.text = b.text) : a = b := by
  cases a <;> cases b <;> first | rfl | exact absurd h (by decide)

theorem numeral_ext {kind : List Char → Bool} {maximum : Nat} {a b : Numeral kind maximum}
    (h : a.text = b.text) : a = b := by
  cases a
  cases b
  simpa using h

theorem instant_ext {a b : Instant} (h : a.text = b.text) : a = b := by
  obtain ⟨t, _⟩ := a
  obtain ⟨u, _⟩ := b
  obtain rfl : t = u := IsoDate.Timestamp.ext_text h
  rfl

theorem confidenceValues_inj {a b : PriceConfidence} (h : confidenceValues a = confidenceValues b) :
    a = b := by
  cases a with
  | publishedAbsoluteUsd mantissa =>
    cases b with
    | publishedAbsoluteUsd mantissa' =>
      have hmantissa := (List.cons.inj (List.cons.inj h).2).1
      rw [numeral_ext hmantissa]
    | notPublished => exact absurd (List.cons.inj h).1 (by decide)
  | notPublished =>
    cases b with
    | publishedAbsoluteUsd mantissa' => exact absurd (List.cons.inj h).1 (by decide)
    | notPublished => rfl

/-- An observation is determined by the values that are hashed. -/
theorem observationFingerprintValues_inj {a b : PriceObservation}
    (h : observationFingerprintValues a = observationFingerprintValues b) : a = b := by
  simp only [observationFingerprintValues, List.cons_append, List.nil_append, List.cons.injEq,
    true_and] at h
  obtain ⟨hstablecoin, hnetwork, hidentity, hsource, hreference, hsequence, hupdate, hpriced,
    hobserved, hmantissa, hconfidence⟩ := h
  obtain ⟨⟨stablecoin, network, identity, _, _⟩, source, reference, sequence, updateId, priced,
    observed, mantissa, confidence, _, _, _, _⟩ := a
  obtain ⟨⟨stablecoin', network', identity', _, _⟩, source', reference', sequence', updateId',
    priced', observed', mantissa', confidence', _, _, _, _⟩ := b
  obtain rfl := stablecoinText_inj hstablecoin
  obtain rfl : network = network' := hnetwork
  obtain rfl : identity = identity' := hidentity
  obtain rfl := sourceText_inj hsource
  obtain rfl : reference = reference' := hreference
  obtain rfl := numeral_ext hsequence
  obtain rfl : updateId = updateId' := hupdate
  obtain rfl := instant_ext hpriced
  obtain rfl := instant_ext hobserved
  obtain rfl := numeral_ext hmantissa
  obtain rfl := confidenceValues_inj hconfidence
  rfl

theorem observationPreimage_inj {a b : PriceObservation} :
    observationPreimage a = observationPreimage b ↔ a = b := by
  rw [observationPreimage, observationPreimage, preimage_inj]
  exact ⟨observationFingerprintValues_inj, fun h => h ▸ rfl⟩

theorem evidencePreimage_inj {a b : EvidenceRequest} :
    evidencePreimage a = evidencePreimage b ↔
      a.evidenceActorReferenceId = b.evidenceActorReferenceId ∧
        a.evidenceFingerprintSha256 = b.evidenceFingerprintSha256 ∧
        a.verifiedAt = b.verifiedAt := by
  rw [evidencePreimage, evidencePreimage, preimage_inj]
  simp only [List.cons.injEq, and_true]
  constructor
  · rintro ⟨hactor, hfingerprint, hverified⟩
    exact ⟨Matching.ext_text hactor, Matching.ext_text hfingerprint, instant_ext hverified⟩
  · rintro ⟨hactor, hfingerprint, hverified⟩
    rw [hactor, hfingerprint, hverified]
    exact ⟨rfl, rfl, rfl⟩

theorem commandPreimage_inj {c c' i i' n n' : String} {a b : PriceObservation} :
    commandPreimage c i n a = commandPreimage c' i' n' b ↔ c = c' ∧ i = i' ∧ n = n' ∧ a = b := by
  rw [commandPreimage, commandPreimage, preimage_inj]
  simp only [List.cons_append, List.nil_append, List.cons.injEq]
  exact and_congr_right fun _ => and_congr_right fun _ => and_congr_right fun _ =>
    ⟨observationFingerprintValues_inj, fun h => h ▸ rfl⟩

end Framing

section Commands

variable {sha256 : List UInt8 → String}

/-- The bytes of a command's own fingerprint. -/
def StablecoinPriceEvidenceCommand.preimage (command : StablecoinPriceEvidenceCommand) :
    List UInt8 :=
  commandPreimage command.correlationId.text command.evidenceId command.observationId
    command.observation

/-- The digests of an accepted command are those of its parts. -/
structure Digested (sha256 : List UInt8 → String) (command : StablecoinPriceEvidenceCommand) :
    Prop where
  evidence : command.evidenceId = sha256 (evidencePreimage command.toEvidenceRequest)
  observation : command.observationId = sha256 (observationPreimage command.observation)
  fingerprint : command.commandFingerprintSha256 =
    sha256 (StablecoinPriceEvidenceCommand.preimage command)
  watermark : command.watermarkEventId = sha256 (StablecoinPriceEvidence.preimage
    "crypto-lending:stablecoin-price-watermark-event-id:v1" [command.commandFingerprintSha256])
  event : command.watermarkEventFingerprintSha256 = sha256 (StablecoinPriceEvidence.preimage
    "crypto-lending:stablecoin-price-watermark-event:v1"
    [command.commandFingerprintSha256, command.watermarkEventId])

theorem normalizeCommand_digested {v : Value} {command : StablecoinPriceEvidenceCommand}
    (h : normalizeStablecoinPriceEvidenceCommand sha256 v = .ok command) :
    Digested sha256 command := by
  obtain ⟨request, -, h⟩ := except_bind_ok.mp h
  obtain rfl := except_pure_ok.mp h
  exact ⟨rfl, rfl, rfl, rfl, rfl⟩

/-- The digests add nothing to the other fields. -/
theorem Digested.ext {a b : StablecoinPriceEvidenceCommand} (ha : Digested sha256 a)
    (hb : Digested sha256 b) (h : a.toEvidenceRequest = b.toEvidenceRequest) : a = b := by
  have hevidence : a.evidenceId = b.evidenceId := by rw [ha.evidence, hb.evidence, h]
  have hobservation : a.observationId = b.observationId := by
    rw [ha.observation, hb.observation, h]
  have hfingerprint : a.commandFingerprintSha256 = b.commandFingerprintSha256 := by
    rw [ha.fingerprint, hb.fingerprint, StablecoinPriceEvidenceCommand.preimage,
      StablecoinPriceEvidenceCommand.preimage, h, hevidence, hobservation]
  have hwatermark : a.watermarkEventId = b.watermarkEventId := by
    rw [ha.watermark, hb.watermark, hfingerprint]
  have hevent : a.watermarkEventFingerprintSha256 = b.watermarkEventFingerprintSha256 := by
    rw [ha.event, hb.event, hfingerprint, hwatermark]
  cases a
  cases b
  simp_all

theorem commandPreimage_iff {a b : StablecoinPriceEvidenceCommand} (ha : Digested sha256 a)
    (hb : Digested sha256 b)
    (hcollision : sha256 (evidencePreimage a.toEvidenceRequest) =
      sha256 (evidencePreimage b.toEvidenceRequest) →
      evidencePreimage a.toEvidenceRequest = evidencePreimage b.toEvidenceRequest) :
    StablecoinPriceEvidenceCommand.preimage a = StablecoinPriceEvidenceCommand.preimage b ↔
      a = b := by
  constructor
  · intro h
    obtain ⟨hcorrelation, hevidence, -, hobservation⟩ := commandPreimage_inj.1 h
    rw [ha.evidence, hb.evidence] at hevidence
    obtain ⟨hactor, hfingerprint, hverified⟩ := evidencePreimage_inj.1 (hcollision hevidence)
    have hcorrelation := Matching.ext_text hcorrelation
    refine ha.ext hb ?_
    obtain ⟨⟨correlation, actor, fingerprint, verified, observation, _⟩, _⟩ := a
    obtain ⟨⟨correlation', actor', fingerprint', verified', observation', _⟩, _⟩ := b
    obtain rfl : correlation = correlation' := hcorrelation
    obtain rfl : actor = actor' := hactor
    obtain rfl : fingerprint = fingerprint' := hfingerprint
    obtain rfl : verified = verified' := hverified
    obtain rfl : observation = observation' := hobservation
    rfl
  · rintro rfl
    rfl

def sampleObservation : Value :=
  ofFields [
    ("asset", ofFields [("registryEnvironment", .string "MAINNET"), ("registryVersion", .integer 1),
      ("registryFingerprintSha256", .string registryFingerprint), ("stablecoin", .string "USDC"),
      ("networkId", .string "eip155:1"),
      ("identity", .string "0xA0b86991c6218b36c1d19D4a2e9Eb0cE3606eB48"), ("decimals", .integer 6)]),
    ("sourceId", .string "CHAINLINK_DATA_FEEDS"), ("sourceReference", .string "usdc-usd.data.eth"),
    ("sourceSequence", .string "42"), ("sourceUpdateId", .string "42"),
    ("pricedAt", .string "2026-09-01T00:00:00.000Z"),
    ("observedAt", .string "2026-09-01T00:00:01.000Z"), ("usdRateMantissa", .string "99990000"),
    ("usdRateScale", .integer 8), ("confidence", ofFields [("kind", .string "NOT_PUBLISHED")])]

def sampleEvidence : String := "aaaaaaaaaaaaaaaaaaaaaaaaaaaaaaaaaaaaaaaaaaaaaaaaaaaaaaaaaaaaaaaa"

def sampleCommand (actor : String) : Value :=
  ofFields [("correlationId", .string "10000000-0000-4000-8000-000000000001"),
    ("evidenceActorReferenceId", .string actor),
    ("evidenceFingerprintSha256", .string sampleEvidence),
    ("verifiedAt", .string "2026-09-01T00:00:02.000Z"), ("observation", sampleObservation)]

def sampleValues : List String :=
  ["MAINNET", "1", registryFingerprint, "USDC", "eip155:1",
    "0xa0b86991c6218b36c1d19d4a2e9eb0ce3606eb48", "6", "CHAINLINK_DATA_FEEDS", "usdc-usd.data.eth",
    "42", "42", "2026-09-01T00:00:00.000Z", "2026-09-01T00:00:01.000Z", "99990000", "8",
    "NOT_PUBLISHED", "", ""]

/-- The digests of the texts that the two sample commands hash. -/
def sampleDigests : List (List UInt8 × String) :=
  let observation := "0196a2e81221e98d52d7e6166dfe3d4d1706e1d68eb22ed5147191f5ab2c122f"
  let command (actor evidence fingerprint watermark event : String) :=
    [(StablecoinPriceEvidence.preimage "crypto-lending:stablecoin-price-evidence:v1"
        [actor, sampleEvidence, "2026-09-01T00:00:02.000Z"], evidence),
      (StablecoinPriceEvidence.preimage "crypto-lending:stablecoin-price-command:v1"
        (["10000000-0000-4000-8000-000000000001", evidence, observation] ++ sampleValues),
        fingerprint),
      (StablecoinPriceEvidence.preimage "crypto-lending:stablecoin-price-watermark-event-id:v1"
        [fingerprint], watermark),
      (StablecoinPriceEvidence.preimage "crypto-lending:stablecoin-price-watermark-event:v1"
        [fingerprint, watermark], event)]
  (StablecoinPriceEvidence.preimage "crypto-lending:stablecoin-price-observation:v1" sampleValues,
      observation) ::
    (command "price-desk:1" "dac1150b1912c85ba73906141e3a9b97ff73c54139432c374f09d9c454b6f8f1"
        "1a05dcbe34c4e7820cacfac7055c4134cae1ed442445f98ba66f65dd861aac3a"
        "e6c6a004f8d037ac5cfd0da7c4115a4fbd25bfa9e9be4b4d097cdf5c7bea7419"
        "58980fc071dc3912eda6046c05bb61f0cdc741f6756a5bf7a6b0a55a2133b2f7" ++
      command "price-desk:2" "a74c6a9cd6823ee828c9b8ab5416575a5b36c232f6c037ed1e7218971dde71c5"
        "184daaebaf69e3925ffa4f1bb8aa7e8982ca7bf5209f29596529ace9106de1b0"
        "2965fe146979c700bfd248d8341aeae6b55250ec60933ded88aa5018ae06027a"
        "209cce25d751cb524f3b7b2999a70c708de0afb453eedd8930c2a79b6c25810d")

def sampleSha256 (bytes : List UInt8) : String := (sampleDigests.lookup bytes).getD ""

/-- Whether two commands have the same evidence only when its digests say so. -/
def evidenceAgrees (a b : StablecoinPriceEvidenceCommand) : Bool :=
  decide (sampleSha256 (evidencePreimage a.toEvidenceRequest) =
      sampleSha256 (evidencePreimage b.toEvidenceRequest) →
    evidencePreimage a.toEvidenceRequest = evidencePreimage b.toEvidenceRequest)

end Commands

end CryptoLending.Valuation.EvidenceReadModel
