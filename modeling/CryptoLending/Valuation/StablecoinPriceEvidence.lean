import CryptoLending.Blockchain.AssetRegistry
import CryptoLending.Ledger.Idempotency
import CryptoLending.Lib.JsReading
import CryptoLending.Valuation.ValuationRequest

namespace CryptoLending.Valuation.StablecoinPriceEvidence

open Lib Lib.JsValue Lib.Text Lib.LengthPrefixed
open Blockchain.AssetRegistry Blockchain.LaunchNetwork
open Lib.Identifier (isUuidV4)
open Ledger.Idempotency (utf8 updateField)
open ValuationRequest (StablecoinValuationSourceId Instant Numeral feedReference parseNumeral)

def maxDigits : Nat := 78
def normalizedUsdScale : Nat := 8

def registryFingerprint : String :=
  "5058b141479f114c1e5f87ed8798fbb7a7ffcce7b502aa7e0794dc53ca1f767d"

def isSha256 (cs : List Char) : Bool := cs.length == 64 && cs.all isLowerHex

def isReferenceStart (c : Char) : Bool := isDigit c || ('a' ≤ c && c ≤ 'z')

def isReference (cs : List Char) : Bool :=
  decide (3 ≤ cs.length ∧ cs.length ≤ 128) && cs.head?.any isReferenceStart &&
    cs.tail.all (fun c => isReferenceStart c || ['.', '_', ':', '-'].contains c)

abbrev UuidV4 := Matching isUuidV4
abbrev Sha256 := Matching isSha256
abbrev Reference := Matching isReference

inductive StablecoinPriceEvidenceValidationCode where
  | invalidPriceEvidenceRequest
  | invalidPriceEvidenceAsset
  | invalidPriceObservation
  deriving DecidableEq

/-- A canonical timestamp from the epoch on. -/
def timestamp (v : Value) (code : StablecoinPriceEvidenceValidationCode) :
    Except StablecoinPriceEvidenceValidationCode Instant := do
  let text ← orFail v.string? code
  let parsed ← orFail (IsoDate.Timestamp.ofText text) code
  if h : 0 ≤ parsed.milliseconds then .ok ⟨parsed, h⟩ else .error code

def sourceId (v : Value) :
    Except StablecoinPriceEvidenceValidationCode StablecoinValuationSourceId :=
  orFail (v.string?.bind fun text =>
    ValuationRequest.stablecoinValuationSources.find? (fun s => s.text == text))
    .invalidPriceObservation

/-- A confidence on the normalized scale, or that none is published. -/
inductive PriceConfidence where
  | publishedAbsoluteUsd (mantissa : Numeral isCanonicalUint maxDigits)
  | notPublished
  deriving DecidableEq

/-- Only one source publishes its confidence. -/
def PriceConfidence.FromSource : PriceConfidence → StablecoinValuationSourceId → Prop
  | .publishedAbsoluteUsd _, source => source = .pythCore
  | .notPublished, source => source ≠ .pythCore

def confidence (v : Value) (source : StablecoinValuationSourceId) :
    Except StablecoinPriceEvidenceValidationCode {c : PriceConfidence // c.FromSource source} :=
  if h : source = .pythCore then do
    let record ← orFail (exactRecord v ["kind", "mantissa", "scale"]) .invalidPriceObservation
    failWhen ((record.get "kind").isText "PUBLISHED_ABSOLUTE_USD" = false)
      .invalidPriceObservation
    let mantissa ← orFail (parseNumeral (record.get "mantissa")) .invalidPriceObservation
    failWhen ((record.get "scale").isNumber normalizedUsdScale = false) .invalidPriceObservation
    return ⟨.publishedAbsoluteUsd mantissa, h⟩
  else do
    let record ← orFail (exactRecord v ["kind"]) .invalidPriceObservation
    failWhen ((record.get "kind").isText "NOT_PUBLISHED" = false) .invalidPriceObservation
    return ⟨.notPublished, h⟩

/-- An active asset of the registry on a launch network. -/
structure EvidenceAsset where
  stablecoin : SupportedStablecoin
  networkId : String
  identity : String
  launch : isMainnetLaunchNetwork networkId = true
  listed : ⟨stablecoin, networkId, identity, 6, .active⟩ ∈ mainnetSupportedAssetRegistry.assets
  deriving DecidableEq

theorem identifyAsset_mem {networkId identity : String} {asset : SupportedStablecoinAsset}
    (h : mainnetSupportedAssetRegistry.identifyAsset networkId identity = some asset) :
    asset ∈ mainnetSupportedAssetRegistry.assets ∧ asset.networkId = networkId := by
  obtain ⟨network, hnetwork, h⟩ := Option.bind_eq_some_iff.mp h
  obtain ⟨normalized, -, h⟩ := Option.bind_eq_some_iff.mp h
  have hfound := List.find?_some h
  have hsame := List.find?_some hnetwork
  simp only [Bool.and_eq_true, beq_iff_eq] at hfound hsame
  exact ⟨List.mem_of_find?_eq_some h, hfound.1.trans hsame⟩

/-- Whether the registry's entry is the one that was named. -/
def IsNamed (asset : SupportedStablecoinAsset) (stablecoin : String) : Prop :=
  asset.activationState = .active ∧ asset.stablecoin.text = stablecoin ∧ asset.decimals = 6

instance (asset : SupportedStablecoinAsset) (stablecoin : String) :
    Decidable (IsNamed asset stablecoin) := inferInstanceAs (Decidable (_ ∧ _))

theorem listed_of_identified {networkId identity stablecoin : String}
    {asset : SupportedStablecoinAsset}
    (h : mainnetSupportedAssetRegistry.identifyAsset networkId identity = some asset)
    (hn : IsNamed asset stablecoin) :
    ⟨asset.stablecoin, asset.networkId, asset.identity, 6, .active⟩ ∈
      mainnetSupportedAssetRegistry.assets := by
  obtain ⟨hactive, -, hdecimals⟩ := hn
  have hmem := (identifyAsset_mem h).1
  rw [← hactive, ← hdecimals]
  exact hmem

def assetKeys : List String :=
  ["registryEnvironment", "registryVersion", "registryFingerprintSha256", "stablecoin",
    "networkId", "identity", "decimals"]

def normalizeStablecoinPriceEvidenceAsset (v : Value) :
    Except StablecoinPriceEvidenceValidationCode EvidenceAsset := do
  let record ← orFail (exactRecord v assetKeys) .invalidPriceEvidenceAsset
  failWhen ((record.get "registryEnvironment").isText "MAINNET" = false ∨
    (record.get "registryVersion").isNumber 1 = false ∨
    (record.get "registryFingerprintSha256").isText registryFingerprint = false ∨
    mainnetSupportedAssetRegistry.fingerprintSha256 ≠ registryFingerprint)
    .invalidPriceEvidenceAsset
  let stablecoin ← orFail (record.get "stablecoin").string? .invalidPriceEvidenceAsset
  let networkId ← orFail (record.get "networkId").string? .invalidPriceEvidenceAsset
  let identity ← orFail (record.get "identity").string? .invalidPriceEvidenceAsset
  failWhen ((record.get "decimals").isNumber 6 = false) .invalidPriceEvidenceAsset
  if hlaunch : isMainnetLaunchNetwork networkId = true then
    match hfound : mainnetSupportedAssetRegistry.identifyAsset networkId identity with
    | none => .error .invalidPriceEvidenceAsset
    | some asset =>
      if hnamed : IsNamed asset stablecoin then
        .ok { stablecoin := asset.stablecoin, networkId := asset.networkId,
              identity := asset.identity,
              launch := by rw [(identifyAsset_mem hfound).2]; exact hlaunch,
              listed := listed_of_identified hfound hnamed }
      else .error .invalidPriceEvidenceAsset
  else .error .invalidPriceEvidenceAsset

/-- The updates that a source can report under a sequence. -/
def isSourceUpdateId (source : StablecoinValuationSourceId) (updateId sequence : String) : Bool :=
  if source = .pythCore then isSha256 updateId.toList else updateId == sequence

/-- An observation as it is persisted. -/
structure PriceObservation where
  asset : EvidenceAsset
  sourceId : StablecoinValuationSourceId
  sourceReference : String
  sourceSequence : Numeral isPositiveUint maxDigits
  sourceUpdateId : String
  pricedAt : Instant
  observedAt : Instant
  usdRateMantissa : Numeral isCanonicalUint maxDigits
  confidence : PriceConfidence
  reference_eq : sourceReference = feedReference asset.stablecoin sourceId
  updateId_valid : isSourceUpdateId sourceId sourceUpdateId sourceSequence.text = true
  ordered : pricedAt.milliseconds ≤ observedAt.milliseconds
  confidence_source : confidence.FromSource sourceId
  deriving DecidableEq

def observationKeys : List String :=
  ["asset", "sourceId", "sourceReference", "sourceSequence", "sourceUpdateId", "pricedAt",
    "observedAt", "usdRateMantissa", "usdRateScale", "confidence"]

def normalizeStablecoinPriceObservation (v : Value) :
    Except StablecoinPriceEvidenceValidationCode PriceObservation := do
  let record ← orFail (exactRecord v observationKeys) .invalidPriceObservation
  let asset ← normalizeStablecoinPriceEvidenceAsset (record.get "asset")
  let source ← sourceId (record.get "sourceId")
  let expectedReference := feedReference asset.stablecoin source
  failWhen ((record.get "sourceReference").isText expectedReference = false)
    .invalidPriceObservation
  let sourceSequence ← orFail (parseNumeral (record.get "sourceSequence")) .invalidPriceObservation
  let sourceUpdateId ← orFail (record.get "sourceUpdateId").string? .invalidPriceObservation
  if hupdate : isSourceUpdateId source sourceUpdateId sourceSequence.text = true then
    let usdRateMantissa ← orFail (parseNumeral (record.get "usdRateMantissa"))
      .invalidPriceObservation
    failWhen ((record.get "usdRateScale").isNumber normalizedUsdScale = false)
      .invalidPriceObservation
    let pricedAt ← timestamp (record.get "pricedAt") .invalidPriceObservation
    let observedAt ← timestamp (record.get "observedAt") .invalidPriceObservation
    if hordered : pricedAt.milliseconds ≤ observedAt.milliseconds then
      let published ← confidence (record.get "confidence") source
      return { asset, sourceId := source, sourceReference := expectedReference, sourceSequence,
               sourceUpdateId, pricedAt, observedAt, usdRateMantissa,
               confidence := published.1, reference_eq := rfl, updateId_valid := hupdate,
               ordered := hordered, confidence_source := published.2 }
    else .error .invalidPriceObservation
  else .error .invalidPriceObservation

def confidenceValues : PriceConfidence → List String
  | .publishedAbsoluteUsd mantissa =>
    ["PUBLISHED_ABSOLUTE_USD", mantissa.text, Nat.repr normalizedUsdScale]
  | .notPublished => ["NOT_PUBLISHED", "", ""]

def observationFingerprintValues (o : PriceObservation) : List String :=
  ["MAINNET", Nat.repr 1, registryFingerprint, o.asset.stablecoin.text, o.asset.networkId,
    o.asset.identity, Nat.repr 6, o.sourceId.text, o.sourceReference, o.sourceSequence.text,
    o.sourceUpdateId, o.pricedAt.text, o.observedAt.text, o.usdRateMantissa.text,
    Nat.repr normalizedUsdScale] ++ confidenceValues o.confidence

/-- A zero byte, the length in decimal digits, a colon and the bytes. -/
def evidenceField : Framing UInt8 := updateField.preceded 0 (by decide)

/-- The bytes that are hashed for a domain and its values. -/
def preimage (domain : String) (values : List String) : List UInt8 :=
  utf8 domain ++ evidenceField.frames (values.map utf8)

/-- What the evidence of an observation is. -/
structure EvidenceRequest where
  correlationId : UuidV4
  evidenceActorReferenceId : Reference
  evidenceFingerprintSha256 : Sha256
  verifiedAt : Instant
  observation : PriceObservation
  verified : observation.observedAt.milliseconds ≤ verifiedAt.milliseconds
  deriving DecidableEq

structure StablecoinPriceEvidenceCommand extends EvidenceRequest where
  evidenceId : String
  observationId : String
  commandFingerprintSha256 : String
  watermarkEventId : String
  watermarkEventFingerprintSha256 : String
  deriving DecidableEq

def observationPreimage (o : PriceObservation) : List UInt8 :=
  preimage "crypto-lending:stablecoin-price-observation:v1" (observationFingerprintValues o)

def evidencePreimage (request : EvidenceRequest) : List UInt8 :=
  preimage "crypto-lending:stablecoin-price-evidence:v1"
    [request.evidenceActorReferenceId.text, request.evidenceFingerprintSha256.text,
      request.verifiedAt.text]

def commandPreimage (correlationId evidenceId observationId : String) (o : PriceObservation) :
    List UInt8 :=
  preimage "crypto-lending:stablecoin-price-command:v1"
    ([correlationId, evidenceId, observationId] ++ observationFingerprintValues o)

def requestKeys : List String :=
  ["correlationId", "evidenceActorReferenceId", "evidenceFingerprintSha256", "verifiedAt",
    "observation"]

def evidenceRequest (v : Value) :
    Except StablecoinPriceEvidenceValidationCode EvidenceRequest := do
  let record ← orFail (exactRecord v requestKeys) .invalidPriceEvidenceRequest
  let correlationId ← orFail (Matching.ofValue isUuidV4 (record.get "correlationId"))
    .invalidPriceEvidenceRequest
  let evidenceActorReferenceId ←
    orFail (Matching.ofValue isReference (record.get "evidenceActorReferenceId"))
      .invalidPriceEvidenceRequest
  let evidenceFingerprintSha256 ←
    orFail (Matching.ofValue isSha256 (record.get "evidenceFingerprintSha256"))
      .invalidPriceEvidenceRequest
  let verifiedAt ← timestamp (record.get "verifiedAt") .invalidPriceEvidenceRequest
  let observation ← normalizeStablecoinPriceObservation (record.get "observation")
  if h : observation.observedAt.milliseconds ≤ verifiedAt.milliseconds then
    .ok ⟨correlationId, evidenceActorReferenceId, evidenceFingerprintSha256, verifiedAt,
      observation, h⟩
  else .error .invalidPriceEvidenceRequest

def normalizeStablecoinPriceEvidenceCommand (sha256 : List UInt8 → String) (v : Value) :
    Except StablecoinPriceEvidenceValidationCode StablecoinPriceEvidenceCommand := do
  let request ← evidenceRequest v
  let observationId := sha256 (observationPreimage request.observation)
  let evidenceId := sha256 (evidencePreimage request)
  let commandFingerprintSha256 := sha256
    (commandPreimage request.correlationId.text evidenceId observationId request.observation)
  let watermarkEventId := sha256
    (preimage "crypto-lending:stablecoin-price-watermark-event-id:v1" [commandFingerprintSha256])
  return {
    request with
    evidenceId, observationId, commandFingerprintSha256, watermarkEventId,
    watermarkEventFingerprintSha256 := sha256
      (preimage "crypto-lending:stablecoin-price-watermark-event:v1"
        [commandFingerprintSha256, watermarkEventId]) }

end CryptoLending.Valuation.StablecoinPriceEvidence
