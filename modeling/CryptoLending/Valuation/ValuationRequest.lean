import Mathlib.Data.Option.Basic
import CryptoLending.Blockchain.AssetRegistry
import CryptoLending.Lib.Decimal
import CryptoLending.Lib.IsoText
import CryptoLending.Lib.JsValue

namespace CryptoLending.Valuation.ValuationRequest

open Lib Lib.JsValue Lib.Decimal Blockchain.AssetRegistry

def maxObservations : Nat := 8
def maxAmountDigits : Nat := 78
def maxRateDigits : Nat := 78
def maxRateScale : Nat := 36
def maxAssetDecimals : Nat := 36
def normalizedUsdRateScale : Nat := 8

def maxAtomicAmount : String :=
  "115792089237316195423570985008687907853269984665640564039457584007913129639935"

def registryEnvironment : String := "MAINNET"
def registryVersion : Nat := 1

inductive StablecoinValuationSourceId where
  | pythCore
  | chainlinkDataFeeds
  deriving DecidableEq

def StablecoinValuationSourceId.text : StablecoinValuationSourceId → String
  | .pythCore => "PYTH_CORE"
  | .chainlinkDataFeeds => "CHAINLINK_DATA_FEEDS"

def stablecoinValuationSources : List StablecoinValuationSourceId := [.pythCore, .chainlinkDataFeeds]

def supportedStablecoins : List SupportedStablecoin := [.usdc, .usdt, .pyusd]

/-- The feed that a source must name for a stablecoin. -/
def feedReference : SupportedStablecoin → StablecoinValuationSourceId → String
  | .usdc, .pythCore => "eaa020c61cc479712813461ce153894a96a6c00b21ed0cfc2798d1f9a9e9c94a"
  | .usdc, .chainlinkDataFeeds => "usdc-usd.data.eth"
  | .usdt, .pythCore => "2b89b9dc8fdf9f34709a5b106b472f0f39bb6ca9ce04b0fd7f2e971688e2e53b"
  | .usdt, .chainlinkDataFeeds => "usdt-usd.data.eth"
  | .pyusd, .pythCore => "c1da1b73d7f01e7ddd54b3766cf7fcd644395ad14f70aa706ec5384c59e76692"
  | .pyusd, .chainlinkDataFeeds => "pyusd-usd.data.eth"

/-- A decimal text of a given kind with a bounded number of digits. -/
@[ext]
structure Numeral (kind : List Char → Bool) (maximum : Nat) where
  text : String
  kind_text : kind text.toList = true
  length_le : text.toList.length ≤ maximum

instance {kind : List Char → Bool} {maximum : Nat} : DecidableEq (Numeral kind maximum) :=
  fun _ _ => decidable_of_iff _ Numeral.ext_iff.symm

def Numeral.value {kind : List Char → Bool} {maximum : Nat} (n : Numeral kind maximum) : Nat :=
  Text.decimalValue n.text.toList

abbrev SourceSequence := Numeral Text.isPositiveUint maxAmountDigits
abbrev RateMantissa := Numeral Text.isCanonicalUint maxRateDigits

/-- A positive numeral that is not above the largest atomic amount. -/
structure AtomicAmount extends Numeral Text.isPositiveUint maxAmountDigits where
  within : ¬(text.toList.length > maxAtomicAmount.toList.length ∨
    text.toList.length = maxAtomicAmount.toList.length ∧ text > maxAtomicAmount)

/-- A canonical timestamp that is not before the epoch. -/
structure Instant extends IsoDate.Timestamp where
  nonneg : 0 ≤ milliseconds
  deriving DecidableEq

/-- The registry lists the asset, with these decimals, as active on an active network. -/
def isActiveAsset (registryFingerprintSha256 : String) (stablecoin : SupportedStablecoin)
    (networkId identity : String) (decimals : Nat) : Bool :=
  let snapshot := mainnetSupportedAssetRegistry
  match snapshot.identifyAsset networkId identity,
      snapshot.networks.find? (fun candidate => candidate.networkId == networkId) with
  | some asset, some network =>
    snapshot.fingerprintSha256 == registryFingerprintSha256 && asset.stablecoin == stablecoin &&
      asset.identity == identity && asset.decimals == decimals &&
      asset.activationState == .active && network.activationState == .active
  | _, _ => false

structure StablecoinValuationAssetReference where
  registryFingerprintSha256 : String
  stablecoin : SupportedStablecoin
  networkId : String
  identity : String
  decimals : Nat
  decimals_le : decimals ≤ maxAssetDecimals
  active : isActiveAsset registryFingerprintSha256 stablecoin networkId identity decimals = true
  deriving DecidableEq

inductive StablecoinPriceConfidence where
  | publishedAbsoluteUsd (mantissa : RateMantissa) (scale : Nat)
  | notPublished
  deriving DecidableEq

/-- The confidence that a source publishes. -/
def StablecoinPriceConfidence.Fits : StablecoinPriceConfidence → StablecoinValuationSourceId → Prop
  | .publishedAbsoluteUsd _ scale, .pythCore => scale = normalizedUsdRateScale
  | .notPublished, .chainlinkDataFeeds => True
  | _, _ => False

def validSourceUpdateId (sourceId : StablecoinValuationSourceId) (updateId sequence : String) :
    Bool :=
  match sourceId with
  | .pythCore => updateId.toList.length == 64 && updateId.toList.all Text.isLowerHex
  | .chainlinkDataFeeds => updateId == sequence

/-- An observation whose parts fit its source. -/
structure StablecoinPriceObservation where
  asset : StablecoinValuationAssetReference
  sourceId : StablecoinValuationSourceId
  sourceReference : String
  sourceSequence : SourceSequence
  sourceUpdateId : String
  pricedAt : Instant
  observedAt : Instant
  usdRateMantissa : RateMantissa
  usdRateScale : Nat
  confidence : StablecoinPriceConfidence
  reference_eq : sourceReference = feedReference asset.stablecoin sourceId
  updateId_valid : validSourceUpdateId sourceId sourceUpdateId sourceSequence.text = true
  scale_eq : usdRateScale = normalizedUsdRateScale
  confidence_fits : confidence.Fits sourceId
  deriving DecidableEq

namespace StablecoinPriceObservation

def pricedAtMs (o : StablecoinPriceObservation) : Int := o.pricedAt.milliseconds

def observedAtMs (o : StablecoinPriceObservation) : Int := o.observedAt.milliseconds

def rate (o : StablecoinPriceObservation) : FixedDecimal :=
  ⟨o.usdRateMantissa.value, o.usdRateScale⟩

def confidenceAmount (o : StablecoinPriceObservation) : Option FixedDecimal :=
  match o.confidence with
  | .publishedAbsoluteUsd mantissa scale => some ⟨mantissa.value, scale⟩
  | .notPublished => none

end StablecoinPriceObservation

/-- The last update that was accepted from a source. -/
structure LastAccepted (sourceId : StablecoinValuationSourceId) where
  lastAcceptedSequence : SourceSequence
  lastAcceptedPricedAt : Instant
  lastAcceptedObservedAt : Instant
  lastAcceptedUpdateId : String
  updateId_valid : validSourceUpdateId sourceId lastAcceptedUpdateId lastAcceptedSequence.text = true
  ordered : lastAcceptedPricedAt.milliseconds ≤ lastAcceptedObservedAt.milliseconds

structure ParsedSourceWatermark where
  sourceId : StablecoinValuationSourceId
  lastAccepted : Option (LastAccepted sourceId)

/-- An accepted request: one watermark for each source. -/
structure ParsedRequest where
  asset : StablecoinValuationAssetReference
  amountAtomic : AtomicAmount
  evaluatedAt : Instant
  sourceWatermarks : List ParsedSourceWatermark
  observations : List StablecoinPriceObservation
  watermarks_unique : ∀ sourceId ∈ stablecoinValuationSources,
    (sourceWatermarks.filter (fun w => w.sourceId = sourceId)).length = 1

def parseNumeral {kind : List Char → Bool} {maximum : Nat} (v : Value) :
    Option (Numeral kind maximum) := do
  let text ← v.string?
  if h : kind text.toList = true ∧ text.toList.length ≤ maximum then pure ⟨text, h.1, h.2⟩
  else none

def parseAmount (v : Value) : Option AtomicAmount := do
  let numeral ← parseNumeral v
  if h : ¬(numeral.text.toList.length > maxAtomicAmount.toList.length ∨
      numeral.text.toList.length = maxAtomicAmount.toList.length ∧
        numeral.text > maxAtomicAmount) then pure ⟨numeral, h⟩
  else none

def parseScale (v : Value) : Option Nat := do
  let n ← v.integer?
  guard (¬(n < 0 ∨ n > maxRateScale))
  pure n.toNat

def parseTimestamp (v : Value) : Option Instant := do
  let timestamp ← IsoDate.Timestamp.ofText (← v.string?)
  if h : 0 ≤ timestamp.milliseconds then pure ⟨timestamp, h⟩ else none

def parseSourceId (v : Value) : Option StablecoinValuationSourceId := do
  let text ← v.string?
  stablecoinValuationSources.find? (fun s => s.text == text)

def parseStablecoin (v : Value) : Option SupportedStablecoin := do
  let text ← v.string?
  supportedStablecoins.find? (fun s => s.text == text)

def assetKeys : List String :=
  ["registryEnvironment", "registryVersion", "registryFingerprintSha256", "stablecoin",
    "networkId", "identity", "decimals"]

def parseAsset (v : Value) : Option StablecoinValuationAssetReference := do
  let record ← exactRecord v assetKeys
  guard ((record.get "registryEnvironment").isText registryEnvironment)
  guard ((record.get "registryVersion").isNumber registryVersion)
  let registryFingerprintSha256 ← (record.get "registryFingerprintSha256").string?
  let stablecoin ← parseStablecoin (record.get "stablecoin")
  let networkId ← (record.get "networkId").string?
  let identity ← (record.get "identity").string?
  let decimals ← (record.get "decimals").integer?
  guard (0 ≤ decimals)
  -- The registry's fingerprint is a digest, so equality with it includes the pattern test.
  if h : decimals.toNat ≤ maxAssetDecimals ∧
      isActiveAsset registryFingerprintSha256 stablecoin networkId identity decimals.toNat = true
  then pure { registryFingerprintSha256, stablecoin, networkId, identity,
              decimals := decimals.toNat, decimals_le := h.1, active := h.2 }
  else none

def parseConfidence (v : Value) (sourceId : StablecoinValuationSourceId) :
    Option {confidence : StablecoinPriceConfidence // confidence.Fits sourceId} :=
  match sourceId with
  | .pythCore => do
    let record ← exactRecord v ["kind", "mantissa", "scale"]
    let scale ← parseScale (record.get "scale")
    guard ((record.get "kind").isText "PUBLISHED_ABSOLUTE_USD")
    let mantissa ← parseNumeral (record.get "mantissa")
    if h : scale = normalizedUsdRateScale then pure ⟨.publishedAbsoluteUsd mantissa scale, h⟩
    else none
  | .chainlinkDataFeeds => do
    let record ← exactRecord v ["kind"]
    guard ((record.get "kind").isText "NOT_PUBLISHED")
    pure ⟨.notPublished, trivial⟩

def observationKeys : List String :=
  ["asset", "sourceId", "sourceReference", "sourceSequence", "sourceUpdateId", "pricedAt",
    "observedAt", "usdRateMantissa", "usdRateScale", "confidence"]

def parseObservation (v : Value) (requestedAsset : StablecoinValuationAssetReference) :
    Option StablecoinPriceObservation := do
  let record ← exactRecord v observationKeys
  let asset ← parseAsset (record.get "asset")
  guard (asset = requestedAsset)
  let sourceId ← parseSourceId (record.get "sourceId")
  let sourceReference ← (record.get "sourceReference").string?
  let sourceSequence ← parseNumeral (record.get "sourceSequence")
  let sourceUpdateId ← (record.get "sourceUpdateId").string?
  let usdRateMantissa ← parseNumeral (record.get "usdRateMantissa")
  let usdRateScale ← parseScale (record.get "usdRateScale")
  let pricedAt ← parseTimestamp (record.get "pricedAt")
  let observedAt ← parseTimestamp (record.get "observedAt")
  let confidence ← parseConfidence (record.get "confidence") sourceId
  -- Every feed reference is a visible text, so equality with it includes the pattern test.
  if h : sourceReference = feedReference asset.stablecoin sourceId ∧
      validSourceUpdateId sourceId sourceUpdateId sourceSequence.text = true ∧
      usdRateScale = normalizedUsdRateScale then
    pure { asset, sourceId, sourceReference, sourceSequence, sourceUpdateId, pricedAt, observedAt,
           usdRateMantissa, usdRateScale, confidence := confidence.1, reference_eq := h.1,
           updateId_valid := h.2.1, scale_eq := h.2.2, confidence_fits := confidence.2 }
  else none

def watermarkKeys : List String :=
  ["sourceId", "lastAcceptedSequence", "lastAcceptedPricedAt", "lastAcceptedObservedAt",
    "lastAcceptedUpdateId"]

def parseLastAccepted (record : Record) (sourceId : StablecoinValuationSourceId) :
    Option (LastAccepted sourceId) := do
  let lastAcceptedSequence ← parseNumeral (record.get "lastAcceptedSequence")
  let lastAcceptedUpdateId ← (record.get "lastAcceptedUpdateId").string?
  let lastAcceptedPricedAt ← parseTimestamp (record.get "lastAcceptedPricedAt")
  let lastAcceptedObservedAt ← parseTimestamp (record.get "lastAcceptedObservedAt")
  if h : validSourceUpdateId sourceId lastAcceptedUpdateId lastAcceptedSequence.text = true ∧
      lastAcceptedPricedAt.milliseconds ≤ lastAcceptedObservedAt.milliseconds then
    pure { lastAcceptedSequence, lastAcceptedPricedAt, lastAcceptedObservedAt,
           lastAcceptedUpdateId, updateId_valid := h.1, ordered := h.2 }
  else none

/-- The last accepted update of a source is given completely or not at all. -/
def parseSourceWatermark (v : Value) : Option ParsedSourceWatermark := do
  let record ← exactRecord v watermarkKeys
  let sourceId ← parseSourceId (record.get "sourceId")
  if (record.get "lastAcceptedSequence").isNull && (record.get "lastAcceptedPricedAt").isNull &&
      (record.get "lastAcceptedObservedAt").isNull && (record.get "lastAcceptedUpdateId").isNull
  then pure ⟨sourceId, none⟩
  else do
    let lastAccepted ← parseLastAccepted record sourceId
    pure ⟨sourceId, some lastAccepted⟩

def requestKeys : List String :=
  ["asset", "amountAtomic", "evaluatedAt", "sourceWatermarks", "observations"]

def parseRequest (v : Value) : Option ParsedRequest := do
  let record ← exactRecord v requestKeys
  let asset ← parseAsset (record.get "asset")
  let amountAtomic ← parseAmount (record.get "amountAtomic")
  let evaluatedAt ← parseTimestamp (record.get "evaluatedAt")
  let sourceWatermarks ← (← exactArray (record.get "sourceWatermarks")
    stablecoinValuationSources.length stablecoinValuationSources.length).mapM parseSourceWatermark
  let observations ← (← exactArray (record.get "observations") 0 maxObservations).mapM
    (parseObservation · asset)
  if h : ∀ sourceId ∈ stablecoinValuationSources,
      (sourceWatermarks.filter (fun w => w.sourceId = sourceId)).length = 1 then
    pure { asset, amountAtomic, evaluatedAt, sourceWatermarks, observations,
           watermarks_unique := h }
  else none

end CryptoLending.Valuation.ValuationRequest
