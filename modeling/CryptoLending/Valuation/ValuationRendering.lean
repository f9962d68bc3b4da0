import CryptoLending.Valuation.ValuationRequest

namespace CryptoLending.Valuation.ValuationRendering

open Lib Lib.JsValue ValuationRequest

/-- The object that names an asset. -/
def assetValue (asset : StablecoinValuationAssetReference) : Value :=
  ofFields
    [("registryEnvironment", .string registryEnvironment),
      ("registryVersion", .integer registryVersion),
      ("registryFingerprintSha256", .string asset.registryFingerprintSha256),
      ("stablecoin", .string asset.stablecoin.text), ("networkId", .string asset.networkId),
      ("identity", .string asset.identity), ("decimals", .integer asset.decimals)]

def confidenceValue : StablecoinPriceConfidence → Value
  | .publishedAbsoluteUsd mantissa scale =>
    ofFields
      [("kind", .string "PUBLISHED_ABSOLUTE_USD"), ("mantissa", .string mantissa.text),
        ("scale", .integer scale)]
  | .notPublished => ofFields [("kind", .string "NOT_PUBLISHED")]

def observationFields (o : StablecoinPriceObservation) : Record :=
  [("asset", assetValue o.asset), ("sourceId", .string o.sourceId.text),
    ("sourceReference", .string o.sourceReference),
    ("sourceSequence", .string o.sourceSequence.text),
    ("sourceUpdateId", .string o.sourceUpdateId), ("pricedAt", .string o.pricedAt.text),
    ("observedAt", .string o.observedAt.text),
    ("usdRateMantissa", .string o.usdRateMantissa.text),
    ("usdRateScale", .integer o.usdRateScale), ("confidence", confidenceValue o.confidence)]

/-- The public view of an observation. -/
def publicObservation (o : StablecoinPriceObservation) : Value := ofFields (observationFields o)

def firstUseWatermark (sourceId : StablecoinValuationSourceId) : Value :=
  ofFields
    [("sourceId", .string sourceId.text), ("lastAcceptedSequence", .null),
      ("lastAcceptedPricedAt", .null), ("lastAcceptedObservedAt", .null),
      ("lastAcceptedUpdateId", .null)]

/-- The watermarks of sources from which nothing was accepted yet. -/
def firstUseWatermarks : Value := ofItems (stablecoinValuationSources.map firstUseWatermark)

theorem parseNumeral_text {kind : List Char → Bool} {maximum : Nat} (n : Numeral kind maximum) :
    parseNumeral (.string n.text) = some n := by
  simp [parseNumeral, Value.string?, n.kind_text, n.length_le]

theorem parseTimestamp_text (t : Instant) : parseTimestamp (.string t.text) = some t := by
  simp [parseTimestamp, Value.string?, IsoDate.Timestamp.ofText_self, t.nonneg]

theorem parseScale_integer {n : Nat} (h : n ≤ maxRateScale) :
    parseScale (.integer n) = some n := by
  simp [parseScale, Value.integer?, h]

theorem parseSourceId_text (sourceId : StablecoinValuationSourceId) :
    parseSourceId (.string sourceId.text) = some sourceId := by
  cases sourceId <;> decide

theorem parseStablecoin_text (stablecoin : Blockchain.AssetRegistry.SupportedStablecoin) :
    parseStablecoin (.string stablecoin.text) = some stablecoin := by
  cases stablecoin <;> decide

theorem parseAsset_assetValue (asset : StablecoinValuationAssetReference) :
    parseAsset (assetValue asset) = some asset := by
  have hrecord : exactRecord (assetValue asset) assetKeys = some _ :=
    exactRecord_ofFields (by decide : assetKeys.Nodup)
  simp [parseAsset, hrecord, get_cons, Value.string?, Value.integer?, Value.isText,
    Value.isNumber, parseStablecoin_text, asset.decimals_le, asset.active]

theorem parseConfidence_confidenceValue {confidence : StablecoinPriceConfidence}
    {sourceId : StablecoinValuationSourceId} (h : confidence.Fits sourceId) :
    parseConfidence (confidenceValue confidence) sourceId = some ⟨confidence, h⟩ := by
  cases sourceId with
  | pythCore =>
    cases confidence with
    | notPublished => exact absurd h id
    | publishedAbsoluteUsd mantissa scale =>
      obtain rfl : scale = normalizedUsdRateScale := h
      have hrecord : exactRecord
          (confidenceValue (.publishedAbsoluteUsd mantissa normalizedUsdRateScale))
          ["kind", "mantissa", "scale"] = some _ :=
        exactRecord_ofFields (by decide : ["kind", "mantissa", "scale"].Nodup)
      have hparse : parseScale (.integer normalizedUsdRateScale) = some normalizedUsdRateScale :=
        parseScale_integer (by decide)
      simp [parseConfidence, hrecord, get_cons, hparse, parseNumeral_text, Value.isText,
        Value.string?]
  | chainlinkDataFeeds =>
    cases confidence with
    | publishedAbsoluteUsd mantissa scale => exact absurd h id
    | notPublished => rfl

/-- The public view of an observation is read as that observation. -/
theorem parseObservation_publicObservation (o : StablecoinPriceObservation) :
    parseObservation (publicObservation o) o.asset = some o := by
  have hrecord : exactRecord (publicObservation o) observationKeys = some (observationFields o) :=
    exactRecord_ofFields (by decide : observationKeys.Nodup)
  have hscale : parseScale (.integer o.usdRateScale) = some o.usdRateScale :=
    parseScale_integer (by rw [o.scale_eq]; decide)
  have hasset : (observationFields o).get "asset" = assetValue o.asset := rfl
  have hsource : (observationFields o).get "sourceId" = .string o.sourceId.text := rfl
  have hreference : (observationFields o).get "sourceReference" = .string o.sourceReference := rfl
  have hsequence : (observationFields o).get "sourceSequence" = .string o.sourceSequence.text := rfl
  have hupdate : (observationFields o).get "sourceUpdateId" = .string o.sourceUpdateId := rfl
  have hpriced : (observationFields o).get "pricedAt" = .string o.pricedAt.text := rfl
  have hobserved : (observationFields o).get "observedAt" = .string o.observedAt.text := rfl
  have hmantissa : (observationFields o).get "usdRateMantissa" =
    .string o.usdRateMantissa.text := rfl
  have hrate : (observationFields o).get "usdRateScale" = .integer o.usdRateScale := rfl
  have hconfidence : (observationFields o).get "confidence" = confidenceValue o.confidence := rfl
  simp only [parseObservation, hrecord, hasset, hsource, hreference, hsequence, hupdate, hpriced,
    hobserved, hmantissa, hrate, hconfidence, parseAsset_assetValue, parseSourceId_text,
    parseNumeral_text, hscale, parseTimestamp_text, parseConfidence_confidenceValue o.confidence_fits,
    Value.string?, Option.bind_eq_bind, Option.bind_some, Option.pure_def, guard, if_true]
  rw [dif_pos ⟨o.reference_eq, o.updateId_valid, o.scale_eq⟩]

end CryptoLending.Valuation.ValuationRendering
