import CryptoLending.Lib.JsRearranged
import CryptoLending.Valuation.StablecoinRecovery

namespace CryptoLending.Valuation.RequestRearranged

open Lib Lib.JsValue
open ValuationRequest StablecoinValuation StablecoinRecovery

variable {v w : Value}

theorem parseNumeral_eq {kind : List Char → Bool} {maximum : Nat} (h : Rearranged v w) :
    (parseNumeral v : Option (Numeral kind maximum)) = parseNumeral w := by
  rw [parseNumeral, parseNumeral, h.string?]

theorem parseAmount_eq (h : Rearranged v w) : parseAmount v = parseAmount w := by
  rw [parseAmount, parseAmount, parseNumeral_eq h]

theorem parseScale_eq (h : Rearranged v w) : parseScale v = parseScale w := by
  rw [parseScale, parseScale, h.integer?]

theorem parseTimestamp_eq (h : Rearranged v w) : parseTimestamp v = parseTimestamp w := by
  rw [parseTimestamp, parseTimestamp, h.string?]

theorem parseSourceId_eq (h : Rearranged v w) : parseSourceId v = parseSourceId w := by
  rw [parseSourceId, parseSourceId, h.string?]

theorem parseStablecoin_eq (h : Rearranged v w) : parseStablecoin v = parseStablecoin w := by
  rw [parseStablecoin, parseStablecoin, h.string?]

theorem parseAsset_eq (h : Rearranged v w) : parseAsset v = parseAsset w := by
  apply Rearranged.bind_eq (h.exactRecord _)
  intro r r' hr
  rw [(hr "registryEnvironment").isText, (hr "registryVersion").isNumber,
    (hr "registryFingerprintSha256").string?, parseStablecoin_eq (hr "stablecoin"),
    (hr "networkId").string?, (hr "identity").string?, (hr "decimals").integer?]

theorem parseConfidence_eq (h : Rearranged v w) (sourceId : StablecoinValuationSourceId) :
    parseConfidence v sourceId = parseConfidence w sourceId := by
  cases sourceId with
  | pythCore =>
    apply Rearranged.bind_eq (h.exactRecord _)
    intro r r' hr
    rw [parseScale_eq (hr "scale"), (hr "kind").isText, parseNumeral_eq (hr "mantissa")]
  | chainlinkDataFeeds =>
    apply Rearranged.bind_eq (h.exactRecord _)
    intro r r' hr
    rw [(hr "kind").isText]

theorem parseObservation_eq (asset : StablecoinValuationAssetReference) (v w : Value)
    (h : Rearranged v w) : parseObservation v asset = parseObservation w asset := by
  apply Rearranged.bind_eq (h.exactRecord _)
  intro r r' hr
  have hconfidence : parseConfidence (r.get "confidence") = parseConfidence (r'.get "confidence") :=
    funext (parseConfidence_eq (hr "confidence"))
  rw [parseAsset_eq (hr "asset"), parseSourceId_eq (hr "sourceId"), (hr "sourceReference").string?,
    parseNumeral_eq (hr "sourceSequence"), (hr "sourceUpdateId").string?,
    parseNumeral_eq (hr "usdRateMantissa"), parseScale_eq (hr "usdRateScale"),
    parseTimestamp_eq (hr "pricedAt"), parseTimestamp_eq (hr "observedAt"), hconfidence]

theorem parseLastAccepted_eq {r r' : Record} (hr : RelatedRecord (fun _ => Rearranged) r r')
    (sourceId : StablecoinValuationSourceId) :
    parseLastAccepted r sourceId = parseLastAccepted r' sourceId := by
  rw [parseLastAccepted, parseLastAccepted, parseNumeral_eq (hr "lastAcceptedSequence"),
    (hr "lastAcceptedUpdateId").string?, parseTimestamp_eq (hr "lastAcceptedPricedAt"),
    parseTimestamp_eq (hr "lastAcceptedObservedAt")]

theorem parseSourceWatermark_eq (v w : Value) (h : Rearranged v w) :
    parseSourceWatermark v = parseSourceWatermark w := by
  apply Rearranged.bind_eq (h.exactRecord _)
  intro r r' hr
  rw [parseSourceId_eq (hr "sourceId"), (hr "lastAcceptedSequence").isNull,
    (hr "lastAcceptedPricedAt").isNull, (hr "lastAcceptedObservedAt").isNull,
    (hr "lastAcceptedUpdateId").isNull]
  refine bind_congr fun sourceId => ?_
  rw [parseLastAccepted_eq hr]

theorem parseRequest_eq (h : Rearranged v w) : parseRequest v = parseRequest w := by
  apply Rearranged.bind_eq (h.exactRecord _)
  intro r r' hr
  rw [parseAsset_eq (hr "asset"), parseAmount_eq (hr "amountAtomic"),
    parseTimestamp_eq (hr "evaluatedAt")]
  refine bind_congr fun asset => bind_congr fun amountAtomic => bind_congr fun evaluatedAt => ?_
  apply Rearranged.bind_eq ((hr "sourceWatermarks").exactArray _ _)
  intro watermarks watermarks' hwatermarks
  rw [Rearranged.mapM_eq parseSourceWatermark_eq hwatermarks]
  refine bind_congr fun sourceWatermarks => ?_
  apply Rearranged.bind_eq ((hr "observations").exactArray _ _)
  intro observations observations' hobservations
  rw [Rearranged.mapM_eq (parseObservation_eq asset) hobservations]

/-- A valuation does not depend on the order of keys. -/
theorem evaluateStablecoinValuation_eq (h : Rearranged v w) :
    evaluateStablecoinValuation v = evaluateStablecoinValuation w := by
  rw [evaluateStablecoinValuation, evaluateStablecoinValuation, parseRequest_eq h]

section Recovery

theorem parseRecoveryEventId_eq (h : Rearranged v w) :
    parseRecoveryEventId v = parseRecoveryEventId w := by
  rw [parseRecoveryEventId, parseRecoveryEventId, h.string?]

theorem parseDepegLatchReference_eq (h : Rearranged v w)
    (asset : StablecoinValuationAssetReference) :
    parseDepegLatchReference v asset = parseDepegLatchReference w asset := by
  apply Rearranged.bind_eq (h.exactRecord _)
  intro r r' hr
  rw [parseAsset_eq (hr "asset"), parseRecoveryEventId_eq (hr "latchId"),
    parseTimestamp_eq (hr "latchedAt")]

theorem parseManualRiskClearReference_eq (h : Rearranged v w)
    (asset : StablecoinValuationAssetReference) :
    parseManualRiskClearReference v asset = parseManualRiskClearReference w asset := by
  apply Rearranged.bind_eq (h.exactRecord _)
  intro r r' hr
  rw [parseAsset_eq (hr "asset"), parseRecoveryEventId_eq (hr "clearId"),
    parseRecoveryEventId_eq (hr "latchId"), parseTimestamp_eq (hr "clearedAt")]

theorem parseRecoverySample_eq (asset : StablecoinValuationAssetReference) (v w : Value)
    (h : Rearranged v w) : parseRecoverySample v asset = parseRecoverySample w asset := by
  apply Rearranged.bind_eq (h.exactRecord _)
  intro r r' hr
  rw [parseTimestamp_eq (hr "evaluatedAt")]
  refine bind_congr fun evaluatedAt => ?_
  apply Rearranged.bind_eq ((hr "observations").exactArray _ _)
  intro observations observations' hobservations
  rw [Rearranged.mapM_eq (parseObservation_eq asset) hobservations]

theorem parseOptional_eq {α : Type} {parse : Value → Option α} (h : Rearranged v w)
    (hparse : parse v = parse w) : parseOptional v parse = parseOptional w parse := by
  rw [parseOptional, parseOptional, h.isNull, hparse]

theorem parseRecoveryRequest_eq (h : Rearranged v w) :
    parseRecoveryRequest v = parseRecoveryRequest w := by
  apply Rearranged.bind_eq (h.exactRecord _)
  intro r r' hr
  rw [parseAsset_eq (hr "asset"), parseTimestamp_eq (hr "evaluatedAt")]
  refine bind_congr fun asset => bind_congr fun evaluatedAt => ?_
  rw [parseOptional_eq (hr "depegLatch") (parseDepegLatchReference_eq (hr "depegLatch") asset),
    parseOptional_eq (hr "manualRiskClear")
      (parseManualRiskClearReference_eq (hr "manualRiskClear") asset)]
  refine bind_congr fun depegLatch => bind_congr fun manualRiskClear => bind_congr fun _ =>
    bind_congr fun _ => ?_
  apply Rearranged.bind_eq ((hr "samples").exactArray _ _)
  intro samples samples' hsamples
  rw [Rearranged.mapM_eq (parseRecoverySample_eq asset) hsamples]

theorem evaluateStablecoinRecovery_eq (h : Rearranged v w) :
    evaluateStablecoinRecovery v = evaluateStablecoinRecovery w := by
  rw [evaluateStablecoinRecovery, evaluateStablecoinRecovery, parseRecoveryRequest_eq h]

end Recovery

end CryptoLending.Valuation.RequestRearranged
