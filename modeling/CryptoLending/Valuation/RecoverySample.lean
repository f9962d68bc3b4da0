import CryptoLending.Valuation.RecoveryEvidence
import CryptoLending.Valuation.ValuationRate

namespace CryptoLending.Valuation.RecoverySample

open Lib Lib.JsValue Lib.Decimal ValuationRequest ValuationAssessment StablecoinValuation
  ValuationRendering ValuationRate StablecoinRecovery RecoveryEvidence

/-- The amount by which samples are valued. -/
def oneAmount : AtomicAmount :=
  ⟨⟨"1", by decide, by decide⟩, by decide⟩

variable {asset : StablecoinValuationAssetReference}

/-- The request by which a sample is valued, as it is read. -/
def parsedSampleRequest (x : ParsedRecoverySample asset) : ParsedRequest where
  asset := asset
  amountAtomic := oneAmount
  evaluatedAt := x.evaluatedAt
  sourceWatermarks := stablecoinValuationSources.map (⟨·, none⟩)
  observations := x.observations
  watermarks_unique := by decide

theorem parseSourceWatermark_firstUse (sourceId : StablecoinValuationSourceId) :
    parseSourceWatermark (firstUseWatermark sourceId) = some ⟨sourceId, none⟩ := by
  have hrecord : exactRecord (firstUseWatermark sourceId) watermarkKeys = some _ :=
    exactRecord_ofFields (by decide : watermarkKeys.Nodup)
  simp [parseSourceWatermark, hrecord, get_cons, parseSourceId_text]

theorem parseWatermarks_firstUse :
    (stablecoinValuationSources.map firstUseWatermark).mapM parseSourceWatermark =
      some (stablecoinValuationSources.map (⟨·, none⟩)) := by
  rw [ListOption.mapM_eq_some, List.forall₂_map_left_iff, List.forall₂_map_right_iff,
    List.forall₂_same]
  exact fun s _ => parseSourceWatermark_firstUse s

section FirstUse

variable {amountAtomic : AtomicAmount} {evaluatedAt : Instant}
  {observations : List StablecoinPriceObservation}

/-- The value of a request whose sources have no history. -/
def firstUseValue (asset : StablecoinValuationAssetReference) (amountAtomic : AtomicAmount)
    (evaluatedAt : Instant) (observations : List StablecoinPriceObservation) : Value :=
  ofFields
    [("asset", assetValue asset), ("amountAtomic", .string amountAtomic.text),
      ("evaluatedAt", .string evaluatedAt.text), ("sourceWatermarks", firstUseWatermarks),
      ("observations", ofItems (observations.map publicObservation))]

/-- The request that is read from it. -/
def firstUseRequest (asset : StablecoinValuationAssetReference) (amountAtomic : AtomicAmount)
    (evaluatedAt : Instant) (observations : List StablecoinPriceObservation) : ParsedRequest where
  asset := asset
  amountAtomic := amountAtomic
  evaluatedAt := evaluatedAt
  sourceWatermarks := stablecoinValuationSources.map (⟨·, none⟩)
  observations := observations
  watermarks_unique := by decide

theorem parseAmount_text (amount : AtomicAmount) :
    parseAmount (.string amount.text) = some amount := by
  simp only [parseAmount, parseNumeral_text, Option.bind_eq_bind, Option.bind_some]
  exact dif_pos amount.within

theorem parseObservations_public (hasset : ∀ o ∈ observations, o.asset = asset) :
    (observations.map publicObservation).mapM (parseObservation · asset) = some observations := by
  rw [ListOption.mapM_eq_some, List.forall₂_map_left_iff, List.forall₂_same]
  intro o ho
  rw [← hasset o ho]
  exact parseObservation_publicObservation o

theorem parseRequest_firstUse (hasset : ∀ o ∈ observations, o.asset = asset)
    (h : observations.length ≤ maxObservations) :
    parseRequest (firstUseValue asset amountAtomic evaluatedAt observations) =
      some (firstUseRequest asset amountAtomic evaluatedAt observations) := by
  have hrecord : exactRecord (firstUseValue asset amountAtomic evaluatedAt observations)
      requestKeys = some _ := exactRecord_ofFields (by decide : requestKeys.Nodup)
  have hlength : 0 ≤ (observations.map publicObservation).length ∧
      (observations.map publicObservation).length ≤ maxObservations := by
    rw [List.length_map]
    exact ⟨Nat.zero_le _, h⟩
  have hwatermarks : exactArray firstUseWatermarks stablecoinValuationSources.length
      stablecoinValuationSources.length = some _ :=
    exactArray_ofItems (by rw [List.length_map]; exact ⟨le_rfl, le_rfl⟩)
  simp only [parseRequest, hrecord, get_cons, Option.bind_eq_bind, Option.bind_some,
    String.reduceEq, if_true, if_false, parseAsset_assetValue, parseAmount_text,
    parseTimestamp_text, hwatermarks, parseWatermarks_firstUse, exactArray_ofItems hlength,
    parseObservations_public hasset]
  exact dif_pos (firstUseRequest asset amountAtomic evaluatedAt observations).watermarks_unique

theorem evaluateStablecoinValuation_firstUse (hasset : ∀ o ∈ observations, o.asset = asset)
    (h : observations.length ≤ maxObservations) :
    evaluateStablecoinValuation (firstUseValue asset amountAtomic evaluatedAt observations) =
      valuate (firstUseRequest asset amountAtomic evaluatedAt observations) := by
  rw [evaluateStablecoinValuation, parseRequest_firstUse hasset h]

end FirstUse

theorem valuation_eq (x : ParsedRecoverySample asset) :
    x.valuation = valuate (parsedSampleRequest x) := by
  have hlength : x.observations.length ≤ maxObservations := by
    rw [x.observations_length]
    decide
  have hvalue : sampleRequest asset x.evaluatedAt x.observations =
      firstUseValue asset oneAmount x.evaluatedAt x.observations := rfl
  rw [x.valuation_eq, hvalue, evaluateStablecoinValuation_firstUse x.observations_asset hlength]
  rfl

section Current

variable (x : ParsedRecoverySample asset)

theorem sortedObservations_sample (s : StablecoinValuationSourceId) :
    sortedObservations (parsedSampleRequest x) s = [observation x s] := by
  simp only [sortedObservations, parsedSampleRequest, filter_observations]
  rfl

/-- A sample's source is current with its one observation. -/
theorem eligibleCurrent_observation {x : ParsedRecoverySample asset}
    {s : StablecoinValuationSourceId} {o : StablecoinPriceObservation} {rate : FixedDecimal}
    {lowered : Bool} (h : EligibleCurrent (parsedSampleRequest x) s o rate lowered) :
    o = observation x s := by
  have hlast := h.last
  rw [sortedObservations_sample] at hlast
  exact (Option.some.inj hlast).symm

/-- Both sources of a sample are current, with these rates. -/
structure BothCurrent (pythRate : FixedDecimal) (pythLowered : Bool)
    (chainlinkRate : FixedDecimal) (chainlinkLowered : Bool) : Prop where
  pyth : EligibleCurrent (parsedSampleRequest x) .pythCore (observation x .pythCore) pythRate
    pythLowered
  chainlink : EligibleCurrent (parsedSampleRequest x) .chainlinkDataFeeds
    (observation x .chainlinkDataFeeds) chainlinkRate chainlinkLowered

theorem valuation_assessments : x.valuation.sourceAssessments =
    [(assessSource (parsedSampleRequest x) .pythCore .primary).publicAssessment,
      (assessSource (parsedSampleRequest x) .chainlinkDataFeeds
        .fallbackAndCrossCheck).publicAssessment] := by
  rw [valuation_eq, valuate_assessments]
  rfl

theorem allCurrent_iff :
    (∀ a ∈ x.valuation.sourceAssessments, a.eligibility = .eligibleCurrent) ↔
      ∃ pythRate pythLowered chainlinkRate chainlinkLowered,
        BothCurrent x pythRate pythLowered chainlinkRate chainlinkLowered := by
  simp only [valuation_assessments, List.forall_mem_cons, List.not_mem_nil, false_implies,
    implies_true, and_true]
  constructor
  · rintro ⟨hp, hc⟩
    obtain ⟨o, rate, lowered, h, _⟩ | ⟨h, _⟩ :=
      assessSource_cases (parsedSampleRequest x) .pythCore .primary
    · obtain ⟨o', rate', lowered', h', _⟩ | ⟨h', _⟩ :=
        assessSource_cases (parsedSampleRequest x) .chainlinkDataFeeds .fallbackAndCrossCheck
      · exact ⟨rate, lowered, rate', lowered', eligibleCurrent_observation h ▸ h,
          eligibleCurrent_observation h' ▸ h'⟩
      · exact absurd hc h'.2
    · exact absurd hp h.2
  · rintro ⟨_, _, _, _, h⟩
    rw [assessSource_eq h.pyth, assessSource_eq h.chainlink]
    exact ⟨rfl, rfl⟩

end Current

/-- The candidate of a source of a sample. -/
def sampleCandidate (x : ParsedRecoverySample asset) (s : StablecoinValuationSourceId)
    (role : SourceRole) (rate : FixedDecimal) (lowered : Bool) : SourceCandidate :=
  ⟨⟨s, role, .eligibleCurrent, some (observation x s), some rate⟩, observation x s, rate, .current,
    lowered⟩

section Both

variable {x : ParsedRecoverySample asset} {pythRate chainlinkRate : FixedDecimal}
  {pythLowered chainlinkLowered : Bool}
  (h : BothCurrent x pythRate pythLowered chainlinkRate chainlinkLowered)
include h

theorem selectionPool_sample : selectionPool (parsedSampleRequest x) =
    [sampleCandidate x .pythCore .primary pythRate pythLowered,
      sampleCandidate x .chainlinkDataFeeds .fallbackAndCrossCheck chainlinkRate
        chainlinkLowered] := by
  simp only [selectionPool, internalAssessments, sourceOrder, List.map_cons, List.map_nil,
    assessSource_eq h.pyth, assessSource_eq h.chainlink]
  rfl

theorem valuation_rates : (∀ a ∈ x.valuation.sourceAssessments,
    ∃ rate, a.conservativeUsdRate = some rate ∧ 9975 / 10000 ≤ rate.value) ↔
      9975 / 10000 ≤ pythRate.value ∧ 9975 / 10000 ≤ chainlinkRate.value := by
  simp [valuation_assessments, assessSource_eq h.pyth, assessSource_eq h.chainlink,
    currentAssessment]

end Both

theorem classifySourceAgreement_eq_corroborated (a b : FixedDecimal) :
    classifySourceAgreement a b = .corroborated ↔ |a.value - b.value| ≤ 25 / 10000 := by
  have h := absoluteUsdAmountExceedsBps_iff (absoluteDifference a b) corroboratedAtOrBelowBps
  rw [value_absoluteDifference, ← not_le] at h
  by_cases he : absoluteUsdAmountExceedsBps (absoluteDifference a b) corroboratedAtOrBelowBps = true
  · refine iff_of_false ?_ (by simpa [corroboratedAtOrBelowBps] using h.mp he)
    simp only [classifySourceAgreement, he, Bool.not_true, Bool.false_eq_true, if_false]
    split <;> decide
  · refine iff_of_true ?_ (by simpa [corroboratedAtOrBelowBps] using mt h.mpr he)
    simp only [classifySourceAgreement, he, Bool.not_false, if_true]

theorem valuationWithinRecoveryBand_iff {v : StablecoinValuationResult} {rate : FixedDecimal}
    (havailable : v.availability = .available) (hrate : v.usdRate = some rate)
    (hle : rate.value ≤ 1) :
    valuationWithinRecoveryBand v = true ↔ 9975 / 10000 ≤ rate.value := by
  have hband := absoluteUsdAmountExceedsBps_iff (subtractFixedFloorZero ⟨100000000, 8⟩ rate)
    withinPegBps
  rw [value_subtractFixedFloorZero, value_peg, max_eq_right (by linarith)] at hband
  have hpeg : compareFixed rate ⟨100000000, 8⟩ ≠ .gt := by
    rw [compareFixed_ne_gt, value_peg]
    exact hle
  rw [valuationWithinRecoveryBand, havailable, hrate, Option.any_some, Bool.and_eq_true,
    Bool.and_eq_true, decide_eq_true_iff, decide_eq_true_iff]
  simp only [hpeg, true_and, ne_eq, not_false_eq_true, Bool.not_eq_true']
  rw [← Bool.not_eq_true, hband, withinPegBps, not_lt]
  constructor <;> intro h <;> norm_num at h ⊢ <;> linarith

theorem valuationWithinRecoveryBand_pricedResult (request : ParsedRequest)
    (first : SourceCandidate) (rest : List SourceCandidate)
    (l : List StablecoinSourceAssessment) (agreement : StablecoinSourceAgreement)
    (confidence : StablecoinValuationConfidenceClass) (usdValue : Nat) :
    valuationWithinRecoveryBand
        (pricedResult request first rest l agreement confidence usdValue) = true ↔
      ∀ c ∈ first :: rest, 9975 / 10000 ≤ c.conservativeRate.value := by
  have hmin : ∀ l : List ℚ, 9975 / 10000 ≤ l.foldr min 1 ↔ ∀ q ∈ l, 9975 / 10000 ≤ q := by
    intro l
    induction l with
    | nil => norm_num
    | cons q l ih => simp only [List.foldr_cons, le_min_iff, ih, List.forall_mem_cons]
  have hband := valuationWithinRecoveryBand_iff
    (v := pricedResult request first rest l agreement confidence usdValue) rfl rfl
    (value_effectiveRate_le (lowestCandidate first rest))
  rw [hband, value_effectiveRate_lowest, hmin, List.forall_mem_map]

theorem pricedResult_confidenceClass {request : ParsedRequest} {first : SourceCandidate}
    {rest : List SourceCandidate} (hpool : selectionPool request = first :: rest)
    (l : List StablecoinSourceAssessment) (agreement : StablecoinSourceAgreement)
    (confidence : StablecoinValuationConfidenceClass) (usdValue : Nat) :
    (pricedResult request first rest l agreement confidence usdValue).confidenceClass =
      confidence := by
  have hall : (first :: rest).all (fun c => c.freshness = .current) = true := by
    rw [List.all_eq_true, ← hpool]
    exact fun c hc => decide_eq_true (selectionPool_current hc)
  simp only [pricedResult, hall, if_true, reduceCtorEq, if_false]

/-- A sample whose sources are both current meets the rest of the recovery rules exactly when
the sources agree, the confidence is narrow and both rates are near the peg. -/
theorem sampleAccepted_iff {x : ParsedRecoverySample asset} {pythRate chainlinkRate : FixedDecimal}
    {pythLowered chainlinkLowered : Bool}
    (h : BothCurrent x pythRate pythLowered chainlinkRate chainlinkLowered) :
    ((x.valuation.availability = .available ∧ x.valuation.sourceAgreement = .corroborated ∧
        x.valuation.confidenceClass = .medium) ∧ valuationWithinRecoveryBand x.valuation = true) ↔
      |(observation x .pythCore).rate.value - (observation x .chainlinkDataFeeds).rate.value| ≤
          25 / 10000 ∧
        (∃ confidence, (observation x .pythCore).confidenceAmount = some confidence ∧
          confidence.value ≤ 25 / 10000) ∧
        9975 / 10000 ≤ pythRate.value ∧ 9975 / 10000 ≤ chainlinkRate.value := by
  have hpool := selectionPool_sample h
  have hmedium : pythConfidenceAllowsMedium
      [sampleCandidate x .pythCore .primary pythRate pythLowered,
        sampleCandidate x .chainlinkDataFeeds .fallbackAndCrossCheck chainlinkRate
          chainlinkLowered] = true ↔
      ∃ confidence, (observation x .pythCore).confidenceAmount = some confidence ∧
        confidence.value ≤ 25 / 10000 := by
    have hfind : ∀ c : FixedDecimal, (!absoluteUsdAmountExceedsBps c
        mediumPublishedWidthAtOrBelowBps) = true ↔ c.value ≤ 25 / 10000 := fun c => by
      have he := absoluteUsdAmountExceedsBps_iff c mediumPublishedWidthAtOrBelowBps
      rw [Bool.not_eq_true', ← Bool.not_eq_true, he, not_lt, mediumPublishedWidthAtOrBelowBps]
      norm_num
    simp only [pythConfidenceAllowsMedium, sampleCandidate, observation_sourceId,
      List.find?_cons, decide_true, Option.bind_some, Option.any_eq_true, hfind]
  have hagreement := classifySourceAgreement_eq_corroborated
    (observation x .pythCore).rate (observation x .chainlinkDataFeeds).rate
  have hvalued := valuate_valued (parsedSampleRequest x)
  rw [valuation_eq]
  generalize valuate (parsedSampleRequest x) = result at hvalued
  cases hvalued with
  | noSource hp => cases hpool.symm.trans hp
  | conflict hp hconflict =>
    obtain ⟨rfl, rfl⟩ : _ ∧ _ := by simpa using hpool.symm.trans hp
    have hne : classifySourceAgreement (observation x .pythCore).rate
        (observation x .chainlinkDataFeeds).rate ≠ .corroborated := by
      rw [show classifySourceAgreement (observation x .pythCore).rate
        (observation x .chainlinkDataFeeds).rate = .conflict from hconflict]
      decide
    exact iff_of_false (fun hl => by cases hl.1.1) fun hr => hne (hagreement.mpr hr.1)
  | @corroborated first second hp agreement hconflict hagree =>
    obtain ⟨rfl, rfl⟩ : _ ∧ _ := by simpa using hpool.symm.trans hp
    have heq : agreement = .corroborated ↔
        |(observation x .pythCore).rate.value - (observation x .chainlinkDataFeeds).rate.value| ≤
          25 / 10000 := by
      rw [← hagreement, ← hagree]
      rfl
    rw [valuationWithinRecoveryBand_pricedResult, ← hmedium, ← heq]
    simp only [List.forall_mem_cons, List.not_mem_nil, false_implies, implies_true, and_true]
    rw [pricedResult_confidenceClass hp]
    constructor
    · rintro ⟨⟨_, hcorroborated, hmedium⟩, hrates⟩
      obtain rfl : agreement = .corroborated := hcorroborated
      refine ⟨rfl, ?_, hrates⟩
      simpa using hmedium
    · rintro ⟨rfl, hmedium, hrates⟩
      exact ⟨⟨rfl, rfl, by simp [hmedium]⟩, hrates⟩
  | single hp hrest =>
    obtain ⟨rfl, rfl⟩ := List.cons.inj (hpool.symm.trans hp)
    exact absurd rfl hrest

section Values

/-- The value that is read as a sample. -/
def sampleValue (x : ParsedRecoverySample asset) : Value :=
  ofFields [("evaluatedAt", .string x.evaluatedAt.text),
    ("observations", ofItems (x.observations.map publicObservation))]

theorem parseRecoverySample_sampleValue (x : ParsedRecoverySample asset) :
    parseRecoverySample (sampleValue x) asset = some x := by
  have hrecord : exactRecord (sampleValue x) ["evaluatedAt", "observations"] = some _ :=
    exactRecord_ofFields (by decide : ["evaluatedAt", "observations"].Nodup)
  have hlength : 2 ≤ (x.observations.map publicObservation).length ∧
      (x.observations.map publicObservation).length ≤ 2 := by
    rw [List.length_map, x.observations_length]
    decide
  have hvalid := And.intro x.observations_asset
    (And.intro x.observations_length x.sources_unique)
  have hvaluation := x.valuation_eq
  simp only [parseRecoverySample, hrecord, get_cons, Option.bind_eq_bind, Option.bind_some,
    String.reduceEq, if_true, if_false, parseTimestamp_text, exactArray_ofItems hlength,
    parseObservations_public x.observations_asset]
  rw [dif_pos hvalid]
  cases x
  simp only [Option.pure_def, Option.some.injEq, ParsedRecoverySample.mk.injEq, true_and]
  exact hvaluation.symm

def latchValue (latch : StablecoinDepegLatchReference) : Value :=
  ofFields [("asset", assetValue latch.asset), ("latchId", .string latch.latchId),
    ("latchedAt", .string latch.latchedAt.text)]

def riskClearValue (clear : StablecoinManualRiskClearReference) : Value :=
  ofFields [("asset", assetValue clear.asset), ("clearId", .string clear.clearId),
    ("latchId", .string clear.latchId), ("clearedAt", .string clear.clearedAt.text)]

theorem parseDepegLatchReference_latchValue {latch : StablecoinDepegLatchReference}
    (hid : parseRecoveryEventId (.string latch.latchId) = some latch.latchId) :
    parseDepegLatchReference (latchValue latch) latch.asset = some latch := by
  have hrecord : exactRecord (latchValue latch) ["asset", "latchId", "latchedAt"] = some _ :=
    exactRecord_ofFields (by decide : ["asset", "latchId", "latchedAt"].Nodup)
  simp [parseDepegLatchReference, hrecord, get_cons, parseAsset_assetValue,
    hid, parseTimestamp_text]

theorem parseManualRiskClearReference_riskClearValue
    {clear : StablecoinManualRiskClearReference}
    (hid : parseRecoveryEventId (.string clear.clearId) = some clear.clearId)
    (hlatch : parseRecoveryEventId (.string clear.latchId) = some clear.latchId) :
    parseManualRiskClearReference (riskClearValue clear) clear.asset = some clear := by
  have hrecord : exactRecord (riskClearValue clear) ["asset", "clearId", "latchId", "clearedAt"] =
      some _ :=
    exactRecord_ofFields (by decide : ["asset", "clearId", "latchId", "clearedAt"].Nodup)
  simp [parseManualRiskClearReference, hrecord, get_cons, parseAsset_assetValue,
    hid, hlatch, parseTimestamp_text]

/-- The value of a request to clear a latch. -/
def clearedRequestValue (evaluatedAt : Instant) (latch : StablecoinDepegLatchReference)
    (clear : StablecoinManualRiskClearReference)
    (samples : List (ParsedRecoverySample asset)) : Value :=
  ofFields [("asset", assetValue asset), ("evaluatedAt", .string evaluatedAt.text),
    ("depegLatch", latchValue latch), ("manualRiskClear", riskClearValue clear),
    ("samples", ofItems (samples.map sampleValue))]

theorem parseRecoveryRequest_cleared {request : ParsedRecoveryRequest}
    {latch : StablecoinDepegLatchReference} {clear : StablecoinManualRiskClearReference}
    (hlatch : request.depegLatch = some latch) (hclear : request.manualRiskClear = some clear)
    (hid : parseRecoveryEventId (.string latch.latchId) = some latch.latchId)
    (hclearId : parseRecoveryEventId (.string clear.clearId) = some clear.clearId)
    (hcleared : parseRecoveryEventId (.string clear.latchId) = some clear.latchId)
    (hne : clear.clearId ≠ latch.latchId) (hlength : request.samples.length ≤ maxObservations) :
    parseRecoveryRequest (clearedRequestValue request.evaluatedAt latch clear request.samples) =
      some request := by
  obtain ⟨asset, evaluatedAt, depegLatch, manualRiskClear, samples, hl, hc⟩ := request
  obtain rfl : depegLatch = some latch := hlatch
  obtain rfl : manualRiskClear = some clear := hclear
  obtain rfl : latch.asset = asset := hl latch rfl
  have hrecord : exactRecord (clearedRequestValue evaluatedAt latch clear samples)
      ["asset", "evaluatedAt", "depegLatch", "manualRiskClear", "samples"] = some _ :=
    exactRecord_ofFields
      (by decide : ["asset", "evaluatedAt", "depegLatch", "manualRiskClear", "samples"].Nodup)
  have hclear := parseManualRiskClearReference_riskClearValue hclearId hcleared
  rw [hc clear rfl] at hclear
  have hitems : 0 ≤ (samples.map sampleValue).length ∧
      (samples.map sampleValue).length ≤ maxObservations := by
    rw [List.length_map]
    exact ⟨Nat.zero_le _, hlength⟩
  have hsamples : (samples.map sampleValue).mapM (parseRecoverySample · latch.asset) =
      some samples := by
    rw [ListOption.mapM_eq_some, List.forall₂_map_left_iff, List.forall₂_same]
    exact fun x _ => parseRecoverySample_sampleValue x
  have hlatchNull : (latchValue latch).isNull = false := rfl
  have hclearNull : (riskClearValue clear).isNull = false := rfl
  simp only [parseRecoveryRequest, hrecord, get_cons, Option.bind_eq_bind, Option.bind_some,
    String.reduceEq, if_true, if_false, parseAsset_assetValue, parseTimestamp_text,
    parseOptional, hlatchNull, hclearNull, Bool.false_eq_true,
    parseDepegLatchReference_latchValue hid, hclear, Option.map_some,
    exactArray_ofItems hitems, hsamples, Option.any_some, hne, guard]
  simp [hc]

end Values

end CryptoLending.Valuation.RecoverySample
