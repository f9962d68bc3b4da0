import CryptoLending.Valuation.ValuationOrder

namespace CryptoLending.Valuation.ConservativeValuation

open Lib Lib.JsValue Lib.Decimal ValuationRequest ValuationAssessment StablecoinValuation
  ValuationRate ValuationOrder

/-- A current source with the observation and the rate it was assessed by. -/
structure IsCurrent (a : StablecoinSourceAssessment) (o : StablecoinPriceObservation)
    (rate : FixedDecimal) : Prop where
  eligibility : a.eligibility = .eligibleCurrent
  observation : a.observation = some o
  sourceId : o.sourceId = a.sourceId
  rate : a.conservativeUsdRate = some rate

/-- What an available valuation promises about its numbers. -/
structure IsConservative (request : ParsedRequest) (result : StablecoinValuationResult) : Prop where
  current : ∀ a ∈ result.sourceAssessments, a.eligibility = .eligibleCurrent →
    ∃ o rate, IsCurrent a o rate
  pyth : ∀ a ∈ result.sourceAssessments, ∀ o rate, IsCurrent a o rate → a.sourceId = .pythCore →
    ∃ confidence, o.confidenceAmount = some confidence ∧
      rate.value = max 0 (o.rate.value - confidence.value)
  chainlink : ∀ a ∈ result.sourceAssessments, ∀ o rate, IsCurrent a o rate →
    a.sourceId = .chainlinkDataFeeds → rate.value = o.rate.value
  rate : ∃ rate, result.usdRate = some rate ∧
    rate.value = ((eligibleRates result.sourceAssessments).map (·.value)).foldr min 1
  value : ∃ rate usdValue, result.usdRate = some rate ∧ result.usdValueMantissa = some usdValue ∧
    RoundsHalfEven (request.amountAtomic.value * rate.value *
      (10 : ℚ) ^ ((usdValueScale : ℤ) - request.asset.decimals)) usdValue

theorem sourceId_of_getLast {request : ParsedRequest} {sourceId : StablecoinValuationSourceId}
    {o : StablecoinPriceObservation}
    (h : (sortedObservations request sourceId).getLast? = some o) : o.sourceId = sourceId := by
  have hmem := List.mem_of_getLast? h
  rw [sortedObservations, Sorting.mem_sortBy] at hmem
  simpa using List.of_mem_filter hmem

/-- A current assessment comes from the source's last observation. -/
theorem publicAssessments_current {request : ParsedRequest} {a : StablecoinSourceAssessment}
    (ha : a ∈ publicAssessments request) (hcurrent : a.eligibility = .eligibleCurrent) :
    ∃ o rate lowered, IsCurrent a o rate ∧ EligibleCurrent request a.sourceId o rate lowered := by
  simp only [publicAssessments, internalAssessments, List.map_map, List.mem_map] at ha
  obtain ⟨source, _, rfl⟩ := ha
  obtain ⟨o, rate, lowered, he, heq⟩ | ⟨hr, _⟩ := assessSource_cases request source.1 source.2
  · refine ⟨o, rate, lowered, ?_⟩
    simp only [Function.comp_apply, heq, currentAssessment]
    exact ⟨⟨rfl, rfl, sourceId_of_getLast he.last, rfl⟩, he⟩
  · exact absurd hcurrent hr.2

theorem publicAssessments_rate {request : ParsedRequest} {a : StablecoinSourceAssessment}
    (ha : a ∈ publicAssessments request) {o : StablecoinPriceObservation} {rate : FixedDecimal}
    (h : IsCurrent a o rate) : ∃ lowered, lowerBound a.sourceId o = some (rate, lowered) := by
  obtain ⟨o', rate', lowered, h', he⟩ := publicAssessments_current ha h.eligibility
  obtain rfl : o = o' := Option.some.inj (h.observation.symm.trans h'.observation)
  obtain rfl : rate = rate' := Option.some.inj (h.rate.symm.trans h'.rate)
  exact ⟨lowered, he.rate_eq⟩

theorem pricedResult_conservative {request : ParsedRequest} {first : SourceCandidate}
    {rest : List SourceCandidate} (hpool : selectionPool request = first :: rest)
    (agreement : StablecoinSourceAgreement) (confidence : StablecoinValuationConfidenceClass) :
    IsConservative request (pricedResult request first rest (publicAssessments request) agreement
      confidence (usdValueAt request (effectiveRate (lowestCandidate first rest)))) where
  current _ ha hcurrent := by
    obtain ⟨o, rate, _, h, _⟩ := publicAssessments_current ha hcurrent
    exact ⟨o, rate, h⟩
  pyth a ha o rate h hsource := by
    obtain ⟨lowered, hbound⟩ := publicAssessments_rate ha h
    rw [hsource] at hbound
    exact value_lowerBound_pyth hbound
  chainlink a ha o rate h hsource := by
    obtain ⟨lowered, hbound⟩ := publicAssessments_rate ha h
    rw [hsource] at hbound
    rw [lowerBound_chainlink hbound]
  rate := by
    have hrates := congrArg (List.map FixedDecimal.value) (selectionPool_rates request)
    rw [hpool, List.map_map] at hrates
    refine ⟨effectiveRate (lowestCandidate first rest), rfl, ?_⟩
    rw [value_effectiveRate_lowest]
    exact congrArg (List.foldr min 1) hrates
  value := ⟨effectiveRate (lowestCandidate first rest), _, rfl, rfl, usdValue_rounds _ _ _⟩

theorem valuate_conservative (request : ParsedRequest)
    (havailable : (valuate request).availability = .available) :
    IsConservative request (valuate request) := by
  have h := valuate_valued request
  generalize valuate request = result at h havailable
  cases h with
  | noSource => cases havailable
  | conflict => cases havailable
  | corroborated h => exact pricedResult_conservative h _ _
  | single h => exact pricedResult_conservative h _ _

/-- An available valuation uses the lowest rate, capped at the peg, and does not depend
on the order of what it was given. -/
theorem evaluateStablecoinValuation_conservative (v : Value) :
    (∀ request, parseRequest v = some request →
      (evaluateStablecoinValuation v).availability = .available →
      IsConservative request (evaluateStablecoinValuation v)) ∧
    ∀ w, SamePresentation v w →
      SameValuation (evaluateStablecoinValuation v) (evaluateStablecoinValuation w) := by
  refine ⟨fun request hrequest havailable => ?_, fun w h => evaluateStablecoinValuation_same h⟩
  simp only [evaluateStablecoinValuation, hrequest] at havailable ⊢
  exact valuate_conservative request havailable

section Sample

def sampleAsset : Value :=
  ofFields
    [("registryEnvironment", .string registryEnvironment), ("registryVersion", .integer 1),
      ("registryFingerprintSha256",
        .string Blockchain.AssetRegistry.mainnetSupportedAssetRegistry.fingerprintSha256),
      ("stablecoin", .string "USDC"), ("networkId", .string Blockchain.AssetRegistry.ethereum),
      ("identity", .string "0xa0b86991c6218b36c1d19d4a2e9eb0ce3606eb48"), ("decimals", .integer 6)]

def sampleWatermark (sourceId : StablecoinValuationSourceId) : Value :=
  ofFields
    [("sourceId", .string sourceId.text), ("lastAcceptedSequence", .null),
      ("lastAcceptedPricedAt", .null), ("lastAcceptedObservedAt", .null),
      ("lastAcceptedUpdateId", .null)]

def samplePythObservation : Value :=
  ofFields
    [("asset", sampleAsset), ("sourceId", .string "PYTH_CORE"),
      ("sourceReference", .string (feedReference .usdc .pythCore)),
      ("sourceSequence", .string "7"),
      ("sourceUpdateId", .string (feedReference .usdt .pythCore)),
      ("pricedAt", .string "2026-07-20T00:00:00.000Z"),
      ("observedAt", .string "2026-07-20T00:00:00.000Z"),
      ("usdRateMantissa", .string "99900000"), ("usdRateScale", .integer 8),
      ("confidence", ofFields [("kind", .string "PUBLISHED_ABSOLUTE_USD"),
        ("mantissa", .string "100000"), ("scale", .integer 8)])]

def sampleChainlinkObservation : Value :=
  ofFields
    [("asset", sampleAsset), ("sourceId", .string "CHAINLINK_DATA_FEEDS"),
      ("sourceReference", .string (feedReference .usdc .chainlinkDataFeeds)),
      ("sourceSequence", .string "11"), ("sourceUpdateId", .string "11"),
      ("pricedAt", .string "2026-07-20T00:00:00.000Z"),
      ("observedAt", .string "2026-07-20T00:00:00.000Z"),
      ("usdRateMantissa", .string "100000000"), ("usdRateScale", .integer 8),
      ("confidence", ofFields [("kind", .string "NOT_PUBLISHED")])]

def sampleValuation (watermarks observations : List Value) : Value :=
  ofFields
    [("asset", sampleAsset), ("amountAtomic", .string "2500000"),
      ("evaluatedAt", .string "2026-07-20T00:00:30.000Z"),
      ("sourceWatermarks", ofItems watermarks), ("observations", ofItems observations)]

def sampleWatermarks : List Value := stablecoinValuationSources.map sampleWatermark

def sampleObservations : List Value := [samplePythObservation, sampleChainlinkObservation]

theorem sampleValuation_available :
    (evaluateStablecoinValuation (sampleValuation sampleWatermarks sampleObservations)).availability
      = .available := by
  decide

theorem sampleValuation_samePresentation {ws ws' os os' : List Value} (hw : ws.Perm ws')
    (ho : os.Perm os') : SamePresentation (sampleValuation ws os) (sampleValuation ws' os') := by
  refine ofFields_related ?_
  have hlist : ∀ {l m : List Value} {key : String}, key ∈ ["sourceWatermarks", "observations"] →
      l.Perm m → SameRequestFields key (ofItems l) (ofItems m) := fun hk h => by
    rw [SameRequestFields, if_pos hk]
    exact ofItems_reordered h
  exact .cons ⟨rfl, sameRequestFields_refl _ _⟩ (.cons ⟨rfl, sameRequestFields_refl _ _⟩
    (.cons ⟨rfl, sameRequestFields_refl _ _⟩ (.cons ⟨rfl, hlist (by simp) hw⟩
    (.cons ⟨rfl, hlist (by simp) ho⟩ .nil))))

theorem parseRequest_of_available {v : Value}
    (h : (evaluateStablecoinValuation v).availability = .available) :
    ∃ request, parseRequest v = some request := by
  unfold evaluateStablecoinValuation at h
  cases hp : parseRequest v with
  | none =>
    rw [hp] at h
    cases h
  | some request => exact ⟨request, rfl⟩

theorem sampleValuation_conservative :
    (∃ request, parseRequest (sampleValuation sampleWatermarks sampleObservations) = some request ∧
      IsConservative request
        (evaluateStablecoinValuation (sampleValuation sampleWatermarks sampleObservations))) ∧
    SameValuation (evaluateStablecoinValuation (sampleValuation sampleWatermarks sampleObservations))
      (evaluateStablecoinValuation
        (sampleValuation sampleWatermarks.reverse sampleObservations.reverse)) := by
  obtain ⟨request, hrequest⟩ := parseRequest_of_available sampleValuation_available
  have h := evaluateStablecoinValuation_conservative
    (sampleValuation sampleWatermarks sampleObservations)
  exact ⟨⟨request, hrequest, h.1 request hrequest sampleValuation_available⟩, h.2 _
    (sampleValuation_samePresentation (List.reverse_perm _).symm (List.reverse_perm _).symm)⟩

end Sample

end CryptoLending.Valuation.ConservativeValuation
