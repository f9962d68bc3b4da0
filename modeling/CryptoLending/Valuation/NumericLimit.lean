import CryptoLending.Valuation.ConservativeValuation
import CryptoLending.Valuation.ValuationDepeg

namespace CryptoLending.Valuation.NumericLimit

open Lib Lib.JsValue Lib.Decimal ValuationRequest ValuationAssessment StablecoinValuation
  ValuationRate ValuationDepeg ConservativeValuation

section Width

variable {request : ParsedRequest} {sourceId : StablecoinValuationSourceId} {role : SourceRole}
  {o : StablecoinPriceObservation}

/-- The confidence of an observation takes more of the dollar than a source may give up. -/
def PublishesWideConfidence (o : StablecoinPriceObservation) : Prop :=
  ∃ confidence, o.confidenceAmount = some confidence ∧
    (publishedWidthEligibleAtOrBelowBps : ℚ) / 10000 < confidence.value

theorem lowerBound_digits {rate : FixedDecimal} {lowered : Bool}
    (h : lowerBound sourceId o = some (rate, lowered)) :
    decimalLength rate.mantissa ≤ maxRateDigits :=
  decimalLength_le (by decide) (lowerBound_bounded h).1

/-- An observation of the first source always comes with a confidence. -/
theorem confidenceAmount_isSome (h : o.sourceId = .pythCore) :
    ∃ confidence, o.confidenceAmount = some confidence := by
  have hfits := o.confidence_fits
  cases hc : o.confidence with
  | notPublished => simp [hc, h, StablecoinPriceConfidence.Fits] at hfits
  | publishedAbsoluteUsd mantissa scale =>
    simp only [StablecoinPriceObservation.confidenceAmount, hc]
    exact ⟨_, rfl⟩

theorem lowerBound_eq_none (hsource : o.sourceId = sourceId) (h : lowerBound sourceId o = none) :
    sourceId = .pythCore ∧ PublishesWideConfidence o := by
  cases sourceId with
  | chainlinkDataFeeds => cases h
  | pythCore =>
    obtain ⟨confidence, hc⟩ := confidenceAmount_isSome hsource
    refine ⟨rfl, confidence, hc, ?_⟩
    rw [← absoluteUsdAmountExceedsBps_iff]
    by_contra hnarrow
    simp [lowerBound, hc, hnarrow] at h

theorem assessObservation_wide
    (h : (assessObservation request sourceId role o).publicAssessment.eligibility =
      .wideConfidence) :
    lowerBound sourceId o = none ∧
      (assessObservation request sourceId role o).publicAssessment.observation = some o := by
  simp only [assessObservation] at h ⊢
  split at h
  · cases h
  rename_i hreplayed
  rw [if_neg hreplayed]
  split at h
  · cases h
  rename_i hfuture
  rw [if_neg hfuture]
  split at h
  · cases h
  rename_i hexpired
  rw [if_neg hexpired]
  cases hbound : lowerBound sourceId o with
  | none => exact ⟨rfl, rfl⟩
  | some bound =>
    -- The conservative rate fits, so that the source is current or stale.
    simp only [hbound, if_neg (not_lt.mpr (lowerBound_digits hbound))] at h
    split at h <;> cases h

theorem assessSource_sourceId (request : ParsedRequest) (sourceId : StablecoinValuationSourceId)
    (role : SourceRole) :
    (assessSource request sourceId role).publicAssessment.sourceId = sourceId := by
  simp only [assessSource, assessObservation, internalAssessment]
  repeat' split
  all_goals rfl

/-- A source is only held back as too wide for the confidence that it publishes. -/
theorem assessSource_wide
    (h : (assessSource request sourceId role).publicAssessment.eligibility = .wideConfidence) :
    sourceId = .pythCore ∧ ∃ o ∈ request.observations, PublishesWideConfidence o ∧
      (assessSource request sourceId role).publicAssessment.observation = some o := by
  simp only [assessSource] at h ⊢
  cases hlast : (sortedObservations request sourceId).getLast? with
  | none =>
    rw [hlast] at h
    cases h
  | some o =>
    simp only [hlast] at h ⊢
    split at h
    · cases h
    rename_i hmonotonic
    simp only [if_neg hmonotonic]
    obtain ⟨hnone, hobservation⟩ := assessObservation_wide h
    have hmem : o ∈ sortedObservations request sourceId := List.mem_of_getLast? hlast
    obtain ⟨hin, hsource⟩ := List.mem_filter.mp (Sorting.mem_sortBy.mp hmem)
    obtain ⟨hpyth, hwide⟩ := lowerBound_eq_none (of_decide_eq_true hsource) hnone
    exact ⟨hpyth, o, hin, hwide, hobservation⟩

end Width

section Reasons

variable {request : ParsedRequest}

theorem availableReasons_fit (candidates : List SourceCandidate) (selected : SourceCandidate)
    (agreement : StablecoinSourceAgreement) :
    .numericLimitExceeded ∉ availableReasons candidates selected agreement := by
  simp [availableReasons, mem_orderedReasons]

/-- No accepted request is given up for the size of its numbers. -/
theorem valuate_fits (request : ParsedRequest) :
    .numericLimitExceeded ∉ (valuate request).reasons := by
  have h := valuate_valued request
  generalize valuate request = result at h
  cases h with
  | noSource => simp [unavailableResult, mem_orderedReasons]
  | conflict =>
    simp only [conflictResult, unavailableResult, mem_orderedReasons]
    split <;> simp
  | corroborated =>
    simp only [pricedResult]
    apply availableReasons_fit
  | single =>
    simp only [pricedResult]
    apply availableReasons_fit

theorem selectionPool_ne_nil (h : ∃ a ∈ publicAssessments request,
    a.eligibility = .eligibleCurrent) : selectionPool request ≠ [] := by
  obtain ⟨a, ha, hcurrent⟩ := h
  obtain ⟨assessment, hassessment, rfl⟩ := List.mem_map.mp ha
  obtain ⟨source, hsource, rfl⟩ := List.mem_map.mp hassessment
  obtain ⟨o, rate, lowered, _, heq⟩ | ⟨hr, _⟩ := assessSource_cases request source.1 source.2
  · have hrate : rate ∈ eligibleRates (publicAssessments request) :=
      List.mem_filterMap.mpr ⟨_, ha, by rw [if_pos hcurrent, heq]; rfl⟩
    intro hnil
    rw [← selectionPool_rates, hnil] at hrate
    cases hrate
  · exact absurd hcurrent hr.2

theorem valuate_unavailable (hcurrent : ∃ a ∈ publicAssessments request,
    a.eligibility = .eligibleCurrent) :
    (valuate request).availability = .unavailable ↔
      (valuate request).sourceAgreement = .conflict ∧
        .sourceConflict ∈ (valuate request).reasons := by
  have hpool := selectionPool_ne_nil hcurrent
  have h := valuate_valued request
  generalize valuate request = result at h
  cases h with
  | noSource hnil => exact absurd hnil hpool
  | conflict =>
    refine ⟨fun _ => ⟨rfl, ?_⟩, fun _ => rfl⟩
    simp only [conflictResult, unavailableResult, mem_orderedReasons]
    split <;> simp
  | corroborated _ hconflict =>
    refine ⟨fun h => ?_, fun h => absurd h.1 hconflict⟩
    cases h
  | single =>
    refine ⟨fun h => ?_, fun h => ?_⟩
    · cases h
    · cases h.1

end Reasons

/-- What is computed of a request, for an asset with any decimals, stays within the limits. -/
structure WithinLimits (request : ParsedRequest) : Prop where
  usdValue : ∀ first rest, selectionPool request = first :: rest → ∀ decimals,
    calculateUsdValue request.amountAtomic.value decimals
      (effectiveRate (lowestCandidate first rest)) ≠ none
  conservativeRate : ∀ sourceId, ∀ o ∈ request.observations, ∀ rate lowered,
    lowerBound sourceId o = some (rate, lowered) → decimalLength rate.mantissa ≤ maxRateDigits

theorem withinLimits (request : ParsedRequest) : WithinLimits request where
  usdValue first rest hpool decimals := by
    have hmem : lowestCandidate first rest ∈ selectionPool request :=
      hpool ▸ lowestCandidate_mem first rest
    rw [calculateUsdValue_eq request.amountAtomic decimals
      (effectiveRate_scale (selectionPool_scale hmem)) (value_effectiveRate_le _)]
    exact Option.some_ne_none _
  conservativeRate _ _ _ _ _ h := lowerBound_digits h

/-- An accepted request never meets the numeric limit: neither its value nor the rate of a source
is given up for its digits, and with a current source only a conflict leaves it without a value. -/
theorem evaluateStablecoinValuation_fits (v : Value) (request : ParsedRequest)
    (hrequest : parseRequest v = some request) :
    .numericLimitExceeded ∉ (evaluateStablecoinValuation v).reasons ∧
    WithinLimits request ∧
    (∀ a ∈ (evaluateStablecoinValuation v).sourceAssessments, a.eligibility = .wideConfidence →
      a.sourceId = .pythCore ∧
        ∃ o ∈ request.observations, a.observation = some o ∧ PublishesWideConfidence o) ∧
    ((∃ a ∈ (evaluateStablecoinValuation v).sourceAssessments,
        a.eligibility = .eligibleCurrent) →
      ((evaluateStablecoinValuation v).availability = .unavailable ↔
        (evaluateStablecoinValuation v).sourceAgreement = .conflict ∧
          .sourceConflict ∈ (evaluateStablecoinValuation v).reasons)) := by
  simp only [evaluateStablecoinValuation, hrequest]
  rw [valuate_assessments]
  refine ⟨valuate_fits request, withinLimits request, ?_, fun h => valuate_unavailable h⟩
  intro a ha hwide
  obtain ⟨assessment, hassessment, rfl⟩ := List.mem_map.mp ha
  obtain ⟨source, _, rfl⟩ := List.mem_map.mp hassessment
  obtain ⟨hpyth, o, hin, hconfidence, hobservation⟩ := assessSource_wide hwide
  refine ⟨?_, o, hin, hobservation, hconfidence⟩
  rw [assessSource_sourceId, hpyth]

theorem sampleValuation_fits :
    ∃ request, parseRequest (sampleValuation sampleWatermarks sampleObservations) = some request ∧
      WithinLimits request ∧ .numericLimitExceeded ∉
        (evaluateStablecoinValuation (sampleValuation sampleWatermarks sampleObservations)).reasons := by
  obtain ⟨request, hrequest⟩ := parseRequest_of_available sampleValuation_available
  have h := evaluateStablecoinValuation_fits _ request hrequest
  exact ⟨request, hrequest, h.2.1, h.1⟩

end CryptoLending.Valuation.NumericLimit
