import CryptoLending.Lib.Sorting
import CryptoLending.Valuation.ValuationRequest

namespace CryptoLending.Valuation.ValuationAssessment

open Lib Lib.Decimal Lib.Sorting ValuationRequest

def currentWithinMs : Int := 60000
def unavailableAfterMs : Int := 300000
def publishedWidthEligibleAtOrBelowBps : Nat := 50

inductive StablecoinSourceEligibility where
  | eligibleCurrent
  | stale
  | missing
  | expired
  | futureTimestamp
  | nonMonotonicSequence
  | replayedOrRegressed
  | wideConfidence
  deriving DecidableEq

inductive SourceRole where
  | primary
  | fallbackAndCrossCheck
  deriving DecidableEq

/-- The freshness of a candidate. -/
inductive CandidateFreshness where
  | current
  | stale
  deriving DecidableEq

structure StablecoinSourceAssessment where
  sourceId : StablecoinValuationSourceId
  role : SourceRole
  eligibility : StablecoinSourceEligibility
  observation : Option StablecoinPriceObservation
  conservativeUsdRate : Option FixedDecimal
  deriving DecidableEq

structure SourceCandidate where
  assessment : StablecoinSourceAssessment
  observation : StablecoinPriceObservation
  conservativeRate : FixedDecimal
  freshness : CandidateFreshness
  confidenceLowerBoundApplied : Bool
  deriving DecidableEq

structure InternalAssessment where
  publicAssessment : StablecoinSourceAssessment
  candidate : Option SourceCandidate
  deriving DecidableEq

def sequenceValue (o : StablecoinPriceObservation) : Nat := o.sourceSequence.value

/-- The loop over sorted observations, with the previous one and the update ids seen. -/
def monotonicFrom (previous : Option StablecoinPriceObservation) (updateIds : List String) :
    List StablecoinPriceObservation → Bool
  | [] => true
  | o :: rest =>
    if updateIds.contains o.sourceUpdateId then false
    else if previous.any (fun p => sequenceValue o ≤ sequenceValue p ||
        o.pricedAtMs < p.pricedAtMs || o.observedAtMs < p.observedAtMs) then false
    else monotonicFrom (some o) (o.sourceUpdateId :: updateIds) rest

def hasMonotonicSequenceAndTime (observations : List StablecoinPriceObservation) : Bool :=
  monotonicFrom none [] observations

/-- The observation does not come after what was accepted last. -/
def isRegressed {sourceId : StablecoinValuationSourceId} (last : LastAccepted sourceId)
    (o : StablecoinPriceObservation) : Bool :=
  sequenceValue o ≤ last.lastAcceptedSequence.value ||
    o.pricedAtMs < last.lastAcceptedPricedAt.milliseconds ||
    o.observedAtMs < last.lastAcceptedObservedAt.milliseconds ||
    o.sourceUpdateId == last.lastAcceptedUpdateId

def internalAssessment (sourceId : StablecoinValuationSourceId) (role : SourceRole)
    (eligibility : StablecoinSourceEligibility) (observation : Option StablecoinPriceObservation)
    (rate : Option FixedDecimal) : InternalAssessment :=
  ⟨⟨sourceId, role, eligibility, observation, rate⟩, none⟩

/-- The rate after the published confidence was subtracted, and whether that lowered it;
none when the confidence is too wide. -/
def lowerBound (sourceId : StablecoinValuationSourceId) (o : StablecoinPriceObservation) :
    Option (FixedDecimal × Bool) :=
  match sourceId with
  | .pythCore => do
    let confidence ← o.confidenceAmount
    guard (¬absoluteUsdAmountExceedsBps confidence publishedWidthEligibleAtOrBelowBps)
    pure (subtractFixedFloorZero o.rate confidence, confidence.mantissa > 0)
  | .chainlinkDataFeeds => some (o.rate, false)

def sortedObservations (request : ParsedRequest) (sourceId : StablecoinValuationSourceId) :
    List StablecoinPriceObservation :=
  sortBy (fun left right => compare (sequenceValue left) (sequenceValue right))
    (request.observations.filter (fun o => o.sourceId = sourceId))

def isReplayed (request : ParsedRequest) (sourceId : StablecoinValuationSourceId)
    (o : StablecoinPriceObservation) : Bool :=
  match request.sourceWatermarks.find? (fun w => w.sourceId = sourceId) with
  | none => true
  | some watermark => watermark.lastAccepted.any (fun last => isRegressed last o)

/-- The assessment of the last of a source's monotonic observations. -/
def assessObservation (request : ParsedRequest) (sourceId : StablecoinValuationSourceId)
    (role : SourceRole) (o : StablecoinPriceObservation) : InternalAssessment :=
  if isReplayed request sourceId o then
    internalAssessment sourceId role .replayedOrRegressed (some o) none
  else if o.pricedAtMs > request.evaluatedAt.milliseconds ||
      o.observedAtMs > request.evaluatedAt.milliseconds || o.pricedAtMs > o.observedAtMs then
    internalAssessment sourceId role .futureTimestamp (some o) none
  else
    let ageMs := request.evaluatedAt.milliseconds - o.pricedAtMs
    if ageMs > unavailableAfterMs then
      internalAssessment sourceId role .expired (some o) none
    else
      match lowerBound sourceId o with
      | none => internalAssessment sourceId role .wideConfidence (some o) none
      | some (conservativeRate, confidenceLowerBoundApplied) =>
        if decimalLength conservativeRate.mantissa > maxRateDigits then
          internalAssessment sourceId role .wideConfidence (some o) none
        else if ageMs > currentWithinMs then
          internalAssessment sourceId role .stale (some o) (some conservativeRate)
        else
          let assessment : StablecoinSourceAssessment :=
            ⟨sourceId, role, .eligibleCurrent, some o, some conservativeRate⟩
          { publicAssessment := assessment
            candidate := some
              { assessment, observation := o, conservativeRate, freshness := .current,
                confidenceLowerBoundApplied } }

def assessSource (request : ParsedRequest) (sourceId : StablecoinValuationSourceId)
    (role : SourceRole) : InternalAssessment :=
  let observations := sortedObservations request sourceId
  match observations.getLast? with
  | none => internalAssessment sourceId role .missing none none
  | some o =>
    if !hasMonotonicSequenceAndTime observations then
      internalAssessment sourceId role .nonMonotonicSequence (some o) none
    else assessObservation request sourceId role o

/-- The sources in the order in which they are assessed. -/
def sourceOrder : List (StablecoinValuationSourceId × SourceRole) :=
  [(.pythCore, .primary), (.chainlinkDataFeeds, .fallbackAndCrossCheck)]

/-- What makes the last observation of a source count as current. -/
structure EligibleCurrent (request : ParsedRequest) (sourceId : StablecoinValuationSourceId)
    (o : StablecoinPriceObservation) (rate : FixedDecimal) (lowered : Bool) : Prop where
  last : (sortedObservations request sourceId).getLast? = some o
  monotonic : hasMonotonicSequenceAndTime (sortedObservations request sourceId) = true
  accepted : isReplayed request sourceId o = false
  priced_le : o.pricedAtMs ≤ o.observedAtMs
  observed_le : o.observedAtMs ≤ request.evaluatedAt.milliseconds
  age_le : request.evaluatedAt.milliseconds - o.pricedAtMs ≤ currentWithinMs
  rate_eq : lowerBound sourceId o = some (rate, lowered)

def currentAssessment (sourceId : StablecoinValuationSourceId) (role : SourceRole)
    (o : StablecoinPriceObservation) (rate : FixedDecimal) (lowered : Bool) : InternalAssessment :=
  let assessment : StablecoinSourceAssessment :=
    ⟨sourceId, role, .eligibleCurrent, some o, some rate⟩
  ⟨assessment, some ⟨assessment, o, rate, .current, lowered⟩⟩

/-- An assessment that offers no candidate and is not current. -/
def InternalAssessment.Rejected (a : InternalAssessment) : Prop :=
  a.candidate = none ∧ a.publicAssessment.eligibility ≠ .eligibleCurrent

theorem internalAssessment_rejected (sourceId : StablecoinValuationSourceId) (role : SourceRole)
    {eligibility : StablecoinSourceEligibility} (h : eligibility ≠ .eligibleCurrent)
    (observation : Option StablecoinPriceObservation) (rate : Option FixedDecimal) :
    (internalAssessment sourceId role eligibility observation rate).Rejected := ⟨rfl, h⟩

section Rates

variable {sourceId : StablecoinValuationSourceId} {o : StablecoinPriceObservation}
  {rate : FixedDecimal} {lowered : Bool}

theorem rateMantissa_lt (n : RateMantissa) : n.value < 10 ^ maxRateDigits := by
  have hv := Text.decimalValue_lt (Text.isCanonicalUint_digits n.kind_text)
  have hl : 10 ^ n.text.toList.length ≤ 10 ^ maxRateDigits :=
    Nat.pow_le_pow_right (by omega) n.length_le
  exact lt_of_lt_of_le hv hl

theorem confidenceAmount_scale {confidence : FixedDecimal}
    (h : o.confidenceAmount = some confidence) : confidence.scale = normalizedUsdRateScale := by
  have hf := o.confidence_fits
  cases hc : o.confidence with
  | notPublished => simp [StablecoinPriceObservation.confidenceAmount, hc] at h
  | publishedAbsoluteUsd mantissa scale =>
    simp only [StablecoinPriceObservation.confidenceAmount, hc, Option.some.injEq] at h
    cases hs : o.sourceId with
    | chainlinkDataFeeds => simp [hc, hs, StablecoinPriceConfidence.Fits] at hf
    | pythCore =>
      simp only [hc, hs, StablecoinPriceConfidence.Fits] at hf
      rw [← h, hf]

theorem lowerBound_pyth (h : lowerBound .pythCore o = some (rate, lowered)) :
    ∃ confidence, o.confidenceAmount = some confidence ∧
      confidence.value ≤ publishedWidthEligibleAtOrBelowBps / 10000 ∧
      rate = subtractFixedFloorZero o.rate confidence := by
  obtain ⟨confidence, hc, h⟩ := Option.bind_eq_some_iff.mp h
  obtain ⟨_, hg, h⟩ := Option.bind_eq_some_iff.mp h
  have hw := (Option.guard_eq_some' _).mp hg
  rw [absoluteUsdAmountExceedsBps_iff, not_lt] at hw
  exact ⟨confidence, hc, hw, (Prod.mk.inj (Option.some.inj h)).1.symm⟩

theorem lowerBound_chainlink (h : lowerBound .chainlinkDataFeeds o = some (rate, lowered)) :
    rate = o.rate := (Prod.mk.inj (Option.some.inj h)).1.symm

/-- The conservative rate is written like the rates that sources report. -/
theorem lowerBound_bounded (h : lowerBound sourceId o = some (rate, lowered)) :
    rate.mantissa < 10 ^ maxRateDigits ∧ rate.scale = normalizedUsdRateScale := by
  cases sourceId with
  | pythCore =>
    obtain ⟨confidence, hc, _, rfl⟩ := lowerBound_pyth h
    have hscale : o.rate.scale = normalizedUsdRateScale := o.scale_eq
    have hm := rateMantissa_lt o.usdRateMantissa
    simp only [subtractFixedFloorZero, hscale, confidenceAmount_scale hc, max_self, Nat.sub_self,
      powerOfTen, Nat.pow_zero, Nat.mul_one, and_true]
    have hr : o.rate.mantissa = o.usdRateMantissa.value := rfl
    split <;> omega
  | chainlinkDataFeeds =>
    rw [lowerBound_chainlink h]
    exact ⟨rateMantissa_lt o.usdRateMantissa, o.scale_eq⟩

theorem value_lowerBound_pyth (h : lowerBound .pythCore o = some (rate, lowered)) :
    ∃ confidence, o.confidenceAmount = some confidence ∧
      rate.value = max 0 (o.rate.value - confidence.value) := by
  obtain ⟨confidence, hc, _, rfl⟩ := lowerBound_pyth h
  exact ⟨confidence, hc, value_subtractFixedFloorZero _ _⟩

end Rates

section Assessing

variable {request : ParsedRequest} {sourceId : StablecoinValuationSourceId}

theorem assessObservation_cases (role : SourceRole) (o : StablecoinPriceObservation)
    (hlast : (sortedObservations request sourceId).getLast? = some o)
    (hmonotonic : hasMonotonicSequenceAndTime (sortedObservations request sourceId) = true) :
    (∃ rate lowered, EligibleCurrent request sourceId o rate lowered ∧
        assessObservation request sourceId role o = currentAssessment sourceId role o rate lowered) ∨
      ((assessObservation request sourceId role o).Rejected ∧
        ∀ rate lowered, ¬EligibleCurrent request sourceId o rate lowered) := by
  simp only [assessObservation]
  by_cases hreplayed : isReplayed request sourceId o = true
  · rw [if_pos hreplayed]
    refine .inr ⟨internalAssessment_rejected _ _ (by decide) _ _, fun _ _ h => ?_⟩
    simp [h.accepted] at hreplayed
  rw [if_neg hreplayed]
  by_cases hfuture : (o.pricedAtMs > request.evaluatedAt.milliseconds ||
      o.observedAtMs > request.evaluatedAt.milliseconds || o.pricedAtMs > o.observedAtMs) = true
  · rw [if_pos hfuture]
    refine .inr ⟨internalAssessment_rejected _ _ (by decide) _ _, fun _ _ h => ?_⟩
    have h1 := h.priced_le
    have h2 := h.observed_le
    simp only [Bool.or_eq_true, decide_eq_true_eq] at hfuture
    omega
  rw [if_neg hfuture]
  by_cases hexpired : request.evaluatedAt.milliseconds - o.pricedAtMs > unavailableAfterMs
  · rw [if_pos hexpired]
    refine .inr ⟨internalAssessment_rejected _ _ (by decide) _ _, fun _ _ h => ?_⟩
    have h1 := h.age_le
    simp only [currentWithinMs, unavailableAfterMs] at h1 hexpired
    omega
  rw [if_neg hexpired]
  cases hbound : lowerBound sourceId o with
  | none =>
    refine .inr ⟨internalAssessment_rejected _ _ (by decide) _ _, fun _ _ h => ?_⟩
    cases hbound.symm.trans h.rate_eq
  | some bound =>
    obtain ⟨rate, lowered⟩ := bound
    have hlength := decimalLength_le (by decide) (lowerBound_bounded hbound).1
    simp only [if_neg (not_lt.mpr hlength)]
    by_cases hstale : request.evaluatedAt.milliseconds - o.pricedAtMs > currentWithinMs
    · rw [if_pos hstale]
      refine .inr ⟨internalAssessment_rejected _ _ (by decide) _ _, fun _ _ h => ?_⟩
      exact absurd h.age_le (not_le.mpr hstale)
    · rw [if_neg hstale]
      simp only [Bool.or_eq_true, decide_eq_true_eq, not_or, not_lt] at hfuture
      exact .inl ⟨rate, lowered, ⟨hlast, hmonotonic, by simpa using hreplayed, hfuture.2,
        hfuture.1.2, not_lt.mp hstale, hbound⟩, rfl⟩

/-- A source is current with a candidate exactly when its last observation is. -/
theorem assessSource_cases (request : ParsedRequest) (sourceId : StablecoinValuationSourceId)
    (role : SourceRole) :
    (∃ o rate lowered, EligibleCurrent request sourceId o rate lowered ∧
        assessSource request sourceId role = currentAssessment sourceId role o rate lowered) ∨
      ((assessSource request sourceId role).Rejected ∧
        ∀ o rate lowered, ¬EligibleCurrent request sourceId o rate lowered) := by
  cases hlast : (sortedObservations request sourceId).getLast? with
  | none =>
    refine .inr ⟨?_, fun _ _ _ h => ?_⟩
    · simp only [assessSource, hlast]
      exact internalAssessment_rejected _ _ (by decide) _ _
    · cases hlast.symm.trans h.last
  | some o =>
    by_cases hm : hasMonotonicSequenceAndTime (sortedObservations request sourceId) = true
    · have heq : assessSource request sourceId role = assessObservation request sourceId role o := by
        simp [assessSource, hlast, hm]
      rw [heq]
      refine (assessObservation_cases role o hlast hm).imp (fun h => ⟨o, h⟩) fun h => ⟨h.1, ?_⟩
      intro o' rate lowered he
      obtain rfl : o = o' := Option.some.inj (hlast.symm.trans he.last)
      exact h.2 rate lowered he
    · refine .inr ⟨?_, fun _ _ _ h => hm h.monotonic⟩
      simp only [assessSource, hlast, hm, Bool.not_false, if_true]
      exact internalAssessment_rejected _ _ (by decide) _ _

theorem assessSource_eq {o : StablecoinPriceObservation} {rate : FixedDecimal} {lowered : Bool}
    (h : EligibleCurrent request sourceId o rate lowered) (role : SourceRole) :
    assessSource request sourceId role = currentAssessment sourceId role o rate lowered := by
  obtain ⟨o', rate', lowered', h', heq⟩ | ⟨_, hnone⟩ := assessSource_cases request sourceId role
  · obtain rfl : o = o' := Option.some.inj (h.last.symm.trans h'.last)
    obtain ⟨rfl, rfl⟩ := Prod.mk.inj (Option.some.inj (h.rate_eq.symm.trans h'.rate_eq))
    exact heq
  · exact absurd h (hnone o rate lowered)

end Assessing

end CryptoLending.Valuation.ValuationAssessment
