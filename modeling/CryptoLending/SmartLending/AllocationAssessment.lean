import CryptoLending.SmartLending.AllocationRequest

namespace CryptoLending.SmartLending.AllocationAssessment

open Lib Lib.Sorting FeeAwareReturn AllocationRequest

inductive FeeAwareCandidateReason where
  | incompleteCostQuote
  | invalidCostQuote
  | costQuoteFromFuture
  | costQuoteExpired
  | costQuoteStale
  | costQuotePositionMismatch
  | costQuoteOpportunityMismatch
  | routeNetworkMismatch
  | routeAssetMismatch
  | sourceAmountMismatch
  | opportunityUnavailable
  | opportunityIneligible
  | opportunityEvidenceFromFuture
  | opportunityEvidenceExpired
  | opportunityEvidenceStale
  | riskAssessmentRequired
  | riskAssessmentFromFuture
  | riskAssessmentExpired
  | riskAssessmentStale
  | insufficientOpportunityCapacity
  | crossChainOptInRequired
  | crossChainOptInNotActive
  | crossChainOptInExpired
  | bridgeEstimateRequired
  | bridgeProviderNotAllowed
  | unexpectedBridgeEstimate
  | unexpectedBridgeCost
  | totalCostExceedsPrincipal
  | crossChainCostLimitExceeded
  | nonPositiveNetBenefit
  | minimumNetBenefitNotMet
  | noEligibleSameChainBaseline
  | crossChainImprovementBelowThreshold
  | aggregateCapacityExceeded
  | aggregateCrossChainPrincipalExceeded
  | aggregateProviderPrincipalExceeded
  | numericLimitExceeded
  deriving DecidableEq

def ofCostIssue : CostIssue → FeeAwareCandidateReason
  | .incompleteCostQuote => .incompleteCostQuote
  | .invalidCostQuote => .invalidCostQuote

def ofReturnReason : ReturnReason → FeeAwareCandidateReason
  | .numericLimitExceeded => .numericLimitExceeded
  | .totalCostExceedsPrincipal => .totalCostExceedsPrincipal
  | .nonPositiveNetBenefit => .nonPositiveNetBenefit
  | .minimumNetBenefitNotMet => .minimumNetBenefitNotMet

/-- The object the source keeps for a candidate; its candidate id stands for its identity. -/
structure InternalAssessment where
  candidate : ParsedCandidate
  position : FeeAwareCapitalPosition
  opportunity : ParsedOpportunity
  routeKind : RouteKind
  reasons : List FeeAwareCandidateReason
  calculation : Option FeeAwareCandidateCalculation
  selected : Bool

def InternalAssessment.id (a : InternalAssessment) : String := a.candidate.candidateId

/-- An item observed no later than the evaluation is stale from a maximum age on. -/
def isStale (observedAtMs evaluatedAtMs : Int) (maximumAgeSeconds : Nat) : Bool :=
  decide (observedAtMs ≤ evaluatedAtMs) &&
    decide (evaluatedAtMs - observedAtMs ≥ maximumAgeSeconds * 1000)

def assessQuoteFreshness (request : ParsedRequest) (quote : ParsedCostQuote) :
    List FeeAwareCandidateReason :=
  reasonWhen (decide (quote.quotedAtMs > request.evaluatedAtMs))
      (.costQuoteFromFuture : FeeAwareCandidateReason) ++
    reasonWhen (decide (request.evaluatedAtMs ≥ quote.validUntilMs))
      (.costQuoteExpired : FeeAwareCandidateReason) ++
    reasonWhen (isStale quote.quotedAtMs request.evaluatedAtMs request.maximumQuoteAgeSeconds)
      (.costQuoteStale : FeeAwareCandidateReason)

/-- A missing instant counts as infinitely late for the assessment and infinitely early
for its validity. -/
def assessRisk (request : ParsedRequest) (opportunity : ParsedOpportunity) :
    List FeeAwareCandidateReason :=
  if opportunity.riskAssessment.isNone then [.riskAssessmentRequired]
  else
    reasonWhen (opportunity.riskAssessedAtMs.all (fun ms => decide (ms > request.evaluatedAtMs)))
        .riskAssessmentFromFuture ++
      reasonWhen (opportunity.riskValidUntilMs.all (fun ms => decide (request.evaluatedAtMs ≥ ms)))
        .riskAssessmentExpired ++
      reasonWhen (opportunity.riskAssessedAtMs.any (fun ms =>
        isStale ms request.evaluatedAtMs request.maximumOpportunityAgeSeconds)) .riskAssessmentStale

def assessOpportunity (request : ParsedRequest) (opportunity : ParsedOpportunity) :
    List FeeAwareCandidateReason :=
  reasonWhen (decide (opportunity.availability ≠ .available))
      (.opportunityUnavailable : FeeAwareCandidateReason) ++
    reasonWhen (decide (opportunity.recommendationEligibility ≠ .eligible))
      (.opportunityIneligible : FeeAwareCandidateReason) ++
    reasonWhen (decide (opportunity.evidenceObservedAtMs > request.evaluatedAtMs))
      (.opportunityEvidenceFromFuture : FeeAwareCandidateReason) ++
    reasonWhen (decide (request.evaluatedAtMs ≥ opportunity.evidenceValidUntilMs))
      (.opportunityEvidenceExpired : FeeAwareCandidateReason) ++
    reasonWhen (isStale opportunity.evidenceObservedAtMs request.evaluatedAtMs
      request.maximumOpportunityAgeSeconds) (.opportunityEvidenceStale : FeeAwareCandidateReason) ++
    assessRisk request opportunity

def assessOptIn (request : ParsedRequest) : List FeeAwareCandidateReason :=
  match request.crossChainPolicy.optIn with
  | none => [.crossChainOptInRequired]
  | some optIn =>
      reasonWhen (decide (request.evaluatedAtMs < optIn.grantedAtMs)) .crossChainOptInNotActive ++
        reasonWhen (decide (request.evaluatedAtMs ≥ optIn.expiresAtMs)) .crossChainOptInExpired

def assessBridge (request : ParsedRequest) (quote : ParsedCostQuote) :
    List FeeAwareCandidateReason :=
  match quote.bridge with
  | none => [.bridgeEstimateRequired]
  | some bridge =>
      let allowed := request.crossChainPolicy.allowedBridgeProviderIds
      reasonWhen (!allowed.contains bridge.entryBridgeProviderId ||
        !allowed.contains bridge.exitBridgeProviderId) .bridgeProviderNotAllowed

def assessRouteKind (request : ParsedRequest) (routeKind : RouteKind) (quote : ParsedCostQuote) :
    List FeeAwareCandidateReason :=
  match routeKind with
  | .sameChain =>
      reasonWhen quote.bridge.isSome .unexpectedBridgeEstimate ++
        reasonWhen (quote.costsUsdMantissa.any (fun costs =>
          decide (costs.entryBridge ≠ 0 ∨ costs.exitBridge ≠ 0))) .unexpectedBridgeCost
  | .crossChain => assessOptIn request ++ assessBridge request quote

def returnInput (request : ParsedRequest) (position : FeeAwareCapitalPosition)
    (opportunity : ParsedOpportunity) (costs : FeeAwareAllocationCosts) : FeeAwareReturnInput where
  principalUsdMantissa := position.amountUsdMantissa
  grossApyBasisPoints := opportunity.grossApyBasisPoints
  recurringFeeBasisPoints := opportunity.recurringFeeBasisPoints
  riskPenaltyBasisPoints := (opportunity.riskAssessment.elim 0 (·.penaltyBasisPoints) : Nat)
  holdingPeriodDays := request.holdingPeriodDays
  minimumNetBenefitUsdMantissa := request.minimumNetBenefitUsdMantissa
  costs := costs

def calculateCandidate (request : ParsedRequest) (position : FeeAwareCapitalPosition)
    (opportunity : ParsedOpportunity) (costs : FeeAwareAllocationCosts) :
    Option FeeAwareCandidateCalculation × List FeeAwareCandidateReason :=
  let result := calculateFeeAwareReturn (returnInput request position opportunity costs)
  (result.1, result.2.map ofReturnReason)

def routeKindOf (position : FeeAwareCapitalPosition) (opportunity : ParsedOpportunity) :
    RouteKind :=
  if position.networkId = opportunity.networkId then .sameChain else .crossChain

/-- The bindings of a quote to the position and the opportunity it was asked for. -/
def positionBindingMatches (quote : ParsedCostQuote) (position : FeeAwareCapitalPosition) : Bool :=
  quote.positionId == position.positionId

def opportunityBindingMatches (quote : ParsedCostQuote) (opportunity : ParsedOpportunity) : Bool :=
  quote.opportunityId == opportunity.opportunityId

def networkBindingMismatch (quote : ParsedCostQuote) (position : FeeAwareCapitalPosition)
    (opportunity : ParsedOpportunity) : Bool :=
  decide (quote.sourceNetworkId ≠ position.networkId) ||
    decide (quote.destinationNetworkId ≠ opportunity.networkId)

def assetBindingMismatch (quote : ParsedCostQuote) (position : FeeAwareCapitalPosition)
    (opportunity : ParsedOpportunity) : Bool :=
  quote.sourceAssetId != position.assetId || quote.destinationAssetId != opportunity.assetId

def sourceAmountMismatch (quote : ParsedCostQuote) (position : FeeAwareCapitalPosition) : Bool :=
  quote.sourceAmountAtomic != position.amountAtomic

/-- The reasons and the calculation of a candidate with a readable quote. -/
def assessQuote (request : ParsedRequest) (quote : ParsedCostQuote)
    (position : FeeAwareCapitalPosition) (opportunity : ParsedOpportunity) :
    Option FeeAwareCandidateCalculation × List FeeAwareCandidateReason :=
  let checks :=
    (quote.costIssue.map ofCostIssue).toList ++
      assessQuoteFreshness request quote ++
      reasonWhen (!positionBindingMatches quote position) .costQuotePositionMismatch ++
      reasonWhen (!opportunityBindingMatches quote opportunity) .costQuoteOpportunityMismatch ++
      reasonWhen (networkBindingMismatch quote position opportunity) .routeNetworkMismatch ++
      reasonWhen (assetBindingMismatch quote position opportunity) .routeAssetMismatch ++
      reasonWhen (sourceAmountMismatch quote position) .sourceAmountMismatch ++
      assessOpportunity request opportunity ++
      reasonWhen (decide (position.amountUsdMantissa > opportunity.availableCapacityUsdMantissa))
        .insufficientOpportunityCapacity ++
      assessRouteKind request (routeKindOf position opportunity) quote
  match quote.costsUsdMantissa with
  | none => (none, checks)
  | some costs =>
    if !positionBindingMatches quote position || !opportunityBindingMatches quote opportunity ||
        networkBindingMismatch quote position opportunity ||
        assetBindingMismatch quote position opportunity || sourceAmountMismatch quote position then
      (none, checks)
    else
      let result := calculateCandidate request position opportunity costs
      (result.1, checks ++ result.2)

def assessCandidate (request : ParsedRequest) (candidate : ParsedCandidate)
    (position : FeeAwareCapitalPosition) (opportunity : ParsedOpportunity) : InternalAssessment :=
  let outcome := match candidate.costQuote with
    | none => (none, [FeeAwareCandidateReason.invalidCostQuote])
    | some quote => assessQuote request quote position opportunity
  { candidate, position, opportunity
    routeKind := routeKindOf position opportunity
    reasons := outcome.2
    calculation := outcome.1
    selected := false }

def compareAssessments (left right : InternalAssessment) : Ordering :=
  compareFeeAwareReturns ⟨left.id, left.routeKind, left.calculation⟩
    ⟨right.id, right.routeKind, right.calculation⟩

def isEligibleInternal (a : InternalAssessment) : Bool :=
  a.reasons.isEmpty && a.calculation.isSome

/-- A same-chain assessment of the position without objections. -/
def isBaselineOption (id : String) (a : InternalAssessment) : Bool :=
  a.position.positionId == id && a.routeKind == .sameChain && a.reasons.isEmpty &&
    a.calculation.isSome

/-- The best same-chain return of a position, if it has one without objections. -/
def baseline (positionId : String) (assessments : List InternalAssessment) : Option Int :=
  ((sortBy compareAssessments (assessments.filter (isBaselineOption positionId))).head?.bind
    (·.calculation)).map (·.netBenefitUsdMantissa)

/-- Compare one cross-chain assessment of the position with its baseline. -/
def compareWithBaseline (policy : ParsedCrossChainPolicy) (positionId : String)
    (base : Option Int) (a : InternalAssessment) : InternalAssessment :=
  if a.position.positionId = positionId ∧ a.routeKind = .crossChain then
    match a.calculation, base with
    | none, _ => a
    | some _, none => { a with reasons := a.reasons ++ [.noEligibleSameChainBaseline] }
    | some calculation, some base =>
      let improvement := calculation.netBenefitUsdMantissa - base
      { a with
        calculation := some
          { calculation with improvementOverSameChainUsdMantissa := some improvement }
        reasons := a.reasons ++
          reasonWhen (decide (calculation.totalLifecycleCostUsdMantissa >
            policy.maximumLifecycleCostUsdMantissa)) .crossChainCostLimitExceeded ++
          reasonWhen (decide (improvement < policy.minimumNetImprovementUsdMantissa))
            .crossChainImprovementBelowThreshold }
  else a

def applyCrossChainComparisonPolicy (request : ParsedRequest)
    (assessments : List InternalAssessment) : List InternalAssessment :=
  request.positions.foldl (fun assessments position =>
    assessments.map (compareWithBaseline request.crossChainPolicy position.positionId
      (baseline position.positionId assessments))) assessments

end CryptoLending.SmartLending.AllocationAssessment
