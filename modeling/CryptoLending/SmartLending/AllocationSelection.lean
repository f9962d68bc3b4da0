import CryptoLending.Lib.JsMap
import CryptoLending.SmartLending.AllocationAssessment

namespace CryptoLending.SmartLending.AllocationSelection

open Lib Lib.Sorting FeeAwareReturn AllocationRequest AllocationAssessment

def compareOptionalNetBenefit (left right : Option InternalAssessment) : Ordering :=
  match (left.bind (·.calculation)).map (·.netBenefitUsdMantissa),
      (right.bind (·.calculation)).map (·.netBenefitUsdMantissa) with
  | none, none => .eq
  | none, some _ => .gt
  | some _, none => .lt
  | some l, some r => if l = r then .eq else if l > r then .lt else .gt

/-- The eligible members of a group, best first. -/
def ranked (group : List InternalAssessment) : List InternalAssessment :=
  sortBy compareAssessments (group.filter isEligibleInternal)

def groupPositionId (group : List InternalAssessment) : String :=
  group.head?.elim "" (·.position.positionId)

def compareGroups (left right : List InternalAssessment) : Ordering :=
  (compareOptionalNetBenefit (ranked left).head? (ranked right).head?).then
    (compareText (groupPositionId left) (groupPositionId right))

/-- The budgets that are left and the assessments with the marks made so far. -/
structure SelectionState where
  remainingCapacity : JsMap String Int
  remainingProviderPrincipal : JsMap String Int
  remainingCrossChainPrincipal : Int
  assessments : List InternalAssessment

/-- Change the assessment object with the given identity. -/
def update (id : String) (f : InternalAssessment → InternalAssessment)
    (l : List InternalAssessment) : List InternalAssessment :=
  l.map (fun a => if a.id = id then f a else a)

def SelectionState.reject (s : SelectionState) (a : InternalAssessment)
    (reason : FeeAwareCandidateReason) : SelectionState :=
  { s with assessments := update a.id (fun b => { b with reasons := b.reasons ++ [reason] })
             s.assessments }

def SelectionState.select (s : SelectionState) (a : InternalAssessment)
    (capacity providerCapacity : Int) : SelectionState where
  remainingCapacity :=
    s.remainingCapacity.set a.opportunity.opportunityId (capacity - a.position.amountUsdMantissa)
  remainingProviderPrincipal :=
    s.remainingProviderPrincipal.set a.opportunity.providerId
      (providerCapacity - a.position.amountUsdMantissa)
  remainingCrossChainPrincipal :=
    if a.routeKind = .crossChain then s.remainingCrossChainPrincipal - a.position.amountUsdMantissa
    else s.remainingCrossChainPrincipal
  assessments := update a.id (fun b => { b with selected := true }) s.assessments

/-- Walk the ranked members of one group until one of them fits every budget. -/
def selectFrom (exposurePolicy : FeeAwareAllocationExposurePolicy) (s : SelectionState) :
    List InternalAssessment → SelectionState
  | [] => s
  | a :: rest =>
    let capacity := (s.remainingCapacity.get a.opportunity.opportunityId).getD 0
    let providerCapacity := (s.remainingProviderPrincipal.get a.opportunity.providerId).getD
      exposurePolicy.maximumProviderPrincipalUsdMantissa
    if capacity < a.position.amountUsdMantissa then
      selectFrom exposurePolicy (s.reject a .aggregateCapacityExceeded) rest
    else if a.routeKind = .crossChain ∧
        s.remainingCrossChainPrincipal < a.position.amountUsdMantissa then
      selectFrom exposurePolicy (s.reject a .aggregateCrossChainPrincipalExceeded) rest
    else if providerCapacity < a.position.amountUsdMantissa then
      selectFrom exposurePolicy (s.reject a .aggregateProviderPrincipalExceeded) rest
    else s.select a capacity providerCapacity

def positionGroups (assessments : List InternalAssessment) :
    JsMap String (List InternalAssessment) :=
  JsMap.groupInto (·.position.positionId) assessments

def orderedGroups (assessments : List InternalAssessment) : List (List InternalAssessment) :=
  sortBy compareGroups (positionGroups assessments).values

def initialState (assessments : List InternalAssessment) (opportunities : List ParsedOpportunity)
    (exposurePolicy : FeeAwareAllocationExposurePolicy) : SelectionState where
  remainingCapacity := JsMap.ofEntries (opportunities.map (fun o =>
    (o.opportunityId, (o.availableCapacityUsdMantissa : Int))))
  remainingProviderPrincipal := .empty
  remainingCrossChainPrincipal := exposurePolicy.maximumCrossChainPrincipalUsdMantissa
  assessments := assessments

/-- The objects of a group change only during the group's own turn, so its members are
still as they were when the groups were formed. -/
def selectCandidatesWithinLimits (assessments : List InternalAssessment)
    (opportunities : List ParsedOpportunity) (exposurePolicy : FeeAwareAllocationExposurePolicy) :
    List InternalAssessment :=
  ((orderedGroups assessments).foldl (fun s group => selectFrom exposurePolicy s (ranked group))
    (initialState assessments opportunities exposurePolicy)).assessments

inductive Eligibility where
  | eligible
  | rejected
  deriving DecidableEq

structure FeeAwareCandidateAssessment where
  candidateId : String
  positionId : String
  opportunityId : String
  routeKind : RouteKind
  eligibility : Eligibility
  selected : Bool
  reasons : List FeeAwareCandidateReason
  calculation : Option FeeAwareCandidateCalculation
  deriving DecidableEq

structure FeeAwarePositionDecision where
  positionId : String
  walletId : String
  sourceNetworkId : Blockchain.LaunchNetwork.MainnetLaunchNetworkId
  sourceAssetId : String
  sourceAmountAtomic : Nat
  principalUsdMantissa : Nat
  selectedCandidateId : Option String
  selectedOpportunityId : Option String
  selectedProviderId : Option String
  selectedQuoteReferenceId : Option String
  selectedRouteReferenceId : Option String
  selectedOpportunityEvidenceReferenceId : Option String
  selectedRiskAssessmentReferenceId : Option String
  selectedRouteKind : Option RouteKind
  requiresSeparateTransactionApproval : Bool
  assessments : List FeeAwareCandidateAssessment
  deriving DecidableEq

inductive RecommendationStatus where
  | recommended
  | partialRecommendation
  | noEligibleRoute
  | invalidInput
  deriving DecidableEq

inductive RecommendationReason where
  | invalidInput
  | oneOrMorePositionsUnallocated
  deriving DecidableEq

structure FeeAwareAllocationRecommendation where
  status : RecommendationStatus
  evaluatedAt : Option String
  holdingPeriodDays : Option Nat
  reasons : List RecommendationReason
  totalPrincipalUsdMantissa : Nat
  recommendedPrincipalUsdMantissa : Nat
  projectedNetBenefitUsdMantissa : Int
  decisions : List FeeAwarePositionDecision
  deriving DecidableEq

def publicAssessment (a : InternalAssessment) : FeeAwareCandidateAssessment where
  candidateId := a.id
  positionId := a.position.positionId
  opportunityId := a.opportunity.opportunityId
  routeKind := a.routeKind
  eligibility := if a.reasons.isEmpty then .eligible else .rejected
  selected := a.selected
  reasons := a.reasons
  calculation := a.calculation

/-- The assessments of a position in the order of their candidate ids. -/
def matching (position : FeeAwareCapitalPosition) (assessments : List InternalAssessment) :
    List InternalAssessment :=
  sortBy (fun l r => compareText l.id r.id)
    (assessments.filter (fun a => a.position.positionId == position.positionId))

/-- The selected assessment of a position. -/
def selectedOf (position : FeeAwareCapitalPosition) (assessments : List InternalAssessment) :
    Option InternalAssessment := (matching position assessments).find? (·.selected)

def positionDecision (position : FeeAwareCapitalPosition) (assessments : List InternalAssessment) :
    FeeAwarePositionDecision :=
  let selected := selectedOf position assessments
  { positionId := position.positionId
    walletId := position.walletId
    sourceNetworkId := position.networkId
    sourceAssetId := position.assetId
    sourceAmountAtomic := position.amountAtomic
    principalUsdMantissa := position.amountUsdMantissa
    selectedCandidateId := selected.map (·.id)
    selectedOpportunityId := selected.map (·.opportunity.opportunityId)
    selectedProviderId := selected.map (·.opportunity.providerId)
    selectedQuoteReferenceId := selected.bind (·.candidate.costQuote.map (·.quoteReferenceId))
    selectedRouteReferenceId := selected.bind (·.candidate.costQuote.map (·.routeReferenceId))
    selectedOpportunityEvidenceReferenceId :=
      selected.map (·.opportunity.evidence.evidenceReferenceId)
    selectedRiskAssessmentReferenceId :=
      selected.bind (·.opportunity.riskAssessment.map (·.assessmentReferenceId))
    selectedRouteKind := selected.map (·.routeKind)
    requiresSeparateTransactionApproval := selected.isSome
    assessments := (matching position assessments).map publicAssessment }

/-- The sum of the values, unless a running total passes the limit. -/
def boundedSum (values : List Nat) : Option Nat :=
  values.foldlM (fun total v => if total + v > unsignedLimit then none else some (total + v)) 0

def invalidRecommendation : FeeAwareAllocationRecommendation where
  status := .invalidInput
  evaluatedAt := none
  holdingPeriodDays := none
  reasons := [.invalidInput]
  totalPrincipalUsdMantissa := 0
  recommendedPrincipalUsdMantissa := 0
  projectedNetBenefitUsdMantissa := 0
  decisions := []

/-- The assessment of every candidate, unless one names no position or no opportunity. -/
def assessCandidates (request : ParsedRequest) : Option (List InternalAssessment) :=
  let positionById := JsMap.ofEntries (request.positions.map (fun p => (p.positionId, p)))
  let opportunityById := JsMap.ofEntries (request.opportunities.map (fun o => (o.opportunityId, o)))
  request.candidates.mapM (fun candidate => do
    let position ← positionById.get candidate.positionId
    let opportunity ← opportunityById.get candidate.opportunityId
    pure (assessCandidate request candidate position opportunity))

def statusOf (selectedCount positionCount : Nat) : RecommendationStatus :=
  if selectedCount = positionCount then .recommended
  else if selectedCount = 0 then .noEligibleRoute
  else .partialRecommendation

/-- The result once the candidates have been selected. -/
def recommendation (request : ParsedRequest) (assessments : List InternalAssessment) :
    FeeAwareAllocationRecommendation :=
  let selected := assessments.filter (·.selected)
  let projectedNetBenefitUsdMantissa := selected.foldl (fun total a =>
    total + (a.calculation.elim 0 (·.netBenefitUsdMantissa))) 0
  let status := statusOf selected.length request.positions.length
  match boundedSum (request.positions.map (·.amountUsdMantissa)),
      boundedSum (selected.map (·.position.amountUsdMantissa)) with
  | some totalPrincipalUsdMantissa, some recommendedPrincipalUsdMantissa =>
    if projectedNetBenefitUsdMantissa > maxUint256 then invalidRecommendation
    else
      { status
        evaluatedAt := some request.evaluatedAt
        holdingPeriodDays := some request.holdingPeriodDays
        reasons :=
          if status = .partialRecommendation then [.oneOrMorePositionsUnallocated] else []
        totalPrincipalUsdMantissa
        recommendedPrincipalUsdMantissa
        projectedNetBenefitUsdMantissa
        decisions := sortBy (fun l r => compareText l.positionId r.positionId)
          (request.positions.map (positionDecision · assessments)) }
  | _, _ => invalidRecommendation

def allocate (request : ParsedRequest) : FeeAwareAllocationRecommendation :=
  match assessCandidates request with
  | none => invalidRecommendation
  | some assessments =>
    recommendation request (selectCandidatesWithinLimits
      (applyCrossChainComparisonPolicy request assessments) request.opportunities
      request.exposurePolicy)

def recommendFeeAwareAllocation (input : JsValue.Value) : FeeAwareAllocationRecommendation :=
  match parseRequest input with
  | none => invalidRecommendation
  | some request => allocate request

end CryptoLending.SmartLending.AllocationSelection
