import Mathlib.Data.Option.Basic
import CryptoLending.Lib.IsoText
import CryptoLending.Lib.ListOption
import CryptoLending.Blockchain.AssetRegistry
import CryptoLending.SmartLending.FeeAwareReturn

namespace CryptoLending.SmartLending.AllocationRequest

open Lib Lib.JsValue Blockchain.LaunchNetwork FeeAwareReturn

def maxRateBasisPoints : Nat := 1000000
def maxHoldingPeriodDays : Nat := 36500
def maxFreshnessSeconds : Nat := 86400
def usdScale : Int := 18
def unsignedLimit : Nat := maxUint256.toNat

structure FeeAwareCapitalPosition where
  positionId : String
  walletId : String
  networkId : MainnetLaunchNetworkId
  assetId : String
  amountAtomic : Nat
  amountUsdMantissa : Nat

structure FeeAwareOpportunityEvidence where
  evidenceReferenceId : String
  adapterId : String
  observedAt : String
  validUntil : String

structure FeeAwareRiskAssessment where
  assessmentReferenceId : String
  assessedAt : String
  validUntil : String
  penaltyBasisPoints : Nat

inductive Availability where
  | available
  | unavailable
  deriving DecidableEq

inductive RecommendationEligibility where
  | eligible
  | ineligible
  deriving DecidableEq

structure ParsedOpportunity where
  opportunityId : String
  providerId : String
  networkId : MainnetLaunchNetworkId
  assetId : String
  availability : Availability
  recommendationEligibility : RecommendationEligibility
  grossApyBasisPoints : Nat
  recurringFeeBasisPoints : Nat
  availableCapacityUsdMantissa : Nat
  evidence : FeeAwareOpportunityEvidence
  riskAssessment : Option FeeAwareRiskAssessment
  evidenceObservedAtMs : Int
  evidenceValidUntilMs : Int
  riskAssessedAtMs : Option Int
  riskValidUntilMs : Option Int

structure FeeAwareBridgeEstimate where
  entryBridgeProviderId : String
  exitBridgeProviderId : String
  entryEstimateReferenceId : String
  exitEstimateReferenceId : String
  entryMinimumOutputAtomic : Nat
  exitMinimumOutputAtomic : Nat

/-- Why the costs of a quote could not be read. -/
inductive CostIssue where
  | incompleteCostQuote
  | invalidCostQuote
  deriving DecidableEq

structure ParsedCostQuote where
  quoteReferenceId : String
  routeReferenceId : String
  positionId : String
  opportunityId : String
  verifiedByAdapterId : String
  quotedAt : String
  validUntil : String
  quotedAtMs : Int
  validUntilMs : Int
  sourceNetworkId : MainnetLaunchNetworkId
  destinationNetworkId : MainnetLaunchNetworkId
  sourceAssetId : String
  destinationAssetId : String
  sourceAmountAtomic : Nat
  minimumDestinationAmountAtomic : Nat
  costsUsdMantissa : Option FeeAwareAllocationCosts
  costIssue : Option CostIssue
  bridge : Option FeeAwareBridgeEstimate

/-- A candidate whose quote did not parse keeps its place without one. -/
structure ParsedCandidate where
  candidateId : String
  positionId : String
  opportunityId : String
  costQuote : Option ParsedCostQuote

structure ParsedOptIn where
  consentReferenceId : String
  grantedAt : String
  expiresAt : String
  grantedAtMs : Int
  expiresAtMs : Int

structure ParsedCrossChainPolicy where
  optIn : Option ParsedOptIn
  allowedBridgeProviderIds : List String
  maximumLifecycleCostUsdMantissa : Nat
  minimumNetImprovementUsdMantissa : Nat

structure FeeAwareAllocationExposurePolicy where
  maximumCrossChainPrincipalUsdMantissa : Nat
  maximumProviderPrincipalUsdMantissa : Nat

/-- An accepted request: at least one position, and identifiers that tell the positions,
the opportunities and the candidates apart. -/
structure ParsedRequest where
  evaluatedAt : String
  evaluatedAtMs : Int
  holdingPeriodDays : Nat
  maximumQuoteAgeSeconds : Nat
  maximumOpportunityAgeSeconds : Nat
  minimumNetBenefitUsdMantissa : Nat
  crossChainPolicy : ParsedCrossChainPolicy
  exposurePolicy : FeeAwareAllocationExposurePolicy
  positions : List FeeAwareCapitalPosition
  opportunities : List ParsedOpportunity
  candidates : List ParsedCandidate
  positions_nonempty : positions ≠ []
  positionIds_nodup : (positions.map (·.positionId)).Nodup
  opportunityIds_nodup : (opportunities.map (·.opportunityId)).Nodup
  candidateIds_nodup : (candidates.map (·.candidateId)).Nodup

structure ParsedTimestamp where
  text : String
  milliseconds : Int

def timestamp (v : Value) : Option ParsedTimestamp := do
  let text ← v.string?
  let milliseconds ← IsoDate.parse text
  pure ⟨text, milliseconds⟩

def reference (v : Value) : Option String := do
  let text ← v.string?
  let cs := text.toList
  guard (1 ≤ cs.length ∧ cs.length ≤ 192 ∧ cs.all Text.isVisible)
  pure text

def networkId (v : Value) : Option MainnetLaunchNetworkId := do ofText (← v.string?)

def unsignedBigInt (v : Value) (maximum : Nat) : Option Nat := do
  let n ← v.bigint?
  guard (¬(n < 0 ∨ n > maximum))
  pure n.toNat

def positiveBigInt (v : Value) (maximum : Nat) : Option Nat := do
  let n ← unsignedBigInt v maximum
  guard (n ≠ 0)
  pure n

def enumValue {α : Type} (v : Value) (allowed : List (String × α)) : Option α := do
  allowed.lookup (← v.string?)

def parsePosition (v : Value) : Option FeeAwareCapitalPosition := do
  let record ← exactRecord v
    ["positionId", "walletId", "networkId", "assetId", "amountAtomic", "amountUsdMantissa"]
  let positionId ← reference (record.get "positionId")
  let walletId ← reference (record.get "walletId")
  let networkId ← networkId (record.get "networkId")
  let assetId ← reference (record.get "assetId")
  let amountAtomic ← positiveBigInt (record.get "amountAtomic") unsignedLimit
  let amountUsdMantissa ← positiveBigInt (record.get "amountUsdMantissa") unsignedLimit
  pure { positionId, walletId, networkId, assetId, amountAtomic, amountUsdMantissa }

structure ParsedRiskAssessment where
  value : FeeAwareRiskAssessment
  assessedAtMs : Int
  validUntilMs : Int

def parseRiskAssessment (v : Value) : Option (Option ParsedRiskAssessment) :=
  if v.isNull then some none
  else do
    let record ← exactRecord v
      ["status", "assessmentReferenceId", "assessedAt", "validUntil", "penaltyBasisPoints"]
    guard ((record.get "status").isText "APPROVED_FOR_RECOMMENDATION")
    let assessedAt ← timestamp (record.get "assessedAt")
    let validUntil ← timestamp (record.get "validUntil")
    guard (assessedAt.milliseconds < validUntil.milliseconds)
    let assessmentReferenceId ← reference (record.get "assessmentReferenceId")
    let penaltyBasisPoints ← unsignedBigInt (record.get "penaltyBasisPoints") maxRateBasisPoints
    pure (some
      { value := { assessmentReferenceId, assessedAt := assessedAt.text,
                   validUntil := validUntil.text, penaltyBasisPoints }
        assessedAtMs := assessedAt.milliseconds
        validUntilMs := validUntil.milliseconds })

def parseOpportunity (v : Value) : Option ParsedOpportunity := do
  let record ← exactRecord v
    ["opportunityId", "providerId", "networkId", "assetId", "availability",
      "recommendationEligibility", "grossApyBasisPoints", "recurringFeeBasisPoints",
      "availableCapacityUsdMantissa", "evidence", "riskAssessment"]
  let evidenceRecord ← exactRecord (record.get "evidence")
    ["evidenceReferenceId", "adapterId", "observedAt", "validUntil"]
  let observedAt ← timestamp (evidenceRecord.get "observedAt")
  let evidenceValidUntil ← timestamp (evidenceRecord.get "validUntil")
  guard (observedAt.milliseconds < evidenceValidUntil.milliseconds)
  let risk ← parseRiskAssessment (record.get "riskAssessment")
  let opportunityId ← reference (record.get "opportunityId")
  let providerId ← reference (record.get "providerId")
  let networkId ← networkId (record.get "networkId")
  let assetId ← reference (record.get "assetId")
  let availability ← enumValue (record.get "availability")
    [("AVAILABLE", .available), ("UNAVAILABLE", .unavailable)]
  let recommendationEligibility ← enumValue (record.get "recommendationEligibility")
    [("ELIGIBLE", .eligible), ("INELIGIBLE", .ineligible)]
  let grossApyBasisPoints ← unsignedBigInt (record.get "grossApyBasisPoints") maxRateBasisPoints
  let recurringFeeBasisPoints ←
    unsignedBigInt (record.get "recurringFeeBasisPoints") maxRateBasisPoints
  let availableCapacityUsdMantissa ←
    unsignedBigInt (record.get "availableCapacityUsdMantissa") unsignedLimit
  let evidenceReferenceId ← reference (evidenceRecord.get "evidenceReferenceId")
  let adapterId ← reference (evidenceRecord.get "adapterId")
  pure
    { opportunityId, providerId, networkId, assetId, availability, recommendationEligibility,
      grossApyBasisPoints, recurringFeeBasisPoints, availableCapacityUsdMantissa,
      evidence := { evidenceReferenceId, adapterId, observedAt := observedAt.text,
                    validUntil := evidenceValidUntil.text }
      riskAssessment := risk.map (·.value)
      evidenceObservedAtMs := observedAt.milliseconds
      evidenceValidUntilMs := evidenceValidUntil.milliseconds
      riskAssessedAtMs := risk.map (·.assessedAtMs)
      riskValidUntilMs := risk.map (·.validUntilMs) }

def feeAwareAllocationCostKinds : List String :=
  ["entrySourceNetwork", "entrySourceSwap", "entryBridge", "entryDestinationNetwork",
    "entryDestinationSwap", "providerEntry", "providerExit", "exitDestinationNetwork",
    "exitDestinationSwap", "exitBridge", "exitSourceNetwork", "platformRouting", "riskBuffer"]

/-- The cost record with the amounts of the listed kinds; this contract has no exit
platform routing. -/
def costsOf (amount : String → Int) : FeeAwareAllocationCosts where
  entrySourceNetwork := amount "entrySourceNetwork"
  entrySourceSwap := amount "entrySourceSwap"
  entryBridge := amount "entryBridge"
  entryDestinationNetwork := amount "entryDestinationNetwork"
  entryDestinationSwap := amount "entryDestinationSwap"
  providerEntry := amount "providerEntry"
  providerExit := amount "providerExit"
  exitDestinationNetwork := amount "exitDestinationNetwork"
  exitDestinationSwap := amount "exitDestinationSwap"
  exitBridge := amount "exitBridge"
  exitSourceNetwork := amount "exitSourceNetwork"
  platformRouting := amount "platformRouting"
  exitPlatformRouting := none
  riskBuffer := amount "riskBuffer"

def parseCosts (v : Value) : Option FeeAwareAllocationCosts × Option CostIssue :=
  match dataDescriptors v with
  | none => (none, some .invalidCostQuote)
  | some descriptors =>
    if !hasExactKeys descriptors feeAwareAllocationCostKinds then (none, some .incompleteCostQuote)
    else
      match feeAwareAllocationCostKinds.mapM (fun kind => do
          let amount ← unsignedBigInt (← dataValue descriptors kind) unsignedLimit
          pure (kind, amount)) with
      | none => (none, some .invalidCostQuote)
      | some amounts => (some (costsOf (fun kind => ((amounts.lookup kind).getD 0 : Nat))), none)

def parseBridge (v : Value) : Option (Option FeeAwareBridgeEstimate) :=
  if v.isNull then some none
  else do
    let record ← exactRecord v
      ["entryBridgeProviderId", "exitBridgeProviderId", "entryEstimateReferenceId",
        "exitEstimateReferenceId", "entryMinimumOutputAtomic", "exitMinimumOutputAtomic"]
    let entryBridgeProviderId ← reference (record.get "entryBridgeProviderId")
    let exitBridgeProviderId ← reference (record.get "exitBridgeProviderId")
    let entryEstimateReferenceId ← reference (record.get "entryEstimateReferenceId")
    let exitEstimateReferenceId ← reference (record.get "exitEstimateReferenceId")
    let entryMinimumOutputAtomic ←
      positiveBigInt (record.get "entryMinimumOutputAtomic") unsignedLimit
    let exitMinimumOutputAtomic ← positiveBigInt (record.get "exitMinimumOutputAtomic") unsignedLimit
    pure (some
      { entryBridgeProviderId, exitBridgeProviderId, entryEstimateReferenceId,
        exitEstimateReferenceId, entryMinimumOutputAtomic, exitMinimumOutputAtomic })

def bridgeFits (bridge : FeeAwareBridgeEstimate) (sourceAmount minimumDestination : Nat) : Bool :=
  !(bridge.entryMinimumOutputAtomic != minimumDestination ||
    decide (bridge.entryMinimumOutputAtomic > sourceAmount) ||
    decide (bridge.exitMinimumOutputAtomic > bridge.entryMinimumOutputAtomic))

def parseCostQuote (v : Value) : Option ParsedCostQuote := do
  let record ← exactRecord v
    ["quoteReferenceId", "routeReferenceId", "positionId", "opportunityId", "verifiedByAdapterId",
      "quotedAt", "validUntil", "sourceNetworkId", "destinationNetworkId", "sourceAssetId",
      "destinationAssetId", "sourceAmountAtomic", "minimumDestinationAmountAtomic",
      "costsUsdMantissa", "bridge"]
  let quotedAt ← timestamp (record.get "quotedAt")
  let validUntil ← timestamp (record.get "validUntil")
  guard (quotedAt.milliseconds < validUntil.milliseconds)
  let parsedCosts := parseCosts (record.get "costsUsdMantissa")
  let sourceAmountAtomic ← positiveBigInt (record.get "sourceAmountAtomic") unsignedLimit
  let minimumDestinationAmountAtomic ←
    positiveBigInt (record.get "minimumDestinationAmountAtomic") unsignedLimit
  let bridge ← parseBridge (record.get "bridge")
  guard (bridge.all (bridgeFits · sourceAmountAtomic minimumDestinationAmountAtomic))
  let quoteReferenceId ← reference (record.get "quoteReferenceId")
  let routeReferenceId ← reference (record.get "routeReferenceId")
  let positionId ← reference (record.get "positionId")
  let opportunityId ← reference (record.get "opportunityId")
  let verifiedByAdapterId ← reference (record.get "verifiedByAdapterId")
  let sourceNetworkId ← networkId (record.get "sourceNetworkId")
  let destinationNetworkId ← networkId (record.get "destinationNetworkId")
  let sourceAssetId ← reference (record.get "sourceAssetId")
  let destinationAssetId ← reference (record.get "destinationAssetId")
  pure
    { quoteReferenceId, routeReferenceId, positionId, opportunityId, verifiedByAdapterId,
      quotedAt := quotedAt.text, validUntil := validUntil.text,
      quotedAtMs := quotedAt.milliseconds, validUntilMs := validUntil.milliseconds,
      sourceNetworkId, destinationNetworkId, sourceAssetId, destinationAssetId, sourceAmountAtomic,
      minimumDestinationAmountAtomic, costsUsdMantissa := parsedCosts.1,
      costIssue := parsedCosts.2, bridge }

def parseCandidate (v : Value) : Option ParsedCandidate := do
  let record ← exactRecord v ["candidateId", "positionId", "opportunityId", "costQuote"]
  let costQuote := parseCostQuote (record.get "costQuote")
  let candidateId ← reference (record.get "candidateId")
  let positionId ← reference (record.get "positionId")
  let opportunityId ← reference (record.get "opportunityId")
  pure { candidateId, positionId, opportunityId, costQuote }

def parseOptIn (v : Value) : Option (Option ParsedOptIn) :=
  if v.isNull then some none
  else do
    let record ← exactRecord v ["scope", "consentReferenceId", "grantedAt", "expiresAt"]
    guard ((record.get "scope").isText "CONSIDER_CROSS_CHAIN_RECOMMENDATIONS")
    let grantedAt ← timestamp (record.get "grantedAt")
    let expiresAt ← timestamp (record.get "expiresAt")
    guard (grantedAt.milliseconds < expiresAt.milliseconds)
    let consentReferenceId ← reference (record.get "consentReferenceId")
    pure (some
      { consentReferenceId, grantedAt := grantedAt.text, expiresAt := expiresAt.text,
        grantedAtMs := grantedAt.milliseconds, expiresAtMs := expiresAt.milliseconds })

def parseCrossChainPolicy (v : Value) : Option ParsedCrossChainPolicy := do
  let record ← exactRecord v
    ["optIn", "allowedBridgeProviderIds", "maximumLifecycleCostUsdMantissa",
      "minimumNetImprovementUsdMantissa"]
  let items ← exactArray (record.get "allowedBridgeProviderIds") 0 32
  let allowedBridgeProviderIds ← items.mapM reference
  guard allowedBridgeProviderIds.Nodup
  let optIn ← parseOptIn (record.get "optIn")
  let maximumLifecycleCostUsdMantissa ←
    unsignedBigInt (record.get "maximumLifecycleCostUsdMantissa") unsignedLimit
  let minimumNetImprovementUsdMantissa ←
    unsignedBigInt (record.get "minimumNetImprovementUsdMantissa") unsignedLimit
  pure { optIn, allowedBridgeProviderIds, maximumLifecycleCostUsdMantissa,
         minimumNetImprovementUsdMantissa }

def parseExposurePolicy (v : Value) : Option FeeAwareAllocationExposurePolicy := do
  let record ← exactRecord v
    ["maximumCrossChainPrincipalUsdMantissa", "maximumProviderPrincipalUsdMantissa"]
  let maximumCrossChainPrincipalUsdMantissa ←
    unsignedBigInt (record.get "maximumCrossChainPrincipalUsdMantissa") unsignedLimit
  let maximumProviderPrincipalUsdMantissa ←
    unsignedBigInt (record.get "maximumProviderPrincipalUsdMantissa") unsignedLimit
  pure { maximumCrossChainPrincipalUsdMantissa, maximumProviderPrincipalUsdMantissa }

def parseItems {α : Type} (v : Value) (minimum maximum : Nat) (parse : Value → Option α) :
    Option (List α) := do
  (← exactArray v minimum maximum).mapM parse

theorem parseItems_length {α : Type} {v : Value} {minimum maximum : Nat} {parse : Value → Option α}
    {items : List α} (h : parseItems v minimum maximum parse = some items) :
    minimum ≤ items.length := by
  obtain ⟨values, hv, hm⟩ := Option.bind_eq_some_iff.mp h
  rw [ListOption.length_mapM hm]
  cases v <;> simp only [exactArray, reduceCtorEq] at hv
  obtain ⟨_, hg, hm'⟩ := Option.bind_eq_some_iff.mp hv
  rw [ListOption.length_mapM hm']
  exact ((Option.guard_eq_some' _).mp hg).1

/-- The parsed items of a field that holds a list, which are at least as many as required. -/
def parseList {α : Type} (v : Value) (minimum maximum : Nat) (parse : Value → Option α) :
    Option {items : List α // minimum ≤ items.length} :=
  (parseItems v minimum maximum parse).pmap Subtype.mk (fun _ h => parseItems_length h)

def requestKeys : List String :=
  ["usdScale", "evaluatedAt", "holdingPeriodDays", "maximumQuoteAgeSeconds",
    "maximumOpportunityAgeSeconds", "minimumNetBenefitUsdMantissa", "crossChainPolicy",
    "exposurePolicy", "positions", "opportunities", "candidates"]

def parseFields (record : Record) : Option ParsedRequest := do
  guard ((record.get "usdScale").isNumber usdScale)
  let evaluatedAt ← timestamp (record.get "evaluatedAt")
  let holdingPeriodDays ← positiveBigInt (record.get "holdingPeriodDays") maxHoldingPeriodDays
  let maximumQuoteAgeSeconds ←
    positiveBigInt (record.get "maximumQuoteAgeSeconds") maxFreshnessSeconds
  let maximumOpportunityAgeSeconds ←
    positiveBigInt (record.get "maximumOpportunityAgeSeconds") maxFreshnessSeconds
  let minimumNetBenefitUsdMantissa ←
    unsignedBigInt (record.get "minimumNetBenefitUsdMantissa") unsignedLimit
  let positions ← parseList (record.get "positions") 1 64 parsePosition
  let opportunities ← parseList (record.get "opportunities") 1 256 parseOpportunity
  let candidates ← parseList (record.get "candidates") 0 1024 parseCandidate
  let crossChainPolicy ← parseCrossChainPolicy (record.get "crossChainPolicy")
  let exposurePolicy ← parseExposurePolicy (record.get "exposurePolicy")
  if hu : (positions.1.map (·.positionId)).Nodup ∧ (opportunities.1.map (·.opportunityId)).Nodup ∧
      (candidates.1.map (·.candidateId)).Nodup then
    pure
      { evaluatedAt := evaluatedAt.text, evaluatedAtMs := evaluatedAt.milliseconds,
        holdingPeriodDays, maximumQuoteAgeSeconds, maximumOpportunityAgeSeconds,
        minimumNetBenefitUsdMantissa, crossChainPolicy, exposurePolicy, positions := positions.1,
        opportunities := opportunities.1, candidates := candidates.1
        positions_nonempty := List.ne_nil_of_length_pos positions.2
        positionIds_nodup := hu.1
        opportunityIds_nodup := hu.2.1
        candidateIds_nodup := hu.2.2 }
  else none

def parseRequest (v : Value) : Option ParsedRequest := do
  parseFields (← exactRecord v requestKeys)

end CryptoLending.SmartLending.AllocationRequest
