import CryptoLending.Lib.DecimalText
import CryptoLending.Lib.KeyedSums
import CryptoLending.Portfolio.BalanceSnapshot
import CryptoLending.Valuation.StablecoinValuation

namespace CryptoLending.Portfolio.PortfolioTotals

open Lib Lib.Text Lib.DecimalText Lib.Sorting Lib.Grouping Blockchain.AssetRegistry BalanceSnapshot
open Valuation.ValuationRequest Valuation.StablecoinValuation

def portfolioUsdScale : Nat := 18
def maxAggregateUsdDigits : Nat := 100
def maxDecimalScale : Nat := 36

inductive PortfolioFreshness where
  | current
  | stale
  | unavailable
  deriving DecidableEq

inductive PortfolioCompleteness where
  | complete
  | partly
  | unavailable
  deriving DecidableEq

/-- The single failure of the aggregation. -/
inductive PortfolioAggregationError where
  | portfolioAggregationFailed
  deriving DecidableEq

structure ExactUsdAmount where
  mantissa : String
  decimal : String
  deriving DecidableEq

structure ExactAssetAmount where
  atomic : String
  decimals : Nat
  decimal : String
  deriving DecidableEq

structure PortfolioAssetReference where
  registryFingerprintSha256 : String
  stablecoin : SupportedStablecoin
  networkId : String
  identity : String
  decimals : Nat
  deriving DecidableEq

/-- A valuation with its numbers as texts. -/
structure ValuationTexts where
  availability : StablecoinValuationAvailability
  selection : StablecoinValuationSelection
  selectedSourceId : Option StablecoinValuationSourceId
  selectedSourceReference : Option String
  selectedSourceSequence : Option String
  pricedAt : Option String
  observedAt : Option String
  usdRateMantissa : Option String
  usdRateScale : Option Nat
  usdValueMantissa : Option String
  freshnessClass : StablecoinValuationFreshness
  confidenceClass : StablecoinValuationConfidenceClass
  depegClass : StablecoinValuationDepegClass
  downsideBand : StablecoinDownsideBand
  sourceAgreement : StablecoinSourceAgreement
  reasons : List StablecoinValuationReason
  reportingUse : ReportingUse
  deriving DecidableEq

/-- The valuation that is shown with a line: all but the value itself. -/
structure PortfolioValuationSnapshot where
  priceSnapshotId : Option String
  availability : StablecoinValuationAvailability
  selection : StablecoinValuationSelection
  selectedSourceId : Option StablecoinValuationSourceId
  selectedSourceReference : Option String
  selectedSourceSequence : Option String
  pricedAt : Option String
  observedAt : Option String
  usdRateMantissa : Option String
  usdRateScale : Option Nat
  freshnessClass : StablecoinValuationFreshness
  confidenceClass : StablecoinValuationConfidenceClass
  depegClass : StablecoinValuationDepegClass
  downsideBand : StablecoinDownsideBand
  sourceAgreement : StablecoinSourceAgreement
  reasons : List StablecoinValuationReason
  reportingUse : ReportingUse
  deriving DecidableEq

structure PortfolioSourceBreakdown where
  observationId : String
  walletId : String
  networkId : String
  asset : PortfolioAssetReference
  balance : ExactAssetAmount
  balanceObservedAt : String
  balanceFreshnessClass : IndexedBalanceFreshness
  freshnessClass : PortfolioFreshness
  includedInOverallTotal : Bool
  usdValue : Option ExactUsdAmount
  valuation : PortfolioValuationSnapshot
  deriving DecidableEq

structure ExcludedPortfolioSource where
  observationId : String
  walletId : String
  networkId : String
  assetIdentity : String
  amountAtomic : String
  balanceObservedAt : String
  balanceFreshnessClass : IndexedBalanceFreshness
  deriving DecidableEq

structure PortfolioAggregate where
  usdValue : Option ExactUsdAmount
  freshnessClass : PortfolioFreshness
  completeness : PortfolioCompleteness
  sourceCount : Nat
  includedSourceCount : Nat
  deriving DecidableEq

/-- The total of a group, with the key of the group. -/
structure GroupTotal (κ : Type) extends PortfolioAggregate where
  key : κ
  deriving DecidableEq

abbrev PortfolioWalletTotal := GroupTotal String
abbrev PortfolioChainTotal := GroupTotal String
abbrev PortfolioAssetTotal := GroupTotal SupportedStablecoin

structure PortfolioBalanceSnapshotView where
  snapshotId : String
  capturedAt : String
  freshnessClass : IndexedBalanceFreshness
  deriving DecidableEq

structure UnifiedPortfolio where
  asOf : String
  balanceSnapshot : PortfolioBalanceSnapshotView
  balanceCoverage : IndexedPortfolioBalanceCoverage
  oldestBalanceObservedAt : Option String
  overallTotal : PortfolioAggregate
  walletTotals : List PortfolioWalletTotal
  chainTotals : List PortfolioChainTotal
  assetTotals : List PortfolioAssetTotal
  sources : List PortfolioSourceBreakdown
  excludedSources : List ExcludedPortfolioSource

structure ValuedPortfolioBalance where
  observation : IndexedPortfolioBalanceObservation
  registryAsset : SupportedStablecoinAsset
  asset : PortfolioAssetReference
  priceSnapshotId : Option String
  valuation : ValuationTexts

structure BuildUnifiedPortfolioRequest where
  asOf : String
  balanceSnapshotId : String
  balanceCapturedAt : String
  balanceSnapshotFreshness : IndexedBalanceFreshness
  balanceCoverage : IndexedPortfolioBalanceCoverage
  valuedBalances : List ValuedPortfolioBalance
  excludedBalances : List IndexedPortfolioBalanceObservation

structure Contribution where
  freshnessClass : PortfolioFreshness
  usdValueMantissa : Option String
  deriving DecidableEq

section Amounts

def formatFixedDecimal (mantissa : String) (scale : Nat) :
    Except PortfolioAggregationError String := do
  failWhen (¬isCanonicalUint mantissa.toList = true ∨ maxDecimalScale < scale)
    .portfolioAggregationFailed
  if scale = 0 then return mantissa
  else
    let padded := mantissa.toList.leftpad (scale + 1) '0'
    return String.ofList (padded.take (padded.length - scale) ++ '.' ::
      padded.drop (padded.length - scale))

def exactUsdAmount (mantissa : String) : Except PortfolioAggregationError ExactUsdAmount := do
  failWhen (¬isCanonicalUint mantissa.toList = true ∨
    maxAggregateUsdDigits < mantissa.toList.length) .portfolioAggregationFailed
  let decimal ← formatFixedDecimal mantissa portfolioUsdScale
  return { mantissa, decimal }

def exactAssetAmount (amountAtomic : String) (decimals : Nat) :
    Except PortfolioAggregationError ExactAssetAmount := do
  let decimal ← formatFixedDecimal amountAtomic decimals
  return { atomic := amountAtomic, decimals, decimal }

end Amounts

section Lines

/-- The value of a balance that is available. -/
def includedMantissa (valuation : ValuationTexts) : Option String :=
  if valuation.availability = .available then valuation.usdValueMantissa else none

def portfolioFreshness : StablecoinValuationFreshness → PortfolioFreshness
  | .current => .current
  | .stale => .stale
  | .unavailable => .unavailable

def lineFreshness (observation : IndexedPortfolioBalanceObservation) (valuation : ValuationTexts) :
    PortfolioFreshness :=
  if includedMantissa valuation = none then .unavailable
  else if observation.freshnessClass = .stale ∨ valuation.freshnessClass = .stale then .stale
  else portfolioFreshness valuation.freshnessClass

def valuationSnapshot (value : ValuedPortfolioBalance) : PortfolioValuationSnapshot :=
  let valuation := value.valuation
  { priceSnapshotId := value.priceSnapshotId
    availability := valuation.availability
    selection := valuation.selection
    selectedSourceId := valuation.selectedSourceId
    selectedSourceReference := valuation.selectedSourceReference
    selectedSourceSequence := valuation.selectedSourceSequence
    pricedAt := valuation.pricedAt
    observedAt := valuation.observedAt
    usdRateMantissa := valuation.usdRateMantissa
    usdRateScale := valuation.usdRateScale
    freshnessClass := valuation.freshnessClass
    confidenceClass := valuation.confidenceClass
    depegClass := valuation.depegClass
    downsideBand := valuation.downsideBand
    sourceAgreement := valuation.sourceAgreement
    reasons := valuation.reasons
    reportingUse := valuation.reportingUse }

def sourceBreakdown (value : ValuedPortfolioBalance) :
    Except PortfolioAggregationError PortfolioSourceBreakdown := do
  let included := includedMantissa value.valuation
  let usdValue ← included.mapM exactUsdAmount
  let balance ← exactAssetAmount value.observation.amountAtomic value.registryAsset.decimals
  return {
    observationId := value.observation.observationId
    walletId := value.observation.walletId
    networkId := value.observation.networkId
    asset := value.asset
    balance
    balanceObservedAt := value.observation.observedAt
    balanceFreshnessClass := value.observation.freshnessClass
    freshnessClass := lineFreshness value.observation value.valuation
    includedInOverallTotal := included.isSome
    usdValue
    valuation := valuationSnapshot value }

def excludedSource (observation : IndexedPortfolioBalanceObservation) : ExcludedPortfolioSource where
  observationId := observation.observationId
  walletId := observation.walletId
  networkId := observation.networkId
  assetIdentity := observation.assetIdentity
  amountAtomic := observation.amountAtomic
  balanceObservedAt := observation.observedAt
  balanceFreshnessClass := observation.freshnessClass

end Lines

section Aggregation

def worstFreshness (values : List PortfolioFreshness) : PortfolioFreshness :=
  if .unavailable ∈ values then .unavailable
  else if .stale ∈ values then .stale
  else .current

/-- One more mantissa, unless the sum has too many digits. -/
def addMantissa (sum : Nat) (mantissa : String) : Except PortfolioAggregationError Nat := do
  failWhen (¬isCanonicalUint mantissa.toList = true) .portfolioAggregationFailed
  let sum := sum + decimalValue mantissa.toList
  failWhen (maxAggregateUsdDigits < Decimal.decimalLength sum) .portfolioAggregationFailed
  return sum

def aggregate (contributions : List Contribution)
    (coverageStatuses : List IndexedBalanceCoverageStatus) :
    Except PortfolioAggregationError PortfolioAggregate := do
  let included := contributions.filterMap (·.usdValueMantissa)
  let coverageComplete := coverageStatuses.all fun status => status = .complete
  if contributions = [] then
    if coverageComplete = false then
      return {
        usdValue := none
        freshnessClass := .unavailable
        completeness := .unavailable
        sourceCount := 0
        includedSourceCount := 0 }
    else
      let usdValue ← exactUsdAmount "0"
      return {
        usdValue := some usdValue
        freshnessClass := .current
        completeness := .complete
        sourceCount := 0
        includedSourceCount := 0 }
  else
    let sum ← included.foldlM addMantissa 0
    let usdValue ← (if included = [] then none else some (integerText sum)).mapM exactUsdAmount
    return {
      usdValue
      freshnessClass :=
        if coverageComplete then worstFreshness (contributions.map (·.freshnessClass))
        else .unavailable
      completeness :=
        if included = [] then .unavailable
        else if included.length = contributions.length ∧ coverageComplete = true then .complete
        else .partly
      sourceCount := contributions.length
      includedSourceCount := included.length }

def sourceContribution (source : PortfolioSourceBreakdown) : Contribution where
  freshnessClass := source.freshnessClass
  usdValueMantissa := source.usdValue.map (·.mantissa)

def excludedContribution : Contribution where
  freshnessClass := .unavailable
  usdValueMantissa := none

def groupedTotals {κ : Type} [BEq κ] (text : κ → String) (keys : List κ)
    (contributionsFor : κ → List Contribution)
    (coverageStatusesFor : κ → List IndexedBalanceCoverageStatus) :
    Except PortfolioAggregationError (List (GroupTotal κ)) :=
  (sortedKeys text keys).mapM fun key => do
    let total ← aggregate (contributionsFor key) (coverageStatusesFor key)
    return { total with key }

end Aggregation

section Portfolio

/-- `localeCompare` stands for the collation of texts by the platform. -/
def sourceOrder (localeCompare : String → String → Ordering)
    (left right : PortfolioSourceBreakdown) : Ordering :=
  (localeCompare left.walletId right.walletId).then
    ((localeCompare left.networkId right.networkId).then
      ((localeCompare left.asset.stablecoin.text right.asset.stablecoin.text).then
        (localeCompare left.asset.identity right.asset.identity)))

def excludedOrder (localeCompare : String → String → Ordering)
    (left right : ExcludedPortfolioSource) : Ordering :=
  (localeCompare left.walletId right.walletId).then
    ((localeCompare left.networkId right.networkId).then
      (localeCompare left.assetIdentity right.assetIdentity))

/-- The registry lists the stablecoin as active on the network. -/
def isActiveOn (stablecoin : SupportedStablecoin) (networkId : String) : Bool :=
  mainnetSupportedAssetRegistry.assets.any fun asset =>
    asset.activationState = .active && asset.networkId = networkId && asset.stablecoin = stablecoin

/-- The contributions of the lines with a property, the excluded ones last. -/
def contributionsOf (sources : List PortfolioSourceBreakdown)
    (excludedSources : List ExcludedPortfolioSource) : List Contribution :=
  sources.map sourceContribution ++ excludedSources.map fun _ => excludedContribution

def buildUnifiedPortfolio (localeCompare : String → String → Ordering)
    (request : BuildUnifiedPortfolioRequest) :
    Except PortfolioAggregationError UnifiedPortfolio := do
  let lines ← request.valuedBalances.mapM sourceBreakdown
  let sources := sortBy (sourceOrder localeCompare) lines
  let excludedSources := sortBy (excludedOrder localeCompare)
    (request.excludedBalances.map excludedSource)
  let targets := request.balanceCoverage.targets
  let walletTotals ← groupedTotals id
    (sources.map (·.walletId) ++ excludedSources.map (·.walletId) ++ targets.map (·.walletId))
    (fun walletId => contributionsOf (sources.filter fun s => s.walletId = walletId)
      (excludedSources.filter fun s => s.walletId = walletId))
    (fun walletId => (targets.filter fun t => t.walletId = walletId).map (·.status))
  let chainTotals ← groupedTotals id
    (sources.map (·.networkId) ++ excludedSources.map (·.networkId) ++
      targets.map (·.networkId))
    (fun networkId => contributionsOf (sources.filter fun s => s.networkId = networkId)
      (excludedSources.filter fun s => s.networkId = networkId))
    (fun networkId => (targets.filter fun t => t.networkId = networkId).map (·.status))
  let assetTotals ← groupedTotals SupportedStablecoin.text
    (sources.map (·.asset.stablecoin))
    (fun stablecoin => contributionsOf (sources.filter fun s => s.asset.stablecoin = stablecoin) [])
    (fun stablecoin => (targets.filter fun t => isActiveOn stablecoin t.networkId).map (·.status))
  let overallTotal ← aggregate (contributionsOf sources excludedSources) (targets.map (·.status))
  let observedAt := sortBy compareCodeUnits
    (sources.map (·.balanceObservedAt) ++ excludedSources.map (·.balanceObservedAt))
  return {
    asOf := request.asOf
    balanceSnapshot := {
      snapshotId := request.balanceSnapshotId
      capturedAt := request.balanceCapturedAt
      freshnessClass := request.balanceSnapshotFreshness }
    balanceCoverage := request.balanceCoverage
    oldestBalanceObservedAt := observedAt.head?
    overallTotal :=
      if request.balanceSnapshotFreshness = .stale ∧ overallTotal.freshnessClass = .current then
        { overallTotal with freshnessClass := .stale }
      else overallTotal
    walletTotals
    chainTotals
    assetTotals
    sources
    excludedSources }

end Portfolio

end CryptoLending.Portfolio.PortfolioTotals
