import Mathlib.Algebra.Group.Action.Defs
import Mathlib.Algebra.Order.BigOperators.Group.List
import CryptoLending.Portfolio.PortfolioConservation
import CryptoLending.Valuation.ConservativeValuation
import CryptoLending.Valuation.ValuationRendering

namespace CryptoLending.Portfolio.PortfolioRequest

open Lib Lib.Text Lib.Decimal Lib.JsValue Lib.Numeral Lib.DecimalText Lib.Sorting Blockchain.AssetRegistry
open BalanceSnapshot PortfolioTotals PortfolioConservation
open Valuation Valuation.ValuationRequest Valuation.ValuationAssessment Valuation.StablecoinValuation Valuation.ConservativeValuation

section Service

/-- The price evidence that was read for an asset. -/
structure PortfolioPriceEvidenceSnapshot where
  snapshotId : String
  observations : Value
  sourceWatermarks : Value

/-- The texts of the numbers of a valuation. -/
def valuationTexts (r : StablecoinValuationResult) : ValuationTexts where
  availability := r.availability
  selection := r.selection
  selectedSourceId := r.selectedSourceId
  selectedSourceReference := r.selectedSourceReference
  selectedSourceSequence := r.selectedSourceSequence.map (·.text)
  pricedAt := r.pricedAt.map (·.text)
  observedAt := r.observedAt.map (·.text)
  usdRateMantissa := r.usdRate.map fun rate => integerText rate.mantissa
  usdRateScale := r.usdRate.map (·.scale)
  usdValueMantissa := r.usdValueMantissa.map integerText
  freshnessClass := r.freshnessClass
  confidenceClass := r.confidenceClass
  depegClass := r.depegClass
  downsideBand := r.downsideBand
  sourceAgreement := r.sourceAgreement
  reasons := r.reasons
  reportingUse := r.reportingUse

/-- The active asset with an identity, on an active network. -/
def normalizeAsset (networkId identity : String) : Option SupportedStablecoinAsset :=
  (mainnetSupportedAssetRegistry.identifyAsset networkId identity).filter fun asset =>
    asset.activationState = .active &&
      (mainnetSupportedAssetRegistry.networks.find? fun n => n.networkId == networkId).any
        fun n => n.activationState = .active

def assetReference (asset : SupportedStablecoinAsset) : PortfolioAssetReference where
  registryFingerprintSha256 := mainnetSupportedAssetRegistry.fingerprintSha256
  stablecoin := asset.stablecoin
  networkId := asset.networkId
  identity := asset.identity
  decimals := asset.decimals

/-- The object that names an asset for its valuation. -/
def valuationAsset (asset : PortfolioAssetReference) : Value :=
  ofFields
    [("registryEnvironment", .string registryEnvironment),
      ("registryVersion", .integer registryVersion),
      ("registryFingerprintSha256", .string asset.registryFingerprintSha256),
      ("stablecoin", .string asset.stablecoin.text), ("networkId", .string asset.networkId),
      ("identity", .string asset.identity), ("decimals", .integer asset.decimals)]

/-- The request that values a balance with the evidence for its asset. -/
def valuationRequest (asOf : String) (observation : IndexedPortfolioBalanceObservation)
    (asset : PortfolioAssetReference) (evidence : Option PortfolioPriceEvidenceSnapshot) : Value :=
  ofFields
    [("asset", valuationAsset asset), ("amountAtomic", .string observation.amountAtomic),
      ("evaluatedAt", .string asOf),
      ("sourceWatermarks", (evidence.map (·.sourceWatermarks)).getD ValuationRendering.firstUseWatermarks),
      ("observations", (evidence.map (·.observations)).getD (ofItems []))]

def valuedBalance (asOf : String)
    (evidenceFor : SupportedStablecoinAsset → Option PortfolioPriceEvidenceSnapshot)
    (observation : IndexedPortfolioBalanceObservation) (registryAsset : SupportedStablecoinAsset) :
    ValuedPortfolioBalance :=
  let asset := assetReference registryAsset
  let evidence := evidenceFor registryAsset
  { observation
    registryAsset
    asset
    priceSnapshotId := evidence.map (·.snapshotId)
    valuation := valuationTexts
      (evaluateStablecoinValuation (valuationRequest asOf observation asset evidence)) }

/-- The registry asset that an observation is of. -/
def registryAssetOf (o : IndexedPortfolioBalanceObservation) : Option SupportedStablecoinAsset :=
  normalizeAsset o.networkId o.assetIdentity

/-- The request for a snapshot, where `evidenceFor` stands for the price reads. -/
def portfolioRequest (asOf : String)
    (evidenceFor : SupportedStablecoinAsset → Option PortfolioPriceEvidenceSnapshot)
    (snapshot : IndexedPortfolioBalanceSnapshot) : BuildUnifiedPortfolioRequest where
  asOf
  balanceSnapshotId := snapshot.snapshotId
  balanceCapturedAt := snapshot.capturedAt
  balanceSnapshotFreshness := snapshot.freshnessClass
  balanceCoverage := snapshot.coverage
  valuedBalances := snapshot.observations.filterMap fun o =>
    (registryAssetOf o).map (valuedBalance asOf evidenceFor o)
  excludedBalances := snapshot.observations.filter fun o => (registryAssetOf o).isNone

end Service

section Digits

/-- A value never has more digits than are allowed. -/
def HasBoundedValue (r : StablecoinValuationResult) : Prop :=
  ∀ n, r.usdValueMantissa = some n → decimalLength n ≤ maxUsdValueDigits

theorem calculateUsdValue_bounded {amount decimals n : Nat} {rate : FixedDecimal}
    (h : calculateUsdValue amount decimals rate = some n) : decimalLength n ≤ maxUsdValueDigits := by
  simp only [calculateUsdValue, Option.ite_none_left_eq_some, Option.ite_none_right_eq_some,
    Option.some.injEq] at h
  obtain ⟨_, hle, rfl⟩ := h
  exact hle

theorem resultOfValue_bounded (request : ParsedRequest) (first : SourceCandidate)
    (rest : List SourceCandidate) (assessments : List StablecoinSourceAssessment)
    (sourceAgreement : StablecoinSourceAgreement)
    (confidenceClass : StablecoinValuationConfidenceClass) :
    HasBoundedValue
      (availableResult request first rest assessments sourceAgreement confidenceClass) := by
  intro n hn
  rw [availableResult] at hn
  cases hvalue : calculateUsdValue request.amountAtomic.value request.asset.decimals
      (effectiveRate (lowestCandidate first rest)) with
  | none =>
    rw [hvalue] at hn
    cases hn
  | some value =>
    rw [hvalue] at hn
    obtain rfl := Option.some.inj hn
    exact calculateUsdValue_bounded hvalue

theorem unavailableResult_bounded (asset : Option StablecoinValuationAssetReference)
    (amountAtomic : Option AtomicAmount) (evaluatedAt : Option Instant)
    (sourceAgreement : StablecoinSourceAgreement) (reasons : List StablecoinValuationReason)
    (sourceAssessments : List StablecoinSourceAssessment)
    (depegClass : StablecoinValuationDepegClass) (downsideBand : StablecoinDownsideBand) :
    HasBoundedValue (unavailableResult asset amountAtomic evaluatedAt sourceAgreement reasons
      sourceAssessments depegClass downsideBand) := by
  intro n hn
  cases hn

theorem valuate_bounded (request : ParsedRequest) : HasBoundedValue (valuate request) := by
  cases hpool : selectionPool request with
  | nil =>
    simp only [valuate, hpool]
    exact unavailableResult_bounded _ _ _ _ _ _ _ _
  | cons first rest =>
    cases rest with
    | nil =>
      simp only [valuate, hpool]
      exact resultOfValue_bounded _ _ _ _ _ _
    | cons second rest =>
      cases rest with
      | nil =>
        simp only [valuate, hpool]
        split
        · exact unavailableResult_bounded _ _ _ _ _ _ _ _
        · exact resultOfValue_bounded _ _ _ _ _ _
      | cons third rest =>
        simp only [valuate, hpool]
        exact resultOfValue_bounded _ _ _ _ _ _

theorem evaluateStablecoinValuation_bounded (v : Value) :
    HasBoundedValue (evaluateStablecoinValuation v) := by
  rw [evaluateStablecoinValuation]
  cases parseRequest v with
  | none => exact unavailableResult_bounded _ _ _ _ _ _ _ _
  | some request => exact valuate_bounded request

theorem lt_of_decimalLength_le {n digits : Nat} (h : decimalLength n ≤ digits) :
    n < 10 ^ digits := by
  have hdigits := isCanonicalUint_digits (isCanonicalUint_toDigits n)
  have hlt := decimalValue_lt hdigits
  rw [decimalValue_toDigits] at hlt
  exact hlt.trans_le (Nat.pow_le_pow_right (by omega) h)

theorem includedMantissa_valuationTexts {r : StablecoinValuationResult} {m : String}
    (h : includedMantissa (valuationTexts r) = some m) :
    ∃ n, r.usdValueMantissa = some n ∧ m = integerText n := by
  obtain ⟨_, h⟩ := Option.ite_none_right_eq_some.mp h
  obtain ⟨n, hn, rfl⟩ := Option.map_eq_some_iff.mp h
  exact ⟨n, hn, rfl⟩

end Digits

section Requests

/-- A request for the observations of a snapshot, each of them valued or excluded. -/
structure BuiltFrom (snapshot : IndexedPortfolioBalanceSnapshot)
    (request : BuildUnifiedPortfolioRequest) : Prop where
  freshness : request.balanceSnapshotFreshness = snapshot.freshnessClass
  coverage : request.balanceCoverage = snapshot.coverage
  observations : (request.valuedBalances.map (·.observation) ++ request.excludedBalances).Perm
    snapshot.observations

/-- A balance of a registry asset with a computed value. -/
structure IsValued (b : ValuedPortfolioBalance) : Prop where
  registryAsset : b.registryAsset ∈ mainnetSupportedAssetRegistry.assets
  valuation : ∃ v, b.valuation = valuationTexts (evaluateStablecoinValuation v)

section Built

variable (asOf : String)
  (evidenceFor : SupportedStablecoinAsset → Option PortfolioPriceEvidenceSnapshot)

theorem observations_valued (l : List IndexedPortfolioBalanceObservation) :
    (l.filterMap fun o => (registryAssetOf o).map (valuedBalance asOf evidenceFor o)).map
      (·.observation) = l.filter fun o => (registryAssetOf o).isSome := by
  induction l with
  | nil => rfl
  | cons o l ih =>
    cases hasset : registryAssetOf o with
    | none =>
      rw [List.filterMap_cons_none (by rw [hasset]; rfl),
        List.filter_cons_of_neg (by rw [hasset]; exact Bool.false_ne_true), ih]
    | some asset =>
      rw [List.filterMap_cons_some (by rw [hasset]; rfl), List.map_cons, ih,
        List.filter_cons_of_pos (by rw [hasset]; rfl)]
      rfl

theorem builtFrom_portfolioRequest (snapshot : IndexedPortfolioBalanceSnapshot) :
    BuiltFrom snapshot (portfolioRequest asOf evidenceFor snapshot) where
  freshness := rfl
  coverage := rfl
  observations := by
    have hsplit := List.filter_append_perm (fun o => (registryAssetOf o).isSome)
      snapshot.observations
    simp only [Option.not_isSome] at hsplit
    rw [portfolioRequest, observations_valued]
    exact hsplit

theorem mem_assets_of_normalizeAsset {networkId identity : String}
    {asset : SupportedStablecoinAsset} (h : normalizeAsset networkId identity = some asset) :
    asset ∈ mainnetSupportedAssetRegistry.assets := by
  obtain ⟨hidentified, _⟩ := Option.filter_eq_some_iff.mp h
  obtain ⟨_, _, hidentified⟩ := Option.bind_eq_some_iff.mp hidentified
  obtain ⟨_, _, hidentified⟩ := Option.bind_eq_some_iff.mp hidentified
  exact List.mem_of_find?_eq_some hidentified

theorem isValued_portfolioRequest (snapshot : IndexedPortfolioBalanceSnapshot) :
    ∀ b ∈ (portfolioRequest asOf evidenceFor snapshot).valuedBalances, IsValued b := by
  intro b hb
  obtain ⟨o, _, hvalued⟩ := List.mem_filterMap.mp hb
  obtain ⟨asset, hasset, rfl⟩ := Option.map_eq_some_iff.mp hvalued
  exact ⟨mem_assets_of_normalizeAsset hasset, _, rfl⟩

end Built

section Limits

theorem assets_decimals : ∀ asset ∈ mainnetSupportedAssetRegistry.assets,
    asset.decimals ≤ maxDecimalScale := by
  decide

/-- A line whose value has few enough digits to be summed up. -/
structure IsBoundedLine (line : PortfolioSourceBreakdown) : Prop where
  canonical : ∀ m, (sourceContribution line).usdValueMantissa = some m →
    isCanonicalUint m.toList = true
  value : lineValue line < 10 ^ maxUsdValueDigits

theorem isBoundedLine {b : ValuedPortfolioBalance} {line : PortfolioSourceBreakdown}
    (hb : IsValued b) (h : IsLineOf b line) : IsBoundedLine line := by
  obtain ⟨v, hv⟩ := hb.valuation
  have hmantissa := h.usdValue
  rw [hv] at hmantissa
  refine ⟨fun m hm => ?_, ?_⟩
  · obtain ⟨n, _, rfl⟩ := includedMantissa_valuationTexts (hmantissa.symm.trans hm)
    rw [toList_integerText]
    exact isCanonicalUint_toDigits n
  · rw [lineValue, usdMantissa_eq, hmantissa]
    cases hincluded : includedMantissa (valuationTexts (evaluateStablecoinValuation v)) with
    | none => exact Nat.pow_pos (by omega)
    | some m =>
      obtain ⟨n, hn, rfl⟩ := includedMantissa_valuationTexts hincluded
      rw [mantissaValue, Option.map_some, decimalValue_integerText]
      exact lt_of_decimalLength_le (evaluateStablecoinValuation_bounded v n hn)

theorem sum_lineValue_lt {lines : List PortfolioSourceBreakdown}
    (h : ∀ line ∈ lines, IsBoundedLine line) (hlength : lines.length ≤ maxBalanceObservations) :
    (lines.map lineValue).sum < 10 ^ maxAggregateUsdDigits := by
  have hsum : (lines.map lineValue).sum ≤ lines.length * 10 ^ maxUsdValueDigits := by
    have hle := List.sum_le_card_nsmul (lines.map lineValue) (10 ^ maxUsdValueDigits)
      (List.forall_mem_map.mpr fun line hline => (h line hline).value.le)
    rwa [List.length_map, smul_eq_mul] at hle
  calc (lines.map lineValue).sum
      ≤ maxBalanceObservations * 10 ^ maxUsdValueDigits :=
        hsum.trans (Nat.mul_le_mul_right _ hlength)
    _ < 10 ^ maxAggregateUsdDigits := by decide

/-- No total of a few lines exceeds the limit of digits. -/
theorem aggregate_lines_isOk {sources : List PortfolioSourceBreakdown}
    (h : ∀ line ∈ sources, IsBoundedLine line)
    (hlength : sources.length ≤ maxBalanceObservations)
    (excludedSources : List ExcludedPortfolioSource)
    (statuses : List IndexedBalanceCoverageStatus) :
    ∃ total, aggregate (contributionsOf sources excludedSources) statuses = .ok total := by
  refine aggregate_isOk statuses (fun c hc m hm => ?_) ?_
  · obtain ⟨s, hs, rfl⟩ | ⟨_, rfl⟩ := mem_contributionsOf.mp hc
    · exact (h s hs).canonical m hm
    · cases hm
  · rw [sum_contributionsOf]
    exact sum_lineValue_lt h hlength

variable {localeCompare : String → String → Ordering}

/-- The portfolio of an accepted snapshot is always built. -/
theorem buildUnifiedPortfolio_isOk {snapshot : IndexedPortfolioBalanceSnapshot}
    {request : BuildUnifiedPortfolioRequest} (haccepted : Accepted snapshot)
    (hbuilt : BuiltFrom snapshot request) (hvalued : ∀ b ∈ request.valuedBalances, IsValued b) :
    ∃ p, buildUnifiedPortfolio localeCompare request = .ok p := by
  have hobservation : ∀ b ∈ request.valuedBalances, b.observation ∈ snapshot.observations :=
    fun b hb => hbuilt.observations.mem_iff.mp
      (List.mem_append_left _ (List.mem_map_of_mem hb))
  have hline : ∀ b ∈ request.valuedBalances, ∃ line, sourceBreakdown b = .ok line := by
    intro b hb
    have hcanonical := (haccepted.valid _ (hobservation b hb)).2
    rw [isCanonicalAmount, Bool.and_eq_true] at hcanonical
    obtain ⟨v, hv⟩ := (hvalued b hb).valuation
    refine sourceBreakdown_isOk hcanonical.1 (assets_decimals _ (hvalued b hb).registryAsset) ?_
    intro m hm
    rw [hv] at hm
    obtain ⟨n, hn, rfl⟩ := includedMantissa_valuationTexts hm
    rw [toList_integerText]
    exact ⟨isCanonicalUint_toDigits n,
      (evaluateStablecoinValuation_bounded v n hn).trans (by decide)⟩
  obtain ⟨lines, hlines⟩ := except_mapM_isOk hline
  have hrel := (except_mapM_ok.mp hlines).imp fun _ _ h => sourceBreakdown_ok h
  have hlength : lines.length ≤ maxBalanceObservations := by
    have htotal := hbuilt.observations.length_eq
    rw [List.length_append, List.length_map] at htotal
    have hle := haccepted.length_le
    rw [← hrel.length_eq]
    omega
  have hbounded : ∀ line ∈ lines, IsBoundedLine line := by
    intro line hl
    obtain ⟨b, hb, h⟩ := ListOption.exists_of_mem_right
      ((List.forall₂_and_left _ _).mpr ⟨fun b hb => hb, hrel⟩) hl
    exact isBoundedLine (hvalued b h.1) h.2
  have hgroup : ∀ (q : PortfolioSourceBreakdown → Bool) excludedSources statuses, ∃ total,
      aggregate (contributionsOf ((sortBy (sourceOrder localeCompare) lines).filter q)
        excludedSources) statuses = .ok total := fun q _ _ =>
    aggregate_lines_isOk
      (fun line h => hbounded line (mem_sortBy.mp (List.mem_of_mem_filter h)))
      ((List.length_filter_le q _).trans (by rwa [length_sortBy])) _ _
  have hwhole : ∀ excludedSources statuses, ∃ total,
      aggregate (contributionsOf (sortBy (sourceOrder localeCompare) lines) excludedSources)
        statuses = .ok total := fun _ _ =>
    aggregate_lines_isOk (fun line h => hbounded line (mem_sortBy.mp h))
      (by rwa [length_sortBy]) _ _
  rw [buildUnifiedPortfolio, hlines, except_ok_bind]
  refine except_bind_isOk (groupedTotals_isOk fun _ _ => hgroup _ _ _) fun wallets => ?_
  refine except_bind_isOk (groupedTotals_isOk fun _ _ => hgroup _ _ _) fun chains => ?_
  refine except_bind_isOk (groupedTotals_isOk fun _ _ => hgroup _ _ _) fun assets => ?_
  exact except_bind_isOk (hwhole _ _) fun total => ⟨_, rfl⟩

end Limits

/-- Every grouping of a portfolio conserves what was requested, and the portfolio of an
accepted snapshot is always built. -/
theorem buildUnifiedPortfolio_conserves (localeCompare : String → String → Ordering) :
    (∀ request p, buildUnifiedPortfolio localeCompare request = .ok p → Conserves request p) ∧
      ∀ v evaluatedAt expectedWallets snapshot,
        parseIndexedPortfolioBalanceSnapshot localeCompare v evaluatedAt expectedWallets =
          .ok snapshot →
        ∀ request, BuiltFrom snapshot request → (∀ b ∈ request.valuedBalances, IsValued b) →
          ∃ p, buildUnifiedPortfolio localeCompare request = .ok p :=
  ⟨fun _ _ h => (buildUnifiedPortfolio_ok h).conserves, fun _ _ _ _ h _ hbuilt hvalued =>
    buildUnifiedPortfolio_isOk (accepted_of_parse h) hbuilt hvalued⟩

end Requests

section Sample

def sampleWallet : String := "11111111-1111-4111-8111-111111111111"

def sampleTime : String := "2026-07-20T00:00:30.000Z"

def sampleRegistrations : Value :=
  ofItems [ofFields [("walletId", .string sampleWallet), ("networkId", .string ethereum)]]

def sampleCoverage : Value :=
  ofFields [("status", .string "COMPLETE"),
    ("targets", ofItems [ofFields [("walletId", .string sampleWallet),
      ("networkId", .string ethereum), ("status", .string "COMPLETE")]])]

def sampleBalance (observationId assetIdentity : String) : Value :=
  ofFields
    [("observationId", .string observationId), ("walletId", .string sampleWallet),
      ("networkId", .string ethereum), ("assetIdentity", .string assetIdentity),
      ("amountAtomic", .string "2500000"), ("observedAt", .string "2026-07-20T00:00:00.000Z"),
      ("freshnessClass", .string "CURRENT")]

def sampleSnapshot (freshness : IndexedBalanceFreshness) (observations : List Value) : Value :=
  ofFields
    [("snapshotId", .string "snapshot-1"), ("capturedAt", .string "2026-07-20T00:00:10.000Z"),
      ("freshnessClass", .string freshness.text), ("coverage", sampleCoverage),
      ("observations", ofItems observations)]

/-- A balance of a registry asset and one of an unknown token. -/
def sampleBalances : List Value :=
  [sampleBalance "22222222-2222-4222-8222-222222222222"
      "0xA0b86991c6218b36c1d19D4a2e9Eb0cE3606eB48",
    sampleBalance "33333333-3333-4333-8333-333333333333"
      "0x1111111111111111111111111111111111111111"]

def sampleEvidence (_ : SupportedStablecoinAsset) : Option PortfolioPriceEvidenceSnapshot :=
  some ⟨"prices-1", ofItems sampleObservations, ofItems sampleWatermarks⟩

theorem sampleSnapshot_isOk : (parseIndexedPortfolioBalanceSnapshot Grouping.compareCodeUnits
    (sampleSnapshot .current sampleBalances) (.string sampleTime) sampleRegistrations).isOk =
      true := by
  decide

theorem sampleSnapshot_conserves : ∃ snapshot p,
    parseIndexedPortfolioBalanceSnapshot Grouping.compareCodeUnits
      (sampleSnapshot .current sampleBalances) (.string sampleTime) sampleRegistrations =
        .ok snapshot ∧
      buildUnifiedPortfolio Grouping.compareCodeUnits
        (portfolioRequest sampleTime sampleEvidence snapshot) = .ok p ∧
          Conserves (portfolioRequest sampleTime sampleEvidence snapshot) p := by
  obtain ⟨snapshot, hsnapshot⟩ := except_exists_of_isOk sampleSnapshot_isOk
  have h := buildUnifiedPortfolio_conserves Grouping.compareCodeUnits
  obtain ⟨p, hp⟩ := h.2 _ _ _ _ hsnapshot (portfolioRequest sampleTime sampleEvidence snapshot)
    (builtFrom_portfolioRequest _ _ _) (isValued_portfolioRequest _ _ _)
  exact ⟨snapshot, p, hsnapshot, hp, h.1 _ _ hp⟩

end Sample

end CryptoLending.Portfolio.PortfolioRequest
