import CryptoLending.SmartLending.AllocationDecisions

namespace CryptoLending.SmartLending.AllocationPolicy

open Lib Lib.Sorting FeeAwareReturn AllocationRequest AllocationAssessment AllocationSelection
open AllocationComparison AllocationDecisions

/-- Not from the future, not expired and strictly younger than a maximum age. -/
structure Fresh (observedAtMs validUntilMs evaluatedAtMs : Int) (maximumAgeSeconds : Nat) :
    Prop where
  not_future : observedAtMs ≤ evaluatedAtMs
  not_expired : evaluatedAtMs < validUntilMs
  young : evaluatedAtMs - observedAtMs < maximumAgeSeconds * 1000

/-- The quote was made for this position and this opportunity. -/
structure Bound (quote : ParsedCostQuote) (position : FeeAwareCapitalPosition)
    (opportunity : ParsedOpportunity) : Prop where
  positionId : quote.positionId = position.positionId
  opportunityId : quote.opportunityId = opportunity.opportunityId
  sourceNetwork : quote.sourceNetworkId = position.networkId
  destinationNetwork : quote.destinationNetworkId = opportunity.networkId
  sourceAsset : quote.sourceAssetId = position.assetId
  destinationAsset : quote.destinationAssetId = opportunity.assetId
  amount : quote.sourceAmountAtomic = position.amountAtomic

/-- The conditions on a route that do not depend on the other candidates. -/
structure MeetsRoutePolicy (request : ParsedRequest) (position : FeeAwareCapitalPosition)
    (opportunity : ParsedOpportunity) (quote : ParsedCostQuote) (costs : FeeAwareAllocationCosts) :
    Prop where
  bound : Bound quote position opportunity
  quoted : quote.costsUsdMantissa = some costs
  quoteFresh : Fresh quote.quotedAtMs quote.validUntilMs request.evaluatedAtMs
    request.maximumQuoteAgeSeconds
  evidenceFresh : Fresh opportunity.evidenceObservedAtMs opportunity.evidenceValidUntilMs
    request.evaluatedAtMs request.maximumOpportunityAgeSeconds
  available : opportunity.availability = .available
  eligible : opportunity.recommendationEligibility = .eligible
  risk : ∃ assessment assessedAtMs validUntilMs, opportunity.riskAssessment = some assessment ∧
    opportunity.riskAssessedAtMs = some assessedAtMs ∧
    opportunity.riskValidUntilMs = some validUntilMs ∧
    Fresh assessedAtMs validUntilMs request.evaluatedAtMs request.maximumOpportunityAgeSeconds
  capacity : position.amountUsdMantissa ≤ opportunity.availableCapacityUsdMantissa
  sameChain : routeKindOf position opportunity = .sameChain →
    quote.bridge = none ∧ costs.entryBridge = 0 ∧ costs.exitBridge = 0
  crossChain : routeKindOf position opportunity = .crossChain →
    (∃ optIn, request.crossChainPolicy.optIn = some optIn ∧
      optIn.grantedAtMs ≤ request.evaluatedAtMs ∧ request.evaluatedAtMs < optIn.expiresAtMs) ∧
    ∃ bridge, quote.bridge = some bridge ∧
      bridge.entryBridgeProviderId ∈ request.crossChainPolicy.allowedBridgeProviderIds ∧
      bridge.exitBridgeProviderId ∈ request.crossChainPolicy.allowedBridgeProviderIds

/-- The return of a route pays for its costs and reaches the minimum. -/
structure MeetsReturnPolicy (request : ParsedRequest) (position : FeeAwareCapitalPosition)
    (calculation : FeeAwareCandidateCalculation) : Prop where
  cost : calculation.totalLifecycleCostUsdMantissa < position.amountUsdMantissa
  positive : 0 < calculation.netBenefitUsdMantissa
  minimum : (request.minimumNetBenefitUsdMantissa : Int) ≤ calculation.netBenefitUsdMantissa

theorem isStale_false {observedAtMs evaluatedAtMs : Int} {maximumAgeSeconds : Nat}
    (h : observedAtMs ≤ evaluatedAtMs) :
    isStale observedAtMs evaluatedAtMs maximumAgeSeconds = false ↔
      evaluatedAtMs - observedAtMs < maximumAgeSeconds * 1000 := by
  simp [isStale, h]

theorem assessQuoteFreshness_nil {request : ParsedRequest} {quote : ParsedCostQuote}
    (h : assessQuoteFreshness request quote = []) :
    Fresh quote.quotedAtMs quote.validUntilMs request.evaluatedAtMs
      request.maximumQuoteAgeSeconds := by
  simp only [assessQuoteFreshness, List.append_eq_nil_iff, reasonWhen_eq_nil,
    decide_eq_false_iff_not, gt_iff_lt, not_lt, ge_iff_le, not_le] at h
  exact ⟨h.1.1, h.1.2, (isStale_false h.1.1).mp h.2⟩

theorem assessRisk_nil {request : ParsedRequest} {opportunity : ParsedOpportunity}
    (h : assessRisk request opportunity = []) :
    ∃ assessment assessedAtMs validUntilMs, opportunity.riskAssessment = some assessment ∧
      opportunity.riskAssessedAtMs = some assessedAtMs ∧
      opportunity.riskValidUntilMs = some validUntilMs ∧
      Fresh assessedAtMs validUntilMs request.evaluatedAtMs
        request.maximumOpportunityAgeSeconds := by
  unfold assessRisk at h
  split at h
  · cases h
  · simp only [List.append_eq_nil_iff, reasonWhen_eq_nil] at h
    obtain ⟨⟨hfuture, hexpired⟩, hstale⟩ := h
    cases hr : opportunity.riskAssessment with
    | none => simp_all
    | some assessment =>
      cases ha : opportunity.riskAssessedAtMs with
      | none => simp [ha] at hfuture
      | some assessedAtMs =>
        cases hv : opportunity.riskValidUntilMs with
        | none => simp [hv] at hexpired
        | some validUntilMs =>
          simp only [ha, hv, Option.all_some, Option.any_some, decide_eq_false_iff_not, gt_iff_lt,
            not_lt, ge_iff_le, not_le] at hfuture hexpired hstale
          exact ⟨assessment, assessedAtMs, validUntilMs, rfl, rfl, rfl, hfuture, hexpired,
            (isStale_false hfuture).mp hstale⟩

theorem assessRouteKind_sameChain {request : ParsedRequest} {quote : ParsedCostQuote}
    {costs : FeeAwareAllocationCosts} (hc : quote.costsUsdMantissa = some costs)
    (h : assessRouteKind request .sameChain quote = []) :
    quote.bridge = none ∧ costs.entryBridge = 0 ∧ costs.exitBridge = 0 := by
  simpa [assessRouteKind, hc] using h

theorem assessRouteKind_crossChain {request : ParsedRequest} {quote : ParsedCostQuote}
    (h : assessRouteKind request .crossChain quote = []) :
    (∃ optIn, request.crossChainPolicy.optIn = some optIn ∧
      optIn.grantedAtMs ≤ request.evaluatedAtMs ∧ request.evaluatedAtMs < optIn.expiresAtMs) ∧
    ∃ bridge, quote.bridge = some bridge ∧
      bridge.entryBridgeProviderId ∈ request.crossChainPolicy.allowedBridgeProviderIds ∧
      bridge.exitBridgeProviderId ∈ request.crossChainPolicy.allowedBridgeProviderIds := by
  simp only [assessRouteKind, List.append_eq_nil_iff] at h
  constructor
  · have ho := h.1
    unfold assessOptIn at ho
    split at ho
    · cases ho
    · simp only [List.append_eq_nil_iff, reasonWhen_eq_nil, decide_eq_false_iff_not, not_lt,
        ge_iff_le, not_le] at ho
      exact ⟨_, ‹_›, ho⟩
  · have hb := h.2
    unfold assessBridge at hb
    split at hb
    · cases hb
    · simp only [reasonWhen_eq_nil, Bool.or_eq_false_iff, Bool.not_eq_false',
        List.contains_iff_mem] at hb
      exact ⟨_, ‹_›, hb⟩

/-- A candidate that is assessed without objections meets every condition of its own, and
its calculation is the return of its route. -/
theorem assessCandidate_eligible {request : ParsedRequest} {candidate : ParsedCandidate}
    {position : FeeAwareCapitalPosition} {opportunity : ParsedOpportunity}
    {calculation : FeeAwareCandidateCalculation}
    (hr : (assessCandidate request candidate position opportunity).reasons = [])
    (hc : (assessCandidate request candidate position opportunity).calculation =
      some calculation) :
    ∃ quote costs, candidate.costQuote = some quote ∧
      calculation = calculationOf (returnInput request position opportunity costs) ∧
      MeetsRoutePolicy request position opportunity quote costs ∧
      MeetsReturnPolicy request position calculation := by
  unfold assessCandidate at hr hc
  cases hq : candidate.costQuote with
  | none => simp [hq] at hr
  | some quote =>
    simp only [hq] at hr hc
    unfold assessQuote at hr hc
    cases hcosts : quote.costsUsdMantissa with
    | none => simp [hcosts] at hc
    | some costs =>
      simp only [hcosts] at hr hc
      split at hc
      · cases hc
      · rw [if_neg ‹_›] at hr
        simp only [calculateCandidate] at hc hr
        obtain ⟨hcalc, _⟩ := calculateFeeAwareReturn_some hc
        simp only [List.append_eq_nil_iff, reasonWhen_eq_nil, List.map_eq_nil_iff] at hr
        obtain ⟨⟨⟨⟨⟨⟨⟨⟨⟨⟨_, hfresh⟩, hpos⟩, hopp⟩, hnet⟩, hasset⟩, hamount⟩, hopportunity⟩,
          hcapacity⟩, hroute⟩, hreturn⟩ := hr
        have haccepted := calculateFeeAwareReturn_accepted hc hreturn
        simp only [assessOpportunity, List.append_eq_nil_iff, reasonWhen_eq_nil,
          decide_eq_false_iff_not, not_not, gt_iff_lt, not_lt, ge_iff_le, not_le] at hopportunity
        obtain ⟨⟨⟨⟨⟨havailable, heligible⟩, hfuture⟩, hexpired⟩, hstale⟩, hrisk⟩ := hopportunity
        simp only [Bool.not_eq_false', positionBindingMatches, opportunityBindingMatches,
          networkBindingMismatch, assetBindingMismatch, sourceAmountMismatch, beq_iff_eq,
          Bool.or_eq_false_iff, decide_eq_false_iff_not, not_not, bne_eq_false_iff_eq, gt_iff_lt,
          not_lt] at hpos hopp hnet hasset hamount hcapacity
        refine ⟨quote, costs, rfl, hcalc, ?_, ⟨haccepted.1, haccepted.2.1, haccepted.2.2⟩⟩
        exact {
          bound := ⟨hpos, hopp, hnet.1, hnet.2, hasset.1, hasset.2, hamount⟩
          quoted := hcosts
          quoteFresh := assessQuoteFreshness_nil hfresh
          evidenceFresh := ⟨hfuture, hexpired, (isStale_false hfuture).mp hstale⟩
          available := havailable
          eligible := heligible
          risk := assessRisk_nil hrisk
          capacity := hcapacity
          sameChain := fun hk => assessRouteKind_sameChain hcosts (hk ▸ hroute)
          crossChain := fun hk => assessRouteKind_crossChain (hk ▸ hroute) }

/-- The returns of the same-chain candidates of a position that have no objections of
their own. -/
def SameChainReturn (request : ParsedRequest) (positionId : String)
    (calculation : FeeAwareCandidateCalculation) : Prop :=
  ∃ candidate ∈ request.candidates, ∃ position ∈ request.positions,
    ∃ opportunity ∈ request.opportunities,
      candidate.positionId = position.positionId ∧ position.positionId = positionId ∧
      candidate.opportunityId = opportunity.opportunityId ∧
      routeKindOf position opportunity = .sameChain ∧
      (assessCandidate request candidate position opportunity).reasons = [] ∧
      (assessCandidate request candidate position opportunity).calculation = some calculation

/-- A crossing pays only if it beats every same-chain candidate of its position. -/
structure MeetsCrossingPolicy (request : ParsedRequest) (positionId : String)
    (calculation : FeeAwareCandidateCalculation) : Prop where
  cost : calculation.totalLifecycleCostUsdMantissa ≤
    request.crossChainPolicy.maximumLifecycleCostUsdMantissa
  compared : ∃ base, SameChainReturn request positionId base
  improvement : ∀ base, SameChainReturn request positionId base →
    base.netBenefitUsdMantissa + request.crossChainPolicy.minimumNetImprovementUsdMantissa ≤
      calculation.netBenefitUsdMantissa

variable {request : ParsedRequest} {l : List InternalAssessment}

theorem sameChainReturn_option (h : Assessed request l) {positionId : String}
    {calculation : FeeAwareCandidateCalculation}
    (hs : SameChainReturn request positionId calculation) :
    ∃ a ∈ l, isBaselineOption positionId a = true ∧ a.calculation = some calculation := by
  obtain ⟨c, hc, p, hp, o, ho, hcp, hpid, hco, hk, hr, hcalc⟩ := hs
  rw [← h.candidates] at hc
  obtain ⟨a, ha, rfl⟩ := List.mem_map.mp hc
  obtain ⟨hap, hao, hapid, haoid, he⟩ := h.origin a ha
  have hpe : a.position = p :=
    List.inj_on_of_nodup_map request.positionIds_nodup hap hp (hapid.trans hcp)
  have hoe : a.opportunity = o :=
    List.inj_on_of_nodup_map request.opportunityIds_nodup hao ho (haoid.trans hco)
  rw [hpe, hoe] at he
  refine ⟨a, ha, ?_, he ▸ hcalc⟩
  rw [isBaselineOption, hpe, hpid, he]
  simp [hr, hcalc, show (assessCandidate request a.candidate p o).routeKind = .sameChain from hk]

theorem sameChainReturn_of_option (h : Assessed request l) {positionId : String}
    {a : InternalAssessment} (ha : a ∈ l) (ho : isBaselineOption positionId a = true)
    {calculation : FeeAwareCandidateCalculation} (hc : a.calculation = some calculation) :
    SameChainReturn request positionId calculation := by
  obtain ⟨hap, hao, hapid, haoid, he⟩ := h.origin a ha
  simp only [isBaselineOption, Bool.and_eq_true, beq_iff_eq, List.isEmpty_iff] at ho
  have hk : a.routeKind = routeKindOf a.position a.opportunity := congrArg (·.routeKind) he
  exact ⟨a.candidate, h.candidates ▸ List.mem_map_of_mem ha, a.position, hap, a.opportunity, hao,
    hapid.symm, ho.1.1.1, haoid.symm, hk ▸ ho.1.1.2, he ▸ ho.1.2, he ▸ hc⟩

/-- An assessment that survives the comparison had no objections before it, and a crossing
among them keeps its distance to the baseline. -/
theorem compared_eligible (policy : ParsedCrossChainPolicy) {a : InternalAssessment}
    (hr : (compared policy l a).reasons = []) {calculation : FeeAwareCandidateCalculation}
    (hc : (compared policy l a).calculation = some calculation) :
    a.reasons = [] ∧ ∃ c, a.calculation = some c ∧
      calculation.netBenefitUsdMantissa = c.netBenefitUsdMantissa ∧
      calculation.totalLifecycleCostUsdMantissa = c.totalLifecycleCostUsdMantissa ∧
      (a.routeKind = .crossChain → ∃ base, baseline a.position.positionId l = some base ∧
        c.totalLifecycleCostUsdMantissa ≤ policy.maximumLifecycleCostUsdMantissa ∧
        base + policy.minimumNetImprovementUsdMantissa ≤ c.netBenefitUsdMantissa) := by
  unfold compared compareWithBaseline at hr hc
  by_cases hk : a.routeKind = .crossChain
  · simp only [hk, and_true, if_true] at hr hc
    cases hcalc : a.calculation with
    | none => simp [hcalc] at hc
    | some c =>
      cases hb : baseline a.position.positionId l with
      | none => simp [hcalc, hb] at hr
      | some base =>
        simp only [hcalc, hb, List.append_eq_nil_iff, reasonWhen_eq_nil, decide_eq_false_iff_not,
          gt_iff_lt, not_lt, Option.some.injEq] at hr hc
        subst hc
        exact ⟨hr.1.1, c, rfl, rfl, rfl, fun _ => ⟨base, rfl, hr.1.2, by omega⟩⟩
  · simp only [hk, and_false, if_false] at hr hc
    exact ⟨hr, calculation, hc, rfl, rfl, fun h => absurd h hk⟩

/-- What every selected candidate of a decision satisfies. -/
structure SelectedRoute (request : ParsedRequest) (d : FeeAwarePositionDecision)
    (a : FeeAwareCandidateAssessment) (candidate : ParsedCandidate)
    (position : FeeAwareCapitalPosition) (opportunity : ParsedOpportunity)
    (quote : ParsedCostQuote) (costs : FeeAwareAllocationCosts)
    (calculation : FeeAwareCandidateCalculation) : Prop where
  candidate_mem : candidate ∈ request.candidates
  position_mem : position ∈ request.positions
  opportunity_mem : opportunity ∈ request.opportunities
  candidateId : a.candidateId = candidate.candidateId
  positionId : candidate.positionId = position.positionId ∧ d.positionId = position.positionId
  opportunityId : candidate.opportunityId = opportunity.opportunityId ∧
    a.opportunityId = opportunity.opportunityId
  quoted : candidate.costQuote = some quote
  routeKind : a.routeKind = routeKindOf position opportunity
  calculated : a.calculation = some calculation
  net : calculation.netBenefitUsdMantissa =
    (calculationOf (returnInput request position opportunity costs)).netBenefitUsdMantissa
  cost : calculation.totalLifecycleCostUsdMantissa = entryCost costs + exitCost costs
  route : MeetsRoutePolicy request position opportunity quote costs
  benefit : MeetsReturnPolicy request position calculation
  crossing : a.routeKind = .crossChain →
    MeetsCrossingPolicy request position.positionId calculation

/-- No candidate is selected unless it meets every condition of the policy. -/
theorem recommendFeeAwareAllocation_selects_by_policy {input : JsValue.Value}
    {request : ParsedRequest} (hr : parseRequest input = some request)
    (hstatus : (recommendFeeAwareAllocation input).status ≠ .invalidInput)
    {d : FeeAwarePositionDecision} (hd : d ∈ (recommendFeeAwareAllocation input).decisions)
    {a : FeeAwareCandidateAssessment} (ha : a ∈ d.assessments) (hs : a.selected = true) :
    ∃ candidate position opportunity quote costs calculation,
      SelectedRoute request d a candidate position opportunity quote costs calculation := by
  obtain ⟨l, chosen, f, final, hl, hsel, hall, hp, hrec⟩ :=
    recommendFeeAwareAllocation_accepted hr hstatus
  obtain ⟨p, _, rfl⟩ := List.mem_map.mp (hrec.decisions.mem_iff.mp hd)
  obtain ⟨b, hb, rfl⟩ := List.mem_map.mp ha
  simp only [matching, mem_sortBy, List.mem_filter, beq_iff_eq] at hb
  have hbf : b ∈ chosen.map f := hp.mem_iff.mp (List.mem_filter.mpr ⟨hb.1, hs⟩)
  obtain ⟨c, hc, rfl⟩ := List.mem_map.mp hbf
  obtain ⟨hcl, hce⟩ := hsel.eligible c hc
  obtain ⟨e, he, rfl⟩ := List.mem_map.mp hcl
  simp only [isEligibleInternal, Bool.and_eq_true, List.isEmpty_iff] at hce
  obtain ⟨calculation, hcalc⟩ := Option.isSome_iff_exists.mp hce.2
  obtain ⟨her, c, hec, hnet, hcost, hcross⟩ := compared_eligible _ hce.1 hcalc
  obtain ⟨hep, heo, hepid, heoid, heq⟩ := hl.origin e he
  obtain ⟨quote, costs, hquote, hreturn, hroute, hpolicy⟩ :=
    assessCandidate_eligible (heq ▸ her) (heq ▸ hec)
  have hsame := (compared_same request.crossChainPolicy l e).trans (hsel.marks.same _)
  refine ⟨e.candidate, e.position, e.opportunity, quote, costs, calculation, ?_⟩
  exact {
    candidate_mem := hl.candidates ▸ List.mem_map_of_mem he
    position_mem := hep
    opportunity_mem := heo
    candidateId := hsame.id
    positionId := ⟨hepid.symm, hb.2.symm.trans (congrArg (·.positionId) hsame.position)⟩
    opportunityId := ⟨heoid.symm, congrArg (·.opportunityId) hsame.opportunity⟩
    quoted := hquote
    routeKind := hsame.routeKind.trans (congrArg (·.routeKind) heq)
    calculated := (hsel.marks.calculation _).trans hcalc
    net := by rw [hnet, hreturn]
    cost := by rw [hcost, hreturn]; rfl
    route := hroute
    benefit := ⟨hcost ▸ hpolicy.cost, hnet ▸ hpolicy.positive, hnet ▸ hpolicy.minimum⟩
    crossing := by
      intro hk
      obtain ⟨base, hbase, hmax, hmin⟩ := hcross (hsame.routeKind.symm.trans hk)
      obtain ⟨⟨o, ho, hoption, hon⟩, hle⟩ := baseline_some hbase
      obtain ⟨oc, hoc, rfl⟩ := Option.map_eq_some_iff.mp hon
      refine ⟨hcost ▸ hmax, ⟨oc, sameChainReturn_of_option hl ho hoption hoc⟩, ?_⟩
      intro other hother
      obtain ⟨x, hx, hxo, hxc⟩ := sameChainReturn_option hl hother
      have hxle := hle x hx hxo other hxc
      omega }

theorem sampleRequest_selects_by_policy : ∃ request d a,
    parseRequest sampleRequest = some request ∧
      d ∈ (recommendFeeAwareAllocation sampleRequest).decisions ∧ a ∈ d.assessments ∧
      a.routeKind = .crossChain ∧ ∃ candidate position opportunity quote costs calculation,
        SelectedRoute request d a candidate position opportunity quote costs calculation := by
  obtain ⟨request, hr⟩ := sampleRequest_parses
  obtain ⟨d, rest, hd, hsel, _⟩ := List.map_eq_cons_iff.mp sampleRequest_selects.2
  obtain ⟨a, _, ha, hak, _⟩ := List.map_eq_cons_iff.mp hsel
  have hdm : d ∈ (recommendFeeAwareAllocation sampleRequest).decisions := by simp [hd]
  have ham : a ∈ d.assessments ∧ a.selected = true := List.mem_filter.mp (by simp [ha])
  exact ⟨request, d, a, hr, hdm, ham.1, congrArg Prod.snd hak,
    recommendFeeAwareAllocation_selects_by_policy hr sampleRequest_accepted hdm ham.1 ham.2⟩

end CryptoLending.SmartLending.AllocationPolicy
