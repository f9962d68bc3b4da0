import Mathlib.Algebra.BigOperators.Ring.Finset
import CryptoLending.SmartLending.AllocationLimits

namespace CryptoLending.SmartLending.AllocationDecisions

open Lib Lib.Sorting Lib.Budget FeeAwareReturn AllocationRequest AllocationAssessment
open AllocationSelection AllocationComparison AllocationLimits

/-- The assessments after the selection, as far as the decisions depend on it. -/
structure Allocated (request : ParsedRequest) (final : List InternalAssessment) : Prop where
  ids : (final.map (·.id)).Nodup
  positions : ∀ a ∈ final, a.position ∈ request.positions
  opportunities : ∀ a ∈ final, a.opportunity ∈ request.opportunities
  one : ((final.filter (·.selected)).map (·.position.positionId)).Nodup

section Decisions

variable {request : ParsedRequest} {final : List InternalAssessment}

theorem selectedOf_some {p : FeeAwareCapitalPosition} {a : InternalAssessment}
    (h : selectedOf p final = some a) :
    a ∈ final ∧ a.selected = true ∧ a.position.positionId = p.positionId := by
  have hm := List.mem_of_find?_eq_some h
  have hs := List.find?_some h
  simp only [matching, mem_sortBy, List.mem_filter, beq_iff_eq] at hm
  exact ⟨hm.1, hs, hm.2⟩

theorem Allocated.position_eq (h : Allocated request final) {p : FeeAwareCapitalPosition}
    (hp : p ∈ request.positions) {a : InternalAssessment} (ha : selectedOf p final = some a) :
    a.position = p := by
  obtain ⟨hm, _, hid⟩ := selectedOf_some ha
  exact List.inj_on_of_nodup_map request.positionIds_nodup (h.positions a hm) hp hid

theorem length_filter_key_le {α κ : Type} [DecidableEq κ] (key : α → κ) (l : List α)
    (hl : (l.map key).Nodup) (k : κ) : (l.filter (fun a => key a == k)).length ≤ 1 := by
  rw [← List.countP_eq_length_filter]
  calc l.countP (fun a => key a == k) = (l.map key).count k := by
        rw [List.count, List.countP_map]; rfl
    _ ≤ 1 := List.nodup_iff_count_le_one.mp hl k

theorem filter_eq_find? {α : Type} (p : α → Bool) (l : List α) (h : (l.filter p).length ≤ 1) :
    l.filter p = (l.find? p).toList := by
  rw [← List.head?_filter]
  cases hf : l.filter p with
  | nil => rfl
  | cons a rest =>
    rw [hf, List.length_cons] at h
    rw [List.length_eq_zero_iff.mp (by omega : rest.length = 0)]
    rfl

theorem Allocated.matching_selected (h : Allocated request final) (p : FeeAwareCapitalPosition) :
    (matching p final).filter (·.selected) = (selectedOf p final).toList := by
  refine filter_eq_find? _ _ ?_
  have hp := (sortBy_perm (fun l r => compareText l.id r.id)
    (final.filter (fun a => a.position.positionId == p.positionId))).filter (·.selected)
  rw [matching, hp.length_eq, List.filter_comm]
  exact length_filter_key_le (fun a : InternalAssessment => a.position.positionId) _ h.one _

/-- The decisions name exactly the selected assessments. -/
theorem Allocated.selected_perm (h : Allocated request final) :
    (request.positions.filterMap (selectedOf · final)).Perm (final.filter (·.selected)) := by
  have hp := List.pairwise_map.mp (List.nodup_iff_pairwise_ne.mp request.positionIds_nodup)
  have hn : (request.positions.filterMap (selectedOf · final)).Nodup := by
    rw [List.nodup_iff_pairwise_ne, List.pairwise_filterMap]
    refine hp.imp fun hne a ha b hb hab => hne ?_
    rw [← (selectedOf_some ha).2.2, ← (selectedOf_some hb).2.2, hab]
  rw [List.perm_ext_iff_of_nodup hn (h.ids.of_map.filter _)]
  intro a
  rw [List.mem_filterMap, List.mem_filter]
  constructor
  · rintro ⟨p, _, ha⟩
    exact ⟨(selectedOf_some ha).1, (selectedOf_some ha).2.1⟩
  · rintro ⟨ha, hs⟩
    refine ⟨a.position, h.positions a ha, ?_⟩
    have hm : a ∈ (matching a.position final).filter (·.selected) := by
      simp [matching, ha, hs]
    simpa [h.matching_selected] using hm

variable (q : InternalAssessment → Bool)

theorem Allocated.sum_filterMap (h : Allocated request final) {ps : List FeeAwareCapitalPosition}
    (hps : ps ⊆ request.positions) :
    ((ps.filter (fun p => (selectedOf p final).any q)).map (·.amountUsdMantissa)).sum =
      (((ps.filterMap (selectedOf · final)).filter q).map
        (·.position.amountUsdMantissa)).sum := by
  induction ps with
  | nil => rfl
  | cons p ps ih =>
    have ih' := ih (fun x hx => hps (List.mem_cons_of_mem p hx))
    cases hs : selectedOf p final with
    | none => simpa [List.filter_cons, List.filterMap_cons, hs] using ih'
    | some a =>
      have ha := h.position_eq (hps (by simp)) hs
      cases hq : q a <;> simp [hs, hq, ih', ha]

/-- Principal decided for a kind of selection is the principal selected of that kind. -/
theorem Allocated.sum_decisions (h : Allocated request final)
    {decisions : List FeeAwarePositionDecision}
    (hd : decisions.Perm (request.positions.map (positionDecision · final)))
    (named : FeeAwarePositionDecision → Bool)
    (hq : ∀ p, named (positionDecision p final) = (selectedOf p final).any q) :
    ((decisions.filter named).map (·.principalUsdMantissa)).sum =
      (((final.filter (·.selected)).filter q).map (·.position.amountUsdMantissa)).sum := by
  have h1 := ((hd.filter named).map (·.principalUsdMantissa)).sum_eq
  have h2 := ((h.selected_perm.filter q).map (·.position.amountUsdMantissa)).sum_eq
  rw [h1, ← h2, ← h.sum_filterMap q (List.Subset.refl _), List.filter_map, List.map_map]
  congr 2
  exact List.filter_congr fun p _ => hq p

end Decisions

theorem foldlM_boundedSum (values : List Nat) (t : Nat) :
    values.foldlM (fun total v => if total + v > unsignedLimit then none else some (total + v)) t =
      if t + values.sum ≤ unsignedLimit ∨ values = [] then some (t + values.sum) else none := by
  induction values generalizing t with
  | nil => simp
  | cons v rest ih =>
    rw [List.foldlM_cons, List.sum_cons]
    by_cases hv : t + v > unsignedLimit
    · have hn : ¬(t + (v + rest.sum) ≤ unsignedLimit) := by omega
      simp [hv, hn]
    · simp only [hv, if_false, Option.bind_eq_bind, Option.bind_some, ih, ← Nat.add_assoc,
        reduceCtorEq, or_false]
      by_cases hr : rest = []
      · subst hr
        simp [Nat.le_of_not_lt hv]
      · simp [hr]

/-- A bounded sum is the sum, in whatever order the values come. -/
theorem boundedSum_eq (values : List Nat) :
    boundedSum values = if values.sum ≤ unsignedLimit then some values.sum else none := by
  rw [boundedSum, foldlM_boundedSum]
  by_cases hv : values = []
  · simp [hv]
  · simp [hv]

theorem boundedSum_some {values : List Nat} {n : Nat} (h : boundedSum values = some n) :
    n = values.sum := by
  rw [boundedSum_eq] at h
  split at h
  · exact (Option.some.inj h).symm
  · cases h

theorem foldl_netBenefit (l : List InternalAssessment) (t : Int) :
    l.foldl (fun total a => total + a.calculation.elim 0 (·.netBenefitUsdMantissa)) t =
      t + (l.map (fun a => a.calculation.elim 0 (·.netBenefitUsdMantissa))).sum := by
  induction l generalizing t with
  | nil => simp
  | cons a rest ih => simp [ih, Int.add_assoc]

theorem netBenefit_eq (l : List InternalAssessment) :
    l.foldl (fun total a => total + a.calculation.elim 0 (·.netBenefitUsdMantissa)) 0 =
      (l.map (fun a => a.calculation.elim 0 (·.netBenefitUsdMantissa))).sum := by
  rw [foldl_netBenefit, Int.zero_add]

/-- What an accepted recommendation is made of. -/
structure Recommends (request : ParsedRequest) (final : List InternalAssessment)
    (r : FeeAwareAllocationRecommendation) : Prop where
  decisions : r.decisions.Perm (request.positions.map (positionDecision · final))
  status : r.status = statusOf (final.filter (·.selected)).length request.positions.length
  recommended : r.recommendedPrincipalUsdMantissa =
    ((final.filter (·.selected)).map (·.position.amountUsdMantissa)).sum
  total : r.totalPrincipalUsdMantissa = (request.positions.map (·.amountUsdMantissa)).sum
  net : r.projectedNetBenefitUsdMantissa = ((final.filter (·.selected)).map
    (fun a => a.calculation.elim 0 (·.netBenefitUsdMantissa))).sum

theorem recommendation_recommends {request : ParsedRequest} {final : List InternalAssessment}
    (h : (recommendation request final).status ≠ .invalidInput) :
    Recommends request final (recommendation request final) := by
  revert h
  simp only [recommendation]
  split
  · rename_i t r ht hr
    split
    · exact fun h => absurd rfl h
    · intro _
      refine ⟨sortBy_perm _ _, rfl, boundedSum_some hr, boundedSum_some ht, ?_⟩
      exact netBenefit_eq _
  · exact fun h => absurd rfl h

/-- The assessments after the selection and the recommendation they give. -/
theorem recommendFeeAwareAllocation_served {input : JsValue.Value} {request : ParsedRequest}
    (hr : parseRequest input = some request)
    (hs : (recommendFeeAwareAllocation input).status ≠ .invalidInput) :
    ∃ l m final f, Assessed request l ∧ m = l.map (compared request.crossChainPolicy l) ∧
      final = selectCandidatesWithinLimits m request.opportunities request.exposurePolicy ∧
      Selects request.opportunities request.exposurePolicy m final
        (served m request.opportunities request.exposurePolicy) f ∧
      Allocated request final ∧
      (final.filter (·.selected)).Perm
        ((served m request.opportunities request.exposurePolicy).map f) ∧
      Recommends request final (recommendFeeAwareAllocation input) := by
  simp only [recommendFeeAwareAllocation, hr, allocate] at hs ⊢
  cases ha : assessCandidates request with
  | none => simp [ha, invalidRecommendation] at hs
  | some l =>
    have hl := assessCandidates_some ha
    simp only [ha] at hs ⊢
    rw [applyCrossChainComparisonPolicy_eq request l hl.positionId_mem] at hs ⊢
    obtain ⟨f, hsel⟩ := selectCandidatesWithinLimits_serves
      (l.map (compared request.crossChainPolicy l)) request.opportunityIds_nodup
      request.exposurePolicy
    have hids := map_id_of_sameCandidate (compared_same request.crossChainPolicy l) l
    have hp := hsel.selected_perm (hids ▸ hl.ids_nodup) (by
      intro a ha'
      obtain ⟨b, hb, rfl⟩ := List.mem_map.mp ha'
      rw [compared, compareWithBaseline_selected]
      exact hl.unselected b hb)
    refine ⟨l, _, _, f, hl, rfl, rfl, hsel, ⟨?_, ?_, ?_, ?_⟩, hp, recommendation_recommends hs⟩
    · rw [hsel.final_eq, map_id_of_sameCandidate hsel.marks.same, hids]
      exact hl.ids_nodup
    · rw [hsel.final_eq, List.map_map]
      intro a ha'
      obtain ⟨b, hb, rfl⟩ := List.mem_map.mp ha'
      rw [Function.comp_apply, (hsel.marks.same _).position, (compared_same _ l b).position]
      exact (hl.origin b hb).1
    · rw [hsel.final_eq, List.map_map]
      intro a ha'
      obtain ⟨b, hb, rfl⟩ := List.mem_map.mp ha'
      rw [Function.comp_apply, (hsel.marks.same _).opportunity, (compared_same _ l b).opportunity]
      exact (hl.origin b hb).2.1
    · rw [(hp.map _).nodup_iff, List.map_map]
      simpa [Function.comp_def, (hsel.marks.same _).position] using hsel.positions

theorem recommendFeeAwareAllocation_accepted {input : JsValue.Value} {request : ParsedRequest}
    (hr : parseRequest input = some request)
    (hs : (recommendFeeAwareAllocation input).status ≠ .invalidInput) :
    ∃ l chosen f final, Assessed request l ∧
      Selects request.opportunities request.exposurePolicy
        (l.map (compared request.crossChainPolicy l)) final chosen f ∧
      Allocated request final ∧ (final.filter (·.selected)).Perm (chosen.map f) ∧
      Recommends request final (recommendFeeAwareAllocation input) := by
  obtain ⟨l, m, final, f, hl, rfl, _, hsel, hall, hp, hrec⟩ :=
    recommendFeeAwareAllocation_served hr hs
  exact ⟨l, _, f, final, hl, hsel, hall, hp, hrec⟩

/-- The principal of the decisions of a kind. -/
def principalOf (r : FeeAwareAllocationRecommendation) (kind : FeeAwarePositionDecision → Bool) :
    Nat := ((r.decisions.filter kind).map (·.principalUsdMantissa)).sum

/-- The assessments that a recommendation selects. -/
def selectedAssessments (r : FeeAwareAllocationRecommendation) :
    List FeeAwareCandidateAssessment :=
  r.decisions.flatMap (fun d => d.assessments.filter (·.selected))

/-- A recommendation with one decision for each position that respects every exposure
limit of its request at once and adds up. -/
structure RespectsExposure (request : ParsedRequest) (r : FeeAwareAllocationRecommendation) :
    Prop where
  positions : (r.decisions.map (fun d => (d.positionId, d.principalUsdMantissa))).Perm
    (request.positions.map (fun p => (p.positionId, p.amountUsdMantissa)))
  one_selected : ∀ d ∈ r.decisions, (d.assessments.filter (·.selected)).length ≤ 1
  named : ∀ d ∈ r.decisions, d.selectedCandidateId =
      (d.assessments.filter (·.selected)).head?.map (·.candidateId) ∧
    d.selectedOpportunityId = (d.assessments.filter (·.selected)).head?.map (·.opportunityId) ∧
    d.selectedRouteKind = (d.assessments.filter (·.selected)).head?.map (·.routeKind) ∧
    ∀ o ∈ request.opportunities, d.selectedOpportunityId = some o.opportunityId →
      d.selectedProviderId = some o.providerId
  opportunity : ∀ o ∈ request.opportunities,
    principalOf r (fun d => d.selectedOpportunityId == some o.opportunityId) ≤
      o.availableCapacityUsdMantissa
  provider : ∀ providerId,
    principalOf r (fun d => d.selectedProviderId == some providerId) ≤
      request.exposurePolicy.maximumProviderPrincipalUsdMantissa
  crossChain : principalOf r (fun d => d.selectedRouteKind == some .crossChain) ≤
    request.exposurePolicy.maximumCrossChainPrincipalUsdMantissa
  recommended : r.recommendedPrincipalUsdMantissa = principalOf r (·.selectedCandidateId.isSome)
  net : r.projectedNetBenefitUsdMantissa = ((selectedAssessments r).map
    (fun a => a.calculation.elim 0 (·.netBenefitUsdMantissa))).sum
  status_recommended :
    r.status = .recommended ↔ ∀ d ∈ r.decisions, d.selectedCandidateId.isSome = true
  status_none : r.status = .noEligibleRoute ↔ ∀ d ∈ r.decisions, d.selectedCandidateId = none

section Limits

variable {request : ParsedRequest} {final chosen : List InternalAssessment}
  {f : InternalAssessment → InternalAssessment}

/-- The principal selected of a kind is what the choice uses of the budget for that kind. -/
theorem sum_selected_le {l : List InternalAssessment}
    (h : Selects request.opportunities request.exposurePolicy l final chosen f)
    (hp : (final.filter (·.selected)).Perm (chosen.map f)) (i : Exposure)
    (q : InternalAssessment → Bool)
    (hq : ∀ a, q (f a) = true ↔
      (exposures request.opportunities request.exposurePolicy).charges a i) :
    (((((final.filter (·.selected)).filter q).map (·.position.amountUsdMantissa)).sum : Nat) : Int) ≤
      (exposures request.opportunities request.exposurePolicy).limit i := by
  refine le_of_eq_of_le ?_ (h.within i)
  rw [((hp.filter q).map _).sum_eq, List.filter_map, List.map_map, Nat.cast_list_sum,
    List.map_map, used_eq_sum (q := q ∘ f) hq]
  congr 1
  refine List.map_congr_left fun a _ => ?_
  simp [exposures, (h.marks.same a).position]

theorem exposures_limit_opportunity {o : ParsedOpportunity} (ho : o ∈ request.opportunities) :
    (exposures request.opportunities request.exposurePolicy).limit
      (.opportunity o.opportunityId) = o.availableCapacityUsdMantissa := by
  simp only [exposures, capacities]
  rw [JsMap.get_ofEntries_map (fun o : ParsedOpportunity => o.opportunityId)
    (fun o => (o.availableCapacityUsdMantissa : Int)) _ request.opportunityIds_nodup ho]
  rfl

theorem statusOf_recommended {n m : Nat} : statusOf n m = .recommended ↔ n = m := by
  unfold statusOf
  split_ifs <;> simp_all

theorem statusOf_none {n m : Nat} (hm : 0 < m) : statusOf n m = .noEligibleRoute ↔ n = 0 := by
  unfold statusOf
  split_ifs <;> simp_all
  omega

end Limits

/-- Every accepted request gets a recommendation within all of its exposure limits. -/
theorem recommendFeeAwareAllocation_respects_exposure {input : JsValue.Value}
    {request : ParsedRequest} (hr : parseRequest input = some request)
    (hs : (recommendFeeAwareAllocation input).status ≠ .invalidInput) :
    RespectsExposure request (recommendFeeAwareAllocation input) := by
  obtain ⟨l, chosen, f, final, hl, hsel, hall, hp, hrec⟩ :=
    recommendFeeAwareAllocation_accepted hr hs
  generalize recommendFeeAwareAllocation input = r at hrec
  have hmem : ∀ d ∈ r.decisions, ∃ p ∈ request.positions, positionDecision p final = d :=
    fun d hd => List.mem_map.mp (hrec.decisions.mem_iff.mp hd)
  have hfilter : ∀ p, ((positionDecision p final).assessments.filter (·.selected)) =
      (selectedOf p final).toList.map publicAssessment := by
    intro p
    rw [← hall.matching_selected, positionDecision, List.filter_map]
    rfl
  have hall' : (∀ d ∈ r.decisions, d.selectedCandidateId.isSome = true) ↔
      ∀ p ∈ request.positions, (selectedOf p final).isSome = true := by
    simp [hrec.decisions.mem_iff, positionDecision]
  have hnone' : (∀ d ∈ r.decisions, d.selectedCandidateId = none) ↔
      ∀ p ∈ request.positions, ¬(selectedOf p final).isSome = true := by
    simp [hrec.decisions.mem_iff, positionDecision]
  have hcount : (final.filter (·.selected)).length =
      request.positions.countP (fun p => (selectedOf p final).isSome) := by
    rw [← hall.selected_perm.length_eq, List.length_filterMap_eq_countP]
  constructor
  case positions =>
    have h := hrec.decisions.map (fun d => (d.positionId, d.principalUsdMantissa))
    rwa [List.map_map] at h
  case one_selected =>
    intro d hd
    obtain ⟨p, _, rfl⟩ := hmem d hd
    rw [hfilter]
    cases selectedOf p final <;> simp
  case named =>
    intro d hd
    obtain ⟨p, hpm, rfl⟩ := hmem d hd
    rw [hfilter]
    refine ⟨?_, ?_, ?_, ?_⟩
    · cases h : selectedOf p final <;> simp [positionDecision, h, publicAssessment]
    · cases h : selectedOf p final <;> simp [positionDecision, h, publicAssessment]
    · cases h : selectedOf p final <;> simp [positionDecision, h, publicAssessment]
    · intro o ho he
      cases h : selectedOf p final with
      | none => simp [positionDecision, h] at he
      | some a =>
        simp only [positionDecision, h, Option.map_some, Option.some.injEq] at he ⊢
        rw [List.inj_on_of_nodup_map request.opportunityIds_nodup
          (hall.opportunities a (selectedOf_some h).1) ho he]
  case opportunity =>
    intro o ho
    rw [principalOf, hall.sum_decisions (fun a => a.opportunity.opportunityId == o.opportunityId)
      hrec.decisions]
    · have h := sum_selected_le hsel hp (.opportunity o.opportunityId)
        (fun a => a.opportunity.opportunityId == o.opportunityId)
        (fun a => by simp [exposures, (hsel.marks.same a).opportunity])
      rw [exposures_limit_opportunity ho] at h
      exact Int.ofNat_le.mp h
    · intro p
      cases h : selectedOf p final <;> simp [positionDecision, h]
  case provider =>
    intro providerId
    rw [principalOf, hall.sum_decisions (fun a => a.opportunity.providerId == providerId)
      hrec.decisions]
    · have h := sum_selected_le hsel hp (.provider providerId)
        (fun a => a.opportunity.providerId == providerId)
        (fun a => by simp [exposures, (hsel.marks.same a).opportunity])
      exact Int.ofNat_le.mp h
    · intro p
      cases h : selectedOf p final <;> simp [positionDecision, h]
  case crossChain =>
    rw [principalOf, hall.sum_decisions (fun a => a.routeKind == .crossChain) hrec.decisions]
    · have h := sum_selected_le hsel hp .crossChain (fun a => a.routeKind == .crossChain)
        (fun a => by simp [exposures, (hsel.marks.same a).routeKind])
      exact Int.ofNat_le.mp h
    · intro p
      cases h : selectedOf p final <;> simp [positionDecision, h]
  case recommended =>
    rw [principalOf, hall.sum_decisions (fun _ => true) hrec.decisions, hrec.recommended,
      List.filter_true]
    intro p
    cases h : selectedOf p final <;> simp [positionDecision, h]
  case net =>
    have h1 := (hrec.decisions.flatMap_right (fun d => d.assessments.filter (·.selected))).map
      (fun a => a.calculation.elim 0 (·.netBenefitUsdMantissa))
    have h2 := hall.selected_perm.map (fun a => a.calculation.elim 0 (·.netBenefitUsdMantissa))
    rw [hrec.net, selectedAssessments, h1.sum_eq, ← h2.sum_eq, List.flatMap_map]
    simp only [hfilter, ← List.map_flatMap, List.filterMap_eq_flatMap_toList, List.map_map]
    rfl
  case status_recommended =>
    rw [hall', hrec.status, statusOf_recommended, hcount, List.countP_eq_length]
  case status_none =>
    rw [hnone', hrec.status, statusOf_none (List.length_pos_of_ne_nil request.positions_nonempty),
      hcount, List.countP_eq_zero]

section Sample

open Lib.JsValue

def samplePosition (id network : String) : Value :=
  ofFields [("positionId", .string id), ("walletId", .string "wallet"),
    ("networkId", .string network), ("assetId", .string "usdc"), ("amountAtomic", .bigint 1000),
    ("amountUsdMantissa", .bigint 100000)]

def sampleOpportunity (id network : String) (apy : Int) : Value :=
  ofFields [("opportunityId", .string id), ("providerId", .string "provider"),
    ("networkId", .string network), ("assetId", .string "usdc"),
    ("availability", .string "AVAILABLE"), ("recommendationEligibility", .string "ELIGIBLE"),
    ("grossApyBasisPoints", .bigint apy), ("recurringFeeBasisPoints", .bigint 0),
    ("availableCapacityUsdMantissa", .bigint 150000),
    ("evidence", ofFields [("evidenceReferenceId", .string "e"), ("adapterId", .string "a"),
      ("observedAt", .string "2026-01-01T00:00:00.000Z"),
      ("validUntil", .string "2026-01-02T00:00:00.000Z")]),
    ("riskAssessment", ofFields [("status", .string "APPROVED_FOR_RECOMMENDATION"),
      ("assessmentReferenceId", .string "r"), ("assessedAt", .string "2026-01-01T00:00:00.000Z"),
      ("validUntil", .string "2026-01-02T00:00:00.000Z"), ("penaltyBasisPoints", .bigint 0)])]

def sampleCandidate (id position opportunity source destination : String) (bridge : Value) :
    Value :=
  ofFields [("candidateId", .string id), ("positionId", .string position),
    ("opportunityId", .string opportunity),
    ("costQuote", ofFields [("quoteReferenceId", .string "q"), ("routeReferenceId", .string "r"),
      ("positionId", .string position), ("opportunityId", .string opportunity),
      ("verifiedByAdapterId", .string "a"), ("quotedAt", .string "2026-01-01T00:00:00.000Z"),
      ("validUntil", .string "2026-01-02T00:00:00.000Z"), ("sourceNetworkId", .string source),
      ("destinationNetworkId", .string destination), ("sourceAssetId", .string "usdc"),
      ("destinationAssetId", .string "usdc"), ("sourceAmountAtomic", .bigint 1000),
      ("minimumDestinationAmountAtomic", .bigint 990),
      ("costsUsdMantissa", ofFields (feeAwareAllocationCostKinds.map (fun k => (k, .bigint 0)))),
      ("bridge", bridge)])]

def sampleBridge : Value :=
  ofFields [("entryBridgeProviderId", .string "b"), ("exitBridgeProviderId", .string "b"),
    ("entryEstimateReferenceId", .string "x"), ("exitEstimateReferenceId", .string "y"),
    ("entryMinimumOutputAtomic", .bigint 990), ("exitMinimumOutputAtomic", .bigint 980)]

def requestWith (positions opportunities candidates : List Value) : Value :=
  ofFields [("usdScale", .integer 18), ("evaluatedAt", .string "2026-01-01T00:00:01.000Z"),
    ("holdingPeriodDays", .bigint 365), ("maximumQuoteAgeSeconds", .bigint 60),
    ("maximumOpportunityAgeSeconds", .bigint 60), ("minimumNetBenefitUsdMantissa", .bigint 1),
    ("crossChainPolicy", ofFields [
      ("optIn", ofFields [("scope", .string "CONSIDER_CROSS_CHAIN_RECOMMENDATIONS"),
        ("consentReferenceId", .string "c"), ("grantedAt", .string "2026-01-01T00:00:00.000Z"),
        ("expiresAt", .string "2026-01-02T00:00:00.000Z")]),
      ("allowedBridgeProviderIds", ofItems [.string "b"]),
      ("maximumLifecycleCostUsdMantissa", .bigint 1000),
      ("minimumNetImprovementUsdMantissa", .bigint 100)]),
    ("exposurePolicy", ofFields [
      ("maximumCrossChainPrincipalUsdMantissa", .bigint 100000),
      ("maximumProviderPrincipalUsdMantissa", .bigint 250000)]),
    ("positions", ofItems positions), ("opportunities", ofItems opportunities),
    ("candidates", ofItems candidates)]

def samplePositions : List Value :=
  [samplePosition "p1" "eip155:1", samplePosition "p2" "eip155:1"]

def sampleOpportunities : List Value :=
  [sampleOpportunity "o1" "eip155:1" 500,
    sampleOpportunity "o2" "solana:5eykt4UsFv8P8NJdTREpY1vzqKqZKvdp" 900]

def sampleCandidates : List Value :=
  [sampleCandidate "c1" "p1" "o1" "eip155:1" "eip155:1" .null,
    sampleCandidate "c2" "p1" "o2" "eip155:1" "solana:5eykt4UsFv8P8NJdTREpY1vzqKqZKvdp"
      sampleBridge,
    sampleCandidate "c3" "p2" "o1" "eip155:1" "eip155:1" .null]

/-- Two positions; the first one has a better route on the other chain. -/
def sampleRequest : Value := requestWith samplePositions sampleOpportunities sampleCandidates

theorem sampleRequest_selects : (recommendFeeAwareAllocation sampleRequest).status = .recommended ∧
    (recommendFeeAwareAllocation sampleRequest).decisions.map (fun d =>
      (d.assessments.filter (·.selected)).map (fun a => (a.candidateId, a.routeKind))) =
      [[("c2", .crossChain)], [("c3", .sameChain)]] := by
  decide

theorem sampleRequest_accepted :
    (recommendFeeAwareAllocation sampleRequest).status ≠ .invalidInput := by
  rw [sampleRequest_selects.1]
  decide

theorem sampleRequest_parses : ∃ request, parseRequest sampleRequest = some request := by
  have h := sampleRequest_accepted
  unfold recommendFeeAwareAllocation at h
  cases hp : parseRequest sampleRequest with
  | none => simp [hp, invalidRecommendation] at h
  | some request => exact ⟨request, rfl⟩

theorem sampleRequest_respects_exposure : ∃ request, parseRequest sampleRequest = some request ∧
    RespectsExposure request (recommendFeeAwareAllocation sampleRequest) := by
  obtain ⟨request, hr⟩ := sampleRequest_parses
  exact ⟨request, hr,
    recommendFeeAwareAllocation_respects_exposure hr sampleRequest_accepted⟩

end Sample

end CryptoLending.SmartLending.AllocationDecisions
