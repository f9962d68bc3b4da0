import Mathlib.Algebra.BigOperators.Group.List.Basic
import Mathlib.Order.WithBot
import CryptoLending.SmartLending.AllocationDecisions

namespace CryptoLending.SmartLending.AllocationOrder

open Lib Lib.JsValue Lib.Sorting FeeAwareReturn AllocationRequest AllocationAssessment
open AllocationSelection AllocationComparison AllocationDecisions

/-- Requests that present the same items in possibly different orders. -/
structure SameRequest (r s : ParsedRequest) : Prop where
  evaluatedAt : r.evaluatedAt = s.evaluatedAt
  evaluatedAtMs : r.evaluatedAtMs = s.evaluatedAtMs
  holdingPeriodDays : r.holdingPeriodDays = s.holdingPeriodDays
  quoteAge : r.maximumQuoteAgeSeconds = s.maximumQuoteAgeSeconds
  opportunityAge : r.maximumOpportunityAgeSeconds = s.maximumOpportunityAgeSeconds
  minimumNetBenefit : r.minimumNetBenefitUsdMantissa = s.minimumNetBenefitUsdMantissa
  optIn : r.crossChainPolicy.optIn = s.crossChainPolicy.optIn
  lifecycleCost : r.crossChainPolicy.maximumLifecycleCostUsdMantissa =
    s.crossChainPolicy.maximumLifecycleCostUsdMantissa
  netImprovement : r.crossChainPolicy.minimumNetImprovementUsdMantissa =
    s.crossChainPolicy.minimumNetImprovementUsdMantissa
  allowed : r.crossChainPolicy.allowedBridgeProviderIds.Perm
    s.crossChainPolicy.allowedBridgeProviderIds
  exposurePolicy : r.exposurePolicy = s.exposurePolicy
  positions : r.positions.Perm s.positions
  opportunities : r.opportunities.Perm s.opportunities
  candidates : r.candidates.Perm s.candidates

section Assessing

variable {r s : ParsedRequest} (h : SameRequest r s)
include h

theorem SameRequest.assessRouteKind (kind : RouteKind) (quote : ParsedCostQuote) :
    AllocationAssessment.assessRouteKind r kind quote =
      AllocationAssessment.assessRouteKind s kind quote := by
  have hmem : ∀ id, r.crossChainPolicy.allowedBridgeProviderIds.contains id =
      s.crossChainPolicy.allowedBridgeProviderIds.contains id := fun id => by
    rw [Bool.eq_iff_iff, List.contains_iff_mem, List.contains_iff_mem, h.allowed.mem_iff]
  cases kind with
  | sameChain => rfl
  | crossChain =>
    simp only [AllocationAssessment.assessRouteKind, assessOptIn, assessBridge, h.optIn,
      h.evaluatedAtMs, hmem]

theorem SameRequest.assessOpportunity (opportunity : ParsedOpportunity) :
    AllocationAssessment.assessOpportunity r opportunity =
      AllocationAssessment.assessOpportunity s opportunity := by
  simp only [AllocationAssessment.assessOpportunity, assessRisk, h.evaluatedAtMs, h.opportunityAge]

theorem SameRequest.assessCandidate (candidate : ParsedCandidate)
    (position : FeeAwareCapitalPosition) (opportunity : ParsedOpportunity) :
    AllocationAssessment.assessCandidate r candidate position opportunity =
      AllocationAssessment.assessCandidate s candidate position opportunity := by
  have hq : ∀ quote, assessQuote r quote position opportunity =
      assessQuote s quote position opportunity := fun quote => by
    simp only [assessQuote, assessQuoteFreshness, calculateCandidate, returnInput,
      h.assessOpportunity, h.assessRouteKind, h.evaluatedAtMs, h.quoteAge, h.holdingPeriodDays,
      h.minimumNetBenefit]
  simp only [AllocationAssessment.assessCandidate, hq]

theorem SameRequest.assessCandidates :
    Option.Rel List.Perm (AllocationSelection.assessCandidates r)
      (AllocationSelection.assessCandidates s) := by
  simp only [AllocationSelection.assessCandidates, h.assessCandidate]
  simp only [JsMap.get_ofEntries_map_perm (fun p : FeeAwareCapitalPosition => p.positionId)
      (fun p => p) h.positions r.positionIds_nodup,
    JsMap.get_ofEntries_map_perm (fun o : ParsedOpportunity => o.opportunityId) (fun o => o)
      h.opportunities r.opportunityIds_nodup]
  exact ListOption.mapM_perm _ h.candidates

end Assessing

theorem eq_of_id_eq {l : List InternalAssessment} (hl : (l.map (·.id)).Nodup)
    {a b : InternalAssessment} (ha : a ∈ l) (hb : b ∈ l) (h : a.id = b.id) : a = b :=
  List.inj_on_of_nodup_map hl ha hb h

/-- Items with a calculation are told apart by their ranks. -/
theorem rankKey_injective {l : List InternalAssessment} (hl : (l.map (·.id)).Nodup)
    (hc : ∀ a ∈ l, a.calculation.isSome = true) :
    ∀ a ∈ l, ∀ b ∈ l, rankKey a = rankKey b → a = b := by
  intro a ha b hb hk
  obtain ⟨c, hac⟩ := Option.isSome_iff_exists.mp (hc a ha)
  obtain ⟨d, hbd⟩ := Option.isSome_iff_exists.mp (hc b hb)
  rw [rankKey_some hac, rankKey_some hbd] at hk
  exact eq_of_id_eq hl ha hb (returnKey_id hk)

theorem sortBy_compareAssessments_perm {l m : List InternalAssessment} (h : l.Perm m)
    (hl : (l.map (·.id)).Nodup) (hc : ∀ a ∈ l, a.calculation.isSome = true) :
    sortBy compareAssessments l = sortBy compareAssessments m :=
  (compareAssessments_ranks hc).sortBy_eq_of_perm ((compareAssessments_ranks hc).perm h) h
    (rankKey_injective hl hc)

theorem ids_filter {l : List InternalAssessment} (hl : (l.map (·.id)).Nodup)
    (p : InternalAssessment → Bool) : ((l.filter p).map (·.id)).Nodup :=
  (List.filter_sublist.map _).nodup hl

theorem baseline_perm {l m : List InternalAssessment} (h : l.Perm m)
    (hl : (l.map (·.id)).Nodup) (id : String) : baseline id l = baseline id m := by
  unfold baseline
  rw [sortBy_compareAssessments_perm (h.filter _) (ids_filter hl _)]
  intro a ha
  have hb := (List.mem_filter.mp ha).2
  simp only [isBaselineOption, Bool.and_eq_true] at hb
  exact hb.2

theorem compared_perm {r s : ParsedRequest} (h : SameRequest r s) {l m : List InternalAssessment}
    (hp : l.Perm m) (hl : (l.map (·.id)).Nodup) :
    (l.map (compared r.crossChainPolicy l)).Perm (m.map (compared s.crossChainPolicy m)) := by
  have hc : compared r.crossChainPolicy l = compared s.crossChainPolicy m := by
    funext a
    simp only [compared, compareWithBaseline, baseline_perm hp hl, h.lifecycleCost,
      h.netImprovement]
  rw [hc]
  exact hp.map _

theorem ranked_perm {l m : List InternalAssessment} (h : l.Perm m)
    (hl : (l.map (·.id)).Nodup) : ranked l = ranked m := by
  refine sortBy_compareAssessments_perm (h.filter _) (ids_filter hl _) fun a ha => ?_
  have hb := (List.mem_filter.mp ha).2
  simp only [isEligibleInternal, Bool.and_eq_true] at hb
  exact hb.2

/-- Groups with an eligible member come first, by its net benefit; their position ids
decide the rest. -/
def groupRank (group : List InternalAssessment) : WithTop ℤ ×ₗ String :=
  toLex ((((ranked group).head?.bind (·.calculation)).map (·.netBenefitUsdMantissa)).elim ⊤
    (fun n => ((-n : ℤ) : WithTop ℤ)), groupPositionId group)

theorem compareGroups_ranks (l : List (List InternalAssessment)) :
    RanksBy compareGroups groupRank l := by
  intro g _ h _
  simp only [compareGroups, groupRank, Prod.Lex.toLex_le_toLex, compareOptionalNetBenefit,
    ← compareText_ranks]
  cases ((ranked g).head?.bind (·.calculation)).map (·.netBenefitUsdMantissa) with
  | none =>
    cases ((ranked h).head?.bind (·.calculation)).map (·.netBenefitUsdMantissa) with
    | none => simp [Ordering.then]
    | some n =>
      simp only [Option.elim_none, Option.elim_some, not_top_lt, WithTop.top_ne_coe, false_and,
        or_self, Ordering.then, ne_eq, not_true_eq_false]
  | some m =>
    cases ((ranked h).head?.bind (·.calculation)).map (·.netBenefitUsdMantissa) with
    | none =>
      simp only [Option.elim_none, Option.elim_some, WithTop.coe_lt_top, true_or, Ordering.then,
        ne_eq, reduceCtorEq, not_false_eq_true]
    | some n =>
      simp only [Option.elim_some, WithTop.coe_lt_coe, WithTop.coe_inj, neg_lt_neg_iff, neg_inj]
      by_cases he : m = n
      · simp [he, Ordering.then]
      · by_cases hlt : n < m
        · simp [he, hlt, Ordering.then]
        · simp [he, hlt, Ordering.then]

section Groups

/-- The group of a position. -/
def groupOf (l : List InternalAssessment) (id : String) : List InternalAssessment :=
  l.filter (fun a => a.position.positionId = id)

def groupIds (l : List InternalAssessment) : List String :=
  (positionGroups l).keys

theorem orderedGroups_eq (l : List InternalAssessment) :
    orderedGroups l =
      (sortBy (fun i j => compareGroups (groupOf l i) (groupOf l j)) (groupIds l)).map
        (groupOf l) := by
  rw [← sortBy_map, orderedGroups, positionGroups, JsMap.values_groupInto]
  rfl

theorem mem_groupIds {l : List InternalAssessment} {id : String} :
    id ∈ groupIds l ↔ ∃ a ∈ l, a.position.positionId = id := by
  rw [groupIds, positionGroups, JsMap.mem_keys_groupInto, List.mem_map]

theorem groupPositionId_groupOf {l : List InternalAssessment} {id : String}
    (h : id ∈ groupIds l) : groupPositionId (groupOf l id) = id := by
  obtain ⟨a, ha, hid⟩ := mem_groupIds.1 h
  have hm : a ∈ groupOf l id := by simp [groupOf, ha, hid]
  cases hg : groupOf l id with
  | nil => simp [hg] at hm
  | cons b rest =>
    have hb : b ∈ groupOf l id := by simp [hg]
    simp only [groupOf, List.mem_filter, decide_eq_true_eq] at hb
    exact hb.2

variable {l m : List InternalAssessment}

theorem groupIds_perm (h : l.Perm m) : (groupIds l).Perm (groupIds m) := by
  refine (List.perm_ext_iff_of_nodup (positionGroups l).keys_nodup
    (positionGroups m).keys_nodup).mpr fun id => ?_
  have hm : id ∈ groupIds l ↔ id ∈ groupIds m := by
    simp only [mem_groupIds, h.mem_iff]
  exact hm

theorem ranked_groupOf_perm (h : l.Perm m) (hl : (l.map (·.id)).Nodup) (id : String) :
    ranked (groupOf l id) = ranked (groupOf m id) :=
  ranked_perm (h.filter _) (ids_filter hl _)

/-- The selection visits the same candidates in the same order. -/
theorem orderedGroups_perm (h : l.Perm m) (hl : (l.map (·.id)).Nodup) :
    (orderedGroups l).map ranked = (orderedGroups m).map ranked := by
  have hrank : ∀ id ∈ groupIds m, groupRank (groupOf l id) = groupRank (groupOf m id) := by
    intro id hid
    have hid' : id ∈ groupIds l := (groupIds_perm h).mem_iff.mpr hid
    simp only [groupRank, ranked_groupOf_perm h hl, groupPositionId_groupOf hid,
      groupPositionId_groupOf hid']
  have hsort : sortBy (fun i j => compareGroups (groupOf l i) (groupOf l j)) (groupIds l) =
      sortBy (fun i j => compareGroups (groupOf m i) (groupOf m j)) (groupIds m) := by
    have hl' : RanksBy (fun i j => compareGroups (groupOf l i) (groupOf l j))
        (fun id => groupRank (groupOf l id)) (groupIds l) :=
      fun i _ j _ => compareGroups_ranks [groupOf l i, groupOf l j] _ (by simp) _ (by simp)
    have hm' : RanksBy (fun i j => compareGroups (groupOf m i) (groupOf m j))
        (fun id => groupRank (groupOf l id)) (groupIds m) := by
      intro i hi j hj
      beta_reduce
      rw [hrank i hi, hrank j hj]
      exact compareGroups_ranks [groupOf m i, groupOf m j] _ (by simp) _ (by simp)
    refine hl'.sortBy_eq_of_perm hm' (groupIds_perm h) ?_
    intro i hi j hj hk
    have hid := congrArg (fun k => (ofLex k).2) hk
    simpa [groupRank, groupPositionId_groupOf hi, groupPositionId_groupOf hj] using hid
  rw [orderedGroups_eq, orderedGroups_eq, hsort, List.map_map, List.map_map]
  exact List.map_congr_left fun id _ => ranked_groupOf_perm h hl id

end Groups

/-- States that agree on every budget and hold the same assessments. -/
structure SameState (s t : SelectionState) : Prop where
  capacity : ∀ id, s.remainingCapacity.get id = t.remainingCapacity.get id
  provider : ∀ id, s.remainingProviderPrincipal.get id = t.remainingProviderPrincipal.get id
  crossChain : s.remainingCrossChainPrincipal = t.remainingCrossChainPrincipal
  assessments : s.assessments.Perm t.assessments

section Selecting

variable {s t : SelectionState} (h : SameState s t)
include h

theorem SameState.reject (a : InternalAssessment) (reason : FeeAwareCandidateReason) :
    SameState (s.reject a reason) (t.reject a reason) :=
  ⟨h.capacity, h.provider, h.crossChain, h.assessments.map _⟩

theorem SameState.select (a : InternalAssessment) (capacity providerCapacity : Int) :
    SameState (s.select a capacity providerCapacity) (t.select a capacity providerCapacity) where
  capacity id := by simp only [SelectionState.select, JsMap.get_set, h.capacity]
  provider id := by simp only [SelectionState.select, JsMap.get_set, h.provider]
  crossChain := by simp only [SelectionState.select, h.crossChain]
  assessments := h.assessments.map _

theorem SameState.selectFrom (exposurePolicy : FeeAwareAllocationExposurePolicy)
    (options : List InternalAssessment) :
    SameState (AllocationSelection.selectFrom exposurePolicy s options)
      (AllocationSelection.selectFrom exposurePolicy t options) := by
  induction options generalizing s t with
  | nil => exact h
  | cons a rest ih =>
    simp only [AllocationSelection.selectFrom, h.capacity, h.provider, h.crossChain]
    split
    · exact ih (h.reject a _)
    · split
      · exact ih (h.reject a _)
      · split
        · exact ih (h.reject a _)
        · exact h.select a _ _

theorem SameState.foldl (exposurePolicy : FeeAwareAllocationExposurePolicy)
    (groups : List (List InternalAssessment)) :
    SameState (groups.foldl (AllocationSelection.selectFrom exposurePolicy) s)
      (groups.foldl (AllocationSelection.selectFrom exposurePolicy) t) := by
  induction groups generalizing s t with
  | nil => exact h
  | cons g rest ih => exact ih (h.selectFrom exposurePolicy g)

end Selecting

theorem selectCandidatesWithinLimits_perm {r s : ParsedRequest} (h : SameRequest r s)
    {l m : List InternalAssessment} (hp : l.Perm m) (hl : (l.map (·.id)).Nodup) :
    (selectCandidatesWithinLimits l r.opportunities r.exposurePolicy).Perm
      (selectCandidatesWithinLimits m s.opportunities s.exposurePolicy) := by
  have hinit : SameState (initialState l r.opportunities r.exposurePolicy)
      (initialState m s.opportunities s.exposurePolicy) :=
    ⟨JsMap.get_ofEntries_map_perm _ _ h.opportunities r.opportunityIds_nodup, fun _ => rfl,
      by simp [initialState, h.exposurePolicy], hp⟩
  have hfold := hinit.foldl s.exposurePolicy ((orderedGroups m).map ranked)
  simp only [selectCandidatesWithinLimits, ← List.foldl_map, orderedGroups_perm hp hl,
    h.exposurePolicy] at hfold ⊢
  exact hfold.assessments

section Deciding

theorem compareText_ranksBy {α : Type} (key : α → String) (l : List α) :
    RanksBy (fun a b => compareText (key a) (key b)) key l :=
  fun _ _ _ _ => compareText_ranks _ _

theorem sortBy_compareText_perm {α : Type} (key : α → String) {l m : List α} (h : l.Perm m)
    (hl : (l.map key).Nodup) :
    sortBy (fun a b => compareText (key a) (key b)) l =
      sortBy (fun a b => compareText (key a) (key b)) m :=
  (compareText_ranksBy key l).sortBy_eq_of_perm (compareText_ranksBy key m) h
    fun _ ha _ hb hk => List.inj_on_of_nodup_map hl ha hb hk

variable {l m : List InternalAssessment} (h : l.Perm m) (hl : (l.map (·.id)).Nodup)
include h hl

theorem matching_perm (position : FeeAwareCapitalPosition) :
    matching position l = matching position m :=
  sortBy_compareText_perm InternalAssessment.id (h.filter _) (ids_filter hl _)

theorem positionDecision_perm (position : FeeAwareCapitalPosition) :
    positionDecision position l = positionDecision position m := by
  simp only [positionDecision, selectedOf, matching_perm h hl]

theorem recommendation_perm {r s : ParsedRequest} (hr : SameRequest r s) :
    recommendation r l = recommendation s m := by
  have hdecisions : sortBy (fun a b => compareText a.positionId b.positionId)
      (r.positions.map (positionDecision · l)) =
      sortBy (fun a b => compareText a.positionId b.positionId)
        (s.positions.map (positionDecision · m)) := by
    have hd : (positionDecision · l) = (positionDecision · m) :=
      funext fun position => positionDecision_perm h hl position
    rw [hd]
    refine sortBy_compareText_perm FeeAwarePositionDecision.positionId (hr.positions.map _) ?_
    rw [List.map_map]
    exact r.positionIds_nodup
  have hselected := h.filter (·.selected)
  have htotal : boundedSum (r.positions.map (·.amountUsdMantissa)) =
      boundedSum (s.positions.map (·.amountUsdMantissa)) := by
    rw [boundedSum_eq, boundedSum_eq, (hr.positions.map _).sum_eq]
  have hrecommended : boundedSum ((l.filter (·.selected)).map (·.position.amountUsdMantissa)) =
      boundedSum ((m.filter (·.selected)).map (·.position.amountUsdMantissa)) := by
    rw [boundedSum_eq, boundedSum_eq, (hselected.map _).sum_eq]
  simp only [recommendation, hdecisions, hselected.length_eq, htotal, hrecommended,
    hr.positions.length_eq, hr.evaluatedAt, hr.holdingPeriodDays, netBenefit_eq,
    (hselected.map _).sum_eq]

end Deciding

theorem allocate_perm {r s : ParsedRequest} (h : SameRequest r s) : allocate r = allocate s := by
  have ha := h.assessCandidates
  unfold allocate
  cases hr : AllocationSelection.assessCandidates r with
  | none =>
    cases hs : AllocationSelection.assessCandidates s with
    | none => rfl
    | some m => rw [hr, hs] at ha; cases ha
  | some l =>
    cases hs : AllocationSelection.assessCandidates s with
    | none => rw [hr, hs] at ha; cases ha
    | some m =>
      rw [hr, hs, Option.rel_some_some] at ha
      have hl := assessCandidates_some hr
      have hm := assessCandidates_some hs
      simp only [applyCrossChainComparisonPolicy_eq r l hl.positionId_mem,
        applyCrossChainComparisonPolicy_eq s m hm.positionId_mem]
      have hids : ((l.map (compared r.crossChainPolicy l)).map (·.id)).Nodup :=
        map_id_of_sameCandidate (compared_same _ l) l ▸ hl.ids_nodup
      refine recommendation_perm (selectCandidatesWithinLimits_perm h
        (compared_perm h ha hl.ids_nodup) hids) ?_ h
      obtain ⟨f, hsel⟩ := AllocationLimits.selectCandidatesWithinLimits_serves
        (l.map (compared r.crossChainPolicy l)) r.opportunityIds_nodup r.exposurePolicy
      rw [hsel.final_eq, map_id_of_sameCandidate hsel.marks.same]
      exact hids

section Parsing

theorem parseItems_reordered {α : Type} {v w : Value} (h : Reordered v w) (minimum maximum : Nat)
    (parse : Value → Option α) :
    Option.Rel List.Perm (parseItems v minimum maximum parse)
      (parseItems w minimum maximum parse) :=
  ListOption.rel_bind (exactArray_reordered h minimum maximum)
    fun _ _ hp => ListOption.mapM_perm parse hp

theorem parseList_reordered {α : Type} {v w : Value} (h : Reordered v w) (minimum maximum : Nat)
    (parse : Value → Option α) :
    Option.Rel (fun a b => a.1.Perm b.1) (parseList v minimum maximum parse)
      (parseList w minimum maximum parse) :=
  ListOption.rel_pmap (parseItems_reordered h minimum maximum parse) _ _

/-- Policies that may list the allowed bridges in another order. -/
def SamePolicyFields (key : String) (v w : Value) : Prop :=
  if key = "allowedBridgeProviderIds" then Reordered v w else v = w

/-- Requests that may list their items in another order. -/
def SameRequestFields (key : String) (v w : Value) : Prop :=
  if key ∈ ["positions", "opportunities", "candidates"] then Reordered v w
  else if key = "crossChainPolicy" then RelatedFields SamePolicyFields v w
  else v = w

/-- Inputs that differ at most in the order of the positions, the opportunities, the
candidates and the allowed bridges. -/
def SamePresentation : Value → Value → Prop := RelatedFields SameRequestFields

theorem samePolicyFields_refl (key : String) (v : Value) : SamePolicyFields key v v := by
  unfold SamePolicyFields
  split
  · exact .same v
  · rfl

theorem sameRequestFields_refl (key : String) (v : Value) : SameRequestFields key v v := by
  unfold SameRequestFields
  split
  · exact .same v
  · split
    · exact .same v
    · rfl

structure SamePolicy (p q : ParsedCrossChainPolicy) : Prop where
  optIn : p.optIn = q.optIn
  lifecycleCost : p.maximumLifecycleCostUsdMantissa = q.maximumLifecycleCostUsdMantissa
  netImprovement : p.minimumNetImprovementUsdMantissa = q.minimumNetImprovementUsdMantissa
  allowed : p.allowedBridgeProviderIds.Perm q.allowedBridgeProviderIds

theorem parseCrossChainPolicy_same {v w : Value} (h : RelatedFields SamePolicyFields v w) :
    Option.Rel SamePolicy (parseCrossChainPolicy v) (parseCrossChainPolicy w) := by
  refine ListOption.rel_bind (exactRecord_related samePolicyFields_refl h _) fun r r' hr => ?_
  have hallowed : Reordered (r.get "allowedBridgeProviderIds")
      (r'.get "allowedBridgeProviderIds") := by
    simpa [SamePolicyFields] using hr "allowedBridgeProviderIds"
  have hoptIn : r.get "optIn" = r'.get "optIn" := by
    simpa [SamePolicyFields] using hr "optIn"
  have hcost : r.get "maximumLifecycleCostUsdMantissa" =
      r'.get "maximumLifecycleCostUsdMantissa" := by
    simpa [SamePolicyFields] using hr "maximumLifecycleCostUsdMantissa"
  have himprovement : r.get "minimumNetImprovementUsdMantissa" =
      r'.get "minimumNetImprovementUsdMantissa" := by
    simpa [SamePolicyFields] using hr "minimumNetImprovementUsdMantissa"
  rw [hoptIn, hcost, himprovement]
  refine ListOption.rel_bind (exactArray_reordered hallowed 0 32) fun l m hlm => ?_
  refine ListOption.rel_bind (ListOption.mapM_perm reference hlm) fun ids ids' hids => ?_
  refine ListOption.rel_bind (ListOption.rel_guard hids.nodup_iff) fun _ _ _ => ?_
  refine ListOption.rel_bind_same fun _ => ListOption.rel_bind_same fun _ =>
    ListOption.rel_bind_same fun _ => ?_
  exact .some ⟨rfl, rfl, rfl, hids⟩

theorem parseRequest_same {v w : Value} (h : SamePresentation v w) :
    Option.Rel SameRequest (parseRequest v) (parseRequest w) := by
  refine ListOption.rel_bind (exactRecord_related sameRequestFields_refl h _) fun r r' hr => ?_
  have hsame : ∀ key, key ∉ ["positions", "opportunities", "candidates", "crossChainPolicy"] →
      r.get key = r'.get key := by
    intro key hkey
    have hk := hr key
    simp only [List.mem_cons, List.not_mem_nil, or_false, not_or] at hkey
    simpa [SameRequestFields, hkey] using hk
  have hlist : ∀ key, key ∈ ["positions", "opportunities", "candidates"] →
      Reordered (r.get key) (r'.get key) := by
    intro key hkey
    have hk := hr key
    rwa [SameRequestFields, if_pos hkey] at hk
  have hpolicy : RelatedFields SamePolicyFields (r.get "crossChainPolicy")
      (r'.get "crossChainPolicy") := by
    simpa [SameRequestFields] using hr "crossChainPolicy"
  unfold parseFields
  rw [hsame "usdScale" (by decide), hsame "evaluatedAt" (by decide),
    hsame "holdingPeriodDays" (by decide), hsame "maximumQuoteAgeSeconds" (by decide),
    hsame "maximumOpportunityAgeSeconds" (by decide),
    hsame "minimumNetBenefitUsdMantissa" (by decide), hsame "exposurePolicy" (by decide)]
  iterate 6 refine ListOption.rel_bind_same fun _ => ?_
  refine ListOption.rel_bind (parseList_reordered (hlist "positions" (by decide)) 1 64 parsePosition)
    fun ps ps' hps => ?_
  refine ListOption.rel_bind (parseList_reordered (hlist "opportunities" (by decide)) 1 256 parseOpportunity)
    fun os os' hos => ?_
  refine ListOption.rel_bind (parseList_reordered (hlist "candidates" (by decide)) 0 1024 parseCandidate)
    fun cs cs' hcs => ?_
  refine ListOption.rel_bind (parseCrossChainPolicy_same hpolicy) fun p p' hp => ?_
  refine ListOption.rel_bind_same fun _ => ?_
  have hnodup : ((ps.1.map (·.positionId)).Nodup ∧ (os.1.map (·.opportunityId)).Nodup ∧
      (cs.1.map (·.candidateId)).Nodup) ↔ ((ps'.1.map (·.positionId)).Nodup ∧
      (os'.1.map (·.opportunityId)).Nodup ∧ (cs'.1.map (·.candidateId)).Nodup) := by
    rw [(hps.map _).nodup_iff, (hos.map _).nodup_iff, (hcs.map _).nodup_iff]
  by_cases hu : (ps.1.map (·.positionId)).Nodup ∧ (os.1.map (·.opportunityId)).Nodup ∧
      (cs.1.map (·.candidateId)).Nodup
  · rw [dif_pos hu, dif_pos (hnodup.mp hu)]
    exact .some ⟨rfl, rfl, rfl, rfl, rfl, rfl, hp.optIn, hp.lifecycleCost, hp.netImprovement,
      hp.allowed, rfl, hps, hos, hcs⟩
  · rw [dif_neg hu, dif_neg (mt hnodup.mpr hu)]
    exact .none

end Parsing

/-- The order in which a request presents its items does not matter. -/
theorem recommendFeeAwareAllocation_order_independent {v w : Value} (h : SamePresentation v w) :
    recommendFeeAwareAllocation v = recommendFeeAwareAllocation w := by
  have hp := parseRequest_same h
  unfold recommendFeeAwareAllocation
  cases hv : parseRequest v with
  | none =>
    cases hw : parseRequest w with
    | none => rfl
    | some s => rw [hv, hw] at hp; cases hp
  | some r =>
    cases hw : parseRequest w with
    | none => rw [hv, hw] at hp; cases hp
    | some s =>
      rw [hv, hw, Option.rel_some_some] at hp
      exact allocate_perm hp

theorem requestWith_samePresentation {ps ps' os os' cs cs' : List Value} (hps : ps.Perm ps')
    (hos : os.Perm os') (hcs : cs.Perm cs') :
    SamePresentation (requestWith ps os cs) (requestWith ps' os' cs') := by
  refine ofFields_related ?_
  have hlist : ∀ {l m : List Value} {key : String},
      key ∈ ["positions", "opportunities", "candidates"] → l.Perm m →
      SameRequestFields key (ofItems l) (ofItems m) := fun hk h => by
    rw [SameRequestFields, if_pos hk]
    exact ofItems_reordered h
  refine .cons ⟨rfl, sameRequestFields_refl _ _⟩ (.cons ⟨rfl, sameRequestFields_refl _ _⟩
    (.cons ⟨rfl, sameRequestFields_refl _ _⟩ (.cons ⟨rfl, sameRequestFields_refl _ _⟩
    (.cons ⟨rfl, sameRequestFields_refl _ _⟩ (.cons ⟨rfl, sameRequestFields_refl _ _⟩
    (.cons ⟨rfl, sameRequestFields_refl _ _⟩ (.cons ⟨rfl, sameRequestFields_refl _ _⟩
    (.cons ⟨rfl, hlist (by simp) hps⟩ (.cons ⟨rfl, hlist (by simp) hos⟩
    (.cons ⟨rfl, hlist (by simp) hcs⟩ .nil))))))))))

theorem sampleRequest_order_independent :
    (recommendFeeAwareAllocation sampleRequest).status = .recommended ∧
      recommendFeeAwareAllocation sampleRequest = recommendFeeAwareAllocation
        (requestWith samplePositions.reverse sampleOpportunities.reverse
          sampleCandidates.reverse) :=
  ⟨sampleRequest_selects.1, recommendFeeAwareAllocation_order_independent
    (requestWith_samePresentation (List.reverse_perm _).symm (List.reverse_perm _).symm
      (List.reverse_perm _).symm)⟩

end CryptoLending.SmartLending.AllocationOrder
