import CryptoLending.SmartLending.AllocationDecisions

namespace CryptoLending.SmartLending.AllocationExhaustion

open Lib Lib.Sorting Lib.Budget FeeAwareReturn AllocationRequest AllocationAssessment
open AllocationSelection AllocationComparison AllocationLimits AllocationDecisions

section Reasons

/-- A reason that the selection gives. -/
def isAggregate : FeeAwareCandidateReason → Bool
  | .aggregateCapacityExceeded | .aggregateCrossChainPrincipalExceeded
  | .aggregateProviderPrincipalExceeded => true
  | _ => false

/-- An assessment before the selection: its reasons are its own, and it has some or a return. -/
structure Settled (a : InternalAssessment) : Prop where
  own : ∀ reason ∈ a.reasons, isAggregate reason = false
  returned : a.reasons = [] → a.calculation.isSome = true

theorem parseCosts_issue (v : JsValue.Value) (h : (parseCosts v).1 = none) :
    (parseCosts v).2.isSome = true := by
  rw [parseCosts] at h ⊢
  split
  · rfl
  · split
    · rfl
    · split
      · rfl
      · simp_all

/-- A quote without costs names an issue with them. -/
def NamesIssue (candidate : ParsedCandidate) : Prop :=
  ∀ quote, candidate.costQuote = some quote → quote.costsUsdMantissa = none →
    quote.costIssue.isSome = true

theorem parseCostQuote_issue {v : JsValue.Value} {quote : ParsedCostQuote}
    (h : parseCostQuote v = some quote) (hc : quote.costsUsdMantissa = none) :
    quote.costIssue.isSome = true := by
  obtain ⟨record, _, h⟩ := Option.bind_eq_some_iff.mp h
  obtain ⟨_, _, h⟩ := Option.bind_eq_some_iff.mp h
  obtain ⟨_, _, h⟩ := Option.bind_eq_some_iff.mp h
  obtain ⟨_, _, h⟩ := Option.bind_eq_some_iff.mp h
  obtain ⟨_, _, h⟩ := Option.bind_eq_some_iff.mp h
  obtain ⟨_, _, h⟩ := Option.bind_eq_some_iff.mp h
  obtain ⟨_, _, h⟩ := Option.bind_eq_some_iff.mp h
  obtain ⟨_, _, h⟩ := Option.bind_eq_some_iff.mp h
  obtain ⟨_, _, h⟩ := Option.bind_eq_some_iff.mp h
  obtain ⟨_, _, h⟩ := Option.bind_eq_some_iff.mp h
  obtain ⟨_, _, h⟩ := Option.bind_eq_some_iff.mp h
  obtain ⟨_, _, h⟩ := Option.bind_eq_some_iff.mp h
  obtain ⟨_, _, h⟩ := Option.bind_eq_some_iff.mp h
  obtain ⟨_, _, h⟩ := Option.bind_eq_some_iff.mp h
  obtain ⟨_, _, h⟩ := Option.bind_eq_some_iff.mp h
  obtain ⟨_, _, h⟩ := Option.bind_eq_some_iff.mp h
  obtain ⟨_, _, h⟩ := Option.bind_eq_some_iff.mp h
  cases h
  exact parseCosts_issue _ hc

theorem namesIssue_of_parse {input : JsValue.Value} {request : ParsedRequest}
    (h : parseRequest input = some request) : ∀ c ∈ request.candidates, NamesIssue c := by
  obtain ⟨record, _, h⟩ := Option.bind_eq_some_iff.mp h
  obtain ⟨_, _, h⟩ := Option.bind_eq_some_iff.mp h
  obtain ⟨_, _, h⟩ := Option.bind_eq_some_iff.mp h
  obtain ⟨_, _, h⟩ := Option.bind_eq_some_iff.mp h
  obtain ⟨_, _, h⟩ := Option.bind_eq_some_iff.mp h
  obtain ⟨_, _, h⟩ := Option.bind_eq_some_iff.mp h
  obtain ⟨_, _, h⟩ := Option.bind_eq_some_iff.mp h
  obtain ⟨_, _, h⟩ := Option.bind_eq_some_iff.mp h
  obtain ⟨_, _, h⟩ := Option.bind_eq_some_iff.mp h
  obtain ⟨candidates, hcandidates, h⟩ := Option.bind_eq_some_iff.mp h
  obtain ⟨_, _, h⟩ := Option.bind_eq_some_iff.mp h
  obtain ⟨_, _, h⟩ := Option.bind_eq_some_iff.mp h
  split at h
  case isFalse => cases h
  case isTrue =>
    cases h
    intro c hc quote hquote hcosts
    obtain ⟨items, _, hitems, rfl⟩ := Option.pmap_eq_some_iff.mp hcandidates
    obtain ⟨values, _, hvalues⟩ := Option.bind_eq_some_iff.mp hitems
    obtain ⟨v, _, hv⟩ := ListOption.mem_of_mapM hvalues hc
    obtain ⟨fields, _, hv⟩ := Option.bind_eq_some_iff.mp hv
    obtain ⟨_, _, hv⟩ := Option.bind_eq_some_iff.mp hv
    obtain ⟨_, _, hv⟩ := Option.bind_eq_some_iff.mp hv
    obtain ⟨_, _, hv⟩ := Option.bind_eq_some_iff.mp hv
    cases hv
    exact parseCostQuote_issue hquote hcosts

theorem not_aggregate_reasonWhen {condition : Bool} {reason : FeeAwareCandidateReason}
    (h : isAggregate reason = false) :
    ∀ r ∈ reasonWhen condition reason, isAggregate r = false := by
  intro r hr
  cases condition with
  | false => cases hr
  | true => exact List.mem_singleton.mp hr ▸ h

variable {request : ParsedRequest} {candidate : ParsedCandidate}
  {position : FeeAwareCapitalPosition} {opportunity : ParsedOpportunity}

theorem forall_append {α : Type} {p : α → Prop} {l m : List α} (hl : ∀ a ∈ l, p a)
    (hm : ∀ a ∈ m, p a) : ∀ a ∈ l ++ m, p a := List.forall_mem_append.mpr ⟨hl, hm⟩

theorem not_aggregate_assessRisk :
    ∀ r ∈ assessRisk request opportunity, isAggregate r = false := by
  rw [assessRisk]
  split
  · exact List.forall_mem_singleton.mpr rfl
  · exact forall_append (forall_append (not_aggregate_reasonWhen rfl) (not_aggregate_reasonWhen rfl))
      (not_aggregate_reasonWhen rfl)

theorem not_aggregate_assessOpportunity :
    ∀ r ∈ assessOpportunity request opportunity, isAggregate r = false := by
  refine forall_append ?_ not_aggregate_assessRisk
  refine forall_append ?_ (not_aggregate_reasonWhen rfl)
  refine forall_append ?_ (not_aggregate_reasonWhen rfl)
  refine forall_append ?_ (not_aggregate_reasonWhen rfl)
  exact forall_append (not_aggregate_reasonWhen rfl) (not_aggregate_reasonWhen rfl)

theorem not_aggregate_assessRouteKind {kind : RouteKind} {quote : ParsedCostQuote} :
    ∀ r ∈ assessRouteKind request kind quote, isAggregate r = false := by
  cases kind with
  | sameChain => exact forall_append (not_aggregate_reasonWhen rfl) (not_aggregate_reasonWhen rfl)
  | crossChain =>
    refine forall_append ?_ ?_
    · rw [assessOptIn]
      split
      · exact List.forall_mem_singleton.mpr rfl
      · exact forall_append (not_aggregate_reasonWhen rfl) (not_aggregate_reasonWhen rfl)
    · rw [assessBridge]
      split
      · exact List.forall_mem_singleton.mpr rfl
      · exact not_aggregate_reasonWhen rfl

/-- The reasons of a candidate for its quote and its opportunity. -/
def quoteChecks (request : ParsedRequest) (quote : ParsedCostQuote)
    (position : FeeAwareCapitalPosition) (opportunity : ParsedOpportunity) :
    List FeeAwareCandidateReason :=
  (quote.costIssue.map ofCostIssue).toList ++
    assessQuoteFreshness request quote ++
    reasonWhen (!positionBindingMatches quote position)
      (.costQuotePositionMismatch : FeeAwareCandidateReason) ++
    reasonWhen (!opportunityBindingMatches quote opportunity)
      (.costQuoteOpportunityMismatch : FeeAwareCandidateReason) ++
    reasonWhen (networkBindingMismatch quote position opportunity)
      (.routeNetworkMismatch : FeeAwareCandidateReason) ++
    reasonWhen (assetBindingMismatch quote position opportunity)
      (.routeAssetMismatch : FeeAwareCandidateReason) ++
    reasonWhen (sourceAmountMismatch quote position)
      (.sourceAmountMismatch : FeeAwareCandidateReason) ++
    assessOpportunity request opportunity ++
    reasonWhen (decide (position.amountUsdMantissa > opportunity.availableCapacityUsdMantissa))
      (.insufficientOpportunityCapacity : FeeAwareCandidateReason) ++
    assessRouteKind request (routeKindOf position opportunity) quote

theorem not_aggregate_quoteChecks {quote : ParsedCostQuote} :
    ∀ r ∈ quoteChecks request quote position opportunity, isAggregate r = false := by
  have hissue : ∀ r ∈ (quote.costIssue.map ofCostIssue).toList, isAggregate r = false := by
    cases quote.costIssue with
    | none => exact fun r hr => (by cases hr)
    | some issue => cases issue <;> exact List.forall_mem_singleton.mpr rfl
  have hfresh : ∀ r ∈ assessQuoteFreshness request quote, isAggregate r = false :=
    forall_append (forall_append (not_aggregate_reasonWhen rfl) (not_aggregate_reasonWhen rfl))
      (not_aggregate_reasonWhen rfl)
  refine forall_append ?_ not_aggregate_assessRouteKind
  refine forall_append ?_ (not_aggregate_reasonWhen rfl)
  refine forall_append ?_ not_aggregate_assessOpportunity
  refine forall_append ?_ (not_aggregate_reasonWhen rfl)
  refine forall_append ?_ (not_aggregate_reasonWhen rfl)
  refine forall_append ?_ (not_aggregate_reasonWhen rfl)
  refine forall_append ?_ (not_aggregate_reasonWhen rfl)
  refine forall_append ?_ (not_aggregate_reasonWhen rfl)
  exact forall_append hissue hfresh

theorem calculateFeeAwareReturn_none {input : FeeAwareReturnInput}
    (h : (calculateFeeAwareReturn input).1 = none) :
    (calculateFeeAwareReturn input).2 = [.numericLimitExceeded] := by
  simp only [calculateFeeAwareReturn] at h ⊢
  split_ifs at h ⊢ <;> rfl

theorem assessQuote_settled {quote : ParsedCostQuote}
    (hissue : quote.costsUsdMantissa = none → quote.costIssue.isSome = true) :
    (∀ r ∈ (assessQuote request quote position opportunity).2, isAggregate r = false) ∧
      ((assessQuote request quote position opportunity).2 = [] →
        (assessQuote request quote position opportunity).1.isSome = true) := by
  have hchecks := @not_aggregate_quoteChecks request position opportunity quote
  cases hcosts : quote.costsUsdMantissa with
  | none =>
    have heq : assessQuote request quote position opportunity =
        (none, quoteChecks request quote position opportunity) := by
      rw [assessQuote, hcosts]
      rfl
    rw [heq]
    refine ⟨hchecks, fun hnil => ?_⟩
    obtain ⟨issue, hsome⟩ := Option.isSome_iff_exists.mp (hissue hcosts)
    simp [quoteChecks, hsome] at hnil
  | some costs =>
    by_cases hbound : (!positionBindingMatches quote position ||
        !opportunityBindingMatches quote opportunity ||
        networkBindingMismatch quote position opportunity ||
        assetBindingMismatch quote position opportunity ||
        sourceAmountMismatch quote position) = true
    · have heq : assessQuote request quote position opportunity =
          (none, quoteChecks request quote position opportunity) := by
        rw [assessQuote, hcosts]
        exact if_pos hbound
      rw [heq]
      refine ⟨hchecks, fun hnil => ?_⟩
      simp only [quoteChecks, List.append_eq_nil_iff, reasonWhen_eq_nil] at hnil
      obtain ⟨⟨⟨⟨⟨⟨⟨_, hposition⟩, hopportunity⟩, hnetwork⟩, hasset⟩, hamount⟩, _⟩, _⟩ := hnil.1
      rw [hposition, hopportunity, hnetwork, hasset, hamount] at hbound
      cases hbound
    · have heq : assessQuote request quote position opportunity =
          ((calculateCandidate request position opportunity costs).1,
            quoteChecks request quote position opportunity ++
              (calculateCandidate request position opportunity costs).2) := by
        rw [assessQuote, hcosts]
        exact if_neg hbound
      rw [heq]
      constructor
      · refine forall_append hchecks fun r hr => ?_
        obtain ⟨reason, _, rfl⟩ := List.mem_map.mp hr
        cases reason <;> rfl
      · intro hnil
        have hreturn := (List.append_eq_nil_iff.mp hnil).2
        cases hcalc : (calculateCandidate request position opportunity costs).1 with
        | some calculation => rfl
        | none =>
          rw [calculateCandidate, calculateFeeAwareReturn_none hcalc] at hreturn
          cases hreturn

theorem assessCandidate_settled (h : NamesIssue candidate) :
    Settled (assessCandidate request candidate position opportunity) := by
  cases hquote : candidate.costQuote with
  | none =>
    have hreasons : (assessCandidate request candidate position opportunity).reasons =
        [.invalidCostQuote] := by rw [assessCandidate, hquote]
    refine ⟨?_, fun hnil => ?_⟩
    · rw [hreasons]
      exact List.forall_mem_singleton.mpr rfl
    · rw [hreasons] at hnil
      cases hnil
  | some quote =>
    have hsettled := @assessQuote_settled request position opportunity quote (h quote hquote)
    constructor
    · rw [assessCandidate, hquote]
      exact hsettled.1
    · rw [assessCandidate, hquote]
      exact hsettled.2

theorem compareWithBaseline_settled (policy : ParsedCrossChainPolicy) (id : String)
    (base : Option Int) {a : InternalAssessment} (h : Settled a) :
    Settled (compareWithBaseline policy id base a) := by
  unfold compareWithBaseline
  split
  · split
    · exact h
    · refine ⟨forall_append h.own (List.forall_mem_singleton.mpr rfl), fun hnil => ?_⟩
      simp at hnil
    · refine ⟨?_, fun _ => rfl⟩
      exact forall_append (forall_append h.own (not_aggregate_reasonWhen rfl))
        (not_aggregate_reasonWhen rfl)
  · exact h

/-- Before the selection every assessment is settled. -/
theorem compared_settled {l : List InternalAssessment} (h : Assessed request l)
    (hissues : ∀ c ∈ request.candidates, NamesIssue c) :
    ∀ a ∈ l.map (compared request.crossChainPolicy l), Settled a := by
  intro a ha
  obtain ⟨b, hb, rfl⟩ := List.mem_map.mp ha
  have hcandidate : b.candidate ∈ request.candidates := by
    rw [← h.candidates]
    exact List.mem_map_of_mem hb
  refine compareWithBaseline_settled _ _ _ ?_
  rw [(h.origin b hb).2.2.2.2]
  exact assessCandidate_settled (hissues _ hcandidate)

end Reasons

section Rejection

variable {opportunities : List ParsedOpportunity}
  {exposurePolicy : FeeAwareAllocationExposurePolicy} {l : List InternalAssessment}
  {s : SelectionState} {chosen : List InternalAssessment}

/-- A marking that keeps the reasons which an assessment has, and gives some to the listed ones. -/
structure Rejects (ids : List String) (f : InternalAssessment → InternalAssessment) : Prop where
  same : ∀ a, SameCandidate a (f a)
  kept : ∀ a, a.reasons <+: (f a).reasons
  rejected : ∀ a, a.id ∈ ids → (f a).reasons ≠ []

theorem rejects_id : Rejects [] fun a => a :=
  ⟨.refl, fun _ => List.prefix_rfl, fun _ ha => (by cases ha)⟩

theorem Rejects.comp {ids later : List String} {f g : InternalAssessment → InternalAssessment}
    (hf : Rejects ids f) (hg : Rejects later g) : Rejects (ids ++ later) (g ∘ f) where
  same := fun a => (hf.same a).trans (hg.same (f a))
  kept := fun a => (hf.kept a).trans (hg.kept (f a))
  rejected := by
    intro a ha
    obtain ha | ha := List.mem_append.mp ha
    · intro hnil
      have hprefix := hg.kept (f a)
      rw [show (g (f a)).reasons = [] from hnil, List.prefix_nil] at hprefix
      exact hf.rejected a ha hprefix
    · exact hg.rejected (f a) (by rwa [(hf.same a).id])

theorem reject_rejects (a : InternalAssessment) (reason : FeeAwareCandidateReason) :
    ∃ f, (s.reject a reason).assessments = s.assessments.map f ∧ Rejects [a.id] f := by
  refine ⟨_, rfl, ?_, ?_, ?_⟩
  · intro b
    split <;> exact ⟨rfl, rfl, rfl, rfl⟩
  · intro b
    split
    · exact List.prefix_append _ _
    · exact List.prefix_rfl
  · intro b hb
    rw [if_pos (List.mem_singleton.mp hb)]
    exact List.append_ne_nil_of_right_ne_nil _ (List.cons_ne_nil _ _)

theorem select_rejects (a : InternalAssessment) (capacity providerCapacity : Int) :
    ∃ f, (s.select a capacity providerCapacity).assessments = s.assessments.map f ∧
      Rejects [] f := by
  refine ⟨_, rfl, ?_, ?_, fun _ hb => (by cases hb)⟩
  · intro b
    split <;> exact ⟨rfl, rfl, rfl, rfl⟩
  · intro b
    split <;> exact List.prefix_rfl

/-- One group's turn, in which the members that do not fit are rejected. -/
theorem selectFrom_rejects (h : Represents opportunities exposurePolicy l s chosen)
    (options : List InternalAssessment) :
    ∃ f ids, (selectFrom exposurePolicy s options).assessments = s.assessments.map f ∧
      Rejects ids f ∧
      ((∀ a ∈ options, ¬(exposures opportunities exposurePolicy).Fits chosen a) →
        ids = options.map (·.id)) := by
  induction options generalizing s with
  | nil => exact ⟨fun a => a, [], (List.map_id' _).symm, rejects_id, fun _ => rfl⟩
  | cons a rest ih =>
    have hf := fits_iff h a
    have hnext : ∀ reason, (¬(exposures opportunities exposurePolicy).Fits chosen a) →
        selectFrom exposurePolicy s (a :: rest) =
          selectFrom exposurePolicy (s.reject a reason) rest →
        ∃ f ids, (selectFrom exposurePolicy s (a :: rest)).assessments = s.assessments.map f ∧
          Rejects ids f ∧
          ((∀ b ∈ a :: rest, ¬(exposures opportunities exposurePolicy).Fits chosen b) →
            ids = (a :: rest).map (·.id)) := by
      intro reason _ hstep
      obtain ⟨f, hfirst, hrejects⟩ := reject_rejects (s := s) a reason
      obtain ⟨g, ids, hrest, hrejects', hids⟩ := ih (reject_represents h a reason)
      refine ⟨g ∘ f, [a.id] ++ ids, ?_, hrejects.comp hrejects', fun hall => ?_⟩
      · rw [hstep, hrest, hfirst, List.map_map]
      · rw [hids fun b hb => hall b (List.mem_cons_of_mem a hb)]
        rfl
    by_cases h1 : (s.remainingCapacity.get a.opportunity.opportunityId).getD 0 <
        (a.position.amountUsdMantissa : Int)
    · exact hnext .aggregateCapacityExceeded (mt hf.mp fun hc => hc.1 h1)
        (by simp only [selectFrom, h1, if_true])
    by_cases h2 : a.routeKind = .crossChain ∧
        s.remainingCrossChainPrincipal < a.position.amountUsdMantissa
    · exact hnext .aggregateCrossChainPrincipalExceeded (mt hf.mp fun hc => hc.2.1 h2)
        (by simp only [selectFrom, h1, h2, if_true, if_false, and_self])
    by_cases h3 : (s.remainingProviderPrincipal.get a.opportunity.providerId).getD
        exposurePolicy.maximumProviderPrincipalUsdMantissa < (a.position.amountUsdMantissa : Int)
    · exact hnext .aggregateProviderPrincipalExceeded (mt hf.mp fun hc => hc.2.2 h3)
        (by simp only [selectFrom, h1, h2, h3, if_true, if_false])
    · obtain ⟨f, hselect, hrejects⟩ := select_rejects (s := s) a
        ((s.remainingCapacity.get a.opportunity.opportunityId).getD 0)
        ((s.remainingProviderPrincipal.get a.opportunity.providerId).getD
          exposurePolicy.maximumProviderPrincipalUsdMantissa)
      refine ⟨f, [], ?_, hrejects, fun hall => ?_⟩
      · rw [← hselect]
        simp only [selectFrom, h1, h2, h3, if_false]
      · exact absurd (hf.mpr ⟨h1, h2, h3⟩) (hall a List.mem_cons_self)

theorem foldl_rejects (h : Represents opportunities exposurePolicy l s chosen)
    (groups : List (List InternalAssessment)) :
    ∃ f ids, (groups.foldl (fun s group => selectFrom exposurePolicy s (ranked group))
      s).assessments = s.assessments.map f ∧ Rejects ids f := by
  induction groups generalizing s chosen with
  | nil => exact ⟨fun a => a, [], (List.map_id' _).symm, rejects_id⟩
  | cons g rest ih =>
    obtain ⟨f, ids, hfirst, hrejects, _⟩ := selectFrom_rejects h (ranked g)
    obtain ⟨f', ids', hrest, hrejects'⟩ := ih (selectFrom_represents h (ranked g))
    refine ⟨f' ∘ f, ids ++ ids', ?_, hrejects.comp hrejects'⟩
    rw [List.foldl_cons, hrest, hfirst, List.map_map]

theorem exposures_amount_nonneg (a : InternalAssessment) :
    0 ≤ (exposures opportunities exposurePolicy).amount a := Int.natCast_nonneg _

/-- An eligible assessment of a position that gets nothing is rejected, and does not fit what is
left. -/
theorem selectCandidatesWithinLimits_exhausts {a : InternalAssessment} (ha : a ∈ l)
    (heligible : isEligibleInternal a = true)
    (hn : ∀ c ∈ (exposures opportunities exposurePolicy).allocate ((orderedGroups l).map ranked),
      c.position.positionId ≠ a.position.positionId) :
    (∃ f ids, selectCandidatesWithinLimits l opportunities exposurePolicy = l.map f ∧
      Rejects ids f ∧ a.id ∈ ids) ∧
      ¬(exposures opportunities exposurePolicy).Fits
        ((exposures opportunities exposurePolicy).allocate ((orderedGroups l).map ranked)) a := by
  have hkey : a.position.positionId ∈ (positionGroups l).keys :=
    (JsMap.mem_keys_groupInto _ l _).mpr (List.mem_map_of_mem ha)
  obtain ⟨g, hg, hsame⟩ : ∃ g ∈ orderedGroups l, a ∈ g ∧
      ∀ b ∈ g, b.position.positionId = a.position.positionId := by
    refine ⟨l.filter fun b => b.position.positionId = a.position.positionId, ?_, ?_, ?_⟩
    · refine mem_sortBy.mpr ?_
      rw [positionGroups, JsMap.values_groupInto]
      exact List.mem_map_of_mem hkey
    · exact List.mem_filter.mpr ⟨ha, decide_eq_true rfl⟩
    · exact fun b hb => of_decide_eq_true (List.mem_filter.mp hb).2
  have hranked : a ∈ ranked g := by
    rw [ranked, mem_sortBy, List.mem_filter]
    exact ⟨hsame.1, heligible⟩
  obtain ⟨before, after, hsplit⟩ := List.append_of_mem hg
  have hgroups : (orderedGroups l).map ranked =
      before.map ranked ++ ranked g :: after.map ranked := by
    rw [hsplit, List.map_append, List.map_cons]
  rw [hgroups] at hn ⊢
  have hrefused := not_fits_of_unserved exposures_amount_nonneg (before.map ranked)
    (after.map ranked) fun b hb hmem => hn b hmem (hsame.2 b (ranked_mem hb).1)
  refine ⟨?_, (hrefused a hranked).2⟩
  -- Before the group's turn, in it and after it.
  have hstart : Represents opportunities exposurePolicy l
      (initialState l opportunities exposurePolicy) [] := initialState_represents
  have hbefore := foldl_represents hstart before
  obtain ⟨f₁, ids₁, hfirst, hrejects₁⟩ := foldl_rejects hstart before
  obtain ⟨f₂, ids₂, hturn, hrejects₂, hids⟩ := selectFrom_rejects hbefore (ranked g)
  obtain ⟨f₃, ids₃, hlast, hrejects₃⟩ :=
    foldl_rejects (selectFrom_represents hbefore (ranked g)) after
  refine ⟨f₃ ∘ f₂ ∘ f₁, _, ?_, (hrejects₁.comp hrejects₂).comp hrejects₃, ?_⟩
  · rw [selectCandidatesWithinLimits, hsplit, List.foldl_append, List.foldl_cons, hlast, hturn,
      hfirst, List.map_map, List.map_map]
    rfl
  · rw [hids fun b hb => (hrefused b hb).1]
    exact List.mem_append_left _ (List.mem_append_right _ (List.mem_map_of_mem hranked))

end Rejection

section Recommendation

variable {request : ParsedRequest} {r : FeeAwareAllocationRecommendation}

/-- What is left of the capacity of an opportunity. -/
def remainingCapacity (r : FeeAwareAllocationRecommendation) (o : ParsedOpportunity) : Int :=
  o.availableCapacityUsdMantissa -
    principalOf r (fun d => d.selectedOpportunityId == some o.opportunityId)

/-- What is left of the principal of a provider. -/
def remainingProviderPrincipal (request : ParsedRequest) (r : FeeAwareAllocationRecommendation)
    (providerId : String) : Int :=
  request.exposurePolicy.maximumProviderPrincipalUsdMantissa -
    principalOf r (fun d => d.selectedProviderId == some providerId)

/-- What is left of the principal that may cross chains. -/
def remainingCrossChainPrincipal (request : ParsedRequest) (r : FeeAwareAllocationRecommendation) :
    Int :=
  request.exposurePolicy.maximumCrossChainPrincipalUsdMantissa -
    principalOf r (fun d => d.selectedRouteKind == some .crossChain)

/-- The principal of a position is above one of the budgets that a candidate needs. -/
def DoesNotFit (request : ParsedRequest) (r : FeeAwareAllocationRecommendation)
    (d : FeeAwarePositionDecision) (a : FeeAwareCandidateAssessment) : Prop :=
  ∃ o ∈ request.opportunities, o.opportunityId = a.opportunityId ∧
    (remainingCapacity r o < d.principalUsdMantissa ∨
      remainingProviderPrincipal request r o.providerId < d.principalUsdMantissa ∨
      a.routeKind = .crossChain ∧ remainingCrossChainPrincipal request r < d.principalUsdMantissa)

/-- The principal decided for a kind of selection is what the served assessments use. -/
theorem principalOf_eq_used {m final : List InternalAssessment}
    {f : InternalAssessment → InternalAssessment}
    (hsel : Selects request.opportunities request.exposurePolicy m final
      (served m request.opportunities request.exposurePolicy) f)
    (hall : Allocated request final)
    (hp : (final.filter (·.selected)).Perm
      ((served m request.opportunities request.exposurePolicy).map f))
    (hrec : Recommends request final r) (i : Exposure) (q : InternalAssessment → Bool)
    (hq : ∀ a, q (f a) = true ↔
      (exposures request.opportunities request.exposurePolicy).charges a i)
    (named : FeeAwarePositionDecision → Bool)
    (hnamed : ∀ p, named (positionDecision p final) = (selectedOf p final).any q) :
    (principalOf r named : Int) =
      (exposures request.opportunities request.exposurePolicy).used i
        (served m request.opportunities request.exposurePolicy) := by
  rw [principalOf, hall.sum_decisions q hrec.decisions named hnamed,
    ((hp.filter q).map _).sum_eq, List.filter_map, List.map_map, Nat.cast_list_sum,
    List.map_map, used_eq_sum (q := q ∘ f) hq]
  congr 1
  refine List.map_congr_left fun a _ => ?_
  simp [exposures, (hsel.marks.same a).position]

/-- What does not fit what is left of the budgets is above one of them. -/
theorem doesNotFit_of_not_fits {m final : List InternalAssessment}
    {f : InternalAssessment → InternalAssessment}
    (hsel : Selects request.opportunities request.exposurePolicy m final
      (served m request.opportunities request.exposurePolicy) f)
    (hall : Allocated request final)
    (hp : (final.filter (·.selected)).Perm
      ((served m request.opportunities request.exposurePolicy).map f))
    (hrec : Recommends request final r) {a b : InternalAssessment} (hb : b ∈ final)
    (hsame : SameCandidate a b)
    (hfits : ¬(exposures request.opportunities request.exposurePolicy).Fits
      (served m request.opportunities request.exposurePolicy) a) :
    DoesNotFit request r (positionDecision b.position final) (publicAssessment b) := by
  have ho := hall.opportunities b hb
  have hamount : (a.position.amountUsdMantissa : Int) = b.position.amountUsdMantissa := by
    rw [hsame.position]
  simp only [Budgets.Fits, not_forall, not_le] at hfits
  obtain ⟨i, hcharges, hlimit⟩ := hfits
  refine ⟨b.opportunity, ho, rfl, ?_⟩
  cases i with
  | opportunity id =>
    refine .inl ?_
    have hused := principalOf_eq_used hsel hall hp hrec (.opportunity b.opportunity.opportunityId)
      (fun c => c.opportunity.opportunityId == b.opportunity.opportunityId)
      (fun c => by simp [exposures, (hsel.marks.same c).opportunity])
      (fun d => d.selectedOpportunityId == some b.opportunity.opportunityId)
      (fun p => by cases h : selectedOf p final <;> simp [positionDecision, h])
    obtain rfl : b.opportunity.opportunityId = id := hsame.opportunity ▸ hcharges
    rw [exposures_limit_opportunity ho, ← hused] at hlimit
    simp only [exposures] at hlimit
    simp only [remainingCapacity, positionDecision]
    omega
  | provider id =>
    refine .inr (.inl ?_)
    have hused := principalOf_eq_used hsel hall hp hrec (.provider b.opportunity.providerId)
      (fun c => c.opportunity.providerId == b.opportunity.providerId)
      (fun c => by simp [exposures, (hsel.marks.same c).opportunity])
      (fun d => d.selectedProviderId == some b.opportunity.providerId)
      (fun p => by cases h : selectedOf p final <;> simp [positionDecision, h])
    obtain rfl : b.opportunity.providerId = id := hsame.opportunity ▸ hcharges
    rw [← hused] at hlimit
    simp only [exposures] at hlimit
    simp only [remainingProviderPrincipal, positionDecision]
    omega
  | crossChain =>
    refine .inr (.inr ⟨hsame.routeKind.trans hcharges, ?_⟩)
    have hused := principalOf_eq_used hsel hall hp hrec .crossChain
      (fun c => c.routeKind == .crossChain)
      (fun c => by simp [exposures, (hsel.marks.same c).routeKind])
      (fun d => d.selectedRouteKind == some .crossChain)
      (fun p => by cases h : selectedOf p final <;> simp [positionDecision, h])
    rw [← hused] at hlimit
    simp only [exposures] at hlimit
    simp only [remainingCrossChainPrincipal, positionDecision]
    omega

/-- An assessment of a position that gets nothing, with what it was before the selection. -/
theorem unserved_rejected {m : List InternalAssessment}
    (hsettled : ∀ a ∈ m, Settled a) {b : InternalAssessment}
    (hb : b ∈ selectCandidatesWithinLimits m request.opportunities request.exposurePolicy)
    (hn : ∀ c ∈ served m request.opportunities request.exposurePolicy,
      c.position.positionId ≠ b.position.positionId) :
    ∃ a ∈ m, SameCandidate a b ∧ b.reasons ≠ [] ∧
      ((∀ reason ∈ b.reasons, isAggregate reason = true) →
        ¬(exposures request.opportunities request.exposurePolicy).Fits
          (served m request.opportunities request.exposurePolicy) a) := by
  have hinitial : Represents request.opportunities request.exposurePolicy m
      (initialState m request.opportunities request.exposurePolicy) [] := initialState_represents
  obtain ⟨g, ids, hfinal, hrejects⟩ := foldl_rejects hinitial (orderedGroups m)
  have hfinal : selectCandidatesWithinLimits m request.opportunities request.exposurePolicy =
      m.map g := hfinal
  rw [hfinal] at hb
  obtain ⟨a, ha, rfl⟩ := List.mem_map.mp hb
  refine ⟨a, ha, hrejects.same a, ?_⟩
  by_cases hnil : a.reasons = []
  · have heligible : isEligibleInternal a = true := by
      rw [isEligibleInternal, hnil, (hsettled a ha).returned hnil]
      rfl
    rw [(hrejects.same a).position] at hn
    obtain ⟨⟨f, ids', hfinal', hrejects', hid⟩, hfits⟩ :=
      selectCandidatesWithinLimits_exhausts ha heligible hn
    have hsame : g a = f a := List.map_inj_left.mp (hfinal.symm.trans hfinal') a ha
    exact ⟨hsame ▸ hrejects'.rejected a hid, fun _ => hfits⟩
  · have hkept := hrejects.kept a
    refine ⟨fun h => hnil (List.prefix_nil.mp (h ▸ hkept)), fun hall => ?_⟩
    obtain ⟨reason, rest, hcons⟩ := List.exists_cons_of_ne_nil hnil
    have hmem : reason ∈ a.reasons := hcons ▸ List.mem_cons_self
    have hown := (hsettled a ha).own reason hmem
    rw [hall reason (hkept.subset hmem)] at hown
    cases hown

/-- Every position that gets nothing has only rejected candidates, and one that only the budgets
rejected fits none of what is left of them. -/
theorem recommendFeeAwareAllocation_exhausts {input : JsValue.Value}
    (hr : parseRequest input = some request)
    (hs : (recommendFeeAwareAllocation input).status ≠ .invalidInput) :
    ∀ d ∈ (recommendFeeAwareAllocation input).decisions, d.selectedCandidateId = none →
      (∀ c ∈ request.candidates, c.positionId = d.positionId →
        ∃ a ∈ d.assessments, a.candidateId = c.candidateId) ∧
      ∀ a ∈ d.assessments, a.reasons ≠ [] ∧
        ((∀ reason ∈ a.reasons, isAggregate reason = true) →
          DoesNotFit request (recommendFeeAwareAllocation input) d a) := by
  obtain ⟨l, m, final, f, hl, rfl, hfinal, hsel, hall, hp, hrec⟩ :=
    recommendFeeAwareAllocation_served hr hs
  generalize recommendFeeAwareAllocation input = r at hrec
  intro d hd hunserved
  obtain ⟨p, hpm, rfl⟩ := List.mem_map.mp (hrec.decisions.mem_iff.mp hd)
  have hnone : selectedOf p final = none := by
    cases h : selectedOf p final with
    | none => rfl
    | some a => simp [positionDecision, h] at hunserved
  have hmatching : ∀ {b}, b ∈ matching p final ↔
      b ∈ final ∧ b.position.positionId = p.positionId := by
    intro b
    rw [matching, mem_sortBy, List.mem_filter, beq_iff_eq]
  have hn : ∀ c ∈ served (l.map (compared request.crossChainPolicy l)) request.opportunities
      request.exposurePolicy, c.position.positionId ≠ p.positionId := by
    intro c hc hposition
    have hselected := List.mem_filter.mp (hp.mem_iff.mpr (List.mem_map_of_mem hc))
    have hmem := hmatching.mpr ⟨hselected.1, (hsel.marks.same c).position ▸ hposition⟩
    exact List.find?_eq_none.mp hnone _ hmem hselected.2
  constructor
  · intro c hc hposition
    rw [← hl.candidates] at hc
    obtain ⟨a, ha, rfl⟩ := List.mem_map.mp hc
    have hfa : f (compared request.crossChainPolicy l a) ∈ final := by
      rw [hsel.final_eq]
      exact List.mem_map_of_mem (List.mem_map_of_mem ha)
    have hsame := (compared_same request.crossChainPolicy l a).trans (hsel.marks.same _)
    refine ⟨_, List.mem_map_of_mem (hmatching.mpr ⟨hfa, ?_⟩), hsame.id⟩
    rw [hsame.position, (hl.origin a ha).2.2.1]
    exact hposition
  · intro a ha
    obtain ⟨b, hmatched, rfl⟩ := List.mem_map.mp ha
    obtain ⟨hb, hposition⟩ := hmatching.mp hmatched
    obtain rfl : b.position = p :=
      List.inj_on_of_nodup_map request.positionIds_nodup (hall.positions b hb) hpm hposition
    have hsettled := compared_settled hl (namesIssue_of_parse hr)
    obtain ⟨a, _, hsame, hreasons, hfits⟩ := unserved_rejected hsettled (hfinal ▸ hb) hn
    exact ⟨hreasons, fun haggregate =>
      doesNotFit_of_not_fits hsel hall hp hrec hb hsame (hfits haggregate)⟩

/-- Two positions and one opportunity with room for one of them. -/
def scarceRequest : JsValue.Value :=
  requestWith samplePositions [sampleOpportunity "o1" "eip155:1" 500]
    [sampleCandidate "c1" "p1" "o1" "eip155:1" "eip155:1" .null,
      sampleCandidate "c3" "p2" "o1" "eip155:1" "eip155:1" .null]

theorem scarceRequest_leaves :
    (recommendFeeAwareAllocation scarceRequest).status = .partialRecommendation ∧
    (recommendFeeAwareAllocation scarceRequest).decisions.map (fun d =>
      (d.selectedCandidateId, d.assessments.map (·.reasons))) =
      [(some "c1", [[]]), (none, [[.aggregateCapacityExceeded]])] := by
  decide

theorem scarceRequest_exhausts : ∃ request, parseRequest scarceRequest = some request ∧
    (∃ d ∈ (recommendFeeAwareAllocation scarceRequest).decisions,
      d.selectedCandidateId = none) ∧
    ∀ d ∈ (recommendFeeAwareAllocation scarceRequest).decisions, d.selectedCandidateId = none →
      (∀ c ∈ request.candidates, c.positionId = d.positionId →
        ∃ a ∈ d.assessments, a.candidateId = c.candidateId) ∧
      ∀ a ∈ d.assessments, a.reasons ≠ [] ∧
        ((∀ reason ∈ a.reasons, isAggregate reason = true) →
          DoesNotFit request (recommendFeeAwareAllocation scarceRequest) d a) := by
  obtain ⟨hstatus, hdecisions⟩ := scarceRequest_leaves
  have haccepted : (recommendFeeAwareAllocation scarceRequest).status ≠ .invalidInput := by
    rw [hstatus]
    decide
  obtain ⟨request, hrequest⟩ : ∃ request, parseRequest scarceRequest = some request := by
    cases hp : parseRequest scarceRequest with
    | some request => exact ⟨request, rfl⟩
    | none =>
      rw [recommendFeeAwareAllocation, hp] at hstatus
      cases hstatus
  have hmem : (none, [[FeeAwareCandidateReason.aggregateCapacityExceeded]]) ∈
      (recommendFeeAwareAllocation scarceRequest).decisions.map (fun d =>
        (d.selectedCandidateId, d.assessments.map (·.reasons))) := by
    rw [hdecisions]
    exact List.mem_cons_of_mem _ List.mem_cons_self
  obtain ⟨d, hd, hsame⟩ := List.mem_map.mp hmem
  exact ⟨request, hrequest, ⟨d, hd, congrArg Prod.fst hsame⟩,
    recommendFeeAwareAllocation_exhausts hrequest haccepted⟩

end Recommendation

end CryptoLending.SmartLending.AllocationExhaustion
