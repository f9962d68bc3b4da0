import CryptoLending.Lib.Budget
import CryptoLending.SmartLending.AllocationComparison

namespace CryptoLending.SmartLending.AllocationLimits

open Lib Lib.Sorting Lib.Budget FeeAwareReturn AllocationRequest AllocationAssessment
open AllocationSelection AllocationComparison

/-- What an allocation is limited by. -/
inductive Exposure where
  | opportunity (opportunityId : String)
  | provider (providerId : String)
  | crossChain

def capacities (opportunities : List ParsedOpportunity) : JsMap String Int :=
  JsMap.ofEntries (opportunities.map (fun o =>
    (o.opportunityId, (o.availableCapacityUsdMantissa : Int))))

/-- The purpose of the selection: one budget for every opportunity, every provider and
all crossings together. -/
def exposures (opportunities : List ParsedOpportunity)
    (exposurePolicy : FeeAwareAllocationExposurePolicy) : Budgets InternalAssessment Exposure where
  amount a := a.position.amountUsdMantissa
  charges a
    | .opportunity id => a.opportunity.opportunityId = id
    | .provider id => a.opportunity.providerId = id
    | .crossChain => a.routeKind = .crossChain
  limit
    | .opportunity id => ((capacities opportunities).get id).getD 0
    | .provider _ => exposurePolicy.maximumProviderPrincipalUsdMantissa
    | .crossChain => exposurePolicy.maximumCrossChainPrincipalUsdMantissa

/-- Marking changes the reasons of some assessments and selects the chosen ones. -/
structure Marks (chosen : List InternalAssessment)
    (f : InternalAssessment → InternalAssessment) : Prop where
  same : ∀ a, SameCandidate a (f a)
  calculation : ∀ a, (f a).calculation = a.calculation
  selected : ∀ a, (f a).selected = true ↔ a.selected = true ∨ a.id ∈ chosen.map (·.id)

section Simulation

variable (opportunities : List ParsedOpportunity)
  (exposurePolicy : FeeAwareAllocationExposurePolicy) (l : List InternalAssessment)

/-- The running budgets are what the chosen assessments leave of the limits. -/
structure Represents (s : SelectionState) (chosen : List InternalAssessment) : Prop where
  capacity : ∀ id, (s.remainingCapacity.get id).getD 0 =
    (exposures opportunities exposurePolicy).limit (.opportunity id) -
      (exposures opportunities exposurePolicy).used (.opportunity id) chosen
  provider : ∀ id, (s.remainingProviderPrincipal.get id).getD
      exposurePolicy.maximumProviderPrincipalUsdMantissa =
    exposurePolicy.maximumProviderPrincipalUsdMantissa -
      (exposures opportunities exposurePolicy).used (.provider id) chosen
  crossChain : s.remainingCrossChainPrincipal =
    exposurePolicy.maximumCrossChainPrincipalUsdMantissa -
      (exposures opportunities exposurePolicy).used .crossChain chosen
  marks : ∃ f, s.assessments = l.map f ∧ Marks chosen f

variable {opportunities exposurePolicy l} {s : SelectionState} {chosen : List InternalAssessment}

theorem initialState_represents :
    Represents opportunities exposurePolicy l (initialState l opportunities exposurePolicy) [] where
  capacity id := by simp [initialState, exposures, capacities]
  provider id := by simp [initialState]
  crossChain := by simp [initialState]
  marks := ⟨fun a => a, by simp [initialState], ⟨.refl, fun _ => rfl, by simp⟩⟩

theorem reject_represents (h : Represents opportunities exposurePolicy l s chosen)
    (a : InternalAssessment) (reason : FeeAwareCandidateReason) :
    Represents opportunities exposurePolicy l (s.reject a reason) chosen where
  capacity := h.capacity
  provider := h.provider
  crossChain := h.crossChain
  marks := by
    obtain ⟨f, hf, hm⟩ := h.marks
    refine ⟨_, by rw [SelectionState.reject, hf, update, List.map_map], ⟨?_, ?_, ?_⟩⟩ <;> intro b
    · refine (hm.same b).trans ?_
      simp only [Function.comp_apply]
      split <;> exact ⟨rfl, rfl, rfl, rfl⟩
    · simp only [Function.comp_apply]
      split <;> exact hm.calculation b
    · simp only [Function.comp_apply]
      split <;> exact hm.selected b

theorem select_represents (h : Represents opportunities exposurePolicy l s chosen)
    (a : InternalAssessment) :
    Represents opportunities exposurePolicy l
      (s.select a ((s.remainingCapacity.get a.opportunity.opportunityId).getD 0)
        ((s.remainingProviderPrincipal.get a.opportunity.providerId).getD
          exposurePolicy.maximumProviderPrincipalUsdMantissa)) (chosen ++ [a]) where
  capacity id := by
    have hc := h.capacity id
    simp only [SelectionState.select, JsMap.get_set, used_append_singleton]
    by_cases hid : id = a.opportunity.opportunityId
    · subst hid
      simp only [exposures, if_true, Option.getD_some] at hc ⊢
      omega
    · simp only [exposures, hid, Ne.symm hid, if_false, Int.add_zero] at hc ⊢
      exact hc
  provider id := by
    have hc := h.provider id
    simp only [SelectionState.select, JsMap.get_set, used_append_singleton]
    by_cases hid : id = a.opportunity.providerId
    · subst hid
      simp only [exposures, if_true, Option.getD_some] at hc ⊢
      omega
    · simp only [exposures, hid, Ne.symm hid, if_false, Int.add_zero] at hc ⊢
      exact hc
  crossChain := by
    have hc := h.crossChain
    simp only [SelectionState.select, used_append_singleton]
    by_cases hk : a.routeKind = .crossChain <;> simp only [exposures, hk, if_true, if_false] at hc ⊢
    · omega
    · simpa using hc
  marks := by
    obtain ⟨f, hf, hm⟩ := h.marks
    refine ⟨_, by rw [SelectionState.select, hf, update, List.map_map], ⟨?_, ?_, ?_⟩⟩ <;> intro b
    · refine (hm.same b).trans ?_
      simp only [Function.comp_apply]
      split <;> exact ⟨rfl, rfl, rfl, rfl⟩
    · simp only [Function.comp_apply]
      split <;> exact hm.calculation b
    · simp only [Function.comp_apply, (hm.same b).id, List.map_append, List.map_singleton,
        List.mem_append, List.mem_singleton, ← or_assoc, ← hm.selected b]
      by_cases hb : b.id = a.id <;> simp [hb]

theorem fits_iff (h : Represents opportunities exposurePolicy l s chosen)
    (a : InternalAssessment) :
    (exposures opportunities exposurePolicy).Fits chosen a ↔
      ¬((s.remainingCapacity.get a.opportunity.opportunityId).getD 0 <
        (a.position.amountUsdMantissa : Int)) ∧
      ¬(a.routeKind = .crossChain ∧
        s.remainingCrossChainPrincipal < a.position.amountUsdMantissa) ∧
      ¬((s.remainingProviderPrincipal.get a.opportunity.providerId).getD
        exposurePolicy.maximumProviderPrincipalUsdMantissa <
          (a.position.amountUsdMantissa : Int)) := by
  have hc := h.capacity a.opportunity.opportunityId
  have hp := h.provider a.opportunity.providerId
  have hx := h.crossChain
  constructor
  · intro hf
    have h1 := hf (.opportunity a.opportunity.opportunityId) rfl
    have h2 := hf (.provider a.opportunity.providerId) rfl
    simp only [exposures] at hc hp hx h1 h2
    refine ⟨by omega, ?_, by omega⟩
    rintro ⟨hk, hlt⟩
    have h3 := hf .crossChain hk
    simp only [exposures] at h3
    omega
  · rintro ⟨h1, h2, h3⟩ i hi
    cases i with
    | opportunity id =>
      cases hi
      simp only [exposures] at hc ⊢
      omega
    | provider id =>
      cases hi
      simp only [exposures] at hp ⊢
      omega
    | crossChain =>
      have h4 : ¬s.remainingCrossChainPrincipal < a.position.amountUsdMantissa :=
        fun hlt => h2 ⟨hi, hlt⟩
      simp only [exposures] at hx ⊢
      omega

/-- One group's turn of the loop takes the first member that fits. -/
theorem selectFrom_represents (h : Represents opportunities exposurePolicy l s chosen)
    (options : List InternalAssessment) :
    Represents opportunities exposurePolicy l (selectFrom exposurePolicy s options)
      ((exposures opportunities exposurePolicy).pick chosen options) := by
  induction options generalizing s with
  | nil => exact h
  | cons a rest ih =>
    have hf := fits_iff h a
    by_cases h1 : (s.remainingCapacity.get a.opportunity.opportunityId).getD 0 <
        (a.position.amountUsdMantissa : Int)
    · have hn := mt hf.mp (fun hc => hc.1 h1)
      simpa only [selectFrom, Budgets.pick, h1, hn, if_true, if_false] using
        ih (reject_represents h a _)
    by_cases h2 : a.routeKind = .crossChain ∧
        s.remainingCrossChainPrincipal < a.position.amountUsdMantissa
    · have hn := mt hf.mp (fun hc => hc.2.1 h2)
      simpa only [selectFrom, Budgets.pick, h1, h2, hn, if_true, if_false, and_self] using
        ih (reject_represents h a _)
    by_cases h3 : (s.remainingProviderPrincipal.get a.opportunity.providerId).getD
        exposurePolicy.maximumProviderPrincipalUsdMantissa < (a.position.amountUsdMantissa : Int)
    · have hn := mt hf.mp (fun hc => hc.2.2 h3)
      simpa only [selectFrom, Budgets.pick, h1, h2, h3, hn, if_true, if_false] using
        ih (reject_represents h a _)
    · have hy := hf.mpr ⟨h1, h2, h3⟩
      simpa only [selectFrom, Budgets.pick, h1, h2, h3, hy, if_true, if_false] using
        select_represents h a

theorem foldl_represents (h : Represents opportunities exposurePolicy l s chosen)
    (groups : List (List InternalAssessment)) :
    Represents opportunities exposurePolicy l
      (groups.foldl (fun s group => selectFrom exposurePolicy s (ranked group)) s)
      ((groups.map ranked).foldl (exposures opportunities exposurePolicy).pick chosen) := by
  induction groups generalizing s chosen with
  | nil => exact h
  | cons g rest ih => exact ih (selectFrom_represents h (ranked g))

end Simulation

theorem ranked_mem {group : List InternalAssessment} {a : InternalAssessment}
    (h : a ∈ ranked group) : a ∈ group ∧ isEligibleInternal a = true := by
  simpa [ranked] using h

theorem rankedGroups_pairwise (l : List InternalAssessment) :
    ((orderedGroups l).map ranked).Pairwise
      (fun g h => ∀ a ∈ g, ∀ b ∈ h, a.position.positionId ≠ b.position.positionId) := by
  have hp := JsMap.groupInto_pairwise (fun a : InternalAssessment => a.position.positionId) l
  have ho : (orderedGroups l).Pairwise
      (fun g h => ∀ a ∈ g, ∀ b ∈ h, a.position.positionId ≠ b.position.positionId) :=
    ((sortBy_perm compareGroups _).pairwise_iff
      (fun h a ha b hb => (h b hb a ha).symm)).mpr hp
  rw [List.pairwise_map]
  exact ho.imp fun h a ha b hb => h a (ranked_mem ha).1 b (ranked_mem hb).1

/-- What the selection does: it marks a choice of eligible assessments, at most one for
each position, that stays within every budget. -/
structure Selects (opportunities : List ParsedOpportunity)
    (exposurePolicy : FeeAwareAllocationExposurePolicy) (l final chosen : List InternalAssessment)
    (f : InternalAssessment → InternalAssessment) : Prop where
  final_eq : final = l.map f
  marks : Marks chosen f
  within : (exposures opportunities exposurePolicy).Within chosen
  positions : (chosen.map (·.position.positionId)).Nodup
  eligible : ∀ a ∈ chosen, a ∈ l ∧ isEligibleInternal a = true

theorem exposures_limit_nonneg {opportunities : List ParsedOpportunity}
    (ho : (opportunities.map (·.opportunityId)).Nodup)
    (exposurePolicy : FeeAwareAllocationExposurePolicy) (i : Exposure) :
    0 ≤ (exposures opportunities exposurePolicy).limit i := by
  cases i with
  | opportunity id =>
    cases h : (capacities opportunities).get id with
    | none => simp [exposures, h]
    | some c =>
      obtain ⟨o, _, _, rfl⟩ := JsMap.mem_of_get_ofEntries_map ho h
      simp [exposures, h]
  | provider id => simp [exposures]
  | crossChain => simp [exposures]

/-- What the groups are served, best first. -/
noncomputable def served (l : List InternalAssessment) (opportunities : List ParsedOpportunity)
    (exposurePolicy : FeeAwareAllocationExposurePolicy) : List InternalAssessment :=
  (exposures opportunities exposurePolicy).allocate ((orderedGroups l).map ranked)

theorem selectCandidatesWithinLimits_serves (l : List InternalAssessment)
    {opportunities : List ParsedOpportunity} (ho : (opportunities.map (·.opportunityId)).Nodup)
    (exposurePolicy : FeeAwareAllocationExposurePolicy) :
    ∃ f, Selects opportunities exposurePolicy l
      (selectCandidatesWithinLimits l opportunities exposurePolicy)
      (served l opportunities exposurePolicy) f := by
  have hi : Represents opportunities exposurePolicy l
      (initialState l opportunities exposurePolicy) [] := initialState_represents
  have hr := foldl_represents hi (orderedGroups l)
  obtain ⟨f, hf, hm⟩ := hr.marks
  refine ⟨f, hf, hm, allocate_within (exposures_limit_nonneg ho _) _,
    allocate_keys_nodup _ (rankedGroups_pairwise l), ?_⟩
  intro a ha
  obtain ⟨_, hg, hag⟩ := mem_allocate ha
  obtain ⟨g, hgo, rfl⟩ := List.mem_map.mp hg
  have hgv : g ∈ (positionGroups l).values := mem_sortBy.mp hgo
  exact ⟨JsMap.mem_of_mem_groupInto hgv (ranked_mem hag).1, (ranked_mem hag).2⟩

section Selected

variable {opportunities : List ParsedOpportunity}
  {exposurePolicy : FeeAwareAllocationExposurePolicy} {l final chosen : List InternalAssessment}
  {f : InternalAssessment → InternalAssessment}

theorem Selects.selected_perm (h : Selects opportunities exposurePolicy l final chosen f)
    (hids : (l.map (·.id)).Nodup) (hl : ∀ a ∈ l, a.selected = false) :
    (final.filter (·.selected)).Perm (chosen.map f) := by
  have hfilter : final.filter (·.selected) =
      (l.filter (fun a => decide (a.id ∈ chosen.map (·.id)))).map f := by
    rw [h.final_eq, List.filter_map]
    congr 1
    refine List.filter_congr fun a ha => ?_
    have hs := h.marks.selected a
    simp only [hl a ha, Bool.false_eq_true, false_or] at hs
    rw [Bool.eq_iff_iff, Function.comp_apply, hs, decide_eq_true_eq]
  rw [hfilter]
  refine List.Perm.map f ?_
  rw [List.perm_ext_iff_of_nodup (hids.of_map.filter _) h.positions.of_map]
  intro a
  rw [List.mem_filter, decide_eq_true_eq]
  constructor
  · rintro ⟨ha, hid⟩
    obtain ⟨b, hb, hba⟩ := List.mem_map.mp hid
    exact List.inj_on_of_nodup_map hids (h.eligible b hb).1 ha hba ▸ hb
  · exact fun ha => ⟨(h.eligible a ha).1, List.mem_map_of_mem ha⟩

end Selected

end CryptoLending.SmartLending.AllocationLimits
