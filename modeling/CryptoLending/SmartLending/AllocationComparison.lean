import CryptoLending.SmartLending.AllocationSelection

namespace CryptoLending.SmartLending.AllocationComparison

open Lib Lib.Sorting FeeAwareReturn AllocationRequest AllocationAssessment AllocationSelection

/-- Two assessments of one candidate for one route. -/
structure SameCandidate (a b : InternalAssessment) : Prop where
  candidate : b.candidate = a.candidate
  position : b.position = a.position
  opportunity : b.opportunity = a.opportunity
  routeKind : b.routeKind = a.routeKind

theorem SameCandidate.refl (a : InternalAssessment) : SameCandidate a a := ⟨rfl, rfl, rfl, rfl⟩

theorem SameCandidate.trans {a b c : InternalAssessment} (h : SameCandidate a b)
    (k : SameCandidate b c) : SameCandidate a c :=
  ⟨k.candidate.trans h.candidate, k.position.trans h.position, k.opportunity.trans h.opportunity,
    k.routeKind.trans h.routeKind⟩

theorem SameCandidate.id {a b : InternalAssessment} (h : SameCandidate a b) : b.id = a.id :=
  congrArg ParsedCandidate.candidateId h.candidate

theorem map_id_of_sameCandidate {f : InternalAssessment → InternalAssessment}
    (hf : ∀ a, SameCandidate a (f a)) (l : List InternalAssessment) :
    (l.map f).map (·.id) = l.map (·.id) := by
  simp [(hf _).id]

theorem compareWithBaseline_same (policy : ParsedCrossChainPolicy) (id : String)
    (base : Option Int) (a : InternalAssessment) :
    SameCandidate a (compareWithBaseline policy id base a) := by
  unfold compareWithBaseline
  split
  · split <;> exact ⟨rfl, rfl, rfl, rfl⟩
  · exact .refl a

theorem compareWithBaseline_selected (policy : ParsedCrossChainPolicy) (id : String)
    (base : Option Int) (a : InternalAssessment) :
    (compareWithBaseline policy id base a).selected = a.selected := by
  unfold compareWithBaseline
  split
  · split <;> rfl
  · rfl

theorem compareWithBaseline_sameChain (policy : ParsedCrossChainPolicy) (id : String)
    (base : Option Int) {a : InternalAssessment} (h : a.routeKind = .sameChain) :
    compareWithBaseline policy id base a = a := by
  simp [compareWithBaseline, h]

theorem compareWithBaseline_other (policy : ParsedCrossChainPolicy) {id : String}
    (base : Option Int) {a : InternalAssessment} (h : a.position.positionId ≠ id) :
    compareWithBaseline policy id base a = a := by
  simp [compareWithBaseline, h]

theorem baseline_map {f : InternalAssessment → InternalAssessment}
    (hf : ∀ a, SameCandidate a (f a)) (hs : ∀ a, a.routeKind = .sameChain → f a = a) (id : String)
    (l : List InternalAssessment) : baseline id (l.map f) = baseline id l := by
  unfold baseline
  congr 4
  induction l with
  | nil => rfl
  | cons a rest ih =>
    rw [List.map_cons, List.filter_cons, List.filter_cons, ih]
    cases hk : a.routeKind with
    | sameChain => rw [hs a hk]
    | crossChain => simp [isBaselineOption, (hf a).routeKind, hk]

/-- The rank of an assessment with a calculation among the others. -/
def rankKey (a : InternalAssessment) : ReturnKey :=
  a.calculation.elim (toLex (0, toLex (0, toLex (0, "")))) (returnKey a.routeKind · a.id)

theorem rankKey_some {a : InternalAssessment} {calculation : FeeAwareCandidateCalculation}
    (h : a.calculation = some calculation) :
    rankKey a = returnKey a.routeKind calculation a.id := by
  simp [rankKey, h]

theorem compareAssessments_ranks {l : List InternalAssessment}
    (h : ∀ a ∈ l, a.calculation.isSome = true) : RanksBy compareAssessments rankKey l := by
  intro a ha b hb
  obtain ⟨c, hc⟩ := Option.isSome_iff_exists.mp (h a ha)
  obtain ⟨d, hd⟩ := Option.isSome_iff_exists.mp (h b hb)
  rw [rankKey_some hc, rankKey_some hd]
  exact compareFeeAwareReturns_ranks ⟨a.id, a.routeKind, a.calculation⟩
    ⟨b.id, b.routeKind, b.calculation⟩ hc hd

theorem baselineOptions_rank (id : String) (l : List InternalAssessment) :
    RanksBy compareAssessments rankKey (l.filter (isBaselineOption id)) :=
  compareAssessments_ranks fun a ha => by
    have h := (List.mem_filter.mp ha).2
    simp only [isBaselineOption, Bool.and_eq_true] at h
    exact h.2

/-- The baseline is the greatest net benefit of the options. -/
theorem baseline_some {id : String} {l : List InternalAssessment} {base : Int}
    (h : baseline id l = some base) :
    (∃ a ∈ l, isBaselineOption id a = true ∧
      a.calculation.map (·.netBenefitUsdMantissa) = some base) ∧
    ∀ a ∈ l, isBaselineOption id a = true → ∀ c, a.calculation = some c →
      c.netBenefitUsdMantissa ≤ base := by
  obtain ⟨c, hc, rfl⟩ := Option.map_eq_some_iff.mp h
  obtain ⟨best, hbest, hbc⟩ := Option.bind_eq_some_iff.mp hc
  have hm := mem_sortBy.mp (List.mem_of_head? hbest)
  rw [List.mem_filter] at hm
  refine ⟨⟨best, hm.1, hm.2, by simp [hbc]⟩, fun a ha hoption d hd => ?_⟩
  have hle := (baselineOptions_rank id l).head_le hbest (List.mem_filter.mpr ⟨ha, hoption⟩)
  rw [rankKey_some hbc, rankKey_some hd] at hle
  exact returnKey_net hle

/-- The comparison of an assessment with the baseline of its own position. -/
def compared (policy : ParsedCrossChainPolicy) (l : List InternalAssessment)
    (a : InternalAssessment) : InternalAssessment :=
  compareWithBaseline policy a.position.positionId (baseline a.position.positionId l) a

theorem compared_same (policy : ParsedCrossChainPolicy) (l : List InternalAssessment)
    (a : InternalAssessment) : SameCandidate a (compared policy l a) :=
  compareWithBaseline_same policy _ _ a

theorem foldl_compare (policy : ParsedCrossChainPolicy) (ps : List FeeAwareCapitalPosition)
    (hp : (ps.map (·.positionId)).Nodup) (l : List InternalAssessment) :
    ps.foldl (fun l p => l.map (compareWithBaseline policy p.positionId (baseline p.positionId l)))
        l = l.map (fun a =>
          if a.position.positionId ∈ ps.map (·.positionId) then compared policy l a else a) := by
  induction ps generalizing l with
  | nil => simp
  | cons p ps ih =>
    rw [List.map_cons, List.nodup_cons] at hp
    have hb : ∀ id, baseline id (l.map (compareWithBaseline policy p.positionId
        (baseline p.positionId l))) = baseline id l := fun id =>
      baseline_map (compareWithBaseline_same policy _ _)
        (fun _ => compareWithBaseline_sameChain policy _ _) id l
    rw [List.foldl_cons, ih hp.2, List.map_map]
    refine List.map_congr_left fun a _ => ?_
    simp only [Function.comp_apply, compared, hb, (compareWithBaseline_same policy _ _ a).position]
    by_cases h : a.position.positionId = p.positionId
    · rw [h]
      simp [hp.1]
    · rw [compareWithBaseline_other policy _ h]
      simp [h]

/-- Every position compares its own assessments with a baseline that the comparison of
the other positions leaves alone. -/
theorem applyCrossChainComparisonPolicy_eq (request : ParsedRequest)
    (l : List InternalAssessment)
    (hl : ∀ a ∈ l, a.position.positionId ∈ request.positions.map (·.positionId)) :
    applyCrossChainComparisonPolicy request l =
      l.map (compared request.crossChainPolicy l) := by
  unfold applyCrossChainComparisonPolicy
  rw [foldl_compare _ _ request.positionIds_nodup]
  exact List.map_congr_left fun a ha => by simp only [hl a ha, if_true]

/-- The assessments of an accepted request: one for each candidate, in order. -/
structure Assessed (request : ParsedRequest) (l : List InternalAssessment) : Prop where
  candidates : l.map (·.candidate) = request.candidates
  origin : ∀ a ∈ l, a.position ∈ request.positions ∧ a.opportunity ∈ request.opportunities ∧
    a.position.positionId = a.candidate.positionId ∧
    a.opportunity.opportunityId = a.candidate.opportunityId ∧
    a = assessCandidate request a.candidate a.position a.opportunity

theorem assessCandidates_some {request : ParsedRequest} {l : List InternalAssessment}
    (h : assessCandidates request = some l) : Assessed request l := by
  unfold assessCandidates at h
  have hc : ∀ c a, (do
      let position ← (JsMap.ofEntries (request.positions.map (fun p => (p.positionId, p)))).get
        c.positionId
      let opportunity ← (JsMap.ofEntries (request.opportunities.map (fun o =>
        (o.opportunityId, o)))).get c.opportunityId
      pure (assessCandidate request c position opportunity)) = some a →
      a.candidate = c ∧ a.position ∈ request.positions ∧ a.opportunity ∈ request.opportunities ∧
        a.position.positionId = c.positionId ∧ a.opportunity.opportunityId = c.opportunityId ∧
        a = assessCandidate request c a.position a.opportunity := by
    intro c a ha
    simp only [Option.bind_eq_bind, Option.bind_eq_some_iff, Option.pure_def,
      Option.some.injEq] at ha
    obtain ⟨p, hp, o, ho, rfl⟩ := ha
    obtain ⟨_, hp', hpi, rfl⟩ := JsMap.mem_of_get_ofEntries_map request.positionIds_nodup hp
    obtain ⟨_, ho', hoi, rfl⟩ := JsMap.mem_of_get_ofEntries_map request.opportunityIds_nodup ho
    exact ⟨rfl, hp', ho', hpi, hoi, rfl⟩
  constructor
  · have hm := ListOption.mapM_map h id (·.candidate) (fun c a ha => (hc c a ha).1)
    simpa using hm
  · intro a ha
    obtain ⟨c, _, hf⟩ := ListOption.mem_of_mapM h ha
    obtain ⟨rfl, hp, ho, hpi, hoi, he⟩ := hc c a hf
    exact ⟨hp, ho, hpi, hoi, he⟩

variable {request : ParsedRequest} {l : List InternalAssessment}

theorem Assessed.ids_nodup (h : Assessed request l) : (l.map (·.id)).Nodup := by
  have hc := congrArg (List.map ParsedCandidate.candidateId) h.candidates
  rw [List.map_map] at hc
  exact (show l.map (·.id) = _ from hc) ▸ request.candidateIds_nodup

theorem Assessed.positionId_mem (h : Assessed request l) :
    ∀ a ∈ l, a.position.positionId ∈ request.positions.map (·.positionId) :=
  fun a ha => List.mem_map_of_mem (h.origin a ha).1

theorem Assessed.unselected (h : Assessed request l) : ∀ a ∈ l, a.selected = false := by
  intro a ha
  rw [(h.origin a ha).2.2.2.2]
  rfl

end CryptoLending.SmartLending.AllocationComparison
