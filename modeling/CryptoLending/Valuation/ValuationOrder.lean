import CryptoLending.Valuation.ValuationRate

namespace CryptoLending.Valuation.ValuationOrder

open Lib Lib.JsValue Lib.Decimal Lib.Sorting ValuationRequest ValuationAssessment
  StablecoinValuation ValuationRate

/-- Requests that agree up to the order of their watermarks and observations. -/
structure SameRequest (r s : ParsedRequest) : Prop where
  asset : r.asset = s.asset
  amountAtomic : r.amountAtomic = s.amountAtomic
  evaluatedAt : r.evaluatedAt = s.evaluatedAt
  watermarks : r.sourceWatermarks.Perm s.sourceWatermarks
  observations : r.observations.Perm s.observations

/-- Assessments that agree on all but the observation they show. -/
structure SameAssessment (a b : StablecoinSourceAssessment) : Prop where
  sourceId : a.sourceId = b.sourceId
  role : a.role = b.role
  eligibility : a.eligibility = b.eligibility
  conservativeUsdRate : a.conservativeUsdRate = b.conservativeUsdRate

/-- Results that agree on all but the observations that their assessments show. -/
structure SameValuation (a b : StablecoinValuationResult) : Prop where
  result : { a with sourceAssessments := b.sourceAssessments } = b
  assessments : List.Forall₂ SameAssessment a.sourceAssessments b.sourceAssessments

theorem SameRequest.symm {r s : ParsedRequest} (h : SameRequest r s) : SameRequest s r :=
  ⟨h.asset.symm, h.amountAtomic.symm, h.evaluatedAt.symm, h.watermarks.symm, h.observations.symm⟩

theorem SameAssessment.refl (a : StablecoinSourceAssessment) : SameAssessment a a :=
  ⟨rfl, rfl, rfl, rfl⟩

theorem monotonicFrom_pairwise {previous : Option StablecoinPriceObservation}
    {updateIds : List String} {l : List StablecoinPriceObservation}
    (h : monotonicFrom previous updateIds l = true) :
    (∀ p ∈ previous, ∀ o ∈ l, sequenceValue p < sequenceValue o) ∧
      l.Pairwise (fun a b => sequenceValue a < sequenceValue b) := by
  induction l generalizing previous updateIds with
  | nil => exact ⟨fun _ _ _ ho => absurd ho List.not_mem_nil, .nil⟩
  | cons o rest ih =>
    simp only [monotonicFrom, Bool.if_false_left, Bool.and_eq_true, Bool.not_eq_true',
      decide_eq_false_iff_not] at h
    obtain ⟨hrest, hpairwise⟩ := ih h.2.2
    have ho := hrest o rfl
    refine ⟨fun p hp o' ho' => ?_, .cons ho hpairwise⟩
    obtain rfl : previous = some p := hp
    have hlt : sequenceValue p < sequenceValue o := by
      have hn := h.2.1
      simp only [Option.any_some, Bool.or_eq_true, decide_eq_true_eq, not_or, not_le] at hn
      exact hn.1.1
    obtain rfl | hmem := List.mem_cons.mp ho'
    · exact hlt
    · exact hlt.trans (ho o' hmem)

section Assessing

variable {r s : ParsedRequest} (h : SameRequest r s) (sourceId : StablecoinValuationSourceId)
include h

theorem sortedObservations_same
    (hm : hasMonotonicSequenceAndTime (sortedObservations r sourceId) = true) :
    sortedObservations r sourceId = sortedObservations s sourceId := by
  have hranks : ∀ l : List StablecoinPriceObservation,
      RanksBy (fun a b => compare (sequenceValue a) (sequenceValue b)) sequenceValue l :=
    fun l a _ b _ => Nat.compare_ne_gt
  have hperm := h.observations.filter (fun o => o.sourceId = sourceId)
  have hpairwise := (monotonicFrom_pairwise hm).2
  have hnodup : ((sortedObservations r sourceId).map sequenceValue).Nodup :=
    (List.pairwise_map.mpr hpairwise).imp fun hlt => hlt.ne
  apply (hranks _).sortBy_eq_of_perm (hranks _) hperm
  intro a ha b hb hab
  exact List.inj_on_of_nodup_map hnodup (mem_sortBy.mpr ha) (mem_sortBy.mpr hb) hab

theorem hasMonotonic_same : hasMonotonicSequenceAndTime (sortedObservations r sourceId) =
    hasMonotonicSequenceAndTime (sortedObservations s sourceId) := by
  apply Bool.eq_iff_iff.mpr
  constructor
  · intro hm
    rwa [← sortedObservations_same h sourceId hm]
  · intro hm
    rwa [← sortedObservations_same h.symm sourceId hm]

theorem isReplayed_same (o : StablecoinPriceObservation) :
    isReplayed r sourceId o = isReplayed s sourceId o := by
  have hmem : sourceId ∈ stablecoinValuationSources := by cases sourceId <;> decide
  have hperm := h.watermarks.filter (fun w => w.sourceId = sourceId)
  obtain ⟨w, hw⟩ := List.length_eq_one_iff.mp (r.watermarks_unique sourceId hmem)
  have hs := List.perm_singleton.mp (hw ▸ hperm.symm)
  simp only [isReplayed, ← List.head?_filter, hw, hs]

theorem assessSource_same (role : SourceRole) :
    (assessSource r sourceId role).candidate = (assessSource s sourceId role).candidate ∧
      SameAssessment (assessSource r sourceId role).publicAssessment
        (assessSource s sourceId role).publicAssessment := by
  have hmonotonic := hasMonotonic_same h sourceId
  by_cases hm : hasMonotonicSequenceAndTime (sortedObservations r sourceId) = true
  · have hsorted := sortedObservations_same h sourceId hm
    have hassess : ∀ o, assessObservation r sourceId role o = assessObservation s sourceId role o :=
      fun o => by simp only [assessObservation, isReplayed_same h, h.evaluatedAt]
    have heq : assessSource r sourceId role = assessSource s sourceId role := by
      simp only [assessSource, hsorted, hassess]
    exact ⟨congrArg _ heq, heq ▸ .refl _⟩
  · have hs : ¬hasMonotonicSequenceAndTime (sortedObservations s sourceId) = true :=
      hmonotonic ▸ hm
    have hne : ∀ t : ParsedRequest,
        ¬hasMonotonicSequenceAndTime (sortedObservations t sourceId) = true →
        ∃ o, assessSource t sourceId role =
          internalAssessment sourceId role .nonMonotonicSequence (some o) none := by
      intro t ht
      cases hlast : (sortedObservations t sourceId).getLast? with
      | none =>
        rw [List.getLast?_eq_none_iff.mp hlast] at ht
        exact absurd rfl ht
      | some o => exact ⟨o, by simp [assessSource, hlast, ht]⟩
    obtain ⟨o, ho⟩ := hne r hm
    obtain ⟨o', ho'⟩ := hne s hs
    rw [ho, ho']
    exact ⟨rfl, rfl, rfl, rfl, rfl⟩

end Assessing

section Valuing

variable {r s : ParsedRequest} (h : SameRequest r s)
include h

theorem selectionPool_same : selectionPool r = selectionPool s := by
  simp only [selectionPool, internalAssessments, List.filterMap_map, Function.comp_def,
    fun source : StablecoinValuationSourceId × SourceRole =>
      (assessSource_same h source.1 source.2).1]

theorem publicAssessments_same :
    List.Forall₂ SameAssessment (publicAssessments r) (publicAssessments s) := by
  simp only [publicAssessments, internalAssessments, List.map_map]
  rw [List.forall₂_map_left_iff, List.forall₂_map_right_iff, List.forall₂_same]
  exact fun source _ => (assessSource_same h source.1 source.2).2

theorem resultOfValue_same (first : SourceCandidate) (rest : List SourceCandidate)
    (agreement : StablecoinSourceAgreement) (confidence : StablecoinValuationConfidenceClass)
    (l m : List StablecoinSourceAssessment) (value : Option Nat) :
    { resultOfValue r first rest l agreement confidence value with sourceAssessments := m } =
      resultOfValue s first rest m agreement confidence value := by
  cases value with
  | none => simp only [resultOfValue, unavailableResult, h.asset, h.amountAtomic, h.evaluatedAt]
  | some n => simp only [resultOfValue, pricedResult, h.asset, h.amountAtomic, h.evaluatedAt]

theorem availableResult_same (first : SourceCandidate) (rest : List SourceCandidate)
    (agreement : StablecoinSourceAgreement) (confidence : StablecoinValuationConfidenceClass)
    (l m : List StablecoinSourceAssessment) :
    { availableResult r first rest l agreement confidence with sourceAssessments := m } =
      availableResult s first rest m agreement confidence := by
  rw [availableResult, availableResult, resultOfValue_same h, h.asset, h.amountAtomic]

theorem valuate_same : SameValuation (valuate r) (valuate s) where
  result := by
    rw [valuate_assessments, valuate, valuate, selectionPool_same h]
    generalize selectionPool s = pool
    cases pool with
    | nil => simp only [unavailableResult, h.asset, h.amountAtomic, h.evaluatedAt, publicAssessments]
    | cons first rest =>
      cases rest with
      | nil => exact availableResult_same h _ _ _ _ _ _
      | cons second rest =>
        cases rest with
        | nil =>
          by_cases hc : classifySourceAgreement first.observation.rate second.observation.rate =
            .conflict
          · simp only [if_pos hc, conflictResult, unavailableResult, h.asset, h.amountAtomic,
              h.evaluatedAt, publicAssessments]
          · simp only [if_neg hc]
            exact availableResult_same h _ _ _ _ _ _
        | cons => exact availableResult_same h _ _ _ _ _ _
  assessments := by
    rw [valuate_assessments, valuate_assessments]
    exact publicAssessments_same h

end Valuing

section Parsing

/-- Requests that may list their watermarks and observations in another order. -/
def SameRequestFields (key : String) (v w : Value) : Prop :=
  if key ∈ ["sourceWatermarks", "observations"] then Reordered v w else v = w

/-- Inputs that differ at most in the order of the watermarks and the observations. -/
def SamePresentation : Value → Value → Prop := RelatedFields SameRequestFields

theorem sameRequestFields_refl (key : String) (v : Value) : SameRequestFields key v v := by
  unfold SameRequestFields
  split
  · exact .same v
  · rfl

theorem parseRequest_same {v w : Value} (h : SamePresentation v w) :
    Option.Rel SameRequest (parseRequest v) (parseRequest w) := by
  refine ListOption.rel_bind (exactRecord_related sameRequestFields_refl h _) fun k k' hk => ?_
  have hsame : ∀ key, key ∉ ["sourceWatermarks", "observations"] → k.get key = k'.get key := by
    intro key hkey
    have hf := hk key
    rwa [SameRequestFields, if_neg hkey] at hf
  have hlist : ∀ key, key ∈ ["sourceWatermarks", "observations"] →
      Reordered (k.get key) (k'.get key) := by
    intro key hkey
    have hf := hk key
    rwa [SameRequestFields, if_pos hkey] at hf
  rw [hsame "asset" (by decide), hsame "amountAtomic" (by decide), hsame "evaluatedAt" (by decide)]
  refine ListOption.rel_bind_same fun asset => ?_
  refine ListOption.rel_bind_same fun _ => ListOption.rel_bind_same fun _ => ?_
  refine ListOption.rel_bind (exactArray_reordered (hlist "sourceWatermarks" (by decide)) _ _)
    fun ws ws' hws => ?_
  refine ListOption.rel_bind (ListOption.mapM_perm parseSourceWatermark hws) fun ws ws' hws => ?_
  refine ListOption.rel_bind (exactArray_reordered (hlist "observations" (by decide)) _ _)
    fun os os' hos => ?_
  refine ListOption.rel_bind (ListOption.mapM_perm (parseObservation · asset) hos)
    fun os os' hos => ?_
  have hunique : (∀ sourceId ∈ stablecoinValuationSources,
      (ws.filter (fun w => w.sourceId = sourceId)).length = 1) ↔
      ∀ sourceId ∈ stablecoinValuationSources,
        (ws'.filter (fun w => w.sourceId = sourceId)).length = 1 := by
    simp only [fun sourceId => (hws.filter (fun w => w.sourceId = sourceId)).length_eq]
  by_cases hu : ∀ sourceId ∈ stablecoinValuationSources,
      (ws.filter (fun w => w.sourceId = sourceId)).length = 1
  · rw [dif_pos hu, dif_pos (hunique.mp hu)]
    exact .some ⟨rfl, rfl, rfl, hws, hos⟩
  · rw [dif_neg hu, dif_neg (mt hunique.mpr hu)]
    exact .none

end Parsing

theorem evaluateStablecoinValuation_same {v w : Value} (h : SamePresentation v w) :
    SameValuation (evaluateStablecoinValuation v) (evaluateStablecoinValuation w) := by
  have hp := parseRequest_same h
  unfold evaluateStablecoinValuation
  generalize parseRequest v = o, parseRequest w = p at hp
  cases hp with
  | none => exact ⟨rfl, .nil⟩
  | some hrs => exact valuate_same hrs

end CryptoLending.Valuation.ValuationOrder
