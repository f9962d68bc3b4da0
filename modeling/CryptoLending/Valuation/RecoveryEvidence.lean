import CryptoLending.Valuation.StablecoinRecovery

namespace CryptoLending.Valuation.RecoveryEvidence

open Lib ValuationRequest ValuationAssessment StablecoinRecovery

variable {asset : StablecoinValuationAssetReference}

theorem mem_sources (sourceId : StablecoinValuationSourceId) :
    sourceId ∈ stablecoinValuationSources := by
  cases sourceId <;> decide

theorem findObservation_isSome (x : ParsedRecoverySample asset)
    (sourceId : StablecoinValuationSourceId) : (findObservation x sourceId).isSome := by
  obtain ⟨o, ho⟩ := List.length_eq_one_iff.mp (x.sources_unique sourceId (mem_sources sourceId))
  rw [findObservation, ← List.head?_filter, ho]
  rfl

/-- The observation of a source in a sample. -/
def observation (x : ParsedRecoverySample asset) (sourceId : StablecoinValuationSourceId) :
    StablecoinPriceObservation :=
  (findObservation x sourceId).get (findObservation_isSome x sourceId)

section Observation

variable (x : ParsedRecoverySample asset) (sourceId : StablecoinValuationSourceId)

theorem findObservation_eq : findObservation x sourceId = some (observation x sourceId) :=
  (Option.some_get _).symm

theorem filter_observations :
    x.observations.filter (fun o => o.sourceId = sourceId) = [observation x sourceId] := by
  obtain ⟨o, ho⟩ := List.length_eq_one_iff.mp (x.sources_unique sourceId (mem_sources sourceId))
  have hfind := findObservation_eq x sourceId
  rw [findObservation, ← List.head?_filter, ho, List.head?_cons, Option.some.injEq] at hfind
  rw [ho, hfind]

theorem observation_sourceId : (observation x sourceId).sourceId = sourceId := by
  have hmem : observation x sourceId ∈ x.observations.filter (fun o => o.sourceId = sourceId) := by
    rw [filter_observations]
    exact List.mem_singleton_self _
  simpa using List.of_mem_filter hmem

theorem mem_observations {o : StablecoinPriceObservation} :
    o ∈ x.observations ↔ ∃ sourceId, o = observation x sourceId := by
  have hfilter : ∀ s, observation x s ∈ x.observations := fun s => by
    have hmem : observation x s ∈ x.observations.filter (fun o => o.sourceId = s) := by
      rw [filter_observations]
      exact List.mem_singleton_self _
    exact List.mem_of_mem_filter hmem
  constructor
  · intro ho
    have hmem : o ∈ x.observations.filter (fun p => p.sourceId = o.sourceId) :=
      List.mem_filter.mpr ⟨ho, by simp⟩
    rw [filter_observations] at hmem
    exact ⟨o.sourceId, List.mem_singleton.mp hmem⟩
  · rintro ⟨s, rfl⟩
    exact hfilter s

end Observation

/-- The update id of a source in a sample. -/
def updateId (sourceId : StablecoinValuationSourceId) (x : ParsedRecoverySample asset) : String :=
  (observation x sourceId).sourceUpdateId

/-- A sample comes after another in all its times and sequences. -/
structure Advances (x y : ParsedRecoverySample asset) : Prop where
  evaluated : x.evaluatedAt.milliseconds < y.evaluatedAt.milliseconds
  sequence : ∀ s, sequenceValue (observation x s) < sequenceValue (observation y s)
  priced : ∀ s, (observation x s).pricedAtMs ≤ (observation y s).pricedAtMs
  observed : ∀ s, (observation x s).observedAtMs ≤ (observation y s).observedAtMs

theorem Advances.trans {x y z : ParsedRecoverySample asset} (hxy : Advances x y)
    (hyz : Advances y z) : Advances x z where
  evaluated := hxy.evaluated.trans hyz.evaluated
  sequence s := (hxy.sequence s).trans (hyz.sequence s)
  priced s := (hxy.priced s).trans (hyz.priced s)
  observed s := (hxy.observed s).trans (hyz.observed s)

instance : Trans (@Advances asset) Advances Advances := ⟨Advances.trans⟩

theorem sampleAdvances_iff (x y : ParsedRecoverySample asset) :
    sampleAdvances x y = true ↔ Advances x y ∧ ∀ s, updateId s y ≠ updateId s x := by
  have hsource : ∀ s, observationAdvances (observation x s) (observation y s) = true ↔
      sequenceValue (observation x s) < sequenceValue (observation y s) ∧
        updateId s y ≠ updateId s x ∧
        (observation x s).pricedAtMs ≤ (observation y s).pricedAtMs ∧
        (observation x s).observedAtMs ≤ (observation y s).observedAtMs := by
    intro s
    simp [observationAdvances, updateId, and_assoc]
  simp only [sampleAdvances, findObservation_eq, Bool.and_eq_true, Bool.not_eq_true',
    decide_eq_false_iff_not, not_le, List.all_eq_true, hsource]
  constructor
  · rintro ⟨he, h⟩
    have hs := fun s => h s (mem_sources s)
    exact ⟨⟨he, fun s => (hs s).1, fun s => (hs s).2.2.1, fun s => (hs s).2.2.2⟩,
      fun s => (hs s).2.1⟩
  · rintro ⟨h, hne⟩
    exact ⟨h.evaluated, fun s _ => ⟨h.sequence s, hne s, h.priced s, h.observed s⟩⟩

theorem addUpdateIds_none {x : ParsedRecoverySample asset}
    {seen : StablecoinValuationSourceId → List String} {s : StablecoinValuationSourceId}
    (h : updateId s x ∈ seen s) : addUpdateIds x seen stablecoinValuationSources = none := by
  simp only [updateId] at h
  cases s with
  | pythCore => simp [addUpdateIds, stablecoinValuationSources, findObservation_eq, h]
  | chainlinkDataFeeds =>
    by_cases hp : (observation x .pythCore).sourceUpdateId ∈ seen .pythCore <;>
      simp [addUpdateIds, stablecoinValuationSources, findObservation_eq, h, hp]

theorem addUpdateIds_some {x : ParsedRecoverySample asset}
    {seen : StablecoinValuationSourceId → List String} (h : ∀ s, updateId s x ∉ seen s) :
    addUpdateIds x seen stablecoinValuationSources = some (fun s => updateId s x :: seen s) := by
  simp only [updateId] at h
  simp only [addUpdateIds, stablecoinValuationSources, findObservation_eq,
    List.contains_iff_mem, h .pythCore, h .chainlinkDataFeeds, if_false, reduceCtorEq]
  congr 1
  funext s
  cases s <;> simp [updateId]

/-- The loop accepts the samples that carry new update ids and advance one by one. -/
theorem monotonicEvidenceFrom_iff (previous : Option (ParsedRecoverySample asset))
    (seen : StablecoinValuationSourceId → List String) (l : List (ParsedRecoverySample asset)) :
    monotonicEvidenceFrom previous seen l = true ↔
      (∀ s, ∀ x ∈ l, updateId s x ∉ seen s) ∧ (∀ s, (l.map (updateId s)).Nodup) ∧
        (previous.toList ++ l).IsChain (fun x y => sampleAdvances x y = true) := by
  induction l generalizing previous seen with
  | nil => cases previous <;> simp [monotonicEvidenceFrom]
  | cons x rest ih =>
    by_cases hseen : ∃ s, updateId s x ∈ seen s
    · obtain ⟨s, hs⟩ := hseen
      simp only [monotonicEvidenceFrom, addUpdateIds_none hs, Bool.false_eq_true, false_iff]
      exact fun h => h.1 s x List.mem_cons_self hs
    · have hnew : ∀ s, updateId s x ∉ seen s := not_exists.mp hseen
      have hids : ((∀ s, ∀ y ∈ rest, updateId s y ∉ updateId s x :: seen s) ∧
          (∀ s, (rest.map (updateId s)).Nodup)) ↔
          ((∀ s, ∀ y ∈ x :: rest, updateId s y ∉ seen s) ∧
            ∀ s, ((x :: rest).map (updateId s)).Nodup) := by
        simp only [List.map_cons, List.nodup_cons, List.mem_map, not_exists, not_and,
          List.mem_cons, not_or, forall_eq_or_imp]
        constructor
        · rintro ⟨h, hn⟩
          exact ⟨fun s => ⟨hnew s, fun y hy => (h s y hy).2⟩,
            fun s => ⟨fun y hy => (h s y hy).1, hn s⟩⟩
        · rintro ⟨h, hn⟩
          exact ⟨fun s y hy => ⟨(hn s).1 y hy, (h s).2 y hy⟩, fun s => (hn s).2⟩
      have hchain : (previous.any (fun p => !sampleAdvances p x) = false ∧
          (x :: rest).IsChain (fun x y => sampleAdvances x y = true)) ↔
          (previous.toList ++ x :: rest).IsChain (fun x y => sampleAdvances x y = true) := by
        cases previous <;> simp
      have hstep : monotonicEvidenceFrom previous seen (x :: rest) = true ↔
          previous.any (fun p => !sampleAdvances p x) = false ∧
            monotonicEvidenceFrom (some x) (fun s => updateId s x :: seen s) rest = true := by
        simp [monotonicEvidenceFrom, addUpdateIds_some hnew]
      rw [hstep, ih, ← hchain]
      constructor
      · rintro ⟨hfirst, hseen, hnodup, hrest⟩
        obtain ⟨hseen, hnodup⟩ := hids.mp ⟨hseen, hnodup⟩
        exact ⟨hseen, hnodup, hfirst, hrest⟩
      · rintro ⟨hseen, hnodup, hfirst, hrest⟩
        obtain ⟨hseen, hnodup⟩ := hids.mpr ⟨hseen, hnodup⟩
        exact ⟨hfirst, hseen, hnodup, hrest⟩

theorem recoveryEvidenceIsStrictlyMonotonic_iff (l : List (ParsedRecoverySample asset)) :
    recoveryEvidenceIsStrictlyMonotonic l = true ↔
      l.Pairwise Advances ∧ ∀ s, (l.map (updateId s)).Nodup := by
  simp only [recoveryEvidenceIsStrictlyMonotonic, monotonicEvidenceFrom_iff, List.not_mem_nil,
    not_false_eq_true, implies_true, true_and, Option.toList_none, List.nil_append]
  constructor
  · rintro ⟨hnodup, hchain⟩
    have hadvances : l.IsChain Advances :=
      hchain.imp fun x y h => ((sampleAdvances_iff x y).mp h).1
    exact ⟨List.isChain_iff_pairwise.mp hadvances, hnodup⟩
  · rintro ⟨hpairwise, hnodup⟩
    refine ⟨hnodup, List.Pairwise.isChain ?_⟩
    have hne : ∀ s, l.Pairwise (fun x y => updateId s x ≠ updateId s y) :=
      fun s => List.pairwise_map.mp (hnodup s)
    have hall : l.Pairwise (fun x y => ∀ s, updateId s x ≠ updateId s y) :=
      ((hne .pythCore).and (hne .chainlinkDataFeeds)).imp fun h s => by
        cases s
        · exact h.1
        · exact h.2
    exact (hpairwise.and hall).imp fun h =>
      (sampleAdvances_iff _ _).mpr ⟨h.1, fun s => (h.2 s).symm⟩

end CryptoLending.Valuation.RecoveryEvidence
