import CryptoLending.Valuation.ValuationRate

namespace CryptoLending.Valuation.ValuationDepeg

open Lib Lib.JsValue Lib.Decimal ValuationRequest ValuationAssessment StablecoinValuation
  ValuationRate

/-- A current source whose conservative rate is at most 0.98 USD. -/
def IsDepegged (a : StablecoinSourceAssessment) : Prop :=
  a.eligibility = .eligibleCurrent ∧
    ∃ rate, a.conservativeUsdRate = some rate ∧ rate.value ≤ 98 / 100

/-- The ways in which a result says that the asset lost its peg. -/
structure ReportsDepeg (result : StablecoinValuationResult) : Prop where
  band : result.downsideBand = .depegged
  depegClass : result.depegClass = .outsidePolicy
  reason : .depegDetected ∈ result.reasons

/-- A result that says nothing of a lost peg. -/
structure ReportsNoDepeg (result : StablecoinValuationResult) : Prop where
  band : result.downsideBand ≠ .depegged
  depegClass : result.depegClass ≠ .outsidePolicy
  reason : .depegDetected ∉ result.reasons

theorem mem_orderedReasons {reason : StablecoinValuationReason}
    {reasons : List StablecoinValuationReason} : reason ∈ orderedReasons reasons ↔
      reason ∈ reasons :=
  Sorting.mem_inOrder (by cases reason <;> decide)

theorem classifyDownside_eq_depegged (rate : FixedDecimal) :
    classifyDownside rate = .depegged ↔ rate.value ≤ 98 / 100 := by
  have hpeg : (⟨1, 0⟩ : FixedDecimal).value = 1 := by norm_num [FixedDecimal.value, powerOfTen]
  simp only [classifyDownside]
  by_cases hn : compareFixed rate ⟨1, 0⟩ ≠ .lt
  · have hle := (compareFixed_ne_lt _ _).mp hn
    rw [hpeg] at hle
    rw [if_pos hn]
    exact iff_of_false (by decide) (by linarith)
  · have hlt := (compareFixed_lt _ _).mp (not_not.mp hn)
    rw [hpeg] at hlt
    have hdown : (subtractFixedFloorZero ⟨1, 0⟩ rate).value = 1 - rate.value := by
      rw [value_subtractFixedFloorZero, hpeg, max_eq_right (by linarith)]
    have hexceeds := absoluteUsdAmountExceedsBps_iff
      (subtractFixedFloorZero ⟨1, 0⟩ rate) normalAtOrBelowBps
    have habove := absoluteUsdAmountAtOrAboveBps_iff
      (subtractFixedFloorZero ⟨1, 0⟩ rate) depeggedAtOrAboveBps
    rw [hdown] at hexceeds habove
    norm_num [normalAtOrBelowBps, depeggedAtOrAboveBps] at hexceeds habove
    rw [if_neg hn]
    by_cases he : absoluteUsdAmountExceedsBps (subtractFixedFloorZero ⟨1, 0⟩ rate)
        normalAtOrBelowBps = true
    · by_cases ha : absoluteUsdAmountAtOrAboveBps (subtractFixedFloorZero ⟨1, 0⟩ rate)
          depeggedAtOrAboveBps = true
      · have hle := habove.mp ha
        simp only [he, ha, Bool.not_true, Bool.false_eq_true, if_false, if_true, true_iff]
        linarith
      · have hgt := mt habove.mpr ha
        simp only [he, ha, Bool.not_true, Bool.false_eq_true, if_false]
        exact iff_of_false (by decide) (by intro h; apply hgt; linarith)
    · have hgt := mt hexceeds.mpr he
      simp only [he, Bool.not_false, if_true]
      exact iff_of_false (by decide) (by intro h; apply hgt; linarith)

theorem mostSevereDownsideBand_eq_depegged (bands : List StablecoinDownsideBand) :
    mostSevereDownsideBand bands = .depegged ↔ .depegged ∈ bands := by
  simp only [mostSevereDownsideBand]
  by_cases h : .depegged ∈ bands
  · simp [h]
  · by_cases hw : .watch ∈ bands <;> simp [h, hw]

/-- A current source of a request has lost the peg when a candidate has. -/
theorem exists_isDepegged_iff (request : ParsedRequest) :
    (∃ a ∈ publicAssessments request, IsDepegged a) ↔
      ∃ c ∈ selectionPool request, c.conservativeRate.value ≤ 98 / 100 := by
  have hrates := selectionPool_rates request
  have hmem : (∃ c ∈ selectionPool request, c.conservativeRate.value ≤ 98 / 100) ↔
      ∃ rate ∈ eligibleRates (publicAssessments request),
        rate.value ≤ 98 / 100 := by
    simp only [← hrates, List.mem_map, exists_exists_and_eq_and]
  rw [hmem]
  constructor
  · rintro ⟨a, ha, he, rate, hrate, hle⟩
    exact ⟨rate, List.mem_filterMap.mpr ⟨a, ha, by rw [if_pos he, hrate]⟩, hle⟩
  · rintro ⟨rate, hrate, hle⟩
    obtain ⟨a, ha, he⟩ := List.mem_filterMap.mp hrate
    obtain ⟨he, hr⟩ := (Option.ite_none_right_eq_some).mp he
    exact ⟨a, ha, he, rate, hr, hle⟩

theorem foldr_min_le_iff (l : List ℚ) {q bound : ℚ} (h : bound < q) :
    l.foldr min q ≤ bound ↔ ∃ r ∈ l, r ≤ bound := by
  induction l with
  | nil => simpa using h
  | cons r l ih => simp only [List.foldr_cons, min_le_iff, ih, List.mem_cons, exists_eq_or_imp]

section Results

variable {request : ParsedRequest} {assessments : List StablecoinSourceAssessment}

theorem pricedResult_depeg (first : SourceCandidate) (rest : List SourceCandidate)
    (agreement : StablecoinSourceAgreement) (confidence : StablecoinValuationConfidenceClass)
    (usdValue : Nat) :
    ((∃ c ∈ first :: rest, c.conservativeRate.value ≤ 98 / 100) →
      ReportsDepeg (pricedResult request first rest assessments agreement confidence usdValue)) ∧
    ((¬∃ c ∈ first :: rest, c.conservativeRate.value ≤ 98 / 100) →
      ReportsNoDepeg (pricedResult request first rest assessments agreement confidence usdValue)) := by
  have hband : classifyDownside (effectiveRate (lowestCandidate first rest)) = .depegged ↔
      ∃ c ∈ first :: rest, c.conservativeRate.value ≤ 98 / 100 := by
    rw [classifyDownside_eq_depegged, value_effectiveRate_lowest, foldr_min_le_iff _ (by norm_num)]
    simp only [List.mem_map, exists_exists_and_eq_and]
  refine ⟨fun h => ?_, fun h => ?_⟩
  · have hd := hband.mpr h
    constructor <;> simp [pricedResult, availableReasons, mem_orderedReasons, hd]
  · have hd := mt hband.mp h
    constructor <;> simp [pricedResult, availableReasons, mem_orderedReasons, hd]

theorem conflictResult_depeg (first second : SourceCandidate) :
    ((∃ c ∈ [first, second], c.conservativeRate.value ≤ 98 / 100) →
      ReportsDepeg (conflictResult request first second assessments)) ∧
    ((¬∃ c ∈ [first, second], c.conservativeRate.value ≤ 98 / 100) →
      ReportsNoDepeg (conflictResult request first second assessments)) := by
  have hband : mostSevereDownsideBand
      [classifyDownside first.conservativeRate, classifyDownside second.conservativeRate] =
        .depegged ↔ ∃ c ∈ [first, second], c.conservativeRate.value ≤ 98 / 100 := by
    rw [mostSevereDownsideBand_eq_depegged, List.mem_pair, eq_comm, classifyDownside_eq_depegged,
      eq_comm, classifyDownside_eq_depegged]
    simp
  refine ⟨fun h => ?_, fun h => ?_⟩
  · have hd := hband.mpr h
    constructor <;> simp [conflictResult, unavailableResult, mem_orderedReasons, hd]
  · have hd := mt hband.mp h
    constructor <;> simp [conflictResult, unavailableResult, mem_orderedReasons, hd]

theorem valuate_depeg (request : ParsedRequest) :
    ((∃ c ∈ selectionPool request, c.conservativeRate.value ≤ 98 / 100) →
      ReportsDepeg (valuate request)) ∧
    ((¬∃ c ∈ selectionPool request, c.conservativeRate.value ≤ 98 / 100) →
      ReportsNoDepeg (valuate request)) := by
  have h := valuate_valued request
  generalize valuate request = result at h
  cases h with
  | noSource h =>
    rw [h]
    refine ⟨fun hex => ?_, fun _ => ?_⟩
    · simp at hex
    · constructor <;> simp [unavailableResult, mem_orderedReasons]
  | conflict h => exact h ▸ conflictResult_depeg _ _
  | corroborated h => exact h ▸ pricedResult_depeg _ _ _ _ _
  | single h => exact h ▸ pricedResult_depeg _ _ _ _ _

end Results

/-- A lost peg is reported exactly when a current source shows it. -/
theorem evaluateStablecoinValuation_reports_depeg (v : Value) :
    ((∃ a ∈ (evaluateStablecoinValuation v).sourceAssessments, IsDepegged a) →
      ReportsDepeg (evaluateStablecoinValuation v)) ∧
    ((¬∃ a ∈ (evaluateStablecoinValuation v).sourceAssessments, IsDepegged a) →
      ReportsNoDepeg (evaluateStablecoinValuation v)) := by
  unfold evaluateStablecoinValuation
  cases parseRequest v with
  | none =>
    refine ⟨fun h => ?_, fun _ => ?_⟩
    · simp [unavailableResult] at h
    · constructor <;> simp [unavailableResult, mem_orderedReasons]
  | some request =>
    simp only [valuate_assessments, exists_isDepegged_iff]
    exact valuate_depeg request

end CryptoLending.Valuation.ValuationDepeg
