import CryptoLending.Valuation.StablecoinValuation

namespace CryptoLending.Valuation.ValuationRate

open Lib Lib.JsValue Lib.Decimal ValuationRequest ValuationAssessment StablecoinValuation

/-- The rates of the sources that were assessed as current. -/
def eligibleRates (assessments : List StablecoinSourceAssessment) : List FixedDecimal :=
  assessments.filterMap
    (fun a => if a.eligibility = .eligibleCurrent then a.conservativeUsdRate else none)

def publicAssessments (request : ParsedRequest) : List StablecoinSourceAssessment :=
  (internalAssessments request).map (·.publicAssessment)

section Lowest

variable (first : SourceCandidate) (rest : List SourceCandidate)

theorem lowestCandidate_mem : lowestCandidate first rest ∈ first :: rest := by
  induction rest generalizing first with
  | nil => exact List.mem_singleton_self first
  | cons c rest ih =>
    simp only [lowestCandidate, List.foldl_cons]
    by_cases h : compareFixed c.conservativeRate first.conservativeRate = .lt
    · rw [if_pos h]
      exact List.mem_cons_of_mem _ (ih c)
    · rw [if_neg h]
      obtain he | hm := List.mem_cons.mp (ih first)
      · exact List.mem_cons.mpr (.inl he)
      · exact List.mem_cons_of_mem _ (List.mem_cons_of_mem _ hm)

theorem value_lowestCandidate : (lowestCandidate first rest).conservativeRate.value =
    (rest.map (·.conservativeRate.value)).foldl min first.conservativeRate.value := by
  induction rest generalizing first with
  | nil => rfl
  | cons c rest ih =>
    simp only [lowestCandidate, List.foldl_cons, List.map_cons]
    by_cases h : compareFixed c.conservativeRate first.conservativeRate = .lt
    · rw [if_pos h, min_eq_right ((compareFixed_lt _ _).mp h).le]
      exact ih c
    · rw [if_neg h, min_eq_left ((compareFixed_ne_lt _ _).mp h)]
      exact ih first

end Lowest

theorem value_peg : (⟨100000000, 8⟩ : FixedDecimal).value = 1 := by
  norm_num [FixedDecimal.value, powerOfTen]

theorem value_effectiveRate (selected : SourceCandidate) :
    (effectiveRate selected).value = min selected.conservativeRate.value 1 := by
  rw [effectiveRate, value_minimumFixed, value_peg]

/-- The capped rate of the lowest of some candidates. -/
theorem value_effectiveRate_lowest (first : SourceCandidate) (rest : List SourceCandidate) :
    (effectiveRate (lowestCandidate first rest)).value =
      ((first :: rest).map (·.conservativeRate.value)).foldr min 1 := by
  have hfold : ∀ (l : List ℚ) (q : ℚ), min (l.foldl min q) 1 = min q (l.foldr min 1) := by
    intro l
    induction l with
    | nil => exact fun _ => rfl
    | cons r l ih =>
      intro q
      rw [List.foldl_cons, List.foldr_cons, ih, min_assoc]
  rw [value_effectiveRate, value_lowestCandidate, hfold]
  rfl

section Digits

variable {rate : FixedDecimal}

theorem mantissa_le_of_value_le (h : rate.value ≤ 1) : rate.mantissa ≤ powerOfTen rate.scale := by
  rw [FixedDecimal.value, div_le_one₀ (powerOfTen_cast_pos _)] at h
  exact_mod_cast h

theorem amount_lt (amount : AtomicAmount) : amount.value < 10 ^ maxAmountDigits := by
  have hd : amount.text.toList.all Text.isDigit = true :=
    Text.isCanonicalUint_digits (by simp [Text.isCanonicalUint, amount.kind_text])
  have hv := Text.decimalValue_lt hd
  have hl : 10 ^ amount.text.toList.length ≤ 10 ^ maxAmountDigits :=
    Nat.pow_le_pow_right (by omega) amount.length_le
  exact lt_of_lt_of_le hv hl

/-- A rate of at most one never takes a value beyond the digits that are allowed. -/
theorem calculateUsdValue_eq (amount : AtomicAmount) (decimals : Nat) (hscale : rate.scale = 8)
    (hvalue : rate.value ≤ 1) : calculateUsdValue amount.value decimals rate =
      some (divideRoundHalfEven (amount.value * rate.mantissa * powerOfTen usdValueScale)
        (powerOfTen (decimals + rate.scale))) := by
  have ha := amount_lt amount
  have hm := mantissa_le_of_value_le hvalue
  have hproduct : amount.value * rate.mantissa < 10 ^ maxProductDigits :=
    calc amount.value * rate.mantissa
        ≤ amount.value * 10 ^ 8 := Nat.mul_le_mul_left _ (hscale ▸ hm)
      _ < 10 ^ maxAmountDigits * 10 ^ 8 := Nat.mul_lt_mul_of_pos_right ha (by positivity)
      _ ≤ 10 ^ maxProductDigits := by
        rw [← Nat.pow_add]
        exact Nat.pow_le_pow_right (by omega) (by decide)
  have hbound : amount.value * rate.mantissa * powerOfTen usdValueScale ≤
      amount.value * powerOfTen usdValueScale * powerOfTen (decimals + rate.scale) := by
    have hd := powerOfTen_add decimals rate.scale
    have hp := powerOfTen_pos decimals
    calc amount.value * rate.mantissa * powerOfTen usdValueScale
        = amount.value * powerOfTen usdValueScale * rate.mantissa := by ring
      _ ≤ amount.value * powerOfTen usdValueScale * powerOfTen (decimals + rate.scale) := by
        apply Nat.mul_le_mul_left
        rw [hd]
        exact hm.trans (Nat.le_mul_of_pos_left _ hp)
  have hvalue := divideRoundHalfEven_le (powerOfTen_pos _) hbound
  have hdigits : divideRoundHalfEven (amount.value * rate.mantissa * powerOfTen usdValueScale)
      (powerOfTen (decimals + rate.scale)) < 10 ^ maxUsdValueDigits :=
    calc _ ≤ amount.value * powerOfTen usdValueScale := hvalue
      _ < 10 ^ maxAmountDigits * powerOfTen usdValueScale :=
        Nat.mul_lt_mul_of_pos_right ha (powerOfTen_pos _)
      _ = 10 ^ maxUsdValueDigits := by
        rw [powerOfTen, ← Nat.pow_add]
        rfl
  have hp := decimalLength_le (by decide) hproduct
  have hv := decimalLength_le (by decide) hdigits
  simp only [calculateUsdValue, if_neg (not_lt.mpr hp), if_pos hv]

/-- The value is the amount at the rate, rounded half to even at scale 18. -/
theorem usdValue_rounds (amount decimals : Nat) (rate : FixedDecimal) :
    RoundsHalfEven (amount * rate.value * (10 : ℚ) ^ ((usdValueScale : ℤ) - decimals))
      (divideRoundHalfEven (amount * rate.mantissa * powerOfTen usdValueScale)
        (powerOfTen (decimals + rate.scale))) := by
  have h := divideRoundHalfEven_rounds (amount * rate.mantissa * powerOfTen usdValueScale)
    (powerOfTen_pos (decimals + rate.scale))
  have heq : ((amount * rate.mantissa * powerOfTen usdValueScale : Nat) : ℚ) /
      powerOfTen (decimals + rate.scale) =
      amount * rate.value * (10 : ℚ) ^ ((usdValueScale : ℤ) - decimals) := by
    rw [powerOfTen_add, FixedDecimal.value, zpow_sub₀ (by norm_num), zpow_natCast, zpow_natCast]
    push_cast [powerOfTen_cast]
    field_simp
  rwa [heq] at h

end Digits

section Pool

variable {request : ParsedRequest}

/-- A candidate of the pool is the candidate of a current source. -/
theorem mem_selectionPool {c : SourceCandidate} (h : c ∈ selectionPool request) :
    EligibleCurrent request c.assessment.sourceId c.observation c.conservativeRate
        c.confidenceLowerBoundApplied ∧
      c.assessment.eligibility = .eligibleCurrent ∧
      c.assessment.observation = some c.observation ∧
      c.assessment.conservativeUsdRate = some c.conservativeRate := by
  obtain ⟨hc, _⟩ := List.mem_filter.mp h
  obtain ⟨a, ha, hac⟩ := List.mem_filterMap.mp hc
  obtain ⟨source, _, rfl⟩ := List.mem_map.mp ha
  obtain ⟨o, rate, lowered, he, heq⟩ | ⟨hr, _⟩ :=
    assessSource_cases request source.1 source.2
  · rw [heq] at hac
    rw [← Option.some.inj hac]
    exact ⟨he, rfl, rfl, rfl⟩
  · cases hr.1.symm.trans hac

theorem selectionPool_current {c : SourceCandidate} (h : c ∈ selectionPool request) :
    c.freshness = .current := of_decide_eq_true (List.mem_filter.mp h).2

theorem selectionPool_scale {c : SourceCandidate} (h : c ∈ selectionPool request) :
    c.conservativeRate.scale = 8 :=
  (lowerBound_bounded (mem_selectionPool h).1.rate_eq).2

/-- The pool holds the rates of the sources that were assessed as current. -/
theorem selectionPool_rates (request : ParsedRequest) :
    (selectionPool request).map (·.conservativeRate) =
      eligibleRates (publicAssessments request) := by
  simp only [selectionPool, publicAssessments, internalAssessments, eligibleRates]
  induction sourceOrder with
  | nil => rfl
  | cons source rest ih =>
    obtain ⟨o, rate, lowered, _, heq⟩ | ⟨hr, _⟩ :=
      assessSource_cases request source.1 source.2
    · simpa [heq, currentAssessment] using ih
    · simpa [hr.1, hr.2] using ih

end Pool

theorem effectiveRate_scale {c : SourceCandidate} (h : c.conservativeRate.scale = 8) :
    (effectiveRate c).scale = 8 := by
  simp only [effectiveRate, minimumFixed]
  split
  · exact h
  · rfl

theorem value_effectiveRate_le (c : SourceCandidate) : (effectiveRate c).value ≤ 1 := by
  rw [value_effectiveRate]
  exact min_le_right _ _

/-- The value of a request at a rate. -/
def usdValueAt (request : ParsedRequest) (rate : FixedDecimal) : Nat :=
  divideRoundHalfEven (request.amountAtomic.value * rate.mantissa * powerOfTen usdValueScale)
    (powerOfTen (request.asset.decimals + rate.scale))

/-- A valuation by candidates of the pool is never given up for its size. -/
theorem availableResult_eq (request : ParsedRequest) {first : SourceCandidate}
    {rest : List SourceCandidate} (h : ∀ c ∈ first :: rest, c.conservativeRate.scale = 8)
    (assessments : List StablecoinSourceAssessment) (agreement : StablecoinSourceAgreement)
    (confidence : StablecoinValuationConfidenceClass) :
    availableResult request first rest assessments agreement confidence =
      pricedResult request first rest assessments agreement confidence
        (usdValueAt request (effectiveRate (lowestCandidate first rest))) := by
  have hscale := effectiveRate_scale (h _ (lowestCandidate_mem first rest))
  rw [availableResult, calculateUsdValue_eq request.amountAtomic _ hscale
    (value_effectiveRate_le (lowestCandidate first rest))]
  rfl

/-- The ways in which an accepted request is valued. -/
inductive Valued (request : ParsedRequest) : StablecoinValuationResult → Prop
  | noSource (h : selectionPool request = []) :
      Valued request (unavailableResult request.asset request.amountAtomic request.evaluatedAt
        .notAvailable [.noEligibleSource] (publicAssessments request) .notAssessed .notAssessed)
  | conflict {first second : SourceCandidate} (h : selectionPool request = [first, second])
      (hconflict : classifySourceAgreement first.observation.rate second.observation.rate =
        .conflict) :
      Valued request (conflictResult request first second (publicAssessments request))
  | corroborated {first second : SourceCandidate} (h : selectionPool request = [first, second])
      {agreement : StablecoinSourceAgreement} (hconflict : agreement ≠ .conflict)
      (hagreement : classifySourceAgreement first.observation.rate second.observation.rate =
        agreement) :
      Valued request (pricedResult request first [second] (publicAssessments request) agreement
        (if agreement = .corroborated && pythConfidenceAllowsMedium [first, second] then .medium
          else .low)
        (usdValueAt request (effectiveRate (lowestCandidate first [second]))))
  | single {first : SourceCandidate} {rest : List SourceCandidate}
      (h : selectionPool request = first :: rest) (hrest : rest.length ≠ 1) :
      Valued request (pricedResult request first rest (publicAssessments request) .singleSource .low
        (usdValueAt request (effectiveRate (lowestCandidate first rest))))

theorem valuate_valued (request : ParsedRequest) : Valued request (valuate request) := by
  have hscale : ∀ c ∈ selectionPool request, c.conservativeRate.scale = 8 :=
    fun _ hc => selectionPool_scale hc
  match hpool : selectionPool request with
  | [] =>
    simp only [valuate, hpool]
    exact .noSource hpool
  | [first] =>
    simp only [valuate, hpool, availableResult_eq request (hpool ▸ hscale)]
    exact .single hpool (by simp)
  | [first, second] =>
    simp only [valuate, hpool, availableResult_eq request (hpool ▸ hscale)]
    by_cases hconflict :
        classifySourceAgreement first.observation.rate second.observation.rate = .conflict
    · rw [if_pos hconflict]
      exact .conflict hpool hconflict
    · rw [if_neg hconflict]
      exact .corroborated hpool hconflict rfl
  | first :: second :: third :: rest =>
    simp only [valuate, hpool, availableResult_eq request (hpool ▸ hscale)]
    exact .single hpool (by simp)

theorem valuate_assessments (request : ParsedRequest) :
    (valuate request).sourceAssessments = publicAssessments request := by
  have h := valuate_valued request
  generalize valuate request = result at h
  cases h <;> rfl

end CryptoLending.Valuation.ValuationRate
