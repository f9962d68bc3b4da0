import Mathlib.Algebra.Order.BigOperators.Group.List
import Mathlib.Algebra.Order.Ring.Int
import Mathlib.Order.Bounds.Basic
import Mathlib.Tactic.Linarith
import CryptoLending.SmartLending.FeeAwareReturn

namespace CryptoLending.SmartLending.ReturnLaws

open FeeAwareReturn

section Accepted

variable {input : FeeAwareReturnInput} {calculation : FeeAwareCandidateCalculation}

/-- Every value of an input with a calculation is a number of at most 256 bits. -/
theorem values_bounded (h : (calculateFeeAwareReturn input).1 = some calculation) :
    ∀ v ∈ input.values, 0 ≤ v ∧ v ≤ maxUint256 := by
  intro v hv
  by_cases hany : input.values.any exceedsUint256 = true
  · rw [calculateFeeAwareReturn, if_pos hany] at h
    cases h
  · have hall := List.any_eq_false.mp (Bool.not_eq_true _ ▸ hany) v hv
    simp only [exceedsUint256, Bool.or_eq_true, decide_eq_true_eq, not_or, not_lt] at hall
    exact hall

/-- What an input with a calculation is made of. -/
structure Bounded (input : FeeAwareReturnInput) : Prop where
  principal : 0 ≤ input.principalUsdMantissa
  gross : 0 ≤ input.grossApyBasisPoints
  recurring : 0 ≤ input.recurringFeeBasisPoints
  penalty : 0 ≤ input.riskPenaltyBasisPoints
  days : 0 ≤ input.holdingPeriodDays
  costs : ∀ v ∈ input.costs.values, 0 ≤ v

theorem bounded_of_calculation (h : (calculateFeeAwareReturn input).1 = some calculation) :
    Bounded input := by
  have hall := values_bounded h
  simp only [FeeAwareReturnInput.values, List.cons_append, List.nil_append, List.mem_cons,
    forall_eq_or_imp] at hall
  obtain ⟨hprincipal, hgross, hrecurring, hpenalty, hdays, _, hcosts⟩ := hall
  exact ⟨hprincipal.1, hgross.1, hrecurring.1, hpenalty.1, hdays.1, fun v hv => (hcosts v hv).1⟩

/-- The total is the sum of every cost. -/
theorem total_eq_sum (costs : FeeAwareAllocationCosts) :
    entryCost costs + exitCost costs = costs.values.sum := by
  cases hexit : costs.exitPlatformRouting with
  | none =>
    simp only [entryCost, exitCost, FeeAwareAllocationCosts.values, hexit, Option.getD_none,
      Option.toList_none, List.append_nil, List.cons_append, List.nil_append, List.sum_cons,
      List.sum_nil]
    omega
  | some routing =>
    simp only [entryCost, exitCost, FeeAwareAllocationCosts.values, hexit, Option.getD_some,
      Option.toList_some, List.cons_append, List.nil_append, List.sum_cons, List.sum_nil]
    omega

theorem total_nonneg {costs : FeeAwareAllocationCosts} (h : ∀ v ∈ costs.values, 0 ≤ v) :
    0 ≤ entryCost costs + exitCost costs := by
  rw [total_eq_sum]
  exact List.sum_nonneg h

theorem deployedPrincipal_nonneg (principal entry : Int) :
    0 ≤ deployedPrincipal principal entry := by
  rw [deployedPrincipal]
  split <;> omega

theorem conservativeApy_nonneg (gross recurring penalty : Int) :
    0 ≤ conservativeApy gross recurring penalty := by
  rw [conservativeApy]
  split <;> omega

theorem accruedYield_eq {deployed rate days : Int} (hdeployed : 0 ≤ deployed) (hrate : 0 ≤ rate)
    (hdays : 0 ≤ days) : accruedYield deployed rate days = deployed * rate * days / (10000 * 365) :=
  Int.tdiv_eq_ediv_of_nonneg (mul_nonneg (mul_nonneg hdeployed hrate) hdays)

end Accepted

section BreakEven

/-- The days on which what was earned has paid the costs. -/
def PaidBy (dailyNumerator total : Int) : Set Int :=
  {days | 0 ≤ days ∧ total ≤ dailyNumerator * days / (10000 * 365)}

variable {dailyNumerator total days : Int}

theorem mem_paidBy : days ∈ PaidBy dailyNumerator total ↔
    0 ≤ days ∧ total * (10000 * 365) ≤ dailyNumerator * days := by
  rw [PaidBy, Set.mem_ofPred_eq, Int.le_ediv_iff_mul_le (by decide)]

theorem breakEvenDays_eq_some (hdaily : 0 ≤ dailyNumerator) (htotal : 0 ≤ total)
    (h : breakEvenDays total dailyNumerator = some days) :
    IsLeast (PaidBy dailyNumerator total) days := by
  rw [breakEvenDays] at h
  split at h
  case isTrue hzero =>
    obtain rfl := Option.some.inj h
    refine ⟨mem_paidBy.2 ⟨le_rfl, by rw [hzero]; simp⟩, fun d hd => hd.1⟩
  case isFalse hpositive =>
    split at h
    case isTrue => cases h
    case isFalse hearning =>
      obtain rfl := Option.some.inj h
      have hdaily : 0 < dailyNumerator := by omega
      rw [Int.tdiv_eq_ediv_of_nonneg (by omega)]
      -- The ceiling of a quotient is the least number whose product reaches the dividend.
      have hle : ∀ d, (total * 10000 * 365 + dailyNumerator - 1) / dailyNumerator ≤ d ↔
          total * (10000 * 365) ≤ dailyNumerator * d := by
        intro d
        rw [← Int.lt_add_one_iff, Int.ediv_lt_iff_lt_mul hdaily, add_one_mul, mul_comm d]
        omega
      refine ⟨mem_paidBy.2 ⟨Int.ediv_nonneg (by omega) hdaily.le, (hle _).mp le_rfl⟩, ?_⟩
      intro d hd
      exact (hle d).mpr (mem_paidBy.1 hd).2

theorem breakEvenDays_eq_none (htotal : 0 ≤ total)
    (h : breakEvenDays total dailyNumerator = none) : PaidBy dailyNumerator total = ∅ := by
  rw [breakEvenDays] at h
  split at h
  case isTrue => cases h
  case isFalse hpositive =>
    split at h
    case isTrue hidle =>
      refine Set.eq_empty_of_forall_notMem fun d hd => ?_
      have hpaid := (mem_paidBy.1 hd).2
      rw [hidle, zero_mul] at hpaid
      omega
    case isFalse => cases h

/-- From the first day on which the costs are paid they stay paid. -/
theorem paidBy_iff (hdaily : 0 ≤ dailyNumerator) {first : Int}
    (h : IsLeast (PaidBy dailyNumerator total) first) (hdays : 0 ≤ days) :
    total ≤ dailyNumerator * days / (10000 * 365) ↔ first ≤ days := by
  constructor
  · exact fun hpaid => h.2 ⟨hdays, hpaid⟩
  · intro hfirst
    have hpaid := (mem_paidBy.1 h.1).2
    exact (mem_paidBy.2 ⟨hdays, hpaid.trans (mul_le_mul_of_nonneg_left hfirst hdaily)⟩).2

end BreakEven

section Return

/-- The total cost counts every cost once, and the break-even days are the first on which the
conservative yield has paid it. -/
theorem calculateFeeAwareReturn_breakEven (input : FeeAwareReturnInput)
    (calculation : FeeAwareCandidateCalculation)
    (h : (calculateFeeAwareReturn input).1 = some calculation) :
    let paid := {days : Int | 0 ≤ days ∧ calculation.totalLifecycleCostUsdMantissa ≤
      calculation.deployedPrincipalUsdMantissa * calculation.conservativeApyBasisPoints * days /
        (10000 * 365)}
    calculation.totalLifecycleCostUsdMantissa = input.costs.values.sum ∧
      calculation.totalLifecycleCostUsdMantissa =
        calculation.entryCostUsdMantissa + calculation.anticipatedExitCostUsdMantissa ∧
      (∀ days, calculation.breakEvenDays = some days ↔ IsLeast paid days) ∧
      (calculation.breakEvenDays = none ↔ paid = ∅) ∧
      (0 ≤ calculation.netBenefitUsdMantissa ↔
        ∃ days, calculation.breakEvenDays = some days ∧ days ≤ input.holdingPeriodDays) := by
  intro paid
  have hbounded := bounded_of_calculation h
  obtain ⟨rfl, _⟩ := calculateFeeAwareReturn_some h
  have hdeployed := deployedPrincipal_nonneg input.principalUsdMantissa (entryCost input.costs)
  have hrate := conservativeApy_nonneg input.grossApyBasisPoints input.recurringFeeBasisPoints
    input.riskPenaltyBasisPoints
  have hdaily := mul_nonneg hdeployed hrate
  have htotal := total_nonneg hbounded.costs
  have hsome : ∀ days, (calculationOf input).breakEvenDays = some days → IsLeast paid days :=
    fun days => breakEvenDays_eq_some hdaily htotal
  have hnone : (calculationOf input).breakEvenDays = none → paid = ∅ :=
    breakEvenDays_eq_none htotal
  have hnet : 0 ≤ (calculationOf input).netBenefitUsdMantissa ↔ input.holdingPeriodDays ∈ paid := by
    have hyield := accruedYield_eq hdeployed hrate hbounded.days
    change 0 ≤ accruedYield _ _ _ - _ ↔ 0 ≤ input.holdingPeriodDays ∧ _
    rw [hyield, sub_nonneg]
    exact ⟨fun hle => ⟨hbounded.days, hle⟩, And.right⟩
  refine ⟨total_eq_sum input.costs, rfl, fun days => ⟨hsome days, fun hleast => ?_⟩,
    ⟨hnone, fun hempty => ?_⟩, ?_⟩
  · cases hdays : (calculationOf input).breakEvenDays with
    | none => exact absurd (hnone hdays ▸ hleast.1) (Set.notMem_empty days)
    | some first => exact congrArg some ((hsome first hdays).unique hleast)
  · cases hdays : (calculationOf input).breakEvenDays with
    | none => rfl
    | some first => exact absurd (hempty ▸ (hsome first hdays).1) (Set.notMem_empty first)
  · rw [hnet]
    constructor
    · intro hheld
      cases hdays : (calculationOf input).breakEvenDays with
      | none => exact absurd (hnone hdays ▸ hheld) (Set.notMem_empty _)
      | some first => exact ⟨first, rfl, (hsome first hdays).2 hheld⟩
    · rintro ⟨first, hdays, hfirst⟩
      exact ⟨hbounded.days, (paidBy_iff hdaily (hsome first hdays) hbounded.days).mpr hfirst⟩

def sampleCosts : FeeAwareAllocationCosts where
  entrySourceNetwork := 5
  entrySourceSwap := 0
  entryBridge := 20
  entryDestinationNetwork := 5
  entryDestinationSwap := 0
  providerEntry := 0
  providerExit := 0
  exitDestinationNetwork := 5
  exitDestinationSwap := 0
  exitBridge := 20
  exitSourceNetwork := 5
  platformRouting := 10
  exitPlatformRouting := none
  riskBuffer := 30

/-- A return that pays its costs of 100 on the day on which 100 has been earned. -/
def sampleReturn : FeeAwareReturnInput where
  principalUsdMantissa := 36570
  grossApyBasisPoints := 700
  recurringFeeBasisPoints := 100
  riskPenaltyBasisPoints := 100
  holdingPeriodDays := 20
  minimumNetBenefitUsdMantissa := 1
  costs := sampleCosts

theorem sampleReturn_breakEven :
    let calculation := calculationOf sampleReturn
    let paid := {days : Int | 0 ≤ days ∧ calculation.totalLifecycleCostUsdMantissa ≤
      calculation.deployedPrincipalUsdMantissa * calculation.conservativeApyBasisPoints * days /
        (10000 * 365)}
    calculation.breakEvenDays = some 20 ∧
      calculation.totalLifecycleCostUsdMantissa = sampleReturn.costs.values.sum ∧
      calculation.totalLifecycleCostUsdMantissa =
        calculation.entryCostUsdMantissa + calculation.anticipatedExitCostUsdMantissa ∧
      (∀ days, calculation.breakEvenDays = some days ↔ IsLeast paid days) ∧
      (calculation.breakEvenDays = none ↔ paid = ∅) ∧
      (0 ≤ calculation.netBenefitUsdMantissa ↔
        ∃ days, calculation.breakEvenDays = some days ∧ days ≤ sampleReturn.holdingPeriodDays) :=
  ⟨by decide, calculateFeeAwareReturn_breakEven sampleReturn _ (by decide)⟩

end Return

section Monotone

/-- No cost of the first is above that of the second. An absent cost counts as zero. -/
structure CostsAtMost (c d : FeeAwareAllocationCosts) : Prop where
  entrySourceNetwork : c.entrySourceNetwork ≤ d.entrySourceNetwork
  entrySourceSwap : c.entrySourceSwap ≤ d.entrySourceSwap
  entryBridge : c.entryBridge ≤ d.entryBridge
  entryDestinationNetwork : c.entryDestinationNetwork ≤ d.entryDestinationNetwork
  entryDestinationSwap : c.entryDestinationSwap ≤ d.entryDestinationSwap
  providerEntry : c.providerEntry ≤ d.providerEntry
  providerExit : c.providerExit ≤ d.providerExit
  exitDestinationNetwork : c.exitDestinationNetwork ≤ d.exitDestinationNetwork
  exitDestinationSwap : c.exitDestinationSwap ≤ d.exitDestinationSwap
  exitBridge : c.exitBridge ≤ d.exitBridge
  exitSourceNetwork : c.exitSourceNetwork ≤ d.exitSourceNetwork
  platformRouting : c.platformRouting ≤ d.platformRouting
  exitPlatformRouting : c.exitPlatformRouting.getD 0 ≤ d.exitPlatformRouting.getD 0
  riskBuffer : c.riskBuffer ≤ d.riskBuffer

/-- The second input has less to earn with and more to pay. -/
structure Worsens (first second : FeeAwareReturnInput) : Prop where
  costs : CostsAtMost first.costs second.costs
  recurring : first.recurringFeeBasisPoints ≤ second.recurringFeeBasisPoints
  penalty : first.riskPenaltyBasisPoints ≤ second.riskPenaltyBasisPoints
  principal : second.principalUsdMantissa ≤ first.principalUsdMantissa
  gross : second.grossApyBasisPoints ≤ first.grossApyBasisPoints
  days : second.holdingPeriodDays ≤ first.holdingPeriodDays
  threshold : second.minimumNetBenefitUsdMantissa = first.minimumNetBenefitUsdMantissa

variable {first second : FeeAwareReturnInput}

theorem CostsAtMost.entry {c d : FeeAwareAllocationCosts} (h : CostsAtMost c d) :
    entryCost c ≤ entryCost d := by
  obtain ⟨h₁, h₂, h₃, h₄, h₅, h₆, _, _, _, _, _, h₁₂, _, h₁₄⟩ := h
  rw [entryCost, entryCost]
  omega

theorem CostsAtMost.exit {c d : FeeAwareAllocationCosts} (h : CostsAtMost c d) :
    exitCost c ≤ exitCost d := by
  obtain ⟨_, _, _, _, _, _, h₇, h₈, h₉, h₁₀, h₁₁, _, h₁₃, _⟩ := h
  rw [exitCost, exitCost]
  omega

theorem deployedPrincipal_mono {p q e f : Int} (hp : q ≤ p) (he : e ≤ f) :
    deployedPrincipal q f ≤ deployedPrincipal p e := by
  rw [deployedPrincipal, deployedPrincipal]
  split <;> split <;> omega

theorem conservativeApy_mono {g k r t p q : Int} (hg : k ≤ g) (hr : r ≤ t) (hp : p ≤ q) :
    conservativeApy k t q ≤ conservativeApy g r p := by
  rw [conservativeApy, conservativeApy]
  split <;> split <;> omega

theorem accruedYield_mono {deployed deployed' rate rate' days days' : Int}
    (hdeployed : 0 ≤ deployed) (hrate : 0 ≤ rate) (hdays : 0 ≤ days) (hd : deployed ≤ deployed')
    (hr : rate ≤ rate') (ht : days ≤ days') :
    accruedYield deployed rate days ≤ accruedYield deployed' rate' days' := by
  have hdeployed' := hdeployed.trans hd
  have hrate' := hrate.trans hr
  rw [accruedYield_eq hdeployed hrate hdays,
    accruedYield_eq hdeployed' hrate' (hdays.trans ht)]
  refine Int.ediv_le_ediv (by decide) ?_
  exact mul_le_mul (mul_le_mul hd hr hrate hdeployed') ht hdays (mul_nonneg hdeployed' hrate')

theorem total_mono (h : Worsens first second) :
    (calculationOf first).totalLifecycleCostUsdMantissa ≤
      (calculationOf second).totalLifecycleCostUsdMantissa :=
  add_le_add h.costs.entry h.costs.exit

theorem netBenefit_mono (h : Worsens first second) (hsecond : Bounded second) :
    (calculationOf second).netBenefitUsdMantissa ≤ (calculationOf first).netBenefitUsdMantissa := by
  have hyield := accruedYield_mono (deployedPrincipal_nonneg _ _) (conservativeApy_nonneg _ _ _)
    hsecond.days (deployedPrincipal_mono h.principal h.costs.entry)
    (conservativeApy_mono h.gross h.recurring h.penalty) h.days
  exact sub_le_sub hyield (total_mono h)

theorem mem_returnReasons {input : FeeAwareReturnInput} {c : FeeAwareCandidateCalculation}
    {reason : ReturnReason} : reason ∈ returnReasons input c ↔
      (input.principalUsdMantissa ≤ c.totalLifecycleCostUsdMantissa ∧
        reason = .totalCostExceedsPrincipal) ∨
      (c.netBenefitUsdMantissa ≤ 0 ∧ reason = .nonPositiveNetBenefit) ∨
      (c.netBenefitUsdMantissa < input.minimumNetBenefitUsdMantissa ∧
        reason = .minimumNetBenefitNotMet) := by
  have hwhen : ∀ {b : Bool} {r : ReturnReason},
      reason ∈ reasonWhen b r ↔ b = true ∧ reason = r := by
    intro b r
    cases b <;> simp [reasonWhen]
  simp only [returnReasons, List.mem_append, hwhen, decide_eq_true_eq, ge_iff_le, or_assoc]

/-- Worse inputs neither raise the net benefit nor lose a reason. -/
theorem calculateFeeAwareReturn_monotone (first second : FeeAwareReturnInput)
    (a b : FeeAwareCandidateCalculation)
    (hfirst : (calculateFeeAwareReturn first).1 = some a)
    (hsecond : (calculateFeeAwareReturn second).1 = some b) (h : Worsens first second) :
    b.netBenefitUsdMantissa ≤ a.netBenefitUsdMantissa ∧
      ∀ reason ∈ (calculateFeeAwareReturn first).2,
        reason ∈ (calculateFeeAwareReturn second).2 := by
  have hbounded := bounded_of_calculation hsecond
  obtain ⟨rfl, hreasons⟩ := calculateFeeAwareReturn_some hfirst
  obtain ⟨rfl, hreasons'⟩ := calculateFeeAwareReturn_some hsecond
  have hnet := netBenefit_mono h hbounded
  refine ⟨hnet, ?_⟩
  intro reason hreason
  rw [hreasons, mem_returnReasons] at hreason
  rw [hreasons', mem_returnReasons, h.threshold]
  obtain ⟨hcost, hr⟩ | ⟨hloss, hr⟩ | ⟨hminimum, hr⟩ := hreason
  · exact .inl ⟨h.principal.trans (hcost.trans (total_mono h)), hr⟩
  · exact .inr (.inl ⟨hnet.trans hloss, hr⟩)
  · exact .inr (.inr ⟨hnet.trans_lt hminimum, hr⟩)

theorem sampleReturn_monotone :
    let second := { sampleReturn with
      riskPenaltyBasisPoints := 110, costs := { sampleCosts with exitPlatformRouting := some 3 } }
    (calculationOf second).netBenefitUsdMantissa ≤
        (calculationOf sampleReturn).netBenefitUsdMantissa ∧
      ∀ reason ∈ (calculateFeeAwareReturn sampleReturn).2,
        reason ∈ (calculateFeeAwareReturn second).2 := by
  intro second
  have hcosts : CostsAtMost sampleReturn.costs second.costs := by
    constructor <;> decide
  have hworsens : Worsens sampleReturn second :=
    ⟨hcosts, by decide, by decide, by decide, by decide, by decide, by decide⟩
  exact calculateFeeAwareReturn_monotone sampleReturn second _ _ (by decide) (by decide) hworsens

end Monotone

end CryptoLending.SmartLending.ReturnLaws
