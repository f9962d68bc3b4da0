import Mathlib.Data.Prod.Lex
import Mathlib.Data.String.Basic
import CryptoLending.Lib.Sorting

namespace CryptoLending.SmartLending.FeeAwareReturn

open Lib.Sorting

structure FeeAwareAllocationCosts where
  entrySourceNetwork : Int
  entrySourceSwap : Int
  entryBridge : Int
  entryDestinationNetwork : Int
  entryDestinationSwap : Int
  providerEntry : Int
  providerExit : Int
  exitDestinationNetwork : Int
  exitDestinationSwap : Int
  exitBridge : Int
  exitSourceNetwork : Int
  platformRouting : Int
  exitPlatformRouting : Option Int
  riskBuffer : Int
  deriving DecidableEq

/-- The own values of a cost record; an absent optional cost has none. -/
def FeeAwareAllocationCosts.values (c : FeeAwareAllocationCosts) : List Int :=
  [c.entrySourceNetwork, c.entrySourceSwap, c.entryBridge, c.entryDestinationNetwork,
    c.entryDestinationSwap, c.providerEntry, c.providerExit, c.exitDestinationNetwork,
    c.exitDestinationSwap, c.exitBridge, c.exitSourceNetwork, c.platformRouting] ++
    c.exitPlatformRouting.toList ++ [c.riskBuffer]

structure FeeAwareCandidateCalculation where
  grossApyBasisPoints : Int
  recurringFeeBasisPoints : Int
  riskPenaltyBasisPoints : Int
  conservativeApyBasisPoints : Int
  principalUsdMantissa : Int
  deployedPrincipalUsdMantissa : Int
  entryCostUsdMantissa : Int
  anticipatedExitCostUsdMantissa : Int
  totalLifecycleCostUsdMantissa : Int
  costsUsdMantissa : FeeAwareAllocationCosts
  projectedGrossYieldUsdMantissa : Int
  projectedConservativeYieldUsdMantissa : Int
  netBenefitUsdMantissa : Int
  breakEvenDays : Option Int
  improvementOverSameChainUsdMantissa : Option Int
  deriving DecidableEq

inductive ReturnReason where
  | numericLimitExceeded
  | totalCostExceedsPrincipal
  | nonPositiveNetBenefit
  | minimumNetBenefitNotMet
  deriving DecidableEq

inductive RouteKind where
  | sameChain
  | crossChain
  deriving DecidableEq

structure FeeAwareReturnInput where
  principalUsdMantissa : Int
  grossApyBasisPoints : Int
  recurringFeeBasisPoints : Int
  riskPenaltyBasisPoints : Int
  holdingPeriodDays : Int
  minimumNetBenefitUsdMantissa : Int
  costs : FeeAwareAllocationCosts

def maxUint256 : Int := 0xffffffffffffffffffffffffffffffffffffffffffffffffffffffffffffffff

def FeeAwareReturnInput.values (input : FeeAwareReturnInput) : List Int :=
  [input.principalUsdMantissa, input.grossApyBasisPoints, input.recurringFeeBasisPoints,
    input.riskPenaltyBasisPoints, input.holdingPeriodDays, input.minimumNetBenefitUsdMantissa] ++
    input.costs.values

def entryCost (costs : FeeAwareAllocationCosts) : Int :=
  costs.entrySourceNetwork + costs.entrySourceSwap + costs.entryBridge +
    costs.entryDestinationNetwork + costs.entryDestinationSwap + costs.providerEntry +
    costs.platformRouting + costs.riskBuffer

def exitCost (costs : FeeAwareAllocationCosts) : Int :=
  costs.providerExit + costs.exitDestinationNetwork + costs.exitDestinationSwap +
    costs.exitBridge + costs.exitSourceNetwork + costs.exitPlatformRouting.getD 0

def reasonWhen {α : Type} (condition : Bool) (reason : α) : List α :=
  if condition then [reason] else []

@[simp] theorem reasonWhen_eq_nil {α : Type} {condition : Bool} {reason : α} :
    reasonWhen condition reason = [] ↔ condition = false := by
  cases condition <;> simp [reasonWhen]

def deployedPrincipal (principal entry : Int) : Int :=
  if entry < principal then principal - entry else 0

def conservativeApy (gross recurring penalty : Int) : Int :=
  if gross > recurring + penalty then gross - recurring - penalty else 0

/-- Big-integer division truncates; every dividend here is nonnegative. -/
def accruedYield (deployed rate days : Int) : Int := (deployed * rate * days).tdiv (10000 * 365)

def breakEvenDays (total dailyNumerator : Int) : Option Int :=
  if total = 0 then some 0
  else if dailyNumerator = 0 then none
  else some ((total * 10000 * 365 + dailyNumerator - 1).tdiv dailyNumerator)

def calculationOf (input : FeeAwareReturnInput) : FeeAwareCandidateCalculation :=
  let entry := entryCost input.costs
  let exit := exitCost input.costs
  let deployed := deployedPrincipal input.principalUsdMantissa entry
  let conservative := conservativeApy input.grossApyBasisPoints input.recurringFeeBasisPoints
    input.riskPenaltyBasisPoints
  let yieldAfterDeductions := accruedYield deployed conservative input.holdingPeriodDays
  { grossApyBasisPoints := input.grossApyBasisPoints
    recurringFeeBasisPoints := input.recurringFeeBasisPoints
    riskPenaltyBasisPoints := input.riskPenaltyBasisPoints
    conservativeApyBasisPoints := conservative
    principalUsdMantissa := input.principalUsdMantissa
    deployedPrincipalUsdMantissa := deployed
    entryCostUsdMantissa := entry
    anticipatedExitCostUsdMantissa := exit
    totalLifecycleCostUsdMantissa := entry + exit
    costsUsdMantissa := input.costs
    projectedGrossYieldUsdMantissa :=
      accruedYield deployed input.grossApyBasisPoints input.holdingPeriodDays
    projectedConservativeYieldUsdMantissa := yieldAfterDeductions
    netBenefitUsdMantissa := yieldAfterDeductions - (entry + exit)
    breakEvenDays := breakEvenDays (entry + exit) (deployed * conservative)
    improvementOverSameChainUsdMantissa := none }

def returnReasons (input : FeeAwareReturnInput) (c : FeeAwareCandidateCalculation) :
    List ReturnReason :=
  reasonWhen (decide (c.totalLifecycleCostUsdMantissa ≥ input.principalUsdMantissa))
      (.totalCostExceedsPrincipal : ReturnReason) ++
    reasonWhen (decide (c.netBenefitUsdMantissa ≤ 0)) (.nonPositiveNetBenefit : ReturnReason) ++
    reasonWhen (decide (c.netBenefitUsdMantissa < input.minimumNetBenefitUsdMantissa))
      (.minimumNetBenefitNotMet : ReturnReason)

def exceedsUint256 (v : Int) : Bool := decide (v < 0) || decide (v > maxUint256)

def calculateFeeAwareReturn (input : FeeAwareReturnInput) :
    Option FeeAwareCandidateCalculation × List ReturnReason :=
  let calculation := calculationOf input
  if input.values.any exceedsUint256 then (none, [.numericLimitExceeded])
  else if calculation.totalLifecycleCostUsdMantissa > maxUint256 then
    (none, [.numericLimitExceeded])
  else if calculation.projectedGrossYieldUsdMantissa > maxUint256 ∨
      calculation.projectedConservativeYieldUsdMantissa > maxUint256 then
    (none, [.numericLimitExceeded])
  else (some calculation, returnReasons input calculation)

theorem calculateFeeAwareReturn_some {input : FeeAwareReturnInput}
    {calculation : FeeAwareCandidateCalculation}
    (h : (calculateFeeAwareReturn input).1 = some calculation) :
    calculation = calculationOf input ∧
      (calculateFeeAwareReturn input).2 = returnReasons input calculation := by
  simp only [calculateFeeAwareReturn] at h ⊢
  split_ifs at h ⊢
  · simp only [Option.some.injEq] at h
    exact ⟨h.symm, h ▸ rfl⟩

/-- What a return without rejection reasons promises about its calculation. -/
theorem calculateFeeAwareReturn_accepted {input : FeeAwareReturnInput}
    {calculation : FeeAwareCandidateCalculation}
    (h : (calculateFeeAwareReturn input).1 = some calculation)
    (hr : (calculateFeeAwareReturn input).2 = []) :
    calculation.totalLifecycleCostUsdMantissa < input.principalUsdMantissa ∧
      0 < calculation.netBenefitUsdMantissa ∧
      input.minimumNetBenefitUsdMantissa ≤ calculation.netBenefitUsdMantissa := by
  rw [(calculateFeeAwareReturn_some h).2] at hr
  simpa only [returnReasons, List.append_eq_nil_iff, reasonWhen_eq_nil, decide_eq_false_iff_not,
    ge_iff_le, not_le, not_lt, and_assoc] using hr

structure ComparedReturn where
  id : String
  routeKind : RouteKind
  calculation : Option FeeAwareCandidateCalculation

/-- The identifiers compared here are visible ASCII, where the order of code units is the
order of characters. -/
def compareText (left right : String) : Ordering :=
  if left = right then .eq else if left < right then .lt else .gt

def compareFeeAwareReturns (left right : ComparedReturn) : Ordering :=
  match left.calculation, right.calculation with
  | none, none => .eq
  | none, some _ => .gt
  | some _, none => .lt
  | some a, some b =>
      if a.netBenefitUsdMantissa ≠ b.netBenefitUsdMantissa then
        if a.netBenefitUsdMantissa > b.netBenefitUsdMantissa then .lt else .gt
      else if left.routeKind ≠ right.routeKind then
        if left.routeKind = .sameChain then .lt else .gt
      else if a.totalLifecycleCostUsdMantissa ≠ b.totalLifecycleCostUsdMantissa then
        if a.totalLifecycleCostUsdMantissa < b.totalLifecycleCostUsdMantissa then .lt else .gt
      else compareText left.id right.id

theorem compareText_ranks (left right : String) : compareText left right ≠ .gt ↔ left ≤ right := by
  unfold compareText
  split
  · simp [*]
  · split
    · simp [le_of_lt ‹left < right›]
    · simpa using fun h => ‹¬left < right› (lt_of_le_of_ne h ‹_›)

def RouteKind.rank : RouteKind → Nat
  | .sameChain => 0
  | .crossChain => 1

abbrev ReturnKey := Int ×ₗ Nat ×ₗ Int ×ₗ String

/-- Returns with a calculation are ranked by net benefit, then route kind, cost and id. -/
def returnKey (kind : RouteKind) (calculation : FeeAwareCandidateCalculation) (id : String) :
    ReturnKey :=
  toLex (-calculation.netBenefitUsdMantissa, toLex (kind.rank,
    toLex (calculation.totalLifecycleCostUsdMantissa, id)))

theorem returnKey_id {k k' : RouteKind} {a b : FeeAwareCandidateCalculation} {i j : String}
    (h : returnKey k a i = returnKey k' b j) : i = j := by
  have h' := congrArg (fun x => (ofLex (ofLex (ofLex x).2).2).2) h
  exact h'

theorem returnKey_net {k k' : RouteKind} {a b : FeeAwareCandidateCalculation} {i j : String}
    (h : returnKey k a i ≤ returnKey k' b j) : b.netBenefitUsdMantissa ≤ a.netBenefitUsdMantissa := by
  have h' := Prod.Lex.toLex_le_toLex.mp h
  simp only at h'
  omega

theorem compareFeeAwareReturns_ranks (left right : ComparedReturn)
    {a b : FeeAwareCandidateCalculation} (ha : left.calculation = some a)
    (hb : right.calculation = some b) :
    compareFeeAwareReturns left right ≠ .gt ↔
      returnKey left.routeKind a left.id ≤ returnKey right.routeKind b right.id := by
  have hrank : left.routeKind.rank < right.routeKind.rank ↔
      left.routeKind ≠ right.routeKind ∧ left.routeKind = .sameChain := by
    cases left.routeKind <;> cases right.routeKind <;> simp [RouteKind.rank]
  have hrank' : left.routeKind.rank = right.routeKind.rank ↔ left.routeKind = right.routeKind := by
    cases left.routeKind <;> cases right.routeKind <;> simp [RouteKind.rank]
  simp only [compareFeeAwareReturns, ha, hb, returnKey, Prod.Lex.toLex_le_toLex,
    ← compareText_ranks, hrank, hrank']
  split
  · split <;> simp <;> omega
  · have hnet : a.netBenefitUsdMantissa = b.netBenefitUsdMantissa := by
      simpa using ‹¬a.netBenefitUsdMantissa ≠ b.netBenefitUsdMantissa›
    simp only [hnet, lt_irrefl, false_or, true_and]
    split
    · split <;> simp_all
    · have hkind : left.routeKind = right.routeKind := by
        simpa using ‹¬left.routeKind ≠ right.routeKind›
      simp only [hkind, ne_eq, not_true_eq_false, false_and, false_or, true_and]
      split
      · split <;> simp_all
      · simp_all

end CryptoLending.SmartLending.FeeAwareReturn
