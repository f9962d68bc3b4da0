import Mathlib.Algebra.Order.BigOperators.Group.List
import Mathlib.Data.Rat.Floor
import Mathlib.Order.Bounds.Basic
import Mathlib.Tactic.Linarith
import CryptoLending.Lib.DecimalText
import CryptoLending.Lib.Transaction

namespace CryptoLending.LocalDemo.YieldProjection

open Lib Text DecimalText

def maxSafeInteger : Int := 9007199254740991

def publicApyBucketSizeBasisPoints : Int := 25
def breakEvenModelHorizonDays : Int := 365

def breakEvenCalculationMethod : String := "FIRST_WHOLE_DAY_VISIBLE_YIELD_EXCEEDS_ESTIMATED_FEES"

/-- What the calculations throw. -/
inductive TypeError where
  | missingApyRate
  | invalidApyRate
  | apyExceedsNumericLimits
  | invalidDivision
  deriving DecidableEq

def TypeError.message : TypeError → String
  | .missingApyRate => "missing local demo APY rate"
  | .invalidApyRate => "invalid local demo APY rate"
  | .apyExceedsNumericLimits => "local demo effective APY exceeds numeric limits"
  | .invalidDivision => "invalid local demo division"

structure LocalDemoYieldOpportunitySummary where
  baseRateDecimal : String

structure InternalYieldPosition where
  opportunity : LocalDemoYieldOpportunitySummary
  amountUsdMinor : Int

structure DecimalRatio where
  numerator : Int
  fractionalDigits : Nat

structure ExactYieldProjection where
  annualYieldNumerator : Int
  denominator : Int
  effectiveApyBasisPoints : Int
  projectedAnnualYield : Int

inductive FirstPositiveDayStatus where
  | recoveredWithinHorizon
  | noProjectedYield
  | notRecoveredWithinHorizon
  deriving DecidableEq

structure FirstPositiveDayAfterFees where
  calculationMethod : String
  status : FirstPositiveDayStatus
  day : Option Int
  modelHorizonDays : Int

/-- The digits before and after the point of a text `(0|[1-9][0-9]*)(\.[0-9]+)?`. -/
def decimalMatch (cs : List Char) : Option (List Char × List Char) :=
  let whole := cs.takeWhile isDigit
  if isCanonicalUint whole then
    match cs.dropWhile isDigit with
    | [] => some (whole, [])
    | c :: fraction =>
        if c = '.' ∧ fraction ≠ [] ∧ fraction.all isDigit then some (whole, fraction) else none
  else none

def decimalRatio (value : String) : Except TypeError DecimalRatio := do
  let found ← orFail (decimalMatch value.toList) .invalidApyRate
  failWhen (found.2.length > 96) .invalidApyRate
  return ⟨decimalValue (found.1 ++ found.2), found.2.length⟩

/-- Big-integer division truncates. -/
def ceilingDivide (numerator denominator : Int) : Except TypeError Int := do
  failWhen (numerator < 0 ∨ denominator ≤ 0) .invalidDivision
  return (numerator + denominator - 1).tdiv denominator

def maximumScaleOf (rates : List DecimalRatio) : Nat :=
  rates.foldl (fun maximum rate => max maximum rate.fractionalDigits) 0

def annualYieldNumeratorOf (positions : List InternalYieldPosition) (rates : List DecimalRatio)
    (maximumScale : Nat) : Except TypeError Int :=
  positions.zipIdx.foldlM (fun total (position, index) => do
    let rate ← orFail rates[index]? .missingApyRate
    let scaledRate := rate.numerator * 10 ^ (maximumScale - rate.fractionalDigits)
    return total + position.amountUsdMinor * scaledRate) 0

def projectionAt (capitalIncludedInProjection exactEffectiveApy : Int) : ExactYieldProjection :=
  let effectiveApy :=
    exactEffectiveApy - exactEffectiveApy.tmod publicApyBucketSizeBasisPoints
  let publicDenominator := 10000
  let publicAnnualYieldNumerator := capitalIncludedInProjection * effectiveApy
  { annualYieldNumerator := publicAnnualYieldNumerator
    denominator := publicDenominator
    effectiveApyBasisPoints := effectiveApy
    projectedAnnualYield := publicAnnualYieldNumerator.tdiv publicDenominator }

def calculateYieldProjection (positions : List InternalYieldPosition)
    (capitalIncludedInProjection : Int) : Except TypeError ExactYieldProjection := do
  let rates ← positions.mapM (fun position => decimalRatio position.opportunity.baseRateDecimal)
  let maximumScale := maximumScaleOf rates
  let annualYieldNumerator ← annualYieldNumeratorOf positions rates maximumScale
  let exactEffectiveApy :=
    if capitalIncludedInProjection = 0 then 0
    else (annualYieldNumerator * 10000).tdiv (capitalIncludedInProjection * 10 ^ maximumScale)
  failWhen (exactEffectiveApy > maxSafeInteger ∨ exactEffectiveApy > 10000)
    .apyExceedsNumericLimits
  return projectionAt capitalIncludedInProjection exactEffectiveApy

def firstPositiveDayOf (status : FirstPositiveDayStatus) (day : Option Int) :
    FirstPositiveDayAfterFees :=
  ⟨breakEvenCalculationMethod, status, day, breakEvenModelHorizonDays⟩

def calculateFirstPositiveDayAfterFees (projection : ExactYieldProjection)
    (totalEstimatedCostUsdMinor : Int) : Except TypeError FirstPositiveDayAfterFees := do
  if projection.annualYieldNumerator = 0 then
    return firstPositiveDayOf .noProjectedYield none
  let firstPositiveDay ← ceilingDivide
    ((totalEstimatedCostUsdMinor + 1) * 365 * projection.denominator)
    projection.annualYieldNumerator
  if firstPositiveDay > breakEvenModelHorizonDays then
    return firstPositiveDayOf .notRecoveredWithinHorizon none
  return firstPositiveDayOf .recoveredWithinHorizon (some firstPositiveDay)

section Rates

theorem decimalMatch_some {cs whole fraction : List Char}
    (h : decimalMatch cs = some (whole, fraction)) :
    readFixed cs = decimalValue whole + decimalValue fraction / 10 ^ fraction.length := by
  rw [decimalMatch] at h
  have hsplit := List.takeWhile_append_dropWhile (p := isDigit) (l := cs)
  split at h
  case isFalse => cases h
  case isTrue hwhole =>
    have hdigits := isCanonicalUint_digits hwhole
    split at h
    · rename_i hrest
      obtain ⟨rfl, rfl⟩ := Prod.mk.inj (Option.some.inj h)
      rw [hrest, List.append_nil] at hsplit
      rw [hsplit] at hdigits ⊢
      rw [readFixed_digits hdigits]
      simp [decimalValue]
    · rename_i c rest hrest
      split at h
      case isFalse => cases h
      case isTrue hpoint =>
        obtain ⟨rfl, rfl⟩ := Prod.mk.inj (Option.some.inj h)
        rw [hrest, hpoint.1] at hsplit
        rw [← hsplit, readFixed_point hdigits, hsplit]

/-- The ratio of a text is the number that the text denotes. -/
theorem decimalRatio_ok {value : String} {rate : DecimalRatio} (h : decimalRatio value = .ok rate) :
    0 ≤ rate.numerator ∧
      (rate.numerator : ℚ) / 10 ^ rate.fractionalDigits = readFixed value.toList := by
  rw [decimalRatio] at h
  obtain ⟨⟨whole, fraction⟩, hmatch, h⟩ := except_bind_ok.mp h
  obtain ⟨_, _, h⟩ := except_bind_ok.mp h
  obtain rfl := except_pure_ok.mp h
  refine ⟨Int.natCast_nonneg _, ?_⟩
  rw [decimalMatch_some (orFail_ok.mp hmatch), decimalValue_append, Int.cast_natCast]
  push_cast
  field_simp

theorem le_foldl_max (rates : List DecimalRatio) (maximum : Nat) :
    let scale := rates.foldl (fun maximum rate => max maximum rate.fractionalDigits) maximum
    maximum ≤ scale ∧ ∀ rate ∈ rates, rate.fractionalDigits ≤ scale := by
  induction rates generalizing maximum with
  | nil => exact ⟨le_rfl, fun _ h => absurd h List.not_mem_nil⟩
  | cons rate rates ih =>
    obtain ⟨hle, hrates⟩ := ih (max maximum rate.fractionalDigits)
    refine ⟨(Nat.le_max_left _ _).trans hle, ?_⟩
    simp only [List.forall_mem_cons]
    exact ⟨(Nat.le_max_right _ _).trans hle, hrates⟩

theorem fractionalDigits_le_maximumScaleOf {rates : List DecimalRatio} {rate : DecimalRatio}
    (h : rate ∈ rates) : rate.fractionalDigits ≤ maximumScaleOf rates :=
  (le_foldl_max rates 0).2 rate h

end Rates

section AnnualYield

/-- The rate that a position earns in a year. -/
def InternalYieldPosition.rate (position : InternalYieldPosition) : ℚ :=
  readFixed position.opportunity.baseRateDecimal.toList

def exactAnnualYield (positions : List InternalYieldPosition) : ℚ :=
  (positions.map fun position => (position.amountUsdMinor : ℚ) * position.rate).sum

/-- The exact rate of the capital in basis points, which is zero where there is no capital. -/
def capitalWeightedRate (positions : List InternalYieldPosition) (capital : Int) : ℚ :=
  exactAnnualYield positions * 10000 / capital

/-- The rates were read from the positions. -/
def RatesOf (positions : List InternalYieldPosition) (rates : List DecimalRatio) : Prop :=
  List.Forall₂ (fun position rate => decimalRatio position.opportunity.baseRateDecimal = .ok rate)
    positions rates

variable {positions : List InternalYieldPosition} {rates : List DecimalRatio}

theorem scaledRate_eq {position : InternalYieldPosition} {rate : DecimalRatio} {scale : Nat}
    (h : decimalRatio position.opportunity.baseRateDecimal = .ok rate)
    (hscale : rate.fractionalDigits ≤ scale) :
    ((rate.numerator * 10 ^ (scale - rate.fractionalDigits) : Int) : ℚ) =
      position.rate * 10 ^ scale := by
  have hpow : (10 : ℚ) ^ scale =
      10 ^ rate.fractionalDigits * 10 ^ (scale - rate.fractionalDigits) := by
    rw [← pow_add, Nat.add_sub_cancel' hscale]
  rw [InternalYieldPosition.rate, ← (decimalRatio_ok h).2, hpow]
  push_cast
  field_simp

/-- The sum from a position on, at the scale of all rates. -/
theorem foldlM_annualYield {scale : Nat} (hread : RatesOf positions rates)
    (hscale : ∀ rate ∈ rates, rate.fractionalDigits ≤ scale) (before : List DecimalRatio)
    (total : Int) :
    ∃ n : Int, (positions.zipIdx before.length).foldlM (fun total (position, index) => do
        let rate ← orFail (before ++ rates)[index]? TypeError.missingApyRate
        let scaledRate := rate.numerator * 10 ^ (scale - rate.fractionalDigits)
        return total + position.amountUsdMinor * scaledRate) total = .ok n ∧
      (n : ℚ) = total + exactAnnualYield positions * 10 ^ scale := by
  induction hread generalizing before total with
  | nil => exact ⟨total, rfl, by simp [exactAnnualYield]⟩
  | @cons position rate positions rates hrate hread ih =>
    simp only [List.forall_mem_cons] at hscale
    obtain ⟨n, hn, hvalue⟩ := ih hscale.2 (before ++ [rate])
      (total + position.amountUsdMinor * (rate.numerator * 10 ^ (scale - rate.fractionalDigits)))
    refine ⟨n, ?_, ?_⟩
    · have hindex : (before ++ rate :: rates)[before.length]? = some rate := by simp
      simp only [List.append_assoc, List.singleton_append, List.length_append,
        List.length_singleton] at hn
      rw [List.zipIdx_cons, List.foldlM_cons]
      simp only [hindex, orFail, except_ok_bind]
      exact hn
    · have hscaled := scaledRate_eq hrate hscale.1
      have hsum : exactAnnualYield (position :: positions) =
          position.amountUsdMinor * position.rate + exactAnnualYield positions := List.sum_cons
      rw [hvalue, hsum, Int.cast_add, Int.cast_mul, hscaled]
      ring

theorem annualYieldNumeratorOf_eq {scale : Nat} (hread : RatesOf positions rates)
    (hscale : ∀ rate ∈ rates, rate.fractionalDigits ≤ scale) :
    ∃ n : Int, annualYieldNumeratorOf positions rates scale = .ok n ∧
      (n : ℚ) = exactAnnualYield positions * 10 ^ scale := by
  obtain ⟨n, hn, hvalue⟩ := foldlM_annualYield hread hscale [] 0
  rw [Int.cast_zero, zero_add] at hvalue
  exact ⟨n, hn, hvalue⟩

theorem InternalYieldPosition.rate_nonneg (position : InternalYieldPosition) :
    0 ≤ position.rate := by
  rw [InternalYieldPosition.rate, readFixed]
  positivity

theorem exactAnnualYield_nonneg (h : ∀ position ∈ positions, 0 ≤ position.amountUsdMinor) :
    0 ≤ exactAnnualYield positions := by
  refine List.sum_nonneg fun x hx => ?_
  obtain ⟨position, hposition, rfl⟩ := List.mem_map.mp hx
  exact mul_nonneg (by exact_mod_cast h position hposition) position.rate_nonneg

end AnnualYield

section Projection

/-- The greatest multiple of a number that is not above another. -/
theorem isGreatest_sub_emod (n : Int) {m : Int} (hm : 0 < m) :
    IsGreatest {b : Int | m ∣ b ∧ b ≤ n} (n - n % m) := by
  refine ⟨⟨Int.dvd_self_sub_emod, ?_⟩, ?_⟩
  · have := Int.emod_nonneg n hm.ne'
    omega
  · rintro b ⟨⟨k, rfl⟩, hb⟩
    have hk : k ≤ n / m := (Int.le_ediv_iff_mul_le hm).mpr (by rwa [mul_comm])
    have hdiv := Int.mul_ediv_add_emod n m
    have hle := mul_le_mul_of_nonneg_left hk hm.le
    omega

variable {positions : List InternalYieldPosition} {capital : Int}
  {projection : ExactYieldProjection}

theorem capital_nonneg (hamounts : ∀ position ∈ positions, 0 ≤ position.amountUsdMinor)
    (hsum : (positions.map (·.amountUsdMinor)).sum ≤ capital) : 0 ≤ capital := by
  refine le_trans (List.sum_nonneg fun x hx => ?_) hsum
  obtain ⟨position, hposition, rfl⟩ := List.mem_map.mp hx
  exact hamounts position hposition

theorem capitalWeightedRate_nonneg
    (hamounts : ∀ position ∈ positions, 0 ≤ position.amountUsdMinor) (hcapital : 0 ≤ capital) :
    0 ≤ capitalWeightedRate positions capital := by
  have hyield := exactAnnualYield_nonneg hamounts
  have hcast : (0 : ℚ) ≤ capital := by exact_mod_cast hcapital
  rw [capitalWeightedRate]
  positivity

/-- The projection is made of the whole basis points of the exact rate. -/
theorem calculateYieldProjection_ok
    (hamounts : ∀ position ∈ positions, 0 ≤ position.amountUsdMinor) (hcapital : 0 ≤ capital)
    (h : calculateYieldProjection positions capital = .ok projection) :
    projection = projectionAt capital ⌊capitalWeightedRate positions capital⌋ ∧
      ⌊capitalWeightedRate positions capital⌋ ≤ 10000 := by
  rw [calculateYieldProjection] at h
  obtain ⟨rates, hread, h⟩ := except_bind_ok.mp h
  obtain ⟨n, hn, hvalue⟩ := annualYieldNumeratorOf_eq (except_mapM_ok.mp hread)
    fun rate hrate => fractionalDigits_le_maximumScaleOf hrate
  simp only [hn, except_ok_bind] at h
  have hfloor : (if capital = 0 then 0
      else (n * 10000).tdiv (capital * 10 ^ maximumScaleOf rates)) =
      ⌊capitalWeightedRate positions capital⌋ := by
    split
    case isTrue hzero => rw [capitalWeightedRate, hzero, Int.cast_zero, div_zero, Int.floor_zero]
    case isFalse hpositive =>
      have hyield := exactAnnualYield_nonneg hamounts
      have hnonneg : 0 ≤ n := by
        have : (0 : ℚ) ≤ n := by rw [hvalue]; positivity
        exact_mod_cast this
      obtain ⟨c, rfl⟩ := Int.eq_ofNat_of_zero_le hcapital
      have hdiv := Rat.floor_intCast_div_natCast (n * 10000) (c * 10 ^ maximumScaleOf rates)
      push_cast at hdiv
      rw [Int.tdiv_eq_ediv_of_nonneg (by omega), ← hdiv, hvalue, capitalWeightedRate]
      congr 1
      push_cast
      field_simp
  rw [hfloor] at h
  obtain ⟨_, hlimits, h⟩ := except_bind_ok.mp h
  rw [failWhen_ok, not_or] at hlimits
  exact ⟨(except_pure_ok.mp h).symm, not_lt.mp hlimits.2⟩

theorem projectionAt_eq {exact : Int} (hcapital : 0 ≤ capital) (hexact : 0 ≤ exact) :
    projectionAt capital exact =
      ⟨capital * (exact - exact % publicApyBucketSizeBasisPoints), 10000,
        exact - exact % publicApyBucketSizeBasisPoints,
        capital * (exact - exact % publicApyBucketSizeBasisPoints) / 10000⟩ := by
  have heffective : 0 ≤ exact - exact % publicApyBucketSizeBasisPoints := by
    rw [publicApyBucketSizeBasisPoints]
    omega
  have hmul := mul_nonneg hcapital heffective
  rw [projectionAt, Int.tmod_eq_emod_of_nonneg hexact, Int.tdiv_eq_ediv_of_nonneg hmul]

/-- A rate below the exact one earns no more than the positions. -/
theorem projectedAnnualYield_le (hamounts : ∀ position ∈ positions, 0 ≤ position.amountUsdMinor)
    (hcapital : 0 ≤ capital) {apy : Int} (h : (apy : ℚ) ≤ capitalWeightedRate positions capital) :
    ((capital * apy / 10000 : Int) : ℚ) ≤ exactAnnualYield positions := by
  have hfloor := Int.floor_le (((capital * apy : Int) : ℚ) / (10000 : Nat))
  rw [Rat.floor_intCast_div_natCast] at hfloor
  refine hfloor.trans ?_
  rw [div_le_iff₀ (by norm_num), Int.cast_mul]
  obtain hzero | hpositive := hcapital.eq_or_lt'
  · rw [hzero, Int.cast_zero, zero_mul]
    exact mul_nonneg (exactAnnualYield_nonneg hamounts) (Nat.cast_nonneg _)
  · have hcast : (0 : ℚ) < capital := by exact_mod_cast hpositive
    rw [capitalWeightedRate, le_div_iff₀ hcast] at h
    rw [mul_comm]
    exact_mod_cast h

end Projection

section BreakEven

/-- The yield that has been shown as earned on a day. -/
def visibleYield (annualYieldNumerator days : Int) : Int :=
  annualYieldNumerator * days / (10000 * 365)

/-- The days on which the visible yield exceeds the fees. -/
def PositiveAfter (annualYieldNumerator fees : Int) : Set Int :=
  {days | 0 ≤ days ∧ fees < visibleYield annualYieldNumerator days}

variable {annual fees days : Int}

theorem lt_visibleYield_iff :
    fees < visibleYield annual days ↔ (fees + 1) * 365 * 10000 ≤ annual * days := by
  rw [visibleYield, ← Int.add_one_le_iff, Int.le_ediv_iff_mul_le (by decide)]
  omega

/-- The ceiling of a quotient is the least number whose product reaches the dividend. -/
theorem ceilingDivide_ok {n d : Int} (hn : 0 ≤ n) (hd : 0 < d) :
    ∃ quotient, ceilingDivide n d = .ok quotient ∧ 0 ≤ quotient ∧
      ∀ k, quotient ≤ k ↔ n ≤ d * k := by
  refine ⟨(n + d - 1) / d, ?_, Int.ediv_nonneg (by omega) hd.le, ?_⟩
  · have hvalid : ¬(n < 0 ∨ d ≤ 0) := by omega
    rw [ceilingDivide, failWhen, if_neg hvalid, except_ok_bind,
      Int.tdiv_eq_ediv_of_nonneg (by omega)]
    rfl
  · intro k
    rw [← Int.lt_add_one_iff, Int.ediv_lt_iff_lt_mul hd, add_one_mul, mul_comm k]
    omega

/-- From the first day after the fees on, the visible yield exceeds them. -/
theorem positiveAfter_mono (hannual : 0 ≤ annual) {day : Int} (h : day ∈ PositiveAfter annual fees)
    (hle : day ≤ days) : days ∈ PositiveAfter annual fees := by
  refine ⟨h.1.trans hle, lt_visibleYield_iff.mpr ?_⟩
  exact (lt_visibleYield_iff.mp h.2).trans (mul_le_mul_of_nonneg_left hle hannual)

theorem mem_positiveAfter_iff (hannual : 0 ≤ annual) {first : Int}
    (h : IsLeast (PositiveAfter annual fees) first) : days ∈ PositiveAfter annual fees ↔
      first ≤ days :=
  ⟨fun hdays => h.2 hdays, positiveAfter_mono hannual h.1⟩

theorem visibleYield_horizon :
    visibleYield annual breakEvenModelHorizonDays = annual / 10000 :=
  Int.mul_ediv_mul_of_pos_left annual 10000 (by decide)

/-- The yield of the year exceeds the fees when the last day of the horizon does. -/
theorem horizon_mem_positiveAfter :
    breakEvenModelHorizonDays ∈ PositiveAfter annual fees ↔ 0 < annual / 10000 - fees := by
  rw [← visibleYield_horizon, sub_pos]
  exact ⟨And.right, fun h => ⟨by decide, h⟩⟩

/-- A result that tells the first positive day and why there is none. -/
structure Agrees (annual fees : Int) (result : FirstPositiveDayAfterFees) : Prop where
  day_iff : ∀ day, result.day = some day ↔
    day ≤ breakEvenModelHorizonDays ∧ IsLeast (PositiveAfter annual fees) day
  recovered_iff : result.status = .recoveredWithinHorizon ↔
    ∃ day, day ≤ breakEvenModelHorizonDays ∧ IsLeast (PositiveAfter annual fees) day
  noYield_iff : result.status = .noProjectedYield ↔ ∀ days, 0 ≤ days → visibleYield annual days = 0
  notRecovered_iff : result.status = .notRecoveredWithinHorizon ↔
    (∃ days, 0 ≤ days ∧ visibleYield annual days ≠ 0) ∧
      ∀ days ∈ PositiveAfter annual fees, breakEvenModelHorizonDays < days
  sign_iff : result.status = .recoveredWithinHorizon ↔ 0 < annual / 10000 - fees

theorem agrees_noProjectedYield (hfees : 0 ≤ fees) :
    Agrees 0 fees (firstPositiveDayOf .noProjectedYield none) := by
  have hzero : ∀ days, visibleYield 0 days = 0 := fun days => by simp [visibleYield]
  have hnever : ∀ days, days ∉ PositiveAfter 0 fees := by
    rintro days ⟨_, hpositive⟩
    rw [hzero] at hpositive
    omega
  constructor
  case day_iff => exact fun day => ⟨fun h => (by cases h), fun h => absurd h.2.1 (hnever day)⟩
  case recovered_iff => exact ⟨fun h => (by cases h), fun ⟨day, h⟩ => absurd h.2.1 (hnever day)⟩
  case noYield_iff => exact ⟨fun _ days _ => hzero days, fun _ => rfl⟩
  case notRecovered_iff => exact ⟨fun h => (by cases h), fun ⟨⟨days, h⟩, _⟩ => absurd (hzero days) h.2⟩
  case sign_iff => exact ⟨fun h => (by cases h), fun h => by omega⟩

theorem agrees_firstPositiveDay (hannual : 0 ≤ annual) (hfees : 0 ≤ fees) {first : Int}
    (h : IsLeast (PositiveAfter annual fees) first) :
    Agrees annual fees (if first > breakEvenModelHorizonDays then
        firstPositiveDayOf .notRecoveredWithinHorizon none
      else firstPositiveDayOf .recoveredWithinHorizon (some first)) := by
  have hyield : 0 ≤ first ∧ visibleYield annual first ≠ 0 :=
    ⟨h.1.1, fun hzero => by have := h.1.2; omega⟩
  have hsign := (mem_positiveAfter_iff hannual h).symm.trans horizon_mem_positiveAfter
  split
  case isTrue hlate =>
    have hnever : ∀ day, ¬(day ≤ breakEvenModelHorizonDays ∧
        IsLeast (PositiveAfter annual fees) day) := by
      rintro day ⟨hday, hleast⟩
      rw [hleast.unique h] at hday
      omega
    constructor
    case day_iff => exact fun day => ⟨fun h => (by cases h), fun h => absurd h (hnever day)⟩
    case recovered_iff => exact ⟨fun h => (by cases h), fun ⟨day, h⟩ => absurd h (hnever day)⟩
    case noYield_iff => exact ⟨fun h => (by cases h), fun h => absurd (h first hyield.1) hyield.2⟩
    case notRecovered_iff =>
      exact ⟨fun _ => ⟨⟨first, hyield⟩, fun days hdays => hlate.trans_le (h.2 hdays)⟩, fun _ => rfl⟩
    case sign_iff => exact ⟨fun h => (by cases h), fun h => absurd (hsign.mpr h) (not_le.mpr hlate)⟩
  case isFalse hearly =>
    have hearly := not_lt.mp hearly
    constructor
    case day_iff =>
      intro day
      constructor
      · rintro ⟨⟩
        exact ⟨hearly, h⟩
      · rintro ⟨_, hleast⟩
        rw [hleast.unique h]
        rfl
    case recovered_iff => exact ⟨fun _ => ⟨first, hearly, h⟩, fun _ => rfl⟩
    case noYield_iff => exact ⟨fun h => (by cases h), fun h => absurd (h first hyield.1) hyield.2⟩
    case notRecovered_iff =>
      exact ⟨fun h => (by cases h), fun hlate => absurd hearly (not_le.mpr (hlate.2 first h.1))⟩
    case sign_iff => exact ⟨fun _ => hsign.mp hearly, fun _ => rfl⟩

variable {projection : ExactYieldProjection}

theorem calculateFirstPositiveDayAfterFees_agrees
    (hannual : 0 ≤ projection.annualYieldNumerator) (hdenominator : projection.denominator = 10000)
    (hfees : 0 ≤ fees) :
    ∃ result, calculateFirstPositiveDayAfterFees projection fees = .ok result ∧
      Agrees projection.annualYieldNumerator fees result := by
  obtain hzero | hpositive := hannual.eq_or_lt'
  · refine ⟨firstPositiveDayOf .noProjectedYield none, ?_, ?_⟩
    · rw [calculateFirstPositiveDayAfterFees, if_pos hzero]
      rfl
    · rw [hzero]
      exact agrees_noProjectedYield hfees
  · obtain ⟨first, hfirst, hnonneg, hle⟩ :=
      ceilingDivide_ok (n := (fees + 1) * 365 * 10000) (by omega) hpositive
    have hleast : IsLeast (PositiveAfter projection.annualYieldNumerator fees) first :=
      ⟨⟨hnonneg, lt_visibleYield_iff.mpr ((hle first).mp le_rfl)⟩,
        fun d hd => (hle d).mpr (lt_visibleYield_iff.mp hd.2)⟩
    refine ⟨_, ?_, agrees_firstPositiveDay hannual hfees hleast⟩
    rw [calculateFirstPositiveDayAfterFees, if_neg hpositive.ne', hdenominator, hfirst]
    by_cases hhorizon : first > breakEvenModelHorizonDays
    · simp only [hhorizon, if_true, except_ok_bind]
      rfl
    · simp only [hhorizon, if_false, except_ok_bind]
      rfl

end BreakEven

section Preview

variable {positions : List InternalYieldPosition} {capital fees : Int}
  {projection : ExactYieldProjection}

/-- The rate, the yield and the first positive day of a projection agree with one another and
never exceed what the positions earn. -/
theorem calculateYieldProjection_breakEven
    (hamounts : ∀ position ∈ positions, 0 ≤ position.amountUsdMinor)
    (hsum : (positions.map (·.amountUsdMinor)).sum ≤ capital) (hfees : 0 ≤ fees)
    (h : calculateYieldProjection positions capital = .ok projection) :
    let apy := projection.effectiveApyBasisPoints
    let yieldOn := fun days : Int => capital * apy * days / (10000 * 365)
    let positive := {days : Int | 0 ≤ days ∧ fees < yieldOn days}
    IsGreatest {b : Int | publicApyBucketSizeBasisPoints ∣ b ∧
        (b : ℚ) ≤ capitalWeightedRate positions capital} apy ∧
      projection.projectedAnnualYield = capital * apy / 10000 ∧
      (projection.projectedAnnualYield : ℚ) ≤ exactAnnualYield positions ∧
      ∃ result, calculateFirstPositiveDayAfterFees projection fees = .ok result ∧
        (∀ day, result.day = some day ↔
          day ≤ breakEvenModelHorizonDays ∧ IsLeast positive day) ∧
        (result.status = .recoveredWithinHorizon ↔
          ∃ day, day ≤ breakEvenModelHorizonDays ∧ IsLeast positive day) ∧
        (result.status = .noProjectedYield ↔ ∀ days, 0 ≤ days → yieldOn days = 0) ∧
        (result.status = .notRecoveredWithinHorizon ↔
          (∃ days, 0 ≤ days ∧ yieldOn days ≠ 0) ∧
            ∀ days ∈ positive, breakEvenModelHorizonDays < days) ∧
        (result.status = .recoveredWithinHorizon ↔ 0 < projection.projectedAnnualYield - fees) := by
  have hcapital := capital_nonneg hamounts hsum
  have hrate := capitalWeightedRate_nonneg hamounts hcapital
  obtain ⟨hprojection, _⟩ := calculateYieldProjection_ok hamounts hcapital h
  rw [projectionAt_eq hcapital (Int.floor_nonneg.mpr hrate)] at hprojection
  have hgreatest := isGreatest_sub_emod ⌊capitalWeightedRate positions capital⌋
    (m := publicApyBucketSizeBasisPoints) (by decide)
  simp only [Int.le_floor] at hgreatest
  generalize ⌊capitalWeightedRate positions capital⌋ -
    ⌊capitalWeightedRate positions capital⌋ % publicApyBucketSizeBasisPoints = apy
    at hprojection hgreatest
  subst hprojection
  intro _ yieldOn positive
  have hapy : 0 ≤ apy := hgreatest.2 ⟨dvd_zero _, by exact_mod_cast hrate⟩
  have hannual := mul_nonneg hcapital hapy
  obtain ⟨result, hresult, hagrees⟩ : ∃ result, calculateFirstPositiveDayAfterFees
      ⟨capital * apy, 10000, apy, capital * apy / 10000⟩ fees = .ok result ∧
        Agrees (capital * apy) fees result :=
    calculateFirstPositiveDayAfterFees_agrees hannual rfl hfees
  refine ⟨hgreatest, rfl, projectedAnnualYield_le hamounts hcapital hgreatest.1.2, result, hresult,
    hagrees.day_iff, hagrees.recovered_iff, hagrees.noYield_iff, hagrees.notRecovered_iff,
    hagrees.sign_iff⟩

/-- Two positions whose rates have different scales. -/
def samplePositions : List InternalYieldPosition :=
  [⟨⟨"0.0454"⟩, 60000⟩, ⟨⟨"0.05"⟩, 40000⟩]

def sampleProjection : ExactYieldProjection := ⟨45000000, 10000, 450, 4500⟩

theorem calculateYieldProjection_sample :
    calculateYieldProjection samplePositions 100000 = .ok sampleProjection := by
  have hfirst : decimalRatio "0.0454" = .ok ⟨454, 4⟩ := by
    rw [decimalRatio, String.toList_ofList]
    rfl
  have hsecond : decimalRatio "0.05" = .ok ⟨5, 2⟩ := by
    rw [decimalRatio, String.toList_ofList]
    rfl
  have hread : samplePositions.mapM (fun p => decimalRatio p.opportunity.baseRateDecimal) =
      .ok [⟨454, 4⟩, ⟨5, 2⟩] := except_mapM_ok.mpr (.cons hfirst (.cons hsecond .nil))
  rw [calculateYieldProjection, hread]
  rfl

theorem sampleProjection_breakEven :
    IsGreatest {b : Int | publicApyBucketSizeBasisPoints ∣ b ∧
        (b : ℚ) ≤ capitalWeightedRate samplePositions 100000} 450 ∧
      ∃ result, calculateFirstPositiveDayAfterFees sampleProjection 1000 = .ok result ∧
        result.day = some 82 ∧
        ∀ day, result.day = some day ↔ day ≤ breakEvenModelHorizonDays ∧
          IsLeast {days : Int | 0 ≤ days ∧ 1000 < (100000 : Int) * 450 * days / (10000 * 365)} day := by
  have hamounts : ∀ position ∈ samplePositions, 0 ≤ position.amountUsdMinor := by
    simp [samplePositions]
  obtain ⟨hgreatest, _, _, result, hresult, hday, _⟩ := calculateYieldProjection_breakEven hamounts
    (by decide) (show (0 : Int) ≤ 1000 by decide) calculateYieldProjection_sample
  refine ⟨hgreatest, result, hresult, ?_, hday⟩
  have hsample : calculateFirstPositiveDayAfterFees sampleProjection 1000 =
      .ok (firstPositiveDayOf .recoveredWithinHorizon (some 82)) := rfl
  rw [hsample] at hresult
  rw [← Except.ok.inj hresult]
  rfl

end Preview

end CryptoLending.LocalDemo.YieldProjection
