import CryptoLending.Lib.Numeral
import CryptoLending.RoutingFees.RoutingFeeAmount

namespace CryptoLending.RoutingFees.RoutingFeeExactness

open Lib Lib.JsValue Lib.Text Lib.Decimal Lib.DecimalText Lib.Rounding Lib.Numeral
  Lib.BoundedNumeral RoutingFeeAmount

def RoutingFeeRoundingMode.direction : RoutingFeeRoundingMode → Direction
  | .down => .down
  | .up => .up
  | .halfEven => .halfEven

theorem roundRatio_rounds (numerator : Nat) {denominator : Nat} (h : 0 < denominator)
    (roundingMode : RoutingFeeRoundingMode) :
    Rounds (RoutingFeeRoundingMode.direction roundingMode) (numerator / denominator)
      (roundRatio numerator denominator roundingMode) := by
  by_cases hr : numerator % denominator = 0
  · simp only [roundRatio, hr, true_or, if_true]
    exact rounds_exact h _ hr
  cases roundingMode with
  | down =>
    simp only [roundRatio, or_true, if_true]
    exact rounds_down numerator denominator
  | up =>
    simp only [roundRatio, hr, reduceCtorEq, or_false, if_false, if_true]
    exact rounds_up h hr
  | halfEven =>
    simp only [roundRatio, hr, reduceCtorEq, or_false, if_false]
    exact divideRoundHalfEven_rounds numerator h

section Amounts

theorem maxRoutingFeeAtomicAmount_positive :
    isPositiveUint maxRoutingFeeAtomicAmount.toList = true := by decide

theorem maxRoutingFeeAtomicAmount_value :
    decimalValue maxRoutingFeeAtomicAmount.toList = 2 ^ 256 - 1 := by
  set_option maxRecDepth 4000 in decide

theorem AtomicAmount.value_le (amount : AtomicAmount true) : amount.value ≤ 2 ^ 256 - 1 := by
  have h := amount.accepted
  simp only [isAtomicAmount, if_true, Bool.and_eq_true, Bool.not_eq_true'] at h
  have hle := (not_exceeds_iff h.1 maxRoutingFeeAtomicAmount_positive).mp h.2
  rwa [maxRoutingFeeAtomicAmount_value] at hle

/-- The numeral of a number of at most 256 bits. -/
def atomicAmount (n : Nat) (h : n ≤ 2 ^ 256 - 1) : AtomicAmount true where
  text := integerText n
  accepted := by
    have hc : isCanonicalUint (integerText n).toList = true := by
      rw [toList_integerText]
      exact isCanonicalUint_toDigits n
    have hle : decimalValue (integerText n).toList ≤
        decimalValue maxRoutingFeeAtomicAmount.toList := by
      rwa [decimalValue_integerText, maxRoutingFeeAtomicAmount_value]
    have hbound := (not_exceeds_iff hc maxRoutingFeeAtomicAmount_positive).mpr hle
    simp only [isAtomicAmount, if_true, hc, hbound, Bool.not_false, Bool.and_self]

theorem parseAtomicAmount_text {allowZero : Bool} (amount : AtomicAmount allowZero)
    (code : RoutingFeeValidationCode) :
    parseAtomicAmount (.string amount.text) allowZero code = .ok amount := by
  refine except_bind_ok.mpr ⟨amount.text, orFail_ok.mpr rfl, ?_⟩
  rw [dif_pos amount.accepted]

end Amounts

theorem enumMember_text (roundingMode : RoutingFeeRoundingMode) (code : RoutingFeeValidationCode) :
    enumMember RoutingFeeRoundingMode.text (.string roundingMode.text) routingFeeRoundingModes code =
      .ok roundingMode := by
  cases roundingMode <;> rfl

section Rates

variable (rate : RoutingFeeDecimalV1)

theorem RoutingFeeDecimalV1.mantissa_le :
    decimalValue rate.mantissa.toList ≤ 10 ^ rate.scale := by
  have h := rate.accepted
  simp only [isDecimal, Bool.and_eq_true, decide_eq_true_eq] at h
  exact h.2

theorem RoutingFeeDecimalV1.value_le_one : rate.value ≤ 1 := by
  have hpos := powerOfTen_cast_pos rate.scale
  rw [RoutingFeeDecimalV1.value, FixedDecimal.value]
  apply (div_le_one₀ hpos).mpr
  exact_mod_cast RoutingFeeDecimalV1.mantissa_le rate

/-- The exact fee of an amount at a rate. -/
theorem ratio_eq (amount : Nat) :
    ((amount * decimalValue rate.mantissa.toList : Nat) : ℚ) / (10 ^ rate.scale : Nat) =
      amount * rate.value := by
  rw [Nat.cast_mul, mul_div_assoc]
  rfl

end Rates

/-- The fee before it is written as a text. -/
def routingFee (amount : Nat) (rate : RoutingFeeDecimalV1)
    (roundingMode : RoutingFeeRoundingMode) : Nat :=
  roundRatio (amount * decimalValue rate.mantissa.toList) (10 ^ rate.scale) roundingMode

section Fees

variable {amount amount' : Nat} {rate rate' : RoutingFeeDecimalV1}
  {roundingMode : RoutingFeeRoundingMode}

theorem routingFee_rounds (amount : Nat) (rate : RoutingFeeDecimalV1)
    (roundingMode : RoutingFeeRoundingMode) :
    Rounds (RoutingFeeRoundingMode.direction roundingMode) (amount * rate.value)
      (routingFee amount rate roundingMode) := by
  rw [← ratio_eq]
  exact roundRatio_rounds _ (Nat.pow_pos (by omega)) roundingMode

theorem routingFee_le (amount : Nat) (rate : RoutingFeeDecimalV1)
    (roundingMode : RoutingFeeRoundingMode) : routingFee amount rate roundingMode ≤ amount := by
  apply (routingFee_rounds amount rate roundingMode).le_of_le
  exact mul_le_of_le_one_right (Nat.cast_nonneg amount) (RoutingFeeDecimalV1.value_le_one rate)

theorem routingFee_mono (hamount : amount ≤ amount') (hrate : rate.value ≤ rate'.value) :
    routingFee amount rate roundingMode ≤ routingFee amount' rate' roundingMode := by
  apply (routingFee_rounds amount rate roundingMode).mono (routingFee_rounds amount' rate' _)
  have hcast : (amount : ℚ) ≤ amount' := by exact_mod_cast hamount
  exact mul_le_mul hcast hrate (FixedDecimal.value_nonneg _) (Nat.cast_nonneg _)

def decimalRecord (mantissa : String) (scale : Int) : Value :=
  ofFields [("mantissa", .string mantissa), ("scale", .integer scale)]

theorem parseDecimal_record (rate : RoutingFeeDecimalV1) (code : RoutingFeeValidationCode) :
    parseDecimal (decimalRecord rate.mantissa rate.scale) code = .ok rate := by
  refine except_bind_ok.mpr ⟨[("mantissa", .string rate.mantissa), ("scale", .integer rate.scale)],
    orFail_ok.mpr rfl, except_bind_ok.mpr ⟨rate.mantissa, rfl,
    except_bind_ok.mpr ⟨(rate.scale : Int), rfl, ?_⟩⟩⟩
  rw [dif_pos ⟨Int.natCast_nonneg rate.scale, rate.accepted⟩]
  rfl

/-- A rate written with one more zero. -/
structure Rewrites (rate rate' : RoutingFeeDecimalV1) : Prop where
  mantissa : decimalValue rate'.mantissa.toList = decimalValue rate.mantissa.toList * 10
  scale : rate'.scale = rate.scale + 1

theorem Rewrites.value_eq (h : Rewrites rate rate') : rate'.value = rate.value := by
  have hs := FixedDecimal.value_rescale rate.fixed (Nat.le_succ rate.scale)
  have hstep : rate.scale.succ - rate.fixed.scale = 1 := Nat.add_sub_cancel_left rate.scale 1
  rw [hstep] at hs
  rw [RoutingFeeDecimalV1.value, RoutingFeeDecimalV1.value, ← hs]
  simp only [RoutingFeeDecimalV1.fixed, h.mantissa, h.scale, powerOfTen, pow_one,
    Nat.succ_eq_add_one]

theorem Rewrites.routingFee_eq (h : Rewrites rate rate') :
    routingFee amount rate' roundingMode = routingFee amount rate roundingMode := by
  have hrounds := routingFee_rounds amount rate' roundingMode
  rw [h.value_eq] at hrounds
  exact hrounds.unique (routingFee_rounds amount rate roundingMode)

/-- A rate can be rewritten as long as its scale leaves room. -/
theorem exists_rewrites (h : rate.scale < maxDecimalScale) :
    ∃ rate', Rewrites rate rate' := by
  have hm := RoutingFeeDecimalV1.mantissa_le rate
  have hcap : decimalValue rate.mantissa.toList * 10 ≤ 10 ^ (rate.scale + 1) := by
    rw [pow_succ]
    exact Nat.mul_le_mul_right 10 hm
  have hlt : decimalValue rate.mantissa.toList * 10 < 10 ^ maxDecimalDigits :=
    calc decimalValue rate.mantissa.toList * 10 ≤ 10 ^ (rate.scale + 1) := hcap
      _ < 10 ^ maxDecimalDigits := Nat.pow_lt_pow_right (by omega) (Nat.succ_lt_succ h)
  have hlength : (integerText (decimalValue rate.mantissa.toList * 10)).length ≤
      maxDecimalDigits := by
    rw [← String.length_toList, toList_integerText]
    exact decimalLength_le (by decide) hlt
  refine ⟨⟨integerText (decimalValue rate.mantissa.toList * 10), rate.scale + 1, ?_⟩, ?_, rfl⟩
  · simp only [isDecimal, decimalValue_integerText, Bool.and_eq_true, decide_eq_true_eq]
    refine ⟨⟨⟨?_, hlength⟩, h⟩, hcap⟩
    rw [toList_integerText]
    exact isCanonicalUint_toDigits _
  · exact decimalValue_integerText _

end Fees

section Calculating

variable {rateValue : Value} {rate : RoutingFeeDecimalV1}

/-- The fee of an amount, as the source writes it. -/
def feeText (amount : Nat) (rateValue : Value) (roundingMode : RoutingFeeRoundingMode) :
    Except RoutingFeeValidationCode String :=
  calculateRoutingFeeAtomicAmount (.string (integerText amount)) rateValue
    (.string roundingMode.text)

theorem not_exceeds_max (amount : AtomicAmount true) (rate : RoutingFeeDecimalV1)
    (roundingMode : RoutingFeeRoundingMode) :
    ¬routingFee amount.value rate roundingMode > decimalValue maxRoutingFeeAtomicAmount.toList := by
  rw [maxRoutingFeeAtomicAmount_value, not_lt]
  exact (routingFee_le amount.value rate roundingMode).trans (AtomicAmount.value_le amount)

theorem feeText_eq {amount : Nat} (h : amount ≤ 2 ^ 256 - 1)
    (hrate : parseDecimal rateValue .invalidRule = .ok rate)
    (roundingMode : RoutingFeeRoundingMode) :
    feeText amount rateValue roundingMode = .ok (integerText (routingFee amount rate roundingMode)) := by
  have hamount := parseAtomicAmount_text (atomicAmount amount h) .invalidAtomicAmount
  have hvalue : (atomicAmount amount h).value = amount := decimalValue_integerText amount
  have hmax := not_exceeds_max (atomicAmount amount h) rate roundingMode
  refine except_bind_ok.mpr ⟨_, hamount, except_bind_ok.mpr ⟨_, hrate, except_bind_ok.mpr
    ⟨_, enumMember_text roundingMode _, except_bind_ok.mpr ⟨(), failWhen_ok.mpr hmax, ?_⟩⟩⟩⟩
  rw [hvalue]
  rfl

theorem parseAtomicAmount_ne_error {v : Value} {allowZero : Bool}
    {code e : RoutingFeeValidationCode} (h : code ≠ e) :
    parseAtomicAmount v allowZero code ≠ .error e := by
  refine except_bind_ne_error (orFail_ne_error h) fun text => ?_
  split
  · exact fun he => (by cases he)
  · exact fun he => h (Except.error.inj he)

theorem parseDecimal_ne_error {v : Value} {code e : RoutingFeeValidationCode} (h : code ≠ e) :
    parseDecimal v code ≠ .error e := by
  refine except_bind_ne_error (orFail_ne_error h) fun record =>
    except_bind_ne_error (orFail_ne_error h) fun mantissa =>
    except_bind_ne_error (orFail_ne_error h) fun scale => ?_
  split
  · exact fun he => (by cases he)
  · exact fun he => h (Except.error.inj he)

/-- The limit of the result is never met, whatever the function is given. -/
theorem calculateRoutingFeeAtomicAmount_ne_limit
    (amountAtomicValue rateValue roundingModeValue : Value) :
    calculateRoutingFeeAtomicAmount amountAtomicValue rateValue roundingModeValue ≠
      .error .numericLimitExceeded := by
  refine except_bind_ne_error (parseAtomicAmount_ne_error (by decide)) fun amount =>
    except_bind_ne_error (parseDecimal_ne_error (by decide)) fun rate =>
    except_bind_ne_error (orFail_ne_error (by decide)) fun roundingMode => ?_
  have hmax := not_exceeds_max amount rate roundingMode
  have hpass : failWhen (routingFee amount.value rate roundingMode >
      decimalValue maxRoutingFeeAtomicAmount.toList) RoutingFeeValidationCode.numericLimitExceeded =
        .ok () := failWhen_ok.mpr hmax
  apply except_bind_ne_error
  · rw [routingFee] at hpass
    rw [hpass]
    exact fun h => (by cases h)
  · exact fun _ h => (by cases h)

end Calculating

/-- The fee of an amount at a rate is the rounded product, grows with the amount and the rate and
does not depend on how the rate is written. -/
theorem calculateRoutingFeeAtomicAmount_exact :
    (∀ amountAtomicValue rateValue roundingModeValue,
      calculateRoutingFeeAtomicAmount amountAtomicValue rateValue roundingModeValue ≠
        .error .numericLimitExceeded) ∧
    ∀ (roundingMode : RoutingFeeRoundingMode) (amount : Nat), amount ≤ 2 ^ 256 - 1 →
      ∀ rateValue rate, parseDecimal rateValue .invalidRule = .ok rate →
      ∃ fee, feeText amount rateValue roundingMode = .ok (integerText fee) ∧ fee ≤ amount ∧
        Rounds (RoutingFeeRoundingMode.direction roundingMode) (amount * rate.value) fee ∧
        (∀ amount' rateValue' rate', amount' ≤ 2 ^ 256 - 1 →
          parseDecimal rateValue' .invalidRule = .ok rate' → amount ≤ amount' →
          rate.value ≤ rate'.value → ∃ fee',
            feeText amount' rateValue' roundingMode = .ok (integerText fee') ∧ fee ≤ fee') ∧
        (∀ rateValue' rate', parseDecimal rateValue' .invalidRule = .ok rate' →
          Rewrites rate rate' →
          feeText amount rateValue' roundingMode = feeText amount rateValue roundingMode) ∧
        (rate.scale < maxDecimalScale → ∃ rateValue' rate',
          parseDecimal rateValue' .invalidRule = .ok rate' ∧ Rewrites rate rate') := by
  refine ⟨calculateRoutingFeeAtomicAmount_ne_limit, fun roundingMode amount hamount rateValue rate
    hrate => ⟨routingFee amount rate roundingMode, feeText_eq hamount hrate roundingMode,
      routingFee_le _ _ _, routingFee_rounds _ _ _, ?_, ?_, fun hscale => ?_⟩⟩
  · intro amount' rateValue' rate' hamount' hrate' hle hvalue
    exact ⟨_, feeText_eq hamount' hrate' roundingMode, routingFee_mono hle hvalue⟩
  · intro rateValue' rate' hrate' hrewrites
    rw [feeText_eq hamount hrate', feeText_eq hamount hrate, hrewrites.routingFee_eq]
  · obtain ⟨rate', hrewrites⟩ := exists_rewrites hscale
    exact ⟨_, rate', parseDecimal_record rate' _, hrewrites⟩

section Sample

def sampleBasisPoints : RoutingFeeDecimalV1 := ⟨"20", 4, by decide⟩
def sampleRewritten : RoutingFeeDecimalV1 := ⟨"200", 5, by decide⟩

/-- Twenty basis points of the largest amount, and of an amount with a tie. -/
theorem sampleFees_exact :
    (∃ fee, feeText (2 ^ 256 - 1) (decimalRecord "20" 4) .up = .ok (integerText fee) ∧
      fee ≤ 2 ^ 256 - 1) ∧
    ∃ fee, feeText 750 (decimalRecord "20" 4) .halfEven = .ok (integerText fee) ∧
      RoundsHalfEven ((750 : Nat) * sampleBasisPoints.value) fee ∧
      (∃ fee', feeText 751 (decimalRecord "200" 5) .halfEven = .ok (integerText fee') ∧ fee ≤ fee') ∧
      feeText 750 (decimalRecord "200" 5) .halfEven = feeText 750 (decimalRecord "20" 4) .halfEven := by
  have hrate : parseDecimal (decimalRecord "20" 4) .invalidRule = .ok sampleBasisPoints := by
    decide
  have hrewritten : parseDecimal (decimalRecord "200" 5) .invalidRule = .ok sampleRewritten := by
    decide
  have hrewrites : Rewrites sampleBasisPoints sampleRewritten := ⟨by decide, rfl⟩
  obtain ⟨fee, hfee, hle, _⟩ := calculateRoutingFeeAtomicAmount_exact.2 .up (2 ^ 256 - 1) le_rfl
    (decimalRecord "20" 4) sampleBasisPoints hrate
  obtain ⟨tie, htie, _, hrounds, hmono, hsame, _⟩ := calculateRoutingFeeAtomicAmount_exact.2 .halfEven
    750 (by omega) (decimalRecord "20" 4) sampleBasisPoints hrate
  refine ⟨⟨fee, hfee, hle⟩, tie, htie, hrounds, ?_, ?_⟩
  · exact hmono 751 _ _ (by omega) hrewritten (by omega) hrewrites.value_eq.ge
  · exact hsame _ _ hrewritten hrewrites

end Sample

end CryptoLending.RoutingFees.RoutingFeeExactness
