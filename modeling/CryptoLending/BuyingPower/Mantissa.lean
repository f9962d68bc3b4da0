import CryptoLending.Lib.DecimalText
import CryptoLending.Lib.IsoReading
import CryptoLending.Lib.JsReading
import CryptoLending.Lib.Numeral
import CryptoLending.Lib.Transaction

namespace CryptoLending.BuyingPower.Mantissa

open Lib Lib.JsValue Lib.Text Lib.DecimalText

def maxUsdMantissaDigits : Nat := 100

/-- A canonical unsigned integer of at most 100 digits. -/
def isUsdMantissa (cs : List Char) : Bool :=
  isCanonicalUint cs && decide (cs.length ≤ maxUsdMantissaDigits)

abbrev BuyingPowerUsdMantissa := Matching isUsdMantissa

def BuyingPowerUsdMantissa.value (m : BuyingPowerUsdMantissa) : Nat := decimalValue m.text.toList

inductive BuyingPowerDeductionKind where
  | liquidity
  | conversion
  | slippage
  | network
  | routing
  deriving DecidableEq

def BuyingPowerDeductionKind.text : BuyingPowerDeductionKind → String
  | .liquidity => "liquidity"
  | .conversion => "conversion"
  | .slippage => "slippage"
  | .network => "network"
  | .routing => "routing"

def buyingPowerDeductionKinds : List BuyingPowerDeductionKind :=
  [.liquidity, .conversion, .slippage, .network, .routing]

inductive BuyingPowerFreshness where
  | current
  | stale
  | unavailable
  deriving DecidableEq

def BuyingPowerFreshness.text : BuyingPowerFreshness → String
  | .current => "CURRENT"
  | .stale => "STALE"
  | .unavailable => "UNAVAILABLE"

inductive BuyingPowerValuationUse where
  | conservativeReportingOnly
  | blocked
  deriving DecidableEq

def BuyingPowerValuationUse.text : BuyingPowerValuationUse → String
  | .conservativeReportingOnly => "CONSERVATIVE_REPORTING_ONLY"
  | .blocked => "BLOCKED"

inductive BuyingPowerUnavailableReason where
  | noEligibleContributions
  | unsupportedAsset
  | unpricedAsset
  | staleData
  | sourceUnavailable
  | valuationUseBlocked
  | liquidityDataUnavailable
  | conversionCostUnavailable
  | slippageDataUnavailable
  | networkCostUnavailable
  | routingDataUnavailable
  | routeUnavailable
  | adjustmentSourceFailed
  | invalidAdjustmentResponse
  | adjustmentsExceedValue
  deriving DecidableEq

inductive BuyingPowerValidationCode where
  | invalidUsdMantissa
  | numericLimitExceeded
  | negativeUsdResult
  deriving DecidableEq

/-- One amount for each kind of deduction. -/
abbrev BuyingPowerDeductionBreakdown := BuyingPowerDeductionKind → BuyingPowerUsdMantissa

section Arithmetic

/-- The text of a number is a mantissa exactly when the number has at most 100 digits. -/
theorem isUsdMantissa_iff (n : Nat) : isUsdMantissa (integerText n).toList = true ↔
    (integerText n).length ≤ maxUsdMantissaDigits := by
  rw [← String.length_toList, toList_integerText, isUsdMantissa,
    Numeral.isCanonicalUint_toDigits, Bool.true_and, decide_eq_true_iff]

theorem length_integerText_le_iff (n : Nat) :
    (integerText n).length ≤ maxUsdMantissaDigits ↔ n < 10 ^ maxUsdMantissaDigits := by
  rw [← String.length_toList, toList_integerText]
  exact Nat.length_toDigits_le_iff (by omega) (by decide)

theorem BuyingPowerUsdMantissa.value_lt (m : BuyingPowerUsdMantissa) :
    m.value < 10 ^ maxUsdMantissaDigits := by
  obtain ⟨hcanonical, hlength⟩ := Bool.and_eq_true_iff.mp m.passes
  have hlt := decimalValue_lt (isCanonicalUint_digits hcanonical)
  exact hlt.trans_le (Nat.pow_le_pow_right (by omega) (of_decide_eq_true hlength))

/-- The mantissa of a number. -/
def mantissa (n : Nat) (h : (integerText n).length ≤ maxUsdMantissaDigits) :
    BuyingPowerUsdMantissa := ⟨integerText n, (isUsdMantissa_iff n).mpr h⟩

@[simp] theorem value_mantissa (n : Nat) (h : (integerText n).length ≤ maxUsdMantissaDigits) :
    (mantissa n h).value = n := decimalValue_integerText n

def normalizeBuyingPowerUsdMantissa (v : Value) :
    Except BuyingPowerValidationCode BuyingPowerUsdMantissa :=
  orFail (Matching.ofValue isUsdMantissa v) .invalidUsdMantissa

def addBuyingPowerUsdMantissas (values : List BuyingPowerUsdMantissa) :
    Except BuyingPowerValidationCode BuyingPowerUsdMantissa :=
  let sum := values.foldl (fun total value => total + value.value) 0
  if h : (integerText sum).length ≤ maxUsdMantissaDigits then .ok (mantissa sum h)
  else .error .numericLimitExceeded

def subtractBuyingPowerUsdMantissas (minuend subtrahend : BuyingPowerUsdMantissa) :
    Except BuyingPowerValidationCode BuyingPowerUsdMantissa :=
  if subtrahend.value > minuend.value then .error .negativeUsdResult
  else .ok (mantissa (minuend.value - subtrahend.value)
    ((length_integerText_le_iff _).mpr ((Nat.sub_le _ _).trans_lt minuend.value_lt)))

def zeroUsdMantissa : BuyingPowerUsdMantissa := ⟨"0", by decide⟩

def zeroBuyingPowerDeductions : BuyingPowerDeductionBreakdown := fun _ => zeroUsdMantissa

def totalBuyingPowerDeductions (deductions : BuyingPowerDeductionBreakdown) :
    Except BuyingPowerValidationCode BuyingPowerUsdMantissa :=
  addBuyingPowerUsdMantissas (buyingPowerDeductionKinds.map deductions)

theorem foldl_values (values : List BuyingPowerUsdMantissa) (start : Nat) :
    values.foldl (fun total value => total + value.value) start =
      start + (values.map (·.value)).sum := by
  induction values generalizing start with
  | nil => rfl
  | cons m values ih => rw [List.foldl_cons, ih, List.map_cons, List.sum_cons, Nat.add_assoc]

/-- A sum is returned exactly when it has at most 100 digits. -/
theorem addBuyingPowerUsdMantissas_ok {values : List BuyingPowerUsdMantissa}
    {m : BuyingPowerUsdMantissa} (h : addBuyingPowerUsdMantissas values = .ok m) :
    m.value = (values.map (·.value)).sum := by
  unfold addBuyingPowerUsdMantissas at h
  dsimp only at h
  split at h
  · rw [← Except.ok.inj h, value_mantissa, foldl_values, Nat.zero_add]
  · cases h

theorem exists_add_iff {values : List BuyingPowerUsdMantissa} :
    (∃ m, addBuyingPowerUsdMantissas values = .ok m) ↔
      (values.map (·.value)).sum < 10 ^ maxUsdMantissaDigits := by
  rw [← length_integerText_le_iff, ← Nat.zero_add (values.map (·.value)).sum, ← foldl_values]
  constructor
  · rintro ⟨m, h⟩
    by_contra hlength
    rw [addBuyingPowerUsdMantissas, dif_neg hlength] at h
    cases h
  · exact fun hlength => ⟨_, dif_pos hlength⟩

theorem subtractBuyingPowerUsdMantissas_ok {a b m : BuyingPowerUsdMantissa}
    (h : subtractBuyingPowerUsdMantissas a b = .ok m) : m.value + b.value = a.value := by
  unfold subtractBuyingPowerUsdMantissas at h
  split at h
  · cases h
  · rw [← Except.ok.inj h, value_mantissa]
    omega

theorem value_zeroUsdMantissa : zeroUsdMantissa.value = 0 := rfl

end Arithmetic

end CryptoLending.BuyingPower.Mantissa
