import Mathlib.Algebra.Order.Field.Basic
import Mathlib.Algebra.Order.Field.Rat
import Mathlib.Algebra.Order.Floor.Semifield
import Mathlib.Algebra.Ring.Parity
import Mathlib.Data.Nat.Digits.Defs
import Mathlib.Data.Rat.Floor
import Mathlib.Tactic.FieldSimp
import Mathlib.Tactic.Linarith
import Mathlib.Tactic.Ring

namespace CryptoLending.Lib.Decimal

def powerOfTen (exponent : Nat) : Nat := 10 ^ exponent

/-- An unsigned decimal number with a fixed number of fractional digits. -/
structure FixedDecimal where
  mantissa : Nat
  scale : Nat
  deriving DecidableEq

/-- The number that a mantissa and a scale denote. -/
def FixedDecimal.value (d : FixedDecimal) : ℚ := d.mantissa / powerOfTen d.scale

def compareFixed (first second : FixedDecimal) : Ordering :=
  compare (first.mantissa * powerOfTen second.scale) (second.mantissa * powerOfTen first.scale)

def minimumFixed (first second : FixedDecimal) : FixedDecimal :=
  if compareFixed first second ≠ .gt then first else second

def subtractFixedFloorZero (minuend subtrahend : FixedDecimal) : FixedDecimal :=
  let scale := max minuend.scale subtrahend.scale
  let minuendMantissa := minuend.mantissa * powerOfTen (scale - minuend.scale)
  let subtrahendMantissa := subtrahend.mantissa * powerOfTen (scale - subtrahend.scale)
  { mantissa :=
      if minuendMantissa > subtrahendMantissa then minuendMantissa - subtrahendMantissa else 0
    scale }

/-- Drop trailing zeros of the mantissa while the scale allows it. -/
def stripZeros (mantissa : Nat) : Nat → FixedDecimal
  | 0 => ⟨mantissa, 0⟩
  | scale + 1 =>
    if mantissa % 10 = 0 then stripZeros (mantissa / 10) scale else ⟨mantissa, scale + 1⟩

def canonicalFixed (d : FixedDecimal) : FixedDecimal := stripZeros d.mantissa d.scale

def absoluteDifference (first second : FixedDecimal) : FixedDecimal :=
  let scale := max first.scale second.scale
  let firstMantissa := first.mantissa * powerOfTen (scale - first.scale)
  let secondMantissa := second.mantissa * powerOfTen (scale - second.scale)
  canonicalFixed
    { mantissa :=
        if firstMantissa ≥ secondMantissa then firstMantissa - secondMantissa
        else secondMantissa - firstMantissa
      scale }

def absoluteUsdAmountExceedsBps (amount : FixedDecimal) (thresholdBps : Nat) : Bool :=
  let canonical := canonicalFixed amount
  canonical.mantissa * 10000 > thresholdBps * powerOfTen canonical.scale

def absoluteUsdAmountAtOrAboveBps (amount : FixedDecimal) (thresholdBps : Nat) : Bool :=
  let canonical := canonicalFixed amount
  canonical.mantissa * 10000 ≥ thresholdBps * powerOfTen canonical.scale

def divideRoundHalfEven (numerator denominator : Nat) : Nat :=
  let quotient := numerator / denominator
  let doubledRemainder := numerator % denominator * 2
  if doubledRemainder < denominator then quotient
  else if doubledRemainder > denominator then quotient + 1
  else if quotient % 2 = 0 then quotient else quotient + 1

/-- The number of digits of the decimal text of a number. -/
def decimalLength (n : Nat) : Nat := (Nat.toDigits 10 n).length

/-- A nearest integer, the even one when two are equally near. -/
structure RoundsHalfEven (q : ℚ) (n : Nat) : Prop where
  near : |q - n| ≤ 1 / 2
  even_of_tie : |q - n| = 1 / 2 → Even n

theorem powerOfTen_pos (exponent : Nat) : 0 < powerOfTen exponent := Nat.pow_pos (by omega)

theorem powerOfTen_cast_pos (exponent : Nat) : (0 : ℚ) < powerOfTen exponent := by
  exact_mod_cast powerOfTen_pos exponent

theorem powerOfTen_add (m n : Nat) : powerOfTen (m + n) = powerOfTen m * powerOfTen n :=
  Nat.pow_add 10 m n

theorem powerOfTen_cast (exponent : Nat) : (powerOfTen exponent : ℚ) = 10 ^ exponent := by
  simp [powerOfTen]

namespace FixedDecimal

variable (a b : FixedDecimal)

theorem value_nonneg : 0 ≤ a.value := by
  apply div_nonneg
  · exact Nat.cast_nonneg _
  · exact (powerOfTen_cast_pos _).le

theorem value_lt_iff : a.value < b.value ↔
    a.mantissa * powerOfTen b.scale < b.mantissa * powerOfTen a.scale := by
  rw [value, value, div_lt_div_iff₀ (powerOfTen_cast_pos _) (powerOfTen_cast_pos _)]
  exact_mod_cast Iff.rfl

/-- Writing a number at a larger scale. -/
theorem value_rescale {scale : Nat} (h : a.scale ≤ scale) :
    (⟨a.mantissa * powerOfTen (scale - a.scale), scale⟩ : FixedDecimal).value = a.value := by
  have hs := powerOfTen_add a.scale (scale - a.scale)
  rw [Nat.add_sub_cancel' h] at hs
  simp only [value, hs, Nat.cast_mul]
  exact mul_div_mul_right _ _ (powerOfTen_cast_pos _).ne'

theorem value_stripZeros (mantissa scale : Nat) :
    (stripZeros mantissa scale).value = (⟨mantissa, scale⟩ : FixedDecimal).value := by
  induction scale generalizing mantissa with
  | zero => rfl
  | succ scale ih =>
    by_cases h : mantissa % 10 = 0
    · have hm : mantissa = mantissa / 10 * powerOfTen (scale + 1 - scale) := by
        rw [Nat.add_sub_cancel_left, powerOfTen]
        omega
      have hr := value_rescale ⟨mantissa / 10, scale⟩ (Nat.le_succ scale)
      rw [stripZeros, if_pos h, ih, ← hr, ← hm]
    · rw [stripZeros, if_neg h]

theorem value_canonicalFixed : (canonicalFixed a).value = a.value :=
  value_stripZeros a.mantissa a.scale

end FixedDecimal

open FixedDecimal

theorem compareFixed_lt (a b : FixedDecimal) : compareFixed a b = .lt ↔ a.value < b.value := by
  rw [value_lt_iff, compareFixed, Nat.compare_eq_lt]

theorem compareFixed_gt (a b : FixedDecimal) : compareFixed a b = .gt ↔ b.value < a.value := by
  rw [value_lt_iff, compareFixed, Nat.compare_eq_gt]

theorem compareFixed_ne_lt (a b : FixedDecimal) : compareFixed a b ≠ .lt ↔ b.value ≤ a.value := by
  rw [ne_eq, compareFixed_lt, not_lt]

theorem compareFixed_ne_gt (a b : FixedDecimal) : compareFixed a b ≠ .gt ↔ a.value ≤ b.value := by
  rw [ne_eq, compareFixed_gt, not_lt]

theorem value_minimumFixed (a b : FixedDecimal) :
    (minimumFixed a b).value = min a.value b.value := by
  by_cases h : a.value ≤ b.value
  · rw [minimumFixed, if_pos ((compareFixed_ne_gt a b).mpr h), min_eq_left h]
  · rw [minimumFixed, if_neg (mt (compareFixed_ne_gt a b).mp h), min_eq_right (le_of_not_ge h)]

/-- Two numbers brought to the larger of their scales. -/
theorem value_common (a b : FixedDecimal) :
    a.value = (a.mantissa * powerOfTen (max a.scale b.scale - a.scale) : Nat) /
        powerOfTen (max a.scale b.scale) ∧
      b.value = (b.mantissa * powerOfTen (max a.scale b.scale - b.scale) : Nat) /
        powerOfTen (max a.scale b.scale) :=
  ⟨(value_rescale a (le_max_left _ _)).symm, (value_rescale b (le_max_right _ _)).symm⟩

theorem value_subtractFixedFloorZero (a b : FixedDecimal) :
    (subtractFixedFloorZero a b).value = max 0 (a.value - b.value) := by
  obtain ⟨ha, hb⟩ := value_common a b
  have hpos := powerOfTen_cast_pos (max a.scale b.scale)
  rw [ha, hb, ← sub_div]
  simp only [subtractFixedFloorZero, FixedDecimal.value]
  generalize a.mantissa * powerOfTen (max a.scale b.scale - a.scale) = m
  generalize b.mantissa * powerOfTen (max a.scale b.scale - b.scale) = n
  by_cases h : m > n
  · have hc : (n : ℚ) ≤ m := by exact_mod_cast h.le
    have hq := div_nonneg (sub_nonneg.mpr hc) hpos.le
    rw [if_pos h, max_eq_right hq, Nat.cast_sub h.le]
  · have hc : (m : ℚ) ≤ n := by exact_mod_cast not_lt.mp h
    have hq := div_nonpos_of_nonpos_of_nonneg (sub_nonpos.mpr hc) hpos.le
    rw [if_neg h, max_eq_left hq, Nat.cast_zero, zero_div]

theorem value_absoluteDifference (a b : FixedDecimal) :
    (absoluteDifference a b).value = |a.value - b.value| := by
  obtain ⟨ha, hb⟩ := value_common a b
  have hpos := powerOfTen_cast_pos (max a.scale b.scale)
  rw [ha, hb, ← sub_div, abs_div, abs_of_pos hpos, absoluteDifference, value_canonicalFixed]
  simp only [FixedDecimal.value]
  generalize a.mantissa * powerOfTen (max a.scale b.scale - a.scale) = m
  generalize b.mantissa * powerOfTen (max a.scale b.scale - b.scale) = n
  congr 1
  by_cases h : m ≥ n
  · have hc : (n : ℚ) ≤ m := by exact_mod_cast h
    rw [if_pos h, Nat.cast_sub h, abs_of_nonneg (by linarith)]
  · have hc : (m : ℚ) ≤ n := by exact_mod_cast (not_le.mp h).le
    rw [if_neg h, Nat.cast_sub (not_le.mp h).le, abs_of_nonpos (by linarith), neg_sub]

theorem value_bps (bps : Nat) (d : FixedDecimal) :
    (bps / 10000 < d.value ↔ bps * powerOfTen d.scale < d.mantissa * 10000) ∧
      (bps / 10000 ≤ d.value ↔ bps * powerOfTen d.scale ≤ d.mantissa * 10000) := by
  have h10 : (0 : ℚ) < 10000 := by norm_num
  refine ⟨?_, ?_⟩
  · rw [FixedDecimal.value, div_lt_div_iff₀ h10 (powerOfTen_cast_pos _)]
    exact_mod_cast Iff.rfl
  · rw [FixedDecimal.value, div_le_div_iff₀ h10 (powerOfTen_cast_pos _)]
    exact_mod_cast Iff.rfl

theorem absoluteUsdAmountExceedsBps_iff (d : FixedDecimal) (bps : Nat) :
    absoluteUsdAmountExceedsBps d bps = true ↔ bps / 10000 < d.value := by
  rw [← value_canonicalFixed, (value_bps bps (canonicalFixed d)).1]
  exact decide_eq_true_iff

theorem absoluteUsdAmountAtOrAboveBps_iff (d : FixedDecimal) (bps : Nat) :
    absoluteUsdAmountAtOrAboveBps d bps = true ↔ bps / 10000 ≤ d.value := by
  rw [← value_canonicalFixed, (value_bps bps (canonicalFixed d)).2]
  exact decide_eq_true_iff

theorem divideRoundHalfEven_rounds (numerator : Nat) {denominator : Nat} (h : 0 < denominator) :
    RoundsHalfEven (numerator / denominator) (divideRoundHalfEven numerator denominator) := by
  have hd : (0 : ℚ) < denominator := by exact_mod_cast h
  have hdm := Nat.div_add_mod numerator denominator
  have hr := Nat.mod_lt numerator h
  simp only [divideRoundHalfEven]
  generalize numerator / denominator = q at hdm
  generalize numerator % denominator = r at hdm hr
  have hq : (numerator : ℚ) / denominator = q + r / denominator := by
    rw [← hdm]
    push_cast
    field_simp
  have hr0 : (0 : ℚ) ≤ r / denominator := div_nonneg (Nat.cast_nonneg r) hd.le
  rw [hq]
  by_cases hlt : r * 2 < denominator
  · have hc : (r : ℚ) / denominator < 1 / 2 := by
      rw [div_lt_div_iff₀ hd (by norm_num)]
      have hlt' : (r : ℚ) * 2 < denominator := by exact_mod_cast hlt
      linarith
    rw [if_pos hlt]
    have ha : |(q : ℚ) + r / denominator - q| < 1 / 2 := by
      rwa [add_sub_cancel_left, abs_of_nonneg hr0]
    exact ⟨ha.le, fun he => absurd he ha.ne⟩
  · have hup : ∀ x : ℚ, |(q : ℚ) + x - (q + 1 : Nat)| = |1 - x| := fun x => by
      push_cast
      rw [← abs_neg]
      congr 1
      ring
    have hr1 : (r : ℚ) / denominator ≤ 1 := by
      rw [div_le_one₀ hd]
      exact_mod_cast hr.le
    rw [if_neg hlt]
    by_cases hgt : r * 2 > denominator
    · have hc : 1 / 2 < (r : ℚ) / denominator := by
        rw [div_lt_div_iff₀ (by norm_num) hd]
        have hgt' : (denominator : ℚ) < r * 2 := by exact_mod_cast hgt
        linarith
      rw [if_pos hgt]
      have ha : |(q : ℚ) + r / denominator - (q + 1 : Nat)| < 1 / 2 := by
        rw [hup, abs_of_nonneg (by linarith)]
        linarith
      exact ⟨ha.le, fun he => absurd he ha.ne⟩
    · have hc : (r : ℚ) / denominator = 1 / 2 := by
        have he : r * 2 = denominator := by omega
        have he' : (r : ℚ) * 2 = denominator := by exact_mod_cast he
        rw [div_eq_div_iff hd.ne' (by norm_num)]
        linarith
      rw [if_neg hgt, hc]
      by_cases hev : q % 2 = 0
      · rw [if_pos hev]
        refine ⟨?_, fun _ => Nat.even_iff.mpr hev⟩
        rw [add_sub_cancel_left, abs_of_nonneg (by norm_num)]
      · rw [if_neg hev]
        refine ⟨?_, fun _ => Nat.even_iff.mpr (by omega)⟩
        rw [hup, abs_of_nonneg (by norm_num)]
        norm_num

/-- Rounding half to even has one result. -/
theorem RoundsHalfEven.unique {q : ℚ} {m n : Nat} (hm : RoundsHalfEven q m)
    (hn : RoundsHalfEven q n) : m = n := by
  have hlt : ∀ {m n : Nat}, RoundsHalfEven q m → RoundsHalfEven q n → ¬ m < n := by
    intro m n hm hn h
    have hmn : (m : ℚ) + 1 ≤ n := by exact_mod_cast h
    have h1 := abs_le.mp hm.near
    have h2 := abs_le.mp hn.near
    have hqm : q - m = 1 / 2 := by linarith
    have hqn : q - n = -(1 / 2) := by linarith
    have hem := hm.even_of_tie (by rw [hqm, abs_of_nonneg (by norm_num)])
    have hen := hn.even_of_tie (by rw [hqn, abs_neg, abs_of_nonneg (by norm_num)])
    have hsucc : n = m + 1 := by
      have hc : (n : ℚ) = m + 1 := by linarith
      exact_mod_cast hc
    rw [hsucc, Nat.even_add_one] at hen
    exact hen hem
  have h1 := hlt hm hn
  have h2 := hlt hn hm
  omega

theorem divideRoundHalfEven_le {numerator denominator bound : Nat} (h : 0 < denominator)
    (hb : numerator ≤ bound * denominator) :
    divideRoundHalfEven numerator denominator ≤ bound := by
  have hr := (divideRoundHalfEven_rounds numerator h).near
  have hd : (0 : ℚ) < denominator := by exact_mod_cast h
  have hq : (numerator : ℚ) / denominator ≤ bound := by
    rw [div_le_iff₀ hd]
    exact_mod_cast hb
  have hlow := (abs_le.mp hr).1
  have hlt : (divideRoundHalfEven numerator denominator : ℚ) < (bound + 1 : Nat) := by
    push_cast
    linarith
  have hnat : divideRoundHalfEven numerator denominator < bound + 1 := by exact_mod_cast hlt
  omega

/-- A number below a power of ten has at most as many digits as its exponent. -/
theorem decimalLength_le {n k : Nat} (hk : 0 < k) (h : n < 10 ^ k) : decimalLength n ≤ k :=
  Nat.toDigits_length 10 n k hk h

end CryptoLending.Lib.Decimal

namespace CryptoLending.Lib.Rounding

open Lib.Decimal

section HalfEven

variable {q r : ℚ} {m n : Nat}

/-- Rounding half to even keeps the order of numbers. -/
theorem RoundsHalfEven.mono (hm : RoundsHalfEven q m) (hn : RoundsHalfEven r n) (h : q ≤ r) :
    m ≤ n := by
  by_contra hlt
  have hnm : (n : ℚ) + 1 ≤ m := by exact_mod_cast not_le.mp hlt
  have h1 := abs_le.mp hm.near
  have h2 := abs_le.mp hn.near
  -- Both numbers lie in the middle between the two integers, so that they are equal.
  have hqr : q = r := by linarith
  rw [← hqr] at hn
  have heq := hm.unique hn
  omega

theorem roundsHalfEven_natCast (n : Nat) : RoundsHalfEven n n := by
  constructor
  · rw [sub_self, abs_zero]
    norm_num
  · intro h
    rw [sub_self, abs_zero] at h
    norm_num at h

end HalfEven

/-- The ways to bring a nonnegative number to an integer. -/
inductive Direction where
  | down
  | up
  | halfEven
  deriving DecidableEq

/-- The integer that a nonnegative number is brought to. -/
def Rounds : Direction → ℚ → Nat → Prop
  | .down, q, n => n = ⌊q⌋₊
  | .up, q, n => n = ⌈q⌉₊
  | .halfEven, q, n => RoundsHalfEven q n

section Rounds

variable {direction : Direction} {q r : ℚ} {m n : Nat}

theorem Rounds.mono (hm : Rounds direction q m) (hn : Rounds direction r n) (h : q ≤ r) :
    m ≤ n := by
  cases direction with
  | down =>
    simp only [Rounds] at hm hn
    rw [hm, hn]
    exact Nat.floor_mono h
  | up =>
    simp only [Rounds] at hm hn
    rw [hm, hn]
    exact Nat.ceil_mono h
  | halfEven => exact RoundsHalfEven.mono hm hn h

theorem Rounds.unique (hm : Rounds direction q m) (hn : Rounds direction q n) : m = n :=
  Nat.le_antisymm (hm.mono hn le_rfl) (hn.mono hm le_rfl)

theorem rounds_natCast (direction : Direction) (n : Nat) : Rounds direction n n := by
  cases direction with
  | down => exact (Nat.floor_natCast n : ⌊(n : ℚ)⌋₊ = n).symm
  | up => exact (Nat.ceil_natCast n : ⌈(n : ℚ)⌉₊ = n).symm
  | halfEven => exact roundsHalfEven_natCast n

/-- Rounding never passes an integer. -/
theorem Rounds.le_of_le (hm : Rounds direction q m) (h : q ≤ n) : m ≤ n :=
  hm.mono (rounds_natCast direction n) h

end Rounds

section Quotients

variable {numerator denominator : Nat}

theorem quotient_add (h : 0 < denominator) :
    (numerator : ℚ) / denominator =
      (numerator / denominator : Nat) + (numerator % denominator : Nat) / (denominator : ℚ) := by
  have hd : (denominator : ℚ) ≠ 0 := by exact_mod_cast h.ne'
  have hdm : (denominator : ℚ) * (numerator / denominator : Nat) +
      (numerator % denominator : Nat) = numerator := by
    exact_mod_cast Nat.div_add_mod numerator denominator
  rw [← hdm]
  field_simp

theorem rounds_down (numerator denominator : Nat) :
    Rounds .down (numerator / denominator) (numerator / denominator) :=
  (Nat.floor_div_eq_div numerator denominator).symm

theorem rounds_up (h : 0 < denominator) (hr : numerator % denominator ≠ 0) :
    Rounds .up (numerator / denominator) (numerator / denominator + 1) := by
  have hd : (0 : ℚ) < denominator := by exact_mod_cast h
  have hpos : (0 : ℚ) < (numerator % denominator : Nat) := by
    exact_mod_cast Nat.pos_of_ne_zero hr
  have hlt : ((numerator % denominator : Nat) : ℚ) < denominator := by
    exact_mod_cast Nat.mod_lt numerator h
  refine ((Nat.ceil_eq_iff (Nat.succ_ne_zero _)).mpr ⟨?_, ?_⟩).symm
  · rw [quotient_add h, Nat.succ_sub_one]
    exact lt_add_of_pos_right _ (div_pos hpos hd)
  · rw [quotient_add h]
    push_cast
    have hone := (div_le_one₀ hd).mpr hlt.le
    linarith

/-- A quotient without a remainder is its own rounding. -/
theorem rounds_exact (h : 0 < denominator) (direction : Direction)
    (hr : numerator % denominator = 0) :
    Rounds direction (numerator / denominator) (numerator / denominator) := by
  rw [quotient_add h, hr, Nat.cast_zero, zero_div, add_zero]
  exact rounds_natCast direction _

end Quotients

end CryptoLending.Lib.Rounding
