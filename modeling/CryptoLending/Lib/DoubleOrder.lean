import CryptoLending.Lib.Double
import Mathlib.Order.Basic

namespace CryptoLending.Lib.Double

open Decimal

variable {numerator denominator units units' e : Nat}

theorem divideRoundHalfEven_mono {a b : Nat} (h : a ≤ b) :
    divideRoundHalfEven a denominator ≤ divideRoundHalfEven b denominator := by
  obtain hlt | heq := (Nat.div_le_div_right h (c := denominator)).lt_or_eq
  · calc divideRoundHalfEven a denominator
        ≤ a / denominator + 1 := by
          obtain ha | ha := divideRoundHalfEven_eq_or a denominator <;> omega
      _ ≤ b / denominator := hlt
      _ ≤ divideRoundHalfEven b denominator := by
          obtain hb | hb := divideRoundHalfEven_eq_or b denominator <;> omega
  · have ha := Nat.div_add_mod a denominator
    have hb := Nat.div_add_mod b denominator
    rw [heq] at ha
    have hmod : a % denominator ≤ b % denominator := by omega
    simp only [divideRoundHalfEven, heq]
    split_ifs <;> omega

theorem granularity_mul (h : units.log2 - 52 ≤ e) :
    granularity units * 2 ^ (e - (units.log2 - 52)) = 2 ^ e := by
  rw [granularity, ← Nat.pow_add, Nat.add_sub_cancel' h]

theorem roundUnits_one (units : Nat) :
    roundUnits units 1 = granularity units * divideRoundHalfEven units (granularity units) := by
  rw [roundUnits, Nat.div_one, Nat.one_mul]

/-- A power of two that is a multiple of the spacing is not passed by rounding. -/
theorem roundUnits_le_two_pow (h : units ≤ 2 ^ e) (he : units.log2 - 52 ≤ e) :
    roundUnits units 1 ≤ 2 ^ e := by
  have hpow := granularity_mul he
  have hround := @divideRoundHalfEven_mono (granularity units) _ _ h
  rw [← hpow, Nat.mul_comm, divideRoundHalfEven_mul_self _ (granularity_pos units)] at hround
  rw [roundUnits_one, ← hpow]
  exact Nat.mul_le_mul_left _ hround

theorem two_pow_le_roundUnits (h : 2 ^ e ≤ units) (he : units.log2 - 52 ≤ e) :
    2 ^ e ≤ roundUnits units 1 := by
  have hpow := granularity_mul he
  have hround := @divideRoundHalfEven_mono (granularity units) _ _ h
  rw [← hpow, Nat.mul_comm, divideRoundHalfEven_mul_self _ (granularity_pos units)] at hround
  rw [roundUnits_one, ← hpow]
  exact Nat.mul_le_mul_left _ hround

theorem log2_le (h : units ≤ units') : units.log2 ≤ units'.log2 := by
  by_cases hzero : units = 0
  · subst hzero
    exact Nat.zero_le _
  · have hne : units' ≠ 0 := by omega
    exact (Nat.le_log2 hne).mpr ((Nat.log2_self_le hzero).trans h)

/-- A larger number is not rounded to a smaller double. -/
theorem roundUnits_mono (h : units ≤ units') : roundUnits units 1 ≤ roundUnits units' 1 := by
  obtain hlt | heq := (log2_le h).lt_or_eq
  · have hne : units' ≠ 0 := by
      rintro rfl
      exact absurd hlt (by simp)
    -- A power of two lies between them.
    calc roundUnits units 1
        ≤ 2 ^ (units.log2 + 1) := roundUnits_le_two_pow Nat.lt_log2_self.le (by omega)
      _ ≤ 2 ^ units'.log2 := Nat.pow_le_pow_right (by omega) hlt
      _ ≤ roundUnits units' 1 := two_pow_le_roundUnits (Nat.log2_self_le hne) (by omega)
  · have hspacing : granularity units = granularity units' := by rw [granularity, granularity, heq]
    rw [roundUnits_one, roundUnits_one, hspacing]
    exact Nat.mul_le_mul_left _ (divideRoundHalfEven_mono h)

/-- Rounding goes up by less than a spacing. -/
theorem roundUnits_le_add (units : Nat) : roundUnits units 1 ≤ units + granularity units := by
  have hdiv := Nat.mul_div_le units (granularity units)
  obtain hround | hround := divideRoundHalfEven_eq_or units (granularity units)
  · rw [roundUnits_one, hround]
    omega
  · rw [roundUnits_one, hround, Nat.mul_add, Nat.mul_one]
    omega

/-- Rounding goes down by less than a spacing. -/
theorem le_roundUnits_add (numerator : Nat) (hpos : 0 < denominator) :
    numerator ≤ denominator *
      (roundUnits numerator denominator + granularity (numerator / denominator)) := by
  have hspacing := granularity_pos (numerator / denominator)
  have hlt := Nat.lt_mul_div_succ numerator (Nat.mul_pos hpos hspacing)
  have hround : numerator / (denominator * granularity (numerator / denominator)) ≤
      divideRoundHalfEven numerator (denominator * granularity (numerator / denominator)) := by
    obtain h | h := divideRoundHalfEven_eq_or numerator
      (denominator * granularity (numerator / denominator)) <;> omega
  calc numerator
      ≤ denominator * granularity (numerator / denominator) *
          (numerator / (denominator * granularity (numerator / denominator)) + 1) := hlt.le
    _ ≤ denominator * granularity (numerator / denominator) *
          (divideRoundHalfEven numerator
            (denominator * granularity (numerator / denominator)) + 1) :=
        Nat.mul_le_mul_left _ (Nat.succ_le_succ hround)
    _ = denominator * (roundUnits numerator denominator +
          granularity (numerator / denominator)) := by
        rw [roundUnits, Nat.mul_assoc, Nat.mul_add, Nat.mul_one]

theorem granularity_le (h : units < 2 ^ e) : granularity units ≤ 2 ^ (e - 53) := by
  apply Nat.pow_le_pow_right (by omega)
  by_cases hzero : units = 0
  · subst hzero
    simp
  · have hlog := (Nat.log2_lt hzero).mpr h
    omega

/-- Whole numbers with few bits are doubles. -/
theorem isRepresentable_mul_two_pow {m : Nat} (h : m ≤ 2 ^ 53) (e : Nat) :
    IsRepresentable (m * 2 ^ e) := by
  rw [Nat.mul_comm]
  exact isRepresentable_of_le rfl h

theorem lt_granularity_mul (units : Nat) : units < granularity units * 2 ^ 53 := by
  rw [granularity, ← Nat.pow_add]
  exact Nat.lt_log2_self.trans_le (Nat.pow_le_pow_right (by omega) (by omega))

/-- The difference of two doubles is one when it is not greater than the lesser. -/
theorem roundUnits_sub (h : IsRepresentable units) (h' : IsRepresentable units')
    (hle : units ≤ units') (hclose : units' - units ≤ units) :
    roundUnits (units' - units) 1 = units' - units := by
  have hspacing : granularity units ∣ granularity units' :=
    Nat.pow_dvd_pow 2 (Nat.sub_le_sub_right (log2_le hle) 52)
  obtain ⟨m, hm⟩ : granularity units ∣ units' - units := Nat.dvd_sub (hspacing.trans h') h
  have hfew : m < 2 ^ 53 := by
    apply Nat.lt_of_mul_lt_mul_left (a := granularity units)
    rw [← hm]
    exact hclose.trans_lt (lt_granularity_mul units)
  have hexact := roundUnits_exact (hm ▸ isRepresentable_of_le rfl hfew.le) Nat.one_pos
  rwa [Nat.mul_one] at hexact

theorem Magnitude.units_injective : Function.Injective Magnitude.units := by
  rintro ⟨units, _, _⟩ ⟨units', _, _⟩ h
  cases h
  rfl

instance : LinearOrder Magnitude := LinearOrder.lift' Magnitude.units Magnitude.units_injective

end CryptoLending.Lib.Double
