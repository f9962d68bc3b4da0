import CryptoLending.Lib.Decimal

namespace CryptoLending.Lib

open Decimal

namespace Double

/-- The least positive double is two to the minus this. -/
def unitExponent : Nat := 1074

/-- The spacing of the doubles at a magnitude, in units of the least positive one. -/
def granularity (units : Nat) : Nat := 2 ^ (units.log2 - 52)

/-- The nearest double to a quotient of units, the even one of two. The range is not bounded. -/
def roundUnits (numerator denominator : Nat) : Nat :=
  let spacing := granularity (numerator / denominator)
  spacing * divideRoundHalfEven numerator (denominator * spacing)

/-- The nearest double to a decimal number. -/
def roundDecimal (digits : Nat) (exponent : Int) : Nat :=
  roundUnits (digits * 10 ^ exponent.toNat * 2 ^ unitExponent) (10 ^ (-exponent).toNat)

/-- The magnitudes that have 53 significant bits or lie on the least spacing. -/
def IsRepresentable (units : Nat) : Prop := granularity units ∣ units

instance (units : Nat) : Decidable (IsRepresentable units) :=
  inferInstanceAs (Decidable (_ ∣ _))

/-- The magnitude of a finite double. -/
structure Magnitude where
  units : Nat
  representable : IsRepresentable units
  bounded : units < 2 ^ (unitExponent + 1024)
  deriving DecidableEq

/-- A decimal number. -/
structure Scientific where
  digits : Nat
  exponent : Int
  deriving DecidableEq

/-- The digits of a double written out in full. -/
def exactDigits (units : Nat) : Nat := units * 5 ^ unitExponent

/-- The decimal number of that many digits that denotes a double, the nearest one of two. -/
def candidate (units count : Nat) : Option Scientific :=
  let exact := exactDigits units
  let dropped := decimalLength exact - count
  let exponent : Int := dropped - unitExponent
  let low := exact / 10 ^ dropped
  let fits := fun digits => roundDecimal digits exponent == units
  let chosen :=
    if fits low && fits (low + 1) then some (divideRoundHalfEven exact (10 ^ dropped))
    else if fits low then some low
    else if fits (low + 1) then some (low + 1)
    else none
  chosen.map fun digits =>
    if digits = 10 ^ count then ⟨10 ^ (count - 1), exponent + 1⟩ else ⟨digits, exponent⟩

/-- The shortest decimal number that denotes a double. -/
def shortest (units : Nat) : Scientific :=
  ((List.range (decimalLength (exactDigits units))).findSome? fun i => candidate units (i + 1)).getD
    ⟨exactDigits units, -unitExponent⟩

section Rounding

theorem divideRoundHalfEven_mul_right (numerator denominator : Nat) {factor : Nat}
    (h : 0 < factor) : divideRoundHalfEven (numerator * factor) (denominator * factor) =
      divideRoundHalfEven numerator denominator := by
  have hlt : numerator % denominator * factor * 2 < denominator * factor ↔
      numerator % denominator * 2 < denominator := by
    rw [Nat.mul_right_comm]
    exact Nat.mul_lt_mul_right h
  have hgt : denominator * factor < numerator % denominator * factor * 2 ↔
      denominator < numerator % denominator * 2 := by
    rw [Nat.mul_right_comm]
    exact Nat.mul_lt_mul_right h
  simp only [divideRoundHalfEven, Nat.mul_div_mul_right _ _ h, Nat.mul_mod_mul_right, gt_iff_lt,
    hlt, hgt]

theorem divideRoundHalfEven_mul_self (quotient : Nat) {denominator : Nat} (h : 0 < denominator) :
    divideRoundHalfEven (quotient * denominator) denominator = quotient := by
  rw [divideRoundHalfEven, Nat.mul_div_cancel _ h, Nat.mul_mod_left, if_pos (by omega)]

theorem granularity_pos (units : Nat) : 0 < granularity units := Nat.two_pow_pos _

theorem roundUnits_mul_right (numerator denominator : Nat) {factor : Nat} (h : 0 < factor) :
    roundUnits (numerator * factor) (denominator * factor) = roundUnits numerator denominator := by
  have hcomm : ∀ g, denominator * factor * g = denominator * g * factor := fun g =>
    Nat.mul_right_comm _ _ _
  simp only [roundUnits, Nat.mul_div_mul_right _ _ h, hcomm, divideRoundHalfEven_mul_right _ _ h]

/-- Rounding depends on the quotient only. -/
theorem roundUnits_congr {a b c d : Nat} (hb : 0 < b) (hd : 0 < d) (h : a * d = c * b) :
    roundUnits a b = roundUnits c d := by
  rw [← roundUnits_mul_right a b hd, ← roundUnits_mul_right c d hb, h, Nat.mul_comm b d]

theorem roundUnits_exact {units denominator : Nat} (hrep : IsRepresentable units)
    (h : 0 < denominator) : roundUnits (units * denominator) denominator = units := by
  obtain ⟨m, hm⟩ := hrep
  have hpos := granularity_pos units
  have hnum : units * denominator = m * (denominator * granularity units) := by
    calc units * denominator = granularity units * m * denominator := by rw [← hm]
      _ = m * (denominator * granularity units) := by
        rw [Nat.mul_comm (granularity units), Nat.mul_assoc, Nat.mul_comm (granularity units)]
  have hquotient : units * denominator / denominator = units := Nat.mul_div_cancel _ h
  rw [roundUnits, hquotient]
  change granularity units *
    divideRoundHalfEven (units * denominator) (denominator * granularity units) = units
  rw [hnum, divideRoundHalfEven_mul_self _ (Nat.mul_pos h hpos), ← hm]

theorem divideRoundHalfEven_eq_or (numerator denominator : Nat) :
    divideRoundHalfEven numerator denominator = numerator / denominator ∨
      divideRoundHalfEven numerator denominator = numerator / denominator + 1 := by
  simp only [divideRoundHalfEven]
  split
  · exact Or.inl rfl
  · split
    · exact Or.inr rfl
    · split
      · exact Or.inl rfl
      · exact Or.inr rfl

theorem isRepresentable_of_le {spacing m : Nat} {e : Nat} (hs : spacing = 2 ^ e)
    (hm : m ≤ 2 ^ 53) : IsRepresentable (spacing * m) := by
  subst hs
  by_cases hzero : m = 0
  · rw [hzero, Nat.mul_zero]
    exact Nat.dvd_zero _
  · have hpos : 2 ^ e * m ≠ 0 := Nat.mul_ne_zero (Nat.two_pow_pos e).ne' hzero
    by_cases hlt : m < 2 ^ 53
    · have hlog : (2 ^ e * m).log2 < e + 53 := by
        rw [Nat.log2_lt hpos, Nat.pow_add]
        exact Nat.mul_lt_mul_of_pos_left hlt (Nat.two_pow_pos e)
      exact Dvd.dvd.mul_right (Nat.pow_dvd_pow 2 (by omega)) m
    · obtain rfl : m = 2 ^ 53 := by omega
      rw [← Nat.pow_add, IsRepresentable, granularity, Nat.log2_two_pow]
      exact Nat.pow_dvd_pow 2 (by omega)

theorem isRepresentable_roundUnits (numerator denominator : Nat) :
    IsRepresentable (roundUnits numerator denominator) := by
  have hq : numerator / (denominator * granularity (numerator / denominator)) < 2 ^ 53 := by
    rw [← Nat.div_div_eq_div_mul, Nat.div_lt_iff_lt_mul (granularity_pos _), granularity,
      ← Nat.pow_add]
    refine lt_of_lt_of_le Nat.lt_log2_self (Nat.pow_le_pow_right (by omega) (by omega))
  obtain hround | hround := divideRoundHalfEven_eq_or numerator
    (denominator * granularity (numerator / denominator))
  · exact isRepresentable_of_le rfl (by omega)
  · exact isRepresentable_of_le rfl (by omega)

end Rounding

section Decimals

theorem ten_pow_pos (n : Nat) : 0 < 10 ^ n := Nat.pow_pos (by omega)

theorem five_pow_mul_two_pow (n : Nat) : 5 ^ n * 2 ^ n = 10 ^ n := (Nat.mul_pow 5 2 n).symm

/-- Zeros may move from the digits to the exponent. -/
theorem roundDecimal_shift (digits zeros : Nat) (exponent : Int) :
    roundDecimal (digits * 10 ^ zeros) (exponent - zeros) = roundDecimal digits exponent := by
  apply roundUnits_congr (ten_pow_pos _) (ten_pow_pos _)
  have hexponent : zeros + (exponent - zeros).toNat + (-exponent).toNat =
      exponent.toNat + (-(exponent - zeros)).toNat := by omega
  have hpow := congrArg (10 ^ ·) hexponent
  simp only [Nat.pow_add] at hpow
  calc digits * 10 ^ zeros * 10 ^ (exponent - zeros).toNat * 2 ^ unitExponent * 10 ^ (-exponent).toNat
      = digits * 2 ^ unitExponent *
          (10 ^ zeros * 10 ^ (exponent - zeros).toNat * 10 ^ (-exponent).toNat) := by ring
    _ = digits * 2 ^ unitExponent * (10 ^ exponent.toNat * 10 ^ (-(exponent - zeros)).toNat) := by
        rw [hpow]
    _ = digits * 10 ^ exponent.toNat * 2 ^ unitExponent * 10 ^ (-(exponent - zeros)).toNat := by ring

theorem roundDecimal_exactDigits {units : Nat} (h : IsRepresentable units) :
    roundDecimal (exactDigits units) (-unitExponent) = units := by
  have hnat : (-(unitExponent : Int)).toNat = 0 := by omega
  have hneg : (- -(unitExponent : Int)).toNat = unitExponent := by omega
  rw [roundDecimal, hnat, hneg, Nat.pow_zero, Nat.mul_one, exactDigits, Nat.mul_assoc,
    five_pow_mul_two_pow]
  exact roundUnits_exact h (ten_pow_pos unitExponent)

theorem roundDecimal_zero (exponent : Int) : roundDecimal 0 exponent = 0 := by
  have hzero : IsRepresentable 0 := ⟨0, rfl⟩
  have h := roundUnits_exact hzero (ten_pow_pos (-exponent).toNat)
  rw [Nat.zero_mul] at h
  rw [roundDecimal, Nat.zero_mul, Nat.zero_mul, h]

theorem isRepresentable_roundDecimal (digits : Nat) (exponent : Int) :
    IsRepresentable (roundDecimal digits exponent) := isRepresentable_roundUnits _ _

theorem roundDecimal_candidate {units count : Nat} {s : Scientific} (hcount : 0 < count)
    (h : candidate units count = some s) : roundDecimal s.digits s.exponent = units := by
  obtain ⟨digits, hchosen, hs⟩ := Option.map_eq_some_iff.mp h
  have hfits : roundDecimal digits
      ((decimalLength (exactDigits units) - count : Nat) - unitExponent) = units := by
    simp only [Bool.and_eq_true, beq_iff_eq] at hchosen
    split at hchosen
    · next hboth =>
      obtain ⟨hlow, hhigh⟩ := hboth
      obtain rfl := Option.some.inj hchosen
      obtain he | he := divideRoundHalfEven_eq_or (exactDigits units)
        (10 ^ (decimalLength (exactDigits units) - count))
      · rw [he, hlow]
      · rw [he, hhigh]
    · split at hchosen
      · next hlow =>
        obtain rfl := Option.some.inj hchosen
        exact hlow
      · split at hchosen
        · next hhigh =>
          obtain rfl := Option.some.inj hchosen
          exact hhigh
        · cases hchosen
  subst hs
  by_cases hten : digits = 10 ^ count
  · rw [if_pos hten]
    have hshift := roundDecimal_shift (10 ^ (count - 1)) 1
      ((decimalLength (exactDigits units) - count : Nat) - unitExponent + 1)
    have hdigits : 10 ^ (count - 1) * 10 ^ 1 = digits := by
      rw [← Nat.pow_add, Nat.sub_add_cancel hcount, hten]
    rw [hdigits, Nat.cast_one, add_sub_cancel_right, hfits] at hshift
    exact hshift.symm
  · rw [if_neg hten]
    exact hfits

/-- The shortest number denotes the double. -/
theorem roundDecimal_shortest {units : Nat} (h : IsRepresentable units) :
    roundDecimal (shortest units).digits (shortest units).exponent = units := by
  rw [shortest]
  cases hfind : (List.range (decimalLength (exactDigits units))).findSome?
      fun i => candidate units (i + 1) with
  | none => exact roundDecimal_exactDigits h
  | some s =>
    obtain ⟨i, _, hi⟩ := List.exists_of_findSome?_eq_some hfind
    exact roundDecimal_candidate (Nat.succ_pos i) hi

theorem digits_shortest_pos {units : Nat} (h : IsRepresentable units) (hpos : 0 < units) :
    0 < (shortest units).digits := by
  have hround := roundDecimal_shortest h
  apply Nat.pos_of_ne_zero
  intro hzero
  rw [hzero, roundDecimal_zero] at hround
  omega

end Decimals

end Double

end CryptoLending.Lib
