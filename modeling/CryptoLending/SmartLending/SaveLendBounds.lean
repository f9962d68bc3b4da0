import Mathlib.Data.List.Forall2
import Mathlib.Data.Option.Basic
import Mathlib.Tactic.Linarith
import Mathlib.Tactic.Ring
import CryptoLending.Lib.SharePool
import CryptoLending.Lib.Transaction

namespace CryptoLending.SmartLending.SaveLendPosition

open Lib

def wad : Nat := 1000000000000000000
def u64Max : Nat := 2 ^ 64 - 1
def u128Max : Nat := 2 ^ 128 - 1
def u192Max : Nat := 2 ^ 192 - 1

/-- Every rejection throws the same error. -/
inductive Failure where
  | unavailable
  deriving DecidableEq

/-- A number between zero and a maximum. -/
def bounded (value : Int) (maximum : Nat) : Except Failure Nat := do
  failWhen (value < 0 ∨ (maximum : Int) < value) .unavailable
  return value.toNat

def checkedMultiply (left right : Nat) : Except Failure Nat := do
  let product := left * right
  failWhen (u192Max < product) .unavailable
  return product

def ceilWadToU64 (value : Nat) : Except Failure Nat := do
  failWhen (u192Max - (wad - 1) < value) .unavailable
  let result := (value + wad - 1) / wad
  failWhen (u64Max < result) .unavailable
  return result

structure CollateralInput where
  collateralAmount : Int
  availableAmount : Int
  reserveBorrowedAmountWads : Int
  accumulatedProtocolFeesWads : Int
  collateralMintTotalSupply : Int
  deriving DecidableEq

/-- One to one where nothing was minted or no liquidity is left. -/
def exchangeRate (collateralMintTotalSupply totalLiquidityWads : Nat) : Except Failure Nat := do
  if collateralMintTotalSupply ≠ 0 ∧ totalLiquidityWads ≠ 0 then
    let collateralSupplyWads ← checkedMultiply collateralMintTotalSupply wad
    let numerator ← checkedMultiply collateralSupplyWads wad
    let exchangeRateWads := numerator / totalLiquidityWads
    failWhen (exchangeRateWads = 0 ∨ u128Max < exchangeRateWads) .unavailable
    return exchangeRateWads
  else
    return wad

def projectSaveLendCollateralToLiquidityAtomic (input : CollateralInput) : Except Failure Nat := do
  let collateralAmount ← bounded input.collateralAmount u64Max
  let availableAmount ← bounded input.availableAmount u64Max
  let collateralMintTotalSupply ← bounded input.collateralMintTotalSupply u64Max
  let reserveBorrowedAmountWads ← bounded input.reserveBorrowedAmountWads u128Max
  let accumulatedProtocolFeesWads ← bounded input.accumulatedProtocolFeesWads u128Max
  let availableWads ← checkedMultiply availableAmount wad
  let grossLiquidityWads := availableWads + reserveBorrowedAmountWads
  failWhen (u192Max < grossLiquidityWads ∨ grossLiquidityWads < accumulatedProtocolFeesWads)
    .unavailable
  let totalLiquidityWads := grossLiquidityWads - accumulatedProtocolFeesWads
  let exchangeRateWads ← exchangeRate collateralMintTotalSupply totalLiquidityWads
  let collateralAmountWads ← checkedMultiply collateralAmount wad
  let scaledAmount ← checkedMultiply collateralAmountWads wad
  let liquidityWads := scaledAmount / exchangeRateWads
  let result := liquidityWads / wad
  failWhen (u64Max < result) .unavailable
  return result

structure BorrowInput where
  borrowedAmountWads : Int
  obligationCumulativeBorrowRateWads : Int
  reserveCumulativeBorrowRateWads : Int
  deriving DecidableEq

def projectSaveLendBorrowToLiquidityAtomic (input : BorrowInput) : Except Failure Nat := do
  let borrowedAmountWads ← bounded input.borrowedAmountWads u128Max
  let obligationRate ← bounded input.obligationCumulativeBorrowRateWads u128Max
  let reserveRate ← bounded input.reserveCumulativeBorrowRateWads u128Max
  failWhen (obligationRate = 0 ∨ reserveRate < obligationRate) .unavailable
  let scaledRate ← checkedMultiply reserveRate wad
  let compoundedRateWads := scaledRate / obligationRate
  failWhen (u128Max < compoundedRateWads) .unavailable
  let scaledAmount ← checkedMultiply borrowedAmountWads compoundedRateWads
  let currentBorrowedAmountWads := scaledAmount / wad
  failWhen (u128Max < currentBorrowedAmountWads) .unavailable
  ceilWadToU64 currentBorrowedAmountWads

end CryptoLending.SmartLending.SaveLendPosition

namespace CryptoLending.SmartLending.SaveLendBounds

open Lib Lib.FlooredRate SaveLendPosition

section Reading

theorem bounded_ok {value : Int} {maximum n : Nat} :
    bounded value maximum = .ok n ↔ value = n ∧ n ≤ maximum := by
  rw [bounded, except_bind_ok]
  constructor
  · rintro ⟨_, hrange, h⟩
    have hvalue := failWhen_ok.mp hrange
    have hn := Except.ok.inj h
    omega
  · rintro ⟨rfl, hle⟩
    exact ⟨(), failWhen_ok.mpr (by omega), rfl⟩

theorem checkedMultiply_ok {left right product : Nat}
    (h : checkedMultiply left right = .ok product) : product = left * right := by
  obtain ⟨_, _, h⟩ := except_bind_ok.mp h
  exact (Except.ok.inj h).symm

theorem exchangeRate_ok {supply total rate : Nat} (h : exchangeRate supply total = .ok rate) :
    ((supply = 0 ∨ total = 0) ∧ rate = wad) ∨
      (supply ≠ 0 ∧ total ≠ 0 ∧ rate = supply * wad * wad / total ∧ 0 < rate) := by
  rw [exchangeRate] at h
  by_cases hnone : supply ≠ 0 ∧ total ≠ 0
  · rw [if_pos hnone] at h
    obtain ⟨_, hfirst, h⟩ := except_bind_ok.mp h
    obtain ⟨_, hsecond, h⟩ := except_bind_ok.mp h
    obtain ⟨_, hpos, h⟩ := except_bind_ok.mp h
    obtain rfl := Except.ok.inj h
    obtain rfl := checkedMultiply_ok hfirst
    obtain rfl := checkedMultiply_ok hsecond
    exact .inr ⟨hnone.1, hnone.2, rfl, Nat.pos_of_ne_zero (not_or.mp (failWhen_ok.mp hpos)).1⟩
  · rw [if_neg hnone] at h
    refine .inl ⟨?_, (Except.ok.inj h).symm⟩
    rwa [not_and_or, not_not, not_not] at hnone

end Reading

section Collateral

/-- What a reserve holds, less the fees of the protocol. -/
def totalLiquidityWads (input : CollateralInput) : Int :=
  input.availableAmount * wad + input.reserveBorrowedAmountWads - input.accumulatedProtocolFeesWads

/-- What an accepted projection divided. -/
theorem projectSaveLendCollateral_ok {input : CollateralInput} {result : Nat}
    (h : projectSaveLendCollateralToLiquidityAtomic input = .ok result) :
    ∃ amount supply total rate : Nat, input.collateralAmount = amount ∧
      input.collateralMintTotalSupply = supply ∧ totalLiquidityWads input = total ∧
      exchangeRate supply total = .ok rate ∧ result = amount * wad / rate := by
  obtain ⟨amount, hamount, h⟩ := except_bind_ok.mp h
  obtain ⟨available, havailable, h⟩ := except_bind_ok.mp h
  obtain ⟨supply, hsupply, h⟩ := except_bind_ok.mp h
  obtain ⟨borrowed, hborrowed, h⟩ := except_bind_ok.mp h
  obtain ⟨fees, hfees, h⟩ := except_bind_ok.mp h
  obtain ⟨_, hwads, h⟩ := except_bind_ok.mp h
  obtain ⟨_, hgross, h⟩ := except_bind_ok.mp h
  obtain ⟨rate, hrate, h⟩ := except_bind_ok.mp h
  obtain ⟨_, hfirst, h⟩ := except_bind_ok.mp h
  obtain ⟨_, hsecond, h⟩ := except_bind_ok.mp h
  obtain ⟨_, _, h⟩ := except_bind_ok.mp h
  obtain rfl := Except.ok.inj h
  obtain rfl := checkedMultiply_ok hwads
  obtain rfl := checkedMultiply_ok hfirst
  obtain rfl := checkedMultiply_ok hsecond
  refine ⟨amount, supply, _, rate, (bounded_ok.1 hamount).1, (bounded_ok.1 hsupply).1, ?_, hrate,
    ?_⟩
  · have hcovered := Nat.le_of_not_lt (not_or.mp (failWhen_ok.mp hgross)).2
    rw [totalLiquidityWads, (bounded_ok.1 havailable).1, (bounded_ok.1 hborrowed).1,
      (bounded_ok.1 hfees).1, Nat.cast_sub hcovered, Nat.cast_add, Nat.cast_mul]
  · rw [Nat.div_div_eq_div_mul, Nat.mul_div_mul_right _ _ (by decide)]

/-- The amounts in a projection at a rate. -/
theorem collateral_divided {input : CollateralInput} {result : Nat}
    (h : projectSaveLendCollateralToLiquidityAtomic input = .ok result)
    (hsupply : input.collateralMintTotalSupply ≠ 0) (htotal : totalLiquidityWads input ≠ 0) :
    ∃ amount supply total : Nat, input.collateralAmount = amount ∧
      input.collateralMintTotalSupply = supply ∧ totalLiquidityWads input = total ∧ 0 < total ∧
      0 < supply * wad * wad / total ∧
      result = divided (amount * wad) (supply * wad * wad) total := by
  obtain ⟨amount, supply, total, rate, hamount, hs, ht, hrate, hresult⟩ :=
    projectSaveLendCollateral_ok h
  obtain ⟨hnone, _⟩ | ⟨_, hpos, heq, hrate⟩ := exchangeRate_ok hrate
  · omega
  · exact ⟨amount, supply, total, hamount, hs, ht, Nat.pos_of_ne_zero hpos, heq ▸ hrate,
      by rw [hresult, heq, divided]⟩

theorem collateral_bounds {input : CollateralInput} {result : Nat}
    (h : projectSaveLendCollateralToLiquidityAtomic input = .ok result)
    (hsupply : input.collateralMintTotalSupply ≠ 0) (htotal : totalLiquidityWads input ≠ 0) :
    input.collateralAmount * totalLiquidityWads input / (input.collateralMintTotalSupply * wad) ≤
        result ∧
      result * (input.collateralMintTotalSupply * wad * wad + 1 - totalLiquidityWads input) ≤
        input.collateralAmount * wad * totalLiquidityWads input := by
  obtain ⟨amount, supply, total, hamount, hs, ht, hpos, hrate, hresult⟩ :=
    collateral_divided h hsupply htotal
  rw [hamount, hs, ht]
  constructor
  · have hlower := le_divided (x := amount * wad) hrate
    rw [← hresult, Nat.mul_right_comm amount, Nat.mul_div_mul_right _ _ (by decide)] at hlower
    exact_mod_cast hlower
  · have hupper : divided (amount * wad) (supply * wad * wad) _ * _ ≤ _ := divided_mul_le hpos
    rw [← hresult] at hupper
    have hcast : (result : Int) * (supply * wad * wad + 1) ≤
        amount * wad * total + result * total := by exact_mod_cast hupper
    linarith

theorem collateral_fallback {input : CollateralInput} {result : Nat}
    (h : projectSaveLendCollateralToLiquidityAtomic input = .ok result)
    (hnone : input.collateralMintTotalSupply = 0 ∨ totalLiquidityWads input = 0) :
    (result : Int) = input.collateralAmount := by
  obtain ⟨amount, supply, total, rate, hamount, hs, ht, hrate, hresult⟩ :=
    projectSaveLendCollateral_ok h
  obtain ⟨_, rfl⟩ | ⟨hsupply, htotal, _⟩ := exchangeRate_ok hrate
  · rw [hresult, hamount, Nat.mul_div_cancel _ (by decide)]
  · omega

/-- Holders of one reserve together, none of them at the fallback rate. -/
theorem collateral_family {input : CollateralInput} {amounts : List Int} {results : List Nat}
    (h : List.Forall₂ (fun amount result => projectSaveLendCollateralToLiquidityAtomic
      { input with collateralAmount := amount } = .ok result) amounts results)
    (hsupply : input.collateralMintTotalSupply ≠ 0) (htotal : totalLiquidityWads input ≠ 0) :
    (results.sum : Int) *
        (input.collateralMintTotalSupply * wad * wad + 1 - totalLiquidityWads input) ≤
      amounts.sum * wad * totalLiquidityWads input := by
  induction h with
  | nil => simp
  | @cons amount result amounts results hp _ ih =>
    have hbound := (collateral_bounds hp hsupply htotal).2
    have hreserve : totalLiquidityWads { input with collateralAmount := amount } =
        totalLiquidityWads input := rfl
    rw [hreserve] at hbound
    dsimp only at hbound
    rw [List.sum_cons, List.sum_cons, Nat.cast_add, add_mul, add_mul, add_mul]
    exact add_le_add hbound ih

end Collateral

section Borrow

/-- What an accepted projection of a debt scaled. -/
theorem projectSaveLendBorrow_ok {input : BorrowInput} {result : Nat}
    (h : projectSaveLendBorrowToLiquidityAtomic input = .ok result) :
    ∃ debt before now : Nat, input.borrowedAmountWads = debt ∧
      input.obligationCumulativeBorrowRateWads = before ∧
      input.reserveCumulativeBorrowRateWads = now ∧ 0 < before ∧ before ≤ now ∧
      result = (scaled debt (now * wad) before wad + wad - 1) / wad := by
  obtain ⟨debt, hdebt, h⟩ := except_bind_ok.mp h
  obtain ⟨before, hbefore, h⟩ := except_bind_ok.mp h
  obtain ⟨now, hnow, h⟩ := except_bind_ok.mp h
  obtain ⟨_, hrates, h⟩ := except_bind_ok.mp h
  obtain ⟨_, hfirst, h⟩ := except_bind_ok.mp h
  obtain ⟨_, _, h⟩ := except_bind_ok.mp h
  obtain ⟨_, hsecond, h⟩ := except_bind_ok.mp h
  obtain ⟨_, _, h⟩ := except_bind_ok.mp h
  obtain ⟨_, _, h⟩ := except_bind_ok.mp h
  obtain ⟨_, _, h⟩ := except_bind_ok.mp h
  obtain rfl := Except.ok.inj h
  obtain rfl := checkedMultiply_ok hfirst
  obtain rfl := checkedMultiply_ok hsecond
  obtain ⟨hpos, hle⟩ := not_or.mp (failWhen_ok.mp hrates)
  exact ⟨debt, before, now, (bounded_ok.1 hdebt).1, (bounded_ok.1 hbefore).1,
    (bounded_ok.1 hnow).1, Nat.pos_of_ne_zero hpos, Nat.le_of_not_lt hle, rfl⟩

theorem wad_pos : 0 < wad := by decide

/-- A whole amount and the wads it was rounded up from. -/
theorem ceil_bounds (w : Nat) :
    w ≤ (w + wad - 1) / wad * wad ∧ (((w + wad - 1) / wad : Nat) - 1 : Int) * wad < w := by
  have hpos := wad_pos
  have hmod := Nat.mod_lt (w + wad - 1) hpos
  have hdiv := Nat.div_add_mod' (w + wad - 1) wad
  generalize (w + wad - 1) / wad = q at hdiv ⊢
  have hexact : ((q * wad : Nat) : Int) = q * wad := Nat.cast_mul q wad
  constructor
  · omega
  · rw [sub_mul, ← hexact]
    omega

theorem borrow_bounds {input : BorrowInput} {result : Nat}
    (h : projectSaveLendBorrowToLiquidityAtomic input = .ok result) :
    input.borrowedAmountWads ≤ result * wad ∧
    ((result : Int) - 1) * (input.obligationCumulativeBorrowRateWads * wad) <
      input.borrowedAmountWads * input.reserveCumulativeBorrowRateWads ∧
    input.borrowedAmountWads * input.reserveCumulativeBorrowRateWads * wad ≤
      result * (input.obligationCumulativeBorrowRateWads * wad * wad) +
        input.obligationCumulativeBorrowRateWads * (wad - 1) +
        input.borrowedAmountWads * (input.obligationCumulativeBorrowRateWads - 1) := by
  obtain ⟨debt, before, now, hdebt, hbefore, hnow, hpos, hle, hresult⟩ := projectSaveLendBorrow_ok h
  have hkept : debt ≤ scaled debt (now * wad) before wad :=
    le_scaled hpos wad_pos (Nat.mul_le_mul_right _ hle)
  have hupper : scaled debt (now * wad) before wad * before ≤ debt * now :=
    scaled_mul_le wad_pos now rfl
  have hlower : debt * (now * wad) ≤ _ := le_scaled_mul hpos wad_pos
  generalize scaled debt (now * wad) before wad = w at *
  obtain ⟨hceil, hlast⟩ := ceil_bounds w
  rw [← hresult] at hceil hlast
  rw [hdebt, hbefore, hnow]
  refine ⟨by exact_mod_cast hkept.trans hceil, ?_, ?_⟩
  · have hb : (0 : Int) < before := by exact_mod_cast hpos
    have hscaled : (w : Int) * before ≤ debt * now := by exact_mod_cast hupper
    calc ((result : Int) - 1) * (before * wad) = ((result - 1) * wad) * before := by ring
      _ < w * before := mul_lt_mul_of_pos_right hlast hb
      _ ≤ debt * now := hscaled
  · have hwads : before * (wad * w) ≤ before * (wad * (result * wad)) :=
      Nat.mul_le_mul_left _ (Nat.mul_le_mul_left _ hceil)
    have hexact : debt * (now * wad) ≤
        before * (wad * (result * wad)) + before * (wad - 1) + debt * (before - 1) := by
      rw [Nat.mul_add] at hlower
      omega
    have hcast : ((debt * (now * wad) : Nat) : Int) ≤
        (before * (wad * (result * wad)) + before * (wad - 1) + debt * (before - 1) : Nat) := by
      exact_mod_cast hexact
    have hone : ((before - 1 : Nat) : Int) = before - 1 := Int.ofNat_sub hpos
    have hwad : ((wad - 1 : Nat) : Int) = wad - 1 := Int.ofNat_sub wad_pos
    push_cast [hone, hwad] at hcast
    linarith

end Borrow

/-- Projections round the way the rates are rounded: a supply never below its exact share, a debt
never above its exact value, and neither further away than the rounding of a rate allows. -/
theorem saveLend_projections_bounded :
    (∀ input result, projectSaveLendCollateralToLiquidityAtomic input = .ok result →
      input.collateralMintTotalSupply ≠ 0 → totalLiquidityWads input ≠ 0 →
      input.collateralAmount * totalLiquidityWads input /
          (input.collateralMintTotalSupply * wad) ≤ result ∧
        result * (input.collateralMintTotalSupply * wad * wad + 1 - totalLiquidityWads input) ≤
          input.collateralAmount * wad * totalLiquidityWads input) ∧
    (∀ input result, projectSaveLendCollateralToLiquidityAtomic input = .ok result →
      input.collateralMintTotalSupply = 0 ∨ totalLiquidityWads input = 0 →
      (result : Int) = input.collateralAmount) ∧
    (∀ (input : CollateralInput) (amounts : List Int) (results : List Nat),
      List.Forall₂ (fun amount result => projectSaveLendCollateralToLiquidityAtomic
        { input with collateralAmount := amount } = .ok result) amounts results →
      input.collateralMintTotalSupply ≠ 0 → totalLiquidityWads input ≠ 0 →
      (results.sum : Int) *
          (input.collateralMintTotalSupply * wad * wad + 1 - totalLiquidityWads input) ≤
        amounts.sum * wad * totalLiquidityWads input) ∧
    ∀ input result, projectSaveLendBorrowToLiquidityAtomic input = .ok result →
      input.borrowedAmountWads ≤ result * wad ∧
      ((result : Int) - 1) * (input.obligationCumulativeBorrowRateWads * wad) <
        input.borrowedAmountWads * input.reserveCumulativeBorrowRateWads ∧
      input.borrowedAmountWads * input.reserveCumulativeBorrowRateWads * wad ≤
        result * (input.obligationCumulativeBorrowRateWads * wad * wad) +
          input.obligationCumulativeBorrowRateWads * (wad - 1) +
          input.borrowedAmountWads * (input.obligationCumulativeBorrowRateWads - 1) :=
  ⟨fun _ _ => collateral_bounds, fun _ _ => collateral_fallback,
    fun _ _ _ => collateral_family, fun _ _ => borrow_bounds⟩

section Sample

/-- All collateral of a reserve that grew by a half. -/
def sampleCollateral : CollateralInput where
  collateralAmount := 10000000000000000000
  availableAmount := 15000000000000000000
  reserveBorrowedAmountWads := 0
  accumulatedProtocolFeesWads := 0
  collateralMintTotalSupply := 10000000000000000000

/-- Collateral of a reserve that lost everything. -/
def drainedCollateral : CollateralInput where
  collateralAmount := 7
  availableAmount := 0
  reserveBorrowedAmountWads := 0
  accumulatedProtocolFeesWads := 0
  collateralMintTotalSupply := 10

/-- One unit of debt that grew by a trifle. -/
def sampleBorrow : BorrowInput where
  borrowedAmountWads := 1000000000000000000
  obligationCumulativeBorrowRateWads := 2000000000000000000
  reserveCumulativeBorrowRateWads := 2000000000000000001

/-- A supply is projected above its exact share, a lost one too, and a debt below its exact value. -/
theorem saveLend_not_conservative :
    (projectSaveLendCollateralToLiquidityAtomic sampleCollateral = .ok 15000000000000000015 ∧
      sampleCollateral.collateralAmount * totalLiquidityWads sampleCollateral /
        (sampleCollateral.collateralMintTotalSupply * wad) = 15000000000000000000) ∧
    (projectSaveLendCollateralToLiquidityAtomic drainedCollateral = .ok 7 ∧
      totalLiquidityWads drainedCollateral = 0) ∧
    projectSaveLendBorrowToLiquidityAtomic sampleBorrow = .ok 1 ∧
      1 * (sampleBorrow.obligationCumulativeBorrowRateWads * wad) <
        sampleBorrow.borrowedAmountWads * sampleBorrow.reserveCumulativeBorrowRateWads := by
  decide

/-- The supply, two parts of it, the lost supply and the debt are within their bounds. -/
theorem sampleProjections_bounded :
    10000000000000000000 * totalLiquidityWads sampleCollateral /
        (sampleCollateral.collateralMintTotalSupply * wad) ≤ (15000000000000000015 : Nat) ∧
    (([4500000000000000004, 10500000000000000010] : List Nat).sum : Int) *
        (sampleCollateral.collateralMintTotalSupply * wad * wad + 1 -
          totalLiquidityWads sampleCollateral) ≤
      ([3000000000000000000, 7000000000000000000] : List Int).sum * wad *
        totalLiquidityWads sampleCollateral ∧
    ((7 : Nat) : Int) = drainedCollateral.collateralAmount ∧
    sampleBorrow.borrowedAmountWads ≤ 1 * wad := by
  obtain ⟨hcollateral, hfallback, hfamily, hborrow⟩ := saveLend_projections_bounded
  refine ⟨?_, ?_, ?_, ?_⟩
  · exact (hcollateral sampleCollateral _ (by decide) (by decide) (by decide)).1
  · refine hfamily sampleCollateral _ _ ?_ (by decide) (by decide)
    exact .cons (by decide) (.cons (by decide) .nil)
  · exact hfallback drainedCollateral 7 (by decide) (by decide)
  · exact (hborrow sampleBorrow 1 (by decide)).1

end Sample

end CryptoLending.SmartLending.SaveLendBounds
