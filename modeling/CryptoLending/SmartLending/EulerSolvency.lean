import Mathlib
import CryptoLending.Lib.DecimalText
import CryptoLending.Lib.JsValue
import CryptoLending.Lib.SharePool
import CryptoLending.Lib.Transaction

namespace CryptoLending.SmartLending.EulerPosition

open Lib Lib.Text Lib.JsValue Lib.DecimalText

def internalDebtPrecisionShift : Nat := 31
def internalDebtScale : Nat := 1 <<< internalDebtPrecisionShift
def virtualDepositAtomic : Nat := 1000000
def maxUint112 : Nat := 2 ^ 112 - 1
def maxUint256 : Nat := 2 ^ 256 - 1
def maxSaneDebt : Nat := maxUint112 <<< internalDebtPrecisionShift

/-- Every failure throws the same error. The guard on the numerator is told apart. -/
inductive Failure where
  | unavailable
  | numeratorExceedsUint256
  deriving DecidableEq

inductive Rounding where
  | borrowCeil
  | supplyFloor
  deriving DecidableEq

def canonicalUint (value : Value) (maximum : Nat) : Except Failure Nat := do
  let text ← orFail value.string? .unavailable
  failWhen (isCanonicalUint text.toList = false ∨ 78 < text.toList.length) .unavailable
  let parsed := decimalValue text.toList
  failWhen (maximum < parsed) .unavailable
  return parsed

def checkedDebtAssetsUp (exactDebt : Nat) : Nat :=
  if exactDebt = 0 then 0
  else (exactDebt + internalDebtScale - 1) >>> internalDebtPrecisionShift

structure EulerV2DebtProjection where
  exactDebt : String
  internalDebtScale : String
  fractionalRemainder : String
  assetsAtomic : String
  rounding : Rounding
  deriving DecidableEq

def projectEulerV2DebtExactToAssetsUp (value : Value) : Except Failure EulerV2DebtProjection := do
  let exactDebt ← canonicalUint value maxSaneDebt
  return {
    exactDebt := integerText exactDebt
    internalDebtScale := integerText internalDebtScale
    fractionalRemainder := integerText (exactDebt % internalDebtScale)
    assetsAtomic := integerText (checkedDebtAssetsUp exactDebt)
    rounding := .borrowCeil }

/-- The accumulators of an account without debt are not read. -/
def projectEulerV2CurrentDebtExact (storedOwedExactValue currentVaultInterestAccumulatorValue
    accountInterestAccumulatorValue : Value) : Except Failure String := do
  let storedOwedExact ← canonicalUint storedOwedExactValue maxSaneDebt
  if storedOwedExact = 0 then
    return "0"
  else
    let currentVaultInterestAccumulator ←
      canonicalUint currentVaultInterestAccumulatorValue maxUint256
    let accountInterestAccumulator ← canonicalUint accountInterestAccumulatorValue maxUint256
    failWhen (accountInterestAccumulator = 0) .unavailable
    failWhen (maxUint256 / storedOwedExact < currentVaultInterestAccumulator) .unavailable
    let currentExact :=
      storedOwedExact * currentVaultInterestAccumulator / accountInterestAccumulator
    failWhen (maxSaneDebt < currentExact) .unavailable
    return integerText currentExact

structure EulerV2SupplyProjection where
  shares : String
  accruedTotalBorrowAssetsAtomic : String
  conversionTotalAssetsAtomic : String
  conversionTotalShares : String
  exactNumerator : String
  fractionalRemainder : String
  assetsAtomic : String
  rounding : Rounding
  deriving DecidableEq

def projectEulerV2SharesToAssetsDown (sharesValue totalSharesValue cashAtomicValue
    currentTotalBorrowsExactValue : Value) : Except Failure EulerV2SupplyProjection := do
  let shares ← canonicalUint sharesValue maxUint112
  let totalShares ← canonicalUint totalSharesValue maxUint112
  let cashAtomic ← canonicalUint cashAtomicValue maxUint112
  let currentTotalBorrowsExact ← canonicalUint currentTotalBorrowsExactValue maxSaneDebt
  let accruedTotalBorrowAssetsAtomic := checkedDebtAssetsUp currentTotalBorrowsExact
  let conversionTotalAssetsAtomic :=
    cashAtomic + accruedTotalBorrowAssetsAtomic + virtualDepositAtomic
  let conversionTotalShares := totalShares + virtualDepositAtomic
  let exactNumerator := shares * conversionTotalAssetsAtomic
  failWhen (maxUint256 < exactNumerator) .numeratorExceedsUint256
  let assetsAtomic := exactNumerator / conversionTotalShares
  failWhen (maxUint112 < assetsAtomic) .unavailable
  return {
    shares := integerText shares
    accruedTotalBorrowAssetsAtomic := integerText accruedTotalBorrowAssetsAtomic
    conversionTotalAssetsAtomic := integerText conversionTotalAssetsAtomic
    conversionTotalShares := integerText conversionTotalShares
    exactNumerator := integerText exactNumerator
    fractionalRemainder := integerText (exactNumerator % conversionTotalShares)
    assetsAtomic := integerText assetsAtomic
    rounding := .supplyFloor }

end CryptoLending.SmartLending.EulerPosition

namespace CryptoLending.SmartLending.EulerSolvency

open Lib Lib.Text Lib.Numeral Lib.JsValue Lib.DecimalText Lib.SharePool EulerPosition

variable {v w : Value} {m n : Nat}

/-- The number that a numeral in a projection stands for. -/
def amountOf (text : String) : Nat := decimalValue text.toList

/-- The number that a value stands for, zero where it is not a text. -/
def numberOf (v : Value) : Nat := (v.string?.map amountOf).getD 0

section Reading

theorem amountOf_integerText (n : Nat) : amountOf (integerText n) = n := decimalValue_integerText n

theorem numberOf_integerText (n : Nat) : numberOf (.string (integerText n)) = n :=
  amountOf_integerText n

theorem canonicalUint_ok {maximum : Nat} (hlt : maximum < 10 ^ 78) :
    canonicalUint v maximum = .ok n ↔ v = .string (integerText n) ∧ n ≤ maximum := by
  constructor
  · intro h
    obtain ⟨text, htext, h⟩ := except_bind_ok.mp h
    obtain ⟨_, hcanonical, h⟩ := except_bind_ok.mp h
    obtain ⟨_, hle, h⟩ := except_bind_ok.mp h
    obtain rfl := Except.ok.inj h
    have hshape := Bool.eq_true_of_not_eq_false (not_or.mp (failWhen_ok.mp hcanonical)).1
    refine ⟨?_, Nat.le_of_not_lt (failWhen_ok.mp hle)⟩
    rw [integerText, toDigits_decimalValue hshape, String.ofList_toList]
    exact Value.string?_eq_some.mp (orFail_ok.mp htext)
  · rintro ⟨rfl, hle⟩
    have hcanonical : isCanonicalUint (integerText n).toList = true := by
      rw [toList_integerText]
      exact isCanonicalUint_toDigits n
    have hlength : (integerText n).toList.length ≤ 78 := by
      rw [toList_integerText]
      exact Decimal.decimalLength_le (by decide) (hle.trans_lt hlt)
    have hvalue := decimalValue_integerText n
    refine except_bind_ok.mpr ⟨integerText n, rfl, ?_⟩
    refine except_bind_ok.mpr ⟨(), failWhen_ok.mpr (by simp [hcanonical, hlength]), ?_⟩
    refine except_bind_ok.mpr ⟨(), failWhen_ok.mpr ?_, congrArg Except.ok hvalue⟩
    rw [hvalue]
    exact Nat.not_lt.mpr hle

theorem maxUint112_lt : maxUint112 < 10 ^ 78 := by decide

theorem maxSaneDebt_lt : maxSaneDebt < 10 ^ 78 := by decide

theorem maxUint256_lt : maxUint256 < 10 ^ 78 := by decide

theorem numberOf_of_ok {maximum : Nat} (hlt : maximum < 10 ^ 78)
    (h : canonicalUint v maximum = .ok n) : numberOf v = n := by
  obtain ⟨rfl, _⟩ := (canonicalUint_ok hlt).mp h
  exact numberOf_integerText n

theorem canonicalUint_error {maximum : Nat} {e : Failure} (h : canonicalUint v maximum = .error e) :
    e = .unavailable := by
  obtain h | ⟨_, _, h⟩ := except_bind_error.mp h
  · exact (orFail_error.mp h).2.symm
  obtain h | ⟨_, _, h⟩ := except_bind_error.mp h
  · exact (failWhen_error.mp h).2.symm
  obtain h | ⟨_, _, h⟩ := except_bind_error.mp h
  · exact (failWhen_error.mp h).2.symm
  · cases h

end Reading

section Debt

/-- Debt is rounded up to whole assets. -/
theorem checkedDebtAssetsUp_eq (e : Nat) : checkedDebtAssetsUp e = e ⌈/⌉ 2 ^ 31 := by
  rw [checkedDebtAssetsUp]
  by_cases h : e = 0
  · rw [if_pos h, h, zero_ceilDiv]
  · rw [if_neg h, Nat.shiftRight_eq_div_pow, Nat.ceilDiv_eq_add_pred_div]
    rfl

theorem checkedDebtAssetsUp_mono {e e' : Nat} (h : e ≤ e') :
    checkedDebtAssetsUp e ≤ checkedDebtAssetsUp e' := by
  rw [checkedDebtAssetsUp_eq, checkedDebtAssetsUp_eq, ceilDiv_le_iff_le_mul (by decide)]
  exact h.trans ((ceilDiv_le_iff_le_mul (by decide)).mp le_rfl)

theorem checkedDebtAssetsUp_le {e : Nat} (h : e ≤ maxSaneDebt) :
    checkedDebtAssetsUp e ≤ maxUint112 := by
  rw [checkedDebtAssetsUp_eq, ceilDiv_le_iff_le_mul (by decide)]
  exact h.trans (by decide)

theorem projectEulerV2DebtExactToAssetsUp_ok {p : EulerV2DebtProjection}
    (h : projectEulerV2DebtExactToAssetsUp v = .ok p) :
    amountOf p.assetsAtomic = checkedDebtAssetsUp (numberOf v) := by
  obtain ⟨e, he, h⟩ := except_bind_ok.mp h
  obtain rfl := Except.ok.inj h
  rw [numberOf_of_ok maxSaneDebt_lt he]
  exact amountOf_integerText _

/-- What an accepted debt grew to, and what was read for it. -/
theorem projectEulerV2CurrentDebtExact_ok {debt current account : Value} {text : String}
    (h : projectEulerV2CurrentDebtExact debt current account = .ok text) :
    (numberOf debt = 0 ∧ amountOf text = 0) ∨
      (0 < numberOf debt ∧ 0 < numberOf account ∧
        amountOf text = DebtIndex.grown (numberOf debt) (numberOf current) (numberOf account)) := by
  obtain ⟨d, hd, h⟩ := except_bind_ok.mp h
  rw [numberOf_of_ok maxSaneDebt_lt hd]
  by_cases hzero : d = 0
  · rw [if_pos hzero] at h
    obtain rfl := Except.ok.inj h
    exact .inl ⟨hzero, by decide⟩
  · rw [if_neg hzero] at h
    obtain ⟨now, hnow, h⟩ := except_bind_ok.mp h
    obtain ⟨before, hbefore, h⟩ := except_bind_ok.mp h
    obtain ⟨_, hpos, h⟩ := except_bind_ok.mp h
    obtain ⟨_, _, h⟩ := except_bind_ok.mp h
    obtain ⟨_, _, h⟩ := except_bind_ok.mp h
    obtain rfl := Except.ok.inj h
    rw [numberOf_of_ok maxUint256_lt hnow, numberOf_of_ok maxUint256_lt hbefore,
      amountOf_integerText]
    exact .inr ⟨Nat.pos_of_ne_zero hzero, Nat.pos_of_ne_zero (failWhen_ok.mp hpos), rfl⟩

/-- A debt never shrinks as the accumulator grows. -/
theorem le_currentDebt {debt current account : Value} {text : String}
    (h : projectEulerV2CurrentDebtExact debt current account = .ok text)
    (hle : numberOf account ≤ numberOf current) : numberOf debt ≤ amountOf text := by
  obtain ⟨hdebt, _⟩ | ⟨_, hpos, heq⟩ := projectEulerV2CurrentDebtExact_ok h
  · rw [hdebt]
    exact Nat.zero_le _
  · rw [heq]
    exact DebtIndex.le_grown hpos hle

/-- Growing in two steps is never more than growing in one. -/
theorem currentDebt_compose {debt a b c : Value} {first second direct : String}
    (hfirst : projectEulerV2CurrentDebtExact debt b a = .ok first)
    (hsecond : projectEulerV2CurrentDebtExact (.string first) c b = .ok second)
    (hdirect : projectEulerV2CurrentDebtExact debt c a = .ok direct) :
    amountOf second ≤ amountOf direct := by
  have hnumber : numberOf (.string first) = amountOf first := rfl
  obtain ⟨_, hzero⟩ | ⟨_, hb, hsecond⟩ := projectEulerV2CurrentDebtExact_ok hsecond
  · rw [hzero]
    exact Nat.zero_le _
  obtain ⟨_, hzero⟩ | ⟨hdebt, ha, hfirst⟩ := projectEulerV2CurrentDebtExact_ok hfirst
  · rw [hsecond, hnumber, hzero, DebtIndex.grown, Nat.zero_mul, Nat.zero_div]
    exact Nat.zero_le _
  obtain ⟨hzero, _⟩ | ⟨_, _, hdirect⟩ := projectEulerV2CurrentDebtExact_ok hdirect
  · omega
  · rw [hsecond, hdirect, hnumber, hfirst]
    exact DebtIndex.grown_grown_le ha hb

end Debt

section Supply

def offsets : Offsets where
  assets := virtualDepositAtomic
  shares := virtualDepositAtomic
  assets_pos := by decide
  shares_pos := by decide

/-- The vault as a pool: its cash and the debts of its borrowers, rounded up. -/
def vault (total cash borrows : Value) : Pool where
  assets := numberOf cash + checkedDebtAssetsUp (numberOf borrows)
  shares := numberOf total

theorem projectEulerV2SharesToAssetsDown_ok {shares total cash borrows : Value}
    {p : EulerV2SupplyProjection}
    (h : projectEulerV2SharesToAssetsDown shares total cash borrows = .ok p) :
    amountOf p.assetsAtomic = worth offsets (vault total cash borrows) (numberOf shares) := by
  obtain ⟨s, hs, h⟩ := except_bind_ok.mp h
  obtain ⟨t, ht, h⟩ := except_bind_ok.mp h
  obtain ⟨c, hc, h⟩ := except_bind_ok.mp h
  obtain ⟨b, hb, h⟩ := except_bind_ok.mp h
  obtain ⟨_, _, h⟩ := except_bind_ok.mp h
  obtain ⟨_, _, h⟩ := except_bind_ok.mp h
  obtain rfl := Except.ok.inj h
  rw [vault, numberOf_of_ok maxUint112_lt hs, numberOf_of_ok maxUint112_lt ht,
    numberOf_of_ok maxUint112_lt hc, numberOf_of_ok maxSaneDebt_lt hb]
  exact amountOf_integerText _

theorem family {total cash borrows : Value} {shares : List Value}
    {ps : List EulerV2SupplyProjection}
    (h : List.Forall₂ (fun v p => projectEulerV2SharesToAssetsDown v total cash borrows = .ok p)
      shares ps) :
    ps.map (fun p => amountOf p.assetsAtomic) =
      (shares.map numberOf).map (worth offsets (vault total cash borrows)) := by
  induction h with
  | nil => rfl
  | cons hp _ ih =>
    rw [List.map_cons, List.map_cons, List.map_cons, ih, projectEulerV2SharesToAssetsDown_ok hp]

/-- A product of amounts that were read fits into a word. -/
theorem numerator_le {s c e : Nat} (hs : s ≤ maxUint112) (hc : c ≤ maxUint112)
    (he : e ≤ maxUint112) : s * (c + e + virtualDepositAtomic) ≤ maxUint256 := by
  calc s * (c + e + virtualDepositAtomic)
      ≤ maxUint112 * (maxUint112 + maxUint112 + virtualDepositAtomic) :=
        Nat.mul_le_mul hs (Nat.add_le_add_right (Nat.add_le_add hc he) _)
    _ ≤ maxUint256 := by decide

theorem projectEulerV2SharesToAssetsDown_ne (shares total cash borrows : Value) :
    projectEulerV2SharesToAssetsDown shares total cash borrows ≠
      .error .numeratorExceedsUint256 := by
  intro h
  obtain h | ⟨s, hs, h⟩ := except_bind_error.mp h
  · cases canonicalUint_error h
  obtain h | ⟨t, _, h⟩ := except_bind_error.mp h
  · cases canonicalUint_error h
  obtain h | ⟨c, hc, h⟩ := except_bind_error.mp h
  · cases canonicalUint_error h
  obtain h | ⟨b, hb, h⟩ := except_bind_error.mp h
  · cases canonicalUint_error h
  have hfits := numerator_le ((canonicalUint_ok maxUint112_lt).mp hs).2
    ((canonicalUint_ok maxUint112_lt).mp hc).2
    (checkedDebtAssetsUp_le ((canonicalUint_ok maxSaneDebt_lt).mp hb).2)
  obtain h | ⟨_, _, h⟩ := except_bind_error.mp h
  · exact Nat.not_lt.mpr hfits (failWhen_error.mp h).1
  obtain h | ⟨_, _, h⟩ := except_bind_error.mp h
  · cases (failWhen_error.mp h).2
  · cases h

end Supply

/-- Suppliers are never promised more than the vault holds, and borrowers never owe less than
their debt. -/
theorem eulerV2_projections_solvent :
    (∀ total cash borrows shares ps,
      List.Forall₂ (fun v p => projectEulerV2SharesToAssetsDown v total cash borrows = .ok p)
        shares ps →
      (shares.map numberOf).sum ≤ numberOf total →
      (ps.map fun p => amountOf p.assetsAtomic).sum <
          numberOf cash + numberOf borrows ⌈/⌉ 2 ^ 31 + virtualDepositAtomic ∧
        (numberOf total ≤ numberOf cash + numberOf borrows ⌈/⌉ 2 ^ 31 →
          (ps.map fun p => amountOf p.assetsAtomic).sum ≤
            numberOf cash + numberOf borrows ⌈/⌉ 2 ^ 31)) ∧
    (∀ shares total cash borrows, projectEulerV2SharesToAssetsDown shares total cash borrows ≠
      .error .numeratorExceedsUint256) ∧
    (∀ shares total cash borrows shares' total' cash' borrows' p p',
      projectEulerV2SharesToAssetsDown shares total cash borrows = .ok p →
      projectEulerV2SharesToAssetsDown shares' total' cash' borrows' = .ok p' →
      numberOf shares ≤ numberOf shares' → numberOf total' ≤ numberOf total →
      numberOf cash ≤ numberOf cash' → numberOf borrows ≤ numberOf borrows' →
      amountOf p.assetsAtomic ≤ amountOf p'.assetsAtomic) ∧
    (∀ debt a b c first second direct,
      projectEulerV2CurrentDebtExact debt b a = .ok first →
      projectEulerV2CurrentDebtExact (.string first) c b = .ok second →
      projectEulerV2CurrentDebtExact debt c a = .ok direct →
      numberOf a ≤ numberOf b → numberOf b ≤ numberOf c →
      amountOf second ≤ amountOf direct ∧ numberOf debt ≤ amountOf first ∧
        numberOf debt ≤ amountOf second ∧ numberOf debt ≤ amountOf direct) ∧
    ∀ debt debt' p p', projectEulerV2DebtExactToAssetsUp debt = .ok p →
      projectEulerV2DebtExactToAssetsUp debt' = .ok p' →
      numberOf debt ≤ amountOf p.assetsAtomic * 2 ^ 31 ∧
        (numberOf debt ≤ numberOf debt' → amountOf p.assetsAtomic ≤ amountOf p'.assetsAtomic) := by
  refine ⟨?_, projectEulerV2SharesToAssetsDown_ne, ?_, ?_, ?_⟩
  · intro total cash borrows shares ps hps hsum
    rw [family hps, ← checkedDebtAssetsUp_eq]
    exact ⟨sum_worth_lt (p := vault total cash borrows) hsum,
      sum_worth_le_of_shares_le (p := vault total cash borrows) rfl hsum⟩
  · intro shares total cash borrows shares' total' cash' borrows' p p' hp hp' hs ht hc hb
    rw [projectEulerV2SharesToAssetsDown_ok hp, projectEulerV2SharesToAssetsDown_ok hp']
    exact worth_le_worth hs (Nat.add_le_add hc (checkedDebtAssetsUp_mono hb)) ht
  · intro debt a b c first second direct hfirst hsecond hdirect hab hbc
    have hgrown := le_currentDebt hfirst hab
    exact ⟨currentDebt_compose hfirst hsecond hdirect, hgrown,
      hgrown.trans (le_currentDebt hsecond hbc), le_currentDebt hdirect (hab.trans hbc)⟩
  · intro debt debt' p p' hp hp'
    rw [projectEulerV2DebtExactToAssetsUp_ok hp, projectEulerV2DebtExactToAssetsUp_ok hp']
    refine ⟨?_, checkedDebtAssetsUp_mono⟩
    rw [checkedDebtAssetsUp_eq, Nat.mul_comm]
    exact (ceilDiv_le_iff_le_mul (by decide)).mp le_rfl

section Sample

def sampleTotal : Value := .string "900000000"
def sampleCash : Value := .string "400000000"
def sampleBorrows : Value := .string "1288490188800000001"

/-- Two suppliers hold all shares of a vault in which a share is worth more than one asset. -/
theorem sampleVault_solvent : ∃ p q first second direct,
    projectEulerV2SharesToAssetsDown (.string "500000000") sampleTotal sampleCash sampleBorrows =
      .ok p ∧
    projectEulerV2SharesToAssetsDown (.string "400000000") sampleTotal sampleCash sampleBorrows =
      .ok q ∧
    amountOf p.assetsAtomic + (amountOf q.assetsAtomic + 0) ≤ 1000000001 ∧
    projectEulerV2CurrentDebtExact (.string "7") (.string "5") (.string "3") = .ok first ∧
    projectEulerV2CurrentDebtExact (.string first) (.string "8") (.string "5") = .ok second ∧
    projectEulerV2CurrentDebtExact (.string "7") (.string "8") (.string "3") = .ok direct ∧
    amountOf second ≤ amountOf direct := by
  have hp : (projectEulerV2SharesToAssetsDown (.string "500000000") sampleTotal sampleCash
      sampleBorrows).isOk = true := by decide
  have hq : (projectEulerV2SharesToAssetsDown (.string "400000000") sampleTotal sampleCash
      sampleBorrows).isOk = true := by decide
  obtain ⟨p, hp⟩ := except_exists_of_isOk hp
  obtain ⟨q, hq⟩ := except_exists_of_isOk hq
  have hfirst : projectEulerV2CurrentDebtExact (.string "7") (.string "5") (.string "3") =
      .ok "11" := by decide
  have hsecond : projectEulerV2CurrentDebtExact (.string "11") (.string "8") (.string "5") =
      .ok "17" := by decide
  have hdirect : projectEulerV2CurrentDebtExact (.string "7") (.string "8") (.string "3") =
      .ok "18" := by decide
  obtain ⟨hfamily, _, _, hdebt, _⟩ := eulerV2_projections_solvent
  have hsum := (hfamily sampleTotal sampleCash sampleBorrows
    [.string "500000000", .string "400000000"] [p, q] (.cons hp (.cons hq .nil))
    (by decide)).2 (by decide)
  have hcompose := (hdebt _ (.string "3") (.string "5") (.string "8") _ _ _ hfirst hsecond hdirect
    (by decide) (by decide)).1
  exact ⟨p, q, _, _, _, hp, hq, hsum.trans (by decide), hfirst, hsecond, hdirect, hcompose⟩

end Sample

end CryptoLending.SmartLending.EulerSolvency
