import CryptoLending.Lib.DecimalText
import CryptoLending.SmartLending.MorphoPosition

namespace CryptoLending.SmartLending.MorphoSolvency

open Lib Lib.Text Lib.Identifier Lib.JsValue Lib.ListOption Lib.SharePool Lib.Numeral
open Lib.DecimalText Wallets.WalletIdentity MorphoPosition

section Arithmetic

variable {a b c d : Nat}

theorem checkedAdd_eq_some : checkedAdd a b = some c ↔ a + b ≤ maxUint256 ∧ a + b = c := by
  rw [checkedAdd, Option.ite_none_left_eq_some, Nat.not_lt, Option.some.injEq]

theorem checkedMul_eq_some : checkedMul a b = some c ↔ a * b ≤ maxUint256 ∧ a * b = c := by
  rw [checkedMul, Option.ite_none_left_eq_some, Option.some.injEq]
  refine and_congr_left fun _ => ?_
  by_cases ha : a = 0
  · subst ha
    simp
  · rw [Nat.div_lt_iff_lt_mul (Nat.pos_of_ne_zero ha), Nat.mul_comm b a, not_and, Nat.not_lt]
    exact ⟨fun h => h ha, fun h _ => h⟩

theorem checkedUint128Add_eq_some :
    checkedUint128Add a b = some c ↔ a + b ≤ maxUint128 ∧ a + b = c := by
  rw [checkedUint128Add, Option.ite_none_left_eq_some, Option.some.injEq]
  refine and_congr_left fun _ => ?_
  omega

theorem mulDivDown_eq_some :
    mulDivDown a b d = some c ↔ d ≠ 0 ∧ a * b ≤ maxUint256 ∧ a * b / d = c := by
  simp only [mulDivDown, Option.bind_eq_bind, Option.bind_eq_some_iff, Option.guard_eq_some',
    checkedMul_eq_some, Option.pure_def, Option.some.injEq]
  constructor
  · rintro ⟨_, hd, _, ⟨hle, rfl⟩, rfl⟩
    exact ⟨hd, hle, rfl⟩
  · rintro ⟨hd, hle, rfl⟩
    exact ⟨(), hd, _, ⟨hle, rfl⟩, rfl⟩

/-- The rate that a rate per second compounds to, up to the third term of its series. -/
def compoundedRate (rate seconds : Nat) : Nat :=
  let firstTerm := rate * seconds
  let secondTerm := firstTerm * firstTerm / (2 * wad)
  firstTerm + secondTerm + secondTerm * firstTerm / (3 * wad)

theorem taylor_some {rate seconds : Nat} {p : TaylorProjection}
    (h : taylor rate seconds = some p) : p.compoundedRateWad = compoundedRate rate seconds := by
  simp only [taylor, Option.bind_eq_bind, Option.bind_eq_some_iff, checkedMul_eq_some,
    mulDivDown_eq_some, checkedAdd_eq_some, Option.pure_def, Option.some.injEq] at h
  obtain ⟨_, ⟨_, rfl⟩, _, ⟨_, _, rfl⟩, _, ⟨_, _, rfl⟩, _, ⟨_, rfl⟩, _, ⟨_, rfl⟩, rfl⟩ := h
  rfl

theorem compoundedRate_mono {rate seconds seconds' : Nat} (h : seconds ≤ seconds') :
    compoundedRate rate seconds ≤ compoundedRate rate seconds' := by
  have hfirst : rate * seconds ≤ rate * seconds' := Nat.mul_le_mul_left _ h
  have hsecond := Nat.div_le_div_right (c := 2 * wad) (Nat.mul_le_mul hfirst hfirst)
  have hthird := Nat.div_le_div_right (c := 3 * wad) (Nat.mul_le_mul hsecond hfirst)
  exact Nat.add_le_add (Nat.add_le_add hfirst hsecond) hthird

theorem taylor_zero : taylor 0 0 = some ⟨0, 0, 0, 0, 0, 0⟩ := rfl

end Arithmetic

section Pools

/-- The virtual assets and shares of a market. -/
def offsets : Offsets where
  assets := virtualAssets
  shares := virtualShares
  assets_pos := by decide
  shares_pos := by decide

-- The offsets are rewritten: to unfold a sum with a large literal is slow.
theorem offsets_assets : offsets.assets = virtualAssets := rfl

theorem offsets_shares : offsets.shares = virtualShares := rfl

theorem feeShares_offsets (p : Pool) (fee : Nat) : feeShares offsets p fee =
    fee * (p.shares + virtualShares) / (p.assets - fee + virtualAssets) := by
  rw [feeShares, offsets_assets, offsets_shares]

theorem supplyDown_some {shares assets total : Nat} {p : ShareAssetProjection}
    (h : shareProjection shares assets total .supplyDown = some p) :
    p.assetsAtomic = worth offsets ⟨assets, total⟩ shares := by
  simp only [shareProjection, Option.bind_eq_bind, Option.bind_eq_some_iff, checkedMul_eq_some,
    checkedAdd_eq_some, Option.pure_def, Option.some.injEq] at h
  obtain ⟨_, ⟨_, rfl⟩, _, ⟨_, rfl⟩, _, ⟨_, rfl⟩, _, rfl, rfl⟩ := h
  rw [worth, offsets_assets, offsets_shares]

/-- A debt is computed when its numerator fits, rounded up. -/
def DebtFits (p : Pool) (shares : Nat) : Prop :=
  shares * (p.assets + virtualAssets) + (p.shares + virtualShares - 1) ≤ maxUint256

theorem borrowUp_some {shares assets total : Nat} {p : ShareAssetProjection}
    (h : shareProjection shares assets total .borrowUp = some p) :
    p.assetsAtomic = debt offsets ⟨assets, total⟩ shares ∧ DebtFits ⟨assets, total⟩ shares := by
  simp only [shareProjection, Option.bind_eq_bind, Option.bind_eq_some_iff, checkedMul_eq_some,
    checkedAdd_eq_some, Option.pure_def, Option.some.injEq] at h
  obtain ⟨_, ⟨_, rfl⟩, _, ⟨_, rfl⟩, _, ⟨_, rfl⟩, _, ⟨hfits, rfl⟩, rfl⟩ := h
  rw [debt, DebtFits, offsets_assets, offsets_shares]
  exact ⟨rfl, hfits⟩

def supplyPool (m : Market) : Pool := ⟨m.totalSupplyAssets, m.totalSupplyShares⟩

def borrowPool (m : Market) : Pool := ⟨m.totalBorrowAssets, m.totalBorrowShares⟩

/-- What a snapshot is projected to, in terms of the pools of its market. -/
structure IsProjection (s : Snapshot) (p : Projection) : Prop where
  currentAt : p.currentAt = s.blockTimestamp
  interest : p.interestAtomic = s.market.totalBorrowAssets.1 *
    compoundedRate s.borrowRatePerSecondWad s.compoundedSeconds / wad
  fee : p.feeAmountAtomic = p.interestAtomic * s.market.feeWad.1 / wad
  pendingFeeShares : p.pendingFeeShares =
    feeShares offsets (addAssets (supplyPool s.market) p.interestAtomic) p.feeAmountAtomic
  supplyMarket : Pool.mk p.accruedMarket.totalSupplyAssets p.accruedMarket.totalSupplyShares =
    accrue offsets (supplyPool s.market) p.interestAtomic p.feeAmountAtomic
  borrowMarket : Pool.mk p.accruedMarket.totalBorrowAssets p.accruedMarket.totalBorrowShares =
    addAssets (borrowPool s.market) p.interestAtomic
  walletIsFeeRecipient : p.walletIsFeeRecipient = s.walletIsFeeRecipient
  rawSupplyShares : p.position.rawSupplyShares = s.position.supplyShares
  adjustedSupplyShares : p.position.adjustedSupplyShares = p.position.rawSupplyShares +
    if p.walletIsFeeRecipient then p.pendingFeeShares else 0
  borrowShares : p.position.borrowShares = s.position.borrowShares
  supply : p.position.supply.assetsAtomic =
    worth offsets (accrue offsets (supplyPool s.market) p.interestAtomic p.feeAmountAtomic)
      p.position.adjustedSupplyShares
  borrow : p.position.borrow.assetsAtomic =
    debt offsets (addAssets (borrowPool s.market) p.interestAtomic) p.position.borrowShares
  borrow_fits : DebtFits (addAssets (borrowPool s.market) p.interestAtomic) p.position.borrowShares

theorem project_ok {s : Snapshot} {p : Projection} (h : project s = .ok p) : IsProjection s p := by
  simp only [project, except_bind_ok, orFail_ok, mulDivDown_eq_some, checkedAdd_eq_some,
    checkedUint128Add_eq_some, except_pure_ok] at h
  obtain ⟨t, htaylor, interest, ⟨_, _, hinterest⟩, _, ⟨_, rfl⟩, _, ⟨_, rfl⟩, fee, ⟨_, _, hfee⟩, _,
    _, _, ⟨_, rfl⟩, _, ⟨_, rfl⟩, pending, ⟨_, _, hpending⟩, _, ⟨_, rfl⟩, adjusted, hadjusted, _, _,
    supply, hsupply, borrow, hborrow, rfl⟩ := h
  obtain ⟨hborrow, hfits⟩ := borrowUp_some hborrow
  have hsupply := supplyDown_some hsupply
  rw [taylor_some htaylor] at hinterest
  have hminted : pending = feeShares offsets (addAssets (supplyPool s.market) interest) fee := by
    rw [feeShares_offsets]
    exact hpending.symm
  have haccrue := congrArg (Pool.mk (s.market.totalSupplyAssets.1 + interest) ∘
    (s.market.totalSupplyShares.1 + ·)) hminted
  refine ⟨rfl, hinterest.symm, hfee.symm, hminted, haccrue, rfl, rfl, rfl, ?_, rfl, ?_, hborrow,
    hfits⟩
  · cases hrecipient : s.walletIsFeeRecipient with
    | false =>
      rw [hrecipient] at hadjusted
      exact (Option.some.inj hadjusted).symm
    | true =>
      rw [hrecipient] at hadjusted
      exact (checkedAdd_eq_some.1 hadjusted).2.symm
  · rw [hsupply]
    exact congrArg (fun p => worth offsets p adjusted) haccrue

end Pools

section Parsing

variable {isAddress : String → Bool} {v w : Value} {s s' : Snapshot}

/-- What was read for the fields of a snapshot. -/
structure IsParsed (isAddress : String → Bool) (r : Record) (s : Snapshot) : Prop where
  semantics : hasSemantics r = true
  wallet : canonicalAddress isAddress (r.get "walletAddress") false = some s.walletAddress
  feeRecipient :
    canonicalAddress isAddress (r.get "feeRecipientAddress") true = some s.feeRecipientAddress
  irm : canonicalAddress isAddress (r.get "irmAddress") true = some s.irmAddress
  blockTimestamp : canonicalUint (r.get "blockTimestamp") maxUint256 = some s.blockTimestamp
  market : parseMarket (r.get "market") = some s.market
  position : parsePosition (r.get "position") = some s.position
  rate : readRate (r.get "borrowRatePerSecondWad") s.irmAddress
    (s.blockTimestamp - s.market.lastUpdate) s.market.totalBorrowAssets =
      some (s.borrowRatePerSecondWad, s.irmReadStatus)

theorem parseSnapshot_eq_some : parseSnapshot isAddress v = some s ↔
    ∃ r, exactDataRecord v snapshotKeys = some r ∧ IsParsed isAddress r s := by
  simp only [parseSnapshot, Option.bind_eq_bind, Option.bind_eq_some_iff,
    Option.pure_def, Option.some.injEq, Option.guard_eq_some']
  refine exists_congr fun r => and_congr_right fun _ => ?_
  constructor
  · rintro ⟨_, hsemantics, _, hwallet, _, hfee, _, hirm, _, hblock, _, hmarket, ⟨_⟩, _, _,
      hposition, ⟨_⟩, _, _, hrate, rfl⟩
    exact ⟨hsemantics, hwallet, hfee, hirm, hblock, hmarket, hposition, hrate⟩
  · rintro ⟨hsemantics, hwallet, hfee, hirm, hblock, hmarket, hposition, hrate⟩
    exact ⟨(), hsemantics, _, hwallet, _, hfee, _, hirm, _, hblock, _, hmarket, ⟨s.consistent⟩,
      ensure_pos s.consistent, _, hposition, ⟨s.held⟩, ensure_pos s.held, _, hrate, rfl⟩

theorem canonicalUint_integerText {n maximum : Nat} (h : n ≤ maximum) (hlt : n < 10 ^ 78) :
    canonicalUint (.string (integerText n)) maximum = some ⟨n, h⟩ := by
  have hcanonical : isCanonicalUint (integerText n).toList ∧ (integerText n).toList.length ≤ 78 := by
    rw [toList_integerText]
    exact ⟨isCanonicalUint_toDigits n, Decimal.decimalLength_le (by decide) hlt⟩
  have hvalue := decimalValue_integerText n
  have hle : decimalValue (integerText n).toList ≤ maximum := hvalue.symm ▸ h
  simp only [canonicalUint, Value.string?, Option.bind_eq_bind, Option.bind_some, hcanonical,
    and_self, guard_true, Option.pure_def, ensure_pos hle]
  exact congrArg some (Subtype.ext hvalue)

/-- A rate was read, or it is null and no interest accrues. -/
theorem readRate_cases {rate : Value} {irm : String} {elapsed borrow : Nat}
    {r : Bounded maxUint256 × IrmReadStatus} (h : readRate rate irm elapsed borrow = some r) :
    ((elapsed ≠ 0 ∧ borrow ≠ 0 ∧ irm ≠ zeroEvmAddress) ∧ canonicalUint rate maxUint256 = some r.1 ∧
        r.2 = .borrowRateViewSuppliedUnauthenticated) ∨
      ¬(elapsed ≠ 0 ∧ borrow ≠ 0 ∧ irm ≠ zeroEvmAddress) ∧
        r.2 ≠ .borrowRateViewSuppliedUnauthenticated := by
  rw [readRate] at h
  by_cases hread : elapsed ≠ 0 ∧ borrow ≠ 0 ∧ irm ≠ zeroEvmAddress
  · rw [if_pos hread] at h
    obtain ⟨_, hrate, h⟩ := Option.bind_eq_some_iff.mp h
    obtain rfl := Option.some.inj h
    exact .inl ⟨hread, hrate, rfl⟩
  · rw [if_neg hread] at h
    obtain ⟨_, _, h⟩ := Option.bind_eq_some_iff.mp h
    obtain rfl := Option.some.inj h
    refine .inr ⟨hread, ?_⟩
    dsimp only
    split
    · exact IrmReadStatus.noConfusion
    · split <;> exact IrmReadStatus.noConfusion

theorem IsParsed.compounded_cases {r : Record} (h : IsParsed isAddress r s) :
    (canonicalUint (r.get "borrowRatePerSecondWad") maxUint256 = some s.borrowRatePerSecondWad ∧
      s.compoundedSeconds = s.blockTimestamp.1 - s.market.lastUpdate.1 ∧
        s.compoundedSeconds ≠ 0 ∧ s.market.totalBorrowAssets.1 ≠ 0 ∧
          s.irmAddress ≠ zeroEvmAddress) ∨ s.compoundedSeconds = 0 := by
  obtain ⟨⟨helapsed, hborrow, hirm⟩, hrate, hstatus⟩ | ⟨_, hstatus⟩ := readRate_cases h.rate
  · have hseconds : s.compoundedSeconds = s.blockTimestamp.1 - s.market.lastUpdate.1 :=
      if_pos hstatus
    exact .inl ⟨hrate, hseconds, hseconds ▸ helapsed, hborrow, hirm⟩
  · exact .inr (if_neg hstatus)

end Parsing

section Statement

/-- Two snapshots that differ at most in the listed fields. -/
def AgreeExcept (keys : List String) (v w : Value) : Prop :=
  ∃ r r', exactDataRecord v snapshotKeys = some r ∧ exactDataRecord w snapshotKeys = some r' ∧
    ∀ key, key ∉ keys → r.get key = r'.get key

def marketOf (v : Value) : Option Market := do
  let record ← exactDataRecord v snapshotKeys
  parseMarket (record.get "market")

/-- The same snapshot at the time of the last update and without a rate. -/
def AtLastUpdate (v w : Value) : Prop :=
  AgreeExcept ["blockTimestamp", "borrowRatePerSecondWad"] v w ∧
    ∃ r m, exactDataRecord w snapshotKeys = some r ∧ marketOf v = some m ∧
      r.get "blockTimestamp" = .string (integerText m.lastUpdate) ∧
        r.get "borrowRatePerSecondWad" = .null

/-- Nobody loses from accrual, and no more is claimed than there is. -/
structure IsSolvent (isAddress : String → Bool) (v : Value) (p : Projection) : Prop where
  accrual : ∀ w, AtLastUpdate v w → ∃ q,
    evaluateMorphoBlueAccountPositionSnapshot isAddress w = .ok q ∧
      q.position.supply.assetsAtomic ≤ p.position.supply.assetsAtomic ∧
        q.position.borrow.assetsAtomic ≤ p.position.borrow.assetsAtomic
  borrow_mono : ∀ w q, AgreeExcept ["blockTimestamp"] v w →
    evaluateMorphoBlueAccountPositionSnapshot isAddress w = .ok q → p.currentAt ≤ q.currentAt →
      p.position.borrow.assetsAtomic ≤ q.position.borrow.assetsAtomic
  family : ∀ ws qs m, List.Forall₂ (fun w q => AgreeExcept ["walletAddress", "position"] v w ∧
    evaluateMorphoBlueAccountPositionSnapshot isAddress w = .ok q) ws qs → marketOf v = some m →
      (qs.map (·.position.rawSupplyShares)).sum ≤ m.totalSupplyShares.1 →
        qs.countP (·.walletIsFeeRecipient) ≤ 1 →
          (qs.map (·.position.supply.assetsAtomic)).sum ≤ p.accruedMarket.totalSupplyAssets
  fee : p.pendingFeeShares * (p.accruedMarket.totalSupplyAssets + 1) /
    (p.accruedMarket.totalSupplyShares + 10 ^ 6) ≤ p.feeAmountAtomic
  borrow_least : IsLeast {n : Nat | (p.position.borrowShares *
    (p.accruedMarket.totalBorrowAssets + 1) : ℚ) / (p.accruedMarket.totalBorrowShares + 10 ^ 6) ≤ n}
      p.position.borrow.assetsAtomic

end Statement

section Solvency

variable {isAddress : String → Bool} {v w : Value} {s s' : Snapshot} {p q : Projection}

theorem evaluate_ok (h : evaluateMorphoBlueAccountPositionSnapshot isAddress v = .ok p) :
    ∃ r s, exactDataRecord v snapshotKeys = some r ∧ IsParsed isAddress r s ∧
      project s = .ok p := by
  obtain ⟨s, hs, h⟩ := except_bind_ok.mp h
  obtain ⟨r, hr, hparsed⟩ := parseSnapshot_eq_some.1 (orFail_ok.mp hs)
  exact ⟨r, s, hr, hparsed, h⟩

theorem evaluate_of_parsed {r : Record} (hr : exactDataRecord v snapshotKeys = some r)
    (hs : IsParsed isAddress r s) (h : project s = .ok p) :
    evaluateMorphoBlueAccountPositionSnapshot isAddress v = .ok p :=
  except_bind_ok.mpr ⟨s, orFail_ok.mpr (parseSnapshot_eq_some.2 ⟨r, hr, hs⟩), h⟩

/-- The fee is a part of the interest. -/
theorem IsProjection.fee_le (h : IsProjection s p) : p.feeAmountAtomic ≤ p.interestAtomic := by
  rw [h.fee]
  apply Nat.div_le_of_le_mul
  rw [Nat.mul_comm wad]
  exact Nat.mul_le_mul_left _ (s.market.feeWad.2.trans (by decide))

theorem compoundedRate_zero (rate : Nat) : compoundedRate rate 0 = 0 := by
  simp [compoundedRate]

theorem DebtFits.mono {p q : Pool} {shares : Nat} (h : p.assets ≤ q.assets)
    (hs : p.shares = q.shares) (hfits : DebtFits q shares) : DebtFits p shares := by
  rw [DebtFits, hs]
  exact (Nat.add_le_add_right (Nat.mul_le_mul_left _ (Nat.add_le_add_right h _)) _).trans hfits

theorem checkedAdd_of_le {a b : Nat} (h : a + b ≤ maxUint256) : checkedAdd a b = some (a + b) :=
  checkedAdd_eq_some.2 ⟨h, rfl⟩

theorem checkedUint128Add_zero {a : Nat} (h : a ≤ maxUint128) : checkedUint128Add a 0 = some a :=
  checkedUint128Add_eq_some.2 ⟨h, rfl⟩

theorem mulDivDown_zero_left {b d : Nat} (h : d ≠ 0) : mulDivDown 0 b d = some 0 :=
  mulDivDown_eq_some.2 ⟨h, by simp, by simp⟩

theorem mulDivDown_zero_right {a d : Nat} (h : d ≠ 0) : mulDivDown a 0 d = some 0 :=
  mulDivDown_eq_some.2 ⟨h, by simp, by simp⟩

theorem supplyDown_isSome {shares assets total : Nat} (hassets : assets ≤ maxUint128)
    (hshares : shares ≤ maxUint128) (htotal : total ≤ maxUint128) :
    ∃ p, shareProjection shares assets total .supplyDown = some p := by
  have hadd : assets + virtualAssets ≤ 2 ^ 128 := by
    rw [maxUint128] at hassets
    rw [virtualAssets]
    omega
  have hmul : shares * (assets + virtualAssets) ≤ maxUint256 :=
    (Nat.mul_le_mul hshares hadd).trans (by decide)
  have hdenominator : total + virtualShares ≤ maxUint256 :=
    (Nat.add_le_add_right htotal _).trans (by decide)
  simp only [shareProjection, checkedAdd_of_le (hadd.trans (by decide)),
    checkedMul_eq_some.2 ⟨hmul, rfl⟩, checkedAdd_of_le hdenominator, Option.bind_eq_bind,
    Option.bind_some, Option.pure_def]
  exact ⟨_, rfl⟩

theorem borrowUp_isSome {shares assets total : Nat} (hassets : assets ≤ maxUint128)
    (htotal : total ≤ maxUint128) (hfits : DebtFits ⟨assets, total⟩ shares) :
    ∃ p, shareProjection shares assets total .borrowUp = some p := by
  have hadd : assets + virtualAssets ≤ maxUint256 :=
    (Nat.add_le_add_right hassets _).trans (by decide)
  have hdenominator : total + virtualShares ≤ maxUint256 :=
    (Nat.add_le_add_right htotal _).trans (by decide)
  rw [DebtFits] at hfits
  dsimp only at hfits
  have hmul : shares * (assets + virtualAssets) ≤ maxUint256 := (Nat.le_add_right _ _).trans hfits
  exact ⟨_, Option.bind_eq_some_iff.mpr ⟨_, checkedAdd_of_le hadd,
    Option.bind_eq_some_iff.mpr ⟨_, checkedMul_eq_some.2 ⟨hmul, rfl⟩,
      Option.bind_eq_some_iff.mpr ⟨_, checkedAdd_of_le hdenominator,
        Option.bind_eq_some_iff.mpr ⟨_, checkedAdd_of_le hfits, rfl⟩⟩⟩⟩⟩

/-- A snapshot over which no interest accrues is accepted when the debt fits. -/
theorem project_quiet (hrate : s.borrowRatePerSecondWad.1 = 0) (hseconds : s.compoundedSeconds = 0)
    (hfits : DebtFits (borrowPool s.market) s.position.borrowShares) :
    ∃ p, project s = .ok p := by
  have hsupply := s.market.totalSupplyAssets.2
  have hshares := s.market.totalSupplyShares.2
  have hheld : s.position.supplyShares.1 ≤ s.market.totalSupplyShares.1 :=
    Nat.not_lt.mp fun hlt => s.held (.inl hlt)
  have hraw := hheld.trans hshares
  have hadjusted : (if s.walletIsFeeRecipient then checkedAdd s.position.supplyShares 0
      else some s.position.supplyShares.1) = some s.position.supplyShares.1 := by
    rw [checkedAdd_of_le (hraw.trans (by decide)), Nat.add_zero, ite_self]
  obtain ⟨supply, hsupplied⟩ := supplyDown_isSome hsupply hraw hshares
  obtain ⟨borrow, hborrowed⟩ := borrowUp_isSome s.market.totalBorrowAssets.2
    s.market.totalBorrowShares.2 hfits
  have htaylor : taylor s.borrowRatePerSecondWad s.compoundedSeconds =
      some ⟨0, 0, 0, 0, 0, 0⟩ := by
    rw [hrate, hseconds, taylor_zero]
  have htotal := checkedAdd_of_le ((Nat.add_le_add_right hshares virtualShares).trans (by decide))
  have hassets := checkedAdd_of_le ((Nat.add_le_add_right hsupply virtualAssets).trans (by decide))
  have hwad : wad ≠ 0 := by decide
  exact ⟨_, except_bind_ok.mpr ⟨_, orFail_ok.mpr htaylor,
    except_bind_ok.mpr ⟨_, orFail_ok.mpr (mulDivDown_zero_right hwad),
    except_bind_ok.mpr ⟨_, orFail_ok.mpr (checkedUint128Add_zero s.market.totalBorrowAssets.2),
    except_bind_ok.mpr ⟨_, orFail_ok.mpr (checkedUint128Add_zero hsupply),
    except_bind_ok.mpr ⟨_, orFail_ok.mpr (mulDivDown_zero_left hwad),
    except_bind_ok.mpr ⟨(), failWhen_ok.mpr (Nat.not_lt_zero _),
    except_bind_ok.mpr ⟨_, orFail_ok.mpr htotal,
    except_bind_ok.mpr ⟨_, orFail_ok.mpr hassets,
    except_bind_ok.mpr ⟨_, orFail_ok.mpr (mulDivDown_zero_left (Nat.succ_ne_zero _)),
    except_bind_ok.mpr ⟨_, orFail_ok.mpr (checkedUint128Add_zero hshares),
    except_bind_ok.mpr ⟨_, orFail_ok.mpr hadjusted,
    except_bind_ok.mpr ⟨(), failWhen_ok.mpr (Nat.not_lt.mpr hheld),
    except_bind_ok.mpr ⟨_, orFail_ok.mpr hsupplied,
    except_bind_ok.mpr ⟨_, orFail_ok.mpr hborrowed, rfl⟩⟩⟩⟩⟩⟩⟩⟩⟩⟩⟩⟩⟩⟩⟩

/-- The snapshot at the time of the last update, where nothing accrues. -/
def quiet (s : Snapshot) : Snapshot where
  walletAddress := s.walletAddress
  feeRecipientAddress := s.feeRecipientAddress
  irmAddress := s.irmAddress
  blockTimestamp := ⟨s.market.lastUpdate, s.market.lastUpdate.2.trans (by decide)⟩
  market := s.market
  position := s.position
  borrowRatePerSecondWad := ⟨0, Nat.zero_le _⟩
  irmReadStatus :=
    if s.irmAddress = zeroEvmAddress then .zeroIrmNoRateRead else .noElapsedTimeNoRateRead
  consistent := by
    rintro (hzero | hlt | hrest)
    · exact s.consistent (.inl hzero)
    · exact Nat.lt_irrefl _ hlt
    · exact s.consistent (.inr (.inr hrest))
  held := s.held

theorem quiet_compoundedSeconds (s : Snapshot) : (quiet s).compoundedSeconds = 0 := by
  rw [Snapshot.compoundedSeconds]
  split
  · exact Nat.sub_self _
  · rfl

theorem hasSemantics_congr {r r' : Record} {keys : List String}
    (hkeys : ∀ key ∈ keys, key = "blockTimestamp" ∨ key = "borrowRatePerSecondWad" ∨
      key = "walletAddress" ∨ key = "position")
    (h : ∀ key, key ∉ keys → r.get key = r'.get key) : hasSemantics r = hasSemantics r' := by
  have hget : ∀ key ∈ ["semanticsVersion", "use", "mayPersist", "mayAuthorizeFinancialAction",
      "mayEstablishCompletePosition"], r.get key = r'.get key := by
    intro key hkey
    apply h
    intro hmem
    obtain rfl | rfl | rfl | rfl := hkeys key hmem <;> exact absurd hkey (by decide)
  simp only [List.forall_mem_cons] at hget
  simp only [hasSemantics, List.all_cons, List.all_nil, hget]

theorem isParsed_quiet {r r' : Record} (h : IsParsed isAddress r s)
    (hagree : ∀ key, key ∉ ["blockTimestamp", "borrowRatePerSecondWad"] → r.get key = r'.get key)
    (hblock : r'.get "blockTimestamp" = .string (integerText s.market.lastUpdate))
    (hrate : r'.get "borrowRatePerSecondWad" = .null) : IsParsed isAddress r' (quiet s) where
  semantics := by
    rw [← hasSemantics_congr (by simp) hagree]
    exact h.semantics
  wallet := hagree "walletAddress" (by decide) ▸ h.wallet
  feeRecipient := hagree "feeRecipientAddress" (by decide) ▸ h.feeRecipient
  irm := hagree "irmAddress" (by decide) ▸ h.irm
  blockTimestamp := by
    rw [hblock]
    exact canonicalUint_integerText _ (s.market.lastUpdate.2.trans_lt (by decide))
  market := hagree "market" (by decide) ▸ h.market
  position := hagree "position" (by decide) ▸ h.position
  rate := by
    have helapsed : (quiet s).blockTimestamp.1 - (quiet s).market.lastUpdate.1 = 0 := Nat.sub_self _
    rw [hrate, readRate, if_neg (fun hread => hread.1 helapsed), helapsed, if_pos rfl]
    rfl

/-- Debts grow with the interest. -/
theorem borrow_mono_of_interest (h : IsProjection s p) (h' : IsProjection s' q)
    (hmarket : s.market = s'.market) (hposition : s.position = s'.position)
    (hle : p.interestAtomic ≤ q.interestAtomic) :
    p.position.borrow.assetsAtomic ≤ q.position.borrow.assetsAtomic := by
  rw [h.borrow, h'.borrow, h.borrowShares, h'.borrowShares, hmarket, hposition]
  exact @debt_mono offsets (addAssets (borrowPool s'.market) p.interestAtomic)
    (addAssets (borrowPool s'.market) q.interestAtomic) (Nat.add_le_add_left hle _) rfl _

theorem interest_le (h : IsProjection s p) (h' : IsProjection s' q)
    (hmarket : s.market = s'.market)
    (hrate : compoundedRate s.borrowRatePerSecondWad s.compoundedSeconds ≤
      compoundedRate s'.borrowRatePerSecondWad s'.compoundedSeconds) :
    p.interestAtomic ≤ q.interestAtomic := by
  rw [h.interest, h'.interest, hmarket]
  exact Nat.div_le_div_right (Nat.mul_le_mul_left _ hrate)

/-- Without interest a share is worth what it was. -/
theorem supply_of_quiet (h : IsProjection s p) (hquiet : p.interestAtomic = 0) :
    p.position.supply.assetsAtomic =
      worth offsets (supplyPool s.market) p.position.rawSupplyShares := by
  have hfee : p.feeAmountAtomic = 0 := Nat.le_zero.mp (hquiet ▸ h.fee_le)
  have hpending : p.pendingFeeShares = 0 := by
    rw [h.pendingFeeShares, hfee, feeShares, Nat.zero_mul, Nat.zero_div]
  have haccrue : accrue offsets (supplyPool s.market) 0 0 = supplyPool s.market := by
    rw [accrue, feeShares, Nat.zero_mul, Nat.zero_div]
    rfl
  rw [h.supply, h.adjustedSupplyShares, hpending, ite_self, Nat.add_zero, hquiet, hfee, haccrue]

theorem accrual (hv : evaluateMorphoBlueAccountPositionSnapshot isAddress v = .ok p)
    (hw : AtLastUpdate v w) : ∃ q,
      evaluateMorphoBlueAccountPositionSnapshot isAddress w = .ok q ∧
        q.position.supply.assetsAtomic ≤ p.position.supply.assetsAtomic ∧
          q.position.borrow.assetsAtomic ≤ p.position.borrow.assetsAtomic := by
  obtain ⟨r, s, hr, hparsed, hp⟩ := evaluate_ok hv
  obtain ⟨⟨r₁, r', hr₁, hr', hagree⟩, r₂, m, hr₂, hm, hblock, hrate⟩ := hw
  obtain rfl := Option.some.inj (hr.symm.trans hr₁)
  obtain rfl := Option.some.inj (hr'.symm.trans hr₂)
  obtain ⟨_, hr₃, hm⟩ := Option.bind_eq_some_iff.mp hm
  obtain rfl := Option.some.inj (hr.symm.trans hr₃)
  obtain rfl := Option.some.inj (hparsed.market.symm.trans hm)
  have hprojection := project_ok hp
  have hfits : DebtFits (borrowPool s.market) s.position.borrowShares := by
    have hfits := hprojection.borrow_fits
    rw [hprojection.borrowShares] at hfits
    exact @DebtFits.mono (borrowPool s.market) (addAssets (borrowPool s.market) p.interestAtomic) _
      (Nat.le_add_right _ _) rfl hfits
  obtain ⟨q, hq⟩ := @project_quiet (quiet s) rfl (quiet_compoundedSeconds s) hfits
  have hquiet := project_ok hq
  have hinterest : q.interestAtomic = 0 := by
    rw [hquiet.interest, quiet_compoundedSeconds, compoundedRate_zero, Nat.mul_zero, Nat.zero_div]
  refine ⟨q, evaluate_of_parsed hr' (isParsed_quiet hparsed hagree hblock hrate) hq, ?_, ?_⟩
  · rw [supply_of_quiet hquiet hinterest, hquiet.rawSupplyShares, hprojection.supply,
      hprojection.adjustedSupplyShares, hprojection.rawSupplyShares]
    exact (worth_le_accrue hprojection.fee_le _).trans (worth_mono (Nat.le_add_right _ _))
  · exact borrow_mono_of_interest hquiet hprojection rfl rfl (hinterest ▸ Nat.zero_le _)

/-- For the same rate, interest grows with the time that passed. -/
theorem compoundedRate_le {r r' : Record} (h : IsParsed isAddress r s)
    (h' : IsParsed isAddress r' s')
    (hagree : ∀ key, key ∉ ["blockTimestamp"] → r.get key = r'.get key)
    (hle : s.blockTimestamp.1 ≤ s'.blockTimestamp.1) :
    compoundedRate s.borrowRatePerSecondWad s.compoundedSeconds ≤
      compoundedRate s'.borrowRatePerSecondWad s'.compoundedSeconds := by
  have hmarket : s'.market = s.market := by
    have hm := h.market
    rw [hagree "market" (by decide), h'.market] at hm
    exact Option.some.inj hm
  have hirm : s'.irmAddress = s.irmAddress := by
    have hi := h.irm
    rw [hagree "irmAddress" (by decide), h'.irm] at hi
    exact Option.some.inj hi
  obtain ⟨hrate, hseconds, hne, hborrow, hzero⟩ | hseconds := h.compounded_cases
  · obtain ⟨_, hrate', hstatus⟩ | ⟨hread, _⟩ := readRate_cases h'.rate
    · have hseconds' : s'.compoundedSeconds = s'.blockTimestamp.1 - s'.market.lastUpdate.1 :=
        if_pos hstatus
      rw [← hagree "borrowRatePerSecondWad" (by decide), hrate] at hrate'
      have hsame : s'.borrowRatePerSecondWad = s.borrowRatePerSecondWad :=
        (Option.some.inj hrate').symm
      rw [hsame]
      apply compoundedRate_mono
      rw [hseconds, hseconds', hmarket]
      exact Nat.sub_le_sub_right hle _
    · refine absurd ⟨?_, ?_, ?_⟩ hread
      · rw [hmarket]
        omega
      · rwa [hmarket]
      · rwa [hirm]
  · rw [hseconds, compoundedRate_zero]
    exact Nat.zero_le _

theorem borrow_mono (hv : evaluateMorphoBlueAccountPositionSnapshot isAddress v = .ok p)
    (hagree : AgreeExcept ["blockTimestamp"] v w)
    (hw : evaluateMorphoBlueAccountPositionSnapshot isAddress w = .ok q)
    (hle : p.currentAt ≤ q.currentAt) :
    p.position.borrow.assetsAtomic ≤ q.position.borrow.assetsAtomic := by
  obtain ⟨r, s, hr, hparsed, hp⟩ := evaluate_ok hv
  obtain ⟨r', s', hr', hparsed', hq⟩ := evaluate_ok hw
  obtain ⟨r₁, r₂, hr₁, hr₂, hagree⟩ := hagree
  obtain rfl := Option.some.inj (hr.symm.trans hr₁)
  obtain rfl := Option.some.inj (hr'.symm.trans hr₂)
  have hmarket : s.market = s'.market := by
    have hm := hparsed.market
    rw [hagree "market" (by decide), hparsed'.market] at hm
    exact (Option.some.inj hm).symm
  have hposition : s.position = s'.position := by
    have hm := hparsed.position
    rw [hagree "position" (by decide), hparsed'.position] at hm
    exact (Option.some.inj hm).symm
  have hprojection := project_ok hp
  have hprojection' := project_ok hq
  rw [hprojection.currentAt, hprojection'.currentAt] at hle
  exact borrow_mono_of_interest hprojection hprojection' hmarket hposition
    (interest_le hprojection hprojection' hmarket (compoundedRate_le hparsed hparsed' hagree hle))

/-- What two snapshots of one market have in common. -/
structure SameMarket (s s' : Snapshot) : Prop where
  market : s'.market = s.market
  blockTimestamp : s'.blockTimestamp = s.blockTimestamp
  borrowRatePerSecondWad : s'.borrowRatePerSecondWad = s.borrowRatePerSecondWad
  irmReadStatus : s'.irmReadStatus = s.irmReadStatus

theorem sameMarket {r r' : Record} (h : IsParsed isAddress r s) (h' : IsParsed isAddress r' s')
    (hagree : ∀ key, key ∉ ["walletAddress", "position"] → r.get key = r'.get key) :
    SameMarket s s' := by
  have hmarket : s'.market = s.market := by
    have hm := h.market
    rw [hagree "market" (by decide), h'.market] at hm
    exact Option.some.inj hm
  have hirm : s'.irmAddress = s.irmAddress := by
    have hi := h.irm
    rw [hagree "irmAddress" (by decide), h'.irm] at hi
    exact Option.some.inj hi
  have hblock : s'.blockTimestamp = s.blockTimestamp := by
    have hb := h.blockTimestamp
    rw [hagree "blockTimestamp" (by decide), h'.blockTimestamp] at hb
    exact Option.some.inj hb
  have hrate := h'.rate
  rw [hmarket, hirm, hblock, ← hagree "borrowRatePerSecondWad" (by decide), h.rate] at hrate
  obtain ⟨hrate, hstatus⟩ := Prod.mk.inj (Option.some.inj hrate)
  exact ⟨hmarket, hblock, hrate.symm, hstatus.symm⟩

/-- Two snapshots of one market accrue the same interest, fee and shares. -/
theorem SameMarket.projection (hs : SameMarket s s') (h : IsProjection s p)
    (h' : IsProjection s' q) : q.interestAtomic = p.interestAtomic ∧
      q.feeAmountAtomic = p.feeAmountAtomic ∧ q.pendingFeeShares = p.pendingFeeShares := by
  have hseconds : s'.compoundedSeconds = s.compoundedSeconds := by
    rw [Snapshot.compoundedSeconds, Snapshot.compoundedSeconds, hs.irmReadStatus,
      hs.blockTimestamp, hs.market]
  have hinterest : q.interestAtomic = p.interestAtomic := by
    rw [h.interest, h'.interest, hs.market, hs.borrowRatePerSecondWad, hseconds]
  have hfee : q.feeAmountAtomic = p.feeAmountAtomic := by
    rw [h.fee, h'.fee, hinterest, hs.market]
  refine ⟨hinterest, hfee, ?_⟩
  rw [h.pendingFeeShares, h'.pendingFeeShares, hinterest, hfee, hs.market]

/-- The shares of a family, with those that were minted for the fee. -/
theorem sum_adjusted (qs : List Projection) (minted : Nat)
    (h : ∀ q ∈ qs, q.position.adjustedSupplyShares = q.position.rawSupplyShares +
      if q.walletIsFeeRecipient then minted else 0) :
    (qs.map (·.position.adjustedSupplyShares)).sum =
      (qs.map (·.position.rawSupplyShares)).sum + qs.countP (·.walletIsFeeRecipient) * minted := by
  induction qs with
  | nil => simp
  | cons q qs ih =>
    obtain ⟨hq, hqs⟩ := List.forall_mem_cons.mp h
    rw [List.map_cons, List.sum_cons, List.map_cons, List.sum_cons, ih hqs, hq, List.countP_cons,
      Nat.add_mul]
    cases q.walletIsFeeRecipient with
    | false =>
      simp only [Bool.false_eq_true, if_false]
      omega
    | true =>
      simp only [if_true, Nat.one_mul]
      omega

theorem family (hv : evaluateMorphoBlueAccountPositionSnapshot isAddress v = .ok p)
    {ws : List Value} {qs : List Projection} {m : Market}
    (hfamily : List.Forall₂ (fun w q => AgreeExcept ["walletAddress", "position"] v w ∧
      evaluateMorphoBlueAccountPositionSnapshot isAddress w = .ok q) ws qs)
    (hm : marketOf v = some m)
    (hshares : (qs.map (·.position.rawSupplyShares)).sum ≤ m.totalSupplyShares.1)
    (hrecipient : qs.countP (·.walletIsFeeRecipient) ≤ 1) :
    (qs.map (·.position.supply.assetsAtomic)).sum ≤ p.accruedMarket.totalSupplyAssets := by
  obtain ⟨r, s, hr, hparsed, hp⟩ := evaluate_ok hv
  obtain ⟨_, hr', hm⟩ := Option.bind_eq_some_iff.mp hm
  obtain rfl := Option.some.inj (hr.symm.trans hr')
  obtain rfl := Option.some.inj (hparsed.market.symm.trans hm)
  have hprojection := project_ok hp
  have hmember : ∀ q ∈ qs, ∃ s', SameMarket s s' ∧ IsProjection s' q := by
    intro q hq
    obtain ⟨w, _, ⟨r₁, r₂, hr₁, hr₂, hagree⟩, hw⟩ := ListOption.exists_of_mem_right hfamily hq
    obtain ⟨r', s', hr', hparsed', hq⟩ := evaluate_ok hw
    obtain rfl := Option.some.inj (hr.symm.trans hr₁)
    obtain rfl := Option.some.inj (hr'.symm.trans hr₂)
    exact ⟨s', sameMarket hparsed hparsed' hagree, project_ok hq⟩
  have hsupply : ∀ q ∈ qs, q.position.supply.assetsAtomic = worth offsets
      (accrue offsets (supplyPool s.market) p.interestAtomic p.feeAmountAtomic)
        q.position.adjustedSupplyShares := by
    intro q hq
    obtain ⟨s', hsame, hq⟩ := hmember q hq
    obtain ⟨hinterest, hfee, _⟩ := hsame.projection hprojection hq
    rw [hq.supply, hinterest, hfee, hsame.market]
  have hadjusted := sum_adjusted qs p.pendingFeeShares fun q hq => by
    obtain ⟨s', hsame, hq⟩ := hmember q hq
    rw [hq.adjustedSupplyShares, (hsame.projection hprojection hq).2.2]
  have hpool : p.accruedMarket.totalSupplyAssets =
      (accrue offsets (supplyPool s.market) p.interestAtomic p.feeAmountAtomic).assets :=
    congrArg Pool.assets hprojection.supplyMarket
  have hsum : (qs.map (·.position.adjustedSupplyShares)).sum ≤
      (accrue offsets (supplyPool s.market) p.interestAtomic p.feeAmountAtomic).shares := by
    rw [hadjusted, accrue, ← hprojection.pendingFeeShares]
    exact Nat.add_le_add hshares ((Nat.mul_le_mul_right _ hrecipient).trans_eq (Nat.one_mul _))
  rw [List.map_congr_left hsupply, hpool]
  have hle := sum_worth_le offsets_assets hsum
  rw [List.map_map] at hle
  exact hle

theorem fee_worth (h : IsProjection s p) :
    p.pendingFeeShares * (p.accruedMarket.totalSupplyAssets + 1) /
      (p.accruedMarket.totalSupplyShares + 10 ^ 6) ≤ p.feeAmountAtomic := by
  have hle := @worth_feeShares_le offsets (supplyPool s.market) p.interestAtomic p.feeAmountAtomic
    (h.fee_le.trans (Nat.le_add_left _ _))
  rw [← h.pendingFeeShares, ← h.supplyMarket, worth, offsets_assets, offsets_shares] at hle
  exact hle

theorem borrow_least (h : IsProjection s p) : IsLeast {n : Nat | (p.position.borrowShares *
    (p.accruedMarket.totalBorrowAssets + 1) : ℚ) / (p.accruedMarket.totalBorrowShares + 10 ^ 6) ≤ n}
      p.position.borrow.assetsAtomic := by
  have hleast := @debt_isLeast offsets (addAssets (borrowPool s.market) p.interestAtomic)
    p.position.borrowShares
  rw [← h.borrow, ← h.borrowMarket, offsets_assets, offsets_shares] at hleast
  have hpos : (0 : ℚ) < p.accruedMarket.totalBorrowShares + 10 ^ 6 := by positivity
  have hset : {n : Nat | (p.position.borrowShares * (p.accruedMarket.totalBorrowAssets + 1) : ℚ) /
      (p.accruedMarket.totalBorrowShares + 10 ^ 6) ≤ n} = {n | p.position.borrowShares *
        (p.accruedMarket.totalBorrowAssets + virtualAssets) ≤
          n * (p.accruedMarket.totalBorrowShares + virtualShares)} := by
    ext n
    rw [Set.mem_ofPred_eq, Set.mem_ofPred_eq, div_le_iff₀ hpos, ← @Nat.cast_le ℚ]
    norm_num [virtualAssets, virtualShares]
  rw [hset]
  exact hleast

theorem orFail_unavailable {α : Type} {o : Option α} {e : Failure}
    (h : orFail o Failure.unavailable = .error e) : e = .unavailable :=
  (orFail_error.mp h).2.symm

/-- Neither guard on the accrued values ever fails. -/
theorem project_error {e : Failure} (h : project s = .error e) : e = .unavailable := by
  obtain h | ⟨t, _, h⟩ := except_bind_error.mp h
  · exact orFail_unavailable h
  obtain h | ⟨interest, _, h⟩ := except_bind_error.mp h
  · exact orFail_unavailable h
  obtain h | ⟨borrow, _, h⟩ := except_bind_error.mp h
  · exact orFail_unavailable h
  obtain h | ⟨supply, hsupply, h⟩ := except_bind_error.mp h
  · exact orFail_unavailable h
  obtain h | ⟨fee, hfee, h⟩ := except_bind_error.mp h
  · exact orFail_unavailable h
  have hsupply := (checkedUint128Add_eq_some.1 (orFail_ok.mp hsupply)).2
  have hfee := (mulDivDown_eq_some.1 (orFail_ok.mp hfee)).2.2
  have hle : fee ≤ interest := by
    rw [← hfee]
    apply Nat.div_le_of_le_mul
    rw [Nat.mul_comm wad]
    exact Nat.mul_le_mul_left _ (s.market.feeWad.2.trans (by decide))
  obtain h | ⟨_, _, h⟩ := except_bind_error.mp h
  · exact absurd (failWhen_error.mp h).1 (by omega)
  obtain h | ⟨_, _, h⟩ := except_bind_error.mp h
  · exact orFail_unavailable h
  obtain h | ⟨_, _, h⟩ := except_bind_error.mp h
  · exact orFail_unavailable h
  obtain h | ⟨pending, _, h⟩ := except_bind_error.mp h
  · exact orFail_unavailable h
  obtain h | ⟨shares, hshares, h⟩ := except_bind_error.mp h
  · exact orFail_unavailable h
  obtain h | ⟨adjusted, hadjusted, h⟩ := except_bind_error.mp h
  · exact orFail_unavailable h
  have hshares := (checkedUint128Add_eq_some.1 (orFail_ok.mp hshares)).2
  have hadjusted := orFail_ok.mp hadjusted
  have hheld : s.position.supplyShares.1 ≤ s.market.totalSupplyShares.1 :=
    Nat.not_lt.mp fun hlt => s.held (.inl hlt)
  have hle : adjusted ≤ shares := by
    cases hrecipient : s.walletIsFeeRecipient with
    | false =>
      rw [hrecipient] at hadjusted
      have hraw : s.position.supplyShares.1 = adjusted := Option.some.inj hadjusted
      omega
    | true =>
      rw [hrecipient] at hadjusted
      have hraw := (checkedAdd_eq_some.1 hadjusted).2
      omega
  obtain h | ⟨_, _, h⟩ := except_bind_error.mp h
  · exact absurd (failWhen_error.mp h).1 (Nat.not_lt.mpr hle)
  obtain h | ⟨_, _, h⟩ := except_bind_error.mp h
  · exact orFail_unavailable h
  obtain h | ⟨_, _, h⟩ := except_bind_error.mp h
  · exact orFail_unavailable h
  · cases h

end Solvency

/-- Accrual and share pricing are solvent for every accepted snapshot, and the two guards on the
accrued values are never reached. -/
theorem evaluateMorphoBlueAccountPositionSnapshot_solvent (isAddress : String → Bool) (v : Value) :
    (∀ p, evaluateMorphoBlueAccountPositionSnapshot isAddress v = .ok p → IsSolvent isAddress v p) ∧
      evaluateMorphoBlueAccountPositionSnapshot isAddress v ≠ .error .feeExceedsSupply ∧
        evaluateMorphoBlueAccountPositionSnapshot isAddress v ≠ .error .sharesExceedSupply := by
  have herror : ∀ e, evaluateMorphoBlueAccountPositionSnapshot isAddress v = .error e →
      e = .unavailable := by
    intro e he
    obtain h | ⟨s, _, h⟩ := except_bind_error.mp he
    · exact orFail_unavailable h
    · exact project_error h
  refine ⟨fun p hp => ?_, fun h => ?_, fun h => ?_⟩
  · obtain ⟨_, s, _, _, hproject⟩ := evaluate_ok hp
    have h := project_ok hproject
    exact ⟨fun w hw => accrual hp hw, fun w q hagree hq hle => borrow_mono hp hagree hq hle,
      fun ws qs m hfamily hm hshares hrecipient => family hp hfamily hm hshares hrecipient,
      fee_worth h, borrow_least h⟩
  · cases herror _ h
  · cases herror _ h

section Sample

def sampleWallet : String := "0x1111111111111111111111111111111111111111"

/-- A snapshot of a fee recipient with a rate, a day after the last update. -/
def sampleSnapshot : Value :=
  ofFields [("semanticsVersion", .integer 1), ("use", .string semanticsUse),
    ("mayPersist", .boolean false), ("mayAuthorizeFinancialAction", .boolean false),
    ("mayEstablishCompletePosition", .boolean false), ("walletAddress", .string sampleWallet),
    ("feeRecipientAddress", .string sampleWallet),
    ("irmAddress", .string "0x2222222222222222222222222222222222222222"),
    ("blockTimestamp", .string "1700086400"), ("borrowRatePerSecondWad", .string "3170979198"),
    ("market", ofFields [("totalSupplyAssets", .string "1000000000000"),
      ("totalSupplyShares", .string "990000000000000000"),
      ("totalBorrowAssets", .string "800000000000"),
      ("totalBorrowShares", .string "790000000000000000"), ("lastUpdate", .string "1700000000"),
      ("feeWad", .string "250000000000000000")]),
    ("position", ofFields [("supplyShares", .string "5000000000000"),
      ("borrowShares", .string "3000000000000"), ("collateralAtomic", .string "7")])]

theorem sampleSnapshot_isOk :
    (evaluateMorphoBlueAccountPositionSnapshot (fun _ => true) sampleSnapshot).isOk = true := by
  decide

theorem sampleSnapshot_solvent : ∃ p,
    evaluateMorphoBlueAccountPositionSnapshot (fun _ => true) sampleSnapshot = .ok p ∧
      IsSolvent (fun _ => true) sampleSnapshot p := by
  obtain ⟨p, hp⟩ := except_exists_of_isOk sampleSnapshot_isOk
  exact ⟨p, hp, (evaluateMorphoBlueAccountPositionSnapshot_solvent _ sampleSnapshot).1 p hp⟩

end Sample

end CryptoLending.SmartLending.MorphoSolvency
