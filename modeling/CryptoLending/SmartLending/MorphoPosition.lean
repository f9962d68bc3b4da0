import CryptoLending.Lib.SharePool
import CryptoLending.Wallets.WalletIdentity

namespace CryptoLending.SmartLending.MorphoPosition

open Lib Lib.Text Lib.Identifier Lib.JsValue Lib.ListOption Wallets.WalletIdentity

def semanticsVersion : Int := 1
def semanticsUse : String := "DORMANT_MORPHO_BLUE_ACCOUNT_POSITION_SEMANTICS_ONLY"
def maxUint128 : Nat := 2 ^ 128 - 1
def maxUint256 : Nat := 2 ^ 256 - 1
def wad : Nat := 1000000000000000000
def maxFeeWad : Nat := 250000000000000000
def virtualShares : Nat := 1000000
def virtualAssets : Nat := 1

def snapshotKeys : List String :=
  ["semanticsVersion", "use", "mayPersist", "mayAuthorizeFinancialAction",
    "mayEstablishCompletePosition", "walletAddress", "feeRecipientAddress", "irmAddress",
    "blockTimestamp", "borrowRatePerSecondWad", "market", "position"]

def marketKeys : List String :=
  ["totalSupplyAssets", "totalSupplyShares", "totalBorrowAssets", "totalBorrowShares",
    "lastUpdate", "feeWad"]

def positionKeys : List String := ["supplyShares", "borrowShares", "collateralAtomic"]

/-- Every failure throws the same error. The two guards on accrued values are told apart. -/
inductive Failure where
  | unavailable
  | feeExceedsSupply
  | sharesExceedSupply
  deriving DecidableEq

inductive IrmReadStatus where
  | zeroIrmNoRateRead
  | noElapsedTimeNoRateRead
  | zeroBorrowAssetsNoRateRead
  | borrowRateViewSuppliedUnauthenticated
  deriving DecidableEq

/-- An unsigned integer of bounded size. -/
abbrev Bounded (maximum : Nat) := {n : Nat // n ≤ maximum}

structure Market where
  totalSupplyAssets : Bounded maxUint128
  totalSupplyShares : Bounded maxUint128
  totalBorrowAssets : Bounded maxUint128
  totalBorrowShares : Bounded maxUint128
  lastUpdate : Bounded maxUint128
  feeWad : Bounded maxFeeWad

structure Position where
  supplyShares : Bounded maxUint256
  borrowShares : Bounded maxUint128
  collateralAtomic : Bounded maxUint128

/-- What the totals of a market have to fulfil at the time of a block. -/
def IsConsistent (m : Market) (blockTimestamp : Nat) : Prop :=
  ¬(m.lastUpdate.1 = 0 ∨ blockTimestamp < m.lastUpdate.1 ∨
    m.totalSupplyAssets.1 < m.totalBorrowAssets.1 ∨
      ¬(m.totalBorrowAssets.1 = 0 ↔ m.totalBorrowShares.1 = 0) ∨
        (m.totalSupplyAssets.1 ≠ 0 ∧ m.totalSupplyShares.1 = 0))

instance (m : Market) (blockTimestamp : Nat) : Decidable (IsConsistent m blockTimestamp) :=
  inferInstanceAs (Decidable ¬_)

/-- The shares of a position are shares of the market. -/
def IsHeld (m : Market) (p : Position) : Prop :=
  ¬(m.totalSupplyShares.1 < p.supplyShares.1 ∨ m.totalBorrowShares.1 < p.borrowShares.1)

instance (m : Market) (p : Position) : Decidable (IsHeld m p) := inferInstanceAs (Decidable ¬_)

structure Snapshot where
  walletAddress : String
  feeRecipientAddress : String
  irmAddress : String
  blockTimestamp : Bounded maxUint256
  market : Market
  position : Position
  borrowRatePerSecondWad : Bounded maxUint256
  irmReadStatus : IrmReadStatus
  consistent : IsConsistent market blockTimestamp
  held : IsHeld market position

section Parsing

/-- `isAddress` stands for the strict checksum test of the wallet library. -/
def canonicalAddress (isAddress : String → Bool) (value : Value) (allowZero : Bool) :
    Option String := do
  let text ← value.string?
  guard (isEvmAddressPattern text.toList ∧ isAddress text ∧
    ¬(allowZero = false ∧ toLowerCase text = zeroEvmAddress))
  return toLowerCase text

def canonicalUint (value : Value) (maximum : Nat) : Option (Bounded maximum) := do
  let text ← value.string?
  guard (isCanonicalUint text.toList ∧ text.toList.length ≤ 78)
  let ⟨h⟩ ← ensure (decimalValue text.toList ≤ maximum)
  return ⟨decimalValue text.toList, h⟩

def parseMarket (value : Value) : Option Market := do
  let record ← exactDataRecord value marketKeys
  let totalSupplyAssets ← canonicalUint (record.get "totalSupplyAssets") maxUint128
  let totalSupplyShares ← canonicalUint (record.get "totalSupplyShares") maxUint128
  let totalBorrowAssets ← canonicalUint (record.get "totalBorrowAssets") maxUint128
  let totalBorrowShares ← canonicalUint (record.get "totalBorrowShares") maxUint128
  let lastUpdate ← canonicalUint (record.get "lastUpdate") maxUint128
  let feeWad ← canonicalUint (record.get "feeWad") maxFeeWad
  return { totalSupplyAssets, totalSupplyShares, totalBorrowAssets, totalBorrowShares,
           lastUpdate, feeWad }

def parsePosition (value : Value) : Option Position := do
  let record ← exactDataRecord value positionKeys
  let supplyShares ← canonicalUint (record.get "supplyShares") maxUint256
  let borrowShares ← canonicalUint (record.get "borrowShares") maxUint128
  let collateralAtomic ← canonicalUint (record.get "collateralAtomic") maxUint128
  return { supplyShares, borrowShares, collateralAtomic }

/-- A rate is read only where interest can accrue. -/
def readRate (rate : Value) (irmAddress : String) (elapsedSeconds totalBorrowAssets : Nat) :
    Option (Bounded maxUint256 × IrmReadStatus) :=
  if elapsedSeconds ≠ 0 ∧ totalBorrowAssets ≠ 0 ∧ irmAddress ≠ zeroEvmAddress then do
    let borrowRatePerSecondWad ← canonicalUint rate maxUint256
    return (borrowRatePerSecondWad, .borrowRateViewSuppliedUnauthenticated)
  else do
    guard (rate.isNull = true)
    return (⟨0, Nat.zero_le _⟩,
      if irmAddress = zeroEvmAddress then .zeroIrmNoRateRead
      else if elapsedSeconds = 0 then .noElapsedTimeNoRateRead
      else .zeroBorrowAssetsNoRateRead)

def isFalse : Value → Bool
  | .boolean false => true
  | _ => false

def hasSemantics (record : Record) : Bool :=
  (record.get "semanticsVersion").isNumber semanticsVersion &&
    (record.get "use").isText semanticsUse &&
      ["mayPersist", "mayAuthorizeFinancialAction", "mayEstablishCompletePosition"].all
        fun key => isFalse (record.get key)

def parseSnapshot (isAddress : String → Bool) (value : Value) : Option Snapshot := do
  let record ← exactDataRecord value snapshotKeys
  guard (hasSemantics record = true)
  let walletAddress ← canonicalAddress isAddress (record.get "walletAddress") false
  let feeRecipientAddress ← canonicalAddress isAddress (record.get "feeRecipientAddress") true
  let irmAddress ← canonicalAddress isAddress (record.get "irmAddress") true
  let blockTimestamp ← canonicalUint (record.get "blockTimestamp") maxUint256
  let market ← parseMarket (record.get "market")
  let ⟨consistent⟩ ← ensure (IsConsistent market blockTimestamp)
  let position ← parsePosition (record.get "position")
  let ⟨held⟩ ← ensure (IsHeld market position)
  let (borrowRatePerSecondWad, irmReadStatus) ← readRate (record.get "borrowRatePerSecondWad")
    irmAddress (blockTimestamp - market.lastUpdate) market.totalBorrowAssets
  return { walletAddress, feeRecipientAddress, irmAddress, blockTimestamp, market, position,
           borrowRatePerSecondWad, irmReadStatus, consistent, held }

end Parsing

section Arithmetic

def checkedAdd (left right : Nat) : Option Nat :=
  if maxUint256 < left + right then none else some (left + right)

def checkedMul (left right : Nat) : Option Nat :=
  if left ≠ 0 ∧ maxUint256 / left < right then none else some (left * right)

def checkedUint128Add (left right : Nat) : Option Nat :=
  if maxUint128 < right ∨ maxUint128 - right < left then none else some (left + right)

def mulDivDown (left right denominator : Nat) : Option Nat := do
  guard (denominator ≠ 0)
  let product ← checkedMul left right
  return product / denominator

/-- The numbers stand for their decimal numerals, here and in the projections below. -/
structure TaylorProjection where
  borrowRatePerSecondWad : Nat
  elapsedSeconds : Nat
  firstTerm : Nat
  secondTerm : Nat
  thirdTerm : Nat
  compoundedRateWad : Nat

def taylor (borrowRatePerSecondWad elapsedSeconds : Nat) : Option TaylorProjection := do
  let firstTerm ← checkedMul borrowRatePerSecondWad elapsedSeconds
  let secondTerm ← mulDivDown firstTerm firstTerm (2 * wad)
  let thirdTerm ← mulDivDown secondTerm firstTerm (3 * wad)
  let twoTerms ← checkedAdd firstTerm secondTerm
  let compoundedRateWad ← checkedAdd twoTerms thirdTerm
  return { borrowRatePerSecondWad, elapsedSeconds, firstTerm, secondTerm, thirdTerm,
           compoundedRateWad }

inductive Rounding where
  | supplyDown
  | borrowUp
  deriving DecidableEq

structure ShareAssetProjection where
  shares : Nat
  assetsAtomic : Nat
  exactNumerator : Nat
  denominator : Nat
  fractionalRemainder : Nat
  rounding : Rounding

def shareProjection (shares totalAssets totalShares : Nat) (rounding : Rounding) :
    Option ShareAssetProjection := do
  let assets ← checkedAdd totalAssets virtualAssets
  let numerator ← checkedMul shares assets
  let denominator ← checkedAdd totalShares virtualShares
  let dividend ← match rounding with
    | .borrowUp => checkedAdd numerator (denominator - 1)
    | .supplyDown => some numerator
  return {
    shares
    assetsAtomic := dividend / denominator
    exactNumerator := numerator
    denominator
    fractionalRemainder := numerator % denominator
    rounding }

end Arithmetic

section Evaluation

structure AccruedMarket where
  totalSupplyAssets : Nat
  totalSupplyShares : Nat
  totalBorrowAssets : Nat
  totalBorrowShares : Nat

structure PositionProjection where
  rawSupplyShares : Nat
  adjustedSupplyShares : Nat
  borrowShares : Nat
  collateralAtomic : Nat
  supply : ShareAssetProjection
  borrow : ShareAssetProjection

structure Projection where
  currentAt : Nat
  elapsedSeconds : Nat
  irmReadStatus : IrmReadStatus
  taylor : TaylorProjection
  interestAtomic : Nat
  feeAmountAtomic : Nat
  pendingFeeShares : Nat
  walletIsFeeRecipient : Bool
  accruedMarket : AccruedMarket
  position : PositionProjection

/-- The seconds over which interest compounds: none where no rate is read. -/
def Snapshot.compoundedSeconds (s : Snapshot) : Nat :=
  if s.irmReadStatus = .borrowRateViewSuppliedUnauthenticated then
    s.blockTimestamp.1 - s.market.lastUpdate.1
  else 0

def Snapshot.walletIsFeeRecipient (s : Snapshot) : Bool := s.walletAddress == s.feeRecipientAddress

def project (s : Snapshot) : Except Failure Projection := do
  let taylorProjection ← orFail (taylor s.borrowRatePerSecondWad s.compoundedSeconds) .unavailable
  let interestAtomic ← orFail
    (mulDivDown s.market.totalBorrowAssets taylorProjection.compoundedRateWad wad) .unavailable
  let accruedTotalBorrowAssets ← orFail
    (checkedUint128Add s.market.totalBorrowAssets interestAtomic) .unavailable
  let accruedTotalSupplyAssets ← orFail
    (checkedUint128Add s.market.totalSupplyAssets interestAtomic) .unavailable
  let feeAmountAtomic ← orFail (mulDivDown interestAtomic s.market.feeWad wad) .unavailable
  failWhen (accruedTotalSupplyAssets < feeAmountAtomic) .feeExceedsSupply
  let feeConversionAssets := accruedTotalSupplyAssets - feeAmountAtomic
  let shares ← orFail (checkedAdd s.market.totalSupplyShares virtualShares) .unavailable
  let assets ← orFail (checkedAdd feeConversionAssets virtualAssets) .unavailable
  let pendingFeeShares ← orFail (mulDivDown feeAmountAtomic shares assets) .unavailable
  let accruedTotalSupplyShares ← orFail
    (checkedUint128Add s.market.totalSupplyShares pendingFeeShares) .unavailable
  let adjustedSupplyShares ← orFail
    (if s.walletIsFeeRecipient then checkedAdd s.position.supplyShares pendingFeeShares
      else some s.position.supplyShares.1) .unavailable
  failWhen (accruedTotalSupplyShares < adjustedSupplyShares) .sharesExceedSupply
  let supply ← orFail (shareProjection adjustedSupplyShares accruedTotalSupplyAssets
    accruedTotalSupplyShares .supplyDown) .unavailable
  let borrow ← orFail (shareProjection s.position.borrowShares accruedTotalBorrowAssets
    s.market.totalBorrowShares .borrowUp) .unavailable
  return {
    currentAt := s.blockTimestamp
    elapsedSeconds := s.blockTimestamp - s.market.lastUpdate
    irmReadStatus := s.irmReadStatus
    taylor := taylorProjection
    interestAtomic
    feeAmountAtomic
    pendingFeeShares
    walletIsFeeRecipient := s.walletIsFeeRecipient
    accruedMarket := {
      totalSupplyAssets := accruedTotalSupplyAssets
      totalSupplyShares := accruedTotalSupplyShares
      totalBorrowAssets := accruedTotalBorrowAssets
      totalBorrowShares := s.market.totalBorrowShares }
    position := {
      rawSupplyShares := s.position.supplyShares
      adjustedSupplyShares
      borrowShares := s.position.borrowShares
      collateralAtomic := s.position.collateralAtomic
      supply
      borrow } }

def evaluateMorphoBlueAccountPositionSnapshot (isAddress : String → Bool) (value : Value) :
    Except Failure Projection := do
  let s ← orFail (parseSnapshot isAddress value) .unavailable
  project s

end Evaluation

end CryptoLending.SmartLending.MorphoPosition
