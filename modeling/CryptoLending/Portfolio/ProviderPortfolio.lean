import CryptoLending.Lib.DecimalText
import CryptoLending.Lib.KeyedSums
import CryptoLending.Portfolio.ProviderPosition

namespace CryptoLending.Portfolio.ProviderPortfolio

open Lib Lib.Text Lib.Identifier Lib.JsValue Lib.Sorting Lib.DecimalText Lib.Tally
open Blockchain.AssetRegistry BalanceSnapshot ProviderPosition

def maxTotalAtomicDigits : Nat := 100

inductive MainnetProviderPortfolioUnavailableCode where
  | invalidAccountContext
  | providerCoverageUnavailable
  | walletBalanceUnavailable
  | crossSourceDuplicate
  | assetMismatch
  | arithmeticOverflow
  deriving DecidableEq

structure NormalizedWalletTokenBalance where
  observationId : String
  walletId : String
  asset : PortfolioAsset
  balance : ExactBalance
  observedAt : String

structure CoveredMainnetProviderPositionSnapshot where
  snapshotId : String
  coverageManifestId : String
  coverageFingerprintSha256 : String
  observations : List MainnetProviderPositionObservation
  length_le : observations.length ≤ maxPositions

structure MainnetProviderPortfolioAssetTotal where
  walletId : String
  asset : PortfolioAsset
  liquidWalletBalance : ExactBalance
  suppliedBalance : ExactBalance
  borrowedLiability : ExactBalance
  grossAssets : ExactBalance
  netPosition : ExactBalance
  supplyPositionCount : Nat
  borrowPositionCount : Nat

structure MainnetProviderPortfolioComposition where
  accountId : String
  asOf : String
  walletBalanceSnapshotId : String
  providerPositionSnapshotId : String
  providerCoverageManifestId : String
  providerCoverageFingerprintSha256 : String
  walletBalances : List NormalizedWalletTokenBalance
  providerPositions : List MainnetProviderPositionObservation
  assetTotals : List MainnetProviderPortfolioAssetTotal

structure ComposeMainnetProviderPortfolioRequest where
  accountId : Value
  evaluatedAt : String
  expectedWallets : Value
  observationPolicy : Value
  coverageManifest : Value
  positionSnapshot : Value
  chainAssessment : Value
  walletBalanceSnapshot : Value

structure MutableAssetTotal where
  walletId : String
  asset : PortfolioAsset
  liquidAtomic : Nat
  suppliedAtomic : Nat
  borrowedAtomic : Nat
  supplyPositionCount : Nat
  borrowPositionCount : Nat

section Arithmetic

def totalKey (walletId networkId : String) (stablecoin : SupportedStablecoin)
    (identity : String) : String :=
  walletId ++ "|" ++ networkId ++ "|" ++ stablecoin.text ++ "|" ++ identity

def keyOf (walletId : String) (asset : PortfolioAsset) : String :=
  totalKey walletId asset.networkId asset.stablecoin asset.identity

def unsignedDecimal (atomic decimals : Nat) : String := String.ofList (fixedText atomic decimals)

def signedDecimal (atomic : Int) (decimals : Nat) : String :=
  String.ofList (signedFixedText atomic decimals)

def signedText (n : Int) : String :=
  String.ofList (if 0 ≤ n then Nat.toDigits 10 n.toNat else '-' :: Nat.toDigits 10 (-n).toNat)

def assertBounded (value : Int) : Except MainnetProviderPortfolioUnavailableCode Unit :=
  failWhen (maxTotalAtomicDigits < Decimal.decimalLength value.natAbs) .arithmeticOverflow

/-- The number of an amount that was checked to be a numeral. -/
def amountOf (balance : ExactBalance) : Nat := decimalValue balance.atomic.toList

end Arithmetic

section Inputs

variable (localeCompare : String → String → Ordering)

def normalizeWalletBalance (observation : IndexedPortfolioBalanceObservation) :
    Except MainnetProviderPortfolioUnavailableCode NormalizedWalletTokenBalance := do
  let asset ← orFail (mainnetSupportedAssetRegistry.identifyAsset observation.networkId
    observation.assetIdentity) .assetMismatch
  failWhen (asset.activationState ≠ .active ∨ observation.freshnessClass ≠ .current) .assetMismatch
  return {
    observationId := observation.observationId
    walletId := observation.walletId
    asset := assetOf asset
    balance := {
      atomic := observation.amountAtomic
      decimal := unsignedDecimal (decimalValue observation.amountAtomic.toList) asset.decimals }
    observedAt := observation.observedAt }

def parseAccountContext (accountIdInput expectedWalletsInput : Value) :
    Except MainnetProviderPortfolioUnavailableCode
      (String × List ActivePortfolioWalletRegistration) := do
  let accountId ← orFail accountIdInput.string? .invalidAccountContext
  failWhen (¬isUuidV4 accountId.toList = true) .invalidAccountContext
  let expectedWallets ← orFail
    (parseActivePortfolioWalletRegistrations localeCompare expectedWalletsInput)
    .invalidAccountContext
  return (accountId, expectedWallets)

/-- The expected wallets are read again from what was parsed before. -/
def registrationsValue (registrations : List ActivePortfolioWalletRegistration) : Value :=
  ofItems (registrations.map fun r =>
    ofFields [("walletId", .string r.walletId), ("networkId", .string r.networkId)])

def parseWalletSnapshot (request : ComposeMainnetProviderPortfolioRequest)
    (expectedWallets : List ActivePortfolioWalletRegistration) :
    Except MainnetProviderPortfolioUnavailableCode IndexedPortfolioBalanceSnapshot := do
  let snapshot ← (parseIndexedPortfolioBalanceSnapshot localeCompare request.walletBalanceSnapshot
    (.string request.evaluatedAt) (registrationsValue expectedWallets)).mapError
      fun _ => .walletBalanceUnavailable
  failWhen (snapshot.freshnessClass ≠ .current ∨ snapshot.coverage.status ≠ .complete ∨
    (∃ t ∈ snapshot.coverage.targets, t.status ≠ .complete) ∨
      ∃ o ∈ snapshot.observations, o.freshnessClass ≠ .current) .walletBalanceUnavailable
  return snapshot

end Inputs

section Totals

def emptyTotal (walletId : String) (asset : PortfolioAsset) : MutableAssetTotal where
  walletId
  asset
  liquidAtomic := 0
  suppliedAtomic := 0
  borrowedAtomic := 0
  supplyPositionCount := 0
  borrowPositionCount := 0

/-- The totals that are kept: one for each expected wallet and active asset of its network. -/
def seeds (expectedWallets : List ActivePortfolioWalletRegistration) :
    List (String × PortfolioAsset) :=
  expectedWallets.flatMap fun wallet =>
    (activeAssets.filter fun asset => asset.networkId = wallet.networkId).map (wallet.walletId, ·)

def seedTotals (expectedWallets : List ActivePortfolioWalletRegistration) :
    JsMap String MutableAssetTotal :=
  JsMap.ofEntries ((seeds expectedWallets).map fun s => (keyOf s.1 s.2, emptyTotal s.1 s.2))

def addWalletBalance (total : MutableAssetTotal) (balance : NormalizedWalletTokenBalance) :
    Except MainnetProviderPortfolioUnavailableCode MutableAssetTotal := do
  let liquidAtomic := total.liquidAtomic + amountOf balance.balance
  assertBounded liquidAtomic
  return { total with liquidAtomic }

def addWalletBalances (totals : JsMap String MutableAssetTotal)
    (balances : List NormalizedWalletTokenBalance) :
    Except MainnetProviderPortfolioUnavailableCode (JsMap String MutableAssetTotal) :=
  tally (fun b => keyOf b.walletId b.asset) addWalletBalance .assetMismatch totals balances

/-- A borrowed token may also be in the wallet; here it is a liability only. -/
def addProviderPosition (total : MutableAssetTotal)
    (position : MainnetProviderPositionObservation) :
    Except MainnetProviderPortfolioUnavailableCode MutableAssetTotal := do
  failWhen (total.asset.decimals ≠ position.asset.decimals) .assetMismatch
  match position.positionKind with
  | .supply =>
    let suppliedAtomic := total.suppliedAtomic + amountOf position.balance
    assertBounded suppliedAtomic
    return { total with suppliedAtomic, supplyPositionCount := total.supplyPositionCount + 1 }
  | .borrow =>
    let borrowedAtomic := total.borrowedAtomic + amountOf position.balance
    assertBounded borrowedAtomic
    return { total with borrowedAtomic, borrowPositionCount := total.borrowPositionCount + 1 }

def addProviderPositions (totals : JsMap String MutableAssetTotal)
    (positions : List MainnetProviderPositionObservation) :
    Except MainnetProviderPortfolioUnavailableCode (JsMap String MutableAssetTotal) :=
  tally (fun p => keyOf p.walletId p.asset) addProviderPosition .assetMismatch totals positions

def exactBalance (atomic decimals : Nat) : ExactBalance :=
  ⟨integerText atomic, unsignedDecimal atomic decimals⟩

def immutableTotal (total : MutableAssetTotal) :
    Except MainnetProviderPortfolioUnavailableCode MainnetProviderPortfolioAssetTotal := do
  let decimals := total.asset.decimals
  let grossAssets := total.liquidAtomic + total.suppliedAtomic
  let netPosition : Int := grossAssets - total.borrowedAtomic
  assertBounded grossAssets
  assertBounded netPosition
  return {
    walletId := total.walletId
    asset := total.asset
    liquidWalletBalance := exactBalance total.liquidAtomic decimals
    suppliedBalance := exactBalance total.suppliedAtomic decimals
    borrowedLiability := exactBalance total.borrowedAtomic decimals
    grossAssets := exactBalance grossAssets decimals
    netPosition := ⟨signedText netPosition, signedDecimal netPosition decimals⟩
    supplyPositionCount := total.supplyPositionCount
    borrowPositionCount := total.borrowPositionCount }

end Totals

section Composition

/-- `readProviderSnapshot` stands for the reader of covered provider positions, `localeCompare`
and `compareStrings` for the collations of the platform. -/
def composeMainnetProviderPortfolio (localeCompare compareStrings : String → String → Ordering)
    (readProviderSnapshot : ComposeMainnetProviderPortfolioRequest →
      Option CoveredMainnetProviderPositionSnapshot)
    (request : ComposeMainnetProviderPortfolioRequest) :
    Except MainnetProviderPortfolioUnavailableCode MainnetProviderPortfolioComposition := do
  let (accountId, expectedWallets) ←
    parseAccountContext localeCompare request.accountId request.expectedWallets
  let providerSnapshot ← orFail (readProviderSnapshot request) .providerCoverageUnavailable
  let walletSnapshot ← parseWalletSnapshot localeCompare request expectedWallets
  let normalized ← walletSnapshot.observations.mapM normalizeWalletBalance
  let walletBalances := sortBy (fun left right => compareStrings
    (left.walletId ++ "|" ++ left.asset.networkId ++ "|" ++ left.asset.identity)
    (right.walletId ++ "|" ++ right.asset.networkId ++ "|" ++ right.asset.identity)) normalized
  failWhen (∃ p ∈ providerSnapshot.observations,
    p.observationId ∈ walletBalances.map (·.observationId)) .crossSourceDuplicate
  let totals ← addWalletBalances (seedTotals expectedWallets) walletBalances
  let totals ← addProviderPositions totals providerSnapshot.observations
  let immutableTotals ← totals.values.mapM immutableTotal
  return {
    accountId
    asOf := request.evaluatedAt
    walletBalanceSnapshotId := walletSnapshot.snapshotId
    providerPositionSnapshotId := providerSnapshot.snapshotId
    providerCoverageManifestId := providerSnapshot.coverageManifestId
    providerCoverageFingerprintSha256 := providerSnapshot.coverageFingerprintSha256
    walletBalances
    providerPositions := providerSnapshot.observations
    assetTotals := sortBy (fun left right => compareStrings (keyOf left.walletId left.asset)
      (keyOf right.walletId right.asset)) immutableTotals }

end Composition

end CryptoLending.Portfolio.ProviderPortfolio
