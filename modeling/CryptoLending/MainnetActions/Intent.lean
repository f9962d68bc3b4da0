import CryptoLending.Blockchain.AssetRegistry
import CryptoLending.Lib.IsoText

namespace CryptoLending.MainnetActions.Intent

open Lib Lib.Text Lib.Identifier Lib.JsValue Blockchain.LaunchNetwork Blockchain.AssetRegistry
  Wallets.WalletIdentity

inductive MainnetFinancialAction where
  | supply
  | withdraw
  | borrow
  | repay
  deriving DecidableEq

def MainnetFinancialAction.text : MainnetFinancialAction → String
  | .supply => "SUPPLY"
  | .withdraw => "WITHDRAW"
  | .borrow => "BORROW"
  | .repay => "REPAY"

def mainnetFinancialActions : List MainnetFinancialAction := [.supply, .withdraw, .borrow, .repay]

inductive MainnetFinancialActionProviderId where
  | aave | morpho | compound | spark | euler | gearbox | kamino | save | project0 | jupiter
  deriving DecidableEq

def MainnetFinancialActionProviderId.text : MainnetFinancialActionProviderId → String
  | .aave => "aave"
  | .morpho => "morpho"
  | .compound => "compound"
  | .spark => "spark"
  | .euler => "euler"
  | .gearbox => "gearbox"
  | .kamino => "kamino"
  | .save => "save"
  | .project0 => "project-0"
  | .jupiter => "jupiter"

inductive MainnetFinancialActionProtocolId where
  | aaveV3 | morphoBlue | compoundIii | sparklend | eulerV2 | gearboxV3 | kaminoLend | saveLend
  | marginfiV2 | jupiterLend
  deriving DecidableEq

def MainnetFinancialActionProtocolId.text : MainnetFinancialActionProtocolId → String
  | .aaveV3 => "aave-v3"
  | .morphoBlue => "morpho-blue"
  | .compoundIii => "compound-iii"
  | .sparklend => "sparklend"
  | .eulerV2 => "euler-v2"
  | .gearboxV3 => "gearbox-v3"
  | .kaminoLend => "kamino-lend"
  | .saveLend => "save-lend"
  | .marginfiV2 => "marginfi-v2"
  | .jupiterLend => "jupiter-lend"

structure MainnetFinancialActionProviderCandidate where
  providerId : MainnetFinancialActionProviderId
  protocolId : MainnetFinancialActionProtocolId
  networkId : MainnetLaunchNetworkId

def mainnetFinancialActionProviderCandidates : List MainnetFinancialActionProviderCandidate :=
  [⟨.aave, .aaveV3, .eip155⟩, ⟨.morpho, .morphoBlue, .eip155⟩, ⟨.compound, .compoundIii, .eip155⟩,
    ⟨.spark, .sparklend, .eip155⟩, ⟨.euler, .eulerV2, .eip155⟩, ⟨.gearbox, .gearboxV3, .eip155⟩,
    ⟨.kamino, .kaminoLend, .solana⟩, ⟨.save, .saveLend, .solana⟩,
    ⟨.project0, .marginfiV2, .solana⟩, ⟨.jupiter, .jupiterLend, .solana⟩]

inductive ValidationCode where
  | invalidIntentInput
  | invalidSchemaVersion
  | invalidIntentId
  | invalidAccountId
  | invalidWalletRegistrationId
  | invalidReplayProtection
  | invalidNetwork
  | invalidWallet
  | invalidProviderBinding
  | invalidMarketBinding
  | invalidAssetRegistryBinding
  | invalidAssetBinding
  | invalidAction
  | invalidAmount
  | invalidValueLimitInput
  | invalidNetworkFeeLimitInput
  | invalidPostActionReserve
  | invalidAllowance
  | invalidIntentTime
  | invalidServerTime
  deriving DecidableEq

/-- The fields of an accepted intent, without those whose value is the same in all of them. -/
structure DormantMainnetFinancialActionIntent where
  intentId : String
  accountId : String
  walletRegistrationId : String
  replayProtectionId : String
  idempotencyKeyDigestSha256 : String
  networkId : MainnetLaunchNetworkId
  walletAddress : String
  providerId : MainnetFinancialActionProviderId
  protocolId : MainnetFinancialActionProtocolId
  marketId : String
  assetRegistryVersion : Nat
  assetRegistryFingerprintSha256 : String
  assetSymbol : SupportedStablecoin
  assetIdentity : String
  assetDecimals : Nat
  action : MainnetFinancialAction
  amountAtomic : String
  requestedValueUsdMicros : String
  maximumNetworkFeeAtomic : String
  maximumNetworkFeeBasisPoints : Nat
  minimumPostActionNativeBalanceAtomic : String
  allowanceAmountAtomic : String
  issuedAt : IsoDate.Timestamp
  expiresAt : IsoDate.Timestamp

def maximumTtlMilliseconds : Int := 5 * 60 * 1000

def maxUint256 : Nat :=
  115792089237316195423570985008687907853269984665640564039457584007913129639935

def intentInputKeys : List String :=
  ["schemaVersion", "intentId", "accountId", "walletRegistrationId", "replayProtectionId",
    "idempotencyKeyDigestSha256", "networkId", "walletAddress", "providerId", "protocolId",
    "marketId", "assetRegistryVersion", "assetRegistryFingerprintSha256", "assetSymbol",
    "assetIdentity", "action", "amountAtomic", "requestedValueUsdMicros",
    "maximumNetworkFeeAtomic", "maximumNetworkFeeBasisPoints",
    "minimumPostActionNativeBalanceAtomic", "allowanceMode", "allowanceAmountAtomic", "issuedAt",
    "expiresAt"]

section Readers

variable {ε : Type}

/-- A text that passes a test. -/
def textOf (test : List Char → Bool) (value : Value) (code : ε) : Except ε String := do
  let text ← orFail value.string? code
  failWhen (!test text.toList) code
  return text

def uuid (value : Value) (code : ε) : Except ε String := textOf isUuidV4 value code

def digest (value : Value) (code : ε) : Except ε String := textOf isSha256 value code

def canonicalTime (value : Value) (code : ε) : Except ε IsoDate.Timestamp :=
  orFail (value.string?.bind IsoDate.Timestamp.ofText) code

def serverTime (value : Value) (code : ε) : Except ε Int := orFail value.milliseconds? code

theorem textOf_ok {test : List Char → Bool} {value : Value} {code : ε} {text : String} :
    textOf test value code = .ok text ↔ value = .string text ∧ test text.toList = true := by
  simp only [textOf, except_bind_ok, orFail_ok, failWhen_ok, except_pure_ok, Value.string?_eq_some,
    Bool.not_eq_true', Bool.not_eq_false]
  constructor
  · rintro ⟨_, rfl, _, ht, rfl⟩
    exact ⟨rfl, ht⟩
  · rintro ⟨rfl, ht⟩
    exact ⟨_, rfl, ⟨⟩, ht, rfl⟩

theorem canonicalTime_text {value : Value} {code : ε} {t : IsoDate.Timestamp}
    (h : canonicalTime value code = .ok t) : value = .string t.text := by
  obtain ⟨text, hv, ht⟩ := Option.bind_eq_some_iff.mp (orFail_ok.mp h)
  rw [Value.string?_eq_some.mp hv, IsoDate.Timestamp.ofText_text ht]

end Readers

def launchNetwork (value : Value) : Except ValidationCode MainnetLaunchNetworkId :=
  orFail (value.string?.bind ofText) .invalidNetwork

def wallet (isAddress : String → Bool) (networkId : MainnetLaunchNetworkId) (value : Value) :
    Except ValidationCode String :=
  (parseWalletAddress isAddress (.string networkId.text) value).mapError (fun _ => .invalidWallet)

def providerBinding (networkId : MainnetLaunchNetworkId) (providerIdValue protocolIdValue : Value) :
    Except ValidationCode MainnetFinancialActionProviderCandidate :=
  orFail
    (mainnetFinancialActionProviderCandidates.find? (fun entry => entry.networkId == networkId &&
      providerIdValue.isText entry.providerId.text && protocolIdValue.isText entry.protocolId.text))
    .invalidProviderBinding

def marketBinding (networkId : MainnetLaunchNetworkId) (value : Value) :
    Except ValidationCode String :=
  match networkId with
  | .eip155 => textOf (isHexQuantity isLowerHex [40, 64]) value .invalidMarketBinding
  | .solana => (parseSolanaWalletAddress value).mapError (fun _ => .invalidMarketBinding)

def financialAction (value : Value) : Except ValidationCode MainnetFinancialAction :=
  orFail (mainnetFinancialActions.find? (fun action => value.isText action.text)) .invalidAction

def atomic (value : Value) (code : ValidationCode) (allowZero : Bool) :
    Except ValidationCode String := do
  let text ← orFail value.string? code
  failWhen (text.toList.length > 78 ∨ !isCanonicalUint text.toList) code
  failWhen (decimalValue text.toList > maxUint256 ∨
    (!allowZero ∧ decimalValue text.toList = 0)) code
  return text

def feeBasisPoints (value : Value) : Except ValidationCode Nat := do
  let n ← orFail value.integer? .invalidNetworkFeeLimitInput
  failWhen (n < 0 ∨ n > 10000) .invalidNetworkFeeLimitInput
  return n.toNat

structure AssetBinding where
  registryVersion : Nat
  registryFingerprintSha256 : String
  symbol : SupportedStablecoin
  identity : String
  decimals : Nat

def assetBinding (networkId : MainnetLaunchNetworkId)
    (versionValue fingerprintValue symbolValue identityValue : Value) :
    Except ValidationCode AssetBinding := do
  let registry := mainnetSupportedAssetRegistry
  failWhen (!versionValue.isNumber registry.version ||
    !fingerprintValue.isText registry.fingerprintSha256) .invalidAssetRegistryBinding
  let identity ← orFail identityValue.string? .invalidAssetBinding
  let symbol ← orFail symbolValue.string? .invalidAssetBinding
  let asset ← orFail (registry.identifyAsset networkId.text identity) .invalidAssetBinding
  let network ← orFail (registry.networks.find? (fun n => n.networkId == networkId.text))
    .invalidAssetBinding
  failWhen (asset.activationState ≠ .active ∨ network.activationState ≠ .active ∨
    asset.stablecoin.text ≠ symbol ∨ asset.identity ≠ identity) .invalidAssetBinding
  return ⟨registry.version, registry.fingerprintSha256, asset.stablecoin, asset.identity,
    asset.decimals⟩

def expectedAllowance (action : MainnetFinancialAction) (amountAtomic : String) : String :=
  if action = .supply ∨ action = .repay then amountAtomic else "0"

/-- Read an untrusted candidate into an exact intent, or say what is wrong with it first. -/
def parseDormantMainnetFinancialActionIntent (isAddress : String → Bool) (input serverNow : Value) :
    Except ValidationCode DormantMainnetFinancialActionIntent := do
  let record ← orFail (exactDataRecord input intentInputKeys) .invalidIntentInput
  failWhen (!(record.get "schemaVersion").isNumber 1) .invalidSchemaVersion
  let intentId ← uuid (record.get "intentId") .invalidIntentId
  let accountId ← uuid (record.get "accountId") .invalidAccountId
  let walletRegistrationId ← uuid (record.get "walletRegistrationId") .invalidWalletRegistrationId
  let replayProtectionId ← uuid (record.get "replayProtectionId") .invalidReplayProtection
  failWhen (¬[intentId, accountId, walletRegistrationId, replayProtectionId].Nodup)
    .invalidReplayProtection
  let idempotencyKeyDigestSha256 ←
    digest (record.get "idempotencyKeyDigestSha256") .invalidReplayProtection
  let networkId ← launchNetwork (record.get "networkId")
  let walletAddress ← wallet isAddress networkId (record.get "walletAddress")
  let provider ← providerBinding networkId (record.get "providerId") (record.get "protocolId")
  let marketId ← marketBinding networkId (record.get "marketId")
  let asset ← assetBinding networkId (record.get "assetRegistryVersion")
    (record.get "assetRegistryFingerprintSha256") (record.get "assetSymbol")
    (record.get "assetIdentity")
  let action ← financialAction (record.get "action")
  let amountAtomic ← atomic (record.get "amountAtomic") .invalidAmount false
  let requestedValueUsdMicros ←
    atomic (record.get "requestedValueUsdMicros") .invalidValueLimitInput false
  let maximumNetworkFeeAtomic ←
    atomic (record.get "maximumNetworkFeeAtomic") .invalidNetworkFeeLimitInput true
  let maximumNetworkFeeBasisPoints ← feeBasisPoints (record.get "maximumNetworkFeeBasisPoints")
  let minimumPostActionNativeBalanceAtomic ←
    atomic (record.get "minimumPostActionNativeBalanceAtomic") .invalidPostActionReserve false
  let allowanceAmountAtomic ← atomic (record.get "allowanceAmountAtomic") .invalidAllowance true
  failWhen (!(record.get "allowanceMode").isText "EXACT" ||
    allowanceAmountAtomic != expectedAllowance action amountAtomic) .invalidAllowance
  let nowMilliseconds ← serverTime serverNow .invalidServerTime
  let issuedAt ← canonicalTime (record.get "issuedAt") .invalidIntentTime
  let expiresAt ← canonicalTime (record.get "expiresAt") .invalidIntentTime
  failWhen (issuedAt.milliseconds > nowMilliseconds ∨ expiresAt.milliseconds ≤ nowMilliseconds ∨
    expiresAt.milliseconds ≤ issuedAt.milliseconds ∨
    expiresAt.milliseconds - issuedAt.milliseconds > maximumTtlMilliseconds) .invalidIntentTime
  return {
    intentId, accountId, walletRegistrationId, replayProtectionId, idempotencyKeyDigestSha256,
    networkId, walletAddress, marketId, action, amountAtomic, requestedValueUsdMicros,
    maximumNetworkFeeAtomic, maximumNetworkFeeBasisPoints, minimumPostActionNativeBalanceAtomic,
    allowanceAmountAtomic, issuedAt, expiresAt
    providerId := provider.providerId
    protocolId := provider.protocolId
    assetRegistryVersion := asset.registryVersion
    assetRegistryFingerprintSha256 := asset.registryFingerprintSha256
    assetSymbol := asset.symbol
    assetIdentity := asset.identity
    assetDecimals := asset.decimals }

/-- An accepted intent has the identifier of its input. -/
theorem parse_intentId {isAddress : String → Bool} {input serverNow : Value}
    {intent : DormantMainnetFinancialActionIntent}
    (h : parseDormantMainnetFinancialActionIntent isAddress input serverNow = .ok intent) :
    ∃ record, exactDataRecord input intentInputKeys = some record ∧
      record.get "intentId" = .string intent.intentId := by
  obtain ⟨record, hrecord, h⟩ := except_bind_ok.mp h
  obtain ⟨_, _, h⟩ := except_bind_ok.mp h
  obtain ⟨intentId, hid, h⟩ := except_bind_ok.mp h
  refine ⟨record, orFail_ok.mp hrecord, ?_⟩
  rw [(textOf_ok.1 hid).1]
  repeat obtain ⟨_, _, h⟩ := except_bind_ok.mp h
  rw [except_pure_ok] at h
  rw [← h]

end CryptoLending.MainnetActions.Intent
