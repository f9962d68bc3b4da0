import CryptoLending.Blockchain.ChainObservation
import CryptoLending.Portfolio.BalanceSnapshot

namespace CryptoLending.Portfolio.ProviderPosition

open Lib Lib.Text Lib.Identifier Lib.JsValue Lib.Sorting
open Lib.JsReading (readText isFalse)
open Lib.IsoDate (Timestamp)
open Blockchain.AssetRegistry Blockchain.ChainObservation BalanceSnapshot

def maxPositions : Nat := 512
def maxAssetDecimals : Nat := 36
def maxUint256 : Nat := 2 ^ 256 - 1
def maxUint64 : Nat := 2 ^ 64 - 1

structure PortfolioAsset where
  stablecoin : SupportedStablecoin
  networkId : String
  identity : String
  decimals : Nat
  deriving DecidableEq

def assetOf (a : SupportedStablecoinAsset) : PortfolioAsset where
  stablecoin := a.stablecoin
  networkId := a.networkId
  identity := a.identity
  decimals := a.decimals

/-- The active assets of the latest registry. -/
def activeAssets : List PortfolioAsset :=
  (mainnetSupportedAssetRegistry.assets.filter fun a => a.activationState = .active).map assetOf

structure ExactBalance where
  atomic : String
  decimal : String
  deriving DecidableEq

inductive MainnetProviderPositionKind where
  | supply
  | borrow
  deriving DecidableEq

def MainnetProviderPositionKind.text : MainnetProviderPositionKind → String
  | .supply => "SUPPLY"
  | .borrow => "BORROW"

inductive MainnetProviderPositionFreshness where
  | current
  | stale
  deriving DecidableEq

def MainnetProviderPositionFreshness.text : MainnetProviderPositionFreshness → String
  | .current => "CURRENT"
  | .stale => "STALE"

inductive MainnetProviderPositionSourceKind where
  | rpc
  | indexer
  | providerApi
  deriving DecidableEq

def MainnetProviderPositionSourceKind.text : MainnetProviderPositionSourceKind → String
  | .rpc => "RPC"
  | .indexer => "INDEXER"
  | .providerApi => "PROVIDER_API"

inductive MainnetProviderPositionChainAnchor where
  | evmBlock (blockNumber blockHash : String)
  | solanaSlot (slot root : String)
  deriving DecidableEq

structure MainnetProviderPositionSource where
  sourceId : String
  sourceKind : MainnetProviderPositionSourceKind
  sourceObservationId : String
  chainAnchor : MainnetProviderPositionChainAnchor

/-- A position as its parser leaves it: of a wallet identifier, a listed asset and an amount of
bounded length. -/
structure MainnetProviderPositionObservation where
  observationId : String
  walletId : String
  providerId : String
  protocolId : String
  marketId : String
  positionId : String
  positionKind : MainnetProviderPositionKind
  asset : PortfolioAsset
  balance : ExactBalance
  source : MainnetProviderPositionSource
  observedAt : String
  staleAfter : String
  freshnessClass : MainnetProviderPositionFreshness
  walletId_valid : isUuidV4 walletId.toList = true
  asset_listed : asset ∈ activeAssets
  amount_valid : isCanonicalAmount balance.atomic.toList = true

structure MainnetProviderPositionSnapshot where
  snapshotId : String
  observationPolicyVersion : Nat
  observationPolicyId : String
  observationPolicyFingerprintSha256 : String
  assetRegistryVersion : Nat
  assetRegistryFingerprintSha256 : String
  capturedAt : String
  staleAfter : String
  freshnessClass : MainnetProviderPositionFreshness
  observations : List MainnetProviderPositionObservation

section Approvals

structure MainnetProviderPositionAssetApproval where
  stablecoin : SupportedStablecoin
  identity : String
  deriving DecidableEq

structure MainnetProviderPositionMarketApproval where
  networkId : String
  marketId : String
  assets : List MainnetProviderPositionAssetApproval

structure MainnetProviderPositionProtocolApproval where
  protocolId : String
  markets : List MainnetProviderPositionMarketApproval

structure MainnetProviderPositionProviderApproval where
  providerId : String
  protocols : List MainnetProviderPositionProtocolApproval

structure MainnetProviderPositionSourceApproval where
  sourceId : String
  sourceKind : MainnetProviderPositionSourceKind
  networkId : String
  deriving DecidableEq

/-- What may be observed, and from where. -/
structure MainnetProviderPositionObservationPolicy where
  policyVersion : Nat
  policyId : String
  assetRegistryVersion : Nat
  assetRegistryFingerprintSha256 : String
  providers : List MainnetProviderPositionProviderApproval
  sources : List MainnetProviderPositionSourceApproval
  fingerprintSha256 : String

variable (policy : MainnetProviderPositionObservationPolicy)

def mainnetProviderPositionPolicyAllowsMarket (providerId protocolId marketId : String)
    (asset : PortfolioAsset) : Bool :=
  policy.providers.any fun provider => provider.providerId == providerId &&
    provider.protocols.any fun protocol => protocol.protocolId == protocolId &&
      protocol.markets.any fun market => market.networkId == asset.networkId &&
        market.marketId == marketId && market.assets.contains ⟨asset.stablecoin, asset.identity⟩

def mainnetProviderPositionPolicyAllowsSource (sourceId : String)
    (sourceKind : MainnetProviderPositionSourceKind) (networkId : String) : Bool :=
  policy.sources.contains ⟨sourceId, sourceKind, networkId⟩

end Approvals

section Assessments

inductive MainnetProviderPositionChainIdentityStatus where
  | verified
  | failed
  deriving DecidableEq

inductive MainnetProviderPositionChainProgressionStatus where
  | current
  | stale
  | unavailable
  | quarantined
  deriving DecidableEq

inductive MainnetProviderPositionChainFinalityStatus where
  | healthy
  | stalled
  | unavailable
  | quarantined
  | blockedPendingLiveProof
  deriving DecidableEq

structure MainnetProviderPositionChainAssessmentEntry where
  observationId : String
  sourceId : String
  sourceKind : MainnetProviderPositionSourceKind
  sourceObservationId : String
  networkId : String
  chainAnchor : MainnetProviderPositionChainAnchor
  assessedAt : Timestamp
  identityStatus : MainnetProviderPositionChainIdentityStatus
  progressionStatus : MainnetProviderPositionChainProgressionStatus
  finalityStatus : MainnetProviderPositionChainFinalityStatus

structure MainnetProviderPositionChainAssessment where
  assessmentId : String
  observationPolicyFingerprintSha256 : String
  assetRegistryVersion : Nat
  assetRegistryFingerprintSha256 : String
  entries : List MainnetProviderPositionChainAssessmentEntry

def anchorKey : MainnetProviderPositionChainAnchor → String
  | .evmBlock blockNumber blockHash => "EVM_BLOCK\x00" ++ blockNumber ++ "\x00" ++ blockHash
  | .solanaSlot slot root => "SOLANA_SLOT\x00" ++ slot ++ "\x00" ++ root

def mainnetProviderPositionChainAssessmentForSource
    (assessment : MainnetProviderPositionChainAssessment) (observationId networkId : String)
    (source : MainnetProviderPositionSource) : Option MainnetProviderPositionChainAssessmentEntry :=
  assessment.entries.find? fun entry => entry.observationId == observationId &&
    entry.sourceId == source.sourceId && entry.sourceKind == source.sourceKind &&
      entry.sourceObservationId == source.sourceObservationId && entry.networkId == networkId &&
        anchorKey entry.chainAnchor == anchorKey source.chainAnchor

/-- What the verifier of an assessment is asked. The digest of the observation, a function of what
is here, is left out. -/
structure MainnetProviderPositionChainAssessmentVerificationContext where
  snapshotId : String
  assessmentId : String
  observationPolicyFingerprintSha256 : String
  assetRegistryVersion : Nat
  assetRegistryFingerprintSha256 : String
  observation : MainnetProviderPositionObservation
  selector : ChainObservationSelector
  assessedAt : String
  capturedAt : String
  evaluatedAt : String
  progressionStatus : MainnetProviderPositionChainProgressionStatus
  finalityStatus : MainnetProviderPositionChainFinalityStatus

end Assessments

section Fields

/-- Bounded, of allowed characters, the first and the last one of those allowed at an edge. -/
def isIdentifier (edge inner : Char → Bool) (maximum : Nat) (cs : List Char) : Bool :=
  cs.length ≤ maximum && cs.all inner && cs.head?.any edge && cs.getLast?.any edge

def isSlugEdge (c : Char) : Bool := isDigit c || ('a' ≤ c && c ≤ 'z')

def slug (v : Value) : Option String :=
  readText (isIdentifier isSlugEdge (fun c => isSlugEdge c || c == '-') 64) v

/-- A hexadecimal identifier is one of an account or a hash, and not zero. -/
def opaqueId (v : Value) : Option String := do
  let text ← readText (isIdentifier Char.isAlphanum isSafeSnapshotCharacter 192) v
  if (text.toList.take 2).map Char.toLower = "0x".toList then
    guard (isHexQuantity isHex [40, 64] text.toList = true)
    return toLowerCase text
  else return text

def timestamp (v : Value) : Option Timestamp := v.string?.bind Timestamp.ofText

def isUnsignedInteger (maximum : Nat) (cs : List Char) : Bool :=
  isCanonicalAmount cs && decide (decimalValue cs ≤ maximum)

def unsignedInteger (v : Value) (maximum : Nat) : Option String :=
  readText (isUnsignedInteger maximum) v

def isEvmNetwork (networkId : String) : Bool := "eip155:".toList.isPrefixOf networkId.toList

def isSolanaNetwork (networkId : String) : Bool := "solana:".toList.isPrefixOf networkId.toList

/-- At the deadline itself a position is stale. -/
def freshness (v : Value) (staleAfter evaluatedAt : String) :
    Option MainnetProviderPositionFreshness := do
  let expected : MainnetProviderPositionFreshness :=
    if evaluatedAt < staleAfter then .current else .stale
  guard (v.isText expected.text = true)
  return expected

end Fields

section Assets

/-- An asset of the registry that is active. -/
structure ListedAsset where
  asset : PortfolioAsset
  listed : asset ∈ activeAssets

theorem assetOf_mem_activeAssets {networkId identity : String} {asset : SupportedStablecoinAsset}
    (h : mainnetSupportedAssetRegistry.identifyAsset networkId identity = some asset)
    (hactive : asset.activationState = .active) : assetOf asset ∈ activeAssets := by
  simp only [SupportedAssetRegistrySnapshot.identifyAsset, Option.bind_eq_bind,
    Option.bind_eq_some_iff] at h
  obtain ⟨_, _, _, _, hfind⟩ := h
  exact List.mem_map_of_mem
    (List.mem_filter.mpr ⟨List.mem_of_find?_eq_some hfind, decide_eq_true hactive⟩)

/-- The registry has a single version. -/
def parseAsset (v : Value) : Option ListedAsset := do
  let record ← exactRecord v ["stablecoin", "networkId", "identity", "decimals"]
  let networkId ← (record.get "networkId").string?
  let identity ← (record.get "identity").string?
  let decimals ← (record.get "decimals").integer?
  guard (0 ≤ decimals ∧ decimals ≤ maxAssetDecimals)
  let network ← mainnetSupportedAssetRegistry.networks.find? fun n => n.networkId == networkId
  guard (network.activationState = .active)
  match h : mainnetSupportedAssetRegistry.identifyAsset networkId identity with
  | none => none
  | some asset =>
    if hactive : asset.activationState = .active then
      guard ((record.get "stablecoin").isText asset.stablecoin.text = true ∧
        decimals = asset.decimals)
      return ⟨assetOf asset, assetOf_mem_activeAssets h hactive⟩
    else none

/-- Inserts the point into an amount, padded with zeros. -/
def mainnetProviderPositionDecimalFromAtomic (atomic : String) (decimals : Nat) : String :=
  if decimals = 0 then atomic
  else
    let padded := atomic.toList.leftpad (decimals + 1) '0'
    String.ofList (padded.take (padded.length - decimals) ++
      '.' :: padded.drop (padded.length - decimals))

/-- A balance whose amount has a bounded length. -/
structure BoundedBalance where
  balance : ExactBalance
  amount_valid : isCanonicalAmount balance.atomic.toList = true

def parseBalance (v : Value) (asset : PortfolioAsset) : Option BoundedBalance := do
  let record ← exactRecord v ["atomic", "decimal"]
  let maximum := if isSolanaNetwork asset.networkId then maxUint64 else maxUint256
  let atomic ← Matching.ofValue (isUnsignedInteger maximum) (record.get "atomic")
  let decimal := mainnetProviderPositionDecimalFromAtomic atomic.text asset.decimals
  guard ((record.get "decimal").isText decimal = true)
  return ⟨⟨atomic.text, decimal⟩, (Bool.and_eq_true_iff.mp atomic.passes).1⟩

end Assets

section Sources

def parseChainAnchor (v : Value) (networkId : String) :
    Option MainnetProviderPositionChainAnchor := do
  let kind ← ownValue v "kind"
  if kind.isText "EVM_BLOCK" then
    let record ← exactRecord v ["kind", "blockNumber", "blockHash"]
    guard (isEvmNetwork networkId = true)
    let blockNumber ← unsignedInteger (record.get "blockNumber") maxUint256
    let blockHash ← readText (isHexQuantity isHex [64]) (record.get "blockHash")
    return .evmBlock blockNumber (toLowerCase blockHash)
  else
    guard (kind.isText "SOLANA_SLOT" = true)
    let record ← exactRecord v ["kind", "slot", "root"]
    guard (isSolanaNetwork networkId = true)
    let slot ← unsignedInteger (record.get "slot") maxUint64
    let root ← unsignedInteger (record.get "root") maxUint64
    guard (decimalValue root.toList ≤ decimalValue slot.toList)
    return .solanaSlot slot root

/-- The observation id that names an anchor. -/
def expectedSourceObservationId : MainnetProviderPositionChainAnchor → String
  | .evmBlock blockNumber _ => "ethereum-block-" ++ blockNumber
  | .solanaSlot slot _ => "solana-slot-" ++ slot

def parseSource (v : Value) (networkId : String)
    (policy : MainnetProviderPositionObservationPolicy) :
    Option MainnetProviderPositionSource := do
  let record ← exactRecord v ["sourceId", "sourceKind", "sourceObservationId", "chainAnchor"]
  let sourceKind ← [MainnetProviderPositionSourceKind.rpc, .indexer, .providerApi].find? fun kind =>
    (record.get "sourceKind").isText kind.text
  let sourceId ← slug (record.get "sourceId")
  guard (mainnetProviderPositionPolicyAllowsSource policy sourceId sourceKind networkId = true)
  let chainAnchor ← parseChainAnchor (record.get "chainAnchor") networkId
  let sourceObservationId ← opaqueId (record.get "sourceObservationId")
  guard (sourceObservationId = expectedSourceObservationId chainAnchor)
  return { sourceId, sourceKind, sourceObservationId, chainAnchor }

end Sources

section Observations

/-- The observed network, of the main networks only. -/
def mainnetPolicy (networkId : String) : Option ChainObservationNetworkPolicy := do
  let chainPolicy ← chainObservationPolicyForNetwork networkId
  guard (chainPolicy.environment = .mainnet)
  return chainPolicy

/-- The rule for positions. Every provisional rule is for display only. -/
def provisionalRule (networkId : String) : Option ChainObservationTierRule := do
  let rule ← observationTierRule networkId "PROVISIONAL"
  guard (rule.state = .allowed ∧ (rule.selector = .latest ∨ rule.selector = .confirmed))
  return rule

/-- What an observation allows, at most until its network's policy and its assessment do; a chain
that does not progress or finalize makes it stale at the assessment. -/
def effectiveDeadlineMs (staleAfter observedAt : Timestamp)
    (chainPolicy : ChainObservationNetworkPolicy)
    (entry : MainnetProviderPositionChainAssessmentEntry) : Int :=
  let deadline := min (min staleAfter.milliseconds
    (observedAt.milliseconds + chainPolicy.currentWithinMs))
    (entry.assessedAt.milliseconds + chainPolicy.currentWithinMs)
  if entry.progressionStatus = .stale ∨ entry.finalityStatus = .stalled then
    min deadline entry.assessedAt.milliseconds
  else deadline

/-- The entry speaks of a chain that was verified, and not too long before. -/
def isAssessed (entry : MainnetProviderPositionChainAssessmentEntry)
    (chainPolicy : ChainObservationNetworkPolicy) (observedAt capturedAt evaluatedAt : Timestamp) :
    Bool :=
  decide (entry.identityStatus = .verified) &&
    decide (entry.progressionStatus = .current ∨ entry.progressionStatus = .stale) &&
      decide (entry.finalityStatus = .healthy ∨ entry.finalityStatus = .stalled) &&
        decide (observedAt.milliseconds ≤ entry.assessedAt.milliseconds ∧
          entry.assessedAt.milliseconds ≤ capturedAt.milliseconds ∧
          capturedAt.milliseconds - entry.assessedAt.milliseconds ≤
            chainPolicy.unavailableAfterMs ∧
          evaluatedAt.milliseconds - entry.assessedAt.milliseconds ≤
            chainPolicy.unavailableAfterMs)

/-- What the observations of a snapshot are read against. -/
structure ObservationContext where
  snapshotId : String
  policy : MainnetProviderPositionObservationPolicy
  chainAssessment : MainnetProviderPositionChainAssessment
  /-- `verify` stands for the verifier of assessments, and answers no where that throws. -/
  verify : MainnetProviderPositionChainAssessmentVerificationContext → Bool
  capturedAt : Timestamp
  evaluatedAt : Timestamp

def parseObservation (context : ObservationContext) (v : Value) :
    Option MainnetProviderPositionObservation := do
  let record ← exactRecord v ["observationId", "walletId", "providerId", "protocolId", "marketId",
    "positionId", "positionKind", "asset", "balance", "source", "observedAt", "staleAfter",
    "freshnessClass"]
  let observationId ← readText isUuidV4 (record.get "observationId")
  let walletId ← Matching.ofValue isUuidV4 (record.get "walletId")
  let positionKind ← [MainnetProviderPositionKind.supply, .borrow].find? fun kind =>
    (record.get "positionKind").isText kind.text
  let providerId ← slug (record.get "providerId")
  let protocolId ← slug (record.get "protocolId")
  let marketId ← opaqueId (record.get "marketId")
  let positionId ← opaqueId (record.get "positionId")
  let observedAt ← timestamp (record.get "observedAt")
  let staleAfter ← timestamp (record.get "staleAfter")
  guard (observedAt.milliseconds ≤ context.capturedAt.milliseconds ∧
    observedAt.text < staleAfter.text)
  let asset ← parseAsset (record.get "asset")
  let balance ← parseBalance (record.get "balance") asset.asset
  guard (mainnetProviderPositionPolicyAllowsMarket context.policy providerId protocolId marketId
    asset.asset = true)
  let chainPolicy ← mainnetPolicy asset.asset.networkId
  let rule ← provisionalRule asset.asset.networkId
  guard (context.capturedAt.milliseconds - observedAt.milliseconds ≤
      chainPolicy.unavailableAfterMs ∧
    context.evaluatedAt.milliseconds ≤ observedAt.milliseconds + chainPolicy.unavailableAfterMs)
  let source ← parseSource (record.get "source") asset.asset.networkId context.policy
  let entry ← mainnetProviderPositionChainAssessmentForSource context.chainAssessment observationId
    asset.asset.networkId source
  guard (isAssessed entry chainPolicy observedAt context.capturedAt context.evaluatedAt = true)
  let deadline ← IsoText.TimeValue.ofMilliseconds
    (effectiveDeadlineMs staleAfter observedAt chainPolicy entry)
  let freshnessClass ← freshness (record.get "freshnessClass") deadline.toISOString
    context.evaluatedAt.text
  let observation : MainnetProviderPositionObservation := {
    observationId
    walletId := walletId.text
    providerId
    protocolId
    marketId
    positionId
    positionKind
    asset := asset.asset
    balance := balance.balance
    source
    observedAt := observedAt.text
    staleAfter := deadline.toISOString
    freshnessClass
    walletId_valid := walletId.passes
    asset_listed := asset.listed
    amount_valid := balance.amount_valid }
  guard (context.verify {
    snapshotId := context.snapshotId
    assessmentId := context.chainAssessment.assessmentId
    observationPolicyFingerprintSha256 :=
      context.chainAssessment.observationPolicyFingerprintSha256
    assetRegistryVersion := context.chainAssessment.assetRegistryVersion
    assetRegistryFingerprintSha256 := context.chainAssessment.assetRegistryFingerprintSha256
    observation
    selector := rule.selector
    assessedAt := entry.assessedAt.text
    capturedAt := context.capturedAt.text
    evaluatedAt := context.evaluatedAt.text
    progressionStatus := entry.progressionStatus
    finalityStatus := entry.finalityStatus } = true)
  return observation

end Observations

section Snapshots

def positionKey (o : MainnetProviderPositionObservation) : String :=
  "\x00".intercalate [o.walletId, o.asset.networkId, o.asset.identity, o.providerId, o.protocolId,
    o.marketId, o.positionId, o.positionKind.text]

def compareCanonical (left right : String) : Ordering :=
  if left < right then .lt else if right < left then .gt else .eq

def snapshotKeys : List String :=
  ["schemaVersion", "use", "mayAuthorizeFinancialAction", "snapshotId", "observationPolicyVersion",
    "observationPolicyId", "observationPolicyFingerprintSha256", "assetRegistryVersion",
    "assetRegistryFingerprintSha256", "capturedAt", "staleAfter", "freshnessClass", "observations"]

/-- The fields that every snapshot has alike. -/
def isPositionSnapshot (record : Record) : Bool :=
  (record.get "schemaVersion").isNumber 1 &&
    (record.get "use").isText "MAINNET_PROVIDER_POSITION_OBSERVATION_ONLY" &&
      isFalse (record.get "mayAuthorizeFinancialAction")

/-- The snapshot names the policy and the registry, and all of them the same registry. -/
def isBound (record : Record) (policy : MainnetProviderPositionObservationPolicy)
    (chainAssessment : MainnetProviderPositionChainAssessment) : Bool :=
  let registry := mainnetSupportedAssetRegistry
  (record.get "observationPolicyVersion").isNumber policy.policyVersion &&
    (record.get "observationPolicyId").isText policy.policyId &&
    (record.get "observationPolicyFingerprintSha256").isText policy.fingerprintSha256 &&
    (record.get "assetRegistryVersion").isNumber registry.version &&
    (record.get "assetRegistryFingerprintSha256").isText registry.fingerprintSha256 &&
    policy.assetRegistryVersion == registry.version &&
    policy.assetRegistryFingerprintSha256 == registry.fingerprintSha256 &&
    chainAssessment.observationPolicyFingerprintSha256 == policy.fingerprintSha256 &&
    chainAssessment.assetRegistryVersion == registry.version &&
    chainAssessment.assetRegistryFingerprintSha256 == registry.fingerprintSha256

/-- A snapshot of some positions. Its policy was read before and reads the same again;
`readChainAssessment` stands for the reader of assessments, `verify` for their verifier. -/
def parseMainnetProviderPositionSnapshot
    (readChainAssessment : Value → Option MainnetProviderPositionChainAssessment)
    (verify : Value → MainnetProviderPositionChainAssessmentVerificationContext → Bool)
    (v : Value) (evaluatedAtInput : Value) (policy : MainnetProviderPositionObservationPolicy)
    (chainAssessmentInput : Value) : Option MainnetProviderPositionSnapshot := do
  let evaluatedAt ← timestamp evaluatedAtInput
  let chainAssessment ← readChainAssessment chainAssessmentInput
  let record ← exactRecord v snapshotKeys
  guard (isPositionSnapshot record = true)
  let snapshotId ← readText isSafeSnapshotId (record.get "snapshotId")
  guard (isBound record policy chainAssessment = true)
  let capturedAt ← timestamp (record.get "capturedAt")
  let staleAfter ← timestamp (record.get "staleAfter")
  guard (¬evaluatedAt.text < capturedAt.text)
  let values ← exactArray (record.get "observations") 1 maxPositions
  guard (capturedAt.text < staleAfter.text)
  let observations ← values.mapM (parseObservation { snapshotId, policy, chainAssessment
                                                     verify := verify chainAssessmentInput
                                                     capturedAt, evaluatedAt })
  let policies ← observations.mapM fun o => mainnetPolicy o.asset.networkId
  guard (∀ chainPolicy ∈ policies,
    staleAfter.milliseconds - capturedAt.milliseconds ≤ chainPolicy.currentWithinMs)
  let effectiveStaleAfter := observations.foldl
    (fun deadline o => if o.staleAfter < deadline then o.staleAfter else deadline) staleAfter.text
  guard ((observations.map (·.observationId)).Nodup ∧ (observations.map positionKey).Nodup)
  guard (chainAssessment.entries.length = observations.length ∧
    ∀ entry ∈ chainAssessment.entries, entry.observationId ∈ observations.map (·.observationId))
  let freshnessClass ← freshness (record.get "freshnessClass") effectiveStaleAfter evaluatedAt.text
  return {
    snapshotId
    observationPolicyVersion := policy.policyVersion
    observationPolicyId := policy.policyId
    observationPolicyFingerprintSha256 := policy.fingerprintSha256
    assetRegistryVersion := mainnetSupportedAssetRegistry.version
    assetRegistryFingerprintSha256 := mainnetSupportedAssetRegistry.fingerprintSha256
    capturedAt := capturedAt.text
    staleAfter := effectiveStaleAfter
    freshnessClass
    observations := sortBy (fun left right => compareCanonical (positionKey left)
      (positionKey right)) observations }

/-- Positions as an accepted snapshot has them: not too many, each with its own identifier and its
own place. -/
structure AcceptedPositions (observations : List MainnetProviderPositionObservation) : Prop where
  length_le : observations.length ≤ maxPositions
  ids_nodup : (observations.map (·.observationId)).Nodup
  positions_nodup : (observations.map positionKey).Nodup

theorem acceptedPositions_nil : AcceptedPositions [] :=
  ⟨Nat.zero_le _, List.nodup_nil, List.nodup_nil⟩

theorem AcceptedPositions.perm {observations sorted : List MainnetProviderPositionObservation}
    (h : AcceptedPositions observations) (hperm : sorted.Perm observations) :
    AcceptedPositions sorted where
  length_le := hperm.length_eq ▸ h.length_le
  ids_nodup := (hperm.map _).nodup_iff.mpr h.ids_nodup
  positions_nodup := (hperm.map _).nodup_iff.mpr h.positions_nodup

theorem parseMainnetProviderPositionSnapshot_accepted
    {readChainAssessment : Value → Option MainnetProviderPositionChainAssessment}
    {verify : Value → MainnetProviderPositionChainAssessmentVerificationContext → Bool}
    {v evaluatedAtInput chainAssessmentInput : Value}
    {policy : MainnetProviderPositionObservationPolicy} {snapshot : MainnetProviderPositionSnapshot}
    (h : parseMainnetProviderPositionSnapshot readChainAssessment verify v evaluatedAtInput policy
      chainAssessmentInput = some snapshot) : AcceptedPositions snapshot.observations := by
  simp only [parseMainnetProviderPositionSnapshot, Option.bind_eq_bind, Option.bind_eq_some_iff,
    Option.pure_def, Option.some.injEq] at h
  obtain ⟨_, _, _, _, _, _, _, _, _, _, _, _, _, _, _, _, _, _, values, hvalues, _, _, observations,
    hobservations, _, _, _, _, _, hdistinct, _, _, _, _, rfl⟩ := h
  have hlength := (exactArray_eq_some.mp hvalues).2.2
  rw [← ListOption.length_mapM hobservations] at hlength
  obtain ⟨hids, hpositions⟩ := (Option.guard_eq_some' _).mp hdistinct
  exact AcceptedPositions.perm ⟨hlength, hids, hpositions⟩ (sortBy_perm _ _)

end Snapshots

end CryptoLending.Portfolio.ProviderPosition
