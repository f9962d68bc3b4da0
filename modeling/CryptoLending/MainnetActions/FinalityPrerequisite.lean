import CryptoLending.Lib.JsReading
import CryptoLending.MainnetActions.Lifecycle
import CryptoLending.MainnetPlatforms.DeadlineRunner

namespace CryptoLending.MainnetActions.FinalityPrerequisite

open Lib Lib.Text Lib.Identifier Lib.JsValue Lib.JsReading Lib.IsoDate Blockchain.LaunchNetwork
  Blockchain.AssetRegistry Wallets.Base58 Wallets.WalletIdentity Intent LifecycleData
open Lifecycle (canonicalUint64 evmHash isNonemptyBase58)
open MainnetPlatforms.DeadlineRunner (isToken isLowerAlphanumeric)

inductive FailureCode where
  | invalidConfiguration
  | invalidRequest
  | prerequisiteUnavailable
  | sourceUnavailable
  | sourceAttestationInvalid
  | sourceDisagreement
  | staleEvidence
  deriving DecidableEq

/-- What an object of the outside is known by. -/
abbrev Reference := Nat

/-- An object of the outside: its contents, and the abort signal in its field of that name. -/
structure Handed where
  contents : Value
  signal : Option Reference

inductive EvidencePurpose where
  | reconciliationAdmission
  | postFinalityReview
  deriving DecidableEq

def EvidencePurpose.text : EvidencePurpose → String
  | .reconciliationAdmission => "RECONCILIATION_ADMISSION"
  | .postFinalityReview => "POST_FINALITY_REVIEW"

section Readers

variable (code : FailureCode)

/-- The bytes of a base 58 text: a zero for each leading `1`, and those of its number. -/
def decodeBase58 (cs : List Char) : Option (List Nat) := do
  guard (isNonemptyBase58 cs = true)
  let number ← cs.foldlM (fun n c => (base58Alphabet.idxOf? c).map (n * 58 + ·)) 0
  return List.replicate (cs.takeWhile (· == '1')).length 0 ++ (Nat.digits 256 number).reverse

def isCanonicalBase58 (expectedBytes : Nat) (cs : List Char) : Bool :=
  (decodeBase58 cs).any fun decoded =>
    decoded.length == expectedBytes && !decoded.all (· == 0)

def canonicalBase58 (value : Value) (expectedBytes : Nat) : Except FailureCode String :=
  textOf (isCanonicalBase58 expectedBytes) value code

inductive ChainIdentityKind where
  | transaction
  | block

def ChainIdentityKind.bytes : ChainIdentityKind → Nat
  | .transaction => 64
  | .block => 32

def chainIdentity (networkId : MainnetLaunchNetworkId) (value : Value) (kind : ChainIdentityKind) :
    Except FailureCode String :=
  match networkId with
  | .eip155 => evmHash value code
  | .solana => canonicalBase58 code value kind.bytes

inductive ChainAnchor where
  | evmBlock (blockNumber : Uint64Text) (blockHash : String)
  | solanaSlot (slot root : Uint64Text)
  deriving DecidableEq

def anchor (value : Value) (networkId : MainnetLaunchNetworkId) : Except FailureCode ChainAnchor :=
  match networkId with
  | .eip155 => do
    let record ← orFail (exactDataRecord value ["kind", "blockNumber", "blockHash"]) code
    failWhen (!(record.get "kind").isText "EVM_BLOCK") code
    let blockNumber ← canonicalUint64 (record.get "blockNumber") code
    let blockHash ← chainIdentity code networkId (record.get "blockHash") .block
    return .evmBlock blockNumber blockHash
  | .solana => do
    let record ← orFail (exactDataRecord value ["kind", "slot", "root"]) code
    failWhen (!(record.get "kind").isText "SOLANA_SLOT") code
    let slot ← canonicalUint64 (record.get "slot") code
    let root ← canonicalUint64 (record.get "root") code
    failWhen (slot.value < root.value) code
    return .solanaSlot slot root

def maxInt64 : Nat := 2 ^ 63 - 1

def positiveInt64 (value : Value) : Except FailureCode Uint64Text := do
  let parsed ← canonicalUint64 value code
  failWhen (parsed.value < 1 ∨ maxInt64 < parsed.value) code
  return parsed

inductive SourceKind where
  | rpc
  | indexer
  | providerApi
  deriving DecidableEq

def SourceKind.text : SourceKind → String
  | .rpc => "RPC"
  | .indexer => "INDEXER"
  | .providerApi => "PROVIDER_API"

def sourceKinds : List SourceKind := [.rpc, .indexer, .providerApi]

structure SourceIdentity where
  sourceFamilyId : String
  sourceId : String
  sourceKind : SourceKind
  deriving DecidableEq

def isSourceIdCharacter (c : Char) : Bool :=
  isLowerAlphanumeric c || ['.', '_', ':', '-'].contains c

def isSourceId : List Char → Bool := isToken isLowerAlphanumeric isSourceIdCharacter 128

def isApprovalId (cs : List Char) : Bool := isSourceId cs && decide (3 ≤ cs.length)

def sourceIdentity (family source kind : Value) : Except FailureCode SourceIdentity := do
  let sourceFamilyId ← textOf isSourceId family code
  let sourceId ← textOf isSourceId source code
  let sourceKind ← orFail (sourceKinds.find? fun k => kind.isText k.text) code
  return ⟨sourceFamilyId, sourceId, sourceKind⟩

def market (networkId : MainnetLaunchNetworkId) (value : Value) : Except FailureCode String :=
  match networkId with
  | .eip155 => textOf (isHexQuantity isLowerHex [40, 64]) value code
  | .solana => canonicalBase58 code value 32

def walletAddress (isAddress : String → Bool) (networkId : MainnetLaunchNetworkId)
    (value : Value) : Except FailureCode String :=
  (parseWalletAddress isAddress (.string networkId.text) value).mapError fun _ => code

/-- Only these two actions can be admitted durably. -/
def action (value : Value) : Except FailureCode MainnetFinancialAction :=
  orFail ([MainnetFinancialAction.supply, .withdraw].find? fun a => value.isText a.text) code

def isAtomicAmount (cs : List Char) : Bool :=
  isCanonicalUint cs && decide (cs.length ≤ 78) && decide (1 ≤ decimalValue cs) &&
    decide (decimalValue cs ≤ maxUint256)

def atomicAmount (value : Value) : Except FailureCode String := textOf isAtomicAmount value code

structure AssetFacts where
  assetRegistryVersion : Nat
  assetRegistryFingerprintSha256 : String
  assetSymbol : SupportedStablecoin
  assetIdentity : String
  assetDecimals : Nat
  deriving DecidableEq

/-- The registry has a single version. -/
def assetBinding (networkId : MainnetLaunchNetworkId) (record : Record) :
    Except FailureCode AssetFacts := do
  let registry := mainnetSupportedAssetRegistry
  failWhen (!(record.get "assetRegistryVersion").isNumber registry.version) code
  failWhen (!(record.get "assetRegistryFingerprintSha256").isText registry.fingerprintSha256) code
  let identity ← orFail (record.get "assetIdentity").string? code
  let symbol ← orFail (record.get "assetSymbol").string? code
  let asset ← orFail (registry.identifyAsset networkId.text identity) code
  failWhen (asset.activationState ≠ .active ∨ asset.stablecoin.text ≠ symbol) code
  failWhen (!(record.get "assetDecimals").isNumber asset.decimals) code
  return ⟨registry.version, registry.fingerprintSha256, asset.stablecoin, asset.identity,
    asset.decimals⟩

def provider (networkId : MainnetLaunchNetworkId) (record : Record) :
    Except FailureCode MainnetFinancialActionProviderCandidate :=
  orFail (mainnetFinancialActionProviderCandidates.find? fun candidate =>
    candidate.networkId == networkId && (record.get "providerId").isText candidate.providerId.text &&
      (record.get "protocolId").isText candidate.protocolId.text) code

end Readers

/-- What a prerequisite, the requests made from it and the attestations for them have in common. -/
structure SharedFacts where
  networkId : MainnetLaunchNetworkId
  accountId : String
  intentId : String
  intentRecordFingerprintSha256 : String
  walletRegistrationId : String
  walletAddress : String
  lifecycleRevision : Uint64Text
  lifecycleSnapshotSha256 : String
  transactionId : String
  walletSignedPayloadSha256 : String
  walletSignatureEvidenceSha256 : String
  chainAnchorEvidenceFingerprintSha256 : String
  sourceAuthorityId : String
  sourceAuthorityFingerprintSha256 : String
  sourcePairApprovalId : String
  sourcePairRegistryFingerprintSha256 : String
  deploymentAuthorityId : String
  deploymentAuthorityFingerprintSha256 : String
  providerId : MainnetFinancialActionProviderId
  protocolId : MainnetFinancialActionProtocolId
  marketId : String
  assets : AssetFacts
  action : MainnetFinancialAction
  amountAtomic : String
  correlationId : String
  deriving DecidableEq

/-- The block or slot of the transaction, and the head that was finalized with it. -/
structure ChainFacts where
  chainAnchor : ChainAnchor
  agreedFinalizedHead : ChainAnchor
  deriving DecidableEq

def chainFacts (code : FailureCode) (networkId : MainnetLaunchNetworkId) (record : Record) :
    Except FailureCode ChainFacts := do
  let chainAnchor ← anchor code (record.get "chainAnchor") networkId
  let agreedFinalizedHead ← anchor code (record.get "agreedFinalizedHead") networkId
  return ⟨chainAnchor, agreedFinalizedHead⟩

inductive SourceRole where
  | primary
  | corroborating
  deriving DecidableEq

def SourceRole.text : SourceRole → String
  | .primary => "PRIMARY"
  | .corroborating => "CORROBORATING"

/-- What a prerequisite expects of the source in one role. -/
structure ExpectedSource where
  identity : SourceIdentity
  deploymentManifestFingerprintSha256 : String
  observedIdentityFingerprintSha256 : String
  deriving DecidableEq

inductive EffectiveSafetyState where
  | authenticatedFinalityRecorded
  | postFinalityReviewInconclusive
  | deepReorgQuarantined
  deriving DecidableEq

def EffectiveSafetyState.text : EffectiveSafetyState → String
  | .authenticatedFinalityRecorded => "AUTHENTICATED_FINALITY_RECORDED"
  | .postFinalityReviewInconclusive => "POST_FINALITY_REVIEW_INCONCLUSIVE"
  | .deepReorgQuarantined => "DEEP_REORG_QUARANTINED"

def effectiveSafetyStates : List EffectiveSafetyState :=
  [.authenticatedFinalityRecorded, .postFinalityReviewInconclusive, .deepReorgQuarantined]

/-- The review that is asked for, and the terminal event it is about. -/
structure PostFinalitySubject where
  reviewId : String
  terminalTransitionFingerprintSha256 : String
  originalAdmissionFingerprintSha256 : String
  terminalTransactionPosition : Uint64Text
  terminalTransactionBlockId : String
  expectedReviewRevision : Uint64Text
  expectedPreviousReviewFingerprintSha256 : Option String
  effectiveSafetyState : EffectiveSafetyState

/-- What evidence is wanted for. -/
inductive Subject where
  | reconciliation (observationId : String)
  | postFinality (subject : PostFinalitySubject)

def Subject.purpose : Subject → EvidencePurpose
  | .reconciliation _ => .reconciliationAdmission
  | .postFinality _ => .postFinalityReview

/-- What a prerequisite says, apart from where the chain is. -/
structure PrerequisiteTerms where
  facts : SharedFacts
  primary : ExpectedSource
  corroborating : ExpectedSource
  chainAnchorEvidenceExpiresAt : Timestamp
  sourceAuthorityExpiresAt : Timestamp
  deploymentAuthorityExpiresAt : Timestamp
  verifiedAt : Timestamp
  deadlineAt : Timestamp
  deriving DecidableEq

def PrerequisiteTerms.expected (p : PrerequisiteTerms) : SourceRole → ExpectedSource
  | .primary => p.primary
  | .corroborating => p.corroborating

structure CommonPrerequisite extends PrerequisiteTerms where
  capability : Reference
  chain : ChainFacts
  signal : Reference

/-- A reviewed prerequisite. -/
structure Prerequisite extends CommonPrerequisite where
  lifecycleStage : LifecycleStage
  subject : Subject

def commonPrerequisiteKeys : List String :=
  ["prerequisiteVersion", "use", "purpose", "mayAuthorizeFinancialAction", "mayPersist",
    "accountId", "intentId", "intentRecordFingerprintSha256", "walletRegistrationId",
    "walletAddress", "networkId", "lifecycleRevision", "lifecycleSnapshotSha256",
    "lifecycleStage", "transactionId", "walletSignedPayloadSha256",
    "walletSignatureEvidenceSha256", "chainAnchorEvidenceFingerprintSha256", "chainAnchor",
    "agreedFinalizedHead", "chainAnchorEvidenceExpiresAt", "sourceAuthorityId",
    "sourceAuthorityFingerprintSha256", "sourceAuthorityExpiresAt", "sourcePairApprovalId",
    "sourcePairRegistryFingerprintSha256", "primarySourceFamilyId", "primarySourceId",
    "primarySourceKind", "corroboratingSourceFamilyId", "corroboratingSourceId",
    "corroboratingSourceKind", "deploymentAuthorityId", "deploymentAuthorityFingerprintSha256",
    "deploymentAuthorityExpiresAt", "primaryDeploymentManifestFingerprintSha256",
    "primaryObservedIdentityFingerprintSha256",
    "corroboratingDeploymentManifestFingerprintSha256",
    "corroboratingObservedIdentityFingerprintSha256", "providerId", "protocolId", "marketId",
    "assetRegistryVersion", "assetRegistryFingerprintSha256", "assetSymbol", "assetIdentity",
    "assetDecimals", "action", "amountAtomic", "correlationId", "verifiedAt", "deadlineAt",
    "signal"]

def reconciliationPrerequisiteKeys : List String := commonPrerequisiteKeys ++ ["observationId"]

def postFinalityPrerequisiteKeys : List String :=
  commonPrerequisiteKeys ++
    ["terminalTransitionFingerprintSha256", "originalAdmissionFingerprintSha256",
      "terminalTransactionPosition", "terminalTransactionBlockId", "expectedReviewRevision",
      "expectedPreviousReviewFingerprintSha256", "effectiveSafetyState", "reviewId"]

def EvidencePurpose.prerequisiteUse : EvidencePurpose → String
  | .reconciliationAdmission =>
    "AUTHENTICATED_MAINNET_FINANCIAL_ACTION_RECONCILIATION_PREREQUISITE_ONLY"
  | .postFinalityReview =>
    "AUTHENTICATED_MAINNET_FINANCIAL_ACTION_POST_FINALITY_PREREQUISITE_ONLY"

def EvidencePurpose.minimumLifecycleRevision : EvidencePurpose → Nat
  | .reconciliationAdmission => 2
  | .postFinalityReview => 3

/-- How the fields about a role begin. -/
def SourceRole.field : SourceRole → String → String
  | .primary, name => "primary" ++ name
  | .corroborating, name => "corroborating" ++ name

section Prerequisites

variable (isAddress : String → Bool) (record : Record)

def sharedFacts : Except FailureCode SharedFacts := do
  let code := FailureCode.prerequisiteUnavailable
  let networkId ← orFail ((record.get "networkId").string?.bind ofText) code
  let accountId ← uuid (record.get "accountId") code
  let intentId ← uuid (record.get "intentId") code
  let intentRecordFingerprintSha256 ← digest (record.get "intentRecordFingerprintSha256") code
  let walletRegistrationId ← uuid (record.get "walletRegistrationId") code
  let walletAddress ← walletAddress code isAddress networkId (record.get "walletAddress")
  let lifecycleRevision ← positiveInt64 code (record.get "lifecycleRevision")
  let lifecycleSnapshotSha256 ← digest (record.get "lifecycleSnapshotSha256") code
  let transactionId ← chainIdentity code networkId (record.get "transactionId") .transaction
  let walletSignedPayloadSha256 ← digest (record.get "walletSignedPayloadSha256") code
  let walletSignatureEvidenceSha256 ← digest (record.get "walletSignatureEvidenceSha256") code
  let chainAnchorEvidenceFingerprintSha256 ←
    digest (record.get "chainAnchorEvidenceFingerprintSha256") code
  let sourceAuthorityId ← uuid (record.get "sourceAuthorityId") code
  let sourceAuthorityFingerprintSha256 ←
    digest (record.get "sourceAuthorityFingerprintSha256") code
  let sourcePairApprovalId ← textOf isApprovalId (record.get "sourcePairApprovalId") code
  let sourcePairRegistryFingerprintSha256 ←
    digest (record.get "sourcePairRegistryFingerprintSha256") code
  let deploymentAuthorityId ← uuid (record.get "deploymentAuthorityId") code
  let deploymentAuthorityFingerprintSha256 ←
    digest (record.get "deploymentAuthorityFingerprintSha256") code
  let provider ← provider code networkId record
  let marketId ← market code networkId (record.get "marketId")
  let assets ← assetBinding code networkId record
  let action ← action code (record.get "action")
  let amountAtomic ← atomicAmount code (record.get "amountAtomic")
  let correlationId ← uuid (record.get "correlationId") code
  return {
    networkId, accountId, intentId, intentRecordFingerprintSha256, walletRegistrationId,
    walletAddress, lifecycleRevision, lifecycleSnapshotSha256, transactionId,
    walletSignedPayloadSha256, walletSignatureEvidenceSha256,
    chainAnchorEvidenceFingerprintSha256, sourceAuthorityId, sourceAuthorityFingerprintSha256,
    sourcePairApprovalId, sourcePairRegistryFingerprintSha256, deploymentAuthorityId,
    deploymentAuthorityFingerprintSha256, marketId, assets, action, amountAtomic, correlationId
    providerId := provider.providerId
    protocolId := provider.protocolId }

def expectedSource (role : SourceRole) : Except FailureCode ExpectedSource := do
  let code := FailureCode.prerequisiteUnavailable
  let identity ← sourceIdentity code (record.get (role.field "SourceFamilyId"))
    (record.get (role.field "SourceId")) (record.get (role.field "SourceKind"))
  let manifest ← digest (record.get (role.field "DeploymentManifestFingerprintSha256")) code
  let observed ← digest (record.get (role.field "ObservedIdentityFingerprintSha256")) code
  return ⟨identity, manifest, observed⟩

def prerequisiteTerms (purpose : EvidencePurpose) : Except FailureCode PrerequisiteTerms := do
  let code := FailureCode.prerequisiteUnavailable
  let facts ← sharedFacts isAddress record
  failWhen (facts.lifecycleRevision.value < purpose.minimumLifecycleRevision) code
  let primary ← expectedSource record .primary
  let corroborating ← expectedSource record .corroborating
  failWhen (!(record.get "prerequisiteVersion").isNumber 1 ||
    !(record.get "use").isText purpose.prerequisiteUse ||
    !(record.get "purpose").isText purpose.text ||
    !isFalse (record.get "mayAuthorizeFinancialAction") || !isFalse (record.get "mayPersist")) code
  failWhen (primary.identity.sourceFamilyId = corroborating.identity.sourceFamilyId ∨
    primary.identity.sourceId = corroborating.identity.sourceId) code
  failWhen (¬[primary.deploymentManifestFingerprintSha256,
    primary.observedIdentityFingerprintSha256,
    corroborating.deploymentManifestFingerprintSha256,
    corroborating.observedIdentityFingerprintSha256].Nodup) code
  let chainAnchorEvidenceExpiresAt ←
    canonicalTime (record.get "chainAnchorEvidenceExpiresAt") code
  let sourceAuthorityExpiresAt ← canonicalTime (record.get "sourceAuthorityExpiresAt") code
  let deploymentAuthorityExpiresAt ←
    canonicalTime (record.get "deploymentAuthorityExpiresAt") code
  let verifiedAt ← canonicalTime (record.get "verifiedAt") code
  let deadlineAt ← canonicalTime (record.get "deadlineAt") code
  return ⟨facts, primary, corroborating, chainAnchorEvidenceExpiresAt, sourceAuthorityExpiresAt,
    deploymentAuthorityExpiresAt, verifiedAt, deadlineAt⟩

def commonPrerequisite (capability : Reference) (signal : Option Reference)
    (purpose : EvidencePurpose) : Except FailureCode CommonPrerequisite := do
  let terms ← prerequisiteTerms isAddress record purpose
  let chain ← chainFacts .prerequisiteUnavailable terms.facts.networkId record
  -- A field that holds no abort signal is reported as an invalid request.
  let signal ← orFail signal .invalidRequest
  return { terms with capability, chain, signal }

def stageOf (stages : List LifecycleStage) : Except FailureCode LifecycleStage :=
  orFail (stages.find? fun stage => (record.get "lifecycleStage").isText stage.text)
    .prerequisiteUnavailable

def reconciliationPrerequisite (capability : Reference) (value : Handed) :
    Except FailureCode Prerequisite := do
  let code := FailureCode.prerequisiteUnavailable
  let record ← orFail (exactDataRecord value.contents reconciliationPrerequisiteKeys) code
  let common ←
    commonPrerequisite isAddress record capability value.signal .reconciliationAdmission
  let lifecycleStage ← stageOf record
    [.walletSignedSubmissionBound, .broadcastOutcomeAmbiguous, .reconciliationAmbiguous]
  failWhen (lifecycleStage = .walletSignedSubmissionBound ∧
      common.facts.lifecycleRevision.text ≠ "2" ∨
    lifecycleStage = .broadcastOutcomeAmbiguous ∧ common.facts.lifecycleRevision.text ≠ "3") code
  let observationId ← uuid (record.get "observationId") code
  return { common with lifecycleStage, subject := .reconciliation observationId }

def postFinalitySubject (networkId : MainnetLaunchNetworkId) :
    Except FailureCode PostFinalitySubject := do
  let code := FailureCode.prerequisiteUnavailable
  let expectedReviewRevision ← canonicalUint64 (record.get "expectedReviewRevision") code
  failWhen (maxInt64 < expectedReviewRevision.value) code
  let expectedPreviousReviewFingerprintSha256 ←
    Lifecycle.nullable digest (record.get "expectedPreviousReviewFingerprintSha256") code
  failWhen ((expectedReviewRevision.text == "0") !=
    expectedPreviousReviewFingerprintSha256.isNone) code
  let effectiveSafetyState ← orFail (effectiveSafetyStates.find? fun state =>
    (record.get "effectiveSafetyState").isText state.text) code
  let reviewId ← uuid (record.get "reviewId") code
  let terminalTransitionFingerprintSha256 ←
    digest (record.get "terminalTransitionFingerprintSha256") code
  let originalAdmissionFingerprintSha256 ←
    digest (record.get "originalAdmissionFingerprintSha256") code
  let terminalTransactionPosition ←
    canonicalUint64 (record.get "terminalTransactionPosition") code
  let terminalTransactionBlockId ←
    chainIdentity code networkId (record.get "terminalTransactionBlockId") .block
  return ⟨reviewId, terminalTransitionFingerprintSha256, originalAdmissionFingerprintSha256,
    terminalTransactionPosition, terminalTransactionBlockId, expectedReviewRevision,
    expectedPreviousReviewFingerprintSha256, effectiveSafetyState⟩

def postFinalityPrerequisite (capability : Reference) (value : Handed) :
    Except FailureCode Prerequisite := do
  let record ← orFail (exactDataRecord value.contents postFinalityPrerequisiteKeys)
    .prerequisiteUnavailable
  let common ← commonPrerequisite isAddress record capability value.signal .postFinalityReview
  let lifecycleStage ← stageOf record [.finalizedSuccess, .finalizedFailure]
  let subject ← postFinalitySubject record common.facts.networkId
  return { common with lifecycleStage, subject := .postFinality subject }

/-- Read the prerequisite of a purpose. -/
def reviewedPrerequisite (purpose : EvidencePurpose) (capability : Reference) (value : Handed) :
    Except FailureCode Prerequisite :=
  match purpose with
  | .reconciliationAdmission => reconciliationPrerequisite isAddress capability value
  | .postFinalityReview => postFinalityPrerequisite isAddress capability value

end Prerequisites

end CryptoLending.MainnetActions.FinalityPrerequisite
