import CryptoLending.MainnetActions.FinalityPrerequisite

namespace CryptoLending.MainnetActions.FinalityAttestation

open Lib Lib.Text Lib.Identifier Lib.JsValue Lib.JsReading Lib.IsoDate Blockchain.LaunchNetwork
  Blockchain.AssetRegistry Intent LifecycleData FinalityPrerequisite
open Lifecycle (canonicalUint64 nullable reconciliationOutcomes)

/-- A source that was configured for a role, and the object that answers for it. -/
structure SourceBinding where
  networkId : MainnetLaunchNetworkId
  sourceAuthorityId : String
  sourceAuthorityFingerprintSha256 : String
  role : SourceRole
  identity : SourceIdentity
  receiver : Reference

def bindingFor (bindings : List SourceBinding) (p : Prerequisite) (role : SourceRole) :
    Except FailureCode SourceBinding :=
  orFail (bindings.find? fun b => b.networkId == p.facts.networkId &&
    b.sourceAuthorityId == p.facts.sourceAuthorityId &&
    b.sourceAuthorityFingerprintSha256 == p.facts.sourceAuthorityFingerprintSha256 &&
    b.role == role && b.identity == (p.expected role).identity) .prerequisiteUnavailable

/-- The request for one source. The text of its evaluation time is determined by the number. -/
structure SourceRequest where
  facts : SharedFacts
  chain : ChainFacts
  source : SourceIdentity
  sourceRole : SourceRole
  deploymentManifestFingerprintSha256 : String
  observedDeploymentIdentityFingerprintSha256 : String
  evaluatedAt : Int
  deadlineAt : String
  signal : Reference
  subject : Subject

def sourceRequest (binding : SourceBinding) (p : Prerequisite) (evaluatedAt : Int) :
    SourceRequest where
  facts := p.facts
  chain := p.chain
  source := binding.identity
  sourceRole := binding.role
  deploymentManifestFingerprintSha256 := (p.expected binding.role).deploymentManifestFingerprintSha256
  observedDeploymentIdentityFingerprintSha256 :=
    (p.expected binding.role).observedIdentityFingerprintSha256
  evaluatedAt
  deadlineAt := p.deadlineAt.text
  signal := p.signal
  subject := p.subject

/-- An object that a source returned. -/
structure Capability where
  reference : Reference
  contents : Value

def attestationCommonKeys : List String :=
  ["sourceVersion", "use", "purpose", "mayAuthorizeFinancialAction", "mayPersist", "networkId",
    "accountId", "intentId", "intentRecordFingerprintSha256", "walletRegistrationId",
    "walletAddress", "lifecycleRevision", "lifecycleSnapshotSha256", "transactionId",
    "walletSignedPayloadSha256", "walletSignatureEvidenceSha256",
    "chainAnchorEvidenceFingerprintSha256", "chainAnchor", "agreedFinalizedHead",
    "sourceAuthorityId", "sourceAuthorityFingerprintSha256", "sourcePairApprovalId",
    "sourcePairRegistryFingerprintSha256", "sourceFamilyId", "sourceId", "sourceKind",
    "sourceRole", "deploymentAuthorityId", "deploymentAuthorityFingerprintSha256",
    "deploymentManifestFingerprintSha256", "observedDeploymentIdentityFingerprintSha256",
    "providerId", "protocolId", "marketId", "assetRegistryVersion",
    "assetRegistryFingerprintSha256", "assetSymbol", "assetIdentity", "assetDecimals", "action",
    "amountAtomic", "correlationId", "transactionPosition", "transactionBlockId",
    "finalizedPosition", "finalizedBlockId", "transactionEvidenceSha256", "observedAt",
    "assessedAt", "attestationSha256"]

def reconciliationAttestationKeys : List String :=
  attestationCommonKeys ++
    ["observationId", "outcome", "effectEvidenceSha256", "failureEvidenceSha256"]

def postFinalityAttestationKeys : List String :=
  attestationCommonKeys ++
    ["reviewId", "terminalTransitionFingerprintSha256", "originalAdmissionFingerprintSha256",
      "terminalTransactionPosition", "terminalTransactionBlockId", "expectedReviewRevision",
      "expectedPreviousReviewFingerprintSha256", "effectiveSafetyState", "disposition",
      "lineageStatus"]

inductive PostFinalityDisposition where
  | finalityReaffirmed
  | reviewInconclusive
  | deepReorgQuarantined
  deriving DecidableEq

def PostFinalityDisposition.text : PostFinalityDisposition → String
  | .finalityReaffirmed => "FINALITY_REAFFIRMED"
  | .reviewInconclusive => "REVIEW_INCONCLUSIVE"
  | .deepReorgQuarantined => "DEEP_REORG_QUARANTINED"

def postFinalityDispositions : List PostFinalityDisposition :=
  [.finalityReaffirmed, .reviewInconclusive, .deepReorgQuarantined]

inductive LineageStatus where
  | canonical
  | unknown
  | conflict
  deriving DecidableEq

def LineageStatus.text : LineageStatus → String
  | .canonical => "CANONICAL"
  | .unknown => "UNKNOWN"
  | .conflict => "CONFLICT"

def lineageStatuses : List LineageStatus := [.canonical, .unknown, .conflict]

def matchingDisposition : PostFinalityDisposition → LineageStatus → Bool
  | .finalityReaffirmed, .canonical => true
  | .reviewInconclusive, .unknown => true
  | .deepReorgQuarantined, .conflict => true
  | _, _ => false

/-- What a source says about the subject. -/
inductive Finding where
  | reconciliation (outcome : ReconciliationOutcome)
      (effectEvidenceSha256 failureEvidenceSha256 : Option String)
  | postFinality (disposition : PostFinalityDisposition) (lineageStatus : LineageStatus)

structure CommonAttestation where
  capability : Reference
  observedAt : Timestamp
  assessedAt : Timestamp
  deploymentAuthorityId : String
  deploymentAuthorityFingerprintSha256 : String
  providerId : MainnetFinancialActionProviderId
  protocolId : MainnetFinancialActionProtocolId
  marketId : String
  transaction : Option ChainPointer
  finalized : ChainPointer
  transactionEvidenceSha256 : String
  attestationSha256 : String

/-- A reviewed attestation. -/
structure Attestation extends CommonAttestation where
  finding : Finding

section Reading

variable (isAddress : String → Bool) (record : Record)

/-- The shared facts of an attestation are those of the prerequisite. -/
def matchesFacts (facts : SharedFacts) : Bool :=
  let code := FailureCode.sourceAttestationInvalid
  let text := fun key (value : String) => (record.get key).isText value
  text "networkId" facts.networkId.text && text "accountId" facts.accountId &&
    text "intentId" facts.intentId &&
    text "intentRecordFingerprintSha256" facts.intentRecordFingerprintSha256 &&
    text "walletRegistrationId" facts.walletRegistrationId &&
    (walletAddress code isAddress facts.networkId (record.get "walletAddress")).toOption ==
      some facts.walletAddress &&
    text "lifecycleRevision" facts.lifecycleRevision.text &&
    text "lifecycleSnapshotSha256" facts.lifecycleSnapshotSha256 &&
    text "transactionId" facts.transactionId &&
    text "walletSignedPayloadSha256" facts.walletSignedPayloadSha256 &&
    text "walletSignatureEvidenceSha256" facts.walletSignatureEvidenceSha256 &&
    text "chainAnchorEvidenceFingerprintSha256" facts.chainAnchorEvidenceFingerprintSha256 &&
    text "sourceAuthorityId" facts.sourceAuthorityId &&
    text "sourceAuthorityFingerprintSha256" facts.sourceAuthorityFingerprintSha256 &&
    text "sourcePairApprovalId" facts.sourcePairApprovalId &&
    text "sourcePairRegistryFingerprintSha256" facts.sourcePairRegistryFingerprintSha256 &&
    text "deploymentAuthorityId" facts.deploymentAuthorityId &&
    text "deploymentAuthorityFingerprintSha256" facts.deploymentAuthorityFingerprintSha256 &&
    (provider code facts.networkId record).toOption.any (fun candidate =>
      candidate.providerId == facts.providerId && candidate.protocolId == facts.protocolId) &&
    (market code facts.networkId (record.get "marketId")).toOption == some facts.marketId &&
    (assetBinding code facts.networkId record).toOption == some facts.assets &&
    (action code (record.get "action")).toOption == some facts.action &&
    (atomicAmount code (record.get "amountAtomic")).toOption == some facts.amountAtomic &&
    text "correlationId" facts.correlationId

/-- The source of an attestation is the configured one, with the proofs of its role. -/
def matchesSource (binding : SourceBinding) (expected : ExpectedSource) : Bool :=
  let text := fun key (value : String) => (record.get key).isText value
  text "sourceFamilyId" binding.identity.sourceFamilyId &&
    text "sourceId" binding.identity.sourceId &&
    text "sourceKind" binding.identity.sourceKind.text && text "sourceRole" binding.role.text &&
    text "deploymentManifestFingerprintSha256" expected.deploymentManifestFingerprintSha256 &&
    text "observedDeploymentIdentityFingerprintSha256" expected.observedIdentityFingerprintSha256

/-- The position and the block of a transaction are both there or both null. -/
def transactionPointer (position : Option Uint64Text) (blockId : Option String)
    (code : FailureCode) : Except FailureCode (Option ChainPointer) :=
  match position, blockId with
  | some position, some blockId => .ok (some ⟨position, blockId⟩)
  | none, none => .ok none
  | _, _ => .error code

def commonAttestation (capability : Reference) (binding : SourceBinding) (p : Prerequisite)
    (evaluatedAt completedAt : Int) : Except FailureCode CommonAttestation := do
  let code := FailureCode.sourceAttestationInvalid
  let networkId := p.facts.networkId
  let transactionPosition ← nullable canonicalUint64 (record.get "transactionPosition") code
  let transactionBlockId ← nullable (fun value code => chainIdentity code networkId value .block)
    (record.get "transactionBlockId") code
  let observedAt ← canonicalTime (record.get "observedAt") code
  let assessedAt ← canonicalTime (record.get "assessedAt") code
  failWhen (!(record.get "sourceVersion").isNumber 1 || !(record.get "use").isText
      "DORMANT_MAINNET_FINANCIAL_ACTION_FINALITY_EVIDENCE_SOURCE_ATTESTATION_ONLY" ||
    !(record.get "purpose").isText p.subject.purpose.text ||
    !isFalse (record.get "mayAuthorizeFinancialAction") || !isFalse (record.get "mayPersist")) code
  failWhen (!matchesFacts isAddress record p.facts) code
  failWhen ((chainFacts code networkId record).toOption ≠ some p.chain) code
  failWhen (!matchesSource record binding (p.expected binding.role)) code
  let transaction ← transactionPointer transactionPosition transactionBlockId code
  failWhen (observedAt.milliseconds < evaluatedAt ∨
    assessedAt.milliseconds < observedAt.milliseconds ∨ completedAt < assessedAt.milliseconds) code
  let finalizedPosition ← canonicalUint64 (record.get "finalizedPosition") code
  let finalizedBlockId ← chainIdentity code networkId (record.get "finalizedBlockId") .block
  let transactionEvidenceSha256 ← digest (record.get "transactionEvidenceSha256") code
  let attestationSha256 ← digest (record.get "attestationSha256") code
  return {
    capability, observedAt, assessedAt, transaction, transactionEvidenceSha256, attestationSha256
    deploymentAuthorityId := p.facts.deploymentAuthorityId
    deploymentAuthorityFingerprintSha256 := p.facts.deploymentAuthorityFingerprintSha256
    providerId := p.facts.providerId
    protocolId := p.facts.protocolId
    marketId := p.facts.marketId
    finalized := ⟨finalizedPosition, finalizedBlockId⟩ }

end Reading

def isFinalizedOutcome (outcome : ReconciliationOutcome) : Bool :=
  outcome == .finalizedSuccess || outcome == .finalizedFailure || outcome == .reorgedOut

/-- The positions and the evidence do not fit the outcome. -/
def outcomeMismatch (networkId : MainnetLaunchNetworkId) (outcome : ReconciliationOutcome)
    (transaction : Option ChainPointer) (finalized : ChainPointer)
    (effect failure : Option String) : Bool :=
  outcome == .unknown && transaction.isSome ||
  outcome != .unknown && outcome != .pending && transaction.isNone ||
  outcome == .pending &&
    transaction.any (fun t => t.position.value ≤ finalized.position.value) ||
  isFinalizedOutcome outcome &&
    transaction.any (fun t => finalized.position.value < t.position.value) ||
  networkId == .eip155 && isFinalizedOutcome outcome &&
    transaction.any (fun t => finalized.position == t.position && finalized.blockId != t.blockId) ||
  outcome == .finalizedSuccess && (effect.isNone || failure.isSome) ||
  outcome == .finalizedFailure && (failure.isNone || effect.isSome) ||
  (outcome == .pending || outcome == .unknown || outcome == .reorgedOut) &&
    (effect.isSome || failure.isSome)

/-- The facts are those of the anchor and of the finalized head. -/
def anchorFacts (p : Prerequisite) (transaction : Option ChainPointer) (finalized : ChainPointer)
    (bindTransaction : Bool) : Bool :=
  match p.facts.networkId, p.chain.chainAnchor, p.chain.agreedFinalizedHead with
  | .eip155, .evmBlock blockNumber blockHash, .evmBlock headNumber headHash =>
    (!bindTransaction || transaction == some ⟨blockNumber, blockHash⟩) &&
      finalized == ⟨headNumber, headHash⟩
  | .solana, .solanaSlot slot _, .solanaSlot _ headRoot =>
    (!bindTransaction || transaction.map (·.position) == some slot) &&
      finalized.position == headRoot
  | _, _, _ => false

section Attesting

variable (isAddress : String → Bool)

def reconciliationAttestation (capability : Capability) (binding : SourceBinding)
    (p : Prerequisite) (observationId : String) (evaluatedAt completedAt : Int) :
    Except FailureCode Attestation := do
  let code := FailureCode.sourceAttestationInvalid
  let record ← orFail (exactDataRecord capability.contents reconciliationAttestationKeys) code
  let common ← commonAttestation isAddress record capability.reference binding p evaluatedAt
    completedAt
  failWhen (!(record.get "observationId").isText observationId) code
  let outcome ← orFail
    (reconciliationOutcomes.find? fun o => (record.get "outcome").isText o.text) code
  let effect ← nullable digest (record.get "effectEvidenceSha256") code
  let failure ← nullable digest (record.get "failureEvidenceSha256") code
  failWhen (outcomeMismatch p.facts.networkId outcome common.transaction common.finalized effect
    failure) code
  failWhen (!anchorFacts p common.transaction common.finalized
    (outcome != .unknown && common.transaction.isSome)) code
  return { common with finding := .reconciliation outcome effect failure }

/-- A review is about a transaction at the terminal position, in the terminal block unless that
block was replaced. -/
def reviewMismatch (subject : PostFinalitySubject) (transaction : ChainPointer)
    (disposition : PostFinalityDisposition) (lineageStatus : LineageStatus) : Bool :=
  transaction.position != subject.terminalTransactionPosition ||
  !matchingDisposition disposition lineageStatus ||
  (if disposition = .deepReorgQuarantined then
    transaction.blockId == subject.terminalTransactionBlockId
  else transaction.blockId != subject.terminalTransactionBlockId) ||
  subject.effectiveSafetyState == .deepReorgQuarantined && disposition != .deepReorgQuarantined

def finalityMismatch (networkId : MainnetLaunchNetworkId) (disposition : PostFinalityDisposition)
    (transaction finalized : ChainPointer) : Bool :=
  (disposition == .finalityReaffirmed || disposition == .deepReorgQuarantined) &&
    (decide (finalized.position.value < transaction.position.value) ||
      networkId == .eip155 && finalized.position == transaction.position &&
        finalized.blockId != transaction.blockId)

def matchesSubject (record : Record) (subject : PostFinalitySubject) : Bool :=
  let text := fun key (value : String) => (record.get key).isText value
  text "reviewId" subject.reviewId &&
    text "terminalTransitionFingerprintSha256" subject.terminalTransitionFingerprintSha256 &&
    text "originalAdmissionFingerprintSha256" subject.originalAdmissionFingerprintSha256 &&
    text "terminalTransactionPosition" subject.terminalTransactionPosition.text &&
    text "terminalTransactionBlockId" subject.terminalTransactionBlockId &&
    text "expectedReviewRevision" subject.expectedReviewRevision.text &&
    (match subject.expectedPreviousReviewFingerprintSha256 with
      | some fingerprint => text "expectedPreviousReviewFingerprintSha256" fingerprint
      | none => (record.get "expectedPreviousReviewFingerprintSha256").isNull) &&
    text "effectiveSafetyState" subject.effectiveSafetyState.text

def postFinalityAttestation (capability : Capability) (binding : SourceBinding)
    (p : Prerequisite) (subject : PostFinalitySubject) (evaluatedAt completedAt : Int) :
    Except FailureCode Attestation := do
  let code := FailureCode.sourceAttestationInvalid
  let record ← orFail (exactDataRecord capability.contents postFinalityAttestationKeys) code
  let common ← commonAttestation isAddress record capability.reference binding p evaluatedAt
    completedAt
  let transaction ← orFail common.transaction code
  let disposition ← orFail
    (postFinalityDispositions.find? fun d => (record.get "disposition").isText d.text) code
  let lineageStatus ← orFail
    (lineageStatuses.find? fun l => (record.get "lineageStatus").isText l.text) code
  failWhen (!matchesSubject record subject ||
    reviewMismatch subject transaction disposition lineageStatus) code
  failWhen (!anchorFacts p common.transaction common.finalized true) code
  failWhen (finalityMismatch p.facts.networkId disposition transaction common.finalized) code
  return { common with finding := .postFinality disposition lineageStatus }

/-- The attestation about the subject of a prerequisite. -/
def attestation (capability : Capability) (binding : SourceBinding) (p : Prerequisite)
    (evaluatedAt completedAt : Int) : Except FailureCode Attestation :=
  match p.subject with
  | .reconciliation observationId =>
    reconciliationAttestation isAddress capability binding p observationId evaluatedAt completedAt
  | .postFinality subject =>
    postFinalityAttestation isAddress capability binding p subject evaluatedAt completedAt

end Attesting

/-- Two findings agree, up to the digests of their evidence. -/
def sameFinding : Finding → Finding → Bool
  | .reconciliation outcome effect failure, .reconciliation outcome' effect' failure' =>
    outcome == outcome' && effect.isNone == effect'.isNone && failure.isNone == failure'.isNone
  | .postFinality disposition lineageStatus, .postFinality disposition' lineageStatus' =>
    disposition == disposition' && lineageStatus == lineageStatus'
  | _, _ => false

def sameFacts (left right : Attestation) : Bool :=
  left.deploymentAuthorityId == right.deploymentAuthorityId &&
    left.deploymentAuthorityFingerprintSha256 == right.deploymentAuthorityFingerprintSha256 &&
    left.providerId == right.providerId && left.protocolId == right.protocolId &&
    left.marketId == right.marketId && left.transaction == right.transaction &&
    left.finalized == right.finalized && sameFinding left.finding right.finding

end CryptoLending.MainnetActions.FinalityAttestation
