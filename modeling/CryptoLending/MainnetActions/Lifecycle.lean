import CryptoLending.Lib.Machine
import CryptoLending.MainnetActions.LifecycleData

namespace CryptoLending.MainnetActions.Lifecycle

open Lib Lib.Text Lib.Identifier Lib.JsValue Lib.IsoDate Lib.Json Blockchain.LaunchNetwork
  Wallets.Base58 Wallets.WalletIdentity Intent LifecycleData

/-- What a protocol instance remembers: a record for each intent and six ownership maps. -/
structure State where
  records : JsMap String LifecycleRecord
  idempotencyOwners : JsMap String String
  replayProtectionOwners : JsMap String String
  transactionOwners : JsMap String String
  observationOwners : JsMap String String
  evidenceDigestOwners : JsMap String EvidenceOwner

def State.initial : State := ⟨.empty, .empty, .empty, .empty, .empty, .empty⟩

namespace State

variable (s : State)

def setRecord (intentId : String) (record : LifecycleRecord) : State :=
  { s with records := s.records.set intentId record }

def ownIdempotency (scope intentDigest : String) : State :=
  { s with idempotencyOwners := s.idempotencyOwners.set scope intentDigest }

def ownReplayProtection (scope intentDigest : String) : State :=
  { s with replayProtectionOwners := s.replayProtectionOwners.set scope intentDigest }

def ownTransaction (chainQualifiedTransactionId intentId : String) : State :=
  { s with transactionOwners := s.transactionOwners.set chainQualifiedTransactionId intentId }

def ownObservation (observationId intentId : String) : State :=
  { s with observationOwners := s.observationOwners.set observationId intentId }

def setEvidence (owners : JsMap String EvidenceOwner) (claims : List EvidenceDigestClaim) :
    JsMap String EvidenceOwner :=
  claims.foldl (fun owners claim => owners.set claim.digest claim.owner) owners

def commitEvidence (claims : List EvidenceDigestClaim) : State :=
  { s with evidenceDigestOwners := setEvidence s.evidenceDigestOwners claims }

end State

abbrev Op := Transaction State Failure

def submissionKeys : List String :=
  ["schemaVersion", "intentId", "intentFingerprintSha256", "networkId", "signerWalletAccountId",
    "transactionId", "walletSignedPayloadSha256", "walletSignatureEvidenceSha256", "signedAt"]

def broadcastKeys : List String :=
  ["schemaVersion", "observationId", "intentId", "submissionFingerprintSha256", "networkId",
    "transactionId", "outcome", "evidenceSha256", "observedAt"]

def reconciliationKeys : List String :=
  ["schemaVersion", "observationId", "intentId", "submissionFingerprintSha256", "networkId",
    "transactionId", "outcome", "transactionPosition", "transactionBlockId", "finalizedPosition",
    "finalizedBlockId", "effectEvidenceSha256", "failureEvidenceSha256", "sourceEvidenceSha256",
    "observedAt"]

section Readers

variable {ε : Type}

def canonicalUint64 (value : Value) (code : ε) : Except ε Uint64Text := do
  let text ← orFail value.string? code
  failWhen (text.toList.length > 20) code
  if h : isCanonicalUint text.toList = true then
    failWhen (decimalValue text.toList > maxUint64) code
    return ⟨text, h⟩
  else .error code

def isNonemptyBase58 (cs : List Char) : Bool := !cs.isEmpty && isBase58 cs

def isCanonicalBase58 (decodedLength : Nat) (cs : List Char) : Bool :=
  cs.length ≤ 90 && (decodeBase58 isNonemptyBase58 cs).any (fun decoded =>
    decoded.length == decodedLength && encodeBase58 decoded == cs && !decoded.all (· == 0))

def canonicalBase58 (value : Value) (decodedLength : Nat) (code : ε) : Except ε String :=
  textOf (isCanonicalBase58 decodedLength) value code

def evmHash (value : Value) (code : ε) : Except ε String :=
  textOf (isHexQuantity isLowerHex [64]) value code

/-- A hash on Ethereum, a base 58 text of the given number of bytes on Solana. -/
def chainText (networkId : MainnetLaunchNetworkId) (decodedLength : Nat) (value : Value) (code : ε) :
    Except ε String :=
  match networkId with
  | .eip155 => evmHash value code
  | .solana => canonicalBase58 value decodedLength code

def transactionId (networkId : MainnetLaunchNetworkId) (value : Value) (code : ε) :
    Except ε String := chainText networkId 64 value code

def blockId (networkId : MainnetLaunchNetworkId) (value : Value) (code : ε) : Except ε String :=
  chainText networkId 32 value code

/-- A value that may be null. -/
def nullable {α : Type} (read : Value → ε → Except ε α) (value : Value) (code : ε) :
    Except ε (Option α) :=
  if value.isNull then .ok none else (read value code).map some

end Readers

section Operations

/-- Throw a lifecycle error when a condition holds. -/
def refuseWhen (c : Prop) [Decidable c] (code : LifecycleErrorCode) : Op Unit :=
  liftM (failWhen c (Failure.lifecycle code))

/-- Read a present value or throw a lifecycle error. -/
def orRefuse {α : Type} (o : Option α) (code : LifecycleErrorCode) : Op α :=
  liftM (orFail o (Failure.lifecycle code))

variable (P : Platform)

def walletAccountId (intent : DormantMainnetFinancialActionIntent) : Except Failure String :=
  (formatWalletAccountId P.isAddress (.string intent.networkId.text)
    (.string intent.walletAddress)).mapError .walletIdentity

def snapshotFingerprint (intentId : String) (revision : Nat) (stage : LifecycleStage)
    (previousSnapshotSha256 : Option String) (transitionDigest : String) : String :=
  fingerprint P "CRYPTO_LENDING:DORMANT_MAINNET_ACTION_SNAPSHOT:v1"
    [.string intentId, .number revision, .string stage.text, optional previousSnapshotSha256,
      .string transitionDigest]

def makeSnapshot (record : Option LifecycleRecord) (intent : DormantMainnetFinancialActionIntent)
    (intentDigest : String) (stage : LifecycleStage) (transitionDigest : String)
    (submission : Option SubmissionBinding)
    (broadcastObservation : Option WalletBroadcastObservation)
    (reconciliation : Option ReconciliationObservation) : Except Failure LifecycleSnapshot := do
  let revision := (record.map (·.current.revision)).getD 0 + 1
  let previousSnapshotSha256 := record.map (·.current.snapshotSha256)
  let snapshotSha256 :=
    snapshotFingerprint P intent.intentId revision stage previousSnapshotSha256 transitionDigest
  let walletAccountId ← walletAccountId P intent
  let networkId := intent.networkId.text
  return {
    stage, revision, previousSnapshotSha256, snapshotSha256, intent, submission,
    broadcastObservation, reconciliation
    transitionFingerprintSha256 := transitionDigest
    intentFingerprintSha256 := intentDigest
    identities := {
      walletAccountId
      providerMarketId := networkId ++ ":" ++ intent.providerId.text ++ ":" ++
        intent.protocolId.text ++ ":" ++ intent.marketId
      assetId := networkId ++ ":" ++ intent.assetIdentity }
    terminal := isTerminalStage stage
    requiresManualReconciliation := stage == .reorgQuarantined }

def assertEvidenceDigestsAvailable (claims : List EvidenceDigestClaim) : Op Unit := do
  let s ← get
  refuseWhen (claims.any (fun claim =>
    (s.evidenceDigestOwners.get claim.digest).any (fun owner => owner != claim.owner)))
    .evidenceDigestConflict

def commitEvidenceDigests (claims : List EvidenceDigestClaim) : Op PUnit :=
  modify (·.commitEvidence claims)

def recordFor (intentIdValue : Value) : Op LifecycleRecord := do
  let intentId ← orRefuse intentIdValue.string? .intentNotFound
  let s ← get
  orRefuse (s.records.get intentId) .intentNotFound

def idempotencyScope (intent : DormantMainnetFinancialActionIntent) : String :=
  intent.accountId ++ ":MAINNET_FINANCIAL_ACTION:v1:" ++ intent.idempotencyKeyDigestSha256

def replayProtectionScope (intent : DormantMainnetFinancialActionIntent) : String :=
  intent.accountId ++ ":MAINNET_FINANCIAL_ACTION_REPLAY_PROTECTION:v1:" ++
    intent.replayProtectionId

def preparedFingerprint (intent : DormantMainnetFinancialActionIntent) : String :=
  fingerprint P "CRYPTO_LENDING:DORMANT_MAINNET_ACTION_PREPARED:v1"
    [.string (intentFingerprint P intent), .string (idempotencyScope intent)]

/-- The rest of a prepare call when there is no record of the intent. -/
def prepareNew (intent : DormantMainnetFinancialActionIntent) : Op LifecycleSnapshot := do
  let intentDigest := intentFingerprint P intent
  let s ← get
  refuseWhen ((s.idempotencyOwners.get (idempotencyScope intent)).any (· != intentDigest))
    .idempotencyReplayConflict
  refuseWhen ((s.replayProtectionOwners.get (replayProtectionScope intent)).any (· != intentDigest))
    .replayProtectionConflict
  let prepared ← makeSnapshot P none intent intentDigest .prepared (preparedFingerprint P intent)
    none none none
  modify (·.setRecord intent.intentId (.ofPrepared prepared))
  modify (·.ownIdempotency (idempotencyScope intent) intentDigest)
  modify (·.ownReplayProtection (replayProtectionScope intent) intentDigest)
  return prepared

def parseIntent (input now : Value) : Except Failure DormantMainnetFinancialActionIntent :=
  (parseDormantMainnetFinancialActionIntent P.isAddress input now).mapError .validation

def prepareIntent (input now : Value) : Op LifecycleSnapshot := do
  let intent ← parseIntent P input now
  let s ← get
  match s.records.get intent.intentId with
  | some existing =>
    refuseWhen (existing.prepared.intentFingerprintSha256 ≠ intentFingerprint P intent)
      .intentConflict
    return existing.current
  | none => prepareNew P intent

/-- The fields of a submission, checked against the current snapshot of its record. -/
def submissionFields (current : LifecycleSnapshot) (input : Record) (intentId : String) :
    Except Failure WalletSignedSubmission := do
  let code := Failure.lifecycle .invalidSubmissionInput
  let intent := current.intent
  let expectedIntentDigest ← digest (input.get "intentFingerprintSha256") code
  failWhen (expectedIntentDigest ≠ current.intentFingerprintSha256 ∨
    !(input.get "networkId").isText intent.networkId.text) code
  let signerWalletAccountId ← walletAccountId P intent
  failWhen (!(input.get "signerWalletAccountId").isText signerWalletAccountId) code
  let transactionId ← transactionId intent.networkId (input.get "transactionId") code
  let walletSignedPayloadSha256 ← digest (input.get "walletSignedPayloadSha256") code
  let walletSignatureEvidenceSha256 ← digest (input.get "walletSignatureEvidenceSha256") code
  failWhen (walletSignedPayloadSha256 = walletSignatureEvidenceSha256) code
  let signedAt ← canonicalTime (input.get "signedAt") code
  return ⟨intentId, expectedIntentDigest, intent.networkId, signerWalletAccountId, transactionId,
    walletSignedPayloadSha256, walletSignatureEvidenceSha256, signedAt⟩

def parseSubmission (current : LifecycleSnapshot) (input : Record) (intentId : String)
    (now : Value) : Except Failure (WalletSignedSubmission × Int) := do
  let x ← submissionFields P current input intentId
  let nowMilliseconds ← serverTime now (.lifecycle .invalidServerTime)
  return (x, nowMilliseconds)

/-- The rest of a bind call when nothing was bound to the intent yet. -/
def bindNew (record : LifecycleRecord) (x : WalletSignedSubmission) (now : Int) :
    Op LifecycleSnapshot := do
  let intent := record.current.intent
  refuseWhen (x.signedAt.milliseconds < intent.issuedAt.milliseconds ∨ x.signedAt.milliseconds > now ∨
    x.signedAt.milliseconds ≥ intent.expiresAt.milliseconds ∨ now ≥ intent.expiresAt.milliseconds)
    .intentExpired
  refuseWhen (record.current.stage ≠ .prepared) .invalidLifecycleTransition
  let submission := x.binding P
  let s ← get
  refuseWhen ((s.transactionOwners.get submission.chainQualifiedTransactionId).any (· != x.intentId))
    .transactionIdentityConflict
  assertEvidenceDigestsAvailable (x.evidenceClaims P)
  let snapshot ← makeSnapshot P (some record) intent x.intentFingerprintSha256
    .walletSignedSubmissionBound (x.fingerprint P) (some submission) none none
  commitEvidenceDigests (x.evidenceClaims P)
  modify (·.setRecord x.intentId (record.withSubmission (x.fingerprint P) snapshot))
  modify (·.ownTransaction submission.chainQualifiedTransactionId x.intentId)
  return snapshot

/-- The part of a bind call before its replay lookup. It writes nothing. -/
def readSubmission (value now : Value) : Op (LifecycleRecord × WalletSignedSubmission × Int) := do
  let code := LifecycleErrorCode.invalidSubmissionInput
  let input ← orRefuse (exactDataRecord value submissionKeys) code
  refuseWhen (!(input.get "schemaVersion").isNumber 1) code
  let intentId ← uuid (input.get "intentId") (Failure.lifecycle code)
  let record ← recordFor (.string intentId)
  let (x, nowMilliseconds) ← parseSubmission P record.current input intentId now
  return (record, x, nowMilliseconds)

def bindWalletSignedSubmission (value now : Value) : Op LifecycleSnapshot := do
  let (record, x, nowMilliseconds) ← readSubmission P value now
  match record.submissionReplay with
  | some replay =>
    refuseWhen (replay.fingerprint ≠ x.fingerprint P) .idempotencyReplayConflict
    return record.current
  | none => bindNew P record x nowMilliseconds

/-- The submission an observation is about, and the transaction both name. -/
def assertContext (current : LifecycleSnapshot) (input : Record) (code : Failure) :
    Except Failure (SubmissionBinding × String) := do
  let intent := current.intent
  failWhen (!(input.get "intentId").isText intent.intentId) code
  let submission ← orFail current.submission code
  failWhen (!(input.get "submissionFingerprintSha256").isText submission.submissionFingerprintSha256 ||
    !(input.get "networkId").isText intent.networkId.text) code
  let parsedTransactionId ← transactionId intent.networkId (input.get "transactionId") code
  failWhen (parsedTransactionId ≠ submission.transactionId) code
  return (submission, parsedTransactionId)

def walletBroadcastOutcomes : List WalletBroadcastOutcome :=
  [.walletReportedSubmitted, .walletReportedAmbiguous, .walletReportedRejected]

/-- The fields of a broadcast observation, checked against the current snapshot of its record. -/
def broadcastFields (current : LifecycleSnapshot) (input : Record)
    (observationId intentId : String) : Except Failure (SubmissionBinding × WalletBroadcast) := do
  let code := Failure.lifecycle .invalidBroadcastObservationInput
  let (submission, transactionId) ← assertContext current input code
  let outcome ← orFail
    (walletBroadcastOutcomes.find? (fun o => (input.get "outcome").isText o.text)) code
  let evidenceSha256 ← digest (input.get "evidenceSha256") code
  let observedAt ← canonicalTime (input.get "observedAt") code
  return (submission, ⟨observationId, intentId, submission.submissionFingerprintSha256,
    current.intent.networkId, transactionId, outcome, evidenceSha256, observedAt⟩)

def parseBroadcast (current : LifecycleSnapshot) (input : Record) (observationId intentId : String)
    (now : Value) : Except Failure (SubmissionBinding × WalletBroadcast × Int) := do
  let code := Failure.lifecycle .invalidBroadcastObservationInput
  let (submission, x) ← broadcastFields current input observationId intentId
  let nowMilliseconds ← serverTime now (.lifecycle .invalidServerTime)
  failWhen (x.evidenceSha256 = submission.walletSignedPayloadSha256 ∨
    x.evidenceSha256 = submission.walletSignatureEvidenceSha256) code
  return (submission, x, nowMilliseconds)

/-- The rest of a broadcast call when no broadcast of the intent was recorded yet. -/
def broadcastNew (record : LifecycleRecord) (submission : SubmissionBinding) (x : WalletBroadcast)
    (now : Int) : Op LifecycleSnapshot := do
  let intent := record.current.intent
  refuseWhen (x.observedAt.milliseconds < submission.signedAt.milliseconds ∨
    x.observedAt.milliseconds > now ∨ x.observedAt.milliseconds ≥ intent.expiresAt.milliseconds ∨
    now ≥ intent.expiresAt.milliseconds) .invalidBroadcastObservationInput
  refuseWhen (record.current.stage ≠ .walletSignedSubmissionBound)
    .invalidLifecycleTransition
  let s ← get
  refuseWhen ((s.observationOwners.get x.observationId).any (· != x.intentId))
    .observationReplayConflict
  assertEvidenceDigestsAvailable (x.evidenceClaims P)
  let observation : WalletBroadcastObservation :=
    ⟨x, submission.chainQualifiedTransactionId⟩
  let snapshot ← makeSnapshot P (some record) intent record.current.intentFingerprintSha256
    .broadcastOutcomeAmbiguous (x.fingerprint P) (some submission) (some observation) none
  commitEvidenceDigests (x.evidenceClaims P)
  modify (·.setRecord x.intentId (record.withBroadcast x.observationId (x.fingerprint P) snapshot))
  modify (·.ownObservation x.observationId x.intentId)
  return snapshot

/-- The part of a broadcast call before its replay lookup. It writes nothing. -/
def readBroadcast (value now : Value) :
    Op (LifecycleRecord × SubmissionBinding × WalletBroadcast × Int) := do
  let code := LifecycleErrorCode.invalidBroadcastObservationInput
  let input ← orRefuse (exactDataRecord value broadcastKeys) code
  refuseWhen (!(input.get "schemaVersion").isNumber 1) code
  let intentId ← uuid (input.get "intentId") (Failure.lifecycle code)
  let observationId ← uuid (input.get "observationId") (Failure.lifecycle code)
  let record ← recordFor (.string intentId)
  let (submission, x, nowMilliseconds) ←
    parseBroadcast record.current input observationId intentId now
  return (record, submission, x, nowMilliseconds)

def recordWalletBroadcastObservation (value now : Value) : Op LifecycleSnapshot := do
  let (record, submission, x, nowMilliseconds) ← readBroadcast value now
  match record.broadcastReplay with
  | some replay =>
    refuseWhen (replay.observationId ≠ x.observationId ∨ replay.fingerprint ≠ x.fingerprint P)
      .oneShotBroadcastAlreadyRecorded
    return record.current
  | none => broadcastNew P record submission x nowMilliseconds

def reconciliationOutcomes : List ReconciliationOutcome :=
  [.pending, .unknown, .finalizedSuccess, .finalizedFailure, .reorgedOut]

/-- The two halves of a pointer are both null or both present. -/
def chainPointer (position : Option Uint64Text) (blockId : Option String) (code : Failure) :
    Except Failure (Option ChainPointer) :=
  match position, blockId with
  | some position, some blockId => .ok (some ⟨position, blockId⟩)
  | none, none => .ok none
  | _, _ => .error code

/-- The fields of a reconciliation observation, checked against the current snapshot of its
record. -/
def reconciliationFields (current : LifecycleSnapshot) (input : Record)
    (observationId intentId : String) : Except Failure (SubmissionBinding × Reconciliation) := do
  let code := Failure.lifecycle .invalidReconciliationObservationInput
  let (submission, transactionId) ← assertContext current input code
  let networkId := current.intent.networkId
  let outcome ← orFail
    (reconciliationOutcomes.find? (fun o => (input.get "outcome").isText o.text)) code
  let transactionPosition ← nullable canonicalUint64 (input.get "transactionPosition") code
  let transactionBlockId ← nullable (blockId networkId) (input.get "transactionBlockId") code
  let transaction ← chainPointer transactionPosition transactionBlockId code
  let finalizedPosition ← canonicalUint64 (input.get "finalizedPosition") code
  let finalizedBlockId ← blockId networkId (input.get "finalizedBlockId") code
  let effectEvidenceSha256 ← nullable digest (input.get "effectEvidenceSha256") code
  let failureEvidenceSha256 ← nullable digest (input.get "failureEvidenceSha256") code
  let sourceEvidenceSha256 ← digest (input.get "sourceEvidenceSha256") code
  let observedAt ← canonicalTime (input.get "observedAt") code
  return (submission, ⟨observationId, intentId, submission.submissionFingerprintSha256, networkId,
    transactionId, outcome, transaction, ⟨finalizedPosition, finalizedBlockId⟩,
    effectEvidenceSha256, failureEvidenceSha256, sourceEvidenceSha256, observedAt⟩)

def parseReconciliation (current : LifecycleSnapshot) (input : Record)
    (observationId intentId : String) (now : Value) :
    Except Failure (SubmissionBinding × Reconciliation) := do
  let code := Failure.lifecycle .invalidReconciliationObservationInput
  let (submission, x) ← reconciliationFields current input observationId intentId
  let broadcastObservation ← orFail current.broadcastObservation code
  failWhen (x.observedAt.milliseconds < broadcastObservation.observedAt.milliseconds) code
  let nowMilliseconds ← serverTime now (.lifecycle .invalidServerTime)
  failWhen (x.observedAt.milliseconds > nowMilliseconds) code
  failWhen x.isMisshapen code
  return (submission, x)

/-- The rest of a reconciliation call when its observation was not recorded yet. -/
def reconcileNew (record : LifecycleRecord) (submission : SubmissionBinding) (x : Reconciliation) :
    Op LifecycleSnapshot := do
  let s ← get
  refuseWhen (s.observationOwners.get x.observationId).isSome .observationReplayConflict
  refuseWhen (record.current.terminal ∨ (record.current.stage ≠ .broadcastOutcomeAmbiguous ∧
    record.current.stage ≠ .reconciliationAmbiguous)) .terminalReconciliation
  refuseWhen (record.lastReconciliationObservedAt.any (fun last =>
    x.observedAt.milliseconds < last.milliseconds)) .nonMonotonicReconciliation
  refuseWhen (record.contradicts x) .nonMonotonicReconciliation
  refuseWhen (x.outcome = .reorgedOut ∧
    record.lastTransaction.any (fun last => x.transaction != some last)) .nonMonotonicReconciliation
  assertEvidenceDigestsAvailable (x.evidenceClaims P)
  let observation : ReconciliationObservation := ⟨x, submission.chainQualifiedTransactionId⟩
  let snapshot ← makeSnapshot P (some record) record.current.intent
    record.current.intentFingerprintSha256 x.outcome.stage (x.fingerprint P)
    record.current.submission record.current.broadcastObservation (some observation)
  commitEvidenceDigests (x.evidenceClaims P)
  modify (·.setRecord x.intentId (record.withReconciliation x (x.fingerprint P) snapshot))
  modify (·.ownObservation x.observationId x.intentId)
  return snapshot

/-- The part of a reconciliation call before its replay lookup. It writes nothing. -/
def readReconciliation (value now : Value) :
    Op (LifecycleRecord × SubmissionBinding × Reconciliation) := do
  let code := LifecycleErrorCode.invalidReconciliationObservationInput
  let input ← orRefuse (exactDataRecord value reconciliationKeys) code
  refuseWhen (!(input.get "schemaVersion").isNumber 1) code
  let intentId ← uuid (input.get "intentId") (Failure.lifecycle code)
  let observationId ← uuid (input.get "observationId") (Failure.lifecycle code)
  let record ← recordFor (.string intentId)
  let (submission, x) ← parseReconciliation record.current input observationId intentId now
  return (record, submission, x)

def recordReconciliationObservation (value now : Value) : Op LifecycleSnapshot := do
  let (record, submission, x) ← readReconciliation value now
  match record.reconciliationReplays.get x.observationId with
  | some replay =>
    refuseWhen (replay.fingerprint ≠ x.fingerprint P) .observationReplayConflict
    return record.current
  | none => reconcileNew P record submission x

def readSnapshot (intentId : Value) : Op LifecycleSnapshot := do
  let record ← recordFor intentId
  return record.current

/-- One call of the protocol. -/
inductive Call where
  | prepareIntent (input now : Value)
  | bindWalletSignedSubmission (value now : Value)
  | recordWalletBroadcastObservation (value now : Value)
  | recordReconciliationObservation (value now : Value)
  | readSnapshot (intentId : Value)

def perform : Call → Op LifecycleSnapshot
  | .prepareIntent input now => prepareIntent P input now
  | .bindWalletSignedSubmission value now => bindWalletSignedSubmission P value now
  | .recordWalletBroadcastObservation value now => recordWalletBroadcastObservation P value now
  | .recordReconciliationObservation value now => recordReconciliationObservation P value now
  | .readSnapshot intentId => readSnapshot intentId

/-- A protocol instance and the calls made on it. -/
def protocol : Machine Call (Except Failure LifecycleSnapshot) State where
  initial := State.initial
  step := fun s call => (perform P call).exec s

end Operations

end CryptoLending.MainnetActions.Lifecycle
