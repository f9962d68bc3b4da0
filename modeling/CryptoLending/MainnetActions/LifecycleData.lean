import CryptoLending.Lib.Json
import CryptoLending.MainnetActions.Intent

namespace CryptoLending.MainnetActions.LifecycleData

open Lib Lib.Text Lib.Identifier Lib.IsoDate Lib.Json Blockchain.LaunchNetwork
  Wallets.WalletIdentity Intent

/-- The functions of the platform that the protocol calls: the digest, as lower-case
hexadecimal digits, and the strict test of an address against its checksum. -/
structure Platform where
  sha256 : String → String
  isAddress : String → Bool

inductive LifecycleStage where
  | prepared
  | walletSignedSubmissionBound
  | broadcastOutcomeAmbiguous
  | reconciliationAmbiguous
  | finalizedSuccess
  | finalizedFailure
  | reorgQuarantined
  deriving DecidableEq

def LifecycleStage.text : LifecycleStage → String
  | .prepared => "PREPARED"
  | .walletSignedSubmissionBound => "WALLET_SIGNED_SUBMISSION_BOUND"
  | .broadcastOutcomeAmbiguous => "BROADCAST_OUTCOME_AMBIGUOUS"
  | .reconciliationAmbiguous => "RECONCILIATION_AMBIGUOUS"
  | .finalizedSuccess => "FINALIZED_SUCCESS"
  | .finalizedFailure => "FINALIZED_FAILURE"
  | .reorgQuarantined => "REORG_QUARANTINED"

inductive LifecycleErrorCode where
  | invalidSubmissionInput
  | invalidBroadcastObservationInput
  | invalidReconciliationObservationInput
  | invalidServerTime
  | intentNotFound
  | intentConflict
  | idempotencyReplayConflict
  | replayProtectionConflict
  | evidenceDigestConflict
  | intentExpired
  | invalidLifecycleTransition
  | transactionIdentityConflict
  | oneShotBroadcastAlreadyRecorded
  | observationReplayConflict
  | nonMonotonicReconciliation
  | terminalReconciliation
  deriving DecidableEq

/-- The errors a call may throw, with the class of each. -/
inductive Failure where
  | validation (code : ValidationCode)
  | walletIdentity (code : WalletIdentityValidationCode)
  | lifecycle (code : LifecycleErrorCode)
  deriving DecidableEq

inductive WalletBroadcastOutcome where
  | walletReportedSubmitted
  | walletReportedAmbiguous
  | walletReportedRejected
  deriving DecidableEq

def WalletBroadcastOutcome.text : WalletBroadcastOutcome → String
  | .walletReportedSubmitted => "WALLET_REPORTED_SUBMITTED"
  | .walletReportedAmbiguous => "WALLET_REPORTED_AMBIGUOUS"
  | .walletReportedRejected => "WALLET_REPORTED_REJECTED"

inductive ReconciliationOutcome where
  | pending
  | unknown
  | finalizedSuccess
  | finalizedFailure
  | reorgedOut
  deriving DecidableEq

def ReconciliationOutcome.text : ReconciliationOutcome → String
  | .pending => "PENDING"
  | .unknown => "UNKNOWN"
  | .finalizedSuccess => "FINALIZED_SUCCESS"
  | .finalizedFailure => "FINALIZED_FAILURE"
  | .reorgedOut => "REORGED_OUT"

def maxUint64 : Nat := 18446744073709551615

/-- A canonical numeral of a 64-bit number. -/
structure Uint64Text where
  text : String
  canonical : isCanonicalUint text.toList = true
  deriving DecidableEq

def Uint64Text.value (n : Uint64Text) : Nat := decimalValue n.text.toList

theorem Uint64Text.ext_value {m n : Uint64Text} (h : m.value = n.value) : m = n := by
  obtain ⟨s, hs⟩ := m
  obtain ⟨t, ht⟩ := n
  obtain rfl : s = t := String.toList_inj.mp (isCanonicalUint_injective hs ht h)
  rfl

/-- A chain position and the block found there. The source keeps the two in separate fields
that are set and checked together. -/
structure ChainPointer where
  position : Uint64Text
  blockId : String
  deriving DecidableEq

/-- What a submission says once it was checked against its record. -/
structure WalletSignedSubmission where
  intentId : String
  intentFingerprintSha256 : String
  networkId : MainnetLaunchNetworkId
  signerWalletAccountId : String
  transactionId : String
  walletSignedPayloadSha256 : String
  walletSignatureEvidenceSha256 : String
  signedAt : Timestamp
  deriving DecidableEq

/-- What a broadcast observation says once it was checked against its record. -/
structure WalletBroadcast where
  observationId : String
  intentId : String
  submissionFingerprintSha256 : String
  networkId : MainnetLaunchNetworkId
  transactionId : String
  outcome : WalletBroadcastOutcome
  evidenceSha256 : String
  observedAt : Timestamp
  deriving DecidableEq

/-- What a reconciliation observation says once it was checked against its record. -/
structure Reconciliation where
  observationId : String
  intentId : String
  submissionFingerprintSha256 : String
  networkId : MainnetLaunchNetworkId
  transactionId : String
  outcome : ReconciliationOutcome
  transaction : Option ChainPointer
  finalized : ChainPointer
  effectEvidenceSha256 : Option String
  failureEvidenceSha256 : Option String
  sourceEvidenceSha256 : String
  observedAt : Timestamp
  deriving DecidableEq

structure SubmissionBinding extends WalletSignedSubmission where
  chainQualifiedTransactionId : String
  submissionFingerprintSha256 : String

structure WalletBroadcastObservation extends WalletBroadcast where
  chainQualifiedTransactionId : String

structure ReconciliationObservation extends Reconciliation where
  chainQualifiedTransactionId : String

structure SnapshotIdentities where
  walletAccountId : String
  providerMarketId : String
  assetId : String

structure LifecycleSnapshot where
  stage : LifecycleStage
  revision : Nat
  previousSnapshotSha256 : Option String
  transitionFingerprintSha256 : String
  snapshotSha256 : String
  intentFingerprintSha256 : String
  intent : DormantMainnetFinancialActionIntent
  identities : SnapshotIdentities
  submission : Option SubmissionBinding
  broadcastObservation : Option WalletBroadcastObservation
  reconciliation : Option ReconciliationObservation
  terminal : Bool
  requiresManualReconciliation : Bool

structure Replay where
  fingerprint : String
  snapshot : LifecycleSnapshot

structure BroadcastReplay extends Replay where
  observationId : String

structure LifecycleRecord where
  prepared : LifecycleSnapshot
  current : LifecycleSnapshot
  submissionReplay : Option Replay
  broadcastReplay : Option BroadcastReplay
  reconciliationReplays : JsMap String Replay
  lastTransaction : Option ChainPointer
  lastFinalized : Option ChainPointer
  lastReconciliationObservedAt : Option Timestamp

namespace LifecycleRecord

variable (record : LifecycleRecord)

/-- The record of a new intent. -/
def ofPrepared (prepared : LifecycleSnapshot) : LifecycleRecord :=
  ⟨prepared, prepared, none, none, .empty, none, none, none⟩

def withSubmission (fingerprint : String) (snapshot : LifecycleSnapshot) : LifecycleRecord :=
  { record with
    current := snapshot
    submissionReplay := some ⟨fingerprint, snapshot⟩ }

def withBroadcast (observationId fingerprint : String) (snapshot : LifecycleSnapshot) :
    LifecycleRecord :=
  { record with
    current := snapshot
    broadcastReplay := some ⟨⟨fingerprint, snapshot⟩, observationId⟩ }

def withReconciliation (x : Reconciliation) (fingerprint : String) (snapshot : LifecycleSnapshot) :
    LifecycleRecord :=
  { record with
    current := snapshot
    reconciliationReplays := record.reconciliationReplays.set x.observationId ⟨fingerprint, snapshot⟩
    lastTransaction :=
      if x.transaction.isSome ∧ x.outcome ≠ .reorgedOut then x.transaction
      else record.lastTransaction
    lastFinalized := some x.finalized
    lastReconciliationObservedAt := some x.observedAt }

end LifecycleRecord

inductive EvidenceDigestRole where
  | walletSignedPayload
  | walletSignatureEvidence
  | walletBroadcastEvidence
  | reconciliationSourceEvidence
  | reconciliationEffectEvidence
  | reconciliationFailureEvidence
  deriving DecidableEq

structure EvidenceOwner where
  role : EvidenceDigestRole
  fingerprint : String
  deriving DecidableEq

structure EvidenceDigestClaim where
  digest : String
  owner : EvidenceOwner

section Fingerprints

variable (P : Platform)

def fingerprintText (domain : String) (values : List Scalar) : String :=
  domain ++ "\x00" ++ stringify values

def fingerprint (domain : String) (values : List Scalar) : String :=
  P.sha256 (fingerprintText domain values)

theorem fingerprintText_injective {domain : String} {xs ys : List Scalar}
    (h : fingerprintText domain xs = fingerprintText domain ys) : xs = ys := by
  apply stringify_injective
  have hl := congrArg String.toList h
  simp only [fingerprintText, String.toList_append, List.append_cancel_left_eq] at hl
  exact String.toList_inj.mp hl

/-- A text or the null of an absent one. -/
def optional : Option String → Scalar
  | some s => .string s
  | none => .null

theorem optional_injective {o p : Option String} (h : optional o = optional p) : o = p := by
  cases o <;> cases p <;> simp_all [optional]

def intentValues (intent : DormantMainnetFinancialActionIntent) : List Scalar :=
  [.number 1, .string intent.intentId, .string intent.accountId,
    .string intent.walletRegistrationId, .string intent.replayProtectionId,
    .string intent.idempotencyKeyDigestSha256, .string intent.networkId.text,
    .string intent.walletAddress, .string intent.providerId.text, .string intent.protocolId.text,
    .string intent.marketId, .number intent.assetRegistryVersion,
    .string intent.assetRegistryFingerprintSha256, .string intent.assetSymbol.text,
    .string intent.assetIdentity, .number intent.assetDecimals, .string intent.action.text,
    .string intent.amountAtomic, .string intent.requestedValueUsdMicros,
    .string intent.maximumNetworkFeeAtomic, .number intent.maximumNetworkFeeBasisPoints,
    .string intent.minimumPostActionNativeBalanceAtomic, .string "EXACT",
    .string intent.allowanceAmountAtomic, .string intent.issuedAt.text,
    .string intent.expiresAt.text]

def intentText (intent : DormantMainnetFinancialActionIntent) : String :=
  fingerprintText "CRYPTO_LENDING:DORMANT_MAINNET_ACTION_INTENT:v1" (intentValues intent)

def intentFingerprint (intent : DormantMainnetFinancialActionIntent) : String :=
  P.sha256 (intentText intent)

def WalletSignedSubmission.text (x : WalletSignedSubmission) : String :=
  fingerprintText "CRYPTO_LENDING:DORMANT_MAINNET_ACTION_WALLET_SUBMISSION:v1"
    [.string x.intentId, .string x.intentFingerprintSha256, .string x.networkId.text,
      .string x.signerWalletAccountId, .string x.transactionId,
      .string x.walletSignedPayloadSha256, .string x.walletSignatureEvidenceSha256,
      .string x.signedAt.text]

def WalletSignedSubmission.fingerprint (x : WalletSignedSubmission) : String := P.sha256 x.text

def WalletBroadcast.text (x : WalletBroadcast) : String :=
  fingerprintText "CRYPTO_LENDING:DORMANT_MAINNET_ACTION_WALLET_BROADCAST_OBSERVATION:v1"
    [.string x.observationId, .string x.intentId, .string x.submissionFingerprintSha256,
      .string x.networkId.text, .string x.transactionId, .string x.outcome.text,
      .string x.evidenceSha256, .string x.observedAt.text]

def WalletBroadcast.fingerprint (x : WalletBroadcast) : String := P.sha256 x.text

def Reconciliation.text (x : Reconciliation) : String :=
  fingerprintText "CRYPTO_LENDING:DORMANT_MAINNET_ACTION_RECONCILIATION_OBSERVATION:v1"
    [.string x.observationId, .string x.intentId, .string x.submissionFingerprintSha256,
      .string x.networkId.text, .string x.transactionId, .string x.outcome.text,
      optional (x.transaction.map (·.position.text)), optional (x.transaction.map (·.blockId)),
      .string x.finalized.position.text, .string x.finalized.blockId,
      optional x.effectEvidenceSha256, optional x.failureEvidenceSha256,
      .string x.sourceEvidenceSha256, .string x.observedAt.text]

def Reconciliation.fingerprint (x : Reconciliation) : String := P.sha256 x.text

end Fingerprints

def isTerminalStage (stage : LifecycleStage) : Bool :=
  stage == .finalizedSuccess || stage == .finalizedFailure || stage == .reorgQuarantined

section Claims

variable (P : Platform)

def WalletSignedSubmission.evidenceClaims (x : WalletSignedSubmission) : List EvidenceDigestClaim :=
  [⟨x.walletSignedPayloadSha256, .walletSignedPayload, x.fingerprint P⟩,
    ⟨x.walletSignatureEvidenceSha256, .walletSignatureEvidence, x.fingerprint P⟩]

def chainQualified (networkId : MainnetLaunchNetworkId) (transactionId : String) : String :=
  networkId.text ++ ":" ++ transactionId

def WalletSignedSubmission.binding (x : WalletSignedSubmission) : SubmissionBinding where
  toWalletSignedSubmission := x
  chainQualifiedTransactionId := chainQualified x.networkId x.transactionId
  submissionFingerprintSha256 := x.fingerprint P

def WalletBroadcast.evidenceClaims (x : WalletBroadcast) : List EvidenceDigestClaim :=
  [⟨x.evidenceSha256, .walletBroadcastEvidence, x.fingerprint P⟩]

def Reconciliation.evidenceClaims (x : Reconciliation) : List EvidenceDigestClaim :=
  [⟨x.sourceEvidenceSha256, .reconciliationSourceEvidence, x.fingerprint P⟩] ++
    (x.effectEvidenceSha256.map (⟨·, .reconciliationEffectEvidence, x.fingerprint P⟩)).toList ++
    (x.failureEvidenceSha256.map (⟨·, .reconciliationFailureEvidence, x.fingerprint P⟩)).toList

end Claims

/-- The transaction position, the finalized position and the evidence do not fit the outcome. -/
def Reconciliation.isMisshapen (x : Reconciliation) : Bool :=
  x.outcome == .unknown && x.transaction.isSome ||
  x.outcome != .unknown && x.outcome != .pending && x.transaction.isNone ||
  x.outcome == .pending &&
    x.transaction.any (fun t => t.position.value ≤ x.finalized.position.value) ||
  (x.outcome == .finalizedSuccess || x.outcome == .finalizedFailure || x.outcome == .reorgedOut) &&
    x.transaction.any (fun t => x.finalized.position.value < t.position.value) ||
  x.outcome == .finalizedSuccess &&
    (x.effectEvidenceSha256.isNone || x.failureEvidenceSha256.isSome) ||
  x.outcome == .finalizedFailure &&
    (x.failureEvidenceSha256.isNone || x.effectEvidenceSha256.isSome) ||
  (x.outcome == .pending || x.outcome == .unknown || x.outcome == .reorgedOut) &&
    (x.effectEvidenceSha256.isSome || x.failureEvidenceSha256.isSome) ||
  some x.sourceEvidenceSha256 == x.effectEvidenceSha256 ||
  some x.sourceEvidenceSha256 == x.failureEvidenceSha256

def ReconciliationOutcome.stage : ReconciliationOutcome → LifecycleStage
  | .finalizedSuccess => .finalizedSuccess
  | .finalizedFailure => .finalizedFailure
  | .reorgedOut => .reorgQuarantined
  | .pending | .unknown => .reconciliationAmbiguous

/-- The observation goes back behind what was last seen of the chain, or contradicts it. -/
def LifecycleRecord.contradicts (record : LifecycleRecord) (x : Reconciliation) : Bool :=
  record.lastFinalized.any (fun last =>
    decide (x.finalized.position.value < last.position.value) ||
    x.finalized.position == last.position && x.finalized.blockId != last.blockId &&
      x.outcome != .reorgedOut ||
    x.transaction.any (fun t => record.lastTransaction.any (t != ·)) && x.outcome != .reorgedOut)

theorem intentId_of_intentText {i j : DormantMainnetFinancialActionIntent}
    (h : intentText i = intentText j) : i.intentId = j.intentId := by
  have hv := fingerprintText_injective h
  simp only [intentValues, List.cons.injEq, Scalar.string.injEq] at hv
  exact hv.2.1

theorem WalletBroadcastOutcome.text_injective {o p : WalletBroadcastOutcome}
    (h : o.text = p.text) : o = p := by
  cases o <;> cases p <;> first | rfl | exact absurd h (by decide)

theorem ReconciliationOutcome.text_injective {o p : ReconciliationOutcome}
    (h : o.text = p.text) : o = p := by
  cases o <;> cases p <;> first | rfl | exact absurd h (by decide)

theorem ChainPointer.ext_text {p q : ChainPointer} (h : p.position.text = q.position.text)
    (hb : p.blockId = q.blockId) : p = q := by
  obtain ⟨⟨s, hs⟩, b⟩ := p
  obtain ⟨⟨t, ht⟩, c⟩ := q
  obtain rfl : s = t := h
  obtain rfl : b = c := hb
  rfl

theorem pointer_ext {o p : Option ChainPointer}
    (h : o.map (·.position.text) = p.map (·.position.text))
    (hb : o.map (·.blockId) = p.map (·.blockId)) : o = p := by
  cases o with
  | none =>
    cases p with
    | none => rfl
    | some q => cases h
  | some q =>
    cases p with
    | none => cases h
    | some r => rw [ChainPointer.ext_text (Option.some.inj h) (Option.some.inj hb)]

/-- A submission is determined by the text that is hashed for it. -/
theorem WalletSignedSubmission.text_injective {x y : WalletSignedSubmission}
    (h : x.text = y.text) : x = y := by
  have hv := fingerprintText_injective h
  simp only [List.cons.injEq, Scalar.string.injEq, and_true] at hv
  obtain ⟨h1, h2, h3, h4, h5, h6, h7, h8⟩ := hv
  cases x
  cases y
  simp_all only [mk.injEq, true_and]
  exact ⟨Blockchain.LaunchNetwork.text_injective h3, Timestamp.ext_text h8⟩

theorem WalletBroadcast.text_injective {x y : WalletBroadcast} (h : x.text = y.text) : x = y := by
  have hv := fingerprintText_injective h
  simp only [List.cons.injEq, Scalar.string.injEq, and_true] at hv
  obtain ⟨h1, h2, h3, h4, h5, h6, h7, h8⟩ := hv
  cases x
  cases y
  simp_all only [mk.injEq, true_and]
  exact ⟨Blockchain.LaunchNetwork.text_injective h4, WalletBroadcastOutcome.text_injective h6,
    Timestamp.ext_text h8⟩

theorem Reconciliation.text_injective {x y : Reconciliation} (h : x.text = y.text) : x = y := by
  have hv := fingerprintText_injective h
  simp only [List.cons.injEq, Scalar.string.injEq, and_true] at hv
  obtain ⟨h1, h2, h3, h4, h5, h6, h7, h8, h9, h10, h11, h12, h13, h14⟩ := hv
  cases x
  cases y
  simp_all only [mk.injEq, true_and]
  exact ⟨Blockchain.LaunchNetwork.text_injective h4, ReconciliationOutcome.text_injective h6,
    pointer_ext (optional_injective h7) (optional_injective h8), ChainPointer.ext_text h9 h10,
    optional_injective h11, optional_injective h12, Timestamp.ext_text h14⟩

end CryptoLending.MainnetActions.LifecycleData
