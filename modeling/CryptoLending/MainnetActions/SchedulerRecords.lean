import CryptoLending.Lib.IsoReading
import CryptoLending.MainnetActions.LifecycleData

namespace CryptoLending.MainnetActions.SchedulerRecords

open Lib Lib.Text Lib.Identifier Lib.JsValue Lib.IsoText Lib.IsoReading Blockchain.LaunchNetwork
  Wallets.Base58 Intent LifecycleData

-- An object among the values of this module is frozen and has the plain prototype.

inductive Queue where
  | preBroadcast
  | reconciliation
  deriving DecidableEq

def Queue.text : Queue → String
  | .preBroadcast => "PRE_BROADCAST"
  | .reconciliation => "RECONCILIATION"

inductive FailureCode where
  | invalidConfiguration
  | invalidRequest
  | claimUnavailable
  | claimExpired
  | crossQueueClaim
  deriving DecidableEq

def schedulerVersion : Int := 1

def maximumLeaseMilliseconds : Int := 15 * 60 * 1000

def minimumLeaseMilliseconds : Int := 1000

/-- The attempt policy. -/
def Queue.maximumAttempts : Queue → Nat
  | .preBroadcast => 3
  | .reconciliation => 12

def Queue.claimUse : Queue → String
  | .preBroadcast => "DORMANT_MAINNET_FINANCIAL_ACTION_PRE_BROADCAST_CLAIM_ONLY"
  | .reconciliation => "DORMANT_MAINNET_FINANCIAL_ACTION_RECONCILIATION_CLAIM_ONLY"

def Queue.completionUse : Queue → String
  | .preBroadcast => "DORMANT_MAINNET_FINANCIAL_ACTION_PRE_BROADCAST_COMPLETION_ONLY"
  | .reconciliation => "DORMANT_MAINNET_FINANCIAL_ACTION_RECONCILIATION_COMPLETION_ONLY"

def sourceClaimUse : String := "DORMANT_MAINNET_FINANCIAL_ACTION_DURABLE_SOURCE_CLAIM_ONLY"

def sourceCompletionUse : String :=
  "DORMANT_MAINNET_FINANCIAL_ACTION_DURABLE_SOURCE_COMPLETION_ONLY"

section Keys

def authorityKeys : List String :=
  ["mayAuthorizeFinancialAction", "mayConstructTransaction", "apiMaySign", "apiMayBroadcast",
    "mayResubmitTransaction", "ledgerSettlementAuthority"]

def claimRequestKeys : List String :=
  ["schedulerVersion", "use", "mayPersist"] ++ authorityKeys ++ ["signal"]

def sourceClaimKeys : List String :=
  ["schedulerVersion", "use", "mayPersist"] ++ authorityKeys ++
    ["queue", "job", "attempt", "leaseId", "fencingToken", "claimedAt", "leaseExpiresAt"]

def jobKeys : List String :=
  ["schedulerVersion"] ++ authorityKeys ++
    ["jobId", "accountId", "intentId", "intentRecordFingerprintSha256", "networkId", "action",
      "lifecycleRevision", "lifecycleSnapshotSha256", "queue", "purpose", "lifecycleStage",
      "transactionId", "reconciliationOutcome"]

def completionRequestKeys : List String :=
  ["schedulerVersion", "use", "mayPersist"] ++ authorityKeys ++
    ["claimCapability", "claimRequest", "signal", "disposition"]

def sourceCompletionKeys : List String :=
  ["schedulerVersion", "use", "mayPersist"] ++ authorityKeys ++
    ["recordOutcome", "queue", "jobId", "accountId", "intentId", "lifecycleRevision",
      "lifecycleSnapshotSha256", "attempt", "maximumAttempts", "leaseId", "fencingToken",
      "requestedDisposition", "completionDisposition", "resultingJobStatus", "completedAt"]

end Keys

section Readers

def exactFrozenRecord (value : Value) (keys : List String) (code : FailureCode) :
    Except FailureCode Record := orFail (exactDataRecord value keys) code

def isFalse : Value → Bool
  | .boolean false => true
  | _ => false

def deniesAuthority (record : Record) : Bool :=
  authorityKeys.all (fun key => isFalse (record.get key))

def assertDeniedAuthority (record : Record) (code : FailureCode) : Except FailureCode Unit :=
  failWhen (!deniesAuthority record || !isFalse (record.get "mayPersist")) code

def timestamp (value : Value) (code : FailureCode) : Except FailureCode TimeValue :=
  orFail (value.string?.bind ofISOString) code

def isPositiveUint64 (cs : List Char) : Bool :=
  cs.length ≤ 20 && isPositiveUint cs && decimalValue cs ≤ maxUint64

def positiveUint64 (value : Value) : Except FailureCode String :=
  textOf isPositiveUint64 value .claimUnavailable

def decodeBase58Length (cs : List Char) : Nat := ((decodeCharacters cs).map List.length).getD 0

def isEvmTransactionId (cs : List Char) : Bool :=
  (hexDigits? cs).any (fun ds => ds.length == 64 && ds.all isLowerHex)

def isSolanaTransactionId (cs : List Char) : Bool :=
  64 ≤ cs.length && cs.length ≤ 88 && isBase58 cs && decodeBase58Length cs == 64

def transactionId (networkId : MainnetLaunchNetworkId) (value : Value) :
    Except FailureCode String :=
  match networkId with
  | .eip155 => textOf isEvmTransactionId value .claimUnavailable
  | .solana => textOf isSolanaTransactionId value .claimUnavailable

end Readers

section Jobs

/-- A job of either queue. -/
structure ScheduledJob where
  jobId : String
  accountId : String
  intentId : String
  intentRecordFingerprintSha256 : String
  networkId : MainnetLaunchNetworkId
  action : MainnetFinancialAction
  lifecycleRevision : String
  lifecycleSnapshotSha256 : String
  purpose : String
  lifecycleStage : String
  transactionId : Option String
  reconciliationOutcome : Option String
  deriving DecidableEq

/-- The job of the common fields, with those of its queue. -/
def validateJobCommon (record : Record) (purpose lifecycleStage : String)
    (transactionId reconciliationOutcome : Option String) : Except FailureCode ScheduledJob := do
  failWhen (!(record.get "schedulerVersion").isNumber schedulerVersion) .claimUnavailable
  failWhen (!deniesAuthority record) .claimUnavailable
  let jobId ← uuid (record.get "jobId") .claimUnavailable
  let accountId ← uuid (record.get "accountId") .claimUnavailable
  let intentId ← uuid (record.get "intentId") .claimUnavailable
  failWhen (¬[jobId, accountId, intentId].Nodup) .claimUnavailable
  let networkId ← orFail ((record.get "networkId").string?.bind ofText) .claimUnavailable
  let action ← orFail ([MainnetFinancialAction.supply, .withdraw].find? (fun action =>
    (record.get "action").isText action.text)) .claimUnavailable
  let intentRecordFingerprintSha256 ← digest (record.get "intentRecordFingerprintSha256")
    .claimUnavailable
  let lifecycleRevision ← positiveUint64 (record.get "lifecycleRevision")
  let lifecycleSnapshotSha256 ← digest (record.get "lifecycleSnapshotSha256") .claimUnavailable
  return ⟨jobId, accountId, intentId, intentRecordFingerprintSha256, networkId, action,
    lifecycleRevision, lifecycleSnapshotSha256, purpose, lifecycleStage, transactionId,
    reconciliationOutcome⟩

def validatePreBroadcastJob (value : Value) : Except FailureCode ScheduledJob := do
  let record ← exactFrozenRecord value jobKeys .claimUnavailable
  let job ← validateJobCommon record "PRE_BROADCAST_SAFETY_REVIEW" "PREPARED" none none
  failWhen (!(record.get "queue").isText "PRE_BROADCAST" ||
    !(record.get "purpose").isText "PRE_BROADCAST_SAFETY_REVIEW" ||
    !(record.get "lifecycleStage").isText "PREPARED" || job.lifecycleRevision != "1" ||
    !(record.get "transactionId").isNull || !(record.get "reconciliationOutcome").isNull)
    .claimUnavailable
  return job

/-- The purposes and outcomes that go with a stage and its revision. -/
def isCoherent (revision : Nat) (lifecycleStage purpose : String)
    (reconciliationOutcome : Option String) : Bool :=
  (lifecycleStage == "WALLET_SIGNED_SUBMISSION_BOUND" && revision == 2 &&
    purpose == "RECONCILIATION_ADMISSION" && reconciliationOutcome == none) ||
  (lifecycleStage == "BROADCAST_OUTCOME_AMBIGUOUS" && 3 ≤ revision &&
    purpose == "RECONCILIATION_ADMISSION" && reconciliationOutcome == none) ||
  (lifecycleStage == "RECONCILIATION_AMBIGUOUS" && 3 ≤ revision &&
    purpose == "RECONCILIATION_ADMISSION" &&
    (reconciliationOutcome == some "PENDING" || reconciliationOutcome == some "UNKNOWN")) ||
  (lifecycleStage == "FINALIZED_SUCCESS" && 3 ≤ revision &&
    purpose == "POST_FINALITY_REVIEW" && reconciliationOutcome == some "FINALIZED_SUCCESS") ||
  (lifecycleStage == "FINALIZED_FAILURE" && 3 ≤ revision &&
    purpose == "POST_FINALITY_REVIEW" && reconciliationOutcome == some "FINALIZED_FAILURE")

/-- A text or null. -/
def nullableText (value : Value) : Except FailureCode (Option String) :=
  if value.isNull then .ok none else (orFail value.string? .claimUnavailable).map some

def validateReconciliationJob (value : Value) : Except FailureCode ScheduledJob := do
  let record ← exactFrozenRecord value jobKeys .claimUnavailable
  let lifecycleStage ← orFail (record.get "lifecycleStage").string? .claimUnavailable
  let purpose ← orFail (record.get "purpose").string? .claimUnavailable
  let reconciliationOutcome ← nullableText (record.get "reconciliationOutcome")
  let text ← orFail (record.get "transactionId").string? .claimUnavailable
  let job ← validateJobCommon record purpose lifecycleStage (some text) reconciliationOutcome
  let revision := decimalValue job.lifecycleRevision.toList
  failWhen (!(record.get "queue").isText "RECONCILIATION" || revision < 2) .claimUnavailable
  let _ ← transactionId job.networkId (record.get "transactionId")
  failWhen (!isCoherent revision lifecycleStage purpose reconciliationOutcome) .claimUnavailable
  return job

end Jobs

section Claims

structure ClaimView where
  queue : Queue
  job : ScheduledJob
  attempt : Nat
  maximumAttempts : Nat
  leaseId : String
  fencingToken : String
  claimedAt : TimeValue
  leaseExpiresAt : TimeValue
  deriving DecidableEq

def sourceClaim (value : Value) (queue : Queue) (now : TimeValue) :
    Except FailureCode ClaimView := do
  let record ← exactFrozenRecord value sourceClaimKeys .claimUnavailable
  assertDeniedAuthority record .claimUnavailable
  failWhen (!(record.get "schedulerVersion").isNumber schedulerVersion ||
    !(record.get "use").isText sourceClaimUse || !(record.get "queue").isText queue.text)
    .claimUnavailable
  let attempt ← orFail (record.get "attempt").integer? .claimUnavailable
  let job ← match queue with
    | .preBroadcast => validatePreBroadcastJob (record.get "job")
    | .reconciliation => validateReconciliationJob (record.get "job")
  failWhen (attempt < 1 ∨ attempt > queue.maximumAttempts) .claimUnavailable
  let leaseId ← uuid (record.get "leaseId") .claimUnavailable
  failWhen (leaseId ∈ [job.jobId, job.accountId, job.intentId]) .claimUnavailable
  let claimedAt ← timestamp (record.get "claimedAt") .claimUnavailable
  let leaseExpiresAt ← timestamp (record.get "leaseExpiresAt") .claimUnavailable
  let leaseLength := leaseExpiresAt.milliseconds - claimedAt.milliseconds
  failWhen (claimedAt.milliseconds > now.milliseconds ∨
    leaseExpiresAt.milliseconds ≤ now.milliseconds ∨ leaseLength < minimumLeaseMilliseconds ∨
    leaseLength > maximumLeaseMilliseconds) .claimExpired
  let fencingToken ← positiveUint64 (record.get "fencingToken")
  return ⟨queue, job, attempt.toNat, queue.maximumAttempts, leaseId, fencingToken, claimedAt,
    leaseExpiresAt⟩

end Claims

section Completions

inductive CompletionDisposition where
  | completed
  | terminalFailure
  | releasePreBroadcastOnly
  | releaseReconciliationOnly
  | manualReviewRequired
  | attemptLimitReached
  deriving DecidableEq

def CompletionDisposition.text : CompletionDisposition → String
  | .completed => "COMPLETED"
  | .terminalFailure => "TERMINAL_FAILURE"
  | .releasePreBroadcastOnly => "RELEASE_PRE_BROADCAST_ONLY"
  | .releaseReconciliationOnly => "RELEASE_RECONCILIATION_ONLY"
  | .manualReviewRequired => "MANUAL_REVIEW_REQUIRED"
  | .attemptLimitReached => "ATTEMPT_LIMIT_REACHED"

/-- The status that a completed row must have. -/
def CompletionDisposition.resultingJobStatus : CompletionDisposition → String
  | .completed => "COMPLETED"
  | .releasePreBroadcastOnly | .releaseReconciliationOnly => "READY"
  | .terminalFailure | .manualReviewRequired | .attemptLimitReached => "MANUAL_REVIEW"

def Queue.dispositions : Queue → List String
  | .preBroadcast => ["PRE_BROADCAST_REVIEW_COMPLETED", "RETRY_PRE_BROADCAST_REVIEW_ONLY",
      "PRE_BROADCAST_TERMINAL_FAILURE"]
  | .reconciliation => ["RECONCILIATION_COMPLETED", "RETRY_RECONCILIATION_ONLY",
      "MANUAL_REVIEW_REQUIRED"]

/-- The disposition of a completion, and the queue that the job returns to. -/
def completionDisposition (requested : String) (attempt maximumAttempts : Nat) :
    CompletionDisposition × Option Queue :=
  if requested = "RETRY_PRE_BROADCAST_REVIEW_ONLY" then
    if attempt < maximumAttempts then (.releasePreBroadcastOnly, some .preBroadcast)
    else (.attemptLimitReached, none)
  else if requested = "RETRY_RECONCILIATION_ONLY" then
    if attempt < maximumAttempts then (.releaseReconciliationOnly, some .reconciliation)
    else (.attemptLimitReached, none)
  else if requested = "MANUAL_REVIEW_REQUIRED" then (.manualReviewRequired, none)
  else if requested = "PRE_BROADCAST_TERMINAL_FAILURE" then (.terminalFailure, none)
  else (.completed, none)

structure CompletionResult where
  queue : Queue
  view : ClaimView
  completedAt : TimeValue
  requestedDisposition : String
  completionDisposition : CompletionDisposition
  nextQueue : Option Queue
  deriving DecidableEq

/-- The result of a completion that agrees with the claim, and was made during its lease. -/
def sourceCompletion (value : Value) (queue : Queue) (view : ClaimView) (disposition : String) :
    Except FailureCode CompletionResult := do
  let record ← exactFrozenRecord value sourceCompletionKeys .claimUnavailable
  assertDeniedAuthority record .claimUnavailable
  let job := view.job
  failWhen (!(record.get "schedulerVersion").isNumber schedulerVersion ||
    !(record.get "use").isText sourceCompletionUse ||
    (!(record.get "recordOutcome").isText "RECORDED" &&
      !(record.get "recordOutcome").isText "REPLAYED") ||
    !(record.get "queue").isText queue.text || !(record.get "jobId").isText job.jobId ||
    !(record.get "accountId").isText job.accountId ||
    !(record.get "intentId").isText job.intentId ||
    !(record.get "lifecycleRevision").isText job.lifecycleRevision ||
    !(record.get "lifecycleSnapshotSha256").isText job.lifecycleSnapshotSha256 ||
    !(record.get "attempt").isNumber view.attempt ||
    !(record.get "maximumAttempts").isNumber view.maximumAttempts ||
    !(record.get "leaseId").isText view.leaseId ||
    !(record.get "fencingToken").isText view.fencingToken ||
    !(record.get "requestedDisposition").isText disposition) .claimUnavailable
  let (expected, nextQueue) := completionDisposition disposition view.attempt view.maximumAttempts
  failWhen (!(record.get "completionDisposition").isText expected.text ||
    !(record.get "resultingJobStatus").isText expected.resultingJobStatus) .claimUnavailable
  let completedAt ← timestamp (record.get "completedAt") .claimUnavailable
  failWhen (completedAt.milliseconds < view.claimedAt.milliseconds ∨
    completedAt.milliseconds ≥ view.leaseExpiresAt.milliseconds) .claimUnavailable
  return ⟨queue, view, completedAt, disposition, expected, nextQueue⟩

end Completions

end CryptoLending.MainnetActions.SchedulerRecords
