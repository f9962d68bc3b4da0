import CryptoLending.Lib.IsoText
import CryptoLending.Lib.JsReading

namespace CryptoLending.MainnetPlatforms.ReconciliationResult

open Lib Lib.JsValue Lib.JsReading

def reconciliationVersion : Int := 1

def lifecycleVersion : Int := 1

def lifecycleUse : String :=
  "DORMANT_PROVIDER_POSITION_CHAIN_ANCHOR_RECORD_INTENT_RECONCILIATION_LIFECYCLE_ONLY"

def reconciliationResultUse : String :=
  "DORMANT_PROVIDER_POSITION_CHAIN_ANCHOR_RECORD_INTENT_RECONCILIATION_RESULT_ONLY"

inductive ReconciliationOutcome where
  | idle
  | recorded
  | notRecorded
  | deadlineViolation
  | deferred
  deriving DecidableEq

def ReconciliationOutcome.text : ReconciliationOutcome → String
  | .idle => "IDLE"
  | .recorded => "RECORDED"
  | .notRecorded => "NOT_RECORDED"
  | .deadlineViolation => "DEADLINE_VIOLATION"
  | .deferred => "DEFERRED"

/-- An outcome that resolves the intent. -/
def ReconciliationOutcome.isTerminal : ReconciliationOutcome → Bool
  | .recorded | .notRecorded | .deadlineViolation => true
  | .idle | .deferred => false

structure ReviewedReconciliationResult where
  outcome : ReconciliationOutcome
  retryNotBeforeMilliseconds : Option Int
  deriving DecidableEq

/-- The signal of a request. Which values are abort signals is up to the platform. -/
def reviewedRunRequest (isAbortSignal : Value → Bool) (value : Value) : Option Value := do
  let record ← exactDataRecord value
    ["lifecycleVersion", "use", "mayAuthorizeFinancialAction", "signal"]
  guard ((record.get "lifecycleVersion").isNumber lifecycleVersion = true)
  guard ((record.get "use").isText lifecycleUse = true)
  guard (isFalse (record.get "mayAuthorizeFinancialAction") = true)
  guard (isAbortSignal (record.get "signal") = true)
  return record.get "signal"

def commonResultKeys : List String :=
  ["reconciliationVersion", "use", "mayAuthorizeFinancialAction", "outcome"]

def terminalCommonKeys : List String :=
  commonResultKeys ++ ["recordIntentFingerprintSha256", "evidenceFingerprintSha256",
    "producerDeadlineAt", "resolvedAt"]

def recordedResultKeys : List String :=
  terminalCommonKeys ++ ["deadlineBindingSha256", "evidenceRecordedAt"]

def deadlineViolationResultKeys : List String := terminalCommonKeys ++ ["evidenceRecordedAt"]

def deferredResultKeys : List String :=
  commonResultKeys ++ ["recordIntentFingerprintSha256", "evidenceFingerprintSha256",
    "knownIntentState", "uncertainPhase", "retryNotBefore"]

def canonicalTimestamp (value : Value) : Option Int := value.string?.bind IsoDate.parse

def nonzeroSha256 (value : Value) : Option String := readText isSha256 value

def reviewedCommonResult (record : Record) : Option Unit := do
  guard ((record.get "reconciliationVersion").isNumber reconciliationVersion = true)
  guard ((record.get "use").isText reconciliationResultUse = true)
  guard (isFalse (record.get "mayAuthorizeFinancialAction") = true)

/-- What the outcome of a resolved intent says about the recording of its evidence. -/
def reviewedEvidence (record : Record) (producerDeadlineAt resolvedAt : Int) :
    ReconciliationOutcome → Option Unit
  | .recorded => do
    let _ ← nonzeroSha256 (record.get "deadlineBindingSha256")
    let evidenceRecordedAt ← canonicalTimestamp (record.get "evidenceRecordedAt")
    guard (evidenceRecordedAt < producerDeadlineAt ∧ evidenceRecordedAt ≤ resolvedAt)
  | .deadlineViolation => do
    let evidenceRecordedAt ← canonicalTimestamp (record.get "evidenceRecordedAt")
    guard (evidenceRecordedAt ≤ resolvedAt)
  | _ => some ()

def reviewedTerminalResult (value : Value) (keys : List String) (outcome : ReconciliationOutcome) :
    Option ReviewedReconciliationResult := do
  let record ← exactDataRecord value keys
  reviewedCommonResult record
  guard ((record.get "outcome").isText outcome.text = true)
  let _ ← nonzeroSha256 (record.get "recordIntentFingerprintSha256")
  let _ ← nonzeroSha256 (record.get "evidenceFingerprintSha256")
  let producerDeadlineAt ← canonicalTimestamp (record.get "producerDeadlineAt")
  let resolvedAt ← canonicalTimestamp (record.get "resolvedAt")
  guard (producerDeadlineAt ≤ resolvedAt)
  reviewedEvidence record producerDeadlineAt resolvedAt outcome
  return ⟨outcome, none⟩

def reviewedIdleResult (value : Value) : Option ReviewedReconciliationResult := do
  let record ← exactDataRecord value commonResultKeys
  reviewedCommonResult record
  return ⟨.idle, none⟩

def knownIntentStates : List String := ["NEW", "RECORD_DISPATCHED", "UNKNOWN"]

def reviewedDeferredResult (value : Value) : Option ReviewedReconciliationResult := do
  let record ← exactDataRecord value deferredResultKeys
  reviewedCommonResult record
  guard ((record.get "outcome").isText "DEFERRED" = true)
  let hasLeaseIdentity := !(record.get "recordIntentFingerprintSha256").isNull
  guard (["evidenceFingerprintSha256", "knownIntentState", "retryNotBefore"].all fun key =>
    hasLeaseIdentity == !(record.get key).isNull)
  if hasLeaseIdentity then
    let _ ← nonzeroSha256 (record.get "recordIntentFingerprintSha256")
    let _ ← nonzeroSha256 (record.get "evidenceFingerprintSha256")
    guard (knownIntentStates.any (record.get "knownIntentState").isText = true)
    guard ((record.get "uncertainPhase").isText "RECONCILE_RECORD" = true)
    let retryNotBefore ← canonicalTimestamp (record.get "retryNotBefore")
    return ⟨.deferred, some retryNotBefore⟩
  else
    guard ((record.get "uncertainPhase").isText "LEASE_RECONCILIATION" = true)
    return ⟨.deferred, none⟩

/-- What a result of the port says. -/
def reviewedPortResult (value : Value) : Option ReviewedReconciliationResult := do
  match (← ownValue value "outcome") with
  | .string "IDLE" => reviewedIdleResult value
  | .string "RECORDED" => reviewedTerminalResult value recordedResultKeys .recorded
  | .string "NOT_RECORDED" => reviewedTerminalResult value terminalCommonKeys .notRecorded
  | .string "DEADLINE_VIOLATION" =>
    reviewedTerminalResult value deadlineViolationResultKeys .deadlineViolation
  | .string "DEFERRED" => reviewedDeferredResult value
  | _ => none

end CryptoLending.MainnetPlatforms.ReconciliationResult
