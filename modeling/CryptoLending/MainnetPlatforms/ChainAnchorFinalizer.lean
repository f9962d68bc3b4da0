import CryptoLending.MainnetPlatforms.ChainAnchorProducer

namespace CryptoLending.MainnetPlatforms.ChainAnchorFinalizer

open Lib Lib.JsObject Lib.IsoText Lib.IsoReading Blockchain.LaunchNetwork ChainAnchorData
open Lib.JsReading (isSha256)
open MainnetActions.FinalityPrerequisite (isSourceId)
open ChainAnchorProducer (Configuration IssuedCandidate reviewCandidate sourceIdentity)

inductive ErrorCode where
  | invalidConfiguration
  | invalidRequest
  | candidateUnavailable
  | staleAssessment
  | clockRegression
  deriving DecidableEq

section Requests

/-- The request of the producer that an assessment is about. -/
def reviewedProducerRequest (value : Datum) : Except ErrorCode ReviewedProducerRequest := do
  let code := ErrorCode.invalidRequest
  let record ← orFail (exactDataRecord value produceRequestKeys true false) code
  let networkId ← orFail (networkOf (record.get "networkId")) code
  let source ← orFail (sourceIdentity (record.get "sourceFamilyId") (record.get "sourceId")
    (record.get "sourceKind")) code
  failWhen (!hasHeader record produceUse) code
  let sourceObservationId ←
    orFail (readChecked isSourceObservationId (record.get "sourceObservationId")) code
  let continuityFloor ←
    orFail (readAnchor (record.get "continuityFloor") networkId true false) code
  let chainAnchor ← orFail (readAnchor (record.get "chainAnchor") networkId true false) code
  let observedAt ← orFail (timestamp (record.get "observedAt")) code
  let deadlineAt ← orFail (timestamp (record.get "deadlineAt")) code
  let signal ← orFail (record.get "signal").signal? code
  failWhen (sourceObservationId.text ≠ chainAnchor.observationId ∨
    !nonRegressing continuityFloor chainAnchor ∨
    deadlineAt.milliseconds ≤ observedAt.milliseconds) code
  return ⟨value, networkId, source, sourceObservationId, continuityFloor, chainAnchor, observedAt,
    deadlineAt, signal⟩

structure ReviewedAssessRequest where
  request : Datum
  producerCapability : Datum
  producerRequest : ReviewedProducerRequest
  signal : Reference

def finalityVersion : Int := 1

def assessUse : String := "DORMANT_PROVIDER_POSITION_CHAIN_ANCHOR_CANDIDATE_FINALITY_ASSESS_ONLY"

def assessRequestKeys : List String :=
  ["finalityVersion", "use", "mayAuthorizeFinancialAction", "mayPersist",
    "mayCreatePositionSnapshot", "producerCapability", "producerRequest", "signal"]

def reviewedAssessRequest (value : Datum) : Except ErrorCode ReviewedAssessRequest := do
  let code := ErrorCode.invalidRequest
  let record ← orFail (exactDataRecord value assessRequestKeys true false) code
  failWhen (!(record.get "finalityVersion").isNumber finalityVersion ∨
    !(record.get "use").isText assessUse ∨ !(record.get "mayAuthorizeFinancialAction").isFalse ∨
    !(record.get "mayPersist").isFalse ∨ !(record.get "mayCreatePositionSnapshot").isFalse) code
  let producerRequest ← reviewedProducerRequest (record.get "producerRequest")
  let signal ← orFail (record.get "signal").signal? code
  failWhen (signal ≠ producerRequest.signal) code
  return ⟨value, record.get "producerCapability", producerRequest, signal⟩

end Requests

section Candidates

structure ReviewedCandidate where
  candidate : Datum
  candidateAnchor : Anchor
  currentHead : Anchor
  finalizedHead : Anchor
  assessedAt : PlainTime
  currentHeadAdvancedAt : PlainTime
  finalizedHeadAdvancedAt : PlainTime
  lineageProofSha256 : Sha256
  approvalExpiresAt : PlainTime
  expiresAtExclusive : TimeValue

def candidateKeys : List String :=
  ["producerVersion", "use", "mayAuthorizeFinancialAction", "mayPersist", "recordArguments"]

def currentHeadLifetimeMilliseconds : MainnetLaunchNetworkId → Int
  | .eip155 => 60000
  | .solana => 15000

def finalizedHeadLifetimeMilliseconds : MainnetLaunchNetworkId → Int
  | .eip155 => 1800000
  | .solana => 90000

/-- The arguments of a candidate at their positions. -/
structure Arguments where
  source : SourceIdentity
  sourceObservationId : Datum
  continuityFloor : Anchor
  candidateAnchor : Anchor
  observedAt : PlainTime
  assessedAt : PlainTime
  currentHead : Anchor
  currentHeadAdvancedAt : PlainTime
  finalizedHead : Anchor
  finalizedHeadAdvancedAt : PlainTime
  identityProofSha256 : Sha256
  liveCapabilityProofSha256 : Sha256
  lineageProofSha256 : Sha256
  approvalExpiresAt : PlainTime

def readArguments (values : List Datum) (networkId : MainnetLaunchNetworkId) : Option Arguments := do
  let value := fun position => values.getD position .undefined
  let head := fun position => readAnchor (value position) networkId true true
  let proof := fun position => readChecked isSha256 (value position)
  guard ((value 0).isText networkId.text = true)
  let source ← sourceIdentity (value 1) (value 2) (value 3)
  let continuityFloor ← head 5
  let candidateAnchor ← head 6
  let observedAt ← timestamp (value 7)
  let assessedAt ← timestamp (value 8)
  let currentHead ← head 9
  let currentHeadAdvancedAt ← timestamp (value 10)
  let finalizedHead ← head 11
  let finalizedHeadAdvancedAt ← timestamp (value 12)
  let identityProofSha256 ← proof 13
  let liveCapabilityProofSha256 ← proof 14
  let lineageProofSha256 ← proof 15
  let approvalExpiresAt ← timestamp (value 22)
  return ⟨source, value 4, continuityFloor, candidateAnchor, observedAt, assessedAt, currentHead,
    currentHeadAdvancedAt, finalizedHead, finalizedHeadAdvancedAt, identityProofSha256,
    liveCapabilityProofSha256, lineageProofSha256, approvalExpiresAt⟩

/-- The arguments do not belong to a request, or not to each other. -/
def refuses (a : Arguments) (request : ReviewedProducerRequest) : Bool :=
  decide (a.source ≠ request.source) ||
    !a.sourceObservationId.isText request.sourceObservationId.text ||
    !sameAnchor a.continuityFloor request.continuityFloor ||
    !sameAnchor a.candidateAnchor request.chainAnchor ||
    decide (a.observedAt.toISOString ≠ request.observedAt.toISOString) ||
    !nonRegressing a.continuityFloor a.candidateAnchor ||
    !nonRegressing a.candidateAnchor a.currentHead ||
    !finalizedNotAhead a.finalizedHead a.currentHead ||
    decide (a.assessedAt.milliseconds < a.observedAt.milliseconds) ||
    decide (request.deadlineAt.milliseconds ≤ a.assessedAt.milliseconds) ||
    decide (a.assessedAt.milliseconds < a.currentHeadAdvancedAt.milliseconds) ||
    decide (a.assessedAt.milliseconds < a.finalizedHeadAdvancedAt.milliseconds) ||
    decide (a.approvalExpiresAt.milliseconds ≤ a.assessedAt.milliseconds) ||
    decide (¬[a.identityProofSha256.text, a.liveCapabilityProofSha256.text,
      a.lineageProofSha256.text].Nodup)

/-- The first instant at which a candidate may no longer be used. -/
def expiryMilliseconds (a : Arguments) (request : ReviewedProducerRequest) : Int :=
  min request.deadlineAt.milliseconds (min a.approvalExpiresAt.milliseconds
    (min (a.currentHeadAdvancedAt.milliseconds + currentHeadLifetimeMilliseconds request.networkId)
      (a.finalizedHeadAdvancedAt.milliseconds +
        finalizedHeadLifetimeMilliseconds request.networkId)))

def reviewedCandidate (value : Datum) (request : ReviewedProducerRequest) :
    Except ErrorCode ReviewedCandidate := do
  let code := ErrorCode.candidateUnavailable
  let record ← orFail (exactDataRecord value candidateKeys true true) code
  failWhen (!hasHeader record recordCandidateUse) code
  let values ← orFail (exactDataArray (record.get "recordArguments") 23 23 true) code
  let a ← orFail (readArguments values request.networkId) code
  failWhen (refuses a request) code
  let expiresAtExclusive ← orFail (TimeValue.ofMilliseconds (expiryMilliseconds a request)) code
  return ⟨value, a.candidateAnchor, a.currentHead, a.finalizedHead, a.assessedAt,
    a.currentHeadAdvancedAt, a.finalizedHeadAdvancedAt, a.lineageProofSha256, a.approvalExpiresAt,
    expiresAtExclusive⟩

end Candidates

section Classification

inductive Status where
  | pending
  | finalized
  | quarantined
  deriving DecidableEq

inductive Reason where
  | ethereumFinalizedHeightBelowCandidate
  | ethereumFinalizedHashMatch
  | ethereumFinalizedHashConflict
  | ethereumFinalizedLineageCoversCandidate
  | solanaFinalizedRootRegression
  | solanaFinalizedRootCoversCandidateSlot
  | solanaFinalizedRootBelowCandidateSlot
  deriving DecidableEq

structure Classification where
  status : Status
  reason : Reason
  comparedSolanaFinalizedRoot : Bool
  deriving DecidableEq

def classify (candidateAnchor finalizedHead : Anchor) : Except ErrorCode Classification :=
  match candidateAnchor, finalizedHead with
  | .evmBlock candidateNumber candidateHash, .evmBlock finalizedNumber finalizedHash =>
    if valueOf finalizedNumber < valueOf candidateNumber then
      .ok ⟨.pending, .ethereumFinalizedHeightBelowCandidate, false⟩
    else if valueOf finalizedNumber = valueOf candidateNumber then
      if finalizedHash.text = candidateHash.text then
        .ok ⟨.finalized, .ethereumFinalizedHashMatch, false⟩
      else .ok ⟨.quarantined, .ethereumFinalizedHashConflict, false⟩
    else .ok ⟨.finalized, .ethereumFinalizedLineageCoversCandidate, false⟩
  | .solanaSlot candidateSlot candidateObservedRoot _, .solanaSlot _ finalizedRoot _ =>
    if valueOf finalizedRoot < valueOf candidateObservedRoot then
      .ok ⟨.quarantined, .solanaFinalizedRootRegression, true⟩
    else if valueOf candidateSlot ≤ valueOf finalizedRoot then
      .ok ⟨.finalized, .solanaFinalizedRootCoversCandidateSlot, true⟩
    else .ok ⟨.pending, .solanaFinalizedRootBelowCandidateSlot, true⟩
  | _, _ => .error .candidateUnavailable

end Classification

section Assessment

/-- The result of an assessment, an object with a reference. -/
structure Assessment where
  reference : Reference
  networkId : MainnetLaunchNetworkId
  sourceObservationId : Checked isSourceObservationId
  candidateAnchor : Anchor
  agreedFinalizedHead : Anchor
  classification : Classification
  assessedAt : TimeValue
  expiresAtExclusive : TimeValue

structure IssuedAssessment where
  request : Datum
  producerCapability : Datum
  producerRequest : Datum
  candidate : Datum
  result : Assessment
  signal : Reference
  issuedAtMilliseconds : Int
  expiresAtExclusiveMilliseconds : Int

/-- What a finalizer remembers. -/
structure Finalizer where
  lastClockMilliseconds : Option Int
  issued : List IssuedAssessment

/-- What the outside answers during a call: the clocks of the finalizer and of its producer, and
the signal. -/
structure Answers (κ : Type) where
  clock : κ → Option TimeValue
  aborted : κ → Bool

/-- The moments at which an assessment looks at a clock or at the signal. -/
inductive AssessStage where
  | started
  | firstReview
  | firstCheck
  | beforeSecondReview
  | assessed
  | secondReview
  | issued
  deriving DecidableEq

/-- The moments at which a review of an assessment looks at a clock and at the signal. -/
inductive ReviewStage where
  | reviewed
  | producerReview
  | returned
  deriving DecidableEq

/-- A reading of the clock of the finalizer, which must not go back. -/
def clockTime (reading : Option TimeValue) : Transaction Finalizer ErrorCode TimeValue := do
  let now ← (orFail reading .invalidConfiguration : Except ErrorCode TimeValue)
  let state ← get
  failWhen (state.lastClockMilliseconds.any (fun last => decide (now.milliseconds < last)))
    ErrorCode.clockRegression
  modify fun state => { state with lastClockMilliseconds := some now.milliseconds }
  return now

def ensureCurrent (candidate : ReviewedCandidate) (now : TimeValue)
    (earliestAllowedMilliseconds : Int) (aborted : Bool) : Except ErrorCode Unit :=
  failWhen (now.milliseconds < earliestAllowedMilliseconds ∨
      now.milliseconds < candidate.assessedAt.milliseconds ∨
      candidate.expiresAtExclusive.milliseconds ≤ now.milliseconds ∨ aborted)
    (if now.milliseconds < earliestAllowedMilliseconds then .clockRegression else .staleAssessment)

variable (P : Configuration)

def reviewProducerCandidate (issued : List IssuedCandidate) (capability request : Datum)
    (clock : Option TimeValue) (aborted : Bool) : Except ErrorCode Datum :=
  (reviewCandidate P issued capability request clock aborted).mapError
    fun _ => ErrorCode.candidateUnavailable

/-- An assessment of a candidate of the producer, whose result is a new object with a reference. -/
def assessCandidate (issued : List IssuedCandidate) (reference : Reference) (value : Datum)
    (answers : Answers AssessStage) : Transaction Finalizer ErrorCode Assessment := do
  let request ← reviewedAssessRequest value
  let startedAt ← clockTime (answers.clock .started)
  failWhen (request.producerRequest.deadlineAt.milliseconds ≤ startedAt.milliseconds ∨
    answers.aborted .started) ErrorCode.staleAssessment
  let firstReview ← reviewProducerCandidate P issued request.producerCapability
    request.producerRequest.request (answers.clock .firstReview) (answers.aborted .firstReview)
  failWhen (firstReview.reference? ≠ request.producerCapability.reference?)
    ErrorCode.candidateUnavailable
  let candidate ← reviewedCandidate firstReview request.producerRequest
  ensureCurrent candidate startedAt candidate.assessedAt.milliseconds (answers.aborted .firstCheck)
  let classification ← classify candidate.candidateAnchor candidate.finalizedHead
  let beforeSecondReview ← clockTime (answers.clock .beforeSecondReview)
  ensureCurrent candidate beforeSecondReview startedAt.milliseconds
    (answers.aborted .beforeSecondReview)
  let assessedAt ← clockTime (answers.clock .assessed)
  ensureCurrent candidate assessedAt beforeSecondReview.milliseconds (answers.aborted .assessed)
  let secondReview ← reviewProducerCandidate P issued request.producerCapability
    request.producerRequest.request (answers.clock .secondReview) (answers.aborted .secondReview)
  failWhen (secondReview.reference? ≠ firstReview.reference? ∨
    secondReview.reference? ≠ candidate.candidate.reference?) ErrorCode.candidateUnavailable
  failWhen (answers.aborted .issued = true) ErrorCode.staleAssessment
  let result : Assessment := {
    reference := reference
    networkId := request.producerRequest.networkId
    sourceObservationId := request.producerRequest.sourceObservationId
    candidateAnchor := candidate.candidateAnchor
    agreedFinalizedHead := candidate.finalizedHead
    classification := classification
    assessedAt := assessedAt
    expiresAtExclusive := candidate.expiresAtExclusive }
  modify fun state => { state with issued := state.issued ++ [{
    request := request.request
    producerCapability := request.producerCapability
    producerRequest := request.producerRequest.request
    candidate := candidate.candidate
    result := result
    signal := request.signal
    issuedAtMilliseconds := assessedAt.milliseconds
    expiresAtExclusiveMilliseconds := candidate.expiresAtExclusive.milliseconds }] }
  return result

/-- The reading of the clock lies within the life of an issued assessment. -/
def ensureLive (issued : IssuedAssessment) (now : TimeValue) (earliest : Int) (aborted : Bool) :
    Except ErrorCode Unit :=
  failWhen (now.milliseconds < earliest ∨
      issued.expiresAtExclusiveMilliseconds ≤ now.milliseconds ∨ aborted)
    (if now.milliseconds < earliest then .clockRegression else .staleAssessment)

/-- What was issued with a capability, for whoever asks with the same request. -/
def issuedFor (state : Finalizer) (capability value : Datum) : Option IssuedAssessment := do
  let reference ← capability.reference?
  let a ← state.issued.find? fun a => a.result.reference == reference
  guard (a.request.reference? = value.reference?)
  return a

/-- An assessment is given back to whoever holds it and asks with the request it was issued for. -/
def reviewAssessment (issued : List IssuedCandidate) (capability value : Datum)
    (answers : Answers ReviewStage) : Transaction Finalizer ErrorCode (Option Assessment) := do
  let state ← get
  match issuedFor state capability value with
  | none => return none
  | some a => do
    let request ← reviewedAssessRequest value
    if request.producerCapability.reference? ≠ a.producerCapability.reference? ∨
        request.producerRequest.request.reference? ≠ a.producerRequest.reference? ∨
        request.signal ≠ a.signal then
      return none
    else
      let reviewedAt ← clockTime (answers.clock .reviewed)
      ensureLive a reviewedAt a.issuedAtMilliseconds (answers.aborted .reviewed)
      let producerReview ← reviewProducerCandidate P issued a.producerCapability
        a.producerRequest (answers.clock .producerReview) (answers.aborted .producerReview)
      failWhen (producerReview.reference? ≠ a.candidate.reference?) ErrorCode.candidateUnavailable
      let returnedAt ← clockTime (answers.clock .returned)
      ensureLive a returnedAt reviewedAt.milliseconds (answers.aborted .returned)
      return some a.result

end Assessment

end CryptoLending.MainnetPlatforms.ChainAnchorFinalizer
