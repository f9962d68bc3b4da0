import CryptoLending.Lib.Machine
import CryptoLending.Lib.Sorting
import CryptoLending.Lib.Transaction
import CryptoLending.MainnetPlatforms.ChainAnchorData

namespace CryptoLending.MainnetPlatforms.ChainAnchorProducer

open Lib Lib.JsObject Lib.IsoText Lib.IsoReading Blockchain.LaunchNetwork ChainAnchorData
open Lib.JsReading (isSha256)
open MainnetActions.FinalityPrerequisite (isSourceId isApprovalId)

inductive FailureCode where
  | invalidConfiguration
  | invalidRequest
  | unapprovedSourcePair
  | sourceUnavailable
  | sourceAttestationInvalid
  | sourceDisagreement
  | staleEvidence
  deriving DecidableEq

section Registry

/-- Two approved sources of a network, of different families and with different ids. -/
structure SourcePair where
  networkId : MainnetLaunchNetworkId
  approvalId : Checked isApprovalId
  approvedAt : PlainTime
  expiresAt : PlainTime
  primary : SourceIdentity
  corroborating : SourceIdentity
  approved : approvedAt.milliseconds < expiresAt.milliseconds
  families : primary.sourceFamilyId ≠ corroborating.sourceFamilyId
  sources : primary.sourceId ≠ corroborating.sourceId

def sourceIdentity (family source kind : Datum) : Option SourceIdentity := do
  let sourceFamilyId ← readChecked isSourceId family
  let sourceId ← readChecked isSourceId source
  let sourceKind ← readSourceKind kind
  return ⟨sourceFamilyId, sourceId, sourceKind⟩

def readSourceIdentity (value : Datum) : Option SourceIdentity := do
  let record ← exactDataRecord value ["sourceFamilyId", "sourceId", "sourceKind"] false false
  sourceIdentity (record.get "sourceFamilyId") (record.get "sourceId") (record.get "sourceKind")

/-- A separator that is in no id. -/
def identityKey (identity : SourceIdentity) : String :=
  identity.sourceFamilyId.text ++ "\x00" ++ identity.sourceId.text

def pair (value : Datum) : Option SourcePair := do
  let record ← exactDataRecord value
    ["networkId", "approvalId", "approvedAt", "expiresAt", "primary", "corroborating"] false false
  let networkId ← networkOf (record.get "networkId")
  let approvedAt ← timestamp (record.get "approvedAt")
  let expiresAt ← timestamp (record.get "expiresAt")
  let primary ← readSourceIdentity (record.get "primary")
  let corroborating ← readSourceIdentity (record.get "corroborating")
  let approvalId ← readChecked isApprovalId (record.get "approvalId")
  guard (identityKey primary < identityKey corroborating)
  if h : approvedAt.milliseconds < expiresAt.milliseconds ∧
      primary.sourceFamilyId ≠ corroborating.sourceFamilyId ∧
      primary.sourceId ≠ corroborating.sourceId then
    some ⟨networkId, approvalId, approvedAt, expiresAt, primary, corroborating, h.1, h.2.1, h.2.2⟩
  else none

structure RegistryContent where
  isApproved : Bool
  pairs : List SourcePair

structure Registry extends RegistryContent where
  fingerprintSha256 : Sha256

def readApprovalStatus (value : Datum) : Option Bool :=
  if value.isText "NOT_APPROVED" then some false
  else if value.isText "APPROVED" then some true
  else none

def registryContent (version environment approvalStatus pairs : Datum) :
    Option RegistryContent := do
  guard (version.isNumber producerVersion = true)
  guard (environment.isText "MAINNET" = true)
  let isApproved ← readApprovalStatus approvalStatus
  let values ← exactDataArray pairs 0 2 false
  let pairs ← values.mapM pair
  let pairs := pairs.mergeSort fun left right => left.networkId.text ≤ right.networkId.text
  guard ((pairs.map SourcePair.networkId).Nodup)
  guard (if isApproved then mainnetLaunchNetworkIds.all (pairs.map SourcePair.networkId).contains
    else pairs.isEmpty)
  return ⟨isApproved, pairs⟩

/-- The digest of the JSON text of a value, which tells no two values apart by their identities. -/
abbrev Fingerprint := Datum → HexDigest

def identityDatum (identity : SourceIdentity) : Datum :=
  frozenArray 0 [.string identity.sourceFamilyId.text, .string identity.sourceId.text,
    .string identity.sourceKind.text]

def canonicalRegistryFingerprint (fingerprint : Fingerprint) (content : RegistryContent) :
    HexDigest :=
  fingerprint (frozenArray 0
    [.string "crypto-lending:provider-position-chain-anchor-evidence-source-pair-registry:v1",
      .number producerVersion, .string "MAINNET",
      .string (if content.isApproved then "APPROVED" else "NOT_APPROVED"),
      frozenArray 0 (content.pairs.map fun p => frozenArray 0
        [.string p.networkId.text, .string p.approvalId.text, timestampDatum p.approvedAt.toTimeValue,
          timestampDatum p.expiresAt.toTimeValue, identityDatum p.primary, identityDatum p.corroborating])])

def registry (fingerprint : Fingerprint) (value : Datum) : Option Registry := do
  let record ← exactDataRecord value
    ["schemaVersion", "environment", "approvalStatus", "pairs", "fingerprintSha256"] false false
  let content ← registryContent (record.get "schemaVersion") (record.get "environment")
    (record.get "approvalStatus") (record.get "pairs")
  let fingerprintSha256 ← readChecked isSha256 (record.get "fingerprintSha256")
  guard (fingerprintSha256.text = (canonicalRegistryFingerprint fingerprint content).text)
  return { content with fingerprintSha256 }

end Registry

section Bindings

inductive SourceRole where
  | primary
  | corroborating
  deriving DecidableEq

def SourcePair.identity (p : SourcePair) : SourceRole → SourceIdentity
  | .primary => p.primary
  | .corroborating => p.corroborating

structure SourceBinding where
  networkId : MainnetLaunchNetworkId
  role : SourceRole
  identity : SourceIdentity
  receiver : Reference
  deriving DecidableEq

def bindingFor (available : List SourceBinding) (selected : SourcePair) (role : SourceRole) :
    Except FailureCode SourceBinding :=
  orFail (available.find? fun b => decide (b.networkId = selected.networkId ∧ b.role = role ∧
    b.identity = selected.identity role)) .invalidConfiguration

end Bindings

section Requests

/-- The request of a caller, whose signal must not be aborted. -/
def produceRequest (value : Datum) (aborted : Bool) :
    Except FailureCode ReviewedProducerRequest := do
  let code := FailureCode.invalidRequest
  let record ← orFail (exactDataRecord value produceRequestKeys true false) code
  let networkId ← orFail (networkOf (record.get "networkId")) code
  let source ← orFail (sourceIdentity (record.get "sourceFamilyId") (record.get "sourceId")
    (record.get "sourceKind")) code
  failWhen (!hasHeader record produceUse) code
  let sourceObservationId ←
    orFail (readChecked isSourceObservationId (record.get "sourceObservationId")) code
  let continuityFloor ←
    orFail (readAnchor (record.get "continuityFloor") networkId true false) code
  let chainAnchor ← orFail (readAnchor (record.get "chainAnchor") networkId true false) code
  let observedAt ← orFail (timestamp (record.get "observedAt")) code
  let deadlineAt ← orFail (timestamp (record.get "deadlineAt")) code
  let signal ← orFail (record.get "signal").signal? code
  failWhen (sourceObservationId.text ≠ chainAnchor.observationId ∨
    !nonRegressing continuityFloor chainAnchor ∨
    deadlineAt.milliseconds ≤ observedAt.milliseconds ∨ aborted) code
  return ⟨value, networkId, source, sourceObservationId, continuityFloor, chainAnchor, observedAt,
    deadlineAt, signal⟩

end Requests

section Attestations

structure ReviewedAttestation where
  binding : SourceBinding
  assessedAt : PlainTime
  currentHead : Anchor
  currentHeadAdvancedAt : PlainTime
  finalizedHead : Anchor
  finalizedHeadAdvancedAt : PlainTime
  identityProofSha256 : Sha256
  liveCapabilityProofSha256 : Sha256
  lineageProofSha256 : Sha256

def sourceVersion : Int := 1

def sourceAttestationUse : String :=
  "DORMANT_PROVIDER_POSITION_CHAIN_ANCHOR_EVIDENCE_SOURCE_ATTESTATION_ONLY"

def sourceAttestationKeys : List String :=
  ["sourceVersion", "use", "mayAuthorizeFinancialAction", "mayPersist", "networkId",
    "sourceFamilyId", "sourceId", "sourceKind", "sourceObservationId", "continuityFloor",
    "chainAnchor", "observedAt", "assessedAt", "currentHead", "currentHeadAdvancedAt",
    "finalizedHead", "finalizedHeadAdvancedAt", "identityProofSha256",
    "liveCapabilityProofSha256", "lineageProofSha256"]

/-- The fields of an attestation that repeat the request and the binding. -/
def repeatsRequest (record : Fields) (binding : SourceBinding)
    (request : ReviewedProducerRequest) : Bool :=
  (record.get "sourceVersion").isNumber sourceVersion &&
    (record.get "use").isText sourceAttestationUse &&
    (record.get "mayAuthorizeFinancialAction").isFalse && (record.get "mayPersist").isFalse &&
    (record.get "networkId").isText request.networkId.text &&
    (record.get "sourceFamilyId").isText binding.identity.sourceFamilyId.text &&
    (record.get "sourceId").isText binding.identity.sourceId.text &&
    (record.get "sourceKind").isText binding.identity.sourceKind.text &&
    (record.get "sourceObservationId").isText request.sourceObservationId.text &&
    (record.get "observedAt").isText request.observedAt.toISOString

/-- What a source attests, read between the evaluation and the completion of the reads. -/
def attestation (capability : Datum) (binding : SourceBinding) (request : ReviewedProducerRequest)
    (evaluatedAt completed : TimeValue) : Except FailureCode ReviewedAttestation := do
  let code := FailureCode.sourceAttestationInvalid
  let record ← orFail (exactDataRecord capability sourceAttestationKeys true false) code
  failWhen (!repeatsRequest record binding request) code
  let head := fun key => orFail (readAnchor (record.get key) request.networkId true false) code
  let continuityFloor ← head "continuityFloor"
  let chainAnchor ← head "chainAnchor"
  let currentHead ← head "currentHead"
  let finalizedHead ← head "finalizedHead"
  let assessedAt ← orFail (timestamp (record.get "assessedAt")) code
  let currentHeadAdvancedAt ← orFail (timestamp (record.get "currentHeadAdvancedAt")) code
  let finalizedHeadAdvancedAt ← orFail (timestamp (record.get "finalizedHeadAdvancedAt")) code
  failWhen (!sameAnchor continuityFloor request.continuityFloor ∨
    !sameAnchor chainAnchor request.chainAnchor ∨ !nonRegressing chainAnchor currentHead ∨
    !finalizedNotAhead finalizedHead currentHead ∨
    assessedAt.milliseconds < request.observedAt.milliseconds ∨
    assessedAt.milliseconds < evaluatedAt.milliseconds ∨
    completed.milliseconds < assessedAt.milliseconds ∨
    assessedAt.milliseconds < currentHeadAdvancedAt.milliseconds ∨
    assessedAt.milliseconds < finalizedHeadAdvancedAt.milliseconds) code
  let identityProofSha256 ← orFail (readChecked isSha256 (record.get "identityProofSha256")) code
  let liveCapabilityProofSha256 ←
    orFail (readChecked isSha256 (record.get "liveCapabilityProofSha256")) code
  let lineageProofSha256 ← orFail (readChecked isSha256 (record.get "lineageProofSha256")) code
  return ⟨binding, assessedAt, currentHead, currentHeadAdvancedAt, finalizedHead,
    finalizedHeadAdvancedAt, identityProofSha256, liveCapabilityProofSha256, lineageProofSha256⟩

/-- How long a current head is fresh. -/
def currentLifetime : MainnetLaunchNetworkId → Int
  | .eip155 => 60000
  | .solana => 15000

/-- How long a finalized head is fresh. -/
def finalizedLifetime : MainnetLaunchNetworkId → Int
  | .eip155 => 1800000
  | .solana => 90000

def ensureHeadTimesCurrent (networkId : MainnetLaunchNetworkId)
    (currentHeadAdvancedAt finalizedHeadAdvancedAt completed : Int) : Except FailureCode Unit :=
  failWhen (completed < currentHeadAdvancedAt ∨
    currentHeadAdvancedAt + currentLifetime networkId ≤ completed ∨
    completed < finalizedHeadAdvancedAt ∨
    finalizedHeadAdvancedAt + finalizedLifetime networkId ≤ completed) .staleEvidence

def ensureCurrent (a : ReviewedAttestation) (networkId : MainnetLaunchNetworkId)
    (completed : TimeValue) : Except FailureCode Unit :=
  ensureHeadTimesCurrent networkId a.currentHeadAdvancedAt.milliseconds
    a.finalizedHeadAdvancedAt.milliseconds completed.milliseconds

end Attestations

section Production

/-- What a producer is made of. -/
structure Configuration where
  fingerprint : Fingerprint
  registry : Registry
  bindings : List SourceBinding

/-- The moments at which a producer looks at its clock and at the signal of the request. -/
inductive Stage where
  | requested
  | evaluated
  | settled
  | verified
  | assessed
  | issued
  deriving DecidableEq

/-- What the outside answers during a call: the signal, the clock, what the reads were fulfilled
with, and whether the sources stand by it. -/
structure Answers where
  aborted : Stage → Bool
  clock : Stage → Option TimeValue
  results : SourceRole → Option Datum
  authentic : SourceRole → Bool

variable (P : Configuration)

def currentPair (networkId : MainnetLaunchNetworkId) (now : TimeValue) :
    Except FailureCode SourcePair := do
  let code := FailureCode.unapprovedSourcePair
  let selected ← orFail (P.registry.pairs.find? fun p => p.networkId == networkId) code
  failWhen (!P.registry.isApproved ∨ now.milliseconds < selected.approvedAt.milliseconds ∨
    selected.expiresAt.milliseconds ≤ now.milliseconds) code
  return selected

def selectedBelongsToPair (request : ReviewedProducerRequest) (selected : SourcePair) : Bool :=
  [selected.primary, selected.corroborating].contains request.source

/-- A reading of the clock that is not before an earlier one and before the deadline, while the
signal is not aborted. -/
def readClock (answers : Answers) (stage : Stage) (request : ReviewedProducerRequest)
    (earlier : TimeValue) : Except FailureCode TimeValue := do
  let now ← orFail (answers.clock stage) .invalidConfiguration
  failWhen (now.milliseconds < earlier.milliseconds ∨
    request.deadlineAt.milliseconds ≤ now.milliseconds ∨ answers.aborted stage) .staleEvidence
  return now

/-- What a candidate is made from. -/
structure Evidence where
  request : ReviewedProducerRequest
  pair : SourcePair
  evaluatedAt : TimeValue
  primary : ReviewedAttestation
  corroborating : ReviewedAttestation
  assessedAt : TimeValue

def maxDeadlineMilliseconds : Int := 30000

/-- A call up to the check of what its sources attest. -/
def collect (value : Datum) (answers : Answers) : Except FailureCode Evidence := do
  let request ← produceRequest value (answers.aborted .requested)
  let evaluatedAt ← orFail (answers.clock .evaluated) .invalidConfiguration
  failWhen (evaluatedAt.milliseconds < request.observedAt.milliseconds ∨
    request.deadlineAt.milliseconds ≤ evaluatedAt.milliseconds ∨
    maxDeadlineMilliseconds < request.deadlineAt.milliseconds - evaluatedAt.milliseconds ∨
    answers.aborted .evaluated) .invalidRequest
  let selected ← currentPair P request.networkId evaluatedAt
  failWhen (!selectedBelongsToPair request selected) .unapprovedSourcePair
  let primaryBinding ← bindingFor P.bindings selected .primary
  let corroboratingBinding ← bindingFor P.bindings selected .corroborating
  failWhen (primaryBinding.receiver = corroboratingBinding.receiver) .invalidConfiguration
  let settledAt ← readClock answers .settled request evaluatedAt
  let _ ← currentPair P request.networkId settledAt
  let primaryResult ← orFail (answers.results .primary) .sourceUnavailable
  let corroboratingResult ← orFail (answers.results .corroborating) .sourceUnavailable
  failWhen (!answers.authentic .primary ∨ !answers.authentic .corroborating)
    .sourceAttestationInvalid
  let verifiedAt ← readClock answers .verified request settledAt
  let _ ← currentPair P request.networkId verifiedAt
  failWhen (primaryResult.reference? = corroboratingResult.reference?) .sourceAttestationInvalid
  let primary ← attestation primaryResult primaryBinding request evaluatedAt verifiedAt
  let corroborating ←
    attestation corroboratingResult corroboratingBinding request evaluatedAt verifiedAt
  failWhen (!sameAnchor primary.currentHead corroborating.currentHead ∨
    !sameAnchor primary.finalizedHead corroborating.finalizedHead) .sourceDisagreement
  let assessedAt ← readClock answers .assessed request verifiedAt
  let _ ← currentPair P request.networkId assessedAt
  ensureCurrent primary request.networkId assessedAt
  ensureCurrent corroborating request.networkId assessedAt
  return ⟨request, selected, evaluatedAt, primary, corroborating, assessedAt⟩

/-- The older of two times. -/
def olderOf (left right : PlainTime) : PlainTime :=
  if left.milliseconds ≤ right.milliseconds then left else right

namespace Evidence

def currentHeadAdvancedAt (e : Evidence) : PlainTime :=
  olderOf e.primary.currentHeadAdvancedAt e.corroborating.currentHeadAdvancedAt

def finalizedHeadAdvancedAt (e : Evidence) : PlainTime :=
  olderOf e.primary.finalizedHeadAdvancedAt e.corroborating.finalizedHeadAdvancedAt

end Evidence

inductive ProofDomain where
  | identity
  | liveCapability
  | lineage

def ProofDomain.text : ProofDomain → String
  | .identity => "crypto-lending:provider-position-chain-anchor-evidence-identity-proof:v1"
  | .liveCapability =>
    "crypto-lending:provider-position-chain-anchor-evidence-live-capability-proof:v1"
  | .lineage => "crypto-lending:provider-position-chain-anchor-evidence-lineage-proof:v1"

def attestationDatum (a : ReviewedAttestation) : Datum := frozenArray 0
  [.string a.binding.identity.sourceFamilyId.text, .string a.binding.identity.sourceId.text,
    .string a.binding.identity.sourceKind.text, timestampDatum a.assessedAt.toTimeValue,
    a.currentHead.datum 0, timestampDatum a.currentHeadAdvancedAt.toTimeValue,
    a.finalizedHead.datum 0, timestampDatum a.finalizedHeadAdvancedAt.toTimeValue,
    .string a.identityProofSha256.text, .string a.liveCapabilityProofSha256.text,
    .string a.lineageProofSha256.text]

def aggregateProof (domain : ProofDomain) (e : Evidence) : Except FailureCode Sha256 :=
  orFail (nonzeroDigest (P.fingerprint (frozenArray 0
    [.string domain.text, .string P.registry.fingerprintSha256.text,
      .string e.pair.approvalId.text, timestampDatum e.pair.approvedAt.toTimeValue,
      timestampDatum e.pair.expiresAt.toTimeValue, .string e.pair.networkId.text,
      .string e.request.source.sourceFamilyId.text, .string e.request.source.sourceId.text,
      .string e.request.source.sourceKind.text, .string e.request.sourceObservationId.text,
      e.request.continuityFloor.datum 0, e.request.chainAnchor.datum 0,
      timestampDatum e.request.observedAt.toTimeValue, timestampDatum e.evaluatedAt,
      timestampDatum e.request.deadlineAt.toTimeValue, timestampDatum e.assessedAt,
      e.primary.currentHead.datum 0, timestampDatum e.currentHeadAdvancedAt.toTimeValue,
      e.primary.finalizedHead.datum 0, timestampDatum e.finalizedHeadAdvancedAt.toTimeValue,
      attestationDatum e.primary, attestationDatum e.corroborating])))
    .sourceAttestationInvalid

structure Proofs where
  identity : Sha256
  liveCapability : Sha256
  lineage : Sha256

/-- Three different proofs. -/
def aggregateProofs (e : Evidence) : Except FailureCode Proofs := do
  let identity ← aggregateProof P .identity e
  let liveCapability ← aggregateProof P .liveCapability e
  let lineage ← aggregateProof P .lineage e
  failWhen (¬[identity.text, liveCapability.text, lineage.text].Nodup) .sourceAttestationInvalid
  return ⟨identity, liveCapability, lineage⟩

/-- The arguments of the record function of the database, by position. -/
def recordArguments (e : Evidence) (proofs : Proofs) : List Datum :=
  [.string e.request.networkId.text, .string e.request.source.sourceFamilyId.text,
    .string e.request.source.sourceId.text, .string e.request.source.sourceKind.text,
    .string e.request.sourceObservationId.text, e.request.continuityFloor.datum 0,
    e.request.chainAnchor.datum 0, timestampDatum e.request.observedAt.toTimeValue,
    timestampDatum e.assessedAt, e.primary.currentHead.datum 0,
    timestampDatum e.currentHeadAdvancedAt.toTimeValue, e.primary.finalizedHead.datum 0,
    timestampDatum e.finalizedHeadAdvancedAt.toTimeValue, .string proofs.identity.text,
    .string proofs.liveCapability.text, .string proofs.lineage.text,
    .string e.pair.primary.sourceFamilyId.text, .string e.pair.primary.sourceId.text,
    .string e.pair.corroborating.sourceFamilyId.text, .string e.pair.corroborating.sourceId.text,
    .string e.pair.approvalId.text, .string P.registry.fingerprintSha256.text,
    timestampDatum e.pair.expiresAt.toTimeValue]

/-- The fields of a candidate. -/
def candidateFields (recordArguments : List Datum) : Fields :=
  [("producerVersion", .number producerVersion), ("use", .string recordCandidateUse),
    ("mayAuthorizeFinancialAction", .boolean false), ("mayPersist", .boolean false),
    ("recordArguments", frozenArray 0 recordArguments)]

structure IssuedCandidate where
  request : Datum
  candidate : Datum
  networkId : MainnetLaunchNetworkId
  deadlineAt : Int
  signal : Reference
  issuedAt : Int
  currentHeadAdvancedAt : Int
  finalizedHeadAdvancedAt : Int

/-- A call whose candidate is a new object with a reference. -/
def produceCandidate (reference : Reference) (value : Datum) (answers : Answers) :
    Except FailureCode IssuedCandidate := do
  let e ← collect P value answers
  let proofs ← aggregateProofs P e
  let issuedAt ← readClock answers .issued e.request e.assessedAt
  let _ ← currentPair P e.request.networkId issuedAt
  ensureCurrent e.primary e.request.networkId issuedAt
  ensureCurrent e.corroborating e.request.networkId issuedAt
  return {
    request := e.request.request
    candidate := frozenRecord reference (candidateFields (recordArguments P e proofs))
    networkId := e.request.networkId
    deadlineAt := e.request.deadlineAt.milliseconds
    signal := e.request.signal
    issuedAt := issuedAt.milliseconds
    currentHeadAdvancedAt := min e.primary.currentHeadAdvancedAt.milliseconds
      e.corroborating.currentHeadAdvancedAt.milliseconds
    finalizedHeadAdvancedAt := min e.primary.finalizedHeadAdvancedAt.milliseconds
      e.corroborating.finalizedHeadAdvancedAt.milliseconds }

/-- A candidate is given back to whoever holds it and asks with the request it was issued for. -/
def reviewCandidate (issued : List IssuedCandidate) (capability request : Datum)
    (clock : Option TimeValue) (aborted : Bool) : Except FailureCode Datum := do
  let code := FailureCode.invalidRequest
  let reference ← orFail capability.reference? code
  let issued ← orFail (issued.find? fun i => i.candidate.reference? == some reference) code
  failWhen (issued.request.reference? ≠ request.reference?) code
  let reviewedAt ← orFail clock .invalidConfiguration
  failWhen (reviewedAt.milliseconds < issued.issuedAt ∨
    issued.deadlineAt ≤ reviewedAt.milliseconds ∨ aborted) .staleEvidence
  let _ ← currentPair P issued.networkId reviewedAt
  ensureHeadTimesCurrent issued.networkId issued.currentHeadAdvancedAt
    issued.finalizedHeadAdvancedAt reviewedAt.milliseconds
  return issued.candidate

end Production

end CryptoLending.MainnetPlatforms.ChainAnchorProducer
