import CryptoLending.Lib.Machine
import CryptoLending.MainnetActions.FinalityAttestation

namespace CryptoLending.MainnetActions.FinalityProducer

open Lib Lib.JsValue Lib.JsReading Lib.Json Blockchain.LaunchNetwork Intent LifecycleData
  FinalityPrerequisite FinalityAttestation

/-- A request to produce evidence, with the objects that its fields hold. -/
structure ProduceRequest where
  reference : Reference
  contents : Value
  prerequisiteCapability : Option Reference
  prerequisiteRequest : Handed
  signal : Option Reference

def publicRequestKeys : List String :=
  ["producerVersion", "use", "purpose", "mayAuthorizeFinancialAction", "mayPersist",
    "prerequisiteCapability", "prerequisiteRequest", "signal"]

def prerequisiteReviewRequestKeys : List String :=
  ["prerequisiteVersion", "use", "purpose", "mayAuthorizeFinancialAction", "mayPersist", "signal"]

def EvidencePurpose.produceUse : EvidencePurpose → String
  | .reconciliationAdmission =>
    "DORMANT_MAINNET_FINANCIAL_ACTION_RECONCILIATION_EVIDENCE_PRODUCE_ONLY"
  | .postFinalityReview =>
    "DORMANT_MAINNET_FINANCIAL_ACTION_POST_FINALITY_EVIDENCE_PRODUCE_ONLY"

def EvidencePurpose.prerequisiteReviewUse : EvidencePurpose → String
  | .reconciliationAdmission => "MAINNET_FINANCIAL_ACTION_RECONCILIATION_PREREQUISITE_REVIEW_ONLY"
  | .postFinalityReview => "MAINNET_FINANCIAL_ACTION_POST_FINALITY_PREREQUISITE_REVIEW_ONLY"

/-- The fields that every request to the producer or to its port begins with. -/
def hasHeader (record : Record) (version use purpose : String) (expectedUse : String)
    (expectedPurpose : EvidencePurpose) : Bool :=
  (record.get version).isNumber 1 && (record.get use).isText expectedUse &&
    (record.get purpose).isText expectedPurpose.text &&
    isFalse (record.get "mayAuthorizeFinancialAction") && isFalse (record.get "mayPersist")

/-- The capability and the abort signal of a request. -/
def publicRequest (purpose : EvidencePurpose) (isAborted : Reference → Bool)
    (request : ProduceRequest) : Except FailureCode (Reference × Reference) := do
  let code := FailureCode.invalidRequest
  let record ← orFail (exactDataRecord request.contents publicRequestKeys) code
  failWhen (!hasHeader record "producerVersion" "use" "purpose"
    (EvidencePurpose.produceUse purpose) purpose) code
  let capability ← orFail request.prerequisiteCapability code
  let signal ← orFail request.signal code
  let nested ← orFail
    (exactDataRecord request.prerequisiteRequest.contents prerequisiteReviewRequestKeys) code
  failWhen (!hasHeader nested "prerequisiteVersion" "use" "purpose"
    (EvidencePurpose.prerequisiteReviewUse purpose) purpose) code
  failWhen (request.prerequisiteRequest.signal ≠ some signal ∨ isAborted signal) code
  return (capability, signal)

def maxDeadlineMilliseconds : Int := 30000

/-- When the first of the authorities and the evidence of a prerequisite expires. -/
def authorityExpiresAt (p : Prerequisite) : Int :=
  min p.chainAnchorEvidenceExpiresAt.milliseconds
    (min p.sourceAuthorityExpiresAt.milliseconds p.deploymentAuthorityExpiresAt.milliseconds)

def ensurePrerequisiteCurrent (p : Prerequisite) (requestSignal : Reference)
    (isAborted : Reference → Bool) (evaluatedAt : Int) : Except FailureCode Unit :=
  failWhen (p.signal ≠ requestSignal ∨ isAborted requestSignal ∨
    evaluatedAt < p.verifiedAt.milliseconds ∨
    min p.deadlineAt.milliseconds (authorityExpiresAt p) ≤ evaluatedAt ∨
    maxDeadlineMilliseconds < p.deadlineAt.milliseconds - evaluatedAt) .staleEvidence

/-- How long an observation may be used. -/
def evidenceLifetime : MainnetLaunchNetworkId → Int
  | .eip155 => 60000
  | .solana => 15000

def ensureEvidenceCurrent (networkId : MainnetLaunchNetworkId) (observedAt checkedAt : Int) :
    Except FailureCode Unit :=
  failWhen (checkedAt < observedAt ∨ observedAt + evidenceLifetime networkId ≤ checkedAt)
    .staleEvidence

/-- A call that waits for its sources, or whose evidence was collected. -/
structure Production where
  request : ProduceRequest
  signal : Reference
  prerequisite : Prerequisite
  evaluatedAt : Int
  binding : SourceRole → SourceBinding

/-- What the two sources attested. -/
structure Evidence where
  attestation : SourceRole → Attestation
  completedAt : Int

/-- The newer of the two observations. -/
def Evidence.observedAt (e : Evidence) : IsoDate.Timestamp :=
  if (e.attestation .corroborating).observedAt.milliseconds ≤
      (e.attestation .primary).observedAt.milliseconds then (e.attestation .primary).observedAt
  else (e.attestation .corroborating).observedAt

/-- The older of the two observations. -/
def Evidence.freshnessFloorAt (e : Evidence) : IsoDate.Timestamp :=
  if (e.attestation .primary).observedAt.milliseconds ≤
      (e.attestation .corroborating).observedAt.milliseconds then
    (e.attestation .primary).observedAt
  else (e.attestation .corroborating).observedAt

inductive EvidenceDomain where
  | transaction
  | effect
  | failure

def EvidenceDomain.text : EvidenceDomain → String
  | .transaction => "crypto-lending:mainnet-financial-action-transaction-evidence:v1"
  | .effect => "crypto-lending:mainnet-financial-action-effect-evidence:v1"
  | .failure => "crypto-lending:mainnet-financial-action-failure-evidence:v1"

/-- The digest that an attestation carries in a domain. -/
def EvidenceDomain.sourceValue (domain : EvidenceDomain) (a : Attestation) : Option String :=
  match domain, a.finding with
  | .transaction, _ => some a.transactionEvidenceSha256
  | .effect, .reconciliation _ effectEvidence _ => effectEvidence
  | .failure, .reconciliation _ _ failureEvidence => failureEvidence
  | _, .postFinality _ _ => none

/-- What is hashed for a domain, before the array of the two digests. -/
def aggregateValues (domain : EvidenceDomain) (p : Prerequisite) (e : Evidence) : List Scalar :=
  let facts := p.facts
  let source : SourceRole → List Scalar := fun role =>
    [.string (p.expected role).identity.sourceFamilyId,
      .string (p.expected role).identity.sourceId, .string (p.expected role).identity.sourceKind.text]
  let deployment : SourceRole → List Scalar := fun role =>
    [.string (p.expected role).deploymentManifestFingerprintSha256,
      .string (p.expected role).observedIdentityFingerprintSha256]
  ([.string domain.text, .string p.subject.purpose.text, .string facts.accountId,
    .string facts.intentId, .string facts.intentRecordFingerprintSha256,
    .string facts.walletRegistrationId, .string facts.walletAddress,
    .string facts.lifecycleRevision.text, .string facts.lifecycleSnapshotSha256,
    .string facts.transactionId, .string facts.walletSignedPayloadSha256,
    .string facts.walletSignatureEvidenceSha256, .string facts.providerId.text,
    .string facts.protocolId.text, .string facts.marketId,
    .number facts.assets.assetRegistryVersion,
    .string facts.assets.assetRegistryFingerprintSha256, .string facts.assets.assetSymbol.text,
    .string facts.assets.assetIdentity, .number facts.assets.assetDecimals,
    .string facts.action.text, .string facts.amountAtomic,
    .string facts.chainAnchorEvidenceFingerprintSha256,
    .string facts.sourceAuthorityFingerprintSha256, .string facts.sourcePairApprovalId,
    .string facts.sourcePairRegistryFingerprintSha256] : List Scalar) ++
  source .primary ++ source .corroborating ++
  ([.string facts.deploymentAuthorityFingerprintSha256] : List Scalar) ++
  deployment .primary ++ deployment .corroborating ++
  ([.string (e.attestation .primary).attestationSha256,
    .string (e.attestation .corroborating).attestationSha256] : List Scalar)

/-- The arguments of the admission function of the database. -/
structure AdmissionArguments where
  accountId : String
  intentId : String
  expectedRevision : String
  expectedSnapshotSha256 : String
  observationId : String
  transactionId : String
  outcome : ReconciliationOutcome
  transaction : Option ChainPointer
  finalized : ChainPointer
  chainAnchorEvidenceFingerprintSha256 : String
  sourceAuthorityId : String
  sourceAuthorityFingerprintSha256 : String
  deploymentAuthorityId : String
  deploymentAuthorityFingerprintSha256 : String
  primaryAttestationSha256 : String
  corroboratingAttestationSha256 : String
  transactionEvidenceSha256 : String
  effectEvidenceSha256 : Option String
  failureEvidenceSha256 : Option String
  observedAt : String
  deadlineAt : String
  correlationId : String

/-- The arguments of the review function of the database, and what else they are bound to. -/
structure ReviewArguments where
  accountId : String
  intentId : String
  terminalRevision : String
  terminalSnapshotSha256 : String
  subject : PostFinalitySubject
  disposition : PostFinalityDisposition
  lineageStatus : LineageStatus
  transactionId : String
  transaction : Option ChainPointer
  finalized : ChainPointer
  chainAnchorEvidenceFingerprintSha256 : String
  sourceAuthorityId : String
  sourceAuthorityFingerprintSha256 : String
  deploymentAuthorityId : String
  deploymentAuthorityFingerprintSha256 : String
  primaryAttestationSha256 : String
  corroboratingAttestationSha256 : String
  transactionEvidenceSha256 : String
  observedAt : String
  deadlineAt : String
  correlationId : String

inductive Candidate where
  | reconciliationAdmission (admissionArguments : AdmissionArguments)
  | postFinalityReview (reviewArguments : ReviewArguments)

/-- What is kept about an issued candidate. -/
structure Issued where
  purpose : EvidencePurpose
  request : ProduceRequest
  candidate : Candidate
  prerequisiteCapability : Reference
  networkId : MainnetLaunchNetworkId
  signal : Reference
  deadlineAt : Int
  authorityExpiresAt : Int
  evidenceObservedAt : Int
  issuedAt : Int

/-- What a producer is made of. The digest is that of the JSON text of its arguments. -/
structure Configuration where
  isAddress : String → Bool
  fingerprint : List Scalar → String × String → String
  bindings : List SourceBinding

inductive Call where
  | reading (production : Production)
  | collected (production : Production) (evidence : Evidence)

/-- The calls in progress by their numbers, and the candidates in the order of their issue. -/
structure State where
  aborted : List Reference := []
  started : Nat := 0
  calls : Nat → Option Call := fun _ => none
  issued : List Issued := []

def State.isAborted (s : State) (signal : Reference) : Bool := s.aborted.contains signal

/-- How the sources answer a question about a capability: the receiver, the capability and the
request it is about. -/
abbrev Verifier := Reference → Capability → SourceRequest → Bool

/-- What the outside does. A clock reading is missing when the clock fails. -/
inductive Event where
  | abort (signal : Reference)
  | produce (call : Nat) (purpose : EvidencePurpose) (request : ProduceRequest)
      (answer : Option Handed) (clock : Option Int)
  | settle (call : Nat) (results : SourceRole → Option Capability) (verify : Verifier)
      (clock : Option Int)
  | giveUp (call : Nat)
  | issue (call : Nat) (clock : Option Int)

section Steps

variable (C : Configuration)

/-- A call up to its reads. -/
def produce (s : State) (purpose : EvidencePurpose) (request : ProduceRequest)
    (answer : Option Handed) (clock : Option Int) : Except FailureCode Production := do
  let (capability, signal) ← publicRequest purpose s.isAborted request
  let value ← orFail answer .prerequisiteUnavailable
  let p ← reviewedPrerequisite C.isAddress purpose capability value
  let evaluatedAt ← orFail clock .invalidConfiguration
  ensurePrerequisiteCurrent p signal s.isAborted evaluatedAt
  let primary ← bindingFor C.bindings p .primary
  let corroborating ← bindingFor C.bindings p .corroborating
  failWhen (primary.receiver = corroborating.receiver ∨
    primary.identity.sourceFamilyId = corroborating.identity.sourceFamilyId ∨
    primary.identity.sourceId = corroborating.identity.sourceId) .invalidConfiguration
  return {
    request, signal, evaluatedAt
    prerequisite := p
    binding := fun
      | .primary => primary
      | .corroborating => corroborating }

/-- A source stands by what it returned for a request. -/
def Production.isAuthentic (d : Production) (verify : Verifier) (role : SourceRole)
    (capability : Capability) : Bool :=
  verify (d.binding role).receiver capability
    (sourceRequest (d.binding role) d.prerequisite d.evaluatedAt)

/-- A call after its reads. A result that is not an object is missing, like a failed read. -/
def collect (s : State) (d : Production) (results : SourceRole → Option Capability)
    (verify : Verifier) (clock : Option Int) : Except FailureCode Evidence := do
  let p := d.prerequisite
  let completedAt ← orFail clock .invalidConfiguration
  ensurePrerequisiteCurrent p d.signal s.isAborted completedAt
  failWhen (completedAt < d.evaluatedAt) .sourceUnavailable
  let primaryResult ← orFail (results .primary) .sourceUnavailable
  let corroboratingResult ← orFail (results .corroborating) .sourceUnavailable
  failWhen (!d.isAuthentic verify .primary primaryResult ||
    !d.isAuthentic verify .corroborating corroboratingResult) .sourceAttestationInvalid
  failWhen (primaryResult.reference = corroboratingResult.reference) .sourceAttestationInvalid
  let primary ← attestation C.isAddress primaryResult (d.binding .primary) p d.evaluatedAt
    completedAt
  let corroborating ← attestation C.isAddress corroboratingResult (d.binding .corroborating) p
    d.evaluatedAt completedAt
  failWhen (!sameFacts primary corroborating ∨
    primary.attestationSha256 = corroborating.attestationSha256) .sourceDisagreement
  ensureEvidenceCurrent p.facts.networkId primary.observedAt.milliseconds completedAt
  ensureEvidenceCurrent p.facts.networkId corroborating.observedAt.milliseconds completedAt
  return {
    completedAt
    attestation := fun
      | .primary => primary
      | .corroborating => corroborating }

def aggregateEvidence (domain : EvidenceDomain) (p : Prerequisite) (e : Evidence) :
    Except FailureCode String := do
  let primary ← orFail (domain.sourceValue (e.attestation .primary)) .sourceDisagreement
  let corroborating ←
    orFail (domain.sourceValue (e.attestation .corroborating)) .sourceDisagreement
  return C.fingerprint (aggregateValues domain p e) (primary, corroborating)

/-- The aggregate in a domain where the primary source carries a digest, and null elsewhere. -/
def optionalEvidence (domain : EvidenceDomain) (p : Prerequisite) (e : Evidence) :
    Except FailureCode (Option String) :=
  if (domain.sourceValue (e.attestation .primary)).isNone then .ok none
  else (aggregateEvidence C domain p e).map some

def candidateOf (p : Prerequisite) (e : Evidence) : Except FailureCode Candidate :=
  let primary := e.attestation .primary
  match p.subject, primary.finding with
  | .reconciliation observationId, .reconciliation outcome _ _ => do
    let transactionEvidenceSha256 ← aggregateEvidence C .transaction p e
    let effectEvidenceSha256 ← optionalEvidence C .effect p e
    let failureEvidenceSha256 ← optionalEvidence C .failure p e
    return .reconciliationAdmission {
      observationId, outcome, transactionEvidenceSha256, effectEvidenceSha256,
      failureEvidenceSha256
      accountId := p.facts.accountId
      intentId := p.facts.intentId
      expectedRevision := p.facts.lifecycleRevision.text
      expectedSnapshotSha256 := p.facts.lifecycleSnapshotSha256
      transactionId := p.facts.transactionId
      transaction := primary.transaction
      finalized := primary.finalized
      chainAnchorEvidenceFingerprintSha256 := p.facts.chainAnchorEvidenceFingerprintSha256
      sourceAuthorityId := p.facts.sourceAuthorityId
      sourceAuthorityFingerprintSha256 := p.facts.sourceAuthorityFingerprintSha256
      deploymentAuthorityId := p.facts.deploymentAuthorityId
      deploymentAuthorityFingerprintSha256 := p.facts.deploymentAuthorityFingerprintSha256
      primaryAttestationSha256 := primary.attestationSha256
      corroboratingAttestationSha256 := (e.attestation .corroborating).attestationSha256
      observedAt := e.observedAt.text
      deadlineAt := p.deadlineAt.text
      correlationId := p.facts.correlationId }
  | .postFinality subject, .postFinality disposition lineageStatus => do
    let transactionEvidenceSha256 ← aggregateEvidence C .transaction p e
    return .postFinalityReview {
      subject, disposition, lineageStatus, transactionEvidenceSha256
      accountId := p.facts.accountId
      intentId := p.facts.intentId
      terminalRevision := p.facts.lifecycleRevision.text
      terminalSnapshotSha256 := p.facts.lifecycleSnapshotSha256
      transactionId := p.facts.transactionId
      transaction := primary.transaction
      finalized := primary.finalized
      chainAnchorEvidenceFingerprintSha256 := p.facts.chainAnchorEvidenceFingerprintSha256
      sourceAuthorityId := p.facts.sourceAuthorityId
      sourceAuthorityFingerprintSha256 := p.facts.sourceAuthorityFingerprintSha256
      deploymentAuthorityId := p.facts.deploymentAuthorityId
      deploymentAuthorityFingerprintSha256 := p.facts.deploymentAuthorityFingerprintSha256
      primaryAttestationSha256 := primary.attestationSha256
      corroboratingAttestationSha256 := (e.attestation .corroborating).attestationSha256
      observedAt := e.observedAt.text
      deadlineAt := p.deadlineAt.text
      correlationId := p.facts.correlationId }
  | _, _ => .error .sourceAttestationInvalid

def issue (s : State) (d : Production) (e : Evidence) (clock : Option Int) :
    Except FailureCode Issued := do
  let p := d.prerequisite
  let candidate ← candidateOf C p e
  let issuedAt ← orFail clock .invalidConfiguration
  ensurePrerequisiteCurrent p d.signal s.isAborted issuedAt
  ensureEvidenceCurrent p.facts.networkId e.freshnessFloorAt.milliseconds issuedAt
  failWhen (issuedAt < e.completedAt) .staleEvidence
  return {
    candidate, issuedAt
    purpose := p.subject.purpose
    request := d.request
    prerequisiteCapability := p.capability
    networkId := p.facts.networkId
    signal := p.signal
    deadlineAt := p.deadlineAt.milliseconds
    authorityExpiresAt := authorityExpiresAt p
    evidenceObservedAt := e.freshnessFloorAt.milliseconds }

/-- A candidate is given back to whoever holds it and asks with the request it was issued for. -/
def review (s : State) (purpose : EvidencePurpose) (candidate : Nat) (request : ProduceRequest)
    (clock : Option Int) : Except FailureCode Candidate := do
  let code := FailureCode.invalidRequest
  let issued ← orFail (s.issued[candidate]?.filter fun i => i.purpose == purpose) code
  failWhen (issued.request.reference ≠ request.reference ∨
    request.prerequisiteCapability ≠ some issued.prerequisiteCapability ∨
    request.signal ≠ some issued.signal) code
  let reviewedAt ← orFail clock .invalidConfiguration
  failWhen (reviewedAt < issued.issuedAt ∨ issued.deadlineAt ≤ reviewedAt ∨
    issued.authorityExpiresAt ≤ reviewedAt ∨ s.isAborted issued.signal) .staleEvidence
  ensureEvidenceCurrent issued.networkId issued.evidenceObservedAt reviewedAt
  return issued.candidate

def State.withCall (s : State) (call : Nat) (state : Option Call) : State :=
  { s with calls := fun n => if n = call then state else s.calls n }

/-- A call that throws is over. -/
def step (s : State) : Event → Option State
  | .abort signal => some { s with aborted := signal :: s.aborted }
  | .produce call purpose request answer clock =>
    if call = s.started then
      some ({ s with started := s.started + 1 }.withCall call
        ((produce C s purpose request answer clock).toOption.map .reading))
    else none
  | .settle call results verify clock =>
    match s.calls call with
    | some (.reading production) => some (s.withCall call
        ((collect C s production results verify clock).toOption.map (.collected production)))
    | _ => none
  | .giveUp call => some (s.withCall call none)
  | .issue call clock =>
    match s.calls call with
    | some (.collected production evidence) =>
      some { s.withCall call none with
        issued := s.issued ++ (issue C s production evidence clock).toOption.toList }
    | _ => none

/-- The state of a producer after some events. -/
def runEvents (events : List Event) : Option State := Events.run (step C) {} events

end Steps

end CryptoLending.MainnetActions.FinalityProducer
