import CryptoLending.Valuation.DepegLatchJson
import CryptoLending.Valuation.StablecoinPriceEvidence
import CryptoLending.Valuation.StablecoinRecovery

namespace CryptoLending.Valuation.StablecoinDepegLatch

open Lib Lib.JsValue Lib.JsString
open Lib.Identifier (isUuidV4)
open Blockchain.AssetRegistry Blockchain.LaunchNetwork
open DepegLatchJson ValuationRendering
open ValuationRequest (StablecoinValuationAssetReference Instant parseStablecoin isActiveAsset)
open StablecoinValuation (evaluateStablecoinValuation)
open StablecoinRecovery (evaluateStablecoinRecovery)
open StablecoinPriceEvidence (isSha256 isReference UuidV4 Sha256 Reference)

abbrev Code := StablecoinDepegLatchValidationCode

def parseTimestamp (v : Value) (code : Code) : Except Code Instant :=
  orFail (ValuationRequest.parseTimestamp v) code

def parseUuid (v : Value) (code : Code) : Except Code UuidV4 :=
  orFail (Matching.ofValue isUuidV4 v) code

def parseDigest (v : Value) (code : Code) : Except Code Sha256 :=
  orFail (Matching.ofValue isSha256 v) code

def parseReference (v : Value) (code : Code) : Except Code Reference :=
  orFail (Matching.ofValue isReference v) code

/-- A revision that has a next one. -/
@[ext]
structure Revision where
  value : Nat
  positive : 1 ≤ value
  below : value < 2 ^ 53 - 1

instance : DecidableEq Revision := fun _ _ => decidable_of_iff _ Revision.ext_iff.symm

def parseRevision (v : Value) (code : Code) : Except Code Revision := do
  let value ← orFail v.integer? code
  if h : 1 ≤ value.toNat ∧ value.toNat < 2 ^ 53 - 1 then .ok ⟨value.toNat, h.1, h.2⟩
  else .error code

def parseNullableRevision (v : Value) (code : Code) : Except Code (Option Revision) :=
  if v.isNull then .ok none else do
    return some (← parseRevision v code)

/-- Every registered asset has few decimals. -/
theorem decimals_le_of_active {fingerprint networkId identity : String}
    {stablecoin : SupportedStablecoin} {decimals : Nat}
    (h : isActiveAsset fingerprint stablecoin networkId identity decimals = true) :
    decimals ≤ ValuationRequest.maxAssetDecimals := by
  have hassets : ∀ asset ∈ mainnetSupportedAssetRegistry.assets,
      asset.decimals ≤ ValuationRequest.maxAssetDecimals := by decide
  unfold isActiveAsset at h
  dsimp only at h
  split at h
  · rename_i asset network hasset hnetwork
    simp only [Bool.and_eq_true, beq_iff_eq] at h
    rw [← h.1.1.2]
    exact hassets asset (StablecoinPriceEvidence.identifyAsset_mem hasset).1
  · cases h

def normalizeStablecoinDepegLatchAsset (v : Value) :
    Except Code StablecoinValuationAssetReference := do
  let record ← orFail (exactRecord v StablecoinPriceEvidence.assetKeys) .invalidDepegLatchAsset
  failWhen ((record.get "registryEnvironment").isText "MAINNET" = false ∨
    (record.get "registryVersion").isNumber 1 = false) .invalidDepegLatchAsset
  let registryFingerprintSha256 ←
    orFail (record.get "registryFingerprintSha256").string? .invalidDepegLatchAsset
  failWhen (registryFingerprintSha256 ≠ mainnetSupportedAssetRegistry.fingerprintSha256)
    .invalidDepegLatchAsset
  let stablecoin ← orFail (parseStablecoin (record.get "stablecoin")) .invalidDepegLatchAsset
  let networkId ← orFail (record.get "networkId").string? .invalidDepegLatchAsset
  failWhen (isMainnetLaunchNetwork networkId = false) .invalidDepegLatchAsset
  let identity ← orFail (record.get "identity").string? .invalidDepegLatchAsset
  let decimals ← orFail (record.get "decimals").integer? .invalidDepegLatchAsset
  failWhen (decimals < 0) .invalidDepegLatchAsset
  if h : isActiveAsset registryFingerprintSha256 stablecoin networkId identity decimals.toNat = true
  then .ok ⟨registryFingerprintSha256, stablecoin, networkId, identity, decimals.toNat,
    decimals_le_of_active h, h⟩
  else .error .invalidDepegLatchAsset

section Fingerprints

variable (sha256 : List UInt8 → String)

/-- The bytes that are hashed for a domain and a text. -/
def preimage (domain : String) (json : JsString) : List UInt8 :=
  utf8 (ofString (domain ++ "\n") ++ json)

def fingerprint (domain : String) (v : Value) : Except Code String := do
  let json ← canonicalJson v
  return sha256 (preimage domain json)

def depegEvidenceFingerprintDomain : String := "crypto-lending:stablecoin-depeg-evidence:v1"
def recoveryEvidenceFingerprintDomain : String :=
  "crypto-lending:stablecoin-depeg-recovery-evidence:v1"
def latchCommandFingerprintDomain : String := "crypto-lending:stablecoin-depeg-latch-command:v1"
def latchEventFingerprintDomain : String := "crypto-lending:stablecoin-depeg-latch-event:v1"
def recoveryAuthorizationFingerprintDomain : String :=
  "crypto-lending:stablecoin-depeg-recovery-authorization:v1"
def clearCommandFingerprintDomain : String := "crypto-lending:stablecoin-depeg-clear-command:v1"
def clearEventFingerprintDomain : String := "crypto-lending:stablecoin-depeg-clear-event:v1"

/-- What is hashed of the evidence for a latch. -/
def depegEvidence (actor : Reference) (request : Record) : Value :=
  ofItems [.integer 1, .string actor.text, ofFields request]

structure DepegEvidence where
  asset : StablecoinValuationAssetReference
  evaluatedAt : Instant
  fingerprintSha256 : String

def valuationKeys : List String :=
  ["asset", "amountAtomic", "evaluatedAt", "sourceWatermarks", "observations"]

def validateDepegEvidence (valuationRequest : Value) (evidenceActorReferenceId : Reference) :
    Except Code DepegEvidence := do
  let request ← orFail (exactRecord valuationRequest valuationKeys) .invalidDepegLatchInput
  let asset ← normalizeStablecoinDepegLatchAsset (request.get "asset")
  let result := evaluateStablecoinValuation (ofFields request)
  failWhen (result.asset ≠ some asset) .valuationDidNotDetectDepeg
  let evaluatedAt ← orFail result.evaluatedAt .valuationDidNotDetectDepeg
  failWhen ((request.get "evaluatedAt").isText evaluatedAt.text = false ∨
    result.depegClass ≠ .outsidePolicy ∨ result.downsideBand ≠ .depegged ∨
    ¬result.reasons.contains .depegDetected) .valuationDidNotDetectDepeg
  let fingerprintSha256 ← fingerprint sha256 depegEvidenceFingerprintDomain
    (depegEvidence evidenceActorReferenceId request)
  return { asset, evaluatedAt, fingerprintSha256 }

def fingerprintStablecoinDepegEvidence (v : Value) : Except Code String := do
  let record ← orFail (exactRecord v ["evidenceActorReferenceId", "valuationRequest"])
    .invalidDepegLatchInput
  let actor ← parseReference (record.get "evidenceActorReferenceId") .invalidDepegLatchInput
  return (← validateDepegEvidence sha256 (record.get "valuationRequest") actor).fingerprintSha256

structure RecordCommand where
  asset : StablecoinValuationAssetReference
  expectedRevision : Option Revision
  correlationId : UuidV4
  latchId : Sha256
  latchedAt : Instant
  evidenceActorReferenceId : Reference
  depegEvidenceFingerprintSha256 : Sha256
  deriving DecidableEq

structure NormalizedRecordStablecoinDepegLatchCommand extends RecordCommand where
  commandFingerprintSha256 : String
  eventFingerprintSha256 : String
  deriving DecidableEq

def revisionValue : Option Revision → Value
  | none => .null
  | some revision => .integer revision.value

/-- What is hashed of a command that sets a latch. -/
def RecordCommand.material (command : RecordCommand) : Value :=
  ofItems [.integer 1, assetValue command.asset, revisionValue command.expectedRevision,
    .string command.correlationId.text, .string command.latchId.text,
    .string command.latchedAt.text, .string command.evidenceActorReferenceId.text,
    .string command.depegEvidenceFingerprintSha256.text]

def recordKeys : List String :=
  ["expectedRevision", "correlationId", "latchId", "evidenceActorReferenceId",
    "depegEvidenceFingerprintSha256", "valuationRequest"]

def normalizeRecordStablecoinDepegLatchCommand (v : Value) :
    Except Code NormalizedRecordStablecoinDepegLatchCommand := do
  let record ← orFail (exactRecord v recordKeys) .invalidDepegLatchInput
  let expectedRevision ← parseNullableRevision (record.get "expectedRevision")
    .invalidDepegLatchInput
  let correlationId ← parseUuid (record.get "correlationId") .invalidDepegLatchInput
  let latchId ← parseDigest (record.get "latchId") .invalidDepegLatchInput
  let evidenceActorReferenceId ← parseReference (record.get "evidenceActorReferenceId")
    .invalidDepegLatchInput
  let requestedFingerprint ← parseDigest (record.get "depegEvidenceFingerprintSha256")
    .invalidDepegLatchInput
  let evidence ← validateDepegEvidence sha256 (record.get "valuationRequest")
    evidenceActorReferenceId
  failWhen (requestedFingerprint.text ≠ evidence.fingerprintSha256)
    .depegEvidenceFingerprintMismatch
  let command : RecordCommand :=
    { asset := evidence.asset, expectedRevision, correlationId, latchId,
      latchedAt := evidence.evaluatedAt, evidenceActorReferenceId,
      depegEvidenceFingerprintSha256 := requestedFingerprint }
  let commandFingerprintSha256 ← fingerprint sha256 latchCommandFingerprintDomain command.material
  let eventFingerprintSha256 ← fingerprint sha256 latchEventFingerprintDomain
    (ofItems [.string commandFingerprintSha256,
      .integer ((expectedRevision.map (·.value)).getD 0 + 1), .string "LATCHED"])
  return { command with commandFingerprintSha256, eventFingerprintSha256 }

structure ValidatedRecoveryEvidence where
  asset : StablecoinValuationAssetReference
  latchId : Sha256
  latchedAt : Instant
  clearId : Sha256
  clearedAt : Instant
  evaluatedAt : Instant
  fingerprintSha256 : String

def recoveryKeys : List String := ["asset", "evaluatedAt", "depegLatch", "manualRiskClear", "samples"]

/-- What is hashed of the evidence for a recovery. -/
def recoveryEvidence (request : Record) : Value := ofItems [.integer 1, ofFields request]

def validateRecoveryEvidence (v : Value) : Except Code ValidatedRecoveryEvidence := do
  let request ← orFail (exactRecord v recoveryKeys) .invalidDepegRecoveryInput
  let asset ← normalizeStablecoinDepegLatchAsset (request.get "asset")
  let result := evaluateStablecoinRecovery (ofFields request)
  failWhen (result.status ≠ .recoveryCandidateCleared ∨ result.manualRiskClearAccepted ≠ true ∨
    result.asset ≠ some asset) .recoveryNotCleared
  let latch ← orFail result.depegLatch .recoveryNotCleared
  let clear ← orFail result.acceptedManualRiskClear .recoveryNotCleared
  let evaluatedAt ← orFail result.evaluatedAt .recoveryNotCleared
  failWhen ((request.get "evaluatedAt").isText evaluatedAt.text = false) .recoveryNotCleared
  let depegAsset ← normalizeStablecoinDepegLatchAsset (assetValue latch.asset)
  let clearAsset ← normalizeStablecoinDepegLatchAsset (assetValue clear.asset)
  failWhen (asset ≠ depegAsset ∨ asset ≠ clearAsset) .recoveryNotCleared
  let latchId ← parseDigest (.string latch.latchId) .invalidDepegRecoveryInput
  let clearId ← parseDigest (.string clear.clearId) .invalidDepegRecoveryInput
  let fingerprintSha256 ← fingerprint sha256 recoveryEvidenceFingerprintDomain
    (recoveryEvidence request)
  return { asset, latchId, latchedAt := latch.latchedAt, clearId, clearedAt := clear.clearedAt,
           evaluatedAt, fingerprintSha256 }

def maximumAgeMilliseconds : Int := 15 * 60 * 1000

/-- An authorization of a short time for one recovery, approved by another than its actor. -/
structure AuthorizationMaterial where
  asset : StablecoinValuationAssetReference
  expectedLatchId : Sha256
  expectedRevision : Revision
  clearId : Sha256
  recoveryEvidenceFingerprintSha256 : Sha256
  evidenceActorReferenceId : Reference
  riskApproverReferenceId : Reference
  issuedAt : Instant
  notBefore : Instant
  expiresAt : Instant
  nonce : UuidV4
  separate : ¬(evidenceActorReferenceId = riskApproverReferenceId ∨ expectedLatchId = clearId)
  window : ¬(issuedAt.milliseconds > notBefore.milliseconds ∨
    expiresAt.milliseconds ≤ notBefore.milliseconds ∨
    expiresAt.milliseconds - issuedAt.milliseconds > maximumAgeMilliseconds)
  deriving DecidableEq

def authorizationMaterialKeys : List String :=
  ["schemaVersion", "authorizationType", "scope", "mayAuthorizeFinancialAction", "operation",
    "asset", "expectedLatchId", "expectedRevision", "clearId",
    "recoveryEvidenceFingerprintSha256", "evidenceActorReferenceId", "riskApproverReferenceId",
    "riskApproverRole", "issuedAt", "notBefore", "expiresAt", "nonce"]

def isFalse : Value → Bool
  | .boolean value => !value
  | _ => false

def normalizeAuthorizationMaterial (v : Value) : Except Code AuthorizationMaterial := do
  let code := StablecoinDepegLatchValidationCode.invalidDepegRecoveryAuthorization
  let record ← orFail (exactRecord v authorizationMaterialKeys) code
  failWhen ((record.get "schemaVersion").isNumber 1 = false ∨
    (record.get "authorizationType").isText "STABLECOIN_DEPEG_LATCH_RECOVERY" = false ∨
    (record.get "scope").isText "DEPEG_LATCH_CLEAR_ONLY" = false ∨
    isFalse (record.get "mayAuthorizeFinancialAction") = false ∨
    (record.get "operation").isText "CLEAR_STABLECOIN_DEPEG_LATCH" = false ∨
    (record.get "riskApproverRole").isText "RISK_APPROVER" = false) code
  let asset ← normalizeStablecoinDepegLatchAsset (record.get "asset")
  let expectedLatchId ← parseDigest (record.get "expectedLatchId") code
  let expectedRevision ← parseRevision (record.get "expectedRevision") code
  let clearId ← parseDigest (record.get "clearId") code
  let recoveryEvidenceFingerprintSha256 ←
    parseDigest (record.get "recoveryEvidenceFingerprintSha256") code
  let evidenceActorReferenceId ← parseReference (record.get "evidenceActorReferenceId") code
  let riskApproverReferenceId ← parseReference (record.get "riskApproverReferenceId") code
  if separate : ¬(evidenceActorReferenceId = riskApproverReferenceId ∨ expectedLatchId = clearId)
  then
    let issuedAt ← parseTimestamp (record.get "issuedAt") code
    let notBefore ← parseTimestamp (record.get "notBefore") code
    let expiresAt ← parseTimestamp (record.get "expiresAt") code
    if window : ¬(issuedAt.milliseconds > notBefore.milliseconds ∨
        expiresAt.milliseconds ≤ notBefore.milliseconds ∨
        expiresAt.milliseconds - issuedAt.milliseconds > maximumAgeMilliseconds)
    then
      let nonce ← parseUuid (record.get "nonce") code
      return { asset, expectedLatchId, expectedRevision, clearId,
               recoveryEvidenceFingerprintSha256, evidenceActorReferenceId,
               riskApproverReferenceId, issuedAt, notBefore, expiresAt, nonce, separate, window }
    else .error code
  else .error code

def AuthorizationMaterial.toValue (material : AuthorizationMaterial) : Value :=
  ofFields [("schemaVersion", .integer 1),
    ("authorizationType", .string "STABLECOIN_DEPEG_LATCH_RECOVERY"),
    ("scope", .string "DEPEG_LATCH_CLEAR_ONLY"), ("mayAuthorizeFinancialAction", .boolean false),
    ("operation", .string "CLEAR_STABLECOIN_DEPEG_LATCH"), ("asset", assetValue material.asset),
    ("expectedLatchId", .string material.expectedLatchId.text),
    ("expectedRevision", .integer material.expectedRevision.value),
    ("clearId", .string material.clearId.text),
    ("recoveryEvidenceFingerprintSha256",
      .string material.recoveryEvidenceFingerprintSha256.text),
    ("evidenceActorReferenceId", .string material.evidenceActorReferenceId.text),
    ("riskApproverReferenceId", .string material.riskApproverReferenceId.text),
    ("riskApproverRole", .string "RISK_APPROVER"), ("issuedAt", .string material.issuedAt.text),
    ("notBefore", .string material.notBefore.text), ("expiresAt", .string material.expiresAt.text),
    ("nonce", .string material.nonce.text)]

def fingerprintStablecoinDepegRecoveryAuthorization (v : Value) : Except Code String := do
  let material ← normalizeAuthorizationMaterial v
  fingerprint sha256 recoveryAuthorizationFingerprintDomain
    (ofItems [.integer 1, .string "STABLECOIN_DEPEG_LATCH_RECOVERY",
      .string "DEPEG_LATCH_CLEAR_ONLY", .boolean false, .string "CLEAR_STABLECOIN_DEPEG_LATCH",
      assetValue material.asset, .string material.expectedLatchId.text,
      .integer material.expectedRevision.value, .string material.clearId.text,
      .string material.recoveryEvidenceFingerprintSha256.text,
      .string material.evidenceActorReferenceId.text, .string material.riskApproverReferenceId.text,
      .string "RISK_APPROVER", .string material.issuedAt.text, .string material.notBefore.text,
      .string material.expiresAt.text, .string material.nonce.text])

structure StablecoinDepegRecoveryAuthorization extends AuthorizationMaterial where
  authorizationFingerprintSha256 : Sha256
  authorizationId : String
  deriving DecidableEq

def authorizationKeys : List String :=
  authorizationMaterialKeys ++ ["authorizationFingerprintSha256", "authorizationId"]

def authorizationIdPrefix : String := "stablecoin-depeg-latch-recovery:"

/-- The fields of an authorization without its fingerprint and id. -/
def materialInput (record : Record) : Value :=
  ofFields (authorizationMaterialKeys.map fun key => (key, record.get key))

def normalizeAuthorization (v : Value) : Except Code StablecoinDepegRecoveryAuthorization := do
  let code := StablecoinDepegLatchValidationCode.invalidDepegRecoveryAuthorization
  let record ← orFail (exactRecord v authorizationKeys) code
  let material ← normalizeAuthorizationMaterial (materialInput record)
  let authorizationFingerprintSha256 ←
    parseDigest (record.get "authorizationFingerprintSha256") code
  let expectedFingerprint ←
    fingerprintStablecoinDepegRecoveryAuthorization sha256 material.toValue
  failWhen (authorizationFingerprintSha256.text ≠ expectedFingerprint) code
  let authorizationId := authorizationIdPrefix ++ authorizationFingerprintSha256.text
  failWhen ((record.get "authorizationId").isText authorizationId = false) code
  return { material with authorizationFingerprintSha256, authorizationId }

structure ClearCommand where
  asset : StablecoinValuationAssetReference
  evaluatedAt : Instant
  correlationId : UuidV4
  clearId : Sha256
  latchId : Sha256
  latchedAt : Instant
  expectedRevision : Revision
  recoveryEvidenceFingerprintSha256 : String
  evidenceActorReferenceId : Reference
  riskApproverReferenceId : Reference
  clearedAt : Instant
  authorizationIssuedAt : Instant
  authorizationNotBefore : Instant
  authorizationExpiresAt : Instant
  authorizationNonce : UuidV4
  authorizationFingerprintSha256 : Sha256
  authorizationId : String
  deriving DecidableEq

structure NormalizedClearStablecoinDepegLatchCommand extends ClearCommand where
  commandFingerprintSha256 : String
  eventFingerprintSha256 : String
  deriving DecidableEq

/-- What is hashed of a command that clears a latch. -/
def ClearCommand.material (command : ClearCommand) : Value :=
  ofItems [.integer 1, assetValue command.asset, .string command.evaluatedAt.text,
    .string command.correlationId.text, .string command.clearId.text,
    .string command.latchId.text, .string command.latchedAt.text,
    .integer command.expectedRevision.value, .string command.recoveryEvidenceFingerprintSha256,
    .string command.evidenceActorReferenceId.text, .string command.riskApproverReferenceId.text,
    .string "RISK_APPROVER", .string command.clearedAt.text,
    .string command.authorizationIssuedAt.text, .string command.authorizationNotBefore.text,
    .string command.authorizationExpiresAt.text, .string command.authorizationNonce.text,
    .string command.authorizationFingerprintSha256.text, .string command.authorizationId]

/-- The evidence and the authorization of a clearance disagree, or its time has not come. -/
def Mismatch (recovery : ValidatedRecoveryEvidence)
    (authorization : StablecoinDepegRecoveryAuthorization) (evaluatedAt : Instant) : Prop :=
  recovery.evaluatedAt ≠ evaluatedAt ∨ recovery.asset ≠ authorization.asset ∨
    recovery.latchId ≠ authorization.expectedLatchId ∨ recovery.clearId ≠ authorization.clearId ∨
    recovery.clearedAt ≠ authorization.issuedAt ∨
    recovery.fingerprintSha256 ≠ authorization.recoveryEvidenceFingerprintSha256.text ∨
    evaluatedAt.milliseconds < authorization.notBefore.milliseconds ∨
    evaluatedAt.milliseconds ≥ authorization.expiresAt.milliseconds ∨
    authorization.issuedAt.milliseconds > evaluatedAt.milliseconds

instance (recovery : ValidatedRecoveryEvidence)
    (authorization : StablecoinDepegRecoveryAuthorization) (evaluatedAt : Instant) :
    Decidable (Mismatch recovery authorization evaluatedAt) :=
  inferInstanceAs (Decidable (_ ∨ _))

def clearCommand (recovery : ValidatedRecoveryEvidence)
    (authorization : StablecoinDepegRecoveryAuthorization) (evaluatedAt : Instant)
    (correlationId : UuidV4) : ClearCommand where
  asset := recovery.asset
  evaluatedAt := evaluatedAt
  correlationId := correlationId
  clearId := recovery.clearId
  latchId := recovery.latchId
  latchedAt := recovery.latchedAt
  expectedRevision := authorization.expectedRevision
  recoveryEvidenceFingerprintSha256 := recovery.fingerprintSha256
  evidenceActorReferenceId := authorization.evidenceActorReferenceId
  riskApproverReferenceId := authorization.riskApproverReferenceId
  clearedAt := recovery.clearedAt
  authorizationIssuedAt := authorization.issuedAt
  authorizationNotBefore := authorization.notBefore
  authorizationExpiresAt := authorization.expiresAt
  authorizationNonce := authorization.nonce
  authorizationFingerprintSha256 := authorization.authorizationFingerprintSha256
  authorizationId := authorization.authorizationId

def clearKeys : List String := ["evaluatedAt", "correlationId", "recoveryRequest", "authorization"]

def normalizeClearStablecoinDepegLatchCommand (v : Value) :
    Except Code NormalizedClearStablecoinDepegLatchCommand := do
  let record ← orFail (exactRecord v clearKeys) .invalidDepegRecoveryInput
  let evaluatedAt ← parseTimestamp (record.get "evaluatedAt") .invalidDepegRecoveryInput
  let correlationId ← parseUuid (record.get "correlationId") .invalidDepegRecoveryInput
  let recovery ← validateRecoveryEvidence sha256 (record.get "recoveryRequest")
  let authorization ← normalizeAuthorization sha256 (record.get "authorization")
  failWhen (Mismatch recovery authorization evaluatedAt) .depegRecoveryAuthorizationMismatch
  let command := clearCommand recovery authorization evaluatedAt correlationId
  let commandFingerprintSha256 ← fingerprint sha256 clearCommandFingerprintDomain command.material
  let eventFingerprintSha256 ← fingerprint sha256 clearEventFingerprintDomain
    (ofItems [.string commandFingerprintSha256,
      .integer (authorization.expectedRevision.value + 1), .string "CLEARED"])
  return { command with commandFingerprintSha256, eventFingerprintSha256 }

end Fingerprints

end CryptoLending.Valuation.StablecoinDepegLatch
