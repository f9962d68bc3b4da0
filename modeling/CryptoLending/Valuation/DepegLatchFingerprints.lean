import CryptoLending.Lib.WellFormedText
import CryptoLending.Valuation.RequestRearranged
import CryptoLending.Valuation.StablecoinDepegLatch

namespace CryptoLending.Valuation.DepegLatchFingerprints

open Lib Lib.JsValue Lib.JsString Lib.CanonicalTree
open DepegLatchJson StablecoinDepegLatch ValuationRendering
open RequestRearranged (parseStablecoin_eq evaluateStablecoinValuation_eq
  evaluateStablecoinRecovery_eq parseAsset_eq)
open ValuationRequest (StablecoinValuationAssetReference Instant)
open StablecoinPriceEvidence (UuidV4 Sha256 Reference isSha256 isReference)

section Order

variable {v w : Value} {sha256 : List UInt8 → String} {code : Code}

theorem ofValue_eq (p : List Char → Bool) (h : Rearranged v w) :
    Matching.ofValue p v = Matching.ofValue p w := by
  rw [Matching.ofValue, Matching.ofValue, h.string?]

theorem parseTimestamp_eq (h : Rearranged v w) : parseTimestamp v code = parseTimestamp w code := by
  rw [parseTimestamp, parseTimestamp, RequestRearranged.parseTimestamp_eq h]

theorem parseUuid_eq (h : Rearranged v w) : parseUuid v code = parseUuid w code := by
  rw [parseUuid, parseUuid, ofValue_eq _ h]

theorem parseDigest_eq (h : Rearranged v w) : parseDigest v code = parseDigest w code := by
  rw [parseDigest, parseDigest, ofValue_eq _ h]

theorem parseReference_eq (h : Rearranged v w) : parseReference v code = parseReference w code := by
  rw [parseReference, parseReference, ofValue_eq _ h]

theorem parseRevision_eq (h : Rearranged v w) : parseRevision v code = parseRevision w code := by
  rw [parseRevision, parseRevision, h.integer?]

theorem parseNullableRevision_eq (h : Rearranged v w) :
    parseNullableRevision v code = parseNullableRevision w code := by
  rw [parseNullableRevision, parseNullableRevision, h.isNull, parseRevision_eq h]

theorem isFalse_eq (h : Rearranged v w) : isFalse v = isFalse w := by
  cases h <;> rfl

theorem normalizeAsset_eq (h : Rearranged v w) :
    normalizeStablecoinDepegLatchAsset v = normalizeStablecoinDepegLatchAsset w := by
  apply Rearranged.bind_orFail (h.exactRecord _)
  intro r r' hr
  rw [(hr "registryEnvironment").isText, (hr "registryVersion").isNumber,
    (hr "registryFingerprintSha256").string?, parseStablecoin_eq (hr "stablecoin"),
    (hr "networkId").string?, (hr "identity").string?, (hr "decimals").integer?]

theorem fingerprint_eq (h : Rearranged v w) (domain : String) :
    fingerprint sha256 domain v = fingerprint sha256 domain w := by
  rw [fingerprint, fingerprint, canonicalJson_rearranged h]

theorem items_rearranged {l : List Value} (h : Rearranged v w) :
    Rearranged (ofItems (l ++ [v])) (ofItems (l ++ [w])) := by
  refine .items (List.rel_append (List.forall₂_same.mpr fun v _ => .same v) ?_)
  exact .cons h .nil

theorem validateDepegEvidence_eq (h : Rearranged v w) (actor : Reference) :
    validateDepegEvidence sha256 v actor = validateDepegEvidence sha256 w actor := by
  apply Rearranged.bind_orFail (h.exactRecord_keys _)
  rintro r r' ⟨hr, hk, hk'⟩
  have hfields : Rearranged (ofFields r) (ofFields r') :=
    Rearranged.ofFields (by decide) hk hk' fun key _ => hr key
  have hevidence : Rearranged (depegEvidence actor r) (depegEvidence actor r') :=
    @items_rearranged _ _ [.integer 1, .string actor.text] hfields
  rw [normalizeAsset_eq (hr "asset"), evaluateStablecoinValuation_eq hfields,
    fingerprint_eq hevidence]
  refine bind_congr fun asset => bind_congr fun _ => bind_congr fun evaluatedAt => ?_
  rw [(hr "evaluatedAt").isText]

theorem normalizeRecord_eq (h : Rearranged v w) :
    normalizeRecordStablecoinDepegLatchCommand sha256 v =
      normalizeRecordStablecoinDepegLatchCommand sha256 w := by
  apply Rearranged.bind_orFail (h.exactRecord _)
  intro r r' hr
  have hevidence : validateDepegEvidence sha256 (r.get "valuationRequest") =
      validateDepegEvidence sha256 (r'.get "valuationRequest") :=
    funext (validateDepegEvidence_eq (hr "valuationRequest"))
  rw [parseNullableRevision_eq (hr "expectedRevision"), parseUuid_eq (hr "correlationId"),
    parseDigest_eq (hr "latchId"), parseReference_eq (hr "evidenceActorReferenceId"),
    parseDigest_eq (hr "depegEvidenceFingerprintSha256"), hevidence]

theorem validateRecoveryEvidence_eq (h : Rearranged v w) :
    validateRecoveryEvidence sha256 v = validateRecoveryEvidence sha256 w := by
  apply Rearranged.bind_orFail (h.exactRecord_keys _)
  rintro r r' ⟨hr, hk, hk'⟩
  have hfields : Rearranged (ofFields r) (ofFields r') :=
    Rearranged.ofFields (by decide) hk hk' fun key _ => hr key
  have hevidence : Rearranged (recoveryEvidence r) (recoveryEvidence r') :=
    @items_rearranged _ _ [.integer 1] hfields
  rw [normalizeAsset_eq (hr "asset"), evaluateStablecoinRecovery_eq hfields,
    fingerprint_eq hevidence]
  refine bind_congr fun asset => bind_congr fun _ => bind_congr fun latch => bind_congr fun clear =>
    bind_congr fun evaluatedAt => ?_
  rw [(hr "evaluatedAt").isText]

theorem normalizeAuthorizationMaterial_eq (h : Rearranged v w) :
    normalizeAuthorizationMaterial v = normalizeAuthorizationMaterial w := by
  apply Rearranged.bind_orFail (h.exactRecord _)
  intro r r' hr
  rw [(hr "schemaVersion").isNumber, (hr "authorizationType").isText, (hr "scope").isText,
    isFalse_eq (hr "mayAuthorizeFinancialAction"), (hr "operation").isText,
    (hr "riskApproverRole").isText, normalizeAsset_eq (hr "asset"),
    parseDigest_eq (hr "expectedLatchId"), parseRevision_eq (hr "expectedRevision"),
    parseDigest_eq (hr "clearId"), parseDigest_eq (hr "recoveryEvidenceFingerprintSha256"),
    parseReference_eq (hr "evidenceActorReferenceId"),
    parseReference_eq (hr "riskApproverReferenceId"), parseTimestamp_eq (hr "issuedAt"),
    parseTimestamp_eq (hr "notBefore"), parseTimestamp_eq (hr "expiresAt"),
    parseUuid_eq (hr "nonce")]

theorem keys_materialInput (r : Record) :
    (authorizationMaterialKeys.map fun key => (key, r.get key)).map Prod.fst =
      authorizationMaterialKeys := by
  rw [List.map_map]
  exact List.map_id _

theorem get_materialInput (r : Record) {key : String} (h : key ∈ authorizationMaterialKeys) :
    Record.get (authorizationMaterialKeys.map fun key => (key, r.get key)) key = r.get key := by
  have hkeys : ((authorizationMaterialKeys.map fun key => (key, r.get key)).map Prod.fst).Nodup := by
    rw [keys_materialInput]
    decide
  have hmem : (key, r.get key) ∈ authorizationMaterialKeys.map fun key => (key, r.get key) :=
    List.mem_map.mpr ⟨key, h, rfl⟩
  rw [Record.get, JsMap.lookup_of_mem hkeys hmem, Option.getD_some]

theorem normalizeAuthorization_eq (h : Rearranged v w) :
    normalizeAuthorization sha256 v = normalizeAuthorization sha256 w := by
  apply Rearranged.bind_orFail (h.exactRecord _)
  intro r r' hr
  have hmaterial : Rearranged (materialInput r) (materialInput r') := by
    refine Rearranged.ofFields (by decide) (keys_materialInput r) (keys_materialInput r')
      fun key hkey => ?_
    rw [get_materialInput r hkey, get_materialInput r' hkey]
    exact hr key
  rw [normalizeAuthorizationMaterial_eq hmaterial,
    parseDigest_eq (hr "authorizationFingerprintSha256")]
  refine bind_congr fun material => bind_congr fun digest => bind_congr fun expected =>
    bind_congr fun _ => ?_
  dsimp only
  rw [(hr "authorizationId").isText]

theorem normalizeClear_eq (h : Rearranged v w) :
    normalizeClearStablecoinDepegLatchCommand sha256 v =
      normalizeClearStablecoinDepegLatchCommand sha256 w := by
  apply Rearranged.bind_orFail (h.exactRecord _)
  intro r r' hr
  rw [parseTimestamp_eq (hr "evaluatedAt"), parseUuid_eq (hr "correlationId"),
    validateRecoveryEvidence_eq (hr "recoveryRequest"),
    normalizeAuthorization_eq (hr "authorization")]

end Order

section Materials

/-- A command of either kind. -/
inductive DepegLatchCommand where
  | latch (command : NormalizedRecordStablecoinDepegLatchCommand)
  | clear (command : NormalizedClearStablecoinDepegLatchCommand)
  deriving DecidableEq

def DepegLatchCommand.material : DepegLatchCommand → Value
  | .latch command => command.toRecordCommand.material
  | .clear command => command.toClearCommand.material

variable (sha256 : List UInt8 → String)

/-- The commands that the domain accepts. -/
inductive Accepted (v : Value) : DepegLatchCommand → Prop
  | latch {command : NormalizedRecordStablecoinDepegLatchCommand}
      (h : normalizeRecordStablecoinDepegLatchCommand sha256 v = .ok command) :
      Accepted v (.latch command)
  | clear {command : NormalizedClearStablecoinDepegLatchCommand}
      (h : normalizeClearStablecoinDepegLatchCommand sha256 v = .ok command) :
      Accepted v (.clear command)

variable {sha256}

theorem asset_inj {a b : StablecoinValuationAssetReference}
    (h : Rearranged (assetValue a) (assetValue b)) : a = b := by
  have hparse := parseAsset_eq h
  rw [parseAsset_assetValue, parseAsset_assetValue] at hparse
  exact Option.some.inj hparse

theorem revisionText_inj {a b : Revision}
    (h : Rearranged (.integer a.value) (.integer b.value)) : a = b := by
  have hvalue : a.value = b.value := Int.ofNat_inj.mp (Rearranged.integer_inj h)
  cases a
  cases b
  simp_all

theorem revisionValue_inj {a b : Option Revision}
    (h : Rearranged (revisionValue a) (revisionValue b)) : a = b := by
  have hnull := h.isNull
  cases a with
  | none =>
    cases b with
    | none => rfl
    | some revision => cases hnull
  | some revision =>
    cases b with
    | none => cases hnull
    | some revision' => rw [revisionText_inj h]

theorem matching_inj {p : List Char → Bool} {a b : Matching p}
    (h : Rearranged (.string a.text) (.string b.text)) : a = b :=
  Matching.ext_text (Rearranged.string_inj h)

theorem instant_inj {a b : Instant} (h : Rearranged (.string a.text) (.string b.text)) : a = b := by
  obtain ⟨t, _⟩ := a
  obtain ⟨u, _⟩ := b
  obtain rfl : t = u := IsoDate.Timestamp.ext_text (Rearranged.string_inj h)
  rfl

theorem recordMaterial_inj {a b : RecordCommand} (h : Rearranged a.material b.material) :
    a = b := by
  have hitems := Rearranged.ofItems_inv h
  simp only [List.forall₂_cons, List.forall₂_nil_left_iff] at hitems
  obtain ⟨-, hasset, hrevision, hcorrelation, hlatch, hat, hactor, hevidence, -⟩ := hitems
  cases a
  cases b
  obtain rfl := asset_inj hasset
  obtain rfl := revisionValue_inj hrevision
  obtain rfl := matching_inj hcorrelation
  obtain rfl := matching_inj hlatch
  obtain rfl := instant_inj hat
  obtain rfl := matching_inj hactor
  obtain rfl := matching_inj hevidence
  rfl

theorem clearMaterial_inj {a b : ClearCommand} (h : Rearranged a.material b.material) :
    a = b := by
  have hitems := Rearranged.ofItems_inv h
  simp only [List.forall₂_cons, List.forall₂_nil_left_iff] at hitems
  obtain ⟨-, hasset, hat, hcorrelation, hclear, hlatch, hlatched, hrevision, hevidence, hactor,
    happrover, -, hcleared, hissued, hbefore, hexpires, hnonce, hfingerprint, hid, -⟩ := hitems
  cases a
  cases b
  obtain rfl := asset_inj hasset
  obtain rfl := instant_inj hat
  obtain rfl := matching_inj hcorrelation
  obtain rfl := matching_inj hclear
  obtain rfl := matching_inj hlatch
  obtain rfl := instant_inj hlatched
  obtain rfl := revisionText_inj hrevision
  obtain rfl := Rearranged.string_inj hevidence
  obtain rfl := matching_inj hactor
  obtain rfl := matching_inj happrover
  obtain rfl := instant_inj hcleared
  obtain rfl := instant_inj hissued
  obtain rfl := instant_inj hbefore
  obtain rfl := instant_inj hexpires
  obtain rfl := matching_inj hnonce
  obtain rfl := matching_inj hfingerprint
  obtain rfl := Rearranged.string_inj hid
  rfl

end Materials

section Readings

variable {sha256 : List UInt8 → String} {v w : Value} {code : Code}

theorem fingerprint_ok {domain digest : String} (h : fingerprint sha256 domain v = .ok digest) :
    ∃ json, canonicalJson v = .ok json ∧ digest = sha256 (preimage domain json) := by
  obtain ⟨json, hjson, h⟩ := except_bind_ok.mp h
  exact ⟨json, hjson, (Except.ok.inj h).symm⟩

theorem parseUuid_ok {x : UuidV4} (h : parseUuid v code = .ok x) : v = .string x.text :=
  Matching.ofValue_eq_some.mp (orFail_ok.mp h)

theorem parseDigest_ok {x : Sha256} (h : parseDigest v code = .ok x) : v = .string x.text :=
  Matching.ofValue_eq_some.mp (orFail_ok.mp h)

theorem parseReference_ok {x : Reference} (h : parseReference v code = .ok x) :
    v = .string x.text := Matching.ofValue_eq_some.mp (orFail_ok.mp h)

theorem parseTimestamp_ok {t : Instant} (h : parseTimestamp v code = .ok t) :
    v = .string t.text := by
  obtain ⟨text, htext, hread⟩ := Option.bind_eq_some_iff.mp (orFail_ok.mp h)
  obtain ⟨timestamp, htimestamp, hread⟩ := Option.bind_eq_some_iff.mp hread
  obtain ⟨_, ht⟩ := Option.dite_none_right_eq_some.mp hread
  rw [← Option.some.inj ht, IsoDate.Timestamp.ofText_text htimestamp]
  exact Value.string?_eq_some.mp htext

theorem parseRevision_ok {x : Revision} (h : parseRevision v code = .ok x) :
    v = .integer x.value := by
  obtain ⟨n, hn, h⟩ := except_bind_ok.mp h
  have hn := orFail_ok.mp hn
  split at h
  · rename_i hbounds
    rw [← Except.ok.inj h]
    cases v with
    | integer m =>
      obtain rfl : m = n := Option.some.inj hn
      have hpositive := hbounds.1
      rw [Int.toNat_of_nonneg (by omega)]
    | undefined | null | boolean | nonInteger | bigint | string | date | array | object | other =>
      cases hn
  · cases h

theorem parseNullableRevision_ok {x : Option Revision}
    (h : parseNullableRevision v code = .ok x) : v = revisionValue x := by
  unfold parseNullableRevision at h
  split at h
  · rename_i hnull
    rw [← Except.ok.inj h]
    exact (Value.isNull_iff v).mp hnull
  · obtain ⟨revision, hrevision, h⟩ := except_bind_ok.mp h
    rw [← Except.ok.inj h]
    exact parseRevision_ok hrevision

/-- The evidence of a latch, with the text that is hashed. -/
theorem validateDepegEvidence_ok {actor : Reference} {evidence : DepegEvidence}
    (h : validateDepegEvidence sha256 v actor = .ok evidence) : ∃ request json,
      exactRecord v valuationKeys = some request ∧
        canonicalJson (depegEvidence actor request) = .ok json ∧
        evidence.fingerprintSha256 = sha256 (preimage depegEvidenceFingerprintDomain json) := by
  obtain ⟨request, hrequest, h⟩ := except_bind_ok.mp h
  obtain ⟨asset, -, h⟩ := except_bind_ok.mp h
  obtain ⟨_, -, h⟩ := except_bind_ok.mp h
  obtain ⟨evaluatedAt, -, h⟩ := except_bind_ok.mp h
  obtain ⟨_, -, h⟩ := except_bind_ok.mp h
  obtain ⟨digest, hdigest, h⟩ := except_bind_ok.mp h
  obtain ⟨json, hjson, rfl⟩ := fingerprint_ok hdigest
  refine ⟨request, json, orFail_ok.mp hrequest, hjson, ?_⟩
  rw [← Except.ok.inj h]

theorem validateRecoveryEvidence_ok {recovery : ValidatedRecoveryEvidence}
    (h : validateRecoveryEvidence sha256 v = .ok recovery) : ∃ request json,
      exactRecord v recoveryKeys = some request ∧
        canonicalJson (recoveryEvidence request) = .ok json ∧
        recovery.fingerprintSha256 = sha256 (preimage recoveryEvidenceFingerprintDomain json) := by
  obtain ⟨request, hrequest, h⟩ := except_bind_ok.mp h
  obtain ⟨asset, -, h⟩ := except_bind_ok.mp h
  obtain ⟨_, -, h⟩ := except_bind_ok.mp h
  obtain ⟨latch, -, h⟩ := except_bind_ok.mp h
  obtain ⟨clear, -, h⟩ := except_bind_ok.mp h
  obtain ⟨evaluatedAt, -, h⟩ := except_bind_ok.mp h
  obtain ⟨_, -, h⟩ := except_bind_ok.mp h
  obtain ⟨depegAsset, -, h⟩ := except_bind_ok.mp h
  obtain ⟨clearAsset, -, h⟩ := except_bind_ok.mp h
  obtain ⟨_, -, h⟩ := except_bind_ok.mp h
  obtain ⟨latchId, -, h⟩ := except_bind_ok.mp h
  obtain ⟨clearId, -, h⟩ := except_bind_ok.mp h
  obtain ⟨digest, hdigest, h⟩ := except_bind_ok.mp h
  obtain ⟨json, hjson, rfl⟩ := fingerprint_ok hdigest
  refine ⟨request, json, orFail_ok.mp hrequest, hjson, ?_⟩
  rw [← Except.ok.inj h]

/-- What the command that sets a latch was read from. -/
structure LatchReads (sha256 : List UInt8 → String) (v : Value) (record : Record)
    (evidence : DepegEvidence) (command : NormalizedRecordStablecoinDepegLatchCommand) : Prop where
  shape : exactRecord v recordKeys = some record
  revision : record.get "expectedRevision" = revisionValue command.expectedRevision
  correlation : record.get "correlationId" = .string command.correlationId.text
  latchId : record.get "latchId" = .string command.latchId.text
  actor : record.get "evidenceActorReferenceId" = .string command.evidenceActorReferenceId.text
  requested : record.get "depegEvidenceFingerprintSha256" =
    .string command.depegEvidenceFingerprintSha256.text
  evidence_ok : validateDepegEvidence sha256 (record.get "valuationRequest")
    command.evidenceActorReferenceId = .ok evidence
  matched : command.depegEvidenceFingerprintSha256.text = evidence.fingerprintSha256
  fingerprint : StablecoinDepegLatch.fingerprint sha256 latchCommandFingerprintDomain
    command.toRecordCommand.material = .ok command.commandFingerprintSha256
  event : StablecoinDepegLatch.fingerprint sha256 latchEventFingerprintDomain
    (ofItems [.string command.commandFingerprintSha256,
      .integer ((command.expectedRevision.map (·.value)).getD 0 + 1), .string "LATCHED"]) =
    .ok command.eventFingerprintSha256

theorem latchReads {command : NormalizedRecordStablecoinDepegLatchCommand}
    (h : normalizeRecordStablecoinDepegLatchCommand sha256 v = .ok command) :
    ∃ record evidence, LatchReads sha256 v record evidence command := by
  obtain ⟨record, hrecord, h⟩ := except_bind_ok.mp h
  obtain ⟨revision, hrevision, h⟩ := except_bind_ok.mp h
  obtain ⟨correlation, hcorrelation, h⟩ := except_bind_ok.mp h
  obtain ⟨latchId, hlatchId, h⟩ := except_bind_ok.mp h
  obtain ⟨actor, hactor, h⟩ := except_bind_ok.mp h
  obtain ⟨requested, hrequested, h⟩ := except_bind_ok.mp h
  obtain ⟨evidence, hevidence, h⟩ := except_bind_ok.mp h
  obtain ⟨_, hmatched, h⟩ := except_bind_ok.mp h
  obtain ⟨digest, hdigest, h⟩ := except_bind_ok.mp h
  obtain ⟨event, hevent, h⟩ := except_bind_ok.mp h
  obtain rfl := Except.ok.inj h
  exact ⟨record, evidence, orFail_ok.mp hrecord, parseNullableRevision_ok hrevision,
    parseUuid_ok hcorrelation, parseDigest_ok hlatchId, parseReference_ok hactor,
    parseDigest_ok hrequested, hevidence, not_not.mp (failWhen_ok.mp hmatched), hdigest, hevent⟩

/-- The evidence of a command that was accepted has the fingerprint that the command carries. -/
theorem fingerprint_of_accepted {command : NormalizedRecordStablecoinDepegLatchCommand}
    (h : normalizeRecordStablecoinDepegLatchCommand sha256 v = .ok command) :
    ∃ record, exactRecord v recordKeys = some record ∧
      fingerprintStablecoinDepegEvidence sha256 (ofFields
        [("evidenceActorReferenceId", record.get "evidenceActorReferenceId"),
          ("valuationRequest", record.get "valuationRequest")]) =
        .ok command.depegEvidenceFingerprintSha256.text := by
  obtain ⟨record, evidence, hreads⟩ := latchReads h
  have hshape : exactRecord (ofFields
      [("evidenceActorReferenceId", record.get "evidenceActorReferenceId"),
        ("valuationRequest", record.get "valuationRequest")])
      ["evidenceActorReferenceId", "valuationRequest"] = some _ :=
    exactRecord_ofFields_keys rfl (by decide)
  have hactor : parseReference (record.get "evidenceActorReferenceId") .invalidDepegLatchInput =
      .ok command.evidenceActorReferenceId :=
    orFail_ok.mpr (Matching.ofValue_eq_some.mpr hreads.actor)
  refine ⟨record, hreads.shape, ?_⟩
  rw [fingerprintStablecoinDepegEvidence, hshape, hreads.matched]
  simp only [orFail, except_ok_bind, get_cons, String.reduceEq, if_true, if_false, hactor,
    hreads.evidence_ok]
  rfl

/-- What the command that clears a latch was read from. -/
structure ClearReads (sha256 : List UInt8 → String) (v : Value) (record : Record)
    (recovery : ValidatedRecoveryEvidence) (authorization : StablecoinDepegRecoveryAuthorization)
    (command : NormalizedClearStablecoinDepegLatchCommand) : Prop where
  shape : exactRecord v clearKeys = some record
  evaluated : record.get "evaluatedAt" = .string command.evaluatedAt.text
  correlation : record.get "correlationId" = .string command.correlationId.text
  recovery_ok : validateRecoveryEvidence sha256 (record.get "recoveryRequest") = .ok recovery
  authorization_ok : normalizeAuthorization sha256 (record.get "authorization") = .ok authorization
  matched : ¬Mismatch recovery authorization command.evaluatedAt
  fields : command.toClearCommand =
    clearCommand recovery authorization command.evaluatedAt command.correlationId
  fingerprint : StablecoinDepegLatch.fingerprint sha256 clearCommandFingerprintDomain
    command.toClearCommand.material = .ok command.commandFingerprintSha256
  event : StablecoinDepegLatch.fingerprint sha256 clearEventFingerprintDomain
    (ofItems [.string command.commandFingerprintSha256,
      .integer (command.expectedRevision.value + 1), .string "CLEARED"]) =
    .ok command.eventFingerprintSha256

theorem clearReads {command : NormalizedClearStablecoinDepegLatchCommand}
    (h : normalizeClearStablecoinDepegLatchCommand sha256 v = .ok command) :
    ∃ record recovery authorization, ClearReads sha256 v record recovery authorization command := by
  obtain ⟨record, hrecord, h⟩ := except_bind_ok.mp h
  obtain ⟨evaluatedAt, hevaluated, h⟩ := except_bind_ok.mp h
  obtain ⟨correlation, hcorrelation, h⟩ := except_bind_ok.mp h
  obtain ⟨recovery, hrecovery, h⟩ := except_bind_ok.mp h
  obtain ⟨authorization, hauthorization, h⟩ := except_bind_ok.mp h
  obtain ⟨_, hmatched, h⟩ := except_bind_ok.mp h
  obtain ⟨digest, hdigest, h⟩ := except_bind_ok.mp h
  obtain ⟨event, hevent, h⟩ := except_bind_ok.mp h
  obtain rfl := Except.ok.inj h
  exact ⟨record, recovery, authorization, orFail_ok.mp hrecord, parseTimestamp_ok hevaluated,
    parseUuid_ok hcorrelation, hrecovery, hauthorization, failWhen_ok.mp hmatched, rfl, hdigest,
    hevent⟩

end Readings

section Determined

variable {sha256 : List UInt8 → String} {v w : Value}

theorem isText_ok {s : String} (h : ¬v.isText s = false) : v = .string s :=
  Value.isText_iff.mp (Bool.not_eq_false _ ▸ h)

theorem isNumber_ok {n : Int} (h : ¬v.isNumber n = false) : v = .integer n :=
  Value.isNumber_iff.mp (Bool.not_eq_false _ ▸ h)

theorem isFalse_ok (h : ¬isFalse v = false) : v = .boolean false := by
  cases v with
  | boolean value =>
    cases value with
    | false => rfl
    | true => exact absurd rfl h
  | undefined | null | integer | nonInteger | bigint | string | date | array | object | other =>
    exact absurd rfl h

theorem parseStablecoin_ok {stablecoin : Blockchain.AssetRegistry.SupportedStablecoin}
    (h : ValuationRequest.parseStablecoin v = some stablecoin) : v = .string stablecoin.text := by
  obtain ⟨text, htext, h⟩ := Option.bind_eq_some_iff.mp h
  have hfound := List.find?_some h
  rw [beq_iff_eq] at hfound
  rw [hfound]
  exact Value.string?_eq_some.mp htext

/-- The fields of an accepted asset. -/
structure AssetReads (v : Value) (record : Record) (asset : StablecoinValuationAssetReference) :
    Prop where
  shape : exactRecord v StablecoinPriceEvidence.assetKeys = some record
  environment : record.get "registryEnvironment" = .string "MAINNET"
  version : record.get "registryVersion" = .integer 1
  registry : record.get "registryFingerprintSha256" = .string asset.registryFingerprintSha256
  stablecoin : record.get "stablecoin" = .string asset.stablecoin.text
  network : record.get "networkId" = .string asset.networkId
  identity : record.get "identity" = .string asset.identity
  decimals : record.get "decimals" = .integer asset.decimals

theorem assetReads {asset : StablecoinValuationAssetReference}
    (h : normalizeStablecoinDepegLatchAsset v = .ok asset) :
    ∃ record, AssetReads v record asset := by
  obtain ⟨record, hrecord, h⟩ := except_bind_ok.mp h
  obtain ⟨_, hconstants, h⟩ := except_bind_ok.mp h
  obtain ⟨registry, hregistry, h⟩ := except_bind_ok.mp h
  obtain ⟨_, -, h⟩ := except_bind_ok.mp h
  obtain ⟨stablecoin, hstablecoin, h⟩ := except_bind_ok.mp h
  obtain ⟨network, hnetwork, h⟩ := except_bind_ok.mp h
  obtain ⟨_, -, h⟩ := except_bind_ok.mp h
  obtain ⟨identity, hidentity, h⟩ := except_bind_ok.mp h
  obtain ⟨decimals, hdecimals, h⟩ := except_bind_ok.mp h
  obtain ⟨_, hsign, h⟩ := except_bind_ok.mp h
  have hconstants := not_or.mp (failWhen_ok.mp hconstants)
  have hsign := failWhen_ok.mp hsign
  have hinteger : record.get "decimals" = .integer decimals := by
    have hread := orFail_ok.mp hdecimals
    generalize record.get "decimals" = value at hread
    cases value with
    | integer m => rw [Option.some.inj hread]
    | undefined | null | boolean | nonInteger | bigint | string | date | array | object | other =>
      cases hread
  split at h
  · obtain rfl := Except.ok.inj h
    refine ⟨record, orFail_ok.mp hrecord, isText_ok hconstants.1, isNumber_ok hconstants.2,
      Value.string?_eq_some.mp (orFail_ok.mp hregistry), parseStablecoin_ok (orFail_ok.mp hstablecoin),
      Value.string?_eq_some.mp (orFail_ok.mp hnetwork),
      Value.string?_eq_some.mp (orFail_ok.mp hidentity), ?_⟩
    rw [hinteger, Int.toNat_of_nonneg (by omega)]
  · cases h

/-- Values that are read as one asset differ in the order of keys only. -/
theorem rearranged_of_asset {asset : StablecoinValuationAssetReference}
    (hv : normalizeStablecoinDepegLatchAsset v = .ok asset)
    (hw : normalizeStablecoinDepegLatchAsset w = .ok asset) : Rearranged v w := by
  obtain ⟨r, hr⟩ := assetReads hv
  obtain ⟨r', hr'⟩ := assetReads hw
  refine Rearranged.of_exactRecord (by decide) hr.shape hr'.shape ?_
  simp only [StablecoinPriceEvidence.assetKeys, List.forall_mem_cons, hr.environment,
    hr'.environment, hr.version, hr'.version, hr.registry, hr'.registry, hr.stablecoin,
    hr'.stablecoin, hr.network, hr'.network, hr.identity, hr'.identity, hr.decimals, hr'.decimals]
  exact ⟨.same _, .same _, .same _, .same _, .same _, .same _, .same _, List.forall_mem_nil _⟩

/-- The fields of an accepted authorization. -/
structure AuthorizationReads (sha256 : List UInt8 → String) (v : Value) (record : Record)
    (authorization : StablecoinDepegRecoveryAuthorization) : Prop where
  shape : exactRecord v authorizationKeys = some record
  schema : record.get "schemaVersion" = .integer 1
  type : record.get "authorizationType" = .string "STABLECOIN_DEPEG_LATCH_RECOVERY"
  scope : record.get "scope" = .string "DEPEG_LATCH_CLEAR_ONLY"
  mayAuthorize : record.get "mayAuthorizeFinancialAction" = .boolean false
  operation : record.get "operation" = .string "CLEAR_STABLECOIN_DEPEG_LATCH"
  asset : normalizeStablecoinDepegLatchAsset (record.get "asset") = .ok authorization.asset
  latchId : record.get "expectedLatchId" = .string authorization.expectedLatchId.text
  revision : record.get "expectedRevision" = .integer authorization.expectedRevision.value
  clearId : record.get "clearId" = .string authorization.clearId.text
  evidence : record.get "recoveryEvidenceFingerprintSha256" =
    .string authorization.recoveryEvidenceFingerprintSha256.text
  actor : record.get "evidenceActorReferenceId" =
    .string authorization.evidenceActorReferenceId.text
  approver : record.get "riskApproverReferenceId" =
    .string authorization.riskApproverReferenceId.text
  role : record.get "riskApproverRole" = .string "RISK_APPROVER"
  issued : record.get "issuedAt" = .string authorization.issuedAt.text
  notBefore : record.get "notBefore" = .string authorization.notBefore.text
  expires : record.get "expiresAt" = .string authorization.expiresAt.text
  nonce : record.get "nonce" = .string authorization.nonce.text
  fingerprint : record.get "authorizationFingerprintSha256" =
    .string authorization.authorizationFingerprintSha256.text
  id : record.get "authorizationId" = .string authorization.authorizationId

theorem authorizationReads {authorization : StablecoinDepegRecoveryAuthorization}
    (h : normalizeAuthorization sha256 v = .ok authorization) :
    ∃ record, AuthorizationReads sha256 v record authorization := by
  obtain ⟨record, hrecord, h⟩ := except_bind_ok.mp h
  obtain ⟨material, hmaterial, h⟩ := except_bind_ok.mp h
  obtain ⟨digest, hdigest, h⟩ := except_bind_ok.mp h
  obtain ⟨expected, -, h⟩ := except_bind_ok.mp h
  obtain ⟨_, -, h⟩ := except_bind_ok.mp h
  obtain ⟨_, hid, h⟩ := except_bind_ok.mp h
  obtain rfl := Except.ok.inj h
  obtain ⟨fields, hfields, h⟩ := except_bind_ok.mp hmaterial
  have hread : fields = authorizationMaterialKeys.map fun key => (key, record.get key) := by
    have hexact := exactRecord_ofFields_keys (keys_materialInput record) (by decide)
    exact Option.some.inj ((orFail_ok.mp hfields).symm.trans hexact)
  have hget : ∀ key ∈ authorizationMaterialKeys, fields.get key = record.get key := by
    intro key hkey
    rw [hread, get_materialInput record hkey]
  simp only [authorizationMaterialKeys, List.forall_mem_cons] at hget
  obtain ⟨_, hconstants, h⟩ := except_bind_ok.mp h
  obtain ⟨asset, hasset, h⟩ := except_bind_ok.mp h
  obtain ⟨latchId, hlatchId, h⟩ := except_bind_ok.mp h
  obtain ⟨revision, hrevision, h⟩ := except_bind_ok.mp h
  obtain ⟨clearId, hclearId, h⟩ := except_bind_ok.mp h
  obtain ⟨evidence, hevidence, h⟩ := except_bind_ok.mp h
  obtain ⟨actor, hactor, h⟩ := except_bind_ok.mp h
  obtain ⟨approver, happrover, h⟩ := except_bind_ok.mp h
  split at h
  · obtain ⟨issued, hissued, h⟩ := except_bind_ok.mp h
    obtain ⟨notBefore, hnotBefore, h⟩ := except_bind_ok.mp h
    obtain ⟨expires, hexpires, h⟩ := except_bind_ok.mp h
    split at h
    · obtain ⟨nonce, hnonce, h⟩ := except_bind_ok.mp h
      obtain rfl := Except.ok.inj h
      have hconstants := failWhen_ok.mp hconstants
      simp only [not_or] at hconstants
      obtain ⟨hschema, htype, hscope, hmay, hoperation, hrole⟩ := hconstants
      simp only [hget] at hschema htype hscope hmay hoperation hrole hasset hlatchId hrevision
      simp only [hget] at hclearId hevidence hactor happrover hissued hnotBefore hexpires hnonce
      exact ⟨record, orFail_ok.mp hrecord, isNumber_ok hschema, isText_ok htype, isText_ok hscope,
        isFalse_ok hmay, isText_ok hoperation, hasset, parseDigest_ok hlatchId,
        parseRevision_ok hrevision, parseDigest_ok hclearId, parseDigest_ok hevidence,
        parseReference_ok hactor, parseReference_ok happrover, isText_ok hrole,
        parseTimestamp_ok hissued, parseTimestamp_ok hnotBefore, parseTimestamp_ok hexpires,
        parseUuid_ok hnonce, parseDigest_ok hdigest, isText_ok (failWhen_ok.mp hid)⟩
    · cases h
  · cases h

/-- Values that are read as one authorization differ in the order of keys only. -/
theorem rearranged_of_authorization {authorization : StablecoinDepegRecoveryAuthorization}
    (hv : normalizeAuthorization sha256 v = .ok authorization)
    (hw : normalizeAuthorization sha256 w = .ok authorization) : Rearranged v w := by
  obtain ⟨r, hr⟩ := authorizationReads hv
  obtain ⟨r', hr'⟩ := authorizationReads hw
  refine Rearranged.of_exactRecord (by decide) hr.shape hr'.shape ?_
  simp only [authorizationKeys, authorizationMaterialKeys, List.cons_append, List.nil_append,
    List.forall_mem_cons, hr.schema, hr'.schema, hr.type, hr'.type, hr.scope, hr'.scope,
    hr.mayAuthorize, hr'.mayAuthorize, hr.operation, hr'.operation, hr.latchId, hr'.latchId,
    hr.revision, hr'.revision, hr.clearId, hr'.clearId, hr.evidence, hr'.evidence, hr.actor,
    hr'.actor, hr.approver, hr'.approver, hr.role, hr'.role, hr.issued, hr'.issued, hr.notBefore,
    hr'.notBefore, hr.expires, hr'.expires, hr.nonce, hr'.nonce, hr.fingerprint, hr'.fingerprint,
    hr.id, hr'.id]
  exact ⟨.same _, .same _, .same _, .same _, .same _, rearranged_of_asset hr.asset hr'.asset,
    .same _, .same _, .same _, .same _, .same _, .same _, .same _, .same _, .same _, .same _,
    .same _, .same _, .same _, List.forall_mem_nil _⟩

end Determined

open Blockchain.LaunchNetwork (isMainnetLaunchNetwork)

section Values

variable {sha256 : List UInt8 → String} {code : Code}

theorem parseUuid_text (x : UuidV4) : parseUuid (.string x.text) code = .ok x := by
  rw [parseUuid, Matching.ofValue_text]
  rfl

theorem parseDigest_text (x : Sha256) : parseDigest (.string x.text) code = .ok x := by
  rw [parseDigest, Matching.ofValue_text]
  rfl

theorem parseReference_text (x : Reference) : parseReference (.string x.text) code = .ok x := by
  rw [parseReference, Matching.ofValue_text]
  rfl

theorem parseTimestamp_text (t : Instant) : parseTimestamp (.string t.text) code = .ok t := by
  rw [parseTimestamp, ValuationRendering.parseTimestamp_text]
  rfl

theorem parseRevision_integer (x : Revision) :
    parseRevision (.integer x.value) code = .ok x := by
  have hbounds : 1 ≤ (x.value : Int).toNat ∧ (x.value : Int).toNat < 2 ^ 53 - 1 :=
    ⟨x.positive, x.below⟩
  exact dif_pos hbounds

theorem registry_of_active (asset : StablecoinValuationAssetReference) :
    asset.registryFingerprintSha256 =
      Blockchain.AssetRegistry.mainnetSupportedAssetRegistry.fingerprintSha256 := by
  have hactive := asset.active
  unfold ValuationRequest.isActiveAsset at hactive
  dsimp only at hactive
  split at hactive
  · simp only [Bool.and_eq_true, beq_iff_eq] at hactive
    exact hactive.1.1.1.1.1.symm
  · cases hactive

theorem normalizeAsset_assetValue {asset : StablecoinValuationAssetReference}
    (h : isMainnetLaunchNetwork asset.networkId = true) :
    normalizeStablecoinDepegLatchAsset (assetValue asset) = .ok asset := by
  have hrecord : exactRecord (assetValue asset) StablecoinPriceEvidence.assetKeys = some _ :=
    exactRecord_ofFields (by decide : StablecoinPriceEvidence.assetKeys.Nodup)
  have hregistry := registry_of_active asset
  have hsign : ¬(asset.decimals : Int) < 0 := by omega
  have hactive := asset.active
  rw [← Int.toNat_natCast asset.decimals, hregistry] at hactive
  simp only [normalizeStablecoinDepegLatchAsset, hrecord, get_cons, String.reduceEq, if_true,
    if_false, orFail, failWhen, except_ok_bind, Value.isText, Value.isNumber, Value.string?,
    Value.integer?, parseStablecoin_text, ne_eq, hregistry, not_true, h, hsign,
    ValuationRequest.registryEnvironment, ValuationRequest.registryVersion, Nat.cast_one,
    beq_self_eq_true, Bool.true_eq_false, or_self]
  rw [dif_pos hactive]
  cases asset
  obtain rfl := hregistry
  rfl

theorem materialKeys_nodup : authorizationMaterialKeys.Nodup := by decide

theorem authorizationKeys_nodup : authorizationKeys.Nodup := by decide

/-- The fields of a material are read as that material. -/
theorem normalizeAuthorizationMaterial_toValue {material : AuthorizationMaterial}
    (h : isMainnetLaunchNetwork material.asset.networkId = true) :
    normalizeAuthorizationMaterial material.toValue = .ok material := by
  have hrecord : exactRecord material.toValue authorizationMaterialKeys = some _ :=
    exactRecord_ofFields materialKeys_nodup
  simp only [normalizeAuthorizationMaterial, hrecord, get_cons, String.reduceEq, if_true,
    if_false, orFail, failWhen, except_ok_bind, Value.isText, Value.isNumber,
    StablecoinDepegLatch.isFalse, Bool.true_eq_false, Bool.not_false,
    normalizeAsset_assetValue h, parseDigest_text, parseRevision_integer, parseReference_text,
    parseTimestamp_text, parseUuid_text]
  rw [dif_pos material.separate, dif_pos material.window]
  rfl

theorem materialInput_append {fields : Record} (rest : Record)
    (h : fields.map Prod.fst = authorizationMaterialKeys) :
    materialInput (fields ++ rest) = ofFields fields := by
  have hnodup : (fields.map Prod.fst).Nodup := h ▸ materialKeys_nodup
  rw [materialInput, ← h, List.map_map]
  conv_rhs => rw [← List.map_id fields]
  refine congrArg ofFields (List.map_congr_left fun f hf => ?_)
  rw [Function.comp_apply, Record.get, List.lookup_append, JsMap.lookup_of_mem hnodup hf]
  rfl

/-- A material with its digest is read as the authorization. -/
theorem normalizeAuthorization_fields {fields : Record} {material : AuthorizationMaterial}
    {digest : Sha256} (h : isMainnetLaunchNetwork material.asset.networkId = true)
    (hfields : ofFields fields = material.toValue)
    (hkeys : fields.map Prod.fst = authorizationMaterialKeys)
    (hdigest : fingerprintStablecoinDepegRecoveryAuthorization sha256 material.toValue =
      .ok digest.text) :
    normalizeAuthorization sha256 (ofFields (fields ++
      [("authorizationFingerprintSha256", .string digest.text),
        ("authorizationId", .string (authorizationIdPrefix ++ digest.text))])) =
      .ok { material with
        authorizationFingerprintSha256 := digest
        authorizationId := authorizationIdPrefix ++ digest.text } := by
  have hinput := materialInput_append [("authorizationFingerprintSha256", .string digest.text),
    ("authorizationId", .string (authorizationIdPrefix ++ digest.text))] hkeys
  generalize hrecord : fields ++ [("authorizationFingerprintSha256", Value.string digest.text),
    ("authorizationId", .string (authorizationIdPrefix ++ digest.text))] = record at hinput ⊢
  have hall : record.map Prod.fst = authorizationKeys := by
    rw [← hrecord, List.map_append, hkeys]
    rfl
  have hget : ∀ {key : String} {v : Value}, (key, v) ∈ record → record.get key = v := by
    intro key v hmem
    rw [Record.get, JsMap.lookup_of_mem (hall ▸ authorizationKeys_nodup) hmem]
    rfl
  have hfingerprint : record.get "authorizationFingerprintSha256" = .string digest.text :=
    hget (by simp [← hrecord])
  have hid : record.get "authorizationId" = .string (authorizationIdPrefix ++ digest.text) :=
    hget (by simp [← hrecord])
  simp only [normalizeAuthorization, exactRecord_ofFields_keys hall authorizationKeys_nodup, orFail,
    except_ok_bind, hinput, hfields, normalizeAuthorizationMaterial_toValue h, hfingerprint, hid,
    parseDigest_text, hdigest, failWhen, ne_eq, not_true, Value.isText, Value.string?,
    beq_self_eq_true, Bool.true_eq_false, if_false]
  rfl

end Values

section Returns

variable {sha256 : List UInt8 → String} {v : Value}

theorem validateDepegEvidence_returns {request : Record} {actor : Reference}
    {asset : StablecoinValuationAssetReference} {evaluatedAt : Instant} {digest : String}
    {result : StablecoinValuation.StablecoinValuationResult}
    (hrequest : exactRecord v valuationKeys = some request)
    (hasset : normalizeStablecoinDepegLatchAsset (request.get "asset") = .ok asset)
    (hresult : StablecoinValuation.evaluateStablecoinValuation (ofFields request) = result)
    (hsame : result.asset = some asset) (htime : result.evaluatedAt = some evaluatedAt)
    (hrequested : request.get "evaluatedAt" = .string evaluatedAt.text)
    (hclass : result.depegClass = .outsidePolicy) (hband : result.downsideBand = .depegged)
    (hreason : .depegDetected ∈ result.reasons)
    (hdigest : fingerprint sha256 depegEvidenceFingerprintDomain (depegEvidence actor request) =
      .ok digest) :
    validateDepegEvidence sha256 v actor = .ok ⟨asset, evaluatedAt, digest⟩ := by
  rw [validateDepegEvidence, hrequest]
  simp only [orFail, except_ok_bind, hasset, hresult, hsame, htime, hrequested, hclass, hband,
    failWhen, Value.isText, Value.string?, hdigest, ne_eq, not_true, if_false, beq_self_eq_true,
    Bool.true_eq_false, or_self, List.contains_iff_mem, hreason]
  rfl

theorem validateRecoveryEvidence_returns {request : Record}
    {asset : StablecoinValuationAssetReference} {evaluatedAt : Instant} {digest : String}
    {latchId clearId : Sha256} {result : StablecoinRecovery.StablecoinRecoveryResult}
    {latch : StablecoinRecovery.StablecoinDepegLatchReference}
    {clear : StablecoinRecovery.StablecoinManualRiskClearReference}
    (hrequest : exactRecord v recoveryKeys = some request)
    (hasset : normalizeStablecoinDepegLatchAsset (request.get "asset") = .ok asset)
    (hresult : StablecoinRecovery.evaluateStablecoinRecovery (ofFields request) = result)
    (hstatus : result.status = .recoveryCandidateCleared)
    (haccepted : result.manualRiskClearAccepted = true) (hsame : result.asset = some asset)
    (hlatch : result.depegLatch = some latch)
    (hclear : result.acceptedManualRiskClear = some clear)
    (htime : result.evaluatedAt = some evaluatedAt)
    (hrequested : request.get "evaluatedAt" = .string evaluatedAt.text)
    (hlatchAsset : normalizeStablecoinDepegLatchAsset (assetValue latch.asset) = .ok asset)
    (hclearAsset : normalizeStablecoinDepegLatchAsset (assetValue clear.asset) = .ok asset)
    (hlatchId : latch.latchId = latchId.text) (hclearId : clear.clearId = clearId.text)
    (hdigest : fingerprint sha256 recoveryEvidenceFingerprintDomain (recoveryEvidence request) =
      .ok digest) :
    validateRecoveryEvidence sha256 v = .ok
      { asset, latchId, latchedAt := latch.latchedAt, clearId, clearedAt := clear.clearedAt,
        evaluatedAt, fingerprintSha256 := digest } := by
  rw [validateRecoveryEvidence, hrequest]
  simp only [orFail, except_ok_bind, hasset, hresult, hstatus, haccepted, hsame, hlatch, hclear,
    htime, hrequested, hlatchAsset, hclearAsset, hlatchId, hclearId, parseDigest_text, hdigest,
    failWhen, Value.isText, Value.string?, ne_eq, not_true, if_false, beq_self_eq_true,
    Bool.true_eq_false, or_self]
  rfl

theorem normalizeRecordStablecoinDepegLatchCommand_returns {record : Record}
    (command : RecordCommand) {digest event : String}
    (hrecord : exactRecord v recordKeys = some record)
    (hrevision : parseNullableRevision (record.get "expectedRevision") .invalidDepegLatchInput =
      .ok command.expectedRevision)
    (hcorrelation : record.get "correlationId" = .string command.correlationId.text)
    (hlatch : record.get "latchId" = .string command.latchId.text)
    (hactor : record.get "evidenceActorReferenceId" =
      .string command.evidenceActorReferenceId.text)
    (hrequested : record.get "depegEvidenceFingerprintSha256" =
      .string command.depegEvidenceFingerprintSha256.text)
    (hevidence : validateDepegEvidence sha256 (record.get "valuationRequest")
      command.evidenceActorReferenceId = .ok ⟨command.asset, command.latchedAt,
        command.depegEvidenceFingerprintSha256.text⟩)
    (hdigest : fingerprint sha256 latchCommandFingerprintDomain command.material = .ok digest)
    (hevent : fingerprint sha256 latchEventFingerprintDomain (ofItems [.string digest,
      .integer ((command.expectedRevision.map (·.value)).getD 0 + 1), .string "LATCHED"]) =
        .ok event) :
    normalizeRecordStablecoinDepegLatchCommand sha256 v =
      .ok { command with commandFingerprintSha256 := digest, eventFingerprintSha256 := event } := by
  rw [normalizeRecordStablecoinDepegLatchCommand, hrecord, orFail, except_ok_bind, hrevision,
    except_ok_bind, hcorrelation, parseUuid_text, except_ok_bind, hlatch, parseDigest_text,
    except_ok_bind, hactor, parseReference_text, except_ok_bind, hrequested, parseDigest_text,
    except_ok_bind, hevidence, except_ok_bind, failWhen, if_neg (not_not.mpr rfl), except_ok_bind]
  change (fingerprint sha256 latchCommandFingerprintDomain command.material >>= _) = _
  rw [hdigest, except_ok_bind, hevent]
  rfl

theorem normalizeClearStablecoinDepegLatchCommand_returns {record : Record}
    {recovery : ValidatedRecoveryEvidence} {authorization : StablecoinDepegRecoveryAuthorization}
    (evaluatedAt : Instant) (correlationId : UuidV4) {digest event : String}
    (hrecord : exactRecord v clearKeys = some record)
    (hevaluated : record.get "evaluatedAt" = .string evaluatedAt.text)
    (hcorrelation : record.get "correlationId" = .string correlationId.text)
    (hrecovery : validateRecoveryEvidence sha256 (record.get "recoveryRequest") = .ok recovery)
    (hauthorization : normalizeAuthorization sha256 (record.get "authorization") =
      .ok authorization)
    (hmatched : ¬Mismatch recovery authorization evaluatedAt)
    (hdigest : fingerprint sha256 clearCommandFingerprintDomain
      (clearCommand recovery authorization evaluatedAt correlationId).material = .ok digest)
    (hevent : fingerprint sha256 clearEventFingerprintDomain (ofItems [.string digest,
      .integer (authorization.expectedRevision.value + 1), .string "CLEARED"]) = .ok event) :
    normalizeClearStablecoinDepegLatchCommand sha256 v =
      .ok { clearCommand recovery authorization evaluatedAt correlationId with
        commandFingerprintSha256 := digest, eventFingerprintSha256 := event } := by
  rw [normalizeClearStablecoinDepegLatchCommand, hrecord]
  simp only [orFail, except_ok_bind, hevaluated, parseTimestamp_text, hcorrelation,
    parseUuid_text, hrecovery, hauthorization, failWhen, hmatched, if_false, hdigest, hevent]
  rfl

end Returns

end CryptoLending.Valuation.DepegLatchFingerprints
