import CryptoLending.Valuation.ConservativeValuation
import CryptoLending.Valuation.DepegLatchFingerprints
import CryptoLending.Valuation.RecoveryClearance
import Mathlib.Data.List.Find

namespace CryptoLending.Valuation.DepegLatchBinding

open Lib Lib.JsValue Lib.JsString
open DepegLatchJson StablecoinDepegLatch DepegLatchFingerprints

section Evidence

/-- The bytes that are hashed of the evidence within a command that sets a latch. -/
def latchEvidence (v : Value) : Option (List UInt8) := do
  let record ← exactRecord v recordKeys
  let actor ← Matching.ofValue StablecoinPriceEvidence.isReference
    (record.get "evidenceActorReferenceId")
  let request ← exactRecord (record.get "valuationRequest") valuationKeys
  let json ← (canonicalJson (depegEvidence actor request)).toOption
  return preimage depegEvidenceFingerprintDomain json

/-- The bytes that are hashed of the evidence within a command that clears a latch. -/
def clearEvidence (v : Value) : Option (List UInt8) := do
  let record ← exactRecord v clearKeys
  let request ← exactRecord (record.get "recoveryRequest") recoveryKeys
  let json ← (canonicalJson (recoveryEvidence request)).toOption
  return preimage recoveryEvidenceFingerprintDomain json

/-- The hashes of the evidence of two commands of one kind do not collide. -/
def NoCollision (sha256 : List UInt8 → String) (v w : Value) : Prop :=
  (∀ x ∈ latchEvidence v, ∀ y ∈ latchEvidence w, sha256 x = sha256 y → x = y) ∧
    ∀ x ∈ clearEvidence v, ∀ y ∈ clearEvidence w, sha256 x = sha256 y → x = y

variable {sha256 : List UInt8 → String} {v w : Value}

theorem wellFormed_canonicalJson {json : JsString} (h : canonicalJson v = .ok json) :
    WellFormed json := by
  obtain ⟨t, ht, rfl⟩ := canonicalJson_ok h
  exact (CanonicalTree.listed_of_canonicalTree ht).wellFormed

/-- Hashed bytes determine the text, and the domain among those of one length. -/
theorem preimage_inj {domain domain' : String} {json json' : JsString}
    (hlength : (ofString (domain ++ "\n")).length = (ofString (domain' ++ "\n")).length)
    (hv : canonicalJson v = .ok json) (hw : canonicalJson w = .ok json')
    (h : preimage domain json = preimage domain' json') :
    ofString (domain ++ "\n") = ofString (domain' ++ "\n") ∧ json = json' := by
  have hleft := (WellFormed.ofString (domain ++ "\n")).append (wellFormed_canonicalJson hv)
  have hright := (WellFormed.ofString (domain' ++ "\n")).append (wellFormed_canonicalJson hw)
  exact List.append_inj (hleft.utf8_inj hright h) hlength

/-- Evidence that is hashed alike differs in the order of keys only. -/
theorem rearranged_of_preimage {domain : String} {json json' : JsString}
    (hv : canonicalJson v = .ok json) (hw : canonicalJson w = .ok json')
    (h : preimage domain json = preimage domain json') : Rearranged v w := by
  obtain ⟨-, rfl⟩ := preimage_inj rfl hv hw h
  exact rearranged_of_canonicalJson hv hw

theorem rearranged_of_request {keys : List String} {r r' : Record} (hk : keys.Nodup)
    (hv : exactRecord v keys = some r) (hw : exactRecord w keys = some r')
    (h : Rearranged (ofFields r) (ofFields r')) : Rearranged v w := by
  have hrelated := h.exactRecord keys
  rw [exactRecord_ofFields_keys (keys_of_exactRecord hv) hk,
    exactRecord_ofFields_keys (keys_of_exactRecord hw) hk, Option.rel_some_some] at hrelated
  exact Rearranged.of_exactRecord hk hv hw fun key _ => hrelated key

variable {record record' : Record}

theorem latchEvidence_of_reads {evidence : DepegEvidence}
    {command : NormalizedRecordStablecoinDepegLatchCommand}
    (h : LatchReads sha256 v record evidence command) : ∃ request json,
      exactRecord (record.get "valuationRequest") valuationKeys = some request ∧
        canonicalJson (depegEvidence command.evidenceActorReferenceId request) = .ok json ∧
        latchEvidence v = some (preimage depegEvidenceFingerprintDomain json) ∧
        command.depegEvidenceFingerprintSha256.text =
          sha256 (preimage depegEvidenceFingerprintDomain json) := by
  obtain ⟨request, json, hrequest, hjson, hdigest⟩ := validateDepegEvidence_ok h.evidence_ok
  refine ⟨request, json, hrequest, hjson, ?_, h.matched.trans hdigest⟩
  have hactor : Matching.ofValue StablecoinPriceEvidence.isReference
      (record.get "evidenceActorReferenceId") = some command.evidenceActorReferenceId :=
    Matching.ofValue_eq_some.mpr h.actor
  simp only [latchEvidence, h.shape, hactor, hrequest, hjson, Option.bind_eq_bind,
    Option.bind_some, Except.toOption]
  rfl

theorem clearEvidence_of_reads {recovery : ValidatedRecoveryEvidence}
    {authorization : StablecoinDepegRecoveryAuthorization}
    {command : NormalizedClearStablecoinDepegLatchCommand}
    (h : ClearReads sha256 v record recovery authorization command) : ∃ request json,
      exactRecord (record.get "recoveryRequest") recoveryKeys = some request ∧
        canonicalJson (recoveryEvidence request) = .ok json ∧
        clearEvidence v = some (preimage recoveryEvidenceFingerprintDomain json) ∧
        command.recoveryEvidenceFingerprintSha256 =
          sha256 (preimage recoveryEvidenceFingerprintDomain json) := by
  obtain ⟨request, json, hrequest, hjson, hdigest⟩ := validateRecoveryEvidence_ok h.recovery_ok
  have hcommand : command.recoveryEvidenceFingerprintSha256 = recovery.fingerprintSha256 := by
    rw [h.fields, clearCommand]
  refine ⟨request, json, hrequest, hjson, ?_, hcommand.trans hdigest⟩
  simp only [clearEvidence, h.shape, hrequest, hjson, Option.bind_eq_bind, Option.bind_some,
    Except.toOption]
  rfl

/-- One command that sets a latch is read from values that differ in the order of keys only. -/
theorem rearranged_of_latch {evidence evidence' : DepegEvidence}
    {command : NormalizedRecordStablecoinDepegLatchCommand}
    (hno : NoCollision sha256 v w) (h : LatchReads sha256 v record evidence command)
    (h' : LatchReads sha256 w record' evidence' command) : Rearranged v w := by
  obtain ⟨request, json, hrequest, hjson, hbytes, hdigest⟩ := latchEvidence_of_reads h
  obtain ⟨request', json', hrequest', hjson', hbytes', hdigest'⟩ := latchEvidence_of_reads h'
  have hsame := hno.1 _ hbytes _ hbytes' (hdigest.symm.trans hdigest')
  have hitems := Rearranged.ofItems_inv (rearranged_of_preimage hjson hjson' hsame)
  simp only [List.forall₂_cons, List.forall₂_nil_left_iff] at hitems
  have hvaluation := rearranged_of_request (by decide) hrequest hrequest' hitems.2.2.1
  refine Rearranged.of_exactRecord (by decide) h.shape h'.shape ?_
  simp only [recordKeys, List.forall_mem_cons, h.revision, h'.revision, h.correlation,
    h'.correlation, h.latchId, h'.latchId, h.actor, h'.actor, h.requested, h'.requested]
  exact ⟨.same _, .same _, .same _, .same _, .same _, hvaluation, List.forall_mem_nil _⟩

variable {recovery recovery' : ValidatedRecoveryEvidence}
  {authorization authorization' : StablecoinDepegRecoveryAuthorization}
  {command : NormalizedClearStablecoinDepegLatchCommand}

/-- The authorization that a command needs is determined by the command. -/
theorem authorization_unique (h : ClearReads sha256 v record recovery authorization command)
    (h' : ClearReads sha256 w record' recovery' authorization' command) :
    authorization = authorization' := by
  have hfields := h.fields.symm.trans h'.fields
  simp only [clearCommand, ClearCommand.mk.injEq] at hfields
  obtain ⟨hasset, -, -, hclear, hlatch, -, hrevision, hevidence, hactor, happrover, -, hissued,
    hbefore, hexpires, hnonce, hfingerprint, hid⟩ := hfields
  have hm := h.matched
  have hm' := h'.matched
  simp only [Mismatch, not_or, not_not] at hm hm'
  obtain ⟨-, hmasset, hmlatch, hmclear, -, hmevidence, -⟩ := hm
  obtain ⟨-, hmasset', hmlatch', hmclear', -, hmevidence', -⟩ := hm'
  have hdigest : authorization.recoveryEvidenceFingerprintSha256 =
      authorization'.recoveryEvidenceFingerprintSha256 :=
    Matching.ext_text (hmevidence.symm.trans (hevidence.trans hmevidence'))
  have hassets := hmasset.symm.trans (hasset.trans hmasset')
  have hlatches := hmlatch.symm.trans (hlatch.trans hmlatch')
  have hclears := hmclear.symm.trans (hclear.trans hmclear')
  obtain ⟨⟨⟩, _, _⟩ := authorization
  obtain ⟨⟨⟩, _, _⟩ := authorization'
  simp_all only

/-- One command that clears a latch is read from values that differ in the order of keys only. -/
theorem rearranged_of_clear (hno : NoCollision sha256 v w)
    (h : ClearReads sha256 v record recovery authorization command)
    (h' : ClearReads sha256 w record' recovery' authorization' command) : Rearranged v w := by
  obtain ⟨request, json, hrequest, hjson, hbytes, hdigest⟩ := clearEvidence_of_reads h
  obtain ⟨request', json', hrequest', hjson', hbytes', hdigest'⟩ := clearEvidence_of_reads h'
  have hsame := hno.2 _ hbytes _ hbytes' (hdigest.symm.trans hdigest')
  have hitems := Rearranged.ofItems_inv (rearranged_of_preimage hjson hjson' hsame)
  simp only [List.forall₂_cons, List.forall₂_nil_left_iff] at hitems
  have hrecovery := rearranged_of_request (by decide) hrequest hrequest' hitems.2.1
  obtain rfl := authorization_unique h h'
  have hauthorization := rearranged_of_authorization h.authorization_ok h'.authorization_ok
  refine Rearranged.of_exactRecord (by decide) h.shape h'.shape ?_
  simp only [clearKeys, List.forall_mem_cons, h.evaluated, h'.evaluated, h.correlation,
    h'.correlation]
  exact ⟨.same _, .same _, hrecovery, hauthorization, List.forall_mem_nil _⟩

end Evidence

section Commands

def commandDomain : DepegLatchCommand → String
  | .latch _ => latchCommandFingerprintDomain
  | .clear _ => clearCommandFingerprintDomain

def commandFingerprint : DepegLatchCommand → String
  | .latch command => command.commandFingerprintSha256
  | .clear command => command.commandFingerprintSha256

variable {sha256 : List UInt8 → String} {v w : Value}

theorem fingerprint_of_accepted {a : DepegLatchCommand} (h : Accepted sha256 v a) :
    ∃ json, canonicalJson a.material = .ok json ∧
      commandFingerprint a = sha256 (preimage (commandDomain a) json) := by
  cases h with
  | latch h =>
    obtain ⟨record, evidence, hreads⟩ := latchReads h
    exact fingerprint_ok hreads.fingerprint
  | clear h =>
    obtain ⟨record, recovery, authorization, hreads⟩ := clearReads h
    exact fingerprint_ok hreads.fingerprint

theorem latch_unique {a b : NormalizedRecordStablecoinDepegLatchCommand}
    (ha : normalizeRecordStablecoinDepegLatchCommand sha256 v = .ok a)
    (hb : normalizeRecordStablecoinDepegLatchCommand sha256 w = .ok b)
    (h : a.toRecordCommand = b.toRecordCommand) : a = b := by
  obtain ⟨_, _, hreads⟩ := latchReads ha
  obtain ⟨_, _, hreads'⟩ := latchReads hb
  have hcommand := hreads.fingerprint
  have hevent := hreads.event
  rw [h] at hcommand hevent
  have hcommand := Except.ok.inj (hcommand.symm.trans hreads'.fingerprint)
  rw [hcommand] at hevent
  have hevent := Except.ok.inj (hevent.symm.trans hreads'.event)
  cases a
  cases b
  simp_all only

theorem clear_unique {a b : NormalizedClearStablecoinDepegLatchCommand}
    (ha : normalizeClearStablecoinDepegLatchCommand sha256 v = .ok a)
    (hb : normalizeClearStablecoinDepegLatchCommand sha256 w = .ok b)
    (h : a.toClearCommand = b.toClearCommand) : a = b := by
  obtain ⟨_, _, _, hreads⟩ := clearReads ha
  obtain ⟨_, _, _, hreads'⟩ := clearReads hb
  have hcommand := hreads.fingerprint
  have hevent := hreads.event
  rw [h] at hcommand hevent
  have hcommand := Except.ok.inj (hcommand.symm.trans hreads'.fingerprint)
  rw [hcommand] at hevent
  have hevent := Except.ok.inj (hevent.symm.trans hreads'.event)
  cases a
  cases b
  simp_all only

/-- Commands of different kinds have different texts. -/
theorem material_ne (a : RecordCommand) (b : ClearCommand) :
    ¬Rearranged a.material b.material := by
  intro h
  have hlength := (Rearranged.ofItems_inv h).length_eq
  exact absurd hlength (by simp only [List.length_cons]; decide)

/-- Accepted commands with the same text are the same. -/
theorem accepted_unique {a b : DepegLatchCommand} (ha : Accepted sha256 v a)
    (hb : Accepted sha256 w b) (h : canonicalJson a.material = canonicalJson b.material) :
    a = b := by
  obtain ⟨json, hjson, -⟩ := fingerprint_of_accepted ha
  have hsame := rearranged_of_canonicalJson hjson (h ▸ hjson)
  cases ha with
  | latch ha =>
    cases hb with
    | latch hb => rw [latch_unique ha hb (recordMaterial_inj hsame)]
    | clear hb => exact absurd hsame (material_ne _ _)
  | clear ha =>
    cases hb with
    | latch hb =>
      have hsame' := rearranged_of_canonicalJson (h ▸ hjson) hjson
      exact absurd hsame' (material_ne _ _)
    | clear hb => rw [clear_unique ha hb (clearMaterial_inj hsame)]

theorem accepted_rearranged {a : DepegLatchCommand} (h : Rearranged v w)
    (ha : Accepted sha256 v a) : Accepted sha256 w a := by
  cases ha with
  | latch ha => exact .latch (normalizeRecord_eq h ▸ ha)
  | clear ha => exact .clear (normalizeClear_eq h ▸ ha)

/-- A value has the keys of one kind of command only. -/
theorem accepted_functional {a b : DepegLatchCommand} (ha : Accepted sha256 v a)
    (hb : Accepted sha256 v b) : a = b := by
  have hkinds : ∀ {r r' : Record}, exactRecord v recordKeys = some r →
      exactRecord v clearKeys ≠ some r' := by
    intro r r' hr hr'
    obtain ⟨proxy, ps, hv, hps⟩ := Rearranged.object_of_exactRecord (by decide) hr
    obtain ⟨proxy', qs, hv', hqs⟩ := Rearranged.object_of_exactRecord (by decide) hr'
    obtain rfl := (Value.object.inj (hv.symm.trans hv')).2
    have hlength := hps.length_eq.symm.trans hqs.length_eq
    have hkeys := congrArg List.length (keys_of_exactRecord hr)
    have hkeys' := congrArg List.length (keys_of_exactRecord hr')
    rw [List.length_map] at hlength hkeys hkeys'
    rw [List.length_map, hkeys, hkeys'] at hlength
    exact absurd hlength (by decide)
  cases ha with
  | latch ha =>
    cases hb with
    | latch hb => rw [Except.ok.inj (ha.symm.trans hb)]
    | clear hb =>
      obtain ⟨_, _, hreads⟩ := latchReads ha
      obtain ⟨_, _, _, hreads'⟩ := clearReads hb
      exact absurd hreads'.shape (hkinds hreads.shape)
  | clear ha =>
    cases hb with
    | latch hb =>
      obtain ⟨_, _, _, hreads⟩ := clearReads ha
      obtain ⟨_, _, hreads'⟩ := latchReads hb
      exact absurd hreads.shape (hkinds hreads'.shape)
    | clear hb => rw [Except.ok.inj (ha.symm.trans hb)]

theorem rearranged_of_accepted {a : DepegLatchCommand} (hno : NoCollision sha256 v w)
    (ha : Accepted sha256 v a) (hb : Accepted sha256 w a) : Rearranged v w := by
  cases ha with
  | latch ha =>
    cases hb with
    | latch hb =>
      obtain ⟨_, _, hreads⟩ := latchReads ha
      obtain ⟨_, _, hreads'⟩ := latchReads hb
      exact rearranged_of_latch hno hreads hreads'
  | clear ha =>
    cases hb with
    | clear hb =>
      obtain ⟨_, _, _, hreads⟩ := clearReads ha
      obtain ⟨_, _, _, hreads'⟩ := clearReads hb
      exact rearranged_of_clear hno hreads hreads'

/-- The bytes that are hashed show the kind of a command and its text. -/
theorem json_of_preimage {a b : DepegLatchCommand} {json json' : JsString}
    (ha : canonicalJson a.material = .ok json) (hb : canonicalJson b.material = .ok json')
    (h : preimage (commandDomain a) json = preimage (commandDomain b) json') :
    canonicalJson a.material = canonicalJson b.material := by
  have hdomains : (ofString (latchCommandFingerprintDomain ++ "\n")).length =
      (ofString (clearCommandFingerprintDomain ++ "\n")).length := by decide
  have hlength : (ofString (commandDomain a ++ "\n")).length =
      (ofString (commandDomain b ++ "\n")).length := by
    cases a <;> cases b <;> simp only [commandDomain, hdomains]
  rw [ha, hb, (preimage_inj hlength ha hb h).2]

end Commands

section Binding

variable (sha256 : List UInt8 → String)

def clearAuthorization (v : Value) : Except Code StablecoinDepegRecoveryAuthorization := do
  let record ← orFail (exactRecord v clearKeys) .invalidDepegRecoveryInput
  normalizeAuthorization sha256 (record.get "authorization")

def clearRecovery (v : Value) : Except Code ValidatedRecoveryEvidence := do
  let record ← orFail (exactRecord v clearKeys) .invalidDepegRecoveryInput
  validateRecoveryEvidence sha256 (record.get "recoveryRequest")

/-- The authorization and the evidence within a command are about what the command is about. -/
structure Bound (command : ClearCommand) (authorization : StablecoinDepegRecoveryAuthorization)
    (recovery : ValidatedRecoveryEvidence) : Prop where
  asset : authorization.asset = command.asset ∧ recovery.asset = command.asset
  latchId : authorization.expectedLatchId = command.latchId ∧ recovery.latchId = command.latchId
  clearId : authorization.clearId = command.clearId ∧ recovery.clearId = command.clearId
  evidence : authorization.recoveryEvidenceFingerprintSha256.text =
    command.recoveryEvidenceFingerprintSha256 ∧
      recovery.fingerprintSha256 = command.recoveryEvidenceFingerprintSha256
  revision : authorization.expectedRevision = command.expectedRevision
  fingerprint : authorization.authorizationFingerprintSha256 =
    command.authorizationFingerprintSha256

variable {sha256} {v w : Value}

theorem bound_of_clear {command : NormalizedClearStablecoinDepegLatchCommand}
    (h : normalizeClearStablecoinDepegLatchCommand sha256 v = .ok command) :
    ∃ authorization recovery, clearAuthorization sha256 v = .ok authorization ∧
      clearRecovery sha256 v = .ok recovery ∧
      Bound command.toClearCommand authorization recovery := by
  obtain ⟨record, recovery, authorization, hreads⟩ := clearReads h
  have hm := hreads.matched
  simp only [Mismatch, not_or, not_not] at hm
  obtain ⟨-, hasset, hlatch, hclear, -, hevidence, -⟩ := hm
  refine ⟨authorization, recovery, except_bind_ok.mpr ⟨record, orFail_ok.mpr hreads.shape,
    hreads.authorization_ok⟩, except_bind_ok.mpr ⟨record, orFail_ok.mpr hreads.shape,
    hreads.recovery_ok⟩, ?_⟩
  rw [hreads.fields]
  exact ⟨⟨hasset.symm, rfl⟩, ⟨hlatch.symm, rfl⟩, ⟨hclear.symm, rfl⟩, ⟨hevidence.symm, rfl⟩, rfl,
    rfl⟩

theorem clearAuthorization_unique {command : NormalizedClearStablecoinDepegLatchCommand}
    (h : normalizeClearStablecoinDepegLatchCommand sha256 v = .ok command)
    (h' : normalizeClearStablecoinDepegLatchCommand sha256 w = .ok command) :
    clearAuthorization sha256 v = clearAuthorization sha256 w := by
  obtain ⟨record, _, authorization, hreads⟩ := clearReads h
  obtain ⟨record', _, authorization', hreads'⟩ := clearReads h'
  have hv : clearAuthorization sha256 v = .ok authorization :=
    except_bind_ok.mpr ⟨record, orFail_ok.mpr hreads.shape, hreads.authorization_ok⟩
  have hw : clearAuthorization sha256 w = .ok authorization' :=
    except_bind_ok.mpr ⟨record', orFail_ok.mpr hreads'.shape, hreads'.authorization_ok⟩
  rw [hv, hw, authorization_unique hreads hreads']

/-- The text that is hashed of an accepted command is that of its kind and fields, whatever the
order of its keys, and a command that clears a latch is bound to its authorization. -/
theorem depegLatchCommands_fingerprinted (sha256 : List UInt8 → String) :
    (∀ v a, Accepted sha256 v a → ∃ json, canonicalJson a.material = .ok json ∧
      commandFingerprint a = sha256 (preimage (commandDomain a) json)) ∧
    (∀ v w a b, Accepted sha256 v a → Accepted sha256 w b →
      (canonicalJson a.material = canonicalJson b.material ↔ a = b) ∧
      (Rearranged v w → a = b) ∧
      (NoCollision sha256 v w →
        (canonicalJson a.material = canonicalJson b.material ↔ Rearranged v w)) ∧
      (∀ json json', canonicalJson a.material = .ok json → canonicalJson b.material = .ok json' →
        (preimage (commandDomain a) json = preimage (commandDomain b) json' ↔ a = b))) ∧
    (∀ v w a, Accepted sha256 v a → Rearranged v w → Accepted sha256 w a) ∧
    (∀ v command, normalizeClearStablecoinDepegLatchCommand sha256 v = .ok command →
      ∃ authorization recovery, clearAuthorization sha256 v = .ok authorization ∧
        clearRecovery sha256 v = .ok recovery ∧
        Bound command.toClearCommand authorization recovery) ∧
    ∀ v w command, normalizeClearStablecoinDepegLatchCommand sha256 v = .ok command →
      normalizeClearStablecoinDepegLatchCommand sha256 w = .ok command →
      clearAuthorization sha256 v = clearAuthorization sha256 w := by
  refine ⟨fun v a => fingerprint_of_accepted, ?_, fun v w a ha h => accepted_rearranged h ha,
    fun v command => bound_of_clear, fun v w command => clearAuthorization_unique⟩
  intro v w a b ha hb
  have hjson : canonicalJson a.material = canonicalJson b.material ↔ a = b :=
    ⟨accepted_unique ha hb, fun h => h ▸ rfl⟩
  have horder : Rearranged v w → a = b := fun h =>
    accepted_functional (accepted_rearranged h ha) hb
  refine ⟨hjson, horder, fun hno => ?_, fun json json' hv hw => ?_⟩
  · constructor
    · intro h
      obtain rfl := hjson.mp h
      exact rearranged_of_accepted hno ha hb
    · exact fun h => hjson.mpr (horder h)
  · constructor
    · exact fun h => hjson.mp (json_of_preimage hv hw h)
    · rintro rfl
      rw [Except.ok.inj (hv.symm.trans hw)]

end Binding

section Sample

open ValuationRequest ConservativeValuation

def pricedSample (sourceId : String) (sequence : Nat) (updateId reference rate time : String)
    (confidence : List (String × Value)) : Value :=
  ofFields [("asset", sampleAsset), ("sourceId", .string sourceId),
    ("sourceReference", .string reference), ("sourceSequence", .string (toString sequence)),
    ("sourceUpdateId", .string updateId), ("pricedAt", .string time), ("observedAt", .string time),
    ("usdRateMantissa", .string rate), ("usdRateScale", .integer 8),
    ("confidence", ofFields confidence)]

def bothSources (sequence : Nat) (updateId rate time : String) : Value :=
  ofItems [
    pricedSample "PYTH_CORE" sequence updateId (feedReference .usdc .pythCore) rate time
      [("kind", .string "PUBLISHED_ABSOLUTE_USD"), ("mantissa", .string "100000"),
        ("scale", .integer 8)],
    pricedSample "CHAINLINK_DATA_FEEDS" sequence (toString sequence)
      (feedReference .usdc .chainlinkDataFeeds) rate time [("kind", .string "NOT_PUBLISHED")]]

def sampleLatchId : String := "aaaaaaaaaaaaaaaaaaaaaaaaaaaaaaaaaaaaaaaaaaaaaaaaaaaaaaaaaaaaaaaa"
def sampleClearId : String := "bbbbbbbbbbbbbbbbbbbbbbbbbbbbbbbbbbbbbbbbbbbbbbbbbbbbbbbbbbbbbbbb"

def sampleLatchFields : List (String × Value) :=
  [("expectedRevision", .null), ("correlationId", .string "10000000-0000-4000-8000-000000000001"),
    ("latchId", .string sampleLatchId), ("evidenceActorReferenceId", .string "price-desk:1"),
    ("depegEvidenceFingerprintSha256", .string "cfa0709a71792fe80178cd1ffa91e5612bec3a3b58797553c211bc9cc27f4467"),
    ("valuationRequest", ofFields [("asset", sampleAsset), ("amountAtomic", .string "2500000"),
      ("evaluatedAt", .string "2026-07-20T00:00:30.000Z"),
      ("sourceWatermarks", ofItems sampleWatermarks),
      ("observations", bothSources 7 (feedReference .usdt .pythCore) "95000000"
        "2026-07-20T00:00:00.000Z")])]

def recoverySample (sequence : Nat) (updateId time : String) : Value :=
  ofFields [("evaluatedAt", .string time),
    ("observations", bothSources sequence updateId "99900000" time)]

def sampleRecoveryFields : List (String × Value) :=
  [("asset", sampleAsset), ("evaluatedAt", .string "2026-07-20T01:35:00.000Z"),
    ("depegLatch", ofFields [("asset", sampleAsset), ("latchId", .string sampleLatchId),
      ("latchedAt", .string "2026-07-20T00:00:30.000Z")]),
    ("manualRiskClear", ofFields [("asset", sampleAsset), ("clearId", .string sampleClearId),
      ("latchId", .string sampleLatchId), ("clearedAt", .string "2026-07-20T01:31:00.000Z")]),
    ("samples", ofItems [recoverySample 8 sampleLatchId "2026-07-20T01:00:00.000Z",
      recoverySample 9 sampleClearId "2026-07-20T01:10:00.000Z",
      recoverySample 10 (feedReference .usdc .pythCore) "2026-07-20T01:20:00.000Z",
      recoverySample 11 (feedReference .usdt .pythCore) "2026-07-20T01:30:00.000Z"])]

def sampleAuthorization : List (String × Value) :=
  [("schemaVersion", .integer 1), ("authorizationType", .string "STABLECOIN_DEPEG_LATCH_RECOVERY"),
    ("scope", .string "DEPEG_LATCH_CLEAR_ONLY"), ("mayAuthorizeFinancialAction", .boolean false),
    ("operation", .string "CLEAR_STABLECOIN_DEPEG_LATCH"), ("asset", sampleAsset),
    ("expectedLatchId", .string sampleLatchId), ("expectedRevision", .integer 1),
    ("clearId", .string sampleClearId),
    ("recoveryEvidenceFingerprintSha256", .string "d15c02e5d4154b8b6a5343cd1614407dd7470b6c953b33f85ad7dacc99367e13"),
    ("evidenceActorReferenceId", .string "price-desk:1"),
    ("riskApproverReferenceId", .string "risk-desk:1"),
    ("riskApproverRole", .string "RISK_APPROVER"),
    ("issuedAt", .string "2026-07-20T01:31:00.000Z"),
    ("notBefore", .string "2026-07-20T01:31:00.000Z"),
    ("expiresAt", .string "2026-07-20T01:45:00.000Z"),
    ("nonce", .string "20000000-0000-4000-8000-000000000001"),
    ("authorizationFingerprintSha256", .string "ec8e63c59c7fbe666b9b7958bb14a23d81eae3cbf31e0c73cb8043f3aa6c3195"),
    ("authorizationId", .string (authorizationIdPrefix ++ "ec8e63c59c7fbe666b9b7958bb14a23d81eae3cbf31e0c73cb8043f3aa6c3195"))]

def sampleClearFields : List (String × Value) :=
  [("evaluatedAt", .string "2026-07-20T01:35:00.000Z"),
    ("correlationId", .string "10000000-0000-4000-8000-000000000002"),
    ("recoveryRequest", ofFields sampleRecoveryFields),
    ("authorization", ofFields sampleAuthorization)]

def sampleDigests : List (String × String) :=
  [(depegEvidenceFingerprintDomain, "cfa0709a71792fe80178cd1ffa91e5612bec3a3b58797553c211bc9cc27f4467"),
    (latchCommandFingerprintDomain, "662a6f0ee56270bbe266ec8ea292e8669143ec3ac077f3f1bc257c343a21a2e7"),
    (latchEventFingerprintDomain, "38a5970006427fab9003190ea2d57a34419fa44259197f8c3b780c1d8d165956"),
    (recoveryEvidenceFingerprintDomain, "d15c02e5d4154b8b6a5343cd1614407dd7470b6c953b33f85ad7dacc99367e13"),
    (recoveryAuthorizationFingerprintDomain, "ec8e63c59c7fbe666b9b7958bb14a23d81eae3cbf31e0c73cb8043f3aa6c3195"),
    (clearCommandFingerprintDomain, "bbf0c9795af41bb0942229f7f2bc46fd593c1ced0d588dfd015b37a27bd2bce7"),
    (clearEventFingerprintDomain, "a2dae815496a69148faba311a3397d9c67c5efe685c1e7d215e6a00d872c6e1e")]

/-- The digests of the bytes that the two sample commands hash, one for each domain. -/
def sampleSha256 (bytes : List UInt8) : String :=
  ((sampleDigests.find? fun p => (utf8 (ofString p.1)).isPrefixOf bytes).map (·.2)).getD ""

open StablecoinRecovery StablecoinValuation RecoverySample ValuationRendering

deriving instance DecidableEq for StablecoinDepegLatchReference,
  StablecoinManualRiskClearReference, StablecoinRecoveryResult

theorem sampleDecimals_le : 6 ≤ maxAssetDecimals := by decide

def sampleUsdc : StablecoinValuationAssetReference where
  registryFingerprintSha256 :=
    Blockchain.AssetRegistry.mainnetSupportedAssetRegistry.fingerprintSha256
  stablecoin := .usdc
  networkId := Blockchain.AssetRegistry.ethereum
  identity := "0xa0b86991c6218b36c1d19d4a2e9eb0ce3606eb48"
  decimals := 6
  decimals_le := sampleDecimals_le
  active := by decide

/-- An observation of a source at a time. -/
def pricedObservation (sourceId : StablecoinValuationSourceId)
    (sourceSequence : SourceSequence) (updateId : String) (rate : RateMantissa) (time : Instant)
    (h : validSourceUpdateId sourceId updateId sourceSequence.text = true)
    (confidence : StablecoinPriceConfidence) (hfits : confidence.Fits sourceId) :
    StablecoinPriceObservation where
  asset := sampleUsdc
  sourceId := sourceId
  sourceReference := feedReference .usdc sourceId
  sourceSequence := sourceSequence
  sourceUpdateId := updateId
  pricedAt := time
  observedAt := time
  usdRateMantissa := rate
  usdRateScale := normalizedUsdRateScale
  confidence := confidence
  reference_eq := rfl
  updateId_valid := h
  scale_eq := rfl
  confidence_fits := hfits

def samplePublished : RateMantissa := ⟨"100000", by decide, by decide⟩

/-- The observations of both sources at a time. -/
def bothObservations (sequence : SourceSequence) (updateId : String) (rate : RateMantissa)
    (time : Instant) (h : validSourceUpdateId .pythCore updateId sequence.text = true) :
    List StablecoinPriceObservation :=
  [pricedObservation .pythCore sequence updateId rate time h
      (.publishedAbsoluteUsd samplePublished normalizedUsdRateScale) rfl,
    pricedObservation .chainlinkDataFeeds sequence sequence.text rate time
      (beq_self_eq_true sequence.text) .notPublished trivial]

theorem bothSources_eq {sequence : SourceSequence} {n : Nat} (hn : toString n = sequence.text)
    (updateId : String) (rate : RateMantissa) (time : Instant)
    (h : validSourceUpdateId .pythCore updateId sequence.text = true) :
    bothSources n updateId rate.text time.text =
      ofItems ((bothObservations sequence updateId rate time h).map publicObservation) := by
  simp only [bothSources, pricedSample, hn]
  rfl

def sampleLatched : Instant :=
  ⟨⟨"2026-07-20T00:00:30.000Z", 1784505630000, by decide⟩, by decide⟩

def sampleRecovered : Instant :=
  ⟨⟨"2026-07-20T01:35:00.000Z", 1784511300000, by decide⟩, by decide⟩

def sampleApproved : Instant :=
  ⟨⟨"2026-07-20T01:31:00.000Z", 1784511060000, by decide⟩, by decide⟩

def sampleRate : RateMantissa := ⟨"99900000", by decide, by decide⟩

theorem bothObservations_asset {sequence : SourceSequence} {updateId : String}
    {rate : RateMantissa} {time : Instant}
    (h : validSourceUpdateId .pythCore updateId sequence.text = true) :
    ∀ o ∈ bothObservations sequence updateId rate time h, o.asset = sampleUsdc := by
  intro o ho
  rw [bothObservations, List.mem_pair] at ho
  obtain rfl | rfl := ho <;> rfl

/-- A sample whose sources agree. -/
def recoverySampleAt (sequence : SourceSequence) (updateId : String) (time : Instant)
    (h : validSourceUpdateId .pythCore updateId sequence.text = true) :
    ParsedRecoverySample sampleUsdc where
  evaluatedAt := time
  observations := bothObservations sequence updateId sampleRate time h
  valuation := valuate (firstUseRequest sampleUsdc oneAmount time
    (bothObservations sequence updateId sampleRate time h))
  observations_asset := bothObservations_asset h
  observations_length := rfl
  sources_unique s _ := by cases s <;> rfl
  valuation_eq := (evaluateStablecoinValuation_firstUse (bothObservations_asset h)
    (by decide : 2 ≤ maxObservations)).symm

theorem recoverySample_eq {n : Nat} (sequence : SourceSequence) (hn : toString n = sequence.text)
    (updateId : String) (time : Instant)
    (h : validSourceUpdateId .pythCore updateId sequence.text = true) :
    recoverySample n updateId time.text =
      sampleValue (recoverySampleAt sequence updateId time h) := by
  rw [recoverySample, show "99900000" = sampleRate.text from rfl,
    bothSources_eq hn updateId sampleRate time h]
  rfl

def sampleHour : Instant :=
  ⟨⟨"2026-07-20T01:00:00.000Z", 1784509200000, by decide⟩, by decide⟩

def sampleTenth : Instant :=
  ⟨⟨"2026-07-20T01:10:00.000Z", 1784509800000, by decide⟩, by decide⟩

def sampleTwentieth : Instant :=
  ⟨⟨"2026-07-20T01:20:00.000Z", 1784510400000, by decide⟩, by decide⟩

def sampleThirtieth : Instant :=
  ⟨⟨"2026-07-20T01:30:00.000Z", 1784511000000, by decide⟩, by decide⟩

theorem sampleLatchId_valid (sequence : String) :
    validSourceUpdateId .pythCore sampleLatchId sequence = true := by
  rw [validSourceUpdateId, sampleLatchId, String.toList_ofList]
  decide

theorem sampleClearId_valid (sequence : String) :
    validSourceUpdateId .pythCore sampleClearId sequence = true := by
  rw [validSourceUpdateId, sampleClearId, String.toList_ofList]
  decide

theorem feedReference_valid (stablecoin : Blockchain.AssetRegistry.SupportedStablecoin)
    (sequence : String) :
    validSourceUpdateId .pythCore (feedReference stablecoin .pythCore) sequence = true := by
  cases stablecoin <;> rw [validSourceUpdateId, feedReference, String.toList_ofList] <;>
    decide

def sampleEighth : SourceSequence := ⟨"8", by decide, by decide⟩
def sampleNinth : SourceSequence := ⟨"9", by decide, by decide⟩
def sampleTen : SourceSequence := ⟨"10", by decide, by decide⟩
def sampleEleven : SourceSequence := ⟨"11", by decide, by decide⟩

def sampleRecoverySamples : List (ParsedRecoverySample sampleUsdc) :=
  [recoverySampleAt sampleEighth sampleLatchId sampleHour (sampleLatchId_valid _),
    recoverySampleAt sampleNinth sampleClearId sampleTenth (sampleClearId_valid _),
    recoverySampleAt sampleTen (feedReference .usdc .pythCore) sampleTwentieth
      (feedReference_valid .usdc _),
    recoverySampleAt sampleEleven (feedReference .usdt .pythCore) sampleThirtieth
      (feedReference_valid .usdt _)]

def sampleLatchReference : StablecoinDepegLatchReference :=
  ⟨sampleUsdc, sampleLatchId, sampleLatched⟩

def sampleRiskClear : StablecoinManualRiskClearReference :=
  ⟨sampleUsdc, sampleClearId, sampleLatchId, sampleApproved⟩

def sampleRecoveryRequest : ParsedRecoveryRequest where
  asset := sampleUsdc
  evaluatedAt := sampleRecovered
  depegLatch := some sampleLatchReference
  manualRiskClear := some sampleRiskClear
  samples := sampleRecoverySamples
  latch_asset _ h := (Option.some.inj h).symm ▸ rfl
  clear_asset _ h := (Option.some.inj h).symm ▸ rfl

theorem sampleRecovery_fields : ofFields sampleRecoveryFields = clearedRequestValue sampleRecovered
    sampleLatchReference sampleRiskClear sampleRecoverySamples := by
  rw [sampleRecoveryFields, show "2026-07-20T01:00:00.000Z" = sampleHour.text from rfl,
    show "2026-07-20T01:10:00.000Z" = sampleTenth.text from rfl,
    show "2026-07-20T01:20:00.000Z" = sampleTwentieth.text from rfl,
    show "2026-07-20T01:30:00.000Z" = sampleThirtieth.text from rfl,
    recoverySample_eq sampleEighth (by decide) _ _ (sampleLatchId_valid _),
    recoverySample_eq sampleNinth (by decide) _ _ (sampleClearId_valid _),
    recoverySample_eq sampleTen (by decide) _ _ (feedReference_valid .usdc _),
    recoverySample_eq sampleEleven (by decide) _ _ (feedReference_valid .usdt _)]
  rfl

theorem sampleLatchId_event :
    parseRecoveryEventId (.string sampleLatchId) = some sampleLatchId := by
  simp only [parseRecoveryEventId, Value.string?, sampleLatchId, Option.bind_eq_bind,
    Option.bind_some]
  rw [String.toList_ofList]
  decide

theorem sampleClearId_event :
    parseRecoveryEventId (.string sampleClearId) = some sampleClearId := by
  simp only [parseRecoveryEventId, Value.string?, sampleClearId, Option.bind_eq_bind,
    Option.bind_some]
  rw [String.toList_ofList]
  decide

theorem sampleRecovery_parsed :
    parseRecoveryRequest (ofFields sampleRecoveryFields) = some sampleRecoveryRequest := by
  have hparse : parseRecoveryRequest (clearedRequestValue sampleRecoveryRequest.evaluatedAt
      sampleLatchReference sampleRiskClear sampleRecoveryRequest.samples) =
        some sampleRecoveryRequest :=
    parseRecoveryRequest_cleared rfl rfl sampleLatchId_event sampleClearId_event
      sampleLatchId_event (by decide) (by decide)
  rw [sampleRecovery_fields]
  exact hparse

/-- The result of the sample's recovery. -/
def sampleRecovery : StablecoinRecoveryResult :=
  recoveryResult .recoveryCandidateCleared sampleUsdc sampleRecovered
    (some sampleLatchReference) (some sampleRiskClear) 4 (some 1800000)
    [.localCandidateClearOnly]

theorem sampleRecovery_evaluated :
    evaluateStablecoinRecovery (ofFields sampleRecoveryFields) = sampleRecovery := by
  rw [evaluateStablecoinRecovery, sampleRecovery_parsed]
  decide

/-- The recovery of the sample meets every requirement. -/
theorem sampleRecovery_cleared : ∃ latch clear,
    RecoveryClearance.IsCleared sampleRecoveryRequest latch clear := by
  obtain ⟨request, hrequest, hcleared⟩ :=
    (RecoveryClearance.evaluateStablecoinRecovery_cleared_iff _).mp
      (congrArg (·.status) sampleRecovery_evaluated)
  rw [sampleRecovery_parsed] at hrequest
  obtain rfl := Option.some.inj hrequest
  exact hcleared

theorem sampleLaunch :
    Blockchain.LaunchNetwork.isMainnetLaunchNetwork sampleUsdc.networkId = true := by decide

def sampleLatchDigest : StablecoinPriceEvidence.Sha256 :=
  ⟨sampleLatchId, by rw [sampleLatchId, String.toList_ofList]; decide⟩
def sampleClearDigest : StablecoinPriceEvidence.Sha256 :=
  ⟨sampleClearId, by rw [sampleClearId, String.toList_ofList]; decide⟩
def sampleRecoveryDigest : StablecoinPriceEvidence.Sha256 :=
  ⟨"d15c02e5d4154b8b6a5343cd1614407dd7470b6c953b33f85ad7dacc99367e13",
    by rw [String.toList_ofList]; decide⟩
def sampleAuthorizationDigest : StablecoinPriceEvidence.Sha256 :=
  ⟨"ec8e63c59c7fbe666b9b7958bb14a23d81eae3cbf31e0c73cb8043f3aa6c3195",
    by rw [String.toList_ofList]; decide⟩

def sampleMaterial : AuthorizationMaterial where
  asset := sampleUsdc
  expectedLatchId := sampleLatchDigest
  expectedRevision := ⟨1, by decide, by decide⟩
  clearId := sampleClearDigest
  recoveryEvidenceFingerprintSha256 := sampleRecoveryDigest
  evidenceActorReferenceId := ⟨"price-desk:1", by decide⟩
  riskApproverReferenceId := ⟨"risk-desk:1", by decide⟩
  issuedAt := sampleApproved
  notBefore := sampleApproved
  expiresAt := ⟨⟨"2026-07-20T01:45:00.000Z", 1784511900000, by decide⟩, by decide⟩
  nonce := ⟨"20000000-0000-4000-8000-000000000001", by decide⟩
  separate := by decide
  window := by decide

theorem fingerprint_of_encodable {v : Value} (sha256 : List UInt8 → String)
    (h : isEncodable 13 v = true) (hn : nodeCount 13 v ≤ 512) (domain : String) :
    ∃ json, fingerprint sha256 domain v = .ok (sha256 (preimage domain json)) := by
  obtain ⟨json, hjson⟩ := canonicalJson_isOk h hn
  exact ⟨json, by rw [fingerprint, hjson, except_ok_bind]; rfl⟩

/-- The test for a prefix is settled by the head of a text. -/
theorem isPrefixOf_append {p l : List UInt8} (x : List UInt8) (h : l.isPrefixOf p = false) :
    p.isPrefixOf (l ++ x) = p.isPrefixOf l := by
  have hne : ¬l <+: p := by simp [← List.isPrefixOf_iff_prefix, h]
  rw [Bool.eq_iff_iff, List.isPrefixOf_iff_prefix, List.isPrefixOf_iff_prefix]
  constructor
  · intro hp
    obtain hpl | hlp := List.prefix_or_prefix_of_prefix hp (List.prefix_append l x)
    · exact hpl
    · exact absurd hlp hne
  · exact fun hp => hp.trans (List.prefix_append l x)

theorem sampleDigests_distinct : ∀ d ∈ sampleDigests, ∀ p ∈ sampleDigests,
    (Bytes.utf8 (d.1 ++ "\n")).isPrefixOf (Bytes.utf8 p.1) = false ∧
      (Bytes.utf8 p.1).isPrefixOf (Bytes.utf8 (d.1 ++ "\n")) = (p.1 == d.1) := by
  decide

theorem sampleDigests_found : ∀ d ∈ sampleDigests,
    ((sampleDigests.find? fun p => p.1 == d.1).map (·.2)).getD "" = d.2 := by
  decide

theorem sampleSha256_preimage {d : String × String} (hd : d ∈ sampleDigests) (json : JsString) :
    sampleSha256 (preimage d.1 json) = d.2 := by
  have hfind : (sampleDigests.find? fun p => (utf8 (ofString p.1)).isPrefixOf
      (Bytes.utf8 (d.1 ++ "\n") ++ utf8 json)) = sampleDigests.find? fun p => p.1 == d.1 := by
    refine List.find?_congr fun p hp => ?_
    obtain ⟨hlonger, hprefix⟩ := sampleDigests_distinct d hd p hp
    rw [utf8_ofString, isPrefixOf_append _ hlonger, hprefix]
  rw [sampleSha256, preimage, utf8_ofString_append, hfind]
  exact sampleDigests_found d hd

theorem fingerprint_sample {v : Value} {domain digest : String}
    (hd : (domain, digest) ∈ sampleDigests) (h : isEncodable 13 v = true)
    (hn : nodeCount 13 v ≤ 512) : fingerprint sampleSha256 domain v = .ok digest := by
  obtain ⟨json, hjson⟩ := fingerprint_of_encodable sampleSha256 h hn domain
  rw [hjson, sampleSha256_preimage hd]

def sampleLatchDepth : SourceSequence := ⟨"7", by decide, by decide⟩
def sampleDepegRate : RateMantissa := ⟨"95000000", by decide, by decide⟩

theorem sampleMidnight_parse :
    IsoDate.parse "2026-07-20T00:00:00.000Z" = some 1784505600000 := by decide

def sampleMidnight : Instant :=
  ⟨⟨"2026-07-20T00:00:00.000Z", 1784505600000, sampleMidnight_parse⟩, by decide⟩

def sampleAmount : AtomicAmount := ⟨⟨"2500000", by decide, by decide⟩, by decide⟩

def sampleDepegObservations : List StablecoinPriceObservation :=
  bothObservations sampleLatchDepth (feedReference .usdt .pythCore) sampleDepegRate sampleMidnight
    (feedReference_valid .usdt _)

/-- The valuation request of the sample that sets a latch. -/
def sampleDepegFields : Record :=
  [("asset", assetValue sampleUsdc), ("amountAtomic", .string sampleAmount.text),
    ("evaluatedAt", .string sampleLatched.text), ("sourceWatermarks", firstUseWatermarks),
    ("observations", ofItems (sampleDepegObservations.map publicObservation))]

theorem sampleDepeg_fields : Record.get sampleLatchFields "valuationRequest" =
    ofFields sampleDepegFields := by
  have hn : toString 7 = sampleLatchDepth.text := by decide
  rw [sampleDepegFields, sampleDepegObservations, ← bothSources_eq hn]
  rfl

theorem sampleDepeg_valuated : evaluateStablecoinValuation (ofFields sampleDepegFields) =
    valuate (firstUseRequest sampleUsdc sampleAmount sampleLatched sampleDepegObservations) :=
  evaluateStablecoinValuation_firstUse (bothObservations_asset _) (by decide)

def sampleActor : StablecoinPriceEvidence.Reference := ⟨"price-desk:1", by decide⟩

def sampleDepegDigest : StablecoinPriceEvidence.Sha256 :=
  ⟨"cfa0709a71792fe80178cd1ffa91e5612bec3a3b58797553c211bc9cc27f4467",
    by rw [String.toList_ofList]; decide⟩

theorem sampleDepeg_detected :
    let result :=
      valuate (firstUseRequest sampleUsdc sampleAmount sampleLatched sampleDepegObservations)
    result.asset = some sampleUsdc ∧ result.evaluatedAt = some sampleLatched ∧
      result.depegClass = .outsidePolicy ∧ result.downsideBand = .depegged ∧
      .depegDetected ∈ result.reasons := by
  decide

theorem sampleDepeg_validated :
    validateDepegEvidence sampleSha256 (ofFields sampleDepegFields) sampleActor =
      .ok ⟨sampleUsdc, sampleLatched, sampleDepegDigest.text⟩ := by
  obtain ⟨hasset, htime, hclass, hband, hreason⟩ := sampleDepeg_detected
  refine validateDepegEvidence_returns (exactRecord_ofFields_keys rfl (by decide))
    (normalizeAsset_assetValue sampleLaunch) sampleDepeg_valuated hasset htime rfl hclass hband
    hreason ?_
  exact fingerprint_sample (.head _) (by decide) (by decide)

def sampleLatchCommand : RecordCommand where
  asset := sampleUsdc
  expectedRevision := none
  correlationId := ⟨"10000000-0000-4000-8000-000000000001", by decide⟩
  latchId := sampleLatchDigest
  latchedAt := sampleLatched
  evidenceActorReferenceId := sampleActor
  depegEvidenceFingerprintSha256 := sampleDepegDigest

theorem sampleLatch_evidence : validateDepegEvidence sampleSha256
    (Record.get sampleLatchFields "valuationRequest") sampleActor =
      .ok ⟨sampleUsdc, sampleLatched, sampleDepegDigest.text⟩ := by
  rw [sampleDepeg_fields, sampleDepeg_validated]

theorem sampleLatch_accepted : (normalizeRecordStablecoinDepegLatchCommand sampleSha256
    (ofFields sampleLatchFields)).isOk = true := by
  have hrecord : exactRecord (ofFields sampleLatchFields) recordKeys = some sampleLatchFields :=
    exactRecord_ofFields_keys rfl (by decide)
  have hdigest : fingerprint sampleSha256 latchCommandFingerprintDomain
      sampleLatchCommand.material = .ok _ :=
    fingerprint_sample (.tail _ (.head _)) (by decide) (by decide)
  have hevent : fingerprint sampleSha256 latchEventFingerprintDomain
      (ofItems [.string "662a6f0ee56270bbe266ec8ea292e8669143ec3ac077f3f1bc257c343a21a2e7",
        .integer 1, .string "LATCHED"]) = .ok _ :=
    fingerprint_sample (.tail _ (.tail _ (.head _))) (by decide) (by decide)
  rw [normalizeRecordStablecoinDepegLatchCommand_returns sampleLatchCommand hrecord rfl rfl rfl rfl
    rfl sampleLatch_evidence hdigest hevent]
  rfl

def sampleEvidence : ValidatedRecoveryEvidence where
  asset := sampleUsdc
  latchId := sampleLatchDigest
  latchedAt := sampleLatched
  clearId := sampleClearDigest
  clearedAt := sampleApproved
  evaluatedAt := sampleRecovered
  fingerprintSha256 := sampleRecoveryDigest.text

theorem sampleRecovery_validated :
    validateRecoveryEvidence sampleSha256 (ofFields sampleRecoveryFields) = .ok sampleEvidence := by
  have hdigest : fingerprint sampleSha256 recoveryEvidenceFingerprintDomain
      (recoveryEvidence sampleRecoveryFields) = .ok sampleRecoveryDigest.text :=
    fingerprint_sample (.tail _ (.tail _ (.tail _ (.head _)))) (by decide)
      (by decide)
  have hrecord : exactRecord (ofFields sampleRecoveryFields) recoveryKeys =
      some sampleRecoveryFields := exactRecord_ofFields_keys rfl (by decide)
  have hvalue : Record.get sampleRecoveryFields "asset" = assetValue sampleUsdc := rfl
  have hasset := normalizeAsset_assetValue sampleLaunch
  have hlatch : sampleLatchReference.latchId = sampleLatchDigest.text := rfl
  have hclear : sampleRiskClear.clearId = sampleClearDigest.text := rfl
  exact validateRecoveryEvidence_returns hrecord (hvalue ▸ hasset) sampleRecovery_evaluated rfl rfl
    rfl rfl rfl rfl rfl hasset hasset hlatch hclear hdigest

theorem sampleMaterial_fingerprinted :
    fingerprintStablecoinDepegRecoveryAuthorization sampleSha256 sampleMaterial.toValue =
      .ok sampleAuthorizationDigest.text := by
  rw [fingerprintStablecoinDepegRecoveryAuthorization,
    normalizeAuthorizationMaterial_toValue sampleLaunch, except_ok_bind]
  exact fingerprint_sample (.tail _ (.tail _ (.tail _ (.tail _ (.head _))))) (by decide)
    (by decide)

def sampleAuthorized : StablecoinDepegRecoveryAuthorization :=
  { sampleMaterial with
    authorizationFingerprintSha256 := sampleAuthorizationDigest
    authorizationId := authorizationIdPrefix ++ sampleAuthorizationDigest.text }

theorem sampleAuthorization_normalized :
    normalizeAuthorization sampleSha256 (ofFields sampleAuthorization) = .ok sampleAuthorized := by
  have hfields : ofFields (sampleAuthorization.take 17) = sampleMaterial.toValue := rfl
  have hkeys : (sampleAuthorization.take 17).map Prod.fst = authorizationMaterialKeys := rfl
  have hsplit : sampleAuthorization = sampleAuthorization.take 17 ++
      [("authorizationFingerprintSha256", .string sampleAuthorizationDigest.text),
        ("authorizationId",
          .string (authorizationIdPrefix ++ sampleAuthorizationDigest.text))] := rfl
  have h := normalizeAuthorization_fields sampleLaunch hfields hkeys sampleMaterial_fingerprinted
  rw [← hsplit] at h
  exact h

def sampleCorrelation : StablecoinPriceEvidence.UuidV4 :=
  ⟨"10000000-0000-4000-8000-000000000002", by decide⟩

theorem sampleClear_accepted : (normalizeClearStablecoinDepegLatchCommand sampleSha256
    (ofFields sampleClearFields)).isOk = true := by
  have hrecord : exactRecord (ofFields sampleClearFields) clearKeys = some sampleClearFields :=
    exactRecord_ofFields_keys rfl (by decide)
  have hmatched : ¬Mismatch sampleEvidence sampleAuthorized sampleRecovered := by decide
  have hdigest : fingerprint sampleSha256 clearCommandFingerprintDomain
      (clearCommand sampleEvidence sampleAuthorized sampleRecovered sampleCorrelation).material =
        .ok _ :=
    fingerprint_sample (.tail _ (.tail _ (.tail _ (.tail _ (.tail _ (.head _))))))
      (by decide) (by decide)
  have hevent : fingerprint sampleSha256 clearEventFingerprintDomain
      (ofItems [.string "bbf0c9795af41bb0942229f7f2bc46fd593c1ced0d588dfd015b37a27bd2bce7",
        .integer 2, .string "CLEARED"]) = .ok _ :=
    fingerprint_sample (.tail _ (.tail _ (.tail _ (.tail _ (.tail _ (.tail _ (.head _)))))))
      (by decide) (by decide)
  rw [normalizeClearStablecoinDepegLatchCommand_returns sampleRecovered sampleCorrelation hrecord
    rfl rfl sampleRecovery_validated sampleAuthorization_normalized hmatched hdigest hevent]
  rfl

theorem sampleLatch_rearranged :
    Rearranged (ofFields sampleLatchFields) (ofFields sampleLatchFields.reverse) :=
  .object (List.forall₂_same.mpr fun p _ => .same p)
    ((List.reverse_perm sampleLatchFields).symm.map _) (by decide)

theorem sampleCommands_fingerprinted : ∃ a b,
    Accepted sampleSha256 (ofFields sampleLatchFields) (.latch a) ∧
    Accepted sampleSha256 (ofFields sampleLatchFields.reverse) (.latch a) ∧
    Accepted sampleSha256 (ofFields sampleClearFields) (.clear b) ∧
    canonicalJson (DepegLatchCommand.latch a).material ≠
      canonicalJson (DepegLatchCommand.clear b).material ∧
    ∃ authorization recovery,
      clearAuthorization sampleSha256 (ofFields sampleClearFields) = .ok authorization ∧
      clearRecovery sampleSha256 (ofFields sampleClearFields) = .ok recovery ∧
      Bound b.toClearCommand authorization recovery := by
  obtain ⟨-, hdetermined, horder, hbound, -⟩ := depegLatchCommands_fingerprinted sampleSha256
  obtain ⟨a, ha⟩ := except_exists_of_isOk sampleLatch_accepted
  obtain ⟨b, hb⟩ := except_exists_of_isOk sampleClear_accepted
  refine ⟨a, b, .latch ha, horder _ _ _ (.latch ha) sampleLatch_rearranged, .clear hb, ?_,
    hbound _ _ hb⟩
  intro h
  cases (hdetermined _ _ _ _ (.latch ha) (.clear hb)).1.mp h

end Sample

end CryptoLending.Valuation.DepegLatchBinding
