import CryptoLending.Lib.Bytes
import CryptoLending.MainnetActions.FinalitySoundness

namespace CryptoLending.MainnetActions.ReorgAgreement

open Lib Lib.JsValue Blockchain.LaunchNetwork LifecycleData FinalityPrerequisite
  FinalityAttestation FinalityProducer FinalitySoundness
open Lifecycle (canonicalUint64 nullable)

section Facts

/-- A pointer that the readers give back from its texts. -/
def IsReadable (networkId : MainnetLaunchNetworkId) (p : ChainPointer) : Prop :=
  ∀ code : FailureCode, canonicalUint64 (.string p.position.text) code = .ok p.position ∧
    chainIdentity code networkId (.string p.blockId) .block = .ok p.blockId

/-- What an outcome rests on. -/
structure OutcomeFacts where
  networkId : MainnetLaunchNetworkId
  outcome : ReconciliationOutcome
  transaction : Option ChainPointer
  finalized : ChainPointer
  effect : Bool
  failure : Bool
  readable : ∀ p, p = finalized ∨ transaction = some p → IsReadable networkId p

/-- The facts of something that names them. -/
structure OutcomeFacts.Describe (f : OutcomeFacts) (networkId : MainnetLaunchNetworkId)
    (outcome : ReconciliationOutcome) (transaction : Option ChainPointer)
    (finalized : ChainPointer) (effect failure : Option String) : Prop where
  networkId_eq : networkId = f.networkId
  outcome_eq : outcome = f.outcome
  transaction_eq : transaction = f.transaction
  finalized_eq : finalized = f.finalized
  effect_eq : effect.isSome = f.effect
  failure_eq : failure.isSome = f.failure

/-- A run issues an admission candidate with the facts. -/
def IsIssued (f : OutcomeFacts) : Prop :=
  ∃ C events s i args, runEvents C events = some s ∧ i ∈ s.issued ∧
    i.candidate = .reconciliationAdmission args ∧
    f.Describe i.networkId args.outcome args.transaction args.finalized args.effectEvidenceSha256
      args.failureEvidenceSha256

/-- The check of an attestation accepts the facts for some prerequisite. -/
def IsAttested (f : OutcomeFacts) : Prop :=
  ∃ isAddress capability binding p observationId evaluatedAt completedAt a outcome effect failure,
    reconciliationAttestation isAddress capability binding p observationId evaluatedAt
      completedAt = .ok a ∧ a.finding = .reconciliation outcome effect failure ∧
    f.Describe p.facts.networkId outcome a.transaction a.finalized effect failure

/-- The checks that the lifecycle makes on the outcome of an observation of an intent. -/
structure LifecycleAccepts (record : LifecycleRecord) (x : Reconciliation) : Prop where
  fits : x.isMisshapen = false
  consistent : record.contradicts x = false
  reorg : x.outcome = .reorgedOut → ∀ last, record.lastTransaction = some last →
    x.transaction = some last

/-- The producer and the lifecycle mean the same by an outcome with the facts. -/
structure OutcomesAgree (f : OutcomeFacts) : Prop where
  fits : IsIssued f → ∀ x : Reconciliation,
    f.Describe x.networkId x.outcome x.transaction x.finalized x.effectEvidenceSha256
      x.failureEvidenceSha256 →
    x.effectEvidenceSha256 ≠ some x.sourceEvidenceSha256 →
    x.failureEvidenceSha256 ≠ some x.sourceEvidenceSha256 → x.isMisshapen = false
  oneBlock : IsIssued f → f.networkId = .eip155 → f.outcome ≠ .reorgedOut →
    ∀ t, f.transaction = some t → f.finalized.position = t.position →
      f.finalized.blockId = t.blockId
  reorg : f.networkId = .eip155 → f.outcome = .reorgedOut → ∀ t, f.transaction = some t →
    f.finalized.position = t.position → f.finalized.blockId ≠ t.blockId →
    ∀ record x, record.lastTransaction = some t →
      f.Describe x.networkId x.outcome x.transaction x.finalized x.effectEvidenceSha256
        x.failureEvidenceSha256 →
      LifecycleAccepts record x → IsAttested f
  ownBlock : f.networkId = .eip155 → f.outcome = .reorgedOut → f.transaction = some f.finalized →
    ¬IsIssued f

/-- A transaction on Ethereum is said to be reorged out at the height of the finalized head. -/
def IsSameHeightReorg (f : OutcomeFacts) : Prop :=
  f.networkId = .eip155 ∧ f.outcome = .reorgedOut ∧ f.effect = false ∧ f.failure = false ∧
    ∃ t, f.transaction = some t ∧ f.finalized.position = t.position

end Facts

section Checks

variable {f : OutcomeFacts} {x : Reconciliation}

theorem reconciliationAttestation_ok {isAddress : String → Bool} {capability : Capability}
    {binding : SourceBinding} {p : Prerequisite} {observationId : String}
    {evaluatedAt completedAt : Int} {a : Attestation}
    (h : reconciliationAttestation isAddress capability binding p observationId evaluatedAt
      completedAt = .ok a) : ∃ outcome effect failure,
      a.finding = .reconciliation outcome effect failure ∧
      outcomeMismatch p.facts.networkId outcome a.transaction a.finalized effect failure =
        false := by
  iterate 3 obtain ⟨_, _, h⟩ := except_bind_ok.mp h
  obtain ⟨outcome, _, h⟩ := except_bind_ok.mp h
  obtain ⟨effect, _, h⟩ := except_bind_ok.mp h
  obtain ⟨failure, _, h⟩ := except_bind_ok.mp h
  obtain ⟨_, hmatch, h⟩ := except_bind_ok.mp h
  obtain ⟨_, _, h⟩ := except_bind_ok.mp h
  obtain rfl := except_pure_ok.mp h
  exact ⟨outcome, effect, failure, rfl, Bool.eq_false_iff.mpr (failWhen_ok.mp hmatch)⟩

/-- The facts pass the table of the producer. -/
def PassesTable (f : OutcomeFacts) : Prop :=
  ∃ effect failure : Option String, effect.isSome = f.effect ∧ failure.isSome = f.failure ∧
    outcomeMismatch f.networkId f.outcome f.transaction f.finalized effect failure = false

theorem IsAttested.passes (h : IsAttested f) : PassesTable f := by
  obtain ⟨isAddress, capability, binding, p, observationId, evaluatedAt, completedAt, a, outcome,
    effect, failure, ha, hfinding, hf⟩ := h
  obtain ⟨outcome', effect', failure', hfinding', hmatch⟩ := reconciliationAttestation_ok ha
  obtain ⟨rfl, rfl, rfl⟩ := Finding.reconciliation.inj (hfinding.symm.trans hfinding')
  refine ⟨effect, failure, hf.effect_eq, hf.failure_eq, ?_⟩
  rw [← hf.networkId_eq, ← hf.outcome_eq, ← hf.transaction_eq, ← hf.finalized_eq]
  exact hmatch

theorem optionalEvidence_isSome {C : Configuration} {domain : EvidenceDomain} {p : Prerequisite}
    {e : Evidence} {aggregate : Option String}
    (h : optionalEvidence C domain p e = .ok aggregate) :
    aggregate.isSome = (domain.sourceValue (e.attestation .primary)).isSome := by
  cases hvalue : domain.sourceValue (e.attestation .primary) with
  | none =>
    rw [optionalEvidence, hvalue, Option.isNone_none, if_pos rfl] at h
    rw [← Except.ok.inj h]
  | some value =>
    rw [optionalEvidence, hvalue, Option.isNone_some, if_neg Bool.false_ne_true] at h
    cases haggregate : aggregateEvidence C domain p e with
    | error code => simp [haggregate, Except.map] at h
    | ok text =>
      rw [haggregate] at h
      rw [← Except.ok.inj h]
      rfl

/-- An admission candidate repeats what the primary source attested. -/
theorem candidateOf_ok {C : Configuration} {p : Prerequisite} {e : Evidence}
    {args : AdmissionArguments} (h : candidateOf C p e = .ok (.reconciliationAdmission args)) :
    ∃ observationId effect failure, p.subject = .reconciliation observationId ∧
      (e.attestation .primary).finding = .reconciliation args.outcome effect failure ∧
      args.transaction = (e.attestation .primary).transaction ∧
      args.finalized = (e.attestation .primary).finalized ∧
      args.effectEvidenceSha256.isSome = effect.isSome ∧
      args.failureEvidenceSha256.isSome = failure.isSome := by
  cases hsubject : p.subject with
  | reconciliation observationId =>
    cases hfinding : (e.attestation .primary).finding with
    | reconciliation outcome effect failure =>
      simp only [candidateOf, hsubject, hfinding] at h
      obtain ⟨_, _, h⟩ := except_bind_ok.mp h
      obtain ⟨effect', heffect, h⟩ := except_bind_ok.mp h
      obtain ⟨failure', hfailure, h⟩ := except_bind_ok.mp h
      obtain rfl := Candidate.reconciliationAdmission.inj (except_pure_ok.mp h)
      refine ⟨observationId, effect, failure, rfl, rfl, rfl, rfl, ?_, ?_⟩
      · simp only [optionalEvidence_isSome heffect, EvidenceDomain.sourceValue, hfinding]
      · simp only [optionalEvidence_isSome hfailure, EvidenceDomain.sourceValue, hfinding]
    | postFinality disposition lineageStatus =>
      simp [candidateOf, hsubject, hfinding] at h
  | postFinality subject =>
    cases hfinding : (e.attestation .primary).finding with
    | reconciliation outcome effect failure => simp [candidateOf, hsubject, hfinding] at h
    | postFinality disposition lineageStatus =>
      simp only [candidateOf, hsubject, hfinding] at h
      obtain ⟨_, _, h⟩ := except_bind_ok.mp h
      cases except_pure_ok.mp h

/-- What is issued was attested. -/
theorem IsIssued.isAttested (h : IsIssued f) : IsAttested f := by
  obtain ⟨C, events, s, i, args, hrun, hi, hcandidate, hf⟩ := h
  obtain ⟨o, ho⟩ := (run_explained hrun).issued i hi
  obtain ⟨observationId, effect, failure, hsubject, hfinding, htransaction, hfinalized, heffect,
    hfailure⟩ := candidateOf_ok (hcandidate ▸ ho.issued.candidate)
  have ha := ho.collected.collected.attested .primary
  rw [attestation, hsubject] at ha
  refine ⟨_, _, _, _, _, _, _, _, _, _, _, ha, hfinding, ?_⟩
  rw [← ho.issued.networkId, ← htransaction, ← hfinalized]
  exact ⟨hf.networkId_eq, hf.outcome_eq, hf.transaction_eq, hf.finalized_eq,
    heffect.symm.trans hf.effect_eq, hfailure.symm.trans hf.failure_eq⟩

/-- The table of the lifecycle follows from that of the producer. -/
theorem fits_of_passes (h : PassesTable f)
    (hx : f.Describe x.networkId x.outcome x.transaction x.finalized x.effectEvidenceSha256
      x.failureEvidenceSha256)
    (heffect : x.effectEvidenceSha256 ≠ some x.sourceEvidenceSha256)
    (hfailure : x.failureEvidenceSha256 ≠ some x.sourceEvidenceSha256) : x.isMisshapen = false := by
  obtain ⟨effect, failure, he, hf, h⟩ := h
  simp only [outcomeMismatch, isFinalizedOutcome, Bool.or_eq_false_iff, ← hx.outcome_eq,
    ← hx.transaction_eq, ← hx.finalized_eq] at h
  obtain ⟨⟨⟨⟨⟨⟨⟨h1, h2⟩, h3⟩, h4⟩, -⟩, h5⟩, h6⟩, h7⟩ := h
  have hnone : ∀ o : Option String, o.isNone = !o.isSome := fun o => by cases o <;> rfl
  rw [hnone, he, hf, ← hx.effect_eq, ← hx.failure_eq, ← hnone] at h5 h6
  rw [he, hf, ← hx.effect_eq, ← hx.failure_eq] at h7
  simp only [Reconciliation.isMisshapen, Bool.or_eq_false_iff]
  exact ⟨⟨⟨⟨⟨⟨⟨⟨h1, h2⟩, h3⟩, h4⟩, h5⟩, h6⟩, h7⟩, beq_eq_false_iff_ne.mpr heffect.symm⟩,
    beq_eq_false_iff_ne.mpr hfailure.symm⟩

/-- What passes the table has one block at the height of a finalized transaction. -/
theorem oneBlock_of_passes (h : PassesTable f) (hnetwork : f.networkId = .eip155)
    (houtcome : isFinalizedOutcome f.outcome = true) {t : ChainPointer}
    (ht : f.transaction = some t) (hposition : f.finalized.position = t.position) :
    f.finalized.blockId = t.blockId := by
  obtain ⟨effect, failure, -, -, h⟩ := h
  simp only [outcomeMismatch, Bool.or_eq_false_iff] at h
  obtain ⟨⟨⟨⟨-, h⟩, -⟩, -⟩, -⟩ := h
  rw [hnetwork, houtcome, ht, Option.any_some, hposition] at h
  simpa using h

/-- A transaction that has a pending or no outcome is not at the height of the finalized head. -/
theorem isFinalizedOutcome_of_passes (h : PassesTable f) {t : ChainPointer}
    (ht : f.transaction = some t) (hposition : f.finalized.position = t.position) :
    isFinalizedOutcome f.outcome = true := by
  obtain ⟨effect, failure, -, -, h⟩ := h
  simp only [outcomeMismatch, Bool.or_eq_false_iff] at h
  obtain ⟨⟨⟨⟨⟨⟨⟨hunknown, -⟩, hpending⟩, -⟩, -⟩, -⟩, -⟩, -⟩ := h
  rw [ht, hposition] at hpending
  rw [ht] at hunknown
  cases houtcome : f.outcome <;> simp_all [isFinalizedOutcome]

theorem reorg_evidence_of_passes (h : PassesTable f) (houtcome : f.outcome = .reorgedOut) :
    f.effect = false ∧ f.failure = false := by
  obtain ⟨effect, failure, he, hf, h⟩ := h
  simp only [outcomeMismatch, Bool.or_eq_false_iff] at h
  have hevidence := h.2
  rw [houtcome, he, hf] at hevidence
  simpa using hevidence

end Checks

section SampleRun

/-- The keys under which the records of a sample say where the chain is. -/
def chainKeys : List String :=
  ["chainAnchor", "agreedFinalizedHead", "transactionPosition", "transactionBlockId",
    "finalizedPosition", "finalizedBlockId"]

/-- Two records differ at most in where the chain is. -/
def SameTerms (record record' : Record) : Prop := ∀ key ∉ chainKeys, record.get key = record'.get key

variable {isAddress : String → Bool} {record record' : Record}

theorem prerequisiteTerms_congr (h : SameTerms record record') (purpose : EvidencePurpose) :
    prerequisiteTerms isAddress record purpose = prerequisiteTerms isAddress record' purpose := by
  simp (disch := decide) only [prerequisiteTerms, sharedFacts, expectedSource, SourceRole.field,
    assetBinding, provider, String.reduceAppend, h _]

theorem matchesFacts_congr (h : SameTerms record record') (facts : SharedFacts) :
    matchesFacts isAddress record facts = matchesFacts isAddress record' facts := by
  simp (disch := decide) only [matchesFacts, assetBinding, provider, h _]

theorem matchesSource_congr (h : SameTerms record record') (binding : SourceBinding)
    (expected : ExpectedSource) :
    matchesSource record binding expected = matchesSource record' binding expected := by
  simp (disch := decide) only [matchesSource, h _]

theorem stageOf_congr (h : SameTerms record record') (stages : List LifecycleStage) :
    stageOf record stages = stageOf record' stages := by
  simp (disch := decide) only [stageOf, h _]

theorem get_map_keys (keys : List String) (g : String → Value) (key : String) :
    Record.get (keys.map fun k => (k, g k)) key = if key ∈ keys then g key else .undefined := by
  induction keys with
  | nil => rfl
  | cons k keys ih =>
    rw [List.map_cons, get_cons, ih]
    by_cases hk : key = k
    · simp [hk]
    · simp [hk]

theorem get_of_not_mem {table : Record} {key : String} (h : key ∉ table.map Prod.fst) :
    table.get key = .undefined := by
  have hlookup : table.lookup key = none := by
    rw [List.lookup_eq_none_iff]
    intro p hp
    have hne : key ≠ p.1 := fun he => h (he ▸ List.mem_map_of_mem hp)
    simpa using hne
  rw [Record.get, hlookup, Option.getD_none]

/-- A record of a table is read as the table. -/
theorem exactDataRecord_recordOf {keys : List String} {table : Record} (hkeys : keys.Nodup)
    (htable : ∀ key ∈ table.map Prod.fst, key ∈ keys) :
    ∃ r, exactDataRecord (recordOf keys table) keys = some r ∧ ∀ key, r.get key = table.get key := by
  have hfst : (keys.map fun key => (key, table.get key)).map Prod.fst = keys := by
    rw [List.map_map]
    exact List.map_id' keys
  refine ⟨keys.map fun key => (key, table.get key), ?_, fun key => ?_⟩
  · have hread := @exactRecord_ofFields (keys.map fun key => (key, table.get key))
      (hfst.symm ▸ hkeys)
    rw [hfst] at hread
    exact hread
  · rw [get_map_keys]
    split
    · rfl
    · exact (get_of_not_mem fun hmem => ‹key ∉ keys› (htable key hmem)).symm

/-- The address test of the sample. -/
def sampleIsAddress : String → Bool := sampleConfiguration.isAddress

def sampleHex (c : Char) : String := String.ofList (List.replicate 64 c)

def sampleExpiry : IsoDate.Timestamp :=
  ⟨"2026-07-21T00:00:00.000Z", 1784592000000, by decide⟩

/-- What the sample's prerequisite says, apart from where the chain is. -/
def sampleTerms : PrerequisiteTerms where
  facts := {
    networkId := .eip155
    accountId := "11111111-1111-4111-8111-111111111111"
    intentId := "22222222-2222-4222-8222-222222222222"
    intentRecordFingerprintSha256 := sampleHex '1'
    walletRegistrationId := "33333333-3333-4333-8333-333333333333"
    walletAddress := "0x1111111111111111111111111111111111111111"
    lifecycleRevision := ⟨"2", by decide⟩
    lifecycleSnapshotSha256 := sampleHex '2'
    transactionId := "0x" ++ sampleHex '3'
    walletSignedPayloadSha256 := sampleHex '4'
    walletSignatureEvidenceSha256 := sampleHex '5'
    chainAnchorEvidenceFingerprintSha256 := sampleHex '6'
    sourceAuthorityId := "44444444-4444-4444-8444-444444444444"
    sourceAuthorityFingerprintSha256 := sampleHex '7'
    sourcePairApprovalId := "pair-approval"
    sourcePairRegistryFingerprintSha256 := sampleHex '8'
    deploymentAuthorityId := "55555555-5555-4555-8555-555555555555"
    deploymentAuthorityFingerprintSha256 := sampleHex '9'
    providerId := .aave
    protocolId := .aaveV3
    marketId := "0x2222222222222222222222222222222222222222"
    assets := ⟨1, "5058b141479f114c1e5f87ed8798fbb7a7ffcce7b502aa7e0794dc53ca1f767d", .usdc,
      "0xa0b86991c6218b36c1d19d4a2e9eb0ce3606eb48", 6⟩
    action := .supply
    amountAtomic := "1000000"
    correlationId := "66666666-6666-4666-8666-666666666666" }
  primary := ⟨(sampleBinding .primary).identity, sampleHex 'a', sampleHex 'b'⟩
  corroborating := ⟨(sampleBinding .corroborating).identity, sampleHex 'c', sampleHex 'd'⟩
  chainAnchorEvidenceExpiresAt := ⟨"2026-07-20T00:01:00.000Z", 1784505660000, by decide⟩
  sourceAuthorityExpiresAt := sampleExpiry
  deploymentAuthorityExpiresAt := sampleExpiry
  verifiedAt := ⟨"2026-07-20T00:00:00.000Z", 1784505600000, by decide⟩
  deadlineAt := ⟨"2026-07-20T00:00:20.000Z", 1784505620000, by decide⟩

theorem sampleTerms_eq : (prerequisiteTerms sampleIsAddress samplePrerequisiteFields
    .reconciliationAdmission).toOption = some sampleTerms := by
  -- The kernel reads a text faster from its bytes.
  delta prerequisiteTerms sharedFacts expectedSource sourceIdentity chainIdentity Lifecycle.evmHash
    market atomicAmount Intent.digest Intent.uuid
  simp only [Intent.textOf, Bytes.toList_eq_characters]
  decide +kernel

def sampleObservationId : String := "77777777-7777-4777-8777-777777777777"

/-- The sample's prerequisite on a chain whose head is the block of the transaction. -/
def samplePrerequisiteAt (t : ChainPointer) : Prerequisite where
  toPrerequisiteTerms := sampleTerms
  capability := 3
  chain := ⟨.evmBlock t.position t.blockId, .evmBlock t.position t.blockId⟩
  signal := 1
  lifecycleStage := .walletSignedSubmissionBound
  subject := .reconciliation sampleObservationId

variable {t : ChainPointer}

theorem anchor_sampleAnchor (ht : IsReadable .eip155 t) (code : FailureCode) :
    anchor code (sampleAnchor t.position.text t.blockId) .eip155 =
      .ok (.evmBlock t.position t.blockId) := by
  have hrecord : exactDataRecord (sampleAnchor t.position.text t.blockId)
      ["kind", "blockNumber", "blockHash"] = some [("kind", .string "EVM_BLOCK"),
        ("blockNumber", .string t.position.text), ("blockHash", .string t.blockId)] :=
    @exactRecord_ofFields [("kind", .string "EVM_BLOCK"), ("blockNumber", .string t.position.text),
      ("blockHash", .string t.blockId)] (show ["kind", "blockNumber", "blockHash"].Nodup by decide)
  simp only [anchor, hrecord, orFail, except_ok_bind, get_cons, reduceIte, String.reduceEq,
    (ht code).1, (ht code).2]
  rfl

theorem chainFacts_sample (ht : IsReadable .eip155 t) (code : FailureCode)
    (hchain : record.get "chainAnchor" = sampleAnchor t.position.text t.blockId)
    (hhead : record.get "agreedFinalizedHead" = sampleAnchor t.position.text t.blockId) :
    chainFacts code .eip155 record = .ok (samplePrerequisiteAt t).chain := by
  simp only [chainFacts, hchain, hhead, anchor_sampleAnchor ht code, except_ok_bind]
  rfl

theorem samplePrerequisite_read (ht : IsReadable .eip155 t) :
    reviewedPrerequisite sampleIsAddress .reconciliationAdmission 3
      (samplePrerequisite t.position.text t.blockId) = .ok (samplePrerequisiteAt t) := by
  obtain ⟨r, hr, hget⟩ := @exactDataRecord_recordOf reconciliationPrerequisiteKeys
    (sampleChain t.position.text t.blockId ++ samplePrerequisiteFields) (by decide)
    (show ∀ key ∈ ["chainAnchor", "agreedFinalizedHead"] ++ samplePrerequisiteFields.map Prod.fst,
      key ∈ reconciliationPrerequisiteKeys by decide)
  have hsame : SameTerms r samplePrerequisiteFields := by
    intro key hkey
    have hchain : key ≠ "chainAnchor" := fun he => hkey (by rw [he]; decide)
    have hhead : key ≠ "agreedFinalizedHead" := fun he => hkey (by rw [he]; decide)
    rw [hget, sampleChain, List.cons_append, get_cons, if_neg hchain, List.cons_append, get_cons,
      if_neg hhead, List.nil_append]
  have hchain : r.get "chainAnchor" = sampleAnchor t.position.text t.blockId := by
    rw [hget, sampleChain, List.cons_append, get_cons, if_pos rfl]
  have hhead : r.get "agreedFinalizedHead" = sampleAnchor t.position.text t.blockId := by
    rw [hget, sampleChain, List.cons_append, get_cons, if_neg (by decide), List.cons_append,
      get_cons, if_pos rfl]
  have hstage : stageOf samplePrerequisiteFields [.walletSignedSubmissionBound,
      .broadcastOutcomeAmbiguous, .reconciliationAmbiguous] =
        .ok .walletSignedSubmissionBound := by decide
  have hid : Intent.uuid (Record.get samplePrerequisiteFields "observationId")
      FailureCode.prerequisiteUnavailable = .ok sampleObservationId := by decide
  have hcommon : commonPrerequisite sampleIsAddress r 3 (some 1) .reconciliationAdmission =
      .ok (samplePrerequisiteAt t).toCommonPrerequisite := by
    have hchainFacts : chainFacts .prerequisiteUnavailable sampleTerms.facts.networkId r =
        .ok (samplePrerequisiteAt t).chain := chainFacts_sample ht _ hchain hhead
    simp only [commonPrerequisite, prerequisiteTerms_congr hsame, toOption_eq_some.mp sampleTerms_eq,
      except_ok_bind, hchainFacts, orFail]
    rfl
  have hread : exactDataRecord (samplePrerequisite t.position.text t.blockId).contents
      reconciliationPrerequisiteKeys = some r := hr
  have hsignal : (samplePrerequisite t.position.text t.blockId).signal = some 1 := rfl
  have hobservation : r.get "observationId" =
      Record.get samplePrerequisiteFields "observationId" :=
    hsame _ (by decide)
  rw [reviewedPrerequisite, reconciliationPrerequisite, hread, hsignal]
  simp only [orFail, except_ok_bind, hcommon, stageOf_congr hsame, hstage, hobservation, hid]
  rw [failWhen, if_neg]
  · rfl
  · rintro (⟨-, hne⟩ | ⟨hne, -⟩)
    · exact hne rfl
    · cases hne

/-- The call of the sample while it waits for its sources. -/
def sampleProduction (t : ChainPointer) : Production where
  request := sampleRequest
  signal := 1
  prerequisite := samplePrerequisiteAt t
  evaluatedAt := sampleEvaluatedAt
  binding := sampleBinding

theorem samplePrerequisite_current {s : State} (hs : s.aborted = []) {checkedAt : Int}
    (hge : sampleEvaluatedAt ≤ checkedAt) (hle : checkedAt ≤ sampleCompletedAt) :
    ensurePrerequisiteCurrent (samplePrerequisiteAt t) 1 s.isAborted checkedAt = .ok () := by
  have haborted : s.isAborted 1 = false := by rw [State.isAborted, hs]; rfl
  rw [sampleEvaluatedAt] at hge
  rw [sampleCompletedAt] at hle
  apply failWhen_ok.mpr
  rw [haborted]
  simp only [authorityExpiresAt, samplePrerequisiteAt, sampleTerms, sampleExpiry,
    maxDeadlineMilliseconds, ne_eq, not_true_eq_false, Bool.false_eq_true, false_or]
  omega

theorem sample_produce (ht : IsReadable .eip155 t) :
    produce sampleConfiguration {} .reconciliationAdmission sampleRequest
      (some (samplePrerequisite t.position.text t.blockId)) (some sampleEvaluatedAt) =
        .ok (sampleProduction t) := by
  have hpublic : (publicRequest .reconciliationAdmission
      (State.isAborted {}) sampleRequest).toOption = some (3, 1) := by
    set_option maxRecDepth 4000 in decide
  have hbinding : ∀ role, bindingFor sampleConfiguration.bindings (samplePrerequisiteAt t) role =
      .ok (sampleBinding role) := by
    intro role
    cases role <;> simp [bindingFor, sampleConfiguration, sampleBinding, samplePrerequisiteAt,
      PrerequisiteTerms.expected, sampleTerms, sampleHex, orFail]
  refine except_bind_ok.mpr ⟨(3, 1), toOption_eq_some.mp hpublic, ?_⟩
  refine except_bind_ok.mpr ⟨samplePrerequisite t.position.text t.blockId, rfl, ?_⟩
  refine except_bind_ok.mpr ⟨samplePrerequisiteAt t, samplePrerequisite_read ht, ?_⟩
  refine except_bind_ok.mpr ⟨sampleEvaluatedAt, rfl, ?_⟩
  refine except_bind_ok.mpr ⟨(), samplePrerequisite_current rfl (by decide) (by decide), ?_⟩
  refine except_bind_ok.mpr ⟨sampleBinding .primary, hbinding .primary, ?_⟩
  refine except_bind_ok.mpr ⟨sampleBinding .corroborating, hbinding .corroborating, ?_⟩
  refine except_bind_ok.mpr ⟨(), failWhen_ok.mpr (by decide), congrArg Except.ok ?_⟩
  rw [sampleProduction, Production.mk.injEq]
  exact ⟨rfl, rfl, rfl, rfl, funext fun role => by cases role <;> rfl⟩

def sampleObservedAt : IsoDate.Timestamp :=
  ⟨"2026-07-20T00:00:01.000Z", 1784505601000, by decide⟩

def sampleAssessedAt : IsoDate.Timestamp :=
  ⟨"2026-07-20T00:00:02.000Z", 1784505602000, by decide⟩

def sampleAttestationSha256 : SourceRole → String
  | .primary => sampleHex 'e'
  | .corroborating => sampleHex 'f'

/-- The attestation of a role in the sample. -/
def sampleAttestation (t : ChainPointer) (role : SourceRole) : Attestation where
  capability := (sampleCapability t.position.text t.blockId role).reference
  observedAt := sampleObservedAt
  assessedAt := sampleAssessedAt
  deploymentAuthorityId := sampleTerms.facts.deploymentAuthorityId
  deploymentAuthorityFingerprintSha256 := sampleTerms.facts.deploymentAuthorityFingerprintSha256
  providerId := .aave
  protocolId := .aaveV3
  marketId := sampleTerms.facts.marketId
  transaction := some t
  finalized := t
  transactionEvidenceSha256 := sampleHex 'a'
  attestationSha256 := sampleAttestationSha256 role
  finding := .reconciliation .reorgedOut none none

/-- How the records of the sample are read. -/
structure IsSampleRecord (t : ChainPointer) (role : SourceRole) (r : Record) : Prop where
  same : SameTerms r (sampleAttestationFields role)
  chainAnchor : r.get "chainAnchor" = sampleAnchor t.position.text t.blockId
  agreedFinalizedHead : r.get "agreedFinalizedHead" = sampleAnchor t.position.text t.blockId
  transactionPosition : r.get "transactionPosition" = .string t.position.text
  transactionBlockId : r.get "transactionBlockId" = .string t.blockId
  finalizedPosition : r.get "finalizedPosition" = .string t.position.text
  finalizedBlockId : r.get "finalizedBlockId" = .string t.blockId

theorem sampleCapability_record (t : ChainPointer) (role : SourceRole) :
    ∃ r, exactDataRecord (sampleCapability t.position.text t.blockId role).contents
      reconciliationAttestationKeys = some r ∧ IsSampleRecord t role r := by
  obtain ⟨r, hr, hget⟩ := @exactDataRecord_recordOf reconciliationAttestationKeys
    (samplePositions t.position.text t.blockId ++ sampleChain t.position.text t.blockId ++
      sampleAttestationFields role) (by decide)
    (show ∀ key ∈ ["transactionPosition", "transactionBlockId", "finalizedPosition",
        "finalizedBlockId", "chainAnchor", "agreedFinalizedHead"] ++
          (sampleAttestationFields role).map Prod.fst,
      key ∈ reconciliationAttestationKeys by cases role <;> decide)
  have hcons : ∀ key, r.get key = Record.get (("transactionPosition", .string t.position.text) ::
      ("transactionBlockId", .string t.blockId) ::
      ("finalizedPosition", .string t.position.text) :: ("finalizedBlockId", .string t.blockId) ::
      ("chainAnchor", sampleAnchor t.position.text t.blockId) ::
      ("agreedFinalizedHead", sampleAnchor t.position.text t.blockId) ::
      sampleAttestationFields role) key := hget
  refine ⟨r, hr, ⟨fun key hkey => ?_, ?_, ?_, ?_, ?_, ?_, ?_⟩⟩
  · have hne : ∀ name ∈ chainKeys, key ≠ name := fun name hname he => hkey (he ▸ hname)
    simp (disch := exact hne _ (by decide)) only [hcons, get_cons, if_neg]
  all_goals simp only [hcons, get_cons, String.reduceEq, reduceIte]

theorem sampleRecord_matches (role : SourceRole) :
    (matchesFacts sampleIsAddress (sampleAttestationFields role) sampleTerms.facts &&
      matchesSource (sampleAttestationFields role) (sampleBinding role)
        (sampleTerms.expected role)) = true := by
  cases role <;> decide +kernel

/-- The fields of an attestation that are read as they stand. -/
theorem sampleFields_read (role : SourceRole) :
    let code := FailureCode.sourceAttestationInvalid
    let fields : Record := sampleAttestationFields role
    (Intent.canonicalTime (fields.get "observedAt") code).toOption = some sampleObservedAt ∧
      (Intent.canonicalTime (fields.get "assessedAt") code).toOption = some sampleAssessedAt ∧
      (Intent.digest (fields.get "transactionEvidenceSha256") code).toOption =
        some (sampleHex 'a') ∧
      (Intent.digest (fields.get "attestationSha256") code).toOption =
        some (sampleAttestationSha256 role) := by
  cases role <;> (set_option maxRecDepth 4000 in decide)

theorem sampleFields_finding (role : SourceRole) :
    let fields : Record := sampleAttestationFields role
    (fields.get "observationId").isText sampleObservationId = true ∧
      Lifecycle.reconciliationOutcomes.find? (fun o => (fields.get "outcome").isText o.text) =
        some .reorgedOut ∧
      fields.get "effectEvidenceSha256" = .null ∧ fields.get "failureEvidenceSha256" = .null := by
  cases role <;> exact ⟨by decide, by decide, rfl, rfl⟩

theorem sampleFields_header (role : SourceRole) :
    let fields : Record := sampleAttestationFields role
    ¬(!(fields.get "sourceVersion").isNumber 1 || !(fields.get "use").isText
        "DORMANT_MAINNET_FINANCIAL_ACTION_FINALITY_EVIDENCE_SOURCE_ATTESTATION_ONLY" ||
      !(fields.get "purpose").isText "RECONCILIATION_ADMISSION" ||
      !JsReading.isFalse (fields.get "mayAuthorizeFinancialAction") ||
      !JsReading.isFalse (fields.get "mayPersist")) = true := by
  cases role <;> (set_option maxRecDepth 4000 in decide)

theorem sample_commonAttestation (ht : IsReadable .eip155 t) {role : SourceRole} {r : Record}
    (hr : IsSampleRecord t role r) : commonAttestation sampleIsAddress r
      (sampleCapability t.position.text t.blockId role).reference (sampleBinding role)
      (samplePrerequisiteAt t) sampleEvaluatedAt sampleCompletedAt =
        .ok (sampleAttestation t role).toCommonAttestation := by
  have hcode := ht .sourceAttestationInvalid
  obtain ⟨hobserved, hassessed, hevidence, hattestation⟩ := sampleFields_read role
  have hmatches := sampleRecord_matches role
  rw [Bool.and_eq_true] at hmatches
  have hchain : chainFacts .sourceAttestationInvalid .eip155 r = .ok (samplePrerequisiteAt t).chain :=
    chainFacts_sample ht _ hr.chainAnchor hr.agreedFinalizedHead
  refine except_bind_ok.mpr ⟨some t.position, ?_, ?_⟩
  · rw [hr.transactionPosition]
    exact congrArg (Except.map some) hcode.1
  refine except_bind_ok.mpr ⟨some t.blockId, ?_, ?_⟩
  · rw [hr.transactionBlockId]
    exact congrArg (Except.map some) hcode.2
  refine except_bind_ok.mpr ⟨(sampleAttestation t role).observedAt, ?_, ?_⟩
  · rw [hr.same _ (by decide)]
    exact toOption_eq_some.mp hobserved
  refine except_bind_ok.mpr ⟨(sampleAttestation t role).assessedAt, ?_, ?_⟩
  · rw [hr.same _ (by decide)]
    exact toOption_eq_some.mp hassessed
  refine except_bind_ok.mpr ⟨(), failWhen_ok.mpr ?_, ?_⟩
  · rw [hr.same "sourceVersion" (by decide), hr.same "use" (by decide),
      hr.same "purpose" (by decide), hr.same "mayAuthorizeFinancialAction" (by decide),
      hr.same "mayPersist" (by decide)]
    exact sampleFields_header role
  refine except_bind_ok.mpr ⟨(), failWhen_ok.mpr ?_, ?_⟩
  · rw [matchesFacts_congr hr.same]
    exact fun h => Bool.false_ne_true ((Bool.not_eq_true' _ ▸ h).symm.trans hmatches.1)
  refine except_bind_ok.mpr ⟨(), failWhen_ok.mpr ?_, ?_⟩
  · exact not_not_intro (toOption_eq_some.mpr hchain)
  refine except_bind_ok.mpr ⟨(), failWhen_ok.mpr ?_, ?_⟩
  · rw [matchesSource_congr hr.same]
    exact fun h => Bool.false_ne_true ((Bool.not_eq_true' _ ▸ h).symm.trans hmatches.2)
  refine except_bind_ok.mpr ⟨some t, rfl, ?_⟩
  refine except_bind_ok.mpr ⟨(), failWhen_ok.mpr ?_, ?_⟩
  · simp only [sampleAttestation, sampleObservedAt, sampleAssessedAt, sampleEvaluatedAt,
      sampleCompletedAt]
    omega
  refine except_bind_ok.mpr ⟨t.position, ?_, ?_⟩
  · rw [hr.finalizedPosition]
    exact hcode.1
  refine except_bind_ok.mpr ⟨t.blockId, ?_, ?_⟩
  · rw [hr.finalizedBlockId]
    exact hcode.2
  refine except_bind_ok.mpr ⟨(sampleAttestation t role).transactionEvidenceSha256, ?_, ?_⟩
  · rw [hr.same _ (by decide)]
    exact toOption_eq_some.mp hevidence
  refine except_bind_ok.mpr ⟨(sampleAttestation t role).attestationSha256, ?_, rfl⟩
  rw [hr.same _ (by decide)]
  exact toOption_eq_some.mp hattestation

theorem sample_attestation (ht : IsReadable .eip155 t) (role : SourceRole) :
    attestation sampleIsAddress (sampleCapability t.position.text t.blockId role)
      (sampleBinding role) (samplePrerequisiteAt t) sampleEvaluatedAt sampleCompletedAt =
        .ok (sampleAttestation t role) := by
  obtain ⟨r, hread, hr⟩ := sampleCapability_record t role
  obtain ⟨hobservation, houtcome, heffect, hfailure⟩ := sampleFields_finding role
  refine except_bind_ok.mpr ⟨r, orFail_ok.mpr hread, ?_⟩
  refine except_bind_ok.mpr ⟨_, sample_commonAttestation ht hr, ?_⟩
  refine except_bind_ok.mpr ⟨(), failWhen_ok.mpr ?_, ?_⟩
  · rw [hr.same _ (by decide), hobservation]
    exact Bool.false_ne_true
  refine except_bind_ok.mpr ⟨.reorgedOut, orFail_ok.mpr ?_, ?_⟩
  · rw [hr.same _ (by decide)]
    exact houtcome
  refine except_bind_ok.mpr ⟨none, ?_, ?_⟩
  · rw [hr.same _ (by decide), heffect]
    rfl
  refine except_bind_ok.mpr ⟨none, ?_, ?_⟩
  · rw [hr.same _ (by decide), hfailure]
    rfl
  refine except_bind_ok.mpr ⟨(), failWhen_ok.mpr ?_, ?_⟩
  · simp [outcomeMismatch, isFinalizedOutcome, sampleAttestation]
  refine except_bind_ok.mpr ⟨(), failWhen_ok.mpr ?_, rfl⟩
  simp [anchorFacts, sampleAttestation, samplePrerequisiteAt, sampleTerms]

def sampleEvidence (t : ChainPointer) : Evidence where
  attestation := sampleAttestation t
  completedAt := sampleCompletedAt

theorem sampleEvidence_current {checkedAt : Int} (h : checkedAt = sampleCompletedAt) :
    ensureEvidenceCurrent .eip155 sampleObservedAt.milliseconds checkedAt = .ok () := by
  apply failWhen_ok.mpr
  simp only [h, sampleCompletedAt, evidenceLifetime, sampleObservedAt]
  omega

theorem sample_collect (ht : IsReadable .eip155 t) {s : State} (hs : s.aborted = []) :
    collect sampleConfiguration s (sampleProduction t)
      (fun role => some (sampleCapability t.position.text t.blockId role)) (fun _ _ _ => true)
      (some sampleCompletedAt) = .ok (sampleEvidence t) := by
  refine except_bind_ok.mpr ⟨sampleCompletedAt, rfl, ?_⟩
  refine except_bind_ok.mpr ⟨(), samplePrerequisite_current hs (by decide) (by decide), ?_⟩
  refine except_bind_ok.mpr ⟨(), failWhen_ok.mpr (show ¬sampleCompletedAt < sampleEvaluatedAt by
    decide), ?_⟩
  refine except_bind_ok.mpr ⟨_, rfl, ?_⟩
  refine except_bind_ok.mpr ⟨_, rfl, ?_⟩
  refine except_bind_ok.mpr ⟨(), failWhen_ok.mpr Bool.false_ne_true, ?_⟩
  refine except_bind_ok.mpr ⟨(), failWhen_ok.mpr (show ¬10 = 11 by decide), ?_⟩
  refine except_bind_ok.mpr ⟨_, sample_attestation ht .primary, ?_⟩
  refine except_bind_ok.mpr ⟨_, sample_attestation ht .corroborating, ?_⟩
  refine except_bind_ok.mpr ⟨(), failWhen_ok.mpr ?_, ?_⟩
  · have hne : sampleAttestationSha256 .primary ≠ sampleAttestationSha256 .corroborating := by
      set_option maxRecDepth 4000 in decide
    simpa [sameFacts, sampleAttestation, sameFinding] using hne
  refine except_bind_ok.mpr ⟨(), sampleEvidence_current rfl, ?_⟩
  refine except_bind_ok.mpr ⟨(), sampleEvidence_current rfl, congrArg Except.ok ?_⟩
  rw [sampleEvidence, Evidence.mk.injEq]
  exact ⟨funext fun role => by cases role <;> rfl, rfl⟩

theorem sample_issue {s : State} (hs : s.aborted = []) :
    ∃ i, issue sampleConfiguration s (sampleProduction t) (sampleEvidence t)
      (some sampleCompletedAt) = .ok i := by
  apply except_bind_isOk ⟨_, rfl⟩
  intro candidate
  apply except_bind_exists rfl
  apply except_bind_exists (samplePrerequisite_current hs (by decide) (by decide))
  apply except_bind_exists (sampleEvidence_current rfl)
  exact except_bind_exists ((failWhen_ok (u := ())).mpr (lt_irrefl _)) ⟨_, rfl⟩

/-- The sample's run ends with a candidate. -/
theorem sample_run (ht : IsReadable .eip155 t) : ∃ s i, i ∈ s.issued ∧
    FinalitySoundness.IsIssued sampleConfiguration (sampleProduction t) (sampleEvidence t) i ∧
    runEvents sampleConfiguration (sampleEvents t.position.text t.blockId) = some s := by
  let s₁ : State := ({ started := 1 } : State).withCall 0 (some (.reading (sampleProduction t)))
  let s₂ : State := s₁.withCall 0 (some (.collected (sampleProduction t) (sampleEvidence t)))
  obtain ⟨i, hi⟩ := @sample_issue t s₂ rfl
  let s₃ : State := { s₂.withCall 0 none with issued := [i] }
  have hproduce : step sampleConfiguration {} (.produce 0 .reconciliationAdmission sampleRequest
      (some (samplePrerequisite t.position.text t.blockId)) (some sampleEvaluatedAt)) =
        some s₁ := by
    rw [step, if_pos rfl, sample_produce ht]
    rfl
  have hsettle : step sampleConfiguration s₁ (.settle 0
      (fun role => some (sampleCapability t.position.text t.blockId role)) (fun _ _ _ => true)
      (some sampleCompletedAt)) = some s₂ := by
    have hcall : s₁.calls 0 = some (.reading (sampleProduction t)) := rfl
    simp only [step, hcall, sample_collect ht (show s₁.aborted = [] from rfl)]
    rfl
  have hissue : step sampleConfiguration s₂ (.issue 0 (some sampleCompletedAt)) = some s₃ := by
    have hcall : s₂.calls 0 = some (.collected (sampleProduction t) (sampleEvidence t)) := rfl
    simp only [step, hcall, hi]
    rfl
  refine ⟨s₃, i, List.mem_singleton_self i, (issue_ok hi).2, ?_⟩
  simp only [runEvents, sampleEvents, Events.run, hproduce, hsettle, hissue, Option.bind_some]

end SampleRun

section Agreement

variable {f : OutcomeFacts} {t : ChainPointer}

/-- A reorg is issued when the finalized head is the block of the transaction. -/
theorem isIssued_of_ownBlock (hnetwork : f.networkId = .eip155) (houtcome : f.outcome = .reorgedOut)
    (heffect : f.effect = false) (hfailure : f.failure = false)
    (ht : f.transaction = some f.finalized) : IsIssued f := by
  have hreadable : IsReadable .eip155 f.finalized := hnetwork ▸ f.readable _ (.inl rfl)
  obtain ⟨s, i, hi, hissued, hrun⟩ := sample_run hreadable
  have hcandidate := hissued.candidate
  cases hc : i.candidate with
  | postFinalityReview args => rw [hc] at hcandidate; cases hcandidate
  | reconciliationAdmission args =>
    rw [hc] at hcandidate
    obtain ⟨_, effect, failure, _, hfinding, htransaction, hfinalized, heffect', hfailure'⟩ :=
      candidateOf_ok hcandidate
    obtain ⟨houtcome', rfl, rfl⟩ := Finding.reconciliation.inj hfinding
    refine ⟨_, _, s, i, args, hrun, hi, hc, hissued.networkId.trans hnetwork.symm,
      houtcome'.symm.trans houtcome.symm, htransaction.trans ht.symm, hfinalized,
      heffect'.trans heffect.symm, hfailure'.trans hfailure.symm⟩

def sampleSnapshot : LifecycleSnapshot where
  stage := .broadcastOutcomeAmbiguous
  revision := 3
  previousSnapshotSha256 := some (sampleHex '2')
  transitionFingerprintSha256 := sampleHex '3'
  snapshotSha256 := sampleHex '4'
  intentFingerprintSha256 := sampleHex '1'
  intent := {
    intentId := sampleTerms.facts.intentId
    accountId := sampleTerms.facts.accountId
    walletRegistrationId := sampleTerms.facts.walletRegistrationId
    replayProtectionId := sampleTerms.facts.correlationId
    idempotencyKeyDigestSha256 := sampleHex '5'
    networkId := .eip155
    walletAddress := sampleTerms.facts.walletAddress
    providerId := .aave
    protocolId := .aaveV3
    marketId := sampleTerms.facts.marketId
    assetRegistryVersion := 1
    assetRegistryFingerprintSha256 := sampleTerms.facts.assets.assetRegistryFingerprintSha256
    assetSymbol := .usdc
    assetIdentity := sampleTerms.facts.assets.assetIdentity
    assetDecimals := 6
    action := .supply
    amountAtomic := "1000000"
    requestedValueUsdMicros := "1000000"
    maximumNetworkFeeAtomic := "1000"
    maximumNetworkFeeBasisPoints := 10
    minimumPostActionNativeBalanceAtomic := "1000"
    allowanceAmountAtomic := "1000000"
    issuedAt := sampleTerms.verifiedAt
    expiresAt := sampleTerms.chainAnchorEvidenceExpiresAt }
  identities := ⟨"wallet", "market", "asset"⟩
  submission := none
  broadcastObservation := none
  reconciliation := none
  terminal := false
  requiresManualReconciliation := true

/-- The record of an intent whose transaction was last seen at a pointer. -/
def sampleLifecycle (t : ChainPointer) : LifecycleRecord :=
  { LifecycleRecord.ofPrepared sampleSnapshot with lastTransaction := some t }

/-- A reorg of a transaction at a pointer, with a finalized head. -/
def sampleReorg (t head : ChainPointer) : Reconciliation where
  observationId := sampleObservationId
  intentId := sampleTerms.facts.intentId
  submissionFingerprintSha256 := sampleHex '6'
  networkId := .eip155
  transactionId := sampleTerms.facts.transactionId
  outcome := .reorgedOut
  transaction := some t
  finalized := head
  effectEvidenceSha256 := none
  failureEvidenceSha256 := none
  sourceEvidenceSha256 := sampleHex '7'
  observedAt := sampleObservedAt

/-- The lifecycle accepts a reorg of the transaction that was last seen, at its height too. -/
theorem sampleReorg_accepted {head : ChainPointer} (h : t.position.value ≤ head.position.value) :
    LifecycleAccepts (sampleLifecycle t) (sampleReorg t head) where
  fits := by
    have hlt : ¬head.position.value < t.position.value := by omega
    simp [Reconciliation.isMisshapen, sampleReorg, hlt]
  consistent := rfl
  reorg _ last hlast := hlast

/-- The producer and the lifecycle agree about an outcome exactly when it is not a reorg at the
height of the finalized head. -/
theorem outcomesAgree_iff (f : OutcomeFacts) : OutcomesAgree f ↔ ¬IsSameHeightReorg f := by
  constructor
  · rintro h ⟨hnetwork, houtcome, heffect, hfailure, t, ht, hposition⟩
    by_cases hblock : f.finalized.blockId = t.blockId
    · have hown : f.finalized = t := ChainPointer.ext_text (congrArg (·.text) hposition) hblock
      rw [← hown] at ht
      exact h.ownBlock hnetwork houtcome ht
        (isIssued_of_ownBlock hnetwork houtcome heffect hfailure ht)
    · have haccepted : LifecycleAccepts (sampleLifecycle t) (sampleReorg t f.finalized) :=
        sampleReorg_accepted (by rw [hposition])
      have hattested := h.reorg hnetwork houtcome t ht hposition hblock (sampleLifecycle t)
        (sampleReorg t f.finalized) rfl
        ⟨hnetwork.symm, houtcome.symm, ht.symm, rfl, heffect.symm, hfailure.symm⟩ haccepted
      exact hblock (oneBlock_of_passes hattested.passes hnetwork (by rw [houtcome]; rfl) ht hposition)
  · intro h
    have hreorg : PassesTable f → f.networkId = .eip155 → f.outcome = .reorgedOut →
        ∀ t, f.transaction = some t → f.finalized.position ≠ t.position := by
      intro hpasses hnetwork houtcome t ht hposition
      obtain ⟨heffect, hfailure⟩ := reorg_evidence_of_passes hpasses houtcome
      exact h ⟨hnetwork, houtcome, heffect, hfailure, t, ht, hposition⟩
    refine ⟨fun hissued x hx heffect hfailure => ?_, fun hissued hnetwork _ t ht hposition => ?_,
      fun hnetwork houtcome t ht hposition _ record x _ hx haccepted => ?_,
      fun hnetwork houtcome ht hissued => ?_⟩
    · exact fits_of_passes hissued.isAttested.passes hx heffect hfailure
    · have hpasses := hissued.isAttested.passes
      exact oneBlock_of_passes hpasses hnetwork (isFinalizedOutcome_of_passes hpasses ht hposition)
        ht hposition
    · have hevidence : x.effectEvidenceSha256.isSome = false ∧
          x.failureEvidenceSha256.isSome = false := by
        have hfits := haccepted.fits
        simp only [Reconciliation.isMisshapen, Bool.or_eq_false_iff] at hfits
        have hlast := hfits.1.1.2
        rw [hx.outcome_eq, houtcome] at hlast
        simpa using hlast
      exact absurd ⟨hnetwork, houtcome, hx.effect_eq.symm.trans hevidence.1,
        hx.failure_eq.symm.trans hevidence.2, t, ht, hposition⟩ h
    · exact hreorg hissued.isAttested.passes hnetwork houtcome f.finalized ht rfl

def sampleHead : ChainPointer := ⟨⟨"100", by decide⟩, "0x" ++ sampleHex 'a'⟩

theorem sampleHead_readable : IsReadable .eip155 sampleHead := by
  have h : ∀ code ∈ [FailureCode.invalidConfiguration, .invalidRequest, .prerequisiteUnavailable,
      .sourceUnavailable, .sourceAttestationInvalid, .sourceDisagreement, .staleEvidence],
      (canonicalUint64 (.string sampleHead.position.text) code).toOption =
          some sampleHead.position ∧
        (chainIdentity code .eip155 (.string sampleHead.blockId) .block).toOption =
          some sampleHead.blockId := by decide
  intro code
  have hcode := h code (by cases code <;> decide)
  exact ⟨toOption_eq_some.mp hcode.1, toOption_eq_some.mp hcode.2⟩

/-- A transaction in the finalized head is said to be reorged out. -/
def sampleOwnBlock : OutcomeFacts where
  networkId := .eip155
  outcome := .reorgedOut
  transaction := some sampleHead
  finalized := sampleHead
  effect := false
  failure := false
  readable := by
    rintro p (rfl | h)
    · exact sampleHead_readable
    · exact Option.some.inj h ▸ sampleHead_readable

theorem sampleOwnBlock_disagrees : ¬OutcomesAgree sampleOwnBlock :=
  fun h => h.ownBlock rfl rfl rfl (isIssued_of_ownBlock rfl rfl rfl rfl rfl)

end Agreement

end CryptoLending.MainnetActions.ReorgAgreement
