import CryptoLending.MainnetActions.Lifecycle

namespace CryptoLending.MainnetActions.LifecycleSteps

open Lib Lib.JsValue Lib.Transaction Intent LifecycleData Lifecycle

theorem returns_refuseWhen {c : Prop} [Decidable c] {code : LifecycleErrorCode} {u : Unit}
    {s s' : State} : Returns (refuseWhen c code) s u s' ↔ ¬c ∧ s = s' := by
  rw [refuseWhen, returns_lift, failWhen_ok]

theorem exec_refuseWhen {c : Prop} [Decidable c] (h : c) (code : LifecycleErrorCode) (s : State) :
    (refuseWhen c code).exec s = (.error (.lifecycle code), s) := by
  rw [refuseWhen, exec_lift, failWhen_error.mpr ⟨h, rfl⟩]

theorem returns_orRefuse {α : Type} {o : Option α} {code : LifecycleErrorCode} {a : α}
    {s s' : State} : Returns (orRefuse o code) s a s' ↔ o = some a ∧ s = s' := by
  rw [orRefuse, returns_lift, orFail_ok]

theorem returns_recordFor {intentId : String} {record : LifecycleRecord} {s s' : State} :
    Returns (recordFor (.string intentId)) s record s' ↔
      s.records.get intentId = some record ∧ s = s' := by
  simp only [recordFor, returns_bind, returns_orRefuse, returns_get, Value.string?]
  constructor
  · rintro ⟨_, _, ⟨h, rfl⟩, _, _, ⟨rfl, rfl⟩, hr⟩
    cases h
    exact hr
  · exact fun hr => ⟨_, s, ⟨rfl, rfl⟩, _, s, ⟨rfl, rfl⟩, hr⟩

/-- Every digest that has an owner is owned by the claim made on it. -/
def Available (s : State) (claims : List EvidenceDigestClaim) : Prop :=
  ∀ claim ∈ claims, ∀ owner, s.evidenceDigestOwners.get claim.digest = some owner →
    owner = claim.owner

theorem returns_assertEvidenceDigestsAvailable {claims : List EvidenceDigestClaim} {u : Unit}
    {s s' : State} : Returns (assertEvidenceDigestsAvailable claims) s u s' ↔
      Available s claims ∧ s = s' := by
  simp only [assertEvidenceDigestsAvailable, returns_bind, returns_get, returns_refuseWhen,
    List.any_eq_true, Option.any_eq_true, bne_iff_ne]
  constructor
  · rintro ⟨_, _, ⟨rfl, rfl⟩, h, rfl⟩
    refine ⟨fun claim hc owner ho => ?_, rfl⟩
    by_contra hne
    exact h ⟨claim, hc, owner, ho, hne⟩
  · rintro ⟨h, rfl⟩
    refine ⟨s, s, ⟨rfl, rfl⟩, ?_, rfl⟩
    rintro ⟨claim, hc, owner, ho, hne⟩
    exact hne (h claim hc owner ho)

theorem not_any_ne {o : Option String} {a : String} :
    ¬(o.any (· != a)) = true ↔ ∀ b, o = some b → b = a := by
  simp [Option.any_eq_true]

/-- What a snapshot made for a record holds. -/
structure Made (record : Option LifecycleRecord)
    (intent : DormantMainnetFinancialActionIntent) (intentDigest : String) (stage : LifecycleStage)
    (transitionDigest : String) (submission : Option SubmissionBinding)
    (broadcastObservation : Option WalletBroadcastObservation)
    (reconciliation : Option ReconciliationObservation) (snapshot : LifecycleSnapshot) : Prop where
  stage_eq : snapshot.stage = stage
  revision_eq : snapshot.revision = (record.map (·.current.revision)).getD 0 + 1
  previous_eq : snapshot.previousSnapshotSha256 = record.map (·.current.snapshotSha256)
  transition_eq : snapshot.transitionFingerprintSha256 = transitionDigest
  digest_eq : snapshot.intentFingerprintSha256 = intentDigest
  intent_eq : snapshot.intent = intent
  submission_eq : snapshot.submission = submission
  broadcast_eq : snapshot.broadcastObservation = broadcastObservation
  reconciliation_eq : snapshot.reconciliation = reconciliation
  terminal_eq : snapshot.terminal = isTerminalStage stage

section Steps

variable (P : Platform)

theorem makeSnapshot_made {record : Option LifecycleRecord}
    {intent : DormantMainnetFinancialActionIntent} {intentDigest transitionDigest : String}
    {stage : LifecycleStage} {submission : Option SubmissionBinding}
    {broadcastObservation : Option WalletBroadcastObservation}
    {reconciliation : Option ReconciliationObservation} {snapshot : LifecycleSnapshot}
    (h : makeSnapshot P record intent intentDigest stage transitionDigest submission
      broadcastObservation reconciliation = .ok snapshot) :
    Made record intent intentDigest stage transitionDigest submission broadcastObservation
      reconciliation snapshot := by
  simp only [makeSnapshot, except_bind_ok, except_pure_ok] at h
  obtain ⟨_, _, rfl⟩ := h
  exact ⟨rfl, rfl, rfl, rfl, rfl, rfl, rfl, rfl, rfl, rfl⟩

/-- A submission read in a state: its record and the server time. -/
structure ReadsSubmission (s : State) (value now : Value) (record : LifecycleRecord)
    (x : WalletSignedSubmission) (time : Int) : Prop where
  found : s.records.get x.intentId = some record
  reads : ∃ input, exactDataRecord value submissionKeys = some input ∧
    (input.get "schemaVersion").isNumber 1 = true ∧
    uuid (input.get "intentId") (Failure.lifecycle .invalidSubmissionInput) = .ok x.intentId ∧
    parseSubmission P record.current input x.intentId now = .ok (x, time)

structure ReadsBroadcast (s : State) (value now : Value) (record : LifecycleRecord)
    (submission : SubmissionBinding) (x : WalletBroadcast) (time : Int) : Prop where
  found : s.records.get x.intentId = some record
  reads : ∃ input, exactDataRecord value broadcastKeys = some input ∧
    (input.get "schemaVersion").isNumber 1 = true ∧
    uuid (input.get "intentId") (Failure.lifecycle .invalidBroadcastObservationInput) =
      .ok x.intentId ∧
    uuid (input.get "observationId") (Failure.lifecycle .invalidBroadcastObservationInput) =
      .ok x.observationId ∧
    parseBroadcast record.current input x.observationId x.intentId now = .ok (submission, x, time)

structure ReadsReconciliation (s : State) (value now : Value) (record : LifecycleRecord)
    (submission : SubmissionBinding) (x : Reconciliation) : Prop where
  found : s.records.get x.intentId = some record
  reads : ∃ input, exactDataRecord value reconciliationKeys = some input ∧
    (input.get "schemaVersion").isNumber 1 = true ∧
    uuid (input.get "intentId") (Failure.lifecycle .invalidReconciliationObservationInput) =
      .ok x.intentId ∧
    uuid (input.get "observationId") (Failure.lifecycle .invalidReconciliationObservationInput) =
      .ok x.observationId ∧
    parseReconciliation record.current input x.observationId x.intentId now = .ok (submission, x)

theorem parseSubmission_intentId {current : LifecycleSnapshot} {input : Record} {intentId : String}
    {now : Value} {x : WalletSignedSubmission} {time : Int}
    (h : parseSubmission P current input intentId now = .ok (x, time)) : x.intentId = intentId := by
  simp only [parseSubmission, submissionFields, except_bind_ok, except_pure_ok,
    Prod.mk.injEq] at h
  obtain ⟨_, ⟨_, _, _, _, _, _, _, _, _, _, _, _, _, _, _, _, _, _, rfl⟩, _, _, rfl, _⟩ := h
  rfl

theorem submissionFields_distinct {current : LifecycleSnapshot} {input : Record} {intentId : String}
    {x : WalletSignedSubmission} (h : submissionFields P current input intentId = .ok x) :
    x.walletSignedPayloadSha256 ≠ x.walletSignatureEvidenceSha256 := by
  simp only [submissionFields, except_bind_ok, failWhen_ok, except_pure_ok] at h
  obtain ⟨_, _, _, _, _, _, _, _, _, _, _, _, _, _, _, hne, _, _, rfl⟩ := h
  exact hne

theorem submissionFields_digest {current : LifecycleSnapshot} {input : Record} {intentId : String}
    {x : WalletSignedSubmission} (h : submissionFields P current input intentId = .ok x) :
    x.intentFingerprintSha256 = current.intentFingerprintSha256 := by
  simp only [submissionFields, except_bind_ok, failWhen_ok, except_pure_ok, not_or, not_not] at h
  obtain ⟨_, _, _, ⟨hd, _⟩, _, _, _, _, _, _, _, _, _, _, _, _, _, _, rfl⟩ := h
  exact hd

theorem parseSubmission_fields {current : LifecycleSnapshot} {input : Record} {intentId : String}
    {now : Value} {x : WalletSignedSubmission} {time : Int}
    (h : parseSubmission P current input intentId now = .ok (x, time)) :
    submissionFields P current input intentId = .ok x := by
  simp only [parseSubmission, except_bind_ok, except_pure_ok, Prod.mk.injEq] at h
  obtain ⟨_, hf, _, _, rfl, _⟩ := h
  exact hf

theorem broadcastFields_ids {current : LifecycleSnapshot} {input : Record}
    {observationId intentId : String} {submission : SubmissionBinding} {x : WalletBroadcast}
    (h : broadcastFields current input observationId intentId = .ok (submission, x)) :
    x.observationId = observationId ∧ x.intentId = intentId := by
  simp only [broadcastFields, except_bind_ok, except_pure_ok, Prod.mk.injEq] at h
  obtain ⟨_, _, _, _, _, _, _, _, _, rfl⟩ := h
  exact ⟨rfl, rfl⟩

theorem reconciliationFields_ids {current : LifecycleSnapshot} {input : Record}
    {observationId intentId : String} {submission : SubmissionBinding} {x : Reconciliation}
    (h : reconciliationFields current input observationId intentId = .ok (submission, x)) :
    x.observationId = observationId ∧ x.intentId = intentId := by
  simp only [reconciliationFields, except_bind_ok, except_pure_ok, Prod.mk.injEq] at h
  obtain ⟨_, _, _, _, _, _, _, _, _, _, _, _, _, _, _, _, _, _, _, _, _, _, _, rfl⟩ := h
  exact ⟨rfl, rfl⟩

theorem returns_readSubmission {s s' : State} {value now : Value} {record : LifecycleRecord}
    {x : WalletSignedSubmission} {time : Int} :
    Returns (readSubmission P value now) s (record, x, time) s' ↔
      ReadsSubmission P s value now record x time ∧ s = s' := by
  simp only [readSubmission, returns_bind, returns_orRefuse, returns_refuseWhen, returns_lift,
    returns_recordFor, returns_pure, Prod.mk.injEq, Bool.not_eq_true', Bool.not_eq_false]
  constructor
  · rintro ⟨input, _, ⟨hi, rfl⟩, _, _, ⟨hv, rfl⟩, intentId, _, ⟨hid, rfl⟩, _, _, ⟨hr, rfl⟩, ⟨_, _⟩, _,
      ⟨hp, rfl⟩, ⟨rfl, rfl, rfl⟩, rfl⟩
    obtain rfl := parseSubmission_intentId P hp
    exact ⟨⟨hr, input, hi, hv, hid, hp⟩, rfl⟩
  · rintro ⟨⟨hr, input, hi, hv, hid, hp⟩, rfl⟩
    exact ⟨input, s, ⟨hi, rfl⟩, ⟨⟩, s, ⟨hv, rfl⟩, _, s, ⟨hid, rfl⟩, record, s, ⟨hr, rfl⟩, (x, time), s,
      ⟨hp, rfl⟩, ⟨rfl, rfl, rfl⟩, rfl⟩

theorem parseBroadcast_fields {current : LifecycleSnapshot} {input : Record}
    {observationId intentId : String} {now : Value} {submission : SubmissionBinding}
    {x : WalletBroadcast} {time : Int}
    (h : parseBroadcast current input observationId intentId now = .ok (submission, x, time)) :
    broadcastFields current input observationId intentId = .ok (submission, x) := by
  simp only [parseBroadcast, except_bind_ok, except_pure_ok, Prod.mk.injEq] at h
  obtain ⟨⟨_, _⟩, hf, _, _, _, _, rfl, rfl, rfl⟩ := h
  exact hf

theorem parseReconciliation_fields {current : LifecycleSnapshot} {input : Record}
    {observationId intentId : String} {now : Value} {submission : SubmissionBinding}
    {x : Reconciliation}
    (h : parseReconciliation current input observationId intentId now = .ok (submission, x)) :
    reconciliationFields current input observationId intentId = .ok (submission, x) := by
  simp only [parseReconciliation, except_bind_ok, except_pure_ok, Prod.mk.injEq] at h
  obtain ⟨⟨_, _⟩, hf, _, _, _, _, _, _, _, _, _, _, rfl, rfl⟩ := h
  exact hf

theorem parseReconciliation_shape {current : LifecycleSnapshot} {input : Record}
    {observationId intentId : String} {now : Value} {submission : SubmissionBinding}
    {x : Reconciliation}
    (h : parseReconciliation current input observationId intentId now = .ok (submission, x)) :
    x.isMisshapen = false := by
  simp only [parseReconciliation, except_bind_ok, failWhen_ok, except_pure_ok, Prod.mk.injEq] at h
  obtain ⟨⟨_, _⟩, _, _, _, _, _, _, _, _, _, _, hs, rfl, rfl⟩ := h
  exact Bool.not_eq_true _ ▸ hs

theorem assertContext_submission {current : LifecycleSnapshot} {input : Record} {code : Failure}
    {submission : SubmissionBinding} {transactionId : String}
    (h : assertContext current input code = .ok (submission, transactionId)) :
    current.submission = some submission := by
  simp only [assertContext, except_bind_ok, orFail_ok, except_pure_ok, Prod.mk.injEq] at h
  obtain ⟨_, _, _, hs, _, _, _, _, _, _, rfl, _⟩ := h
  exact hs

theorem broadcastFields_submission {current : LifecycleSnapshot} {input : Record}
    {observationId intentId : String} {submission : SubmissionBinding} {x : WalletBroadcast}
    (h : broadcastFields current input observationId intentId = .ok (submission, x)) :
    current.submission = some submission := by
  simp only [broadcastFields, except_bind_ok, except_pure_ok, Prod.mk.injEq] at h
  obtain ⟨⟨_, _⟩, hc, _, _, _, _, _, _, rfl, _⟩ := h
  exact assertContext_submission hc

theorem returns_readBroadcast {s s' : State} {value now : Value} {record : LifecycleRecord}
    {submission : SubmissionBinding} {x : WalletBroadcast} {time : Int} :
    Returns (readBroadcast value now) s (record, submission, x, time) s' ↔
      ReadsBroadcast s value now record submission x time ∧ s = s' := by
  simp only [readBroadcast, returns_bind, returns_orRefuse, returns_refuseWhen, returns_lift,
    returns_recordFor, returns_pure, Prod.mk.injEq, Bool.not_eq_true', Bool.not_eq_false]
  constructor
  · rintro ⟨input, _, ⟨hi, rfl⟩, _, _, ⟨hv, rfl⟩, _, _, ⟨hid, rfl⟩, _, _, ⟨ho, rfl⟩, _, _, ⟨hr, rfl⟩,
      ⟨_, _, _⟩, _, ⟨hp, rfl⟩, ⟨rfl, rfl, rfl, rfl⟩, rfl⟩
    obtain ⟨rfl, rfl⟩ := broadcastFields_ids (parseBroadcast_fields hp)
    exact ⟨⟨hr, input, hi, hv, hid, ho, hp⟩, rfl⟩
  · rintro ⟨⟨hr, input, hi, hv, hid, ho, hp⟩, rfl⟩
    exact ⟨input, s, ⟨hi, rfl⟩, ⟨⟩, s, ⟨hv, rfl⟩, _, s, ⟨hid, rfl⟩, _, s, ⟨ho, rfl⟩, record, s, ⟨hr, rfl⟩,
      (submission, x, time), s, ⟨hp, rfl⟩, ⟨rfl, rfl, rfl, rfl⟩, rfl⟩

theorem returns_readReconciliation {s s' : State} {value now : Value} {record : LifecycleRecord}
    {submission : SubmissionBinding} {x : Reconciliation} :
    Returns (readReconciliation value now) s (record, submission, x) s' ↔
      ReadsReconciliation s value now record submission x ∧ s = s' := by
  simp only [readReconciliation, returns_bind, returns_orRefuse, returns_refuseWhen, returns_lift,
    returns_recordFor, returns_pure, Prod.mk.injEq, Bool.not_eq_true', Bool.not_eq_false]
  constructor
  · rintro ⟨input, _, ⟨hi, rfl⟩, _, _, ⟨hv, rfl⟩, _, _, ⟨hid, rfl⟩, _, _, ⟨ho, rfl⟩, _, _, ⟨hr, rfl⟩,
      ⟨_, _⟩, _, ⟨hp, rfl⟩, ⟨rfl, rfl, rfl⟩, rfl⟩
    obtain ⟨rfl, rfl⟩ := reconciliationFields_ids (parseReconciliation_fields hp)
    exact ⟨⟨hr, input, hi, hv, hid, ho, hp⟩, rfl⟩
  · rintro ⟨⟨hr, input, hi, hv, hid, ho, hp⟩, rfl⟩
    exact ⟨input, s, ⟨hi, rfl⟩, ⟨⟩, s, ⟨hv, rfl⟩, _, s, ⟨hid, rfl⟩, _, s, ⟨ho, rfl⟩, record, s, ⟨hr, rfl⟩,
      (submission, x), s, ⟨hp, rfl⟩, ⟨rfl, rfl, rfl⟩, rfl⟩

/-- What a call that returns did: it recorded something new, with every guard it passed, or it
found what it was to record and left the state as it was. -/
inductive Step (s : State) : Call → LifecycleSnapshot → State → Prop
  | prepared {input now : Value} {intent : DormantMainnetFinancialActionIntent}
      {snapshot : LifecycleSnapshot} (parsed : parseIntent P input now = .ok intent)
      (fresh : s.records.get intent.intentId = none)
      (idempotency : ∀ d, s.idempotencyOwners.get (idempotencyScope intent) = some d →
        d = intentFingerprint P intent)
      (replayProtection : ∀ d, s.replayProtectionOwners.get (replayProtectionScope intent) = some d →
        d = intentFingerprint P intent)
      (made : Made none intent (intentFingerprint P intent) .prepared (preparedFingerprint P intent)
        none none none snapshot) :
      Step s (.prepareIntent input now) snapshot
        (((s.setRecord intent.intentId (.ofPrepared snapshot)).ownIdempotency
          (idempotencyScope intent) (intentFingerprint P intent)).ownReplayProtection
          (replayProtectionScope intent) (intentFingerprint P intent))
  | preparedAgain {input now : Value} {intent : DormantMainnetFinancialActionIntent}
      {record : LifecycleRecord} (parsed : parseIntent P input now = .ok intent)
      (found : s.records.get intent.intentId = some record)
      (same : record.prepared.intentFingerprintSha256 = intentFingerprint P intent) :
      Step s (.prepareIntent input now) record.current s
  | bound {value now : Value} {record : LifecycleRecord} {x : WalletSignedSubmission} {time : Int}
      {snapshot : LifecycleSnapshot} (reads : ReadsSubmission P s value now record x time)
      (first : record.submissionReplay = none)
      (issued : record.current.intent.issuedAt.milliseconds ≤ x.signedAt.milliseconds)
      (signed : x.signedAt.milliseconds ≤ time)
      (live : time < record.current.intent.expiresAt.milliseconds)
      (stage : record.current.stage = .prepared)
      (owner : ∀ o, s.transactionOwners.get (chainQualified x.networkId x.transactionId) = some o →
        o = x.intentId)
      (available : Available s (x.evidenceClaims P))
      (made : Made (some record) record.current.intent x.intentFingerprintSha256
        .walletSignedSubmissionBound (x.fingerprint P) (some (x.binding P)) none none snapshot) :
      Step s (.bindWalletSignedSubmission value now) snapshot
        (((s.commitEvidence (x.evidenceClaims P)).setRecord x.intentId
          (record.withSubmission (x.fingerprint P) snapshot)).ownTransaction
          (chainQualified x.networkId x.transactionId) x.intentId)
  | boundAgain {value now : Value} {record : LifecycleRecord} {x : WalletSignedSubmission}
      {time : Int} {replay : Replay} (reads : ReadsSubmission P s value now record x time)
      (replayed : record.submissionReplay = some replay)
      (same : replay.fingerprint = x.fingerprint P) :
      Step s (.bindWalletSignedSubmission value now) record.current s
  | broadcast {value now : Value} {record : LifecycleRecord} {submission : SubmissionBinding}
      {x : WalletBroadcast} {time : Int} {snapshot : LifecycleSnapshot}
      (reads : ReadsBroadcast s value now record submission x time)
      (first : record.broadcastReplay = none)
      (signed : submission.signedAt.milliseconds ≤ x.observedAt.milliseconds)
      (observed : x.observedAt.milliseconds ≤ time)
      (live : time < record.current.intent.expiresAt.milliseconds)
      (stage : record.current.stage = .walletSignedSubmissionBound)
      (owner : ∀ o, s.observationOwners.get x.observationId = some o → o = x.intentId)
      (available : Available s (x.evidenceClaims P))
      (made : Made (some record) record.current.intent record.current.intentFingerprintSha256
        .broadcastOutcomeAmbiguous (x.fingerprint P) (some submission)
        (some ⟨x, submission.chainQualifiedTransactionId⟩) none snapshot) :
      Step s (.recordWalletBroadcastObservation value now) snapshot
        (((s.commitEvidence (x.evidenceClaims P)).setRecord x.intentId
          (record.withBroadcast x.observationId (x.fingerprint P) snapshot)).ownObservation
          x.observationId x.intentId)
  | broadcastAgain {value now : Value} {record : LifecycleRecord} {submission : SubmissionBinding}
      {x : WalletBroadcast} {time : Int} {replay : BroadcastReplay}
      (reads : ReadsBroadcast s value now record submission x time)
      (replayed : record.broadcastReplay = some replay)
      (observation : replay.observationId = x.observationId)
      (same : replay.fingerprint = x.fingerprint P) :
      Step s (.recordWalletBroadcastObservation value now) record.current s
  | reconciled {value now : Value} {record : LifecycleRecord} {submission : SubmissionBinding}
      {x : Reconciliation} {snapshot : LifecycleSnapshot}
      (reads : ReadsReconciliation s value now record submission x)
      (first : record.reconciliationReplays.get x.observationId = none)
      (owner : s.observationOwners.get x.observationId = none)
      (live : record.current.terminal = false)
      (stage : record.current.stage = .broadcastOutcomeAmbiguous ∨
        record.current.stage = .reconciliationAmbiguous)
      (later : ∀ last, record.lastReconciliationObservedAt = some last →
        last.milliseconds ≤ x.observedAt.milliseconds)
      (consistent : record.contradicts x = false)
      (reorged : x.outcome = .reorgedOut → ∀ last, record.lastTransaction = some last →
        x.transaction = some last)
      (available : Available s (x.evidenceClaims P))
      (made : Made (some record) record.current.intent record.current.intentFingerprintSha256
        x.outcome.stage (x.fingerprint P) record.current.submission
        record.current.broadcastObservation (some ⟨x, submission.chainQualifiedTransactionId⟩)
        snapshot) :
      Step s (.recordReconciliationObservation value now) snapshot
        (((s.commitEvidence (x.evidenceClaims P)).setRecord x.intentId
          (record.withReconciliation x (x.fingerprint P) snapshot)).ownObservation
          x.observationId x.intentId)
  | reconciledAgain {value now : Value} {record : LifecycleRecord} {submission : SubmissionBinding}
      {x : Reconciliation} {replay : Replay}
      (reads : ReadsReconciliation s value now record submission x)
      (replayed : record.reconciliationReplays.get x.observationId = some replay)
      (same : replay.fingerprint = x.fingerprint P) :
      Step s (.recordReconciliationObservation value now) record.current s
  | read {intentId : String} {record : LifecycleRecord}
      (found : s.records.get intentId = some record) :
      Step s (.readSnapshot (.string intentId)) record.current s

variable {P}

theorem prepareIntent_step {s s' : State} {input now : Value} {snapshot : LifecycleSnapshot}
    (h : Returns (prepareIntent P input now) s snapshot s') :
    Step P s (.prepareIntent input now) snapshot s' := by
  simp only [prepareIntent, returns_bind, returns_lift, returns_get] at h
  obtain ⟨intent, _, ⟨hp, rfl⟩, _, _, ⟨rfl, rfl⟩, h⟩ := h
  split at h
  · simp only [returns_bind, returns_refuseWhen, returns_pure, not_not] at h
    obtain ⟨_, _, ⟨hsame, rfl⟩, rfl, rfl⟩ := h
    exact .preparedAgain hp ‹_› hsame
  · simp only [prepareNew, returns_bind, returns_get, returns_refuseWhen, returns_lift,
      returns_modify, returns_pure, not_any_ne] at h
    obtain ⟨_, _, ⟨rfl, rfl⟩, _, _, ⟨hi, rfl⟩, _, _, ⟨hr, rfl⟩, _, _, ⟨hm, rfl⟩, _, _, rfl, _, _, rfl, _, _,
      rfl, rfl, rfl⟩ := h
    exact .prepared hp ‹_› hi hr (makeSnapshot_made P hm)

theorem bindWalletSignedSubmission_step {s s' : State} {value now : Value}
    {snapshot : LifecycleSnapshot} (h : Returns (bindWalletSignedSubmission P value now) s snapshot s') :
    Step P s (.bindWalletSignedSubmission value now) snapshot s' := by
  rw [bindWalletSignedSubmission, returns_bind] at h
  obtain ⟨⟨record, x, time⟩, _, hread, h⟩ := h
  obtain ⟨hr, rfl⟩ := (returns_readSubmission P).mp hread
  dsimp only at h
  split at h
  · simp only [returns_bind, returns_refuseWhen, returns_pure, not_not] at h
    obtain ⟨_, _, ⟨hsame, rfl⟩, rfl, rfl⟩ := h
    exact .boundAgain hr ‹_› hsame
  · simp only [bindNew, returns_bind, returns_get, returns_refuseWhen, returns_lift,
      returns_assertEvidenceDigestsAvailable, commitEvidenceDigests, returns_modify, returns_pure,
      not_any_ne, not_not, not_or, not_lt, not_le] at h
    obtain ⟨_, _, ⟨⟨hi, hs, _, hl⟩, rfl⟩, _, _, ⟨hst, rfl⟩, _, _, ⟨rfl, rfl⟩, _, _, ⟨ho, rfl⟩, _, _,
      ⟨ha, rfl⟩, _, _, ⟨hm, rfl⟩, _, _, rfl, _, _, rfl, _, _, rfl, rfl, rfl⟩ := h
    exact .bound hr ‹_› hi hs hl hst ho ha (makeSnapshot_made P hm)

theorem recordWalletBroadcastObservation_step {s s' : State} {value now : Value}
    {snapshot : LifecycleSnapshot}
    (h : Returns (recordWalletBroadcastObservation P value now) s snapshot s') :
    Step P s (.recordWalletBroadcastObservation value now) snapshot s' := by
  rw [recordWalletBroadcastObservation, returns_bind] at h
  obtain ⟨⟨record, submission, x, time⟩, _, hread, h⟩ := h
  obtain ⟨hr, rfl⟩ := returns_readBroadcast.1 hread
  dsimp only at h
  split at h
  · simp only [returns_bind, returns_refuseWhen, returns_pure, not_or, not_not] at h
    obtain ⟨_, _, ⟨⟨hid, hsame⟩, rfl⟩, rfl, rfl⟩ := h
    exact .broadcastAgain hr ‹_› hid hsame
  · simp only [broadcastNew, returns_bind, returns_get, returns_refuseWhen, returns_lift,
      returns_assertEvidenceDigestsAvailable, commitEvidenceDigests, returns_modify, returns_pure,
      not_any_ne, not_not, not_or, not_lt, not_le] at h
    obtain ⟨_, _, ⟨⟨hs, hob, _, hl⟩, rfl⟩, _, _, ⟨hst, rfl⟩, _, _, ⟨rfl, rfl⟩, _, _, ⟨ho, rfl⟩, _, _,
      ⟨ha, rfl⟩, _, _, ⟨hm, rfl⟩, _, _, rfl, _, _, rfl, _, _, rfl, rfl, rfl⟩ := h
    exact .broadcast hr ‹_› hs hob hl hst ho ha (makeSnapshot_made P hm)

theorem recordReconciliationObservation_step {s s' : State} {value now : Value}
    {snapshot : LifecycleSnapshot}
    (h : Returns (recordReconciliationObservation P value now) s snapshot s') :
    Step P s (.recordReconciliationObservation value now) snapshot s' := by
  rw [recordReconciliationObservation, returns_bind] at h
  obtain ⟨⟨record, submission, x⟩, _, hread, h⟩ := h
  obtain ⟨hr, rfl⟩ := returns_readReconciliation.1 hread
  dsimp only at h
  split at h
  · simp only [returns_bind, returns_refuseWhen, returns_pure, not_not] at h
    obtain ⟨_, _, ⟨hsame, rfl⟩, rfl, rfl⟩ := h
    exact .reconciledAgain hr ‹_› hsame
  · simp only [reconcileNew, returns_bind, returns_get, returns_refuseWhen, returns_lift,
      returns_assertEvidenceDigestsAvailable, commitEvidenceDigests, returns_modify, returns_pure,
      not_or, not_and, not_not, Bool.not_eq_true] at h
    obtain ⟨_, _, ⟨rfl, rfl⟩, _, _, ⟨ho, rfl⟩, _, _, ⟨⟨hl, hst⟩, rfl⟩, _, _, ⟨hlast, rfl⟩, _, _,
      ⟨hc, rfl⟩, _, _, ⟨hre, rfl⟩, _, _, ⟨ha, rfl⟩, _, _, ⟨hm, rfl⟩, _, _, rfl, _, _, rfl, _, _, rfl,
      rfl, rfl⟩ := h
    have hstage := or_iff_not_imp_left.mpr hst
    have hlater : ∀ last, record.lastReconciliationObservedAt = some last →
        last.milliseconds ≤ x.observedAt.milliseconds := by
      simpa [Option.any_eq_false] using hlast
    have hreorged : x.outcome = .reorgedOut → ∀ last, record.lastTransaction = some last →
        x.transaction = some last := by
      simpa [Option.any_eq_false] using hre
    exact .reconciled hr ‹_› (Option.isSome_eq_false_iff.mp ho |> Option.isNone_iff_eq_none.mp) hl
      hstage hlater hc hreorged ha (makeSnapshot_made P hm)

/-- Every call that returns is one of the steps. -/
theorem perform_step {s s' : State} {call : Call} {snapshot : LifecycleSnapshot}
    (h : Returns (perform P call) s snapshot s') : Step P s call snapshot s' := by
  cases call with
  | prepareIntent input now => exact prepareIntent_step h
  | bindWalletSignedSubmission value now => exact bindWalletSignedSubmission_step h
  | recordWalletBroadcastObservation value now => exact recordWalletBroadcastObservation_step h
  | recordReconciliationObservation value now => exact recordReconciliationObservation_step h
  | readSnapshot intentId =>
    simp only [perform, readSnapshot, recordFor, returns_bind, returns_orRefuse, returns_get,
      returns_pure] at h
    obtain ⟨_, _, ⟨_, _, ⟨hid, rfl⟩, _, _, ⟨rfl, rfl⟩, hr, rfl⟩, rfl, rfl⟩ := h
    rw [Value.string?_eq_some] at hid
    subst hid
    exact .read hr

end Steps

section Records

variable {P : Platform} {s : State} {snapshot : LifecycleSnapshot}

/-- A call that prepares an intent for the first time returns when its guards hold. -/
theorem prepareIntent_returns {input now : Value} {intent : DormantMainnetFinancialActionIntent}
    (parsed : parseIntent P input now = .ok intent)
    (fresh : s.records.get intent.intentId = none)
    (idempotency : ∀ d, s.idempotencyOwners.get (idempotencyScope intent) = some d →
      d = intentFingerprint P intent)
    (replayProtection : ∀ d, s.replayProtectionOwners.get (replayProtectionScope intent) = some d →
      d = intentFingerprint P intent)
    (made : makeSnapshot P none intent (intentFingerprint P intent) .prepared
      (preparedFingerprint P intent) none none none = .ok snapshot) :
    Returns (prepareIntent P input now) s snapshot
      (((s.setRecord intent.intentId (.ofPrepared snapshot)).ownIdempotency
        (idempotencyScope intent) (intentFingerprint P intent)).ownReplayProtection
        (replayProtectionScope intent) (intentFingerprint P intent)) := by
  simp only [prepareIntent, returns_bind, returns_lift, returns_get]
  refine ⟨intent, s, ⟨parsed, rfl⟩, s, s, ⟨rfl, rfl⟩, ?_⟩
  rw [fresh]
  simp only [prepareNew, returns_bind, returns_get, returns_refuseWhen, returns_lift,
    returns_modify, returns_pure, not_any_ne]
  exact ⟨s, s, ⟨rfl, rfl⟩, ⟨⟩, s, ⟨idempotency, rfl⟩, ⟨⟩, s, ⟨replayProtection, rfl⟩, snapshot, s,
    ⟨made, rfl⟩, ⟨⟩, _, rfl, ⟨⟩, _, rfl, ⟨⟩, _, rfl, rfl, rfl⟩

/-- A call that binds a submission for the first time returns when its guards hold. -/
theorem bindWalletSignedSubmission_returns {value now : Value} {record : LifecycleRecord}
    {x : WalletSignedSubmission} {time : Int} (reads : ReadsSubmission P s value now record x time)
    (first : record.submissionReplay = none)
    (issued : record.current.intent.issuedAt.milliseconds ≤ x.signedAt.milliseconds)
    (signed : x.signedAt.milliseconds ≤ time)
    (live : time < record.current.intent.expiresAt.milliseconds)
    (stage : record.current.stage = .prepared)
    (owner : ∀ o, s.transactionOwners.get (chainQualified x.networkId x.transactionId) = some o →
      o = x.intentId)
    (available : Available s (x.evidenceClaims P))
    (made : makeSnapshot P (some record) record.current.intent x.intentFingerprintSha256
      .walletSignedSubmissionBound (x.fingerprint P) (some (x.binding P)) none none = .ok snapshot) :
    Returns (bindWalletSignedSubmission P value now) s snapshot
      (((s.commitEvidence (x.evidenceClaims P)).setRecord x.intentId
        (record.withSubmission (x.fingerprint P) snapshot)).ownTransaction
        (chainQualified x.networkId x.transactionId) x.intentId) := by
  rw [bindWalletSignedSubmission, returns_bind]
  refine ⟨(record, x, time), s, (returns_readSubmission P).mpr ⟨reads, rfl⟩, ?_⟩
  dsimp only
  rw [first]
  simp only [bindNew, returns_bind, returns_get, returns_refuseWhen, returns_lift,
    returns_assertEvidenceDigestsAvailable, commitEvidenceDigests, returns_modify, returns_pure,
    not_any_ne, not_not, not_or, not_lt, not_le]
  exact ⟨⟨⟩, s, ⟨⟨issued, signed, signed.trans_lt live, live⟩, rfl⟩, ⟨⟩, s, ⟨stage, rfl⟩, s, s,
    ⟨rfl, rfl⟩, ⟨⟩, s, ⟨owner, rfl⟩, ⟨⟩, s, ⟨available, rfl⟩, snapshot, s, ⟨made, rfl⟩, ⟨⟩, _, rfl,
    ⟨⟩, _, rfl, ⟨⟩, _, rfl, rfl, rfl⟩

/-- A call that records a broadcast for the first time returns when its guards hold. -/
theorem recordWalletBroadcastObservation_returns {value now : Value} {record : LifecycleRecord}
    {submission : SubmissionBinding} {x : WalletBroadcast} {time : Int}
    (reads : ReadsBroadcast s value now record submission x time)
    (first : record.broadcastReplay = none)
    (signed : submission.signedAt.milliseconds ≤ x.observedAt.milliseconds)
    (observed : x.observedAt.milliseconds ≤ time)
    (live : time < record.current.intent.expiresAt.milliseconds)
    (stage : record.current.stage = .walletSignedSubmissionBound)
    (owner : ∀ o, s.observationOwners.get x.observationId = some o → o = x.intentId)
    (available : Available s (x.evidenceClaims P))
    (made : makeSnapshot P (some record) record.current.intent
      record.current.intentFingerprintSha256 .broadcastOutcomeAmbiguous (x.fingerprint P)
      (some submission) (some ⟨x, submission.chainQualifiedTransactionId⟩) none = .ok snapshot) :
    Returns (recordWalletBroadcastObservation P value now) s snapshot
      (((s.commitEvidence (x.evidenceClaims P)).setRecord x.intentId
        (record.withBroadcast x.observationId (x.fingerprint P) snapshot)).ownObservation
        x.observationId x.intentId) := by
  rw [recordWalletBroadcastObservation, returns_bind]
  refine ⟨(record, submission, x, time), s, returns_readBroadcast.mpr ⟨reads, rfl⟩, ?_⟩
  dsimp only
  rw [first]
  simp only [broadcastNew, returns_bind, returns_get, returns_refuseWhen, returns_lift,
    returns_assertEvidenceDigestsAvailable, commitEvidenceDigests, returns_modify, returns_pure,
    not_any_ne, not_not, not_or, not_lt, not_le]
  exact ⟨⟨⟩, s, ⟨⟨signed, observed, observed.trans_lt live, live⟩, rfl⟩, ⟨⟩, s, ⟨stage, rfl⟩, s, s,
    ⟨rfl, rfl⟩, ⟨⟩, s, ⟨owner, rfl⟩, ⟨⟩, s, ⟨available, rfl⟩, snapshot, s, ⟨made, rfl⟩, ⟨⟩, _, rfl,
    ⟨⟩, _, rfl, ⟨⟩, _, rfl, rfl, rfl⟩

/-- A call that records a first reconciliation returns when its guards hold. -/
theorem recordReconciliationObservation_returns {value now : Value} {record : LifecycleRecord}
    {submission : SubmissionBinding} {x : Reconciliation}
    (reads : ReadsReconciliation s value now record submission x)
    (first : record.reconciliationReplays.get x.observationId = none)
    (owner : s.observationOwners.get x.observationId = none)
    (live : record.current.terminal = false)
    (stage : record.current.stage = .broadcastOutcomeAmbiguous)
    (later : record.lastReconciliationObservedAt = none)
    (consistent : record.contradicts x = false) (unseen : record.lastTransaction = none)
    (available : Available s (x.evidenceClaims P))
    (made : makeSnapshot P (some record) record.current.intent
      record.current.intentFingerprintSha256 x.outcome.stage (x.fingerprint P)
      record.current.submission record.current.broadcastObservation
      (some ⟨x, submission.chainQualifiedTransactionId⟩) = .ok snapshot) :
    Returns (recordReconciliationObservation P value now) s snapshot
      (((s.commitEvidence (x.evidenceClaims P)).setRecord x.intentId
        (record.withReconciliation x (x.fingerprint P) snapshot)).ownObservation
        x.observationId x.intentId) := by
  rw [recordReconciliationObservation, returns_bind]
  refine ⟨(record, submission, x), s, returns_readReconciliation.mpr ⟨reads, rfl⟩, ?_⟩
  dsimp only
  rw [first]
  simp only [reconcileNew, returns_bind, returns_get, returns_refuseWhen, returns_lift,
    returns_assertEvidenceDigestsAvailable, commitEvidenceDigests, returns_modify, returns_pure]
  refine ⟨s, s, ⟨rfl, rfl⟩, ⟨⟩, s, ⟨by simp [owner], rfl⟩, ⟨⟩, s, ⟨by simp [live, stage], rfl⟩, ⟨⟩, s,
    ⟨by simp [later], rfl⟩, ⟨⟩, s, ⟨by simp [consistent], rfl⟩, ⟨⟩, s, ⟨by simp [unseen], rfl⟩, ⟨⟩, s,
    ⟨available, rfl⟩, snapshot, s, ⟨made, rfl⟩, ⟨⟩, _, rfl, ⟨⟩, _, rfl, ⟨⟩, _, rfl, rfl, rfl⟩

/-- A reconciliation of a lifecycle that has ended throws, whatever it reports. -/
theorem recordReconciliationObservation_ended {value now : Value} {record : LifecycleRecord}
    {submission : SubmissionBinding} {x : Reconciliation}
    (reads : ReadsReconciliation s value now record submission x)
    (first : record.reconciliationReplays.get x.observationId = none)
    (owner : s.observationOwners.get x.observationId = none)
    (ended : record.current.terminal = true) :
    (recordReconciliationObservation P value now).exec s =
      (.error (.lifecycle .terminalReconciliation), s) := by
  have hread := returns_readReconciliation.mpr ⟨reads, rfl⟩
  rw [recordReconciliationObservation, exec_bind_ok hread]
  dsimp only
  rw [first]
  have hnew : Returns (refuseWhen (s.observationOwners.get x.observationId).isSome
      .observationReplayConflict) s ⟨⟩ s := returns_refuseWhen.mpr ⟨by simp [owner], rfl⟩
  dsimp only [reconcileNew]
  rw [exec_bind_ok (exec_get s), exec_bind_ok hnew,
    exec_bind_error (exec_refuseWhen (.inl ended) _ s)]

end Records

section Snapshot

/-- The snapshot that is made when the wallet of the intent has an account id. -/
def snapshotFor (P : Platform) (walletAccountId : String) (record : Option LifecycleRecord)
    (intent : DormantMainnetFinancialActionIntent) (intentDigest : String) (stage : LifecycleStage)
    (transitionDigest : String) (submission : Option SubmissionBinding)
    (broadcastObservation : Option WalletBroadcastObservation)
    (reconciliation : Option ReconciliationObservation) : LifecycleSnapshot where
  stage := stage
  revision := (record.map (·.current.revision)).getD 0 + 1
  previousSnapshotSha256 := record.map (·.current.snapshotSha256)
  transitionFingerprintSha256 := transitionDigest
  snapshotSha256 := snapshotFingerprint P intent.intentId
    ((record.map (·.current.revision)).getD 0 + 1) stage (record.map (·.current.snapshotSha256))
    transitionDigest
  intentFingerprintSha256 := intentDigest
  intent := intent
  identities :=
    { walletAccountId
      providerMarketId := intent.networkId.text ++ ":" ++ intent.providerId.text ++ ":" ++
        intent.protocolId.text ++ ":" ++ intent.marketId
      assetId := intent.networkId.text ++ ":" ++ intent.assetIdentity }
  submission := submission
  broadcastObservation := broadcastObservation
  reconciliation := reconciliation
  terminal := isTerminalStage stage
  requiresManualReconciliation := stage == .reorgQuarantined

theorem makeSnapshot_ok {P : Platform} {record : Option LifecycleRecord}
    {intent : DormantMainnetFinancialActionIntent} {intentDigest transitionDigest : String}
    {stage : LifecycleStage} {submission : Option SubmissionBinding}
    {broadcastObservation : Option WalletBroadcastObservation}
    {reconciliation : Option ReconciliationObservation} {account : String}
    (h : walletAccountId P intent = .ok account) :
    makeSnapshot P record intent intentDigest stage transitionDigest submission
      broadcastObservation reconciliation = .ok (snapshotFor P account record intent intentDigest
        stage transitionDigest submission broadcastObservation reconciliation) := by
  rw [makeSnapshot, h]
  rfl

end Snapshot

end CryptoLending.MainnetActions.LifecycleSteps
