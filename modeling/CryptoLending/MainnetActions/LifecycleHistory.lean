import CryptoLending.MainnetActions.LifecycleUniqueness

namespace CryptoLending.MainnetActions.LifecycleHistory

open Lib Lib.JsValue Lib.Transaction Intent LifecycleData Lifecycle LifecycleSteps
  LifecycleInvariant LifecycleProgress LifecycleUniqueness

/-- The observation that an event newly recorded for an intent. A replay returns the current
snapshot, whose revision is not new. -/
def recorded (id : String) (e : Event) : Option Reconciliation :=
  match e.call, e.outcome with
  | .recordReconciliationObservation _ _, .ok snapshot =>
    if snapshot.intent.intentId = id ∧
        (e.before.records.get id).map (·.current.revision) ≠ some snapshot.revision then
      snapshot.reconciliation.map (·.toReconciliation)
    else none
  | _, _ => none

variable (P : Platform)

/-- The reconciliation observations of an intent that a run accepted, without replays. -/
def history (cs : List Call) (id : String) : List Reconciliation :=
  ((protocol P).trace cs).filterMap (recorded id)

/-- The observations in the replay slots of a record, in the order of their recording. -/
def observations (r : LifecycleRecord) : List Reconciliation :=
  r.reconciliationReplays.values.filterMap
    (fun replay => replay.snapshot.reconciliation.map (·.toReconciliation))

def observationsOf (s : State) (id : String) : List Reconciliation :=
  (s.records.get id).elim [] observations

variable {P}

theorem observations_withReconciliation {r : LifecycleRecord} {x : Reconciliation}
    {fingerprint chainQualifiedTransactionId : String} {snapshot : LifecycleSnapshot}
    (hx : r.reconciliationReplays.get x.observationId = none)
    (hs : snapshot.reconciliation = some ⟨x, chainQualifiedTransactionId⟩) :
    observations (r.withReconciliation x fingerprint snapshot) = observations r ++ [x] := by
  rw [observations, LifecycleRecord.withReconciliation, JsMap.values_set_fresh hx,
    List.filterMap_append, ← observations]
  simp [hs]

theorem observationsOf_set {s s' : State} {i : String} {r : LifecycleRecord}
    (hs : s'.records = s.records.set i r) (j : String) :
    observationsOf s' j = if j = i then observations r else observationsOf s j := by
  rw [observationsOf, hs, JsMap.get_set]
  split
  · rfl
  · rfl

/-- What a returning call newly recorded is what it read and had not recorded before. -/
theorem recorded_iff {s s' : State} {call : Call} {snapshot : LifecycleSnapshot}
    (hstep : Step P s call snapshot s') (h : Invariant P s) (id : String) {y : Reconciliation} :
    recorded id ⟨s, call, .ok snapshot, s'⟩ = some y ↔
      ∃ r, Reads P s call (.reconciliation y) ∧ y.intentId = id ∧ s.records.get id = some r ∧
        r.reconciliationReplays.get y.observationId = none := by
  have hother : ∀ {c : Call}, (∀ value now, c ≠ .recordReconciliationObservation value now) →
      (recorded id ⟨s, c, .ok snapshot, s'⟩ = some y ↔
        ∃ r, Reads P s c (.reconciliation y) ∧ y.intentId = id ∧ s.records.get id = some r ∧
          r.reconciliationReplays.get y.observationId = none) := by
    intro c hc
    constructor
    · intro hr
      cases c with
      | recordReconciliationObservation value now => exact absurd rfl (hc value now)
      | _ => cases hr
    · rintro ⟨_, hread, _⟩
      cases hread
      exact absurd rfl (hc _ _)
  cases hstep with
  | prepared => exact hother (fun _ _ hc => by cases hc)
  | preparedAgain => exact hother (fun _ _ hc => by cases hc)
  | bound => exact hother (fun _ _ hc => by cases hc)
  | boundAgain => exact hother (fun _ _ hc => by cases hc)
  | broadcast => exact hother (fun _ _ hc => by cases hc)
  | broadcastAgain => exact hother (fun _ _ hc => by cases hc)
  | @reconciled _ _ record submission x _ reads first _ _ _ _ _ _ _ made =>
    have hid : snapshot.intent.intentId = x.intentId := by
      rw [made.intent_eq, (h.records _ _ reads.found).intentId]
    have hrevision : snapshot.revision = record.current.revision + 1 := made.revision_eq
    constructor
    · intro hr
      simp only [recorded, hid, made.reconciliation_eq, Option.map_some,
        Option.ite_none_right_eq_some, Option.some.injEq] at hr
      obtain ⟨⟨rfl, _⟩, rfl⟩ := hr
      exact ⟨record, .reconciliation reads, rfl, reads.found, first⟩
    · rintro ⟨_, hread, rfl, _⟩
      cases hread with
      | reconciliation hread =>
        obtain ⟨rfl, rfl⟩ := readsReconciliation_unique reads hread
        have hnew : some record.current.revision ≠ some snapshot.revision := by
          rw [hrevision, ne_eq, Option.some.injEq]
          omega
        simp [recorded, hid, reads.found, hnew, made.reconciliation_eq]
  | @reconciledAgain _ _ record submission x replay reads replayed =>
    have hid : record.current.intent.intentId = x.intentId :=
      (h.records _ _ reads.found).intentId
    constructor
    · intro hr
      simp only [recorded, hid, Option.ite_none_right_eq_some] at hr
      obtain ⟨⟨rfl, hnew⟩, _⟩ := hr
      rw [reads.found] at hnew
      exact absurd rfl hnew
    · rintro ⟨r, hread, rfl, hfound, hfirst⟩
      cases hread with
      | reconciliation hread =>
        obtain ⟨rfl, rfl⟩ := readsReconciliation_unique reads hread
        rw [reads.found, Option.some.injEq] at hfound
        rw [← hfound, replayed] at hfirst
        cases hfirst
  | read => exact hother (fun _ _ hc => by cases hc)

/-- A call adds what it newly recorded to the observations of its intent. -/
theorem step_observations {s s' : State} {call : Call} {snapshot : LifecycleSnapshot}
    (hstep : Step P s call snapshot s') (h : Invariant P s) (id : String) :
    observationsOf s' id =
      observationsOf s id ++ (recorded id ⟨s, call, .ok snapshot, s'⟩).toList := by
  cases hstep with
  | @prepared _ _ intent snapshot _ fresh =>
    rw [observationsOf_set (r := .ofPrepared snapshot) (i := intent.intentId) rfl]
    split
    · rw [‹id = _›, observationsOf, fresh]
      rfl
    · exact (List.append_nil _).symm
  | preparedAgain => exact (List.append_nil _).symm
  | @bound _ _ record x _ _ reads =>
    rw [observationsOf_set (i := x.intentId) rfl]
    split
    · rw [‹id = _›, observationsOf, reads.found]
      exact (List.append_nil _).symm
    · exact (List.append_nil _).symm
  | boundAgain => exact (List.append_nil _).symm
  | @broadcast _ _ record _ x _ _ reads =>
    rw [observationsOf_set (i := x.intentId) rfl]
    split
    · rw [‹id = _›, observationsOf, reads.found]
      exact (List.append_nil _).symm
    · exact (List.append_nil _).symm
  | broadcastAgain => exact (List.append_nil _).symm
  | @reconciled _ _ record submission x _ reads first _ _ _ _ _ _ _ made =>
    have hid : snapshot.intent.intentId = x.intentId := by
      rw [made.intent_eq, (h.records _ _ reads.found).intentId]
    have hrevision : snapshot.revision = record.current.revision + 1 := made.revision_eq
    rw [observationsOf_set (s := s) (i := x.intentId) rfl]
    split
    · have hnew : some record.current.revision ≠ some snapshot.revision := by
        rw [hrevision, ne_eq, Option.some.injEq]
        omega
      rw [‹id = _›, observations_withReconciliation first made.reconciliation_eq, observationsOf,
        reads.found]
      simp [recorded, hid, reads.found, hnew, made.reconciliation_eq]
    · have hne : snapshot.intent.intentId ≠ id := fun he => ‹¬id = _› (he.symm.trans hid)
      simp [recorded, hne]
  | @reconciledAgain _ _ record submission x replay reads =>
    have hid : record.current.intent.intentId = x.intentId :=
      (h.records _ _ reads.found).intentId
    by_cases he : x.intentId = id
    · subst he
      simp [recorded, reads.found]
    · simp [recorded, hid, he]
  | read => exact (List.append_nil _).symm

/-- The accepted observations of an intent are those in its record. -/
theorem history_eq (cs : List Call) (id : String) :
    history P cs id = observationsOf ((protocol P).reached cs) id := by
  apply Machine.history_induction protocol_invariant
    (J := fun es s => es.filterMap (recorded id) = observationsOf s id)
  case hnil => rfl
  case hsnoc =>
    intro es s call hI ih
    rw [List.filterMap_append, ih]
    obtain ⟨e, he, hs⟩ | ⟨snapshot, hok, hstep⟩ := protocol_step (P := P) s call
    · have hnone : recorded id ((protocol P).event s call) = none := by
        rw [Machine.event, he]
        cases call <;> rfl
      rw [hs, List.filterMap_cons_none hnone]
      exact List.append_nil _
    · have hevent : (protocol P).event s call =
          ⟨s, call, .ok snapshot, ((protocol P).step s call).2⟩ := by rw [Machine.event, hok]
      rw [step_observations hstep hI id, hevent, List.filterMap_cons]
      cases recorded id ⟨s, call, .ok snapshot, ((protocol P).step s call).2⟩ with
      | none => rfl
      | some x => rfl

def sampleTransaction : String :=
  "0xa1a1a1a1a1a1a1a1a1a1a1a1a1a1a1a1a1a1a1a1a1a1a1a1a1a1a1a1a1a1a1a1"

def sampleBind : Call := .bindWalletSignedSubmission (ofFields
  [("schemaVersion", .integer 1), ("intentId", .string sampleIntentId),
    ("intentFingerprintSha256", .string sampleIntentDigest), ("networkId", .string "eip155:1"),
    ("signerWalletAccountId", .string "eip155:1:0x1111111111111111111111111111111111111111"),
    ("transactionId", .string sampleTransaction),
    ("walletSignedPayloadSha256",
      .string "2222222222222222222222222222222222222222222222222222222222222222"),
    ("walletSignatureEvidenceSha256",
      .string "3333333333333333333333333333333333333333333333333333333333333333"),
    ("signedAt", .string "2026-09-06T12:00:10.000Z")]) (.date (some 1788696010000))

def sampleBroadcast : Call := .recordWalletBroadcastObservation (ofFields
  [("schemaVersion", .integer 1), ("observationId", .string "55555555-5555-4555-8555-555555555555"),
    ("intentId", .string sampleIntentId),
    ("submissionFingerprintSha256", .string sampleSubmissionDigest),
    ("networkId", .string "eip155:1"), ("transactionId", .string sampleTransaction),
    ("outcome", .string "WALLET_REPORTED_SUBMITTED"),
    ("evidenceSha256",
      .string "4444444444444444444444444444444444444444444444444444444444444444"),
    ("observedAt", .string "2026-09-06T12:00:20.000Z")]) (.date (some 1788696020000))

def sampleTransactionPointer : ChainPointer :=
  ⟨⟨"101", by decide⟩, "0xb2b2b2b2b2b2b2b2b2b2b2b2b2b2b2b2b2b2b2b2b2b2b2b2b2b2b2b2b2b2b2b2"⟩

def sampleFinalizedPointer : ChainPointer :=
  ⟨⟨"101", by decide⟩, "0xd4d4d4d4d4d4d4d4d4d4d4d4d4d4d4d4d4d4d4d4d4d4d4d4d4d4d4d4d4d4d4d4"⟩

def sampleReconcile : Call := .recordReconciliationObservation (ofFields
  [("schemaVersion", .integer 1), ("observationId", .string "66666666-6666-4666-8666-666666666666"),
    ("intentId", .string sampleIntentId),
    ("submissionFingerprintSha256", .string sampleSubmissionDigest),
    ("networkId", .string "eip155:1"), ("transactionId", .string sampleTransaction),
    ("outcome", .string "FINALIZED_SUCCESS"),
    ("transactionPosition", .string sampleTransactionPointer.position.text),
    ("transactionBlockId", .string sampleTransactionPointer.blockId),
    ("finalizedPosition", .string sampleFinalizedPointer.position.text),
    ("finalizedBlockId", .string sampleFinalizedPointer.blockId),
    ("effectEvidenceSha256",
      .string "7777777777777777777777777777777777777777777777777777777777777777"),
    ("failureEvidenceSha256", .null),
    ("sourceEvidenceSha256",
      .string "8888888888888888888888888888888888888888888888888888888888888888"),
    ("observedAt", .string "2026-09-06T12:00:50.000Z")]) (.date (some 1788696050000))

/-- A lifecycle from its preparation to its end. -/
def sampleRun : List Call := [samplePrepare, sampleBind, sampleBroadcast, sampleReconcile]

deriving instance DecidableEq for SubmissionBinding

def sampleSubmission : WalletSignedSubmission where
  intentId := sampleIntentId
  intentFingerprintSha256 := sampleIntentDigest
  networkId := .eip155
  signerWalletAccountId := sampleAccount
  transactionId := sampleTransaction
  walletSignedPayloadSha256 := "2222222222222222222222222222222222222222222222222222222222222222"
  walletSignatureEvidenceSha256 :=
    "3333333333333333333333333333333333333333333333333333333333333333"
  signedAt := ⟨"2026-09-06T12:00:10.000Z", 1788696010000, by decide⟩

theorem sampleSubmission_fingerprint :
    sampleSubmission.fingerprint samplePlatform = sampleSubmissionDigest := by
  refine sample_sha256 (?_ : _ = 402) (by decide) (by decide)
  simp only [sampleSubmission, sampleIntentId, sampleIntentDigest, sampleAccount,
    sampleTransaction, Json.arrayText, Json.tailText, Json.Scalar.text, Json.quote]
  repeat rw [String.toList_ofList]
  set_option maxRecDepth 4000 in decide

def sampleBinding : SubmissionBinding where
  toWalletSignedSubmission := sampleSubmission
  chainQualifiedTransactionId := chainQualified .eip155 sampleTransaction
  submissionFingerprintSha256 := sampleSubmissionDigest

theorem sampleSubmission_binding : sampleSubmission.binding samplePlatform = sampleBinding := by
  rw [WalletSignedSubmission.binding, sampleSubmission_fingerprint]
  rfl

def sampleBound : LifecycleSnapshot :=
  snapshotFor samplePlatform sampleAccount (some (.ofPrepared samplePrepared)) sampleIntent
    sampleIntentDigest .walletSignedSubmissionBound sampleSubmissionDigest (some sampleBinding)
    none none

def sampleBoundRecord : LifecycleRecord :=
  (LifecycleRecord.ofPrepared samplePrepared).withSubmission sampleSubmissionDigest sampleBound

def sampleBoundState : State :=
  ((samplePreparedState.commitEvidence (sampleSubmission.evidenceClaims samplePlatform)).setRecord
    sampleIntentId sampleBoundRecord).ownTransaction (chainQualified .eip155 sampleTransaction)
    sampleIntentId

theorem sampleBind_parsed : ∃ value now, sampleBind = .bindWalletSignedSubmission value now ∧
    ∃ input ∈ exactDataRecord value submissionKeys, (input.get "schemaVersion").isNumber 1 = true ∧
    uuid (input.get "intentId") (Failure.lifecycle .invalidSubmissionInput) = .ok sampleIntentId ∧
    parseSubmission samplePlatform samplePrepared input sampleIntentId now =
      .ok (sampleSubmission, 1788696010000) :=
  ⟨_, _, rfl, by decide⟩

theorem sampleBind_reads : ∃ value now, sampleBind = .bindWalletSignedSubmission value now ∧
    ReadsSubmission samplePlatform samplePreparedState value now (.ofPrepared samplePrepared)
      sampleSubmission 1788696010000 := by
  obtain ⟨value, now, hcall, reads⟩ := sampleBind_parsed
  exact ⟨value, now, hcall, JsMap.get_set_self _ _ _, reads⟩

theorem sampleBind_returns :
    Returns (perform samplePlatform sampleBind) samplePreparedState sampleBound sampleBoundState := by
  obtain ⟨value, now, hcall, reads⟩ := sampleBind_reads
  have h := bindWalletSignedSubmission_returns reads rfl (by decide) (by decide) (by decide) rfl
    (fun o ho => by cases ho) (fun claim _ owner ho => by cases ho)
    (makeSnapshot_ok sampleWallet_account)
  rw [sampleSubmission_fingerprint, sampleSubmission_binding] at h
  rw [hcall]
  exact h

def sampleObservation : WalletBroadcast where
  observationId := "55555555-5555-4555-8555-555555555555"
  intentId := sampleIntentId
  submissionFingerprintSha256 := sampleSubmissionDigest
  networkId := .eip155
  transactionId := sampleTransaction
  outcome := .walletReportedSubmitted
  evidenceSha256 := "4444444444444444444444444444444444444444444444444444444444444444"
  observedAt := ⟨"2026-09-06T12:00:20.000Z", 1788696020000, by decide⟩

def sampleSeen : LifecycleSnapshot :=
  snapshotFor samplePlatform sampleAccount (some sampleBoundRecord) sampleIntent sampleIntentDigest
    .broadcastOutcomeAmbiguous (sampleObservation.fingerprint samplePlatform) (some sampleBinding)
    (some ⟨sampleObservation, sampleBinding.chainQualifiedTransactionId⟩) none

def sampleSeenRecord : LifecycleRecord :=
  sampleBoundRecord.withBroadcast sampleObservation.observationId
    (sampleObservation.fingerprint samplePlatform) sampleSeen

def sampleSeenState : State :=
  ((sampleBoundState.commitEvidence (sampleObservation.evidenceClaims samplePlatform)).setRecord
    sampleIntentId sampleSeenRecord).ownObservation sampleObservation.observationId sampleIntentId

theorem sampleBroadcast_parsed :
    ∃ value now, sampleBroadcast = .recordWalletBroadcastObservation value now ∧
    ∃ input ∈ exactDataRecord value broadcastKeys, (input.get "schemaVersion").isNumber 1 = true ∧
    uuid (input.get "intentId") (Failure.lifecycle .invalidBroadcastObservationInput) =
      .ok sampleIntentId ∧
    uuid (input.get "observationId") (Failure.lifecycle .invalidBroadcastObservationInput) =
      .ok sampleObservation.observationId ∧
    (parseBroadcast sampleBound input sampleObservation.observationId sampleIntentId now) =
      .ok (sampleBinding, sampleObservation, 1788696020000) :=
  ⟨_, _, rfl, by decide⟩

theorem sampleBroadcast_reads :
    ∃ value now, sampleBroadcast = .recordWalletBroadcastObservation value now ∧
      ReadsBroadcast sampleBoundState value now sampleBoundRecord sampleBinding
        sampleObservation 1788696020000 := by
  obtain ⟨value, now, hcall, reads⟩ := sampleBroadcast_parsed
  exact ⟨value, now, hcall, JsMap.get_set_self _ _ _, reads⟩

theorem sampleBroadcast_returns :
    Returns (perform samplePlatform sampleBroadcast) sampleBoundState sampleSeen
      sampleSeenState := by
  obtain ⟨value, now, hcall, reads⟩ := sampleBroadcast_reads
  have unused : sampleBoundState.evidenceDigestOwners.get sampleObservation.evidenceSha256 = none := by
    refine get_setEvidence_of_not fun c hc => ?_
    simp only [WalletSignedSubmission.evidenceClaims, List.mem_cons, List.not_mem_nil,
      or_false] at hc
    obtain rfl | rfl := hc
    · simp [sampleSubmission, sampleObservation]
    · simp [sampleSubmission, sampleObservation]
  have available : Available sampleBoundState (sampleObservation.evidenceClaims samplePlatform) := by
    intro claim hclaim owner howner
    obtain rfl := List.mem_singleton.mp hclaim
    cases unused.symm.trans howner
  have h := recordWalletBroadcastObservation_returns reads rfl (by decide) (by decide) (by decide)
    rfl (fun o ho => by cases ho) available (makeSnapshot_ok sampleWallet_account)
  rw [hcall]
  exact h

def sampleReconciliation : Reconciliation where
  observationId := "66666666-6666-4666-8666-666666666666"
  intentId := sampleIntentId
  submissionFingerprintSha256 := sampleSubmissionDigest
  networkId := .eip155
  transactionId := sampleTransaction
  outcome := .finalizedSuccess
  transaction := some sampleTransactionPointer
  finalized := sampleFinalizedPointer
  effectEvidenceSha256 :=
    some "7777777777777777777777777777777777777777777777777777777777777777"
  failureEvidenceSha256 := none
  sourceEvidenceSha256 := "8888888888888888888888888888888888888888888888888888888888888888"
  observedAt := ⟨"2026-09-06T12:00:50.000Z", 1788696050000, by decide⟩

def sampleFinal : LifecycleSnapshot :=
  snapshotFor samplePlatform sampleAccount (some sampleSeenRecord) sampleIntent sampleIntentDigest
    .finalizedSuccess (sampleReconciliation.fingerprint samplePlatform) (some sampleBinding)
    (some ⟨sampleObservation, sampleBinding.chainQualifiedTransactionId⟩)
    (some ⟨sampleReconciliation, sampleBinding.chainQualifiedTransactionId⟩)

theorem sampleReconcile_parsed :
    ∃ value now, sampleReconcile = .recordReconciliationObservation value now ∧
    ∃ input ∈ exactDataRecord value reconciliationKeys,
    (input.get "schemaVersion").isNumber 1 = true ∧
    uuid (input.get "intentId") (Failure.lifecycle .invalidReconciliationObservationInput) =
      .ok sampleIntentId ∧
    uuid (input.get "observationId") (Failure.lifecycle .invalidReconciliationObservationInput) =
      .ok sampleReconciliation.observationId ∧
    parseReconciliation sampleSeen input sampleReconciliation.observationId sampleIntentId now =
      .ok (sampleBinding, sampleReconciliation) :=
  ⟨_, _, rfl, by decide⟩

def sampleFinalRecord : LifecycleRecord :=
  sampleSeenRecord.withReconciliation sampleReconciliation
    (sampleReconciliation.fingerprint samplePlatform) sampleFinal

def sampleFinalState : State :=
  ((sampleSeenState.commitEvidence (sampleReconciliation.evidenceClaims samplePlatform)).setRecord
    sampleIntentId sampleFinalRecord).ownObservation sampleReconciliation.observationId
    sampleIntentId

theorem sampleReconcile_reads :
    ∃ value now, sampleReconcile = .recordReconciliationObservation value now ∧
      ReadsReconciliation sampleSeenState value now sampleSeenRecord sampleBinding
        sampleReconciliation := by
  obtain ⟨value, now, hcall, reads⟩ := sampleReconcile_parsed
  exact ⟨value, now, hcall, JsMap.get_set_self _ _ _, reads⟩

theorem sampleReconcile_returns :
    Returns (perform samplePlatform sampleReconcile) sampleSeenState sampleFinal
      sampleFinalState := by
  obtain ⟨value, now, hcall, reads⟩ := sampleReconcile_reads
  have unowned : sampleSeenState.observationOwners.get sampleReconciliation.observationId = none := by
    have hne : sampleReconciliation.observationId ≠ sampleObservation.observationId := by
      simp [sampleReconciliation, sampleObservation]
    exact JsMap.get_set_ne _ hne _
  have available :
      Available sampleSeenState (sampleReconciliation.evidenceClaims samplePlatform) := by
    intro claim hclaim owner howner
    have unused : sampleSeenState.evidenceDigestOwners.get claim.digest = none := by
      simp only [Reconciliation.evidenceClaims, sampleReconciliation, Option.map_some,
        Option.map_none, Option.toList_some, Option.toList_none, List.cons_append, List.nil_append,
        List.append_nil, List.mem_cons, List.not_mem_nil, or_false] at hclaim
      refine (get_setEvidence_of_not fun c hc => ?_).trans (get_setEvidence_of_not fun c hc => ?_)
      · obtain rfl := List.mem_singleton.mp hc
        obtain rfl | rfl := hclaim
        · simp [sampleObservation]
        · simp [sampleObservation]
      · simp only [WalletSignedSubmission.evidenceClaims, List.mem_cons, List.not_mem_nil,
          or_false] at hc
        obtain rfl | rfl := hclaim <;> obtain rfl | rfl := hc <;> simp [sampleSubmission]
    cases unused.symm.trans howner
  have h := recordReconciliationObservation_returns reads rfl unowned rfl rfl rfl rfl rfl available
    (makeSnapshot_ok sampleWallet_account)
  rw [hcall]
  exact h

theorem step_returns {s s' : State} {call : Call} {snapshot : LifecycleSnapshot}
    (h : Returns (perform P call) s snapshot s') : (protocol P).step s call = (.ok snapshot, s') :=
  h

theorem sampleRun_trace : (protocol samplePlatform).trace sampleRun =
    [⟨State.initial, samplePrepare, .ok samplePrepared, samplePreparedState⟩,
      ⟨samplePreparedState, sampleBind, .ok sampleBound, sampleBoundState⟩,
      ⟨sampleBoundState, sampleBroadcast, .ok sampleSeen, sampleSeenState⟩,
      ⟨sampleSeenState, sampleReconcile, .ok sampleFinal, sampleFinalState⟩] := by
  change (protocol samplePlatform).events State.initial sampleRun = _
  rw [sampleRun, Machine.events_cons (step_returns samplePrepare_returns),
    Machine.events_cons (step_returns sampleBind_returns),
    Machine.events_cons (step_returns sampleBroadcast_returns),
    Machine.events_cons (step_returns sampleReconcile_returns), Machine.events]

theorem sampleRun_reached : (protocol samplePlatform).reached sampleRun = sampleFinalState := by
  change (protocol samplePlatform).run State.initial sampleRun = _
  rw [sampleRun, Machine.run_cons (step_returns samplePrepare_returns),
    Machine.run_cons (step_returns sampleBind_returns),
    Machine.run_cons (step_returns sampleBroadcast_returns),
    Machine.run_cons (step_returns sampleReconcile_returns), Machine.run]

theorem sampleReconcile_recorded : recorded sampleIntentId
    ⟨sampleSeenState, sampleReconcile, .ok sampleFinal, sampleFinalState⟩ =
      some sampleReconciliation := by
  have hfound : sampleSeenState.records.get sampleIntentId = some sampleSeenRecord :=
    JsMap.get_set_self _ _ _
  have hnew : sampleFinal.intent.intentId = sampleIntentId ∧
      (sampleSeenState.records.get sampleIntentId).map (·.current.revision) ≠
        some sampleFinal.revision := by
    refine ⟨rfl, ?_⟩
    rw [hfound]
    exact (by decide : (some 3 : Option Nat) ≠ some 4)
  simp only [recorded, sampleReconcile]
  exact if_pos hnew

/-- Every call of the run returns, and one reconciliation is recorded. -/
theorem sampleRun_evaluated :
    (((protocol samplePlatform).trace sampleRun).all (fun e => e.outcome.isOk),
      (history samplePlatform sampleRun sampleIntentId).map
        (fun x => (x.outcome, x.transaction, x.finalized))) =
      (true, [(.finalizedSuccess, some sampleTransactionPointer, sampleFinalizedPointer)]) := by
  rw [history, sampleRun_trace]
  simp only [List.filterMap_cons, List.filterMap_nil, sampleReconcile_recorded]
  rfl

/-- Another observation of the intent of the run, made after its end. -/
def lateReconciliation : Reconciliation :=
  { sampleReconciliation with
    observationId := "99999999-9999-4999-8999-999999999999"
    observedAt := ⟨"2026-09-06T12:00:55.000Z", 1788696055000, by decide⟩ }

def lateReconcile : Call := .recordReconciliationObservation (ofFields
  [("schemaVersion", .integer 1), ("observationId", .string "99999999-9999-4999-8999-999999999999"),
    ("intentId", .string sampleIntentId),
    ("submissionFingerprintSha256", .string sampleSubmissionDigest),
    ("networkId", .string "eip155:1"), ("transactionId", .string sampleTransaction),
    ("outcome", .string "FINALIZED_SUCCESS"),
    ("transactionPosition", .string sampleTransactionPointer.position.text),
    ("transactionBlockId", .string sampleTransactionPointer.blockId),
    ("finalizedPosition", .string sampleFinalizedPointer.position.text),
    ("finalizedBlockId", .string sampleFinalizedPointer.blockId),
    ("effectEvidenceSha256",
      .string "7777777777777777777777777777777777777777777777777777777777777777"),
    ("failureEvidenceSha256", .null),
    ("sourceEvidenceSha256",
      .string "8888888888888888888888888888888888888888888888888888888888888888"),
    ("observedAt", .string "2026-09-06T12:00:55.000Z")]) (.date (some 1788696055000))

theorem lateReconcile_parsed :
    ∃ value now, lateReconcile = .recordReconciliationObservation value now ∧
    ∃ input ∈ exactDataRecord value reconciliationKeys,
    (input.get "schemaVersion").isNumber 1 = true ∧
    uuid (input.get "intentId") (Failure.lifecycle .invalidReconciliationObservationInput) =
      .ok sampleIntentId ∧
    uuid (input.get "observationId") (Failure.lifecycle .invalidReconciliationObservationInput) =
      .ok lateReconciliation.observationId ∧
    parseReconciliation sampleFinal input lateReconciliation.observationId sampleIntentId now =
      .ok (sampleBinding, lateReconciliation) :=
  ⟨_, _, rfl, by decide⟩

/-- The call passes every check of its fields, and fails because the lifecycle has ended. -/
theorem lateReconcile_fails :
    ((protocol samplePlatform).step ((protocol samplePlatform).reached sampleRun)
      lateReconcile).1 = .error (.lifecycle .terminalReconciliation) := by
  obtain ⟨value, now, hcall, reads⟩ := lateReconcile_parsed
  have reads : ReadsReconciliation sampleFinalState value now sampleFinalRecord sampleBinding
      lateReconciliation := ⟨JsMap.get_set_self _ _ _, reads⟩
  rw [sampleRun_reached, hcall]
  exact congrArg Prod.fst (recordReconciliationObservation_ended reads (by decide) (by decide) rfl)

def otherPrepare : Call := .prepareIntent (ofFields
  [("schemaVersion", .integer 1), ("intentId", .string otherIntentId),
    ("accountId", .string "22222222-2222-4222-8222-222222222222"),
    ("walletRegistrationId", .string "33333333-3333-4333-8333-333333333333"),
    ("replayProtectionId", .string "88888888-8888-4888-8888-888888888888"),
    ("idempotencyKeyDigestSha256",
      .string "9999999999999999999999999999999999999999999999999999999999999999"),
    ("networkId", .string "eip155:1"), ("walletAddress", .string sampleWallet),
    ("providerId", .string "aave"), ("protocolId", .string "aave-v3"),
    ("marketId", .string "0x87870bca3f3fd6335c3f4ce8392d69350b4fa4e2"),
    ("assetRegistryVersion", .integer 1),
    ("assetRegistryFingerprintSha256",
      .string "5058b141479f114c1e5f87ed8798fbb7a7ffcce7b502aa7e0794dc53ca1f767d"),
    ("assetSymbol", .string "USDC"),
    ("assetIdentity", .string "0xa0b86991c6218b36c1d19d4a2e9eb0ce3606eb48"),
    ("action", .string "SUPPLY"), ("amountAtomic", .string "25000000"),
    ("requestedValueUsdMicros", .string "25000000"), ("maximumNetworkFeeAtomic", .string "50000"),
    ("maximumNetworkFeeBasisPoints", .integer 100),
    ("minimumPostActionNativeBalanceAtomic", .string "10000"), ("allowanceMode", .string "EXACT"),
    ("allowanceAmountAtomic", .string "25000000"), ("issuedAt", .string "2026-09-06T11:59:00.000Z"),
    ("expiresAt", .string "2026-09-06T12:04:00.000Z")]) (.date (some 1788696060000))

/-- A second intent of the same account. -/
def otherIntent : DormantMainnetFinancialActionIntent :=
  { sampleIntent with
    intentId := otherIntentId
    replayProtectionId := "88888888-8888-4888-8888-888888888888"
    idempotencyKeyDigestSha256 :=
      "9999999999999999999999999999999999999999999999999999999999999999"
    amountAtomic := "25000000"
    requestedValueUsdMicros := "25000000"
    allowanceAmountAtomic := "25000000" }

theorem otherPrepare_parsed : ∃ input now, otherPrepare = .prepareIntent input now ∧
    parseIntent samplePlatform input now = .ok otherIntent :=
  ⟨_, _, rfl, by decide⟩

theorem otherIntent_size : String.utf8Len (Json.arrayText (intentValues otherIntent)) = 591 := by
  simp only [intentValues, otherIntent, sampleIntent, otherIntentId, sampleWallet, Json.arrayText,
    Json.tailText, Json.Scalar.text, Json.quote]
  repeat rw [String.toList_ofList]
  set_option maxRecDepth 4000 in decide

theorem otherIntent_fingerprint :
    intentFingerprint samplePlatform otherIntent = otherIntentDigest :=
  sample_sha256 otherIntent_size (by decide) (by decide)

def otherPrepared : LifecycleSnapshot :=
  snapshotFor samplePlatform sampleAccount none otherIntent otherIntentDigest .prepared
    (preparedFingerprint samplePlatform otherIntent) none none none

def otherPreparedState : State :=
  ((sampleFinalState.setRecord otherIntentId (.ofPrepared otherPrepared)).ownIdempotency
    (idempotencyScope otherIntent) otherIntentDigest).ownReplayProtection
    (replayProtectionScope otherIntent) otherIntentDigest

theorem otherPrepare_returns :
    Returns (perform samplePlatform otherPrepare) sampleFinalState otherPrepared
      otherPreparedState := by
  obtain ⟨input, now, hcall, parsed⟩ := otherPrepare_parsed
  have hid : otherIntentId ≠ sampleIntentId := by decide
  have fresh : sampleFinalState.records.get otherIntentId = none := by
    iterate 4 refine (JsMap.get_set_ne _ hid _).trans ?_
    rfl
  have idempotency : sampleFinalState.idempotencyOwners.get (idempotencyScope otherIntent) = none :=
    JsMap.get_set_ne _ (by decide) _
  have replayProtection :
      sampleFinalState.replayProtectionOwners.get (replayProtectionScope otherIntent) = none :=
    JsMap.get_set_ne _ (by decide) _
  have h := prepareIntent_returns parsed fresh
    (fun d hd => by cases idempotency.symm.trans hd)
    (fun d hd => by cases replayProtection.symm.trans hd) (makeSnapshot_ok sampleWallet_account)
  rw [otherIntent_fingerprint] at h
  rw [hcall]
  exact h

/-- The failed call changes neither what follows nor its outcomes. -/
theorem lateReconcile_leaves_no_trace :
    (protocol samplePlatform).events ((protocol samplePlatform).step
        ((protocol samplePlatform).reached sampleRun) lateReconcile).2 [otherPrepare] =
      (protocol samplePlatform).events ((protocol samplePlatform).reached sampleRun)
        [otherPrepare] ∧
    (protocol samplePlatform).reached (sampleRun ++ lateReconcile :: [otherPrepare]) =
      (protocol samplePlatform).reached (sampleRun ++ [otherPrepare]) :=
  (LifecycleAtomicity.failed_call_leaves_no_trace samplePlatform sampleRun [otherPrepare]
    lateReconcile _ lateReconcile_fails).2

/-- A lifecycle from its preparation to its end, and the preparation of another one. -/
def pairRun : List Call := sampleRun ++ [otherPrepare]

theorem pairRun_reached : (protocol samplePlatform).reached pairRun = otherPreparedState := by
  rw [pairRun, Machine.reached_snoc, sampleRun_reached, step_returns otherPrepare_returns]

theorem pairRun_trace : (protocol samplePlatform).trace pairRun =
    [⟨State.initial, samplePrepare, .ok samplePrepared, samplePreparedState⟩,
      ⟨samplePreparedState, sampleBind, .ok sampleBound, sampleBoundState⟩,
      ⟨sampleBoundState, sampleBroadcast, .ok sampleSeen, sampleSeenState⟩,
      ⟨sampleSeenState, sampleReconcile, .ok sampleFinal, sampleFinalState⟩,
      ⟨sampleFinalState, otherPrepare, .ok otherPrepared, otherPreparedState⟩] := by
  rw [pairRun, Machine.trace_snoc, sampleRun_trace, sampleRun_reached, Machine.event,
    step_returns otherPrepare_returns]
  rfl

theorem pairRun_records {id : String} {r : LifecycleRecord}
    (h : otherPreparedState.records.get id = some r) :
    id = otherIntentId ∧ r = .ofPrepared otherPrepared ∨
      id = sampleIntentId ∧ r = sampleFinalRecord := by
  change (sampleFinalState.records.set otherIntentId (.ofPrepared otherPrepared)).get id = _ at h
  rw [JsMap.get_set] at h
  split at h
  case isTrue hid => exact .inl ⟨hid, (Option.some.inj h).symm⟩
  case isFalse =>
    change (sampleSeenState.records.set sampleIntentId sampleFinalRecord).get id = _ at h
    rw [JsMap.get_set] at h
    split at h
    case isTrue hid => exact .inr ⟨hid, (Option.some.inj h).symm⟩
    case isFalse hid =>
      have hnone : sampleSeenState.records.get id = none := by
        iterate 3 refine (JsMap.get_set_ne _ hid _).trans ?_
        rfl
      cases hnone.symm.trans h

/-- What the run hashed for an intent or for a report that it accepted. -/
def pairTexts : List String :=
  [intentText sampleIntent, intentText otherIntent, sampleSubmission.text, sampleObservation.text,
    sampleReconciliation.text]

theorem pairRun_accepts {e : Event} (he : e ∈ (protocol samplePlatform).trace pairRun) {y : Report}
    (hy : Accepts samplePlatform e y) : y = .submission sampleSubmission ∨
      y = .broadcast sampleObservation ∨ y = .reconciliation sampleReconciliation := by
  rw [pairRun_trace] at he
  simp only [List.mem_cons, List.not_mem_nil, or_false] at he
  obtain ⟨_, hy⟩ := hy
  obtain rfl | rfl | rfl | rfl | rfl := he
  · cases hy
  · obtain ⟨value, now, hcall, reads⟩ := sampleBind_reads
    rw [hcall] at hy
    cases hy with
    | submission h => rw [(readsSubmission_unique h reads).2]; exact .inl rfl
  · obtain ⟨value, now, hcall, reads⟩ := sampleBroadcast_reads
    rw [hcall] at hy
    cases hy with
    | broadcast h => rw [(readsBroadcast_unique h reads).2]; exact .inr (.inl rfl)
  · obtain ⟨value, now, hcall, reads⟩ := sampleReconcile_reads
    rw [hcall] at hy
    cases hy with
    | reconciliation h => rw [(readsReconciliation_unique h reads).2]; exact .inr (.inr rfl)
  · cases hy

theorem pairRun_texts {t : String} (h : t ∈ hashedTexts samplePlatform pairRun) :
    t ∈ pairTexts := by
  obtain ⟨id, r, hr, rfl⟩ | ⟨e, he, y, hy, rfl⟩ := h
  · rw [pairRun_reached] at hr
    obtain ⟨_, rfl⟩ | ⟨_, rfl⟩ := pairRun_records hr
    · exact .tail _ (.head _)
    · exact .head _
  · obtain rfl | rfl | rfl := pairRun_accepts he hy
    · exact .tail _ (.tail _ (.head _))
    · exact .tail _ (.tail _ (.tail _ (.head _)))
    · exact .tail _ (.tail _ (.tail _ (.tail _ (.head _))))

theorem sampleObservation_fingerprint : samplePlatform.sha256 sampleObservation.text =
    "9354719e582b5df8c27de67d37f7ed5284d8e497afaf29cb43a7b282ad5e49a4" := by
  refine sample_sha256 (?_ : _ = 348) (by decide) (by decide)
  simp only [sampleObservation, sampleIntentId, sampleSubmissionDigest, sampleTransaction,
    Json.arrayText, Json.tailText, Json.Scalar.text, Json.quote]
  repeat rw [String.toList_ofList]
  set_option maxRecDepth 4000 in decide

theorem sampleReconciliation_fingerprint : samplePlatform.sha256 sampleReconciliation.text =
    "fea6a716e87e63d27c88a1fab3f01dc9b72648d37ba012b0da8b6464d5225430" := by
  refine sample_sha256 (?_ : _ = 562) (by decide) (by decide)
  simp only [sampleReconciliation, sampleIntentId, sampleSubmissionDigest, sampleTransaction,
    sampleTransactionPointer, sampleFinalizedPointer, LifecycleData.optional, Option.map_some,
    Json.arrayText, Json.tailText, Json.Scalar.text, Json.quote]
  repeat rw [String.toList_ofList]
  set_option maxRecDepth 4000 in decide

theorem pairRun_collisionFree :
    CollisionFree samplePlatform (hashedTexts samplePlatform pairRun) := by
  have hnodup : (pairTexts.map samplePlatform.sha256).Nodup := by
    change [intentFingerprint samplePlatform sampleIntent,
      intentFingerprint samplePlatform otherIntent, sampleSubmission.fingerprint samplePlatform,
      samplePlatform.sha256 sampleObservation.text,
      samplePlatform.sha256 sampleReconciliation.text].Nodup
    rw [sampleIntent_fingerprint, otherIntent_fingerprint, sampleSubmission_fingerprint,
      sampleObservation_fingerprint, sampleReconciliation_fingerprint]
    decide
  intro t ht u hu h
  exact List.inj_on_of_nodup_map hnodup (pairRun_texts ht) (pairRun_texts hu) h

/-- The two intents of the run have different scopes, and what its two observations say of one
digest they say in one role and under one fingerprint. -/
theorem pairRun_unique : ∃ r q,
    ((protocol samplePlatform).reached pairRun).records.get sampleIntentId = some r ∧
    ((protocol samplePlatform).reached pairRun).records.get otherIntentId = some q ∧
    (r.current.intent.accountId, r.current.intent.idempotencyKeyDigestSha256) ≠
      (q.current.intent.accountId, q.current.intent.idempotencyKeyDigestSha256) ∧
    (r.current.intent.accountId, r.current.intent.replayProtectionId) ≠
      (q.current.intent.accountId, q.current.intent.replayProtectionId) ∧
    ∃ e ∈ (protocol samplePlatform).trace pairRun, ∃ f ∈ (protocol samplePlatform).trace pairRun,
      Accepts samplePlatform e (.broadcast sampleObservation) ∧
      Accepts samplePlatform f (.reconciliation sampleReconciliation) ∧
      ∀ c ∈ (Report.broadcast sampleObservation).claims samplePlatform,
        ∀ d ∈ (Report.reconciliation sampleReconciliation).claims samplePlatform,
          c.digest = d.digest → c.owner = d.owner := by
  obtain ⟨hscopes, hreports⟩ := protocol_unique samplePlatform pairRun pairRun_collisionFree
  have hid : sampleIntentId ≠ otherIntentId := by decide
  have hr : ((protocol samplePlatform).reached pairRun).records.get sampleIntentId =
      some sampleFinalRecord := by
    rw [pairRun_reached]
    exact (JsMap.get_set_ne _ hid _).trans (JsMap.get_set_self _ _ _)
  have hq : ((protocol samplePlatform).reached pairRun).records.get otherIntentId =
      some (.ofPrepared otherPrepared) := by
    rw [pairRun_reached]
    exact JsMap.get_set_self _ _ _
  obtain ⟨hidempotency, hreplay, _⟩ := hscopes _ _ _ _ hr hq hid
  refine ⟨_, _, hr, hq, hidempotency, hreplay, ?_⟩
  have he : Accepts samplePlatform ⟨sampleBoundState, sampleBroadcast, .ok sampleSeen,
      sampleSeenState⟩ (.broadcast sampleObservation) := by
    obtain ⟨value, now, hcall, reads⟩ := sampleBroadcast_reads
    exact ⟨⟨_, rfl⟩, hcall ▸ .broadcast reads⟩
  have hf : Accepts samplePlatform ⟨sampleSeenState, sampleReconcile, .ok sampleFinal,
      sampleFinalState⟩ (.reconciliation sampleReconciliation) := by
    obtain ⟨value, now, hcall, reads⟩ := sampleReconcile_reads
    exact ⟨⟨_, rfl⟩, hcall ▸ .reconciliation reads⟩
  have hmem := pairRun_trace
  refine ⟨_, hmem ▸ .tail _ (.tail _ (.head _)), _,
    hmem ▸ .tail _ (.tail _ (.tail _ (.head _))), he, hf, ?_⟩
  exact (hreports _ (hmem ▸ .tail _ (.tail _ (.head _))) _
    (hmem ▸ .tail _ (.tail _ (.tail _ (.head _)))) _ _ he hf).2

end CryptoLending.MainnetActions.LifecycleHistory
