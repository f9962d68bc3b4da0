import CryptoLending.MainnetActions.LifecycleHistory

namespace CryptoLending.MainnetActions.LifecycleReplay

open Lib Lib.JsValue Lib.Transaction Intent LifecycleData Lifecycle LifecycleSteps
  LifecycleInvariant LifecycleProgress LifecycleUniqueness LifecycleHistory

variable {P : Platform}

theorem submissionKeys_nodup : submissionKeys.Nodup := by decide

theorem broadcastKeys_nodup : broadcastKeys.Nodup := by decide

theorem reconciliationKeys_nodup : reconciliationKeys.Nodup := by decide

/-- A text, or the null of an absent one. -/
def nullableText : Option String → Value
  | some text => .string text
  | none => .null

section Fields

variable {ε : Type}

theorem chainText_ok {networkId : Blockchain.LaunchNetwork.MainnetLaunchNetworkId}
    {decodedLength : Nat} {value : Value} {code : ε} {text : String}
    (h : chainText networkId decodedLength value code = .ok text) : value = .string text := by
  cases networkId with
  | eip155 => exact (textOf_ok.mp h).1
  | solana => exact (textOf_ok.mp h).1

theorem canonicalUint64_ok {value : Value} {code : ε} {n : Uint64Text}
    (h : canonicalUint64 value code = .ok n) : value = .string n.text := by
  simp only [canonicalUint64, except_bind_ok, orFail_ok, Value.string?_eq_some] at h
  obtain ⟨text, rfl, _, _, h⟩ := h
  split at h
  · simp only [except_bind_ok, except_pure_ok] at h
    obtain ⟨_, _, rfl⟩ := h
    rfl
  · cases h

theorem nullable_ok {α : Type} {read : Value → ε → Except ε α} {value : Value} {code : ε}
    {o : Option α} (text : α → String) (hread : ∀ a, read value code = .ok a → value = .string (text a))
    (h : nullable read value code = .ok o) : value = nullableText (o.map text) := by
  unfold nullable at h
  split at h
  · cases h
    exact (Value.isNull_iff value).mp ‹_›
  · cases hr : read value code with
    | error e =>
      rw [hr] at h
      cases h
    | ok a =>
      rw [hr] at h
      cases h
      exact hread a hr

theorem chainPointer_ok {position : Option Uint64Text} {blockId : Option String} {code : Failure}
    {o : Option ChainPointer} (h : chainPointer position blockId code = .ok o) :
    position = o.map (·.position) ∧ blockId = o.map (·.blockId) := by
  cases position <;> cases blockId <;> cases h <;> exact ⟨rfl, rfl⟩

theorem outcome_ok {α : Type} {outcomes : List α} {text : α → String} {value : Value} {code : ε}
    {o : α} (h : orFail (outcomes.find? (fun o => value.isText (text o))) code = .ok o) :
    value = .string (text o) := by
  have hfound := List.find?_some (orFail_ok.mp h)
  exact Value.isText_iff.mp hfound

theorem schemaVersion_eq {input : Record}
    (h : (input.get "schemaVersion").isNumber 1 = true) : input.get "schemaVersion" = .integer 1 :=
  Value.isNumber_iff.mp h

end Fields

/-- The input a submission was read from. -/
def submissionRecord (x : WalletSignedSubmission) : Record :=
  [("schemaVersion", .integer 1), ("intentId", .string x.intentId),
    ("intentFingerprintSha256", .string x.intentFingerprintSha256),
    ("networkId", .string x.networkId.text),
    ("signerWalletAccountId", .string x.signerWalletAccountId),
    ("transactionId", .string x.transactionId),
    ("walletSignedPayloadSha256", .string x.walletSignedPayloadSha256),
    ("walletSignatureEvidenceSha256", .string x.walletSignatureEvidenceSha256),
    ("signedAt", .string x.signedAt.text)]

def broadcastRecord (x : WalletBroadcast) : Record :=
  [("schemaVersion", .integer 1), ("observationId", .string x.observationId),
    ("intentId", .string x.intentId),
    ("submissionFingerprintSha256", .string x.submissionFingerprintSha256),
    ("networkId", .string x.networkId.text), ("transactionId", .string x.transactionId),
    ("outcome", .string x.outcome.text), ("evidenceSha256", .string x.evidenceSha256),
    ("observedAt", .string x.observedAt.text)]

def reconciliationRecord (x : Reconciliation) : Record :=
  [("schemaVersion", .integer 1), ("observationId", .string x.observationId),
    ("intentId", .string x.intentId),
    ("submissionFingerprintSha256", .string x.submissionFingerprintSha256),
    ("networkId", .string x.networkId.text), ("transactionId", .string x.transactionId),
    ("outcome", .string x.outcome.text),
    ("transactionPosition", nullableText (x.transaction.map (·.position.text))),
    ("transactionBlockId", nullableText (x.transaction.map (·.blockId))),
    ("finalizedPosition", .string x.finalized.position.text),
    ("finalizedBlockId", .string x.finalized.blockId),
    ("effectEvidenceSha256", nullableText x.effectEvidenceSha256),
    ("failureEvidenceSha256", nullableText x.failureEvidenceSha256),
    ("sourceEvidenceSha256", .string x.sourceEvidenceSha256),
    ("observedAt", .string x.observedAt.text)]

/-- A submission carries every field of its input. -/
theorem ReadsSubmission_input {s : State} {value now : Value} {record : LifecycleRecord}
    {x : WalletSignedSubmission} {time : Int} (h : ReadsSubmission P s value now record x time) :
    exactDataRecord value submissionKeys = some (submissionRecord x) := by
  obtain ⟨input, hi, hv, hid, hparse⟩ := h.reads
  have hfields := parseSubmission_fields P hparse
  simp only [submissionFields, except_bind_ok, failWhen_ok, except_pure_ok, not_or,
    Bool.not_eq_true', Bool.not_eq_false] at hfields
  obtain ⟨_, hdigest, _, ⟨_, hnetwork⟩, _, _, _, hsigner, _, htransaction, _, hpayload, _,
    hsignature, _, _, _, hsigned, hx⟩ := hfields
  have heq := exactDataRecord_eq hi submissionKeys_nodup
  simp only [submissionKeys, List.map_cons, List.map_nil, schemaVersion_eq hv,
    (textOf_ok.mp hid).1, (textOf_ok.mp hdigest).1, Value.isText_iff.mp hnetwork,
    Value.isText_iff.mp hsigner, chainText_ok htransaction, (textOf_ok.mp hpayload).1,
    (textOf_ok.mp hsignature).1, canonicalTime_text hsigned] at heq
  rw [hi, heq, ← hx]
  rfl

theorem assertContext_input {current : LifecycleSnapshot} {input : Record} {code : Failure}
    {submission : SubmissionBinding} {transactionId : String}
    (h : assertContext current input code = .ok (submission, transactionId)) :
    input.get "submissionFingerprintSha256" = .string submission.submissionFingerprintSha256 ∧
      input.get "networkId" = .string current.intent.networkId.text ∧
      input.get "transactionId" = .string transactionId := by
  simp only [assertContext, except_bind_ok, orFail_ok, failWhen_ok, except_pure_ok, Prod.mk.injEq,
    Bool.or_eq_true, not_or, Bool.not_eq_true', Bool.not_eq_false] at h
  obtain ⟨_, _, _, _, _, ⟨hfingerprint, hnetwork⟩, _, htransaction, _, _, rfl, rfl⟩ := h
  exact ⟨Value.isText_iff.mp hfingerprint, Value.isText_iff.mp hnetwork, chainText_ok htransaction⟩

theorem ReadsBroadcast_input {s : State} {value now : Value} {record : LifecycleRecord}
    {submission : SubmissionBinding} {x : WalletBroadcast} {time : Int}
    (h : ReadsBroadcast s value now record submission x time) :
    exactDataRecord value broadcastKeys = some (broadcastRecord x) := by
  obtain ⟨input, hi, hv, hid, ho, hparse⟩ := h.reads
  have hfields := parseBroadcast_fields hparse
  simp only [broadcastFields, except_bind_ok, except_pure_ok, Prod.mk.injEq] at hfields
  obtain ⟨⟨_, _⟩, hcontext, _, houtcome, _, hevidence, _, hobserved, rfl, hx⟩ := hfields
  obtain ⟨hfingerprint, hnetwork, htransaction⟩ := assertContext_input hcontext
  have heq := exactDataRecord_eq hi broadcastKeys_nodup
  simp only [broadcastKeys, List.map_cons, List.map_nil, schemaVersion_eq hv,
    (textOf_ok.mp hid).1, (textOf_ok.mp ho).1, hfingerprint, hnetwork, htransaction,
    outcome_ok houtcome, (textOf_ok.mp hevidence).1, canonicalTime_text hobserved] at heq
  rw [hi, heq, ← hx]
  rfl

theorem ReadsReconciliation_input {s : State} {value now : Value} {record : LifecycleRecord}
    {submission : SubmissionBinding} {x : Reconciliation}
    (h : ReadsReconciliation s value now record submission x) :
    exactDataRecord value reconciliationKeys = some (reconciliationRecord x) := by
  obtain ⟨input, hi, hv, hid, ho, hparse⟩ := h.reads
  have hfields := parseReconciliation_fields hparse
  simp only [reconciliationFields, except_bind_ok, except_pure_ok, Prod.mk.injEq] at hfields
  obtain ⟨⟨_, _⟩, hcontext, _, houtcome, _, hposition, _, hblock, _, hpointer, _, hfinalized, _,
    hfinalizedBlock, _, heffect, _, hfailure, _, hsource, _, hobserved, rfl, hx⟩ := hfields
  obtain ⟨hfingerprint, hnetwork, htransaction⟩ := assertContext_input hcontext
  obtain ⟨rfl, rfl⟩ := chainPointer_ok hpointer
  have hposition' := nullable_ok (·.text) (fun _ => canonicalUint64_ok) hposition
  have hblock' := nullable_ok id (fun _ => chainText_ok) hblock
  have heffect' := nullable_ok id (fun _ hd => (textOf_ok.mp hd).1) heffect
  have hfailure' := nullable_ok id (fun _ hd => (textOf_ok.mp hd).1) hfailure
  have heq := exactDataRecord_eq hi reconciliationKeys_nodup
  simp only [reconciliationKeys, List.map_cons, List.map_nil, schemaVersion_eq hv,
    (textOf_ok.mp hid).1, (textOf_ok.mp ho).1, hfingerprint, hnetwork, htransaction,
    outcome_ok houtcome, hposition', hblock', canonicalUint64_ok hfinalized,
    chainText_ok hfinalizedBlock, heffect', hfailure', (textOf_ok.mp hsource).1,
    canonicalTime_text hobserved, Option.map_id, id_eq, Option.map_map] at heq
  rw [hi, heq, ← hx]
  rfl

/-- The server time a call is made at. -/
def callTime : Call → Option Int
  | .prepareIntent _ now => now.milliseconds?
  | .bindWalletSignedSubmission _ now => now.milliseconds?
  | .recordWalletBroadcastObservation _ now => now.milliseconds?
  | .recordReconciliationObservation _ now => now.milliseconds?
  | .readSnapshot _ => none

/-- The server time is not before that of the call. -/
def NotEarlier (call : Call) (now : Value) : Prop :=
  ∃ time time', callTime call = some time ∧ now.milliseconds? = some time' ∧ time ≤ time'

/-- The same call at another server time. -/
def retry (now : Value) : Call → Call
  | .prepareIntent input _ => .prepareIntent input now
  | .bindWalletSignedSubmission value _ => .bindWalletSignedSubmission value now
  | .recordWalletBroadcastObservation value _ => .recordWalletBroadcastObservation value now
  | .recordReconciliationObservation value _ => .recordReconciliationObservation value now
  | .readSnapshot intentId => .readSnapshot intentId

theorem namedIntent_retry (now : Value) (call : Call) :
    namedIntent (retry now call) = namedIntent call := by
  cases call <;> rfl

section Later

variable {s t : State} {value now now' : Value} {record r : LifecycleRecord} {time time' : Int}

theorem readsSubmission_later {x : WalletSignedSubmission}
    (h : ReadsSubmission P s value now record x time) (hr : t.records.get x.intentId = some r)
    (hk : Keeps record r) (hnow : now'.milliseconds? = some time') :
    ReadsSubmission P t value now' r x time' := by
  obtain ⟨input, hi, hv, hid, hparse⟩ := h.reads
  have hfields := parseSubmission_fields P hparse
  refine ⟨hr, input, hi, hv, hid, ?_⟩
  simp only [submissionFields, ← hk.intent, ← hk.intentDigest] at hfields
  simp only [parseSubmission, submissionFields, hfields]
  exact except_bind_ok.mpr ⟨x, rfl, except_bind_ok.mpr ⟨time', orFail_ok.mpr hnow, rfl⟩⟩

theorem readsSubmission_time {x : WalletSignedSubmission}
    (h : ReadsSubmission P s value now record x time) : now.milliseconds? = some time := by
  obtain ⟨input, _, _, _, hparse⟩ := h.reads
  simp only [parseSubmission, except_bind_ok, except_pure_ok, Prod.mk.injEq] at hparse
  obtain ⟨_, _, _, htime, rfl, rfl⟩ := hparse
  exact orFail_ok.mp htime

theorem readsBroadcast_time {submission : SubmissionBinding} {x : WalletBroadcast}
    (h : ReadsBroadcast s value now record submission x time) : now.milliseconds? = some time := by
  obtain ⟨input, _, _, _, _, hparse⟩ := h.reads
  simp only [parseBroadcast, except_bind_ok, except_pure_ok, Prod.mk.injEq] at hparse
  obtain ⟨_, _, _, htime, _, _, rfl, rfl, rfl⟩ := hparse
  exact orFail_ok.mp htime

theorem readsReconciliation_time {submission : SubmissionBinding} {x : Reconciliation}
    (h : ReadsReconciliation s value now record submission x) :
    ∃ time, now.milliseconds? = some time := by
  obtain ⟨input, _, _, _, _, hparse⟩ := h.reads
  simp only [parseReconciliation, except_bind_ok, except_pure_ok, Prod.mk.injEq] at hparse
  obtain ⟨_, _, _, _, _, _, time, htime, _⟩ := hparse
  exact ⟨time, orFail_ok.mp htime⟩

theorem assertContext_later {input : Record} {code : Failure} {submission : SubmissionBinding}
    {transactionId : String} (hk : Keeps record r)
    (h : assertContext record.current input code = .ok (submission, transactionId)) :
    assertContext r.current input code = .ok (submission, transactionId) := by
  have hsubmission := assertContext_submission h
  rw [← h]
  simp only [assertContext, hk.intent, hsubmission, hk.submission _ hsubmission]

theorem readsBroadcast_later {submission : SubmissionBinding} {x : WalletBroadcast}
    (h : ReadsBroadcast s value now record submission x time)
    (hr : t.records.get x.intentId = some r) (hk : Keeps record r)
    (hnow : now'.milliseconds? = some time') :
    ReadsBroadcast t value now' r submission x time' := by
  obtain ⟨input, hi, hv, hid, ho, hparse⟩ := h.reads
  refine ⟨hr, input, hi, hv, hid, ho, ?_⟩
  simp only [parseBroadcast, broadcastFields, except_bind_ok, except_pure_ok, Prod.mk.injEq]
    at hparse ⊢
  obtain ⟨p, ⟨q, hcontext, hfields⟩, _, _, _, hdistinct, rfl, rfl, rfl⟩ := hparse
  refine ⟨p, ⟨q, assertContext_later hk hcontext, ?_⟩, time', orFail_ok.mpr hnow, _, hdistinct, rfl,
    rfl, rfl⟩
  rw [hk.intent]
  exact hfields

theorem readsReconciliation_later {submission : SubmissionBinding} {x : Reconciliation}
    (h : ReadsReconciliation s value now record submission x)
    (hr : t.records.get x.intentId = some r) (hk : Keeps record r)
    (hnow : now'.milliseconds? = some time')
    (hlate : ∀ time, now.milliseconds? = some time → time ≤ time') :
    ReadsReconciliation t value now' r submission x := by
  obtain ⟨input, hi, hv, hid, ho, hparse⟩ := h.reads
  refine ⟨hr, input, hi, hv, hid, ho, ?_⟩
  simp only [parseReconciliation, reconciliationFields, except_bind_ok, except_pure_ok, failWhen_ok,
    orFail_ok, Prod.mk.injEq] at hparse ⊢
  obtain ⟨p, ⟨q, hcontext, hfields⟩, observation, hobservation, _, hafter, time, htime, _, hobserved,
    _, hshape, rfl, rfl⟩ := hparse
  have hle := hlate time (orFail_ok.mp htime)
  refine ⟨p, ⟨q, assertContext_later hk hcontext, ?_⟩, observation, hk.broadcast _ hobservation, ⟨⟩,
    hafter, time', orFail_ok.mpr hnow, ⟨⟩, by omega, ⟨⟩, hshape, rfl, rfl⟩
  rw [hk.intent]
  exact hfields

end Later

variable (P) in
/-- A call that finds in the record of its intent what it was to record. -/
inductive Replays (s : State) : Call → LifecycleRecord → Prop
  | submission {value now : Value} {record : LifecycleRecord} {x : WalletSignedSubmission}
      {time : Int} {replay : Replay} (reads : ReadsSubmission P s value now record x time)
      (replayed : record.submissionReplay = some replay)
      (same : replay.fingerprint = x.fingerprint P) :
      Replays s (.bindWalletSignedSubmission value now) record
  | broadcast {value now : Value} {record : LifecycleRecord} {submission : SubmissionBinding}
      {x : WalletBroadcast} {time : Int} {replay : BroadcastReplay}
      (reads : ReadsBroadcast s value now record submission x time)
      (replayed : record.broadcastReplay = some replay)
      (observation : replay.observationId = x.observationId)
      (same : replay.fingerprint = x.fingerprint P) :
      Replays s (.recordWalletBroadcastObservation value now) record
  | reconciliation {value now : Value} {record : LifecycleRecord} {submission : SubmissionBinding}
      {x : Reconciliation} {replay : Replay}
      (reads : ReadsReconciliation s value now record submission x)
      (replayed : record.reconciliationReplays.get x.observationId = some replay)
      (same : replay.fingerprint = x.fingerprint P) :
      Replays s (.recordReconciliationObservation value now) record

theorem returns_answer {α : Type} {c : Prop} [Decidable c] (hc : ¬c) (code : LifecycleErrorCode)
    (a : α) (s : State) : Returns (do refuseWhen c code; return a) s a s :=
  returns_bind.mpr ⟨⟨⟩, s, returns_refuseWhen.mpr ⟨hc, rfl⟩, returns_pure.mpr ⟨rfl, rfl⟩⟩

/-- A replay returns the current snapshot and leaves the state as it was. -/
theorem Replays.step {s : State} {call : Call} {r : LifecycleRecord} (h : Replays P s call r) :
    (protocol P).step s call = (.ok r.current, s) := by
  change Returns (perform P call) s r.current s
  cases h with
  | @submission value now record x time replay reads replayed same =>
    rw [perform, bindWalletSignedSubmission, returns_bind]
    refine ⟨_, s, (returns_readSubmission P).mpr ⟨reads, rfl⟩, ?_⟩
    simp only [replayed]
    exact returns_answer (not_not.mpr same) _ _ _
  | @broadcast value now record submission x time replay reads replayed observation same =>
    rw [perform, recordWalletBroadcastObservation, returns_bind]
    refine ⟨_, s, returns_readBroadcast.mpr ⟨reads, rfl⟩, ?_⟩
    simp only [replayed]
    exact returns_answer (not_or.mpr ⟨not_not.mpr observation, not_not.mpr same⟩) _ _ _
  | @reconciliation value now record submission x replay reads replayed same =>
    rw [perform, recordReconciliationObservation, returns_bind]
    refine ⟨_, s, returns_readReconciliation.mpr ⟨reads, rfl⟩, ?_⟩
    simp only [replayed]
    exact returns_answer (not_not.mpr same) _ _ _

theorem Replays.named {s : State} {call : Call} {r : LifecycleRecord} (h : Replays P s call r) :
    ∃ id, namedIntent call = some id ∧ s.records.get id = some r := by
  cases h with
  | submission reads =>
    obtain ⟨input, hi, _, hid, _⟩ := reads.reads
    exact ⟨_, named_of_uuid hi hid, reads.found⟩
  | broadcast reads =>
    obtain ⟨input, hi, _, hid, _⟩ := reads.reads
    exact ⟨_, named_of_uuid hi hid, reads.found⟩
  | reconciliation reads =>
    obtain ⟨input, hi, _, hid, _⟩ := reads.reads
    exact ⟨_, named_of_uuid hi hid, reads.found⟩

/-- A replay stays one at any later time and in every later state. -/
theorem Replays.later {s t : State} {call : Call} {now : Value} {r : LifecycleRecord}
    (h : Replays P s call r) (ht : Extends s t) (hnow : NotEarlier call now) :
    ∃ r', Replays P t (retry now call) r' := by
  obtain ⟨time, time', htime, htime', hle⟩ := hnow
  cases h with
  | @submission value now record x _ replay reads replayed same =>
    obtain ⟨r', hr', hk⟩ := ht _ _ reads.found
    exact ⟨r', .submission (readsSubmission_later reads hr' hk htime')
      (hk.submissionReplay _ replayed) same⟩
  | @broadcast value now record submission x _ replay reads replayed observation same =>
    obtain ⟨r', hr', hk⟩ := ht _ _ reads.found
    exact ⟨r', .broadcast (readsBroadcast_later reads hr' hk htime')
      (hk.broadcastReplay _ replayed) observation same⟩
  | @reconciliation value now record submission x replay reads replayed same =>
    obtain ⟨r', hr', hk⟩ := ht _ _ reads.found
    have hlate : ∀ time'', now.milliseconds? = some time'' → time'' ≤ time' := by
      intro time'' ht''
      rw [callTime, ht'', Option.some.injEq] at htime
      omega
    exact ⟨r', .reconciliation (readsReconciliation_later reads hr' hk htime' hlate)
      (hk.reconciliationReplays _ _ replayed) same⟩

/-- The operation whose report a call makes. -/
def callOperation : Call → Option ReportOperation
  | .prepareIntent _ _ => none
  | .bindWalletSignedSubmission _ _ => some .bind
  | .recordWalletBroadcastObservation _ _ => some .broadcast
  | .recordReconciliationObservation _ _ => some .reconcile
  | .readSnapshot _ => none

/-- The fields of the input of a reporting call. -/
def callFields : Call → Option Record
  | .prepareIntent _ _ => none
  | .bindWalletSignedSubmission value _ => exactDataRecord value submissionKeys
  | .recordWalletBroadcastObservation value _ => exactDataRecord value broadcastKeys
  | .recordReconciliationObservation value _ => exactDataRecord value reconciliationKeys
  | .readSnapshot _ => none

def textAt (value : Value) (key : String) : Option String := (ownValue value key).bind Value.string?

/-- What a reporting call is about: the binding of an intent or an observation. -/
def callSubject : Call → Option Subject
  | .prepareIntent _ _ => none
  | .bindWalletSignedSubmission value _ => (textAt value "intentId").map .binding
  | .recordWalletBroadcastObservation value _ => (textAt value "observationId").map .observation
  | .recordReconciliationObservation value _ => (textAt value "observationId").map .observation
  | .readSnapshot _ => none

/-- The fields that a report carries. -/
def reportFields : Report → Record
  | .submission x => submissionRecord x
  | .broadcast x => broadcastRecord x
  | .reconciliation x => reconciliationRecord x

theorem textAt_uuid {ε : Type} {value : Value} {keys : List String} {input : Record} {code : ε}
    {key id : String} (hi : exactDataRecord value keys = some input) (hkeys : keys.Nodup)
    (hkey : key ∈ keys) (hid : uuid (input.get key) code = .ok id) : textAt value key = some id := by
  rw [textAt, ownValue_of_exactDataRecord hi hkeys hkey, Option.bind_some, (textOf_ok.mp hid).1]
  rfl

theorem Reads_subject {s : State} {call : Call} {y : Report} (h : Reads P s call y) :
    callSubject call = some y.subject := by
  cases h with
  | submission h =>
    obtain ⟨input, hi, _, hid, _⟩ := h.reads
    rw [callSubject, textAt_uuid hi submissionKeys_nodup (by decide) hid]
    rfl
  | broadcast h =>
    obtain ⟨input, hi, _, _, ho, _⟩ := h.reads
    rw [callSubject, textAt_uuid hi broadcastKeys_nodup (by decide) ho]
    rfl
  | reconciliation h =>
    obtain ⟨input, hi, _, _, ho, _⟩ := h.reads
    rw [callSubject, textAt_uuid hi reconciliationKeys_nodup (by decide) ho]
    rfl

theorem Reads_fields {s : State} {call : Call} {y : Report} (h : Reads P s call y) :
    callFields call = some (reportFields y) := by
  cases h with
  | submission h => exact ReadsSubmission_input h
  | broadcast h => exact ReadsBroadcast_input h
  | reconciliation h => exact ReadsReconciliation_input h

theorem step_reads {s s' : State} {call : Call} {snapshot : LifecycleSnapshot}
    (hstep : Step P s call snapshot s') (hcall : (callOperation call).isSome = true) :
    ∃ y, Reads P s call y := by
  cases hstep with
  | prepared => cases hcall
  | preparedAgain => cases hcall
  | bound reads => exact ⟨_, .submission reads⟩
  | boundAgain reads => exact ⟨_, .submission reads⟩
  | broadcast reads => exact ⟨_, .broadcast reads⟩
  | broadcastAgain reads => exact ⟨_, .broadcast reads⟩
  | reconciled reads => exact ⟨_, .reconciliation reads⟩
  | reconciledAgain reads => exact ⟨_, .reconciliation reads⟩
  | read => cases hcall

/-- A call that was accepted would be a replay if it were made again at once. -/
theorem step_replays {s s' : State} {call : Call} {snapshot : LifecycleSnapshot}
    (hstep : Step P s call snapshot s') (h : Invariant P s)
    (hcall : (callOperation call).isSome = true) : ∃ r, Replays P s' call r := by
  have hextends := (step_effect hstep h).extends
  cases hstep with
  | prepared => cases hcall
  | preparedAgain => cases hcall
  | bound reads =>
    obtain ⟨r, hr, hk⟩ := hextends _ _ reads.found
    obtain rfl := Option.some.inj (hr.symm.trans (JsMap.get_set_self _ _ _))
    exact ⟨_, .submission (readsSubmission_later reads hr hk (readsSubmission_time reads)) rfl rfl⟩
  | boundAgain reads replayed same => exact ⟨_, .submission reads replayed same⟩
  | broadcast reads =>
    obtain ⟨r, hr, hk⟩ := hextends _ _ reads.found
    obtain rfl := Option.some.inj (hr.symm.trans (JsMap.get_set_self _ _ _))
    exact ⟨_, .broadcast (readsBroadcast_later reads hr hk (readsBroadcast_time reads)) rfl rfl rfl⟩
  | broadcastAgain reads replayed observation same =>
    exact ⟨_, .broadcast reads replayed observation same⟩
  | @reconciled _ now _ _ _ _ reads =>
    obtain ⟨r, hr, hk⟩ := hextends _ _ reads.found
    obtain rfl := Option.some.inj (hr.symm.trans (JsMap.get_set_self _ _ _))
    obtain ⟨time, htime⟩ := readsReconciliation_time reads
    have hlate : ∀ time', now.milliseconds? = some time' → time' ≤ time := by
      intro time' htime'
      exact (Option.some.inj (htime'.symm.trans htime)).le
    exact ⟨_, .reconciliation (readsReconciliation_later reads hr hk htime hlate)
      (JsMap.get_set_self _ _ _) rfl⟩
  | reconciledAgain reads replayed same => exact ⟨_, .reconciliation reads replayed same⟩
  | read => cases hcall

variable (P) in
/-- The texts that stand behind the fingerprints of the reports of one call. -/
def readTexts (s : State) (call : Call) : Set String := {t | ∃ y, Reads P s call y ∧ t = y.text}

/-- Two calls that were accepted about one subject carry the same fields. -/
theorem accepted_fields {s t u : State} {call call' : Call} {snapshot snapshot' : LifecycleSnapshot}
    (hs : Invariant P s) (hstep : Step P s call snapshot t) {t' : State} (ht' : Extends t t')
    (hI : Invariant P t') (hstep' : Step P t' call' snapshot' u)
    (hcall : (callOperation call).isSome = true) (hcall' : (callOperation call').isSome = true)
    (hsubject : callSubject call' = callSubject call)
    (hP : CollisionFree P (readTexts P s call ∪ readTexts P t' call')) :
    callFields call' = callFields call := by
  obtain ⟨y, hy⟩ := step_reads hstep hcall
  obtain ⟨w, hw⟩ := step_reads hstep' hcall'
  have hextends := (step_effect hstep' hI).extends
  obtain ⟨z, hz, hzo, hzs, hzt⟩ := ((step_twin hstep hs hy).extends ht').extends hextends
  obtain ⟨z', hz', hzo', hzs', hzt'⟩ := step_twin hstep' hI hw
  rw [Reads_subject hy, Reads_subject hw, Option.some.injEq] at hsubject
  have hzz : z = z' :=
    subject_unique (step_invariant hstep' hI) hz hz' (by rw [hzs, hzs', hsubject])
  have htext : y.text = w.text :=
    hP (.inl ⟨y, hy, rfl⟩) (.inr ⟨w, hw, rfl⟩) (by rw [← hzt, ← hzt', hzz])
  have hyw : y = w := Report.ext_text (by rw [← hzo, ← hzo', hzz]) htext
  rw [Reads_fields hy, Reads_fields hw, hyw]

theorem callOperation_isSome {call call' : Call}
    (h : callSubject call' = callSubject call) (hsome : (callSubject call).isSome = true) :
    (callOperation call').isSome = true := by
  rw [← h] at hsome
  cases call' with
  | prepareIntent => cases hsome
  | readSnapshot => cases hsome
  | bindWalletSignedSubmission => rfl
  | recordWalletBroadcastObservation => rfl
  | recordReconciliationObservation => rfl

/-- Once a reporting call was accepted, at any later time the same call returns the current snapshot
of its intent, and a call about the same subject with other fields throws. Neither changes the
state. -/
theorem protocol_replays (P : Platform) (cs ds : List Call) (call : Call)
    {snapshot : LifecycleSnapshot} (hcall : (callOperation call).isSome = true)
    (accepted : ((protocol P).step ((protocol P).reached cs) call).1 = .ok snapshot) :
    let s := (protocol P).reached (cs ++ call :: ds)
    (∀ now, NotEarlier call now → ∃ id r, namedIntent call = some id ∧
      s.records.get id = some r ∧ (protocol P).step s (retry now call) = (.ok r.current, s)) ∧
    (∀ call', callSubject call' = callSubject call → callFields call' ≠ callFields call →
      CollisionFree P (readTexts P ((protocol P).reached cs) call ∪ readTexts P s call') →
        ∃ e, (protocol P).step s call' = (.error e, s)) := by
  intro s
  have hI : ∀ cs, Invariant P ((protocol P).reached cs) := protocol_invariant.reached
  obtain ⟨_, herror, _⟩ | ⟨_, _, hstep⟩ := protocol_step (P := P) ((protocol P).reached cs) call
  · rw [accepted] at herror
    cases herror
  rw [← Machine.reached_snoc] at hstep
  have hextends : Extends ((protocol P).reached (cs ++ [call])) s := by
    have h := reached_extends (P := P) (cs ++ [call]) ds
    rwa [List.append_assoc] at h
  constructor
  · intro now hnow
    obtain ⟨r, hr⟩ := step_replays hstep (hI cs) hcall
    obtain ⟨r', hr'⟩ := hr.later hextends hnow
    obtain ⟨id, hid, hfound⟩ := hr'.named
    rw [namedIntent_retry] at hid
    exact ⟨id, r', hid, hfound, hr'.step⟩
  · intro call' hsubject hfields hP
    obtain ⟨e, he, hs⟩ | ⟨snapshot', _, hstep'⟩ := protocol_step (P := P) s call'
    · exact ⟨e, Prod.ext he hs⟩
    · obtain ⟨y, hy⟩ := step_reads hstep hcall
      have hcall' := callOperation_isSome hsubject (by rw [Reads_subject hy]; rfl)
      exact absurd (accepted_fields (hI cs) hstep hextends (hI _) hstep' hcall hcall' hsubject hP)
        hfields

theorem sampleReconcile_accepted : ∃ snapshot, ((protocol samplePlatform).step
    ((protocol samplePlatform).reached [samplePrepare, sampleBind, sampleBroadcast])
      sampleReconcile).1 = .ok snapshot := by
  have hall := (Prod.mk.inj sampleRun_evaluated).1
  have htrace := Machine.trace_snoc (M := protocol samplePlatform)
    [samplePrepare, sampleBind, sampleBroadcast] sampleReconcile
  have hok := List.all_eq_true.mp hall _ (htrace ▸ List.mem_append_right _ List.mem_cons_self)
  cases h : ((protocol samplePlatform).step ((protocol samplePlatform).reached
      [samplePrepare, sampleBind, sampleBroadcast]) sampleReconcile).1 with
  | error e =>
    rw [Machine.event, h] at hok
    cases hok
  | ok snapshot => exact ⟨snapshot, rfl⟩

/-- The reconciliation that ended the run, sent again a day later. -/
theorem sampleReconcile_replays :
    let s := (protocol samplePlatform).reached sampleRun
    ∃ id r, namedIntent sampleReconcile = some id ∧ s.records.get id = some r ∧
      (protocol samplePlatform).step s (retry (.date (some 1788782450000)) sampleReconcile) =
        (.ok r.current, s) := by
  obtain ⟨snapshot, accepted⟩ := sampleReconcile_accepted
  have hlater : NotEarlier sampleReconcile (.date (some 1788782450000)) :=
    ⟨_, _, rfl, rfl, by decide⟩
  exact (protocol_replays samplePlatform [samplePrepare, sampleBind, sampleBroadcast] []
    sampleReconcile rfl accepted).1 _ hlater

end CryptoLending.MainnetActions.LifecycleReplay
