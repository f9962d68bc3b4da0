import CryptoLending.MainnetActions.LifecycleAtomicity
import CryptoLending.MainnetActions.LifecycleSteps

namespace CryptoLending.MainnetActions.LifecycleInvariant

open Lib Intent LifecycleData Lifecycle LifecycleSteps

/-- What an accepted call says about its intent. -/
inductive Report where
  | submission (x : WalletSignedSubmission)
  | broadcast (x : WalletBroadcast)
  | reconciliation (x : Reconciliation)

inductive ReportOperation where
  | bind
  | broadcast
  | reconcile
  deriving DecidableEq

inductive Subject where
  | binding (intentId : String)
  | observation (observationId : String)
  deriving DecidableEq

namespace Report

def text : Report → String
  | .submission x => x.text
  | .broadcast x => x.text
  | .reconciliation x => x.text

def intentId : Report → String
  | .submission x => x.intentId
  | .broadcast x => x.intentId
  | .reconciliation x => x.intentId

def observationId? : Report → Option String
  | .submission _ => none
  | .broadcast x => some x.observationId
  | .reconciliation x => some x.observationId

/-- The operation that records the report. -/
def operation : Report → ReportOperation
  | .submission _ => .bind
  | .broadcast _ => .broadcast
  | .reconciliation _ => .reconcile

/-- What there may be only one report about. -/
def subject : Report → Subject
  | .submission x => .binding x.intentId
  | .broadcast x => .observation x.observationId
  | .reconciliation x => .observation x.observationId

def claims (P : Platform) : Report → List EvidenceDigestClaim
  | .submission x => x.evidenceClaims P
  | .broadcast x => x.evidenceClaims P
  | .reconciliation x => x.evidenceClaims P

/-- A report is determined by its operation and the text that is hashed for it. -/
theorem ext_text {x y : Report} (ho : x.operation = y.operation) (h : x.text = y.text) : x = y := by
  cases x with
  | submission x =>
    cases y with
    | submission y => rw [WalletSignedSubmission.text_injective h]
    | broadcast y => cases ho
    | reconciliation y => cases ho
  | broadcast x =>
    cases y with
    | submission y => cases ho
    | broadcast y => rw [WalletBroadcast.text_injective h]
    | reconciliation y => cases ho
  | reconciliation x =>
    cases y with
    | submission y => cases ho
    | broadcast y => cases ho
    | reconciliation y => rw [Reconciliation.text_injective h]

end Report

/-- How far a stage is. -/
def rank : LifecycleStage → Nat
  | .prepared => 0
  | .walletSignedSubmissionBound => 1
  | .broadcastOutcomeAmbiguous => 2
  | .reconciliationAmbiguous => 3
  | .finalizedSuccess | .finalizedFailure | .reorgQuarantined => 4

theorem rank_stage (o : ReconciliationOutcome) : 3 ≤ rank o.stage := by
  cases o <;> decide

/-- The report is in one of the slots of the record. -/
def Holds (r : LifecycleRecord) : Report → Prop
  | .submission x => ∃ b, r.current.submission = some b ∧ b.toWalletSignedSubmission = x
  | .broadcast x => ∃ o, r.current.broadcastObservation = some o ∧ o.toWalletBroadcast = x
  | .reconciliation x => ∃ replay o, r.reconciliationReplays.get x.observationId = some replay ∧
      replay.snapshot.reconciliation = some o ∧ o.toReconciliation = x

def Recorded (s : State) (y : Report) : Prop :=
  ∃ r, s.records.get y.intentId = some r ∧ Holds r y

section Evidence

variable {owners : JsMap String EvidenceOwner} {claims : List EvidenceDigestClaim}

/-- One digest is not claimed for two owners. -/
def Consistent (claims : List EvidenceDigestClaim) : Prop :=
  ∀ c ∈ claims, ∀ d ∈ claims, c.digest = d.digest → c.owner = d.owner

theorem get_setEvidence_of_not {digest : String} (h : ∀ c ∈ claims, c.digest ≠ digest) :
    (State.setEvidence owners claims).get digest = owners.get digest := by
  induction claims generalizing owners with
  | nil => rfl
  | cons c claims ih =>
    have hne : digest ≠ c.digest := (h c List.mem_cons_self).symm
    have hrest := @ih (owners.set c.digest c.owner)
      (fun d hd => h d (List.mem_cons_of_mem _ hd))
    rw [JsMap.get_set_ne _ hne] at hrest
    exact hrest

theorem get_setEvidence (hc : Consistent claims) {c : EvidenceDigestClaim} (h : c ∈ claims) :
    (State.setEvidence owners claims).get c.digest = some c.owner := by
  induction claims generalizing owners c with
  | nil => simp at h
  | cons d claims ih =>
    have hrest : Consistent claims := fun a ha b hb =>
      hc a (List.mem_cons_of_mem _ ha) b (List.mem_cons_of_mem _ hb)
    by_cases he : ∃ e ∈ claims, e.digest = c.digest
    · obtain ⟨e, hmem, hdigest⟩ := he
      rw [← hdigest, ← hc e (List.mem_cons_of_mem _ hmem) c h hdigest]
      exact ih hrest hmem
    · obtain rfl : c = d := (List.mem_cons.mp h).resolve_right fun hm => he ⟨c, hm, rfl⟩
      have hnot := @get_setEvidence_of_not (owners.set c.digest c.owner) claims _
        (fun e hmem hdigest => he ⟨e, hmem, hdigest⟩)
      rw [JsMap.get_set_self] at hnot
      exact hnot

theorem get_setEvidence_old (hc : Consistent claims)
    (ha : ∀ c ∈ claims, ∀ owner, owners.get c.digest = some owner → owner = c.owner)
    {digest : String} {owner : EvidenceOwner} (h : owners.get digest = some owner) :
    (State.setEvidence owners claims).get digest = some owner := by
  by_cases he : ∃ c ∈ claims, c.digest = digest
  · obtain ⟨c, hmem, rfl⟩ := he
    rw [get_setEvidence hc hmem, ha c hmem owner h]
  · rw [get_setEvidence_of_not fun c hmem hdigest => he ⟨c, hmem, hdigest⟩, h]

end Evidence

section Invariants

variable (P : Platform)

/-- A bound submission and the slot that replays it. -/
inductive SubmissionSlot (id : String) : Option SubmissionBinding → Option Replay → Prop
  | empty : SubmissionSlot id none none
  | filled {x : WalletSignedSubmission} (snapshot : LifecycleSnapshot) (h : x.intentId = id) :
      SubmissionSlot id (some (x.binding P)) (some ⟨x.fingerprint P, snapshot⟩)

inductive BroadcastSlot (id : String) :
    Option WalletBroadcastObservation → Option BroadcastReplay → Prop
  | empty : BroadcastSlot id none none
  | filled {x : WalletBroadcast} (chainQualifiedTransactionId : String)
      (snapshot : LifecycleSnapshot) (h : x.intentId = id) :
      BroadcastSlot id (some ⟨x, chainQualifiedTransactionId⟩)
        (some ⟨⟨x.fingerprint P, snapshot⟩, x.observationId⟩)

/-- A recorded reconciliation and the slot that replays it. -/
def ReconciliationSlot (id observationId : String) (replay : Replay) : Prop :=
  ∃ o : ReconciliationObservation, replay.snapshot.reconciliation = some o ∧
    o.observationId = observationId ∧ o.intentId = id ∧
    replay.fingerprint = o.toReconciliation.fingerprint P

/-- How the fields of the record of an intent fit together. -/
structure RecordInvariant (id : String) (r : LifecycleRecord) : Prop where
  intentId : r.current.intent.intentId = id
  preparedDigest : r.prepared.intentFingerprintSha256 = intentFingerprint P r.current.intent
  intentDigest : r.current.intentFingerprintSha256 = intentFingerprint P r.current.intent
  terminal : r.current.terminal = isTerminalStage r.current.stage
  submission : SubmissionSlot P id r.current.submission r.submissionReplay
  broadcast : BroadcastSlot P id r.current.broadcastObservation r.broadcastReplay
  reconciliation : ∀ observationId replay,
    r.reconciliationReplays.get observationId = some replay →
      ReconciliationSlot P id observationId replay
  unsubmitted : r.current.submission = none ↔ rank r.current.stage = 0
  unbroadcast : r.current.broadcastObservation = none ↔ rank r.current.stage ≤ 1
  unreconciled : rank r.current.stage ≤ 2 → ∀ observationId,
    r.reconciliationReplays.get observationId = none
  roles : ∀ o, r.current.broadcastObservation = some o →
    r.reconciliationReplays.get o.observationId = none

/-- The records, and how the ownership maps reflect them. -/
structure Invariant (s : State) : Prop where
  records : ∀ id r, s.records.get id = some r → RecordInvariant P id r
  idempotency : ∀ id r, s.records.get id = some r →
    s.idempotencyOwners.get (idempotencyScope r.current.intent) =
      some (intentFingerprint P r.current.intent)
  replayProtection : ∀ id r, s.records.get id = some r →
    s.replayProtectionOwners.get (replayProtectionScope r.current.intent) =
      some (intentFingerprint P r.current.intent)
  transactions : ∀ id r b, s.records.get id = some r → r.current.submission = some b →
    s.transactionOwners.get b.chainQualifiedTransactionId = some id
  observations : ∀ id r y observationId, s.records.get id = some r → Holds r y →
    y.observationId? = some observationId → s.observationOwners.get observationId = some id
  evidence : ∀ id r y, s.records.get id = some r → Holds r y → ∀ c ∈ y.claims P,
    s.evidenceDigestOwners.get c.digest = some c.owner

theorem invariant_initial : Invariant P State.initial where
  records := fun id r h => by cases h
  idempotency := fun id r h => by cases h
  replayProtection := fun id r h => by cases h
  transactions := fun id r b h => by cases h
  observations := fun id r y o h => by cases h
  evidence := fun id r y h => by cases h

variable {P}

/-- A call that replaces the record of an intent and records one report keeps the invariant. -/
theorem Invariant.record {s : State} (h : Invariant P s) {id : String}
    {r r' : LifecycleRecord} {y : Report} {transactionOwners observationOwners : JsMap String String}
    (hr : s.records.get id = some r) (hr' : RecordInvariant P id r')
    (hintent : r'.current.intent = r.current.intent) (hold : ∀ z, Holds r' z → Holds r z ∨ z = y)
    (htransactions : ∀ d o, s.transactionOwners.get d = some o → transactionOwners.get d = some o)
    (hbinding : ∀ b, r'.current.submission = some b →
      transactionOwners.get b.chainQualifiedTransactionId = some id)
    (hobservations : ∀ d o, s.observationOwners.get d = some o → observationOwners.get d = some o)
    (hobservation : ∀ d, y.observationId? = some d → observationOwners.get d = some id)
    (havailable : Available s (y.claims P)) (hclaims : Consistent (y.claims P)) :
    Invariant P ⟨s.records.set id r', s.idempotencyOwners, s.replayProtectionOwners,
      transactionOwners, observationOwners,
      State.setEvidence s.evidenceDigestOwners (y.claims P)⟩ := by
  have hcases : ∀ j q, (s.records.set id r').get j = some q →
      (j = id ∧ q = r') ∨ (j ≠ id ∧ s.records.get j = some q) := by
    intro j q hq
    rw [JsMap.get_set] at hq
    by_cases hj : j = id
    · rw [if_pos hj] at hq
      exact .inl ⟨hj, (Option.some.inj hq).symm⟩
    · rw [if_neg hj] at hq
      exact .inr ⟨hj, hq⟩
  constructor
  case records =>
    intro j q hq
    obtain ⟨rfl, rfl⟩ | ⟨_, hq⟩ := hcases j q hq
    · exact hr'
    · exact h.records j q hq
  case idempotency =>
    intro j q hq
    obtain ⟨rfl, rfl⟩ | ⟨_, hq⟩ := hcases j q hq
    · rw [hintent]
      exact h.idempotency j r hr
    · exact h.idempotency j q hq
  case replayProtection =>
    intro j q hq
    obtain ⟨rfl, rfl⟩ | ⟨_, hq⟩ := hcases j q hq
    · rw [hintent]
      exact h.replayProtection j r hr
    · exact h.replayProtection j q hq
  case transactions =>
    intro j q b hq hb
    obtain ⟨rfl, rfl⟩ | ⟨_, hq⟩ := hcases j q hq
    · exact hbinding b hb
    · exact htransactions _ _ (h.transactions j q b hq hb)
  case observations =>
    intro j q z d hq hz hd
    obtain ⟨rfl, rfl⟩ | ⟨_, hq⟩ := hcases j q hq
    · obtain hz | rfl := hold z hz
      · exact hobservations _ _ (h.observations j r z d hr hz hd)
      · exact hobservation d hd
    · exact hobservations _ _ (h.observations j q z d hq hz hd)
  case evidence =>
    intro j q z hq hz c hc
    obtain ⟨rfl, rfl⟩ | ⟨_, hq⟩ := hcases j q hq
    · obtain hz | rfl := hold z hz
      · exact get_setEvidence_old hclaims havailable (h.evidence j r z hr hz c hc)
      · exact get_setEvidence hclaims hc
    · exact get_setEvidence_old hclaims havailable (h.evidence j q z hq hz c hc)

theorem recordInvariant_prepared {intent : DormantMainnetFinancialActionIntent}
    {transitionDigest : String} {snapshot : LifecycleSnapshot}
    (made : Made none intent (intentFingerprint P intent) .prepared transitionDigest none none none
      snapshot) : RecordInvariant P intent.intentId (.ofPrepared snapshot) where
  intentId := by rw [LifecycleRecord.ofPrepared, made.intent_eq]
  preparedDigest := by rw [LifecycleRecord.ofPrepared, made.intent_eq, made.digest_eq]
  intentDigest := by rw [LifecycleRecord.ofPrepared, made.intent_eq, made.digest_eq]
  terminal := by rw [LifecycleRecord.ofPrepared, made.terminal_eq, made.stage_eq]
  submission := by
    rw [LifecycleRecord.ofPrepared, made.submission_eq]
    exact .empty
  broadcast := by
    rw [LifecycleRecord.ofPrepared, made.broadcast_eq]
    exact .empty
  reconciliation := fun d replay h => by cases h
  unsubmitted := by simp [LifecycleRecord.ofPrepared, made.submission_eq, made.stage_eq, rank]
  unbroadcast := by simp [LifecycleRecord.ofPrepared, made.broadcast_eq, made.stage_eq, rank]
  unreconciled := fun _ _ => rfl
  roles := fun _ _ => rfl

section Advance

variable {id : String} {r : LifecycleRecord} {snapshot : LifecycleSnapshot}

theorem recordInvariant_bound (h : RecordInvariant P id r) {x : WalletSignedSubmission}
    (hx : x.intentId = id) (hdigest : x.intentFingerprintSha256 = r.current.intentFingerprintSha256)
    (hstage : r.current.stage = .prepared)
    (made : Made (some r) r.current.intent x.intentFingerprintSha256 .walletSignedSubmissionBound
      (x.fingerprint P) (some (x.binding P)) none none snapshot) :
    RecordInvariant P id (r.withSubmission (x.fingerprint P) snapshot) where
  intentId := by rw [LifecycleRecord.withSubmission, made.intent_eq, h.intentId]
  preparedDigest := by rw [LifecycleRecord.withSubmission, made.intent_eq, h.preparedDigest]
  intentDigest := by
    rw [LifecycleRecord.withSubmission, made.intent_eq, made.digest_eq, hdigest, h.intentDigest]
  terminal := by rw [LifecycleRecord.withSubmission, made.terminal_eq, made.stage_eq]
  submission := by
    rw [LifecycleRecord.withSubmission, made.submission_eq]
    exact .filled snapshot hx
  broadcast := by
    have hb := h.broadcast
    rw [h.unbroadcast.mpr (by rw [hstage, rank]; omega)] at hb
    rw [LifecycleRecord.withSubmission, made.broadcast_eq]
    exact hb
  reconciliation := h.reconciliation
  unsubmitted := by
    simp [LifecycleRecord.withSubmission, made.submission_eq, made.stage_eq, rank]
  unbroadcast := by simp [LifecycleRecord.withSubmission, made.broadcast_eq, made.stage_eq, rank]
  unreconciled := fun _ => h.unreconciled (by rw [hstage, rank]; omega)
  roles := fun o ho => by
    rw [LifecycleRecord.withSubmission, made.broadcast_eq] at ho
    cases ho

theorem recordInvariant_broadcast (h : RecordInvariant P id r) {submission : SubmissionBinding}
    {x : WalletBroadcast} (hx : x.intentId = id) (hsubmission : r.current.submission = some submission)
    (hstage : r.current.stage = .walletSignedSubmissionBound)
    (made : Made (some r) r.current.intent r.current.intentFingerprintSha256
      .broadcastOutcomeAmbiguous (x.fingerprint P) (some submission)
      (some ⟨x, submission.chainQualifiedTransactionId⟩) none snapshot) :
    RecordInvariant P id (r.withBroadcast x.observationId (x.fingerprint P) snapshot) where
  intentId := by rw [LifecycleRecord.withBroadcast, made.intent_eq, h.intentId]
  preparedDigest := by rw [LifecycleRecord.withBroadcast, made.intent_eq, h.preparedDigest]
  intentDigest := by
    rw [LifecycleRecord.withBroadcast, made.intent_eq, made.digest_eq, h.intentDigest]
  terminal := by rw [LifecycleRecord.withBroadcast, made.terminal_eq, made.stage_eq]
  submission := by
    rw [LifecycleRecord.withBroadcast, made.submission_eq, ← hsubmission]
    exact h.submission
  broadcast := by
    rw [LifecycleRecord.withBroadcast, made.broadcast_eq]
    exact .filled _ snapshot hx
  reconciliation := h.reconciliation
  unsubmitted := by
    simp [LifecycleRecord.withBroadcast, made.submission_eq, made.stage_eq, rank]
  unbroadcast := by simp [LifecycleRecord.withBroadcast, made.broadcast_eq, made.stage_eq, rank]
  unreconciled := fun _ => h.unreconciled (by rw [hstage, rank]; omega)
  roles := fun o _ => h.unreconciled (by rw [hstage, rank]; omega) o.observationId

theorem recordInvariant_reconciled (h : RecordInvariant P id r) {x : Reconciliation}
    {chainQualifiedTransactionId : String} (hx : x.intentId = id)
    (hstage : r.current.stage = .broadcastOutcomeAmbiguous ∨
      r.current.stage = .reconciliationAmbiguous)
    (hroles : ∀ o, r.current.broadcastObservation = some o → o.observationId ≠ x.observationId)
    (made : Made (some r) r.current.intent r.current.intentFingerprintSha256 x.outcome.stage
      (x.fingerprint P) r.current.submission r.current.broadcastObservation
      (some ⟨x, chainQualifiedTransactionId⟩) snapshot) :
    RecordInvariant P id (r.withReconciliation x (x.fingerprint P) snapshot) where
  intentId := by rw [LifecycleRecord.withReconciliation, made.intent_eq, h.intentId]
  preparedDigest := by rw [LifecycleRecord.withReconciliation, made.intent_eq, h.preparedDigest]
  intentDigest := by
    rw [LifecycleRecord.withReconciliation, made.intent_eq, made.digest_eq, h.intentDigest]
  terminal := by rw [LifecycleRecord.withReconciliation, made.terminal_eq, made.stage_eq]
  submission := by
    rw [LifecycleRecord.withReconciliation, made.submission_eq]
    exact h.submission
  broadcast := by
    rw [LifecycleRecord.withReconciliation, made.broadcast_eq]
    exact h.broadcast
  reconciliation := by
    intro d replay hd
    simp only [LifecycleRecord.withReconciliation, JsMap.get_set] at hd
    by_cases hdx : d = x.observationId
    · rw [if_pos hdx, Option.some.injEq] at hd
      subst hd
      exact ⟨_, made.reconciliation_eq, hdx.symm, hx, rfl⟩
    · rw [if_neg hdx] at hd
      exact h.reconciliation d replay hd
  unsubmitted := by
    have hr := rank_stage x.outcome
    have hn := h.unsubmitted
    simp only [LifecycleRecord.withReconciliation, made.submission_eq, made.stage_eq, hn]
    obtain hs | hs := hstage <;> rw [hs, rank] <;> omega
  unbroadcast := by
    have hr := rank_stage x.outcome
    have hn := h.unbroadcast
    simp only [LifecycleRecord.withReconciliation, made.broadcast_eq, made.stage_eq, hn]
    obtain hs | hs := hstage <;> rw [hs, rank] <;> omega
  unreconciled := fun hle => by
    have hr := rank_stage x.outcome
    rw [LifecycleRecord.withReconciliation, made.stage_eq] at hle
    omega
  roles := fun o ho => by
    rw [LifecycleRecord.withReconciliation, made.broadcast_eq] at ho
    simp only [LifecycleRecord.withReconciliation, JsMap.get_set, if_neg (hroles o ho)]
    exact h.roles o ho

end Advance

theorem consistent_submission {x : WalletSignedSubmission}
    (h : x.walletSignedPayloadSha256 ≠ x.walletSignatureEvidenceSha256) :
    Consistent (x.evidenceClaims P) := by
  intro c hc d hd he
  simp only [WalletSignedSubmission.evidenceClaims, List.mem_cons, List.not_mem_nil, or_false] at hc hd
  obtain rfl | rfl := hc <;> obtain rfl | rfl := hd
  · rfl
  · exact absurd he h
  · exact absurd he.symm h
  · rfl

theorem consistent_broadcast (x : WalletBroadcast) : Consistent (x.evidenceClaims P) := by
  intro c hc d hd _
  simp only [WalletBroadcast.evidenceClaims, List.mem_cons, List.not_mem_nil, or_false] at hc hd
  rw [hc, hd]

theorem consistent_reconciliation {x : Reconciliation} (h : x.isMisshapen = false) :
    Consistent (x.evidenceClaims P) := by
  simp only [Reconciliation.isMisshapen, Bool.or_eq_false_iff, beq_eq_false_iff_ne] at h
  obtain ⟨⟨⟨⟨⟨_, hsuccess⟩, hfailure⟩, hothers⟩, heffect⟩, hfail⟩ := h
  have hone : x.effectEvidenceSha256 = none ∨ x.failureEvidenceSha256 = none := by
    cases ho : x.outcome <;> simp_all
  intro c hc d hd he
  simp only [Reconciliation.evidenceClaims, List.mem_append, List.mem_singleton, Option.mem_toList,
    Option.map_eq_some_iff] at hc hd
  obtain (rfl | ⟨e, hce, rfl⟩) | ⟨e, hcf, rfl⟩ := hc <;>
    obtain (rfl | ⟨g, hde, rfl⟩) | ⟨g, hdf, rfl⟩ := hd
  · rfl
  · exact absurd (hde.trans (congrArg some he.symm)).symm heffect
  · exact absurd (hdf.trans (congrArg some he.symm)).symm hfail
  · exact absurd (hce.trans (congrArg some he)).symm heffect
  · rfl
  · simp [hce, hdf] at hone
  · exact absurd (hcf.trans (congrArg some he)).symm hfail
  · simp [hcf, hde] at hone
  · rfl

section Holding

variable {r : LifecycleRecord} {snapshot : LifecycleSnapshot} {z : Report}

theorem holds_bound {x : WalletSignedSubmission}
    (hsubmission : snapshot.submission = some (x.binding P))
    (hbroadcast : snapshot.broadcastObservation = none)
    (hz : Holds (r.withSubmission (x.fingerprint P) snapshot) z) : Holds r z ∨ z = .submission x := by
  cases z with
  | submission y =>
    obtain ⟨b, hb, rfl⟩ := hz
    rw [LifecycleRecord.withSubmission, hsubmission, Option.some.injEq] at hb
    subst hb
    exact .inr rfl
  | broadcast y =>
    obtain ⟨o, ho, rfl⟩ := hz
    rw [LifecycleRecord.withSubmission, hbroadcast] at ho
    cases ho
  | reconciliation y => exact .inl hz

theorem holds_broadcast {x : WalletBroadcast} {chainQualifiedTransactionId fingerprint : String}
    (hsubmission : snapshot.submission = r.current.submission)
    (hbroadcast : snapshot.broadcastObservation = some ⟨x, chainQualifiedTransactionId⟩)
    (hz : Holds (r.withBroadcast x.observationId fingerprint snapshot) z) :
    Holds r z ∨ z = .broadcast x := by
  cases z with
  | submission y =>
    obtain ⟨b, hb, rfl⟩ := hz
    exact .inl ⟨b, hsubmission ▸ hb, rfl⟩
  | broadcast y =>
    obtain ⟨o, ho, rfl⟩ := hz
    rw [LifecycleRecord.withBroadcast, hbroadcast, Option.some.injEq] at ho
    subst ho
    exact .inr rfl
  | reconciliation y => exact .inl hz

theorem holds_reconciled {x : Reconciliation} {chainQualifiedTransactionId fingerprint : String}
    (hsubmission : snapshot.submission = r.current.submission)
    (hbroadcast : snapshot.broadcastObservation = r.current.broadcastObservation)
    (hreconciliation : snapshot.reconciliation = some ⟨x, chainQualifiedTransactionId⟩)
    (hz : Holds (r.withReconciliation x fingerprint snapshot) z) :
    Holds r z ∨ z = .reconciliation x := by
  cases z with
  | submission y =>
    obtain ⟨b, hb, rfl⟩ := hz
    exact .inl ⟨b, hsubmission ▸ hb, rfl⟩
  | broadcast y =>
    obtain ⟨o, ho, rfl⟩ := hz
    exact .inl ⟨o, hbroadcast ▸ ho, rfl⟩
  | reconciliation y =>
    obtain ⟨replay, o, hreplay, ho, rfl⟩ := hz
    simp only [LifecycleRecord.withReconciliation, JsMap.get_set] at hreplay
    by_cases hd : o.observationId = x.observationId
    · rw [if_pos hd, Option.some.injEq] at hreplay
      subst hreplay
      rw [hreconciliation, Option.some.injEq] at ho
      subst ho
      exact .inr rfl
    · rw [if_neg hd] at hreplay
      exact .inl ⟨replay, o, hreplay, ho, rfl⟩

end Holding

theorem invariant_prepared {s : State} (h : Invariant P s)
    {intent : DormantMainnetFinancialActionIntent} {transitionDigest : String}
    {snapshot : LifecycleSnapshot}
    (idempotency : ∀ d, s.idempotencyOwners.get (idempotencyScope intent) = some d →
      d = intentFingerprint P intent)
    (replayProtection : ∀ d, s.replayProtectionOwners.get (replayProtectionScope intent) = some d →
      d = intentFingerprint P intent)
    (made : Made none intent (intentFingerprint P intent) .prepared transitionDigest none none none
      snapshot) :
    Invariant P (((s.setRecord intent.intentId (.ofPrepared snapshot)).ownIdempotency
      (idempotencyScope intent) (intentFingerprint P intent)).ownReplayProtection
      (replayProtectionScope intent) (intentFingerprint P intent)) := by
  have hintent : (LifecycleRecord.ofPrepared snapshot).current.intent = intent := made.intent_eq
  have hnothing : ∀ y, ¬Holds (.ofPrepared snapshot) y := by
    intro y hy
    cases y with
    | submission x =>
      obtain ⟨b, hb, _⟩ := hy
      rw [LifecycleRecord.ofPrepared, made.submission_eq] at hb
      cases hb
    | broadcast x =>
      obtain ⟨o, ho, _⟩ := hy
      rw [LifecycleRecord.ofPrepared, made.broadcast_eq] at ho
      cases ho
    | reconciliation x =>
      obtain ⟨replay, o, hreplay, _⟩ := hy
      cases hreplay
  have hcases : ∀ j q, (s.records.set intent.intentId (.ofPrepared snapshot)).get j = some q →
      (j = intent.intentId ∧ q = .ofPrepared snapshot) ∨ s.records.get j = some q := by
    intro j q hq
    rw [JsMap.get_set] at hq
    by_cases hj : j = intent.intentId
    · rw [if_pos hj] at hq
      exact .inl ⟨hj, (Option.some.inj hq).symm⟩
    · rw [if_neg hj] at hq
      exact .inr hq
  constructor
  case records =>
    intro j q hq
    obtain ⟨rfl, rfl⟩ | hq := hcases j q hq
    · exact recordInvariant_prepared made
    · exact h.records j q hq
  case idempotency =>
    intro j q hq
    change (s.idempotencyOwners.set _ _).get _ = _
    rw [JsMap.get_set]
    obtain ⟨rfl, rfl⟩ | hq := hcases j q hq
    · rw [hintent, if_pos rfl]
    · have ho := h.idempotency j q hq
      split
      · rw [‹idempotencyScope _ = _›] at ho
        rw [idempotency _ ho]
      · exact ho
  case replayProtection =>
    intro j q hq
    change (s.replayProtectionOwners.set _ _).get _ = _
    rw [JsMap.get_set]
    obtain ⟨rfl, rfl⟩ | hq := hcases j q hq
    · rw [hintent, if_pos rfl]
    · have ho := h.replayProtection j q hq
      split
      · rw [‹replayProtectionScope _ = _›] at ho
        rw [replayProtection _ ho]
      · exact ho
  case transactions =>
    intro j q b hq hb
    obtain ⟨rfl, rfl⟩ | hq := hcases j q hq
    · exact absurd ⟨b, hb, rfl⟩ (hnothing (.submission b.toWalletSignedSubmission))
    · exact h.transactions j q b hq hb
  case observations =>
    intro j q y d hq hy hd
    obtain ⟨rfl, rfl⟩ | hq := hcases j q hq
    · exact absurd hy (hnothing y)
    · exact h.observations j q y d hq hy hd
  case evidence =>
    intro j q y hq hy
    obtain ⟨rfl, rfl⟩ | hq := hcases j q hq
    · exact absurd hy (hnothing y)
    · exact h.evidence j q y hq hy

/-- Every call keeps the invariant. -/
theorem step_invariant {s s' : State} {call : Call} {snapshot : LifecycleSnapshot}
    (hstep : Step P s call snapshot s') (h : Invariant P s) : Invariant P s' := by
  cases hstep with
  | prepared _ _ idempotency replayProtection made =>
    exact invariant_prepared h idempotency replayProtection made
  | preparedAgain => exact h
  | @bound _ _ record x _ _ reads _ _ _ _ stage owner available made =>
    obtain ⟨input, _, _, _, hparse⟩ := reads.reads
    have hfields := parseSubmission_fields P hparse
    have hr := h.records _ _ reads.found
    apply h.record (y := .submission x) reads.found
      (recordInvariant_bound hr rfl (submissionFields_digest P hfields) stage made) made.intent_eq
    case hold => exact fun z => holds_bound made.submission_eq made.broadcast_eq
    case htransactions =>
      intro d o hd
      rw [JsMap.get_set]
      split
      · rw [‹d = _›] at hd
        rw [owner o hd]
      · exact hd
    case hbinding =>
      intro b hb
      rw [LifecycleRecord.withSubmission, made.submission_eq, Option.some.injEq] at hb
      subst hb
      exact JsMap.get_set_self _ _ _
    case hobservations => exact fun d o hd => hd
    case hobservation => exact fun d hd => by cases hd
    case havailable => exact available
    case hclaims => exact consistent_submission (submissionFields_distinct P hfields)
  | boundAgain => exact h
  | @broadcast _ _ record submission x _ _ reads _ _ _ _ stage owner available made =>
    obtain ⟨input, _, _, _, _, hparse⟩ := reads.reads
    have hsubmission := broadcastFields_submission (parseBroadcast_fields hparse)
    have hr := h.records _ _ reads.found
    apply h.record (y := .broadcast x) reads.found
      (recordInvariant_broadcast hr rfl hsubmission stage made) made.intent_eq
    case hold =>
      exact fun z => holds_broadcast (made.submission_eq.trans hsubmission.symm) made.broadcast_eq
    case htransactions => exact fun d o hd => hd
    case hbinding =>
      intro b hb
      rw [LifecycleRecord.withBroadcast, made.submission_eq, ← hsubmission] at hb
      exact h.transactions _ _ b reads.found hb
    case hobservations =>
      intro d o hd
      rw [JsMap.get_set]
      split
      · rw [‹d = _›] at hd
        rw [owner o hd]
      · exact hd
    case hobservation =>
      intro d hd
      cases hd
      exact JsMap.get_set_self _ _ _
    case havailable => exact available
    case hclaims => exact consistent_broadcast x
  | broadcastAgain => exact h
  | @reconciled _ _ record submission x _ reads _ owner _ stage _ _ _ available made =>
    obtain ⟨input, _, _, _, _, hparse⟩ := reads.reads
    have hr := h.records _ _ reads.found
    have hroles : ∀ o, record.current.broadcastObservation = some o →
        o.observationId ≠ x.observationId := by
      intro o ho hox
      have hown := h.observations _ _ (.broadcast o.toWalletBroadcast) o.observationId reads.found
        ⟨o, ho, rfl⟩ rfl
      rw [hox, owner] at hown
      cases hown
    apply h.record (y := .reconciliation x) reads.found
      (recordInvariant_reconciled hr rfl stage hroles made) made.intent_eq
    case hold =>
      exact fun z => holds_reconciled made.submission_eq made.broadcast_eq made.reconciliation_eq
    case htransactions => exact fun d o hd => hd
    case hbinding =>
      intro b hb
      rw [LifecycleRecord.withReconciliation, made.submission_eq] at hb
      exact h.transactions _ _ b reads.found hb
    case hobservations =>
      intro d o hd
      rw [JsMap.get_set]
      split
      · rw [‹d = _›, owner] at hd
        cases hd
      · exact hd
    case hobservation =>
      intro d hd
      cases hd
      exact JsMap.get_set_self _ _ _
    case havailable => exact available
    case hclaims => exact consistent_reconciliation (parseReconciliation_shape hparse)
  | reconciledAgain => exact h
  | read => exact h

/-- A call throws and leaves the state as it was, or it is one of the steps. -/
theorem protocol_step (s : State) (call : Call) :
    (∃ e, ((protocol P).step s call).1 = .error e ∧ ((protocol P).step s call).2 = s) ∨
      ∃ snapshot, ((protocol P).step s call).1 = .ok snapshot ∧
        Step P s call snapshot ((protocol P).step s call).2 := by
  cases h : ((protocol P).step s call).1 with
  | error e => exact .inl ⟨e, rfl, LifecycleAtomicity.step_error P h⟩
  | ok snapshot => exact .inr ⟨snapshot, rfl, perform_step (Prod.ext h rfl)⟩

/-- Every reached state satisfies the invariant. -/
theorem protocol_invariant : (protocol P).Invariant (Invariant P) where
  initial := invariant_initial P
  step := fun s call h => by
    obtain ⟨_, _, hs⟩ | ⟨_, _, hstep⟩ := protocol_step (P := P) s call
    · rw [hs]
      exact h
    · exact step_invariant hstep h

end Invariants

end CryptoLending.MainnetActions.LifecycleInvariant
