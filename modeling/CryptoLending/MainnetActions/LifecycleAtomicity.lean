import CryptoLending.MainnetActions.Lifecycle

namespace CryptoLending.MainnetActions.LifecycleAtomicity

open Lib Lib.JsValue Lib.Transaction Intent LifecycleData Lifecycle

theorem readOnly_refuseWhen (c : Prop) [Decidable c] (code : LifecycleErrorCode) :
    ReadOnly (refuseWhen c code) := readOnly_lift _

theorem readOnly_orRefuse {α : Type} (o : Option α) (code : LifecycleErrorCode) :
    ReadOnly (orRefuse o code) := readOnly_lift _

theorem readOnly_recordFor (intentId : Value) : ReadOnly (recordFor intentId) := by
  apply readOnly_bind (readOnly_orRefuse _ _)
  intro id
  apply readOnly_bind readOnly_get
  intro s
  exact readOnly_orRefuse _ _

theorem readOnly_assertEvidenceDigestsAvailable (claims : List EvidenceDigestClaim) :
    ReadOnly (assertEvidenceDigestsAvailable claims) := by
  apply readOnly_bind readOnly_get
  intro s
  exact readOnly_refuseWhen _ _

section Operations

variable (P : Platform)

theorem readOnly_readSubmission (value now : Value) : ReadOnly (readSubmission P value now) := by
  apply readOnly_bind (readOnly_orRefuse _ _)
  intro input
  apply readOnly_bind (readOnly_refuseWhen _ _)
  intro _
  apply readOnly_bind (readOnly_lift _)
  intro intentId
  apply readOnly_bind (readOnly_recordFor _)
  intro record
  apply readOnly_bind (readOnly_lift _)
  intro x
  exact readOnly_pure _

theorem readOnly_readBroadcast (value now : Value) : ReadOnly (readBroadcast value now) := by
  apply readOnly_bind (readOnly_orRefuse _ _)
  intro input
  apply readOnly_bind (readOnly_refuseWhen _ _)
  intro _
  apply readOnly_bind (readOnly_lift _)
  intro intentId
  apply readOnly_bind (readOnly_lift _)
  intro observationId
  apply readOnly_bind (readOnly_recordFor _)
  intro record
  apply readOnly_bind (readOnly_lift _)
  intro x
  exact readOnly_pure _

theorem readOnly_readReconciliation (value now : Value) :
    ReadOnly (readReconciliation value now) := by
  apply readOnly_bind (readOnly_orRefuse _ _)
  intro input
  apply readOnly_bind (readOnly_refuseWhen _ _)
  intro _
  apply readOnly_bind (readOnly_lift _)
  intro intentId
  apply readOnly_bind (readOnly_lift _)
  intro observationId
  apply readOnly_bind (readOnly_recordFor _)
  intro record
  apply readOnly_bind (readOnly_lift _)
  intro x
  exact readOnly_pure _

/-- A replay throws or returns the current snapshot. It writes nothing. -/
theorem atomic_replayed (c : Prop) [Decidable c] (code : LifecycleErrorCode)
    (current : LifecycleSnapshot) :
    Atomic (do refuseWhen c code; return current : Op LifecycleSnapshot) := by
  apply atomic_bind (readOnly_refuseWhen _ _)
  intro _
  exact (total_pure _).atomic

/-- Two writes and the snapshot they leave behind. -/
theorem total_written (f g : State → State) (snapshot : LifecycleSnapshot) :
    Total (do modify f; modify g; return snapshot : Op LifecycleSnapshot) := by
  apply total_bind (total_modify _)
  intro _
  apply total_bind (total_modify _)
  intro _
  exact total_pure _

/-- Evidence is checked and a snapshot made before the evidence, the record and an owner are
written. -/
theorem atomic_committed (claims : List EvidenceDigestClaim)
    (made : Except Failure LifecycleSnapshot) (f : LifecycleSnapshot → State → State)
    (g : State → State) :
    Atomic (do
      assertEvidenceDigestsAvailable claims
      let snapshot ← made
      commitEvidenceDigests claims
      modify (f snapshot)
      modify g
      return snapshot : Op LifecycleSnapshot) := by
  apply atomic_bind (readOnly_assertEvidenceDigestsAvailable _)
  intro _
  apply atomic_bind (readOnly_lift _)
  intro snapshot
  apply Total.atomic
  apply total_bind (total_modify _)
  intro _
  exact total_written _ _ _

theorem atomic_prepareNew (intent : DormantMainnetFinancialActionIntent) :
    Atomic (prepareNew P intent) := by
  apply atomic_bind readOnly_get
  intro s
  apply atomic_bind (readOnly_refuseWhen _ _)
  intro _
  apply atomic_bind (readOnly_refuseWhen _ _)
  intro _
  apply atomic_bind (readOnly_lift _)
  intro prepared
  apply Total.atomic
  apply total_bind (total_modify _)
  intro _
  exact total_written _ _ _

theorem atomic_prepareIntent (input now : Value) : Atomic (prepareIntent P input now) := by
  apply atomic_bind (readOnly_lift _)
  intro intent
  apply atomic_bind readOnly_get
  intro s
  split
  · exact atomic_replayed _ _ _
  · exact atomic_prepareNew P intent

theorem atomic_bindNew (record : LifecycleRecord) (x : WalletSignedSubmission) (now : Int) :
    Atomic (bindNew P record x now) := by
  apply atomic_bind (readOnly_refuseWhen _ _)
  intro _
  apply atomic_bind (readOnly_refuseWhen _ _)
  intro _
  apply atomic_bind readOnly_get
  intro s
  apply atomic_bind (readOnly_refuseWhen _ _)
  intro _
  exact atomic_committed _ _ _ _

theorem atomic_bindWalletSignedSubmission (value now : Value) :
    Atomic (bindWalletSignedSubmission P value now) := by
  apply atomic_bind (readOnly_readSubmission P value now)
  rintro ⟨record, x, time⟩
  dsimp only
  split
  · exact atomic_replayed _ _ _
  · exact atomic_bindNew P record x time

theorem atomic_broadcastNew (record : LifecycleRecord) (submission : SubmissionBinding)
    (x : WalletBroadcast) (now : Int) : Atomic (broadcastNew P record submission x now) := by
  apply atomic_bind (readOnly_refuseWhen _ _)
  intro _
  apply atomic_bind (readOnly_refuseWhen _ _)
  intro _
  apply atomic_bind readOnly_get
  intro s
  apply atomic_bind (readOnly_refuseWhen _ _)
  intro _
  exact atomic_committed _ _ _ _

theorem atomic_recordWalletBroadcastObservation (value now : Value) :
    Atomic (recordWalletBroadcastObservation P value now) := by
  apply atomic_bind (readOnly_readBroadcast value now)
  rintro ⟨record, submission, x, time⟩
  dsimp only
  split
  · exact atomic_replayed _ _ _
  · exact atomic_broadcastNew P record submission x time

theorem atomic_reconcileNew (record : LifecycleRecord) (submission : SubmissionBinding)
    (x : Reconciliation) : Atomic (reconcileNew P record submission x) := by
  apply atomic_bind readOnly_get
  intro s
  apply atomic_bind (readOnly_refuseWhen _ _)
  intro _
  apply atomic_bind (readOnly_refuseWhen _ _)
  intro _
  apply atomic_bind (readOnly_refuseWhen _ _)
  intro _
  apply atomic_bind (readOnly_refuseWhen _ _)
  intro _
  apply atomic_bind (readOnly_refuseWhen _ _)
  intro _
  exact atomic_committed _ _ _ _

theorem atomic_recordReconciliationObservation (value now : Value) :
    Atomic (recordReconciliationObservation P value now) := by
  apply atomic_bind (readOnly_readReconciliation value now)
  rintro ⟨record, submission, x⟩
  dsimp only
  split
  · exact atomic_replayed _ _ _
  · exact atomic_reconcileNew P record submission x

theorem readOnly_readSnapshot (intentId : Value) : ReadOnly (readSnapshot intentId) := by
  apply readOnly_bind (readOnly_recordFor _)
  intro record
  exact readOnly_pure _

/-- A call that throws has written nothing: each of its throwing points comes before its
first write. -/
theorem atomic_perform (call : Call) : Atomic (perform P call) := by
  cases call with
  | prepareIntent input now => exact atomic_prepareIntent P input now
  | bindWalletSignedSubmission value now => exact atomic_bindWalletSignedSubmission P value now
  | recordWalletBroadcastObservation value now =>
    exact atomic_recordWalletBroadcastObservation P value now
  | recordReconciliationObservation value now =>
    exact atomic_recordReconciliationObservation P value now
  | readSnapshot intentId => exact (readOnly_readSnapshot intentId).atomic

theorem step_error {s : State} {call : Call} {e : Failure}
    (h : ((protocol P).step s call).1 = .error e) : ((protocol P).step s call).2 = s :=
  atomic_perform P call s e _ (Prod.ext h rfl)

/-- A failed call leaves every record and every ownership map as they were, and every later
sequence of calls runs as if it had not been made. -/
theorem failed_call_leaves_no_trace (cs ds : List Call) (call : Call) (e : Failure)
    (h : ((protocol P).step ((protocol P).reached cs) call).1 = .error e) :
    ((protocol P).step ((protocol P).reached cs) call).2 = (protocol P).reached cs ∧
      (protocol P).events ((protocol P).step ((protocol P).reached cs) call).2 ds =
        (protocol P).events ((protocol P).reached cs) ds ∧
      (protocol P).reached (cs ++ call :: ds) = (protocol P).reached (cs ++ ds) := by
  have hs := step_error P h
  refine ⟨hs, by rw [hs], ?_⟩
  calc (protocol P).reached (cs ++ call :: ds)
      = (protocol P).run ((protocol P).step ((protocol P).reached cs) call).2 ds :=
        Machine.reached_append cs (call :: ds)
    _ = (protocol P).run ((protocol P).reached cs) ds := by rw [hs]
    _ = (protocol P).reached (cs ++ ds) := (Machine.reached_append cs ds).symm

end Operations

end CryptoLending.MainnetActions.LifecycleAtomicity
