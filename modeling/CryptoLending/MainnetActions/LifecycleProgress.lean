import Mathlib.Logic.Relation
import CryptoLending.MainnetActions.LifecycleInvariant

namespace CryptoLending.MainnetActions.LifecycleProgress

open Lib Lib.JsValue Intent LifecycleData Lifecycle LifecycleSteps LifecycleInvariant

/-- The moves of an intent: through binding and broadcast to reconciliation, which may stay
ambiguous before it ends. -/
inductive Moves : LifecycleStage → LifecycleStage → Prop
  | bind : Moves .prepared .walletSignedSubmissionBound
  | broadcast : Moves .walletSignedSubmissionBound .broadcastOutcomeAmbiguous
  | reconcile {stage : LifecycleStage}
      (h : stage = .broadcastOutcomeAmbiguous ∨ stage = .reconciliationAmbiguous) :
      Moves stage .reconciliationAmbiguous
  | finish {stage final : LifecycleStage}
      (h : stage = .broadcastOutcomeAmbiguous ∨ stage = .reconciliationAmbiguous)
      (terminal : isTerminalStage final = true) : Moves stage final

/-- A record whose intent moved on by one recorded report. -/
structure Advances (r r' : LifecycleRecord) : Prop where
  stage : Moves r.current.stage r'.current.stage
  live : r.current.terminal = false
  revision : r'.current.revision = r.current.revision + 1
  previous : r'.current.previousSnapshotSha256 = some r.current.snapshotSha256
  prepared : r'.prepared = r.prepared
  intent : r'.current.intent = r.current.intent
  intentDigest : r'.current.intentFingerprintSha256 = r.current.intentFingerprintSha256
  submission : ∀ b, r.current.submission = some b → r'.current.submission = some b
  broadcast : ∀ o, r.current.broadcastObservation = some o →
    r'.current.broadcastObservation = some o
  submissionReplay : ∀ replay, r.submissionReplay = some replay → r'.submissionReplay = some replay
  broadcastReplay : ∀ replay, r.broadcastReplay = some replay → r'.broadcastReplay = some replay
  reconciliationReplays : ∀ d replay, r.reconciliationReplays.get d = some replay →
    r'.reconciliationReplays.get d = some replay

/-- What a record keeps over any number of calls. -/
structure Keeps (r r' : LifecycleRecord) : Prop where
  stage : Relation.ReflTransGen Moves r.current.stage r'.current.stage
  terminal : r.current.terminal = true → r'.current = r.current
  prepared : r'.prepared = r.prepared
  intent : r'.current.intent = r.current.intent
  intentDigest : r'.current.intentFingerprintSha256 = r.current.intentFingerprintSha256
  submission : ∀ b, r.current.submission = some b → r'.current.submission = some b
  broadcast : ∀ o, r.current.broadcastObservation = some o →
    r'.current.broadcastObservation = some o
  submissionReplay : ∀ replay, r.submissionReplay = some replay → r'.submissionReplay = some replay
  broadcastReplay : ∀ replay, r.broadcastReplay = some replay → r'.broadcastReplay = some replay
  reconciliationReplays : ∀ d replay, r.reconciliationReplays.get d = some replay →
    r'.reconciliationReplays.get d = some replay

theorem Keeps.refl (r : LifecycleRecord) : Keeps r r :=
  ⟨.refl, fun _ => rfl, rfl, rfl, rfl, fun _ h => h, fun _ h => h, fun _ h => h, fun _ h => h,
    fun _ _ h => h⟩

theorem Keeps.trans {r r' r'' : LifecycleRecord} (h : Keeps r r') (h' : Keeps r' r'') :
    Keeps r r'' where
  stage := h.stage.trans h'.stage
  terminal := fun ht => by
    have hc := h.terminal ht
    rw [h'.terminal (hc ▸ ht), hc]
  prepared := h'.prepared.trans h.prepared
  intent := h'.intent.trans h.intent
  intentDigest := h'.intentDigest.trans h.intentDigest
  submission := fun b hb => h'.submission b (h.submission b hb)
  broadcast := fun o ho => h'.broadcast o (h.broadcast o ho)
  submissionReplay := fun p hp => h'.submissionReplay p (h.submissionReplay p hp)
  broadcastReplay := fun p hp => h'.broadcastReplay p (h.broadcastReplay p hp)
  reconciliationReplays := fun d p hp =>
    h'.reconciliationReplays d p (h.reconciliationReplays d p hp)

theorem Advances.keeps {r r' : LifecycleRecord} (h : Advances r r') : Keeps r r' where
  stage := .single h.stage
  terminal := fun ht => by
    rw [h.live] at ht
    cases ht
  prepared := h.prepared
  intent := h.intent
  intentDigest := h.intentDigest
  submission := h.submission
  broadcast := h.broadcast
  submissionReplay := h.submissionReplay
  broadcastReplay := h.broadcastReplay
  reconciliationReplays := h.reconciliationReplays

/-- The intent a call names. -/
def namedIntent : Call → Option String
  | .prepareIntent input _ => named input intentInputKeys
  | .bindWalletSignedSubmission value _ => named value submissionKeys
  | .recordWalletBroadcastObservation value _ => named value broadcastKeys
  | .recordReconciliationObservation value _ => named value reconciliationKeys
  | .readSnapshot intentId => intentId.string?
where
  named (value : Value) (keys : List String) : Option String :=
    (exactDataRecord value keys).bind (fun input => (input.get "intentId").string?)

section Progress

variable {P : Platform}

theorem named_of_uuid {ε : Type} {value : Value} {keys : List String} {input : Record} {code : ε}
    {intentId : String} (hi : exactDataRecord value keys = some input)
    (hid : uuid (input.get "intentId") code = .ok intentId) :
    namedIntent.named value keys = some intentId := by
  rw [namedIntent.named, hi, Option.bind_some, (textOf_ok.mp hid).1]
  rfl

theorem named_of_parse {input now : Value} {intent : DormantMainnetFinancialActionIntent}
    (h : parseIntent P input now = .ok intent) :
    namedIntent.named input intentInputKeys = some intent.intentId := by
  obtain ⟨record, hr, hid⟩ := parse_intentId (mapError_ok.mp h)
  rw [namedIntent.named, hr, Option.bind_some, hid]
  rfl

/-- What one returning call does to the records: nothing, one new record, or one record that
moved on. -/
inductive Effect (s s' : State) : Option String → Prop
  | nothing {id : Option String} (h : s' = s) : Effect s s' id
  | created {id : String} {r : LifecycleRecord} (fresh : s.records.get id = none)
      (records : s'.records = s.records.set id r) (stage : r.current.stage = .prepared)
      (revision : r.current.revision = 1) (previous : r.current.previousSnapshotSha256 = none)
      (id_eq : r.current.intent.intentId = id) : Effect s s' (some id)
  | advanced {id : String} {r r' : LifecycleRecord} (found : s.records.get id = some r)
      (records : s'.records = s.records.set id r') (advances : Advances r r') :
      Effect s s' (some id)

theorem moves_reconciled {stage : LifecycleStage} (o : ReconciliationOutcome)
    (h : stage = .broadcastOutcomeAmbiguous ∨ stage = .reconciliationAmbiguous) :
    Moves stage o.stage := by
  cases o with
  | pending => exact .reconcile h
  | unknown => exact .reconcile h
  | finalizedSuccess => exact .finish h rfl
  | finalizedFailure => exact .finish h rfl
  | reorgedOut => exact .finish h rfl

/-- Each step has one of the effects on the intent that its call names. -/
theorem step_effect {s s' : State} {call : Call} {snapshot : LifecycleSnapshot}
    (hstep : Step P s call snapshot s') (h : Invariant P s) : Effect s s' (namedIntent call) := by
  cases hstep with
  | prepared parsed fresh _ _ made =>
    rw [namedIntent, named_of_parse parsed]
    exact .created fresh rfl made.stage_eq made.revision_eq made.previous_eq
      (congrArg _ made.intent_eq)
  | preparedAgain => exact .nothing rfl
  | @bound _ _ record x _ _ reads first _ _ _ stage _ _ made =>
    obtain ⟨input, hi, _, hid, hparse⟩ := reads.reads
    have hr := h.records _ _ reads.found
    rw [namedIntent, named_of_uuid hi hid]
    apply Effect.advanced reads.found rfl
    constructor
    case stage =>
      rw [stage, LifecycleRecord.withSubmission, made.stage_eq]
      exact .bind
    case live => rw [hr.terminal, stage]; rfl
    case revision => exact made.revision_eq
    case previous => exact made.previous_eq
    case prepared => rfl
    case intent => exact made.intent_eq
    case intentDigest =>
      exact made.digest_eq.trans (submissionFields_digest P (parseSubmission_fields P hparse))
    case submission =>
      intro b hb
      rw [hr.unsubmitted.mpr (by rw [stage, rank])] at hb
      cases hb
    case broadcast =>
      intro o ho
      rw [hr.unbroadcast.mpr (by rw [stage, rank]; omega)] at ho
      cases ho
    case submissionReplay =>
      intro replay hreplay
      rw [first] at hreplay
      cases hreplay
    case broadcastReplay => exact fun _ hreplay => hreplay
    case reconciliationReplays => exact fun _ _ hreplay => hreplay
  | boundAgain => exact .nothing rfl
  | @broadcast _ _ record submission x _ _ reads first _ _ _ stage _ _ made =>
    obtain ⟨input, hi, _, hid, _, hparse⟩ := reads.reads
    have hsubmission := broadcastFields_submission (parseBroadcast_fields hparse)
    have hr := h.records _ _ reads.found
    rw [namedIntent, named_of_uuid hi hid]
    apply Effect.advanced reads.found rfl
    constructor
    case stage =>
      rw [stage, LifecycleRecord.withBroadcast, made.stage_eq]
      exact .broadcast
    case live => rw [hr.terminal, stage]; rfl
    case revision => exact made.revision_eq
    case previous => exact made.previous_eq
    case prepared => rfl
    case intent => exact made.intent_eq
    case intentDigest => exact made.digest_eq
    case submission =>
      intro b hb
      rw [← hb, hsubmission]
      exact made.submission_eq
    case broadcast =>
      intro o ho
      rw [hr.unbroadcast.mpr (by rw [stage, rank])] at ho
      cases ho
    case submissionReplay => exact fun _ hreplay => hreplay
    case broadcastReplay =>
      intro replay hreplay
      rw [first] at hreplay
      cases hreplay
    case reconciliationReplays => exact fun _ _ hreplay => hreplay
  | broadcastAgain => exact .nothing rfl
  | @reconciled _ _ record submission x _ reads first _ live stage _ _ _ _ made =>
    obtain ⟨input, hi, _, hid, _, hparse⟩ := reads.reads
    rw [namedIntent, named_of_uuid hi hid]
    apply Effect.advanced reads.found rfl
    constructor
    case stage =>
      rw [LifecycleRecord.withReconciliation, made.stage_eq]
      exact moves_reconciled x.outcome stage
    case live => exact live
    case revision => exact made.revision_eq
    case previous => exact made.previous_eq
    case prepared => rfl
    case intent => exact made.intent_eq
    case intentDigest => exact made.digest_eq
    case submission => exact fun b hb => made.submission_eq.trans hb
    case broadcast => exact fun o ho => made.broadcast_eq.trans ho
    case submissionReplay => exact fun _ hreplay => hreplay
    case broadcastReplay => exact fun _ hreplay => hreplay
    case reconciliationReplays =>
      intro d replay hreplay
      have hd : d ≠ x.observationId := by
        rintro rfl
        rw [first] at hreplay
        cases hreplay
      exact (JsMap.get_set_ne _ hd _).trans hreplay
  | reconciledAgain => exact .nothing rfl
  | read => exact .nothing rfl

theorem Effect.others {s s' : State} {n : Option String} (h : Effect s s' n) {id : String}
    (hid : n ≠ some id) : s'.records.get id = s.records.get id := by
  cases h with
  | nothing h => rw [h]
  | @created j r _ records =>
    have hne : id ≠ j := fun hj => hid (hj ▸ rfl)
    rw [records, JsMap.get_set_ne _ hne]
  | @advanced j r r' _ records =>
    have hne : id ≠ j := fun hj => hid (hj ▸ rfl)
    rw [records, JsMap.get_set_ne _ hne]

theorem Effect.known {s s' : State} {n : Option String} (h : Effect s s' n) {id : String}
    {r : LifecycleRecord} (hr : s.records.get id = some r) :
    ∃ r', s'.records.get id = some r' ∧ (r' = r ∨ Advances r r') := by
  cases h with
  | nothing h => exact ⟨r, h ▸ hr, .inl rfl⟩
  | @created j q fresh records =>
    have hne : id ≠ j := by
      rintro rfl
      rw [fresh] at hr
      cases hr
    exact ⟨r, by rw [records, JsMap.get_set_ne _ hne, hr], .inl rfl⟩
  | @advanced j q q' found records advances =>
    by_cases hj : id = j
    · subst hj
      rw [found, Option.some.injEq] at hr
      subst hr
      exact ⟨q', by rw [records, JsMap.get_set_self], .inr advances⟩
    · exact ⟨r, by rw [records, JsMap.get_set_ne _ hj, hr], .inl rfl⟩

theorem Effect.fresh {s s' : State} {n : Option String} (h : Effect s s' n) {id : String}
    {r' : LifecycleRecord} (hr : s.records.get id = none) (hr' : s'.records.get id = some r') :
    r'.current.stage = .prepared ∧ r'.current.revision = 1 ∧
      r'.current.previousSnapshotSha256 = none := by
  cases h with
  | nothing h =>
    rw [h, hr] at hr'
    cases hr'
  | @created j q _ records stage revision previous =>
    rw [records, JsMap.get_set] at hr'
    split at hr'
    · cases hr'
      exact ⟨stage, revision, previous⟩
    · rw [hr] at hr'
      cases hr'
  | @advanced j q q' found records =>
    have hne : id ≠ j := by
      rintro rfl
      rw [found] at hr
      cases hr
    rw [records, JsMap.get_set_ne _ hne, hr] at hr'
    cases hr'

theorem protocol_effect {s : State} (h : Invariant P s) (call : Call) :
    Effect s ((protocol P).step s call).2 (namedIntent call) := by
  obtain ⟨_, _, hs⟩ | ⟨_, _, hstep⟩ := protocol_step (P := P) s call
  · exact .nothing hs
  · exact step_effect hstep h

/-- Every record of one state is kept in the other. -/
def Extends (s t : State) : Prop :=
  ∀ id r, s.records.get id = some r → ∃ r', t.records.get id = some r' ∧ Keeps r r'

theorem Effect.extends {s s' : State} {n : Option String} (h : Effect s s' n) : Extends s s' := by
  intro id r hr
  obtain ⟨r', hr', rfl | hadvances⟩ := h.known hr
  · exact ⟨r', hr', .refl r'⟩
  · exact ⟨r', hr', hadvances.keeps⟩

theorem protocol_extends : (protocol P).Relates (Invariant P) Extends where
  refl := fun s id r hr => ⟨r, hr, .refl r⟩
  trans := fun s t u hst htu id r hr => by
    obtain ⟨r', hr', hk⟩ := hst id r hr
    obtain ⟨r'', hr'', hk'⟩ := htu id r' hr'
    exact ⟨r'', hr'', hk.trans hk'⟩
  step := fun s call h => (protocol_effect h call).extends

theorem reached_extends (cs ds : List Call) :
    Extends ((protocol P).reached cs) ((protocol P).reached (cs ++ ds)) := by
  rw [Machine.reached_append]
  exact protocol_extends.run protocol_invariant (protocol_invariant.reached cs) ds

/-- One call leaves the intents it does not name as they were, creates an intent prepared, and
moves a known one on by at most one linked revision. Over any later calls an intent keeps its
order of stages, and what is set, and in the end its snapshot, never change. -/
theorem protocol_progress (P : Platform) (cs ds : List Call) (call : Call) (id : String) :
    let s := (protocol P).reached cs
    let s' := ((protocol P).step s call).2
    (namedIntent call ≠ some id → s'.records.get id = s.records.get id) ∧
    (∀ r', s.records.get id = none → s'.records.get id = some r' →
      r'.current.stage = .prepared ∧ r'.current.revision = 1 ∧
        r'.current.previousSnapshotSha256 = none) ∧
    (∀ r, s.records.get id = some r →
      ∃ r', s'.records.get id = some r' ∧ (r' = r ∨ Advances r r')) ∧
    (∀ r, s.records.get id = some r →
      ∃ r', ((protocol P).reached (cs ++ ds)).records.get id = some r' ∧ Keeps r r') := by
  have heffect := protocol_effect (protocol_invariant.reached (M := protocol P) cs) call
  refine ⟨fun hid => heffect.others hid, fun r' hr hr' => heffect.fresh hr hr', fun r hr =>
    heffect.known hr, fun r hr => reached_extends cs ds id r hr⟩

end Progress

end CryptoLending.MainnetActions.LifecycleProgress
