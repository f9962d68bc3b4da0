import Mathlib.Data.Set.Function
import CryptoLending.MainnetActions.LifecycleProgress

namespace CryptoLending.MainnetActions.LifecycleUniqueness

open Lib Lib.JsValue Lib.Transaction Intent LifecycleData Lifecycle LifecycleSteps
  LifecycleInvariant LifecycleProgress

variable (P : Platform)

/-- A call that reads a report in a state. -/
inductive Reads (s : State) : Call → Report → Prop
  | submission {value now : Value} {record : LifecycleRecord} {x : WalletSignedSubmission}
      {time : Int} (h : ReadsSubmission P s value now record x time) :
      Reads s (.bindWalletSignedSubmission value now) (.submission x)
  | broadcast {value now : Value} {record : LifecycleRecord} {submission : SubmissionBinding}
      {x : WalletBroadcast} {time : Int} (h : ReadsBroadcast s value now record submission x time) :
      Reads s (.recordWalletBroadcastObservation value now) (.broadcast x)
  | reconciliation {value now : Value} {record : LifecycleRecord} {submission : SubmissionBinding}
      {x : Reconciliation} (h : ReadsReconciliation s value now record submission x) :
      Reads s (.recordReconciliationObservation value now) (.reconciliation x)

abbrev Event := Machine.Event Call (Except Failure LifecycleSnapshot) State

/-- An event accepts a report: its call read it and returned. A replay accepts it again. -/
def Accepts (e : Event) (y : Report) : Prop :=
  (∃ snapshot, e.outcome = .ok snapshot) ∧ Reads P e.before e.call y

/-- The texts that stand behind the fingerprints of a run: those of its intents and of the
reports it accepted. -/
def hashedTexts (cs : List Call) : Set String :=
  {t | (∃ id r, ((protocol P).reached cs).records.get id = some r ∧
      t = intentText r.current.intent) ∨
    ∃ e ∈ (protocol P).trace cs, ∃ y, Accepts P e y ∧ t = y.text}

/-- The digest tells the texts apart. -/
def CollisionFree (texts : Set String) : Prop := Set.InjOn P.sha256 texts

variable {P}

theorem returns_unique {α : Type} {m : Op α} {s s' s'' : State} {a b : α}
    (h : Returns m s a s') (h' : Returns m s b s'') : a = b := by
  have he := h.symm.trans h'
  cases he
  rfl

theorem readsSubmission_unique {s : State} {value now : Value} {record record' : LifecycleRecord}
    {x y : WalletSignedSubmission} {time time' : Int}
    (h : ReadsSubmission P s value now record x time)
    (h' : ReadsSubmission P s value now record' y time') : record = record' ∧ x = y := by
  have he := returns_unique ((returns_readSubmission P).mpr ⟨h, rfl⟩)
    ((returns_readSubmission P).mpr ⟨h', rfl⟩)
  cases he
  exact ⟨rfl, rfl⟩

theorem readsBroadcast_unique {s : State} {value now : Value} {record record' : LifecycleRecord}
    {submission submission' : SubmissionBinding} {x y : WalletBroadcast} {time time' : Int}
    (h : ReadsBroadcast s value now record submission x time)
    (h' : ReadsBroadcast s value now record' submission' y time') : record = record' ∧ x = y := by
  have he := returns_unique (returns_readBroadcast.mpr ⟨h, rfl⟩)
    (returns_readBroadcast.mpr ⟨h', rfl⟩)
  cases he
  exact ⟨rfl, rfl⟩

theorem readsReconciliation_unique {s : State} {value now : Value}
    {record record' : LifecycleRecord} {submission submission' : SubmissionBinding}
    {x y : Reconciliation} (h : ReadsReconciliation s value now record submission x)
    (h' : ReadsReconciliation s value now record' submission' y) : record = record' ∧ x = y := by
  have he := returns_unique (returns_readReconciliation.mpr ⟨h, rfl⟩)
    (returns_readReconciliation.mpr ⟨h', rfl⟩)
  cases he
  exact ⟨rfl, rfl⟩

theorem Holds_keeps {r r' : LifecycleRecord} (h : Keeps r r') {y : Report} (hy : Holds r y) :
    Holds r' y := by
  cases y with
  | submission x =>
    obtain ⟨b, hb, rfl⟩ := hy
    exact ⟨b, h.submission b hb, rfl⟩
  | broadcast x =>
    obtain ⟨o, ho, rfl⟩ := hy
    exact ⟨o, h.broadcast o ho, rfl⟩
  | reconciliation x =>
    obtain ⟨replay, o, hreplay, ho, rfl⟩ := hy
    exact ⟨replay, o, h.reconciliationReplays _ replay hreplay, ho, rfl⟩

theorem Recorded_extends {s t : State} (h : Extends s t) {y : Report} (hy : Recorded s y) :
    Recorded t y := by
  obtain ⟨r, hr, hy⟩ := hy
  obtain ⟨r', hr', hk⟩ := h _ r hr
  exact ⟨r', hr', Holds_keeps hk hy⟩

variable (P) in
/-- A recorded report of the same operation and subject, with the same fingerprint. -/
def Twin (s : State) (y : Report) : Prop :=
  ∃ z, Recorded s z ∧ z.operation = y.operation ∧ z.subject = y.subject ∧
    P.sha256 z.text = P.sha256 y.text

theorem Twin.of_recorded {s : State} {y : Report} (h : Recorded s y) : Twin P s y :=
  ⟨y, h, rfl, rfl, rfl⟩

theorem Twin.extends {s t : State} (h : Extends s t) {y : Report} (hy : Twin P s y) : Twin P t y := by
  obtain ⟨z, hz, hrest⟩ := hy
  exact ⟨z, Recorded_extends h hz, hrest⟩

/-- A call that returns leaves its report recorded, up to the fingerprint. -/
theorem step_twin {s s' : State} {call : Call} {snapshot : LifecycleSnapshot} {y : Report}
    (hstep : Step P s call snapshot s') (h : Invariant P s) (hy : Reads P s call y) :
    Twin P s' y := by
  cases hstep with
  | prepared => cases hy
  | preparedAgain => cases hy
  | @bound _ _ record x _ _ reads _ _ _ _ _ _ _ made =>
    cases hy with
    | submission hread =>
      obtain ⟨rfl, rfl⟩ := readsSubmission_unique reads hread
      exact .of_recorded ⟨_, JsMap.get_set_self _ _ _, _, made.submission_eq, rfl⟩
  | @boundAgain _ _ record x _ replay reads replayed same =>
    cases hy with
    | submission hread =>
      obtain ⟨rfl, rfl⟩ := readsSubmission_unique reads hread
      have hslot := (h.records _ _ reads.found).submission
      rw [replayed] at hslot
      generalize hb : record.current.submission = b at hslot
      cases hslot with
      | @filled z snapshot hz =>
        refine ⟨.submission z, ⟨record, ?_, _, hb, rfl⟩, rfl, congrArg Subject.binding hz, same⟩
        rw [Report.intentId, hz]
        exact reads.found
  | @broadcast _ _ record submission x _ _ reads _ _ _ _ _ _ _ made =>
    cases hy with
    | broadcast hread =>
      obtain ⟨rfl, rfl⟩ := readsBroadcast_unique reads hread
      exact .of_recorded ⟨_, JsMap.get_set_self _ _ _, _, made.broadcast_eq, rfl⟩
  | @broadcastAgain _ _ record submission x _ replay reads replayed observation same =>
    cases hy with
    | broadcast hread =>
      obtain ⟨rfl, rfl⟩ := readsBroadcast_unique reads hread
      have hslot := (h.records _ _ reads.found).broadcast
      rw [replayed] at hslot
      generalize hb : record.current.broadcastObservation = b at hslot
      cases hslot with
      | @filled z _ snapshot hz =>
        refine ⟨.broadcast z, ⟨record, ?_, _, hb, rfl⟩, rfl,
          congrArg Subject.observation observation, same⟩
        rw [Report.intentId, hz]
        exact reads.found
  | @reconciled _ _ record submission x _ reads _ _ _ _ _ _ _ _ made =>
    cases hy with
    | reconciliation hread =>
      obtain ⟨rfl, rfl⟩ := readsReconciliation_unique reads hread
      exact .of_recorded ⟨_, JsMap.get_set_self _ _ _, _, _, JsMap.get_set_self _ _ _,
        made.reconciliation_eq, rfl⟩
  | @reconciledAgain _ _ record submission x replay reads replayed same =>
    cases hy with
    | reconciliation hread =>
      obtain ⟨rfl, rfl⟩ := readsReconciliation_unique reads hread
      obtain ⟨o, ho, hid, hintent, hfp⟩ :=
        (h.records _ _ reads.found).reconciliation _ _ replayed
      refine ⟨.reconciliation o.toReconciliation, ⟨record, ?_, replay, o, ?_, ho, rfl⟩,
        rfl, congrArg Subject.observation hid, hfp.symm.trans same⟩
      · rw [Report.intentId, hintent]
        exact reads.found
      · rw [hid]
        exact replayed
  | read => cases hy

theorem recorded_set {s : State} {id : String} {r r' : LifecycleRecord} {y z : Report}
    (hr : s.records.get id = some r) (hold : ∀ z, Holds r' z → Holds r z ∨ z = y)
    {q : LifecycleRecord} (hq : (s.records.set id r').get z.intentId = some q) (hz : Holds q z) :
    Recorded s z ∨ z = y := by
  rw [JsMap.get_set] at hq
  split at hq
  · rw [Option.some.injEq] at hq
    subst hq
    obtain hz | hzy := hold z hz
    · exact .inl ⟨r, ‹z.intentId = id› ▸ hr, hz⟩
    · exact .inr hzy
  · exact .inl ⟨q, hq, hz⟩

/-- What is recorded after a call was recorded before it, or is what the call read. -/
theorem step_recorded {s s' : State} {call : Call} {snapshot : LifecycleSnapshot} {y : Report}
    (hstep : Step P s call snapshot s') (hy : Recorded s' y) :
    Recorded s y ∨ Reads P s call y := by
  obtain ⟨q, hq, hholds⟩ := hy
  cases hstep with
  | @prepared _ _ intent snapshot _ fresh _ _ made =>
    change (s.records.set _ _).get _ = _ at hq
    rw [JsMap.get_set] at hq
    split at hq
    · rw [Option.some.injEq] at hq
      subst hq
      cases y with
      | submission x =>
        obtain ⟨b, hb, _⟩ := hholds
        exact absurd (made.submission_eq.symm.trans hb) (by simp)
      | broadcast x =>
        obtain ⟨o, ho, _⟩ := hholds
        exact absurd (made.broadcast_eq.symm.trans ho) (by simp)
      | reconciliation x =>
        obtain ⟨replay, o, hreplay, _⟩ := hholds
        cases hreplay
    · exact .inl ⟨q, hq, hholds⟩
  | preparedAgain => exact .inl ⟨q, hq, hholds⟩
  | bound reads _ _ _ _ _ _ _ made =>
    obtain hz | rfl := recorded_set reads.found
      (fun z => holds_bound made.submission_eq made.broadcast_eq) hq hholds
    · exact .inl hz
    · exact .inr (.submission reads)
  | boundAgain => exact .inl ⟨q, hq, hholds⟩
  | broadcast reads _ _ _ _ _ _ _ made =>
    obtain ⟨input, _, _, _, _, hparse⟩ := reads.reads
    have hsubmission := broadcastFields_submission (parseBroadcast_fields hparse)
    obtain hz | rfl := recorded_set reads.found
      (fun z => holds_broadcast (made.submission_eq.trans hsubmission.symm) made.broadcast_eq)
      hq hholds
    · exact .inl hz
    · exact .inr (.broadcast reads)
  | broadcastAgain => exact .inl ⟨q, hq, hholds⟩
  | reconciled reads _ _ _ _ _ _ _ _ made =>
    obtain hz | rfl := recorded_set reads.found
      (fun z => holds_reconciled made.submission_eq made.broadcast_eq made.reconciliation_eq)
      hq hholds
    · exact .inl hz
    · exact .inr (.reconciliation reads)
  | reconciledAgain => exact .inl ⟨q, hq, hholds⟩
  | read => exact .inl ⟨q, hq, hholds⟩

/-- Every recorded report was accepted by some event of the run. -/
theorem recorded_accepted (cs : List Call) {y : Report}
    (hy : Recorded ((protocol P).reached cs) y) : ∃ e ∈ (protocol P).trace cs, Accepts P e y := by
  revert y
  apply Machine.history_induction (J := fun es s => ∀ y, Recorded s y → ∃ e ∈ es, Accepts P e y)
    protocol_invariant
  case hnil =>
    rintro y ⟨r, hr, _⟩
    cases hr
  case hsnoc =>
    intro es s call _ ih y hy
    have hbefore : Recorded s y → ∃ e ∈ es ++ [(protocol P).event s call], Accepts P e y := by
      intro hy
      obtain ⟨e, he, ha⟩ := ih y hy
      exact ⟨e, List.mem_append_left _ he, ha⟩
    obtain ⟨_, _, hs⟩ | ⟨snapshot, hok, hstep⟩ := protocol_step (P := P) s call
    · rw [hs] at hy
      exact hbefore hy
    · obtain hy | hread := step_recorded hstep hy
      · exact hbefore hy
      · exact ⟨_, List.mem_append_right _ List.mem_cons_self, ⟨snapshot, hok⟩, hread⟩

/-- An accepted report has a recorded twin at the end of the run. -/
theorem accepted_twin {cs : List Call} {e : Event} (he : e ∈ (protocol P).trace cs) {y : Report}
    (hy : Accepts P e y) : Twin P ((protocol P).reached cs) y := by
  apply protocol_extends.settled protocol_invariant (P := fun s => Twin P s y) _ he
  · intro hI hev
    obtain ⟨⟨snapshot, hok⟩, hread⟩ := hy
    rw [hev] at hok ⊢
    obtain ⟨_, herror, _⟩ | ⟨_, _, hstep⟩ := protocol_step (P := P) e.before e.call
    · exact absurd (herror.symm.trans hok) (by simp)
    · exact step_twin hstep hI hread
  · exact fun s t hst hs => hs.extends hst

/-- Without collisions every accepted report is recorded at the end of the run. -/
theorem accepted_recorded {cs : List Call} (hP : CollisionFree P (hashedTexts P cs)) {e : Event}
    (he : e ∈ (protocol P).trace cs) {y : Report} (hy : Accepts P e y) :
    Recorded ((protocol P).reached cs) y := by
  obtain ⟨z, hz, hoperation, _, hsha⟩ := accepted_twin he hy
  obtain ⟨f, hf, hfz⟩ := recorded_accepted cs hz
  have htext := hP (.inr ⟨f, hf, z, hfz, rfl⟩) (.inr ⟨e, he, y, hy, rfl⟩) hsha
  rw [← Report.ext_text hoperation htext]
  exact hz

theorem holds_unique {r : LifecycleRecord} {id : String} (hr : RecordInvariant P id r)
    {x y : Report} (hx : Holds r x) (hy : Holds r y) (h : x.subject = y.subject) : x = y := by
  cases x with
  | submission x =>
    obtain ⟨b, hb, rfl⟩ := hx
    cases y with
    | submission y =>
      obtain ⟨c, hc, rfl⟩ := hy
      rw [hb, Option.some.injEq] at hc
      rw [hc]
    | broadcast y => cases h
    | reconciliation y => cases h
  | broadcast x =>
    obtain ⟨o, ho, rfl⟩ := hx
    cases y with
    | submission y => cases h
    | broadcast y =>
      obtain ⟨o', ho', rfl⟩ := hy
      rw [ho, Option.some.injEq] at ho'
      rw [ho']
    | reconciliation y =>
      obtain ⟨replay, _, hreplay, _⟩ := hy
      have hid : o.observationId = y.observationId := Subject.observation.inj h
      rw [← hid, hr.roles o ho] at hreplay
      cases hreplay
  | reconciliation x =>
    obtain ⟨replay, o, hreplay, ho, rfl⟩ := hx
    cases y with
    | submission y => cases h
    | broadcast y =>
      obtain ⟨o', ho', rfl⟩ := hy
      have hid : o.observationId = o'.observationId := Subject.observation.inj h
      rw [hid, hr.roles o' ho'] at hreplay
      cases hreplay
    | reconciliation y =>
      obtain ⟨replay', o', hreplay', ho', rfl⟩ := hy
      have hid : o.observationId = o'.observationId := Subject.observation.inj h
      rw [hid, hreplay', Option.some.injEq] at hreplay
      rw [← hreplay, ho', Option.some.injEq] at ho
      rw [ho]

theorem subject_intentId {s : State} (h : Invariant P s) {x y : Report} (hx : Recorded s x)
    (hy : Recorded s y) (hsubject : x.subject = y.subject) : x.intentId = y.intentId := by
  obtain ⟨r, hr, hx⟩ := hx
  obtain ⟨q, hq, hy⟩ := hy
  have hobservation : ∀ d, x.observationId? = some d → y.observationId? = some d →
      x.intentId = y.intentId := by
    intro d hxd hyd
    have hrx := h.observations _ r x d hr hx hxd
    rw [h.observations _ q y d hq hy hyd] at hrx
    exact (Option.some.inj hrx).symm
  cases x with
  | submission x =>
    cases y with
    | submission y => exact Subject.binding.inj hsubject
    | broadcast y => cases hsubject
    | reconciliation y => cases hsubject
  | broadcast x =>
    cases y with
    | submission y => cases hsubject
    | broadcast y => exact hobservation _ (congrArg some (Subject.observation.inj hsubject)) rfl
    | reconciliation y =>
      exact hobservation _ (congrArg some (Subject.observation.inj hsubject)) rfl
  | reconciliation x =>
    cases y with
    | submission y => cases hsubject
    | broadcast y => exact hobservation _ (congrArg some (Subject.observation.inj hsubject)) rfl
    | reconciliation y =>
      exact hobservation _ (congrArg some (Subject.observation.inj hsubject)) rfl

/-- Two recorded reports with one subject are one report. -/
theorem subject_unique {s : State} (h : Invariant P s) {x y : Report} (hx : Recorded s x)
    (hy : Recorded s y) (hsubject : x.subject = y.subject) : x = y := by
  have hid := subject_intentId h hx hy hsubject
  obtain ⟨r, hr, hx⟩ := hx
  obtain ⟨q, hq, hy⟩ := hy
  rw [← hid, hr, Option.some.injEq] at hq
  subst hq
  exact holds_unique (h.records _ r hr) hx hy hsubject

theorem subject_of_observationId {x y : Report} {d : String} (hx : x.observationId? = some d)
    (hy : y.observationId? = some d) : x.subject = y.subject := by
  have hobservation : ∀ {z : Report}, z.observationId? = some d → z.subject = .observation d := by
    intro z hz
    cases z with
    | submission z => cases hz
    | broadcast z => exact congrArg Subject.observation (Option.some.inj hz)
    | reconciliation z => exact congrArg Subject.observation (Option.some.inj hz)
  rw [hobservation hx, hobservation hy]

theorem evidence_unique {s : State} (h : Invariant P s) {x y : Report} (hx : Recorded s x)
    (hy : Recorded s y) {c d : EvidenceDigestClaim} (hc : c ∈ x.claims P) (hd : d ∈ y.claims P)
    (hdigest : c.digest = d.digest) : c.owner = d.owner := by
  obtain ⟨r, hr, hx⟩ := hx
  obtain ⟨q, hq, hy⟩ := hy
  have hown := h.evidence _ r x hr hx c hc
  rw [hdigest, h.evidence _ q y hq hy d hd] at hown
  exact (Option.some.inj hown).symm

/-- Two records whose intents have one fingerprint are the record of one intent. -/
theorem intent_unique {cs : List Call} (hP : CollisionFree P (hashedTexts P cs)) {i j : String}
    {r q : LifecycleRecord} (hr : ((protocol P).reached cs).records.get i = some r)
    (hq : ((protocol P).reached cs).records.get j = some q)
    (h : intentFingerprint P r.current.intent = intentFingerprint P q.current.intent) : i = j := by
  have hI := protocol_invariant.reached (M := protocol P) cs
  have htext := hP (.inl ⟨i, r, hr, rfl⟩) (.inl ⟨j, q, hq, rfl⟩) h
  rw [← (hI.records i r hr).intentId, ← (hI.records j q hq).intentId]
  exact intentId_of_intentText htext

/-- After any calls, different intents have different idempotency scopes, replay protection
scopes and transactions, an observation identifier was accepted for one observation, and an
evidence digest under one role and fingerprint. -/
theorem protocol_unique (P : Platform) (cs : List Call)
    (hP : CollisionFree P (hashedTexts P cs)) :
    (∀ i j r q, ((protocol P).reached cs).records.get i = some r →
      ((protocol P).reached cs).records.get j = some q → i ≠ j →
        (r.current.intent.accountId, r.current.intent.idempotencyKeyDigestSha256) ≠
          (q.current.intent.accountId, q.current.intent.idempotencyKeyDigestSha256) ∧
        (r.current.intent.accountId, r.current.intent.replayProtectionId) ≠
          (q.current.intent.accountId, q.current.intent.replayProtectionId) ∧
        ∀ b c, r.current.submission = some b → q.current.submission = some c →
          b.chainQualifiedTransactionId ≠ c.chainQualifiedTransactionId) ∧
    (∀ e ∈ (protocol P).trace cs, ∀ f ∈ (protocol P).trace cs, ∀ x y, Accepts P e x →
      Accepts P f y →
        (∀ observationId, x.observationId? = some observationId →
          y.observationId? = some observationId → x = y) ∧
        (∀ c ∈ x.claims P, ∀ d ∈ y.claims P, c.digest = d.digest → c.owner = d.owner)) := by
  have hI := protocol_invariant.reached (M := protocol P) cs
  constructor
  · intro i j r q hr hq hij
    refine ⟨fun hscope => hij ?_, fun hscope => hij ?_, fun b c hb hc hbc => hij ?_⟩
    · obtain ⟨haccount, hkey⟩ := Prod.mk.inj hscope
      have hr' := hI.idempotency i r hr
      rw [idempotencyScope, haccount, hkey, ← idempotencyScope, hI.idempotency j q hq] at hr'
      exact intent_unique hP hr hq (Option.some.inj hr').symm
    · obtain ⟨haccount, hkey⟩ := Prod.mk.inj hscope
      have hr' := hI.replayProtection i r hr
      rw [replayProtectionScope, haccount, hkey, ← replayProtectionScope,
        hI.replayProtection j q hq] at hr'
      exact intent_unique hP hr hq (Option.some.inj hr').symm
    · have hr' := hI.transactions i r b hr hb
      rw [hbc, hI.transactions j q c hq hc] at hr'
      exact (Option.some.inj hr').symm
  · intro e he f hf x y hx hy
    have hx' := accepted_recorded hP he hx
    have hy' := accepted_recorded hP hf hy
    exact ⟨fun d hxd hyd => subject_unique hI hx' hy' (subject_of_observationId hxd hyd),
      fun c hc d hd hcd => evidence_unique hI hx' hy' hc hd hcd⟩

def sampleIntentId : String := "11111111-1111-4111-8111-111111111111"

def sampleIntentDigest : String :=
  "1f8b74a73307a1c1a160b24946c8fc4d14372efbb4de093ae43cbdbfcfd3a0a0"

def sampleSubmissionDigest : String :=
  "019df9eeda82cbeac194a6c90d1f6ed9ab35c89681854c4f4b31d6f82e4826b4"

def otherIntentId : String := "77777777-7777-4777-8777-777777777777"

def otherIntentDigest : String :=
  "f734f94c2e2dbf8a1202a75ba1eaaa7c9c046c40f3b280eb0d3c2d01a92f8cad"

def otherPreparedDigest : String :=
  "23754abd8bedf4a1360f632818e1e205adc74e1cb8035ca5c7d0842c40c6208a"

/-- The digests of the texts that are hashed in one lifecycle and of the text of a second
intent, by the length of each. -/
def sampleDigests : List (Nat × String) :=
  [(636, sampleIntentDigest), (639, otherIntentDigest),
    (250, "dffa38d043d9a3c42933f082d296dead2a597eb4222b231327349e3e50c6b28d"),
    (175, "100e61dda5c9b7e465af4b881faf56b89a0213a4cbf3d537fd0db55b9ff708d7"),
    (461, sampleSubmissionDigest),
    (259, "28dbee7ff95a0df0059adb5f39c7a6f017f3728cfb8879aeae5ebab4e64037d1"),
    (418, "9354719e582b5df8c27de67d37f7ed5284d8e497afaf29cb43a7b282ad5e49a4"),
    (256, "fed9407b41354b591d091ef9756b098e003fb61d78e0667dbae0304930192244"),
    (630, "fea6a716e87e63d27c88a1fab3f01dc9b72648d37ba012b0da8b6464d5225430"),
    (246, "33956365dde441a6543fa42b76eda252f578776a55879af508f9263efb100ae2")]

def sampleWallet : String := "0x1111111111111111111111111111111111111111"

/-- The other texts of the second intent, which are as long as those of the first. -/
def otherDigests : List (String × String) :=
  [(fingerprintText "CRYPTO_LENDING:DORMANT_MAINNET_ACTION_PREPARED:v1"
      [.string otherIntentDigest, .string ("22222222-2222-4222-8222-222222222222" ++
        ":MAINNET_FINANCIAL_ACTION:v1:" ++
        "9999999999999999999999999999999999999999999999999999999999999999")],
      otherPreparedDigest),
    (fingerprintText "CRYPTO_LENDING:DORMANT_MAINNET_ACTION_SNAPSHOT:v1"
      [.string otherIntentId, .number 1, .string "PREPARED", .null, .string otherPreparedDigest],
      "4efd3ba33b19096628eb34b7c95a10d3ac875b5ae526d7f1f9dca67c028ea315")]

def samplePlatform : Platform where
  sha256 := fun text =>
    (otherDigests.lookup text).getD ((sampleDigests.lookup text.utf8ByteSize).getD "")
  isAddress := fun address => address == sampleWallet

def samplePrepare : Call := .prepareIntent (ofFields
  [("schemaVersion", .integer 1), ("intentId", .string sampleIntentId),
    ("accountId", .string "22222222-2222-4222-8222-222222222222"),
    ("walletRegistrationId", .string "33333333-3333-4333-8333-333333333333"),
    ("replayProtectionId", .string "44444444-4444-4444-8444-444444444444"),
    ("idempotencyKeyDigestSha256",
      .string "1111111111111111111111111111111111111111111111111111111111111111"),
    ("networkId", .string "eip155:1"), ("walletAddress", .string sampleWallet),
    ("providerId", .string "aave"), ("protocolId", .string "aave-v3"),
    ("marketId", .string "0x87870bca3f3fd6335c3f4ce8392d69350b4fa4e2"),
    ("assetRegistryVersion", .integer 1),
    ("assetRegistryFingerprintSha256",
      .string "5058b141479f114c1e5f87ed8798fbb7a7ffcce7b502aa7e0794dc53ca1f767d"),
    ("assetSymbol", .string "USDC"),
    ("assetIdentity", .string "0xa0b86991c6218b36c1d19d4a2e9eb0ce3606eb48"),
    ("action", .string "SUPPLY"), ("amountAtomic", .string "1000000"),
    ("requestedValueUsdMicros", .string "1000000"), ("maximumNetworkFeeAtomic", .string "50000"),
    ("maximumNetworkFeeBasisPoints", .integer 100),
    ("minimumPostActionNativeBalanceAtomic", .string "10000"), ("allowanceMode", .string "EXACT"),
    ("allowanceAmountAtomic", .string "1000000"), ("issuedAt", .string "2026-09-06T11:59:00.000Z"),
    ("expiresAt", .string "2026-09-06T12:04:00.000Z")]) (.date (some 1788696000000))

deriving instance DecidableEq for DormantMainnetFinancialActionIntent

def sampleAccount : String := "eip155:1:0x1111111111111111111111111111111111111111"

def sampleIntent : DormantMainnetFinancialActionIntent where
  intentId := sampleIntentId
  accountId := "22222222-2222-4222-8222-222222222222"
  walletRegistrationId := "33333333-3333-4333-8333-333333333333"
  replayProtectionId := "44444444-4444-4444-8444-444444444444"
  idempotencyKeyDigestSha256 := "1111111111111111111111111111111111111111111111111111111111111111"
  networkId := .eip155
  walletAddress := sampleWallet
  providerId := .aave
  protocolId := .aaveV3
  marketId := "0x87870bca3f3fd6335c3f4ce8392d69350b4fa4e2"
  assetRegistryVersion := 1
  assetRegistryFingerprintSha256 :=
    "5058b141479f114c1e5f87ed8798fbb7a7ffcce7b502aa7e0794dc53ca1f767d"
  assetSymbol := .usdc
  assetIdentity := "0xa0b86991c6218b36c1d19d4a2e9eb0ce3606eb48"
  assetDecimals := 6
  action := .supply
  amountAtomic := "1000000"
  requestedValueUsdMicros := "1000000"
  maximumNetworkFeeAtomic := "50000"
  maximumNetworkFeeBasisPoints := 100
  minimumPostActionNativeBalanceAtomic := "10000"
  allowanceAmountAtomic := "1000000"
  issuedAt := ⟨"2026-09-06T11:59:00.000Z", 1788695940000, by decide⟩
  expiresAt := ⟨"2026-09-06T12:04:00.000Z", 1788696240000, by decide⟩

theorem samplePrepare_parsed : ∃ input now, samplePrepare = .prepareIntent input now ∧
    parseIntent samplePlatform input now = .ok sampleIntent :=
  ⟨_, _, rfl, by decide⟩

theorem sampleWallet_account : walletAccountId samplePlatform sampleIntent = .ok sampleAccount := by
  decide

theorem fingerprintText_size (domain : String) (values : List Json.Scalar) :
    (fingerprintText domain values).utf8ByteSize =
      domain.utf8ByteSize + 1 + String.utf8Len (Json.arrayText values) := by
  rw [fingerprintText, String.utf8ByteSize_append, String.utf8ByteSize_append, Json.stringify,
    String.utf8ByteSize_ofList (Json.arrayText values)]
  rfl

theorem otherDigests_sizes : ∀ p ∈ otherDigests, p.1.utf8ByteSize ∈ [250, 175] := by
  simp only [otherDigests, List.forall_mem_cons, fingerprintText_size, Json.arrayText,
    Json.tailText, Json.Scalar.text, Json.quote, String.toList_append, otherIntentDigest,
    otherIntentId, otherPreparedDigest]
  repeat rw [String.toList_ofList]
  set_option maxRecDepth 4000 in decide

theorem otherDigests_lookup {domain : String} {values : List Json.Scalar} {size : Nat}
    (hsize : String.utf8Len (Json.arrayText values) = size)
    (h : domain.utf8ByteSize + 1 + size ∉ [250, 175]) :
    otherDigests.lookup (fingerprintText domain values) = none := by
  rw [List.lookup_eq_none_iff]
  intro p hp
  rw [bne_iff_ne]
  intro htext
  apply h
  have hbytes := otherDigests_sizes p hp
  rwa [← htext, fingerprintText_size, hsize] at hbytes

/-- The digest of a text of the sample, by its size. -/
theorem sample_sha256 {domain digest : String} {values : List Json.Scalar} {size : Nat}
    (hsize : String.utf8Len (Json.arrayText values) = size)
    (hother : domain.utf8ByteSize + 1 + size ∉ [250, 175])
    (h : sampleDigests.lookup (domain.utf8ByteSize + 1 + size) = some digest) :
    samplePlatform.sha256 (fingerprintText domain values) = digest := by
  change (otherDigests.lookup (fingerprintText domain values)).getD
    ((sampleDigests.lookup (fingerprintText domain values).utf8ByteSize).getD "") = digest
  rw [otherDigests_lookup hsize hother, fingerprintText_size, hsize, h]
  rfl

theorem sampleIntent_size : String.utf8Len (Json.arrayText (intentValues sampleIntent)) = 588 := by
  simp only [intentValues, sampleIntent, sampleIntentId, sampleWallet, Json.arrayText,
    Json.tailText, Json.Scalar.text, Json.quote]
  repeat rw [String.toList_ofList]
  set_option maxRecDepth 4000 in decide

theorem sampleIntent_fingerprint :
    intentFingerprint samplePlatform sampleIntent = sampleIntentDigest :=
  sample_sha256 sampleIntent_size (by decide) (by decide)

def samplePrepared : LifecycleSnapshot :=
  snapshotFor samplePlatform sampleAccount none sampleIntent sampleIntentDigest .prepared
    (preparedFingerprint samplePlatform sampleIntent) none none none

def samplePreparedState : State :=
  ((State.initial.setRecord sampleIntentId (.ofPrepared samplePrepared)).ownIdempotency
    (idempotencyScope sampleIntent) sampleIntentDigest).ownReplayProtection
    (replayProtectionScope sampleIntent) sampleIntentDigest

theorem samplePrepare_returns :
    Returns (perform samplePlatform samplePrepare) State.initial samplePrepared
      samplePreparedState := by
  obtain ⟨input, now, hcall, parsed⟩ := samplePrepare_parsed
  have h := prepareIntent_returns (s := State.initial) parsed rfl (fun d hd => by cases hd)
    (fun d hd => by cases hd) (makeSnapshot_ok sampleWallet_account)
  rw [sampleIntent_fingerprint] at h
  rw [hcall]
  exact h

end CryptoLending.MainnetActions.LifecycleUniqueness
