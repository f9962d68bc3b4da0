import CryptoLending.MainnetPlatforms.ChainAnchorCalls

namespace CryptoLending.MainnetPlatforms.ChainAnchorGuarantee

open Lib Lib.JsObject Lib.IsoText Lib.IsoReading Lib.Transaction Blockchain.LaunchNetwork
open ChainAnchorData ChainAnchorEvidence ChainAnchorAgreement ChainAnchorCalls
open ChainAnchorProducer (Configuration IssuedCandidate Evidence Proofs reviewCandidate currentPair
  ensureHeadTimesCurrent produceCandidate collect)
open ChainAnchorFinalizer

section Runs

/-- A producer and a finalizer. -/
structure State where
  issued : List IssuedCandidate
  finalizer : Finalizer

/-- A request that the producer took is frozen: the object is still what it was. -/
def Unchanged (issued : List IssuedCandidate) (value : Datum) : Prop :=
  ∀ request, reviewedAssessRequest value = .ok request → ∀ i ∈ issued,
    request.producerRequest.request.reference? = i.request.reference? →
      request.producerRequest.request = i.request

variable (P : Configuration)

/-- The states that calls reach. What is issued is a new object. -/
inductive Reachable : State → Prop
  | start : Reachable ⟨[], ⟨none, []⟩⟩
  | produced {s : State} {reference : Reference} {value : Datum}
      {answers : ChainAnchorProducer.Answers} {i : IssuedCandidate} (reached : Reachable s)
      (fresh : ∀ j ∈ s.issued, j.candidate.reference? ≠ some reference)
      (call : produceCandidate P reference value answers = .ok i) :
      Reachable { s with issued := s.issued ++ [i] }
  | assessed {s : State} {reference : Reference} {value : Datum} {answers : Answers AssessStage}
      {outcome : Except ErrorCode Assessment} {f : Finalizer} (reached : Reachable s)
      (fresh : ∀ a ∈ s.finalizer.issued, a.result.reference ≠ reference)
      (unchanged : Unchanged s.issued value)
      (call : exec (assessCandidate P s.issued reference value answers) s.finalizer = (outcome, f)) :
      Reachable { s with finalizer := f }
  | reviewed {s : State} {capability value : Datum} {answers : Answers ReviewStage}
      {outcome : Except ErrorCode (Option Assessment)} {f : Finalizer} (reached : Reachable s)
      (call : exec (reviewAssessment P s.issued capability value answers) s.finalizer =
        (outcome, f)) :
      Reachable { s with finalizer := f }

end Runs

section Reviews

variable {P : Configuration} {s : State} {i : IssuedCandidate} {e : Evidence} {proofs : Proofs}

/-- What the producer remembers of a call that gave a candidate. -/
def Produced (P : Configuration) (i : IssuedCandidate) (e : Evidence) : Prop :=
  ∃ reference value answers proofs, collect P value answers = .ok e ∧
    produceCandidate P reference value answers = .ok i ∧ Issued P i e proofs

theorem produced_of_call {reference : Reference} {value : Datum}
    {answers : ChainAnchorProducer.Answers} (h : produceCandidate P reference value answers = .ok i) :
    ∃ e, Produced P i e := by
  obtain ⟨e, proofs, he, _, hissued⟩ := issued_of_produce h
  exact ⟨e, reference, value, answers, proofs, he, h, hissued⟩

theorem reviewCandidate_ok {issued : List IssuedCandidate} {capability request d : Datum}
    {clock : Option TimeValue} {aborted : Bool}
    (h : reviewCandidate P issued capability request clock aborted = .ok d) :
    ∃ i ∈ issued, ∃ t, d = i.candidate ∧ capability.reference? = i.candidate.reference? ∧
      request.reference? = i.request.reference? ∧ clock = some t ∧
      i.issuedAt ≤ t.milliseconds ∧ t.milliseconds < i.deadlineAt ∧ aborted = false ∧
      (∃ p, currentPair P i.networkId t = .ok p) ∧
      ∃ u, ensureHeadTimesCurrent i.networkId i.currentHeadAdvancedAt i.finalizedHeadAdvancedAt
        t.milliseconds = .ok u := by
  obtain ⟨reference, hreference, h⟩ := except_bind_ok.mp h
  obtain ⟨i, hfind, h⟩ := except_bind_ok.mp h
  obtain ⟨_, hrequest, h⟩ := except_bind_ok.mp h
  obtain ⟨t, hclock, h⟩ := except_bind_ok.mp h
  obtain ⟨_, htimes, h⟩ := except_bind_ok.mp h
  obtain ⟨p, hpair, h⟩ := except_bind_ok.mp h
  obtain ⟨u, hheads, h⟩ := except_bind_ok.mp h
  cases h
  have hfound := orFail_ok.mp hfind
  have hsame := List.find?_some hfound
  have hcandidate : i.candidate.reference? = some reference := beq_iff_eq.mp hsame
  have hchecks := failWhen_ok.mp htimes
  simp only [not_or, not_lt, not_le, Bool.not_eq_true] at hchecks
  exact ⟨i, List.mem_of_find?_eq_some hfound, t, rfl,
    (orFail_ok.mp hreference).trans hcandidate.symm, (not_not.mp (failWhen_ok.mp hrequest)).symm,
    orFail_ok.mp hclock, hchecks.1, hchecks.2.1, hchecks.2.2, ⟨p, hpair⟩, u, hheads⟩

theorem find?_of_mem {issued : List IssuedCandidate} {reference : Reference}
    (hdistinct : (issued.map fun i => i.candidate.reference?).Nodup) (hi : i ∈ issued)
    (hreference : i.candidate.reference? = some reference) :
    issued.find? (fun j => j.candidate.reference? == some reference) = some i := by
  induction issued with
  | nil => cases hi
  | cons j issued ih =>
    rw [List.map_cons, List.nodup_cons] at hdistinct
    by_cases hj : j.candidate.reference? = some reference
    · have hbeq : (j.candidate.reference? == some reference) = true := beq_iff_eq.mpr hj
      rw [List.find?_cons, hbeq]
      obtain rfl | hmem := List.mem_cons.mp hi
      · rfl
      · exact absurd (List.mem_map.mpr ⟨i, hmem, hreference.trans hj.symm⟩) hdistinct.1
    · have hbeq : (j.candidate.reference? == some reference) = false := by simp [hj]
      rw [List.find?_cons, hbeq]
      obtain rfl | hmem := List.mem_cons.mp hi
      · exact absurd hreference hj
      · exact ih hdistinct.2 hmem

/-- A candidate is given back exactly from its issuing on and before its evidence expires. -/
theorem reviewCandidate_issued {issued : List IssuedCandidate} {t : TimeValue} {aborted : Bool}
    (hdistinct : (issued.map fun i => i.candidate.reference?).Nodup) (hi : i ∈ issued)
    (h : Issued P i e proofs) :
    (∃ d, reviewCandidate P issued i.candidate i.request (some t) aborted = .ok d) ↔
      i.issuedAt ≤ t.milliseconds ∧ t.milliseconds < expiry e ∧ aborted = false := by
  obtain ⟨reference, hcandidate⟩ := h.candidate
  have hreference : i.candidate.reference? = some reference := hcandidate ▸ rfl
  have hfind := find?_of_mem hdistinct hi hreference
  constructor
  · rintro ⟨d, hd⟩
    obtain ⟨j, hj, t', _, hsame, _, hclock, hissuedAt, hdeadline, haborted, ⟨p, hpair⟩, u, hheads⟩ :=
      reviewCandidate_ok hd
    obtain rfl := Option.some.inj hclock
    obtain rfl : j = i := Option.some.inj
      ((find?_of_mem hdistinct hj (hsame.symm.trans hreference)).symm.trans hfind)
    obtain ⟨hselected, _, _, hexpires⟩ := currentPair_ok.mp hpair
    rw [h.networkId, h.collected.selected] at hselected
    obtain rfl := Option.some.inj hselected
    obtain ⟨⟨_, hcurrent⟩, _, hfinalized⟩ := ensureHeadTimesCurrent_ok.mp hheads
    rw [h.currentHeadAdvancedAt, h.networkId] at hcurrent
    rw [h.finalizedHeadAdvancedAt, h.networkId] at hfinalized
    rw [h.deadlineAt] at hdeadline
    refine ⟨hissuedAt, ?_, haborted⟩
    rw [expiry]
    omega
  · rintro ⟨hissuedAt, hbefore, haborted⟩
    rw [expiry] at hbefore
    have hassessed := h.assessed.trans hissuedAt
    have hpair : currentPair P i.networkId t = .ok e.pair := by
      refine currentPair_ok.mpr ⟨?_, h.approved, h.collected.approved.trans hassessed, by omega⟩
      rw [h.networkId]
      exact h.collected.selected
    have hheads : ensureHeadTimesCurrent i.networkId i.currentHeadAdvancedAt
        i.finalizedHeadAdvancedAt t.milliseconds = .ok () := by
      rw [ensureHeadTimesCurrent_ok, h.networkId, h.currentHeadAdvancedAt,
        h.finalizedHeadAdvancedAt]
      exact ⟨⟨h.collected.currentAdvanced.trans hassessed, by omega⟩,
        h.collected.finalizedAdvanced.trans hassessed, by omega⟩
    refine ⟨i.candidate, ?_⟩
    refine except_bind_ok.mpr ⟨reference, orFail_ok.mpr hreference, ?_⟩
    refine except_bind_ok.mpr ⟨i, orFail_ok.mpr hfind, ?_⟩
    refine except_bind_ok.mpr ⟨(), failWhen_ok.mpr (not_not.mpr rfl), ?_⟩
    refine except_bind_ok.mpr ⟨t, rfl, ?_⟩
    refine except_bind_ok.mpr ⟨(), failWhen_ok.mpr ?_, ?_⟩
    · simp only [not_or, not_lt, not_le, Bool.not_eq_true]
      exact ⟨hissuedAt, h.deadlineAt ▸ (by omega), haborted⟩
    · refine except_bind_ok.mpr ⟨e.pair, hpair, ?_⟩
      exact except_bind_ok.mpr ⟨(), hheads, rfl⟩

end Reviews

section Assessments

variable {P : Configuration} {s : State} {i : IssuedCandidate} {e : Evidence} {proofs : Proofs}
variable {value : Datum} {answers : Answers AssessStage} {f : Finalizer}

/-- A well formed request to assess a candidate for the request it was issued for. -/
def AsksFor (value : Datum) (i : IssuedCandidate) : Prop :=
  ∃ record, exactDataRecord value assessRequestKeys true false = some record ∧
    (record.get "finalityVersion").isNumber finalityVersion = true ∧
    (record.get "use").isText assessUse = true ∧
    (record.get "mayAuthorizeFinancialAction").isFalse = true ∧
    (record.get "mayPersist").isFalse = true ∧
    (record.get "mayCreatePositionSnapshot").isFalse = true ∧
    record.get "producerCapability" = i.candidate ∧ record.get "producerRequest" = i.request ∧
    (record.get "signal").signal? = some i.signal

/-- Every clock shows the same time and the signal does not change. -/
def Steady {κ : Type} (answers : Answers κ) (t : TimeValue) (aborted : Bool) : Prop :=
  ∀ stage, answers.clock stage = some t ∧ answers.aborted stage = aborted

theorem reviewedAssessRequest_of_asksFor (h : Issued P i e proofs) (ha : AsksFor value i) :
    reviewedAssessRequest value = .ok ⟨value, i.candidate, e.request, e.request.signal⟩ := by
  obtain ⟨record, hrecord, hversion, huse, haction, hpersist, hsnapshot, hcapability, hrequest,
    hsignal⟩ := ha
  have hreviewed := h.collected.reviewed
  rw [← h.request, ← hrequest] at hreviewed
  rw [h.signal] at hsignal
  refine except_bind_ok.mpr ⟨record, orFail_ok.mpr hrecord, ?_⟩
  refine except_bind_ok.mpr ⟨(), failWhen_ok.mpr ?_, ?_⟩
  · simp only [hversion, huse, haction, hpersist, hsnapshot, Bool.not_true, Bool.false_eq_true,
      or_self, not_false_eq_true]
  · refine except_bind_ok.mpr ⟨e.request, hreviewed, ?_⟩
    refine except_bind_ok.mpr ⟨e.request.signal, orFail_ok.mpr hsignal, ?_⟩
    refine except_bind_ok.mpr ⟨(), failWhen_ok.mpr (not_not.mpr rfl), ?_⟩
    rw [hcapability]
    rfl

theorem producerRequest_of_reviewed {request : ReviewedAssessRequest}
    (h : reviewedAssessRequest value = .ok request) :
    reviewedProducerRequest request.producerRequest.request = .ok request.producerRequest := by
  obtain ⟨record, _, h⟩ := except_bind_ok.mp h
  obtain ⟨_, _, h⟩ := except_bind_ok.mp h
  obtain ⟨producerRequest, hreviewed, h⟩ := except_bind_ok.mp h
  obtain ⟨_, _, h⟩ := except_bind_ok.mp h
  obtain ⟨_, _, h⟩ := except_bind_ok.mp h
  cases h
  exact (wellFormed_of_reviewed hreviewed).1 ▸ hreviewed

theorem classify_ok {a b : Anchor} (h : a.networkId = b.networkId) :
    ∃ c, classify a b = .ok c := by
  cases a with
  | evmBlock m g =>
    cases b with
    | evmBlock n k =>
      rw [classify]
      split
      · exact ⟨_, rfl⟩
      · split
        · split <;> exact ⟨_, rfl⟩
        · exact ⟨_, rfl⟩
    | solanaSlot => cases h
  | solanaSlot slot root =>
    cases b with
    | evmBlock => cases h
    | solanaSlot slot' root' =>
      rw [classify]
      split
      · exact ⟨_, rfl⟩
      · split <;> exact ⟨_, rfl⟩

theorem assessCandidate_succeeds {reference : Reference} {request : ReviewedAssessRequest}
    {review : Datum} {candidate : ReviewedCandidate} {classification : Classification}
    {t : TimeValue} (hrequest : reviewedAssessRequest value = .ok request)
    (hsteady : Steady answers t false)
    (hlast : ∀ last, f.lastClockMilliseconds = some last → last ≤ t.milliseconds)
    (hdeadline : t.milliseconds < request.producerRequest.deadlineAt.milliseconds)
    (hreview : reviewCandidate P s.issued request.producerCapability
      request.producerRequest.request (some t) false = .ok review)
    (hcapability : review.reference? = request.producerCapability.reference?)
    (hcandidate : reviewedCandidate review request.producerRequest = .ok candidate)
    (halive : AliveAt candidate t)
    (hclassified : classify candidate.candidateAnchor candidate.finalizedHead =
      .ok classification) :
    ∃ a f', Returns (assessCandidate P s.issued reference value answers) f a f' := by
  have hclock : ∀ stage (g : Finalizer),
      (∀ last, g.lastClockMilliseconds = some last → last ≤ t.milliseconds) →
      Returns (clockTime (answers.clock stage)) g t
        { g with lastClockMilliseconds := some t.milliseconds } :=
    fun stage g hg => clockTime_returns.mpr ⟨(hsteady stage).1, hg, rfl⟩
  have hagain : ∀ last, some t.milliseconds = some last → last ≤ t.milliseconds :=
    fun last hl => (Option.some.inj hl).ge
  have hproducer : ∀ stage, reviewProducerCandidate P s.issued request.producerCapability
      request.producerRequest.request (answers.clock stage) (answers.aborted stage) =
        .ok review := by
    intro stage
    rw [(hsteady stage).1, (hsteady stage).2]
    exact reviewProducerCandidate_ok.mpr hreview
  have hcurrent : ∀ stage earliest, earliest ≤ t.milliseconds →
      ensureCurrent candidate t earliest (answers.aborted stage) = .ok () :=
    fun stage _ hearliest => ensureCurrent_ok.mpr ⟨hearliest, halive, (hsteady stage).2⟩
  refine ⟨resultOf reference request candidate classification t, ⟨some t.milliseconds,
    f.issued ++ [recordOf request candidate
      (resultOf reference request candidate classification t)]⟩, ?_⟩
  refine returns_bind.mpr ⟨request, _, returns_lift.mpr ⟨hrequest, rfl⟩, ?_⟩
  refine returns_bind.mpr ⟨t, _, hclock .started f hlast, ?_⟩
  refine returns_bind.mpr ⟨(), _, returns_lift.mpr ⟨failWhen_ok.mpr ?_, rfl⟩, ?_⟩
  · rw [(hsteady .started).2]
    simpa using hdeadline
  refine returns_bind.mpr ⟨review, _, returns_lift.mpr ⟨hproducer .firstReview, rfl⟩, ?_⟩
  refine returns_bind.mpr
    ⟨(), _, returns_lift.mpr ⟨failWhen_ok.mpr (not_not.mpr hcapability), rfl⟩, ?_⟩
  refine returns_bind.mpr ⟨candidate, _, returns_lift.mpr ⟨hcandidate, rfl⟩, ?_⟩
  refine returns_bind.mpr
    ⟨(), _, returns_lift.mpr ⟨hcurrent .firstCheck _ halive.1, rfl⟩, ?_⟩
  refine returns_bind.mpr ⟨classification, _, returns_lift.mpr ⟨hclassified, rfl⟩, ?_⟩
  refine returns_bind.mpr ⟨t, _, hclock .beforeSecondReview _ hagain, ?_⟩
  refine returns_bind.mpr
    ⟨(), _, returns_lift.mpr ⟨hcurrent .beforeSecondReview _ le_rfl, rfl⟩, ?_⟩
  refine returns_bind.mpr ⟨t, _, hclock .assessed _ hagain, ?_⟩
  refine returns_bind.mpr ⟨(), _, returns_lift.mpr ⟨hcurrent .assessed _ le_rfl, rfl⟩, ?_⟩
  refine returns_bind.mpr ⟨review, _, returns_lift.mpr ⟨hproducer .secondReview, rfl⟩, ?_⟩
  refine returns_bind.mpr ⟨(), _, returns_lift.mpr ⟨failWhen_ok.mpr ?_, rfl⟩, ?_⟩
  · rw [candidate_of_reviewed hcandidate]
    simp
  refine returns_bind.mpr ⟨(), _, returns_lift.mpr ⟨failWhen_ok.mpr ?_, rfl⟩, ?_⟩
  · rw [(hsteady .issued).2]
    exact Bool.false_ne_true
  refine returns_bind.mpr ⟨(), _, returns_modify.mpr rfl, ?_⟩
  exact returns_pure.mpr ⟨rfl, rfl⟩

end Assessments

end CryptoLending.MainnetPlatforms.ChainAnchorGuarantee
