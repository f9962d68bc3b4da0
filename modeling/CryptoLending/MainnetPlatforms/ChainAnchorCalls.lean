import CryptoLending.MainnetPlatforms.ChainAnchorAgreement

namespace CryptoLending.MainnetPlatforms.ChainAnchorCalls

open Lib Lib.JsObject Lib.IsoText Lib.IsoReading Lib.Transaction Blockchain.LaunchNetwork
open ChainAnchorData ChainAnchorEvidence ChainAnchorAgreement
open ChainAnchorProducer (Configuration IssuedCandidate Evidence Proofs reviewCandidate currentPair)
open ChainAnchorFinalizer

section Clock

theorem clockTime_returns {reading : Option TimeValue} {f f' : Finalizer} {now : TimeValue} :
    Returns (clockTime reading) f now f' ↔ reading = some now ∧
      (∀ last, f.lastClockMilliseconds = some last → last ≤ now.milliseconds) ∧
      f' = { f with lastClockMilliseconds := some now.milliseconds } := by
  simp only [clockTime, returns_bind, returns_lift, returns_get, returns_modify, returns_pure,
    orFail_ok, failWhen_ok]
  constructor
  · rintro ⟨_, _, ⟨hreading, rfl⟩, state, _, ⟨rfl, rfl⟩, _, _, ⟨hlast, rfl⟩, _, _, hf, rfl, rfl⟩
    refine ⟨hreading, fun last hl => ?_, hf.symm⟩
    rw [hl] at hlast
    simpa using hlast
  · rintro ⟨hreading, hlast, rfl⟩
    refine ⟨_, _, ⟨hreading, rfl⟩, _, _, ⟨rfl, rfl⟩, (), _, ⟨?_, rfl⟩, (), _, rfl, rfl, rfl⟩
    rw [Option.any_eq_true]
    rintro ⟨last, hl, hbefore⟩
    exact absurd (of_decide_eq_true hbefore) (not_lt.mpr (hlast last hl))

theorem clockTime_keeps (reading : Option TimeValue) :
    Keeps Finalizer.issued (clockTime reading) := by
  refine keeps_bind (readOnly_lift _).keeps fun now => ?_
  refine keeps_bind readOnly_get.keeps fun state => ?_
  refine keeps_bind (readOnly_lift _).keeps fun _ => ?_
  exact keeps_bind (fun _ => rfl) fun _ => (readOnly_pure _).keeps

/-- A reading of the finalizer at which a candidate is alive. -/
def AliveAt (c : ReviewedCandidate) (now : TimeValue) : Prop :=
  c.assessedAt.milliseconds ≤ now.milliseconds ∧
    now.milliseconds < c.expiresAtExclusive.milliseconds

theorem ensureCurrent_ok {c : ReviewedCandidate} {now : TimeValue} {earliest : Int} {aborted : Bool}
    {u : Unit} :
    ensureCurrent c now earliest aborted = .ok u ↔
      earliest ≤ now.milliseconds ∧ AliveAt c now ∧ aborted = false := by
  rw [ensureCurrent, failWhen_ok, AliveAt]
  simp only [not_or, not_lt, not_le, Bool.not_eq_true, and_assoc]

theorem ensureLive_ok {a : IssuedAssessment} {now : TimeValue} {earliest : Int} {aborted : Bool}
    {u : Unit} :
    ensureLive a now earliest aborted = .ok u ↔ earliest ≤ now.milliseconds ∧
      now.milliseconds < a.expiresAtExclusiveMilliseconds ∧ aborted = false := by
  rw [ensureLive, failWhen_ok]
  simp only [not_or, not_lt, not_le, Bool.not_eq_true]

end Clock

section Calls

variable {P : Configuration} {issued : List IssuedCandidate}

theorem reviewProducerCandidate_ok {capability request d : Datum} {clock : Option TimeValue}
    {aborted : Bool} :
    reviewProducerCandidate P issued capability request clock aborted = .ok d ↔
      reviewCandidate P issued capability request clock aborted = .ok d := mapError_ok

/-- An assessment that was made: the request, the review of the candidate, and the readings. -/
structure Assessed (P : Configuration) (issued : List IssuedCandidate) (value : Datum)
    (answers : Answers AssessStage) (request : ReviewedAssessRequest) (review : Datum)
    (candidate : ReviewedCandidate) (classification : Classification)
    (startedAt second assessedAt : TimeValue) : Prop where
  read : reviewedAssessRequest value = .ok request
  started : answers.clock .started = some startedAt
  beforeSecondReview : answers.clock .beforeSecondReview = some second
  assessed : answers.clock .assessed = some assessedAt
  firstReview : reviewCandidate P issued request.producerCapability request.producerRequest.request
    (answers.clock .firstReview) (answers.aborted .firstReview) = .ok review
  secondReview : ∃ again, reviewCandidate P issued request.producerCapability
    request.producerRequest.request (answers.clock .secondReview)
    (answers.aborted .secondReview) = .ok again ∧ again.reference? = review.reference?
  capability : review.reference? = request.producerCapability.reference?
  parsed : reviewedCandidate review request.producerRequest = .ok candidate
  classified : classify candidate.candidateAnchor candidate.finalizedHead = .ok classification
  alive : AliveAt candidate startedAt ∧ AliveAt candidate second ∧ AliveAt candidate assessedAt
  ordered : startedAt.milliseconds ≤ second.milliseconds ∧
    second.milliseconds ≤ assessedAt.milliseconds

/-- The result of an assessment. -/
def resultOf (reference : Reference) (request : ReviewedAssessRequest)
    (candidate : ReviewedCandidate) (classification : Classification) (assessedAt : TimeValue) :
    Assessment := {
  reference := reference
  networkId := request.producerRequest.networkId
  sourceObservationId := request.producerRequest.sourceObservationId
  candidateAnchor := candidate.candidateAnchor
  agreedFinalizedHead := candidate.finalizedHead
  classification := classification
  assessedAt := assessedAt
  expiresAtExclusive := candidate.expiresAtExclusive }

/-- What the finalizer remembers of an assessment. -/
def recordOf (request : ReviewedAssessRequest) (candidate : ReviewedCandidate)
    (result : Assessment) : IssuedAssessment := {
  request := request.request
  producerCapability := request.producerCapability
  producerRequest := request.producerRequest.request
  candidate := candidate.candidate
  result := result
  signal := request.signal
  issuedAtMilliseconds := result.assessedAt.milliseconds
  expiresAtExclusiveMilliseconds := candidate.expiresAtExclusive.milliseconds }

theorem candidate_of_reviewed {value : Datum} {request : ReviewedProducerRequest}
    {c : ReviewedCandidate} (h : reviewedCandidate value request = .ok c) : c.candidate = value := by
  obtain ⟨_, _, h⟩ := except_bind_ok.mp h
  obtain ⟨_, _, h⟩ := except_bind_ok.mp h
  obtain ⟨_, _, h⟩ := except_bind_ok.mp h
  obtain ⟨_, _, h⟩ := except_bind_ok.mp h
  obtain ⟨_, _, h⟩ := except_bind_ok.mp h
  obtain ⟨_, _, h⟩ := except_bind_ok.mp h
  cases h
  rfl

theorem assessCandidate_returns {reference : Reference} {value : Datum}
    {answers : Answers AssessStage} {f f' : Finalizer} {a : Assessment}
    (h : Returns (assessCandidate P issued reference value answers) f a f') :
    ∃ request review candidate classification startedAt second assessedAt,
      Assessed P issued value answers request review candidate classification startedAt second
        assessedAt ∧
      a = resultOf reference request candidate classification assessedAt ∧
      f' = ⟨some assessedAt.milliseconds, f.issued ++ [recordOf request candidate a]⟩ := by
  obtain ⟨request, _, hx, h⟩ := returns_bind.mp h
  obtain ⟨hrequest, rfl⟩ := returns_lift.mp hx
  obtain ⟨startedAt, _, hx, h⟩ := returns_bind.mp h
  obtain ⟨hstarted, _, rfl⟩ := clockTime_returns.1 hx
  obtain ⟨_, _, hx, h⟩ := returns_bind.mp h
  obtain ⟨_, rfl⟩ := returns_lift.mp hx
  obtain ⟨review, _, hx, h⟩ := returns_bind.mp h
  obtain ⟨hfirst, rfl⟩ := returns_lift.mp hx
  obtain ⟨_, _, hx, h⟩ := returns_bind.mp h
  obtain ⟨hcapability, rfl⟩ := returns_lift.mp hx
  obtain ⟨candidate, _, hx, h⟩ := returns_bind.mp h
  obtain ⟨hcandidate, rfl⟩ := returns_lift.mp hx
  obtain ⟨_, _, hx, h⟩ := returns_bind.mp h
  obtain ⟨halive₁, rfl⟩ := returns_lift.mp hx
  obtain ⟨classification, _, hx, h⟩ := returns_bind.mp h
  obtain ⟨hclassified, rfl⟩ := returns_lift.mp hx
  obtain ⟨second, _, hx, h⟩ := returns_bind.mp h
  obtain ⟨hsecondAt, _, rfl⟩ := clockTime_returns.1 hx
  obtain ⟨_, _, hx, h⟩ := returns_bind.mp h
  obtain ⟨halive₂, rfl⟩ := returns_lift.mp hx
  obtain ⟨assessedAt, _, hx, h⟩ := returns_bind.mp h
  obtain ⟨hassessedAt, _, rfl⟩ := clockTime_returns.1 hx
  obtain ⟨_, _, hx, h⟩ := returns_bind.mp h
  obtain ⟨halive₃, rfl⟩ := returns_lift.mp hx
  obtain ⟨again, _, hx, h⟩ := returns_bind.mp h
  obtain ⟨hsecond, rfl⟩ := returns_lift.mp hx
  obtain ⟨_, _, hx, h⟩ := returns_bind.mp h
  obtain ⟨hsame, rfl⟩ := returns_lift.mp hx
  obtain ⟨_, _, hx, h⟩ := returns_bind.mp h
  obtain ⟨_, rfl⟩ := returns_lift.mp hx
  obtain ⟨_, _, hx, h⟩ := returns_bind.mp h
  obtain rfl := returns_modify.mp hx
  obtain ⟨rfl, rfl⟩ := returns_pure.mp h
  have hchecks := failWhen_ok.mp hsame
  simp only [not_or, ne_eq, not_not] at hchecks
  have h₁ := ensureCurrent_ok.1 halive₁
  have h₂ := ensureCurrent_ok.1 halive₂
  have h₃ := ensureCurrent_ok.1 halive₃
  exact ⟨request, review, candidate, classification, startedAt, second, assessedAt, {
    read := hrequest
    started := hstarted
    beforeSecondReview := hsecondAt
    assessed := hassessedAt
    firstReview := reviewProducerCandidate_ok.1 hfirst
    secondReview := ⟨again, reviewProducerCandidate_ok.1 hsecond, hchecks.1⟩
    capability := not_not.mp (failWhen_ok.mp hcapability)
    parsed := hcandidate
    classified := hclassified
    alive := ⟨h₁.2.1, h₂.2.1, h₃.2.1⟩
    ordered := ⟨h₂.1, h₃.1⟩ }, rfl, rfl⟩

/-- An assessment that throws is not remembered. -/
theorem assessCandidate_atomicOn (reference : Reference) (value : Datum)
    (answers : Answers AssessStage) :
    AtomicOn Finalizer.issued (assessCandidate P issued reference value answers) := by
  refine atomicOn_bind (readOnly_lift _).keeps fun request => ?_
  refine atomicOn_bind (clockTime_keeps _) fun startedAt => ?_
  refine atomicOn_bind (readOnly_lift _).keeps fun _ => ?_
  refine atomicOn_bind (readOnly_lift _).keeps fun review => ?_
  refine atomicOn_bind (readOnly_lift _).keeps fun _ => ?_
  refine atomicOn_bind (readOnly_lift _).keeps fun candidate => ?_
  refine atomicOn_bind (readOnly_lift _).keeps fun _ => ?_
  refine atomicOn_bind (readOnly_lift _).keeps fun classification => ?_
  refine atomicOn_bind (clockTime_keeps _) fun second => ?_
  refine atomicOn_bind (readOnly_lift _).keeps fun _ => ?_
  refine atomicOn_bind (clockTime_keeps _) fun assessedAt => ?_
  refine atomicOn_bind (readOnly_lift _).keeps fun _ => ?_
  refine atomicOn_bind (readOnly_lift _).keeps fun again => ?_
  refine atomicOn_bind (readOnly_lift _).keeps fun _ => ?_
  refine atomicOn_bind (readOnly_lift _).keeps fun _ => ?_
  exact (total_bind (total_modify _) fun _ => total_pure _).atomicOn

/-- A review of an assessment issues nothing. -/
theorem reviewAssessment_keeps (capability value : Datum) (answers : Answers ReviewStage) :
    Keeps Finalizer.issued (reviewAssessment P issued capability value answers) := by
  refine keeps_bind readOnly_get.keeps fun state => ?_
  split
  · exact (readOnly_pure _).keeps
  · refine keeps_bind (readOnly_lift _).keeps fun request => ?_
    split
    · exact (readOnly_pure _).keeps
    · refine keeps_bind (clockTime_keeps _) fun reviewedAt => ?_
      refine keeps_bind (readOnly_lift _).keeps fun _ => ?_
      refine keeps_bind (readOnly_lift _).keeps fun review => ?_
      refine keeps_bind (readOnly_lift _).keeps fun _ => ?_
      refine keeps_bind (clockTime_keeps _) fun returnedAt => ?_
      exact keeps_bind (readOnly_lift _).keeps fun _ => (readOnly_pure _).keeps

theorem issuedFor_mem {f : Finalizer} {capability value : Datum} {r : IssuedAssessment}
    (h : issuedFor f capability value = some r) : r ∈ f.issued := by
  obtain ⟨_, _, h⟩ := Option.bind_eq_some_iff.mp h
  obtain ⟨a, hfound, h⟩ := Option.bind_eq_some_iff.mp h
  obtain ⟨_, _, h⟩ := Option.bind_eq_some_iff.mp h
  cases h
  exact List.mem_of_find?_eq_some hfound

/-- A review that gives an assessment back looks at its clocks within the life of what was
issued. -/
theorem reviewAssessment_returns {capability value : Datum} {answers : Answers ReviewStage}
    {f f' : Finalizer} {a : Assessment}
    (h : Returns (reviewAssessment P issued capability value answers) f (some a) f') :
    ∃ r ∈ f.issued, r.result = a ∧
      (∃ t, answers.clock .reviewed = some t ∧
        t.milliseconds < r.expiresAtExclusiveMilliseconds) ∧
      (∃ t, answers.clock .returned = some t ∧
        t.milliseconds < r.expiresAtExclusiveMilliseconds) ∧
      ∃ d, reviewCandidate P issued r.producerCapability r.producerRequest
        (answers.clock .producerReview) (answers.aborted .producerReview) = .ok d := by
  obtain ⟨state, _, hx, h⟩ := returns_bind.mp h
  obtain ⟨rfl, rfl⟩ := returns_get.mp hx
  split at h
  case h_1 => cases (returns_pure.mp h).1
  case h_2 r hfound =>
    obtain ⟨request, _, hx, h⟩ := returns_bind.mp h
    obtain ⟨_, rfl⟩ := returns_lift.mp hx
    split at h
    · cases (returns_pure.mp h).1
    · obtain ⟨reviewedAt, _, hx, h⟩ := returns_bind.mp h
      obtain ⟨hreviewed, _, rfl⟩ := clockTime_returns.1 hx
      obtain ⟨_, _, hx, h⟩ := returns_bind.mp h
      obtain ⟨hlive₁, rfl⟩ := returns_lift.mp hx
      obtain ⟨review, _, hx, h⟩ := returns_bind.mp h
      obtain ⟨hreview, rfl⟩ := returns_lift.mp hx
      obtain ⟨_, _, hx, h⟩ := returns_bind.mp h
      obtain ⟨_, rfl⟩ := returns_lift.mp hx
      obtain ⟨returnedAt, _, hx, h⟩ := returns_bind.mp h
      obtain ⟨hreturned, _, rfl⟩ := clockTime_returns.1 hx
      obtain ⟨_, _, hx, h⟩ := returns_bind.mp h
      obtain ⟨hlive₂, rfl⟩ := returns_lift.mp hx
      obtain ⟨hresult, _⟩ := returns_pure.mp h
      exact ⟨r, issuedFor_mem hfound, Option.some.inj hresult,
        ⟨reviewedAt, hreviewed, (ensureLive_ok.1 hlive₁).2.1⟩,
        ⟨returnedAt, hreturned, (ensureLive_ok.1 hlive₂).2.1⟩,
        review, reviewProducerCandidate_ok.1 hreview⟩

end Calls

end CryptoLending.MainnetPlatforms.ChainAnchorCalls
