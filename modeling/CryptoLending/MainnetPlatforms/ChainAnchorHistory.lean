import CryptoLending.Lib.Bytes
import CryptoLending.MainnetPlatforms.ChainAnchorGuarantee

namespace CryptoLending.MainnetPlatforms.ChainAnchorHistory

open Lib Lib.JsObject Lib.IsoText Lib.IsoReading Lib.Transaction Blockchain.LaunchNetwork
open ChainAnchorData ChainAnchorEvidence ChainAnchorAgreement ChainAnchorCalls ChainAnchorGuarantee
open ChainAnchorProducer (Configuration IssuedCandidate Evidence Proofs reviewCandidate
  produceCandidate collect)
open ChainAnchorFinalizer

section Invariant

variable {P : Configuration} {s : State}

/-- What the finalizer remembers of an assessment of a candidate made from evidence. -/
structure Recorded (r : IssuedAssessment) (i : IssuedCandidate) (e : Evidence) : Prop where
  candidate : r.candidate = i.candidate
  capability : r.producerCapability.reference? = i.candidate.reference?
  networkId : r.result.networkId = e.request.networkId
  candidateAnchor : r.result.candidateAnchor = e.request.chainAnchor
  finalizedHead : r.result.agreedFinalizedHead = e.primary.finalizedHead
  classified : classify r.result.candidateAnchor r.result.agreedFinalizedHead =
    .ok r.result.classification
  expires : r.expiresAtExclusiveMilliseconds = expiry e
  printed : r.result.expiresAtExclusive.milliseconds = expiry e
  assessed : r.result.assessedAt.milliseconds < expiry e

/-- What holds in every state that calls reach. -/
structure Known (P : Configuration) (s : State) : Prop where
  distinct : (s.issued.map fun i => i.candidate.reference?).Nodup
  produced : ∀ i ∈ s.issued, ∃ e, Produced P i e
  recorded : ∀ r ∈ s.finalizer.issued, ∃ i ∈ s.issued, ∃ e, Produced P i e ∧ Recorded r i e

theorem Known.issued_of_mem (h : Known P s) {i : IssuedCandidate} (hi : i ∈ s.issued) :
    ∃ e proofs, Produced P i e ∧ Issued P i e proofs := by
  obtain ⟨e, hproduced⟩ := h.produced i hi
  obtain ⟨_, _, _, proofs, _, _, hissued⟩ := id hproduced
  exact ⟨e, proofs, hproduced, hissued⟩

variable {value : Datum} {answers : Answers AssessStage} {request : ReviewedAssessRequest}
  {review : Datum} {candidate : ReviewedCandidate} {classification : Classification}
  {startedAt second assessedAt : TimeValue}

/-- The candidate of an assessment was issued, for the request that the finalizer read. -/
theorem Known.assessed (h : Known P s) (hunchanged : Unchanged s.issued value)
    (ha : Assessed P s.issued value answers request review candidate classification startedAt
      second assessedAt) :
    ∃ i ∈ s.issued, ∃ e proofs, Produced P i e ∧ Issued P i e proofs ∧
      ∃ hc : Collected P e, review = i.candidate ∧ request.producerRequest = e.request ∧
        candidate = reviewedOf hc proofs i.candidate := by
  obtain ⟨i, hi, _, rfl, _, hrequest, _⟩ := reviewCandidate_ok ha.firstReview
  obtain ⟨e, proofs, hproduced, hissued⟩ := h.issued_of_mem hi
  have hsame := hunchanged request ha.read i hi hrequest
  have hread : request.producerRequest = e.request := by
    have hreviewed := producerRequest_of_reviewed ha.read
    rw [hsame, hissued.request, hissued.collected.reviewed] at hreviewed
    exact (Except.ok.inj hreviewed).symm
  have hparsed := ha.parsed
  rw [hread, reviewedCandidate_issued hissued] at hparsed
  exact ⟨i, hi, e, proofs, hproduced, hissued, hissued.collected, rfl, hread,
    (Except.ok.inj hparsed).symm⟩

theorem Known.recorded_of_assessed (h : Known P s) (hunchanged : Unchanged s.issued value)
    (ha : Assessed P s.issued value answers request review candidate classification startedAt
      second assessedAt) (reference : Reference) :
    ∃ i ∈ s.issued, ∃ e, Produced P i e ∧
      Recorded (recordOf request candidate
        (resultOf reference request candidate classification assessedAt)) i e := by
  obtain ⟨i, hi, e, proofs, hproduced, _, hc, hreview, hread, rfl⟩ := h.assessed hunchanged ha
  exact ⟨i, hi, e, hproduced, {
    candidate := rfl
    capability := ha.capability.symm.trans (congrArg _ hreview)
    networkId := congrArg ReviewedProducerRequest.networkId hread
    candidateAnchor := rfl
    finalizedHead := rfl
    classified := ha.classified
    expires := rfl
    printed := rfl
    assessed := ha.alive.2.2.2 }⟩

/-- What calls reach is known. -/
theorem known_of_reachable (h : Reachable P s) : Known P s := by
  induction h with
  | start => exact ⟨List.nodup_nil, fun _ hi => (by cases hi), fun _ hr => (by cases hr)⟩
  | @produced s reference value answers i reached fresh call ih =>
    obtain ⟨e, hproduced⟩ := produced_of_call call
    obtain ⟨_, _, _, hreference, _⟩ := issued_of_produce call
    refine ⟨?_, ?_, ?_⟩
    · rw [List.map_append, List.map_singleton]
      refine List.nodup_append.mpr ⟨ih.distinct, List.nodup_singleton _, ?_⟩
      intro a ha b hb
      obtain ⟨j, hj, rfl⟩ := List.mem_map.mp ha
      rw [List.mem_singleton.mp hb, hreference]
      exact fresh j hj
    · intro j hj
      obtain hj | hj := List.mem_append.mp hj
      · exact ih.produced j hj
      · exact List.mem_singleton.mp hj ▸ ⟨e, hproduced⟩
    · intro r hr
      obtain ⟨j, hj, hrest⟩ := ih.recorded r hr
      exact ⟨j, List.mem_append_left _ hj, hrest⟩
  | @assessed s reference value answers outcome f reached fresh unchanged call ih =>
    refine ⟨ih.distinct, ih.produced, ?_⟩
    intro r hr
    cases outcome with
    | error code =>
      rw [assessCandidate_atomicOn reference value answers _ code f call] at hr
      exact ih.recorded r hr
    | ok a =>
      obtain ⟨request, review, candidate, classification, startedAt, second, assessedAt, ha, rfl,
        rfl⟩ := assessCandidate_returns call
      obtain hr | hr := List.mem_append.mp hr
      · exact ih.recorded r hr
      · rw [List.mem_singleton.mp hr]
        exact ih.recorded_of_assessed unchanged ha reference
  | @reviewed s capability value answers outcome f reached call ih =>
    have hkeeps := @reviewAssessment_keeps P s.issued capability value answers s.finalizer
    rw [call] at hkeeps
    refine ⟨ih.distinct, ih.produced, ?_⟩
    intro r hr
    rw [hkeeps] at hr
    exact ih.recorded r hr

end Invariant

section Agreement

variable {P : Configuration} {s : State}

/-- The heads of evidence are those on which two sources of different families and with different
ids agreed. -/
structure Corroborated (e : Evidence) : Prop where
  families : e.primary.binding.identity.sourceFamilyId ≠
    e.corroborating.binding.identity.sourceFamilyId
  sources : e.primary.binding.identity.sourceId ≠ e.corroborating.binding.identity.sourceId
  currentHead : e.primary.currentHead = e.corroborating.currentHead
  finalizedHead : e.primary.finalizedHead = e.corroborating.finalizedHead
  nonRegressing : nonRegressing e.request.chainAnchor e.primary.currentHead = true
  finalizedNotAhead : finalizedNotAhead e.primary.finalizedHead e.primary.currentHead = true

theorem corroborated {e : Evidence} (h : Collected P e) : Corroborated e where
  families := by
    rw [h.primaryBinding, h.corroboratingBinding]
    exact e.pair.families
  sources := by
    rw [h.primaryBinding, h.corroboratingBinding]
    exact e.pair.sources
  currentHead := h.currentHead
  finalizedHead := h.finalizedHead
  nonRegressing := h.nonRegressing
  finalizedNotAhead := h.finalizedNotAhead

/-- The stages of an assessment at which a clock is read. -/
def assessReadings : List AssessStage :=
  [.started, .firstReview, .beforeSecondReview, .assessed, .secondReview]

/-- Producer and finalizer agree about a candidate that was made from evidence. The finalizer refuses
a clock that goes back, so an assessment is made at a time that is not before its last reading. -/
structure Agrees (P : Configuration) (s : State) (i : IssuedCandidate) (e : Evidence) : Prop where
  corroborated : Corroborated e
  parsed : ∃ c, reviewedProducerRequest i.request = .ok e.request ∧
    reviewedCandidate i.candidate e.request = .ok c ∧
    c.candidateAnchor = e.request.chainAnchor ∧ c.currentHead = e.primary.currentHead ∧
    c.finalizedHead = e.primary.finalizedHead ∧ c.expiresAtExclusive.milliseconds = expiry e
  reviewable : ∀ t aborted,
    (∃ d, reviewCandidate P s.issued i.candidate i.request (some t) aborted = .ok d) ↔
      i.issuedAt ≤ t.milliseconds ∧ t.milliseconds < expiry e ∧ aborted = false
  assessable : ∀ reference value answers t aborted (f : Finalizer), AsksFor value i →
    Steady answers t aborted →
    (∀ last, f.lastClockMilliseconds = some last → last ≤ t.milliseconds) →
    ((∃ a f', Returns (assessCandidate P s.issued reference value answers) f a f') ↔
      ∃ d, reviewCandidate P s.issued i.candidate i.request (some t) aborted = .ok d)
  usable : i.issuedAt < expiry e
  timely : ∀ reference value answers (f f' : Finalizer) a, AsksFor value i →
    Returns (assessCandidate P s.issued reference value answers) f a f' →
    a.candidateAnchor = e.request.chainAnchor ∧ a.agreedFinalizedHead = e.primary.finalizedHead ∧
    a.expiresAtExclusive.milliseconds = expiry e ∧
    ∀ stage ∈ assessReadings, ∃ t, answers.clock stage = some t ∧ t.milliseconds < expiry e

variable {i : IssuedCandidate} {e : Evidence} {proofs : Proofs} {value : Datum}
  {answers : Answers AssessStage} {request : ReviewedAssessRequest} {review : Datum}
  {candidate : ReviewedCandidate} {classification : Classification}
  {startedAt second assessedAt : TimeValue}

theorem Known.eq_of_reference (h : Known P s) {j : IssuedCandidate} (hi : i ∈ s.issued)
    (hj : j ∈ s.issued) (hreference : i.candidate.reference? = j.candidate.reference?) : i = j :=
  List.inj_on_of_nodup_map h.distinct hi hj hreference

/-- What an assessment reads when it is asked for a candidate. -/
theorem Known.assessed_of_asksFor (h : Known P s) (hi : i ∈ s.issued) (hissued : Issued P i e proofs)
    (hasks : AsksFor value i)
    (ha : Assessed P s.issued value answers request review candidate classification startedAt
      second assessedAt) :
    request = ⟨value, i.candidate, e.request, e.request.signal⟩ ∧
      candidate = reviewedOf hissued.collected proofs i.candidate := by
  have hrequest : request = ⟨value, i.candidate, e.request, e.request.signal⟩ :=
    Except.ok.inj (ha.read.symm.trans (reviewedAssessRequest_of_asksFor hissued hasks))
  obtain ⟨j, hj, _, hreview, hreference, _⟩ := reviewCandidate_ok ha.firstReview
  rw [hrequest] at hreference
  obtain rfl := h.eq_of_reference hi hj hreference
  have hparsed := ha.parsed
  rw [hrequest, hreview, reviewedCandidate_issued hissued] at hparsed
  exact ⟨hrequest, (Except.ok.inj hparsed).symm⟩

/-- A review by the producer looks at its clock before the evidence expires. -/
theorem Known.review_timely (h : Known P s) (hi : i ∈ s.issued) (hissued : Issued P i e proofs)
    {capability producerRequest d : Datum} {clock : Option TimeValue} {aborted : Bool}
    (hcapability : capability.reference? = i.candidate.reference?)
    (hreview : reviewCandidate P s.issued capability producerRequest clock aborted = .ok d) :
    ∃ t, clock = some t ∧ t.milliseconds < expiry e := by
  obtain ⟨j, hj, t, _, hreference, _, hclock, hissuedAt, hdeadline, _, ⟨p, hpair⟩, u, hheads⟩ :=
    reviewCandidate_ok hreview
  obtain rfl := h.eq_of_reference hi hj (hcapability.symm.trans hreference)
  obtain ⟨hselected, _, _, hexpires⟩ := ChainAnchorEvidence.currentPair_ok.mp hpair
  rw [hissued.networkId, hissued.collected.selected] at hselected
  obtain rfl := Option.some.inj hselected
  obtain ⟨⟨_, hcurrent⟩, _, hfinalized⟩ := ensureHeadTimesCurrent_ok.mp hheads
  rw [hissued.currentHeadAdvancedAt, hissued.networkId] at hcurrent
  rw [hissued.finalizedHeadAdvancedAt, hissued.networkId] at hfinalized
  rw [hissued.deadlineAt] at hdeadline
  refine ⟨t, hclock, ?_⟩
  rw [expiry]
  omega

/-- Every candidate that was issued is read alike by its producer and by the finalizer. -/
theorem Known.agrees (h : Known P s) (hi : i ∈ s.issued) (hissued : Issued P i e proofs) :
    Agrees P s i e where
  corroborated := corroborated hissued.collected
  parsed := by
    refine ⟨_, ?_, reviewedCandidate_issued hissued, rfl, rfl, rfl, rfl⟩
    rw [hissued.request]
    exact hissued.collected.reviewed
  reviewable := fun t aborted => reviewCandidate_issued h.distinct hi hissued
  usable := hissued.beforeExpiry
  assessable := by
    intro reference value answers t aborted f hasks hsteady hlast
    constructor
    · rintro ⟨a, f', hreturns⟩
      obtain ⟨request, review, candidate, _, _, _, _, ha, _⟩ := assessCandidate_returns hreturns
      obtain ⟨rfl, _⟩ := h.assessed_of_asksFor hi hissued hasks ha
      have hreview := ha.firstReview
      rw [(hsteady .firstReview).1, (hsteady .firstReview).2, ← hissued.request] at hreview
      exact ⟨review, hreview⟩
    · rintro ⟨d, hreview⟩
      obtain ⟨hissuedAt, hbefore, rfl⟩ :=
        (reviewCandidate_issued h.distinct hi hissued).mp ⟨d, hreview⟩
      have hnetworks : e.request.chainAnchor.networkId = e.primary.finalizedHead.networkId :=
        hissued.collected.wellFormed.anchor.trans hissued.collected.finalizedNetwork.symm
      obtain ⟨classification, hclassified⟩ := classify_ok hnetworks
      obtain ⟨j, hj, _, rfl, hreference, _⟩ := reviewCandidate_ok hreview
      obtain rfl := h.eq_of_reference hi hj hreference
      rw [hissued.request] at hreview
      refine assessCandidate_succeeds (reviewedAssessRequest_of_asksFor hissued hasks) hsteady
        hlast ?_ hreview rfl (reviewedCandidate_issued hissued) ?_ hclassified
      · exact hbefore.trans_le (min_le_left _ _)
      · exact ⟨hissued.assessed.trans hissuedAt, hbefore⟩
  timely := by
    intro reference value answers f f' a hasks hreturns
    obtain ⟨request, review, candidate, _, _, _, _, ha, rfl, _⟩ := assessCandidate_returns hreturns
    obtain ⟨rfl, rfl⟩ := h.assessed_of_asksFor hi hissued hasks ha
    obtain ⟨again, hagain, _⟩ := ha.secondReview
    refine ⟨rfl, rfl, rfl, ?_⟩
    intro stage hstage
    simp only [assessReadings, List.mem_cons, List.not_mem_nil, or_false] at hstage
    obtain rfl | rfl | rfl | rfl | rfl := hstage
    · exact ⟨_, ha.started, ha.alive.1.2⟩
    · exact h.review_timely hi hissued rfl ha.firstReview
    · exact ⟨_, ha.beforeSecondReview, ha.alive.2.1.2⟩
    · exact ⟨_, ha.assessed, ha.alive.2.2.2⟩
    · exact h.review_timely hi hissued rfl hagain

/-- A review that gives an assessment of the finalizer back does so before the evidence of its
candidate expires, by every clock. -/
def ReviewsTimely (P : Configuration) (s : State) : Prop :=
  ∀ capability value (answers : Answers ReviewStage) a f',
    Returns (reviewAssessment P s.issued capability value answers) s.finalizer (some a) f' →
    ∃ r ∈ s.finalizer.issued, r.result = a ∧ ∃ i ∈ s.issued, r.candidate = i.candidate ∧
      ∃ e, Produced P i e ∧ a.candidateAnchor = e.request.chainAnchor ∧
        a.agreedFinalizedHead = e.primary.finalizedHead ∧
        a.expiresAtExclusive.milliseconds = expiry e ∧
        ∀ stage, ∃ t, answers.clock stage = some t ∧ t.milliseconds < expiry e

theorem Known.reviewsTimely (h : Known P s) : ReviewsTimely P s := by
  intro capability value answers a f' hreturns
  obtain ⟨r, hr, rfl, hreviewed, hreturned, d, hreview⟩ := reviewAssessment_returns hreturns
  obtain ⟨i, hi, e, hproduced, hrecorded⟩ := h.recorded r hr
  obtain ⟨_, _, _, proofs, _, _, hissued⟩ := id hproduced
  rw [hrecorded.expires] at hreviewed hreturned
  refine ⟨r, hr, rfl, i, hi, hrecorded.candidate, e, hproduced, hrecorded.candidateAnchor,
    hrecorded.finalizedHead, hrecorded.printed, ?_⟩
  intro stage
  cases stage with
  | reviewed => exact hreviewed
  | producerReview => exact h.review_timely hi hissued hrecorded.capability hreview
  | returned => exact hreturned

/-- In every state that calls reach, the producer and the finalizer agree about each candidate, and
no assessment outlives the evidence of its candidate. -/
theorem producer_finalizer_agree (h : Reachable P s) :
    (∀ i ∈ s.issued, ∃ e, (∃ reference value answers, collect P value answers = .ok e ∧
      produceCandidate P reference value answers = .ok i) ∧ Agrees P s i e) ∧
      ReviewsTimely P s := by
  have hknown := known_of_reachable h
  refine ⟨fun i hi => ?_, hknown.reviewsTimely⟩
  obtain ⟨e, reference, value, answers, proofs, hcollect, hproduce, hissued⟩ :=
    hknown.produced i hi
  exact ⟨e, ⟨reference, value, answers, hcollect, hproduce⟩, hknown.agrees hi hissued⟩

end Agreement

section Sample

open ChainAnchorProducer (SourcePair Registry SourceBinding Stage SourceRole produceRequest
  attestation sourceAttestationUse sourceVersion)

def noon : Int := 1784505600000

/-- Some milliseconds after a moment of the year 2026. -/
def afterNoon (milliseconds : Int) (h : -100000000 ≤ milliseconds ∧ milliseconds ≤ 100000000) :
    PlainTime :=
  let start : PlainTime := ⟨⟨noon - 100000000, by decide⟩, by decide, by decide⟩
  let finish : PlainTime := ⟨⟨noon + 100000000, by decide⟩, by decide, by decide⟩
  let t : TimeValue := ⟨noon + milliseconds, by rw [noon]; omega⟩
  have hstart : start.milliseconds = noon - 100000000 := rfl
  have hfinish : finish.milliseconds = noon + 100000000 := rfl
  have ht : t.milliseconds = noon + milliseconds := rfl
  ⟨t, hasPlainYear_between start finish (by omega) (by omega)⟩

def primarySource : SourceIdentity :=
  ⟨⟨"alpha", by decide⟩, ⟨"alpha-rpc", by decide⟩, .rpc⟩

def corroboratingSource : SourceIdentity :=
  ⟨⟨"beta", by decide⟩, ⟨"beta-rpc", by decide⟩, .indexer⟩

def samplePair (networkId : MainnetLaunchNetworkId) : SourcePair where
  networkId := networkId
  approvalId := ⟨match networkId with | .eip155 => "pair-1" | .solana => "pair-2", by
    cases networkId <;> decide⟩
  approvedAt := afterNoon (-86400000) (by decide)
  expiresAt := afterNoon 86400000 (by decide)
  primary := primarySource
  corroborating := corroboratingSource
  approved := by decide
  families := by decide
  sources := by decide

def sampleRegistryDigest : HexDigest :=
  ⟨"c7a2f2895f74c0ba8eca55f25336f608f784317275561d4e58eed2399872affe",
    by rw [String.toList_ofList]; decide⟩

/-- The digests of the texts that are hashed in the calls below about one of the blocks 100, by domain
and finalized block. -/
def sampleDigests : List ((Option String × Option String) × HexDigest) := [
  ((some ChainAnchorProducer.ProofDomain.identity.text, some "90"),
    ⟨"e4b3854054300f01bd4866ad8244f428409caa063e5f38b8927058fc938caa3b",
      by rw [String.toList_ofList]; decide⟩),
  ((some ChainAnchorProducer.ProofDomain.liveCapability.text, some "90"),
    ⟨"89dc73c2643494496a3ad5e8c2e5584536178f821f37ff80c37fb9e08f9ff8cb",
      by rw [String.toList_ofList]; decide⟩),
  ((some ChainAnchorProducer.ProofDomain.lineage.text, some "90"),
    ⟨"871dc26f06092b87f3da5ec0961b840716b18a0249e411e6ac100ad2ab316658",
      by rw [String.toList_ofList]; decide⟩),
  ((some ChainAnchorProducer.ProofDomain.identity.text, some "100"),
    ⟨"736469daa219e3df187629afb95c6b5f745449d2c26a3419989b1e168aa0cbd0",
      by rw [String.toList_ofList]; decide⟩),
  ((some ChainAnchorProducer.ProofDomain.liveCapability.text, some "100"),
    ⟨"18c136f026eba99794ce38df88ec429d001c4bad9fb1173823c12ee2c0b17c13",
      by rw [String.toList_ofList]; decide⟩),
  ((some ChainAnchorProducer.ProofDomain.lineage.text, some "100"),
    ⟨"f26a338d740023280a8a1947f1cc02ffff03b97ab5de1e5a2e638fcb4aa538ff",
      by rw [String.toList_ofList]; decide⟩),
  ((some ChainAnchorProducer.ProofDomain.identity.text, some "103"),
    ⟨"851d5525ee09667c4af609ed1849c93055456d8ef8640c9e5b449a60b206eeb4",
      by rw [String.toList_ofList]; decide⟩),
  ((some ChainAnchorProducer.ProofDomain.liveCapability.text, some "103"),
    ⟨"c039c09d260af9b7f918534bbfc6b726b2bb595c0f26bd049cdfea2993557814",
      by rw [String.toList_ofList]; decide⟩),
  ((some ChainAnchorProducer.ProofDomain.lineage.text, some "103"),
    ⟨"3d5908bd5767f402d76cd7723da283d6e019d0040451df13c92a8aa1a29ea626",
      by rw [String.toList_ofList]; decide⟩)]

/-- The digests about the other block 100. -/
def otherDigests : List ((Option String × Option String) × HexDigest) := [
  ((some ChainAnchorProducer.ProofDomain.identity.text, some "103"),
    ⟨"c12f4513cd46e8b22c857670cc695cca4d3d71ffb8fc14d8947b86c2df8620d6",
      by rw [String.toList_ofList]; decide⟩),
  ((some ChainAnchorProducer.ProofDomain.liveCapability.text, some "103"),
    ⟨"99e48216aa8f6056a11f9ff36be72af08121640546075bc8b6cb7b65e6cdf066",
      by rw [String.toList_ofList]; decide⟩),
  ((some ChainAnchorProducer.ProofDomain.lineage.text, some "103"),
    ⟨"d8a7e9590ebd9b1f53798efdab3dc417f7286c4696057f8af4d1d58a292b9bef",
      by rw [String.toList_ofList]; decide⟩)]

def sampleHash (digit : Char) : String := "0x" ++ String.ofList (List.replicate 64 digit)

def sampleFingerprint : ChainAnchorProducer.Fingerprint := fun value =>
  let items := (exactDataArray value 0 100 true).getD []
  let block := fun index => (exactDataRecord (items.getD index .undefined)
    ["kind", "blockNumber", "blockHash"] true true).getD []
  let digests := if (Fields.get (block 11) "blockHash").isText (sampleHash 'e') then otherDigests
    else sampleDigests
  (digests.lookup ((items.getD 0 .undefined).string?,
    (Fields.get (block 18) "blockNumber").string?)).getD sampleRegistryDigest

def sampleConfiguration : Configuration where
  fingerprint := sampleFingerprint
  registry := {
    isApproved := true
    pairs := [samplePair .eip155, samplePair .solana]
    fingerprintSha256 := ⟨sampleRegistryDigest.text, by decide⟩ }
  bindings := [⟨.eip155, .primary, primarySource, 1⟩, ⟨.eip155, .corroborating, corroboratingSource, 2⟩]

def sampleBlock (reference : Reference) (number : String) (digit : Char) : Datum :=
  frozenRecord reference [("kind", .string "EVM_BLOCK"), ("blockNumber", .string number),
    ("blockHash", .string (sampleHash digit))]

def sampleTime (milliseconds : Int) (h : -100000000 ≤ milliseconds ∧ milliseconds ≤ 100000000) :
    Datum := timestampDatum (afterNoon milliseconds h).toTimeValue

/-- A request about some block 100 that may take twenty seconds. -/
def sampleRequest (request : Reference) (anchor : Char) : Datum := frozenRecord request
  [("producerVersion", .number 1), ("use", .string produceUse),
    ("mayAuthorizeFinancialAction", .boolean false), ("mayPersist", .boolean false),
    ("networkId", .string "eip155:1"), ("sourceFamilyId", .string "alpha"),
    ("sourceId", .string "alpha-rpc"), ("sourceKind", .string "RPC"),
    ("sourceObservationId", .string "ethereum-block-100"),
    ("continuityFloor", sampleBlock 11 "95" 'a'), ("chainAnchor", sampleBlock 12 "100" anchor),
    ("observedAt", sampleTime 0 (by decide)), ("deadlineAt", sampleTime 20000 (by decide)),
    ("signal", .signal 13)]

/-- Block 105 is the current head, and some block the finalized one. -/
def sampleAttestation (anchor : Char) (finalized : String) (reference : Reference) (source : SourceIdentity)
    (proofs : List Char) (lag : Int) (h : 0 ≤ lag ∧ lag ≤ 1000) : Datum :=
  let proof := fun position => Datum.string (String.ofList (List.replicate 64 (proofs.getD position ' ')))
  frozenRecord reference
    [("sourceVersion", .number 1), ("use", .string sourceAttestationUse),
      ("mayAuthorizeFinancialAction", .boolean false), ("mayPersist", .boolean false),
      ("networkId", .string "eip155:1"), ("sourceFamilyId", .string source.sourceFamilyId.text),
      ("sourceId", .string source.sourceId.text), ("sourceKind", .string source.sourceKind.text),
      ("sourceObservationId", .string "ethereum-block-100"),
      ("continuityFloor", sampleBlock 11 "95" 'a'), ("chainAnchor", sampleBlock 12 "100" anchor),
      ("observedAt", sampleTime 0 (by decide)), ("assessedAt", sampleTime (1500 + lag / 10) (by omega)),
      ("currentHead", sampleBlock 14 "105" 'c'),
      ("currentHeadAdvancedAt", sampleTime (-1000 - lag) (by omega)),
      ("finalizedHead", sampleBlock 15 finalized 'd'),
      ("finalizedHeadAdvancedAt", sampleTime (-60000 - lag) (by omega)),
      ("identityProofSha256", proof 0), ("liveCapabilityProofSha256", proof 1),
      ("lineageProofSha256", proof 2)]

def sampleAnswers (anchor : Char) (finalized : String) : ChainAnchorProducer.Answers where
  aborted := fun _ => false
  clock := fun stage => match stage with
    | .requested => none
    | .evaluated => some (afterNoon 1000 (by decide)).toTimeValue
    | .settled => some (afterNoon 2000 (by decide)).toTimeValue
    | .verified => some (afterNoon 3000 (by decide)).toTimeValue
    | .assessed => some (afterNoon 4000 (by decide)).toTimeValue
    | .issued => some (afterNoon 5000 (by decide)).toTimeValue
  results := fun role => match role with
    | .primary => 
      some (sampleAttestation anchor finalized 20 primarySource ['1', '2', '3'] 0 (by decide))
    | .corroborating =>
      some (sampleAttestation anchor finalized 21 corroboratingSource ['4', '5', '6'] 1000
        (by decide))
  authentic := fun _ => true

/-- A request to assess a candidate. -/
def assessRequest (reference : Reference) (i : IssuedCandidate) : Datum := frozenRecord reference
  [("finalityVersion", .number finalityVersion), ("use", .string assessUse),
    ("mayAuthorizeFinancialAction", .boolean false), ("mayPersist", .boolean false),
    ("mayCreatePositionSnapshot", .boolean false), ("producerCapability", i.candidate),
    ("producerRequest", i.request), ("signal", .signal i.signal)]

theorem assessRequest_asksFor (reference : Reference) (i : IssuedCandidate) :
    AsksFor (assessRequest reference i) i := by
  refine ⟨_, exactDataRecord_frozenRecord true false rfl (by decide), ?_⟩
  simp only [get_cons]
  exact ⟨rfl, rfl, rfl, rfl, rfl, rfl, rfl, rfl⟩

/-- The call for a candidate is answered in time, and its evidence passes a test. -/
def isSample (request : Reference) (anchor : Char) (finalized : String) (candidate : Reference)
    (test : Evidence → Bool) : Bool :=
  (produceCandidate sampleConfiguration candidate (sampleRequest request anchor)
      (sampleAnswers anchor finalized)).toOption.any (fun i => decide (i.issuedAt = noon + 5000)) &&
    (collect sampleConfiguration (sampleRequest request anchor)
      (sampleAnswers anchor finalized)).toOption.any
        (fun e => decide (noon + 6000 < expiry e) && test e)

/-- One more candidate is made and assessed, a second after it was issued. -/
theorem sample_extends {s : State} (hs : Reachable sampleConfiguration s) (request : Reference)
    (anchor : Char) (finalized : String) (candidate assessment : Reference) (test : Evidence → Bool)
    (hrequests : ∀ j ∈ s.issued, j.request.reference? = some request →
      j.request = sampleRequest request anchor)
    (hcandidate : ∀ j ∈ s.issued, j.candidate.reference? ≠ some candidate)
    (hassessment : ∀ r ∈ s.finalizer.issued, r.result.reference ≠ assessment)
    (hlast : ∀ last, s.finalizer.lastClockMilliseconds = some last → last ≤ noon + 6000)
    (hsample : isSample request anchor finalized candidate test = true) :
    ∃ i r e, Reachable sampleConfiguration
        ⟨s.issued ++ [i], ⟨some (noon + 6000), s.finalizer.issued ++ [r]⟩⟩ ∧
      i.request = sampleRequest request anchor ∧ i.candidate.reference? = some candidate ∧
      r.result.reference = assessment ∧
      r.result.candidateAnchor = e.request.chainAnchor ∧
      r.result.agreedFinalizedHead = e.primary.finalizedHead ∧ test e = true := by
  obtain ⟨hproduce, hcollect⟩ := (Bool.and_eq_true _ _).mp hsample
  obtain ⟨i, hi, hissuedAt⟩ := (Option.any_eq_true _ _).mp hproduce
  obtain ⟨e, he, htest⟩ := (Option.any_eq_true _ _).mp hcollect
  rw [Bool.and_eq_true] at htest
  have hissuedAt := of_decide_eq_true hissuedAt
  have hexpiry := of_decide_eq_true htest.1
  have hcall := toOption_eq_some.mp hi
  obtain ⟨e', proofs, he', hreference, hissued⟩ := issued_of_produce hcall
  obtain rfl := Except.ok.inj ((toOption_eq_some.mp he).symm.trans he')
  have hasked : i.request = sampleRequest request anchor := hissued.request.trans (collected he').1
  have hreached := Reachable.produced hs hcandidate hcall
  have hmem : i ∈ s.issued ++ [i] := List.mem_append_right _ (List.mem_singleton_self i)
  have hknown := known_of_reachable hreached
  have hagrees := hknown.agrees hmem hissued
  have hasks := assessRequest_asksFor 40 i
  let t : TimeValue := (afterNoon 6000 (by decide)).toTimeValue
  have ht : t.milliseconds = noon + 6000 := rfl
  let answers : Answers AssessStage := ⟨fun _ => some t, fun _ => false⟩
  have hreview := (hagrees.reviewable t false).mpr ⟨by omega, by omega, rfl⟩
  obtain ⟨a, f, hassess⟩ := (hagrees.assessable assessment _ answers t false s.finalizer hasks
    (fun _ => ⟨rfl, rfl⟩) hlast).mpr hreview
  have hunchanged : Unchanged (s.issued ++ [i]) (assessRequest 40 i) := by
    intro asked hrequest j hj hsame
    obtain rfl := Except.ok.inj
      (hrequest.symm.trans (reviewedAssessRequest_of_asksFor hissued hasks))
    rw [← hissued.request, hasked] at hsame ⊢
    obtain hj | hj := List.mem_append.mp hj
    · exact (hrequests j hj hsame.symm).symm
    · rw [List.mem_singleton.mp hj, hasked]
  have hassessed := Reachable.assessed hreached hassessment hunchanged hassess
  obtain ⟨_, _, c, _, _, _, assessedAt, ha, hresult, rfl⟩ := assessCandidate_returns hassess
  obtain ⟨hanchor, hhead, _⟩ := hagrees.timely assessment _ answers _ _ a hasks hassess
  obtain rfl := Option.some.inj ha.assessed
  exact ⟨i, _, e, hassessed, hasked, hreference, congrArg Assessment.reference hresult, hanchor, hhead,
    htest.2⟩

theorem sampleState_reached : ∃ s, Reachable sampleConfiguration s ∧ s.issued ≠ [] ∧
    ∃ r ∈ s.finalizer.issued, ChainAnchorData.nonRegressing r.result.candidateAnchor
      r.result.agreedFinalizedHead = false := by
  have hsample : isSample 10 'b' "90" 30 (fun e =>
      !ChainAnchorData.nonRegressing e.request.chainAnchor e.primary.finalizedHead) = true := by
    -- The kernel reads a text faster from its bytes.
    delta isSample produceCandidate collect produceRequest attestation readAnchor
      ChainAnchorProducer.sourceIdentity ChainAnchorProducer.aggregateProofs
      ChainAnchorProducer.aggregateProof nonzeroDigest
    simp only [readChecked, Bytes.toList_eq_characters]
    decide +kernel
  obtain ⟨i, r, e, hreached, _, _, _, hanchor, hhead, htest⟩ :=
    sample_extends Reachable.start 10 'b' "90" 30 41 _ (fun _ hj => (by cases hj))
      (fun _ hj => (by cases hj)) (fun _ hr => (by cases hr)) (fun _ hl => (by cases hl)) hsample
  refine ⟨_, hreached, List.cons_ne_nil _ _, r, List.mem_singleton_self r, ?_⟩
  rw [hanchor, hhead]
  simpa using htest

/-- The finalized head of an assessment may lie below the anchor that it is about. -/
theorem finalizedHead_below : ¬∀ (P : Configuration) (s : State), Reachable P s →
    ∀ r ∈ s.finalizer.issued, ChainAnchorData.nonRegressing r.result.candidateAnchor
      r.result.agreedFinalizedHead = true := by
  intro hall
  obtain ⟨s, hreached, _, r, hr, hbelow⟩ := sampleState_reached
  rw [hall sampleConfiguration s hreached r hr] at hbelow
  cases hbelow

theorem sampleState_agrees : ∃ s : State, s.issued ≠ [] ∧ s.finalizer.issued ≠ [] ∧
    (∀ i ∈ s.issued, ∃ e, (∃ reference value answers,
      collect sampleConfiguration value answers = .ok e ∧
      produceCandidate sampleConfiguration reference value answers = .ok i) ∧
      Agrees sampleConfiguration s i e) ∧ ReviewsTimely sampleConfiguration s := by
  obtain ⟨s, hreached, hissued, r, hr, _⟩ := sampleState_reached
  exact ⟨s, hissued, List.ne_nil_of_mem hr, producer_finalizer_agree hreached⟩

end Sample

end CryptoLending.MainnetPlatforms.ChainAnchorHistory
