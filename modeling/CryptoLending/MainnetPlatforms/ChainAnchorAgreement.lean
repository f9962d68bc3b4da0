import CryptoLending.MainnetPlatforms.ChainAnchorEvidence

namespace CryptoLending.MainnetPlatforms.ChainAnchorAgreement

open Lib Lib.JsObject Lib.IsoText Lib.IsoReading Blockchain.LaunchNetwork ChainAnchorData
open Lib.JsReading (isSha256)
open ChainAnchorProducer ChainAnchorEvidence
open ChainAnchorFinalizer hiding Answers ensureCurrent

/-- The first instant at which evidence may no longer be used. -/
def expiry (e : Evidence) : Int :=
  min e.request.deadlineAt.milliseconds (min e.pair.expiresAt.milliseconds
    (min (e.currentHeadAdvancedAt.milliseconds + currentLifetime e.request.networkId)
      (e.finalizedHeadAdvancedAt.milliseconds + finalizedLifetime e.request.networkId)))

section Issuing

variable {P : Configuration}

/-- What holds of a candidate that was made from evidence. -/
structure Issued (P : Configuration) (i : IssuedCandidate) (e : Evidence) (proofs : Proofs) : Prop
    where
  collected : Collected P e
  request : i.request = e.request.request
  candidate : ∃ reference,
    i.candidate = frozenRecord reference (candidateFields (recordArguments P e proofs))
  networkId : i.networkId = e.request.networkId
  deadlineAt : i.deadlineAt = e.request.deadlineAt.milliseconds
  signal : i.signal = e.request.signal
  currentHeadAdvancedAt : i.currentHeadAdvancedAt = e.currentHeadAdvancedAt.milliseconds
  finalizedHeadAdvancedAt : i.finalizedHeadAdvancedAt = e.finalizedHeadAdvancedAt.milliseconds
  proofs : [proofs.identity.text, proofs.liveCapability.text, proofs.lineage.text].Nodup
  approved : P.registry.isApproved = true
  assessed : e.assessedAt.milliseconds ≤ i.issuedAt
  beforeExpiry : i.issuedAt < expiry e

theorem issued_of_produce {reference : Reference} {value : Datum} {answers : Answers}
    {i : IssuedCandidate} (h : produceCandidate P reference value answers = .ok i) :
    ∃ e proofs, collect P value answers = .ok e ∧ i.candidate.reference? = some reference ∧
      Issued P i e proofs := by
  obtain ⟨e, he, h⟩ := except_bind_ok.mp h
  obtain ⟨proofs, hproofs, h⟩ := except_bind_ok.mp h
  obtain ⟨issuedAt, hclock, h⟩ := except_bind_ok.mp h
  obtain ⟨pair, hpair, h⟩ := except_bind_ok.mp h
  obtain ⟨_, hprimary, h⟩ := except_bind_ok.mp h
  obtain ⟨_, hcorroborating, h⟩ := except_bind_ok.mp h
  cases h
  obtain ⟨_, hcollected⟩ := collected he
  have hdistinct : [proofs.identity.text, proofs.liveCapability.text, proofs.lineage.text].Nodup := by
    obtain ⟨_, _, hproofs⟩ := except_bind_ok.mp hproofs
    obtain ⟨_, _, hproofs⟩ := except_bind_ok.mp hproofs
    obtain ⟨_, _, hproofs⟩ := except_bind_ok.mp hproofs
    obtain ⟨_, hfail, hproofs⟩ := except_bind_ok.mp hproofs
    cases hproofs
    exact not_not.mp (failWhen_ok.mp hfail)
  obtain ⟨hearlier, hdeadline, _⟩ := readClock_ok hclock
  obtain ⟨hfound, happroved, _, hexpires⟩ := currentPair_ok.mp hpair
  obtain rfl := Option.some.inj (hcollected.selected.symm.trans hfound)
  obtain ⟨⟨_, hpc⟩, _, hpf⟩ := ensureHeadTimesCurrent_ok.mp hprimary
  obtain ⟨⟨_, hcc⟩, _, hcf⟩ := ensureHeadTimesCurrent_ok.mp hcorroborating
  have hbefore : issuedAt.milliseconds < expiry e := by
    rw [expiry, Evidence.currentHeadAdvancedAt, Evidence.finalizedHeadAdvancedAt,
      olderOf_milliseconds, olderOf_milliseconds]
    omega
  exact ⟨e, proofs, he, rfl, {
    collected := hcollected
    request := rfl
    candidate := ⟨reference, rfl⟩
    networkId := rfl
    deadlineAt := rfl
    signal := rfl
    currentHeadAdvancedAt := (olderOf_milliseconds _ _).symm
    finalizedHeadAdvancedAt := (olderOf_milliseconds _ _).symm
    proofs := hdistinct
    approved := happroved
    assessed := hearlier
    beforeExpiry := hbefore }⟩

end Issuing

section Parsing

variable {P : Configuration} {i : IssuedCandidate} {e : Evidence} {proofs : Proofs}

theorem lifetimes_agree (networkId : MainnetLaunchNetworkId) :
    currentHeadLifetimeMilliseconds networkId = currentLifetime networkId ∧
      finalizedHeadLifetimeMilliseconds networkId = finalizedLifetime networkId := by
  cases networkId <;> exact ⟨rfl, rfl⟩

/-- The arguments of a candidate as the finalizer reads them. -/
def argumentsOf (h : Collected P e) (proofs : Proofs) : Arguments := {
  source := e.request.source
  sourceObservationId := .string e.request.sourceObservationId.text
  continuityFloor := e.request.continuityFloor
  candidateAnchor := e.request.chainAnchor
  observedAt := e.request.observedAt
  assessedAt := ⟨e.assessedAt, h.plain⟩
  currentHead := e.primary.currentHead
  currentHeadAdvancedAt := e.currentHeadAdvancedAt
  finalizedHead := e.primary.finalizedHead
  finalizedHeadAdvancedAt := e.finalizedHeadAdvancedAt
  identityProofSha256 := proofs.identity
  liveCapabilityProofSha256 := proofs.liveCapability
  lineageProofSha256 := proofs.lineage
  approvalExpiresAt := e.pair.expiresAt }

theorem readAnchor_of_networkId {a : Anchor} {networkId : MainnetLaunchNetworkId}
    (h : a.networkId = networkId) (reference : Reference) :
    readAnchor (a.datum reference) networkId true true = some a :=
  h ▸ readAnchor_datum reference a true true

/-- The positions of the arguments are the same in both modules. -/
theorem readArguments_recordArguments (h : Collected P e) (proofs : Proofs) :
    readArguments (recordArguments P e proofs) e.request.networkId =
      some (argumentsOf h proofs) := by
  have hassessed : timestamp (timestampDatum e.assessedAt) = some ⟨e.assessedAt, h.plain⟩ :=
    timestamp_datum ⟨e.assessedAt, h.plain⟩
  have hguard : guard ((Datum.string e.request.networkId.text).isText
      e.request.networkId.text = true) = some () :=
    if_pos (by rw [Datum.isText, Datum.string?, beq_self_eq_true])
  refine Option.bind_eq_some_iff.mpr ⟨(), hguard, ?_⟩
  refine Option.bind_eq_some_iff.mpr ⟨_, sourceIdentity_text e.request.source, ?_⟩
  refine Option.bind_eq_some_iff.mpr ⟨_, readAnchor_of_networkId h.wellFormed.floor 0, ?_⟩
  refine Option.bind_eq_some_iff.mpr ⟨_, readAnchor_of_networkId h.wellFormed.anchor 0, ?_⟩
  refine Option.bind_eq_some_iff.mpr ⟨_, timestamp_datum e.request.observedAt, ?_⟩
  refine Option.bind_eq_some_iff.mpr ⟨_, hassessed, ?_⟩
  refine Option.bind_eq_some_iff.mpr ⟨_, readAnchor_of_networkId h.currentNetwork 0, ?_⟩
  refine Option.bind_eq_some_iff.mpr ⟨_, timestamp_datum e.currentHeadAdvancedAt, ?_⟩
  refine Option.bind_eq_some_iff.mpr ⟨_, readAnchor_of_networkId h.finalizedNetwork 0, ?_⟩
  refine Option.bind_eq_some_iff.mpr ⟨_, timestamp_datum e.finalizedHeadAdvancedAt, ?_⟩
  refine Option.bind_eq_some_iff.mpr ⟨_, readChecked_string proofs.identity, ?_⟩
  refine Option.bind_eq_some_iff.mpr ⟨_, readChecked_string proofs.liveCapability, ?_⟩
  refine Option.bind_eq_some_iff.mpr ⟨_, readChecked_string proofs.lineage, ?_⟩
  refine Option.bind_eq_some_iff.mpr ⟨_, timestamp_datum e.pair.expiresAt, ?_⟩
  rfl

theorem refuses_argumentsOf (h : Collected P e)
    (hproofs : [proofs.identity.text, proofs.liveCapability.text, proofs.lineage.text].Nodup) :
    refuses (argumentsOf h proofs) e.request = false := by
  have hobservation : (Datum.string e.request.sourceObservationId.text).isText
      e.request.sourceObservationId.text = true := by
    rw [Datum.isText, Datum.string?, beq_self_eq_true]
  have hnot : ∀ {b : Bool}, b = true → (!b) = false := fun h => by rw [h]; rfl
  simp only [refuses, Bool.or_eq_false_iff, and_assoc]
  exact ⟨decide_eq_false (not_not.mpr rfl), hnot hobservation, hnot (sameAnchor_iff.mpr rfl),
    hnot (sameAnchor_iff.mpr rfl), decide_eq_false (not_not.mpr rfl),
    hnot h.wellFormed.nonRegressing, hnot h.nonRegressing, hnot h.finalizedNotAhead,
    decide_eq_false (not_lt.mpr h.observed), decide_eq_false (not_le.mpr h.beforeDeadline),
    decide_eq_false (not_lt.mpr h.currentAdvanced),
    decide_eq_false (not_lt.mpr h.finalizedAdvanced),
    decide_eq_false (not_le.mpr h.beforeExpiry), decide_eq_false (not_not.mpr hproofs)⟩

theorem expiryMilliseconds_argumentsOf (h : Collected P e) :
    expiryMilliseconds (argumentsOf h proofs) e.request = expiry e := by
  rw [expiryMilliseconds, (lifetimes_agree _).1, (lifetimes_agree _).2]
  rfl

theorem expiry_within (e : Evidence) :
    -8640000000000000 ≤ expiry e ∧ expiry e ≤ 8640000000000000 := by
  have hdeadline := e.request.deadlineAt.within
  have hexpires := e.pair.expiresAt.within
  have hcurrent := e.currentHeadAdvancedAt.within
  have hfinalized := e.finalizedHeadAdvancedAt.within
  have hlives : 0 ≤ currentLifetime e.request.networkId ∧
      0 ≤ finalizedLifetime e.request.networkId := by
    cases e.request.networkId <;> decide
  rw [expiry]
  omega

/-- A candidate as the finalizer reads it. -/
def reviewedOf (h : Collected P e) (proofs : Proofs) (candidate : Datum) : ReviewedCandidate := {
  candidate := candidate
  candidateAnchor := e.request.chainAnchor
  currentHead := e.primary.currentHead
  finalizedHead := e.primary.finalizedHead
  assessedAt := ⟨e.assessedAt, h.plain⟩
  currentHeadAdvancedAt := e.currentHeadAdvancedAt
  finalizedHeadAdvancedAt := e.finalizedHeadAdvancedAt
  lineageProofSha256 := proofs.lineage
  approvalExpiresAt := e.pair.expiresAt
  expiresAtExclusive := ⟨expiry e, expiry_within e⟩ }

/-- The finalizer parses every candidate for the request it was issued for. -/
theorem reviewedCandidate_issued (h : Issued P i e proofs) :
    reviewedCandidate i.candidate e.request = .ok (reviewedOf h.collected proofs i.candidate) := by
  obtain ⟨reference, hcandidate⟩ := h.candidate
  have hrecord : exactDataRecord i.candidate candidateKeys true true =
      some (candidateFields (recordArguments P e proofs)) := by
    rw [hcandidate]
    exact exactDataRecord_frozenRecord true true rfl (by decide)
  have hheader : hasHeader (candidateFields (recordArguments P e proofs)) recordCandidateUse =
      true := by
    simp only [hasHeader, candidateFields, get_cons]
    rfl
  have hvalues : exactDataArray (Fields.get (candidateFields (recordArguments P e proofs))
      "recordArguments") 23 23 true = some (recordArguments P e proofs) := by
    simp only [candidateFields, get_cons]
    exact exactDataArray_frozenArray true le_rfl le_rfl
  have hexpiry : TimeValue.ofMilliseconds
      (expiryMilliseconds (argumentsOf h.collected proofs) e.request) =
        some ⟨expiry e, expiry_within e⟩ :=
    TimeValue.ofMilliseconds_eq_some.mpr (expiryMilliseconds_argumentsOf h.collected).symm
  refine except_bind_ok.mpr ⟨_, orFail_ok.mpr hrecord, ?_⟩
  refine except_bind_ok.mpr ⟨(), failWhen_ok.mpr (by simp [hheader]), ?_⟩
  refine except_bind_ok.mpr ⟨_, orFail_ok.mpr hvalues, ?_⟩
  refine except_bind_ok.mpr
    ⟨_, orFail_ok.mpr (readArguments_recordArguments h.collected proofs), ?_⟩
  refine except_bind_ok.mpr
    ⟨(), failWhen_ok.mpr (by simp [refuses_argumentsOf h.collected h.proofs]), ?_⟩
  refine except_bind_ok.mpr ⟨_, orFail_ok.mpr hexpiry, ?_⟩
  rfl

end Parsing

end CryptoLending.MainnetPlatforms.ChainAnchorAgreement
