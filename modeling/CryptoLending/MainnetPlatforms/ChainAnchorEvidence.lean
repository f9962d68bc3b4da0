import CryptoLending.MainnetPlatforms.ChainAnchorFinalizer

namespace CryptoLending.MainnetPlatforms.ChainAnchorEvidence

open Lib Lib.JsObject Lib.IsoText Lib.IsoReading Blockchain.LaunchNetwork ChainAnchorData
open ChainAnchorProducer
open ChainAnchorFinalizer (reviewedProducerRequest)

section Reading

theorem sourceIdentity_text (identity : SourceIdentity) :
    sourceIdentity (.string identity.sourceFamilyId.text) (.string identity.sourceId.text)
      (.string identity.sourceKind.text) = some identity := by
  rw [sourceIdentity, readChecked_string, readChecked_string, readSourceKind_text]
  rfl

/-- What holds of a request after its review. -/
structure WellFormed (r : ReviewedProducerRequest) : Prop where
  floor : r.continuityFloor.networkId = r.networkId
  anchor : r.chainAnchor.networkId = r.networkId
  named : r.sourceObservationId.text = r.chainAnchor.observationId
  nonRegressing : nonRegressing r.continuityFloor r.chainAnchor = true
  ordered : r.observedAt.milliseconds < r.deadlineAt.milliseconds

theorem wellFormed_of_reviewed {value : Datum} {r : ReviewedProducerRequest}
    (h : reviewedProducerRequest value = .ok r) : r.request = value ∧ WellFormed r := by
  obtain ⟨record, _, h⟩ := except_bind_ok.mp h
  obtain ⟨networkId, _, h⟩ := except_bind_ok.mp h
  obtain ⟨source, _, h⟩ := except_bind_ok.mp h
  obtain ⟨_, _, h⟩ := except_bind_ok.mp h
  obtain ⟨sourceObservationId, _, h⟩ := except_bind_ok.mp h
  obtain ⟨continuityFloor, hfloor, h⟩ := except_bind_ok.mp h
  obtain ⟨chainAnchor, hanchor, h⟩ := except_bind_ok.mp h
  obtain ⟨observedAt, _, h⟩ := except_bind_ok.mp h
  obtain ⟨deadlineAt, _, h⟩ := except_bind_ok.mp h
  obtain ⟨signal, _, h⟩ := except_bind_ok.mp h
  obtain ⟨_, hfail, h⟩ := except_bind_ok.mp h
  cases h
  have hchecks := failWhen_ok.mp hfail
  simp only [not_or, ne_eq, not_not, Bool.not_eq_true', Bool.not_eq_false, not_le] at hchecks
  exact ⟨rfl, readAnchor_networkId (orFail_ok.mp hfloor), readAnchor_networkId (orFail_ok.mp hanchor),
    hchecks.1, hchecks.2.1, hchecks.2.2⟩

/-- The finalizer reads a request as the producer did. -/
theorem reviewed_of_produceRequest {value : Datum} {aborted : Bool} {r : ReviewedProducerRequest}
    (h : produceRequest value aborted = .ok r) : reviewedProducerRequest value = .ok r := by
  obtain ⟨record, hrecord, h⟩ := except_bind_ok.mp h
  obtain ⟨networkId, hnetwork, h⟩ := except_bind_ok.mp h
  obtain ⟨source, hsource, h⟩ := except_bind_ok.mp h
  obtain ⟨_, hheader, h⟩ := except_bind_ok.mp h
  obtain ⟨sourceObservationId, hid, h⟩ := except_bind_ok.mp h
  obtain ⟨continuityFloor, hfloor, h⟩ := except_bind_ok.mp h
  obtain ⟨chainAnchor, hanchor, h⟩ := except_bind_ok.mp h
  obtain ⟨observedAt, hobserved, h⟩ := except_bind_ok.mp h
  obtain ⟨deadlineAt, hdeadline, h⟩ := except_bind_ok.mp h
  obtain ⟨signal, hsignal, h⟩ := except_bind_ok.mp h
  obtain ⟨_, hfail, h⟩ := except_bind_ok.mp h
  cases h
  have hchecks := failWhen_ok.mp hfail
  simp only [not_or] at hchecks
  refine except_bind_ok.mpr ⟨record, orFail_ok.mpr (orFail_ok.mp hrecord), ?_⟩
  refine except_bind_ok.mpr ⟨networkId, orFail_ok.mpr (orFail_ok.mp hnetwork), ?_⟩
  refine except_bind_ok.mpr ⟨source, orFail_ok.mpr (orFail_ok.mp hsource), ?_⟩
  refine except_bind_ok.mpr ⟨(), failWhen_ok.mpr (failWhen_ok.mp hheader), ?_⟩
  refine except_bind_ok.mpr ⟨sourceObservationId, orFail_ok.mpr (orFail_ok.mp hid), ?_⟩
  refine except_bind_ok.mpr ⟨continuityFloor, orFail_ok.mpr (orFail_ok.mp hfloor), ?_⟩
  refine except_bind_ok.mpr ⟨chainAnchor, orFail_ok.mpr (orFail_ok.mp hanchor), ?_⟩
  refine except_bind_ok.mpr ⟨observedAt, orFail_ok.mpr (orFail_ok.mp hobserved), ?_⟩
  refine except_bind_ok.mpr ⟨deadlineAt, orFail_ok.mpr (orFail_ok.mp hdeadline), ?_⟩
  refine except_bind_ok.mpr ⟨signal, orFail_ok.mpr (orFail_ok.mp hsignal), ?_⟩
  refine except_bind_ok.mpr ⟨(), failWhen_ok.mpr ?_, rfl⟩
  simp only [not_or]
  exact ⟨hchecks.1, hchecks.2.1, hchecks.2.2.1⟩

end Reading

section Attesting

/-- What holds of an attestation after its check. -/
structure Attested (a : ReviewedAttestation) (request : ReviewedProducerRequest)
    (evaluatedAt completed : TimeValue) : Prop where
  currentNetwork : a.currentHead.networkId = request.networkId
  finalizedNetwork : a.finalizedHead.networkId = request.networkId
  nonRegressing : nonRegressing request.chainAnchor a.currentHead = true
  finalizedNotAhead : finalizedNotAhead a.finalizedHead a.currentHead = true
  assessed : evaluatedAt.milliseconds ≤ a.assessedAt.milliseconds ∧
    a.assessedAt.milliseconds ≤ completed.milliseconds
  advanced : a.currentHeadAdvancedAt.milliseconds ≤ a.assessedAt.milliseconds ∧
    a.finalizedHeadAdvancedAt.milliseconds ≤ a.assessedAt.milliseconds

theorem attested {capability : Datum} {binding : SourceBinding} {request : ReviewedProducerRequest}
    {evaluatedAt completed : TimeValue} {a : ReviewedAttestation}
    (h : attestation capability binding request evaluatedAt completed = .ok a) :
    a.binding = binding ∧ Attested a request evaluatedAt completed := by
  obtain ⟨record, _, h⟩ := except_bind_ok.mp h
  obtain ⟨_, _, h⟩ := except_bind_ok.mp h
  obtain ⟨continuityFloor, _, h⟩ := except_bind_ok.mp h
  obtain ⟨chainAnchor, _, h⟩ := except_bind_ok.mp h
  obtain ⟨currentHead, hcurrent, h⟩ := except_bind_ok.mp h
  obtain ⟨finalizedHead, hfinalized, h⟩ := except_bind_ok.mp h
  obtain ⟨assessedAt, _, h⟩ := except_bind_ok.mp h
  obtain ⟨currentHeadAdvancedAt, _, h⟩ := except_bind_ok.mp h
  obtain ⟨finalizedHeadAdvancedAt, _, h⟩ := except_bind_ok.mp h
  obtain ⟨_, hfail, h⟩ := except_bind_ok.mp h
  obtain ⟨_, _, h⟩ := except_bind_ok.mp h
  obtain ⟨_, _, h⟩ := except_bind_ok.mp h
  obtain ⟨_, _, h⟩ := except_bind_ok.mp h
  cases h
  have hchecks := failWhen_ok.mp hfail
  simp only [not_or, Bool.not_eq_true', Bool.not_eq_false, not_lt] at hchecks
  obtain ⟨_, hsame, hregress, hahead, _, hevaluated, hcompleted, hadvanced, hfinal⟩ := hchecks
  rw [sameAnchor_iff.mp hsame] at hregress
  exact ⟨rfl, readAnchor_networkId (orFail_ok.mp hcurrent),
    readAnchor_networkId (orFail_ok.mp hfinalized), hregress, hahead, ⟨hevaluated, hcompleted⟩,
    hadvanced, hfinal⟩

theorem ensureHeadTimesCurrent_ok {networkId : MainnetLaunchNetworkId} {c f now : Int} {u : Unit} :
    ensureHeadTimesCurrent networkId c f now = .ok u ↔
      (c ≤ now ∧ now < c + currentLifetime networkId) ∧
        f ≤ now ∧ now < f + finalizedLifetime networkId := by
  rw [ensureHeadTimesCurrent, failWhen_ok]
  omega

variable {P : Configuration}

theorem currentPair_ok {networkId : MainnetLaunchNetworkId} {now : TimeValue} {p : SourcePair} :
    currentPair P networkId now = .ok p ↔
      P.registry.pairs.find? (fun p => p.networkId == networkId) = some p ∧
        P.registry.isApproved = true ∧ p.approvedAt.milliseconds ≤ now.milliseconds ∧
        now.milliseconds < p.expiresAt.milliseconds := by
  rw [currentPair]
  constructor
  · intro h
    obtain ⟨selected, hfind, h⟩ := except_bind_ok.mp h
    obtain ⟨_, hfail, h⟩ := except_bind_ok.mp h
    cases h
    have hchecks := failWhen_ok.mp hfail
    simp only [not_or, Bool.not_eq_true', Bool.not_eq_false, not_lt, not_le] at hchecks
    exact ⟨orFail_ok.mp hfind, hchecks⟩
  · rintro ⟨hfind, happroved, hstart, hend⟩
    refine except_bind_ok.mpr ⟨p, orFail_ok.mpr hfind, ?_⟩
    refine except_bind_ok.mpr ⟨(), failWhen_ok.mpr ?_, rfl⟩
    simp only [not_or, Bool.not_eq_true', Bool.not_eq_false, not_lt, not_le]
    exact ⟨happroved, hstart, hend⟩

theorem readClock_ok {answers : Answers} {stage : Stage} {request : ReviewedProducerRequest}
    {earlier now : TimeValue} (h : readClock answers stage request earlier = .ok now) :
    earlier.milliseconds ≤ now.milliseconds ∧
      now.milliseconds < request.deadlineAt.milliseconds ∧ answers.aborted stage = false := by
  obtain ⟨_, _, h⟩ := except_bind_ok.mp h
  obtain ⟨_, hfail, h⟩ := except_bind_ok.mp h
  cases h
  have hchecks := failWhen_ok.mp hfail
  simp only [not_or, not_lt, not_le, Bool.not_eq_true] at hchecks
  exact hchecks

theorem bindingFor_ok {available : List SourceBinding} {selected : SourcePair} {role : SourceRole}
    {b : SourceBinding} (h : bindingFor available selected role = .ok b) :
    b.identity = selected.identity role := by
  have hfind := List.find?_some (orFail_ok.mp h)
  exact (of_decide_eq_true hfind).2.2

theorem olderOf_milliseconds (left right : PlainTime) :
    (olderOf left right).milliseconds = min left.milliseconds right.milliseconds := by
  rw [olderOf]
  split <;> omega

end Attesting

section Collecting

variable {P : Configuration}

/-- What holds of the evidence of a call. -/
structure Collected (P : Configuration) (e : Evidence) : Prop where
  reviewed : reviewedProducerRequest e.request.request = .ok e.request
  wellFormed : WellFormed e.request
  selected : P.registry.pairs.find? (fun p => p.networkId == e.request.networkId) = some e.pair
  primaryBinding : e.primary.binding.identity = e.pair.primary
  corroboratingBinding : e.corroborating.binding.identity = e.pair.corroborating
  currentHead : e.primary.currentHead = e.corroborating.currentHead
  finalizedHead : e.primary.finalizedHead = e.corroborating.finalizedHead
  currentNetwork : e.primary.currentHead.networkId = e.request.networkId
  finalizedNetwork : e.primary.finalizedHead.networkId = e.request.networkId
  nonRegressing : nonRegressing e.request.chainAnchor e.primary.currentHead = true
  finalizedNotAhead : finalizedNotAhead e.primary.finalizedHead e.primary.currentHead = true
  observed : e.request.observedAt.milliseconds ≤ e.assessedAt.milliseconds
  beforeDeadline : e.assessedAt.milliseconds < e.request.deadlineAt.milliseconds
  beforeExpiry : e.assessedAt.milliseconds < e.pair.expiresAt.milliseconds
  approved : e.pair.approvedAt.milliseconds ≤ e.assessedAt.milliseconds
  currentAdvanced : e.currentHeadAdvancedAt.milliseconds ≤ e.assessedAt.milliseconds
  finalizedAdvanced : e.finalizedHeadAdvancedAt.milliseconds ≤ e.assessedAt.milliseconds

theorem collected {value : Datum} {answers : Answers} {e : Evidence}
    (h : collect P value answers = .ok e) : e.request.request = value ∧ Collected P e := by
  obtain ⟨request, hrequest, h⟩ := except_bind_ok.mp h
  obtain ⟨evaluatedAt, _, h⟩ := except_bind_ok.mp h
  obtain ⟨_, hevaluated, h⟩ := except_bind_ok.mp h
  obtain ⟨selected, hselected, h⟩ := except_bind_ok.mp h
  obtain ⟨_, _, h⟩ := except_bind_ok.mp h
  obtain ⟨primaryBinding, hprimaryBinding, h⟩ := except_bind_ok.mp h
  obtain ⟨corroboratingBinding, hcorroboratingBinding, h⟩ := except_bind_ok.mp h
  obtain ⟨_, _, h⟩ := except_bind_ok.mp h
  obtain ⟨settledAt, hsettled, h⟩ := except_bind_ok.mp h
  obtain ⟨_, _, h⟩ := except_bind_ok.mp h
  obtain ⟨primaryResult, _, h⟩ := except_bind_ok.mp h
  obtain ⟨corroboratingResult, _, h⟩ := except_bind_ok.mp h
  obtain ⟨_, _, h⟩ := except_bind_ok.mp h
  obtain ⟨verifiedAt, hverified, h⟩ := except_bind_ok.mp h
  obtain ⟨_, _, h⟩ := except_bind_ok.mp h
  obtain ⟨_, _, h⟩ := except_bind_ok.mp h
  obtain ⟨primary, hprimary, h⟩ := except_bind_ok.mp h
  obtain ⟨corroborating, hcorroborating, h⟩ := except_bind_ok.mp h
  obtain ⟨_, hagree, h⟩ := except_bind_ok.mp h
  obtain ⟨assessedAt, hassessed, h⟩ := except_bind_ok.mp h
  obtain ⟨current, hcurrent, h⟩ := except_bind_ok.mp h
  obtain ⟨_, _, h⟩ := except_bind_ok.mp h
  obtain ⟨_, _, h⟩ := except_bind_ok.mp h
  cases h
  have hreviewed := reviewed_of_produceRequest hrequest
  obtain ⟨rfl, hformed⟩ := wellFormed_of_reviewed hreviewed
  obtain ⟨hpbinding, hp⟩ := attested hprimary
  obtain ⟨hcbinding, hc⟩ := attested hcorroborating
  have hobserved : request.observedAt.milliseconds ≤ evaluatedAt.milliseconds := by
    have hchecks := failWhen_ok.mp hevaluated
    simp only [not_or, not_lt] at hchecks
    exact hchecks.1
  have hsame : primary.currentHead = corroborating.currentHead ∧
      primary.finalizedHead = corroborating.finalizedHead := by
    have hchecks := failWhen_ok.mp hagree
    simp only [not_or, Bool.not_eq_true', Bool.not_eq_false, sameAnchor_iff] at hchecks
    exact hchecks
  have hsettledAt := readClock_ok hsettled
  have hverifiedAt := readClock_ok hverified
  have hassessedAt := readClock_ok hassessed
  obtain ⟨hfound, _⟩ := currentPair_ok.1 hselected
  obtain ⟨hfound', _, hstart, hend⟩ := currentPair_ok.1 hcurrent
  obtain rfl := Option.some.inj (hfound.symm.trans hfound')
  have hevaluatedAt : evaluatedAt.milliseconds ≤ assessedAt.milliseconds := by omega
  have hcompleted := hp.assessed.2.trans hassessedAt.1
  refine ⟨rfl, {
    reviewed := hreviewed
    wellFormed := hformed
    selected := hfound
    primaryBinding := hpbinding ▸ bindingFor_ok hprimaryBinding
    corroboratingBinding := hcbinding ▸ bindingFor_ok hcorroboratingBinding
    currentHead := hsame.1
    finalizedHead := hsame.2
    currentNetwork := hp.currentNetwork
    finalizedNetwork := hp.finalizedNetwork
    nonRegressing := hp.nonRegressing
    finalizedNotAhead := hp.finalizedNotAhead
    observed := hobserved.trans hevaluatedAt
    beforeDeadline := hassessedAt.2.1
    beforeExpiry := hend
    approved := hstart
    currentAdvanced := ?_
    finalizedAdvanced := ?_ }⟩
  · rw [Evidence.currentHeadAdvancedAt, olderOf_milliseconds]
    exact (min_le_left _ _).trans (hp.advanced.1.trans hcompleted)
  · rw [Evidence.finalizedHeadAdvancedAt, olderOf_milliseconds]
    exact (min_le_left _ _).trans (hp.advanced.2.trans hcompleted)

/-- The assessment of a call prints its year in four digits. -/
theorem Collected.plain {e : Evidence} (h : Collected P e) : HasPlainYear e.assessedAt :=
  hasPlainYear_between e.request.observedAt e.request.deadlineAt h.observed h.beforeDeadline.le

end Collecting

end CryptoLending.MainnetPlatforms.ChainAnchorEvidence
