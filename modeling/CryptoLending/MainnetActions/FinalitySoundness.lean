import CryptoLending.Lib.Bytes
import CryptoLending.MainnetActions.FinalityProducer

namespace CryptoLending.MainnetActions.FinalitySoundness

open Lib Lib.JsValue Blockchain.LaunchNetwork LifecycleData FinalityPrerequisite
  FinalityAttestation FinalityProducer

section Readings

variable {isAddress : String → Bool} {record : Record} {capability : Reference} {p : Prerequisite}

theorem commonPrerequisite_ok {signal : Option Reference} {purpose : EvidencePurpose}
    {common : CommonPrerequisite}
    (h : commonPrerequisite isAddress record capability signal purpose = .ok common) :
    common.capability = capability := by
  iterate 3 obtain ⟨_, _, h⟩ := except_bind_ok.mp h
  rw [← except_pure_ok.mp h]

/-- A prerequisite is about the capability it was read for, and has the purpose asked for. -/
theorem reviewedPrerequisite_ok {purpose : EvidencePurpose} {value : Handed}
    (h : reviewedPrerequisite isAddress purpose capability value = .ok p) :
    p.capability = capability ∧ p.subject.purpose = purpose := by
  cases purpose with
  | reconciliationAdmission =>
    obtain ⟨record, _, h⟩ := except_bind_ok.mp h
    obtain ⟨common, hcommon, h⟩ := except_bind_ok.mp h
    iterate 3 obtain ⟨_, _, h⟩ := except_bind_ok.mp h
    rw [← except_pure_ok.mp h]
    exact ⟨commonPrerequisite_ok hcommon, rfl⟩
  | postFinalityReview =>
    obtain ⟨record, _, h⟩ := except_bind_ok.mp h
    obtain ⟨common, hcommon, h⟩ := except_bind_ok.mp h
    iterate 2 obtain ⟨_, _, h⟩ := except_bind_ok.mp h
    rw [← except_pure_ok.mp h]
    exact ⟨commonPrerequisite_ok hcommon, rfl⟩

/-- The transaction and the finalized block are those of the anchor and of the finalized head. A
slot does not name its block. -/
def AnchoredTo (p : Prerequisite) (transaction : Option ChainPointer) (finalized : ChainPointer) :
    Prop :=
  match p.chain.chainAnchor, p.chain.agreedFinalizedHead with
  | .evmBlock blockNumber blockHash, .evmBlock headNumber headHash =>
    p.facts.networkId = .eip155 ∧ (∀ t, transaction = some t → t = ⟨blockNumber, blockHash⟩) ∧
      finalized = ⟨headNumber, headHash⟩
  | .solanaSlot slot _, .solanaSlot _ headRoot =>
    p.facts.networkId = .solana ∧ (∀ t, transaction = some t → t.position = slot) ∧
      finalized.position = headRoot
  | _, _ => False

theorem anchoredTo_of_anchorFacts {transaction : Option ChainPointer} {finalized : ChainPointer}
    {bindTransaction : Bool} (hbind : transaction.isSome = true → bindTransaction = true)
    (h : anchorFacts p transaction finalized bindTransaction = true) :
    AnchoredTo p transaction finalized := by
  have hb : ∀ t, transaction = some t → bindTransaction = true :=
    fun t ht => hbind (ht ▸ rfl)
  rw [anchorFacts] at h
  rw [AnchoredTo]
  cases hnetwork : p.facts.networkId <;> cases hanchor : p.chain.chainAnchor <;>
    cases hhead : p.chain.agreedFinalizedHead <;> simp only [hnetwork, hanchor, hhead] at h ⊢ <;>
    try exact absurd h Bool.false_ne_true
  case eip155.evmBlock.evmBlock blockNumber blockHash headNumber headHash =>
    simp only [Bool.and_eq_true, Bool.or_eq_true, Bool.not_eq_true', beq_iff_eq] at h
    refine ⟨trivial, fun t ht => ?_, h.2⟩
    obtain hfalse | hsome := h.1
    · exact absurd ((hb t ht).symm.trans hfalse) Bool.false_ne_true.symm
    · exact Option.some.inj (ht.symm.trans hsome)
  case solana.solanaSlot.solanaSlot slot root headSlot headRoot =>
    simp only [Bool.and_eq_true, Bool.or_eq_true, Bool.not_eq_true', beq_iff_eq] at h
    refine ⟨trivial, fun t ht => ?_, h.2⟩
    obtain hfalse | hsome := h.1
    · exact absurd ((hb t ht).symm.trans hfalse) Bool.false_ne_true.symm
    · rw [ht] at hsome
      exact Option.some.inj hsome

/-- What was concluded, without the evidence for it. -/
inductive Verdict where
  | outcome (outcome : ReconciliationOutcome)
  | disposition (disposition : PostFinalityDisposition)

def verdict : Finding → Verdict
  | .reconciliation outcome _ _ => .outcome outcome
  | .postFinality disposition _ => .disposition disposition

/-- The conclusion rests on a finalized block. -/
def Verdict.isFinal : Verdict → Bool
  | .outcome o => isFinalizedOutcome o
  | .disposition d => d == .finalityReaffirmed || d == .deepReorgQuarantined

/-- What a reviewed attestation is known to say. -/
structure IsAttested (p : Prerequisite) (evaluatedAt completedAt : Int) (a : Attestation) :
    Prop where
  observed_ge : evaluatedAt ≤ a.observedAt.milliseconds
  observed_le : a.observedAt.milliseconds ≤ completedAt
  anchored : AnchoredTo p a.transaction a.finalized
  final : (verdict a.finding).isFinal = true →
    ∃ t, a.transaction = some t ∧ t.position.value ≤ a.finalized.position.value

variable {binding : SourceBinding} {evaluatedAt completedAt : Int}

theorem commonAttestation_times {common : CommonAttestation}
    (h : commonAttestation isAddress record capability binding p evaluatedAt completedAt =
      .ok common) :
    evaluatedAt ≤ common.observedAt.milliseconds ∧
      common.observedAt.milliseconds ≤ completedAt := by
  iterate 2 obtain ⟨_, _, h⟩ := except_bind_ok.mp h
  obtain ⟨observedAt, _, h⟩ := except_bind_ok.mp h
  obtain ⟨assessedAt, _, h⟩ := except_bind_ok.mp h
  iterate 5 obtain ⟨_, _, h⟩ := except_bind_ok.mp h
  obtain ⟨_, htimes, h⟩ := except_bind_ok.mp h
  iterate 4 obtain ⟨_, _, h⟩ := except_bind_ok.mp h
  rw [← except_pure_ok.mp h]
  have ht := failWhen_ok.mp htimes
  show evaluatedAt ≤ observedAt.milliseconds ∧ observedAt.milliseconds ≤ completedAt
  omega

theorem final_of_outcomeMismatch {networkId : MainnetLaunchNetworkId}
    {outcome : ReconciliationOutcome} {transaction : Option ChainPointer} {finalized : ChainPointer}
    {effect failure : Option String}
    (h : outcomeMismatch networkId outcome transaction finalized effect failure = false)
    (hfinal : isFinalizedOutcome outcome = true) :
    ∃ t, transaction = some t ∧ t.position.value ≤ finalized.position.value := by
  simp only [outcomeMismatch, Bool.or_eq_false_iff] at h
  obtain ⟨⟨⟨⟨⟨⟨⟨-, hsome⟩, -⟩, hposition⟩, -⟩, -⟩, -⟩, -⟩ := h
  cases transaction with
  | none =>
    cases outcome <;> first | exact absurd hfinal (by decide) | exact absurd hsome (by decide)
  | some t =>
    rw [hfinal, Bool.true_and, Option.any_some, decide_eq_false_iff_not] at hposition
    exact ⟨t, rfl, by omega⟩

theorem unknown_of_outcomeMismatch {networkId : MainnetLaunchNetworkId}
    {transaction : Option ChainPointer} {finalized : ChainPointer} {effect failure : Option String}
    (h : outcomeMismatch networkId .unknown transaction finalized effect failure = false) :
    transaction = none := by
  simp only [outcomeMismatch, Bool.or_eq_false_iff] at h
  obtain ⟨⟨⟨⟨⟨⟨⟨hnone, -⟩, -⟩, -⟩, -⟩, -⟩, -⟩, -⟩ := h
  simpa using hnone

/-- An attestation that passes its checks. -/
theorem attestation_ok {c : Capability} {a : Attestation}
    (h : attestation isAddress c binding p evaluatedAt completedAt = .ok a) :
    IsAttested p evaluatedAt completedAt a := by
  rw [attestation] at h
  cases hsubject : p.subject with
  | reconciliation observationId =>
    rw [hsubject] at h
    obtain ⟨record, _, h⟩ := except_bind_ok.mp h
    obtain ⟨common, hcommon, h⟩ := except_bind_ok.mp h
    obtain ⟨_, _, h⟩ := except_bind_ok.mp h
    obtain ⟨outcome, _, h⟩ := except_bind_ok.mp h
    iterate 2 obtain ⟨_, _, h⟩ := except_bind_ok.mp h
    obtain ⟨_, hmatch, h⟩ := except_bind_ok.mp h
    obtain ⟨_, hanchor, h⟩ := except_bind_ok.mp h
    obtain rfl := except_pure_ok.mp h
    have hmatch := Bool.eq_false_iff.mpr (failWhen_ok.mp hmatch)
    obtain ⟨hge, hle⟩ := commonAttestation_times hcommon
    refine ⟨hge, hle, anchoredTo_of_anchorFacts (fun hsome => ?_) (by
      simpa using failWhen_ok.mp hanchor), final_of_outcomeMismatch hmatch⟩
    cases outcome <;> simp only [hsome, Bool.and_true] <;> try rfl
    rw [unknown_of_outcomeMismatch hmatch] at hsome
    cases hsome
  | postFinality subject =>
    rw [hsubject] at h
    obtain ⟨record, _, h⟩ := except_bind_ok.mp h
    obtain ⟨common, hcommon, h⟩ := except_bind_ok.mp h
    obtain ⟨transaction, htransaction, h⟩ := except_bind_ok.mp h
    obtain ⟨disposition, _, h⟩ := except_bind_ok.mp h
    iterate 2 obtain ⟨_, _, h⟩ := except_bind_ok.mp h
    obtain ⟨_, hanchor, h⟩ := except_bind_ok.mp h
    obtain ⟨_, hfinality, h⟩ := except_bind_ok.mp h
    obtain rfl := except_pure_ok.mp h
    have hfinality := Bool.eq_false_iff.mpr (failWhen_ok.mp hfinality)
    obtain ⟨hge, hle⟩ := commonAttestation_times hcommon
    refine ⟨hge, hle, anchoredTo_of_anchorFacts (fun _ => rfl) (by
      simpa using failWhen_ok.mp hanchor), fun hfinal => ?_⟩
    refine ⟨transaction, orFail_ok.mp htransaction, ?_⟩
    have hfinal : (disposition == .finalityReaffirmed || disposition == .deepReorgQuarantined) =
      true := hfinal
    rw [finalityMismatch, hfinal, Bool.true_and, Bool.or_eq_false_iff,
      decide_eq_false_iff_not] at hfinality
    show transaction.position.value ≤ common.finalized.position.value
    omega

end Readings

section Calls

variable {C : Configuration} {s : State} {p : Prerequisite} {d : Production} {e : Evidence}

theorem publicRequest_ok {purpose : EvidencePurpose} {isAborted : Reference → Bool}
    {request : ProduceRequest} {capability signal : Reference}
    (h : publicRequest purpose isAborted request = .ok (capability, signal)) :
    request.prerequisiteCapability = some capability ∧ request.signal = some signal := by
  iterate 2 obtain ⟨_, _, h⟩ := except_bind_ok.mp h
  obtain ⟨capability', hcapability, h⟩ := except_bind_ok.mp h
  obtain ⟨signal', hsignal, h⟩ := except_bind_ok.mp h
  iterate 3 obtain ⟨_, _, h⟩ := except_bind_ok.mp h
  obtain ⟨rfl, rfl⟩ := Prod.mk.inj (except_pure_ok.mp h)
  exact ⟨orFail_ok.mp hcapability, orFail_ok.mp hsignal⟩

/-- The source that a prerequisite names for a role. -/
structure IsBindingFor (p : Prerequisite) (role : SourceRole) (b : SourceBinding) : Prop where
  networkId : b.networkId = p.facts.networkId
  sourceAuthorityId : b.sourceAuthorityId = p.facts.sourceAuthorityId
  sourceAuthorityFingerprintSha256 :
    b.sourceAuthorityFingerprintSha256 = p.facts.sourceAuthorityFingerprintSha256
  role_eq : b.role = role
  identity : b.identity = (p.expected role).identity

theorem bindingFor_ok {bindings : List SourceBinding} {role : SourceRole} {b : SourceBinding}
    (h : bindingFor bindings p role = .ok b) : b ∈ bindings ∧ IsBindingFor p role b := by
  have hfind := orFail_ok.mp h
  refine ⟨List.mem_of_find?_eq_some hfind, ?_⟩
  have hb := List.find?_some hfind
  simp only [Bool.and_eq_true, beq_iff_eq] at hb
  obtain ⟨⟨⟨⟨hnetwork, hid⟩, hfingerprint⟩, hrole⟩, hidentity⟩ := hb
  exact ⟨hnetwork, hid, hfingerprint, hrole, hidentity⟩

/-- How a call began: one prerequisite for its request, and two different sources. -/
structure IsStarted (C : Configuration) (d : Production) (answer : Handed) : Prop where
  capability : d.request.prerequisiteCapability = some d.prerequisite.capability
  signal : d.request.signal = some d.prerequisite.signal
  prerequisite : reviewedPrerequisite C.isAddress d.prerequisite.subject.purpose
    d.prerequisite.capability answer = .ok d.prerequisite
  bound : ∀ role, d.binding role ∈ C.bindings ∧ IsBindingFor d.prerequisite role (d.binding role)
  receiver_ne : (d.binding .primary).receiver ≠ (d.binding .corroborating).receiver
  sourceFamilyId_ne : (d.binding .primary).identity.sourceFamilyId ≠
    (d.binding .corroborating).identity.sourceFamilyId
  sourceId_ne : (d.binding .primary).identity.sourceId ≠
    (d.binding .corroborating).identity.sourceId

theorem ensurePrerequisiteCurrent_ok {signal : Reference} {isAborted : Reference → Bool}
    {evaluatedAt : Int} {u : Unit}
    (h : ensurePrerequisiteCurrent p signal isAborted evaluatedAt = .ok u) : p.signal = signal := by
  have h := failWhen_ok.mp h
  rw [not_or, not_not] at h
  exact h.1

theorem produce_ok {purpose : EvidencePurpose} {request : ProduceRequest} {answer : Option Handed}
    {clock : Option Int} (h : produce C s purpose request answer clock = .ok d) :
    d.prerequisite.subject.purpose = purpose ∧ d.request = request ∧ clock = some d.evaluatedAt ∧
      ∃ value, answer = some value ∧ IsStarted C d value := by
  obtain ⟨⟨capability, signal⟩, hpublic, h⟩ := except_bind_ok.mp h
  obtain ⟨value, hvalue, h⟩ := except_bind_ok.mp h
  obtain ⟨p, hp, h⟩ := except_bind_ok.mp h
  obtain ⟨evaluatedAt, hevaluatedAt, h⟩ := except_bind_ok.mp h
  obtain ⟨_, hcurrent, h⟩ := except_bind_ok.mp h
  obtain ⟨primary, hprimary, h⟩ := except_bind_ok.mp h
  obtain ⟨corroborating, hcorroborating, h⟩ := except_bind_ok.mp h
  obtain ⟨_, hdifferent, h⟩ := except_bind_ok.mp h
  obtain rfl := except_pure_ok.mp h
  obtain ⟨hcapability, hpurpose⟩ := reviewedPrerequisite_ok hp
  obtain ⟨hrequest, hsignal⟩ := publicRequest_ok hpublic
  have hdifferent := failWhen_ok.mp hdifferent
  simp only [not_or] at hdifferent
  refine ⟨hpurpose, rfl, orFail_ok.mp hevaluatedAt, value, orFail_ok.mp hvalue, ?_⟩
  exact {
    capability := by rw [hcapability]; exact hrequest
    signal := by rw [ensurePrerequisiteCurrent_ok hcurrent]; exact hsignal
    prerequisite := by rw [hcapability, hpurpose]; exact hp
    bound := fun role => by
      cases role with
      | primary => exact bindingFor_ok hprimary
      | corroborating => exact bindingFor_ok hcorroborating
    receiver_ne := hdifferent.1
    sourceFamilyId_ne := hdifferent.2.1
    sourceId_ne := hdifferent.2.2 }

/-- What the two sources returned: different objects that each stands by, and attestations that
say the same. -/
structure IsCollected (C : Configuration) (d : Production) (e : Evidence)
    (results : SourceRole → Capability) (verify : Verifier) : Prop where
  authentic : ∀ role, d.isAuthentic verify role (results role) = true
  reference_ne : (results .primary).reference ≠ (results .corroborating).reference
  attested : ∀ role, attestation C.isAddress (results role) (d.binding role) d.prerequisite
    d.evaluatedAt e.completedAt = .ok (e.attestation role)
  sameFacts : sameFacts (e.attestation .primary) (e.attestation .corroborating) = true
  attestationSha256_ne : (e.attestation .primary).attestationSha256 ≠
    (e.attestation .corroborating).attestationSha256

def capabilityOf (primary corroborating : Capability) : SourceRole → Capability
  | .primary => primary
  | .corroborating => corroborating

theorem collect_ok {results : SourceRole → Option Capability} {verify : Verifier}
    {clock : Option Int} (h : collect C s d results verify clock = .ok e) :
    clock = some e.completedAt ∧ ∃ capabilities, results = (fun role => some (capabilities role)) ∧
      IsCollected C d e capabilities verify := by
  obtain ⟨completedAt, hcompletedAt, h⟩ := except_bind_ok.mp h
  iterate 2 obtain ⟨_, _, h⟩ := except_bind_ok.mp h
  obtain ⟨primaryResult, hprimaryResult, h⟩ := except_bind_ok.mp h
  obtain ⟨corroboratingResult, hcorroboratingResult, h⟩ := except_bind_ok.mp h
  obtain ⟨_, hauthentic, h⟩ := except_bind_ok.mp h
  obtain ⟨_, hreference, h⟩ := except_bind_ok.mp h
  obtain ⟨primary, hprimary, h⟩ := except_bind_ok.mp h
  obtain ⟨corroborating, hcorroborating, h⟩ := except_bind_ok.mp h
  obtain ⟨_, hsame, h⟩ := except_bind_ok.mp h
  iterate 2 obtain ⟨_, _, h⟩ := except_bind_ok.mp h
  obtain rfl := except_pure_ok.mp h
  have hauthentic := failWhen_ok.mp hauthentic
  simp only [Bool.or_eq_true, Bool.not_eq_true', not_or, Bool.not_eq_false] at hauthentic
  have hsame := failWhen_ok.mp hsame
  simp only [Bool.not_eq_true', not_or, Bool.not_eq_false] at hsame
  refine ⟨orFail_ok.mp hcompletedAt, capabilityOf primaryResult corroboratingResult,
    funext fun role => ?_, ?_⟩
  · cases role with
    | primary => exact orFail_ok.mp hprimaryResult
    | corroborating => exact orFail_ok.mp hcorroboratingResult
  · exact {
      authentic := fun role => by
        cases role with
        | primary => exact hauthentic.1
        | corroborating => exact hauthentic.2
      reference_ne := failWhen_ok.mp hreference
      attested := fun role => by
        cases role with
        | primary => exact hprimary
        | corroborating => exact hcorroborating
      sameFacts := hsame.1
      attestationSha256_ne := hsame.2 }

/-- What is kept about a candidate when it is issued. -/
structure IsIssued (C : Configuration) (d : Production) (e : Evidence) (i : Issued) : Prop where
  candidate : candidateOf C d.prerequisite e = .ok i.candidate
  completedAt_le : e.completedAt ≤ i.issuedAt
  purpose : i.purpose = d.prerequisite.subject.purpose
  request : i.request = d.request
  prerequisiteCapability : i.prerequisiteCapability = d.prerequisite.capability
  networkId : i.networkId = d.prerequisite.facts.networkId
  signal : i.signal = d.prerequisite.signal
  deadlineAt : i.deadlineAt = d.prerequisite.deadlineAt.milliseconds
  authorityExpiresAt : i.authorityExpiresAt = authorityExpiresAt d.prerequisite
  evidenceObservedAt : i.evidenceObservedAt = e.freshnessFloorAt.milliseconds

theorem issue_ok {clock : Option Int} {i : Issued} (h : issue C s d e clock = .ok i) :
    clock = some i.issuedAt ∧ IsIssued C d e i := by
  obtain ⟨candidate, hcandidate, h⟩ := except_bind_ok.mp h
  obtain ⟨issuedAt, hissuedAt, h⟩ := except_bind_ok.mp h
  iterate 2 obtain ⟨_, _, h⟩ := except_bind_ok.mp h
  obtain ⟨_, hcompleted, h⟩ := except_bind_ok.mp h
  obtain rfl := except_pure_ok.mp h
  exact ⟨orFail_ok.mp hissuedAt, hcandidate, not_lt.mp (failWhen_ok.mp hcompleted), rfl, rfl, rfl,
    rfl, rfl, rfl, rfl, rfl⟩

theorem freshnessFloorAt_le (role : SourceRole) :
    e.freshnessFloorAt.milliseconds ≤ (e.attestation role).observedAt.milliseconds := by
  rw [Evidence.freshnessFloorAt]
  split
  · cases role with
    | primary => exact le_refl _
    | corroborating => assumption
  · cases role with
    | primary => omega
    | corroborating => exact le_refl _

end Calls

section Runs

variable {C : Configuration} {s s' : State} {past events : List Event}

/-- The call that a candidate came from, and what the outside did in it. -/
structure Origin where
  call : Nat
  production : Production
  answer : Handed
  results : SourceRole → Capability
  verify : Verifier
  evidence : Evidence

/-- The beginning of a call is in the past. -/
structure BeganIn (C : Configuration) (past : List Event) (call : Nat) (d : Production)
    (answer : Handed) : Prop where
  event : Event.produce call d.prerequisite.subject.purpose d.request (some answer)
    (some d.evaluatedAt) ∈ past
  started : IsStarted C d answer

/-- The collection of the evidence of a call is in the past. -/
structure CollectedIn (C : Configuration) (past : List Event) (o : Origin) : Prop where
  began : BeganIn C past o.call o.production o.answer
  event : Event.settle o.call (fun role => some (o.results role)) o.verify
    (some o.evidence.completedAt) ∈ past
  collected : IsCollected C o.production o.evidence o.results o.verify

def IsKnownCall (C : Configuration) (past : List Event) (call : Nat) : Call → Prop
  | .reading d => ∃ answer, BeganIn C past call d answer
  | .collected d e => ∃ o : Origin, o.call = call ∧ o.production = d ∧ o.evidence = e ∧
      CollectedIn C past o

/-- A candidate is the result of a call in the past. -/
structure IssuedIn (C : Configuration) (past : List Event) (i : Issued) (o : Origin) : Prop where
  collected : CollectedIn C past o
  event : Event.issue o.call (some i.issuedAt) ∈ past
  issued : IsIssued C o.production o.evidence i

/-- Every call and every candidate has its past. -/
structure IsExplained (C : Configuration) (past : List Event) (s : State) : Prop where
  calls : ∀ n c, s.calls n = some c → IsKnownCall C past n c
  issued : ∀ i ∈ s.issued, ∃ o, IssuedIn C past i o

theorem BeganIn.mono (h : past ⊆ events) {call : Nat} {d : Production} {answer : Handed}
    (hd : BeganIn C past call d answer) : BeganIn C events call d answer :=
  ⟨h hd.event, hd.started⟩

theorem CollectedIn.mono (h : past ⊆ events) {o : Origin} (ho : CollectedIn C past o) :
    CollectedIn C events o :=
  ⟨ho.began.mono h, h ho.event, ho.collected⟩

theorem IsKnownCall.mono (h : past ⊆ events) {n : Nat} {c : Call} (hc : IsKnownCall C past n c) :
    IsKnownCall C events n c := by
  cases c with
  | reading d =>
    obtain ⟨answer, hd⟩ := hc
    exact ⟨answer, hd.mono h⟩
  | collected d e =>
    obtain ⟨o, hcall, hd, he, ho⟩ := hc
    exact ⟨o, hcall, hd, he, ho.mono h⟩

theorem IssuedIn.mono (h : past ⊆ events) {i : Issued} {o : Origin} (hi : IssuedIn C past i o) :
    IssuedIn C events i o :=
  ⟨hi.collected.mono h, h hi.event, hi.issued⟩

theorem IsExplained.mono (h : past ⊆ events) (hs : IsExplained C past s) :
    IsExplained C events s where
  calls n c hc := (hs.calls n c hc).mono h
  issued i hi := by
    obtain ⟨o, ho⟩ := hs.issued i hi
    exact ⟨o, ho.mono h⟩

/-- A call may get any state that its past explains. -/
theorem IsExplained.withCall (hs : IsExplained C past s) {call : Nat} {state : Option Call}
    (h : ∀ c, state = some c → IsKnownCall C past call c) :
    IsExplained C past (s.withCall call state) where
  calls n c hc := by
    by_cases hn : n = call
    · subst hn
      simp only [State.withCall, if_pos] at hc
      exact h c hc
    · simp only [State.withCall, if_neg hn] at hc
      exact hs.calls n c hc
  issued := hs.issued

theorem step_explained {e : Event} (hs : IsExplained C past s) (h : step C s e = some s') :
    IsExplained C (past ++ [e]) s' := by
  have hmono : IsExplained C (past ++ [e]) s := hs.mono (List.subset_append_left _ _)
  have hlast : e ∈ past ++ [e] := List.mem_append_right _ (List.mem_singleton_self e)
  cases e with
  | abort signal =>
    obtain rfl := Option.some.inj h
    exact ⟨hmono.calls, hmono.issued⟩
  | produce call purpose request answer clock =>
    simp only [step, Option.ite_none_right_eq_some] at h
    obtain ⟨-, h⟩ := h
    obtain rfl := Option.some.inj h
    have hnext : IsExplained C (past ++ [.produce call purpose request answer clock])
        { s with started := s.started + 1 } := ⟨hmono.calls, hmono.issued⟩
    refine hnext.withCall fun c hc => ?_
    obtain ⟨d, hd, rfl⟩ := Option.map_eq_some_iff.mp hc
    obtain ⟨rfl, rfl, rfl, value, rfl, hstarted⟩ := produce_ok (toOption_eq_some.mp hd)
    exact ⟨value, hlast, hstarted⟩
  | settle call results verify clock =>
    cases hcall : s.calls call with
    | none => simp [step, hcall] at h
    | some c =>
      cases c with
      | collected d e => simp [step, hcall] at h
      | reading d =>
        simp only [step, hcall, Option.some.injEq] at h
        obtain rfl := h
        refine hmono.withCall fun c hc => ?_
        obtain ⟨e, he, rfl⟩ := Option.map_eq_some_iff.mp hc
        obtain ⟨rfl, capabilities, rfl, hcollected⟩ := collect_ok (toOption_eq_some.mp he)
        obtain ⟨answer, hd⟩ := hmono.calls call _ hcall
        exact ⟨⟨call, d, answer, capabilities, verify, e⟩, rfl, rfl, rfl, hd, hlast, hcollected⟩
  | giveUp call =>
    obtain rfl := Option.some.inj h
    exact hmono.withCall fun c hc => by cases hc
  | issue call clock =>
    cases hcall : s.calls call with
    | none => simp [step, hcall] at h
    | some c =>
      cases c with
      | reading d => simp [step, hcall] at h
      | collected d e =>
        simp only [step, hcall, Option.some.injEq] at h
        obtain rfl := h
        have hover : IsExplained C (past ++ [.issue call clock]) (s.withCall call none) :=
          hmono.withCall fun c hc => by cases hc
        refine ⟨hover.calls, fun i hi => ?_⟩
        obtain hi | hi := List.mem_append.mp hi
        · exact hmono.issued i hi
        · obtain ⟨rfl, hissued⟩ := issue_ok (toOption_eq_some.mp (Option.mem_toList.mp hi))
          obtain ⟨o, rfl, rfl, rfl, ho⟩ := hmono.calls call _ hcall
          exact ⟨o, ho, hlast, hissued⟩

theorem run_explained (h : runEvents C events = some s) : IsExplained C events s := by
  refine @Events.run_with_past _ _ _ _ _ _ (IsExplained C) ?_ ?_ h
  · exact ⟨fun n c hc => (by cases hc), fun i hi => (by cases hi)⟩
  · intro past s e s' hs hstep
    exact step_explained hs hstep

theorem verdict_eq_of_sameFinding {f g : Finding} (h : sameFinding f g = true) :
    verdict f = verdict g := by
  cases f <;> cases g <;> simp_all [sameFinding, verdict]

/-- What backs a candidate that is given back at a time: one call for the same request and purpose,
in which two different sources each returned an object that it stands by, and which is still
current. -/
structure IsBacked (C : Configuration) (events : List Event) (s : State)
    (purpose : EvidencePurpose) (request : ProduceRequest) (t : Int) (candidate : Candidate)
    (o : Origin) : Prop where
  issued : ∃ issuedAt ≤ t, Event.issue o.call (some issuedAt) ∈ events
  collected : CollectedIn C events o
  purpose : o.production.prerequisite.subject.purpose = purpose
  reference : request.reference = o.production.request.reference
  prerequisiteCapability : request.prerequisiteCapability = o.production.request.prerequisiteCapability
  signal : request.signal = o.production.request.signal
  verdict : verdict (o.evidence.attestation .primary).finding =
    verdict (o.evidence.attestation .corroborating).finding
  transaction : (o.evidence.attestation .primary).transaction =
    (o.evidence.attestation .corroborating).transaction
  finalized : (o.evidence.attestation .primary).finalized =
    (o.evidence.attestation .corroborating).finalized
  anchored : ∀ role, AnchoredTo o.production.prerequisite (o.evidence.attestation role).transaction
    (o.evidence.attestation role).finalized
  evaluated : ∀ role,
    o.production.evaluatedAt ≤ (o.evidence.attestation role).observedAt.milliseconds
  observed : ∀ role, (o.evidence.attestation role).observedAt.milliseconds ≤ t
  fresh : ∀ role, t < (o.evidence.attestation role).observedAt.milliseconds +
    evidenceLifetime o.production.prerequisite.facts.networkId
  deadline : t < o.production.prerequisite.deadlineAt.milliseconds
  chainAnchorEvidence : t < o.production.prerequisite.chainAnchorEvidenceExpiresAt.milliseconds
  sourceAuthority : t < o.production.prerequisite.sourceAuthorityExpiresAt.milliseconds
  deploymentAuthority : t < o.production.prerequisite.deploymentAuthorityExpiresAt.milliseconds
  not_aborted : s.isAborted o.production.prerequisite.signal = false
  final : ∀ role, (FinalitySoundness.verdict (o.evidence.attestation role).finding).isFinal = true →
    ∃ p, (o.evidence.attestation role).transaction = some p ∧
      p.position.value ≤ (o.evidence.attestation role).finalized.position.value
  candidate : candidateOf C o.production.prerequisite o.evidence = .ok candidate

/-- In every run, a candidate is given back only while the evidence of its call holds. -/
theorem review_backed {purpose : EvidencePurpose} {n : Nat} {request : ProduceRequest}
    {clock : Option Int} {candidate : Candidate} (hrun : runEvents C events = some s)
    (h : review s purpose n request clock = .ok candidate) :
    ∃ t o, clock = some t ∧ IsBacked C events s purpose request t candidate o := by
  obtain ⟨i, hi, h⟩ := except_bind_ok.mp h
  obtain ⟨_, hrequest, h⟩ := except_bind_ok.mp h
  obtain ⟨t, ht, h⟩ := except_bind_ok.mp h
  obtain ⟨_, hcurrent, h⟩ := except_bind_ok.mp h
  obtain ⟨_, hfresh, h⟩ := except_bind_ok.mp h
  obtain rfl := except_pure_ok.mp h
  obtain ⟨hi, hpurpose⟩ := Option.filter_eq_some_iff.mp (orFail_ok.mp hi)
  obtain ⟨o, ho⟩ := (run_explained hrun).issued i (List.mem_of_getElem? hi)
  have hissued := ho.issued
  have hstarted := ho.collected.began.started
  have hcollected := ho.collected.collected
  have hattested := fun role => attestation_ok (hcollected.attested role)
  have hrequest := failWhen_ok.mp hrequest
  simp only [ne_eq, not_or, not_not] at hrequest
  obtain ⟨hreference, hcapability, hsignal⟩ := hrequest
  have hcurrent := failWhen_ok.mp hcurrent
  simp only [not_or, not_lt, not_le, Bool.not_eq_true] at hcurrent
  obtain ⟨hissuedAt, hdeadline, hauthority, haborted⟩ := hcurrent
  have hfresh := failWhen_ok.mp hfresh
  simp only [not_or, not_lt, not_le] at hfresh
  rw [hissued.deadlineAt] at hdeadline
  rw [hissued.authorityExpiresAt, authorityExpiresAt, lt_min_iff, lt_min_iff] at hauthority
  rw [hissued.signal] at hsignal haborted
  rw [hissued.evidenceObservedAt, hissued.networkId] at hfresh
  have hsame := hcollected.sameFacts
  simp only [sameFacts, Bool.and_eq_true, beq_iff_eq] at hsame
  obtain ⟨⟨⟨-, htransaction⟩, hfinalized⟩, hfinding⟩ := hsame
  exact ⟨t, o, orFail_ok.mp ht, {
    issued := ⟨i.issuedAt, hissuedAt, ho.event⟩
    collected := ho.collected
    purpose := by rw [← hissued.purpose]; exact beq_iff_eq.mp hpurpose
    reference := by rw [← hissued.request]; exact hreference.symm
    prerequisiteCapability := by
      rw [hstarted.capability, ← hissued.prerequisiteCapability]
      exact hcapability
    signal := by rw [hstarted.signal]; exact hsignal
    verdict := verdict_eq_of_sameFinding hfinding
    transaction := htransaction
    finalized := hfinalized
    anchored := fun role => (hattested role).anchored
    evaluated := fun role => (hattested role).observed_ge
    observed := fun role => by
      have hobserved := (hattested role).observed_le
      have hcompleted := hissued.completedAt_le
      omega
    fresh := fun role => by
      have hfloor := @freshnessFloorAt_le o.evidence role
      omega
    deadline := hdeadline
    chainAnchorEvidence := hauthority.1
    sourceAuthority := hauthority.2.1
    deploymentAuthority := hauthority.2.2
    not_aborted := haborted
    final := fun role => (hattested role).final
    candidate := hissued.candidate }⟩

end Runs

section Sample

def sampleDigest (c : Char) : Value := .string (String.ofList (List.replicate 64 c))

def sampleAnchor (blockNumber blockHash : String) : Value :=
  ofFields [("kind", .string "EVM_BLOCK"), ("blockNumber", .string blockNumber),
    ("blockHash", .string blockHash)]

/-- The fields that the records about one transaction share. -/
def sampleFacts : List (String × Value) :=
  [("purpose", .string "RECONCILIATION_ADMISSION"), ("mayAuthorizeFinancialAction", .boolean false),
    ("mayPersist", .boolean false), ("networkId", .string "eip155:1"),
    ("accountId", .string "11111111-1111-4111-8111-111111111111"),
    ("intentId", .string "22222222-2222-4222-8222-222222222222"),
    ("intentRecordFingerprintSha256", sampleDigest '1'),
    ("walletRegistrationId", .string "33333333-3333-4333-8333-333333333333"),
    ("walletAddress", .string "0x1111111111111111111111111111111111111111"),
    ("lifecycleRevision", .string "2"), ("lifecycleSnapshotSha256", sampleDigest '2'),
    ("transactionId", .string ("0x" ++ String.ofList (List.replicate 64 '3'))),
    ("walletSignedPayloadSha256", sampleDigest '4'),
    ("walletSignatureEvidenceSha256", sampleDigest '5'),
    ("chainAnchorEvidenceFingerprintSha256", sampleDigest '6'),
    ("sourceAuthorityId", .string "44444444-4444-4444-8444-444444444444"),
    ("sourceAuthorityFingerprintSha256", sampleDigest '7'),
    ("sourcePairApprovalId", .string "pair-approval"),
    ("sourcePairRegistryFingerprintSha256", sampleDigest '8'),
    ("deploymentAuthorityId", .string "55555555-5555-4555-8555-555555555555"),
    ("deploymentAuthorityFingerprintSha256", sampleDigest '9'), ("providerId", .string "aave"),
    ("protocolId", .string "aave-v3"),
    ("marketId", .string "0x2222222222222222222222222222222222222222"),
    ("assetRegistryVersion", .integer 1),
    ("assetRegistryFingerprintSha256",
      .string "5058b141479f114c1e5f87ed8798fbb7a7ffcce7b502aa7e0794dc53ca1f767d"),
    ("assetSymbol", .string "USDC"),
    ("assetIdentity", .string "0xa0b86991c6218b36c1d19d4a2e9eb0ce3606eb48"),
    ("assetDecimals", .integer 6), ("action", .string "SUPPLY"), ("amountAtomic", .string "1000000"),
    ("correlationId", .string "66666666-6666-4666-8666-666666666666"),
    ("observationId", .string "77777777-7777-4777-8777-777777777777")]

/-- The record with the given keys and the fields of a table. -/
def recordOf (keys : List String) (table : Record) : Value :=
  ofFields (keys.map fun key => (key, table.get key))

def samplePrerequisiteFields : List (String × Value) :=
  [("prerequisiteVersion", .integer 1),
    ("use", .string EvidencePurpose.reconciliationAdmission.prerequisiteUse),
    ("lifecycleStage", .string "WALLET_SIGNED_SUBMISSION_BOUND"),
    ("primarySourceFamilyId", .string "family-a"), ("primarySourceId", .string "source-a"),
    ("primarySourceKind", .string "RPC"), ("corroboratingSourceFamilyId", .string "family-b"),
    ("corroboratingSourceId", .string "source-b"), ("corroboratingSourceKind", .string "INDEXER"),
    ("primaryDeploymentManifestFingerprintSha256", sampleDigest 'a'),
    ("primaryObservedIdentityFingerprintSha256", sampleDigest 'b'),
    ("corroboratingDeploymentManifestFingerprintSha256", sampleDigest 'c'),
    ("corroboratingObservedIdentityFingerprintSha256", sampleDigest 'd'),
    ("chainAnchorEvidenceExpiresAt", .string "2026-07-20T00:01:00.000Z"),
    ("sourceAuthorityExpiresAt", .string "2026-07-21T00:00:00.000Z"),
    ("deploymentAuthorityExpiresAt", .string "2026-07-21T00:00:00.000Z"),
    ("verifiedAt", .string "2026-07-20T00:00:00.000Z"),
    ("deadlineAt", .string "2026-07-20T00:00:20.000Z"), ("signal", .other)] ++ sampleFacts

/-- Where the chain is: the transaction is in the head. -/
def sampleChain (blockNumber blockHash : String) : List (String × Value) :=
  [("chainAnchor", sampleAnchor blockNumber blockHash),
    ("agreedFinalizedHead", sampleAnchor blockNumber blockHash)]

def samplePrerequisite (blockNumber blockHash : String) : Handed where
  contents := recordOf reconciliationPrerequisiteKeys
    (sampleChain blockNumber blockHash ++ samplePrerequisiteFields)
  signal := some 1

/-- The role's fields of an attestation. -/
def sampleSource : SourceRole → List (String × Value)
  | .primary =>
    [("sourceRole", .string "PRIMARY"), ("sourceFamilyId", .string "family-a"),
      ("sourceId", .string "source-a"), ("sourceKind", .string "RPC"),
      ("deploymentManifestFingerprintSha256", sampleDigest 'a'),
      ("observedDeploymentIdentityFingerprintSha256", sampleDigest 'b'),
      ("attestationSha256", sampleDigest 'e')]
  | .corroborating =>
    [("sourceRole", .string "CORROBORATING"), ("sourceFamilyId", .string "family-b"),
      ("sourceId", .string "source-b"), ("sourceKind", .string "INDEXER"),
      ("deploymentManifestFingerprintSha256", sampleDigest 'c'),
      ("observedDeploymentIdentityFingerprintSha256", sampleDigest 'd'),
      ("attestationSha256", sampleDigest 'f')]

def sampleAttestationFields (role : SourceRole) : List (String × Value) :=
  [("sourceVersion", .integer 1),
    ("use", .string
      "DORMANT_MAINNET_FINANCIAL_ACTION_FINALITY_EVIDENCE_SOURCE_ATTESTATION_ONLY"),
    ("outcome", .string "REORGED_OUT"), ("transactionEvidenceSha256", sampleDigest 'a'),
    ("effectEvidenceSha256", .null), ("failureEvidenceSha256", .null),
    ("observedAt", .string "2026-07-20T00:00:01.000Z"),
    ("assessedAt", .string "2026-07-20T00:00:02.000Z")] ++ sampleSource role ++ sampleFacts

/-- The positions and blocks of an attestation: the transaction is in the finalized block. -/
def samplePositions (blockNumber blockHash : String) : List (String × Value) :=
  [("transactionPosition", .string blockNumber), ("transactionBlockId", .string blockHash),
    ("finalizedPosition", .string blockNumber), ("finalizedBlockId", .string blockHash)]

/-- An attestation that a transaction was reorged out although its own block is the finalized
one. -/
def sampleCapability (blockNumber blockHash : String) (role : SourceRole) : Capability where
  reference := match role with
    | .primary => 10
    | .corroborating => 11
  contents := recordOf reconciliationAttestationKeys
    (samplePositions blockNumber blockHash ++ sampleChain blockNumber blockHash ++
      sampleAttestationFields role)

def sampleBinding (role : SourceRole) : SourceBinding where
  networkId := .eip155
  sourceAuthorityId := "44444444-4444-4444-8444-444444444444"
  sourceAuthorityFingerprintSha256 := String.ofList (List.replicate 64 '7')
  role
  identity := match role with
    | .primary => ⟨"family-a", "source-a", .rpc⟩
    | .corroborating => ⟨"family-b", "source-b", .indexer⟩
  receiver := match role with
    | .primary => 20
    | .corroborating => 21

def sampleRequest : ProduceRequest where
  reference := 2
  contents := recordOf publicRequestKeys
    [("producerVersion", .integer 1),
      ("use", .string (EvidencePurpose.produceUse .reconciliationAdmission)),
      ("purpose", .string "RECONCILIATION_ADMISSION"), ("mayAuthorizeFinancialAction", .boolean false),
      ("mayPersist", .boolean false), ("prerequisiteCapability", .other),
      ("prerequisiteRequest", .other), ("signal", .other)]
  prerequisiteCapability := some 3
  prerequisiteRequest := {
    contents := recordOf prerequisiteReviewRequestKeys
      [("prerequisiteVersion", .integer 1),
        ("use", .string (EvidencePurpose.prerequisiteReviewUse .reconciliationAdmission)),
        ("purpose", .string "RECONCILIATION_ADMISSION"),
        ("mayAuthorizeFinancialAction", .boolean false), ("mayPersist", .boolean false),
        ("signal", .other)]
    signal := some 1 }
  signal := some 1

def sampleConfiguration : Configuration where
  isAddress := fun text => text == "0x1111111111111111111111111111111111111111"
  fingerprint := fun _ _ => String.ofList (List.replicate 64 'f')
  bindings := [sampleBinding .primary, sampleBinding .corroborating]

def sampleEvaluatedAt : Int := 1784505600500

def sampleCompletedAt : Int := 1784505603000

/-- A call that is answered at once. -/
def sampleEvents (blockNumber blockHash : String) : List Event :=
  [.produce 0 .reconciliationAdmission sampleRequest (some (samplePrerequisite blockNumber blockHash))
      (some sampleEvaluatedAt),
    .settle 0 (fun role => some (sampleCapability blockNumber blockHash role)) (fun _ _ _ => true)
      (some sampleCompletedAt),
    .issue 0 (some sampleCompletedAt)]

/-- What a review after some events gives back. -/
def reviewAfter (C : Configuration) (events : List Event) (purpose : EvidencePurpose) (n : Nat)
    (request : ProduceRequest) (clock : Option Int) : Option (State × Candidate) :=
  (runEvents C events).bind fun s =>
    ((review s purpose n request clock).toOption).map fun candidate => (s, candidate)

theorem reviewAfter_eq_some {C : Configuration} {events : List Event} {purpose : EvidencePurpose}
    {n : Nat} {request : ProduceRequest} {clock : Option Int} {s : State} {candidate : Candidate} :
    reviewAfter C events purpose n request clock = some (s, candidate) ↔
      runEvents C events = some s ∧ review s purpose n request clock = .ok candidate := by
  simp only [reviewAfter, Option.bind_eq_some_iff, Option.map_eq_some_iff, toOption_eq_some,
    Prod.mk.injEq]
  constructor
  · rintro ⟨_, hrun, _, hreview, rfl, rfl⟩
    exact ⟨hrun, hreview⟩
  · rintro ⟨hrun, hreview⟩
    exact ⟨s, hrun, candidate, hreview, rfl, rfl⟩

theorem sampleReview_backed : ∃ s candidate t o,
    some sampleCompletedAt = some t ∧ IsBacked sampleConfiguration
      (sampleEvents "100" ("0x" ++ String.ofList (List.replicate 64 'a'))) s
      .reconciliationAdmission sampleRequest t candidate o := by
  have hreview : (reviewAfter sampleConfiguration
      (sampleEvents "100" ("0x" ++ String.ofList (List.replicate 64 'a')))
      .reconciliationAdmission 0 sampleRequest (some sampleCompletedAt)).isSome = true := by
    -- The kernel reads a text faster from its bytes.
    delta reviewAfter runEvents FinalityProducer.step produce reviewedPrerequisite
      reconciliationPrerequisite commonPrerequisite prerequisiteTerms sharedFacts expectedSource
      sourceIdentity chainFacts anchor collect attestation reconciliationAttestation
      commonAttestation chainIdentity Lifecycle.evmHash market atomicAmount Intent.digest Intent.uuid
    simp only [Intent.textOf, Bytes.toList_eq_characters]
    decide +kernel
  obtain ⟨⟨s, candidate⟩, h⟩ := Option.isSome_iff_exists.mp hreview
  obtain ⟨hrun, hreview⟩ := reviewAfter_eq_some.1 h
  obtain ⟨t, o, ht, ho⟩ := review_backed hrun hreview
  exact ⟨s, candidate, t, o, ht, ho⟩

end Sample

end CryptoLending.MainnetActions.FinalitySoundness
