import CryptoLending.MainnetPlatforms.ChainAnchorHistory

namespace CryptoLending.MainnetPlatforms.FinalityVerdicts

open Lib Lib.JsObject Blockchain.LaunchNetwork ChainAnchorData ChainAnchorFinalizer
open ChainAnchorProducer (Configuration Evidence)
open ChainAnchorGuarantee ChainAnchorHistory

section Verdicts

/-- A finalized head that covers an anchor: above it or equal to it, for Solana with the root at
its slot. -/
def Covers : Anchor → Anchor → Prop
  | .evmBlock number hash, .evmBlock finalizedNumber finalizedHash =>
    valueOf number < valueOf finalizedNumber ∨
      valueOf number = valueOf finalizedNumber ∧ finalizedHash.text = hash.text
  | .solanaSlot slot _ _, .solanaSlot _ finalizedRoot _ => valueOf slot ≤ valueOf finalizedRoot
  | _, _ => False

/-- A finalized head with another block at the height of an anchor. -/
def Conflicts : Anchor → Anchor → Prop
  | .evmBlock number hash, .evmBlock finalizedNumber finalizedHash =>
    valueOf number = valueOf finalizedNumber ∧ finalizedHash.text ≠ hash.text
  | _, _ => False

/-- A finalized head above the block of an anchor. -/
def Above : Anchor → Anchor → Prop
  | .evmBlock number _, .evmBlock finalizedNumber _ => valueOf number < valueOf finalizedNumber
  | _, _ => False

variable {a h k : Anchor} {c : Classification}

theorem finalized_iff (hc : classify a h = .ok c) : c.status = .finalized ↔ Covers a h := by
  cases a with
  | evmBlock number hash =>
    cases h with
    | solanaSlot => cases hc
    | evmBlock finalizedNumber finalizedHash =>
      rw [classify] at hc
      split at hc
      case isTrue hbelow =>
        cases hc
        exact ⟨fun hs => (by cases hs), fun hcovers => by rw [Covers] at hcovers; omega⟩
      case isFalse hbelow =>
        split at hc
        case isTrue hequal =>
          split at hc
          case isTrue hhash =>
            cases hc
            exact ⟨fun _ => .inr ⟨hequal.symm, hhash⟩, fun _ => rfl⟩
          case isFalse hhash =>
            cases hc
            refine ⟨fun hs => (by cases hs), fun hcovers => ?_⟩
            obtain hlt | ⟨_, hsame⟩ := hcovers
            · omega
            · exact absurd hsame hhash
        case isFalse hequal =>
          cases hc
          exact ⟨fun _ => .inl (by omega), fun _ => rfl⟩
  | solanaSlot slot root ordered =>
    cases h with
    | evmBlock => cases hc
    | solanaSlot finalizedSlot finalizedRoot finalizedOrdered =>
      rw [classify] at hc
      split at hc
      case isTrue hbelow =>
        cases hc
        exact ⟨fun hs => (by cases hs), fun hcovers => by rw [Covers] at hcovers; omega⟩
      case isFalse hbelow =>
        split at hc
        case isTrue hcovers =>
          cases hc
          exact ⟨fun _ => hcovers, fun _ => rfl⟩
        case isFalse hcovers =>
          cases hc
          exact ⟨fun hs => (by cases hs), fun h => absurd h hcovers⟩

theorem quarantined_evm {number : UnsignedText maxUint256} {hash : Checked JsReading.isEvmHash}
    (hc : classify (.evmBlock number hash) h = .ok c) (hs : c.status = .quarantined) :
    Conflicts (.evmBlock number hash) h := by
  cases h with
  | solanaSlot => cases hc
  | evmBlock finalizedNumber finalizedHash =>
    rw [classify] at hc
    split at hc
    case isTrue hbelow =>
      cases hc
      cases hs
    case isFalse hbelow =>
      split at hc
      case isTrue hequal =>
        split at hc
        case isTrue hhash =>
          cases hc
          cases hs
        case isFalse hhash => exact ⟨hequal.symm, hhash⟩
      case isFalse hequal =>
        cases hc
        cases hs

theorem quarantined_of_conflicts (hc : classify a h = .ok c) (hconflicts : Conflicts a h) :
    c.status = .quarantined := by
  cases a with
  | solanaSlot => cases hconflicts
  | evmBlock number hash =>
    cases h with
    | solanaSlot => cases hconflicts
    | evmBlock finalizedNumber finalizedHash =>
      obtain ⟨hheight, hhash⟩ := hconflicts
      rw [classify, if_neg (by omega), if_pos hheight.symm, if_neg hhash] at hc
      cases hc
      rfl

/-- Above the block of an anchor the verdict rests on the lineage that the sources proved. -/
theorem lineage_of_above (hc : classify a h = .ok c) (habove : Above a h) :
    c.reason = .ethereumFinalizedLineageCoversCandidate := by
  cases a with
  | solanaSlot => cases habove
  | evmBlock number hash =>
    cases h with
    | solanaSlot => cases habove
    | evmBlock finalizedNumber finalizedHash =>
      rw [Above] at habove
      rw [classify, if_neg (by omega), if_neg (by omega)] at hc
      cases hc
      rfl

/-- What a head covers is covered by every head that does not regress from it. -/
theorem Covers.mono (hcovers : Covers a h) (hmono : nonRegressing h k = true) : Covers a k := by
  cases a with
  | evmBlock number hash =>
    cases h with
    | solanaSlot => cases hcovers
    | evmBlock finalizedNumber finalizedHash =>
      cases k with
      | solanaSlot => cases hmono
      | evmBlock nextNumber nextHash =>
        simp only [nonRegressing, Bool.or_eq_true, decide_eq_true_eq, Bool.and_eq_true,
          beq_iff_eq] at hmono
        obtain hhigher | ⟨hnumber, hhash⟩ := hmono
        · obtain hlt | ⟨hequal, _⟩ := hcovers
          · exact .inl (hlt.trans hhigher)
          · exact .inl (hequal ▸ hhigher)
        · rw [Checked.ext_text hnumber, Checked.ext_text hhash]
          exact hcovers
  | solanaSlot slot root ordered =>
    cases h with
    | evmBlock => cases hcovers
    | solanaSlot finalizedSlot finalizedRoot finalizedOrdered =>
      cases k with
      | evmBlock => cases hmono
      | solanaSlot nextSlot nextRoot nextOrdered =>
        simp only [nonRegressing, Bool.and_eq_true, decide_eq_true_eq] at hmono
        exact le_trans hcovers hmono.2

/-- A head that conflicts with an anchor is followed by one that covers it only further up. -/
theorem Conflicts.above (hconflicts : Conflicts a h) (hmono : nonRegressing h k = true)
    (hcovers : Covers a k) : Above a k := by
  cases a with
  | solanaSlot => cases hconflicts
  | evmBlock number hash =>
    cases h with
    | solanaSlot => cases hconflicts
    | evmBlock finalizedNumber finalizedHash =>
      cases k with
      | solanaSlot => cases hmono
      | evmBlock nextNumber nextHash =>
        obtain hlt | ⟨hequal, hsame⟩ := hcovers
        · exact hlt
        · simp only [nonRegressing, Bool.or_eq_true, decide_eq_true_eq, Bool.and_eq_true,
            beq_iff_eq] at hmono
          obtain ⟨hheight, hother⟩ := hconflicts
          obtain hhigher | ⟨_, hhash⟩ := hmono
          · omega
          · exact absurd (hhash.symm.trans hsame) hother

/-- A head that covers two blocks of one height is above them. -/
theorem Covers.above {number : UnsignedText maxUint256} {hash other : Checked JsReading.isEvmHash}
    (hcovers : Covers (.evmBlock number hash) h) (hother : Covers (.evmBlock number other) h)
    (hne : hash ≠ other) : Above (.evmBlock number hash) h := by
  cases h with
  | solanaSlot => cases hcovers
  | evmBlock finalizedNumber finalizedHash =>
    obtain hlt | ⟨_, hhash⟩ := hcovers
    · exact hlt
    · obtain hlt | ⟨_, hotherHash⟩ := hother
      · exact hlt
      · exact absurd (Checked.ext_text (hhash.symm.trans hotherHash)) hne

end Verdicts

section Runs

variable {P : Configuration} {s : State}

/-- What two verdicts say of each other. -/
structure Consistent (first second : Assessment) : Prop where
  lasting : first.candidateAnchor = second.candidateAnchor →
    nonRegressing first.agreedFinalizedHead second.agreedFinalizedHead = true →
    first.classification.status = .finalized → second.classification.status = .finalized
  cleared : first.networkId = .eip155 → first.candidateAnchor = second.candidateAnchor →
    nonRegressing first.agreedFinalizedHead second.agreedFinalizedHead = true →
    first.classification.status = .quarantined → second.classification.status = .finalized →
    Above second.candidateAnchor second.agreedFinalizedHead ∧
      second.classification.reason = .ethereumFinalizedLineageCoversCandidate
  unique : ∀ number hash other, first.candidateAnchor = .evmBlock number hash →
    second.candidateAnchor = .evmBlock number other → hash ≠ other →
    first.agreedFinalizedHead = second.agreedFinalizedHead →
    first.classification.status = .finalized → second.classification.status = .finalized →
    Above first.candidateAnchor first.agreedFinalizedHead ∧
      first.classification.reason = .ethereumFinalizedLineageCoversCandidate ∧
      second.classification.reason = .ethereumFinalizedLineageCoversCandidate

/-- What the finalizer issued was classified, and its anchor is of its network. -/
theorem classified_of_issued (h : Reachable P s) {r : IssuedAssessment}
    (hr : r ∈ s.finalizer.issued) :
    classify r.result.candidateAnchor r.result.agreedFinalizedHead = .ok r.result.classification ∧
      r.result.candidateAnchor.networkId = r.result.networkId := by
  obtain ⟨i, hi, e, hproduced, hrecorded⟩ := (known_of_reachable h).recorded r hr
  obtain ⟨_, _, _, proofs, _, _, hissued⟩ := hproduced
  refine ⟨hrecorded.classified, ?_⟩
  rw [hrecorded.candidateAnchor, hrecorded.networkId]
  exact hissued.collected.wellFormed.anchor

/-- In every run the verdicts of the finalizer are consistent: a finalized anchor stays finalized,
and what an equal height ruled out only the lineage to a higher head brings back. -/
theorem verdicts_consistent (h : Reachable P s) :
    ∀ r ∈ s.finalizer.issued, ∀ q ∈ s.finalizer.issued, Consistent r.result q.result := by
  intro r hr q hq
  obtain ⟨hfirst, hnetwork⟩ := classified_of_issued h hr
  obtain ⟨hsecond, _⟩ := classified_of_issued h hq
  refine ⟨?_, ?_, ?_⟩
  · intro hanchor hmono hfinalized
    have hcovers := (finalized_iff hfirst).mp hfinalized
    rw [hanchor] at hcovers
    exact (finalized_iff hsecond).mpr (hcovers.mono hmono)
  · intro heip hanchor hmono hquarantined hfinalized
    have hcovers := (finalized_iff hsecond).mp hfinalized
    have hconflicts : Conflicts r.result.candidateAnchor r.result.agreedFinalizedHead := by
      rw [heip] at hnetwork
      cases hkind : r.result.candidateAnchor with
      | evmBlock number hash =>
        rw [hkind] at hfirst
        exact quarantined_evm hfirst hquarantined
      | solanaSlot =>
        rw [hkind] at hnetwork
        cases hnetwork
    rw [hanchor] at hconflicts
    have habove := hconflicts.above hmono hcovers
    exact ⟨habove, lineage_of_above hsecond habove⟩
  · intro number hash other hhash hother hne hhead hfinalized hfinalized'
    have hcovers := (finalized_iff hfirst).mp hfinalized
    have hcovers' := (finalized_iff hsecond).mp hfinalized'
    rw [hhash] at hcovers
    rw [hother, ← hhead] at hcovers'
    have habove := hcovers.above hcovers' hne
    have habove' := hcovers'.above hcovers (Ne.symm hne)
    rw [← hhash] at habove
    rw [← hother, hhead] at habove'
    exact ⟨habove, lineage_of_above hfirst habove, lineage_of_above hsecond habove'⟩

end Runs

section Sample

open ChainAnchorProducer (collect produceCandidate)
open ChainAnchorAgreement (expiry)

/-- The anchor is one of the blocks 100 and the finalized head is some other block. -/
def hasFinalized (anchor : Char) (number : String) (e : Evidence) : Bool :=
  match e.request.chainAnchor, e.primary.finalizedHead with
  | .evmBlock anchorNumber anchorHash, .evmBlock finalizedNumber finalizedHash =>
    anchorNumber.text == "100" && finalizedNumber.text == number &&
      anchorHash.text == sampleHash anchor && finalizedHash.text == sampleHash 'd'
  | _, _ => false

theorem hasFinalized_eq {anchor : Char} {number : String} {e : Evidence}
    (h : hasFinalized anchor number e = true) :
    ∃ n g m k, e.request.chainAnchor = .evmBlock n g ∧ e.primary.finalizedHead = .evmBlock m k ∧
      n.text = "100" ∧ m.text = number ∧ g.text = sampleHash anchor ∧
      k.text = sampleHash 'd' := by
  rw [hasFinalized] at h
  split at h
  case h_1 n g m k hanchor hhead =>
    simp only [Bool.and_eq_true, beq_iff_eq] at h
    exact ⟨n, g, m, k, hanchor, hhead, h.1.1.1, h.1.1.2, h.1.2, h.2⟩
  case h_2 => cases h

/-- Two calls about blocks 100, with the heads that are finalized then. -/
def areSamples (anchor : Char) (finalized : String) (request : Reference) (anchor' : Char)
    (finalized' : String) : Bool :=
  isSample 10 anchor finalized 30 (hasFinalized anchor finalized) &&
    isSample request anchor' finalized' 31 (hasFinalized anchor' finalized')

/-- A block 100 is assessed, and then it or the other one is. -/
theorem samples_reached {anchor anchor' : Char} {finalized finalized' : String} {request : Reference}
    (hrequest : request = 10 → anchor = anchor')
    (hsamples : areSamples anchor finalized request anchor' finalized' = true) :
    ∃ s, Reachable sampleConfiguration s ∧ ∃ r ∈ s.finalizer.issued, ∃ q ∈ s.finalizer.issued,
      ∃ n g m k n' g' m' k',
        (r.result.candidateAnchor = .evmBlock n g ∧ r.result.agreedFinalizedHead = .evmBlock m k ∧
          n.text = "100" ∧ m.text = finalized ∧ g.text = sampleHash anchor ∧
          k.text = sampleHash 'd') ∧
        q.result.candidateAnchor = .evmBlock n' g' ∧ q.result.agreedFinalizedHead = .evmBlock m' k' ∧
          n'.text = "100" ∧ m'.text = finalized' ∧ g'.text = sampleHash anchor' ∧
          k'.text = sampleHash 'd' := by
  obtain ⟨hfirst, hsecond⟩ := (Bool.and_eq_true _ _).mp hsamples
  obtain ⟨i, r, e, hreached, hasked, hcandidate, hresult, hanchor, hhead, htest⟩ :=
    sample_extends Reachable.start 10 anchor finalized 30 41 (hasFinalized anchor finalized)
      (fun _ hj => (by cases hj)) (fun _ hj => (by cases hj)) (fun _ hr => (by cases hr))
      (fun _ hl => (by cases hl)) hfirst
  obtain ⟨i', q, e', hreached', _, _, _, hanchor', hhead', htest'⟩ :=
    sample_extends hreached request anchor' finalized' 31 42 (hasFinalized anchor' finalized')
      (fun j hj hreference => by
        obtain rfl := List.mem_singleton.mp hj
        rw [hasked] at hreference ⊢
        obtain rfl := Option.some.inj hreference
        rw [hrequest rfl])
      (fun j hj => by rw [List.mem_singleton.mp hj, hcandidate]; decide)
      (fun r hr => by rw [List.mem_singleton.mp hr, hresult]; decide)
      (fun _ hl => (Option.some.inj hl).ge) hsecond
  obtain ⟨n, g, m, k, hA, hH, hblock⟩ := hasFinalized_eq htest
  obtain ⟨n', g', m', k', hA', hH', hblock'⟩ := hasFinalized_eq htest'
  exact ⟨_, hreached', r, by simp, q, by simp, n, g, m, k, n', g', m', k',
    ⟨hanchor.trans hA, hhead.trans hH, hblock⟩, hanchor'.trans hA', hhead'.trans hH', hblock'⟩

theorem areSamples_true : areSamples 'b' "100" 10 'b' "103" = true ∧
    areSamples 'b' "103" 50 'e' "103" = true := by
  -- The kernel reads a text faster from its bytes.
  delta areSamples isSample ChainAnchorProducer.produceCandidate ChainAnchorProducer.collect
    ChainAnchorProducer.produceRequest ChainAnchorProducer.attestation readAnchor
    ChainAnchorProducer.sourceIdentity ChainAnchorProducer.aggregateProofs
    ChainAnchorProducer.aggregateProof nonzeroDigest
  simp only [readChecked, Bytes.toList_eq_characters]
  decide +kernel

/-- Block 100 is assessed while another block 100 is finalized, and then while block 103 is. -/
theorem sampleVerdicts_reached : ∃ s, Reachable sampleConfiguration s ∧
    ∃ r ∈ s.finalizer.issued, ∃ q ∈ s.finalizer.issued, r.result.networkId = .eip155 ∧
      r.result.candidateAnchor = q.result.candidateAnchor ∧
      nonRegressing r.result.agreedFinalizedHead q.result.agreedFinalizedHead = true ∧
      r.result.classification.status = .quarantined ∧
      q.result.classification.status = .finalized := by
  obtain ⟨s, hreached, r, hr, q, hq, n, g, m, k, n', g', m', k',
    ⟨hanchor, hhead, hn, hm, hg, hk⟩, hanchor', hhead', hn', hm', hg', hk'⟩ :=
      samples_reached (fun _ => rfl) areSamples_true.1
  obtain ⟨hfirst, hnetwork⟩ := classified_of_issued hreached hr
  obtain ⟨hsecond, _⟩ := classified_of_issued hreached hq
  refine ⟨s, hreached, r, hr, q, hq, ?_, ?_, ?_, ?_, ?_⟩
  · rw [← hnetwork, hanchor]
    rfl
  · rw [hanchor, hanchor', Checked.ext_text (hn.trans hn'.symm), Checked.ext_text (hg.trans hg'.symm)]
  · have hlt : Text.decimalValue "100".toList < Text.decimalValue "103".toList := by decide
    rw [hhead, hhead', nonRegressing, valueOf, valueOf, hm, hm', decide_eq_true hlt, Bool.true_or]
  · refine quarantined_of_conflicts hfirst ?_
    rw [hanchor, hhead, Conflicts, valueOf, valueOf, hn, hm, hg, hk]
    exact ⟨rfl, by decide +kernel⟩
  · refine (finalized_iff hsecond).mpr ?_
    rw [hanchor', hhead', Covers, valueOf, valueOf, hn', hm']
    exact .inl (by decide)

/-- A conflict at the height of an anchor is followed by a finalized verdict on a higher head. -/
theorem quarantine_cleared : ¬∀ (P : Configuration) (s : State), Reachable P s →
    ∀ r ∈ s.finalizer.issued, ∀ q ∈ s.finalizer.issued, r.result.networkId = .eip155 →
      r.result.candidateAnchor = q.result.candidateAnchor →
      nonRegressing r.result.agreedFinalizedHead q.result.agreedFinalizedHead = true →
      r.result.classification.status = .quarantined →
      q.result.classification.status ≠ .finalized := by
  intro hall
  obtain ⟨s, hreached, r, hr, q, hq, hnetwork, hanchor, hmono, hquarantined, hfinalized⟩ :=
    sampleVerdicts_reached
  exact hall sampleConfiguration s hreached r hr q hq hnetwork hanchor hmono hquarantined hfinalized

/-- Two blocks of one number are both finalized on the same higher head. -/
theorem finalized_twice : ¬∀ (P : Configuration) (s : State), Reachable P s →
    ∀ r ∈ s.finalizer.issued, ∀ q ∈ s.finalizer.issued, ∀ number hash other,
      r.result.candidateAnchor = .evmBlock number hash →
      q.result.candidateAnchor = .evmBlock number other → hash ≠ other →
      r.result.agreedFinalizedHead = q.result.agreedFinalizedHead →
      r.result.classification.status = .finalized →
      q.result.classification.status ≠ .finalized := by
  intro hall
  obtain ⟨s, hreached, r, hr, q, hq, n, g, m, k, n', g', m', k',
    ⟨hanchor, hhead, hn, hm, hg, hk⟩, hanchor', hhead', hn', hm', hg', hk'⟩ :=
      samples_reached (fun h => absurd h (by decide)) areSamples_true.2
  obtain ⟨hfirst, _⟩ := classified_of_issued hreached hr
  obtain ⟨hsecond, _⟩ := classified_of_issued hreached hq
  obtain rfl : n = n' := Checked.ext_text (hn.trans hn'.symm)
  have hcovers : Text.decimalValue "100".toList < Text.decimalValue "103".toList := by decide
  have hother : g ≠ g' := fun hsame => by
    rw [← hsame, hg] at hg'
    exact absurd hg' (by decide +kernel)
  refine hall sampleConfiguration s hreached r hr q hq n g g' hanchor hanchor' hother ?_ ?_ ?_
  · rw [hhead, hhead', Checked.ext_text (hm.trans hm'.symm), Checked.ext_text (hk.trans hk'.symm)]
  · refine (finalized_iff hfirst).mpr ?_
    rw [hanchor, hhead, Covers, valueOf, valueOf, hn, hm]
    exact .inl hcovers
  · refine (finalized_iff hsecond).mpr ?_
    rw [hanchor', hhead', Covers, valueOf, valueOf, hn, hm']
    exact .inl hcovers

theorem sampleVerdicts_consistent : ∃ s : State, (∃ r ∈ s.finalizer.issued,
      ∃ q ∈ s.finalizer.issued, r.result.classification.status = .quarantined ∧
        q.result.classification.status = .finalized) ∧
    ∀ r ∈ s.finalizer.issued, ∀ q ∈ s.finalizer.issued, Consistent r.result q.result := by
  obtain ⟨s, hreached, r, hr, q, hq, _, _, _, hquarantined, hfinalized⟩ := sampleVerdicts_reached
  exact ⟨s, ⟨r, hr, q, hq, hquarantined, hfinalized⟩, verdicts_consistent hreached⟩

end Sample

end CryptoLending.MainnetPlatforms.FinalityVerdicts
