import CryptoLending.Valuation.RecoverySample

namespace CryptoLending.Valuation.RecoveryClearance

open Lib Lib.JsValue Lib.Decimal ValuationRequest ValuationAssessment StablecoinValuation
  StablecoinRecovery RecoveryEvidence RecoverySample

variable {asset : StablecoinValuationAssetReference}

/-- A sample with two current sources that agree near the peg, taken between the loss of the
peg and the evaluation of its recovery. -/
structure IsEvidence (latchedAt evaluatedAt : Int) (x : ParsedRecoverySample asset) : Prop where
  evaluated : latchedAt ≤ x.evaluatedAt.milliseconds ∧ x.evaluatedAt.milliseconds ≤ evaluatedAt
  priced : ∀ s, latchedAt ≤ (observation x s).pricedAtMs ∧
    (observation x s).pricedAtMs ≤ evaluatedAt
  observed : ∀ s, latchedAt ≤ (observation x s).observedAtMs ∧
    (observation x s).observedAtMs ≤ evaluatedAt
  current : ∀ a ∈ x.valuation.sourceAssessments, a.eligibility = .eligibleCurrent
  central : |(observation x .pythCore).rate.value - (observation x .chainlinkDataFeeds).rate.value|
    ≤ 25 / 10000
  confidence : ∃ confidence, (observation x .pythCore).confidenceAmount = some confidence ∧
    confidence.value ≤ 25 / 10000
  rates : ∀ a ∈ x.valuation.sourceAssessments,
    ∃ rate, a.conservativeUsdRate = some rate ∧ 9975 / 10000 ≤ rate.value

/-- A request whose evidence and risk clear meet all recovery requirements. -/
structure IsCleared (request : ParsedRecoveryRequest) (latch : StablecoinDepegLatchReference)
    (clear : StablecoinManualRiskClearReference) : Prop where
  latch_eq : request.depegLatch = some latch
  clear_eq : request.manualRiskClear = some clear
  asset_eq : latch.asset = request.asset ∧ clear.asset = request.asset
  latchId_eq : clear.latchId = latch.latchId
  length_le : 4 ≤ request.samples.length
  advances : request.samples.Pairwise Advances
  updateIds_nodup : ∀ s, (request.samples.map (updateId s)).Nodup
  span : ∃ first last, request.samples.head? = some first ∧ request.samples.getLast? = some last ∧
    1800000 ≤ last.evaluatedAt.milliseconds - first.evaluatedAt.milliseconds
  evidence : ∀ x ∈ request.samples,
    IsEvidence latch.latchedAt.milliseconds request.evaluatedAt.milliseconds x
  cleared_after : ∀ last ∈ request.samples.getLast?,
    last.evaluatedAt.milliseconds ≤ clear.clearedAt.milliseconds
  cleared_before : clear.clearedAt.milliseconds ≤ request.evaluatedAt.milliseconds

section Sample

variable {x : ParsedRecoverySample asset} {latchedAt evaluatedAt : Int}

theorem sampleReasons_eq_nil : sampleReasons evaluatedAt latchedAt x = [] ↔
    (latchedAt ≤ x.evaluatedAt.milliseconds ∧
      ∀ o ∈ x.observations, latchedAt ≤ o.pricedAtMs ∧ latchedAt ≤ o.observedAtMs) ∧
    x.evaluatedAt.milliseconds ≤ evaluatedAt ∧
    (∀ a ∈ x.valuation.sourceAssessments, a.eligibility = .eligibleCurrent) ∧
    (x.valuation.availability = .available ∧ x.valuation.sourceAgreement = .corroborated ∧
      x.valuation.confidenceClass = .medium) ∧
    valuationWithinRecoveryBand x.valuation = true := by
  simp only [sampleReasons, List.append_eq_nil_iff, ite_eq_right_iff, reduceCtorEq, imp_false,
    Bool.or_eq_true, decide_eq_true_eq, List.any_eq_true, not_or, not_exists, not_and, not_lt,
    ne_eq, not_not, Bool.not_eq_true', Bool.not_eq_false, gt_iff_lt, and_assoc]

theorem isEvidence_iff :
    IsEvidence latchedAt evaluatedAt x ↔ sampleReasons evaluatedAt latchedAt x = [] := by
  rw [sampleReasons_eq_nil]
  constructor
  · intro h
    obtain ⟨_, _, _, _, hboth⟩ := (allCurrent_iff x).mp h.current
    have haccepted := (sampleAccepted_iff hboth).mpr
      ⟨h.central, h.confidence, (valuation_rates hboth).mp h.rates⟩
    refine ⟨⟨h.evaluated.1, fun o ho => ?_⟩, h.evaluated.2, h.current, haccepted⟩
    obtain ⟨s, rfl⟩ := (mem_observations x).mp ho
    exact ⟨(h.priced s).1, (h.observed s).1⟩
  · rintro ⟨⟨hlatched, hobserved⟩, hevaluated, hcurrent, haccepted⟩
    obtain ⟨_, _, _, _, hboth⟩ := (allCurrent_iff x).mp hcurrent
    obtain ⟨hcentral, hconfidence, hrates⟩ := (sampleAccepted_iff hboth).mp haccepted
    have hlatch : ∀ s, latchedAt ≤ (observation x s).pricedAtMs ∧
        latchedAt ≤ (observation x s).observedAtMs :=
      fun s => hobserved _ ((mem_observations x).mpr ⟨s, rfl⟩)
    have hbefore : ∀ s, (observation x s).pricedAtMs ≤ (observation x s).observedAtMs ∧
        (observation x s).observedAtMs ≤ x.evaluatedAt.milliseconds := by
      intro s
      cases s with
      | pythCore => exact ⟨hboth.pyth.priced_le, hboth.pyth.observed_le⟩
      | chainlinkDataFeeds => exact ⟨hboth.chainlink.priced_le, hboth.chainlink.observed_le⟩
    exact
      { evaluated := ⟨hlatched, hevaluated⟩
        priced := fun s => ⟨(hlatch s).1, ((hbefore s).1.trans (hbefore s).2).trans hevaluated⟩
        observed := fun s => ⟨(hlatch s).2, (hbefore s).2.trans hevaluated⟩
        current := hcurrent
        central := hcentral
        confidence := hconfidence
        rates := (valuation_rates hboth).mpr hrates }

end Sample

section Request

variable {request : ParsedRecoveryRequest} {latch : StablecoinDepegLatchReference}
  {clear : StablecoinManualRiskClearReference}

theorem span_iff (samples : List (ParsedRecoverySample asset)) :
    (recoverySpan samples).all (fun spanMs => spanMs < minimumSpanMs) = false ↔
      ∃ first last, samples.head? = some first ∧ samples.getLast? = some last ∧
        1800000 ≤ last.evaluatedAt.milliseconds - first.evaluatedAt.milliseconds := by
  cases hfirst : samples.head? with
  | none => simp [recoverySpan, hfirst]
  | some first =>
    cases hlast : samples.getLast? with
    | none => simp [recoverySpan, hlast]
    | some last =>
      simp only [recoverySpan, hfirst, hlast, Option.bind_eq_bind, Option.bind_some,
        Option.pure_def, Option.all_some, decide_eq_false_iff_not, not_lt]
      simp [minimumSpanMs]

theorem recoveryReasons_eq_nil : recoveryReasons request latch = [] ↔
    4 ≤ request.samples.length ∧
    (request.samples.Pairwise Advances ∧ ∀ s, (request.samples.map (updateId s)).Nodup) ∧
    (∃ first last, request.samples.head? = some first ∧ request.samples.getLast? = some last ∧
      1800000 ≤ last.evaluatedAt.milliseconds - first.evaluatedAt.milliseconds) ∧
    latch.latchedAt.milliseconds ≤ request.evaluatedAt.milliseconds ∧
    ∀ x ∈ request.samples,
      IsEvidence latch.latchedAt.milliseconds request.evaluatedAt.milliseconds x := by
  rw [recoveryReasons, consecutiveDualCorroboratedObservations]
  simp only [List.append_eq_nil_iff, ite_eq_right_iff, reduceCtorEq, imp_false,
    not_lt, Bool.not_eq_true', Bool.not_eq_false, Bool.not_eq_true, span_iff,
    recoveryEvidenceIsStrictlyMonotonic_iff, List.flatMap_eq_nil_iff, isEvidence_iff, gt_iff_lt,
    and_assoc]

theorem acceptRiskClear_eq_ok : acceptRiskClear request latch = .ok clear ↔
    request.manualRiskClear = some clear ∧ clear.latchId = latch.latchId ∧
    (∃ last, request.samples.getLast? = some last ∧
      last.evaluatedAt.milliseconds ≤ clear.clearedAt.milliseconds) ∧
    clear.clearedAt.milliseconds ≤ request.evaluatedAt.milliseconds := by
  cases hclear : request.manualRiskClear with
  | none => simp [acceptRiskClear, hclear]
  | some c =>
    simp only [acceptRiskClear, hclear, Option.some.injEq]
    by_cases hid : c.latchId = latch.latchId
    · have hlast : (request.samples.getLast?.all (fun lastSample =>
          c.clearedAt.milliseconds < lastSample.evaluatedAt.milliseconds) = true) ↔
          ¬∃ last, request.samples.getLast? = some last ∧
            last.evaluatedAt.milliseconds ≤ c.clearedAt.milliseconds := by
        cases request.samples.getLast? <;> simp
      rw [if_neg (not_not.mpr hid)]
      by_cases hfinal : ∃ last, request.samples.getLast? = some last ∧
          last.evaluatedAt.milliseconds ≤ c.clearedAt.milliseconds
      · rw [if_neg (mt hlast.mp (not_not.mpr hfinal))]
        by_cases hbefore : c.clearedAt.milliseconds ≤ request.evaluatedAt.milliseconds
        · rw [if_neg (not_lt.mpr hbefore), Except.ok.injEq]
          refine ⟨fun h => ?_, fun h => h.1⟩
          subst h
          exact ⟨rfl, hid, hfinal, hbefore⟩
        · rw [if_pos (not_le.mp hbefore)]
          refine iff_of_false (by simp) fun h => hbefore ?_
          rw [h.1]
          exact h.2.2.2
      · rw [if_pos (hlast.mpr hfinal)]
        refine iff_of_false (by simp) fun h => hfinal ?_
        rw [h.1]
        exact h.2.2.1
    · rw [if_pos hid]
      refine iff_of_false (by simp) fun h => hid ?_
      rw [h.1]
      exact h.2.1

theorem recover_cleared_iff : (recover request).status = .recoveryCandidateCleared ↔
    ∃ latch clear, request.depegLatch = some latch ∧ recoveryReasons request latch = [] ∧
      acceptRiskClear request latch = .ok clear := by
  have hall : ∀ reason : StablecoinRecoveryReason, reason ∈ recoveryReasonOrder := by
    intro reason
    cases reason <;> decide
  cases hlatch : request.depegLatch with
  | none => simp [recover, hlatch, recoveryResult]
  | some latch =>
    have hnil := Sorting.inOrder_eq_nil (l := recoveryReasons request latch) hall
    by_cases hreasons : recoveryReasons request latch = []
    · have hlength : ¬(orderedRecoveryReasons (recoveryReasons request latch)).length > 0 := by
        rw [orderedRecoveryReasons, hnil.mpr hreasons]
        exact Nat.lt_irrefl 0
      simp only [recover, hlatch, if_neg hlength]
      cases hclear : acceptRiskClear request latch <;> simp [hclear, hreasons, recoveryResult]
    · have hlength : (orderedRecoveryReasons (recoveryReasons request latch)).length > 0 :=
        List.length_pos_iff.mpr (mt hnil.mp hreasons)
      simp only [recover, hlatch, if_pos hlength]
      simp [hreasons, recoveryResult]

/-- The checks that lead to a cleared result are the recovery requirements. -/
theorem isCleared_iff : IsCleared request latch clear ↔
    request.depegLatch = some latch ∧ recoveryReasons request latch = [] ∧
      acceptRiskClear request latch = .ok clear := by
  rw [recoveryReasons_eq_nil, acceptRiskClear_eq_ok]
  constructor
  · intro h
    obtain ⟨first, last, hfirst, hlast, hspan⟩ := h.span
    have he := (h.evidence last (List.mem_of_getLast? hlast)).evaluated
    exact ⟨h.latch_eq, ⟨h.length_le, ⟨h.advances, h.updateIds_nodup⟩, h.span, he.1.trans he.2,
      h.evidence⟩, h.clear_eq, h.latchId_eq, ⟨last, hlast, h.cleared_after last hlast⟩,
      h.cleared_before⟩
  · rintro ⟨hlatch, ⟨hlength, ⟨hadvances, hnodup⟩, hspan, _, hevidence⟩, hclear, hid,
      ⟨last, hlast, hafter⟩, hbefore⟩
    exact
      { latch_eq := hlatch
        clear_eq := hclear
        asset_eq := ⟨request.latch_asset _ hlatch, request.clear_asset _ hclear⟩
        latchId_eq := hid
        length_le := hlength
        advances := hadvances
        updateIds_nodup := hnodup
        span := hspan
        evidence := hevidence
        cleared_after := fun l hl => Option.some.inj (hlast.symm.trans hl) ▸ hafter
        cleared_before := hbefore }

end Request

/-- Exactly the requests that meet every recovery requirement are cleared. -/
theorem evaluateStablecoinRecovery_cleared_iff (v : Value) :
    (evaluateStablecoinRecovery v).status = .recoveryCandidateCleared ↔
      ∃ request, parseRecoveryRequest v = some request ∧
        ∃ latch clear, IsCleared request latch clear := by
  unfold evaluateStablecoinRecovery
  cases parseRecoveryRequest v with
  | none => simp [recoveryResult]
  | some request => simp [recover_cleared_iff, isCleared_iff]

end CryptoLending.Valuation.RecoveryClearance
