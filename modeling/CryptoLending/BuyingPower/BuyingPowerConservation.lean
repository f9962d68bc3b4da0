import CryptoLending.BuyingPower.BuyingPowerCalculator
import Mathlib.Algebra.Order.BigOperators.Group.List

namespace CryptoLending.BuyingPower.BuyingPowerConservation

open Lib Lib.JsValue Lib.DecimalText Lib.IsoReading Mantissa BuyingPowerCalculator

section Lines

/-- The sum of the deductions of every kind. -/
def deductionTotal (deductions : BuyingPowerDeductionBreakdown) : Nat :=
  (buyingPowerDeductionKinds.map fun kind => (deductions kind).value).sum

/-- The line of a contribution: either nothing of it is available, or its value without the
deductions is. -/
inductive Adjusted (c : ParsedContribution) (r : BuyingPowerContributionResult) : Prop
  | unavailable (availability : r.availability = .unavailable)
      (gross : r.grossUsdValueMantissa = c.usdValueMantissa) (deductions : r.deductions = none)
      (total : r.totalDeductionUsdMantissa = none)
      (available : r.availableBuyingPowerUsdMantissa.value = 0)
  | available (gross : BuyingPowerUsdMantissa) (deductions : BuyingPowerDeductionBreakdown)
      (total : BuyingPowerUsdMantissa) (eligible : eligibleGross c = some gross)
      (availability : r.availability = .available)
      (hgross : r.grossUsdValueMantissa = some gross) (hdeductions : r.deductions = some deductions)
      (htotal : r.totalDeductionUsdMantissa = some total)
      (total_eq : total.value = deductionTotal deductions)
      (spent : r.availableBuyingPowerUsdMantissa.value + deductionTotal deductions = gross.value)

theorem totalBuyingPowerDeductions_ok {deductions : BuyingPowerDeductionBreakdown}
    {m : BuyingPowerUsdMantissa} (h : totalBuyingPowerDeductions deductions = .ok m) :
    m.value = deductionTotal deductions := by
  rw [addBuyingPowerUsdMantissas_ok h, List.map_map]
  rfl

theorem unavailable_adjusted (c : ParsedContribution)
    (reasons : List (Option BuyingPowerUnavailableReason)) :
    Adjusted c (unavailableContribution c reasons) :=
  .unavailable rfl rfl rfl rfl value_zeroUsdMantissa

variable {elements : Elements} {c : ParsedContribution}

/-- Whatever the port replies, the line is one of the two. -/
theorem adjustContribution_adjusted {gross : BuyingPowerUsdMantissa} (evaluatedAt : PlainTime)
    (response : Option Value) (h : eligibleGross c = some gross) :
    Adjusted c (adjustContribution elements c gross evaluatedAt response) := by
  cases response with
  | none => exact unavailable_adjusted c _
  | some v =>
    unfold adjustContribution
    dsimp only
    split
    · exact unavailable_adjusted c _
    · exact unavailable_adjusted c _
    · rename_i quoteId quotedAt validUntil deductions _
      split
      · exact unavailable_adjusted c _
      · rename_i total available hsum
        obtain ⟨total', htotal, hsum⟩ := except_bind_ok.mp hsum
        obtain ⟨available', havailable, hsum⟩ := except_bind_ok.mp hsum
        obtain ⟨rfl, rfl⟩ := Prod.mk.inj (Except.ok.inj hsum)
        have htotal := totalBuyingPowerDeductions_ok htotal
        refine .available gross deductions total' h rfl rfl rfl rfl htotal ?_
        rw [← htotal]
        exact subtractBuyingPowerUsdMantissas_ok havailable

theorem contributionResults_adjusted (port : BuyingPowerAdjustmentPort) (evaluatedAt : PlainTime)
    (requests : List BuyingPowerAdjustmentRequest) (cs : List ParsedContribution) :
    List.Forall₂ Adjusted cs (contributionResults elements port evaluatedAt requests cs) := by
  induction cs generalizing requests with
  | nil => exact .nil
  | cons c cs ih =>
    rw [contributionResults]
    split
    · exact .cons (unavailable_adjusted c _) (ih requests)
    · rename_i gross hgross
      exact .cons (adjustContribution_adjusted evaluatedAt _ hgross) (ih _)

end Lines

section Sums

def values (l : List BuyingPowerUsdMantissa) : Nat := (l.map (·.value)).sum

theorem values_cons (m : BuyingPowerUsdMantissa) (l : List BuyingPowerUsdMantissa) :
    values (m :: l) = m.value + values l := by
  rw [values, values, List.map_cons, List.sum_cons]

/-- The value of the eligible contributions whose line says that nothing is available. -/
def unavailableGross (cs : List ParsedContribution) (lines : List BuyingPowerContributionResult) :
    Nat :=
  values ((cs.zip lines).filterMap fun p =>
    if p.2.availability = .unavailable then eligibleGross p.1 else none)

def availableSum (lines : List BuyingPowerContributionResult) : Nat :=
  values (lines.map (·.availableBuyingPowerUsdMantissa))

/-- The deductions of the lines that have some. -/
def breakdowns (lines : List BuyingPowerContributionResult) : List BuyingPowerDeductionBreakdown :=
  lines.filterMap (·.deductions)

/-- What is deducted of one kind. -/
def deductionSum (lines : List BuyingPowerContributionResult) (kind : BuyingPowerDeductionKind) :
    Nat := values ((breakdowns lines).map fun deductions => deductions kind)

/-- Adding up by kind is adding up by line. -/
theorem sum_deductionSum (l : List BuyingPowerDeductionBreakdown) :
    (buyingPowerDeductionKinds.map fun kind => values (l.map fun deductions => deductions kind)).sum =
      (l.map deductionTotal).sum := by
  induction l with
  | nil => rfl
  | cons deductions l ih =>
    rw [List.map_cons, List.sum_cons, ← ih]
    simp only [deductionTotal, buyingPowerDeductionKinds, List.map_cons, List.map_nil,
      List.sum_cons, List.sum_nil, values_cons]
    omega

/-- Every line spends the value of its contribution, or none of it. -/
theorem available_add_deductions {cs : List ParsedContribution}
    {lines : List BuyingPowerContributionResult} (h : List.Forall₂ Adjusted cs lines) :
    availableSum lines + ((breakdowns lines).map deductionTotal).sum + unavailableGross cs lines =
      values (cs.filterMap eligibleGross) := by
  induction h with
  | nil => rfl
  | @cons c r cs lines hline _ ih =>
    have hcons : availableSum (r :: lines) =
        r.availableBuyingPowerUsdMantissa.value + availableSum lines := by
      rw [availableSum, List.map_cons, values_cons, availableSum]
    rw [hcons]
    cases hline with
    | unavailable havailability hgross hdeductions htotal havailable =>
      have hnone : breakdowns (r :: lines) = breakdowns lines :=
        List.filterMap_cons_none hdeductions
      rw [havailable, hnone]
      have hgross' : unavailableGross (c :: cs) (r :: lines) =
          values (((eligibleGross c).toList) ++ (cs.zip lines).filterMap fun p =>
            if p.2.availability = .unavailable then eligibleGross p.1 else none) := by
        rw [unavailableGross, List.zip_cons_cons, List.filterMap_cons]
        simp only [havailability, if_true]
        cases eligibleGross c <;> rfl
      cases hc : eligibleGross c with
      | none =>
        rw [hgross', hc, List.filterMap_cons_none hc, ← ih]
        simp only [Option.toList_none, List.nil_append, unavailableGross]
        omega
      | some gross =>
        rw [hgross', hc, List.filterMap_cons_some hc, values_cons, ← ih]
        simp only [Option.toList_some, List.singleton_append, values_cons, unavailableGross]
        omega
    | available gross deductions total heligible havailability hgross hdeductions htotal htotaleq
        hspent =>
      have hgross' : unavailableGross (c :: cs) (r :: lines) = unavailableGross cs lines := by
        rw [unavailableGross, List.zip_cons_cons, List.filterMap_cons]
        simp only [havailability, reduceCtorEq, if_false]
        rfl
      have hsome : breakdowns (r :: lines) = deductions :: breakdowns lines :=
        List.filterMap_cons_some hdeductions
      rw [hgross', hsome, List.filterMap_cons_some heligible, List.map_cons, List.sum_cons,
        values_cons, ← ih]
      omega

/-- An eligible contribution is supported. -/
theorem supportedValue_of_eligible {c : ParsedContribution} {gross : BuyingPowerUsdMantissa}
    (h : eligibleGross c = some gross) : supportedValue c = some gross := by
  unfold eligibleGross at h
  split at h
  · rename_i hreasons
    have hsupported : c.supported = true := by
      by_contra hno
      simp [contributionUnavailableReasons, hno] at hreasons
    rw [supportedValue, if_pos hsupported, h]
  · cases h

theorem eligible_le_supported (cs : List ParsedContribution) :
    values (cs.filterMap eligibleGross) ≤ values (cs.filterMap supportedValue) := by
  induction cs with
  | nil => exact Nat.le_refl _
  | cons c cs ih =>
    cases he : eligibleGross c with
    | none =>
      rw [List.filterMap_cons_none he]
      cases hs : supportedValue c with
      | none => rwa [List.filterMap_cons_none hs]
      | some gross =>
        rw [List.filterMap_cons_some hs, values_cons]
        omega
    | some gross =>
      rw [List.filterMap_cons_some he, List.filterMap_cons_some (supportedValue_of_eligible he),
        values_cons, values_cons]
      omega

theorem deductionSum_le (lines : List BuyingPowerContributionResult)
    (kind : BuyingPowerDeductionKind) : deductionSum lines kind ≤
      ((breakdowns lines).map deductionTotal).sum := by
  rw [← sum_deductionSum]
  apply List.single_le_sum (fun _ _ => Nat.zero_le _)
  refine List.mem_map_of_mem ?_
  cases kind <;> decide

theorem exists_sumDeductionBreakdowns {l : List BuyingPowerDeductionBreakdown}
    (h : ∀ kind, values (l.map fun deductions => deductions kind) < 10 ^ maxUsdMantissaDigits) :
    ∃ totals, sumDeductionBreakdowns l = .ok totals ∧
      ∀ kind, (totals kind).value = values (l.map fun deductions => deductions kind) := by
  by_cases hl : l.length = 0
  · refine ⟨zeroBuyingPowerDeductions, if_pos hl, fun kind => ?_⟩
    rw [List.length_eq_zero_iff.mp hl]
    exact value_zeroUsdMantissa
  · have hsum : ∀ kind, ∃ m, addBuyingPowerUsdMantissas (l.map fun deductions => deductions kind) =
        .ok m ∧ m.value = values (l.map fun deductions => deductions kind) := by
      intro kind
      obtain ⟨m, hm⟩ := exists_add_iff.mpr (h kind)
      exact ⟨m, hm, addBuyingPowerUsdMantissas_ok hm⟩
    obtain ⟨liquidity, hliquidity, hliquidity'⟩ := hsum .liquidity
    obtain ⟨conversion, hconversion, hconversion'⟩ := hsum .conversion
    obtain ⟨slippage, hslippage, hslippage'⟩ := hsum .slippage
    obtain ⟨network, hnetwork, hnetwork'⟩ := hsum .network
    obtain ⟨routing, hrouting, hrouting'⟩ := hsum .routing
    rw [sumDeductionBreakdowns, if_neg hl]
    dsimp only
    rw [hliquidity, hconversion, hslippage, hnetwork, hrouting]
    refine ⟨_, rfl, fun kind => ?_⟩
    cases kind with
    | liquidity => exact hliquidity'
    | conversion => exact hconversion'
    | slippage => exact hslippage'
    | network => exact hnetwork'
    | routing => exact hrouting'

end Sums

section Independence

variable {elements : Elements} {port port' : BuyingPowerAdjustmentPort} {evaluatedAt : PlainTime}

/-- What the port is asked for a contribution. -/
def requestOf (evaluatedAt : PlainTime) (c : ParsedContribution) :
    Option BuyingPowerAdjustmentRequest :=
  (eligibleGross c).map fun gross => adjustmentRequest c gross evaluatedAt

/-- What the port replies for the contribution at an index, when it is asked for it. -/
def replyAt (port : BuyingPowerAdjustmentPort) (evaluatedAt : PlainTime)
    (requests : List BuyingPowerAdjustmentRequest) (cs : List ParsedContribution) (i : Nat) :
    Option (Option Value) := do
  let c ← cs[i]?
  let request ← requestOf evaluatedAt c
  return port (requests ++ (cs.take i).filterMap (requestOf evaluatedAt) ++ [request])

/-- The line of a contribution for the reply about it. -/
def lineOf (elements : Elements) (evaluatedAt : PlainTime) (c : ParsedContribution)
    (reply : Option (Option Value)) : BuyingPowerContributionResult :=
  match eligibleGross c with
  | none => unavailableContribution c ((contributionUnavailableReasons c).map some)
  | some gross => adjustContribution elements c gross evaluatedAt (reply.getD none)

/-- Every line depends on its contribution and on the reply about it alone. -/
theorem getElem?_contributionResults (requests : List BuyingPowerAdjustmentRequest)
    (cs : List ParsedContribution) (i : Nat) :
    (contributionResults elements port evaluatedAt requests cs)[i]? =
      cs[i]?.map fun c => lineOf elements evaluatedAt c (replyAt port evaluatedAt requests cs i) := by
  induction cs generalizing requests i with
  | nil => rfl
  | cons c cs ih =>
    cases hc : eligibleGross c with
    | none =>
      have hrequest : requestOf evaluatedAt c = none := by rw [requestOf, hc, Option.map_none]
      have hresults : contributionResults elements port evaluatedAt requests (c :: cs) =
          unavailableContribution c ((contributionUnavailableReasons c).map some) ::
            contributionResults elements port evaluatedAt requests cs := by
        rw [contributionResults, hc]
      cases i with
      | zero =>
        rw [hresults, List.getElem?_cons_zero, List.getElem?_cons_zero, Option.map_some, lineOf, hc]
      | succ i =>
        have hreply : replyAt port evaluatedAt requests (c :: cs) (i + 1) =
            replyAt port evaluatedAt requests cs i := by
          rw [replyAt, replyAt, List.getElem?_cons_succ, List.take_succ_cons,
            List.filterMap_cons_none hrequest]
        rw [hresults, List.getElem?_cons_succ, List.getElem?_cons_succ, ih, hreply]
    | some gross =>
      have hrequest : requestOf evaluatedAt c = some (adjustmentRequest c gross evaluatedAt) := by
        rw [requestOf, hc, Option.map_some]
      have hresults : contributionResults elements port evaluatedAt requests (c :: cs) =
          adjustContribution elements c gross evaluatedAt
              (port (requests ++ [adjustmentRequest c gross evaluatedAt])) ::
            contributionResults elements port evaluatedAt
              (requests ++ [adjustmentRequest c gross evaluatedAt]) cs := by
        rw [contributionResults, hc]
      cases i with
      | zero =>
        have hreply : replyAt port evaluatedAt requests (c :: cs) 0 =
            some (port (requests ++ [adjustmentRequest c gross evaluatedAt])) := by
          rw [replyAt, List.getElem?_cons_zero]
          simp only [Option.bind_eq_bind, Option.bind_some, hrequest, List.take_zero,
            List.filterMap_nil, List.append_nil, Option.pure_def]
        rw [hresults, List.getElem?_cons_zero, List.getElem?_cons_zero, Option.map_some, lineOf, hc,
          hreply, Option.getD_some]
      | succ i =>
        have hreply : replyAt port evaluatedAt requests (c :: cs) (i + 1) =
            replyAt port evaluatedAt (requests ++ [adjustmentRequest c gross evaluatedAt]) cs i := by
          rw [replyAt, replyAt, List.getElem?_cons_succ, List.take_succ_cons,
            List.filterMap_cons_some hrequest, List.append_cons]
        rw [hresults, List.getElem?_cons_succ, List.getElem?_cons_succ, ih, hreply]

end Independence

section Runs

variable {elements : Elements} {port : BuyingPowerAdjustmentPort} {clock : Option Value}
  {input : Value} {request : ParsedRequest} {evaluatedAt : PlainTime}
  {cs : List ParsedContribution}

/-- What a result says about the contributions that it was calculated from. -/
structure Conserves (cs : List ParsedContribution) (r : BuyingPowerResult) : Prop where
  lines : List.Forall₂ Adjusted cs r.contributions
  supported : r.supportedPortfolioValueMantissa.value = values (cs.filterMap supportedValue)
  eligible : r.eligibleGrossValueMantissa.value = values (cs.filterMap eligibleGross)
  deductions : ∀ kind, (r.totalDeductions kind).value = deductionSum r.contributions kind
  total : r.totalDeductionUsdMantissa.value = deductionTotal r.totalDeductions
  available : r.availableBuyingPowerUsdMantissa.value = availableSum r.contributions
  conserved : r.availableBuyingPowerUsdMantissa.value + r.totalDeductionUsdMantissa.value +
    unavailableGross cs r.contributions = r.eligibleGrossValueMantissa.value
  available_le : r.availableBuyingPowerUsdMantissa.value ≤ r.eligibleGrossValueMantissa.value
  eligible_le : r.eligibleGrossValueMantissa.value ≤ r.supportedPortfolioValueMantissa.value

/-- The contributions of an accepted request at the time of a calculation. -/
structure Dated (elements : Elements) (clock : Option Value) (input : Value)
    (request : ParsedRequest) (evaluatedAt : PlainTime) (cs : List ParsedContribution) : Prop where
  accepted : parseRequest elements input = some request
  evaluated : clock.bind canonicalTimestamp = some evaluatedAt
  present : request.contributions = cs.map some

theorem visit_present (h : ∀ c ∈ cs, ¬evaluatedAt.toISOString < c.asOf.toISOString) :
    (cs.map some).mapM (visitContribution evaluatedAt) = .ok cs := by
  rw [except_mapM_ok, List.forall₂_map_left_iff, List.forall₂_same]
  exact fun c hc => if_neg (h c hc)

theorem visit_future (h : ∃ c ∈ cs, evaluatedAt.toISOString < c.asOf.toISOString) :
    (cs.map some).mapM (visitContribution evaluatedAt) = .error .invalidRequest := by
  induction cs with
  | nil =>
    obtain ⟨c, hc, -⟩ := h
    cases hc
  | cons c cs ih =>
    rw [List.map_cons, List.mapM_cons]
    by_cases hc : evaluatedAt.toISOString < c.asOf.toISOString
    · have hvisit : visitContribution evaluatedAt (some c) = .error .invalidRequest := if_pos hc
      rw [hvisit]
      rfl
    · have hvisit : visitContribution evaluatedAt (some c) = .ok c := if_neg hc
      obtain ⟨c', hc', hlt⟩ := h
      obtain rfl | hc' := List.mem_cons.mp hc'
      · exact absurd hlt hc
      · rw [hvisit, except_ok_bind, ih ⟨c', hc', hlt⟩]
        rfl

theorem limited_ok {α : Type} {x : Except BuyingPowerValidationCode α} {a : α} (h : x = .ok a) :
    limited x = .ok a := by
  rw [h]
  rfl

theorem limited_error {α : Type} {x : Except BuyingPowerValidationCode α}
    (h : ¬∃ a, x = .ok a) : limited x = .error .numericLimitExceeded := by
  cases x with
  | error e => rfl
  | ok a => exact absurd ⟨a, rfl⟩ h

/-- When the supported values can be added up, so can everything else. -/
theorem calculate_conserves (h : Dated elements clock input request evaluatedAt cs)
    (hpast : ∀ c ∈ cs, ¬evaluatedAt.toISOString < c.asOf.toISOString)
    (hlimit : values (cs.filterMap supportedValue) < 10 ^ maxUsdMantissaDigits) :
    ∃ r, calculate elements port clock input = .ok r ∧ Conserves cs r ∧
      r.contributions = contributionResults elements port evaluatedAt [] cs := by
  have hlines := @contributionResults_adjusted elements port evaluatedAt [] cs
  generalize hresults : contributionResults elements port evaluatedAt [] cs = lines at hlines
  have hspent := available_add_deductions hlines
  have hle := eligible_le_supported cs
  obtain ⟨supported, hsupported⟩ := exists_add_iff.mpr hlimit
  obtain ⟨eligible, heligible⟩ := exists_add_iff.mpr (hle.trans_lt hlimit)
  have hsupported' : supported.value = values (cs.filterMap supportedValue) :=
    addBuyingPowerUsdMantissas_ok hsupported
  have heligible' : eligible.value = values (cs.filterMap eligibleGross) :=
    addBuyingPowerUsdMantissas_ok heligible
  obtain ⟨totals, htotals, htotals'⟩ := @exists_sumDeductionBreakdowns (breakdowns lines)
    fun kind => by
      have hkind := deductionSum_le lines kind
      rw [deductionSum] at hkind
      omega
  have hdeductions : deductionTotal totals = ((breakdowns lines).map deductionTotal).sum := by
    rw [← sum_deductionSum, deductionTotal]
    simp only [htotals']
  obtain ⟨total, htotal⟩ : ∃ m, totalBuyingPowerDeductions totals = .ok m := by
    refine exists_add_iff.mpr ?_
    rw [List.map_map]
    change deductionTotal totals < _
    omega
  have htotal' := totalBuyingPowerDeductions_ok htotal
  obtain ⟨available, havailable⟩ : ∃ m, addBuyingPowerUsdMantissas
      (lines.map (·.availableBuyingPowerUsdMantissa)) = .ok m := by
    refine exists_add_iff.mpr ?_
    change availableSum lines < _
    omega
  have havailable' : available.value = availableSum lines := addBuyingPowerUsdMantissas_ok havailable
  have hvalues : lines.mapM (fun r => normalizeBuyingPowerUsdMantissa
      (.string r.availableBuyingPowerUsdMantissa.text)) =
        .ok (lines.map (·.availableBuyingPowerUsdMantissa)) := by
    rw [except_mapM_ok, List.forall₂_map_right_iff, List.forall₂_same]
    exact fun r _ => orFail_ok.mpr (Matching.ofValue_text _)
  have hconserved : available.value + total.value + unavailableGross cs lines = eligible.value := by
    omega
  have hbounds : available.value ≤ eligible.value ∧ eligible.value ≤ supported.value := by omega
  have hguard : ¬(available.value > eligible.value ∨ available.value > supported.value) := by omega
  refine ⟨{
      portfolioSnapshotId := request.portfolioSnapshotId
      evaluatedAt
      supportedPortfolioValueMantissa := supported
      eligibleGrossValueMantissa := eligible
      totalDeductions := totals
      totalDeductionUsdMantissa := total
      availableBuyingPowerUsdMantissa := available
      availability := resultAvailability lines
      unavailableReasons := resultReasons lines
      contributions := lines }, ?_, ?_, rfl⟩
  · refine except_bind_ok.mpr ⟨request, orFail_ok.mpr h.accepted, except_bind_ok.mpr
      ⟨evaluatedAt, orFail_ok.mpr h.evaluated, except_bind_ok.mpr
      ⟨cs, h.present ▸ visit_present hpast, except_bind_ok.mpr
      ⟨supported, limited_ok hsupported, except_bind_ok.mpr
      ⟨eligible, limited_ok heligible, ?_⟩⟩⟩⟩⟩
    dsimp only
    rw [hresults]
    exact except_bind_ok.mpr ⟨totals, limited_ok htotals, except_bind_ok.mpr
      ⟨total, limited_ok htotal, except_bind_ok.mpr
      ⟨available, limited_ok (except_bind_ok.mpr ⟨_, hvalues, havailable⟩), except_bind_ok.mpr
      ⟨(), failWhen_ok.mpr hguard, rfl⟩⟩⟩⟩
  · exact ⟨hlines, hsupported', heligible', htotals', htotal', havailable', hconserved,
      hbounds.1, hbounds.2⟩

/-- The limit is exceeded as soon as the supported values are added up. -/
theorem calculate_limited (h : Dated elements clock input request evaluatedAt cs)
    (hpast : ∀ c ∈ cs, ¬evaluatedAt.toISOString < c.asOf.toISOString)
    (hlimit : ¬values (cs.filterMap supportedValue) < 10 ^ maxUsdMantissaDigits) :
    calculate elements port clock input = .error .numericLimitExceeded := by
  have hrequest : orFail (parseRequest elements input) BuyingPowerCalculationFailure.invalidRequest =
      .ok request := orFail_ok.mpr h.accepted
  have hclock : orFail (clock.bind canonicalTimestamp) BuyingPowerCalculationFailure.clockFailed =
      .ok evaluatedAt := orFail_ok.mpr h.evaluated
  rw [calculate, hrequest, except_ok_bind, hclock, except_ok_bind, h.present, visit_present hpast,
    except_ok_bind, limited_error (mt exists_add_iff.mp hlimit)]
  rfl

theorem calculate_future (h : Dated elements clock input request evaluatedAt cs)
    (hfuture : ∃ c ∈ cs, evaluatedAt.toISOString < c.asOf.toISOString) :
    calculate elements port clock input = .error .invalidRequest := by
  have hrequest : orFail (parseRequest elements input) BuyingPowerCalculationFailure.invalidRequest =
      .ok request := orFail_ok.mpr h.accepted
  have hclock : orFail (clock.bind canonicalTimestamp) BuyingPowerCalculationFailure.clockFailed =
      .ok evaluatedAt := orFail_ok.mpr h.evaluated
  rw [calculate, hrequest, except_ok_bind, hclock, except_ok_bind, h.present, visit_future hfuture]
  rfl

theorem calculate_clockFailed (h : parseRequest elements input = some request)
    (hclock : clock.bind canonicalTimestamp = none) :
    calculate elements port clock input = .error .clockFailed := by
  have hrequest : orFail (parseRequest elements input) BuyingPowerCalculationFailure.invalidRequest =
      .ok request := orFail_ok.mpr h
  rw [calculate, hrequest, except_ok_bind, hclock]
  rfl

end Runs

/-- For every accepted request with its contributions at hand: a clock that fails and a contribution
from the future are refused, the limit is exceeded exactly when the supported values exceed it, and
otherwise the result conserves the eligible value. A line depends on no other reply than its own. -/
theorem buyingPower_conserved (elements : Elements) (clock : Option Value) (input : Value)
    (request : ParsedRequest) (h : parseRequest elements input = some request) :
    (clock.bind canonicalTimestamp = none → ∀ port : BuyingPowerAdjustmentPort,
      calculate elements port clock input = .error .clockFailed) ∧
    ∀ evaluatedAt cs, Dated elements clock input request evaluatedAt cs →
      ((∃ c ∈ cs, evaluatedAt.toISOString < c.asOf.toISOString) →
        ∀ port : BuyingPowerAdjustmentPort,
          calculate elements port clock input = .error .invalidRequest) ∧
      ((∀ c ∈ cs, ¬evaluatedAt.toISOString < c.asOf.toISOString) →
        (∀ port : BuyingPowerAdjustmentPort,
          (calculate elements port clock input = .error .numericLimitExceeded ↔
            maxUsdMantissaDigits <
              (integerText (values (cs.filterMap supportedValue))).length) ∧
          ((integerText (values (cs.filterMap supportedValue))).length ≤ maxUsdMantissaDigits →
            ∃ r, calculate elements port clock input = .ok r ∧ Conserves cs r)) ∧
        ∀ (port port' : BuyingPowerAdjustmentPort) r r',
          calculate elements port clock input = .ok r →
          calculate elements port' clock input = .ok r' →
          ∀ i, replyAt port evaluatedAt [] cs i = replyAt port' evaluatedAt [] cs i →
            r.contributions[i]? = r'.contributions[i]?) := by
  refine ⟨fun hclock port => calculate_clockFailed h hclock, fun evaluatedAt cs hdated =>
    ⟨fun hfuture port => calculate_future hdated hfuture, fun hpast => ⟨fun port => ?_, ?_⟩⟩⟩
  · rw [← Nat.not_le, length_integerText_le_iff]
    constructor
    · constructor
      · intro hlimited hlimit
        obtain ⟨r, hr, -⟩ := calculate_conserves hdated hpast hlimit
        rw [hr] at hlimited
        cases hlimited
      · exact calculate_limited hdated hpast
    · intro hlimit
      obtain ⟨r, hr, hconserves, -⟩ := calculate_conserves hdated hpast hlimit
      exact ⟨r, hr, hconserves⟩
  · intro port port' r r' hr hr' i hreply
    by_cases hlimit : values (cs.filterMap supportedValue) < 10 ^ maxUsdMantissaDigits
    · obtain ⟨q, hq, -, hlines⟩ := calculate_conserves hdated hpast hlimit
      obtain ⟨q', hq', -, hlines'⟩ := calculate_conserves hdated hpast hlimit
      obtain rfl := Except.ok.inj (hr.symm.trans hq)
      obtain rfl := Except.ok.inj (hr'.symm.trans hq')
      rw [hlines, hlines', getElem?_contributionResults, getElem?_contributionResults, hreply]
    · rw [calculate_limited hdated hpast hlimit] at hr
      cases hr

section Samples

/-- The items of an array without holes and accessors. -/
def plainElements (v : Value) : Option (List (Option Value)) :=
  (exactArray v 0 maxContributions).map fun items => items.map some

def sampleContribution (id value asOf : String) (supported : Bool) : Value :=
  ofFields [("contributionId", .string id), ("walletId", .string "wallet:1"),
    ("networkId", .string "eip155:1"), ("assetId", .string "USDC"),
    ("supported", .boolean supported), ("freshness", .string "CURRENT"),
    ("valuationUse", .string "CONSERVATIVE_REPORTING_ONLY"), ("usdValueMantissa", .string value),
    ("asOf", .string asOf)]

def sampleRequest (asOf : String) : Value :=
  ofFields [("portfolioSnapshotId", .string "snapshot:1"),
    ("contributions", ofItems [sampleContribution "a" "1000" asOf true,
      sampleContribution "b" "500" asOf true, sampleContribution "c" "70" asOf false])]

def sampleClock : Option Value := some (.string "2026-07-20T00:00:00.000Z")

/-- The port has an adjustment for one of the contributions and fails for the others. -/
def samplePort (requests : List BuyingPowerAdjustmentRequest) : Option Value :=
  if requests.getLast?.any (fun request => request.contributionId.text = "a") then
    some (ofFields [("status", .string "AVAILABLE"), ("quoteId", .string "quote:1"),
      ("contributionId", .string "a"), ("quotedAt", .string "2026-07-20T00:00:00.000Z"),
      ("validUntil", .string "2026-07-20T00:01:00.000Z"),
      ("deductions", ofFields [("liquidity", .string "1"), ("conversion", .string "2"),
        ("slippage", .string "3"), ("network", .string "4"), ("routing", .string "0")])])
  else none

/-- Whether a request is accepted and has all its contributions by the time of the clock. -/
def isTimely (input : Value) (clock : Option Value) : Bool :=
  (parseRequest plainElements input).any fun request =>
    (clock.bind canonicalTimestamp).any fun evaluatedAt =>
      (request.contributions.mapM (visitContribution evaluatedAt)).isOk

theorem dated_of_isTimely {input : Value} {clock : Option Value} (h : isTimely input clock = true) :
    ∃ request evaluatedAt cs, Dated plainElements clock input request evaluatedAt cs ∧
      ∀ c ∈ cs, ¬evaluatedAt.toISOString < c.asOf.toISOString := by
  obtain ⟨request, hrequest, h⟩ := (Option.any_eq_true _ _).mp h
  obtain ⟨evaluatedAt, hevaluated, h⟩ := (Option.any_eq_true _ _).mp h
  obtain ⟨cs, hcs⟩ := except_exists_of_isOk h
  have hvisited := except_mapM_ok.mp hcs
  have hitem : ∀ item c, visitContribution evaluatedAt item = .ok c →
      item = some c ∧ ¬evaluatedAt.toISOString < c.asOf.toISOString := by
    intro item c hc
    cases item with
    | none => cases hc
    | some c' =>
      by_cases hpast : evaluatedAt.toISOString < c'.asOf.toISOString
      · rw [visitContribution, if_pos hpast] at hc
        cases hc
      · rw [visitContribution, if_neg hpast] at hc
        obtain rfl := Except.ok.inj hc
        exact ⟨rfl, hpast⟩
  refine ⟨request, evaluatedAt, cs, ⟨hrequest, hevaluated, ?_⟩, fun c hc => ?_⟩
  · rw [← List.forall₂_eq_eq_eq, List.forall₂_map_right_iff]
    exact hvisited.imp fun item c hc => (hitem item c hc).1
  · obtain ⟨item, -, hc⟩ := ListOption.exists_of_mem_right hvisited hc
    exact (hitem item c hc).2

def failure? {α : Type} :
    Except BuyingPowerCalculationFailure α → Option BuyingPowerCalculationFailure
  | .error e => some e
  | .ok _ => none

theorem error_of_failure {α : Type} {x : Except BuyingPowerCalculationFailure α}
    {e : BuyingPowerCalculationFailure} (h : failure? x = some e) : x = .error e := by
  cases x with
  | error e' => rw [Option.some.inj h]
  | ok a => cases h

/-- A request from the future is accepted and its calculation refused, though no amount exceeds
the limit. -/
theorem sampleFuture_refused :
    (parseRequest plainElements (sampleRequest "2026-07-20T00:00:01.000Z")).isSome = true ∧
      calculate plainElements samplePort sampleClock (sampleRequest "2026-07-20T00:00:01.000Z") =
        .error .invalidRequest :=
  ⟨by decide, error_of_failure (by decide)⟩

/-- The amounts of a sample: of 1500 eligible, 500 get no adjustment and 10 are deducted. -/
theorem sampleRequest_conserved : ∃ request evaluatedAt cs r,
    Dated plainElements sampleClock (sampleRequest "2026-07-20T00:00:00.000Z") request
      evaluatedAt cs ∧
    calculate plainElements samplePort sampleClock (sampleRequest "2026-07-20T00:00:00.000Z") =
      .ok r ∧
    Conserves cs r ∧ r.availableBuyingPowerUsdMantissa.value = 990 ∧
    r.totalDeductionUsdMantissa.value = 10 ∧ r.eligibleGrossValueMantissa.value = 1500 := by
  have htimely : isTimely (sampleRequest "2026-07-20T00:00:00.000Z") sampleClock = true := by
    decide
  have hamounts : (calculate plainElements samplePort sampleClock
      (sampleRequest "2026-07-20T00:00:00.000Z")).toOption.any (fun r =>
        r.availableBuyingPowerUsdMantissa.value = 990 ∧ r.totalDeductionUsdMantissa.value = 10 ∧
          r.eligibleGrossValueMantissa.value = 1500) = true := by
    decide
  obtain ⟨request, evaluatedAt, cs, hdated, hpast⟩ := dated_of_isTimely htimely
  obtain ⟨r, hr, hamounts⟩ := (Option.any_eq_true _ _).mp hamounts
  have hr := toOption_eq_some.mp hr
  obtain ⟨hiff, hconserves⟩ := (((buyingPower_conserved plainElements sampleClock _ request
    hdated.accepted).2 evaluatedAt cs hdated).2 hpast).1 samplePort
  have hlimit : (integerText (values (cs.filterMap supportedValue))).length ≤
      maxUsdMantissaDigits := by
    by_contra hlimit
    rw [hiff.mpr (by omega)] at hr
    cases hr
  obtain ⟨q, hq, hq'⟩ := hconserves hlimit
  obtain rfl := Except.ok.inj (hr.symm.trans hq)
  exact ⟨request, evaluatedAt, cs, r, hdated, hr, hq', of_decide_eq_true hamounts⟩

end Samples

end CryptoLending.BuyingPower.BuyingPowerConservation
