import CryptoLending.Portfolio.PortfolioTotals

namespace CryptoLending.Portfolio.PortfolioConservation

open Lib Lib.Text Lib.Numeral Lib.DecimalText Lib.Sorting Lib.Grouping Blockchain.AssetRegistry
open BalanceSnapshot PortfolioTotals

/-- The mantissa of an amount, zero for no amount. -/
def usdMantissa (amount : Option ExactUsdAmount) : Nat :=
  (amount.map fun a => decimalValue a.mantissa.toList).getD 0

def mantissaValue (mantissa : Option String) : Nat :=
  (mantissa.map fun m => decimalValue m.toList).getD 0

section Amounts

theorem usdMantissa_eq (amount : Option ExactUsdAmount) :
    usdMantissa amount = mantissaValue (amount.map (·.mantissa)) := by
  rw [usdMantissa, mantissaValue, Option.map_map]
  rfl

theorem formatFixedDecimal_isOk {mantissa : String} {scale : Nat}
    (h : isCanonicalUint mantissa.toList = true) (hscale : scale ≤ maxDecimalScale) :
    ∃ text, formatFixedDecimal mantissa scale = .ok text := by
  rw [formatFixedDecimal, failWhen, if_neg (by simp [h, hscale])]
  by_cases hzero : scale = 0
  · exact ⟨mantissa, by rw [if_pos hzero]; rfl⟩
  · exact ⟨_, by rw [if_neg hzero]; rfl⟩

theorem exactUsdAmount_ok {mantissa : String} {amount : ExactUsdAmount}
    (h : exactUsdAmount mantissa = .ok amount) : amount.mantissa = mantissa := by
  simp only [exactUsdAmount, except_bind_ok, except_pure_ok] at h
  obtain ⟨_, _, _, _, rfl⟩ := h
  rfl

theorem exactUsdAmount_isOk {mantissa : String} (h : isCanonicalUint mantissa.toList = true)
    (hlength : mantissa.toList.length ≤ maxAggregateUsdDigits) :
    ∃ amount, exactUsdAmount mantissa = .ok amount := by
  obtain ⟨text, htext⟩ := formatFixedDecimal_isOk h (by decide : portfolioUsdScale ≤ maxDecimalScale)
  refine ⟨⟨mantissa, text⟩, ?_⟩
  rw [exactUsdAmount, failWhen, if_neg (by simp [h, hlength]), except_ok_bind, htext]
  rfl

theorem optional_ok {m : Option String} {amount : Option ExactUsdAmount}
    (h : m.mapM exactUsdAmount = .ok amount) : amount.map (·.mantissa) = m := by
  cases m with
  | none =>
    obtain rfl := Except.ok.inj h
    rfl
  | some m =>
    rw [Option.mapM_some] at h
    cases ha : exactUsdAmount m with
    | error e =>
      rw [ha] at h
      cases h
    | ok a =>
      rw [ha] at h
      obtain rfl := Except.ok.inj h
      rw [Option.map_some, exactUsdAmount_ok ha]

theorem optional_isOk {m : Option String} (h : ∀ text, m = some text →
    isCanonicalUint text.toList = true ∧ text.toList.length ≤ maxAggregateUsdDigits) :
    ∃ amount, m.mapM exactUsdAmount = .ok amount := by
  cases m with
  | none => exact ⟨none, rfl⟩
  | some text =>
    obtain ⟨hcanonical, hlength⟩ := h text rfl
    obtain ⟨amount, hamount⟩ := exactUsdAmount_isOk hcanonical hlength
    refine ⟨some amount, ?_⟩
    rw [Option.mapM_some, hamount]
    rfl

end Amounts

section Sums

theorem addMantissa_ok {sum sum' : Nat} {mantissa : String}
    (h : addMantissa sum mantissa = .ok sum') : sum' = sum + decimalValue mantissa.toList := by
  simp only [addMantissa, except_bind_ok, except_pure_ok] at h
  obtain ⟨_, _, _, _, rfl⟩ := h
  rfl

theorem addMantissas_ok {mantissas : List String} {sum sum' : Nat}
    (h : mantissas.foldlM addMantissa sum = .ok sum') :
    sum' = sum + (mantissas.map fun m => decimalValue m.toList).sum := by
  induction mantissas generalizing sum with
  | nil => exact (Except.ok.inj h).symm
  | cons m mantissas ih =>
    obtain ⟨next, hnext, h⟩ := except_bind_ok.mp h
    rw [ih h, addMantissa_ok hnext, List.map_cons, List.sum_cons, Nat.add_assoc]

theorem addMantissa_eq {sum : Nat} {mantissa : String}
    (h : isCanonicalUint mantissa.toList = true)
    (hlength : Decimal.decimalLength (sum + decimalValue mantissa.toList) ≤ maxAggregateUsdDigits) :
    addMantissa sum mantissa = .ok (sum + decimalValue mantissa.toList) := by
  simp only [addMantissa, failWhen, h, Nat.not_lt.mpr hlength, not_true, if_false, except_ok_bind]
  rfl

theorem addMantissas_isOk {mantissas : List String} {sum : Nat}
    (h : ∀ m ∈ mantissas, isCanonicalUint m.toList = true)
    (hsum : sum + (mantissas.map fun m => decimalValue m.toList).sum <
      10 ^ maxAggregateUsdDigits) :
    ∃ sum', mantissas.foldlM addMantissa sum = .ok sum' := by
  induction mantissas generalizing sum with
  | nil => exact ⟨sum, rfl⟩
  | cons m mantissas ih =>
    obtain ⟨hm, hrest⟩ := List.forall_mem_cons.mp h
    rw [List.map_cons, List.sum_cons, ← Nat.add_assoc] at hsum
    obtain ⟨sum', hsum'⟩ := ih hrest hsum
    have hlength : Decimal.decimalLength (sum + decimalValue m.toList) ≤ maxAggregateUsdDigits :=
      Decimal.decimalLength_le (by decide) ((Nat.le_add_right _ _).trans_lt hsum)
    refine ⟨sum', ?_⟩
    rw [List.foldlM_cons, addMantissa_eq hm hlength, except_ok_bind]
    exact hsum'

end Sums

section Aggregates

/-- What a contribution adds to a total. -/
def contributionValue (c : Contribution) : Nat := mantissaValue c.usdValueMantissa

theorem sum_included (contributions : List Contribution) :
    ((contributions.filterMap (·.usdValueMantissa)).map fun m => decimalValue m.toList).sum =
      (contributions.map contributionValue).sum := by
  induction contributions with
  | nil => rfl
  | cons c contributions ih =>
    cases hm : c.usdValueMantissa with
    | none =>
      rw [List.filterMap_cons_none hm, ih, List.map_cons, List.sum_cons, contributionValue,
        mantissaValue, hm]
      exact (Nat.zero_add _).symm
    | some m =>
      rw [List.filterMap_cons_some hm, List.map_cons, List.sum_cons, ih, List.map_cons,
        List.sum_cons, contributionValue, mantissaValue, hm]
      rfl

/-- Every line is included and everything is covered. -/
def IsComplete (contributions : List Contribution)
    (coverageStatuses : List IndexedBalanceCoverageStatus) : Prop :=
  (∀ c ∈ contributions, c.usdValueMantissa.isSome = true) ∧ ∀ s ∈ coverageStatuses, s = .complete

/-- The freshness of a total: that of its worst line, where everything is covered. -/
def aggregateFreshness (contributions : List Contribution)
    (coverageStatuses : List IndexedBalanceCoverageStatus) : PortfolioFreshness :=
  if coverageStatuses.all fun status => status = .complete then
    worstFreshness (contributions.map (·.freshnessClass))
  else .unavailable

/-- What a total says about the lines that it sums up. -/
structure IsAggregate (contributions : List Contribution)
    (coverageStatuses : List IndexedBalanceCoverageStatus) (total : PortfolioAggregate) : Prop where
  value : usdMantissa total.usdValue = (contributions.map contributionValue).sum
  completeness : total.completeness = .complete ↔ IsComplete contributions coverageStatuses
  freshness : total.freshnessClass = aggregateFreshness contributions coverageStatuses
  sourceCount : total.sourceCount = contributions.length
  includedSourceCount :
    total.includedSourceCount = contributions.countP (·.usdValueMantissa.isSome)

theorem length_filterMap_mantissa (contributions : List Contribution) :
    (contributions.filterMap (·.usdValueMantissa)).length =
      contributions.countP (·.usdValueMantissa.isSome) := by
  rw [List.length_filterMap_eq_countP]

theorem all_complete_iff {statuses : List IndexedBalanceCoverageStatus} :
    (statuses.all fun status => status = .complete) = true ↔ ∀ s ∈ statuses, s = .complete := by
  simp only [List.all_eq_true, decide_eq_true_eq]

theorem aggregate_ok {contributions : List Contribution}
    {coverageStatuses : List IndexedBalanceCoverageStatus} {total : PortfolioAggregate}
    (h : aggregate contributions coverageStatuses = .ok total) :
    IsAggregate contributions coverageStatuses total := by
  have hall := @all_complete_iff coverageStatuses
  rw [aggregate] at h
  by_cases hnil : contributions = []
  · subst hnil
    rw [if_pos rfl] at h
    by_cases hcoverage : (coverageStatuses.all fun status => status = .complete) = false
    · rw [if_pos hcoverage] at h
      obtain rfl := Except.ok.inj h
      have hnot : ¬IsComplete [] coverageStatuses := fun hc => by
        rw [hall.mpr hc.2] at hcoverage
        cases hcoverage
      refine ⟨rfl, iff_of_false (fun hc => by cases hc) hnot, ?_, rfl, rfl⟩
      rw [aggregateFreshness, hcoverage]
      rfl
    · rw [if_neg hcoverage] at h
      obtain ⟨amount, hamount, h⟩ := except_bind_ok.mp h
      obtain rfl := Except.ok.inj h
      rw [Bool.not_eq_false] at hcoverage
      have hzero : usdMantissa (some amount) = 0 := by
        rw [usdMantissa, Option.map_some, exactUsdAmount_ok hamount]
        rfl
      refine ⟨hzero, iff_of_true rfl ⟨fun c hc => absurd hc List.not_mem_nil, hall.mp hcoverage⟩,
        ?_, rfl, rfl⟩
      rw [aggregateFreshness, hcoverage]
      rfl
  · rw [if_neg hnil] at h
    obtain ⟨sum, hsum, h⟩ := except_bind_ok.mp h
    obtain ⟨amount, hamount, h⟩ := except_bind_ok.mp h
    obtain rfl := Except.ok.inj h
    have htotal := addMantissas_ok hsum
    rw [Nat.zero_add, sum_included] at htotal
    have hlength := length_filterMap_mantissa contributions
    have hmantissa := optional_ok hamount
    have hincluded : (∀ c ∈ contributions, c.usdValueMantissa.isSome = true) ↔
        (contributions.filterMap (·.usdValueMantissa)).length = contributions.length := by
      rw [hlength, List.countP_eq_length]
    refine ⟨?_, ?_, rfl, rfl, hlength⟩
    · rw [usdMantissa_eq, hmantissa, ← htotal]
      by_cases hempty : contributions.filterMap (·.usdValueMantissa) = []
      · have hsum' := sum_included contributions
        rw [hempty, ← htotal] at hsum'
        rw [if_pos hempty, ← hsum']
        rfl
      · rw [if_neg hempty]
        exact decimalValue_integerText sum
    · dsimp only
      rw [IsComplete, hincluded, ← hall]
      by_cases hempty : contributions.filterMap (·.usdValueMantissa) = []
      · have hne : ¬(contributions.filterMap (·.usdValueMantissa)).length = contributions.length :=
          fun heq => hnil (List.length_eq_zero_iff.mp (by rw [← heq, hempty]; rfl))
        rw [if_pos hempty]
        exact iff_of_false (fun hc => by cases hc) fun hc => hne hc.1
      · rw [if_neg hempty]
        split
        · exact iff_of_true rfl ‹_›
        · exact iff_of_false (fun hc => by cases hc) ‹_›

/-- Totals below the limit of digits are always formed. -/
theorem aggregate_isOk {contributions : List Contribution}
    (coverageStatuses : List IndexedBalanceCoverageStatus)
    (h : ∀ c ∈ contributions, ∀ m, c.usdValueMantissa = some m →
      isCanonicalUint m.toList = true)
    (hsum : (contributions.map contributionValue).sum < 10 ^ maxAggregateUsdDigits) :
    ∃ total, aggregate contributions coverageStatuses = .ok total := by
  rw [aggregate]
  by_cases hnil : contributions = []
  · rw [if_pos hnil]
    by_cases hcoverage : (coverageStatuses.all fun status => status = .complete) = false
    · rw [if_pos hcoverage]
      exact ⟨_, rfl⟩
    · obtain ⟨zero, hzero⟩ := @exactUsdAmount_isOk "0" (by decide) (by decide)
      rw [if_neg hcoverage, hzero]
      exact ⟨_, rfl⟩
  · have hcanonical : ∀ m ∈ contributions.filterMap (·.usdValueMantissa),
        isCanonicalUint m.toList = true := by
      intro m hm
      obtain ⟨c, hc, hcm⟩ := List.mem_filterMap.mp hm
      exact h c hc m hcm
    have hbound : 0 + ((contributions.filterMap (·.usdValueMantissa)).map
        fun m => decimalValue m.toList).sum < 10 ^ maxAggregateUsdDigits := by
      rwa [Nat.zero_add, sum_included]
    obtain ⟨sum, hok⟩ := addMantissas_isOk hcanonical hbound
    have hvalue := addMantissas_ok hok
    have htext : ∀ text, (if contributions.filterMap (·.usdValueMantissa) = [] then none
        else some (integerText sum)) = some text →
          isCanonicalUint text.toList = true ∧ text.toList.length ≤ maxAggregateUsdDigits := by
      intro text hsome
      obtain ⟨_, htext⟩ := Option.ite_none_left_eq_some.mp hsome
      obtain rfl := Option.some.inj htext
      rw [toList_integerText]
      exact ⟨isCanonicalUint_toDigits sum, Decimal.decimalLength_le (by decide) (hvalue ▸ hbound)⟩
    obtain ⟨amount, hamount⟩ := optional_isOk htext
    rw [if_neg hnil, hok, except_ok_bind, hamount]
    exact ⟨_, rfl⟩

end Aggregates

section Lines

/-- A line reports a balance: whose it is, what it amounts to and whether it counts. -/
structure IsLineOf (balance : ValuedPortfolioBalance) (line : PortfolioSourceBreakdown) : Prop where
  observationId : line.observationId = balance.observation.observationId
  walletId : line.walletId = balance.observation.walletId
  networkId : line.networkId = balance.observation.networkId
  asset : line.asset = balance.asset
  amount : line.balance.atomic = balance.observation.amountAtomic
  usdValue : line.usdValue.map (·.mantissa) = includedMantissa balance.valuation
  included : line.includedInOverallTotal = line.usdValue.isSome
  freshness : line.freshnessClass = lineFreshness balance.observation balance.valuation

theorem sourceBreakdown_ok {balance : ValuedPortfolioBalance} {line : PortfolioSourceBreakdown}
    (h : sourceBreakdown balance = .ok line) : IsLineOf balance line := by
  simp only [sourceBreakdown, exactAssetAmount, except_bind_ok, except_pure_ok] at h
  obtain ⟨amount, hamount, _, ⟨decimal, _, rfl⟩, rfl⟩ := h
  have hmantissa := optional_ok hamount
  refine ⟨rfl, rfl, rfl, rfl, rfl, hmantissa, ?_, rfl⟩
  dsimp only
  rw [← hmantissa, Option.isSome_map]

theorem sourceBreakdown_isOk {balance : ValuedPortfolioBalance}
    (hamount : isCanonicalUint balance.observation.amountAtomic.toList = true)
    (hdecimals : balance.registryAsset.decimals ≤ maxDecimalScale)
    (hvalue : ∀ m, includedMantissa balance.valuation = some m →
      isCanonicalUint m.toList = true ∧ m.toList.length ≤ maxAggregateUsdDigits) :
    ∃ line, sourceBreakdown balance = .ok line := by
  obtain ⟨amount, hok⟩ := optional_isOk hvalue
  obtain ⟨decimal, hdecimal⟩ := formatFixedDecimal_isOk hamount hdecimals
  rw [sourceBreakdown, hok, except_ok_bind, exactAssetAmount, hdecimal]
  exact ⟨_, rfl⟩

/-- The mantissa of a line, zero for a line without value. -/
def lineValue (line : PortfolioSourceBreakdown) : Nat := usdMantissa line.usdValue

theorem contributionValue_sourceContribution (line : PortfolioSourceBreakdown) :
    contributionValue (sourceContribution line) = lineValue line :=
  (usdMantissa_eq line.usdValue).symm

theorem sum_contributionsOf (sources : List PortfolioSourceBreakdown)
    (excludedSources : List ExcludedPortfolioSource) :
    ((contributionsOf sources excludedSources).map contributionValue).sum =
      (sources.map lineValue).sum := by
  have hexcluded : ∀ l : List ExcludedPortfolioSource,
      ((l.map fun _ => excludedContribution).map contributionValue).sum = 0 := by
    intro l
    induction l with
    | nil => rfl
    | cons x l ih =>
      rw [List.map_cons, List.map_cons, List.sum_cons, ih]
      rfl
  rw [contributionsOf, List.map_append, List.sum_append, hexcluded, Nat.add_zero, List.map_map]
  exact congrArg List.sum (List.map_congr_left fun line _ =>
    contributionValue_sourceContribution line)

theorem mem_contributionsOf {sources : List PortfolioSourceBreakdown}
    {excludedSources : List ExcludedPortfolioSource} {c : Contribution} :
    c ∈ contributionsOf sources excludedSources ↔
      (∃ s ∈ sources, sourceContribution s = c) ∨
        (excludedSources ≠ [] ∧ c = excludedContribution) := by
  rw [contributionsOf, List.mem_append, List.mem_map, List.mem_map]
  refine or_congr Iff.rfl ⟨?_, ?_⟩
  · rintro ⟨x, hx, rfl⟩
    exact ⟨List.ne_nil_of_mem hx, rfl⟩
  · rintro ⟨hne, rfl⟩
    obtain ⟨x, hx⟩ := List.exists_mem_of_ne_nil _ hne
    exact ⟨x, hx, rfl⟩

end Lines

section Groups

variable {κ : Type} [DecidableEq κ] {text : κ → String} {keys : List κ}
  {contributionsFor : κ → List Contribution}
  {coverageStatusesFor : κ → List IndexedBalanceCoverageStatus}

/-- The totals of all groups, one for each key. -/
structure AreTotals (text : κ → String) (keys : List κ) (contributionsFor : κ → List Contribution)
    (coverageStatusesFor : κ → List IndexedBalanceCoverageStatus) (totals : List (GroupTotal κ)) :
    Prop where
  keys : totals.map (·.key) = sortedKeys text keys
  aggregates : ∀ t ∈ totals,
    IsAggregate (contributionsFor t.key) (coverageStatusesFor t.key) t.toPortfolioAggregate

theorem groupedTotals_ok {totals : List (GroupTotal κ)}
    (h : groupedTotals text keys contributionsFor coverageStatusesFor = .ok totals) :
    AreTotals text keys contributionsFor coverageStatusesFor totals := by
  rw [groupedTotals, except_mapM_ok] at h
  have hgroup : ∀ k t, (do
      let total ← aggregate (contributionsFor k) (coverageStatusesFor k)
      return ({ total with key := k } : GroupTotal κ)) = .ok t →
        IsAggregate (contributionsFor t.key) (coverageStatusesFor t.key)
          t.toPortfolioAggregate ∧ t.key = k := by
    intro k t ht
    simp only [except_bind_ok, except_pure_ok] at ht
    obtain ⟨total, htotal, rfl⟩ := ht
    exact ⟨aggregate_ok htotal, rfl⟩
  obtain ⟨haggregates, hkeys⟩ := (List.forall₂_and_left _ _).mp (h.imp hgroup).flip
  refine ⟨?_, haggregates⟩
  rw [← List.forall₂_eq_eq_eq, List.forall₂_map_left_iff]
  exact hkeys

theorem groupedTotals_isOk (h : ∀ k ∈ keys, ∃ total,
    aggregate (contributionsFor k) (coverageStatusesFor k) = .ok total) :
    ∃ totals, groupedTotals text keys contributionsFor coverageStatusesFor = .ok totals := by
  rw [groupedTotals]
  refine except_mapM_isOk fun k hk => ?_
  obtain ⟨total, htotal⟩ := h k (mem_sortedKeys.mp hk)
  rw [htotal]
  exact ⟨_, rfl⟩

/-- Each key has exactly one total. -/
theorem AreTotals.mem_keys {totals : List (GroupTotal κ)}
    (h : AreTotals text keys contributionsFor coverageStatusesFor totals) :
    (totals.map (·.key)).Nodup ∧ ∀ k, k ∈ totals.map (·.key) ↔ k ∈ keys := by
  rw [h.keys]
  exact ⟨nodup_sortedKeys text keys, fun k => mem_sortedKeys⟩

/-- The totals of the groups add up to the lines. -/
theorem AreTotals.sum {totals : List (GroupTotal κ)} {sources : List PortfolioSourceBreakdown}
    {keyOf : PortfolioSourceBreakdown → κ} {excludedFor : κ → List ExcludedPortfolioSource}
    (h : AreTotals text keys
      (fun k => contributionsOf (sources.filter fun s => keyOf s = k) (excludedFor k))
      coverageStatusesFor totals) (hkeys : ∀ s ∈ sources, keyOf s ∈ keys) :
    (totals.map fun t => usdMantissa t.usdValue).sum = (sources.map lineValue).sum := by
  have hvalues : (totals.map fun t => usdMantissa t.usdValue) =
      (totals.map (·.key)).map fun k =>
        ((sources.filter fun s => keyOf s = k).map lineValue).sum := by
    rw [List.map_map]
    apply List.map_congr_left
    intro t ht
    rw [(h.aggregates t ht).value, sum_contributionsOf]
    rfl
  rw [hvalues, h.keys]
  exact sum_groups keyOf lineValue (nodup_sortedKeys text keys)
    fun s hs => mem_sortedKeys.mpr (hkeys s hs)

end Groups

section Conservation

/-- What belongs to a total. -/
structure Scope where
  line : PortfolioSourceBreakdown → Prop
  excluded : ExcludedPortfolioSource → Prop
  target : IndexedPortfolioBalanceCoverageTarget → Prop

def wholeScope : Scope := ⟨fun _ => True, fun _ => True, fun _ => True⟩

def walletScope (walletId : String) : Scope :=
  ⟨fun s => s.walletId = walletId, fun x => x.walletId = walletId, fun t => t.walletId = walletId⟩

def chainScope (networkId : String) : Scope :=
  ⟨fun s => s.networkId = networkId, fun x => x.networkId = networkId,
    fun t => t.networkId = networkId⟩

/-- Excluded balances have no known asset. -/
def assetScope (stablecoin : SupportedStablecoin) : Scope :=
  ⟨fun s => s.asset.stablecoin = stablecoin, fun _ => False,
    fun t => isActiveOn stablecoin t.networkId = true⟩

variable {p : UnifiedPortfolio}

/-- Every line of the scope is included, none is excluded and every target is covered. -/
def CompleteIn (p : UnifiedPortfolio) (scope : Scope) : Prop :=
  (∀ s ∈ p.sources, scope.line s → s.includedInOverallTotal = true) ∧
    (∀ x ∈ p.excludedSources, ¬scope.excluded x) ∧
      ∀ t ∈ p.balanceCoverage.targets, scope.target t → t.status = .complete

/-- The sum of the values of the included lines. -/
def includedValue (p : UnifiedPortfolio) : Nat :=
  ((p.sources.filter (·.includedInOverallTotal)).map lineValue).sum

def walletKeys (p : UnifiedPortfolio) : List String :=
  p.sources.map (·.walletId) ++ p.excludedSources.map (·.walletId) ++
    p.balanceCoverage.targets.map (·.walletId)

def chainKeys (p : UnifiedPortfolio) : List String :=
  p.sources.map (·.networkId) ++ p.excludedSources.map (·.networkId) ++
    p.balanceCoverage.targets.map (·.networkId)

def assetKeys (p : UnifiedPortfolio) : List SupportedStablecoin :=
  p.sources.map (·.asset.stablecoin)

/-- The totals of one grouping: each key once, all lines summed, completeness exact. -/
structure GroupsConserve {κ : Type} (p : UnifiedPortfolio) (keys : List κ) (scope : κ → Scope)
    (totals : List (GroupTotal κ)) : Prop where
  once : (totals.map (·.key)).Nodup
  keys : ∀ k, k ∈ totals.map (·.key) ↔ k ∈ keys
  sum : (totals.map fun t => usdMantissa t.usdValue).sum = includedValue p
  completeness : ∀ t ∈ totals, t.completeness = .complete ↔ CompleteIn p (scope t.key)

/-- Nothing that was requested is lost or counted twice, in whichever way it is grouped. -/
structure Conserves (request : BuildUnifiedPortfolioRequest) (p : UnifiedPortfolio) : Prop where
  sources : ∃ lines, List.Forall₂ IsLineOf request.valuedBalances lines ∧ p.sources.Perm lines
  excludedSources : p.excludedSources.Perm (request.excludedBalances.map excludedSource)
  overall : usdMantissa p.overallTotal.usdValue = includedValue p
  overallCompleteness : p.overallTotal.completeness = .complete ↔ CompleteIn p wholeScope
  wallets : GroupsConserve p (walletKeys p) walletScope p.walletTotals
  chains : GroupsConserve p (chainKeys p) chainScope p.chainTotals
  assets : GroupsConserve p (assetKeys p) assetScope p.assetTotals

/-- Lines without value add nothing. -/
theorem sum_included_lines {sources : List PortfolioSourceBreakdown}
    (h : ∀ s ∈ sources, s.includedInOverallTotal = s.usdValue.isSome) :
    ((sources.filter (·.includedInOverallTotal)).map lineValue).sum =
      (sources.map lineValue).sum := by
  induction sources with
  | nil => rfl
  | cons s sources ih =>
    obtain ⟨hs, hrest⟩ := List.forall_mem_cons.mp h
    rw [List.map_cons, List.sum_cons, ← ih hrest]
    cases hvalue : s.usdValue with
    | none =>
      rw [hvalue] at hs
      rw [List.filter_cons_of_neg (by rw [hs]; exact Bool.false_ne_true), lineValue, hvalue]
      exact (Nat.zero_add _).symm
    | some amount =>
      rw [hvalue] at hs
      rw [List.filter_cons_of_pos hs, List.map_cons, List.sum_cons]

theorem isComplete_iff {sources : List PortfolioSourceBreakdown}
    {excludedSources : List ExcludedPortfolioSource}
    {statuses : List IndexedBalanceCoverageStatus}
    (h : ∀ s ∈ sources, s.includedInOverallTotal = s.usdValue.isSome) :
    IsComplete (contributionsOf sources excludedSources) statuses ↔
      (∀ s ∈ sources, s.includedInOverallTotal = true) ∧ excludedSources = [] ∧
        ∀ s ∈ statuses, s = .complete := by
  rw [IsComplete, ← and_assoc]
  refine and_congr_left fun _ => ⟨fun hall => ⟨fun s hs => ?_, ?_⟩, ?_⟩
  · have hsome := hall _ (mem_contributionsOf.2 (.inl ⟨s, hs, rfl⟩))
    rwa [h s hs, ← Option.isSome_map]
  · by_contra hne
    exact Bool.false_ne_true (hall _ (mem_contributionsOf.2 (.inr ⟨hne, rfl⟩)))
  · rintro ⟨hincluded, rfl⟩ c hc
    obtain ⟨s, hs, rfl⟩ | ⟨hne, _⟩ := mem_contributionsOf.1 hc
    · have hsome := hincluded s hs
      rw [h s hs] at hsome
      rwa [sourceContribution, Option.isSome_map]
    · exact absurd rfl hne

/-- The freshness of an empty total of a stale snapshot is patched. -/
def patchFreshness (snapshotFreshness : IndexedBalanceFreshness) (total : PortfolioAggregate) :
    PortfolioAggregate :=
  if snapshotFreshness = .stale ∧ total.freshnessClass = .current then
    { total with freshnessClass := .stale }
  else total

/-- How the parts of a portfolio come about. -/
structure IsPortfolioOf (request : BuildUnifiedPortfolioRequest) (p : UnifiedPortfolio) : Prop where
  sources : ∃ lines, List.Forall₂ IsLineOf request.valuedBalances lines ∧ p.sources.Perm lines
  excludedSources : p.excludedSources.Perm (request.excludedBalances.map excludedSource)
  coverage : p.balanceCoverage = request.balanceCoverage
  freshness : p.balanceSnapshot.freshnessClass = request.balanceSnapshotFreshness
  overall : ∃ total, IsAggregate (contributionsOf p.sources p.excludedSources)
    (p.balanceCoverage.targets.map (·.status)) total ∧
      p.overallTotal = patchFreshness request.balanceSnapshotFreshness total
  wallets : AreTotals id (walletKeys p)
    (fun k => contributionsOf (p.sources.filter fun s => s.walletId = k)
      (p.excludedSources.filter fun x => x.walletId = k))
    (fun k => (p.balanceCoverage.targets.filter fun t => t.walletId = k).map (·.status))
    p.walletTotals
  chains : AreTotals id (chainKeys p)
    (fun k => contributionsOf (p.sources.filter fun s => s.networkId = k)
      (p.excludedSources.filter fun x => x.networkId = k))
    (fun k => (p.balanceCoverage.targets.filter fun t => t.networkId = k).map (·.status))
    p.chainTotals
  assets : AreTotals SupportedStablecoin.text (assetKeys p)
    (fun k => contributionsOf (p.sources.filter fun s => s.asset.stablecoin = k) [])
    (fun k => (p.balanceCoverage.targets.filter fun t => isActiveOn k t.networkId).map (·.status))
    p.assetTotals

theorem buildUnifiedPortfolio_ok {localeCompare : String → String → Ordering}
    {request : BuildUnifiedPortfolioRequest}
    (h : buildUnifiedPortfolio localeCompare request = .ok p) : IsPortfolioOf request p := by
  simp only [buildUnifiedPortfolio, except_bind_ok, except_pure_ok, except_mapM_ok] at h
  obtain ⟨lines, hlines, wallets, hwallets, chains, hchains, assets, hassets, total, htotal, rfl⟩ := h
  exact
    { sources := ⟨lines, hlines.imp fun _ _ hline => sourceBreakdown_ok hline, sortBy_perm _ _⟩
      excludedSources := sortBy_perm _ _
      coverage := rfl
      freshness := rfl
      overall := ⟨total, aggregate_ok htotal, rfl⟩
      wallets := groupedTotals_ok hwallets
      chains := groupedTotals_ok hchains
      assets := groupedTotals_ok hassets }

theorem IsPortfolioOf.included {request : BuildUnifiedPortfolioRequest}
    (h : IsPortfolioOf request p) : ∀ s ∈ p.sources, s.includedInOverallTotal = s.usdValue.isSome := by
  obtain ⟨lines, hlines, hperm⟩ := h.sources
  intro s hs
  obtain ⟨b, _, hline⟩ := ListOption.exists_of_mem_right hlines (hperm.mem_iff.mp hs)
  exact hline.included

/-- The totals of a grouping conserve the lines when each line has its key. -/
theorem groupsConserve {κ : Type} [DecidableEq κ] {text : κ → String} {keys : List κ}
    {keyOf : PortfolioSourceBreakdown → κ} {excludedFor : κ → List ExcludedPortfolioSource}
    {targetsFor : κ → List IndexedPortfolioBalanceCoverageTarget} {scope : κ → Scope}
    {totals : List (GroupTotal κ)}
    (h : AreTotals text keys
      (fun k => contributionsOf (p.sources.filter fun s => keyOf s = k) (excludedFor k))
      (fun k => (targetsFor k).map (·.status)) totals)
    (hincluded : ∀ s ∈ p.sources, s.includedInOverallTotal = s.usdValue.isSome)
    (hkeys : ∀ s ∈ p.sources, keyOf s ∈ keys)
    (hlines : ∀ k s, (scope k).line s ↔ keyOf s = k)
    (hexcluded : ∀ k, excludedFor k = [] ↔ ∀ x ∈ p.excludedSources, ¬(scope k).excluded x)
    (htargets : ∀ k t, t ∈ targetsFor k ↔ t ∈ p.balanceCoverage.targets ∧ (scope k).target t) :
    GroupsConserve p keys scope totals := by
  obtain ⟨honce, hmem⟩ := h.mem_keys
  refine ⟨honce, hmem, (h.sum hkeys).trans (sum_included_lines hincluded).symm, fun t ht => ?_⟩
  rw [(h.aggregates t ht).completeness,
    isComplete_iff fun s hs => hincluded s (List.mem_of_mem_filter hs), CompleteIn, hexcluded]
  refine and_congr ?_ (and_congr_right fun _ => ?_)
  · simp only [List.mem_filter, decide_eq_true_eq, hlines, and_imp]
  · rw [List.forall_mem_map]
    simp only [htargets, and_imp]

theorem filter_eq_nil_iff_scope {q : ExcludedPortfolioSource → Prop} [DecidablePred q]
    {l : List ExcludedPortfolioSource} :
    (l.filter fun x => q x) = [] ↔ ∀ x ∈ l, ¬q x := by
  simp only [List.filter_eq_nil_iff, decide_eq_true_eq]

theorem IsPortfolioOf.conserves {request : BuildUnifiedPortfolioRequest}
    (h : IsPortfolioOf request p) : Conserves request p := by
  have hincluded := h.included
  obtain ⟨total, htotal, hoverall⟩ := h.overall
  have hvalue : p.overallTotal.usdValue = total.usdValue := by
    rw [hoverall, patchFreshness]
    split <;> rfl
  have hcompleteness : p.overallTotal.completeness = total.completeness := by
    rw [hoverall, patchFreshness]
    split <;> rfl
  refine ⟨h.sources, h.excludedSources, ?_, ?_, ?_, ?_, ?_⟩
  · rw [hvalue, htotal.value, sum_contributionsOf, includedValue, sum_included_lines hincluded]
  · rw [hcompleteness, htotal.completeness, isComplete_iff hincluded, CompleteIn,
      List.eq_nil_iff_forall_not_mem, List.forall_mem_map]
    simp only [wholeScope, not_true, forall_true_left]
  · refine groupsConserve h.wallets hincluded (fun s hs => ?_) (fun _ _ => Iff.rfl)
      (fun _ => filter_eq_nil_iff_scope) fun k t => ?_
    · exact List.mem_append_left _ (List.mem_append_left _ (List.mem_map_of_mem hs))
    · rw [List.mem_filter, decide_eq_true_eq]
      rfl
  · refine groupsConserve h.chains hincluded (fun s hs => ?_) (fun _ _ => Iff.rfl)
      (fun _ => filter_eq_nil_iff_scope) fun k t => ?_
    · exact List.mem_append_left _ (List.mem_append_left _ (List.mem_map_of_mem hs))
    · rw [List.mem_filter, decide_eq_true_eq]
      rfl
  · refine groupsConserve h.assets hincluded (fun s hs => List.mem_map_of_mem hs)
      (fun _ _ => Iff.rfl) (fun _ => iff_of_true rfl fun _ _ => id) fun k t => List.mem_filter

end Conservation

end CryptoLending.Portfolio.PortfolioConservation
