import CryptoLending.Portfolio.PortfolioRequest

namespace CryptoLending.Portfolio.PortfolioFreshness

open Lib Lib.Sorting Lib.Grouping Blockchain.AssetRegistry BalanceSnapshot PortfolioTotals
open PortfolioConservation PortfolioRequest

def badness : PortfolioFreshness → Nat
  | .current => 0
  | .stale => 1
  | .unavailable => 2

section Aggregates

theorem badness_le_worstFreshness {values : List PortfolioFreshness} {f : PortfolioFreshness}
    (h : f ∈ values) : badness f ≤ badness (worstFreshness values) := by
  rw [worstFreshness]
  split
  · cases f <;> decide
  · rename_i hunavailable
    split
    · cases f with
      | current | stale => decide
      | unavailable => exact absurd h hunavailable
    · rename_i hstale
      cases f with
      | current => decide
      | stale => exact absurd h hstale
      | unavailable => exact absurd h hunavailable

theorem worstFreshness_eq_current {values : List PortfolioFreshness} :
    worstFreshness values = .current ↔ ∀ f ∈ values, f = .current := by
  constructor
  · intro h f hf
    have hle := badness_le_worstFreshness hf
    rw [h] at hle
    cases f with
    | current => rfl
    | stale | unavailable => exact absurd hle (by decide)
  · intro h
    have hunavailable : .unavailable ∉ values := fun hmem => PortfolioFreshness.noConfusion (h _ hmem)
    have hstale : .stale ∉ values := fun hmem => PortfolioFreshness.noConfusion (h _ hmem)
    rw [worstFreshness, if_neg hunavailable, if_neg hstale]

variable {contributions : List Contribution}
  {coverageStatuses : List IndexedBalanceCoverageStatus} {total : PortfolioAggregate}

theorem badness_le_total (h : IsAggregate contributions coverageStatuses total)
    {c : Contribution} (hc : c ∈ contributions) :
    badness c.freshnessClass ≤ badness total.freshnessClass := by
  rw [h.freshness, aggregateFreshness]
  split
  · exact badness_le_worstFreshness (List.mem_map_of_mem hc)
  · cases c.freshnessClass <;> decide

/-- A total is current when everything is covered and every line is current. -/
theorem total_current_iff (h : IsAggregate contributions coverageStatuses total) :
    total.freshnessClass = .current ↔
      (∀ s ∈ coverageStatuses, s = .complete) ∧ ∀ c ∈ contributions, c.freshnessClass = .current := by
  rw [h.freshness, aggregateFreshness, ← all_complete_iff]
  split
  · rename_i hcoverage
    rw [worstFreshness_eq_current, List.forall_mem_map]
    exact (and_iff_right hcoverage).symm
  · rename_i hcoverage
    exact iff_of_false (fun hf => by cases hf) fun hf => hcoverage hf.1

end Aggregates

section Portfolios

variable {p : UnifiedPortfolio} {request : BuildUnifiedPortfolioRequest}
  {snapshot : IndexedPortfolioBalanceSnapshot}

/-- No total and no line looks current. -/
structure NeverCurrent (p : UnifiedPortfolio) : Prop where
  overall : p.overallTotal.freshnessClass ≠ .current
  wallets : ∀ t ∈ p.walletTotals, t.freshnessClass ≠ .current
  chains : ∀ t ∈ p.chainTotals, t.freshnessClass ≠ .current
  assets : ∀ t ∈ p.assetTotals, t.freshnessClass ≠ .current
  sources : ∀ s ∈ p.sources, s.freshnessClass ≠ .current

/-- A total is no better than each of its lines. -/
def BoundsLines {κ : Type} (p : UnifiedPortfolio) (scope : κ → Scope)
    (totals : List (GroupTotal κ)) : Prop :=
  ∀ t ∈ totals, ∀ s ∈ p.sources, (scope t.key).line s →
    badness s.freshnessClass ≤ badness t.freshnessClass

structure GroupsBoundLines (p : UnifiedPortfolio) : Prop where
  wallets : BoundsLines p walletScope p.walletTotals
  chains : BoundsLines p chainScope p.chainTotals
  assets : BoundsLines p assetScope p.assetTotals

theorem boundsLines {κ : Type} [DecidableEq κ] {text : κ → String} {keys : List κ}
    {keyOf : PortfolioSourceBreakdown → κ} {excludedFor : κ → List ExcludedPortfolioSource}
    {statusesFor : κ → List IndexedBalanceCoverageStatus} {scope : κ → Scope}
    {totals : List (GroupTotal κ)}
    (h : AreTotals text keys
      (fun k => contributionsOf (p.sources.filter fun s => keyOf s = k) (excludedFor k))
      statusesFor totals)
    (hlines : ∀ k s, (scope k).line s → keyOf s = k) : BoundsLines p scope totals := by
  intro t ht s hs hline
  have hmem : s ∈ p.sources.filter fun s => keyOf s = t.key :=
    List.mem_filter.mpr ⟨hs, decide_eq_true (hlines _ _ hline)⟩
  exact badness_le_total (h.aggregates t ht) (mem_contributionsOf.mpr (.inl ⟨s, hmem, rfl⟩))

theorem groupsBoundLines (h : IsPortfolioOf request p) : GroupsBoundLines p where
  wallets := boundsLines h.wallets fun _ _ hline => hline
  chains := boundsLines h.chains fun _ _ hline => hline
  assets := boundsLines h.assets fun _ _ hline => hline

/-- The lines and the excluded lines are those of the observations. -/
theorem exists_line_iff (h : IsPortfolioOf request p) (hbuilt : BuiltFrom snapshot request)
    {κ : Type} {lineKey : PortfolioSourceBreakdown → κ} {excludedKey : ExcludedPortfolioSource → κ}
    {observationKey : IndexedPortfolioBalanceObservation → κ}
    (hline : ∀ b line, IsLineOf b line → lineKey line = observationKey b.observation)
    (hexcluded : ∀ o, excludedKey (excludedSource o) = observationKey o) (k : κ) :
    ((∃ s ∈ p.sources, lineKey s = k) ∨ ∃ x ∈ p.excludedSources, excludedKey x = k) ↔
      ∃ o ∈ snapshot.observations, observationKey o = k := by
  obtain ⟨lines, hlines, hperm⟩ := h.sources
  have hkeys : (p.sources.map lineKey ++ p.excludedSources.map excludedKey).Perm
      (snapshot.observations.map observationKey) := by
    have hmap : lines.map lineKey =
        (request.valuedBalances.map (·.observation)).map observationKey := by
      rw [List.map_map, ← List.forall₂_eq_eq_eq, List.forall₂_map_left_iff,
        List.forall₂_map_right_iff]
      exact (hlines.imp fun b line hl => hline b line hl).flip
    have hmap' : (request.excludedBalances.map excludedSource).map excludedKey =
        request.excludedBalances.map observationKey := by
      rw [List.map_map]
      exact List.map_congr_left fun o _ => hexcluded o
    have happend := (hperm.map lineKey).append (h.excludedSources.map excludedKey)
    rw [hmap, hmap', ← List.map_append] at happend
    exact happend.trans (hbuilt.observations.map observationKey)
  simpa only [List.mem_append, List.mem_map] using hkeys.mem_iff

theorem lineFreshness_of_stale {o : IndexedPortfolioBalanceObservation}
    (h : o.freshnessClass = .stale) (valuation : ValuationTexts) :
    lineFreshness o valuation ≠ .current := by
  rw [lineFreshness]
  split
  · exact fun hf => PortfolioFreshness.noConfusion hf
  · rw [if_pos (Or.inl h)]
    exact fun hf => PortfolioFreshness.noConfusion hf

/-- The lines of a stale snapshot are not current. -/
theorem sources_of_stale (h : IsPortfolioOf request p) (hbuilt : BuiltFrom snapshot request)
    (haccepted : Accepted snapshot) (hstale : snapshot.freshnessClass = .stale) :
    ∀ s ∈ p.sources, s.freshnessClass ≠ .current := by
  obtain ⟨lines, hlines, hperm⟩ := h.sources
  intro s hs
  obtain ⟨b, hb, hline⟩ := ListOption.exists_of_mem_right
    ((List.forall₂_and_left _ _).mpr ⟨fun b hb => hb, hlines⟩) (hperm.mem_iff.mp hs)
  have hobservation := hbuilt.observations.mem_iff.mp
    (List.mem_append_left _ (List.mem_map_of_mem hline.1))
  rw [hline.2.freshness]
  exact lineFreshness_of_stale (haccepted.stale hstale _ hobservation) _

/-- A total of lines that are not current is current when it has no lines and everything
is covered: no observation then tells how old the balance is. -/
theorem total_current_iff_silent {sources : List PortfolioSourceBreakdown}
    {excludedSources : List ExcludedPortfolioSource}
    {coverageStatuses : List IndexedBalanceCoverageStatus} {total : PortfolioAggregate}
    (h : IsAggregate (contributionsOf sources excludedSources) coverageStatuses total)
    (hsources : ∀ s ∈ sources, s.freshnessClass ≠ .current) :
    total.freshnessClass = .current ↔
      (∀ s ∈ coverageStatuses, s = .complete) ∧ sources = [] ∧ excludedSources = [] := by
  rw [total_current_iff h]
  refine and_congr_right fun _ => ⟨fun hall => ⟨?_, ?_⟩, ?_⟩
  · by_contra hne
    obtain ⟨s, hs⟩ := List.exists_mem_of_ne_nil _ hne
    exact hsources s hs (hall _ (mem_contributionsOf.mpr (.inl ⟨s, hs, rfl⟩)))
  · by_contra hne
    exact PortfolioFreshness.noConfusion (hall _ (mem_contributionsOf.mpr (.inr ⟨hne, rfl⟩)))
  · rintro ⟨rfl, rfl⟩ c hc
    exact absurd hc List.not_mem_nil

/-- Every group of covered targets has an observation. -/
def Observed (snapshot : IndexedPortfolioBalanceSnapshot)
    (targetKey : IndexedPortfolioBalanceCoverageTarget → String)
    (observationKey : IndexedPortfolioBalanceObservation → String) : Prop :=
  ∀ t ∈ snapshot.coverage.targets,
    (∀ u ∈ snapshot.coverage.targets, targetKey u = targetKey t → u.status = .complete) →
      ∃ o ∈ snapshot.observations, observationKey o = targetKey t

/-- No wallet and no network of the snapshot is fully covered without an observation. -/
structure NoSilentGroup (snapshot : IndexedPortfolioBalanceSnapshot) : Prop where
  wallets : Observed snapshot (·.walletId) (·.walletId)
  networks : Observed snapshot (·.networkId) (·.networkId)

/-- The totals of a grouping of a stale snapshot never look current when every fully covered
group has an observation. -/
theorem totals_not_current_iff (h : IsPortfolioOf request p) (hbuilt : BuiltFrom snapshot request)
    (hsources : ∀ s ∈ p.sources, s.freshnessClass ≠ .current)
    {lineKey : PortfolioSourceBreakdown → String} {excludedKey : ExcludedPortfolioSource → String}
    {observationKey : IndexedPortfolioBalanceObservation → String}
    {targetKey : IndexedPortfolioBalanceCoverageTarget → String}
    (hline : ∀ b line, IsLineOf b line → lineKey line = observationKey b.observation)
    (hexcluded : ∀ o, excludedKey (excludedSource o) = observationKey o)
    {totals : List (GroupTotal String)}
    (htotals : AreTotals id
      (p.sources.map lineKey ++ p.excludedSources.map excludedKey ++
        p.balanceCoverage.targets.map targetKey)
      (fun k => contributionsOf (p.sources.filter fun s => lineKey s = k)
        (p.excludedSources.filter fun x => excludedKey x = k))
      (fun k => (p.balanceCoverage.targets.filter fun t => targetKey t = k).map (·.status))
      totals) :
    (∀ t ∈ totals, t.freshnessClass ≠ .current) ↔ Observed snapshot targetKey observationKey := by
  have hexists := exists_line_iff h hbuilt hline hexcluded
  have hcoverage : p.balanceCoverage = snapshot.coverage := h.coverage.trans hbuilt.coverage
  have hcurrent : ∀ t ∈ totals, t.freshnessClass = .current ↔
      (∀ u ∈ snapshot.coverage.targets, targetKey u = t.key → u.status = .complete) ∧
        ¬∃ o ∈ snapshot.observations, observationKey o = t.key := by
    intro t ht
    rw [total_current_iff_silent (htotals.aggregates t ht)
      fun s hs => hsources s (List.mem_of_mem_filter hs), ← hexists, hcoverage]
    simp only [List.forall_mem_map, List.mem_filter, decide_eq_true_eq, and_imp,
      List.filter_eq_nil_iff, not_or, not_exists, not_and]
  obtain ⟨_, hkeys⟩ := htotals.mem_keys
  constructor
  · intro hnever t ht hcomplete
    have hmem : targetKey t ∈ totals.map (·.key) := by
      rw [hkeys]
      exact List.mem_append_right _ (List.mem_map_of_mem (hcoverage ▸ ht))
    obtain ⟨total, htotal, hkey⟩ := List.mem_map.mp hmem
    by_contra hnone
    rw [← hkey] at hcomplete hnone
    exact hnever total htotal ((hcurrent total htotal).mpr ⟨hcomplete, hnone⟩)
  · intro hobserved total htotal hfresh
    obtain ⟨hcomplete, hnone⟩ := (hcurrent total htotal).mp hfresh
    have hmem := (hkeys total.key).mp (List.mem_map_of_mem htotal)
    rw [List.mem_append, List.mem_append] at hmem
    obtain hmem | hmem := hmem
    · simp only [List.mem_map] at hmem
      exact hnone ((hexists total.key).mp hmem)
    · obtain ⟨t, ht, hkey⟩ := List.mem_map.mp hmem
      rw [hcoverage] at ht
      rw [← hkey] at hcomplete hnone
      exact hnone (hobserved t ht hcomplete)

/-- A total with lines of its own is not current when they are not. -/
theorem assets_not_current (h : IsPortfolioOf request p)
    (hsources : ∀ s ∈ p.sources, s.freshnessClass ≠ .current) :
    ∀ t ∈ p.assetTotals, t.freshnessClass ≠ .current := by
  intro t ht hfresh
  have hnil := ((total_current_iff_silent (h.assets.aggregates t ht)
    fun s hs => hsources s (List.mem_of_mem_filter hs)).mp hfresh).2.1
  have hmem := (h.assets.mem_keys.2 t.key).mp (List.mem_map_of_mem ht)
  obtain ⟨s, hs, hkey⟩ := List.mem_map.mp hmem
  exact List.filter_eq_nil_iff.mp hnil s hs (decide_eq_true hkey)

theorem patchFreshness_ne_current (total : PortfolioAggregate) :
    (patchFreshness .stale total).freshnessClass ≠ .current := by
  rw [patchFreshness]
  split
  · exact fun hf => PortfolioFreshness.noConfusion hf
  · rename_i hnot
    exact fun hf => hnot ⟨rfl, hf⟩

theorem neverCurrent_iff (h : IsPortfolioOf request p) (hbuilt : BuiltFrom snapshot request)
    (haccepted : Accepted snapshot) (hstale : snapshot.freshnessClass = .stale) :
    NeverCurrent p ↔ NoSilentGroup snapshot := by
  have hsources := sources_of_stale h hbuilt haccepted hstale
  have hwallets := totals_not_current_iff h hbuilt hsources (fun _ _ hline => hline.walletId)
    (fun _ => rfl) h.wallets
  have hchains := totals_not_current_iff h hbuilt hsources (fun _ _ hline => hline.networkId)
    (fun _ => rfl) h.chains
  obtain ⟨total, _, hoverall⟩ := h.overall
  constructor
  · intro hnever
    exact ⟨hwallets.mp hnever.wallets, hchains.mp hnever.chains⟩
  · intro hsilent
    refine ⟨?_, hwallets.mpr hsilent.wallets, hchains.mpr hsilent.networks,
      assets_not_current h hsources, hsources⟩
    rw [hoverall, hbuilt.freshness, hstale]
    exact patchFreshness_ne_current total

end Portfolios

/-- Totals are as bad as their lines, and a stale snapshot never looks current, exactly when no
wallet and no network of a stale snapshot is fully covered without an observation. -/
theorem buildUnifiedPortfolio_stale_iff (localeCompare : String → String → Ordering)
    {v evaluatedAt expectedWallets : JsValue.Value} {snapshot : IndexedPortfolioBalanceSnapshot}
    (hsnapshot : parseIndexedPortfolioBalanceSnapshot localeCompare v evaluatedAt expectedWallets =
      .ok snapshot)
    {request : BuildUnifiedPortfolioRequest} (hbuilt : BuiltFrom snapshot request)
    {p : UnifiedPortfolio} (hp : buildUnifiedPortfolio localeCompare request = .ok p) :
    ((snapshot.freshnessClass = .stale → NeverCurrent p) ∧ GroupsBoundLines p) ↔
      (snapshot.freshnessClass = .stale → NoSilentGroup snapshot) := by
  have h := buildUnifiedPortfolio_ok hp
  rw [and_iff_left (groupsBoundLines h)]
  exact forall_congr' fun hstale => neverCurrent_iff h hbuilt (accepted_of_parse hsnapshot) hstale

section Sample

/-- The freshness of a snapshot and of the wallet totals of its portfolio. -/
def walletFreshness (v : JsValue.Value) :
    Option (IndexedBalanceFreshness × List PortfolioFreshness) := do
  let snapshot ← (parseIndexedPortfolioBalanceSnapshot compareCodeUnits v (.string sampleTime)
    sampleRegistrations).toOption
  let p ← (buildUnifiedPortfolio compareCodeUnits
    (portfolioRequest sampleTime sampleEvidence snapshot)).toOption
  return (snapshot.freshnessClass, p.walletTotals.map (·.freshnessClass))

theorem exists_of_walletFreshness {v : JsValue.Value} {f : IndexedBalanceFreshness}
    {fs : List PortfolioFreshness} (h : walletFreshness v = some (f, fs)) : ∃ snapshot p,
      parseIndexedPortfolioBalanceSnapshot compareCodeUnits v (.string sampleTime)
        sampleRegistrations = .ok snapshot ∧
        buildUnifiedPortfolio compareCodeUnits
          (portfolioRequest sampleTime sampleEvidence snapshot) = .ok p ∧
            snapshot.freshnessClass = f ∧ p.walletTotals.map (·.freshnessClass) = fs := by
  rw [walletFreshness] at h
  obtain ⟨snapshot, hsnapshot, h⟩ := Option.bind_eq_some_iff.mp h
  obtain ⟨p, hp, h⟩ := Option.bind_eq_some_iff.mp h
  obtain ⟨hfreshness, htotals⟩ := Prod.mk.inj (Option.some.inj h)
  exact ⟨snapshot, p, toOption_eq_some.mp hsnapshot, toOption_eq_some.mp hp, hfreshness, htotals⟩

/-- The wallet of a stale snapshot without observations looks current. -/
theorem emptySnapshot_looksCurrent : ∃ snapshot p,
    parseIndexedPortfolioBalanceSnapshot compareCodeUnits (sampleSnapshot .stale [])
      (.string sampleTime) sampleRegistrations = .ok snapshot ∧
        snapshot.freshnessClass = .stale ∧
          buildUnifiedPortfolio compareCodeUnits
            (portfolioRequest sampleTime sampleEvidence snapshot) = .ok p ∧
              ∃ t ∈ p.walletTotals, t.freshnessClass = .current := by
  have hwallets : walletFreshness (sampleSnapshot .stale []) = some (.stale, [.current]) := by
    decide
  obtain ⟨snapshot, p, hsnapshot, hp, hfreshness, htotals⟩ := exists_of_walletFreshness hwallets
  have hmem : PortfolioFreshness.current ∈ p.walletTotals.map (·.freshnessClass) := by
    rw [htotals]
    exact List.mem_singleton_self _
  obtain ⟨t, ht, hfresh⟩ := List.mem_map.mp hmem
  exact ⟨snapshot, p, hsnapshot, hfreshness, hp, t, ht, hfresh⟩

theorem sampleSnapshot_stale : ∃ snapshot p,
    parseIndexedPortfolioBalanceSnapshot compareCodeUnits (sampleSnapshot .stale sampleBalances)
      (.string sampleTime) sampleRegistrations = .ok snapshot ∧
        buildUnifiedPortfolio compareCodeUnits
          (portfolioRequest sampleTime sampleEvidence snapshot) = .ok p ∧
            (((snapshot.freshnessClass = .stale → NeverCurrent p) ∧ GroupsBoundLines p) ↔
              (snapshot.freshnessClass = .stale → NoSilentGroup snapshot)) := by
  have hwallets : walletFreshness (sampleSnapshot .stale sampleBalances) =
      some (.stale, [.unavailable]) := by
    decide
  obtain ⟨snapshot, p, hsnapshot, hp, _⟩ := exists_of_walletFreshness hwallets
  exact ⟨snapshot, p, hsnapshot, hp, buildUnifiedPortfolio_stale_iff compareCodeUnits hsnapshot
    (builtFrom_portfolioRequest _ _ _) hp⟩

end Sample

end CryptoLending.Portfolio.PortfolioFreshness
