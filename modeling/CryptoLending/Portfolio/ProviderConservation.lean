import CryptoLending.Portfolio.PortfolioRequest
import CryptoLending.Portfolio.ProviderAccounting
import CryptoLending.Portfolio.ProviderCoverage

namespace CryptoLending.Portfolio.ProviderConservation

open Lib Lib.JsMap Lib.Text Lib.Numeral Lib.Identifier Lib.DecimalText Lib.Sorting Lib.Grouping Lib.Tally
open Blockchain.AssetRegistry BalanceSnapshot ProviderPosition ProviderPortfolio
open ProviderAccounting ProviderCoverage
open JsValue (Value ofFields ofItems)

section Denotation

/-- The balance of a number of atomic units. -/
structure IsBalanceOf (n decimals : Nat) (b : ExactBalance) : Prop where
  atomic : b.atomic = integerText n
  decimal : readFixed b.decimal.toList = n / 10 ^ decimals

/-- The balance of an integer of atomic units. -/
structure IsNetOf (n : Int) (decimals : Nat) (b : ExactBalance) : Prop where
  atomic : readSignedFixed b.atomic.toList = n
  decimal : readSignedFixed b.decimal.toList = n / 10 ^ decimals

theorem readFixed_unsignedDecimal (n decimals : Nat) :
    readFixed (unsignedDecimal n decimals).toList = n / 10 ^ decimals := by
  rw [unsignedDecimal, String.toList_ofList, readFixed_fixedText]

theorem isBalanceOf_exactBalance (n decimals : Nat) :
    IsBalanceOf n decimals (exactBalance n decimals) :=
  ⟨rfl, readFixed_unsignedDecimal n decimals⟩

theorem IsBalanceOf.amount {n decimals : Nat} {b : ExactBalance} (h : IsBalanceOf n decimals b) :
    amountOf b = n := by
  rw [amountOf, h.atomic, decimalValue_integerText]

theorem signedText_eq (n : Int) : signedText n = signedDecimal n 0 := rfl

theorem readSignedFixed_signedDecimal (n : Int) (decimals : Nat) :
    readSignedFixed (signedDecimal n decimals).toList = n / 10 ^ decimals := by
  rw [signedDecimal, String.toList_ofList, readSignedFixed_signedFixedText]

theorem isNetOf (n : Int) (decimals : Nat) :
    IsNetOf n decimals ⟨signedText n, signedDecimal n decimals⟩ := by
  refine ⟨?_, readSignedFixed_signedDecimal n decimals⟩
  rw [signedText_eq, readSignedFixed_signedDecimal, pow_zero, div_one]

end Denotation

section Statement

def observationAmount (o : IndexedPortfolioBalanceObservation) : Nat :=
  decimalValue o.amountAtomic.toList

/-- The wallet and the asset of an observation. -/
def observationTotal (o : IndexedPortfolioBalanceObservation) : Option TotalId :=
  (mainnetSupportedAssetRegistry.identifyAsset o.networkId o.assetIdentity).map fun asset =>
    (o.walletId, assetOf asset)

/-- What the observations of a wallet and an asset amount to. -/
def liquidAmount (observations : List IndexedPortfolioBalanceObservation) (id : TotalId) : Nat :=
  ((observations.filter fun o => observationTotal o = some id).map observationAmount).sum

/-- What the positions of a kind, of a wallet and an asset, amount to. -/
def positionAmount (kind : MainnetProviderPositionKind)
    (positions : List MainnetProviderPositionObservation) (id : TotalId) : Nat :=
  positionAmounts kind (itemsOf positionId id positions)

def totalId (t : MainnetProviderPortfolioAssetTotal) : TotalId := (t.walletId, t.asset)

/-- A total accounts for the observations and the positions of its wallet and asset. -/
structure IsTotalOf (observations : List IndexedPortfolioBalanceObservation)
    (positions : List MainnetProviderPositionObservation)
    (t : MainnetProviderPortfolioAssetTotal) : Prop where
  liquid : IsBalanceOf (liquidAmount observations (totalId t)) t.asset.decimals
    t.liquidWalletBalance
  supplied : IsBalanceOf (positionAmount .supply positions (totalId t)) t.asset.decimals
    t.suppliedBalance
  borrowed : IsBalanceOf (positionAmount .borrow positions (totalId t)) t.asset.decimals
    t.borrowedLiability
  gross : IsBalanceOf (amountOf t.liquidWalletBalance + amountOf t.suppliedBalance)
    t.asset.decimals t.grossAssets
  net : IsNetOf (amountOf t.grossAssets - amountOf t.borrowedLiability) t.asset.decimals
    t.netPosition
  supplyPositionCount :
    t.supplyPositionCount = (ofKind .supply (itemsOf positionId (totalId t) positions)).length
  borrowPositionCount :
    t.borrowPositionCount = (ofKind .borrow (itemsOf positionId (totalId t) positions)).length

/-- A balance reports an observation. -/
structure IsNormalized (o : IndexedPortfolioBalanceObservation)
    (b : NormalizedWalletTokenBalance) : Prop where
  observationId : b.observationId = o.observationId
  total : observationTotal o = some (balanceId b)
  network : b.asset.networkId = o.networkId
  listed : b.asset ∈ activeAssets
  atomic : b.balance.atomic = o.amountAtomic
  decimal : readFixed b.balance.decimal.toList = observationAmount o / 10 ^ b.asset.decimals

/-- A composition accounts for every observation and every position exactly once. -/
structure Accounts (wallets : List ActivePortfolioWalletRegistration)
    (observations : List IndexedPortfolioBalanceObservation)
    (positions : List MainnetProviderPositionObservation)
    (c : MainnetProviderPortfolioComposition) : Prop where
  walletBalances : ∃ balances, List.Forall₂ IsNormalized observations balances ∧
    c.walletBalances.Perm balances
  providerPositions : c.providerPositions = positions
  totals_nodup : (c.assetTotals.map totalId).Nodup
  mem_totals : ∀ id, id ∈ c.assetTotals.map totalId ↔
    ∃ w ∈ wallets, id.1 = w.walletId ∧ id.2 ∈ activeAssets ∧ id.2.networkId = w.networkId
  totals : ∀ t ∈ c.assetTotals, IsTotalOf observations positions t
  observations_routed : ∀ o ∈ observations, ∃ t ∈ c.assetTotals,
    observationTotal o = some (totalId t) ∧ t.asset.networkId = o.networkId
  positions_routed : ∀ p ∈ positions, ∃ t ∈ c.assetTotals, positionId p = totalId t
  liquid_sum : (c.assetTotals.map fun t => amountOf t.liquidWalletBalance).sum =
    (observations.map observationAmount).sum
  supplied_sum : (c.assetTotals.map fun t => amountOf t.suppliedBalance).sum =
    positionAmounts .supply positions
  borrowed_sum : (c.assetTotals.map fun t => amountOf t.borrowedLiability).sum =
    positionAmounts .borrow positions

end Statement

section Observations

theorem mem_activeAssets {asset : SupportedStablecoinAsset}
    (h : asset ∈ mainnetSupportedAssetRegistry.assets) (hactive : asset.activationState = .active) :
    assetOf asset ∈ activeAssets :=
  List.mem_map_of_mem (List.mem_filter.mpr ⟨h, decide_eq_true hactive⟩)

theorem identifyAsset_spec {networkId identity : String} {asset : SupportedStablecoinAsset}
    (h : mainnetSupportedAssetRegistry.identifyAsset networkId identity = some asset) :
    asset ∈ mainnetSupportedAssetRegistry.assets ∧ asset.networkId = networkId := by
  obtain ⟨network, hnetwork, h⟩ := Option.bind_eq_some_iff.mp h
  obtain ⟨_, _, h⟩ := Option.bind_eq_some_iff.mp h
  have hfound := List.find?_some h
  have hname := List.find?_some hnetwork
  simp only [Bool.and_eq_true, beq_iff_eq] at hfound hname
  exact ⟨List.mem_of_find?_eq_some h, hfound.1.trans hname⟩

theorem normalizeWalletBalance_ok {o : IndexedPortfolioBalanceObservation}
    {b : NormalizedWalletTokenBalance} (h : normalizeWalletBalance o = .ok b) :
    IsNormalized o b := by
  simp only [normalizeWalletBalance, except_bind_ok, orFail_ok, failWhen_ok, except_pure_ok] at h
  obtain ⟨asset, hasset, _, hactive, rfl⟩ := h
  have hactive : asset.activationState = .active := by
    by_contra hne
    exact hactive (.inl hne)
  obtain ⟨hmem, hnetwork⟩ := identifyAsset_spec hasset
  refine ⟨rfl, ?_, hnetwork, mem_activeAssets hmem hactive, rfl, readFixed_unsignedDecimal _ _⟩
  rw [observationTotal, hasset]
  rfl

theorem IsNormalized.amount {o : IndexedPortfolioBalanceObservation}
    {b : NormalizedWalletTokenBalance} (h : IsNormalized o b) :
    amountOf b.balance = observationAmount o := by
  rw [amountOf, h.atomic, observationAmount]

variable {observations : List IndexedPortfolioBalanceObservation}
  {balances balances' : List NormalizedWalletTokenBalance}

theorem balanceAmounts_itemsOf (h : List.Forall₂ IsNormalized observations balances)
    (id : TotalId) : balanceAmounts (itemsOf balanceId id balances) =
      liquidAmount observations id := by
  rw [liquidAmount, balanceAmounts]
  induction h with
  | nil => rfl
  | @cons o b observations balances hob _ ih =>
    by_cases hid : balanceId b = id
    · subst hid
      rw [itemsOf_cons_self, List.map_cons, List.sum_cons, ih, hob.amount, List.filter_cons,
        if_pos (decide_eq_true hob.total), List.map_cons, List.sum_cons]
    · have ho : observationTotal o ≠ some id := by
        rw [hob.total]
        exact fun hsome => hid (Option.some.inj hsome)
      rw [itemsOf_cons_ne hid, List.filter_cons_of_neg (by simpa using ho), ih]

theorem balanceAmounts_perm (h : balances.Perm balances') (id : TotalId) :
    balanceAmounts (itemsOf balanceId id balances) =
      balanceAmounts (itemsOf balanceId id balances') :=
  ((h.filter _).map _).sum_eq

end Observations

section Totals

/-- A total tells what was booked on it. -/
structure IsImmutable (total : MutableAssetTotal) (t : MainnetProviderPortfolioAssetTotal) :
    Prop where
  walletId : t.walletId = total.walletId
  asset : t.asset = total.asset
  liquid : IsBalanceOf total.liquidAtomic total.asset.decimals t.liquidWalletBalance
  supplied : IsBalanceOf total.suppliedAtomic total.asset.decimals t.suppliedBalance
  borrowed : IsBalanceOf total.borrowedAtomic total.asset.decimals t.borrowedLiability
  gross : IsBalanceOf (total.liquidAtomic + total.suppliedAtomic) total.asset.decimals
    t.grossAssets
  net : IsNetOf ((total.liquidAtomic + total.suppliedAtomic : Nat) - total.borrowedAtomic)
    total.asset.decimals t.netPosition
  supplyPositionCount : t.supplyPositionCount = total.supplyPositionCount
  borrowPositionCount : t.borrowPositionCount = total.borrowPositionCount

theorem immutableTotal_ok {total : MutableAssetTotal} {t : MainnetProviderPortfolioAssetTotal}
    (h : immutableTotal total = .ok t) : IsImmutable total t := by
  simp only [immutableTotal, except_bind_ok, except_pure_ok] at h
  obtain ⟨_, _, _, _, rfl⟩ := h
  exact ⟨rfl, rfl, isBalanceOf_exactBalance _ _, isBalanceOf_exactBalance _ _,
    isBalanceOf_exactBalance _ _, isBalanceOf_exactBalance _ _, isNetOf _ _, rfl, rfl⟩

variable {observations : List IndexedPortfolioBalanceObservation}
  {balances : List NormalizedWalletTokenBalance}
  {positions : List MainnetProviderPositionObservation}

theorem isTotalOf {id : TotalId} {t : MainnetProviderPortfolioAssetTotal}
    (hliquid : balanceAmounts (itemsOf balanceId id balances) = liquidAmount observations id)
    (h : IsImmutable (bookedTotal balances positions id) t) :
    totalId t = id ∧ IsTotalOf observations positions t := by
  have hid : totalId t = id := Prod.ext h.walletId h.asset
  have hasset : t.asset = id.2 := h.asset
  have hl := h.liquid
  have hs := h.supplied
  have hb := h.borrowed
  have hg := h.gross
  have hn := h.net
  simp only [bookedTotal, withPositions, withBalances, emptyTotal, Nat.zero_add, ← hasset,
    hliquid] at hl hs hb hg hn
  refine ⟨hid, ?_, ?_, ?_, ?_, ?_, ?_, ?_⟩
  · rwa [hid]
  · rwa [hid]
  · rwa [hid]
  · rwa [hl.amount, hs.amount]
  · rwa [hg.amount, hb.amount]
  · rw [h.supplyPositionCount, hid]
    exact Nat.zero_add _
  · rw [h.borrowPositionCount, hid]
    exact Nat.zero_add _

theorem ofKind_itemsOf (kind : MainnetProviderPositionKind) (id : TotalId) :
    ofKind kind (itemsOf positionId id positions) = itemsOf positionId id (ofKind kind positions) := by
  rw [ofKind, ofKind, itemsOf, itemsOf, List.filter_comm]

/-- The amounts of a kind of all totals add up to those of all positions of the kind. -/
theorem sum_positionAmount {ids : List TotalId} (hids : ids.Nodup)
    (h : ∀ p ∈ positions, positionId p ∈ ids) (kind : MainnetProviderPositionKind) :
    (ids.map (positionAmount kind positions)).sum = positionAmounts kind positions := by
  have hkind : ∀ id, positionAmount kind positions id =
      ((itemsOf positionId id (ofKind kind positions)).map fun p => amountOf p.balance).sum := by
    intro id
    rw [positionAmount, positionAmounts, ofKind_itemsOf]
  rw [List.map_congr_left fun id _ => hkind id]
  exact sum_groups positionId _ hids fun p hp => h p (List.mem_of_mem_filter hp)

theorem sum_liquidAmount {ids : List TotalId} (hids : ids.Nodup)
    (h : ∀ o ∈ observations, observationTotal o ∈ ids.map some) :
    (ids.map (liquidAmount observations)).sum = (observations.map observationAmount).sum := by
  have hsum := sum_groups observationTotal observationAmount
    (hids.map (Option.some_injective TotalId)) h
  rw [List.map_map] at hsum
  exact hsum

end Totals

section Composition

variable {localeCompare compareStrings : String → String → Ordering}
  {readProviderSnapshot :
    ComposeMainnetProviderPortfolioRequest → Option CoveredMainnetProviderPositionSnapshot}
  {request : ComposeMainnetProviderPortfolioRequest}

theorem parseAccountContext_ok {accountId expectedWallets : Value}
    {context : String × List ActivePortfolioWalletRegistration}
    (h : parseAccountContext localeCompare accountId expectedWallets = .ok context) :
    AreRegistrations context.2 := by
  simp only [parseAccountContext, except_bind_ok, orFail_ok, except_pure_ok] at h
  obtain ⟨_, _, _, _, wallets, hwallets, rfl⟩ := h
  exact areRegistrations hwallets

theorem parseWalletSnapshot_ok {wallets : List ActivePortfolioWalletRegistration}
    {snapshot : IndexedPortfolioBalanceSnapshot}
    (h : parseWalletSnapshot localeCompare request wallets = .ok snapshot) : Accepted snapshot := by
  simp only [parseWalletSnapshot, except_bind_ok, mapError_ok, except_pure_ok] at h
  obtain ⟨_, hparse, _, _, rfl⟩ := h
  exact accepted_of_parse hparse

/-- What is booked for the normalized balances of accepted observations. -/
theorem accounts {wallets : List ActivePortfolioWalletRegistration}
    {observations : List IndexedPortfolioBalanceObservation}
    {balances sorted : List NormalizedWalletTokenBalance}
    {positions : List MainnetProviderPositionObservation} {m : JsMap String MutableAssetTotal}
    {totals : List MainnetProviderPortfolioAssetTotal} {c : MainnetProviderPortfolioComposition}
    (hnormalized : List.Forall₂ IsNormalized observations balances)
    (hsorted : sorted.Perm balances) (hwallets : AreRegistrations wallets)
    (h : Booked wallets sorted positions m) (htotals : m.values.mapM immutableTotal = .ok totals)
    (hbalances : c.walletBalances = sorted) (hpositions : c.providerPositions = positions)
    (hc : c.assetTotals.Perm totals) : Accounts wallets observations positions c := by
  have hliquid : ∀ id, balanceAmounts (itemsOf balanceId id sorted) =
      liquidAmount observations id := fun id =>
    (balanceAmounts_perm hsorted id).trans (balanceAmounts_itemsOf hnormalized id)
  rw [h.values, except_mapM_ok, List.forall₂_map_left_iff] at htotals
  have htotals' : List.Forall₂ (fun id t => totalId t = id ∧ IsTotalOf observations positions t)
      (seeds wallets) totals :=
    htotals.imp fun id t ht => isTotalOf (hliquid id) (immutableTotal_ok ht)
  have hids : totals.map totalId = seeds wallets := by
    rw [← List.forall₂_eq_eq_eq, List.forall₂_map_left_iff]
    exact (htotals'.imp fun _ _ ht => ht.1).flip
  have hperm : (c.assetTotals.map totalId).Perm (seeds wallets) := hids ▸ hc.map totalId
  have hnodup : (c.assetTotals.map totalId).Nodup := hperm.nodup_iff.mpr (seeds_nodup hwallets)
  have htotal : ∀ t ∈ c.assetTotals, IsTotalOf observations positions t := by
    intro t ht
    obtain ⟨_, _, hid⟩ := ListOption.exists_of_mem_right htotals' (hc.mem_iff.mp ht)
    exact hid.2
  have hobservations : ∀ o ∈ observations, ∃ b ∈ sorted, IsNormalized o b := by
    intro o ho
    obtain ⟨b, hb, hob⟩ := ListOption.exists_of_mem_right hnormalized.flip ho
    exact ⟨b, hsorted.mem_iff.mpr hb, hob⟩
  have hrouted : ∀ o ∈ observations, ∃ t ∈ c.assetTotals,
      observationTotal o = some (totalId t) ∧ t.asset.networkId = o.networkId := by
    intro o ho
    obtain ⟨b, hb, hob⟩ := hobservations o ho
    obtain ⟨t, ht, hid⟩ := List.mem_map.mp (hperm.mem_iff.mpr (h.balances_routed b hb))
    have hasset : t.asset = b.asset := congrArg Prod.snd hid
    exact ⟨t, ht, hid ▸ hob.total, hasset ▸ hob.network⟩
  have hpositionIds : ∀ p ∈ positions, positionId p ∈ c.assetTotals.map totalId :=
    fun p hp => hperm.mem_iff.mpr (h.positions_routed p hp)
  refine ⟨⟨balances, hnormalized, hbalances ▸ hsorted⟩, hpositions, hnodup,
    fun id => hperm.mem_iff.trans mem_seeds, htotal, hrouted, fun p hp => ?_, ?_, ?_, ?_⟩
  · obtain ⟨t, ht, hid⟩ := List.mem_map.mp (hpositionIds p hp)
    exact ⟨t, ht, hid.symm⟩
  · rw [List.map_congr_left fun t ht => (htotal t ht).liquid.amount, ← sum_liquidAmount hnodup,
      List.map_map]
    · rfl
    · intro o ho
      obtain ⟨t, ht, hid, _⟩ := hrouted o ho
      rw [hid]
      exact List.mem_map_of_mem (List.mem_map_of_mem ht)
  · rw [List.map_congr_left fun t ht => (htotal t ht).supplied.amount,
      ← sum_positionAmount hnodup hpositionIds, List.map_map]
    rfl
  · rw [List.map_congr_left fun t ht => (htotal t ht).borrowed.amount,
      ← sum_positionAmount hnodup hpositionIds, List.map_map]
    rfl

/-- The balances of accepted observations. -/
structure AreNormalized (observations : List IndexedPortfolioBalanceObservation)
    (balances : List NormalizedWalletTokenBalance) : Prop where
  normalized : List.Forall₂ IsNormalized observations balances
  ids : ∀ b ∈ balances, IsTotalId (balanceId b)
  amounts : ∀ b ∈ balances, isCanonicalAmount b.balance.atomic.toList = true

theorem areNormalized {snapshot : IndexedPortfolioBalanceSnapshot}
    {balances : List NormalizedWalletTokenBalance} (haccepted : Accepted snapshot)
    (h : snapshot.observations.mapM normalizeWalletBalance = .ok balances) :
    AreNormalized snapshot.observations balances := by
  have hnormalized := (except_mapM_ok.mp h).imp fun _ _ h => normalizeWalletBalance_ok h
  have hvalid : ∀ b ∈ balances, ∃ o, (isUuidV4 o.walletId.toList = true ∧
      isCanonicalAmount o.amountAtomic.toList = true) ∧ IsNormalized o b := by
    intro b hb
    obtain ⟨o, _, ho⟩ := ListOption.exists_of_mem_right
      ((List.forall₂_and_left _ _).mpr ⟨haccepted.valid, hnormalized⟩) hb
    exact ⟨o, ho⟩
  refine ⟨hnormalized, fun b hb => ?_, fun b hb => ?_⟩
  · obtain ⟨o, hvalid, hob⟩ := hvalid b hb
    obtain ⟨asset, _, htotal⟩ := Option.map_eq_some_iff.mp hob.total
    exact ⟨congrArg Prod.fst htotal ▸ hvalid.1, hob.listed⟩
  · obtain ⟨o, hvalid, hob⟩ := hvalid b hb
    rw [hob.atomic]
    exact hvalid.2

theorem composeMainnetProviderPortfolio_ok {c : MainnetProviderPortfolioComposition}
    (h : composeMainnetProviderPortfolio localeCompare compareStrings readProviderSnapshot
      request = .ok c) : ∃ accountId wallets providerSnapshot walletSnapshot,
    parseAccountContext localeCompare request.accountId request.expectedWallets =
      .ok (accountId, wallets) ∧ readProviderSnapshot request = some providerSnapshot ∧
        parseWalletSnapshot localeCompare request wallets = .ok walletSnapshot ∧
          Accounts wallets walletSnapshot.observations providerSnapshot.observations c := by
  simp only [composeMainnetProviderPortfolio, except_bind_ok, orFail_ok, except_pure_ok] at h
  obtain ⟨⟨accountId, wallets⟩, hcontext, providerSnapshot, hprovider, walletSnapshot, hwallet,
    balances, hbalances, _, _, m, hm, m', hm', totals, htotals, rfl⟩ := h
  have hregistrations := parseAccountContext_ok hcontext
  have hnormalized := areNormalized (parseWalletSnapshot_ok hwallet) hbalances
  refine ⟨accountId, wallets, providerSnapshot, walletSnapshot, hcontext, hprovider, hwallet, ?_⟩
  refine accounts hnormalized.normalized (sortBy_perm _ _) hregistrations ?_ htotals rfl rfl
    (sortBy_perm _ _)
  exact booked hregistrations (fun b hb => hnormalized.ids b (mem_sortBy.mp hb)) hm hm'

end Composition

section Overflow

/-- More than what the longest lists of the largest amounts add up to. -/
def amountLimit : Nat := maxPositions * 10 ^ maxAmountDigits

theorem amountLimit_lt : amountLimit + amountLimit < 10 ^ maxTotalAtomicDigits := by
  decide

theorem amountOf_lt {b : ExactBalance} (h : isCanonicalAmount b.atomic.toList = true) :
    amountOf b < 10 ^ maxAmountDigits := by
  rw [isCanonicalAmount, Bool.and_eq_true] at h
  have hlength : b.atomic.toList.length ≤ maxAmountDigits := of_decide_eq_true h.2
  exact (decimalValue_lt (isCanonicalUint_digits h.1)).trans_le
    (Nat.pow_le_pow_right (by omega) hlength)

theorem sum_amounts_le {l : List ExactBalance}
    (h : ∀ b ∈ l, isCanonicalAmount b.atomic.toList = true) (hlength : l.length ≤ maxPositions) :
    (l.map amountOf).sum ≤ amountLimit := by
  have hle := List.sum_le_card_nsmul (l.map amountOf) (10 ^ maxAmountDigits)
    (List.forall_mem_map.mpr fun b hb => (amountOf_lt (h b hb)).le)
  rw [List.length_map, smul_eq_mul] at hle
  exact hle.trans (Nat.mul_le_mul_right _ hlength)

theorem assertBounded_eq {value : Int} (h : value.natAbs < 10 ^ maxTotalAtomicDigits) :
    assertBounded value = .ok () :=
  assertBounded_ok.mpr (Decimal.decimalLength_le (by decide) h)

theorem balanceAmounts_cons (b : NormalizedWalletTokenBalance)
    (balances : List NormalizedWalletTokenBalance) :
    balanceAmounts (b :: balances) = amountOf b.balance + balanceAmounts balances := by
  rw [balanceAmounts, List.map_cons, List.sum_cons, balanceAmounts]

theorem addWalletBalance_eq {total : MutableAssetTotal} {b : NormalizedWalletTokenBalance}
    (h : total.liquidAtomic + amountOf b.balance < 10 ^ maxTotalAtomicDigits) :
    addWalletBalance total b =
      .ok { total with liquidAtomic := total.liquidAtomic + amountOf b.balance } := by
  rw [addWalletBalance, assertBounded_eq (by exact h)]
  rfl

theorem addWalletBalances_fold_ne {total : MutableAssetTotal}
    {balances : List NormalizedWalletTokenBalance}
    (h : total.liquidAtomic + balanceAmounts balances < 10 ^ maxTotalAtomicDigits)
    (e : MainnetProviderPortfolioUnavailableCode) :
    balances.foldlM addWalletBalance total ≠ .error e := by
  induction balances generalizing total with
  | nil =>
    intro herror
    cases herror
  | cons b balances ih =>
    rw [balanceAmounts_cons, ← Nat.add_assoc] at h
    rw [List.foldlM_cons, addWalletBalance_eq ((Nat.le_add_right _ _).trans_lt h)]
    exact ih h

theorem addProviderPosition_error {total : MutableAssetTotal}
    {p : MainnetProviderPositionObservation} {e : MainnetProviderPortfolioUnavailableCode}
    (hsupplied : total.suppliedAtomic + positionAmounts .supply [p] < 10 ^ maxTotalAtomicDigits)
    (hborrowed : total.borrowedAtomic + positionAmounts .borrow [p] < 10 ^ maxTotalAtomicDigits)
    (h : addProviderPosition total p = .error e) : e = .assetMismatch := by
  obtain h | ⟨_, _, h⟩ := except_bind_error.mp h
  · exact (failWhen_error.mp h).2.symm
  · cases hkind : p.positionKind with
    | supply =>
      have hamount : positionAmounts .supply [p] = amountOf p.balance := by
        simp [positionAmounts, ofKind, hkind]
      rw [hamount] at hsupplied
      simp only [hkind] at h
      rw [assertBounded_eq (by exact hsupplied)] at h
      cases h
    | borrow =>
      have hamount : positionAmounts .borrow [p] = amountOf p.balance := by
        simp [positionAmounts, ofKind, hkind]
      rw [hamount] at hborrowed
      simp only [hkind] at h
      rw [assertBounded_eq (by exact hborrowed)] at h
      cases h

theorem addProviderPositions_fold_error {total : MutableAssetTotal}
    {positions : List MainnetProviderPositionObservation}
    {e : MainnetProviderPortfolioUnavailableCode}
    (hsupplied : (withPositions total positions).suppliedAtomic < 10 ^ maxTotalAtomicDigits)
    (hborrowed : (withPositions total positions).borrowedAtomic < 10 ^ maxTotalAtomicDigits)
    (h : positions.foldlM addProviderPosition total = .error e) : e = .assetMismatch := by
  induction positions generalizing total with
  | nil => cases h
  | cons p positions ih =>
    rw [← withPositions_cons] at hsupplied hborrowed
    obtain h | ⟨next, hnext, h⟩ := except_bind_error.mp h
    · exact addProviderPosition_error ((Nat.le_add_right _ _).trans_lt hsupplied)
        ((Nat.le_add_right _ _).trans_lt hborrowed) h
    · rw [← addProviderPosition_ok hnext] at hsupplied hborrowed
      exact ih hsupplied hborrowed h

theorem immutableTotal_ne {total : MutableAssetTotal} (hliquid : total.liquidAtomic ≤ amountLimit)
    (hsupplied : total.suppliedAtomic ≤ amountLimit)
    (hborrowed : total.borrowedAtomic ≤ amountLimit)
    (e : MainnetProviderPortfolioUnavailableCode) : immutableTotal total ≠ .error e := by
  have hlimit := amountLimit_lt
  have hgross : ((total.liquidAtomic + total.suppliedAtomic : Nat) : Int).natAbs <
      10 ^ maxTotalAtomicDigits := by omega
  have hnet : (((total.liquidAtomic + total.suppliedAtomic : Nat) : Int) -
      total.borrowedAtomic).natAbs < 10 ^ maxTotalAtomicDigits := by omega
  rw [immutableTotal, assertBounded_eq hgross, except_ok_bind, assertBounded_eq hnet]
  intro h
  cases h

variable {wallets : List ActivePortfolioWalletRegistration}
  {balances : List NormalizedWalletTokenBalance}
  {positions : List MainnetProviderPositionObservation}

/-- Lists as short as the parsers allow, of amounts of as few digits. -/
structure AreBounded (balances : List NormalizedWalletTokenBalance)
    (positions : List MainnetProviderPositionObservation) : Prop where
  balances_valid : ∀ b ∈ balances, isCanonicalAmount b.balance.atomic.toList = true
  balances_length : balances.length ≤ maxPositions
  positions_length : positions.length ≤ maxPositions

theorem balanceAmounts_le (h : AreBounded balances positions) (id : TotalId) :
    balanceAmounts (itemsOf balanceId id balances) ≤ amountLimit := by
  have hlength : ((itemsOf balanceId id balances).map (·.balance)).length ≤ maxPositions := by
    rw [List.length_map]
    exact (length_itemsOf_le _ _ _).trans h.balances_length
  have hle := sum_amounts_le
    (List.forall_mem_map.mpr fun b hb => h.balances_valid b (mem_of_mem_itemsOf hb)) hlength
  rw [List.map_map] at hle
  exact hle

theorem positionAmounts_le (h : positions.length ≤ maxPositions)
    (kind : MainnetProviderPositionKind) (id : TotalId) :
    positionAmounts kind (itemsOf positionId id positions) ≤ amountLimit := by
  have hlength : ((ofKind kind (itemsOf positionId id positions)).map (·.balance)).length ≤
      maxPositions := by
    rw [List.length_map]
    exact (List.length_filter_le _ _).trans ((length_itemsOf_le _ _ _).trans h)
  have hle := sum_amounts_le (List.forall_mem_map.mpr fun p _ => p.amount_valid) hlength
  rw [List.map_map] at hle
  exact hle

theorem bookedTotal_le (h : AreBounded balances positions) (id : TotalId) :
    (bookedTotal balances positions id).liquidAtomic ≤ amountLimit ∧
      (bookedTotal balances positions id).suppliedAtomic ≤ amountLimit ∧
        (bookedTotal balances positions id).borrowedAtomic ≤ amountLimit := by
  simp only [bookedTotal, withPositions, withBalances, emptyTotal, Nat.zero_add]
  exact ⟨balanceAmounts_le h id, positionAmounts_le h.positions_length _ id,
    positionAmounts_le h.positions_length _ id⟩

variable {m : JsMap String MutableAssetTotal} {e : MainnetProviderPortfolioUnavailableCode}

theorem addWalletBalances_error (hwallets : AreRegistrations wallets)
    (hbounded : AreBounded balances positions)
    (hids : ∀ b ∈ balances, IsTotalId (balanceId b))
    (h : addWalletBalances (seedTotals wallets) balances = .error e) : e = .assetMismatch := by
  obtain h | ⟨k, total, htotal, hfold⟩ := tally_error h
  · exact h
  · exfalso
    obtain ⟨id, hid, rfl, rfl⟩ := JsMap.mem_of_get_ofEntries_map (keyIds_nodup hwallets) htotal
    rw [itemsOf_balances hids (isTotalId_of_mem_seeds hwallets hid)] at hfold
    refine addWalletBalances_fold_ne ?_ e hfold
    have hle := balanceAmounts_le hbounded id
    have hlimit := amountLimit_lt
    rw [emptyTotal, Nat.zero_add]
    omega

theorem addProviderPositions_error (hwallets : AreRegistrations wallets)
    (hbounded : AreBounded balances positions)
    (hids : ∀ b ∈ balances, IsTotalId (balanceId b))
    (hm : addWalletBalances (seedTotals wallets) balances = .ok m)
    (h : addProviderPositions m positions = .error e) : e = .assetMismatch := by
  obtain h | ⟨k, total, htotal, hfold⟩ := tally_error h
  · exact h
  · have hk := mem_keys_of_get htotal
    rw [liquid_keys hwallets hm] at hk
    obtain ⟨id, hid, rfl⟩ := List.mem_map.mp hk
    rw [liquid_get hwallets hids hm hid] at htotal
    obtain rfl := Option.some.inj htotal
    rw [itemsOf_positions (isTotalId_of_mem_seeds hwallets hid)] at hfold
    obtain ⟨_, hsupplied, hborrowed⟩ := bookedTotal_le hbounded id
    have hlimit := amountLimit_lt
    exact addProviderPositions_fold_error (hsupplied.trans_lt (by omega))
      (hborrowed.trans_lt (by omega)) hfold

theorem normalizeWalletBalance_error {o : IndexedPortfolioBalanceObservation}
    (h : normalizeWalletBalance o = .error e) : e = .assetMismatch := by
  obtain h | ⟨_, _, h⟩ := except_bind_error.mp h
  · exact (orFail_error.mp h).2.symm
  · obtain h | ⟨_, _, h⟩ := except_bind_error.mp h
    · exact (failWhen_error.mp h).2.symm
    · cases h

variable {localeCompare compareStrings : String → String → Ordering}
  {readProviderSnapshot :
    ComposeMainnetProviderPortfolioRequest → Option CoveredMainnetProviderPositionSnapshot}
  {request : ComposeMainnetProviderPortfolioRequest}

theorem parseAccountContext_error {accountId expectedWallets : Value}
    (h : parseAccountContext localeCompare accountId expectedWallets = .error e) :
    e = .invalidAccountContext := by
  obtain h | ⟨_, _, h⟩ := except_bind_error.mp h
  · exact (orFail_error.mp h).2.symm
  · obtain h | ⟨_, _, h⟩ := except_bind_error.mp h
    · exact (failWhen_error.mp h).2.symm
    · obtain h | ⟨_, _, h⟩ := except_bind_error.mp h
      · exact (orFail_error.mp h).2.symm
      · cases h

theorem parseWalletSnapshot_error (h : parseWalletSnapshot localeCompare request wallets =
    .error e) : e = .walletBalanceUnavailable := by
  obtain h | ⟨_, _, h⟩ := except_bind_error.mp h
  · obtain ⟨_, he⟩ := mapError_error h
    exact he.symm
  · obtain h | ⟨_, _, h⟩ := except_bind_error.mp h
    · exact (failWhen_error.mp h).2.symm
    · cases h

/-- What the parsers let through is short enough never to overflow. -/
theorem composeMainnetProviderPortfolio_ne_overflow :
    composeMainnetProviderPortfolio localeCompare compareStrings readProviderSnapshot request ≠
      .error .arithmeticOverflow := by
  intro h
  obtain h | ⟨⟨accountId, wallets⟩, hcontext, h⟩ := except_bind_error.mp h
  · cases parseAccountContext_error h
  obtain h | ⟨providerSnapshot, _, h⟩ := except_bind_error.mp h
  · cases (orFail_error.mp h).2
  obtain h | ⟨walletSnapshot, hwallet, h⟩ := except_bind_error.mp h
  · cases parseWalletSnapshot_error h
  obtain h | ⟨balances, hbalances, h⟩ := except_bind_error.mp h
  · obtain ⟨_, _, h⟩ := except_mapM_error h
    cases normalizeWalletBalance_error h
  obtain h | ⟨_, _, h⟩ := except_bind_error.mp h
  · cases (failWhen_error.mp h).2
  have hregistrations := parseAccountContext_ok hcontext
  have haccepted := parseWalletSnapshot_ok hwallet
  have hnormalized := areNormalized haccepted hbalances
  have hlength : balances.length ≤ maxPositions :=
    hnormalized.normalized.length_eq ▸ haccepted.length_le
  generalize hsorted : sortBy _ balances = sorted at h
  have hperm : sorted.Perm balances := hsorted ▸ sortBy_perm _ _
  have hids : ∀ b ∈ sorted, IsTotalId (balanceId b) :=
    fun b hb => hnormalized.ids b (hperm.mem_iff.mp hb)
  have hbounded : AreBounded sorted providerSnapshot.observations :=
    ⟨fun b hb => hnormalized.amounts b (hperm.mem_iff.mp hb), hperm.length_eq ▸ hlength,
      providerSnapshot.length_le⟩
  obtain h | ⟨m, hm, h⟩ := except_bind_error.mp h
  · cases addWalletBalances_error hregistrations hbounded hids h
  obtain h | ⟨m', hm', h⟩ := except_bind_error.mp h
  · cases addProviderPositions_error hregistrations hbounded hids hm h
  obtain h | ⟨totals, _, h⟩ := except_bind_error.mp h
  · obtain ⟨total, htotal, h⟩ := except_mapM_error h
    rw [(booked hregistrations hids hm hm').values] at htotal
    obtain ⟨id, _, rfl⟩ := List.mem_map.mp htotal
    obtain ⟨hliquid, hsupplied, hborrowed⟩ := bookedTotal_le hbounded id
    exact immutableTotal_ne hliquid hsupplied hborrowed _ h
  · cases h

end Overflow

/-- A composition accounts for every observation and position exactly once, and no request
overflows. -/
theorem composeMainnetProviderPortfolio_accounts
    (localeCompare compareStrings : String → String → Ordering)
    (readProviderSnapshot :
      ComposeMainnetProviderPortfolioRequest → Option CoveredMainnetProviderPositionSnapshot) :
    (∀ request c, composeMainnetProviderPortfolio localeCompare compareStrings
      readProviderSnapshot request = .ok c → ∃ accountId wallets providerSnapshot walletSnapshot,
        parseAccountContext localeCompare request.accountId request.expectedWallets =
          .ok (accountId, wallets) ∧ readProviderSnapshot request = some providerSnapshot ∧
            parseWalletSnapshot localeCompare request wallets = .ok walletSnapshot ∧
              Accounts wallets walletSnapshot.observations providerSnapshot.observations c) ∧
      ∀ request, composeMainnetProviderPortfolio localeCompare compareStrings
        readProviderSnapshot request ≠ .error .arithmeticOverflow :=
  ⟨fun _ _ h => composeMainnetProviderPortfolio_ok h,
    fun _ => composeMainnetProviderPortfolio_ne_overflow⟩

/-- With the embedded reader no position is booked twice, and none that the manifest declares is
missing. -/
theorem composeMainnetProviderPortfolio_covers
    {localeCompare compareStrings : String → String → Ordering} {readers : Readers}
    {request : ComposeMainnetProviderPortfolioRequest} {c : MainnetProviderPortfolioComposition}
    (h : composeMainnetProviderPortfolio localeCompare compareStrings
      (parseCoveredMainnetProviderPositionSnapshot readers) request = .ok c) :
    ∃ manifest, readers.readManifest request = some manifest ∧
      AcceptedPositions c.providerPositions ∧ Covers manifest c.providerPositions := by
  obtain ⟨_, _, covered, _, _, hcovered, _, haccounts⟩ := composeMainnetProviderPortfolio_ok h
  obtain ⟨manifest, hmanifest, _, haccepted, hcovers⟩ :=
    parseCoveredMainnetProviderPositionSnapshot_covers hcovered
  rw [haccounts.providerPositions]
  exact ⟨manifest, hmanifest, haccepted, hcovers⟩

section Sample

def sampleAsset : PortfolioAsset where
  stablecoin := .usdc
  networkId := ethereum
  identity := "0xa0b86991c6218b36c1d19d4a2e9eb0ce3606eb48"
  decimals := 6

def samplePolicy : MainnetProviderPositionObservationPolicy where
  policyVersion := 1
  policyId := "policy-1"
  assetRegistryVersion := mainnetSupportedAssetRegistry.version
  assetRegistryFingerprintSha256 := mainnetSupportedAssetRegistry.fingerprintSha256
  providers := [⟨"aave", [⟨"aave-v3", [⟨ethereum, "main", [⟨.usdc, sampleAsset.identity⟩]⟩]⟩]⟩]
  sources := [⟨"ethereum-rpc", .rpc, ethereum⟩]
  fingerprintSha256 := "policy-fingerprint"

def sampleManifest : MainnetProviderPositionCoverageManifest where
  manifestId := "manifest-1"
  positionSnapshotId := "positions-1"
  observationPolicyVersion := 1
  observationPolicyId := samplePolicy.policyId
  observationPolicyFingerprintSha256 := samplePolicy.fingerprintSha256
  assetRegistryVersion := mainnetSupportedAssetRegistry.version
  assetRegistryFingerprintSha256 := mainnetSupportedAssetRegistry.fingerprintSha256
  capturedAt := "2026-07-20T00:00:10.000Z"
  staleAfter := "2026-07-20T00:01:00.000Z"
  targets := [⟨PortfolioRequest.sampleWallet, "aave", "aave-v3", "main", ethereum,
    [⟨.usdc, sampleAsset.identity⟩], 1⟩]
  fingerprintSha256 := "manifest-fingerprint"
  targets_unique := List.nodup_singleton _

def sampleAssessedAt : IsoDate.Timestamp where
  text := "2026-07-20T00:00:05.000Z"
  milliseconds := 1784505605000
  parse_text := by decide

def sampleEntry : MainnetProviderPositionChainAssessmentEntry where
  observationId := "44444444-4444-4444-8444-444444444444"
  sourceId := "ethereum-rpc"
  sourceKind := .rpc
  sourceObservationId := "ethereum-block-5"
  networkId := ethereum
  chainAnchor := .evmBlock "5" ("0x" ++ String.ofList (List.replicate 64 'a'))
  assessedAt := sampleAssessedAt
  identityStatus := .verified
  progressionStatus := .current
  finalityStatus := .healthy

def sampleAssessment : MainnetProviderPositionChainAssessment where
  assessmentId := "assessment-1"
  observationPolicyFingerprintSha256 := samplePolicy.fingerprintSha256
  assetRegistryVersion := mainnetSupportedAssetRegistry.version
  assetRegistryFingerprintSha256 := mainnetSupportedAssetRegistry.fingerprintSha256
  entries := [sampleEntry]

/-- A position that owes more than the wallet holds. -/
def samplePosition : Value := ofFields [
  ("observationId", .string sampleEntry.observationId),
  ("walletId", .string PortfolioRequest.sampleWallet),
  ("providerId", .string "aave"), ("protocolId", .string "aave-v3"), ("marketId", .string "main"),
  ("positionId", .string "position-1"), ("positionKind", .string "BORROW"),
  ("asset", ofFields [("stablecoin", .string "USDC"), ("networkId", .string ethereum),
    ("identity", .string sampleAsset.identity), ("decimals", .integer 6)]),
  ("balance", ofFields [("atomic", .string "4000001"), ("decimal", .string "4.000001")]),
  ("source", ofFields [("sourceId", .string "ethereum-rpc"), ("sourceKind", .string "RPC"),
    ("sourceObservationId", .string "ethereum-block-5"),
    ("chainAnchor", ofFields [("kind", .string "EVM_BLOCK"), ("blockNumber", .string "5"),
      ("blockHash", .string ("0x" ++ String.ofList (List.replicate 64 'a')))])]),
  ("observedAt", .string "2026-07-20T00:00:00.000Z"),
  ("staleAfter", .string "2026-07-20T00:01:00.000Z"), ("freshnessClass", .string "CURRENT")]

def samplePositionSnapshot : Value := ofFields [
  ("schemaVersion", .integer 1), ("use", .string "MAINNET_PROVIDER_POSITION_OBSERVATION_ONLY"),
  ("mayAuthorizeFinancialAction", .boolean false), ("snapshotId", .string "positions-1"),
  ("observationPolicyVersion", .integer 1),
  ("observationPolicyId", .string samplePolicy.policyId),
  ("observationPolicyFingerprintSha256", .string samplePolicy.fingerprintSha256),
  ("assetRegistryVersion", .integer mainnetSupportedAssetRegistry.version),
  ("assetRegistryFingerprintSha256", .string mainnetSupportedAssetRegistry.fingerprintSha256),
  ("capturedAt", .string "2026-07-20T00:00:10.000Z"),
  ("staleAfter", .string "2026-07-20T00:01:00.000Z"), ("freshnessClass", .string "CURRENT"),
  ("observations", ofItems [samplePosition])]

/-- Readers of inputs that were read before; the verifier knows the sampled assessment. -/
def sampleReaders : Readers where
  localeCompare := compareCodeUnits
  readPolicy _ := some samplePolicy
  readManifest _ := some sampleManifest
  readChainAssessment _ := some sampleAssessment
  verify := some fun _ context => context.snapshotId == "positions-1"

def sampleRequest : ComposeMainnetProviderPortfolioRequest where
  accountId := .string "55555555-5555-4555-8555-555555555555"
  evaluatedAt := PortfolioRequest.sampleTime
  expectedWallets := PortfolioRequest.sampleRegistrations
  observationPolicy := .null
  coverageManifest := .null
  positionSnapshot := samplePositionSnapshot
  chainAssessment := .null
  walletBalanceSnapshot := PortfolioRequest.sampleSnapshot .current
    (PortfolioRequest.sampleBalances.take 1)

theorem sampleRequest_positions : (composeMainnetProviderPortfolio compareCodeUnits
    compareCodeUnits (parseCoveredMainnetProviderPositionSnapshot sampleReaders)
      sampleRequest).toOption.map (·.providerPositions.length) = some 1 := by
  decide +kernel

theorem sampleRequest_accounts : ∃ c accountId wallets providerSnapshot walletSnapshot,
    composeMainnetProviderPortfolio compareCodeUnits compareCodeUnits
      (parseCoveredMainnetProviderPositionSnapshot sampleReaders) sampleRequest = .ok c ∧
        c.providerPositions.length = 1 ∧
          parseAccountContext compareCodeUnits sampleRequest.accountId
            sampleRequest.expectedWallets = .ok (accountId, wallets) ∧
              parseCoveredMainnetProviderPositionSnapshot sampleReaders sampleRequest =
                some providerSnapshot ∧
                  parseWalletSnapshot compareCodeUnits sampleRequest wallets =
                    .ok walletSnapshot ∧
                      Accounts wallets walletSnapshot.observations
                        providerSnapshot.observations c := by
  obtain ⟨c, hc, hlength⟩ := Option.map_eq_some_iff.mp sampleRequest_positions
  have hok := toOption_eq_some.mp hc
  obtain ⟨accountId, wallets, providerSnapshot, walletSnapshot, hcontext, hprovider, hwallet, h⟩ :=
    (composeMainnetProviderPortfolio_accounts compareCodeUnits compareCodeUnits
      (parseCoveredMainnetProviderPositionSnapshot sampleReaders)).1 sampleRequest c hok
  exact ⟨c, accountId, wallets, providerSnapshot, walletSnapshot, hok, hlength, hcontext,
    hprovider, hwallet, h⟩

end Sample

end CryptoLending.Portfolio.ProviderConservation
