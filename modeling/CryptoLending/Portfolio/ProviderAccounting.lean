import CryptoLending.Lib.KeyedSums
import CryptoLending.Portfolio.ProviderPortfolio

namespace CryptoLending.Portfolio.ProviderAccounting

open Lib Lib.Text Lib.Identifier Lib.DecimalText Lib.Sorting Lib.Grouping Lib.Tally
open Blockchain.AssetRegistry BalanceSnapshot ProviderPosition ProviderPortfolio

/-- What a total is kept for: a wallet and an asset. -/
abbrev TotalId := String × PortfolioAsset

def keyId (id : TotalId) : String := keyOf id.1 id.2

def balanceId (b : NormalizedWalletTokenBalance) : TotalId := (b.walletId, b.asset)

def positionId (p : MainnetProviderPositionObservation) : TotalId := (p.walletId, p.asset)

/-- The wallet has an identifier and the asset is listed. -/
def IsTotalId (id : TotalId) : Prop := isUuidV4 id.1.toList = true ∧ id.2 ∈ activeAssets

section Keys

theorem length_of_matchesShape {shape : List (Char → Bool)} {cs : List Char}
    (h : matchesShape shape cs = true) : cs.length = shape.length := by
  induction shape generalizing cs with
  | nil =>
    cases cs with
    | nil => rfl
    | cons c cs => cases h
  | cons p shape ih =>
    cases cs with
    | nil => cases h
    | cons c cs =>
      rw [matchesShape, Bool.and_eq_true] at h
      rw [List.length_cons, List.length_cons, ih h.2]

def assetKey (asset : PortfolioAsset) : List Char :=
  "|".toList ++ (asset.networkId.toList ++ ("|".toList ++ (asset.stablecoin.text.toList ++
    ("|".toList ++ asset.identity.toList))))

theorem toList_keyOf (walletId : String) (asset : PortfolioAsset) :
    (keyOf walletId asset).toList = walletId.toList ++ assetKey asset := by
  simp only [keyOf, totalKey, String.toList_append, List.append_assoc, assetKey]

theorem assetKeys_nodup : (activeAssets.map assetKey).Nodup := by
  decide

/-- The key of a total tells the wallet and the asset. -/
theorem keyId_injective {id id' : TotalId} (h : IsTotalId id) (h' : IsTotalId id')
    (hkey : keyId id = keyId id') : id = id' := by
  have hlist := congrArg String.toList hkey
  rw [keyId, keyId, toList_keyOf, toList_keyOf] at hlist
  have hlength : id.1.toList.length = id'.1.toList.length :=
    (length_of_matchesShape h.1).trans (length_of_matchesShape h'.1).symm
  obtain ⟨hwallet, hasset⟩ := List.append_inj hlist hlength
  exact Prod.ext (String.toList_inj.mp hwallet)
    (List.inj_on_of_nodup_map assetKeys_nodup h.2 h'.2 hasset)

end Keys

section Steps

theorem assertBounded_ok {value : Int} {u : Unit} :
    assertBounded value = .ok u ↔ Decimal.decimalLength value.natAbs ≤ maxTotalAtomicDigits := by
  rw [assertBounded, failWhen_ok, Nat.not_lt]

def balanceAmounts (balances : List NormalizedWalletTokenBalance) : Nat :=
  (balances.map fun b => amountOf b.balance).sum

/-- The positions of a kind. -/
def ofKind (kind : MainnetProviderPositionKind)
    (positions : List MainnetProviderPositionObservation) :
    List MainnetProviderPositionObservation := positions.filter fun p => p.positionKind = kind

def positionAmounts (kind : MainnetProviderPositionKind)
    (positions : List MainnetProviderPositionObservation) : Nat :=
  ((ofKind kind positions).map fun p => amountOf p.balance).sum

/-- A total after some balances. -/
def withBalances (total : MutableAssetTotal) (balances : List NormalizedWalletTokenBalance) :
    MutableAssetTotal :=
  { total with liquidAtomic := total.liquidAtomic + balanceAmounts balances }

theorem addWalletBalance_ok {total total' : MutableAssetTotal} {b : NormalizedWalletTokenBalance}
    (h : addWalletBalance total b = .ok total') : total' = withBalances total [b] := by
  simp only [addWalletBalance, except_bind_ok, except_pure_ok] at h
  obtain ⟨_, _, rfl⟩ := h
  simp [withBalances, balanceAmounts]

theorem withBalances_cons (total : MutableAssetTotal) (b : NormalizedWalletTokenBalance)
    (balances : List NormalizedWalletTokenBalance) :
    withBalances (withBalances total [b]) balances = withBalances total (b :: balances) := by
  have hamounts : balanceAmounts (b :: balances) = balanceAmounts [b] + balanceAmounts balances := by
    simp [balanceAmounts]
  simp only [withBalances, hamounts, Nat.add_assoc]

/-- What is booked for a wallet is the sum of its balances. -/
theorem addWalletBalances_fold {total total' : MutableAssetTotal}
    {balances : List NormalizedWalletTokenBalance}
    (h : balances.foldlM addWalletBalance total = .ok total') :
    total' = withBalances total balances := by
  induction balances generalizing total with
  | nil =>
    obtain rfl := Except.ok.inj h
    rfl
  | cons b balances ih =>
    obtain ⟨next, hnext, h⟩ := except_bind_ok.mp h
    rw [ih h, addWalletBalance_ok hnext, withBalances_cons]

/-- A total after some positions. -/
def withPositions (total : MutableAssetTotal)
    (positions : List MainnetProviderPositionObservation) : MutableAssetTotal :=
  { total with
    suppliedAtomic := total.suppliedAtomic + positionAmounts .supply positions
    borrowedAtomic := total.borrowedAtomic + positionAmounts .borrow positions
    supplyPositionCount := total.supplyPositionCount + (ofKind .supply positions).length
    borrowPositionCount := total.borrowPositionCount + (ofKind .borrow positions).length }

theorem addProviderPosition_ok {total total' : MutableAssetTotal}
    {p : MainnetProviderPositionObservation} (h : addProviderPosition total p = .ok total') :
    total' = withPositions total [p] := by
  obtain ⟨_, _, h⟩ := except_bind_ok.mp h
  cases hkind : p.positionKind with
  | supply =>
    simp only [hkind, except_bind_ok, except_pure_ok] at h
    obtain ⟨_, _, rfl⟩ := h
    simp [withPositions, positionAmounts, ofKind, hkind]
  | borrow =>
    simp only [hkind, except_bind_ok, except_pure_ok] at h
    obtain ⟨_, _, rfl⟩ := h
    simp [withPositions, positionAmounts, ofKind, hkind]

theorem withPositions_cons (total : MutableAssetTotal) (p : MainnetProviderPositionObservation)
    (positions : List MainnetProviderPositionObservation) :
    withPositions (withPositions total [p]) positions = withPositions total (p :: positions) := by
  have hkind : ∀ kind, ofKind kind (p :: positions) = ofKind kind [p] ++ ofKind kind positions :=
    fun kind => List.filter_append [p] positions
  have hamounts : ∀ kind, positionAmounts kind (p :: positions) =
      positionAmounts kind [p] + positionAmounts kind positions := by
    intro kind
    rw [positionAmounts, hkind, List.map_append, List.sum_append]
    rfl
  simp only [withPositions, hamounts, hkind, List.length_append, Nat.add_assoc]

theorem addProviderPositions_fold {total total' : MutableAssetTotal}
    {positions : List MainnetProviderPositionObservation}
    (h : positions.foldlM addProviderPosition total = .ok total') :
    total' = withPositions total positions := by
  induction positions generalizing total with
  | nil =>
    obtain rfl := Except.ok.inj h
    rfl
  | cons p positions ih =>
    obtain ⟨next, hnext, h⟩ := except_bind_ok.mp h
    rw [ih h, addProviderPosition_ok hnext, withPositions_cons]

end Steps

section Seeds

variable {localeCompare : String → String → Ordering} {v : JsValue.Value}
  {wallets : List ActivePortfolioWalletRegistration}

/-- What the parser guarantees of the expected wallets. -/
structure AreRegistrations (wallets : List ActivePortfolioWalletRegistration) : Prop where
  nodup : (wallets.map (·.walletId)).Nodup
  valid : ∀ w ∈ wallets, isUuidV4 w.walletId.toList = true

theorem parseWalletRegistration_valid {r : ActivePortfolioWalletRegistration}
    (h : parseWalletRegistration v = some r) : isUuidV4 r.walletId.toList = true := by
  simp only [parseWalletRegistration, Option.bind_eq_bind, Option.bind_eq_some_iff,
    Option.pure_def, Option.some.injEq, Option.guard_eq_some'] at h
  obtain ⟨_, _, _, _, _, hwallet, _, _, _, _, rfl⟩ := h
  exact hwallet

theorem areRegistrations
    (h : parseActivePortfolioWalletRegistrations localeCompare v = some wallets) :
    AreRegistrations wallets := by
  simp only [parseActivePortfolioWalletRegistrations, Option.bind_eq_bind,
    Option.bind_eq_some_iff, Option.pure_def, Option.some.injEq, Option.guard_eq_some'] at h
  obtain ⟨items, _, registrations, hitems, _, hnodup, rfl⟩ := h
  refine ⟨((sortBy_perm _ _).map _).nodup_iff.mpr hnodup, fun w hw => ?_⟩
  obtain ⟨item, _, hitem⟩ := ListOption.mem_of_mapM hitems (mem_sortBy.mp hw)
  exact parseWalletRegistration_valid hitem

theorem mem_seeds {id : TotalId} : id ∈ seeds wallets ↔
    ∃ w ∈ wallets, id.1 = w.walletId ∧ id.2 ∈ activeAssets ∧ id.2.networkId = w.networkId := by
  rw [seeds, List.mem_flatMap]
  refine exists_congr fun w => and_congr_right fun _ => ?_
  rw [List.mem_map]
  constructor
  · rintro ⟨asset, hasset, rfl⟩
    obtain ⟨hlisted, hnetwork⟩ := List.mem_filter.mp hasset
    exact ⟨rfl, hlisted, of_decide_eq_true hnetwork⟩
  · rintro ⟨hwallet, hlisted, hnetwork⟩
    exact ⟨id.2, List.mem_filter.mpr ⟨hlisted, decide_eq_true hnetwork⟩, Prod.ext hwallet.symm rfl⟩

theorem isTotalId_of_mem_seeds (h : AreRegistrations wallets) {id : TotalId}
    (hid : id ∈ seeds wallets) : IsTotalId id := by
  obtain ⟨w, hw, hwallet, hlisted, _⟩ := mem_seeds.1 hid
  exact ⟨hwallet ▸ h.valid w hw, hlisted⟩

theorem activeAssets_nodup : activeAssets.Nodup := List.Nodup.of_map assetKey assetKeys_nodup

theorem seeds_nodup (h : AreRegistrations wallets) : (seeds wallets).Nodup := by
  refine List.nodup_flatMap.mpr ⟨fun w _ => ?_, ?_⟩
  · exact (activeAssets_nodup.filter _).map (Prod.mk_right_injective w.walletId)
  · refine (List.pairwise_map.mp h.nodup).imp fun hne id hid hid' => ?_
    obtain ⟨_, _, rfl⟩ := List.mem_map.mp hid
    obtain ⟨_, _, hpair⟩ := List.mem_map.mp hid'
    exact hne (congrArg Prod.fst hpair).symm

theorem keyIds_nodup (h : AreRegistrations wallets) : ((seeds wallets).map keyId).Nodup :=
  List.Nodup.map_on (fun _ hid _ hid' hkey => keyId_injective (isTotalId_of_mem_seeds h hid)
    (isTotalId_of_mem_seeds h hid') hkey) (seeds_nodup h)

end Seeds

section Booking

/-- The total of a wallet and an asset. -/
def bookedTotal (balances : List NormalizedWalletTokenBalance)
    (positions : List MainnetProviderPositionObservation) (id : TotalId) : MutableAssetTotal :=
  withPositions (withBalances (emptyTotal id.1 id.2) (itemsOf balanceId id balances))
    (itemsOf positionId id positions)

variable {wallets : List ActivePortfolioWalletRegistration}
  {balances : List NormalizedWalletTokenBalance}
  {positions : List MainnetProviderPositionObservation} {m m' : JsMap String MutableAssetTotal}

theorem isTotalId_position (p : MainnetProviderPositionObservation) : IsTotalId (positionId p) :=
  ⟨p.walletId_valid, p.asset_listed⟩

theorem mem_seeds_of_key (h : AreRegistrations wallets) {id : TotalId} (hid : IsTotalId id)
    (hmem : keyId id ∈ (seeds wallets).map keyId) : id ∈ seeds wallets := by
  obtain ⟨seed, hseed, hkey⟩ := List.mem_map.mp hmem
  rwa [keyId_injective hid (isTotalId_of_mem_seeds h hseed) hkey.symm]

/-- The totals hold what is booked, and nothing is booked elsewhere. -/
structure Booked (wallets : List ActivePortfolioWalletRegistration)
    (balances : List NormalizedWalletTokenBalance)
    (positions : List MainnetProviderPositionObservation) (m : JsMap String MutableAssetTotal) :
    Prop where
  values : m.values = (seeds wallets).map (bookedTotal balances positions)
  balances_routed : ∀ b ∈ balances, balanceId b ∈ seeds wallets
  positions_routed : ∀ p ∈ positions, positionId p ∈ seeds wallets

theorem seedTotals_keys (h : AreRegistrations wallets) :
    (seedTotals wallets).keys = (seeds wallets).map keyId :=
  keys_ofEntries (keyIds_nodup h)

theorem seedTotals_get (h : AreRegistrations wallets) {id : TotalId} (hid : id ∈ seeds wallets) :
    (seedTotals wallets).get (keyId id) = some (emptyTotal id.1 id.2) :=
  JsMap.get_ofEntries_map keyId (fun s => emptyTotal s.1 s.2) _ (keyIds_nodup h) hid

/-- The balances that are booked on a total are those of its wallet and asset. -/
theorem itemsOf_balances (hbalances : ∀ b ∈ balances, IsTotalId (balanceId b)) {id : TotalId}
    (hid : IsTotalId id) : itemsOf (fun b => keyOf b.walletId b.asset) (keyId id) balances =
      itemsOf balanceId id balances :=
  itemsOf_comp fun b hb => keyId_injective (hbalances b hb) hid

theorem itemsOf_positions {id : TotalId} (hid : IsTotalId id) :
    itemsOf (fun p => keyOf p.walletId p.asset) (keyId id) positions =
      itemsOf positionId id positions :=
  itemsOf_comp fun p _ => keyId_injective (isTotalId_position p) hid

theorem liquid_get (h : AreRegistrations wallets)
    (hbalances : ∀ b ∈ balances, IsTotalId (balanceId b))
    (hm : addWalletBalances (seedTotals wallets) balances = .ok m) {id : TotalId}
    (hid : id ∈ seeds wallets) :
    m.get (keyId id) = some (withBalances (emptyTotal id.1 id.2) (itemsOf balanceId id balances)) := by
  obtain ⟨total, htotal, hfold⟩ := (tally_ok hm).get _ _ (seedTotals_get h hid)
  rw [itemsOf_balances hbalances (isTotalId_of_mem_seeds h hid)] at hfold
  rw [htotal, addWalletBalances_fold hfold]

theorem liquid_keys (h : AreRegistrations wallets)
    (hm : addWalletBalances (seedTotals wallets) balances = .ok m) :
    m.keys = (seeds wallets).map keyId :=
  (tally_ok hm).keys.trans (seedTotals_keys h)

theorem booked (h : AreRegistrations wallets) (hbalances : ∀ b ∈ balances, IsTotalId (balanceId b))
    (hm : addWalletBalances (seedTotals wallets) balances = .ok m)
    (hm' : addProviderPositions m positions = .ok m') : Booked wallets balances positions m' := by
  have hpositions := tally_ok hm'
  have hkeys := liquid_keys h hm
  refine ⟨values_eq_map (hpositions.keys.trans hkeys) fun id hid => ?_, fun b hb => ?_,
    fun p hp => ?_⟩
  · obtain ⟨total, htotal, hfold⟩ := hpositions.get _ _ (liquid_get h hbalances hm hid)
    rw [itemsOf_positions (isTotalId_of_mem_seeds h hid)] at hfold
    rw [htotal, addProviderPositions_fold hfold, bookedTotal]
  · apply mem_seeds_of_key h (hbalances b hb)
    exact seedTotals_keys h ▸ (tally_ok hm).present b hb
  · apply mem_seeds_of_key h (isTotalId_position p)
    exact hkeys ▸ hpositions.present p hp

end Booking

end CryptoLending.Portfolio.ProviderAccounting
