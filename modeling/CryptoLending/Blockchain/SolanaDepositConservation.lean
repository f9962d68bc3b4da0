import CryptoLending.Blockchain.SolanaDepositIndexer

namespace CryptoLending.Blockchain.SolanaDepositConservation

open Lib Lib.JsValue Lib.ByteSlice AssetRegistry ChainObservation SolanaTokenAccount
open SolanaDepositIndexer SolanaDepositLoop

section Layout

/-- What an account in use adds to a mint, read from its bytes. -/
def amountIn (mint : String) (account : ParsedSourceAccount) : Nat :=
  match account.data with
  | none => 0
  | some data =>
    if keyText (slice data 0 32) = mint ∧ (data[108]? = some 1 ∨ data[108]? = some 2) then
      littleEndian (slice data 64 8)
    else 0

/-- What an index says about the accounts it was made from. -/
structure Conserves (registry : SupportedAssetRegistrySnapshot)
    (accounts : List ParsedSourceAccount) (r : SolanaDepositIndexResult) : Prop where
  nodup : (accounts.map (·.address)).Nodup
  owned : ∀ account ∈ accounts, ∀ data, account.data = some data →
    ∃ p, IsTokenAccount data p ∧ p.tokenProgramId = account.programId ∧ p.owner = r.ownerAddress
  mints : r.balances.map (·.mintAddress) =
    (activeAssets registry r.networkId.text).map (·.identity)
  amounts : ∀ b ∈ r.balances,
    b.balance.amountBaseUnits = (accounts.map (amountIn b.mintAddress)).sum ∧
      b.balance.amountBaseUnits =
        b.balance.activeAmountBaseUnits + b.balance.frozenAmountBaseUnits
  length : r.sourceAccountCount = accounts.length
  counts : (r.balances.map fun b =>
      b.balance.activeTokenAccountCount + b.balance.frozenTokenAccountCount).sum +
    r.exclusions.closedAccounts + r.exclusions.uninitializedAccounts +
      r.exclusions.unsupportedMintAccounts = r.sourceAccountCount

end Layout

section Registries

variable {registry : SupportedAssetRegistrySnapshot} {networkId : String}

/-- A registry that supports, on a network of mints, each active asset under its identity. -/
structure Supports (registry : SupportedAssetRegistrySnapshot) (networkId : String) : Prop where
  kind : ∀ network ∈ registry.networks, network.networkId = networkId →
    network.identityKind = .solanaMint
  found : ∀ asset ∈ activeAssets registry networkId,
    (registry.normalizeAsset networkId asset.identity).map (·.identity) = some asset.identity
  distinct : ((activeAssets registry networkId).map (·.identity)).Nodup

theorem supports_mainnet : Supports mainnetSupportedAssetRegistry solana := by
  refine ⟨?_, ?_, ?_⟩ <;> decide

theorem supports_testnet : Supports testnetSupportedAssetRegistry solanaDevnet := by
  refine ⟨?_, ?_, ?_⟩ <;> decide

theorem Supports.normalizeAsset_spec (h : Supports registry networkId) {mint : String}
    {asset : SupportedStablecoinAsset} (hasset : registry.normalizeAsset networkId mint = some asset) :
    asset ∈ activeAssets registry networkId ∧ asset.identity = mint := by
  obtain ⟨found, hfound, hasset⟩ := Option.bind_eq_some_iff.mp hasset
  obtain ⟨active, hactive, hasset⟩ := Option.bind_eq_some_iff.mp hasset
  obtain ⟨⟨hstate, _⟩, rfl⟩ := Option.ite_none_right_eq_some.mp hasset |>.imp_right Option.some.inj
  obtain ⟨network, hnetwork, hfound⟩ := Option.bind_eq_some_iff.mp hfound
  obtain ⟨identity, hidentity, hfound⟩ := Option.bind_eq_some_iff.mp hfound
  have hname := List.find?_some hnetwork
  rw [beq_iff_eq] at hname
  have hkind := h.kind network (List.mem_of_find?_eq_some hnetwork) hname
  have hmatch := List.find?_some hfound
  simp only [Bool.and_eq_true, beq_iff_eq] at hmatch
  rw [hkind, normalizeIdentity] at hidentity
  obtain ⟨_, rfl⟩ := Option.ite_none_right_eq_some.mp hidentity |>.imp_right Option.some.inj
  refine ⟨List.mem_filter.mpr ⟨List.mem_of_find?_eq_some hfound, ?_⟩, hmatch.2⟩
  rw [hmatch.1, hname, hstate]
  simp

theorem Supports.isSome (h : Supports registry networkId) {asset : SupportedStablecoinAsset}
    (hasset : asset ∈ activeAssets registry networkId) :
    (registry.normalizeAsset networkId asset.identity).isSome = true := by
  have hfound := h.found asset hasset
  cases hn : registry.normalizeAsset networkId asset.identity with
  | none => simp [hn] at hfound
  | some a => rfl

theorem Supports.mem_iff (h : Supports registry networkId) {mint : String} :
    (registry.normalizeAsset networkId mint).isSome = true ↔
      mint ∈ (activeAssets registry networkId).map (·.identity) := by
  constructor
  · intro hsome
    obtain ⟨asset, hasset⟩ := Option.isSome_iff_exists.mp hsome
    obtain ⟨hmem, hidentity⟩ := h.normalizeAsset_spec hasset
    exact hidentity ▸ List.mem_map_of_mem hmem
  · intro hmem
    obtain ⟨asset, hasset, rfl⟩ := List.mem_map.mp hmem
    exact h.isSome hasset

/-- The networks that are indexed are those of the two registries. -/
theorem supports_of_policy {request : SolanaDepositIndexRequest}
    {policy : ChainObservationNetworkPolicy}
    (hpolicy : chainObservationPolicyForNetwork request.networkId = some policy)
    (hevm : policy.networkId.isEvm ≠ true)
    (henvironment : environmentText policy.environment = request.environment) :
    policy.networkId.text = request.networkId ∧
      Supports (supportedAssetRegistryForEnvironment request.environment) request.networkId := by
  rw [chainObservationPolicyForNetwork, Named.ofText] at hpolicy
  have htext : policy.networkId.text = request.networkId := by
    simpa using List.find?_some hpolicy
  have hmem : policy ∈ chainObservationNetworkPolicies := List.mem_of_find?_eq_some hpolicy
  refine ⟨htext, ?_⟩
  rw [← henvironment, ← htext]
  simp only [chainObservationNetworkPolicies, List.mem_cons, List.not_mem_nil, or_false] at hmem
  obtain rfl | rfl | rfl | rfl | rfl | rfl | rfl | rfl | rfl := hmem
  all_goals first
    | exact absurd (by decide) hevm
    | exact supports_mainnet
    | exact supports_testnet

end Registries

section Sums

variable {assetOf : String → Option SupportedStablecoinAsset}
  {parsed : List (Option ParsedSolanaTokenAccount)}

/-- The accounts of a mint in use are the active and the frozen ones. -/
theorem balanceOf_sums (l : List ParsedSolanaTokenAccount)
    (h : ∀ p ∈ l, p.state ≠ .uninitialized) :
    (balanceOf l).amountBaseUnits =
        (balanceOf l).activeAmountBaseUnits + (balanceOf l).frozenAmountBaseUnits ∧
      (balanceOf l).activeTokenAccountCount + (balanceOf l).frozenTokenAccountCount = l.length := by
  induction l with
  | nil => exact ⟨rfl, rfl⟩
  | cons p l ih =>
    obtain ⟨hp, hl⟩ := List.forall_mem_cons.mp h
    obtain ⟨hamount, hcount⟩ := ih hl
    simp only [balanceOf] at hamount hcount ⊢
    cases hstate : p.state with
    | uninitialized => exact absurd hstate hp
    | active =>
      simp only [List.map_cons, List.sum_cons, List.filter_cons, List.countP_cons, isActive,
        isFrozen, hstate, List.length_cons]
      simp
      omega
    | frozen =>
      simp only [List.map_cons, List.sum_cons, List.filter_cons, List.countP_cons, isActive,
        isFrozen, hstate, List.length_cons]
      simp
      omega

theorem state_of_used {mint : String} {p : ParsedSolanaTokenAccount} (hp : p ∈ used mint parsed) :
    p.state ≠ .uninitialized := (of_decide_eq_true (List.mem_filter.mp hp).2).2

theorem length_used_cons (mint : String) (p : ParsedSolanaTokenAccount) :
    (used mint (some p :: parsed)).length =
      (if p.mint = mint ∧ p.state ≠ .uninitialized then 1 else 0) + (used mint parsed).length := by
  have hcons : used mint (some p :: parsed) =
      if p.mint = mint ∧ p.state ≠ .uninitialized then p :: used mint parsed
      else used mint parsed := by
    change List.filter _ (p :: parsed.filterMap id) = _
    rw [List.filter_cons]
    simp [used]
  rw [hcons]
  split_ifs
  · rw [List.length_cons, Nat.add_comm]
  · rw [Nat.zero_add]

/-- An account in use is one of the accounts of its mint alone. -/
theorem sum_length_used_cons {mints : List String} (hnodup : mints.Nodup)
    (p : ParsedSolanaTokenAccount) :
    (mints.map fun mint => (used mint (some p :: parsed)).length).sum =
      (if p.mint ∈ mints ∧ p.state ≠ .uninitialized then 1 else 0) +
        (mints.map fun mint => (used mint parsed).length).sum := by
  simp only [length_used_cons, List.sum_map_add]
  congr 1
  by_cases hstate : p.state = .uninitialized
  · simp [hstate]
  · simp only [hstate, ne_eq, not_false_eq_true, and_true]
    induction mints with
    | nil => simp
    | cons mint mints ih =>
      obtain ⟨hfresh, hnodup⟩ := List.nodup_cons.mp hnodup
      rw [List.map_cons, List.sum_cons, ih hnodup]
      by_cases hp : p.mint = mint
      · simp [hp, hfresh]
      · simp [hp]

/-- Every account is in one class: closed, not supported, not in use, or of one mint. -/
theorem length_classes {mints : List String} (hnodup : mints.Nodup)
    (hmints : ∀ mint, (assetOf mint).isSome = true ↔ mint ∈ mints) :
    (mints.map fun mint => (used mint parsed).length).sum + parsed.countP (·.isNone) +
      parsed.countP (isUninitialized assetOf) + parsed.countP (isUnsupported assetOf) =
        parsed.length := by
  induction parsed with
  | nil => simp [used]
  | cons o parsed ih =>
    rw [List.countP_cons, List.countP_cons, List.countP_cons, List.length_cons]
    cases o with
    | none =>
      have hused : ∀ mint, used mint (none :: parsed) = used mint parsed := fun mint => rfl
      simp only [hused, isUninitialized, isUnsupported, Option.isNone_none, if_true, Bool.false_eq_true,
        if_false]
      omega
    | some p =>
      rw [sum_length_used_cons hnodup]
      have hmem := hmints p.mint
      cases hasset : assetOf p.mint with
      | none =>
        have hnot : p.mint ∉ mints := by
          rw [← hmem, hasset]
          simp
        simp only [isUninitialized, isUnsupported, hasset, hnot, false_and, if_false]
        simp
        omega
      | some asset =>
        have hin : p.mint ∈ mints := by
          rw [← hmem, hasset]
          rfl
        by_cases hstate : p.state = .uninitialized
        · simp only [isUninitialized, isUnsupported, hasset, hstate, hin, ne_eq, not_true, and_false,
            if_false]
          simp
          omega
        · simp only [isUninitialized, isUnsupported, hasset, hstate, hin, ne_eq, not_false_eq_true,
            and_true, if_true]
          simp
          omega

end Sums

section Accounts

variable {owner : String} {accounts accounts' : List ParsedSourceAccount}
  {parsed parsed' : List (Option ParsedSolanaTokenAccount)}

theorem normalizeSolanaPublicKey_again {v : Value} {key : String}
    (h : normalizeSolanaPublicKey v = .ok key) :
    normalizeSolanaPublicKey (.string key) = .ok key := by
  obtain ⟨bytes, hbytes, h⟩ := except_bind_ok.mp h
  obtain rfl := Except.ok.inj h
  obtain ⟨text, _, hencode, hlt, hlength, hzero⟩ := decodeSolanaPublicKey_ok.mp hbytes
  refine except_bind_ok.mpr ⟨bytes, decodeSolanaPublicKey_ok.mpr ⟨_, rfl, ?_, hlt, hlength, hzero⟩,
    rfl⟩
  rw [encodeBase58_eq, String.toList_ofList]

theorem text_injective : Function.Injective SolanaTokenProgramId.text := by
  intro a b h
  cases a <;> cases b <;> first | rfl | exact absurd h (by decide)

/-- An account whose data could be read holds it under the owner. -/
theorem parsedOf_spec {account : ParsedSourceAccount} {p : ParsedSolanaTokenAccount}
    (howner : normalizeSolanaPublicKey (.string owner) = .ok owner)
    (h : parsedOf owner account = some (some p)) :
    ∃ data, account.data = some data ∧ IsTokenAccount data p ∧
      p.tokenProgramId = account.programId ∧ p.owner = owner := by
  rw [parsedOf] at h
  cases hdata : account.data with
  | none => simp [hdata] at h
  | some data =>
    simp only [hdata, Option.map_eq_some_iff, Option.some.injEq, exists_eq_right] at h
    obtain ⟨_, hsame, hprogram, hlayout, hexpected⟩ :=
      parseSolanaTokenAccount_ok.1 (toOption_eq_some.mp h)
    obtain rfl := Option.some.inj hsame
    have hkey := hexpected _ rfl
    rw [howner] at hkey
    refine ⟨data, rfl, hlayout, ?_, (Except.ok.inj hkey).symm⟩
    exact (text_injective hprogram).symm

/-- What an account adds to a mint is what is counted for it. -/
theorem amountIn_eq {mint : String} {account : ParsedSourceAccount}
    {o : Option ParsedSolanaTokenAccount}
    (howner : normalizeSolanaPublicKey (.string owner) = .ok owner)
    (h : parsedOf owner account = some o) :
    amountIn mint account = ((used mint [o]).map (·.amountBaseUnits)).sum := by
  cases o with
  | none =>
    have hdata : account.data = none := by
      cases hdata : account.data with
      | none => rfl
      | some data => simp [parsedOf, hdata] at h
    simp [amountIn, hdata, used]
  | some p =>
    obtain ⟨data, hdata, hlayout, _⟩ := parsedOf_spec howner h
    have hstate : (data[108]? = some 1 ∨ data[108]? = some 2) ↔ p.state ≠ .uninitialized := by
      rw [hlayout.state]
      cases p.state <;> decide
    simp only [amountIn, hdata, ← hlayout.mint.1, ← hlayout.amount, hstate, used]
    by_cases hcounts : p.mint = mint ∧ p.state ≠ .uninitialized
    · simp [hcounts]
    · have hnone : [p].filter (fun p => decide (p.mint = mint ∧ p.state ≠ .uninitialized)) = [] :=
        List.filter_cons_of_neg (by simpa using hcounts)
      change _ = ((List.filter _ [p]).map _).sum
      rw [if_neg hcounts, hnone]
      rfl

theorem sum_amountIn {mint : String}
    (howner : normalizeSolanaPublicKey (.string owner) = .ok owner)
    (h : accounts.mapM (parsedOf owner) = some parsed) :
    (balanceOf (used mint parsed)).amountBaseUnits = (accounts.map (amountIn mint)).sum := by
  have hread := ListOption.mapM_eq_some.mp h
  clear h
  induction hread with
  | nil => rfl
  | @cons account o accounts parsed ho _ ih =>
    have hcons : used mint (o :: parsed) = used mint [o] ++ used mint parsed := by
      rw [← List.singleton_append, used, List.filterMap_append, List.filter_append]
      rfl
    simp only [balanceOf] at ih ⊢
    rw [hcons, List.map_append, List.sum_append, ih, List.map_cons, List.sum_cons,
      amountIn_eq howner ho]

theorem used_perm (mint : String) (h : parsed.Perm parsed') :
    (used mint parsed).Perm (used mint parsed') := (h.filterMap id).filter _

theorem balanceOf_perm {l l' : List ParsedSolanaTokenAccount} (h : l.Perm l') :
    balanceOf l = balanceOf l' := by
  have hactive := (h.filter isActive).map (·.amountBaseUnits)
  have hfrozen := (h.filter isFrozen).map (·.amountBaseUnits)
  simp only [balanceOf, (h.map _).sum_eq, hactive.sum_eq, hfrozen.sum_eq, h.countP_eq]

end Accounts

section Summary

variable {request : SolanaDepositIndexRequest} {checked : CheckedRequest} {sourceSlot : Nat}
  {accounts accounts' : List ParsedSourceAccount} {r : SolanaDepositIndexResult}

def indexedBalance (parsed : List (Option ParsedSolanaTokenAccount)) (sourceSlot : Nat)
    (asset : SupportedStablecoinAsset) : IndexedSolanaStablecoinBalance where
  assetId := asset.networkId ++ "/solana_mint:" ++ asset.identity
  stablecoin := asset.stablecoin
  mintAddress := asset.identity
  decimals := asset.decimals
  balance := balanceOf (used asset.identity parsed)
  sourceSlot := sourceSlot

/-- The index of accounts that hold some data. -/
def resultOf (request : SolanaDepositIndexRequest) (checked : CheckedRequest) (sourceSlot : Nat)
    (parsed : List (Option ParsedSolanaTokenAccount)) : SolanaDepositIndexResult :=
  let registry := supportedAssetRegistryForEnvironment request.environment
  let assetOf := registry.normalizeAsset request.networkId
  { authority := checked.authority
    tier := request.tier
    commitment := checked.commitment
    environment := request.environment
    networkId := checked.policy.networkId
    ownerAddress := checked.ownerAddress
    sourceSlot
    registryVersion := registry.version
    registryFingerprintSha256 := registry.fingerprintSha256
    sourceAccountCount := parsed.length
    balances := (activeAssets registry request.networkId).map (indexedBalance parsed sourceSlot)
    exclusions :=
      { closedAccounts := parsed.countP (·.isNone)
        uninitializedAccounts := parsed.countP (isUninitialized assetOf)
        unsupportedMintAccounts := parsed.countP (isUnsupported assetOf) } }

theorem resultOf_perm {parsed parsed' : List (Option ParsedSolanaTokenAccount)}
    (h : parsed.Perm parsed') :
    resultOf request checked sourceSlot parsed = resultOf request checked sourceSlot parsed' := by
  have hbalance : indexedBalance parsed sourceSlot = indexedBalance parsed' sourceSlot := by
    funext asset
    rw [indexedBalance, balanceOf_perm (used_perm asset.identity h), indexedBalance]
  simp only [resultOf, hbalance, h.length_eq, h.countP_eq]

theorem mapM_toIndexedBalance {registry : SupportedAssetRegistrySnapshot} {networkId : String}
    (h : Supports registry networkId) {parsed : List (Option ParsedSolanaTokenAccount)}
    {tallies : Tallies}
    (hcounted : Counted (registry.normalizeAsset networkId) accounts parsed tallies) :
    (activeAssets registry networkId).mapM (toIndexedBalance tallies.balancesByMint sourceSlot) =
      .ok ((activeAssets registry networkId).map (indexedBalance parsed sourceSlot)) := by
  refine except_mapM_map fun asset hasset => ?_
  rw [toIndexedBalance, hcounted.balances _ (h.isSome hasset)]
  rfl

/-- The result of a loop that has ended. -/
theorem resultOf_counted {parsed : List (Option ParsedSolanaTokenAccount)} {tallies : Tallies}
    (hparsed : accounts.mapM (parsedOf checked.ownerAddress) = some parsed)
    (hcounted : Counted ((supportedAssetRegistryForEnvironment request.environment).normalizeAsset
      request.networkId) accounts parsed tallies) :
    resultOf request checked sourceSlot parsed =
      { resultOf request checked sourceSlot parsed with
        sourceAccountCount := accounts.length, exclusions := tallies.exclusions } := by
  rw [← ListOption.length_mapM hparsed]
  simp only [resultOf, ← hcounted.closed, ← hcounted.uninitialized, ← hcounted.unsupported]

variable (h : Supports (supportedAssetRegistryForEnvironment request.environment)
  request.networkId)

include h

theorem counted_start : Counted
    ((supportedAssetRegistryForEnvironment request.environment).normalizeAsset request.networkId)
    [] [] { balancesByMint := JsMap.ofEntries ((activeAssets
      (supportedAssetRegistryForEnvironment request.environment) request.networkId).map
        fun asset => (asset.identity, {})) } := by
  refine ⟨rfl, List.nodup_nil, rfl, rfl, rfl, fun mint hmint => ?_⟩
  obtain ⟨asset, hasset, rfl⟩ := List.mem_map.mp (h.mem_iff.1 hmint)
  exact JsMap.get_ofEntries_map _ _ _ h.distinct hasset

/-- The accounts that can be summarized, with what comes out. -/
theorem summarize_ok : summarize request checked sourceSlot accounts = .ok r ↔
    accounts.length ≤ maxReadUnits ∧ (accounts.map (·.address)).Nodup ∧
      ∃ parsed, accounts.mapM (parsedOf checked.ownerAddress) = some parsed ∧
        resultOf request checked sourceSlot parsed = r := by
  have hidentity : ∀ mint asset, (supportedAssetRegistryForEnvironment
      request.environment).normalizeAsset request.networkId mint = some asset →
        asset.identity = mint := fun mint asset hasset => (h.normalizeAsset_spec hasset).2
  simp only [summarize, except_bind_ok, failWhen_ok, exists_const, Nat.not_lt]
  refine and_congr_right fun _ => ?_
  constructor
  · rintro ⟨tallies, htallies, balances, hassets, hr⟩
    obtain ⟨parsed, hparsed, hcounted⟩ := counted_of_foldlM hidentity (counted_start h) htallies
    refine ⟨hcounted.nodup, parsed, hparsed, ?_⟩
    rw [mapM_toIndexedBalance h hcounted] at hassets
    obtain rfl := Except.ok.inj hassets
    rw [resultOf_counted hparsed hcounted]
    exact Except.ok.inj hr
  · rintro ⟨hnodup, parsed, hparsed, rfl⟩
    obtain ⟨tallies, htallies⟩ := foldlM_isOk hidentity (counted_start h) hparsed hnodup
    obtain ⟨parsed', hparsed', hcounted⟩ := counted_of_foldlM hidentity (counted_start h) htallies
    obtain rfl := Option.some.inj (hparsed.symm.trans hparsed')
    refine ⟨tallies, htallies, _, mapM_toIndexedBalance h hcounted, ?_⟩
    rw [resultOf_counted hparsed hcounted]
    rfl

theorem summarize_conserves
    (howner : normalizeSolanaPublicKey (.string checked.ownerAddress) = .ok checked.ownerAddress)
    (hnetwork : checked.policy.networkId.text = request.networkId)
    (hr : summarize request checked sourceSlot accounts = .ok r) :
    Conserves (supportedAssetRegistryForEnvironment request.environment) accounts r := by
  obtain ⟨_, hnodup, parsed, hparsed, rfl⟩ := (summarize_ok h).1 hr
  have hlength := ListOption.length_mapM hparsed
  refine ⟨hnodup, ?_, ?_, ?_, hlength, ?_⟩
  · intro account haccount data hdata
    obtain ⟨o, _, ho⟩ := ListOption.mapM_of_mem hparsed haccount
    cases o with
    | none => simp [parsedOf, hdata] at ho
    | some p =>
      obtain ⟨data', hdata', hp⟩ := parsedOf_spec howner ho
      obtain rfl := Option.some.inj (hdata.symm.trans hdata')
      exact ⟨p, hp⟩
  · rw [resultOf, List.map_map, hnetwork]
    rfl
  · intro b hb
    obtain ⟨asset, _, rfl⟩ := List.mem_map.mp hb
    exact ⟨sum_amountIn howner hparsed, (balanceOf_sums _ fun p hp => state_of_used hp).1⟩
  · have hclasses : _ = parsed.length := length_classes h.distinct fun _ => h.mem_iff
    rw [List.map_map] at hclasses
    simp only [resultOf, List.map_map]
    rw [← hclasses]
    congr 4
    refine List.map_congr_left fun asset _ => ?_
    exact (balanceOf_sums _ fun p hp => state_of_used hp).2

/-- The order of the accounts does not matter. -/
theorem summarize_perm (hperm : accounts.Perm accounts')
    (hr : summarize request checked sourceSlot accounts = .ok r) :
    summarize request checked sourceSlot accounts' = .ok r := by
  obtain ⟨hlength, hnodup, parsed, hparsed, rfl⟩ := (summarize_ok h).1 hr
  have hrel := ListOption.mapM_perm (parsedOf checked.ownerAddress) hperm
  rw [hparsed] at hrel
  cases hparsed' : accounts'.mapM (parsedOf checked.ownerAddress) with
  | none => rw [hparsed'] at hrel; cases hrel
  | some parsed' =>
    rw [hparsed'] at hrel
    obtain ⟨hsame⟩ := hrel
    refine (summarize_ok h).2 ⟨hperm.length_eq ▸ hlength, ?_, parsed', hparsed',
      (resultOf_perm hsame).symm⟩
    exact (hperm.map _).nodup_iff.mp hnodup

end Summary

section Index

variable {source source' : SolanaDepositSourcePort}
  {verify : Option (Value → SolanaCanonicalReadCapabilityContext → Bool)}
  {request : SolanaDepositIndexRequest} {checked : CheckedRequest} {r : SolanaDepositIndexResult}

/-- Two answers that list the same accounts in some order. -/
structure SameAccounts (answer answer' : SourceValue) : Prop where
  slot : ownValue answer' "contextSlot" = ownValue answer "contextSlot"
  items : ∃ items items', ownValue answer "accounts" = .ok (.array items) ∧
    ownValue answer' "accounts" = .ok (.array items') ∧ items.Perm items'

/-- A source whose answers list the accounts of another source in some order. -/
structure Rearranges (source source' : SolanaDepositSourcePort) : Prop where
  genesis : source'.getGenesisHash = source.getGenesisHash
  answers : ∀ asked answer, source.getTokenAccountsByOwner asked = some answer →
    ∃ answer', source'.getTokenAccountsByOwner asked = some answer' ∧
      (answer' = answer ∨ SameAccounts answer answer')

/-- What an index has read: the accounts of both programs for the owner of the request. -/
structure Reads (source : SolanaDepositSourcePort) (request : SolanaDepositIndexRequest)
    (r : SolanaDepositIndexResult) (accounts : List ParsedSourceAccount) : Prop where
  owner : normalizeSolanaPublicKey request.ownerAddress = .ok r.ownerAddress
  network : r.networkId.text = request.networkId
  answers : ∃ legacyAnswer token2022Answer legacy token2022 minContextSlot,
    source.getTokenAccountsByOwner ⟨r.ownerAddress, .legacy, r.commitment, minContextSlot⟩ =
      some legacyAnswer ∧
    source.getTokenAccountsByOwner ⟨r.ownerAddress, .token2022, r.commitment, minContextSlot⟩ =
      some token2022Answer ∧
    parseSourceResponse legacyAnswer .legacy = .ok ⟨r.sourceSlot, legacy⟩ ∧
    parseSourceResponse token2022Answer .token2022 = .ok ⟨r.sourceSlot, token2022⟩ ∧
    accounts = legacy ++ token2022

theorem checkRequest_spec (h : checkRequest verify request = .ok checked) :
    checked.policy.networkId.text = request.networkId ∧
      Supports (supportedAssetRegistryForEnvironment request.environment) request.networkId ∧
      normalizeSolanaPublicKey request.ownerAddress = .ok checked.ownerAddress := by
  simp only [checkRequest, except_bind_ok, failWhen_ok, orFail_ok, mapError_ok, except_pure_ok,
    exists_const, not_not] at h
  obtain ⟨policy, hpolicy, hevm, -, henvironment, _, -, owner, howner, _, -, _, -, -, -, rfl⟩ := h
  obtain ⟨hnetwork, hsupports⟩ := supports_of_policy hpolicy hevm henvironment
  exact ⟨hnetwork, hsupports, howner⟩

theorem parseSourceResponse_perm {answer answer' : SourceValue} {programId : SolanaTokenProgramId}
    {p : ParsedSourceResponse} (hsame : SameAccounts answer answer')
    (h : parseSourceResponse answer programId = .ok p) :
    ∃ accounts', parseSourceResponse answer' programId = .ok ⟨p.contextSlot, accounts'⟩ ∧
      p.accounts.Perm accounts' := by
  obtain ⟨items, items', hitems, hitems', hperm⟩ := hsame.items
  simp only [parseSourceResponse, hsame.slot, hitems, hitems', except_ok_bind] at h ⊢
  obtain ⟨slotValue, hslotValue, h⟩ := except_bind_ok.mp h
  obtain ⟨slot, hslot, h⟩ := except_bind_ok.mp h
  obtain ⟨_, hlimit, h⟩ := except_bind_ok.mp h
  obtain ⟨accounts, haccounts, h⟩ := except_bind_ok.mp h
  obtain rfl := Except.ok.inj h
  obtain ⟨accounts', haccounts', hperm'⟩ := except_mapM_perm hperm haccounts
  refine ⟨accounts', ?_, hperm'⟩
  rw [hslotValue, except_ok_bind, hslot, except_ok_bind, ← hperm.length_eq, hlimit, except_ok_bind,
    haccounts']
  rfl

theorem readAccounts_perm {programId : SolanaTokenProgramId} {p : ParsedSourceResponse}
    (hsource : Rearranges source source') (h : readAccounts source checked programId = .ok p) :
    ∃ accounts', readAccounts source' checked programId = .ok ⟨p.contextSlot, accounts'⟩ ∧
      p.accounts.Perm accounts' := by
  obtain ⟨answer, hanswer, h⟩ := except_bind_ok.mp h
  obtain ⟨answer', hanswer', hsame⟩ := hsource.answers _ _ (orFail_ok.mp hanswer)
  rw [readAccounts, hanswer']
  obtain rfl | hsame := hsame
  · exact ⟨p.accounts, h, .refl _⟩
  · exact parseSourceResponse_perm hsame h

theorem index_reads (h : index source verify request = .ok r) :
    ∃ accounts, Reads source request r accounts ∧
      Conserves (supportedAssetRegistryForEnvironment request.environment) accounts r := by
  obtain ⟨checked, hchecked, h⟩ := except_bind_ok.mp h
  obtain ⟨_, _, h⟩ := except_bind_ok.mp h
  obtain ⟨_, _, h⟩ := except_bind_ok.mp h
  obtain ⟨⟨slot, legacy⟩, hlegacy, h⟩ := except_bind_ok.mp h
  obtain ⟨⟨slot', token2022⟩, htoken2022, h⟩ := except_bind_ok.mp h
  obtain ⟨_, hslots, h⟩ := except_bind_ok.mp h
  obtain ⟨_, _, h⟩ := except_bind_ok.mp h
  obtain rfl : slot = slot' := not_not.mp (failWhen_ok.mp hslots)
  obtain ⟨hnetwork, hsupports, howner⟩ := checkRequest_spec hchecked
  refine ⟨legacy ++ token2022, ?_, summarize_conserves hsupports
    (normalizeSolanaPublicKey_again howner) hnetwork h⟩
  obtain ⟨_, _, parsed, _, rfl⟩ := (summarize_ok hsupports).1 h
  obtain ⟨legacyAnswer, hlegacyAnswer, hlegacy⟩ := except_bind_ok.mp hlegacy
  obtain ⟨token2022Answer, htoken2022Answer, htoken2022⟩ := except_bind_ok.mp htoken2022
  exact ⟨howner, hnetwork, legacyAnswer, token2022Answer, legacy, token2022,
    checked.minContextSlot, orFail_ok.mp hlegacyAnswer, orFail_ok.mp htoken2022Answer, hlegacy,
    htoken2022, rfl⟩

theorem index_perm (hsource : Rearranges source source')
    (h : index source verify request = .ok r) : index source' verify request = .ok r := by
  obtain ⟨checked, hchecked, h⟩ := except_bind_ok.mp h
  obtain ⟨hash, hhash, h⟩ := except_bind_ok.mp h
  obtain ⟨_, hidentity, h⟩ := except_bind_ok.mp h
  obtain ⟨legacy, hlegacy, h⟩ := except_bind_ok.mp h
  obtain ⟨token2022, htoken2022, h⟩ := except_bind_ok.mp h
  obtain ⟨_, hslots, h⟩ := except_bind_ok.mp h
  obtain ⟨_, hslot, h⟩ := except_bind_ok.mp h
  obtain ⟨_, hsupports, _⟩ := checkRequest_spec hchecked
  obtain ⟨legacy', hlegacy', hlegacyPerm⟩ := readAccounts_perm hsource hlegacy
  obtain ⟨token2022', htoken2022', htoken2022Perm⟩ := readAccounts_perm hsource htoken2022
  rw [index, hchecked, except_ok_bind, hsource.genesis, hhash, except_ok_bind, hidentity,
    except_ok_bind, hlegacy', except_ok_bind, htoken2022', except_ok_bind, hslots, except_ok_bind,
    hslot, except_ok_bind]
  exact summarize_perm hsupports (hlegacyPerm.append htoken2022Perm) h

/-- An index conserves the amounts of the accounts it was made from, whatever their order, and an
account is read exactly when it has the layout. -/
theorem index_conserves_amounts (source : SolanaDepositSourcePort)
    (verify : Option (Value → SolanaCanonicalReadCapabilityContext → Bool))
    (request : SolanaDepositIndexRequest) (r : SolanaDepositIndexResult)
    (h : index source verify request = .ok r) :
    (∃ accounts, Reads source request r accounts ∧
      Conserves (supportedAssetRegistryForEnvironment request.environment) accounts r) ∧
    (∀ source', Rearranges source source' → index source' verify request = .ok r) ∧
    ∀ input p, parseSolanaTokenAccount input = .ok p ↔
      ∃ data, input.data = some data ∧ input.tokenProgramId = p.tokenProgramId.text ∧
        IsTokenAccount data p ∧
        ∀ expected, input.expectedOwner = some expected →
          normalizeSolanaPublicKey expected = .ok p.owner :=
  ⟨index_reads h, fun _ hsource => index_perm hsource h, fun _ _ => parseSolanaTokenAccount_ok⟩

def sampleAccount (address : String) (programId : SolanaTokenProgramId) (data : SourceValue) :
    SourceValue :=
  .record [(.text "address", .data (.string address) true),
    (.text "programId", .data (.string programId.text) true), (.text "data", .data data true)]

/-- An account in use that holds 1000 base units of USDC. -/
def sampleData : List UInt8 :=
  [198, 250, 122, 243, 190, 219, 173, 58, 61, 101, 243, 106, 171, 201, 116, 49, 177, 187, 228, 194,
    210, 246, 224, 228, 124, 166, 2, 3, 69, 47, 93, 97] ++
    (List.replicate 31 0 ++ [1]) ++ ([232, 3] ++ List.replicate 6 0) ++ List.replicate 36 0 ++
      [1] ++ List.replicate 56 0

/-- The legacy program has an account in use, the other one a closed account. -/
def sampleSource : SolanaDepositSourcePort where
  getGenesisHash := some (.string "5eykt4UsFv8P8NJdTREpY1vzqKqZKvdpKuc147dw2N9d")
  getTokenAccountsByOwner asked := some (.record [(.text "contextSlot", .data (.bigint 7) true),
    (.text "accounts", .data (.array [match asked.tokenProgramId with
      | .legacy => sampleAccount "11111111111111111111111111111113" .legacy (.bytes sampleData)
      | .token2022 => sampleAccount "11111111111111111111111111111114" .token2022 .null]) true)])

def sampleRequest : SolanaDepositIndexRequest where
  environment := "MAINNET"
  networkId := solana
  ownerAddress := .string "11111111111111111111111111111112"
  tier := "PROVISIONAL"
  minContextSlot := .undefined
  canonicalReadCapability := .undefined

def sampleBalance (stablecoin : SupportedStablecoin) (mintAddress : String)
    (balance : MutableBalance) : IndexedSolanaStablecoinBalance :=
  ⟨solana ++ "/solana_mint:" ++ mintAddress, stablecoin, mintAddress, 6, balance, 7⟩

def sampleResult : SolanaDepositIndexResult where
  authority := .displayOnly
  tier := "PROVISIONAL"
  commitment := .confirmed
  environment := "MAINNET"
  networkId := .solana
  ownerAddress := "11111111111111111111111111111112"
  sourceSlot := 7
  registryVersion := 1
  registryFingerprintSha256 := mainnetSupportedAssetRegistry.fingerprintSha256
  sourceAccountCount := 2
  balances :=
    [sampleBalance .usdc "EPjFWdd5AufqSSqeM2qN1xzybapC8G4wEGGkZwyTDt1v" ⟨1000, 1000, 0, 1, 0⟩,
      sampleBalance .usdt "Es9vMFrzaCERmJfrF4H2FYD4KCoNkY11McCe8BenwNYB" {},
      sampleBalance .pyusd "2b1kV6DkPAnxd5ixfnxCpjxmKwqjjaYmCZfHsFu24GXo" {}]
  exclusions := ⟨1, 0, 0⟩

theorem sampleResult_conserves : ∃ accounts, Reads sampleSource sampleRequest sampleResult accounts ∧
    Conserves mainnetSupportedAssetRegistry accounts sampleResult :=
  (index_conserves_amounts sampleSource none sampleRequest sampleResult (by decide +kernel)).1

end Index

end CryptoLending.Blockchain.SolanaDepositConservation
