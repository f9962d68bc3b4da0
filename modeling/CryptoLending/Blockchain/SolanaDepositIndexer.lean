import Mathlib.Algebra.BigOperators.Group.List.Basic
import CryptoLending.Blockchain.AssetRegistry
import CryptoLending.Blockchain.ChainObservation
import CryptoLending.Blockchain.SolanaTokenAccount

namespace CryptoLending.Blockchain.SolanaDepositIndexer

open Lib Lib.JsValue AssetRegistry ChainObservation SolanaTokenAccount

inductive SolanaDepositIndexerErrorCode where
  | invalidEnvironment
  | unsupportedNetwork
  | environmentMismatch
  | invalidOwnerAddress
  | invalidMinContextSlot
  | tierNotAvailable
  | liveCapabilityProofRequired
  | sourceReadFailed
  | identityMismatch
  | invalidSourceResponse
  | sourceSlotRegression
  | incoherentSourceSlots
  | readUnitLimitExceeded
  | duplicateTokenAccount
  deriving DecidableEq

/-- An untyped answer of a source. Beside plain values it may hold arrays of bytes. -/
inductive SourceValue where
  | null
  | bigint (value : Int)
  | string (value : String)
  | bytes (data : List UInt8)
  | array (items : List SourceValue)
  | record (properties : List (Key × Property SourceValue))
  | other

abbrev IndexM := Except SolanaDepositIndexerErrorCode

def maxSlot : Nat := 18446744073709551615
def maxReadUnits : Nat := 2048

/-- An own data property. An array of bytes is a record too, but has none of the names read. -/
def ownValue (value : SourceValue) (key : String) : IndexM SourceValue :=
  match value with
  | .record properties =>
    match properties.lookup (.text key) with
    | some (.data v _) => .ok v
    | _ => .error .invalidSourceResponse
  | _ => .error .invalidSourceResponse

def parseSlot : SourceValue → IndexM Nat
  | .bigint n => do
    failWhen (n < 0 ∨ (maxSlot : Int) < n) .invalidSourceResponse
    return n.toNat
  | _ => .error .invalidSourceResponse

structure ParsedSourceAccount where
  address : String
  programId : SolanaTokenProgramId
  data : Option (List UInt8)
  deriving DecidableEq

def parseText : SourceValue → IndexM String
  | .string text => .ok text
  | _ => .error .invalidSourceResponse

def parseData : SourceValue → IndexM (Option (List UInt8))
  | .null => .ok none
  | .bytes data => do
    failWhen (maxSolanaTokenAccountBytes < data.length) .invalidSourceResponse
    return some data
  | _ => .error .invalidSourceResponse

def parseAccount (expectedProgramId : SolanaTokenProgramId) (value : SourceValue) :
    IndexM ParsedSourceAccount := do
  let addressValue ← ownValue value "address"
  let programIdValue ← ownValue value "programId"
  let dataValue ← ownValue value "data"
  let addressText ← parseText addressValue
  let programId ← parseText programIdValue
  failWhen (programId ≠ expectedProgramId.text) .invalidSourceResponse
  let address ← (normalizeSolanaPublicKey (.string addressText)).mapError
    fun _ => .invalidSourceResponse
  let data ← parseData dataValue
  return { address, programId := expectedProgramId, data }

structure ParsedSourceResponse where
  contextSlot : Nat
  accounts : List ParsedSourceAccount

def parseSourceResponse (value : SourceValue) (expectedProgramId : SolanaTokenProgramId) :
    IndexM ParsedSourceResponse := do
  let slotValue ← ownValue value "contextSlot"
  let contextSlot ← parseSlot slotValue
  let accountsValue ← ownValue value "accounts"
  match accountsValue with
  | .array items => do
    failWhen (maxReadUnits < items.length) .readUnitLimitExceeded
    let accounts ← items.mapM (parseAccount expectedProgramId)
    return { contextSlot, accounts }
  | _ => .error .invalidSourceResponse

def environmentText : ChainObservationEnvironment → String
  | .mainnet => "MAINNET"
  | .testnet => "TESTNET"
  | .localEvm => "LOCAL"

inductive ChainObservationAuthority where
  | displayOnly
  | canonicalIndexing
  | financialAndLedger
  deriving DecidableEq

/-- Every network gives a tier the same authority. -/
def authorityOf : ChainObservationTier → ChainObservationAuthority
  | .provisional => .displayOnly
  | .canonical => .canonicalIndexing
  | .financial => .financialAndLedger

/-- The hash of the first block, for the networks of the Solana family. -/
def expectedGenesisHash : ChainObservationNetworkId → Option String
  | .solana => some "5eykt4UsFv8P8NJdTREpY1vzqKqZKvdpKuc147dw2N9d"
  | .solanaDevnet => some "EtWTRABZaYq6iMfeYKouRu166VU2xqa1wcaWoxPkrZBG"
  | _ => none

structure SolanaCanonicalReadCapabilityContext where
  environment : String
  networkId : ChainObservationNetworkId
  commitment : ChainObservationSelector

structure SolanaTokenAccountsByOwnerRequest where
  ownerAddress : String
  tokenProgramId : SolanaTokenProgramId
  commitment : ChainObservationSelector
  minContextSlot : Option Nat

/-- A read gives nothing where it throws. -/
structure SolanaDepositSourcePort where
  getGenesisHash : Option SourceValue
  getTokenAccountsByOwner : SolanaTokenAccountsByOwnerRequest → Option SourceValue

structure SolanaDepositIndexRequest where
  environment : String
  networkId : String
  ownerAddress : Value
  tier : String
  minContextSlot : Value
  canonicalReadCapability : Value

/-- The smallest slot of a request, where it names one. -/
def validateMinContextSlot : Value → IndexM (Option Nat)
  | .undefined => .ok none
  | .bigint n => do
    failWhen (n < 0 ∨ (maxSlot : Int) < n) .invalidMinContextSlot
    return some n.toNat
  | _ => .error .invalidMinContextSlot

def commitmentForTier (tier : String) : IndexM ChainObservationSelector := do
  failWhen (tier ≠ "PROVISIONAL" ∧ tier ≠ "CANONICAL") .tierNotAvailable
  return .confirmed

def supportedAssetRegistryForEnvironment (environment : String) : SupportedAssetRegistrySnapshot :=
  if environment = "MAINNET" then mainnetSupportedAssetRegistry else testnetSupportedAssetRegistry

structure MutableBalance where
  amountBaseUnits : Nat := 0
  activeAmountBaseUnits : Nat := 0
  frozenAmountBaseUnits : Nat := 0
  activeTokenAccountCount : Nat := 0
  frozenTokenAccountCount : Nat := 0
  deriving DecidableEq

structure Exclusions where
  closedAccounts : Nat := 0
  uninitializedAccounts : Nat := 0
  unsupportedMintAccounts : Nat := 0
  deriving DecidableEq

/-- What the loop over the accounts has seen and counted. -/
structure Tallies where
  seenAccounts : List String := []
  exclusions : Exclusions := {}
  balancesByMint : JsMap String MutableBalance

/-- An account in use is either active or frozen. -/
def MutableBalance.add (balance : MutableBalance) (parsed : ParsedSolanaTokenAccount) :
    MutableBalance :=
  if parsed.state = .active then
    { balance with
      amountBaseUnits := balance.amountBaseUnits + parsed.amountBaseUnits
      activeAmountBaseUnits := balance.activeAmountBaseUnits + parsed.amountBaseUnits
      activeTokenAccountCount := balance.activeTokenAccountCount + 1 }
  else
    { balance with
      amountBaseUnits := balance.amountBaseUnits + parsed.amountBaseUnits
      frozenAmountBaseUnits := balance.frozenAmountBaseUnits + parsed.amountBaseUnits
      frozenTokenAccountCount := balance.frozenTokenAccountCount + 1 }

/-- An unsupported mint is told before an account that is not in use. -/
def countParsed (assetOf : String → Option SupportedStablecoinAsset) (tallies : Tallies)
    (parsed : ParsedSolanaTokenAccount) : IndexM Tallies :=
  match assetOf parsed.mint with
  | none => .ok { tallies with exclusions := { tallies.exclusions with
      unsupportedMintAccounts := tallies.exclusions.unsupportedMintAccounts + 1 } }
  | some asset =>
    if parsed.state = .uninitialized then
      .ok { tallies with exclusions := { tallies.exclusions with
        uninitializedAccounts := tallies.exclusions.uninitializedAccounts + 1 } }
    else do
      let balance ← orFail (tallies.balancesByMint.get asset.identity) .invalidSourceResponse
      return { tallies with
        balancesByMint := tallies.balancesByMint.set asset.identity (balance.add parsed) }

/-- One round of the loop over the accounts. -/
def countAccount (assetOf : String → Option SupportedStablecoinAsset) (ownerAddress : String)
    (tallies : Tallies) (account : ParsedSourceAccount) : IndexM Tallies := do
  failWhen (account.address ∈ tallies.seenAccounts) .duplicateTokenAccount
  let seen := { tallies with seenAccounts := tallies.seenAccounts ++ [account.address] }
  match account.data with
  | none => return { seen with exclusions := { seen.exclusions with
      closedAccounts := seen.exclusions.closedAccounts + 1 } }
  | some data => do
    let parsed ← (parseSolanaTokenAccount ⟨some data, account.programId.text,
      some (.string ownerAddress)⟩).mapError fun _ => .invalidSourceResponse
    countParsed assetOf seen parsed

structure IndexedSolanaStablecoinBalance where
  assetId : String
  stablecoin : SupportedStablecoin
  mintAddress : String
  decimals : Nat
  balance : MutableBalance
  sourceSlot : Nat
  deriving DecidableEq

structure SolanaDepositIndexResult where
  authority : ChainObservationAuthority
  tier : String
  commitment : ChainObservationSelector
  environment : String
  networkId : ChainObservationNetworkId
  ownerAddress : String
  sourceSlot : Nat
  registryVersion : Nat
  registryFingerprintSha256 : String
  sourceAccountCount : Nat
  balances : List IndexedSolanaStablecoinBalance
  exclusions : Exclusions
  deriving DecidableEq

def toIndexedBalance (balancesByMint : JsMap String MutableBalance) (sourceSlot : Nat)
    (asset : SupportedStablecoinAsset) : IndexM IndexedSolanaStablecoinBalance := do
  let balance ← orFail (balancesByMint.get asset.identity) .invalidSourceResponse
  return {
    assetId := asset.networkId ++ "/solana_mint:" ++ asset.identity
    stablecoin := asset.stablecoin
    mintAddress := asset.identity
    decimals := asset.decimals
    balance
    sourceSlot }

/-- The active assets of a registry on a network. -/
def activeAssets (registry : SupportedAssetRegistrySnapshot) (networkId : String) :
    List SupportedStablecoinAsset :=
  registry.assets.filter fun asset =>
    asset.networkId == networkId && asset.activationState == .active

/-- What is left of a request after its checks. -/
structure CheckedRequest where
  policy : ChainObservationNetworkPolicy
  minContextSlot : Option Nat
  ownerAddress : String
  commitment : ChainObservationSelector
  authority : ChainObservationAuthority

/-- A verifier that throws does not accept. -/
def canonicalReadCapabilityIsValid
    (verify : Option (Value → SolanaCanonicalReadCapabilityContext → Bool)) (capability : Value)
    (context : SolanaCanonicalReadCapabilityContext) : Bool :=
  match verify, capability with
  | none, _ => false
  | _, .undefined => false
  | some verify, capability => verify capability context

def checkRequest (verify : Option (Value → SolanaCanonicalReadCapabilityContext → Bool))
    (request : SolanaDepositIndexRequest) : IndexM CheckedRequest := do
  let policy ← orFail (chainObservationPolicyForNetwork request.networkId) .unsupportedNetwork
  failWhen (policy.networkId.isEvm = true) .unsupportedNetwork
  failWhen (request.environment ≠ "MAINNET" ∧ request.environment ≠ "TESTNET") .invalidEnvironment
  failWhen (environmentText policy.environment ≠ request.environment) .environmentMismatch
  let minContextSlot ← validateMinContextSlot request.minContextSlot
  let ownerAddress ← (normalizeSolanaPublicKey request.ownerAddress).mapError
    fun _ => .invalidOwnerAddress
  let commitment ← commitmentForTier request.tier
  let tierRule ← orFail (observationTierRule request.networkId request.tier) .tierNotAvailable
  let authority := authorityOf tierRule.tier
  failWhen (authority = .financialAndLedger) .tierNotAvailable
  failWhen (request.tier = "CANONICAL" ∧ canonicalReadCapabilityIsValid verify
    request.canonicalReadCapability ⟨request.environment, policy.networkId, .confirmed⟩ = false)
    .liveCapabilityProofRequired
  return { policy, minContextSlot, ownerAddress, commitment, authority }

def isExpectedChainIdentity (networkId : ChainObservationNetworkId) : SourceValue → Bool
  | .string text => expectedGenesisHash networkId == some text
  | _ => false

/-- Read the accounts of one program. The two reads run together, and the first failure counts. -/
def readAccounts (source : SolanaDepositSourcePort) (checked : CheckedRequest)
    (programId : SolanaTokenProgramId) : IndexM ParsedSourceResponse := do
  let value ← orFail (source.getTokenAccountsByOwner ⟨checked.ownerAddress, programId,
    checked.commitment, checked.minContextSlot⟩) .sourceReadFailed
  parseSourceResponse value programId

/-- Count the accounts of both programs. -/
def summarize (request : SolanaDepositIndexRequest) (checked : CheckedRequest) (sourceSlot : Nat)
    (accounts : List ParsedSourceAccount) : IndexM SolanaDepositIndexResult := do
  failWhen (maxReadUnits < accounts.length) .readUnitLimitExceeded
  let registry := supportedAssetRegistryForEnvironment request.environment
  let assets := activeAssets registry request.networkId
  let balancesByMint := JsMap.ofEntries (assets.map fun asset => (asset.identity, {}))
  let tallies ← accounts.foldlM
    (countAccount (registry.normalizeAsset request.networkId) checked.ownerAddress)
    { balancesByMint }
  let balances ← assets.mapM (toIndexedBalance tallies.balancesByMint sourceSlot)
  return {
    authority := checked.authority
    tier := request.tier
    commitment := checked.commitment
    environment := request.environment
    networkId := checked.policy.networkId
    ownerAddress := checked.ownerAddress
    sourceSlot
    registryVersion := registry.version
    registryFingerprintSha256 := registry.fingerprintSha256
    sourceAccountCount := accounts.length
    balances
    exclusions := tallies.exclusions }

def index (source : SolanaDepositSourcePort)
    (verify : Option (Value → SolanaCanonicalReadCapabilityContext → Bool))
    (request : SolanaDepositIndexRequest) : IndexM SolanaDepositIndexResult := do
  let checked ← checkRequest verify request
  let genesisHash ← orFail source.getGenesisHash .sourceReadFailed
  failWhen (isExpectedChainIdentity checked.policy.networkId genesisHash = false) .identityMismatch
  let legacy ← readAccounts source checked .legacy
  let token2022 ← readAccounts source checked .token2022
  failWhen (legacy.contextSlot ≠ token2022.contextSlot) .incoherentSourceSlots
  failWhen (∃ slot ∈ checked.minContextSlot, legacy.contextSlot < slot) .sourceSlotRegression
  summarize request checked legacy.contextSlot (legacy.accounts ++ token2022.accounts)

end CryptoLending.Blockchain.SolanaDepositIndexer

namespace CryptoLending.Blockchain.SolanaDepositLoop

open Lib Lib.JsValue AssetRegistry SolanaTokenAccount SolanaDepositIndexer

variable {assetOf : String → Option SupportedStablecoinAsset} {owner : String}
  {accounts : List ParsedSourceAccount} {parsed : List (Option ParsedSolanaTokenAccount)}
  {tallies : Tallies}

section Reading

/-- What the data of an account holds, nothing where the account is closed. -/
def parsedOf (owner : String) (account : ParsedSourceAccount) :
    Option (Option ParsedSolanaTokenAccount) :=
  match account.data with
  | none => some none
  | some data => (parseSolanaTokenAccount ⟨some data, account.programId.text,
      some (.string owner)⟩).toOption.map some

/-- How an account counts, by what its data holds. -/
def countRead (assetOf : String → Option SupportedStablecoinAsset) (tallies : Tallies) :
    Option ParsedSolanaTokenAccount → IndexM Tallies
  | none => .ok { tallies with exclusions := { tallies.exclusions with
      closedAccounts := tallies.exclusions.closedAccounts + 1 } }
  | some p => countParsed assetOf tallies p

theorem countAccount_ok {account : ParsedSourceAccount} {next : Tallies} :
    countAccount assetOf owner tallies account = .ok next ↔
      account.address ∉ tallies.seenAccounts ∧ ∃ o, parsedOf owner account = some o ∧
        countRead assetOf { tallies with
          seenAccounts := tallies.seenAccounts ++ [account.address] } o = .ok next := by
  rw [countAccount, except_bind_ok]
  simp only [failWhen_ok, exists_const, parsedOf]
  cases account.data with
  | none => simp [countRead, pure, Except.pure]
  | some data =>
    simp only [except_bind_ok, mapError_ok, Option.map_eq_some_iff, toOption_eq_some]
    constructor
    · rintro ⟨hseen, p, hp, hnext⟩
      exact ⟨hseen, some p, ⟨p, hp, rfl⟩, hnext⟩
    · rintro ⟨hseen, _, ⟨p, hp, rfl⟩, hnext⟩
      exact ⟨hseen, p, hp, hnext⟩

end Reading

section Counting

def isUnsupported (assetOf : String → Option SupportedStablecoinAsset) :
    Option ParsedSolanaTokenAccount → Bool
  | none => false
  | some p => (assetOf p.mint).isNone

def isUninitialized (assetOf : String → Option SupportedStablecoinAsset) :
    Option ParsedSolanaTokenAccount → Bool
  | none => false
  | some p => (assetOf p.mint).isSome && decide (p.state = .uninitialized)

/-- The accounts of a mint that are in use. -/
def used (mint : String) (parsed : List (Option ParsedSolanaTokenAccount)) :
    List ParsedSolanaTokenAccount :=
  (parsed.filterMap id).filter fun p => decide (p.mint = mint ∧ p.state ≠ .uninitialized)

def isActive (p : ParsedSolanaTokenAccount) : Bool := decide (p.state = .active)

def isFrozen (p : ParsedSolanaTokenAccount) : Bool := decide (p.state = .frozen)

/-- The balance of accounts in use. -/
def balanceOf (l : List ParsedSolanaTokenAccount) : MutableBalance where
  amountBaseUnits := (l.map (·.amountBaseUnits)).sum
  activeAmountBaseUnits := ((l.filter isActive).map (·.amountBaseUnits)).sum
  frozenAmountBaseUnits := ((l.filter isFrozen).map (·.amountBaseUnits)).sum
  activeTokenAccountCount := l.countP isActive
  frozenTokenAccountCount := l.countP isFrozen

theorem balanceOf_append {l : List ParsedSolanaTokenAccount} {p : ParsedSolanaTokenAccount}
    (h : p.state ≠ .uninitialized) : balanceOf (l ++ [p]) = (balanceOf l).add p := by
  cases hstate : p.state with
  | uninitialized => exact absurd hstate h
  | active =>
    simp [balanceOf, MutableBalance.add, isActive, isFrozen, hstate, List.filter_append,
      List.countP_append]
  | frozen =>
    simp [balanceOf, MutableBalance.add, isActive, isFrozen, hstate, List.filter_append,
      List.countP_append]

theorem used_append (mint : String) (o : Option ParsedSolanaTokenAccount) :
    used mint (parsed ++ [o]) = used mint parsed ++ used mint [o] := by
  rw [used, List.filterMap_append, List.filter_append]
  rfl

/-- What the loop has counted after some accounts. -/
structure Counted (assetOf : String → Option SupportedStablecoinAsset)
    (accounts : List ParsedSourceAccount) (parsed : List (Option ParsedSolanaTokenAccount))
    (tallies : Tallies) : Prop where
  seen : tallies.seenAccounts = accounts.map (·.address)
  nodup : (accounts.map (·.address)).Nodup
  closed : tallies.exclusions.closedAccounts = parsed.countP (·.isNone)
  uninitialized : tallies.exclusions.uninitializedAccounts =
    parsed.countP (isUninitialized assetOf)
  unsupported : tallies.exclusions.unsupportedMintAccounts = parsed.countP (isUnsupported assetOf)
  balances : ∀ mint, (assetOf mint).isSome = true →
    tallies.balancesByMint.get mint = some (balanceOf (used mint parsed))

variable (hidentity : ∀ mint asset, assetOf mint = some asset → asset.identity = mint)

include hidentity

/-- Counting one more account that could be read. -/
theorem Counted.step (h : Counted assetOf accounts parsed tallies)
    {account : ParsedSourceAccount} (hfresh : account.address ∉ tallies.seenAccounts)
    (o : Option ParsedSolanaTokenAccount) :
    ∃ next, countRead assetOf { tallies with
        seenAccounts := tallies.seenAccounts ++ [account.address] } o = .ok next ∧
      Counted assetOf (accounts ++ [account]) (parsed ++ [o]) next := by
  have hseen : tallies.seenAccounts ++ [account.address] =
      (accounts ++ [account]).map (·.address) := by
    rw [h.seen, List.map_append]
    rfl
  have hnodup : ((accounts ++ [account]).map (·.address)).Nodup := by
    rw [h.seen] at hfresh
    rw [List.map_append, List.nodup_append]
    refine ⟨h.nodup, List.nodup_singleton _, ?_⟩
    rintro a ha b hb rfl
    rw [List.map_singleton, List.mem_singleton] at hb
    exact hfresh (hb ▸ ha)
  -- an account that is not in use leaves every balance as it is
  have hkept : (∀ mint, (assetOf mint).isSome = true → used mint [o] = []) →
      ∀ mint, (assetOf mint).isSome = true →
        tallies.balancesByMint.get mint = some (balanceOf (used mint (parsed ++ [o]))) := by
    intro hempty mint hmint
    rw [used_append, hempty mint hmint, List.append_nil]
    exact h.balances mint hmint
  cases o with
  | none =>
    refine ⟨_, rfl, hseen, hnodup, ?_, ?_, ?_, hkept fun _ _ => rfl⟩
    · simp [List.countP_append, h.closed]
    · simp [List.countP_append, h.uninitialized, isUninitialized]
    · simp [List.countP_append, h.unsupported, isUnsupported]
  | some p =>
    rw [countRead, countParsed]
    cases hasset : assetOf p.mint with
    | none =>
      refine ⟨_, rfl, hseen, hnodup, ?_, ?_, ?_, hkept fun mint hmint => ?_⟩
      · simp [List.countP_append, h.closed]
      · simp [List.countP_append, h.uninitialized, isUninitialized, hasset]
      · simp [List.countP_append, h.unsupported, isUnsupported, hasset]
      · have hne : p.mint ≠ mint := fun he => by simp [← he, hasset] at hmint
        simp [used, hne]
    | some asset =>
      dsimp only
      by_cases hstate : p.state = .uninitialized
      · rw [if_pos hstate]
        refine ⟨_, rfl, hseen, hnodup, ?_, ?_, ?_, hkept fun mint _ => ?_⟩
        · simp [List.countP_append, h.closed]
        · simp [List.countP_append, h.uninitialized, isUninitialized, hasset, hstate]
        · simp [List.countP_append, h.unsupported, isUnsupported, hasset]
        · simp [used, hstate]
      · rw [if_neg hstate]
        have hmint : asset.identity = p.mint := hidentity _ _ hasset
        have hget := h.balances p.mint (by simp [hasset])
        refine ⟨_, except_bind_ok.mpr ⟨_, orFail_ok.mpr (hmint ▸ hget), rfl⟩, hseen, hnodup, ?_, ?_,
          ?_, ?_⟩
        · simp [List.countP_append, h.closed]
        · simp [List.countP_append, h.uninitialized, isUninitialized, hstate]
        · simp [List.countP_append, h.unsupported, isUnsupported, hasset]
        · intro mint hsome
          rw [JsMap.get_set, hmint, used_append]
          by_cases he : mint = p.mint
          · have hused : used mint [some p] = [p] := by simp [used, he, hstate]
            rw [if_pos he, hused, balanceOf_append hstate, he]
          · have hused : used mint [some p] = [] := by simp [used, Ne.symm he]
            rw [if_neg he, hused, List.append_nil]
            exact h.balances mint hsome

/-- What the whole loop counts. -/
theorem counted_of_foldlM {start : Tallies} (hstart : Counted assetOf [] [] start)
    (h : accounts.foldlM (countAccount assetOf owner) start = .ok tallies) :
    ∃ parsed, accounts.mapM (parsedOf owner) = some parsed ∧
      Counted assetOf accounts parsed tallies := by
  induction accounts using List.reverseRecOn generalizing tallies with
  | nil => exact ⟨[], rfl, Except.ok.inj h ▸ hstart⟩
  | append_singleton accounts account ih =>
    rw [List.foldlM_append] at h
    obtain ⟨before, hbefore, h⟩ := except_bind_ok.mp h
    obtain ⟨parsed, hparsed, hcounted⟩ := ih hbefore
    simp only [List.foldlM_cons, List.foldlM_nil, bind_pure] at h
    obtain ⟨hfresh, o, ho, hnext⟩ := countAccount_ok.1 h
    obtain ⟨next, hstep, hcounted⟩ := hcounted.step hidentity hfresh o
    obtain rfl := Except.ok.inj (hstep.symm.trans hnext)
    refine ⟨parsed ++ [o], ?_, hcounted⟩
    rw [List.mapM_append, hparsed, List.mapM_cons, ho]
    rfl

/-- The loop ends well when every account can be read and none comes twice. -/
theorem foldlM_isOk {start : Tallies} (hstart : Counted assetOf [] [] start)
    (hparsed : accounts.mapM (parsedOf owner) = some parsed)
    (hnodup : (accounts.map (·.address)).Nodup) :
    ∃ tallies, accounts.foldlM (countAccount assetOf owner) start = .ok tallies := by
  induction accounts using List.reverseRecOn generalizing parsed with
  | nil => exact ⟨start, rfl⟩
  | append_singleton accounts account ih =>
    rw [List.mapM_append] at hparsed
    obtain ⟨before, hbefore, hparsed⟩ := Option.bind_eq_some_iff.mp hparsed
    obtain ⟨last, hlast, _⟩ := Option.bind_eq_some_iff.mp hparsed
    obtain ⟨o, ho, _⟩ := Option.bind_eq_some_iff.mp hlast
    rw [List.map_append, List.nodup_append] at hnodup
    obtain ⟨tallies, htallies⟩ := ih hbefore hnodup.1
    obtain ⟨_, _, hcounted⟩ := counted_of_foldlM hidentity hstart htallies
    have hfresh : account.address ∉ tallies.seenAccounts := by
      rw [hcounted.seen]
      exact fun hmem => hnodup.2.2 _ hmem _ (List.mem_singleton_self _) rfl
    obtain ⟨next, hstep, _⟩ := hcounted.step hidentity hfresh o
    refine ⟨next, ?_⟩
    rw [List.foldlM_append, htallies, except_ok_bind]
    simp only [List.foldlM_cons, List.foldlM_nil, bind_pure]
    exact countAccount_ok.2 ⟨hfresh, o, ho, hstep⟩

end Counting

end CryptoLending.Blockchain.SolanaDepositLoop
