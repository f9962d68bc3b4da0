import CryptoLending.Blockchain.AssetRegistry
import CryptoLending.Lib.IsoText
import CryptoLending.Lib.Sorting

namespace CryptoLending.Portfolio.BalanceSnapshot

open Lib Lib.Text Lib.Identifier Lib.JsValue Lib.Sorting Wallets.WalletIdentity
open Blockchain.AssetRegistry Blockchain.LaunchNetwork

def maxActiveWalletRegistrationsPerAccount : Nat := 32
def maxBalanceObservations : Nat := 512
def maxAmountDigits : Nat := 78

inductive PortfolioBalanceSnapshotValidationCode where
  | invalidSnapshot
  | invalidCoverage
  | invalidObservation
  | duplicateObservation
  | duplicateBalanceSource
  deriving DecidableEq

structure ActivePortfolioWalletRegistration where
  walletId : String
  networkId : String
  deriving DecidableEq

inductive IndexedBalanceFreshness where
  | current
  | stale
  deriving DecidableEq

def IndexedBalanceFreshness.text : IndexedBalanceFreshness → String
  | .current => "CURRENT"
  | .stale => "STALE"

inductive IndexedBalanceCoverageStatus where
  | complete
  | partly
  | unavailable
  deriving DecidableEq

def IndexedBalanceCoverageStatus.text : IndexedBalanceCoverageStatus → String
  | .complete => "COMPLETE"
  | .partly => "PARTIAL"
  | .unavailable => "UNAVAILABLE"

structure IndexedPortfolioBalanceCoverageTarget extends ActivePortfolioWalletRegistration where
  status : IndexedBalanceCoverageStatus
  deriving DecidableEq

structure IndexedPortfolioBalanceCoverage where
  status : IndexedBalanceCoverageStatus
  targets : List IndexedPortfolioBalanceCoverageTarget

structure IndexedPortfolioBalanceObservation where
  observationId : String
  walletId : String
  networkId : String
  assetIdentity : String
  amountAtomic : String
  observedAt : String
  freshnessClass : IndexedBalanceFreshness
  deriving DecidableEq

structure IndexedPortfolioBalanceSnapshot where
  snapshotId : String
  capturedAt : String
  freshnessClass : IndexedBalanceFreshness
  coverage : IndexedPortfolioBalanceCoverage
  observations : List IndexedPortfolioBalanceObservation

section Formats

def isSafeSnapshotCharacter (c : Char) : Bool := c.isAlphanum || ['.', '_', ':', '-'].contains c

def isSafeSnapshotId (cs : List Char) : Bool :=
  cs.length ≤ 128 && cs.all isSafeSnapshotCharacter && cs.head?.any Char.isAlphanum &&
    cs.getLast?.any Char.isAlphanum

def isEvmNetworkId (cs : List Char) : Bool :=
  "eip155:".toList.isPrefixOf cs && isCanonicalUint (cs.drop 7) && (cs.drop 7).length ≤ 20

def isSolanaNetworkId (cs : List Char) : Bool :=
  "solana:".toList.isPrefixOf cs && isSolanaAddressPattern (cs.drop 7)

def isCanonicalAmount (cs : List Char) : Bool := isCanonicalUint cs && cs.length ≤ maxAmountDigits

def canonicalTimestamp (v : Value) : Option String := do
  let text ← v.string?
  let _ ← IsoDate.parse text
  return text

def parseFreshness (v : Value) : Option IndexedBalanceFreshness :=
  [.current, .stale].find? fun f => v.isText f.text

def parseCoverageStatus (v : Value) : Option IndexedBalanceCoverageStatus :=
  [.complete, .partly, .unavailable].find? fun s => v.isText s.text

end Formats

/-- `localeCompare` stands for the collation of texts by the platform. -/
def compareTargets (localeCompare : String → String → Ordering) {α : Type} (key : α → String)
    (left right : α) : Ordering := localeCompare (key left) (key right)

def targetKey (walletId networkId : String) : String := walletId ++ "\x00" ++ networkId

section Registrations

def registrationKey (r : ActivePortfolioWalletRegistration) : String :=
  targetKey r.walletId r.networkId

def activeNetworks : List String :=
  (mainnetSupportedAssetRegistry.networks.filter fun n => n.activationState = .active).map
    SupportedNetwork.networkId

def parseWalletRegistration (v : Value) : Option ActivePortfolioWalletRegistration := do
  let record ← exactRecord v ["walletId", "networkId"]
  let walletId ← (record.get "walletId").string?
  guard (isUuidV4 walletId.toList = true)
  let networkId ← (record.get "networkId").string?
  guard (networkId ∈ activeNetworks ∧ isMainnetLaunchNetwork networkId = true)
  return { walletId, networkId }

def parseActivePortfolioWalletRegistrations (localeCompare : String → String → Ordering)
    (v : Value) : Option (List ActivePortfolioWalletRegistration) := do
  let items ← exactArray v 0 maxActiveWalletRegistrationsPerAccount
  let registrations ← items.mapM parseWalletRegistration
  guard (registrations.map (·.walletId)).Nodup
  return sortBy (compareTargets localeCompare registrationKey) registrations

end Registrations

section Coverage

def coverageTargetKey (t : IndexedPortfolioBalanceCoverageTarget) : String :=
  targetKey t.walletId t.networkId

def expectedCoverageStatus (targets : List IndexedPortfolioBalanceCoverageTarget) :
    IndexedBalanceCoverageStatus :=
  if targets.all fun t => t.status = .complete then .complete
  else if targets.all fun t => t.status = .unavailable then .unavailable
  else .partly

def parseCoverageTarget (v : Value) : Option IndexedPortfolioBalanceCoverageTarget := do
  let record ← exactRecord v ["walletId", "networkId", "status"]
  let walletId ← (record.get "walletId").string?
  guard (isUuidV4 walletId.toList = true)
  let networkId ← (record.get "networkId").string?
  guard (isEvmNetworkId networkId.toList || isSolanaNetworkId networkId.toList)
  let status ← parseCoverageStatus (record.get "status")
  return { walletId, networkId, status }

/-- The targets are those of the expected wallets, in their order. -/
def parseCoverage (localeCompare : String → String → Ordering) (v : Value)
    (expectedWallets : List ActivePortfolioWalletRegistration) :
    Option IndexedPortfolioBalanceCoverage := do
  let record ← exactRecord v ["status", "targets"]
  let items ← exactArray (record.get "targets") 0 maxActiveWalletRegistrationsPerAccount
  let parsed ← items.mapM parseCoverageTarget
  let targets := sortBy (compareTargets localeCompare coverageTargetKey) parsed
  let targetKeys := targets.map coverageTargetKey
  guard (targetKeys.Nodup ∧ targetKeys = expectedWallets.map registrationKey)
  let status ← parseCoverageStatus (record.get "status")
  guard (status = expectedCoverageStatus targets)
  return { status, targets }

end Coverage

section Observations

def parseObservation (v : Value) : Option IndexedPortfolioBalanceObservation := do
  let record ← exactRecord v ["observationId", "walletId", "networkId", "assetIdentity",
    "amountAtomic", "observedAt", "freshnessClass"]
  let observationId ← (record.get "observationId").string?
  guard (isUuidV4 observationId.toList = true)
  let walletId ← (record.get "walletId").string?
  guard (isUuidV4 walletId.toList = true)
  let networkId ← (record.get "networkId").string?
  let evm := isEvmNetworkId networkId.toList
  let solana := isSolanaNetworkId networkId.toList
  guard (evm || solana)
  let assetIdentity ← (record.get "assetIdentity").string?
  let amountAtomic ← (record.get "amountAtomic").string?
  guard (isCanonicalAmount amountAtomic.toList = true)
  let freshnessClass ← parseFreshness (record.get "freshnessClass")
  guard (¬(evm && !isEvmAddressPattern assetIdentity.toList) ∧
    ¬(solana && !isSolanaAddressPattern assetIdentity.toList))
  let observedAt ← canonicalTimestamp (record.get "observedAt")
  return { observationId, walletId, networkId
           assetIdentity := if evm then toLowerCase assetIdentity else assetIdentity
           amountAtomic, observedAt, freshnessClass }

/-- A current observation of a stale snapshot is stale. -/
def downgrade (snapshotFreshness : IndexedBalanceFreshness)
    (o : IndexedPortfolioBalanceObservation) : IndexedPortfolioBalanceObservation :=
  if snapshotFreshness = .stale ∧ o.freshnessClass = .current then
    { o with freshnessClass := .stale }
  else o

def sourceKey (o : IndexedPortfolioBalanceObservation) : String :=
  o.walletId ++ "\x00" ++ o.networkId ++ "\x00" ++ o.assetIdentity

/-- The tests on each observation, with the identifiers and the sources seen before it. -/
def checkObservations (capturedAt : String)
    (coverageByTarget : JsMap String IndexedBalanceCoverageStatus) :
    List IndexedPortfolioBalanceObservation → List String → List String →
      Except PortfolioBalanceSnapshotValidationCode Unit
  | [], _, _ => .ok ()
  | o :: rest, observationIds, balanceSources => do
    failWhen (capturedAt < o.observedAt) .invalidObservation
    failWhen (o.observationId ∈ observationIds) .duplicateObservation
    let targetStatus ← orFail (coverageByTarget.get (targetKey o.walletId o.networkId))
      .invalidCoverage
    failWhen (targetStatus = .unavailable) .invalidCoverage
    failWhen (sourceKey o ∈ balanceSources) .duplicateBalanceSource
    checkObservations capturedAt coverageByTarget rest (o.observationId :: observationIds)
      (sourceKey o :: balanceSources)

end Observations

section Snapshots

variable (localeCompare : String → String → Ordering)

def parseCoveredSnapshot (v : Value) (evaluatedAt : String)
    (expectedWallets : List ActivePortfolioWalletRegistration) :
    Except PortfolioBalanceSnapshotValidationCode IndexedPortfolioBalanceSnapshot := do
  let record ← orFail
    (exactRecord v ["snapshotId", "capturedAt", "freshnessClass", "coverage", "observations"])
    .invalidSnapshot
  let snapshotId ← orFail (record.get "snapshotId").string? .invalidSnapshot
  failWhen (¬isSafeSnapshotId snapshotId.toList = true) .invalidSnapshot
  let capturedAt ← orFail (canonicalTimestamp (record.get "capturedAt")) .invalidSnapshot
  failWhen (evaluatedAt < capturedAt) .invalidSnapshot
  let freshnessClass ← orFail (parseFreshness (record.get "freshnessClass")) .invalidSnapshot
  let coverage ← orFail (parseCoverage localeCompare (record.get "coverage") expectedWallets)
    .invalidCoverage
  let items ← orFail (exactArray (record.get "observations") 0 maxBalanceObservations)
    .invalidSnapshot
  let parsed ← items.mapM fun item => orFail (parseObservation item) .invalidObservation
  let observations := parsed.map (downgrade freshnessClass)
  checkObservations capturedAt
    (JsMap.ofEntries (coverage.targets.map fun t => (coverageTargetKey t, t.status)))
    observations [] []
  return { snapshotId, capturedAt, freshnessClass, coverage, observations }

def parseIndexedPortfolioBalanceSnapshot (v evaluatedAtInput expectedWalletsInput : Value) :
    Except PortfolioBalanceSnapshotValidationCode IndexedPortfolioBalanceSnapshot := do
  let evaluatedAt ← orFail (canonicalTimestamp evaluatedAtInput) .invalidSnapshot
  let expectedWallets ← orFail
    (parseActivePortfolioWalletRegistrations localeCompare expectedWalletsInput) .invalidCoverage
  parseCoveredSnapshot localeCompare v evaluatedAt expectedWallets

end Snapshots

section Accepted

theorem parseObservation_valid {v : Value} {o : IndexedPortfolioBalanceObservation}
    (h : parseObservation v = some o) :
    isUuidV4 o.walletId.toList = true ∧ isCanonicalAmount o.amountAtomic.toList = true := by
  simp only [parseObservation, Option.bind_eq_bind, Option.bind_eq_some_iff, Option.pure_def,
    Option.some.injEq, Option.guard_eq_some'] at h
  obtain ⟨_, _, _, _, _, _, _, _, _, hwallet, _, _, _, _, _, _, _, _, _, hamount, _, _, _, _, _, _,
    rfl⟩ := h
  exact ⟨hwallet, hamount⟩

/-- What an accepted snapshot guarantees about its observations. -/
structure Accepted (s : IndexedPortfolioBalanceSnapshot) : Prop where
  length_le : s.observations.length ≤ maxBalanceObservations
  valid : ∀ o ∈ s.observations,
    isUuidV4 o.walletId.toList = true ∧ isCanonicalAmount o.amountAtomic.toList = true
  stale : s.freshnessClass = .stale → ∀ o ∈ s.observations, o.freshnessClass = .stale

theorem downgrade_fields (f : IndexedBalanceFreshness) (o : IndexedPortfolioBalanceObservation) :
    (downgrade f o).walletId = o.walletId ∧ (downgrade f o).amountAtomic = o.amountAtomic := by
  rw [downgrade]
  split <;> exact ⟨rfl, rfl⟩

theorem downgrade_stale (o : IndexedPortfolioBalanceObservation) :
    (downgrade .stale o).freshnessClass = .stale := by
  cases hf : o.freshnessClass with
  | current => rw [downgrade, if_pos ⟨rfl, hf⟩]
  | stale => rw [downgrade, if_neg (fun h => by rw [hf] at h; cases h.2), hf]

variable {localeCompare : String → String → Ordering}

theorem accepted_of_parse {v evaluatedAt expectedWallets : Value}
    {s : IndexedPortfolioBalanceSnapshot}
    (h : parseIndexedPortfolioBalanceSnapshot localeCompare v evaluatedAt expectedWallets = .ok s) :
    Accepted s := by
  obtain ⟨_, _, h⟩ := except_bind_ok.mp h
  obtain ⟨_, _, h⟩ := except_bind_ok.mp h
  simp only [parseCoveredSnapshot, except_bind_ok, orFail_ok, failWhen_ok, except_mapM_ok,
    except_pure_ok] at h
  obtain ⟨record, _, _, _, _, _, _, _, _, _, f, _, _, _, items, hitems, parsed, hparsed, _, _, rfl⟩ :=
    h
  have hlength := (exactArray_eq_some.mp hitems).2.2
  refine ⟨?_, ?_, ?_⟩
  · rw [List.length_map, ← hparsed.length_eq]
    exact hlength
  · refine List.forall_mem_map.mpr fun o ho => ?_
    obtain ⟨hwallet, hamount⟩ := downgrade_fields f o
    obtain ⟨item, _, hitem⟩ := ListOption.exists_of_mem_right hparsed ho
    rw [hwallet, hamount]
    exact parseObservation_valid hitem
  · rintro hf
    obtain rfl : f = .stale := hf
    exact List.forall_mem_map.mpr fun o _ => downgrade_stale o

end Accepted

end CryptoLending.Portfolio.BalanceSnapshot
