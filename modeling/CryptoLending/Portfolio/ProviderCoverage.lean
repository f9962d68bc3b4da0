import CryptoLending.Lib.IsoReading
import CryptoLending.Portfolio.ProviderPortfolio

namespace CryptoLending.Portfolio.ProviderCoverage

open Lib Lib.Identifier Lib.JsValue BalanceSnapshot
open ProviderPosition ProviderPortfolio

structure MainnetProviderPositionCoverageTarget where
  walletId : String
  providerId : String
  protocolId : String
  marketId : String
  networkId : String
  assets : List MainnetProviderPositionAssetApproval
  positionCount : Nat

def targetKey (target : MainnetProviderPositionCoverageTarget) : String :=
  "|".intercalate [target.walletId, target.providerId, target.protocolId, target.marketId,
    target.networkId]

/-- What the reader of manifests leaves of one, without a target listed twice. -/
structure MainnetProviderPositionCoverageManifest where
  manifestId : String
  positionSnapshotId : String
  observationPolicyVersion : Nat
  observationPolicyId : String
  observationPolicyFingerprintSha256 : String
  assetRegistryVersion : Nat
  assetRegistryFingerprintSha256 : String
  capturedAt : String
  staleAfter : String
  targets : List MainnetProviderPositionCoverageTarget
  fingerprintSha256 : String
  targets_unique : (targets.map targetKey).Nodup

section Targets

def positionTargetKey (o : MainnetProviderPositionObservation) : String :=
  "|".intercalate [o.walletId, o.providerId, o.protocolId, o.marketId, o.asset.networkId]

/-- Every position is of a target and of its assets. -/
def countPosition (targetByKey : JsMap String MainnetProviderPositionCoverageTarget)
    (countByTarget : JsMap String Nat) (o : MainnetProviderPositionObservation) :
    Option (JsMap String Nat) := do
  let key := positionTargetKey o
  let target ← targetByKey.get key
  guard (⟨o.asset.stablecoin, o.asset.identity⟩ ∈ target.assets)
  return countByTarget.set key ((countByTarget.get key).getD 0 + 1)

def targetsByKey (manifest : MainnetProviderPositionCoverageManifest) :
    JsMap String MainnetProviderPositionCoverageTarget :=
  JsMap.ofEntries (manifest.targets.map fun target => (targetKey target, target))

/-- The number of positions of each target. -/
def observationCountByTarget (observations : List MainnetProviderPositionObservation)
    (manifest : MainnetProviderPositionCoverageManifest) : Option (JsMap String Nat) :=
  observations.foldlM (countPosition (targetsByKey manifest)) JsMap.empty

/-- The positions are as many as the manifest declares, altogether and of each target. -/
def isCounted (observations : List MainnetProviderPositionObservation)
    (manifest : MainnetProviderPositionCoverageManifest) : Bool :=
  (manifest.targets.map (·.positionCount)).sum == observations.length &&
    (observationCountByTarget observations manifest).any fun actualCountByTarget =>
      manifest.targets.all fun target =>
        (actualCountByTarget.get (targetKey target)).getD 0 == target.positionCount

variable {targetByKey : JsMap String MainnetProviderPositionCoverageTarget}
  {m m' : JsMap String Nat}

theorem countPosition_some {o : MainnetProviderPositionObservation}
    (h : countPosition targetByKey m o = some m') :
    (∃ target, targetByKey.get (positionTargetKey o) = some target ∧
      ⟨o.asset.stablecoin, o.asset.identity⟩ ∈ target.assets) ∧
      ∀ key, (m'.get key).getD 0 =
        (m.get key).getD 0 + if positionTargetKey o = key then 1 else 0 := by
  simp only [countPosition, Option.bind_eq_bind, Option.bind_eq_some_iff, Option.pure_def,
    Option.some.injEq] at h
  obtain ⟨target, htarget, _, hasset, rfl⟩ := h
  refine ⟨⟨target, htarget, (Option.guard_eq_some' _).mp hasset⟩, fun key => ?_⟩
  rw [JsMap.get_set]
  by_cases hkey : key = positionTargetKey o
  · rw [if_pos hkey, if_pos hkey.symm, hkey, Option.getD_some]
  · rw [if_neg hkey, if_neg (Ne.symm hkey), Nat.add_zero]

/-- A count grows by the positions with its key. -/
theorem countPositions_some {observations : List MainnetProviderPositionObservation}
    (h : observations.foldlM (countPosition targetByKey) m = some m') :
    (∀ o ∈ observations, ∃ target, targetByKey.get (positionTargetKey o) = some target ∧
      ⟨o.asset.stablecoin, o.asset.identity⟩ ∈ target.assets) ∧
      ∀ key, (m'.get key).getD 0 =
        (m.get key).getD 0 + observations.countP fun o => positionTargetKey o = key := by
  induction observations generalizing m with
  | nil =>
    obtain rfl := Option.some.inj h
    exact ⟨fun _ ho => absurd ho List.not_mem_nil, fun _ => rfl⟩
  | cons o observations ih =>
    obtain ⟨next, hnext, h⟩ := Option.bind_eq_some_iff.mp h
    obtain ⟨htarget, hstep⟩ := countPosition_some hnext
    obtain ⟨htargets, hcounts⟩ := ih h
    refine ⟨List.forall_mem_cons.mpr ⟨htarget, htargets⟩, fun key => ?_⟩
    rw [hcounts, hstep, List.countP_cons]
    simp only [decide_eq_true_eq]
    omega

/-- Every position is of a target and of its assets, and each target has as many positions as the
manifest declares. -/
structure Covers (manifest : MainnetProviderPositionCoverageManifest)
    (observations : List MainnetProviderPositionObservation) : Prop where
  targeted : ∀ o ∈ observations, ∃ target ∈ manifest.targets,
    targetKey target = positionTargetKey o ∧
      ⟨o.asset.stablecoin, o.asset.identity⟩ ∈ target.assets
  counted : ∀ target ∈ manifest.targets,
    (observations.countP fun o => positionTargetKey o = targetKey target) = target.positionCount

theorem covers_of_isCounted {observations : List MainnetProviderPositionObservation}
    {manifest : MainnetProviderPositionCoverageManifest}
    (h : isCounted observations manifest = true) : Covers manifest observations := by
  obtain ⟨actualCountByTarget, hcount, hall⟩ :=
    (Option.any_eq_true _ _).mp (Bool.and_eq_true_iff.mp h).2
  obtain ⟨htargets, hcounts⟩ := countPositions_some hcount
  refine ⟨fun o ho => ?_, fun target htarget => ?_⟩
  · obtain ⟨found, hget, hasset⟩ := htargets o ho
    obtain ⟨target, htarget, hkey, rfl⟩ := JsMap.mem_of_get_ofEntries_map manifest.targets_unique hget
    exact ⟨target, htarget, hkey, hasset⟩
  · have hequal := beq_iff_eq.mp (List.all_eq_true.mp hall target htarget)
    rw [hcounts, JsMap.get_empty, Option.getD_none, Nat.zero_add] at hequal
    exact hequal

end Targets

section Snapshots

/-- The snapshot is the one that the manifest describes. -/
def isDescribed (snapshot : MainnetProviderPositionSnapshot)
    (manifest : MainnetProviderPositionCoverageManifest) : Bool :=
  snapshot.snapshotId == manifest.positionSnapshotId &&
    snapshot.observationPolicyVersion == manifest.observationPolicyVersion &&
    snapshot.observationPolicyId == manifest.observationPolicyId &&
    snapshot.observationPolicyFingerprintSha256 == manifest.observationPolicyFingerprintSha256 &&
    snapshot.assetRegistryVersion == manifest.assetRegistryVersion &&
    snapshot.assetRegistryFingerprintSha256 == manifest.assetRegistryFingerprintSha256 &&
    snapshot.capturedAt == manifest.capturedAt && snapshot.staleAfter == manifest.staleAfter &&
    decide (snapshot.freshnessClass = .current)

/-- A snapshot without positions: a manifest of no positions vouches for it. -/
def parseEmptyPositionSnapshot (record : Record)
    (manifest : MainnetProviderPositionCoverageManifest) :
    Option MainnetProviderPositionSnapshot := do
  guard (isPositionSnapshot record = true)
  guard ((record.get "snapshotId").isText manifest.positionSnapshotId ∧
    (record.get "observationPolicyVersion").isNumber manifest.observationPolicyVersion ∧
    (record.get "observationPolicyId").isText manifest.observationPolicyId ∧
    (record.get "observationPolicyFingerprintSha256").isText
      manifest.observationPolicyFingerprintSha256 ∧
    (record.get "assetRegistryVersion").isNumber manifest.assetRegistryVersion ∧
    (record.get "assetRegistryFingerprintSha256").isText manifest.assetRegistryFingerprintSha256 ∧
    (record.get "capturedAt").isText manifest.capturedAt ∧
    (record.get "staleAfter").isText manifest.staleAfter ∧
    (record.get "freshnessClass").isText "CURRENT")
  return {
    snapshotId := manifest.positionSnapshotId
    observationPolicyVersion := manifest.observationPolicyVersion
    observationPolicyId := manifest.observationPolicyId
    observationPolicyFingerprintSha256 := manifest.observationPolicyFingerprintSha256
    assetRegistryVersion := manifest.assetRegistryVersion
    assetRegistryFingerprintSha256 := manifest.assetRegistryFingerprintSha256
    capturedAt := manifest.capturedAt
    staleAfter := manifest.staleAfter
    freshnessClass := .current
    observations := [] }

/-- The first-party readers of the other inputs, and the verifier of chain assessments, which may
be absent. -/
structure Readers where
  localeCompare : String → String → Ordering
  readPolicy : Value → Option MainnetProviderPositionObservationPolicy
  readManifest : ComposeMainnetProviderPortfolioRequest →
    Option MainnetProviderPositionCoverageManifest
  readChainAssessment : Value → Option MainnetProviderPositionChainAssessment
  verify : Option (Value → MainnetProviderPositionChainAssessmentVerificationContext → Bool)

variable (readers : Readers) (request : ComposeMainnetProviderPortfolioRequest)

/-- The account, the time and the wallets are only checked here; the policy is what is read. -/
def normalizeContext : Option MainnetProviderPositionObservationPolicy := do
  let _ ← Matching.ofValue isUuidV4 request.accountId
  let _ ← IsoReading.ofISOString request.evaluatedAt
  let _ ← parseActivePortfolioWalletRegistrations readers.localeCompare request.expectedWallets
  readers.readPolicy request.observationPolicy

def parsePositionSnapshot (policy : MainnetProviderPositionObservationPolicy)
    (manifest : MainnetProviderPositionCoverageManifest) :
    Option MainnetProviderPositionSnapshot := do
  let record ← exactRecord request.positionSnapshot snapshotKeys
  let observationsInput ← exactArray (record.get "observations") 0 maxPositions
  if observationsInput.isEmpty then parseEmptyPositionSnapshot record manifest
  else
    match request.chainAssessment, readers.verify with
    | .undefined, _ => none
    | _, none => none
    | chainAssessment, some verify =>
      parseMainnetProviderPositionSnapshot readers.readChainAssessment verify
        request.positionSnapshot (.string request.evaluatedAt) policy chainAssessment

variable {readers request}

theorem parsePositionSnapshot_accepted {policy : MainnetProviderPositionObservationPolicy}
    {manifest : MainnetProviderPositionCoverageManifest}
    {snapshot : MainnetProviderPositionSnapshot}
    (h : parsePositionSnapshot readers request policy manifest = some snapshot) :
    AcceptedPositions snapshot.observations := by
  simp only [parsePositionSnapshot, Option.bind_eq_bind, Option.bind_eq_some_iff] at h
  obtain ⟨record, _, observationsInput, _, h⟩ := h
  split at h
  · obtain ⟨_, _, _, _, h⟩ := by
      simpa only [parseEmptyPositionSnapshot, Option.bind_eq_bind, Option.bind_eq_some_iff] using h
    cases h
    exact acceptedPositions_nil
  · split at h
    · cases h
    · cases h
    · exact parseMainnetProviderPositionSnapshot_accepted h

variable (readers request)

/-- The positions of a request whose manifest covers all of them. -/
def parseCoveredMainnetProviderPositionSnapshot : Option CoveredMainnetProviderPositionSnapshot := do
  let policy ← normalizeContext readers request
  let manifest ← readers.readManifest request
  match h : parsePositionSnapshot readers request policy manifest with
  | none => none
  | some snapshot =>
    guard (isDescribed snapshot manifest = true)
    guard (isCounted snapshot.observations manifest = true)
    return {
      snapshotId := snapshot.snapshotId
      coverageManifestId := manifest.manifestId
      coverageFingerprintSha256 := manifest.fingerprintSha256
      observations := snapshot.observations
      length_le := (parsePositionSnapshot_accepted h).length_le }

variable {readers request}

/-- A covered snapshot is complete for its manifest and has no position twice. -/
theorem parseCoveredMainnetProviderPositionSnapshot_covers
    {covered : CoveredMainnetProviderPositionSnapshot}
    (h : parseCoveredMainnetProviderPositionSnapshot readers request = some covered) :
    ∃ manifest, readers.readManifest request = some manifest ∧
      covered.coverageManifestId = manifest.manifestId ∧
        AcceptedPositions covered.observations ∧ Covers manifest covered.observations := by
  simp only [parseCoveredMainnetProviderPositionSnapshot, Option.bind_eq_bind,
    Option.bind_eq_some_iff] at h
  obtain ⟨policy, _, manifest, hmanifest, h⟩ := h
  split at h
  case h_1 => cases h
  case h_2 snapshot hsnapshot =>
    obtain ⟨_, _, _, hcounted, h⟩ := by simpa only [Option.bind_eq_some_iff] using h
    cases h
    exact ⟨manifest, hmanifest, rfl, parsePositionSnapshot_accepted hsnapshot,
      covers_of_isCounted ((Option.guard_eq_some' _).mp hcounted)⟩

end Snapshots

end CryptoLending.Portfolio.ProviderCoverage
