import CryptoLending.Lib.HashChain
import CryptoLending.Lib.JsReading

namespace CryptoLending.Blockchain.ChainObservation

open Lib.HashChain

inductive ChainObservationTier where
  | provisional
  | canonical
  | financial
  deriving DecidableEq

def ChainObservationTier.text : ChainObservationTier → String
  | .provisional => "PROVISIONAL"
  | .canonical => "CANONICAL"
  | .financial => "FINANCIAL"

inductive ChainObservationSelector where
  | latest
  | safe
  | finalized
  | confirmed
  deriving DecidableEq

def ChainObservationSelector.text : ChainObservationSelector → String
  | .latest => "latest"
  | .safe => "safe"
  | .finalized => "finalized"
  | .confirmed => "confirmed"

inductive ChainObservationTierState where
  | allowed
  | requiresLiveProof
  | blockedPendingLiveProof
  deriving DecidableEq

inductive ChainObservationEnvironment where
  | mainnet
  | testnet
  | localEvm
  deriving DecidableEq

/-- The observed networks: those of the two registries, and the local development chain. -/
inductive ChainObservationNetworkId where
  | ethereum
  | ethereumLocal
  | ethereumSepolia
  | base
  | baseSepolia
  | arbitrum
  | arbitrumSepolia
  | solana
  | solanaDevnet
  deriving DecidableEq

namespace ChainObservationNetworkId

def text : ChainObservationNetworkId → String
  | .ethereum => "eip155:1"
  | .ethereumLocal => "eip155:31337"
  | .ethereumSepolia => "eip155:11155111"
  | .base => "eip155:8453"
  | .baseSepolia => "eip155:84532"
  | .arbitrum => "eip155:42161"
  | .arbitrumSepolia => "eip155:421614"
  | .solana => "solana:5eykt4UsFv8P8NJdTREpY1vzqKqZKvdp"
  | .solanaDevnet => "solana:EtWTRABZaYq6iMfeYKouRu166VU2xqa1"

/-- The network belongs to the EVM family: its text starts with that prefix. -/
def isEvm (n : ChainObservationNetworkId) : Bool := "eip155:".toList.isPrefixOf n.text.toList

end ChainObservationNetworkId

structure ChainObservationTierRule where
  tier : ChainObservationTier
  selector : ChainObservationSelector
  state : ChainObservationTierState

structure ChainObservationNetworkPolicy where
  environment : ChainObservationEnvironment
  networkId : ChainObservationNetworkId
  tiers : List ChainObservationTierRule
  currentWithinMs : Int
  unavailableAfterMs : Int

def evmTierRules : List ChainObservationTierRule :=
  [⟨.provisional, .latest, .allowed⟩, ⟨.canonical, .safe, .requiresLiveProof⟩,
    ⟨.financial, .finalized, .allowed⟩]

def arbitrumTierRules : List ChainObservationTierRule :=
  [⟨.provisional, .latest, .allowed⟩, ⟨.canonical, .safe, .blockedPendingLiveProof⟩,
    ⟨.financial, .finalized, .blockedPendingLiveProof⟩]

def localEvmTierRules : List ChainObservationTierRule :=
  [⟨.provisional, .latest, .allowed⟩, ⟨.canonical, .safe, .blockedPendingLiveProof⟩,
    ⟨.financial, .finalized, .blockedPendingLiveProof⟩]

def solanaTierRules : List ChainObservationTierRule :=
  [⟨.provisional, .confirmed, .allowed⟩, ⟨.canonical, .confirmed, .requiresLiveProof⟩,
    ⟨.financial, .finalized, .allowed⟩]

def chainObservationNetworkPolicies : List ChainObservationNetworkPolicy :=
  [⟨.mainnet, .ethereum, evmTierRules, 60000, 900000⟩,
    ⟨.localEvm, .ethereumLocal, localEvmTierRules, 60000, 300000⟩,
    ⟨.testnet, .ethereumSepolia, evmTierRules, 60000, 900000⟩,
    ⟨.mainnet, .base, evmTierRules, 30000, 300000⟩,
    ⟨.testnet, .baseSepolia, evmTierRules, 30000, 300000⟩,
    ⟨.mainnet, .arbitrum, arbitrumTierRules, 30000, 300000⟩,
    ⟨.testnet, .arbitrumSepolia, arbitrumTierRules, 30000, 300000⟩,
    ⟨.mainnet, .solana, solanaTierRules, 15000, 120000⟩,
    ⟨.testnet, .solanaDevnet, solanaTierRules, 15000, 120000⟩]

def chainObservationPolicyForNetwork (networkId : String) : Option ChainObservationNetworkPolicy :=
  Lib.Named.ofText chainObservationNetworkPolicies (fun policy => policy.networkId.text) networkId

def observationTierRule (networkId requestedTier : String) : Option ChainObservationTierRule := do
  let policy ← chainObservationPolicyForNetwork networkId
  Lib.Named.ofText policy.tiers (fun rule => rule.tier.text) requestedTier

inductive ChainObservationFreshness where
  | current
  | stale
  | unavailable
  | quarantined
  deriving DecidableEq

def ChainObservationFreshness.text : ChainObservationFreshness → String
  | .current => "CURRENT"
  | .stale => "STALE"
  | .unavailable => "UNAVAILABLE"
  | .quarantined => "QUARANTINED"

inductive FreshnessReason where
  | validatedAndAdvancing
  | validatedButStale
  | validatedButExpired
  | identityNotValidated
  | headRegression
  | invalidProgress
  deriving DecidableEq

structure PreviousHead where
  position : Nat
  advancedAtMs : Int

structure CandidateHead where
  position : Nat
  retrievedAtMs : Int

structure ChainHeadProgressInput where
  networkId : ChainObservationNetworkId
  nowMs : Int
  identityValidated : Bool
  previous : Option PreviousHead
  candidate : CandidateHead

structure ChainObservationFreshnessDecision where
  freshness : ChainObservationFreshness
  effectiveHeadAdvancedAtMs : Option Int
  retrievalAgeMs : Option Int
  headAdvanceAgeMs : Option Int
  reason : FreshnessReason

/-- A safe integer that is not negative. -/
def validTime (n : Int) : Bool := 0 ≤ n && n ≤ 9007199254740991

def unavailableDecision (reason : FreshnessReason) : ChainObservationFreshnessDecision :=
  ⟨.unavailable, none, none, none, reason⟩

/-- The decision from the age of a head, once its progress was checked. -/
def freshnessByAge (policy : ChainObservationNetworkPolicy) (nowMs retrievedAtMs : Int)
    (effectiveHeadAdvancedAtMs : Int) : ChainObservationFreshnessDecision :=
  let retrievalAgeMs := nowMs - retrievedAtMs
  let headAdvanceAgeMs := nowMs - effectiveHeadAdvancedAtMs
  let effectiveAgeMs := max retrievalAgeMs headAdvanceAgeMs
  if effectiveAgeMs ≤ policy.currentWithinMs then
    ⟨.current, effectiveHeadAdvancedAtMs, retrievalAgeMs, headAdvanceAgeMs, .validatedAndAdvancing⟩
  else if effectiveAgeMs ≤ policy.unavailableAfterMs then
    ⟨.stale, effectiveHeadAdvancedAtMs, retrievalAgeMs, headAdvanceAgeMs, .validatedButStale⟩
  else
    ⟨.unavailable, effectiveHeadAdvancedAtMs, retrievalAgeMs, headAdvanceAgeMs,
      .validatedButExpired⟩

def classifyChainObservationFreshness (input : ChainHeadProgressInput) :
    ChainObservationFreshnessDecision :=
  match chainObservationPolicyForNetwork input.networkId.text with
  | none => unavailableDecision .identityNotValidated
  | some policy =>
    let retrievedAtMs := input.candidate.retrievedAtMs
    if !input.identityValidated then unavailableDecision .identityNotValidated
    else if !validTime input.nowMs || !validTime retrievedAtMs ||
        input.previous.any (fun previous => !validTime previous.advancedAtMs) then
      unavailableDecision .invalidProgress
    else if input.nowMs < retrievedAtMs then unavailableDecision .invalidProgress
    else
      match input.previous with
      | none => freshnessByAge policy input.nowMs retrievedAtMs retrievedAtMs
      | some previous =>
        if input.nowMs < previous.advancedAtMs || retrievedAtMs < previous.advancedAtMs then
          unavailableDecision .invalidProgress
        else if input.candidate.position < previous.position then
          ⟨.quarantined, previous.advancedAtMs, input.nowMs - retrievedAtMs,
            input.nowMs - previous.advancedAtMs, .headRegression⟩
        else
          freshnessByAge policy input.nowMs retrievedAtMs
            (if input.candidate.position = previous.position then previous.advancedAtMs
              else retrievedAtMs)

abbrev ChainBlockReference := Block String

inductive ChainContinuityAction where
  | acceptAppend
  | acceptNoChange
  | verifyBoundedContinuityFromLastFinalizedCheckpoint
  | recoverProvisionalFromLastFinalizedCommonAncestor
  | quarantineFinalizedDisagreement
  | failClosedBlockedTier
  deriving DecidableEq

/-- The blanks and line ends of the language. -/
def isWhiteSpace (c : Char) : Bool :=
  let n := c.toNat
  (9 ≤ n && n ≤ 13) || n == 32 || n == 160 || n == 5760 || (8192 ≤ n && n ≤ 8202) || n == 8232 ||
    n == 8233 || n == 8239 || n == 8287 || n == 12288 || n == 65279

def validOpaqueHash (value : String) : Bool :=
  let cs := value.toList
  3 ≤ cs.length && cs.length ≤ 128 && !cs.any isWhiteSpace

def validBlockReference (value : ChainBlockReference) : Bool :=
  validOpaqueHash value.hash && validOpaqueHash value.parentHash

/-- What a disagreement means at a tier. -/
def disagreement (tier : ChainObservationTier) : ChainContinuityAction :=
  if tier = .financial then .quarantineFinalizedDisagreement
  else .recoverProvisionalFromLastFinalizedCommonAncestor

def decideChainContinuity (networkId : ChainObservationNetworkId) (tier : ChainObservationTier)
    (liveCapabilityProofValidated : Bool) (previous candidate : ChainBlockReference) :
    ChainContinuityAction :=
  match observationTierRule networkId.text tier.text with
  | none => .failClosedBlockedTier
  | some rule =>
    if rule.state = .blockedPendingLiveProof ∨
        tier ≠ .provisional ∧ liveCapabilityProofValidated = false then
      .failClosedBlockedTier
    else if !validBlockReference previous || !validBlockReference candidate then disagreement tier
    else if candidate = previous then .acceptNoChange
    else if candidate.position ≤ previous.position then disagreement tier
    else if candidate.position = previous.position + 1 then
      if candidate.parentHash = previous.hash then .acceptAppend else disagreement tier
    else .verifyBoundedContinuityFromLastFinalizedCheckpoint

theorem ChainObservationTier.text_injective : Function.Injective ChainObservationTier.text := by
  intro a b h
  cases a <;> cases b <;> first | rfl | exact absurd h (by decide)

theorem ChainObservationSelector.text_injective :
    Function.Injective ChainObservationSelector.text := by
  intro a b h
  cases a <;> cases b <;> first | rfl | exact absurd h (by decide)

theorem chainObservationPolicyForNetwork_text (n : ChainObservationNetworkId) :
    (chainObservationPolicyForNetwork n.text).map (·.networkId) = some n := by
  cases n <;> decide

/-- A rule of one tier is found for every network. -/
theorem observationTierRule_text (n : ChainObservationNetworkId) (tier : ChainObservationTier) :
    (observationTierRule n.text tier.text).map (·.tier) = some tier := by
  cases n <;> cases tier <;> decide

section Freshness

/-- When the head of a candidate advanced: with its position, or when it was first retrieved. -/
def effectiveHeadAdvancedAt (previous : Option PreviousHead) (candidate : CandidateHead) : Int :=
  match previous with
  | some p => if candidate.position = p.position then p.advancedAtMs else candidate.retrievedAtMs
  | none => candidate.retrievedAtMs

/-- What a current observation of a head means. -/
structure IsCurrent (policy : ChainObservationNetworkPolicy) (input : ChainHeadProgressInput)
    (advancedAt : Int) : Prop where
  advanced : advancedAt = effectiveHeadAdvancedAt input.previous input.candidate
  past : advancedAt ≤ input.nowMs
  young : input.nowMs - advancedAt ≤ policy.currentWithinMs

variable {policy : ChainObservationNetworkPolicy} {nowMs retrievedAtMs advancedAtMs t : Int}

theorem freshnessByAge_current
    (h : (freshnessByAge policy nowMs retrievedAtMs advancedAtMs).freshness = .current) :
    (freshnessByAge policy nowMs retrievedAtMs advancedAtMs).effectiveHeadAdvancedAtMs =
      some advancedAtMs ∧ nowMs - advancedAtMs ≤ policy.currentWithinMs := by
  simp only [freshnessByAge] at h ⊢
  split at h
  · rename_i hage
    rw [if_pos hage]
    exact ⟨rfl, by omega⟩
  · split at h <;> cases h

theorem unavailableDecision_ne (reason : FreshnessReason) :
    (unavailableDecision reason).freshness ≠ .current := by
  intro h
  cases h

/-- A head is current only within its network's bound. -/
theorem classifyChainObservationFreshness_current {input : ChainHeadProgressInput}
    (hp : chainObservationPolicyForNetwork input.networkId.text = some policy)
    (h : (classifyChainObservationFreshness input).freshness = .current) :
    ∃ t, (classifyChainObservationFreshness input).effectiveHeadAdvancedAtMs = some t ∧
      IsCurrent policy input t := by
  generalize hd : classifyChainObservationFreshness input = d at h
  simp only [classifyChainObservationFreshness, hp] at hd
  split at hd
  · exact absurd (hd ▸ h) (unavailableDecision_ne _)
  split at hd
  · exact absurd (hd ▸ h) (unavailableDecision_ne _)
  split at hd
  · exact absurd (hd ▸ h) (unavailableDecision_ne _)
  rename_i hretrieved
  cases hprevious : input.previous with
  | none =>
    simp only [hprevious] at hd
    subst hd
    obtain ⟨ht, hyoung⟩ := freshnessByAge_current h
    have hadvanced : input.candidate.retrievedAtMs =
        effectiveHeadAdvancedAt input.previous input.candidate := by
      rw [hprevious, effectiveHeadAdvancedAt]
    exact ⟨_, ht, hadvanced, by omega, hyoung⟩
  | some previous =>
    simp only [hprevious] at hd
    split at hd
    · exact absurd (hd ▸ h) (unavailableDecision_ne _)
    split at hd
    · subst hd
      cases h
    subst hd
    rename_i hprogress _
    simp only [Bool.or_eq_true, decide_eq_true_eq, not_or] at hprogress
    obtain ⟨ht, hyoung⟩ := freshnessByAge_current h
    refine ⟨_, ht, ?_, ?_, hyoung⟩
    · rw [hprevious, effectiveHeadAdvancedAt]
    · split <;> omega

end Freshness

section Continuity

variable {networkId : ChainObservationNetworkId} {tier : ChainObservationTier} {proven : Bool}
  {previous candidate : ChainBlockReference}

/-- What each continuity action says about two blocks. -/
inductive Continues (previous candidate : ChainBlockReference) : ChainContinuityAction → Prop
  | noChange (h : candidate = previous) : Continues previous candidate .acceptNoChange
  | append (h : Succeeds previous candidate) : Continues previous candidate .acceptAppend
  | verify (h : previous.position + 1 < candidate.position) :
      Continues previous candidate .verifyBoundedContinuityFromLastFinalizedCheckpoint
  | recover : Continues previous candidate .recoverProvisionalFromLastFinalizedCommonAncestor
  | quarantine : Continues previous candidate .quarantineFinalizedDisagreement
  | failClosed : Continues previous candidate .failClosedBlockedTier

theorem continues_disagreement : Continues previous candidate (disagreement tier) := by
  by_cases h : tier = .financial
  · rw [disagreement, if_pos h]
    exact .quarantine
  · rw [disagreement, if_neg h]
    exact .recover

theorem decideChainContinuity_continues : Continues previous candidate
    (decideChainContinuity networkId tier proven previous candidate) := by
  cases hr : observationTierRule networkId.text tier.text with
  | none =>
    simp only [decideChainContinuity, hr]
    exact .failClosed
  | some rule =>
    simp only [decideChainContinuity, hr]
    split
    · exact .failClosed
    split
    · exact continues_disagreement
    split
    · rename_i h
      exact .noChange h
    split
    · exact continues_disagreement
    split
    · split
      · rename_i hposition hparent
        exact .append ⟨hposition, hparent⟩
      · exact continues_disagreement
    · exact .verify (by omega)

end Continuity

end CryptoLending.Blockchain.ChainObservation
