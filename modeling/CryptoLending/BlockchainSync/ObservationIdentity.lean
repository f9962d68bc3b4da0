import CryptoLending.Blockchain.ChainObservation
import CryptoLending.Lib.CanonicalTree
import CryptoLending.Lib.JsReading
import CryptoLending.Lib.WellFormedText

namespace CryptoLending.BlockchainSync.BalanceSync

open Lib Lib.Text Lib.Identifier Lib.JsString Lib.JsonTree Lib.CanonicalTree Lib.Sorting
open Blockchain.ChainObservation

def maxUint256 : String :=
  "115792089237316195423570985008687907853269984665640564039457584007913129639935"

def maximumPositionsPerObservation : Nat := 64

def isFingerprint (cs : List Char) : Bool := decide (cs.length = 64) && cs.all isLowerHex

structure BalanceSyncSourcePoint where
  position : String
  hash : String
  parentHash : String
  selector : String
  retrievedAt : String
  deriving DecidableEq

structure BalanceSyncPosition where
  positionId : String
  stablecoin : String
  assetIdentity : String
  amountAtomic : String
  deriving DecidableEq

/-- What the identity of an observation is made from. -/
structure ObservationInput where
  accountId : String
  walletId : String
  networkId : String
  tier : String
  source : BalanceSyncSourcePoint
  positions : List BalanceSyncPosition

structure BalanceSyncTierThreshold where
  tier : ChainObservationTier
  selector : ChainObservationSelector
  state : ChainObservationTierState

def balanceSyncTierThreshold (networkId tier : String) : Option BalanceSyncTierThreshold := do
  let _ ← chainObservationPolicyForNetwork networkId
  let rule ← observationTierRule networkId tier
  return ⟨rule.tier, rule.selector, rule.state⟩

/-- A canonical numeral of at most 256 bits. -/
def normalizeBalanceSyncPosition (value : String) : Option String :=
  if isCanonicalUint value.toList = true ∧ value.length ≤ 78 ∧
      ¬(value.length = maxUint256.length ∧ maxUint256 < value) then some value
  else none

/-- The text is between two lengths, counted in code units. -/
def HasLength (minimum maximum : Nat) (s : String) : Prop :=
  minimum ≤ utf16Length s ∧ utf16Length s ≤ maximum

instance (minimum maximum : Nat) (s : String) : Decidable (HasLength minimum maximum s) :=
  inferInstanceAs (Decidable (_ ∧ _))

def canonicalPosition (position : BalanceSyncPosition) : Option (List String) := do
  guard (isFingerprint position.positionId.toList = true)
  guard (HasLength 16 64 position.assetIdentity)
  guard (position.stablecoin ∈ ["USDC", "USDT", "PYUSD"])
  let amountAtomic ← normalizeBalanceSyncPosition position.amountAtomic
  return [position.positionId, position.stablecoin, position.assetIdentity, amountAtomic]

def joined (row : List String) : String := "\x00".intercalate row

/-- The order of two texts by their code units. -/
def compareCanonical (left right : String) : Ordering := compareUnits left right

def sortRows (rows : List (List String)) : List (List String) :=
  sortBy (fun left right => compareCanonical (joined left) (joined right)) rows

section Identity

variable {δ : Type} (sha256 : List UInt8 → δ)

def digest (domain : String) (parts : List JsString) : δ :=
  sha256 (utf8 (stringify (texts (ofString domain :: parts))))

/-- The identity of an observation. -/
def createBalanceSyncObservationId (input : ObservationInput) : Option δ := do
  guard (isUuidV4 input.accountId.toList = true ∧ isUuidV4 input.walletId.toList = true)
  let threshold ← balanceSyncTierThreshold input.networkId input.tier
  guard (threshold.selector.text = input.source.selector)
  let sourcePosition ← normalizeBalanceSyncPosition input.source.position
  guard (HasLength 16 128 input.source.hash ∧ HasLength 16 128 input.source.parentHash ∧
    input.positions.length ≤ maximumPositionsPerObservation)
  let positions ← input.positions.mapM canonicalPosition
  let canonicalPositions := sortRows positions
  guard ((canonicalPositions.map fun row => row[0]?).Nodup ∧
    (canonicalPositions.map fun row => row[2]?).Nodup)
  return digest sha256 "crypto-lending:balance-sync-observation:v1"
    [ofString input.accountId, ofString input.walletId, ofString input.networkId,
      ofString input.tier, ofString sourcePosition, ofString input.source.hash,
      ofString input.source.parentHash, ofString input.source.selector,
      stringify (rows canonicalPositions)]

end Identity

end CryptoLending.BlockchainSync.BalanceSync

namespace CryptoLending.BlockchainSync.ObservationIdentity

open Lib Lib.Identifier Lib.JsString Lib.JsonTree Lib.CanonicalTree Lib.Sorting BalanceSync

/-- The texts of a position that are hashed. -/
def rowOf (p : BalanceSyncPosition) : List String :=
  [p.positionId, p.stablecoin, p.assetIdentity, p.amountAtomic]

theorem rowOf_injective : Function.Injective rowOf := by
  rintro ⟨i, s, a, m⟩ ⟨i', s', a', m'⟩ h
  simpa [rowOf] using h

/-- What an accepted input satisfies. -/
structure Valid (input : ObservationInput) : Prop where
  account : isUuidV4 input.accountId.toList = true ∧ isUuidV4 input.walletId.toList = true
  tier : ∃ threshold, balanceSyncTierThreshold input.networkId input.tier = some threshold ∧
    threshold.selector.text = input.source.selector
  position : normalizeBalanceSyncPosition input.source.position = some input.source.position
  source : HasLength 16 128 input.source.hash ∧ HasLength 16 128 input.source.parentHash ∧
    input.positions.length ≤ maximumPositionsPerObservation
  positions : ∀ p ∈ input.positions, canonicalPosition p = some (rowOf p)
  ids : (input.positions.map (·.positionId)).Nodup
  assets : (input.positions.map (·.assetIdentity)).Nodup

/-- The texts that are hashed. -/
def hashedParts (input : ObservationInput) : List JsString :=
  [ofString input.accountId, ofString input.walletId, ofString input.networkId,
    ofString input.tier, ofString input.source.position, ofString input.source.hash,
    ofString input.source.parentHash, ofString input.source.selector,
    stringify (rows (sortRows (input.positions.map rowOf)))]

section Accepted

theorem normalize_eq {value n : String} (h : normalizeBalanceSyncPosition value = some n) :
    n = value := by
  obtain ⟨_, h⟩ := Option.ite_none_right_eq_some.mp h
  exact (Option.some.inj h).symm

theorem canonicalPosition_eq {p : BalanceSyncPosition} {row : List String}
    (h : canonicalPosition p = some row) : row = rowOf p := by
  obtain ⟨_, -, h⟩ := Option.bind_eq_some_iff.mp h
  obtain ⟨_, -, h⟩ := Option.bind_eq_some_iff.mp h
  obtain ⟨_, -, h⟩ := Option.bind_eq_some_iff.mp h
  obtain ⟨n, hn, h⟩ := Option.bind_eq_some_iff.mp h
  rw [← Option.some.inj h, normalize_eq hn, rowOf]

theorem mapM_canonicalPosition {ps : List BalanceSyncPosition} {rs : List (List String)} :
    ps.mapM canonicalPosition = some rs ↔
      rs = ps.map rowOf ∧ ∀ p ∈ ps, canonicalPosition p = some (rowOf p) := by
  rw [ListOption.mapM_eq_some]
  constructor
  · intro h
    have hrows : rs = ps.map rowOf := by
      rw [← List.forall₂_eq_eq_eq, List.forall₂_map_right_iff]
      exact h.flip.imp fun row p hp => canonicalPosition_eq hp
    rw [hrows, List.forall₂_map_right_iff, List.forall₂_same] at h
    exact ⟨hrows, h⟩
  · rintro ⟨rfl, h⟩
    rw [List.forall₂_map_right_iff, List.forall₂_same]
    exact h

theorem sortRows_perm_map (ps : List BalanceSyncPosition) :
    (sortRows (ps.map rowOf)).Perm (ps.map rowOf) := sortBy_perm _ _

theorem nodup_sorted {α : Type} (ps : List BalanceSyncPosition) (f : List String → Option α)
    (g : BalanceSyncPosition → α) (h : ∀ p, f (rowOf p) = some (g p)) :
    ((sortRows (ps.map rowOf)).map f).Nodup ↔ (ps.map g).Nodup := by
  have hmap : (ps.map rowOf).map f = (ps.map g).map some := by
    rw [List.map_map, List.map_map]
    exact List.map_congr_left fun p _ => h p
  rw [((sortRows_perm_map ps).map f).nodup_iff, hmap]
  exact ⟨List.Nodup.of_map some, fun hnodup => hnodup.map (Option.some_injective α)⟩

variable {δ : Type} {sha256 : List UInt8 → δ} {input : ObservationInput} {d : δ}

/-- An input has an identity exactly when it is valid: the hash of its texts. -/
theorem createBalanceSyncObservationId_eq_some :
    createBalanceSyncObservationId sha256 input = some d ↔ Valid input ∧
      d = digest sha256 "crypto-lending:balance-sync-observation:v1" (hashedParts input) := by
  constructor
  · intro h
    obtain ⟨_, haccount, h⟩ := Option.bind_eq_some_iff.mp h
    obtain ⟨threshold, hthreshold, h⟩ := Option.bind_eq_some_iff.mp h
    obtain ⟨_, hselector, h⟩ := Option.bind_eq_some_iff.mp h
    obtain ⟨position, hposition, h⟩ := Option.bind_eq_some_iff.mp h
    obtain ⟨_, hsource, h⟩ := Option.bind_eq_some_iff.mp h
    obtain ⟨rs, hrows, h⟩ := Option.bind_eq_some_iff.mp h
    obtain ⟨_, hnodup, h⟩ := Option.bind_eq_some_iff.mp h
    obtain ⟨rfl, hpositions⟩ := mapM_canonicalPosition.1 hrows
    obtain ⟨hids, hassets⟩ := (Option.guard_eq_some' _).mp hnodup
    obtain rfl := normalize_eq hposition
    refine ⟨⟨(Option.guard_eq_some' _).mp haccount, ⟨threshold, hthreshold,
      (Option.guard_eq_some' _).mp hselector⟩, hposition, (Option.guard_eq_some' _).mp hsource,
      hpositions, ?_, ?_⟩, (Option.some.inj h).symm⟩
    · exact (nodup_sorted _ _ (·.positionId) fun _ => rfl).mp hids
    · exact (nodup_sorted _ _ (·.assetIdentity) fun _ => rfl).mp hassets
  · rintro ⟨h, rfl⟩
    obtain ⟨threshold, hthreshold, hselector⟩ := h.tier
    have hids := (nodup_sorted input.positions (fun row => row[0]?) (·.positionId)
      fun _ => rfl).mpr h.ids
    have hassets := (nodup_sorted input.positions (fun row => row[2]?) (·.assetIdentity)
      fun _ => rfl).mpr h.assets
    exact Option.bind_eq_some_iff.mpr ⟨(), (Option.guard_eq_some' _).mpr h.account,
      Option.bind_eq_some_iff.mpr ⟨threshold, hthreshold,
      Option.bind_eq_some_iff.mpr ⟨(), (Option.guard_eq_some' _).mpr hselector,
      Option.bind_eq_some_iff.mpr ⟨_, h.position,
      Option.bind_eq_some_iff.mpr ⟨(), (Option.guard_eq_some' _).mpr h.source,
      Option.bind_eq_some_iff.mpr ⟨_, mapM_canonicalPosition.2 ⟨rfl, h.positions⟩,
      Option.bind_eq_some_iff.mpr ⟨(), (Option.guard_eq_some' _).mpr ⟨hids, hassets⟩, rfl⟩⟩⟩⟩⟩⟩⟩

end Accepted

section Order

/-- The joined texts of a position begin with its identity, whose length is fixed. -/
theorem positionId_of_joined {p q : BalanceSyncPosition} (hp : p.positionId.toList.length = 64)
    (hq : q.positionId.toList.length = 64) (h : joined (rowOf p) = joined (rowOf q)) :
    p.positionId = q.positionId := by
  have htext : ∀ r : BalanceSyncPosition, (joined (rowOf r)).toList = r.positionId.toList ++
      ['\x00'].intercalate ([""] ++ [r.stablecoin, r.assetIdentity, r.amountAtomic] |>.map
        String.toList) := by
    intro r
    simp [joined, rowOf, List.intercalate, List.intersperse]
  have hlist := congrArg String.toList h
  rw [htext, htext] at hlist
  exact String.toList_inj.mp (List.append_inj hlist (hp.trans hq.symm)).1

theorem length_positionId {p : BalanceSyncPosition} (h : canonicalPosition p = some (rowOf p)) :
    p.positionId.toList.length = 64 := by
  obtain ⟨_, hfingerprint, -⟩ := Option.bind_eq_some_iff.mp h
  have hfingerprint := (Option.guard_eq_some' _).mp hfingerprint
  exact of_decide_eq_true (Bool.and_eq_true_iff.mp hfingerprint).1

theorem compareRows_ranks (l : List (List String)) :
    RanksBy (fun left right => compareCanonical (joined left) (joined right))
      (fun row => units (joined row)) l :=
  fun a _ b _ => compareUnits_ne_gt (joined a) (joined b)

/-- The positions of valid inputs are sorted in one way. -/
theorem sortRows_of_perm {ps qs : List BalanceSyncPosition}
    (hps : ∀ p ∈ ps, canonicalPosition p = some (rowOf p)) (hids : (ps.map (·.positionId)).Nodup)
    (h : ps.Perm qs) : sortRows (ps.map rowOf) = sortRows (qs.map rowOf) := by
  refine (compareRows_ranks _).sortBy_eq_of_perm (compareRows_ranks _) (h.map rowOf) ?_
  intro a ha b hb hkey
  obtain ⟨p, hp, rfl⟩ := List.mem_map.mp ha
  obtain ⟨q, hq, rfl⟩ := List.mem_map.mp hb
  have hid := positionId_of_joined (length_positionId (hps p hp)) (length_positionId (hps q hq))
    (units_injective hkey)
  rw [List.inj_on_of_nodup_map hids hp hq hid]

end Order

section Identities

variable {δ : Type} {sha256 : List UInt8 → δ} {a b : ObservationInput}

/-- Two inputs that differ in the order of their positions and in the time of retrieval only. -/
structure Reordered (a b : ObservationInput) : Prop where
  account : a.accountId = b.accountId ∧ a.walletId = b.walletId
  tier : a.networkId = b.networkId ∧ a.tier = b.tier
  position : a.source.position = b.source.position
  hash : a.source.hash = b.source.hash ∧ a.source.parentHash = b.source.parentHash
  selector : a.source.selector = b.source.selector
  positions : a.positions.Perm b.positions

theorem Reordered.symm (h : Reordered a b) : Reordered b a :=
  ⟨⟨h.account.1.symm, h.account.2.symm⟩, ⟨h.tier.1.symm, h.tier.2.symm⟩, h.position.symm,
    ⟨h.hash.1.symm, h.hash.2.symm⟩, h.selector.symm, h.positions.symm⟩

theorem Valid.reordered (ha : Valid a) (h : Reordered a b) : Valid b where
  account := by rw [← h.account.1, ← h.account.2]; exact ha.account
  tier := by rw [← h.tier.1, ← h.tier.2, ← h.selector]; exact ha.tier
  position := by rw [← h.position]; exact ha.position
  source := by
    rw [← h.hash.1, ← h.hash.2, ← h.positions.length_eq]
    exact ha.source
  positions p hp := ha.positions p (h.positions.mem_iff.mpr hp)
  ids := ((h.positions.map _).nodup_iff).mp ha.ids
  assets := ((h.positions.map _).nodup_iff).mp ha.assets

theorem hashedParts_reordered (ha : Valid a) (h : Reordered a b) :
    hashedParts a = hashedParts b := by
  rw [hashedParts, hashedParts, h.account.1, h.account.2, h.tier.1, h.tier.2, h.position,
    h.hash.1, h.hash.2, h.selector, sortRows_of_perm ha.positions ha.ids h.positions]

/-- The identity does not show the order of positions and the time of retrieval. -/
theorem create_reordered (h : Reordered a b) :
    createBalanceSyncObservationId sha256 a = createBalanceSyncObservationId sha256 b := by
  refine Option.ext fun d => ?_
  rw [createBalanceSyncObservationId_eq_some, createBalanceSyncObservationId_eq_some]
  constructor
  · rintro ⟨ha, rfl⟩
    exact ⟨ha.reordered h, by rw [hashedParts_reordered ha h]⟩
  · rintro ⟨hb, rfl⟩
    exact ⟨hb.reordered h.symm, by rw [hashedParts_reordered hb h.symm]⟩

/-- The hashed texts show everything else. -/
theorem reordered_of_hashedParts (h : hashedParts a = hashedParts b) : Reordered a b := by
  simp only [hashedParts, List.cons.injEq, ofString_injective.eq_iff, and_true] at h
  obtain ⟨haccount, hwallet, hnetwork, htier, hposition, hhash, hparent, hselector, hrows⟩ := h
  have hsorted := stringify_rows_inj hrows
  refine ⟨⟨haccount, hwallet⟩, ⟨hnetwork, htier⟩, hposition, ⟨hhash, hparent⟩, hselector, ?_⟩
  have hperm := (sortRows_perm_map a.positions).symm.trans
    (hsorted ▸ sortRows_perm_map b.positions)
  exact (List.map_perm_map_iff rowOf_injective).mp hperm

end Identities

section Canonical

variable {δ : Type}

/-- The bytes that are hashed for the identity of an observation. -/
def observationBytes (input : ObservationInput) : Option (List UInt8) :=
  createBalanceSyncObservationId (fun bytes => bytes) input

theorem create_eq_map (sha256 : List UInt8 → δ) (input : ObservationInput) :
    createBalanceSyncObservationId sha256 input = (observationBytes input).map sha256 := by
  refine Option.ext fun d => ?_
  rw [createBalanceSyncObservationId_eq_some, Option.map_eq_some_iff]
  constructor
  · rintro ⟨hvalid, rfl⟩
    exact ⟨_, createBalanceSyncObservationId_eq_some.2 ⟨hvalid, rfl⟩, rfl⟩
  · rintro ⟨bytes, hbytes, rfl⟩
    obtain ⟨hvalid, rfl⟩ := createBalanceSyncObservationId_eq_some.1 hbytes
    exact ⟨hvalid, rfl⟩

/-- Two observations that agree in everything but the order of their positions and the time of
their retrieval. -/
structure SameObservation (a b : ObservationInput) : Prop where
  accountId : a.accountId = b.accountId
  walletId : a.walletId = b.walletId
  networkId : a.networkId = b.networkId
  tier : a.tier = b.tier
  position : a.source.position = b.source.position
  hash : a.source.hash = b.source.hash
  parentHash : a.source.parentHash = b.source.parentHash
  selector : a.source.selector = b.source.selector
  positions : ∀ p, p ∈ a.positions ↔ p ∈ b.positions

variable {a b : ObservationInput}

theorem Valid.positions_nodup (h : Valid a) : a.positions.Nodup := List.Nodup.of_map _ h.ids

theorem sameObservation_iff (ha : Valid a) (hb : Valid b) :
    SameObservation a b ↔ Reordered a b := by
  constructor
  · rintro ⟨haccount, hwallet, hnetwork, htier, hposition, hhash, hparent, hselector, hpositions⟩
    exact ⟨⟨haccount, hwallet⟩, ⟨hnetwork, htier⟩, hposition, ⟨hhash, hparent⟩, hselector,
      (List.perm_ext_iff_of_nodup ha.positions_nodup hb.positions_nodup).mpr hpositions⟩
  · intro h
    exact ⟨h.account.1, h.account.2, h.tier.1, h.tier.2, h.position, h.hash.1, h.hash.2, h.selector,
      fun p => h.positions.mem_iff⟩

theorem observationBytes_inj {bytes : List UInt8} (ha : observationBytes a = some bytes)
    (hb : observationBytes b = some bytes) : Reordered a b := by
  obtain ⟨-, hbytes⟩ := createBalanceSyncObservationId_eq_some.1 ha
  obtain ⟨-, hbytes'⟩ := createBalanceSyncObservationId_eq_some.1 hb
  have htexts := utf8_texts_inj (hbytes.symm.trans hbytes')
  exact reordered_of_hashedParts (List.cons.inj htexts).2

/-- The identity of an observation names what was observed, and nothing else. -/
theorem createBalanceSyncObservationId_canonical (sha256 : List UInt8 → δ) :
    (∀ a b : ObservationInput, (observationBytes a).isSome = true →
      (observationBytes b).isSome = true →
      (observationBytes a = observationBytes b ↔ SameObservation a b)) ∧
    (∀ (a : ObservationInput) (positions : List BalanceSyncPosition) (retrievedAt : String),
      a.positions.Perm positions →
      createBalanceSyncObservationId sha256
          { a with source := { a.source with retrievedAt }, positions } =
        createBalanceSyncObservationId sha256 a) ∧
    (∀ a b : ObservationInput, (observationBytes a).isSome = true →
      (observationBytes b).isSome = true → (∃ p ∈ a.positions, p ∉ b.positions) →
      observationBytes a ≠ observationBytes b) ∧
    (∀ (a b : ObservationInput) (bytes bytes' : List UInt8), observationBytes a = some bytes →
      observationBytes b = some bytes' → (sha256 bytes = sha256 bytes' → bytes = bytes') →
      createBalanceSyncObservationId sha256 a = createBalanceSyncObservationId sha256 b →
      SameObservation a b) := by
  have hsame : ∀ a b : ObservationInput, (observationBytes a).isSome = true →
      (observationBytes b).isSome = true →
      (observationBytes a = observationBytes b ↔ SameObservation a b) := by
    intro a b ha hb
    obtain ⟨bytes, ha⟩ := Option.isSome_iff_exists.mp ha
    obtain ⟨bytes', hb⟩ := Option.isSome_iff_exists.mp hb
    have hvalid := (createBalanceSyncObservationId_eq_some.1 ha).1
    have hvalid' := (createBalanceSyncObservationId_eq_some.1 hb).1
    rw [sameObservation_iff hvalid hvalid']
    refine ⟨fun h => observationBytes_inj ha (h ▸ ha), fun h => create_reordered h⟩
  refine ⟨hsame, fun a positions retrievedAt h => ?_, fun a b ha hb hp heq => ?_,
    fun a b bytes bytes' ha hb hsha heq => ?_⟩
  · exact create_reordered ⟨⟨rfl, rfl⟩, ⟨rfl, rfl⟩, rfl, ⟨rfl, rfl⟩, rfl, h.symm⟩
  · obtain ⟨p, hpa, hpb⟩ := hp
    exact hpb (((hsame a b ha hb).mp heq).positions p |>.mp hpa)
  · rw [create_eq_map, create_eq_map, ha, hb] at heq
    obtain rfl := hsha (Option.some.inj heq)
    have hsome : ∀ {o : ObservationInput}, observationBytes o = some bytes →
        (observationBytes o).isSome = true := fun h => h ▸ rfl
    exact (hsame a b (hsome ha) (hsome hb)).mp (ha.trans hb.symm)

def samplePositions : List BalanceSyncPosition :=
  [⟨"aaaaaaaaaaaaaaaaaaaaaaaaaaaaaaaaaaaaaaaaaaaaaaaaaaaaaaaaaaaaaaaa", "USDC",
    "0xa0b86991c6218b36c1d19d4a2e9eb0ce3606eb48", "5"⟩,
  ⟨"bbbbbbbbbbbbbbbbbbbbbbbbbbbbbbbbbbbbbbbbbbbbbbbbbbbbbbbbbbbbbbbb", "USDT",
    "0xdac17f958d2ee523a2206206994597c13d831ec7", "7"⟩]

def sampleObservation (positions : List BalanceSyncPosition) : ObservationInput where
  accountId := "00000000-0000-4000-8000-000000000001"
  walletId := "00000000-0000-4000-8000-000000000002"
  networkId := "eip155:1"
  tier := "FINANCIAL"
  source := ⟨"19", "0x00000000000000000000000000000001", "0x00000000000000000000000000000000",
    "finalized", "2026-01-01T00:00:00.000Z"⟩
  positions := positions

theorem samplePositions_fingerprints :
    ∀ p ∈ samplePositions, isFingerprint p.positionId.toList = true := by
  simp only [samplePositions, List.forall_mem_cons, List.not_mem_nil, false_imp_iff, implies_true,
    and_true]
  constructor
  · rw [String.toList_ofList]
    decide
  · rw [String.toList_ofList]
    decide

theorem samplePositions_canonical : ∀ p ∈ samplePositions, canonicalPosition p = some (rowOf p) := by
  have hrest : ∀ p ∈ samplePositions, HasLength 16 64 p.assetIdentity ∧
      p.stablecoin ∈ ["USDC", "USDT", "PYUSD"] ∧
        normalizeBalanceSyncPosition p.amountAtomic = some p.amountAtomic := by
    decide
  intro p hp
  obtain ⟨hlength, hstablecoin, hamount⟩ := hrest p hp
  rw [canonicalPosition, hamount]
  simp only [samplePositions_fingerprints p hp, hlength, hstablecoin]
  rfl

theorem sampleObservation_valid : Valid (sampleObservation samplePositions) where
  account := by
    constructor
    · change isUuidV4 "00000000-0000-4000-8000-000000000001".toList = true
      rw [String.toList_ofList]
      decide
    · change isUuidV4 "00000000-0000-4000-8000-000000000002".toList = true
      rw [String.toList_ofList]
      decide
  tier := by
    have htier : ((balanceSyncTierThreshold "eip155:1" "FINANCIAL").any
      fun threshold => threshold.selector.text == "finalized") = true := by decide
    obtain ⟨threshold, hthreshold, htext⟩ := (Option.any_eq_true _ _).mp htier
    exact ⟨threshold, hthreshold, beq_iff_eq.mp htext⟩
  position := by decide
  source := by decide
  positions := samplePositions_canonical
  ids := by decide
  assets := by decide

theorem sampleObservation_reversed : Reordered (sampleObservation samplePositions)
    (sampleObservation samplePositions.reverse) :=
  ⟨⟨rfl, rfl⟩, ⟨rfl, rfl⟩, rfl, ⟨rfl, rfl⟩, rfl, (List.reverse_perm _).symm⟩

theorem isSome_of_valid (h : Valid a) : (observationBytes a).isSome = true := by
  rw [observationBytes, createBalanceSyncObservationId_eq_some.2 ⟨h, rfl⟩]
  rfl

theorem sampleObservation_canonical :
    observationBytes (sampleObservation samplePositions) =
        observationBytes (sampleObservation samplePositions.reverse) ↔
      SameObservation (sampleObservation samplePositions)
        (sampleObservation samplePositions.reverse) :=
  (createBalanceSyncObservationId_canonical (fun bytes => bytes)).1 _ _
    (isSome_of_valid sampleObservation_valid)
    (isSome_of_valid (sampleObservation_valid.reordered sampleObservation_reversed))

end Canonical

end CryptoLending.BlockchainSync.ObservationIdentity
