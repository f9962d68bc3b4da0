import CryptoLending.Lib.IsoReading
import CryptoLending.Lib.JsObject
import CryptoLending.MainnetActions.FinalityPrerequisite

namespace CryptoLending.MainnetPlatforms.ChainAnchorData

open Lib Lib.Text Lib.JsObject Lib.IsoText Lib.IsoReading Blockchain.LaunchNetwork
open Lib.JsReading (isEvmHash isSha256)
open DeadlineRunner (isToken isAlphanumeric isIdentifierInner)
open MainnetActions.FinalityPrerequisite (SourceKind sourceKinds isSourceId)

section Texts

def isUnsignedInteger (maximum : Nat) (cs : List Char) : Bool :=
  isCanonicalUint cs && decide (cs.length ≤ 78) && decide (decimalValue cs ≤ maximum)

/-- A canonical numeral of at most some value. -/
abbrev UnsignedText (maximum : Nat) := Checked (isUnsignedInteger maximum)

def valueOf {maximum : Nat} (n : UnsignedText maximum) : Nat := decimalValue n.text.toList

def maxUint64 : Nat := 2 ^ 64 - 1

def maxUint256 : Nat := 2 ^ 256 - 1

def isSourceObservationId : List Char → Bool := isToken isAlphanumeric isIdentifierInner 192

/-- What a hash function prints. -/
def isHexDigest (cs : List Char) : Bool := cs.length == 64 && cs.all isLowerHex

abbrev HexDigest := Checked isHexDigest

abbrev Sha256 := Checked isSha256

/-- A digest other than zero. -/
def nonzeroDigest (d : HexDigest) : Option Sha256 := readChecked isSha256 (.string d.text)

/-- The text of a timestamp. -/
def timestampDatum (t : TimeValue) : Datum := .string t.toISOString

def timestamp (value : Datum) : Option PlainTime := value.string?.bind canonicalTimestamp

theorem timestamp_datum (t : PlainTime) : timestamp (timestampDatum t.toTimeValue) = some t :=
  canonicalTimestamp_eq_some.mpr rfl

def networkOf (value : Datum) : Option MainnetLaunchNetworkId := value.string?.bind ofText

end Texts

section Sources

structure SourceIdentity where
  sourceFamilyId : Checked isSourceId
  sourceId : Checked isSourceId
  sourceKind : SourceKind
  deriving DecidableEq

def readSourceKind (value : Datum) : Option SourceKind :=
  sourceKinds.find? fun kind => value.isText kind.text

theorem readSourceKind_text (kind : SourceKind) :
    readSourceKind (.string kind.text) = some kind := by
  cases kind <;> decide

end Sources

section Anchors

/-- A position on a chain. -/
inductive Anchor where
  | evmBlock (blockNumber : UnsignedText maxUint256) (blockHash : Checked isEvmHash)
  | solanaSlot (slot root : UnsignedText maxUint64) (ordered : valueOf root ≤ valueOf slot)
  deriving DecidableEq

namespace Anchor

def networkId : Anchor → MainnetLaunchNetworkId
  | .evmBlock _ _ => .eip155
  | .solanaSlot _ _ _ => .solana

def fields : Anchor → Fields
  | .evmBlock blockNumber blockHash => [("kind", .string "EVM_BLOCK"),
    ("blockNumber", .string blockNumber.text), ("blockHash", .string blockHash.text)]
  | .solanaSlot slot root _ => [("kind", .string "SOLANA_SLOT"), ("slot", .string slot.text),
    ("root", .string root.text)]

/-- A frozen copy of the anchor. -/
def datum (reference : Reference) (a : Anchor) : Datum := frozenRecord reference a.fields

end Anchor

/-- An anchor of a network. -/
def readAnchor (value : Datum) (networkId : MainnetLaunchNetworkId)
    (requireFrozen requireNullPrototype : Bool) : Option Anchor :=
  match networkId with
  | .eip155 => do
    let record ← exactDataRecord value ["kind", "blockNumber", "blockHash"] requireFrozen
      requireNullPrototype
    let blockNumber ← readChecked (isUnsignedInteger maxUint256) (record.get "blockNumber")
    guard ((record.get "kind").isText "EVM_BLOCK" = true)
    let blockHash ← readChecked isEvmHash (record.get "blockHash")
    return .evmBlock blockNumber blockHash
  | .solana => do
    let record ← exactDataRecord value ["kind", "slot", "root"] requireFrozen requireNullPrototype
    let slot ← readChecked (isUnsignedInteger maxUint64) (record.get "slot")
    let root ← readChecked (isUnsignedInteger maxUint64) (record.get "root")
    guard ((record.get "kind").isText "SOLANA_SLOT" = true)
    if ordered : valueOf root ≤ valueOf slot then some (.solanaSlot slot root ordered) else none

def sameAnchor : Anchor → Anchor → Bool
  | .evmBlock leftNumber leftHash, .evmBlock rightNumber rightHash =>
    leftNumber.text == rightNumber.text && leftHash.text == rightHash.text
  | .solanaSlot leftSlot leftRoot _, .solanaSlot rightSlot rightRoot _ =>
    leftSlot.text == rightSlot.text && leftRoot.text == rightRoot.text
  | _, _ => false

def nonRegressing : Anchor → Anchor → Bool
  | .evmBlock floorNumber floorHash, .evmBlock blockNumber blockHash =>
    decide (valueOf floorNumber < valueOf blockNumber) ||
      (blockNumber.text == floorNumber.text && blockHash.text == floorHash.text)
  | .solanaSlot floorSlot floorRoot _, .solanaSlot slot root _ =>
    decide (valueOf floorSlot ≤ valueOf slot) && decide (valueOf floorRoot ≤ valueOf root)
  | _, _ => false

def finalizedNotAhead : Anchor → Anchor → Bool
  | .evmBlock finalizedNumber finalizedHash, .evmBlock currentNumber currentHash =>
    decide (valueOf finalizedNumber < valueOf currentNumber) ||
      (finalizedNumber.text == currentNumber.text && finalizedHash.text == currentHash.text)
  | .solanaSlot finalizedSlot finalizedRoot _, .solanaSlot currentSlot currentRoot _ =>
    decide (valueOf finalizedSlot ≤ valueOf currentSlot) &&
      decide (valueOf finalizedRoot ≤ valueOf currentRoot)
  | _, _ => false

/-- The observation id that names an anchor. -/
def Anchor.observationId : Anchor → String
  | .evmBlock blockNumber _ => "ethereum-block-" ++ blockNumber.text
  | .solanaSlot slot _ _ => "solana-slot-" ++ slot.text

theorem sameAnchor_iff {a b : Anchor} : sameAnchor a b = true ↔ a = b := by
  cases a with
  | evmBlock m h =>
    cases b with
    | evmBlock n g =>
      simp only [sameAnchor, Bool.and_eq_true, beq_iff_eq, Anchor.evmBlock.injEq, Checked.ext_text_iff]
    | solanaSlot => simp only [sameAnchor, Bool.false_eq_true, reduceCtorEq]
  | solanaSlot s r =>
    cases b with
    | evmBlock => simp only [sameAnchor, Bool.false_eq_true, reduceCtorEq]
    | solanaSlot t q =>
      simp only [sameAnchor, Bool.and_eq_true, beq_iff_eq, Anchor.solanaSlot.injEq,
        Checked.ext_text_iff]

/-- A frozen copy is read back under every requirement. -/
theorem readAnchor_datum (reference : Reference) (a : Anchor)
    (requireFrozen requireNullPrototype : Bool) :
    readAnchor (a.datum reference) a.networkId requireFrozen requireNullPrototype = some a := by
  cases a with
  | evmBlock blockNumber blockHash =>
    have hrecord : exactDataRecord ((Anchor.evmBlock blockNumber blockHash).datum reference)
        ["kind", "blockNumber", "blockHash"] requireFrozen requireNullPrototype =
          some (Anchor.evmBlock blockNumber blockHash).fields :=
      exactDataRecord_frozenRecord _ _ rfl (by decide)
    have hnumber : readChecked (isUnsignedInteger maxUint256) (Fields.get
        (Anchor.evmBlock blockNumber blockHash).fields "blockNumber") = some blockNumber :=
      readChecked_string blockNumber
    have hhash : readChecked isEvmHash (Fields.get
        (Anchor.evmBlock blockNumber blockHash).fields "blockHash") = some blockHash :=
      readChecked_string blockHash
    have hkind : (Fields.get (Anchor.evmBlock blockNumber blockHash).fields "kind").isText
        "EVM_BLOCK" = true := rfl
    simp only [readAnchor, Anchor.networkId, hrecord, Option.bind_eq_bind, Option.bind_some,
      hnumber, hhash, hkind, guard, if_true]
    rfl
  | solanaSlot slot root ordered =>
    have hrecord : exactDataRecord ((Anchor.solanaSlot slot root ordered).datum reference)
        ["kind", "slot", "root"] requireFrozen requireNullPrototype =
          some (Anchor.solanaSlot slot root ordered).fields :=
      exactDataRecord_frozenRecord _ _ rfl (by decide)
    have hslot : readChecked (isUnsignedInteger maxUint64) (Fields.get
        (Anchor.solanaSlot slot root ordered).fields "slot") = some slot := readChecked_string slot
    have hroot : readChecked (isUnsignedInteger maxUint64) (Fields.get
        (Anchor.solanaSlot slot root ordered).fields "root") = some root := readChecked_string root
    have hkind : (Fields.get (Anchor.solanaSlot slot root ordered).fields "kind").isText
        "SOLANA_SLOT" = true := rfl
    simp only [readAnchor, Anchor.networkId, hrecord, Option.bind_eq_bind, Option.bind_some,
      hslot, hroot, hkind, guard, if_true, dif_pos ordered]
    rfl

theorem readAnchor_networkId {value : Datum} {networkId : MainnetLaunchNetworkId}
    {requireFrozen requireNullPrototype : Bool} {a : Anchor}
    (h : readAnchor value networkId requireFrozen requireNullPrototype = some a) :
    a.networkId = networkId := by
  cases networkId with
  | eip155 =>
    obtain ⟨record, _, h⟩ := Option.bind_eq_some_iff.mp h
    obtain ⟨blockNumber, _, h⟩ := Option.bind_eq_some_iff.mp h
    obtain ⟨_, _, h⟩ := Option.bind_eq_some_iff.mp h
    obtain ⟨blockHash, _, h⟩ := Option.bind_eq_some_iff.mp h
    cases h
    rfl
  | solana =>
    obtain ⟨record, _, h⟩ := Option.bind_eq_some_iff.mp h
    obtain ⟨slot, _, h⟩ := Option.bind_eq_some_iff.mp h
    obtain ⟨root, _, h⟩ := Option.bind_eq_some_iff.mp h
    obtain ⟨_, _, h⟩ := Option.bind_eq_some_iff.mp h
    split at h
    · cases h
      rfl
    · cases h

end Anchors

section Requests

/-- A request of the producer after its review. -/
structure ReviewedProducerRequest where
  request : Datum
  networkId : MainnetLaunchNetworkId
  source : SourceIdentity
  sourceObservationId : Checked isSourceObservationId
  continuityFloor : Anchor
  chainAnchor : Anchor
  observedAt : PlainTime
  deadlineAt : PlainTime
  signal : Reference

def producerVersion : Int := 1

def produceUse : String := "DORMANT_PROVIDER_POSITION_CHAIN_ANCHOR_EVIDENCE_PRODUCE_ONLY"

def recordCandidateUse : String :=
  "DORMANT_PROVIDER_POSITION_CHAIN_ANCHOR_EVIDENCE_RECORD_CANDIDATE_ONLY"

def produceRequestKeys : List String :=
  ["producerVersion", "use", "mayAuthorizeFinancialAction", "mayPersist", "networkId",
    "sourceFamilyId", "sourceId", "sourceKind", "sourceObservationId", "continuityFloor",
    "chainAnchor", "observedAt", "deadlineAt", "signal"]

/-- The fields that a request of the producer and a candidate begin with. -/
def hasHeader (record : Fields) (use : String) : Bool :=
  (record.get "producerVersion").isNumber producerVersion && (record.get "use").isText use &&
    (record.get "mayAuthorizeFinancialAction").isFalse && (record.get "mayPersist").isFalse

end Requests

end CryptoLending.MainnetPlatforms.ChainAnchorData
