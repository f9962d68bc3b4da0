import CryptoLending.Lib.JsReading
import CryptoLending.Lib.IsoReading
import CryptoLending.Lib.JsHeap
import CryptoLending.Lib.Transaction

namespace CryptoLending.Outbox.Envelope

open Lib JsString JsHeap Identifier Text

variable {ρ : Type}

section Identifiers

def isCanonicalUuidV4 (id : JsString) : Bool := matchesText isUuidV4 id

/-- A hash in lower-case hexadecimal digits. -/
def isDigest (cs : List Char) : Bool := cs.length == 64 && cs.all isLowerHex

abbrev Digest := Matching isDigest

def isLegacyCorrelation (cs : List Char) : Bool :=
  cs.take 7 == "legacy:".toList && isDigest (cs.drop 7)

def isSafeCorrelationId (id : JsString) : Bool :=
  isCanonicalUuidV4 id || matchesText isLegacyCorrelation id

def startsWithLegacy (id : JsString) : Bool := (ofString "legacy:").isPrefixOf id

def maxOpaqueReferenceInputLength : Nat := 4096

def createSafeLegacyCorrelationId (sha256 : List UInt8 → Digest) (domain : String)
    (value : JsString) : Option JsString :=
  if value.length < 1 ∨ value.length > maxOpaqueReferenceInputLength then none
  else
    let digest := sha256
      (utf8 (ofString ("crypto-lending:legacy-correlation:" ++ domain ++ ":")) ++ utf8 value)
    some (ofString ("legacy:" ++ digest.text))

/-- The code units that trimming removes. -/
def isWhiteSpace (u : UInt16) : Bool :=
  (0x09 ≤ u && u ≤ 0x0d) || (0x2000 ≤ u && u ≤ 0x200a) ||
    [0x20, 0xa0, 0x1680, 0x2028, 0x2029, 0x202f, 0x205f, 0x3000, 0xfeff].contains u

def trim (us : JsString) : JsString :=
  ((us.dropWhile isWhiteSpace).reverse.dropWhile isWhiteSpace).reverse

def maxJobIdLength : Nat := 128

def maxJobKindLength : Nat := 128

def isTrimmedText (maximum : Nat) (value : JsString) : Bool :=
  1 ≤ value.length && value.length ≤ maximum && trim value == value

def isValidOpaqueId (value : JsString) : Bool := isTrimmedText maxJobIdLength value

def isValidKind (value : JsString) : Bool := isTrimmedText maxJobKindLength value

def isCanonicalIsoTimestamp (value : JsString) : Bool :=
  matchesText (fun cs => (IsoReading.ofISOString (String.ofList cs)).isSome) value

def isPositiveVersion (version : JsNumber) : Bool := version.safeInteger?.any (1 ≤ ·)

end Identifiers

section Correlation

inductive CorrelationKey where
  | requestId
  | initiatorActorId
  | intentId
  | quoteId
  | transactionId
  | ledgerEventId
  deriving DecidableEq

namespace CorrelationKey

def text : CorrelationKey → String
  | .requestId => "requestId"
  | .initiatorActorId => "initiatorActorId"
  | .intentId => "intentId"
  | .quoteId => "quoteId"
  | .transactionId => "transactionId"
  | .ledgerEventId => "ledgerEventId"

def name (key : CorrelationKey) : JsString := ofString key.text

def all : List CorrelationKey :=
  [.requestId, .initiatorActorId, .intentId, .quoteId, .transactionId, .ledgerEventId]

theorem mem_all (key : CorrelationKey) : key ∈ all := by cases key <;> decide

end CorrelationKey

/-- The correlation of a job. A legacy one has no further identifiers. -/
structure JobCorrelationContext where
  correlationId : JsString
  optional : CorrelationKey → Option JsString
  safe : isSafeCorrelationId correlationId = true
  canonical : ∀ key ∈ CorrelationKey.all, ∀ id ∈ optional key, isCanonicalUuidV4 id = true
  request : ∀ id ∈ optional .requestId, id = correlationId
  legacy : startsWithLegacy correlationId = true → ∀ key ∈ CorrelationKey.all, optional key = none

def correlationKeys : List JsString :=
  ofString "correlationId" :: CorrelationKey.all.map CorrelationKey.name

/-- An own property that is absent or holds a string. -/
def readOptional (o : Object ρ) (name : JsString) : Option (Option JsString) :=
  match o.own name with
  | none => some none
  | some property => (property.value?.bind Value.string?).map some

def onlyKeys (o : Object ρ) (keys : List JsString) : Bool :=
  o.symbols.isEmpty && o.keys.all keys.contains

def ownString (o : Object ρ) (name : String) : Option JsString :=
  (o.ownData (ofString name)).bind Value.string?

def parseCorrelationContext (store : Store ρ) (value : Value ρ) :
    Option JobCorrelationContext := do
  let o ← plainObject? store value
  guard (onlyKeys o correlationKeys = true)
  let correlationId ← ownString o "correlationId"
  guard (CorrelationKey.all.all fun key => (readOptional o key.name).isSome)
  let optional := fun key : CorrelationKey => (readOptional o key.name).join
  if h : isSafeCorrelationId correlationId = true ∧
      (∀ key ∈ CorrelationKey.all, ∀ id ∈ optional key, isCanonicalUuidV4 id = true) ∧
      (∀ id ∈ optional .requestId, id = correlationId) ∧
      (startsWithLegacy correlationId = true →
        ∀ key ∈ CorrelationKey.all, optional key = none) then
    some ⟨correlationId, optional, h.1, h.2.1, h.2.2.1, h.2.2.2⟩
  else none

end Correlation

section Legacy

variable (sha256 : List UInt8 → Digest)

theorem isAscii_digest (digest : Digest) : digest.text.toList.all isAscii = true := by
  have hall := (Bool.and_eq_true_iff.mp digest.passes).2
  rw [List.all_eq_true] at hall ⊢
  intro c hc
  obtain hdigit | hletter := Bool.or_eq_true_iff.mp (hall c hc)
  · exact JsNumber.isAscii_of_isDigit hdigit
  · have hle : c.toNat ≤ 102 := of_decide_eq_true (Bool.and_eq_true_iff.mp hletter).2
    apply decide_eq_true
    omega

/-- The correlation made for an old job is one that jobs may carry. -/
theorem isSafe_of_createSafeLegacyCorrelationId {domain : String} {value id : JsString}
    (h : createSafeLegacyCorrelationId sha256 domain value = some id) :
    isSafeCorrelationId id = true := by
  rw [createSafeLegacyCorrelationId, Option.ite_none_left_eq_some] at h
  obtain ⟨_, hid⟩ := h
  generalize sha256 _ = digest at hid
  rw [← Option.some.inj hid]
  have hlist : ("legacy:" ++ digest.text).toList = "legacy:".toList ++ digest.text.toList :=
    String.toList_append
  have hascii : ("legacy:" ++ digest.text).toList.all isAscii = true := by
    rw [hlist, List.all_append, isAscii_digest digest]
    rfl
  have hlegacy : isLegacyCorrelation ("legacy:" ++ digest.text).toList = true := by
    rw [hlist]
    exact digest.passes
  rw [isSafeCorrelationId, matchesText, ofString, encode_ascii hascii, decode_ascii hascii,
    Option.any_some, hlegacy, Bool.or_true]

/-- The correlation of a job from before jobs carried one. -/
def legacyCorrelationContext (jobId : JsString) : Option JobCorrelationContext :=
  (createSafeLegacyCorrelationId sha256 "job" jobId).pmap
    (fun correlationId safe => {
      correlationId
      optional := fun _ => none
      safe
      canonical := fun _ _ _ h => absurd h (Option.not_mem_none _)
      request := fun _ h => absurd h (Option.not_mem_none _)
      legacy := fun _ _ _ => rfl })
    (fun _ h => isSafe_of_createSafeLegacyCorrelationId sha256 h)

end Legacy

section Envelope

/-- The fields of a job other than its payload. -/
structure JobHeader where
  id : JsString
  kind : JsString
  version : JsNumber
  occurredAt : JsString
  correlation : JobCorrelationContext
  id_valid : isValidOpaqueId id = true
  kind_valid : isValidKind kind = true
  version_valid : isPositiveVersion version = true
  occurredAt_valid : isCanonicalIsoTimestamp occurredAt = true

structure JobEnvelope (ρ : Type) extends JobHeader where
  payload : Value ρ

def requiredJobEnvelopeKeys : List JsString :=
  ["id", "kind", "version", "occurredAt", "payload"].map ofString

def jobEnvelopeKeys : List JsString :=
  ["id", "kind", "version", "occurredAt", "correlation", "payload"].map ofString

variable (sha256 : List UInt8 → Digest) (store : Store ρ)

/-- The correlation that a job carries, or the one made for it when it carries none. -/
def readCorrelation (o : Object ρ) (id : JsString) : Option JobCorrelationContext :=
  match o.own (ofString "correlation") with
  | none => legacyCorrelationContext sha256 id
  | some property => property.value?.bind (parseCorrelationContext store)

def readJobEnvelope (value : Value ρ) : Option (JobEnvelope ρ) := do
  let o ← plainObject? store value
  guard (onlyKeys o jobEnvelopeKeys = true ∧
    requiredJobEnvelopeKeys.all (fun key => (o.own key).isSome) = true)
  let id ← ownString o "id"
  let kind ← ownString o "kind"
  let version ← (o.ownData (ofString "version")).bind Value.number?
  let occurredAt ← ownString o "occurredAt"
  let payload ← o.ownData (ofString "payload")
  let correlation ← readCorrelation sha256 store o id
  if h : isValidOpaqueId id = true ∧ isValidKind kind = true ∧ isPositiveVersion version = true ∧
      isCanonicalIsoTimestamp occurredAt = true then
    some ⟨⟨id, kind, version, occurredAt, correlation, h.1, h.2.1, h.2.2.1, h.2.2.2⟩, payload⟩
  else none

inductive JobEnvelopeError where
  | invalidJobEnvelope
  deriving DecidableEq

def JobEnvelopeError.message : JobEnvelopeError → String
  | .invalidJobEnvelope => "Invalid job envelope"

def parseJobEnvelope (value : Value ρ) : Except JobEnvelopeError (JobEnvelope ρ) :=
  orFail (readJobEnvelope sha256 store value) .invalidJobEnvelope

end Envelope

end CryptoLending.Outbox.Envelope
