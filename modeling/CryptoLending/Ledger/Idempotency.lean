import CryptoLending.Ledger.LedgerJournal
import CryptoLending.Lib.Wire

namespace CryptoLending.Ledger.Idempotency

open Lib Lib.JsValue Lib.Text Lib.LengthPrefixed LedgerJournal

def ledgerIdempotencyContractVersion : Nat := 1
def ledgerRequestFingerprintVersion : Nat := 1
def maxLedgerIdempotencyKeyBytes : Nat := 128
def keyDigestDomain : String := "crypto-lending:ledger-idempotency-key:v1"
def requestFingerprintDomain : String := "crypto-lending:ledger-request-fingerprint:v1"

inductive LedgerIdempotencyOperation where
  | postJournal
  | reverseJournal
  deriving DecidableEq

def LedgerIdempotencyOperation.text : LedgerIdempotencyOperation → String
  | .postJournal => "POST_JOURNAL"
  | .reverseJournal => "REVERSE_JOURNAL"

/-- The two kinds of errors that a context can end with. -/
inductive LedgerIdempotencyFailure where
  | validation (code : LedgerValidationCode)
  | invalidIdempotencyKey
  deriving DecidableEq

structure LedgerIdempotencyContext (δ : Type) where
  actorAccountId : LedgerActorAccountId
  operation : LedgerIdempotencyOperation
  contractVersion : Nat
  keyDigest : δ
  fingerprintVersion : Nat
  requestFingerprint : δ

/-- The bytes of a text. -/
def utf8 (s : String) : List UInt8 := s.toByteArray.data.toList

def ascii (cs : List Char) : List UInt8 := cs.map (fun c => UInt8.ofNat c.toNat)

def parseRawIdempotencyKey (value : Value) : Except LedgerIdempotencyFailure String := do
  let key ← orFail value.string? .invalidIdempotencyKey
  failWhen ((utf8 key).length < 1 ∨ (utf8 key).length > maxLedgerIdempotencyKeyBytes ∨
    key.toList.isEmpty ∨ !key.toList.all isVisible) .invalidIdempotencyKey
  return key

theorem toNat_digit {n : Nat} {c : Char} (h : c ∈ Nat.toDigits 10 n) :
    48 ≤ c.toNat ∧ c.toNat ≤ 57 := by
  have hd := Nat.isDigit_of_mem_toDigits (by omega) (by omega) h
  simp only [Char.isDigit, Bool.and_eq_true, decide_eq_true_eq] at hd
  exact hd

theorem toNat_ascii {n : Nat} {c : Char} (h : c ∈ Nat.toDigits 10 n) :
    (UInt8.ofNat c.toNat).toNat = c.toNat := by
  have hd := toNat_digit h
  exact UInt8.toNat_ofNat_of_lt' (by simp only [UInt8.size]; omega)

/-- The digits of a number can be read back from its bytes. -/
theorem ascii_toDigits (n : Nat) :
    (ascii (Nat.toDigits 10 n)).map (fun b => Char.ofNat b.toNat) = Nat.toDigits 10 n := by
  rw [ascii, List.map_map]
  conv_rhs => rw [← List.map_id (Nat.toDigits 10 n)]
  apply List.map_congr_left
  intro c hc
  rw [Function.comp_apply, toNat_ascii hc, Char.ofNat_toNat, id]

/-- The length of a field in decimal digits, then a colon, then its bytes. -/
def updateField : Framing UInt8 where
  length n := ascii (Nat.toDigits 10 n)
  mark := UInt8.ofNat ':'.toNat
  length_injective := by
    intro m n h
    have hdigits := congrArg (List.map (fun b => Char.ofNat b.toNat)) h
    rw [ascii_toDigits, ascii_toDigits] at hdigits
    have hvalue := congrArg (Nat.ofDigitChars 10 · 0) hdigits
    simpa only [Nat.ofDigitChars_ten_toDigits] using hvalue
  mark_notMem := by
    intro n h
    obtain ⟨c, hc, hmark⟩ := List.mem_map.mp h
    have hd := toNat_digit hc
    have hcolon : c.toNat = 58 := by
      rw [← toNat_ascii hc, hmark]
      rfl
    omega

variable {δ : Type}

/-- The bytes that are hashed for a domain and its values. -/
def preimage (domain : String) (values : List String) : List UInt8 :=
  updateField.frames ((domain :: values).map utf8)

def digest (sha256 : List UInt8 → δ) (domain : String) (values : List String) : δ :=
  sha256 (preimage domain values)

def digestLedgerIdempotencyKey (sha256 : List UInt8 → δ) (value : Value) :
    Except LedgerIdempotencyFailure δ := do
  let key ← parseRawIdempotencyKey value
  return digest sha256 keyDigestDomain [key]

def fingerprintHeader (actorAccountId : LedgerActorAccountId)
    (operation : LedgerIdempotencyOperation) : List String :=
  [Nat.repr ledgerRequestFingerprintVersion, Nat.repr ledgerIdempotencyContractVersion,
    operation.text, actorAccountId.text]

def postingFields (p : LedgerPosting) : List String :=
  [p.accountId.text, p.assetRevisionId.text, p.side.text, p.amountAtomic.text]

def postFields (actor : LedgerActorAccountId) (journal : ValidatedPostLedgerJournal) :
    List String :=
  fingerprintHeader actor .postJournal ++
    [journal.bookId.text, journal.transactionId.text, journal.legId.text,
      journal.economicEventType.text, journal.effectiveAt.text, journal.observedAt.text,
      journal.reason.text, Nat.repr journal.postings.postings.length] ++
    journal.postings.postings.flatMap postingFields

def reverseFields (actor : LedgerActorAccountId) (reversal : ValidatedReverseLedgerJournal) :
    List String :=
  fingerprintHeader actor .reverseJournal ++
    [reversal.originalJournalId.text, reversal.reason.text, reversal.effectiveAt.text,
      reversal.observedAt.text]

def createPostLedgerIdempotencyContext (sha256 : List UInt8 → δ) (rawKey actorAccountId : Value)
    (journal : ValidatedPostLedgerJournal) :
    Except LedgerIdempotencyFailure (LedgerIdempotencyContext δ) := do
  let actor ← (parseLedgerActorAccountId actorAccountId).mapError .validation
  let keyDigest ← digestLedgerIdempotencyKey sha256 rawKey
  return {
    actorAccountId := actor
    operation := .postJournal
    contractVersion := ledgerIdempotencyContractVersion
    keyDigest
    fingerprintVersion := ledgerRequestFingerprintVersion
    requestFingerprint := digest sha256 requestFingerprintDomain (postFields actor journal) }

def createReverseLedgerIdempotencyContext (sha256 : List UInt8 → δ)
    (rawKey actorAccountId : Value) (reversal : ValidatedReverseLedgerJournal) :
    Except LedgerIdempotencyFailure (LedgerIdempotencyContext δ) := do
  let actor ← (parseLedgerActorAccountId actorAccountId).mapError .validation
  let keyDigest ← digestLedgerIdempotencyKey sha256 rawKey
  return {
    actorAccountId := actor
    operation := .reverseJournal
    contractVersion := ledgerIdempotencyContractVersion
    keyDigest
    fingerprintVersion := ledgerRequestFingerprintVersion
    requestFingerprint := digest sha256 requestFingerprintDomain (reverseFields actor reversal) }

/-- The requests that a fingerprint stands for. -/
inductive LedgerRequest where
  | post (actor : LedgerActorAccountId) (journal : ValidatedPostLedgerJournal)
  | reverse (actor : LedgerActorAccountId) (reversal : ValidatedReverseLedgerJournal)

def LedgerRequest.fingerprintFields : LedgerRequest → List String
  | .post actor journal => postFields actor journal
  | .reverse actor reversal => reverseFields actor reversal

/-- The bytes of which the fingerprint of a request is the hash. -/
def requestPreimage (r : LedgerRequest) : List UInt8 :=
  preimage requestFingerprintDomain r.fingerprintFields

def keyPreimage (key : String) : List UInt8 := preimage keyDigestDomain [key]

section Injectivity

theorem utf8_injective : Function.Injective utf8 := by
  intro s t h
  apply String.toByteArray_inj.mp
  apply ByteArray.ext
  exact Array.toList_inj.mp h

/-- A preimage is read back as its domain and its values. -/
theorem preimage_inj {d e : String} {us vs : List String} :
    preimage d us = preimage e vs ↔ d = e ∧ us = vs := by
  rw [preimage, preimage, updateField.frames_injective.eq_iff,
    (List.map_injective_iff.mpr utf8_injective).eq_iff, List.cons.injEq]

theorem uuid_text_injective : Function.Injective Uuid.text := by
  rintro ⟨s, _⟩ ⟨t, _⟩ h
  simpa using h

theorem atomicAmount_text_injective : Function.Injective AtomicAmount.text := by
  rintro ⟨s, _⟩ ⟨t, _⟩ h
  simpa using h

theorem ledgerTimestamp_text_injective : Function.Injective LedgerTimestamp.text := by
  rintro ⟨s, _⟩ ⟨t, _⟩ h
  simpa using h

theorem postingFields_injective : Function.Injective postingFields := by
  rintro ⟨a, r, s, m⟩ ⟨a', r', s', m'⟩ h
  simp only [postingFields, List.cons.injEq, and_true] at h
  obtain ⟨ha, hr, hs, hm⟩ := h
  rw [uuid_text_injective ha, uuid_text_injective hr, ledgerPostingSide_text_injective hs,
    atomicAmount_text_injective hm]

/-- Every posting has four fields, so a run of fields is cut into postings in one way only. -/
theorem flatMap_postingFields_injective :
    Function.Injective (fun ps : List LedgerPosting => ps.flatMap postingFields) := by
  intro ps
  induction ps with
  | nil =>
    intro qs h
    cases qs with
    | nil => rfl
    | cons q qs => simp [postingFields] at h
  | cons p ps ih =>
    intro qs h
    cases qs with
    | nil => simp [postingFields] at h
    | cons q qs =>
      simp only [List.flatMap_cons] at h
      obtain ⟨hp, hrest⟩ := List.append_inj h rfl
      rw [postingFields_injective hp, ih hrest]

theorem postFields_inj {a a' : LedgerActorAccountId} {j j' : ValidatedPostLedgerJournal}
    (h : postFields a j = postFields a' j') : a = a' ∧ j = j' := by
  obtain ⟨b, t, l, event, e, o, reason, ⟨ps, hps⟩, hvalid⟩ := j
  obtain ⟨b', t', l', event', e', o', reason', ⟨ps', hps'⟩, hvalid'⟩ := j'
  simp only [postFields, fingerprintHeader, List.cons_append, List.nil_append, List.cons.injEq,
    true_and] at h
  obtain ⟨ha, hb, ht, hl, hevent, he, ho, hreason, -, hpostings⟩ := h
  obtain rfl := uuid_text_injective ha
  obtain rfl := uuid_text_injective hb
  obtain rfl := uuid_text_injective ht
  obtain rfl := uuid_text_injective hl
  obtain rfl := economicEventType_text_injective hevent
  obtain rfl := ledgerTimestamp_text_injective he
  obtain rfl := ledgerTimestamp_text_injective ho
  obtain rfl := postLedgerReasonCode_text_injective hreason
  obtain rfl := flatMap_postingFields_injective hpostings
  exact ⟨rfl, rfl⟩

theorem reverseFields_inj {a a' : LedgerActorAccountId} {j j' : ValidatedReverseLedgerJournal}
    (h : reverseFields a j = reverseFields a' j') : a = a' ∧ j = j' := by
  obtain ⟨journal, reason, e, o⟩ := j
  obtain ⟨journal', reason', e', o'⟩ := j'
  simp only [reverseFields, fingerprintHeader, List.cons_append, List.nil_append, List.cons.injEq,
    true_and, and_true] at h
  obtain ⟨ha, hjournal, hreason, he, ho⟩ := h
  obtain rfl := uuid_text_injective ha
  obtain rfl := uuid_text_injective hjournal
  obtain rfl := reversalLedgerReasonCode_text_injective hreason
  obtain rfl := ledgerTimestamp_text_injective he
  obtain rfl := ledgerTimestamp_text_injective ho
  exact ⟨rfl, rfl⟩

/-- The operation in the header tells the two kinds of requests apart. -/
theorem postFields_ne_reverseFields (a a' : LedgerActorAccountId) (j : ValidatedPostLedgerJournal)
    (j' : ValidatedReverseLedgerJournal) : postFields a j ≠ reverseFields a' j' := by
  intro h
  simp only [postFields, reverseFields, fingerprintHeader, List.cons_append,
    List.cons.injEq] at h
  exact absurd h.2.2.1 (by decide)

theorem requestPreimage_injective : Function.Injective requestPreimage := by
  intro r s h
  have hfields := (preimage_inj.1 h).2
  cases r with
  | post a j =>
    cases s with
    | post a' j' =>
      obtain ⟨rfl, rfl⟩ := postFields_inj hfields
      rfl
    | reverse a' j' => exact absurd hfields (postFields_ne_reverseFields a a' j j')
  | reverse a j =>
    cases s with
    | post a' j' => exact absurd hfields.symm (postFields_ne_reverseFields a' a j' j)
    | reverse a' j' =>
      obtain ⟨rfl, rfl⟩ := reverseFields_inj hfields
      rfl

theorem requestPreimage_ne_keyPreimage (r : LedgerRequest) (key : String) :
    requestPreimage r ≠ keyPreimage key := by
  intro h
  exact absurd (preimage_inj.1 h).1 (by decide)

end Injectivity

/-- A created context holds its actor and the hashes of the preimages of its request and key. -/
def HashesOf (sha256 : List UInt8 → δ) (r : LedgerRequest) (rawKey actorAccountId : Value)
    (context : LedgerIdempotencyContext δ) : Prop :=
  actorAccountId = .string context.actorAccountId.text ∧
    context.requestFingerprint = sha256 (requestPreimage r) ∧
    ∃ key, rawKey = .string key ∧ context.keyDigest = sha256 (keyPreimage key)

/-- One to 128 bytes, all of them visible characters. -/
def IsIdempotencyKey (key : String) : Prop :=
  1 ≤ (utf8 key).length ∧ (utf8 key).length ≤ maxLedgerIdempotencyKeyBytes ∧
    key.toList ≠ [] ∧ key.toList.all isVisible = true

instance (key : String) : Decidable (IsIdempotencyKey key) := inferInstanceAs (Decidable (_ ∧ _))

theorem parseRawIdempotencyKey_ok {value : Value} {key : String} :
    parseRawIdempotencyKey value = .ok key ↔ value = .string key ∧ IsIdempotencyKey key := by
  simp only [parseRawIdempotencyKey, except_bind_ok, except_pure_ok, orFail_ok,
    Value.string?_eq_some, failWhen_ok]
  constructor
  · rintro ⟨key, rfl, _, hvalid, rfl⟩
    simp only [not_or, not_lt, Bool.not_eq_true', Bool.not_eq_false, List.isEmpty_iff] at hvalid
    exact ⟨rfl, hvalid⟩
  · rintro ⟨rfl, hvalid⟩
    refine ⟨key, rfl, (), ?_, rfl⟩
    simp only [not_or, not_lt, Bool.not_eq_true', Bool.not_eq_false, List.isEmpty_iff]
    exact hvalid

theorem digestLedgerIdempotencyKey_ok {sha256 : List UInt8 → δ} {value : Value} {d : δ} :
    digestLedgerIdempotencyKey sha256 value = .ok d ↔
      ∃ key, value = .string key ∧ IsIdempotencyKey key ∧ d = sha256 (keyPreimage key) := by
  simp only [digestLedgerIdempotencyKey, except_bind_ok, except_pure_ok, parseRawIdempotencyKey_ok,
    and_assoc, @eq_comm _ d]
  rfl

theorem createPost_ok {sha256 : List UInt8 → δ} {rawKey actorAccountId : Value}
    {journal : ValidatedPostLedgerJournal} {context : LedgerIdempotencyContext δ}
    (h : createPostLedgerIdempotencyContext sha256 rawKey actorAccountId journal = .ok context) :
    HashesOf sha256 (.post context.actorAccountId journal) rawKey actorAccountId context := by
  simp only [createPostLedgerIdempotencyContext, parseLedgerActorAccountId, except_bind_ok,
    except_pure_ok, mapError_ok, parseUuid_ok] at h
  obtain ⟨actor, hactor, keyDigest, hkey, rfl⟩ := h
  obtain ⟨key, hvalue, _, hdigest⟩ := digestLedgerIdempotencyKey_ok.mp hkey
  exact ⟨hactor, rfl, key, hvalue, hdigest⟩

theorem createReverse_ok {sha256 : List UInt8 → δ} {rawKey actorAccountId : Value}
    {reversal : ValidatedReverseLedgerJournal} {context : LedgerIdempotencyContext δ}
    (h : createReverseLedgerIdempotencyContext sha256 rawKey actorAccountId reversal =
      .ok context) :
    HashesOf sha256 (.reverse context.actorAccountId reversal) rawKey actorAccountId context := by
  simp only [createReverseLedgerIdempotencyContext, parseLedgerActorAccountId, except_bind_ok,
    except_pure_ok, mapError_ok, parseUuid_ok] at h
  obtain ⟨actor, hactor, keyDigest, hkey, rfl⟩ := h
  obtain ⟨key, hvalue, _, hdigest⟩ := digestLedgerIdempotencyKey_ok.mp hkey
  exact ⟨hactor, rfl, key, hvalue, hdigest⟩

/-- Both contexts are created for every account and every idempotency key, and for no other value. -/
theorem context_created_iff {sha256 : List UInt8 → δ} {rawKey actorAccountId : Value}
    (context : LedgerActorAccountId → δ → LedgerIdempotencyContext δ) :
    (∃ c, (do
        let actor ← (parseLedgerActorAccountId actorAccountId).mapError
          LedgerIdempotencyFailure.validation
        let keyDigest ← digestLedgerIdempotencyKey sha256 rawKey
        return context actor keyDigest) = .ok c) ↔
      (∃ actor : LedgerActorAccountId, actorAccountId = .string actor.text) ∧
        ∃ key, rawKey = .string key ∧ IsIdempotencyKey key := by
  simp only [parseLedgerActorAccountId, except_bind_ok, except_pure_ok, mapError_ok, parseUuid_ok,
    digestLedgerIdempotencyKey_ok]
  constructor
  · rintro ⟨_, actor, hactor, _, ⟨key, hvalue, hkey, rfl⟩, rfl⟩
    exact ⟨⟨actor, hactor⟩, key, hvalue, hkey⟩
  · rintro ⟨⟨actor, hactor⟩, key, hvalue, hkey⟩
    exact ⟨_, actor, hactor, _, ⟨key, hvalue, hkey, rfl⟩, rfl⟩

theorem createPost_iff {sha256 : List UInt8 → δ} {rawKey actorAccountId : Value}
    {journal : ValidatedPostLedgerJournal} :
    (∃ c, createPostLedgerIdempotencyContext sha256 rawKey actorAccountId journal = .ok c) ↔
      (∃ actor : LedgerActorAccountId, actorAccountId = .string actor.text) ∧
        ∃ key, rawKey = .string key ∧ IsIdempotencyKey key := context_created_iff _

theorem createReverse_iff {sha256 : List UInt8 → δ} {rawKey actorAccountId : Value}
    {reversal : ValidatedReverseLedgerJournal} :
    (∃ c, createReverseLedgerIdempotencyContext sha256 rawKey actorAccountId reversal = .ok c) ↔
      (∃ actor : LedgerActorAccountId, actorAccountId = .string actor.text) ∧
        ∃ key, rawKey = .string key ∧ IsIdempotencyKey key := context_created_iff _

/-- Contexts hash preimages that determine the request, and that no key shares with a request. -/
theorem ledgerRequestFingerprint_injective :
    (∀ r s : LedgerRequest, requestPreimage r = requestPreimage s ↔ r = s) ∧
      (∀ (r : LedgerRequest) (key : String), requestPreimage r ≠ keyPreimage key) ∧
      (∀ (δ : Type) (sha256 : List UInt8 → δ) (rawKey actorAccountId : Value)
        (journal : ValidatedPostLedgerJournal) (context : LedgerIdempotencyContext δ),
        createPostLedgerIdempotencyContext sha256 rawKey actorAccountId journal = .ok context →
        HashesOf sha256 (.post context.actorAccountId journal) rawKey actorAccountId context) ∧
      ∀ (δ : Type) (sha256 : List UInt8 → δ) (rawKey actorAccountId : Value)
        (reversal : ValidatedReverseLedgerJournal) (context : LedgerIdempotencyContext δ),
        createReverseLedgerIdempotencyContext sha256 rawKey actorAccountId reversal = .ok context →
        HashesOf sha256 (.reverse context.actorAccountId reversal) rawKey actorAccountId context :=
  ⟨fun _ _ => requestPreimage_injective.eq_iff, requestPreimage_ne_keyPreimage,
    fun _ _ _ _ _ _ => createPost_ok, fun _ _ _ _ _ _ => createReverse_ok⟩

theorem sampleActor_isUuid :
    Identifier.isUuidV4 "22222222-2222-4222-8222-222222222222".toList = true := by
  decide

def sampleActor : LedgerActorAccountId := ⟨_, sampleActor_isUuid⟩

def sampleReversal : ValidatedReverseLedgerJournal where
  originalJournalId := sampleActor
  reason := .sourceEvidenceCorrected
  effectiveAt := .ofInstant ⟨0, by decide⟩
  observedAt := .ofInstant ⟨0, by decide⟩

/-- A context is created for the sample reversal, and holds the hash of its preimage. -/
theorem sampleContext_hashes : ∃ context,
    createReverseLedgerIdempotencyContext id (.string "key-1") (.string sampleActor.text)
        sampleReversal = .ok context ∧
      HashesOf id (.reverse context.actorAccountId sampleReversal) (.string "key-1")
        (.string sampleActor.text) context := by
  obtain ⟨context, hcontext⟩ := (@createReverse_iff _ id (.string "key-1")
    (.string sampleActor.text) sampleReversal).mpr
    ⟨⟨sampleActor, rfl⟩, "key-1", rfl, by decide +kernel⟩
  exact ⟨context, hcontext,
    ledgerRequestFingerprint_injective.2.2.2 _ _ _ _ _ _ hcontext⟩

end CryptoLending.Ledger.Idempotency
