import CryptoLending.Lib.JsReading
import CryptoLending.Lib.IsoText
import CryptoLending.Lib.JsValue
import CryptoLending.Lib.Transaction

namespace CryptoLending.Ledger.LedgerJournal

open Lib Lib.JsValue Lib.Text Lib.Identifier Lib.IsoText

def maxLedgerPostings : Nat := 64

def maxAtomicAmount : String :=
  "115792089237316195423570985008687907853269984665640564039457584007913129639935"

inductive EconomicEventType where
  | settlement
  | actualFee
  | adjustment
  | compensation
  deriving DecidableEq

inductive PostLedgerReasonCode where
  | chainFinalityConfirmed
  | providerSettlementVerified
  | actualFeeConfirmed
  | accountingAdjustmentApproved
  | compensationSettled
  deriving DecidableEq

inductive ReversalLedgerReasonCode where
  | recognitionInvalidated
  | chainReorganizationConfirmed
  | sourceEvidenceCorrected
  deriving DecidableEq

inductive LedgerPostingSide where
  | debit
  | credit
  deriving DecidableEq

inductive LedgerValidationCode where
  | invalidLedgerId
  | invalidAtomicAmount
  | invalidEconomicEventType
  | invalidReason
  | invalidLedgerTimestamp
  | invalidLedgerPosting
  | invalidLedgerJournal
  | unbalancedLedgerJournal
  deriving DecidableEq

def EconomicEventType.text : EconomicEventType → String
  | .settlement => "SETTLEMENT"
  | .actualFee => "ACTUAL_FEE"
  | .adjustment => "ADJUSTMENT"
  | .compensation => "COMPENSATION"

def PostLedgerReasonCode.text : PostLedgerReasonCode → String
  | .chainFinalityConfirmed => "CHAIN_FINALITY_CONFIRMED"
  | .providerSettlementVerified => "PROVIDER_SETTLEMENT_VERIFIED"
  | .actualFeeConfirmed => "ACTUAL_FEE_CONFIRMED"
  | .accountingAdjustmentApproved => "ACCOUNTING_ADJUSTMENT_APPROVED"
  | .compensationSettled => "COMPENSATION_SETTLED"

def ReversalLedgerReasonCode.text : ReversalLedgerReasonCode → String
  | .recognitionInvalidated => "RECOGNITION_INVALIDATED"
  | .chainReorganizationConfirmed => "CHAIN_REORGANIZATION_CONFIRMED"
  | .sourceEvidenceCorrected => "SOURCE_EVIDENCE_CORRECTED"

def LedgerPostingSide.text : LedgerPostingSide → String
  | .debit => "DEBIT"
  | .credit => "CREDIT"

def postableEconomicEventTypes : List EconomicEventType :=
  [.settlement, .actualFee, .adjustment, .compensation]

def postLedgerReasonCodes : List PostLedgerReasonCode :=
  [.chainFinalityConfirmed, .providerSettlementVerified, .actualFeeConfirmed,
    .accountingAdjustmentApproved, .compensationSettled]

def reversalLedgerReasonCodes : List ReversalLedgerReasonCode :=
  [.recognitionInvalidated, .chainReorganizationConfirmed, .sourceEvidenceCorrected]

/-- A version 4 identifier in lower case. -/
structure Uuid where
  text : String
  isUuid : isUuidV4 text.toList = true
  deriving DecidableEq

abbrev LedgerBookId := Uuid
abbrev LedgerAssetRevisionId := Uuid
abbrev LedgerAccountId := Uuid
abbrev LedgerTransactionId := Uuid
abbrev LedgerLegId := Uuid
abbrev LedgerJournalId := Uuid
abbrev LedgerCorrelationId := Uuid
abbrev LedgerActorAccountId := Uuid

/-- At most 78 digits without a leading zero, and no text after the greatest amount. -/
def isAtomicAmount (text : String) : Bool :=
  isPositiveUint text.toList && decide (text.length ≤ 78) &&
    !(decide (maxAtomicAmount.length < text.length) ||
      (text.length == maxAtomicAmount.length && decide (maxAtomicAmount < text)))

structure AtomicAmount where
  text : String
  isAtomic : isAtomicAmount text = true
  deriving DecidableEq

def AtomicAmount.value (a : AtomicAmount) : Nat := decimalValue a.text.toList

/-- The text of an instant. -/
structure LedgerTimestamp where
  text : String
  isText : ∃ instant : TimeValue, instant.toISOString = text
  deriving DecidableEq

def LedgerTimestamp.ofInstant (instant : TimeValue) : LedgerTimestamp :=
  ⟨instant.toISOString, instant, rfl⟩

structure LedgerPosting where
  accountId : LedgerAccountId
  assetRevisionId : LedgerAssetRevisionId
  side : LedgerPostingSide
  amountAtomic : AtomicAmount
  deriving DecidableEq

/-- The debits and the credits of one asset. -/
structure AssetBalance where
  debit : Nat
  credit : Nat
  deriving DecidableEq

def AssetBalance.add (b : AssetBalance) (p : LedgerPosting) : AssetBalance :=
  match p.side with
  | .debit => { b with debit := b.debit + p.amountAtomic.value }
  | .credit => { b with credit := b.credit + p.amountAtomic.value }

def accountIds (postings : List LedgerPosting) : List LedgerAccountId :=
  (postings.map LedgerPosting.accountId).dedup

def balances (postings : List LedgerPosting) : JsMap LedgerAssetRevisionId AssetBalance :=
  JsMap.accumulate LedgerPosting.assetRevisionId AssetBalance.add ⟨0, 0⟩ postings

def isUnbalanced (postings : List LedgerPosting) : Bool :=
  decide ((accountIds postings).length < 2) ||
    (balances postings).values.any (fun b => b.debit == 0 || b.debit != b.credit)

/-- Postings between several accounts whose debits and credits agree in every asset. -/
structure BalancedPostings where
  postings : List LedgerPosting
  balanced : isUnbalanced postings = false
  deriving DecidableEq

def validReasonForEvent : EconomicEventType → PostLedgerReasonCode → Bool
  | .settlement, .chainFinalityConfirmed => true
  | .settlement, .providerSettlementVerified => true
  | .actualFee, .actualFeeConfirmed => true
  | .adjustment, .accountingAdjustmentApproved => true
  | .compensation, .compensationSettled => true
  | _, _ => false

structure ValidatedPostLedgerJournal where
  bookId : LedgerBookId
  transactionId : LedgerTransactionId
  legId : LedgerLegId
  economicEventType : EconomicEventType
  effectiveAt : LedgerTimestamp
  observedAt : LedgerTimestamp
  reason : PostLedgerReasonCode
  postings : BalancedPostings
  validReason : validReasonForEvent economicEventType reason = true
  deriving DecidableEq

structure ValidatedReverseLedgerJournal where
  originalJournalId : LedgerJournalId
  reason : ReversalLedgerReasonCode
  effectiveAt : LedgerTimestamp
  observedAt : LedgerTimestamp
  deriving DecidableEq

def postingKeys : List String := ["accountId", "assetRevisionId", "side", "amountAtomic"]

def postLedgerJournalKeys : List String :=
  ["bookId", "transactionId", "legId", "economicEventType", "effectiveAt", "observedAt", "reason",
    "postings"]

def reverseLedgerJournalKeys : List String :=
  ["originalJournalId", "reason", "effectiveAt", "observedAt"]

section Readers

variable {α : Type}

def ownDataRecord (value : Value) (expectedKeys : List String) (code : LedgerValidationCode) :
    Except LedgerValidationCode Record := orFail (exactRecord value expectedKeys) code

def ownDataArray (value : Value) : Except LedgerValidationCode (List Value) :=
  orFail (exactArray value 2 maxLedgerPostings) .invalidLedgerJournal

/-- One of the listed words. -/
def parseWord (words : List α) (text : α → String) (code : LedgerValidationCode) (value : Value) :
    Except LedgerValidationCode α := orFail (words.find? (fun w => value.isText (text w))) code

def parseUuid (value : Value) : Except LedgerValidationCode Uuid :=
  match value.string? with
  | some text =>
    if h : isUuidV4 text.toList = true then .ok ⟨text, h⟩ else .error .invalidLedgerId
  | none => .error .invalidLedgerId

def parseLedgerBookId (value : Value) : Except LedgerValidationCode LedgerBookId := parseUuid value

def parseLedgerAssetRevisionId (value : Value) :
    Except LedgerValidationCode LedgerAssetRevisionId := parseUuid value

def parseLedgerAccountId (value : Value) : Except LedgerValidationCode LedgerAccountId :=
  parseUuid value

def parseLedgerTransactionId (value : Value) : Except LedgerValidationCode LedgerTransactionId :=
  parseUuid value

def parseLedgerLegId (value : Value) : Except LedgerValidationCode LedgerLegId := parseUuid value

def parseLedgerJournalId (value : Value) : Except LedgerValidationCode LedgerJournalId :=
  parseUuid value

def parseLedgerActorAccountId (value : Value) : Except LedgerValidationCode LedgerActorAccountId :=
  parseUuid value

def parseAtomicAmount (value : Value) : Except LedgerValidationCode AtomicAmount :=
  match value.string? with
  | some text =>
    if h : isAtomicAmount text = true then .ok ⟨text, h⟩ else .error .invalidAtomicAmount
  | none => .error .invalidAtomicAmount

def parseEconomicEventType : Value → Except LedgerValidationCode EconomicEventType :=
  parseWord postableEconomicEventTypes EconomicEventType.text .invalidEconomicEventType

def parsePostLedgerReason : Value → Except LedgerValidationCode PostLedgerReasonCode :=
  parseWord postLedgerReasonCodes PostLedgerReasonCode.text .invalidReason

def parseReversalLedgerReason : Value → Except LedgerValidationCode ReversalLedgerReasonCode :=
  parseWord reversalLedgerReasonCodes ReversalLedgerReasonCode.text .invalidReason

def parseLedgerPostingSide : Value → Except LedgerValidationCode LedgerPostingSide :=
  parseWord [.debit, .credit] LedgerPostingSide.text .invalidLedgerPosting

def parseLedgerTimestamp (value : Value) : Except LedgerValidationCode LedgerTimestamp :=
  orFail ((value.milliseconds?.bind TimeValue.ofMilliseconds).map LedgerTimestamp.ofInstant)
    .invalidLedgerTimestamp

end Readers

section ReaderLemmas

variable {value : Value}

theorem parseUuid_ok {u : Uuid} : parseUuid value = .ok u ↔ value = .string u.text := by
  constructor
  · intro h
    cases hs : value.string? with
    | none => simp [parseUuid, hs] at h
    | some text =>
      by_cases hu : isUuidV4 text.toList = true
      · simp only [parseUuid, hs, hu, dif_pos, Except.ok.injEq] at h
        rw [← h]
        exact Value.string?_eq_some.mp hs
      · simp [parseUuid, hs, hu] at h
  · rintro rfl
    simp [parseUuid, Value.string?, u.isUuid]

theorem parseAtomicAmount_ok {a : AtomicAmount} :
    parseAtomicAmount value = .ok a ↔ value = .string a.text := by
  constructor
  · intro h
    cases hs : value.string? with
    | none => simp [parseAtomicAmount, hs] at h
    | some text =>
      by_cases ha : isAtomicAmount text = true
      · simp only [parseAtomicAmount, hs, ha, dif_pos, Except.ok.injEq] at h
        rw [← h]
        exact Value.string?_eq_some.mp hs
      · simp [parseAtomicAmount, hs, ha] at h
  · rintro rfl
    simp [parseAtomicAmount, Value.string?, a.isAtomic]

theorem parseWord_ok {α : Type} {words : List α} {text : α → String} {code : LedgerValidationCode}
    (hwords : ∀ w, w ∈ words) (htext : Function.Injective text) {w : α} :
    parseWord words text code value = .ok w ↔ value = .string (text w) := by
  rw [parseWord, orFail_ok]
  constructor
  · intro h
    have hfound := List.find?_some (p := fun u => value.isText (text u)) h
    exact Value.isText_iff.mp hfound
  · rintro rfl
    have hfound : (words.find? (fun u => (Value.string (text w)).isText (text u))).isSome := by
      rw [List.find?_isSome]
      exact ⟨w, hwords w, Value.isText_iff.mpr rfl⟩
    obtain ⟨u, hu⟩ := Option.isSome_iff_exists.mp hfound
    have htu := List.find?_some (p := fun u => (Value.string (text w)).isText (text u)) hu
    rw [hu, htext (Value.string.inj (Value.isText_iff.mp htu))]

theorem economicEventType_text_injective : Function.Injective EconomicEventType.text := by
  intro x y h
  cases x <;> cases y <;> first | rfl | exact absurd h (by decide)

theorem postLedgerReasonCode_text_injective : Function.Injective PostLedgerReasonCode.text := by
  intro x y h
  cases x <;> cases y <;> first | rfl | exact absurd h (by decide)

theorem reversalLedgerReasonCode_text_injective :
    Function.Injective ReversalLedgerReasonCode.text := by
  intro x y h
  cases x <;> cases y <;> first | rfl | exact absurd h (by decide)

theorem ledgerPostingSide_text_injective : Function.Injective LedgerPostingSide.text := by
  intro x y h
  cases x <;> cases y <;> first | rfl | exact absurd h (by decide)

theorem parseEconomicEventType_ok {e : EconomicEventType} :
    parseEconomicEventType value = .ok e ↔ value = .string e.text :=
  parseWord_ok (by intro w; cases w <;> decide) economicEventType_text_injective

theorem parsePostLedgerReason_ok {r : PostLedgerReasonCode} :
    parsePostLedgerReason value = .ok r ↔ value = .string r.text :=
  parseWord_ok (by intro w; cases w <;> decide) postLedgerReasonCode_text_injective

theorem parseReversalLedgerReason_ok {r : ReversalLedgerReasonCode} :
    parseReversalLedgerReason value = .ok r ↔ value = .string r.text :=
  parseWord_ok (by intro w; cases w <;> decide) reversalLedgerReasonCode_text_injective

theorem parseLedgerPostingSide_ok {side : LedgerPostingSide} :
    parseLedgerPostingSide value = .ok side ↔ value = .string side.text :=
  parseWord_ok (by intro w; cases w <;> decide) ledgerPostingSide_text_injective

theorem parseLedgerTimestamp_ok {t : LedgerTimestamp} : parseLedgerTimestamp value = .ok t ↔
    ∃ instant : TimeValue, value = .date (some instant.milliseconds) ∧
      t = LedgerTimestamp.ofInstant instant := by
  rw [parseLedgerTimestamp, orFail_ok, Option.map_eq_some_iff]
  constructor
  · rintro ⟨instant, h, rfl⟩
    obtain ⟨milliseconds, hv, hm⟩ := Option.bind_eq_some_iff.mp h
    refine ⟨instant, ?_, rfl⟩
    rw [TimeValue.ofMilliseconds_eq_some.mp hm]
    exact Value.milliseconds?_eq_some.mp hv
  · rintro ⟨instant, rfl, rfl⟩
    exact ⟨instant, TimeValue.ofMilliseconds_eq_some.mpr rfl, rfl⟩

end ReaderLemmas

def parsePosting (value : Value) : Except LedgerValidationCode LedgerPosting := do
  let record ← ownDataRecord value postingKeys .invalidLedgerPosting
  let side ← parseLedgerPostingSide (record.get "side")
  let accountId ← parseLedgerAccountId (record.get "accountId")
  let assetRevisionId ← parseLedgerAssetRevisionId (record.get "assetRevisionId")
  let amountAtomic ← parseAtomicAmount (record.get "amountAtomic")
  return { accountId, assetRevisionId, side, amountAtomic }

def parseAndBalancePostings (value : Value) : Except LedgerValidationCode BalancedPostings := do
  let values ← ownDataArray value
  let postings ← values.mapM parsePosting
  if h : isUnbalanced postings = false then return ⟨postings, h⟩
  else .error .unbalancedLedgerJournal

def normalizePostLedgerJournalInput (value : Value) :
    Except LedgerValidationCode ValidatedPostLedgerJournal := do
  let record ← ownDataRecord value postLedgerJournalKeys .invalidLedgerJournal
  let effectiveAt ← parseLedgerTimestamp (record.get "effectiveAt")
  let observedAt ← parseLedgerTimestamp (record.get "observedAt")
  -- The texts are compared, not the instants.
  failWhen (observedAt.text < effectiveAt.text) .invalidLedgerTimestamp
  let economicEventType ← parseEconomicEventType (record.get "economicEventType")
  let reason ← parsePostLedgerReason (record.get "reason")
  if validReason : validReasonForEvent economicEventType reason = true then
    let bookId ← parseLedgerBookId (record.get "bookId")
    let transactionId ← parseLedgerTransactionId (record.get "transactionId")
    let legId ← parseLedgerLegId (record.get "legId")
    let postings ← parseAndBalancePostings (record.get "postings")
    return { bookId, transactionId, legId, economicEventType, effectiveAt, observedAt, reason,
             postings, validReason }
  else .error .invalidReason

def normalizeReverseLedgerJournalInput (value : Value) :
    Except LedgerValidationCode ValidatedReverseLedgerJournal := do
  let record ← ownDataRecord value reverseLedgerJournalKeys .invalidLedgerJournal
  let effectiveAt ← parseLedgerTimestamp (record.get "effectiveAt")
  let observedAt ← parseLedgerTimestamp (record.get "observedAt")
  failWhen (observedAt.text < effectiveAt.text) .invalidLedgerTimestamp
  let originalJournalId ← parseLedgerJournalId (record.get "originalJournalId")
  let reason ← parseReversalLedgerReason (record.get "reason")
  return { originalJournalId, reason, effectiveAt, observedAt }

end CryptoLending.Ledger.LedgerJournal
