import CryptoLending.Ledger.LedgerJournal

namespace CryptoLending.Ledger.LedgerInput

open Lib Lib.JsValue Lib.Text Lib.IsoText LedgerJournal

/-- A posting as it is requested. The amount is any text. -/
structure PostingInput where
  accountId : LedgerAccountId
  assetRevisionId : LedgerAssetRevisionId
  side : LedgerPostingSide
  amountAtomic : String

structure PostLedgerJournalInput where
  bookId : LedgerBookId
  transactionId : LedgerTransactionId
  legId : LedgerLegId
  economicEventType : EconomicEventType
  effectiveAt : TimeValue
  observedAt : TimeValue
  reason : PostLedgerReasonCode
  postings : List PostingInput

structure ReverseLedgerJournalInput where
  originalJournalId : LedgerJournalId
  reason : ReversalLedgerReasonCode
  effectiveAt : TimeValue
  observedAt : TimeValue

def dateValue (instant : TimeValue) : Value := .date (some instant.milliseconds)

/-- The input that a posting was read from. -/
def PostingInput.ofPosting (p : LedgerPosting) : PostingInput where
  accountId := p.accountId
  assetRevisionId := p.assetRevisionId
  side := p.side
  amountAtomic := p.amountAtomic.text

def PostingInput.fields (p : PostingInput) : List (String × Value) :=
  [("accountId", .string p.accountId.text), ("assetRevisionId", .string p.assetRevisionId.text),
    ("side", .string p.side.text), ("amountAtomic", .string p.amountAtomic)]

def PostingInput.toValue (p : PostingInput) : Value := ofFields p.fields

/-- The fields of a journal, with its postings as a value. -/
def PostLedgerJournalInput.fields (i : PostLedgerJournalInput) (postings : Value) :
    List (String × Value) :=
  [("bookId", .string i.bookId.text), ("transactionId", .string i.transactionId.text),
    ("legId", .string i.legId.text), ("economicEventType", .string i.economicEventType.text),
    ("effectiveAt", dateValue i.effectiveAt), ("observedAt", dateValue i.observedAt),
    ("reason", .string i.reason.text), ("postings", postings)]

def PostLedgerJournalInput.toValue (i : PostLedgerJournalInput) : Value :=
  ofFields (i.fields (ofItems (i.postings.map PostingInput.toValue)))

def ReverseLedgerJournalInput.fields (i : ReverseLedgerJournalInput) : List (String × Value) :=
  [("originalJournalId", .string i.originalJournalId.text), ("reason", .string i.reason.text),
    ("effectiveAt", dateValue i.effectiveAt), ("observedAt", dateValue i.observedAt)]

def ReverseLedgerJournalInput.toValue (i : ReverseLedgerJournalInput) : Value := ofFields i.fields

/-- A plain object that holds exactly the fields of a posting. -/
def PostingInput.ReadFrom (p : PostingInput) (value : Value) : Prop :=
  exactRecord value postingKeys = some p.fields

/-- A plain object that holds exactly the fields of a journal, with a plain array of postings. -/
def PostLedgerJournalInput.ReadFrom (i : PostLedgerJournalInput) (value : Value) : Prop :=
  ∃ items, exactRecord value postLedgerJournalKeys = some (i.fields (ofItems items)) ∧
    List.Forall₂ (fun item p => PostingInput.ReadFrom p item) items i.postings

def ReverseLedgerJournalInput.ReadFrom (i : ReverseLedgerJournalInput) (value : Value) : Prop :=
  exactRecord value reverseLedgerJournalKeys = some i.fields

theorem PostingInput.toValue_readFrom (p : PostingInput) : p.ReadFrom p.toValue :=
  @exactRecord_ofFields p.fields (by simp [PostingInput.fields])

theorem PostLedgerJournalInput.toValue_readFrom (i : PostLedgerJournalInput) :
    i.ReadFrom i.toValue := by
  refine ⟨i.postings.map PostingInput.toValue, ?_, ?_⟩
  · exact @exactRecord_ofFields (i.fields _) (by simp [PostLedgerJournalInput.fields])
  · rw [List.forall₂_map_left_iff, List.forall₂_same]
    exact fun p _ => p.toValue_readFrom

theorem ReverseLedgerJournalInput.toValue_readFrom (i : ReverseLedgerJournalInput) :
    i.ReadFrom i.toValue :=
  @exactRecord_ofFields i.fields (by simp [ReverseLedgerJournalInput.fields])

/-- A value is read as one posting only. -/
theorem PostingInput.readFrom_rightUnique :
    Relator.RightUnique (fun value p => PostingInput.ReadFrom p value) := by
  intro value p q hp hq
  obtain ⟨⟨a, ha⟩, ⟨r, hr⟩, s, t⟩ := p
  obtain ⟨⟨a', ha'⟩, ⟨r', hr'⟩, s', t'⟩ := q
  have h := Option.some.inj (hp.symm.trans hq)
  simp only [fields, List.cons.injEq, Prod.mk.injEq, Value.string.injEq, true_and, and_true] at h
  obtain ⟨rfl, rfl, hs, rfl⟩ := h
  rw [ledgerPostingSide_text_injective hs]

theorem parsePosting_ok {value : Value} {p : LedgerPosting} :
    parsePosting value = .ok p ↔ (PostingInput.ofPosting p).ReadFrom value := by
  simp only [parsePosting, ownDataRecord, except_bind_ok, except_pure_ok, orFail_ok,
    parseLedgerPostingSide_ok, parseLedgerAccountId, parseLedgerAssetRevisionId, parseUuid_ok,
    parseAtomicAmount_ok]
  constructor
  · rintro ⟨record, hrecord, side, hside, account, haccount, asset, hasset, amount, hamount, rfl⟩
    have hr := record_eq_map (by decide) (keys_of_exactRecord hrecord)
    simp only [postingKeys, List.map_cons, List.map_nil, hside, haccount, hasset, hamount] at hr
    rw [PostingInput.ReadFrom, hrecord, hr]
    rfl
  · intro h
    exact ⟨_, h, _, rfl, _, rfl, _, rfl, _, rfl, rfl⟩

/-- What an accepted journal is: its fields as they were read, in an order of texts that passes. -/
structure PostLedgerJournalInput.Yields (i : PostLedgerJournalInput)
    (j : ValidatedPostLedgerJournal) : Prop where
  bookId : j.bookId = i.bookId
  transactionId : j.transactionId = i.transactionId
  legId : j.legId = i.legId
  economicEventType : j.economicEventType = i.economicEventType
  effectiveAt : j.effectiveAt = .ofInstant i.effectiveAt
  observedAt : j.observedAt = .ofInstant i.observedAt
  reason : j.reason = i.reason
  postings : i.postings = j.postings.postings.map PostingInput.ofPosting
  length : 2 ≤ i.postings.length ∧ i.postings.length ≤ maxLedgerPostings
  inOrder : ¬j.observedAt.text < j.effectiveAt.text

theorem parseAndBalancePostings_ok {value : Value} {b : BalancedPostings} :
    parseAndBalancePostings value = .ok b ↔ ∃ items, value = ofItems items ∧
      (2 ≤ items.length ∧ items.length ≤ maxLedgerPostings) ∧
      List.Forall₂ (fun item p => (PostingInput.ofPosting p).ReadFrom item) items b.postings := by
  simp only [parseAndBalancePostings, ownDataArray, except_bind_ok, orFail_ok, except_mapM_ok,
    parsePosting_ok]
  constructor
  · rintro ⟨items, hitems, postings, hpostings, h⟩
    by_cases hb : isUnbalanced postings = false
    · rw [dif_pos hb, except_pure_ok] at h
      subst h
      obtain ⟨rfl, hlength⟩ := exactArray_eq_some.mp hitems
      exact ⟨items, rfl, hlength, hpostings⟩
    · rw [dif_neg hb] at h
      cases h
  · rintro ⟨items, rfl, hlength, hpostings⟩
    refine ⟨items, exactArray_ofItems hlength, b.postings, hpostings, ?_⟩
    rw [dif_pos b.balanced]
    rfl

/-- A value is read as one journal only. -/
theorem PostLedgerJournalInput.readFrom_unique {i k : PostLedgerJournalInput} {value : Value}
    (hi : i.ReadFrom value) (hk : k.ReadFrom value) : i = k := by
  obtain ⟨items, hitems, hpostings⟩ := hi
  obtain ⟨items', hitems', hpostings'⟩ := hk
  obtain ⟨⟨b, hb⟩, ⟨t, ht⟩, ⟨l, hl⟩, event, e, o, reason, ps⟩ := i
  obtain ⟨⟨b', hb'⟩, ⟨t', ht'⟩, ⟨l', hl'⟩, event', e', o', reason', ps'⟩ := k
  have h := Option.some.inj (hitems.symm.trans hitems')
  simp only [fields, dateValue, List.cons.injEq, Prod.mk.injEq, Value.string.injEq,
    Value.date.injEq, Option.some.injEq, true_and, and_true] at h
  obtain ⟨rfl, rfl, rfl, hevent, he, ho, hreason, hp⟩ := h
  obtain rfl := ofItems_injective hp
  obtain rfl := economicEventType_text_injective hevent
  obtain rfl := postLedgerReasonCode_text_injective hreason
  obtain rfl := TimeValue.ext_milliseconds he
  obtain rfl := TimeValue.ext_milliseconds ho
  have hunique := List.right_unique_forall₂' PostingInput.readFrom_rightUnique hpostings hpostings'
  simpa using hunique

theorem normalizePostLedgerJournalInput_ok {value : Value} {j : ValidatedPostLedgerJournal} :
    normalizePostLedgerJournalInput value = .ok j ↔
      ∃ i : PostLedgerJournalInput, i.ReadFrom value ∧ i.Yields j := by
  simp only [normalizePostLedgerJournalInput, ownDataRecord, except_bind_ok, orFail_ok,
    failWhen_ok, parseLedgerTimestamp_ok, parseEconomicEventType_ok, parsePostLedgerReason_ok]
  constructor
  · rintro ⟨record, hrecord, _, ⟨e, he, rfl⟩, _, ⟨o, ho, rfl⟩, _, horder, event, hevent, reason,
      hreason, h⟩
    by_cases hvalid : validReasonForEvent event reason = true
    · simp only [dif_pos hvalid, except_bind_ok, except_pure_ok, parseLedgerBookId,
        parseLedgerTransactionId, parseLedgerLegId, parseUuid_ok, parseAndBalancePostings_ok] at h
      obtain ⟨bookId, hbook, transactionId, htransaction, legId, hleg, postings,
        ⟨items, hitems, hlength, hpostings⟩, rfl⟩ := h
      have hr := record_eq_map (by decide) (keys_of_exactRecord hrecord)
      simp only [postLedgerJournalKeys, List.map_cons, List.map_nil, he, ho, hevent, hreason, hbook,
        htransaction, hleg, hitems] at hr
      refine ⟨⟨bookId, transactionId, legId, event, e, o, reason,
        postings.postings.map PostingInput.ofPosting⟩, ⟨items, hrecord.trans (congrArg some hr),
          List.forall₂_map_right_iff.mpr hpostings⟩, rfl, rfl, rfl, rfl, rfl, rfl, rfl, rfl, ?_,
          horder⟩
      rw [List.length_map, ← hpostings.length_eq]
      exact hlength
    · rw [dif_neg hvalid] at h
      cases h
  · rintro ⟨i, ⟨items, hitems, hpostings⟩, hi⟩
    obtain ⟨_, _, _, event, _, _, reason, postings, hvalid⟩ := j
    obtain ⟨rfl, rfl, rfl, rfl, rfl, rfl, rfl, hp, hlength, horder⟩ := hi
    refine ⟨_, hitems, _, ⟨_, rfl, rfl⟩, _, ⟨_, rfl, rfl⟩, ⟨⟩, horder, _, rfl, _, rfl, ?_⟩
    simp only [dif_pos hvalid, except_bind_ok, except_pure_ok, parseLedgerBookId,
      parseLedgerTransactionId, parseLedgerLegId, parseUuid_ok, parseAndBalancePostings_ok]
    rw [hp, List.forall₂_map_right_iff] at hpostings
    rw [hp, List.length_map, ← hpostings.length_eq] at hlength
    exact ⟨_, rfl, _, rfl, _, rfl, _, ⟨items, rfl, hlength, hpostings⟩, rfl⟩

theorem normalizeReverseLedgerJournalInput_ok {value : Value} {j : ValidatedReverseLedgerJournal} :
    normalizeReverseLedgerJournalInput value = .ok j ↔
      ∃ i : ReverseLedgerJournalInput, i.ReadFrom value ∧
        j = ⟨i.originalJournalId, i.reason, .ofInstant i.effectiveAt, .ofInstant i.observedAt⟩ ∧
        ¬j.observedAt.text < j.effectiveAt.text := by
  simp only [normalizeReverseLedgerJournalInput, ownDataRecord, except_bind_ok, except_pure_ok,
    orFail_ok, failWhen_ok, parseLedgerTimestamp_ok, parseReversalLedgerReason_ok,
    parseLedgerJournalId, parseUuid_ok]
  constructor
  · rintro ⟨record, hrecord, _, ⟨e, he, rfl⟩, _, ⟨o, ho, rfl⟩, _, horder, journalId, hjournal,
      reason, hreason, rfl⟩
    have hr := record_eq_map (by decide) (keys_of_exactRecord hrecord)
    simp only [reverseLedgerJournalKeys, List.map_cons, List.map_nil, he, ho, hreason, hjournal]
      at hr
    exact ⟨⟨journalId, reason, e, o⟩, hrecord.trans (congrArg some hr), rfl, horder⟩
  · rintro ⟨i, hi, rfl, horder⟩
    exact ⟨_, hi, _, ⟨_, rfl, rfl⟩, _, ⟨_, rfl, rfl⟩, ⟨⟩, horder, _, rfl, _, rfl, rfl⟩

end CryptoLending.Ledger.LedgerInput
