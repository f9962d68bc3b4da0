import CryptoLending.Ledger.DoubleEntry

namespace CryptoLending.Ledger.LedgerTimestamps

open Lib Lib.JsValue Lib.Identifier Lib.IsoText LedgerJournal LedgerInput DoubleEntry

variable {α : Type}

/-- A plain object with exactly the keys of a request and the given dates. -/
def HasDates (keys : List String) (effectiveAt observedAt : TimeValue) (value : Value) : Prop :=
  ∃ record, exactRecord value keys = some record ∧
    record.get "effectiveAt" = dateValue effectiveAt ∧
    record.get "observedAt" = dateValue observedAt

/-- Nothing observed before it is effective is accepted, and nothing is rejected for its
timestamps when it is not observed before it is effective. -/
def KeepsTime (normalize : Value → Except LedgerValidationCode α)
    (effectiveAt observedAt : TimeValue) (value : Value) : Prop :=
  ((∃ j, normalize value = .ok j) → effectiveAt.milliseconds ≤ observedAt.milliseconds) ∧
    (effectiveAt.milliseconds ≤ observedAt.milliseconds →
      normalize value ≠ .error .invalidLedgerTimestamp)

/-- A normalizer that compares the texts of the dates before it reads anything else, and that
accepts some input for every pair of dates in the order of their texts. -/
structure ComparesTexts (normalize : Value → Except LedgerValidationCode α) (keys : List String) :
    Prop where
  compares : ∀ {e o value}, HasDates keys e o value → ∃ rest : Except LedgerValidationCode α,
    rest ≠ .error .invalidLedgerTimestamp ∧ normalize value =
      (failWhen (o.toISOString < e.toISOString) .invalidLedgerTimestamp >>= fun _ => rest)
  occurs : ∀ e o, ∃ value, HasDates keys e o value ∧
    (¬o.toISOString < e.toISOString → ∃ j, normalize value = .ok j)

section Comparison

variable {normalize : Value → Except LedgerValidationCode α} {keys : List String}
  {e o : TimeValue} {value : Value}

theorem ComparesTexts.rejects_iff (h : ComparesTexts normalize keys)
    (hvalue : HasDates keys e o value) :
    normalize value = .error .invalidLedgerTimestamp ↔ o.toISOString < e.toISOString := by
  obtain ⟨rest, hrest, heq⟩ := h.compares hvalue
  rw [heq]
  by_cases hlt : o.toISOString < e.toISOString
  · rw [failWhen, if_pos hlt]
    exact iff_of_true rfl hlt
  · rw [failWhen, if_neg hlt, except_ok_bind]
    exact iff_of_false hrest hlt

/-- The texts decide like the instants exactly for dates of comparable years. -/
theorem ComparesTexts.keepsTime_iff (h : ComparesTexts normalize keys) (e o : TimeValue) :
    (∀ value, HasDates keys e o value → KeepsTime normalize e o value) ↔
      ComparesAsText e.year o.year := by
  have htext := @TimeValue.toISOString_lt_iff o e
  constructor
  · intro hkeeps
    by_contra hyears
    have hyears' := mt comparesAsText_symm hyears
    simp only [hyears', false_and, not_false_iff, true_and, false_or] at htext
    obtain ⟨value, hvalue, haccepted⟩ := h.occurs e o
    obtain ⟨hsound, hcomplete⟩ := hkeeps value hvalue
    by_cases hlt : e.milliseconds < o.milliseconds
    · exact hcomplete (by omega) ((h.rejects_iff hvalue).mpr (htext.mpr hlt))
    · have hle := hsound (haccepted (mt htext.mp hlt))
      have heq : e = o := TimeValue.ext_milliseconds (by omega)
      exact hyears (.inl (congrArg TimeValue.year heq))
  · intro hyears value hvalue
    have hyears' := comparesAsText_symm hyears
    simp only [hyears', true_and, not_true, false_and, or_false] at htext
    rw [KeepsTime, ne_eq, h.rejects_iff hvalue, htext]
    constructor
    · rintro ⟨j, hj⟩
      by_contra hlt
      have hrejected := (h.rejects_iff hvalue).mpr (htext.mpr (by omega))
      rw [hj] at hrejected
      cases hrejected
    · omega

end Comparison

theorem parseLedgerTimestamp_dateValue (instant : TimeValue) :
    parseLedgerTimestamp (dateValue instant) = .ok (.ofInstant instant) :=
  parseLedgerTimestamp_ok.mpr ⟨instant, rfl, rfl⟩

theorem parseUuid_ne {value : Value} : parseUuid value ≠ .error .invalidLedgerTimestamp := by
  cases hs : value.string? with
  | none => simp [parseUuid, hs]
  | some text => by_cases hu : isUuidV4 text.toList = true <;> simp [parseUuid, hs, hu]

theorem parseAtomicAmount_ne {value : Value} :
    parseAtomicAmount value ≠ .error .invalidLedgerTimestamp := by
  cases hs : value.string? with
  | none => simp [parseAtomicAmount, hs]
  | some text => by_cases ha : isAtomicAmount text = true <;> simp [parseAtomicAmount, hs, ha]

theorem parsePosting_ne (value : Value) :
    parsePosting value ≠ .error .invalidLedgerTimestamp := by
  apply except_bind_ne_error (orFail_ne_error (by decide))
  intro record
  apply except_bind_ne_error (orFail_ne_error (by decide))
  intro side
  apply except_bind_ne_error parseUuid_ne
  intro accountId
  apply except_bind_ne_error parseUuid_ne
  intro assetRevisionId
  apply except_bind_ne_error parseAtomicAmount_ne
  intro amount h
  cases h

/-- The comparison of texts comes right after the dates were read. -/
theorem normalizePost_of_dates {e o : TimeValue} {value : Value}
    (h : HasDates postLedgerJournalKeys e o value) :
    ∃ rest : Except LedgerValidationCode ValidatedPostLedgerJournal,
      rest ≠ .error .invalidLedgerTimestamp ∧ normalizePostLedgerJournalInput value =
        (failWhen (o.toISOString < e.toISOString) .invalidLedgerTimestamp >>= fun _ => rest) := by
  obtain ⟨record, hrecord, he, ho⟩ := h
  have hre : parseLedgerTimestamp (record.get "effectiveAt") = .ok (.ofInstant e) := by
    rw [he, parseLedgerTimestamp_dateValue]
  have hro : parseLedgerTimestamp (record.get "observedAt") = .ok (.ofInstant o) := by
    rw [ho, parseLedgerTimestamp_dateValue]
  have hown : ownDataRecord value postLedgerJournalKeys .invalidLedgerJournal = .ok record :=
    orFail_ok.mpr hrecord
  simp only [normalizePostLedgerJournalInput, hown, hre, hro, except_ok_bind]
  refine ⟨_, ?_, rfl⟩
  apply except_bind_ne_error (orFail_ne_error (by decide))
  intro event
  apply except_bind_ne_error (orFail_ne_error (by decide))
  intro reason
  split
  · apply except_bind_ne_error parseUuid_ne
    intro bookId
    apply except_bind_ne_error parseUuid_ne
    intro transactionId
    apply except_bind_ne_error parseUuid_ne
    intro legId
    apply except_bind_ne_error
    · apply except_bind_ne_error (orFail_ne_error (by decide))
      intro items
      apply except_bind_ne_error (except_mapM_ne_error parsePosting_ne items)
      intro postings
      split <;> (intro h; cases h)
    · intro postings h
      cases h
  · intro h
    cases h

theorem normalizeReverse_of_dates {e o : TimeValue} {value : Value}
    (h : HasDates reverseLedgerJournalKeys e o value) :
    ∃ rest : Except LedgerValidationCode ValidatedReverseLedgerJournal,
      rest ≠ .error .invalidLedgerTimestamp ∧ normalizeReverseLedgerJournalInput value =
        (failWhen (o.toISOString < e.toISOString) .invalidLedgerTimestamp >>= fun _ => rest) := by
  obtain ⟨record, hrecord, he, ho⟩ := h
  have hre : parseLedgerTimestamp (record.get "effectiveAt") = .ok (.ofInstant e) := by
    rw [he, parseLedgerTimestamp_dateValue]
  have hro : parseLedgerTimestamp (record.get "observedAt") = .ok (.ofInstant o) := by
    rw [ho, parseLedgerTimestamp_dateValue]
  have hown : ownDataRecord value reverseLedgerJournalKeys .invalidLedgerJournal = .ok record :=
    orFail_ok.mpr hrecord
  simp only [normalizeReverseLedgerJournalInput, hown, hre, hro, except_ok_bind]
  refine ⟨_, ?_, rfl⟩
  apply except_bind_ne_error parseUuid_ne
  intro originalJournalId
  apply except_bind_ne_error (orFail_ne_error (by decide))
  intro reason h
  cases h

section Samples

def sampleId : Uuid := ⟨"11111111-1111-4111-8111-111111111111",
  by rw [String.toList_ofList]; decide⟩

def otherId : Uuid := ⟨"22222222-2222-4222-8222-222222222222",
  by rw [String.toList_ofList]; decide⟩

/-- One unit moved between two accounts. -/
def samplePostings : List PostingInput :=
  [⟨sampleId, sampleId, .debit, "1"⟩, ⟨otherId, sampleId, .credit, "1"⟩]

def samplePost (e o : TimeValue) : PostLedgerJournalInput where
  bookId := sampleId
  transactionId := sampleId
  legId := sampleId
  economicEventType := .actualFee
  effectiveAt := e
  observedAt := o
  reason := .actualFeeConfirmed
  postings := samplePostings

def sampleReverse (e o : TimeValue) : ReverseLedgerJournalInput where
  originalJournalId := sampleId
  reason := .recognitionInvalidated
  effectiveAt := e
  observedAt := o

theorem isDoubleEntry_samplePostings : IsDoubleEntry samplePostings where
  length := by decide
  amounts := by
    have hone : Denotes "1" 1 := by decide
    simp only [samplePostings, List.forall_mem_cons]
    exact ⟨⟨1, hone, by decide⟩, ⟨1, hone, by decide⟩, List.forall_mem_nil _⟩
  accounts := ⟨_, .head _, _, .tail _ (.head _), by decide⟩
  balanced := by
    have hbalanced : sideTotal .debit sampleId samplePostings =
        sideTotal .credit sampleId samplePostings := by decide
    simp only [samplePostings, List.forall_mem_cons]
    exact ⟨hbalanced, hbalanced, List.forall_mem_nil _⟩

theorem samplePost_hasDates (e o : TimeValue) :
    HasDates postLedgerJournalKeys e o (samplePost e o).toValue := by
  obtain ⟨items, hitems, -⟩ := (samplePost e o).toValue_readFrom
  exact ⟨_, hitems, rfl, rfl⟩

end Samples

theorem normalizePost_comparesTexts :
    ComparesTexts normalizePostLedgerJournalInput postLedgerJournalKeys where
  compares := normalizePost_of_dates
  occurs e o := by
    have hread := (samplePost e o).toValue_readFrom
    refine ⟨(samplePost e o).toValue, ?_, fun horder => ?_⟩
    · exact samplePost_hasDates e o
    · exact (accepts_iff_isDoubleEntry hread ⟨rfl, horder⟩).mpr isDoubleEntry_samplePostings

theorem normalizeReverse_comparesTexts :
    ComparesTexts normalizeReverseLedgerJournalInput reverseLedgerJournalKeys where
  compares := normalizeReverse_of_dates
  occurs e o := by
    have hread := (sampleReverse e o).toValue_readFrom
    exact ⟨(sampleReverse e o).toValue, ⟨_, hread, rfl, rfl⟩, fun horder =>
      ⟨_, normalizeReverseLedgerJournalInput_ok.mpr ⟨_, hread, rfl, horder⟩⟩⟩

/-- Both normalizers keep the dates in the order of time exactly when the years compare as text. -/
theorem normalizeLedgerJournalInput_keepsTime_iff (effectiveAt observedAt : TimeValue) :
    ((∀ value, HasDates postLedgerJournalKeys effectiveAt observedAt value →
        KeepsTime normalizePostLedgerJournalInput effectiveAt observedAt value) ↔
      ComparesAsText effectiveAt.year observedAt.year) ∧
    ((∀ value, HasDates reverseLedgerJournalKeys effectiveAt observedAt value →
        KeepsTime normalizeReverseLedgerJournalInput effectiveAt observedAt value) ↔
      ComparesAsText effectiveAt.year observedAt.year) :=
  ⟨normalizePost_comparesTexts.keepsTime_iff effectiveAt observedAt,
    normalizeReverse_comparesTexts.keepsTime_iff effectiveAt observedAt⟩

/-- The last millisecond of the year 9999. -/
def lastOfYear9999 : TimeValue := ⟨253402300799999, by decide⟩

def firstOfYear10000 : TimeValue := ⟨253402300800000, by decide⟩

/-- An observation one millisecond later, past the year 9999, is rejected for its timestamps, and
one that is a millisecond early is accepted. -/
theorem samplePost_reversed :
    lastOfYear9999.milliseconds < firstOfYear10000.milliseconds ∧
      normalizePostLedgerJournalInput (samplePost lastOfYear9999 firstOfYear10000).toValue =
        .error .invalidLedgerTimestamp ∧
      ∃ j, normalizePostLedgerJournalInput (samplePost firstOfYear10000 lastOfYear9999).toValue =
        .ok j := by
  refine ⟨by decide, ?_, ?_⟩
  · apply (normalizePost_comparesTexts.rejects_iff (samplePost_hasDates _ _)).mpr
    decide
  · apply (accepts_iff_isDoubleEntry (samplePost _ _).toValue_readFrom ⟨rfl, ?_⟩).mpr
      isDoubleEntry_samplePostings
    decide

end CryptoLending.Ledger.LedgerTimestamps
