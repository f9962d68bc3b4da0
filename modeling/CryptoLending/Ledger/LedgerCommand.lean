import CryptoLending.Ledger.LedgerTimestamps
import CryptoLending.Lib.IsoReading

namespace CryptoLending.Ledger.LedgerCommand

open Lib Lib.JsValue Lib.IsoText LedgerJournal LedgerInput

structure PostLedgerJournalCommand extends ValidatedPostLedgerJournal where
  correlationId : LedgerCorrelationId
  deriving DecidableEq

structure ReverseLedgerJournalCommand extends ValidatedReverseLedgerJournal where
  correlationId : LedgerCorrelationId
  deriving DecidableEq

def parseLedgerCorrelationId (value : Value) : Except LedgerValidationCode LedgerCorrelationId :=
  parseUuid value

/-- The date of a text that the date formatter prints unchanged. -/
def timestampInput (value : Value) : Except LedgerValidationCode TimeValue :=
  orFail (value.string?.bind IsoReading.ofISOString) .invalidLedgerTimestamp

def commandKeys (keys : List String) : List String := "correlationId" :: keys

def normalizePostLedgerJournalCommand (value : Value) :
    Except LedgerValidationCode PostLedgerJournalCommand := do
  let record ← ownDataRecord value (commandKeys postLedgerJournalKeys) .invalidLedgerJournal
  let effectiveAt ← timestampInput (record.get "effectiveAt")
  let observedAt ← timestampInput (record.get "observedAt")
  let journal ← normalizePostLedgerJournalInput (ofFields
    [("bookId", record.get "bookId"), ("transactionId", record.get "transactionId"),
      ("legId", record.get "legId"), ("economicEventType", record.get "economicEventType"),
      ("effectiveAt", dateValue effectiveAt), ("observedAt", dateValue observedAt),
      ("reason", record.get "reason"), ("postings", record.get "postings")])
  let correlationId ← parseLedgerCorrelationId (record.get "correlationId")
  return { journal with correlationId }

def normalizeReverseLedgerJournalCommand (value : Value) :
    Except LedgerValidationCode ReverseLedgerJournalCommand := do
  let record ← ownDataRecord value (commandKeys reverseLedgerJournalKeys) .invalidLedgerJournal
  let effectiveAt ← timestampInput (record.get "effectiveAt")
  let observedAt ← timestampInput (record.get "observedAt")
  let reversal ← normalizeReverseLedgerJournalInput (ofFields
    [("originalJournalId", record.get "originalJournalId"), ("reason", record.get "reason"),
      ("effectiveAt", dateValue effectiveAt), ("observedAt", dateValue observedAt)])
  let correlationId ← parseLedgerCorrelationId (record.get "correlationId")
  return { reversal with correlationId }

section Readings

variable {value : Value}

theorem parseLedgerCorrelationId_ok {u : LedgerCorrelationId} :
    parseLedgerCorrelationId value = .ok u ↔ value = .string u.text := parseUuid_ok

theorem timestampInput_ok {t : TimeValue} :
    timestampInput value = .ok t ↔ value = .string t.toISOString := by
  rw [timestampInput, orFail_ok, Option.bind_eq_some_iff]
  constructor
  · rintro ⟨text, htext, h⟩
    rw [IsoReading.toISOString_of_ofISOString h]
    exact Value.string?_eq_some.mp htext
  · rintro rfl
    exact ⟨_, rfl, IsoReading.ofISOString_toISOString t⟩

/-- A normalizer of inputs sees nothing of a value but its record. -/
theorem normalizePostLedgerJournalInput_congr {v w : Value}
    (h : exactRecord v postLedgerJournalKeys = exactRecord w postLedgerJournalKeys) :
    normalizePostLedgerJournalInput v = normalizePostLedgerJournalInput w := by
  simp only [normalizePostLedgerJournalInput, ownDataRecord, h]

theorem normalizeReverseLedgerJournalInput_congr {v w : Value}
    (h : exactRecord v reverseLedgerJournalKeys = exactRecord w reverseLedgerJournalKeys) :
    normalizeReverseLedgerJournalInput v = normalizeReverseLedgerJournalInput w := by
  simp only [normalizeReverseLedgerJournalInput, ownDataRecord, h]

end Readings

section Agreement

/-- An input that holds what a command holds, and dates for the texts of its timestamps. -/
structure InputOf (keys : List String) (command input : Value) (r r' : Record)
    (effectiveAt observedAt : TimeValue) : Prop where
  command_reads : exactRecord command (commandKeys keys) = some r
  input_reads : exactRecord input keys = some r'
  effectiveText : r.get "effectiveAt" = .string effectiveAt.toISOString
  observedText : r.get "observedAt" = .string observedAt.toISOString
  effectiveDate : r'.get "effectiveAt" = dateValue effectiveAt
  observedDate : r'.get "observedAt" = dateValue observedAt
  rest : ∀ key ∈ keys, key ≠ "effectiveAt" → key ≠ "observedAt" → r'.get key = r.get key

variable {command input : Value} {r r' : Record} {e o : TimeValue}

/-- The command is normalized as its input, and then its correlation id is read. -/
theorem normalizePostLedgerJournalCommand_eq
    (h : InputOf postLedgerJournalKeys command input r r' e o) :
    normalizePostLedgerJournalCommand command = (do
      let journal ← normalizePostLedgerJournalInput input
      let correlationId ← parseLedgerCorrelationId (r.get "correlationId")
      return { journal with correlationId }) := by
  have hrecord : ownDataRecord command (commandKeys postLedgerJournalKeys) .invalidLedgerJournal =
      .ok r := orFail_ok.mpr h.command_reads
  have he := timestampInput_ok.2 h.effectiveText
  have ho := timestampInput_ok.2 h.observedText
  have hr := record_eq_map (by decide) (keys_of_exactRecord h.input_reads)
  have hrest := h.rest
  simp only [postLedgerJournalKeys, List.forall_mem_cons] at hrest
  simp only [postLedgerJournalKeys, List.map_cons, List.map_nil, h.effectiveDate,
    h.observedDate, hrest, ne_eq, String.reduceEq, not_false_eq_true] at hr
  have hinput := h.input_reads.trans (congrArg some hr)
  simp only [normalizePostLedgerJournalCommand, hrecord, he, ho, except_ok_bind]
  rw [normalizePostLedgerJournalInput_congr (hinput.trans
    (@exactRecord_ofFields_keys _ postLedgerJournalKeys rfl (by decide)).symm)]

theorem normalizeReverseLedgerJournalCommand_eq
    (h : InputOf reverseLedgerJournalKeys command input r r' e o) :
    normalizeReverseLedgerJournalCommand command = (do
      let reversal ← normalizeReverseLedgerJournalInput input
      let correlationId ← parseLedgerCorrelationId (r.get "correlationId")
      return { reversal with correlationId }) := by
  have hrecord : ownDataRecord command (commandKeys reverseLedgerJournalKeys)
      .invalidLedgerJournal = .ok r := orFail_ok.mpr h.command_reads
  have he := timestampInput_ok.2 h.effectiveText
  have ho := timestampInput_ok.2 h.observedText
  have hr := record_eq_map (by decide) (keys_of_exactRecord h.input_reads)
  have hrest := h.rest
  simp only [reverseLedgerJournalKeys, List.forall_mem_cons] at hrest
  simp only [reverseLedgerJournalKeys, List.map_cons, List.map_nil, h.effectiveDate,
    h.observedDate, hrest, ne_eq, String.reduceEq, not_false_eq_true] at hr
  have hinput := h.input_reads.trans (congrArg some hr)
  simp only [normalizeReverseLedgerJournalCommand, hrecord, he, ho, except_ok_bind]
  rw [normalizeReverseLedgerJournalInput_congr (hinput.trans
    (@exactRecord_ofFields_keys _ reverseLedgerJournalKeys rfl (by decide)).symm)]

end Agreement

section Commands

/-- What a command holds that is formed from a journal. -/
def postCommandFields (correlationId : LedgerCorrelationId) (j : ValidatedPostLedgerJournal)
    (postings : Value) : List (String × Value) :=
  [("correlationId", .string correlationId.text), ("bookId", .string j.bookId.text),
    ("transactionId", .string j.transactionId.text), ("legId", .string j.legId.text),
    ("economicEventType", .string j.economicEventType.text),
    ("effectiveAt", .string j.effectiveAt.text), ("observedAt", .string j.observedAt.text),
    ("reason", .string j.reason.text), ("postings", postings)]

def reverseCommandFields (correlationId : LedgerCorrelationId)
    (j : ValidatedReverseLedgerJournal) : List (String × Value) :=
  [("correlationId", .string correlationId.text),
    ("originalJournalId", .string j.originalJournalId.text), ("reason", .string j.reason.text),
    ("effectiveAt", .string j.effectiveAt.text), ("observedAt", .string j.observedAt.text)]

/-- A plain object that holds a correlation id and the fields of a journal, with its postings in
their order. -/
def PostFormed (correlationId : LedgerCorrelationId) (j : ValidatedPostLedgerJournal)
    (command : Value) : Prop :=
  ∃ items, exactRecord command (commandKeys postLedgerJournalKeys) =
      some (postCommandFields correlationId j (ofItems items)) ∧
    List.Forall₂ (fun item p => (PostingInput.ofPosting p).ReadFrom item) items
      j.postings.postings

def ReverseFormed (correlationId : LedgerCorrelationId) (j : ValidatedReverseLedgerJournal)
    (command : Value) : Prop :=
  exactRecord command (commandKeys reverseLedgerJournalKeys) =
    some (reverseCommandFields correlationId j)

def postCommandValue (correlationId : LedgerCorrelationId) (j : ValidatedPostLedgerJournal) :
    Value :=
  ofFields (postCommandFields correlationId j
    (ofItems (j.postings.postings.map fun p => (PostingInput.ofPosting p).toValue)))

def reverseCommandValue (correlationId : LedgerCorrelationId) (j : ValidatedReverseLedgerJournal) :
    Value := ofFields (reverseCommandFields correlationId j)

theorem postCommandValue_formed (correlationId : LedgerCorrelationId)
    (j : ValidatedPostLedgerJournal) :
    PostFormed correlationId j (postCommandValue correlationId j) := by
  refine ⟨_, @exactRecord_ofFields_keys _ (commandKeys postLedgerJournalKeys) rfl (by decide), ?_⟩
  rw [List.forall₂_map_left_iff, List.forall₂_same]
  exact fun p _ => (PostingInput.ofPosting p).toValue_readFrom

theorem reverseCommandValue_formed (correlationId : LedgerCorrelationId)
    (j : ValidatedReverseLedgerJournal) :
    ReverseFormed correlationId j (reverseCommandValue correlationId j) :=
  @exactRecord_ofFields_keys _ (commandKeys reverseLedgerJournalKeys) rfl (by decide)

variable {value command : Value}

/-- A command that is formed from an accepted journal is accepted with the same fields. -/
theorem normalizePost_formed {j : ValidatedPostLedgerJournal}
    (h : normalizePostLedgerJournalInput value = .ok j) {correlationId : LedgerCorrelationId}
    (hcommand : PostFormed correlationId j command) :
    normalizePostLedgerJournalCommand command = .ok { j with correlationId } := by
  obtain ⟨i, -, hi⟩ := normalizePostLedgerJournalInput_ok.mp h
  obtain ⟨items, hitems, hpostings⟩ := hcommand
  have hread : i.ReadFrom (ofFields (i.fields (ofItems items))) := by
    refine ⟨items, @exactRecord_ofFields_keys _ postLedgerJournalKeys rfl (by decide), ?_⟩
    rw [hi.postings]
    exact List.forall₂_map_right_iff.mpr hpostings
  have hinput := normalizePostLedgerJournalInput_ok.mpr ⟨i, hread, hi⟩
  have htext : ∀ t : TimeValue, (LedgerTimestamp.ofInstant t).text = t.toISOString := fun _ => rfl
  rw [postCommandFields, hi.bookId, hi.transactionId, hi.legId, hi.economicEventType,
    hi.effectiveAt, hi.observedAt, hi.reason, htext, htext] at hitems
  have hof : InputOf postLedgerJournalKeys command (ofFields (i.fields (ofItems items))) _
      (i.fields (ofItems items)) i.effectiveAt i.observedAt :=
    { command_reads := hitems
      input_reads := @exactRecord_ofFields_keys _ postLedgerJournalKeys rfl (by decide)
      effectiveText := rfl
      observedText := rfl
      effectiveDate := rfl
      observedDate := rfl
      rest := by
        simp only [postLedgerJournalKeys, List.forall_mem_cons]
        exact ⟨fun _ _ => rfl, fun _ _ => rfl, fun _ _ => rfl, fun _ _ => rfl,
          fun hne => absurd rfl hne, fun _ hne => absurd rfl hne, fun _ _ => rfl, fun _ _ => rfl,
          List.forall_mem_nil _⟩ }
  rw [normalizePostLedgerJournalCommand_eq hof, hinput, except_ok_bind]
  exact except_bind_ok.mpr ⟨correlationId, parseLedgerCorrelationId_ok.2 rfl, rfl⟩

theorem normalizeReverse_formed {j : ValidatedReverseLedgerJournal}
    (h : normalizeReverseLedgerJournalInput value = .ok j) {correlationId : LedgerCorrelationId}
    (hcommand : ReverseFormed correlationId j command) :
    normalizeReverseLedgerJournalCommand command = .ok { j with correlationId } := by
  obtain ⟨i, hread, rfl, horder⟩ := normalizeReverseLedgerJournalInput_ok.mp h
  have hof : InputOf reverseLedgerJournalKeys command value _ i.fields i.effectiveAt i.observedAt :=
    { command_reads := hcommand
      input_reads := hread
      effectiveText := rfl
      observedText := rfl
      effectiveDate := rfl
      observedDate := rfl
      rest := by
        simp only [reverseLedgerJournalKeys, List.forall_mem_cons]
        exact ⟨fun _ _ => rfl, fun _ _ => rfl, fun hne => absurd rfl hne,
          fun _ hne => absurd rfl hne, List.forall_mem_nil _⟩ }
  rw [normalizeReverseLedgerJournalCommand_eq hof, h, except_ok_bind]
  exact except_bind_ok.mpr ⟨correlationId, parseLedgerCorrelationId_ok.2 rfl, rfl⟩

/-- An accepted command has an input, and every input that it has is accepted with its journal. -/
theorem normalizePost_inputs {c : PostLedgerJournalCommand}
    (h : normalizePostLedgerJournalCommand command = .ok c) :
    (∃ input r r' e o, InputOf postLedgerJournalKeys command input r r' e o) ∧
      ∀ input r r' e o, InputOf postLedgerJournalKeys command input r r' e o →
        normalizePostLedgerJournalInput input = .ok c.toValidatedPostLedgerJournal ∧
          r.get "correlationId" = .string c.correlationId.text := by
  constructor
  · obtain ⟨r, hr, h⟩ := except_bind_ok.mp h
    obtain ⟨e, he, h⟩ := except_bind_ok.mp h
    obtain ⟨o, ho, -⟩ := except_bind_ok.mp h
    refine ⟨ofFields
      [("bookId", r.get "bookId"), ("transactionId", r.get "transactionId"),
        ("legId", r.get "legId"), ("economicEventType", r.get "economicEventType"),
        ("effectiveAt", dateValue e), ("observedAt", dateValue o),
        ("reason", r.get "reason"), ("postings", r.get "postings")], r, _, e, o,
      orFail_ok.mp hr, @exactRecord_ofFields_keys _ postLedgerJournalKeys rfl (by decide),
      timestampInput_ok.1 he, timestampInput_ok.1 ho, rfl, rfl, ?_⟩
    simp only [postLedgerJournalKeys, List.forall_mem_cons]
    exact ⟨fun _ _ => rfl, fun _ _ => rfl, fun _ _ => rfl, fun _ _ => rfl,
      fun hne => absurd rfl hne, fun _ hne => absurd rfl hne, fun _ _ => rfl, fun _ _ => rfl,
      List.forall_mem_nil _⟩
  · intro input r r' e o hof
    rw [normalizePostLedgerJournalCommand_eq hof] at h
    obtain ⟨j, hj, h⟩ := except_bind_ok.mp h
    obtain ⟨id, hid, h⟩ := except_bind_ok.mp h
    rw [← Except.ok.inj h]
    exact ⟨hj, parseLedgerCorrelationId_ok.1 hid⟩

theorem normalizeReverse_inputs {c : ReverseLedgerJournalCommand}
    (h : normalizeReverseLedgerJournalCommand command = .ok c) :
    (∃ input r r' e o, InputOf reverseLedgerJournalKeys command input r r' e o) ∧
      ∀ input r r' e o, InputOf reverseLedgerJournalKeys command input r r' e o →
        normalizeReverseLedgerJournalInput input = .ok c.toValidatedReverseLedgerJournal ∧
          r.get "correlationId" = .string c.correlationId.text := by
  constructor
  · obtain ⟨r, hr, h⟩ := except_bind_ok.mp h
    obtain ⟨e, he, h⟩ := except_bind_ok.mp h
    obtain ⟨o, ho, -⟩ := except_bind_ok.mp h
    refine ⟨ofFields
      [("originalJournalId", r.get "originalJournalId"), ("reason", r.get "reason"),
        ("effectiveAt", dateValue e), ("observedAt", dateValue o)], r, _, e, o,
      orFail_ok.mp hr, @exactRecord_ofFields_keys _ reverseLedgerJournalKeys rfl (by decide),
      timestampInput_ok.1 he, timestampInput_ok.1 ho, rfl, rfl, ?_⟩
    simp only [reverseLedgerJournalKeys, List.forall_mem_cons]
    exact ⟨fun _ _ => rfl, fun _ _ => rfl, fun hne => absurd rfl hne,
      fun _ hne => absurd rfl hne, List.forall_mem_nil _⟩
  · intro input r r' e o hof
    rw [normalizeReverseLedgerJournalCommand_eq hof] at h
    obtain ⟨j, hj, h⟩ := except_bind_ok.mp h
    obtain ⟨id, hid, h⟩ := except_bind_ok.mp h
    rw [← Except.ok.inj h]
    exact ⟨hj, parseLedgerCorrelationId_ok.1 hid⟩

end Commands

/-- Inputs and commands are accepted alike: what is formed from an accepted journal comes back
with its fields, and an accepted command is the journal of every input that it has. -/
theorem ledgerCommands_agree :
    (∀ value j, normalizePostLedgerJournalInput value = .ok j →
      ∀ correlationId : LedgerCorrelationId,
        PostFormed correlationId j (postCommandValue correlationId j) ∧
        ∀ command, PostFormed correlationId j command →
          normalizePostLedgerJournalCommand command = .ok { j with correlationId }) ∧
    (∀ value j, normalizeReverseLedgerJournalInput value = .ok j →
      ∀ correlationId : LedgerCorrelationId,
        ReverseFormed correlationId j (reverseCommandValue correlationId j) ∧
        ∀ command, ReverseFormed correlationId j command →
          normalizeReverseLedgerJournalCommand command = .ok { j with correlationId }) ∧
    (∀ command c, normalizePostLedgerJournalCommand command = .ok c →
      (∃ input r r' e o, InputOf postLedgerJournalKeys command input r r' e o) ∧
        ∀ input r r' e o, InputOf postLedgerJournalKeys command input r r' e o →
          normalizePostLedgerJournalInput input = .ok c.toValidatedPostLedgerJournal ∧
            r.get "correlationId" = .string c.correlationId.text) ∧
    ∀ command c, normalizeReverseLedgerJournalCommand command = .ok c →
      (∃ input r r' e o, InputOf reverseLedgerJournalKeys command input r r' e o) ∧
        ∀ input r r' e o, InputOf reverseLedgerJournalKeys command input r r' e o →
          normalizeReverseLedgerJournalInput input = .ok c.toValidatedReverseLedgerJournal ∧
            r.get "correlationId" = .string c.correlationId.text :=
  ⟨fun _ j h correlationId => ⟨postCommandValue_formed correlationId j, fun _ hcommand =>
      normalizePost_formed h hcommand⟩,
    fun _ j h correlationId => ⟨reverseCommandValue_formed correlationId j, fun _ hcommand =>
      normalizeReverse_formed h hcommand⟩,
    fun _ _ h => normalizePost_inputs h, fun _ _ h => normalizeReverse_inputs h⟩

/-- A journal and a reversal at the start of the year 10000. -/
theorem sampleCommands_agree : ∃ value j value' k,
    normalizePostLedgerJournalInput value = .ok j ∧
    j.effectiveAt = .ofInstant LedgerTimestamps.firstOfYear10000 ∧
    normalizePostLedgerJournalCommand (postCommandValue LedgerTimestamps.sampleId j) =
      .ok { j with correlationId := LedgerTimestamps.sampleId } ∧
    normalizeReverseLedgerJournalInput value' = .ok k ∧
    normalizeReverseLedgerJournalCommand (reverseCommandValue LedgerTimestamps.sampleId k) =
      .ok { k with correlationId := LedgerTimestamps.sampleId } ∧
    (∃ input r r' e o, InputOf postLedgerJournalKeys
      (postCommandValue LedgerTimestamps.sampleId j) input r r' e o) := by
  have hread := (LedgerTimestamps.samplePost LedgerTimestamps.firstOfYear10000
    LedgerTimestamps.firstOfYear10000).toValue_readFrom
  obtain ⟨j, hj⟩ := (DoubleEntry.accepts_iff_isDoubleEntry hread ⟨rfl, lt_irrefl _⟩).mpr
    LedgerTimestamps.isDoubleEntry_samplePostings
  obtain ⟨value', -, hvalue'⟩ := LedgerTimestamps.normalizeReverse_comparesTexts.occurs
    LedgerTimestamps.firstOfYear10000 LedgerTimestamps.firstOfYear10000
  obtain ⟨k, hk⟩ := hvalue' (lt_irrefl _)
  obtain ⟨hpost, hreverse, hinputs, -⟩ := ledgerCommands_agree
  obtain ⟨hformed, haccepted⟩ := hpost _ _ hj LedgerTimestamps.sampleId
  obtain ⟨hformed', haccepted'⟩ := hreverse _ _ hk LedgerTimestamps.sampleId
  have hcommand := haccepted _ hformed
  have heffective : j.effectiveAt = .ofInstant LedgerTimestamps.firstOfYear10000 := by
    obtain ⟨i, hi, hyields⟩ := normalizePostLedgerJournalInput_ok.mp hj
    rw [hyields.effectiveAt, PostLedgerJournalInput.readFrom_unique hi hread]
    rfl
  exact ⟨_, j, value', k, hj, heffective, hcommand, hk, haccepted' _ hformed',
    (hinputs _ _ hcommand).1⟩

end CryptoLending.Ledger.LedgerCommand
