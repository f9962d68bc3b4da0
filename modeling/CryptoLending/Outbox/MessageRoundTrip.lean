import CryptoLending.Outbox.EnvelopeReading
import CryptoLending.Outbox.MessageClone

namespace CryptoLending.Outbox.MessageRoundTrip

open Lib JsString JsHeap JsonHeap JsonTree Envelope MessagePolicy EnvelopeReading MessageClone

variable {ρ ρ' : Type} {store : Store ρ}

section Trees

def correlationTree (c : JobCorrelationContext) : JsonTree :=
  object ((correlationFields c).map fun f => (f.1, .string f.2))

/-- The tree of an envelope with a payload. -/
def envelopeTree (h : JobHeader) (payload : JsonTree) : JsonTree :=
  object [(ofString "id", .string h.id), (ofString "kind", .string h.kind),
    (ofString "version", .number h.version), (ofString "occurredAt", .string h.occurredAt),
    (ofString "correlation", correlationTree h.correlation), (ofString "payload", payload)]

theorem denotes_string_iff {v : Value ρ} {s : JsString} :
    Denotes store v (.string s) ↔ v = .string s := by
  constructor
  · intro h
    cases h
    rfl
  · rintro rfl
    exact .string s

theorem denotes_number_iff {v : Value ρ} {n : JsNumber} :
    Denotes store v (.number n) ↔ v = .number n := by
  constructor
  · intro h
    cases h
    rfl
  · rintro rfl
    exact .number n

theorem denotes_correlationTree_iff {v : Value ρ} {c : JobCorrelationContext} :
    Denotes store v (correlationTree c) ↔ ∃ r, v = .reference r ∧
      HoldsFields (store r) (stringFields (correlationFields c)) := by
  rw [correlationTree, denotes_object_iff]
  constructor
  · rintro ⟨r, fields, rfl, holds, hrel⟩
    have heq : fields = stringFields (correlationFields c) := by
      rw [List.forall₂_map_right_iff] at hrel
      rw [stringFields, ← List.forall₂_eq_eq_eq, List.forall₂_map_right_iff]
      refine hrel.imp fun f g hfg => ?_
      exact Prod.ext hfg.1 (denotes_string_iff.1 hfg.2)
    exact ⟨r, rfl, heq ▸ holds⟩
  · rintro ⟨r, rfl, holds⟩
    refine ⟨r, _, rfl, holds, ?_⟩
    rw [stringFields, List.forall₂_map_left_iff, List.forall₂_map_right_iff, List.forall₂_same]
    exact fun f _ => ⟨rfl, .string f.2⟩

theorem denotes_envelopeTree_iff {v : Value ρ} {h : JobHeader} {t : JsonTree} :
    Denotes store v (envelopeTree h t) ↔ ∃ r correlation payload, v = .reference r ∧
      HoldsFields (store r) (headerFields h correlation payload) ∧
        Denotes store correlation (correlationTree h.correlation) ∧ Denotes store payload t := by
  rw [envelopeTree, denotes_object_iff]
  constructor
  · rintro ⟨r, fields, rfl, holds, hrel⟩
    simp only [List.forall₂_cons_right_iff, List.forall₂_nil_right_iff] at hrel
    obtain ⟨⟨_, _⟩, _, ⟨rfl, hid⟩, ⟨⟨_, _⟩, _, ⟨rfl, hkind⟩, ⟨⟨_, _⟩, _, ⟨rfl, hversion⟩,
      ⟨⟨_, _⟩, _, ⟨rfl, hoccurredAt⟩, ⟨⟨_, correlation⟩, _, ⟨rfl, hcorrelation⟩,
        ⟨⟨_, payload⟩, _, ⟨rfl, hpayload⟩, rfl, rfl⟩, rfl⟩, rfl⟩, rfl⟩, rfl⟩, rfl⟩ := hrel
    obtain rfl := denotes_string_iff.1 hid
    obtain rfl := denotes_string_iff.1 hkind
    obtain rfl := denotes_number_iff.1 hversion
    obtain rfl := denotes_string_iff.1 hoccurredAt
    exact ⟨r, correlation, payload, rfl, holds, hcorrelation, hpayload⟩
  · rintro ⟨r, correlation, payload, rfl, holds, hcorrelation, hpayload⟩
    refine ⟨r, _, rfl, holds, ?_⟩
    exact .cons ⟨rfl, .string h.id⟩ (.cons ⟨rfl, .string h.kind⟩ (.cons ⟨rfl, .number h.version⟩
      (.cons ⟨rfl, .string h.occurredAt⟩ (.cons ⟨rfl, hcorrelation⟩ (.cons ⟨rfl, hpayload⟩ .nil)))))

theorem plain_correlationTree (c : JobCorrelationContext) : (correlationTree c).Plain := by
  apply Plain.object
  · rw [List.map_map]
    exact keys_correlationFields_ordered c
  · exact List.forall_mem_map.mpr fun f _ => .string f.2

theorem isFinite_version (h : JobHeader) : h.version.isFinite = true := by
  have hvalid := h.version_valid
  generalize h.version = version at hvalid
  cases version with
  | finite => rfl
  | infinity | nan => cases hvalid

theorem plain_envelopeTree {h : JobHeader} {t : JsonTree} (ht : t.Plain) :
    (envelopeTree h t).Plain := by
  apply Plain.object
  · exact jobEnvelopeKeys_ordered
  · simp only [List.forall_mem_cons]
    exact ⟨.string _, .string _, .number (isFinite_version h), .string _,
      plain_correlationTree h.correlation, ht, fun _ h => absurd h List.not_mem_nil⟩

theorem withoutSignedZero_version (h : JobHeader) : h.version.withoutSignedZero = h.version := by
  have hvalid := h.version_valid
  generalize h.version = version at hvalid
  cases version with
  | infinity | nan => rfl
  | finite negative magnitude =>
    by_cases hzero : magnitude.units = 0
    · rw [isPositiveVersion, JsNumber.safeInteger?] at hvalid
      cases negative <;> simp [hzero] at hvalid
    · rw [JsNumber.withoutSignedZero, bne_iff_ne.mpr hzero, Bool.and_true]

theorem envelopeTree_withoutSignedZeros (h : JobHeader) (t : JsonTree) :
    (envelopeTree h t).withoutSignedZeros = envelopeTree h t.withoutSignedZeros := by
  have hcorrelation : (correlationTree h.correlation).withoutSignedZeros =
      correlationTree h.correlation := by
    rw [correlationTree, JsonTree.withoutSignedZeros, membersWithoutSignedZeros_eq, List.map_map]
    rfl
  rw [envelopeTree, JsonTree.withoutSignedZeros, membersWithoutSignedZeros_eq]
  simp only [List.map_cons, List.map_nil, hcorrelation, JsonTree.withoutSignedZeros,
    withoutSignedZero_version]
  rfl

end Trees

section Envelope

variable (sha256 : List UInt8 → Digest)

/-- A value that denotes the tree of an envelope is read as that envelope. -/
theorem readJobEnvelope_of_denotes {v : Value ρ} {h : JobHeader} {t : JsonTree}
    (hv : Denotes store v (envelopeTree h t)) :
    ∃ payload, readJobEnvelope sha256 store v = some ⟨h, payload⟩ ∧ Denotes store payload t := by
  obtain ⟨r, correlation, payload, rfl, holds, hcorrelation, hpayload⟩ :=
    denotes_envelopeTree_iff.1 hv
  obtain ⟨rc, rfl, hc⟩ := denotes_correlationTree_iff.1 hcorrelation
  exact ⟨payload, readJobEnvelope_of_holds sha256 holds (parseCorrelationContext_of_holds hc),
    hpayload⟩

theorem holds_envelopeStore (e : JobEnvelope ρ) :
    HoldsFields (envelopeStore store e .envelope) (headerFields e.toJobHeader
      (.reference .correlation) (e.payload.map .input)) ∧
      HoldsFields (envelopeStore store e .correlation)
        (stringFields (correlationFields e.correlation)) :=
  ⟨⟨rfl, Or.inl rfl, rfl, rfl, rfl⟩, ⟨rfl, Or.inr rfl, rfl, rfl, rfl⟩⟩

theorem envelopeStore_input (e : JobEnvelope ρ) (r : ρ) :
    envelopeStore store e (.input r) = (store r).map .input := rfl

/-- The object of a parsed envelope denotes the tree of the envelope. -/
theorem denotes_envelopeStore_iff {e : JobEnvelope ρ} {u : JsonTree} :
    Denotes (envelopeStore store e) (.reference .envelope) u ↔
      ∃ t, u = envelopeTree e.toJobHeader t ∧ Denotes store e.payload t := by
  obtain ⟨henvelope, hcorrelation⟩ := @holds_envelopeStore _ store e
  have hc : Denotes (envelopeStore store e) (.reference .correlation)
      (correlationTree e.correlation) := denotes_correlationTree_iff.2 ⟨_, rfl, hcorrelation⟩
  constructor
  · intro h
    cases hu : u with
    | object members =>
      subst hu
      obtain ⟨r, fields, hr, holds, hrel⟩ := denotes_object_iff.mp h
      obtain rfl := Value.reference.inj hr
      obtain rfl := henvelope.unique holds
      rw [headerFields] at hrel
      simp only [List.forall₂_cons_left_iff, List.forall₂_nil_left_iff] at hrel
      obtain ⟨_, _, _, ⟨_, _, _, ⟨_, _, _, ⟨_, _, _, ⟨_, _, _, ⟨⟨_, t⟩, _, ⟨rfl, hpayload⟩,
        rfl, _⟩, _⟩, _⟩, _⟩, _⟩, _⟩ := hrel
      have ht := Denotes.of_map (envelopeStore_input e) hpayload rfl
      exact ⟨t, h.unique (denotes_envelopeTree_iff.2 ⟨_, _, _, rfl, henvelope, hc, hpayload⟩), ht⟩
    | array items =>
      subst hu
      cases h with
      | array holds => cases henvelope.elements.symm.trans holds.elements
    | _ =>
      subst hu
      cases h
  · rintro ⟨t, rfl, ht⟩
    exact denotes_envelopeTree_iff.2 ⟨_, _, _, rfl, henvelope, hc, ht.map (envelopeStore_input e)⟩

end Envelope

section Holding

/-- The value of an own data property of an object. -/
def ownValue (store : Store ρ) (v : Value ρ) (name : String) : Option (Value ρ) :=
  match v with
  | .reference r => (store r).ownData (ofString name)
  | _ => none

def hasOwn (store : Store ρ) (v : Value ρ) (name : String) : Bool :=
  match v with
  | .reference r => ((store r).own (ofString name)).isSome
  | _ => false

/-- An object whose own properties are the identifiers of a correlation. -/
structure HoldsCorrelation (store : Store ρ) (v : Value ρ) (c : JobCorrelationContext) : Prop where
  correlationId : ownValue store v "correlationId" = some (.string c.correlationId)
  optional : ∀ key : CorrelationKey, ownValue store v key.text = (c.optional key).map .string

/-- An object whose own properties are the fields of a job. Without a correlation of its own
the job has the one made from its identifier. -/
structure HoldsHeader (sha256 : List UInt8 → Digest) (store : Store ρ) (v : Value ρ)
    (h : JobHeader) : Prop where
  id : ownValue store v "id" = some (.string h.id)
  kind : ownValue store v "kind" = some (.string h.kind)
  version : ownValue store v "version" = some (.number h.version)
  occurredAt : ownValue store v "occurredAt" = some (.string h.occurredAt)
  correlation :
    (hasOwn store v "correlation" = false ∧
      legacyCorrelationContext sha256 h.id = some h.correlation) ∨
    ∃ w, ownValue store v "correlation" = some w ∧ HoldsCorrelation store w h.correlation

theorem plainObject_eq_some {v : Value ρ} {o : Object ρ} (h : plainObject? store v = some o) :
    ∃ r, v = .reference r ∧ store r = o := by
  obtain ⟨hrecord, _⟩ := Option.filter_eq_some_iff.mp h
  cases v with
  | reference r =>
    rw [record?, Option.ite_none_left_eq_some] at hrecord
    exact ⟨r, rfl, Option.some.inj hrecord.2⟩
  | _ => cases hrecord

theorem string_eq_some {v : Value ρ} {s : JsString} (h : v.string? = some s) : v = .string s := by
  cases v with
  | string => rw [Option.some.inj h]
  | _ => cases h

theorem number_eq_some {v : Value ρ} {n : JsNumber} (h : v.number? = some n) : v = .number n := by
  cases v with
  | number => rw [Option.some.inj h]
  | _ => cases h

theorem ownData_of_ownString {o : Object ρ} {name : String} {s : JsString}
    (h : ownString o name = some s) : o.ownData (ofString name) = some (.string s) := by
  obtain ⟨v, hv, hs⟩ := Option.bind_eq_some_iff.mp h
  rw [hv, string_eq_some hs]

theorem ownData_of_readOptional {o : Object ρ} {name : JsString}
    (h : (readOptional o name).isSome = true) :
    o.ownData name = (readOptional o name).join.map .string := by
  rw [readOptional] at h ⊢
  rw [Object.ownData]
  cases hown : o.own name with
  | none => rfl
  | some property =>
    simp only [hown, Option.isSome_map] at h
    obtain ⟨s, hs⟩ := Option.isSome_iff_exists.mp h
    obtain ⟨v, hv, hvs⟩ := Option.bind_eq_some_iff.mp hs
    simp only [Option.bind_some, hv, string_eq_some hvs]
    rfl

theorem holdsCorrelation_of_parse {v : Value ρ} {c : JobCorrelationContext}
    (h : parseCorrelationContext store v = some c) : HoldsCorrelation store v c := by
  obtain ⟨o, ho, h⟩ := Option.bind_eq_some_iff.mp h
  obtain ⟨_, _, h⟩ := Option.bind_eq_some_iff.mp h
  obtain ⟨correlationId, hid, h⟩ := Option.bind_eq_some_iff.mp h
  obtain ⟨_, hall, h⟩ := Option.bind_eq_some_iff.mp h
  obtain ⟨_, hc⟩ := Option.dite_none_right_eq_some.mp h
  obtain rfl := Option.some.inj hc
  obtain ⟨r, rfl, rfl⟩ := plainObject_eq_some ho
  have hread := List.all_eq_true.mp ((Option.guard_eq_some' _).mp hall)
  exact ⟨ownData_of_ownString hid, fun key => ownData_of_readOptional (hread key key.mem_all)⟩

/-- What is read from an object are its own properties. -/
theorem holdsHeader_of_read {sha256 : List UInt8 → Digest} {v : Value ρ} {e : JobEnvelope ρ}
    (h : readJobEnvelope sha256 store v = some e) :
    HoldsHeader sha256 store v e.toJobHeader ∧ ownValue store v "payload" = some e.payload := by
  obtain ⟨o, ho, h⟩ := Option.bind_eq_some_iff.mp h
  obtain ⟨_, _, h⟩ := Option.bind_eq_some_iff.mp h
  obtain ⟨id, hid, h⟩ := Option.bind_eq_some_iff.mp h
  obtain ⟨kind, hkind, h⟩ := Option.bind_eq_some_iff.mp h
  obtain ⟨version, hversion, h⟩ := Option.bind_eq_some_iff.mp h
  obtain ⟨occurredAt, hoccurredAt, h⟩ := Option.bind_eq_some_iff.mp h
  obtain ⟨payload, hpayload, h⟩ := Option.bind_eq_some_iff.mp h
  obtain ⟨correlation, hcorrelation, h⟩ := Option.bind_eq_some_iff.mp h
  obtain ⟨_, he⟩ := Option.dite_none_right_eq_some.mp h
  obtain rfl := Option.some.inj he
  obtain ⟨r, rfl, rfl⟩ := plainObject_eq_some ho
  obtain ⟨w, hw, hn⟩ := Option.bind_eq_some_iff.mp hversion
  obtain rfl := number_eq_some hn
  refine ⟨⟨ownData_of_ownString hid, ownData_of_ownString hkind, hw,
    ownData_of_ownString hoccurredAt, ?_⟩, hpayload⟩
  rw [readCorrelation] at hcorrelation
  cases hown : (store r).own (ofString "correlation") with
  | none =>
    simp only [hown] at hcorrelation
    left
    refine ⟨?_, hcorrelation⟩
    rw [hasOwn, hown]
    rfl
  | some property =>
    simp only [hown] at hcorrelation
    obtain ⟨w, hvalue, hparse⟩ := Option.bind_eq_some_iff.mp hcorrelation
    right
    refine ⟨w, ?_, holdsCorrelation_of_parse hparse⟩
    rw [ownValue, Object.ownData, hown]
    exact hvalue

end Holding

section RoundTrip

theorem encloses_nil {t : JsonTree} : Encloses store [] t := fun _ h => absurd h List.not_mem_nil

variable [DecidableEq ρ] (sha256 : List UInt8 → Digest)

/-- What a text of an envelope says. -/
theorem envelopeBody_ok {e : JobEnvelope ρ} {budget : MessageByteBudget} {body : JsString}
    (h : envelopeBody sha256 store e budget = .ok body) :
    ∃ t s, Denotes store e.payload t ∧ (envelopeTree e.toJobHeader t).Plain ∧
      charge (maxJobJsonDepth + 1) (envelopeTree e.toJobHeader t) ⟨0, budget⟩ = .ok s ∧
        body = (envelopeTree e.toJobHeader t).stringify := by
  rw [envelopeBody] at h
  cases hclone : cloneSupportedJson (envelopeStore store e) (maxJobJsonDepth + 1) []
      (.reference .envelope) ⟨0, budget⟩ with
  | error failure =>
    rw [hclone] at h
    cases h
  | ok copy =>
    obtain ⟨u, s⟩ := copy
    simp only [hclone] at h
    obtain ⟨⟨hdenotes, hplain⟩, hcharge⟩ := cloneSupportedJson_ok _ _ _ _ _ _ hclone
    obtain ⟨t, rfl, ht⟩ := denotes_envelopeStore_iff.1 hdenotes
    obtain ⟨_, _, h⟩ := except_bind_ok.mp h
    obtain ⟨_, _, h⟩ := except_bind_ok.mp h
    exact ⟨t, s, ht, hplain, hcharge, (Except.ok.inj h).symm⟩

/-- An envelope with the same fields and a payload of the same tree has the same text. -/
theorem envelopeBody_of_charge {e : JobEnvelope ρ} {budget : MessageByteBudget} {t : JsonTree}
    {s : JsonCloneState} (ht : Denotes store e.payload t)
    (hplain : (envelopeTree e.toJobHeader t).Plain)
    (hcharge : charge (maxJobJsonDepth + 1) (envelopeTree e.toJobHeader t) ⟨0, budget⟩ = .ok s) :
    envelopeBody sha256 store e budget = .ok (envelopeTree e.toJobHeader t).stringify := by
  have hclone := cloneSupportedJson_of_charge (denotes_envelopeStore_iff.2 ⟨t, rfl, ht⟩) hplain
    (@encloses_nil _ (envelopeStore store e) _) hcharge
  have hparse := JsonText.parse_stringify hplain
  obtain ⟨payload, hread, _⟩ := readJobEnvelope_of_denotes sha256
    (envelopeTree_withoutSignedZeros e.toJobHeader t ▸ denotes_rootValue hplain.withoutSignedZeros)
  rw [← envelopeTree_withoutSignedZeros] at hread
  rw [envelopeBody, hclone]
  simp only [hparse, orFail, except_ok_bind, hread]

theorem isSqsCodePoint_of_assert {value : JsString} {text : CheckedText} {allowEmpty : Bool}
    {budget budget' : MessageByteBudget} (h : assertSqsText value text allowEmpty budget = .ok budget') :
    ∀ n ∈ codePoints value, isSqsCodePoint n = true := by
  rw [assertSqsText] at h
  split at h
  · cases h
  · generalize codePoints value = points at h
    induction points generalizing budget with
    | nil => exact fun _ h => absurd h List.not_mem_nil
    | cons n points ih =>
      rw [List.foldlM_cons] at h
      obtain ⟨_, hn, h⟩ := except_bind_ok.mp h
      split at hn
      · next hpoint => exact List.forall_mem_cons.mpr ⟨hpoint, ih h⟩
      · cases hn

def messageBytes (body : JsString) (h : JobHeader) (attributes : List (JsString × JsString)) : Nat :=
  utf8Length body + headerBytes h +
    (attributes.map fun a => attributeBytes a.1 (ofString "String") a.2).sum

/-- When each step of a serialization succeeds. -/
theorem serializeJobMessage_of_charge {envelope : Value ρ} {attributeStore : Store ρ'}
    {attributes : Value ρ'} {entries : List (JsString × JsString)}
    {budget₁ budget₂ : MessageByteBudget} {e : JobEnvelope ρ} {t : JsonTree} {s : JsonCloneState}
    (hattributes : parseJobMessageAttributesWithBudget attributeStore attributes (some 0) =
      .ok (entries, budget₁))
    (hread : readJobEnvelope sha256 store envelope = some e)
    (hheader : addHeader e.toJobHeader budget₁ = .ok budget₂)
    (ht : Denotes store e.payload t) (hplain : (envelopeTree e.toJobHeader t).Plain)
    (hcharge : charge (maxJobJsonDepth + 1) (envelopeTree e.toJobHeader t) ⟨0, budget₂⟩ = .ok s)
    (hsqs : assertSqsText (envelopeTree e.toJobHeader t).stringify .messageBody false none =
      .ok none)
    (hbytes : ¬maxJobMessageBytes <
      messageBytes (envelopeTree e.toJobHeader t).stringify e.toJobHeader entries) :
    serializeJobMessage sha256 store envelope attributeStore attributes =
      .ok ⟨(envelopeTree e.toJobHeader t).stringify,
        messageBytes (envelopeTree e.toJobHeader t).stringify e.toJobHeader entries, entries⟩ := by
  have hbody := envelopeBody_of_charge sha256 ht hplain hcharge
  rw [messageBytes] at hbytes
  rw [serializeJobMessage, hattributes]
  simp only [except_ok_bind, hread, orFail, hheader, hbody, hsqs, hbytes, if_false]
  rfl

/-- Without a budget nothing is counted. -/
theorem assertSqsText_none {value : JsString} {text : CheckedText} {allowEmpty : Bool}
    {budget : MessageByteBudget} (h : assertSqsText value text allowEmpty none = .ok budget) :
    budget = none := by
  rw [assertSqsText] at h
  split at h
  · cases h
  · generalize codePoints value = points at h
    induction points with
    | nil => exact (Except.ok.inj h).symm
    | cons n points ih =>
      rw [List.foldlM_cons] at h
      obtain ⟨_, hn, h⟩ := except_bind_ok.mp h
      split at hn
      · obtain rfl := Except.ok.inj hn
        exact ih h
      · cases hn

/-- A message that was accepted spells its job: the body is read as the same job, whose message
is the same again, and its characters are those that the queue accepts. -/
theorem serializeJobMessage_roundTrip {envelope : Value ρ} {attributeStore : Store ρ'}
    {attributes : Value ρ'} {message : SerializedJobMessage}
    (h : serializeJobMessage sha256 store envelope attributeStore attributes = .ok message) :
    ∃ value result payload t,
      JsonText.parse message.body = some value ∧
      parseJobEnvelope sha256 (treeStore value) (rootValue value) = .ok result ∧
      HoldsHeader sha256 store envelope result.toJobHeader ∧
      ownValue store envelope "payload" = some payload ∧ Denotes store payload t ∧
      Denotes (treeStore value) result.payload t.withoutSignedZeros ∧
      serializeJobMessage sha256 (envelopeStore (treeStore value) result) (.reference .envelope)
        attributeStore attributes = .ok message ∧
      ∀ n ∈ codePoints message.body, isSqsCodePoint n = true := by
  obtain ⟨⟨entries, budget₁⟩, hattributes, h⟩ := except_bind_ok.mp h
  obtain ⟨e, he, h⟩ := except_bind_ok.mp h
  obtain ⟨budget₂, hheader, h⟩ := except_bind_ok.mp h
  obtain ⟨body, hbody, h⟩ := except_bind_ok.mp h
  obtain ⟨budget₃, hsqs, h⟩ := except_bind_ok.mp h
  dsimp only at h
  split at h
  · cases h
  next hbytes =>
  obtain rfl := Except.ok.inj h
  obtain ⟨hholds, hpayload⟩ := holdsHeader_of_read (orFail_ok.mp he)
  obtain ⟨t, s, ht, hplain, hcharge, rfl⟩ := envelopeBody_ok sha256 hbody
  have hparse := JsonText.parse_stringify hplain
  have htext := stringify_withoutSignedZeros hplain
  have hplain' := hplain.withoutSignedZeros
  have hcharge' := charge_withoutSignedZeros (maxJobJsonDepth + 1)
    (envelopeTree e.toJobHeader t) ⟨0, budget₂⟩
  rw [hcharge] at hcharge'
  rw [envelopeTree_withoutSignedZeros] at hparse htext hplain' hcharge'
  obtain ⟨p, hread, hp⟩ := readJobEnvelope_of_denotes sha256 (denotes_rootValue hplain')
  -- the object of the result denotes the same tree, so that it is read and copied alike
  have hobject := (@denotes_envelopeStore_iff _ (treeStore _) ⟨e.toJobHeader, p⟩ _).mpr ⟨_, rfl, hp⟩
  obtain ⟨p', hread', hp'⟩ := readJobEnvelope_of_denotes sha256 hobject
  obtain rfl := assertSqsText_none hsqs
  have hsqs' := hsqs
  rw [← htext] at hsqs' hbytes
  have hagain := serializeJobMessage_of_charge sha256 (e := ⟨e.toJobHeader, p'⟩) hattributes hread'
    hheader hp' hplain' hcharge' hsqs' hbytes
  rw [htext] at hagain
  exact ⟨_, ⟨e.toJobHeader, p⟩, e.payload, t, hparse, orFail_ok.mpr hread, hholds, hpayload, ht, hp,
    hagain, isSqsCodePoint_of_assert hsqs⟩

end RoundTrip

section Sample

/-- A job without a correlation. Its payload holds one array twice, an unpaired surrogate and a
negative zero. -/
def sampleStore : Store (Fin 4)
  | 0 => .ofFields .object [(ofString "id", .string (ofString "job-1")),
      (ofString "kind", .string (ofString "sample.kind")),
      (ofString "version", .number (JsNumber.ofDecimal false 1 0)),
      (ofString "occurredAt", .string (ofString "2026-07-20T00:00:00.000Z")),
      (ofString "payload", .reference 1)] (by decide +kernel)
  | 1 => .ofFields .null [(ofString "7", .reference 2), (ofString "again", .reference 2),
      (ofString "text", .string [0xd800, 0x22, 0x0a]),
      (ofString "zero", .number (JsNumber.ofDecimal true 0 0))] (by decide)
  | 2 => .ofItems .array [.number (JsNumber.ofDecimal false 15 (-1)), .null, .boolean true]
  | 3 => .ofFields .object [(ofString "operationType", .string (ofString "sample"))]
      (by decide +kernel)

/-- The hash of the text from which the sample's correlation is made. -/
def sampleDigest : Digest :=
  ⟨"234cb0ae5576126624af48a110d120c14ea27292099083f8833ef7cdce4611b1",
    by rw [String.toList_ofList]; decide⟩

theorem sampleEnvelope_isSome :
    (readJobEnvelope (fun _ => sampleDigest) sampleStore (.reference 0)).isSome = true := by
  decide +kernel

def sampleEnvelope : JobEnvelope (Fin 4) :=
  (readJobEnvelope (fun _ => sampleDigest) sampleStore (.reference 0)).get sampleEnvelope_isSome

theorem readJobEnvelope_sample :
    readJobEnvelope (fun _ => sampleDigest) sampleStore (.reference 0) = some sampleEnvelope :=
  (Option.some_get sampleEnvelope_isSome).symm

def sampleItems : JsonTree :=
  .array [.number (JsNumber.ofDecimal false 15 (-1)), .null, .boolean true]

def samplePayload : JsonTree :=
  .object [(ofString "7", sampleItems), (ofString "again", sampleItems),
    (ofString "text", .string [0xd800, 0x22, 0x0a]),
    (ofString "zero", .number (JsNumber.ofDecimal true 0 0))]

theorem sampleItems_denotes : Denotes sampleStore (.reference 2) sampleItems := by
  refine @Denotes.array _ _ _ [(.number (JsNumber.ofDecimal false 15 (-1)), .number _),
    (.null, .null), (.boolean true, .boolean true)] (holdsItems_ofItems _) ?_
  simp only [List.forall_mem_cons]
  exact ⟨.number _, .null, .boolean true, fun _ h => absurd h List.not_mem_nil⟩

theorem samplePayload_denotes (h : sampleEnvelope.payload = .reference 1) :
    Denotes sampleStore sampleEnvelope.payload samplePayload := by
  rw [h, samplePayload, denotes_object_iff]
  refine ⟨1, _, rfl, ⟨rfl, Or.inr rfl, rfl, rfl, rfl⟩, ?_⟩
  exact .cons ⟨rfl, sampleItems_denotes⟩ (.cons ⟨rfl, sampleItems_denotes⟩
    (.cons ⟨rfl, .string _⟩ (.cons ⟨rfl, .number _⟩ .nil)))

theorem samplePayload_plain (hkeys : KeysOrdered [ofString "7", ofString "again",
      ofString "text", ofString "zero"])
    (h : (JsNumber.ofDecimal false 15 (-1)).isFinite = true ∧
      (JsNumber.ofDecimal true 0 0).isFinite = true) : samplePayload.Plain := by
  have hitems : sampleItems.Plain := by
    apply Plain.array
    simp only [List.forall_mem_cons]
    exact ⟨.number h.1, .null, .boolean true, fun _ h => absurd h List.not_mem_nil⟩
  refine Plain.object hkeys ?_
  simp only [List.forall_mem_cons]
  exact ⟨hitems, hitems, .string _, .number h.2, fun _ h => absurd h List.not_mem_nil⟩

def sampleBody : JsString := (envelopeTree sampleEnvelope.toJobHeader samplePayload).stringify

def sampleMessage : SerializedJobMessage where
  body := sampleBody
  bytes := messageBytes sampleBody sampleEnvelope.toJobHeader
    [(ofString "operationType", ofString "sample")]
  messageAttributes := [(ofString "operationType", ofString "sample")]

theorem samplePayload_evaluated : sampleEnvelope.payload = .reference 1 ∧
    KeysOrdered [ofString "7", ofString "again", ofString "text", ofString "zero"] ∧
      (JsNumber.ofDecimal false 15 (-1)).isFinite = true ∧
      (JsNumber.ofDecimal true 0 0).isFinite = true := by
  decide +kernel

theorem sampleMessage_evaluated :
    parseJobMessageAttributesWithBudget sampleStore (.reference 3) (some 0) =
      .ok ([(ofString "operationType", ofString "sample")], some 25) ∧
    addHeader sampleEnvelope.toJobHeader (some 25) = .ok (some 172) ∧
    charge (maxJobJsonDepth + 1) (envelopeTree sampleEnvelope.toJobHeader samplePayload)
      ⟨0, some 172⟩ = .ok ⟨18, some 450⟩ ∧
    assertSqsText sampleBody .messageBody false none = .ok none ∧
    ¬maxJobMessageBytes < messageBytes sampleBody sampleEnvelope.toJobHeader
      [(ofString "operationType", ofString "sample")] := by
  decide +kernel

theorem sample_serialized : serializeJobMessage (fun _ => sampleDigest) sampleStore (.reference 0)
    sampleStore (.reference 3) = .ok sampleMessage := by
  obtain ⟨hpayload, hkeys, hfinite⟩ := samplePayload_evaluated
  have hplain := plain_envelopeTree (h := sampleEnvelope.toJobHeader)
    (samplePayload_plain hkeys hfinite)
  have h := sampleMessage_evaluated
  exact serializeJobMessage_of_charge (fun _ => sampleDigest) h.1 readJobEnvelope_sample h.2.1
    (samplePayload_denotes hpayload) hplain h.2.2.1 h.2.2.2.1 h.2.2.2.2

theorem sampleMessage_roundTrip :
    ∃ value result payload t,
      JsonText.parse sampleMessage.body = some value ∧
      parseJobEnvelope (fun _ => sampleDigest) (treeStore value) (rootValue value) = .ok result ∧
      HoldsHeader (fun _ => sampleDigest) sampleStore (.reference 0) result.toJobHeader ∧
      ownValue sampleStore (.reference 0) "payload" = some payload ∧
      Denotes sampleStore payload t ∧
      Denotes (treeStore value) result.payload t.withoutSignedZeros ∧
      serializeJobMessage (fun _ => sampleDigest) (envelopeStore (treeStore value) result)
        (.reference .envelope) sampleStore (.reference 3) = .ok sampleMessage ∧
      ∀ n ∈ codePoints sampleMessage.body, isSqsCodePoint n = true :=
  serializeJobMessage_roundTrip (fun _ => sampleDigest) sample_serialized

end Sample

end CryptoLending.Outbox.MessageRoundTrip
