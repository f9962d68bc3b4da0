import Mathlib
import CryptoLending.Lib.JsHeap
import CryptoLending.Lib.JsonText
import CryptoLending.Outbox.Envelope

namespace CryptoLending.Outbox.MessagePolicy

open Lib JsString JsHeap JsonHeap Text Envelope

variable {ρ ρ' : Type}

def maxJobMessageBytes : Nat := 1048576

def maxCustomJobAttributes : Nat := 6

def maxJobJsonDepth : Nat := 64

def maxJobJsonNodes : Nat := 100000

section Errors

/-- The texts that are checked against the characters of the queue. -/
inductive CheckedText where
  | attributeValue
  | jobKind
  | jobVersion
  | jobId
  | correlationId
  | messageBody
  deriving DecidableEq

def CheckedText.label : CheckedText → String
  | .attributeValue => "Job message attribute value"
  | .jobKind => "Job kind"
  | .jobVersion => "Job version"
  | .jobId => "Job ID"
  | .correlationId => "Correlation ID"
  | .messageBody => "Job message body"

inductive JobJsonError where
  | structuralLimits
  | nonFiniteNumber
  | unsupportedValue
  | cycle
  | arrayPrototype
  | arrayNotDense
  | arrayItems
  | objectPrototype
  | symbolKeys
  | objectProperties
  deriving DecidableEq

def JobJsonError.message : JobJsonError → String
  | .structuralLimits => "Job JSON exceeds structural limits"
  | .nonFiniteNumber => "Job JSON contains a non-finite number"
  | .unsupportedValue => "Job JSON contains an unsupported value"
  | .cycle => "Job JSON contains a cycle"
  | .arrayPrototype => "Job JSON arrays must use the built-in prototype"
  | .arrayNotDense => "Job JSON arrays must be dense and contain no custom properties"
  | .arrayItems => "Job JSON arrays must contain enumerable data properties"
  | .objectPrototype => "Job JSON objects must be plain records"
  | .symbolKeys => "Job JSON cannot contain symbol keys"
  | .objectProperties => "Job JSON objects must contain enumerable data properties"

/-- Why an envelope has no text. -/
inductive UnsupportedJson where
  | data (error : JobJsonError)
  | notParsed
  | envelope (error : JobEnvelopeError)
  deriving DecidableEq

inductive JobMessageError where
  | messageTooLarge
  | unsupportedText (text : CheckedText)
  | invalidAttributes
  | attributesNotPlain
  | attributesNotStrings
  | tooManyAttributes
  | attributeName
  | envelope (error : JobEnvelopeError)
  | unsupportedJson (cause : UnsupportedJson)
  deriving DecidableEq

def JobMessageError.message : JobMessageError → String
  | .messageTooLarge => "Job message cannot exceed 1048576 bytes"
  | .unsupportedText text => text.label ++ " contains characters SQS cannot accept"
  | .invalidAttributes => "Invalid job message attributes"
  | .attributesNotPlain => "Job message attributes must be a plain object"
  | .attributesNotStrings => "Job message attributes must contain only string data properties"
  | .tooManyAttributes => "Job messages support at most 6 custom attributes"
  | .attributeName => "Invalid or reserved job message attribute name"
  | .envelope error => error.message
  | .unsupportedJson _ => "Job message must contain only supported JSON data"

end Errors

section Budget

/-- The bytes of a message so far, where they are counted. -/
abbrev MessageByteBudget := Option Nat

/-- Count more bytes, up to the limit of a message. -/
def addMessageBytes (budget : MessageByteBudget) (bytes : Nat) : Option MessageByteBudget :=
  match budget with
  | none => some none
  | some counted =>
    if maxJobMessageBytes < counted + bytes then none else some (some (counted + bytes))

def utf8CodePointBytes (codePoint : Nat) : Nat :=
  if codePoint ≤ 0x7f then 1
  else if codePoint ≤ 0x7ff then 2
  else if codePoint ≤ 0xffff then 3
  else 4

/-- The code points of the texts that the queue accepts. -/
def isSqsCodePoint (codePoint : Nat) : Bool :=
  codePoint = 0x09 || codePoint = 0x0a || codePoint = 0x0d ||
    (0x20 ≤ codePoint && codePoint ≤ 0xd7ff) || (0xe000 ≤ codePoint && codePoint ≤ 0xfffd) ||
    (0x10000 ≤ codePoint && codePoint ≤ 0x10ffff)

def assertSqsText (value : JsString) (text : CheckedText) (allowEmpty : Bool)
    (budget : MessageByteBudget) : Except JobMessageError MessageByteBudget :=
  if !allowEmpty && value.isEmpty then .error (.unsupportedText text)
  else
    (codePoints value).foldlM (fun budget codePoint =>
      if isSqsCodePoint codePoint then
        orFail (addMessageBytes budget (utf8CodePointBytes codePoint)) .messageTooLarge
      else .error (.unsupportedText text)) budget

def addAttributeToBudget (budget : MessageByteBudget) (name dataType value : JsString)
    (text : CheckedText) : Except JobMessageError MessageByteBudget := do
  let budget ← orFail (addMessageBytes budget (utf8Length name + utf8Length dataType))
    .messageTooLarge
  assertSqsText value text false budget

end Budget

section Attributes

def lowerUnit (u : UInt16) : UInt16 := if 0x41 ≤ u && u ≤ 0x5a then u + 0x20 else u

def reservedJobMessageAttributeNames : List JsString :=
  ["correlationId", "jobId", "jobKind", "jobVersion"].map ofString

def isNameUnit (u : UInt16) : Bool :=
  (0x41 ≤ u && u ≤ 0x5a) || (0x61 ≤ u && u ≤ 0x7a) || (0x30 ≤ u && u ≤ 0x39) ||
    u = 0x5f || u = 0x2e || u = 0x2d

/-- Names with the wrong characters are ruled out before their letters are compared. -/
def isValidAttributeName (name : JsString) : Bool :=
  let normalized := name.map lowerUnit
  1 ≤ name.length && name.length ≤ 256 && name.all isNameUnit &&
    name.head? != some (unit '.') && name.getLast? != some (unit '.') &&
    !decide (ofString ".." <:+: name) &&
    !(ofString "aws.").isPrefixOf normalized && !(ofString "amazon.").isPrefixOf normalized &&
    !(reservedJobMessageAttributeNames.map fun name => name.map lowerUnit).contains normalized

/-- The own properties of an object when all of them hold strings. -/
def stringEntries (o : Object ρ) : Option (List (JsString × JsString)) :=
  o.properties.mapM fun p => (p.2.value?.bind Value.string?).map (p.1, ·)

def addAttribute (budget : MessageByteBudget) (entry : JsString × JsString) :
    Except JobMessageError MessageByteBudget :=
  if isValidAttributeName entry.1 then
    addAttributeToBudget budget entry.1 (ofString "String") entry.2 .attributeValue
  else .error .attributeName

def parseJobMessageAttributesWithBudget (store : Store ρ) (value : Value ρ)
    (budget : MessageByteBudget) :
    Except JobMessageError (List (JsString × JsString) × MessageByteBudget) := do
  let o ← orFail (record? store value) .invalidAttributes
  failWhen (o.isPlain = false) .attributesNotPlain
  failWhen (o.symbols.isEmpty = false) .invalidAttributes
  let entries ← orFail (stringEntries o) .attributesNotStrings
  failWhen (maxCustomJobAttributes < entries.length) .tooManyAttributes
  let budget ← entries.foldlM addAttribute budget
  .ok (entries, budget)

def parseJobMessageAttributes (store : Store ρ) (value : Value ρ) :
    Except JobMessageError (List (JsString × JsString)) :=
  (parseJobMessageAttributesWithBudget store value none).map Prod.fst

theorem foldlM_none {α ε : Type} {step : MessageByteBudget → α → Except ε MessageByteBudget}
    (hstep : ∀ budget budget' a, step budget a = .ok budget' → step none a = .ok none) {l : List α}
    {budget budget' : MessageByteBudget} (h : l.foldlM step budget = .ok budget') :
    l.foldlM step none = .ok none := by
  induction l generalizing budget with
  | nil => rfl
  | cons a l ih =>
    rw [List.foldlM_cons] at h ⊢
    obtain ⟨next, hnext, hrest⟩ := except_bind_ok.mp h
    rw [hstep budget next a hnext]
    exact ih hrest

theorem addAttribute_none {budget budget' : MessageByteBudget} {entry : JsString × JsString}
    (h : addAttribute budget entry = .ok budget') : addAttribute none entry = .ok none := by
  rw [addAttribute] at h ⊢
  split at h
  · rename_i hname
    obtain ⟨counted, _, htext⟩ := except_bind_ok.mp h
    rw [if_pos hname, addAttributeToBudget, addMessageBytes, orFail, except_ok_bind]
    rw [assertSqsText] at htext ⊢
    split at htext
    · cases htext
    · rename_i hempty
      rw [if_neg hempty]
      refine foldlM_none (fun budget budget' codePoint hstep => ?_) htext
      split at hstep
      · rename_i hcode
        rw [if_pos hcode]
        rfl
      · cases hstep
  · cases h

/-- Attributes that a message has room for are read back without counting their bytes. -/
theorem parseJobMessageAttributes_of_budget {store : Store ρ} {value : Value ρ}
    {budget budget' : MessageByteBudget} {entries : List (JsString × JsString)}
    (h : parseJobMessageAttributesWithBudget store value budget = .ok (entries, budget')) :
    parseJobMessageAttributes store value = .ok entries := by
  simp only [parseJobMessageAttributesWithBudget, except_bind_ok] at h
  obtain ⟨o, ho, _, hplain, _, hsymbols, entries', hentries, _, hcount, counted, hfold, h⟩ := h
  obtain ⟨rfl, rfl⟩ := Prod.mk.inj (Except.ok.inj h)
  have hnone : entries'.foldlM addAttribute none = .ok none :=
    foldlM_none (fun _ _ _ hstep => addAttribute_none hstep) hfold
  have hread : parseJobMessageAttributesWithBudget store value none = .ok (entries', none) := by
    rw [parseJobMessageAttributesWithBudget, ho, except_ok_bind, hplain, except_ok_bind, hsymbols,
      except_ok_bind, hentries, except_ok_bind, hcount, except_ok_bind, hnone]
    rfl
  rw [parseJobMessageAttributes, hread]
  rfl

end Attributes

section Clone

structure JsonCloneState where
  nodes : Nat
  budget : MessageByteBudget
  deriving DecidableEq

/-- What ends a copy early. -/
inductive CloneFailure where
  | messageTooLarge
  | data (error : JobJsonError)
  deriving DecidableEq

def spend (state : JsonCloneState) (bytes : Nat) : Except CloneFailure JsonCloneState :=
  orFail ((addMessageBytes state.budget bytes).map fun budget => { state with budget })
    .messageTooLarge

/-- The bytes of the units of a quoted string. -/
def jsonUnitBytes : JsString → Nat
  | [] => 0
  | u :: us =>
    if u = 0x22 || u = 0x5c then 2 + jsonUnitBytes us
    else if u ≤ 0x1f then
      (if u = 0x08 || u = 0x09 || u = 0x0a || u = 0x0c || u = 0x0d then 2 else 6) +
        jsonUnitBytes us
    else if u ≤ 0x7f then 1 + jsonUnitBytes us
    else if u ≤ 0x7ff then 2 + jsonUnitBytes us
    else if isHigh u then
      match us with
      | [] => 6
      | v :: vs => if isLow v then 4 + jsonUnitBytes vs else 6 + jsonUnitBytes (v :: vs)
    else (if isLow u then 6 else 3) + jsonUnitBytes us

/-- The bytes of a quoted string. They are counted piece by piece up to the same limit. -/
def jsonStringBytes (us : JsString) : Nat := 2 + jsonUnitBytes us

def isNegativeZero : JsNumber → Bool
  | .finite negative magnitude => negative && magnitude.units == 0
  | _ => false

def jsonNumberBytes (n : JsNumber) : Nat := if isNegativeZero n then 1 else n.toString.length

/-- A copy that may fail, with the state passed along. -/
abbrev Cloning (α β : Type) := α → JsonCloneState → Except CloneFailure (β × JsonCloneState)

def cloneEach {α β : Type} (clone : Cloning α β) : Cloning (List α) (List β)
  | [], state => .ok ([], state)
  | x :: xs, state => do
    let (y, state) ← clone x state
    let (ys, state) ← cloneEach clone xs state
    .ok (y :: ys, state)

def cloneElement (clone : Cloning (Value ρ) JsonTree) :
    Cloning (Option (Property ρ)) JsonTree
  | some (.data value true), state => clone value state
  | _, _ => .error (.data .arrayItems)

def cloneProperty (clone : Cloning (Value ρ) JsonTree) :
    Cloning (JsString × Property ρ) (JsString × JsonTree)
  | (key, .data value true), state => do
    let state ← spend state (jsonStringBytes key + 1)
    let (t, state) ← clone value state
    .ok ((key, t), state)
  | _, _ => .error (.data .objectProperties)

/-- The indices and the other keys of an array are as many as its length. -/
def isDense (o : Object ρ) (elements : List (Option (Property ρ))) : Bool :=
  o.symbols.isEmpty && o.keys.all (matchesText isCanonicalUint) &&
    elements.countP Option.isSome + o.keys.length == elements.length

/-- Copy an object. The copies have their keys in the order of the object's own keys. -/
def cloneObject (clone : Cloning (Value ρ) JsonTree) : Cloning (Object ρ) JsonTree :=
  fun o state =>
    match o.elements with
    | some elements =>
      if ¬(o.prototype = .array ∨ o.prototype = .null) then .error (.data .arrayPrototype)
      else if isDense o elements = false then .error (.data .arrayNotDense)
      else do
        let state ← spend state (2 + (elements.length - 1))
        let (items, state) ← cloneEach (cloneElement clone) elements state
        .ok (.array items, state)
    | none =>
      if o.isPlain = false then .error (.data .objectPrototype)
      else do
        let state ← spend state (2 + (o.properties.length + o.symbols.length - 1))
        let (members, state) ← cloneEach (cloneProperty clone) o.properties state
        if o.symbols.isEmpty = false then .error (.data .symbolKeys)
        else .ok (.object members, state)

def leaf (t : JsonTree) (bytes : Nat) (state : JsonCloneState) :
    Except CloneFailure (JsonTree × JsonCloneState) :=
  (spend state bytes).map (t, ·)

/-- Copy a value into a tree. The first argument is the depth that is left, the second the
objects around the value. -/
def cloneSupportedJson [DecidableEq ρ] (store : Store ρ) :
    Nat → List ρ → Cloning (Value ρ) JsonTree
  | 0, _, _, _ => .error (.data .structuralLimits)
  | depth + 1, seen, value, state =>
    if maxJobJsonNodes < state.nodes + 1 then .error (.data .structuralLimits)
    else
      let state := { state with nodes := state.nodes + 1 }
      match value with
      | .null => leaf .null 4 state
      | .string s => leaf (.string s) (jsonStringBytes s) state
      | .boolean b => leaf (.boolean b) (if b then 4 else 5) state
      | .number n =>
        if n.isFinite then leaf (.number n) (jsonNumberBytes n) state
        else .error (.data .nonFiniteNumber)
      | .reference r =>
        if (store r).callable then .error (.data .unsupportedValue)
        else if r ∈ seen then .error (.data .cycle)
        else cloneObject (cloneSupportedJson store depth (r :: seen)) (store r) state
      | _ => .error (.data .unsupportedValue)

end Clone

section Envelope

/-- References in a heap with the parsed envelope and its correlation. -/
inductive EnvelopeRef (ρ : Type) where
  | envelope
  | correlation
  | input (r : ρ)
  deriving DecidableEq

def correlationFields (correlation : JobCorrelationContext) : List (JsString × JsString) :=
  (ofString "correlationId", correlation.correlationId) ::
    CorrelationKey.all.filterMap fun key => (correlation.optional key).map (key.name, ·)

theorem keys_filterMap_sublist {α β γ : Type} (name : α → β) (value : α → Option γ) (l : List α) :
    ((l.filterMap fun a => (value a).map (name a, ·)).map Prod.fst).Sublist (l.map name) := by
  induction l with
  | nil => exact List.Sublist.slnil
  | cons a l ih =>
    cases h : value a with
    | none =>
      rw [List.filterMap_cons_none (by rw [h]; rfl)]
      exact ih.cons _
    | some c =>
      rw [List.filterMap_cons_some (by rw [h]; rfl)]
      exact ih.cons_cons _

theorem correlationKeys_ordered : KeysOrdered correlationKeys := by decide +kernel

theorem keys_correlationFields_ordered (correlation : JobCorrelationContext) :
    KeysOrdered ((correlationFields correlation).map Prod.fst) :=
  correlationKeys_ordered.sublist ((keys_filterMap_sublist _ _ _).cons_cons _)

def envelopeFields (e : JobEnvelope ρ) : List (JsString × Value (EnvelopeRef ρ)) :=
  [(ofString "id", .string e.id), (ofString "kind", .string e.kind),
    (ofString "version", .number e.version), (ofString "occurredAt", .string e.occurredAt),
    (ofString "correlation", .reference .correlation),
    (ofString "payload", e.payload.map .input)]

theorem jobEnvelopeKeys_ordered : KeysOrdered jobEnvelopeKeys := by decide +kernel

/-- The heap in which an envelope was parsed, with the objects of the result. -/
def envelopeStore (store : Store ρ) (e : JobEnvelope ρ) : Store (EnvelopeRef ρ)
  | .envelope => .ofFields .object (envelopeFields e) jobEnvelopeKeys_ordered
  | .correlation =>
    .ofFields .null ((correlationFields e.correlation).map fun f => (f.1, .string f.2)) (by
      rw [List.map_map]
      exact keys_correlationFields_ordered e.correlation)
  | .input r => (store r).map .input

structure SerializedJobMessage where
  body : JsString
  bytes : Nat
  messageAttributes : List (JsString × JsString)
  deriving DecidableEq

def attributeBytes (name dataType value : JsString) : Nat :=
  utf8Length name + utf8Length dataType + utf8Length value

def cloneError : CloneFailure → JobMessageError
  | .messageTooLarge => .messageTooLarge
  | .data error => .unsupportedJson (.data error)

variable [DecidableEq ρ] (sha256 : List UInt8 → Digest) (store : Store ρ)

/-- The text of a parsed envelope, once it can be parsed again. -/
def envelopeBody (e : JobEnvelope ρ) (budget : MessageByteBudget) :
    Except JobMessageError JsString :=
  match cloneSupportedJson (envelopeStore store e) (maxJobJsonDepth + 1) []
      (.reference .envelope) ⟨0, budget⟩ with
  | .error failure => .error (cloneError failure)
  | .ok (safeEnvelope, _) => do
    let serialized := safeEnvelope.stringify
    let parsed ← orFail (JsonText.parse serialized) (.unsupportedJson .notParsed)
    let _ ← orFail (readJobEnvelope sha256 (treeStore parsed) (rootValue parsed))
      (.unsupportedJson (.envelope .invalidJobEnvelope))
    .ok serialized

/-- The bytes of the attributes that every message has. -/
def headerBytes (h : JobHeader) : Nat :=
  attributeBytes (ofString "jobKind") (ofString "String") h.kind +
    attributeBytes (ofString "jobVersion") (ofString "Number") h.version.toString +
    attributeBytes (ofString "jobId") (ofString "String") h.id +
    attributeBytes (ofString "correlationId") (ofString "String") h.correlation.correlationId

def addHeader (h : JobHeader) (budget : MessageByteBudget) :
    Except JobMessageError MessageByteBudget := do
  let budget ← addAttributeToBudget budget (ofString "jobKind") (ofString "String") h.kind .jobKind
  let budget ← addAttributeToBudget budget (ofString "jobVersion") (ofString "Number")
    h.version.toString .jobVersion
  let budget ← addAttributeToBudget budget (ofString "jobId") (ofString "String") h.id .jobId
  addAttributeToBudget budget (ofString "correlationId") (ofString "String")
    h.correlation.correlationId .correlationId

/-- The message of a job. Its envelope and its attributes are read each in its own heap. -/
def serializeJobMessage (envelope : Value ρ) (attributeStore : Store ρ')
    (messageAttributes : Value ρ') : Except JobMessageError SerializedJobMessage := do
  let (attributes, budget) ←
    parseJobMessageAttributesWithBudget attributeStore messageAttributes (some 0)
  let normalizedEnvelope ← orFail (readJobEnvelope sha256 store envelope)
    (.envelope .invalidJobEnvelope)
  let budget ← addHeader normalizedEnvelope.toJobHeader budget
  let body ← envelopeBody sha256 store normalizedEnvelope budget
  let _ ← assertSqsText body .messageBody false none
  let bytes := utf8Length body + headerBytes normalizedEnvelope.toJobHeader +
    (attributes.map fun a => attributeBytes a.1 (ofString "String") a.2).sum
  if maxJobMessageBytes < bytes then .error .messageTooLarge
  else .ok ⟨body, bytes, attributes⟩

end Envelope

end CryptoLending.Outbox.MessagePolicy
