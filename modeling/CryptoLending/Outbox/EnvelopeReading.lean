import CryptoLending.Outbox.MessagePolicy

namespace CryptoLending.Outbox.EnvelopeReading

open Lib JsString JsHeap JsonTree Envelope MessagePolicy

variable {ρ : Type} {store : Store ρ}

section Properties

theorem plainObject_of_holds {r : ρ} {fields : List (JsString × Value ρ)}
    (h : HoldsFields (store r) fields) : plainObject? store (.reference r) = some (store r) := by
  have hplain : (store r).isPlain = true := by
    obtain hproto | hproto := h.prototype
    · rw [Object.isPlain, hproto]
      rfl
    · rw [Object.isPlain, hproto]
      rfl
  rw [plainObject?, record?, h.callable, h.elements]
  change Option.filter Object.isPlain (some (store r)) = _
  rw [Option.filter_some, if_pos hplain]

theorem keys_of_holds {o : Object ρ} {fields : List (JsString × Value ρ)}
    (h : HoldsFields o fields) : o.keys = fields.map Prod.fst := by
  rw [Object.keys, h.properties, List.map_map]
  rfl

theorem lookup_eq_some {l : List (JsString × Property ρ)} (hl : (l.map Prod.fst).Nodup)
    {name : JsString} {property : Property ρ} (h : (name, property) ∈ l) :
    l.lookup name = some property := by
  obtain ⟨before, after, rfl⟩ := List.append_of_mem h
  refine List.lookup_eq_some_iff.mpr ⟨before, after, rfl, fun p hp => ?_⟩
  rw [List.map_append, List.map_cons] at hl
  rw [bne_iff_ne]
  rintro rfl
  exact (List.nodup_append.mp hl).2.2 p.1 (List.mem_map_of_mem hp) p.1 List.mem_cons_self rfl

theorem own_of_mem {o : Object ρ} {fields : List (JsString × Value ρ)} (h : HoldsFields o fields)
    {name : JsString} {v : Value ρ} (hmem : (name, v) ∈ fields) :
    o.own name = some (.data v true) := by
  have hnodup := o.ordered.nodup
  rw [Object.own]
  apply lookup_eq_some hnodup
  rw [h.properties]
  exact List.mem_map_of_mem (f := fun f => (f.1, Property.data f.2 true)) hmem

theorem own_of_not_mem {o : Object ρ} {fields : List (JsString × Value ρ)}
    (h : HoldsFields o fields) {name : JsString} (hnot : name ∉ fields.map Prod.fst) :
    o.own name = none := by
  rw [Object.own, List.lookup_eq_none_iff]
  intro p hp
  rw [bne_iff_ne]
  rintro rfl
  apply hnot
  rw [← keys_of_holds h]
  exact List.mem_map_of_mem hp

theorem onlyKeys_of_holds {o : Object ρ} {fields : List (JsString × Value ρ)}
    (h : HoldsFields o fields) {keys : List JsString} (hkeys : ∀ f ∈ fields, f.1 ∈ keys) :
    onlyKeys o keys = true := by
  rw [onlyKeys, h.symbols, keys_of_holds h, List.all_map]
  exact List.all_eq_true.mpr fun f hf => List.contains_iff_mem.mpr (hkeys f hf)

end Properties

section Correlation

theorem CorrelationKey.name_injective : Function.Injective CorrelationKey.name := by
  have hall : ∀ j ∈ CorrelationKey.all, ∀ k ∈ CorrelationKey.all, j.name = k.name → j = k := by
    decide
  exact fun j k => hall j j.mem_all k k.mem_all

theorem correlationId_ne_name (key : CorrelationKey) : key.name ≠ ofString "correlationId" := by
  have hall : ∀ k ∈ CorrelationKey.all, k.name ≠ ofString "correlationId" := by decide
  exact hall key key.mem_all

theorem mem_correlationFields {c : JobCorrelationContext} {key : CorrelationKey} {id : JsString}
    (h : c.optional key = some id) : (key.name, id) ∈ correlationFields c := by
  refine List.mem_cons_of_mem _ (List.mem_filterMap.mpr ⟨key, key.mem_all, ?_⟩)
  rw [h]
  rfl

theorem optional_of_mem {c : JobCorrelationContext} {key : CorrelationKey} {id : JsString}
    (h : (key.name, id) ∈ correlationFields c) : c.optional key = some id := by
  obtain h | h := List.mem_cons.mp h
  · exact absurd (congrArg Prod.fst h) (correlationId_ne_name key)
  · obtain ⟨k, _, hk⟩ := List.mem_filterMap.mp h
    obtain ⟨value, hvalue, hpair⟩ := Option.map_eq_some_iff.mp hk
    obtain ⟨hname, rfl⟩ := Prod.mk.inj hpair
    rwa [← CorrelationKey.name_injective hname]

theorem keys_correlationFields {c : JobCorrelationContext} :
    ∀ f ∈ correlationFields c, f.1 ∈ correlationKeys := by
  refine List.forall_mem_cons.mpr ⟨List.mem_cons_self, fun f hf => ?_⟩
  obtain ⟨k, hk, hf⟩ := List.mem_filterMap.mp hf
  obtain ⟨value, _, rfl⟩ := Option.map_eq_some_iff.mp hf
  exact List.mem_cons_of_mem _ (List.mem_map_of_mem hk)

def stringFields (fields : List (JsString × JsString)) : List (JsString × Value ρ) :=
  fields.map fun f => (f.1, .string f.2)

theorem mem_stringFields {fields : List (JsString × JsString)} {name id : JsString}
    (h : (name, id) ∈ fields) : (name, Value.string id) ∈ stringFields (ρ := ρ) fields :=
  List.mem_map_of_mem (f := fun f => (f.1, Value.string f.2)) h

theorem readOptional_of_holds {o : Object ρ} {c : JobCorrelationContext}
    (h : HoldsFields o (stringFields (correlationFields c))) (key : CorrelationKey) :
    readOptional o key.name = some (c.optional key) := by
  cases hid : c.optional key with
  | some id =>
    rw [readOptional, own_of_mem h (mem_stringFields (mem_correlationFields hid))]
    rfl
  | none =>
    rw [readOptional, own_of_not_mem h]
    intro hmem
    rw [stringFields, List.map_map] at hmem
    obtain ⟨f, hf, hname⟩ := List.mem_map.mp hmem
    have hsome := @optional_of_mem c key f.2 (by rwa [← hname])
    rw [hid] at hsome
    cases hsome

/-- The object of a correlation is read as that correlation. -/
theorem parseCorrelationContext_of_holds {r : ρ} {c : JobCorrelationContext}
    (h : HoldsFields (store r) (stringFields (correlationFields c))) :
    parseCorrelationContext store (.reference r) = some c := by
  have hkeys : onlyKeys (store r) correlationKeys = true :=
    onlyKeys_of_holds h (List.forall_mem_map.mpr keys_correlationFields)
  have hid : ownString (store r) "correlationId" = some c.correlationId := by
    rw [ownString, Object.ownData, own_of_mem h (mem_stringFields List.mem_cons_self)]
    rfl
  have hall : (CorrelationKey.all.all fun key => (readOptional (store r) key.name).isSome) = true := by
    refine List.all_eq_true.mpr fun key _ => ?_
    rw [readOptional_of_holds h]
    rfl
  have hoptional : ∀ key : CorrelationKey, (readOptional (store r) key.name).join =
      c.optional key := by
    intro key
    rw [readOptional_of_holds h]
    rfl
  rw [parseCorrelationContext, plainObject_of_holds h]
  simp only [Option.bind_eq_bind, Option.bind_some, hkeys, guard, if_true, Option.pure_def, hid,
    hall, hoptional]
  exact dif_pos ⟨c.safe, c.canonical, c.request, c.legacy⟩

end Correlation

section Envelope

variable (sha256 : List UInt8 → Digest)

/-- The fields of the object of an envelope. -/
def headerFields (h : JobHeader) (correlation payload : Value ρ) : List (JsString × Value ρ) :=
  [(ofString "id", .string h.id), (ofString "kind", .string h.kind),
    (ofString "version", .number h.version), (ofString "occurredAt", .string h.occurredAt),
    (ofString "correlation", correlation), (ofString "payload", payload)]

/-- The object of an envelope is read as that envelope. -/
theorem readJobEnvelope_of_holds {r : ρ} {h : JobHeader} {correlation payload : Value ρ}
    (holds : HoldsFields (store r) (headerFields h correlation payload))
    (hc : parseCorrelationContext store correlation = some h.correlation) :
    readJobEnvelope sha256 store (.reference r) = some ⟨h, payload⟩ := by
  have hkeys : onlyKeys (store r) jobEnvelopeKeys = true := by
    refine onlyKeys_of_holds holds fun f hf => ?_
    exact List.mem_map_of_mem (f := Prod.fst) hf
  have hrequired : (requiredJobEnvelopeKeys.all fun key => ((store r).own key).isSome) = true := by
    have hsub : ∀ key ∈ requiredJobEnvelopeKeys,
        key ∈ (headerFields h correlation payload).map Prod.fst := by
      intro key hkey
      have hall : ∀ k ∈ requiredJobEnvelopeKeys, k ∈ jobEnvelopeKeys := by decide
      exact hall key hkey
    refine List.all_eq_true.mpr fun key hkey => ?_
    obtain ⟨f, hf, rfl⟩ := List.mem_map.mp (hsub key hkey)
    rw [own_of_mem holds hf]
    rfl
  have hown : ∀ name v, (name, v) ∈ headerFields h correlation payload →
      (store r).ownData name = some v := by
    intro name v hmem
    rw [Object.ownData, own_of_mem holds hmem]
    rfl
  have hid : ownString (store r) "id" = some h.id := by
    rw [ownString, hown _ (.string h.id) (by simp [headerFields])]
    rfl
  have hkind : ownString (store r) "kind" = some h.kind := by
    rw [ownString, hown _ (.string h.kind) (by simp [headerFields])]
    rfl
  have hoccurredAt : ownString (store r) "occurredAt" = some h.occurredAt := by
    rw [ownString, hown _ (.string h.occurredAt) (by simp [headerFields])]
    rfl
  have hversion := hown (ofString "version") (.number h.version) (by simp [headerFields])
  have hpayload := hown (ofString "payload") payload (by simp [headerFields])
  have hcorrelation : readCorrelation sha256 store (store r) h.id = some h.correlation := by
    rw [readCorrelation, @own_of_mem ρ _ _ holds (ofString "correlation") correlation
      (by simp [headerFields])]
    exact hc
  rw [readJobEnvelope, plainObject_of_holds holds]
  simp only [Option.bind_eq_bind, Option.bind_some, hkeys, hrequired, and_self, guard, if_true,
    Option.pure_def, hid, hkind, hversion, Value.number?, hoccurredAt, hpayload, hcorrelation]
  exact dif_pos ⟨h.id_valid, h.kind_valid, h.version_valid, h.occurredAt_valid⟩

end Envelope

end CryptoLending.Outbox.EnvelopeReading
