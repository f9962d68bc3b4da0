import CryptoLending.Lib.JsRearranged
import CryptoLending.RoutingFees.SnapshotTotals

namespace CryptoLending.RoutingFees.SnapshotFingerprint

open Lib Lib.JsValue Lib.JsonTree Lib.JsString
open RoutingFeeAmount RoutingFeeRules RoutingFeeRoute RoutingFeeSnapshot SnapshotTotals

section Trees

theorem scale_lt (rate : RoutingFeeDecimalV1) : rate.scale < 2 ^ 53 := by
  have h := rate.accepted
  simp only [isDecimal, Bool.and_eq_true, decide_eq_true_eq] at h
  exact h.1.2.trans_lt (by decide)

theorem rateTree_inj {a b : RoutingFeeDecimalV1} (h : rateTree a = rateTree b) : a = b := by
  have hfields := record_inj h
  simp only [List.cons.injEq, Prod.mk.injEq, true_and, and_true, text_inj] at hfields
  have hscale := natural_inj (scale_lt a) (scale_lt b) hfields.2
  cases a
  cases b
  simp_all

theorem tierText_inj {a b : RoutingFeeTier} (h : a.text = b.text) : a = b := by
  cases a <;> cases b <;> first | rfl | exact absurd h (by decide)

theorem roundingText_inj {a b : RoutingFeeRoundingMode} (h : a.text = b.text) : a = b := by
  cases a <;> cases b <;> first | rfl | exact absurd h (by decide)

theorem endTree_inj {a b : Option IsoReading.PlainTime}
    (h : (a.map (text ·.toISOString)).getD .null = (b.map (text ·.toISOString)).getD .null) :
    a = b := by
  cases a with
  | none =>
    cases b with
    | none => rfl
    | some u => cases h
  | some t =>
    cases b with
    | none => cases h
    | some u =>
      have htext := IsoText.TimeValue.toISOString_injective (text_inj.mp h)
      rw [IsoReading.PlainTime.ext_time htext]

theorem time_inj {t u : IsoReading.PlainTime} (h : t.toISOString = u.toISOString) : t = u :=
  IsoReading.PlainTime.ext_time (IsoText.TimeValue.toISOString_injective h)

theorem version_inj {a b : PositiveVersion} (h : natural a.value = natural b.value) : a = b := by
  have hvalue := natural_inj a.safe b.safe h
  cases a
  cases b
  simp_all

theorem ruleTree_inj {a b : RoutingFeeRuleVersionV1} (h : ruleTree a = ruleTree b) : a = b := by
  have hfields := record_inj h
  simp only [List.cons.injEq, Prod.mk.injEq, true_and, and_true, text_inj] at hfields
  obtain ⟨hid, hversion, hfrom, huntil, hrounding, hrates⟩ := hfields
  have hrates := record_inj hrates
  simp only [List.cons.injEq, Prod.mk.injEq, true_and, and_true] at hrates
  obtain ⟨hdirect, hmaterial⟩ := hrates
  have hmaterial := record_inj hmaterial
  simp only [List.cons.injEq, Prod.mk.injEq, true_and, and_true] at hmaterial
  obtain ⟨hfree, hindividual, hpro⟩ := hmaterial
  obtain ⟨id, version, start, until_, rounding, ⟨direct, ⟨free, individual, pro⟩, _⟩, _⟩ := a
  obtain ⟨id', version', start', until', rounding', ⟨direct', ⟨free', individual', pro'⟩, _⟩, _⟩ := b
  obtain rfl := Matching.ext_text hid
  obtain rfl := version_inj hversion
  obtain rfl := time_inj hfrom
  obtain rfl := endTree_inj huntil
  obtain rfl := roundingText_inj hrounding
  obtain rfl := rateTree_inj hdirect
  obtain rfl := rateTree_inj hfree
  obtain rfl := rateTree_inj hindividual
  obtain rfl := rateTree_inj hpro
  rfl

theorem endpointTree_inj {a b : RoutingFeeRouteEndpointV1} (h : endpointTree a = endpointTree b) :
    a = b := by
  have hfields := record_inj h
  simp only [List.cons.injEq, Prod.mk.injEq, true_and, and_true, text_inj] at hfields
  cases a
  cases b
  obtain rfl := Matching.ext_text hfields.1
  obtain rfl := Matching.ext_text hfields.2
  rfl

theorem legKindText_inj {a b : RoutingFeeRouteLegKind} (h : a.text = b.text) : a = b := by
  cases a <;> cases b <;> first | rfl | exact absurd h (by decide)

theorem legTree_inj : Function.Injective legTree := by
  intro a b h
  have hfields := record_inj h
  simp only [List.cons.injEq, Prod.mk.injEq, true_and, and_true, text_inj] at hfields
  obtain ⟨hkind, hsource, hdestination⟩ := hfields
  cases a
  cases b
  obtain rfl := legKindText_inj hkind
  obtain rfl := endpointTree_inj hsource
  obtain rfl := endpointTree_inj hdestination
  rfl

theorem routeTree_inj {a b : RoutingFeeRouteV1} (h : routeTree a = routeTree b) : a = b := by
  have hfields := record_inj h
  simp only [List.cons.injEq, Prod.mk.injEq, true_and, and_true, JsonTree.array.injEq] at hfields
  obtain ⟨hsource, hdestination, hlegs⟩ := hfields
  cases a
  cases b
  obtain rfl := endpointTree_inj hsource
  obtain rfl := endpointTree_inj hdestination
  obtain rfl := List.map_injective_iff.mpr legTree_inj hlegs
  rfl

theorem feeBaseTree_inj {a b : FeeBase} (h : feeBaseTree a = feeBaseTree b) : a = b := by
  have hfields := record_inj h
  simp only [List.cons.injEq, Prod.mk.injEq, true_and, and_true, text_inj] at hfields
  obtain ⟨id, ⟨amount, _⟩⟩ := a
  obtain ⟨id', ⟨amount', _⟩⟩ := b
  obtain rfl := Matching.ext_text hfields.1
  obtain rfl : amount = amount' := hfields.2
  rfl

theorem categoryText_inj {a b : RoutingFeeCategory} (h : a.text = b.text) : a = b := by
  cases a <;> cases b <;> first | rfl | exact absurd h (by decide)

theorem deductionText_inj {a b : RoutingFeeDeductionMode} (h : a.text = b.text) : a = b := by
  cases a <;> cases b <;> first | rfl | exact absurd h (by decide)

theorem sourceText_inj {a b : RoutingFeeComponentSource} (h : a.text = b.text) : a = b := by
  cases a <;> cases b <;> first | rfl | exact absurd h (by decide)

theorem componentTree_inj {a b : RoutingFeeComponentV1} (ha : a.lineNumber < 2 ^ 53)
    (hb : b.lineNumber < 2 ^ 53) (h : componentTree a = componentTree b) : a = b := by
  have hfields := record_inj h
  simp only [List.cons.injEq, Prod.mk.injEq, true_and, and_true, text_inj] at hfields
  obtain ⟨hline, hcategory, hid, hamount, hmode, hsource, hreference⟩ := hfields
  have hline := natural_inj ha hb hline
  cases a
  cases b
  obtain rfl := hline
  obtain rfl := categoryText_inj hcategory
  obtain rfl := Matching.ext_text hid
  obtain rfl := hamount
  obtain rfl := deductionText_inj hmode
  obtain rfl := sourceText_inj hsource
  obtain rfl := Matching.ext_text hreference
  rfl

theorem totalTree_inj : Function.Injective totalTree := by
  intro a b h
  have hfields := record_inj h
  simp only [List.cons.injEq, Prod.mk.injEq, true_and, and_true, text_inj] at hfields
  cases a
  cases b
  simp_all

theorem reasonText_inj {a b : RoutingFeeClassificationReason}
    (h : RoutingFeeClassificationReason.text a = RoutingFeeClassificationReason.text b) : a = b := by
  cases a <;> cases b <;> first | rfl | exact absurd h (by decide)

theorem kindText_inj {a b : RoutingFeeRouteClassificationKind}
    (h : RoutingFeeRouteClassificationKind.text a = RoutingFeeRouteClassificationKind.text b) :
    a = b := by
  cases a <;> cases b <;> first | rfl | exact absurd h (by decide)

theorem classificationTree_inj {a b : RoutingFeeRouteClassificationV1}
    (h : classificationTree a = classificationTree b) : a = b := by
  have hfields := record_inj h
  simp only [List.cons.injEq, Prod.mk.injEq, true_and, and_true, text_inj, JsonTree.array.injEq]
    at hfields
  have hinj : Function.Injective (fun r => text (RoutingFeeClassificationReason.text r)) :=
    fun _ _ hr => reasonText_inj (text_inj.mp hr)
  cases a
  cases b
  obtain rfl := kindText_inj hfields.1
  obtain rfl := List.map_injective_iff.mpr hinj hfields.2
  rfl

/-- The line numbers of a snapshot are small. -/
def HasLines (content : SnapshotContent) : Prop :=
  ∀ component ∈ content.components, component.lineNumber < 2 ^ 53

theorem components_inj {l m : List RoutingFeeComponentV1} (hl : ∀ c ∈ l, c.lineNumber < 2 ^ 53)
    (hm : ∀ c ∈ m, c.lineNumber < 2 ^ 53) (h : l.map componentTree = m.map componentTree) :
    l = m := by
  induction l generalizing m with
  | nil => exact (List.map_eq_nil_iff.mp h.symm).symm
  | cons a l ih =>
    obtain ⟨b, m, rfl, hab, hrest⟩ := List.map_eq_cons_iff.mp h.symm
    obtain ⟨ha, hl⟩ := List.forall_mem_cons.mp hl
    obtain ⟨hb, hm⟩ := List.forall_mem_cons.mp hm
    rw [componentTree_inj ha hb hab.symm, ih hl hm hrest.symm]

theorem contentTree_inj {a b : SnapshotContent} (ha : HasLines a) (hb : HasLines b)
    (h : contentTree a = contentTree b) : a = b := by
  have hfields := record_inj h
  simp only [List.cons.injEq, Prod.mk.injEq, true_and, and_true, text_inj, JsonTree.array.injEq]
    at hfields
  obtain ⟨hquote, hreference, hquotedAt, htier, hrule, hroute, hclass, hbase, hcomponents,
    htotals⟩ := hfields
  have hcomponents := components_inj ha hb hcomponents
  obtain ⟨⟨quote, reference, quotedAt, tier, rule, route, classification, base, components⟩,
    totals⟩ := a
  obtain ⟨⟨quote', reference', quotedAt', tier', rule', route', classification', base',
    components'⟩, totals'⟩ := b
  obtain rfl := Matching.ext_text hquote
  obtain rfl := Matching.ext_text hreference
  obtain rfl := time_inj hquotedAt
  obtain rfl := tierText_inj htier
  obtain rfl := ruleTree_inj hrule
  obtain rfl := routeTree_inj hroute
  obtain rfl := classificationTree_inj hclass
  obtain rfl := feeBaseTree_inj hbase
  obtain rfl := hcomponents
  obtain rfl := List.map_injective_iff.mpr totalTree_inj htotals
  rfl

end Trees

section Texts

/-- The keys of the objects in a snapshot, in the order in which they are written. -/
def fieldNames : List (List String) := [
  ["mantissa", "scale"],
  ["FREE", "INDIVIDUAL", "PRO"],
  ["directCompatible", "materialOrchestration"],
  ["schemaVersion", "ruleReferenceId", "version", "effectiveFrom", "effectiveUntil",
    "routeClassificationVersion", "roundingMode", "platformRates"],
  ["networkId", "assetId"],
  ["kind", "source", "destination"],
  ["schemaVersion", "source", "destination", "legs"],
  ["version", "kind", "reasons"],
  ["assetRevisionId", "amountAtomic"],
  ["lineNumber", "category", "assetRevisionId", "amountAtomic", "deductionMode", "source",
    "sourceReferenceId"],
  ["schemaVersion", "quoteReferenceId", "routeReferenceId", "quotedAt", "effectiveTier", "rule",
    "route", "routeClassification", "feeBase", "components", "totalsByAsset"]]

theorem fieldNames_ordered : ∀ names ∈ fieldNames, KeysOrdered (names.map ofString) := by
  decide +kernel

theorem written_named {fields : List (String × JsonTree)}
    (hnames : fields.map Prod.fst ∈ fieldNames) (h : ∀ f ∈ fields, Written f.2) :
    Written (record fields) := by
  refine written_record ?_ h
  have hordered := fieldNames_ordered _ hnames
  rwa [List.map_map] at hordered

theorem written_rateTree (rate : RoutingFeeDecimalV1) : Written (rateTree rate) := by
  refine written_named (by simp [fieldNames]) ?_
  simp only [List.forall_mem_cons]
  exact ⟨.string _, .natural (scale_lt rate), List.forall_mem_nil _⟩

theorem written_one : Written (natural 1) := .natural (by decide)

theorem written_ruleTree (rule : RoutingFeeRuleVersionV1) : Written (ruleTree rule) := by
  have hend : Written ((rule.effectiveUntil.map (text ·.toISOString)).getD .null) := by
    cases rule.effectiveUntil with
    | none => exact .null
    | some t => exact .string _
  have hmaterial : Written (record [
      ("FREE", rateTree rule.platformRates.materialOrchestration.free),
      ("INDIVIDUAL", rateTree rule.platformRates.materialOrchestration.individual),
      ("PRO", rateTree rule.platformRates.materialOrchestration.pro)]) := by
    refine written_named (by simp [fieldNames]) ?_
    simp only [List.forall_mem_cons]
    exact ⟨written_rateTree _, written_rateTree _, written_rateTree _, List.forall_mem_nil _⟩
  have hrates : Written (record [("directCompatible", rateTree rule.platformRates.directCompatible),
      ("materialOrchestration", record [
        ("FREE", rateTree rule.platformRates.materialOrchestration.free),
        ("INDIVIDUAL", rateTree rule.platformRates.materialOrchestration.individual),
        ("PRO", rateTree rule.platformRates.materialOrchestration.pro)])]) := by
    refine written_named (by simp [fieldNames]) ?_
    simp only [List.forall_mem_cons]
    exact ⟨written_rateTree _, hmaterial, List.forall_mem_nil _⟩
  refine written_named (by simp [fieldNames]) ?_
  simp only [List.forall_mem_cons]
  exact ⟨written_one, .string _, .natural rule.version.safe, .string _, hend, written_one,
    .string _, hrates, List.forall_mem_nil _⟩

theorem written_endpointTree (endpoint : RoutingFeeRouteEndpointV1) :
    Written (endpointTree endpoint) := by
  refine written_named (by simp [fieldNames]) ?_
  simp only [List.forall_mem_cons]
  exact ⟨.string _, .string _, List.forall_mem_nil _⟩

theorem written_legTree (leg : RoutingFeeRouteLegV1) : Written (legTree leg) := by
  refine written_named (by simp [fieldNames]) ?_
  simp only [List.forall_mem_cons]
  exact ⟨.string _, written_endpointTree _, written_endpointTree _, List.forall_mem_nil _⟩

theorem written_routeTree (route : RoutingFeeRouteV1) : Written (routeTree route) := by
  refine written_named (by simp [fieldNames]) ?_
  simp only [List.forall_mem_cons]
  exact ⟨written_one, written_endpointTree _, written_endpointTree _,
    .array (List.forall_mem_map.mpr fun leg _ => written_legTree leg), List.forall_mem_nil _⟩

theorem written_classificationTree (classification : RoutingFeeRouteClassificationV1) :
    Written (classificationTree classification) := by
  refine written_named (by simp [fieldNames]) ?_
  simp only [List.forall_mem_cons]
  exact ⟨written_one, .string _, .array (List.forall_mem_map.mpr fun _ _ => .string _),
    List.forall_mem_nil _⟩

theorem written_feeBaseTree (feeBase : FeeBase) : Written (feeBaseTree feeBase) := by
  refine written_named (by simp [fieldNames]) ?_
  simp only [List.forall_mem_cons]
  exact ⟨.string _, .string _, List.forall_mem_nil _⟩

theorem written_componentTree {component : RoutingFeeComponentV1}
    (h : component.lineNumber < 2 ^ 53) : Written (componentTree component) := by
  refine written_named (by simp [fieldNames]) ?_
  simp only [List.forall_mem_cons]
  exact ⟨.natural h, .string _, .string _, .string _, .string _, .string _, .string _,
    List.forall_mem_nil _⟩

theorem written_totalTree (total : RoutingFeeAssetTotalV1) : Written (totalTree total) := by
  refine written_named (by simp [fieldNames]) ?_
  simp only [List.forall_mem_cons]
  exact ⟨.string _, .string _, List.forall_mem_nil _⟩

theorem written_contentTree {content : SnapshotContent} (h : HasLines content) :
    Written (contentTree content) := by
  refine written_named (by simp [fieldNames]) ?_
  simp only [List.forall_mem_cons]
  exact ⟨written_one, .string _, .string _, .string _, .string _, written_ruleTree _,
    written_routeTree _, written_classificationTree _, written_feeBaseTree _,
    .array (List.forall_mem_map.mpr fun c hc => written_componentTree (h c hc)),
    .array (List.forall_mem_map.mpr fun total _ => written_totalTree total), List.forall_mem_nil _⟩

/-- A snapshot is determined by the text that is hashed. -/
theorem fingerprintText_inj {a b : SnapshotContent} (ha : HasLines a) (hb : HasLines b) :
    fingerprintText a = fingerprintText b ↔ a = b := by
  constructor
  · intro h
    have htree := List.append_cancel_left h
    exact contentTree_inj ha hb
      ((written_contentTree ha).stringify_inj (written_contentTree hb) htree)
  · rintro rfl
    rfl

/-- The lines of an accepted snapshot are those of at most 32 components. -/
theorem hasLines_of_accepted {sha256 : List UInt8 → String} {inputValue catalogValue : Value}
    {snapshot : RoutingFeeSnapshotV1}
    (h : calculateRoutingFeeSnapshotV1 sha256 inputValue catalogValue = .ok snapshot) :
    HasLines snapshot.toSnapshotContent := by
  have hlaws := snapshotLaws sha256 inputValue catalogValue h
  obtain ⟨record, passThrough, amount, hreads⟩ := hlaws.components
  obtain ⟨raw, hraw, hparsed⟩ := hreads.passThrough
  have hbound := (exactArray_eq_some.mp hraw).2.2
  have hlength : passThrough.length = raw.length := (except_mapM_ok.mp hparsed).length_eq.symm
  have hcomponents : snapshot.components.length = passThrough.length + 1 := by
    rw [hreads.components, feeComponents, List.length_cons, List.length_mapIdx]
  intro component hcomponent
  have hline : component.lineNumber ∈ snapshot.components.map (·.lineNumber) :=
    List.mem_map_of_mem hcomponent
  rw [hlaws.lines, List.mem_range'_1] at hline
  rw [maxFeeComponents] at hbound
  omega

end Texts

section Spelling

variable {v w : Value}

theorem enumMember_eq {α : Type} (text : α → String) (h : Rearranged v w) (allowed : List α)
    (code : RoutingFeeValidationCode) :
    enumMember text v allowed code = enumMember text w allowed code := by
  rw [enumMember, enumMember, h.string?]

theorem uuidV4_eq (h : Rearranged v w) (code : RoutingFeeValidationCode) :
    uuidV4 v code = uuidV4 w code := by
  rw [uuidV4, uuidV4, Matching.ofValue, Matching.ofValue, h.string?]

theorem canonicalTimestamp_eq (h : Rearranged v w) (code : RoutingFeeValidationCode) :
    canonicalTimestamp v code = canonicalTimestamp w code := by
  rw [canonicalTimestamp, canonicalTimestamp, h.string?]

theorem parseAtomicAmount_eq (h : Rearranged v w) (allowZero : Bool)
    (code : RoutingFeeValidationCode) :
    parseAtomicAmount v allowZero code = parseAtomicAmount w allowZero code := by
  rw [parseAtomicAmount, parseAtomicAmount, h.string?]

theorem safeReference_eq (h : Rearranged v w) (code : RoutingFeeValidationCode) :
    safeReference v code = safeReference w code := by
  rw [safeReference, safeReference, Matching.ofValue, Matching.ofValue, h.string?]

theorem parseEndpoint_eq (v w : Value) (h : Rearranged v w) :
    parseEndpoint v = parseEndpoint w := by
  apply Rearranged.bind_orFail (h.exactRecord _)
  intro r r' hr
  rw [safeReference_eq (hr "networkId"), safeReference_eq (hr "assetId")]

theorem parseLeg_eq (v w : Value) (h : Rearranged v w) : parseLeg v = parseLeg w := by
  apply Rearranged.bind_orFail (h.exactRecord _)
  intro r r' hr
  rw [enumMember_eq _ (hr "kind"), parseEndpoint_eq _ _ (hr "source"),
    parseEndpoint_eq _ _ (hr "destination")]

theorem normalizeRoute_eq (h : Rearranged v w) :
    normalizeRoutingFeeRouteV1 v = normalizeRoutingFeeRouteV1 w := by
  apply Rearranged.bind_orFail (h.exactRecord _)
  intro r r' hr
  rw [(hr "schemaVersion").isNumber, parseEndpoint_eq _ _ (hr "source"),
    parseEndpoint_eq _ _ (hr "destination")]
  refine bind_congr fun _ => bind_congr fun source => bind_congr fun destination => ?_
  apply Rearranged.bind_orFail ((hr "legs").exactArray _ _)
  intro raw raw' hraw
  rw [Rearranged.mapM_eq parseLeg_eq hraw]

theorem parseFeeBase_eq (h : Rearranged v w) : parseFeeBase v = parseFeeBase w := by
  apply Rearranged.bind_orFail (h.exactRecord _)
  intro r r' hr
  rw [uuidV4_eq (hr "assetRevisionId"), parseAtomicAmount_eq (hr "amountAtomic")]

theorem parsePassThroughComponent_eq (v w : Value) (h : Rearranged v w) :
    parsePassThroughComponent v = parsePassThroughComponent w := by
  apply Rearranged.bind_orFail (h.exactRecord _)
  intro r r' hr
  rw [enumMember_eq _ (hr "category"), uuidV4_eq (hr "assetRevisionId"),
    parseAtomicAmount_eq (hr "amountAtomic"), enumMember_eq _ (hr "deductionMode"),
    uuidV4_eq (hr "sourceReferenceId")]

theorem effectiveTier_eq (h : Rearranged v w) : effectiveTier v = effectiveTier w := by
  cases h with
  | same => rfl
  | items h => rfl
  | object h hp hk => rfl

theorem parseDecimal_eq (h : Rearranged v w) (code : RoutingFeeValidationCode) :
    parseDecimal v code = parseDecimal w code := by
  apply Rearranged.bind_orFail (h.exactRecord _)
  intro r r' hr
  rw [(hr "mantissa").string?, (hr "scale").integer?]

theorem parseRates_eq (h : Rearranged v w) : parseRates v = parseRates w := by
  apply Rearranged.bind_orFail (h.exactRecord _)
  intro r r' hr
  rw [parseDecimal_eq (hr "FREE"), parseDecimal_eq (hr "INDIVIDUAL"), parseDecimal_eq (hr "PRO")]

theorem parsePlatformRates_eq (h : Rearranged v w) :
    parsePlatformRates v = parsePlatformRates w := by
  apply Rearranged.bind_orFail (h.exactRecord _)
  intro r r' hr
  rw [parseDecimal_eq (hr "directCompatible"), parseRates_eq (hr "materialOrchestration")]

theorem parseEffectiveUntil_eq (h : Rearranged v w) :
    parseEffectiveUntil v = parseEffectiveUntil w := by
  rw [parseEffectiveUntil, parseEffectiveUntil, h.isNull, canonicalTimestamp_eq h]

theorem positiveVersion_eq (h : Rearranged v w) (code : RoutingFeeValidationCode) :
    positiveVersion v code = positiveVersion w code := by
  rw [positiveVersion, positiveVersion, h.integer?]

theorem normalizeRule_eq (v w : Value) (h : Rearranged v w) :
    normalizeRoutingFeeRuleVersionV1 v = normalizeRoutingFeeRuleVersionV1 w := by
  apply Rearranged.bind_orFail (h.exactRecord _)
  intro r r' hr
  rw [(hr "schemaVersion").isNumber, (hr "routeClassificationVersion").isNumber,
    canonicalTimestamp_eq (hr "effectiveFrom"), parseEffectiveUntil_eq (hr "effectiveUntil"),
    parsePlatformRates_eq (hr "platformRates"), uuidV4_eq (hr "ruleReferenceId"),
    positiveVersion_eq (hr "version"), enumMember_eq _ (hr "roundingMode")]

theorem normalizeCatalog_eq (h : Rearranged v w) :
    normalizeRoutingFeeRuleCatalogV1 v = normalizeRoutingFeeRuleCatalogV1 w := by
  have hrule : ∀ v w : Value, Rearranged v w → (normalizeRoutingFeeRuleVersionV1 v).toOption =
      (normalizeRoutingFeeRuleVersionV1 w).toOption :=
    fun v w h => congrArg Except.toOption (normalizeRule_eq v w h)
  apply Rearranged.bind_orFail (h.exactRecord _)
  intro r r' hr
  rw [(hr "schemaVersion").isNumber]
  refine bind_congr fun _ => ?_
  apply Rearranged.bind_orFail ((hr "rules").exactArray _ _)
  intro raw raw' hraw
  rw [Rearranged.mapM_eq hrule hraw]

theorem resolveRule_eq (h : Rearranged v w) (t : Value) :
    resolveRoutingFeeRuleV1 v t = resolveRoutingFeeRuleV1 w t := by
  rw [resolveRoutingFeeRuleV1, resolveRoutingFeeRuleV1, normalizeCatalog_eq h]

theorem catalogOrDefault_rearranged (h : Rearranged v w) :
    Rearranged (catalogOrDefault v) (catalogOrDefault w) := by
  cases h with
  | same => exact .same _
  | items h => exact .items h
  | object h hp hk => exact .object h hp hk

/-- Two records of which a calculation reads the same. -/
structure SameReadings (r r' : Record) : Prop where
  schema : (r.get "schemaVersion").isNumber 1 = (r'.get "schemaVersion").isNumber 1
  quote : Rearranged (r.get "quoteReferenceId") (r'.get "quoteReferenceId")
  reference : Rearranged (r.get "routeReferenceId") (r'.get "routeReferenceId")
  quotedAt : Rearranged (r.get "quotedAt") (r'.get "quotedAt")
  tier : effectiveTier (r.get "tier") = effectiveTier (r'.get "tier")
  route : Rearranged (r.get "route") (r'.get "route")
  feeBase : Rearranged (r.get "feeBase") (r'.get "feeBase")
  passThrough : Rearranged (r.get "passThroughComponents") (r'.get "passThroughComponents")

theorem calculation_eq {catalogValue catalogValue' : Value}
    (h : Option.Rel SameReadings (inputRecord v) (inputRecord w))
    (hcatalog : Rearranged catalogValue catalogValue') :
    calculation v catalogValue = calculation w catalogValue' := by
  apply Rearranged.bind_orFail h
  intro r r' hr
  rw [hr.schema, uuidV4_eq hr.quote, uuidV4_eq hr.reference, canonicalTimestamp_eq hr.quotedAt,
    hr.tier, normalizeRoute_eq hr.route, parseFeeBase_eq hr.feeBase]
  refine bind_congr fun _ => bind_congr fun quote => bind_congr fun reference =>
    bind_congr fun quotedAt => bind_congr fun tier => bind_congr fun route =>
    bind_congr fun feeBase => ?_
  apply Rearranged.bind_orFail (hr.passThrough.exactArray _ _)
  intro raw raw' hraw
  rw [Rearranged.mapM_eq parsePassThroughComponent_eq hraw]
  refine bind_congr fun passThrough => ?_
  rw [resolveRule_eq (catalogOrDefault_rearranged hcatalog)]

theorem inputRecord_rearranged (h : Rearranged v w) :
    Option.Rel SameReadings (inputRecord v) (inputRecord w) := by
  have hreads : ∀ r r' : Record, RelatedRecord (fun _ => Rearranged) r r' → SameReadings r r' :=
    fun r r' hr => ⟨(hr "schemaVersion").isNumber 1, hr "quoteReferenceId", hr "routeReferenceId",
      hr "quotedAt", effectiveTier_eq (hr "tier"), hr "route", hr "feeBase",
      hr "passThroughComponents"⟩
  have hshort := h.exactRecord inputKeys
  have hlong := h.exactRecord (inputKeys ++ ["tier"])
  rw [inputRecord, inputRecord]
  generalize exactRecord v inputKeys = o at hshort ⊢
  generalize exactRecord w inputKeys = o' at hshort ⊢
  cases hshort with
  | some hr => exact .some (hreads _ _ hr)
  | none =>
    rw [Option.none_or, Option.none_or]
    generalize exactRecord v (inputKeys ++ ["tier"]) = p at hlong ⊢
    generalize exactRecord w (inputKeys ++ ["tier"]) = p' at hlong ⊢
    cases hlong with
    | some hr => exact .some (hreads _ _ hr)
    | none => exact .none

/-- The spellings of the free tier. -/
def IsFree (t : Value) : Prop := effectiveTier t = .ok .free

section Tier

variable {proxy : Bool} {ps : List (Key × Property Value)}

theorem get_concat (r : Record) {key name : String} (h : key ≠ name) (v : Value) :
    Record.get (r ++ [(name, v)]) key = Record.get r key := by
  have hbeq : (key == name) = false := by simp [h]
  rw [Record.get, Record.get, List.lookup_append, List.lookup_cons, hbeq]
  simp

theorem get_concat_self {r : Record} {name : String} (h : name ∉ r.map Prod.fst) (v : Value) :
    Record.get (r ++ [(name, v)]) name = v := by
  have hnone : r.lookup name = none := by
    refine List.lookup_eq_none_iff.mpr fun f hf => ?_
    exact bne_iff_ne.mpr fun heq => h (heq ▸ List.mem_map_of_mem hf)
  simp [Record.get, List.lookup_append, hnone]

theorem get_of_not_mem {r : Record} {name : String} (h : name ∉ r.map Prod.fst) :
    r.get name = .undefined := by
  have hnone : r.lookup name = none := by
    refine List.lookup_eq_none_iff.mpr fun f hf => ?_
    exact bne_iff_ne.mpr fun heq => h (heq ▸ List.mem_map_of_mem hf)
  rw [Record.get, hnone, Option.getD_none]

/-- The free tier reads the same whether it is written or left out. -/
theorem inputRecord_tier (htier : .text "tier" ∉ ps.map Prod.fst) {t : Value} (ht : IsFree t) :
    Option.Rel SameReadings
      (inputRecord (.object proxy (ps ++ [(.text "tier", .data t true)])))
      (inputRecord (.object proxy ps)) := by
  have hkeys : "tier" ∉ inputKeys := by decide
  rw [inputRecord, inputRecord, exactRecord_of_further hkeys, Option.none_or,
    exactRecord_concat htier hkeys, exactRecord_of_absent htier, Option.or_none]
  cases hr : exactRecord (.object proxy ps) inputKeys with
  | none => exact .none
  | some r =>
    have habsent : "tier" ∉ r.map Prod.fst := by
      rw [keys_of_exactRecord hr]
      exact hkeys
    have hget : ∀ key, key ≠ "tier" → Record.get (r ++ [("tier", t)]) key = Record.get r key :=
      fun key hkey => get_concat r hkey t
    have hsame : ∀ key, key ≠ "tier" →
        Rearranged (Record.get (r ++ [("tier", t)]) key) (Record.get r key) :=
      fun key hkey => by
        rw [hget key hkey]
        exact .same _
    refine .some ⟨by rw [hget _ (by decide)], hsame _ (by decide), hsame _ (by decide),
      hsame _ (by decide), ?_, hsame _ (by decide), hsame _ (by decide), hsame _ (by decide)⟩
    rw [get_concat_self habsent, get_of_not_mem habsent]
    exact ht

end Tier

end Spelling

section Preimages

variable (sha256 : List UInt8 → String)

/-- The sample with its tier written as null. -/
def nullTierInput : Value :=
  ofFields [("schemaVersion", .integer 1),
    ("quoteReferenceId", .string "10000000-0000-4000-8000-000000000001"),
    ("routeReferenceId", .string "10000000-0000-4000-8000-000000000002"),
    ("quotedAt", .string "2026-09-01T00:00:00.000Z"), ("route", RouteClassification.sampleRoute),
    ("feeBase", ofFields [
      ("assetRevisionId", .string "20000000-0000-4000-8000-000000000002"),
      ("amountAtomic", .string "1000000")]),
    ("passThroughComponents", ofItems [
      sampleComponent "BRIDGE" "20000000-0000-4000-8000-000000000001" "700" "DEDUCTED_FROM_INPUT"
        "30000000-0000-4000-8000-000000000001",
      sampleComponent "DEX" "20000000-0000-4000-8000-000000000002" "30" "ADDED_ON_TOP"
        "30000000-0000-4000-8000-000000000002"]), ("tier", .null)]

end Preimages

end CryptoLending.RoutingFees.SnapshotFingerprint
