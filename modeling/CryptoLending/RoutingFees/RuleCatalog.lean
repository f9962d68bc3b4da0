import CryptoLending.RoutingFees.RoutingFeeExactness
import CryptoLending.RoutingFees.RoutingFeeRules
import Mathlib.Data.List.Pairwise
import Mathlib.Data.Prod.Lex

namespace CryptoLending.RoutingFees.RuleCatalog

open Lib Lib.JsValue Lib.Identifier Lib.Sorting RoutingFeeAmount RoutingFeeExactness RoutingFeeRules

section Reading

theorem canonicalTimestamp_text (t : IsoReading.PlainTime) (code : RoutingFeeValidationCode) :
    canonicalTimestamp (.string t.toISOString) code = .ok t :=
  orFail_ok.mpr (IsoReading.canonicalTimestamp_eq_some.mpr rfl)

theorem positiveVersion_value (version : PositiveVersion) (code : RoutingFeeValidationCode) :
    positiveVersion (.integer version.value) code = .ok version := by
  refine except_bind_ok.mpr ⟨(version.value : Int), rfl, ?_⟩
  rw [dif_pos ⟨version.positive, version.safe⟩]
  rfl

theorem parseRates_toValue (rates : MaterialRates) : parseRates rates.toValue = .ok rates := by
  refine except_bind_ok.mpr ⟨_, orFail_ok.mpr (exactRecord_ofFields_keys rfl (by decide)), ?_⟩
  refine except_bind_ok.mpr ⟨_, parseDecimal_record rates.free _, ?_⟩
  refine except_bind_ok.mpr ⟨_, parseDecimal_record rates.individual _, ?_⟩
  exact except_bind_ok.mpr ⟨_, parseDecimal_record rates.pro _, rfl⟩

theorem parsePlatformRates_toValue (rates : PlatformRates) :
    parsePlatformRates rates.toValue = .ok rates := by
  refine except_bind_ok.mpr ⟨_, orFail_ok.mpr (exactRecord_ofFields_keys rfl (by decide)), ?_⟩
  refine except_bind_ok.mpr ⟨_, parseDecimal_record rates.directCompatible _, ?_⟩
  rw [dif_pos rates.direct_zero]
  exact except_bind_ok.mpr ⟨_, parseRates_toValue rates.materialOrchestration, rfl⟩

theorem parseEffectiveUntil_toValue (t : Option IsoReading.PlainTime) :
    parseEffectiveUntil ((t.map (Value.string ·.toISOString)).getD .null) = .ok t := by
  cases t with
  | none => rfl
  | some t => exact except_bind_ok.mpr ⟨t, canonicalTimestamp_text t _, rfl⟩

/-- A normalized rule is accepted as it is. -/
theorem normalizeRule_toValue (rule : RoutingFeeRuleVersionV1) :
    normalizeRoutingFeeRuleVersionV1 rule.toValue = .ok rule := by
  refine except_bind_ok.mpr ⟨_, orFail_ok.mpr (exactRecord_ofFields_keys rfl (by decide)), ?_⟩
  refine except_bind_ok.mpr ⟨(), rfl, ?_⟩
  refine except_bind_ok.mpr ⟨_, canonicalTimestamp_text rule.effectiveFrom _, ?_⟩
  refine except_bind_ok.mpr ⟨_, parseEffectiveUntil_toValue rule.effectiveUntil, ?_⟩
  rw [dif_pos rule.ends_later]
  refine except_bind_ok.mpr ⟨_, parsePlatformRates_toValue rule.platformRates, ?_⟩
  refine except_bind_ok.mpr ⟨_, orFail_ok.mpr (Matching.ofValue_text rule.ruleReferenceId), ?_⟩
  refine except_bind_ok.mpr ⟨_, positiveVersion_value rule.version _, ?_⟩
  exact except_bind_ok.mpr ⟨_, enumMember_text rule.roundingMode _, rfl⟩

end Reading

section Order

/-- Rules are ranked by their beginnings, then by their versions. -/
def ruleKey (rule : RoutingFeeRuleVersionV1) : String ×ₗ Nat :=
  toLex (rule.effectiveFrom.toISOString, rule.version.value)

theorem compareRules_ranks (l : List RoutingFeeRuleVersionV1) : RanksBy compareRules ruleKey l := by
  intro a _ b _
  rw [compareRules, ruleKey, ruleKey, Prod.Lex.toLex_le_toLex]
  by_cases heq : a.effectiveFrom.toISOString = b.effectiveFrom.toISOString
  · rw [if_pos heq, heq]
    simp [compare_le_iff_le]
  · rw [if_neg heq]
    by_cases hlt : a.effectiveFrom.toISOString < b.effectiveFrom.toISOString
    · simp [hlt]
    · simp [hlt, heq]

/-- A rule ends before another one begins, and is of a lower version. -/
def Precedes (a b : RoutingFeeRuleVersionV1) : Prop :=
  a.version.value < b.version.value ∧
    ∃ t ∈ a.effectiveUntil, t.toISOString ≤ b.effectiveFrom.toISOString

theorem followsRule_iff {a b : RoutingFeeRuleVersionV1} :
    followsRule a b = true ↔ Precedes a b := by
  rw [followsRule, Precedes]
  cases a.effectiveUntil with
  | none => simp
  | some t =>
    simp only [Bool.not_eq_true', Bool.or_eq_false_iff, decide_eq_false_iff_not, not_lt, ge_iff_le,
      not_le, Option.mem_some_iff, exists_eq_left']

theorem rulesFollow_iff {l : List RoutingFeeRuleVersionV1} :
    rulesFollow l = true ↔ l.IsChain Precedes := by
  induction l with
  | nil => simp [rulesFollow]
  | cons a l ih =>
    cases l with
    | nil => simp [rulesFollow]
    | cons b l => rw [rulesFollow, Bool.and_eq_true, followsRule_iff, ih, List.isChain_cons_cons]

theorem Precedes.begins_lt {a b : RoutingFeeRuleVersionV1} (h : Precedes a b) :
    a.effectiveFrom.toISOString < b.effectiveFrom.toISOString := by
  obtain ⟨-, t, ht, hle⟩ := h
  exact lt_of_lt_of_le (a.ends_later t ht) hle

theorem Precedes.trans {a b c : RoutingFeeRuleVersionV1} (hab : Precedes a b)
    (hbc : Precedes b c) : Precedes a c := by
  obtain ⟨hversion, t, ht, hle⟩ := hab
  exact ⟨hversion.trans hbc.1, t, ht, hle.trans hbc.begins_lt.le⟩

/-- Neighbours that follow each other make all rules follow each other. -/
theorem precedes_pairwise {l : List RoutingFeeRuleVersionV1} (h : rulesFollow l = true) :
    l.Pairwise Precedes := by
  have htrans : IsTrans RoutingFeeRuleVersionV1 Precedes := ⟨fun _ _ _ => Precedes.trans⟩
  exact List.isChain_iff_pairwise.mp (rulesFollow_iff.1 h)

theorem Precedes.key_lt {a b : RoutingFeeRuleVersionV1} (h : Precedes a b) :
    ruleKey a < ruleKey b := Prod.Lex.toLex_lt_toLex.mpr (.inl h.begins_lt)

/-- Rules that follow each other are already sorted. -/
theorem sortBy_of_follow {l m : List RoutingFeeRuleVersionV1} (h : rulesFollow m = true)
    (hp : l.Perm m) : sortBy compareRules l = m :=
  (compareRules_ranks l).sortBy_eq hp ((precedes_pairwise h).imp Precedes.key_lt)

theorem effectiveAt_iff {t : IsoReading.PlainTime} {rule : RoutingFeeRuleVersionV1} :
    effectiveAt t rule = true ↔ rule.effectiveFrom.toISOString ≤ t.toISOString ∧
      ∀ u ∈ rule.effectiveUntil, t.toISOString < u.toISOString := by
  rw [effectiveAt, Bool.and_eq_true, decide_eq_true_eq]
  cases rule.effectiveUntil with
  | none => simp
  | some u =>
    simp only [Option.all_some, decide_eq_true_eq, Option.mem_some_iff, forall_eq']

/-- Of two rules that follow each other one has ended or the other has not begun. -/
theorem Precedes.not_both {a b : RoutingFeeRuleVersionV1} (h : Precedes a b)
    (t : IsoReading.PlainTime) : ¬(effectiveAt t a = true ∧ effectiveAt t b = true) := by
  rintro ⟨ha, hb⟩
  obtain ⟨-, u, hu, hle⟩ := h
  have hlt := (effectiveAt_iff.1 ha).2 u hu
  exact absurd (hlt.trans_le (hle.trans (effectiveAt_iff.1 hb).1)) (lt_irrefl _)

/-- At most one rule is in effect. -/
theorem filter_effective {l : List RoutingFeeRuleVersionV1} (h : rulesFollow l = true)
    (t : IsoReading.PlainTime) : l.filter (effectiveAt t) = [] ∨
      ∃ rule ∈ l, effectiveAt t rule = true ∧ l.filter (effectiveAt t) = [rule] := by
  have hpair := (precedes_pairwise h).sublist (List.filter_sublist (p := effectiveAt t))
  have hmem : ∀ rule ∈ l.filter (effectiveAt t), rule ∈ l ∧ effectiveAt t rule = true :=
    fun rule hrule => List.mem_filter.mp hrule
  cases hfilter : l.filter (effectiveAt t) with
  | nil => exact .inl rfl
  | cons a rest =>
    rw [hfilter] at hpair hmem
    obtain ⟨ha, heffective⟩ := hmem a List.mem_cons_self
    cases rest with
    | nil => exact .inr ⟨a, ha, heffective, rfl⟩
    | cons b rest =>
      have hb := hmem b (List.mem_cons_of_mem _ List.mem_cons_self)
      have hab := List.rel_of_pairwise_cons hpair List.mem_cons_self
      exact absurd ⟨heffective, hb.2⟩ (hab.not_both t)

end Order

section Catalogs

/-- What the checks of a catalog ask of its rules in the order of time. -/
structure IsCatalog (rules : List RoutingFeeRuleVersionV1) : Prop where
  ids_nodup : (rules.map (·.ruleReferenceId)).Nodup
  versions_nodup : (rules.map (·.version)).Nodup
  follow : rulesFollow rules = true

/-- The parts of an accepted catalog. -/
theorem normalizeCatalog_ok {v : Value} {catalog : RoutingFeeRuleCatalogV1} :
    normalizeRoutingFeeRuleCatalogV1 v = .ok catalog ↔
      ∃ record rawRules parsed, exactRecord v ["schemaVersion", "rules"] = some record ∧
        (record.get "schemaVersion").isNumber 1 = true ∧
        exactArray (record.get "rules") 1 128 = some rawRules ∧
        rawRules.mapM (fun rule => (normalizeRoutingFeeRuleVersionV1 rule).toOption) =
          some parsed ∧
        catalog.rules = sortBy compareRules parsed ∧ IsCatalog catalog.rules := by
  constructor
  · intro h
    obtain ⟨record, hrecord, h⟩ := except_bind_ok.mp h
    obtain ⟨_, hschema, h⟩ := except_bind_ok.mp h
    obtain ⟨rawRules, hraw, h⟩ := except_bind_ok.mp h
    obtain ⟨parsed, hparsed, h⟩ := except_bind_ok.mp h
    obtain ⟨_, hdistinct, h⟩ := except_bind_ok.mp h
    obtain ⟨_, hfollow, h⟩ := except_bind_ok.mp h
    obtain rfl := except_pure_ok.mp h
    have hnot := failWhen_ok.mp hdistinct
    rw [not_or, not_not, not_not] at hnot
    exact ⟨record, rawRules, parsed, orFail_ok.mp hrecord,
      by simpa using failWhen_ok.mp hschema, orFail_ok.mp hraw, orFail_ok.mp hparsed, rfl,
      ⟨hnot.1, hnot.2, by simpa using failWhen_ok.mp hfollow⟩⟩
  · rintro ⟨record, rawRules, parsed, hrecord, hschema, hraw, hparsed, hrules, hcatalog⟩
    refine except_bind_ok.mpr ⟨record, orFail_ok.mpr hrecord, ?_⟩
    refine except_bind_ok.mpr ⟨(), failWhen_ok.mpr (by simp [hschema]), ?_⟩
    refine except_bind_ok.mpr ⟨rawRules, orFail_ok.mpr hraw, ?_⟩
    refine except_bind_ok.mpr ⟨parsed, orFail_ok.mpr hparsed, ?_⟩
    obtain ⟨rules⟩ := catalog
    obtain rfl : rules = sortBy compareRules parsed := hrules
    refine except_bind_ok.mpr ⟨(), failWhen_ok.mpr ?_, ?_⟩
    · rw [not_or, not_not, not_not]
      exact ⟨hcatalog.ids_nodup, hcatalog.versions_nodup⟩
    · refine except_bind_ok.mpr ⟨(), failWhen_ok.mpr ?_, rfl⟩
      rw [hcatalog.follow]
      decide

/-- Two catalogs that list the same rules in possibly different orders. -/
def Relisted : Value → Value → Prop :=
  RelatedFields (fun key v w => if key = "rules" then Reordered v w else v = w)

theorem Relisted.symm {v w : Value} (h : Relisted v w) : Relisted w v := by
  refine RelatedFields.symm (fun key v w hvw => ?_) h
  by_cases hkey : key = "rules"
  · rw [if_pos hkey] at hvw ⊢
    exact hvw.symm
  · rw [if_neg hkey] at hvw ⊢
    exact hvw.symm

/-- The order in which the rules are listed does not matter. -/
theorem Relisted.normalize {v w : Value} (h : Relisted v w) {catalog : RoutingFeeRuleCatalogV1}
    (hv : normalizeRoutingFeeRuleCatalogV1 v = .ok catalog) :
    normalizeRoutingFeeRuleCatalogV1 w = .ok catalog := by
  obtain ⟨record, rawRules, parsed, hrecord, hschema, hraw, hparsed, hrules, hcatalog⟩ :=
    normalizeCatalog_ok.1 hv
  have hrefl : ∀ (key : String) (v : Value), if key = "rules" then Reordered v v else v = v := by
    intro key v
    split
    · exact .same v
    · rfl
  have hrel := exactRecord_related hrefl h ["schemaVersion", "rules"]
  rw [hrecord] at hrel
  generalize hrecord' : exactRecord w ["schemaVersion", "rules"] = o at hrel
  cases hrel with
  | @some _ record' hfields =>
    have hsame : record.get "schemaVersion" = record'.get "schemaVersion" :=
      hfields "schemaVersion"
    have harray := exactArray_reordered (hfields "rules") 1 128
    rw [hraw] at harray
    generalize hraw' : exactArray (record'.get "rules") 1 128 = o at harray
    cases harray with
    | @some _ rawRules' hperm =>
      have hmap := ListOption.mapM_perm
        (fun rule => (normalizeRoutingFeeRuleVersionV1 rule).toOption) hperm
      rw [hparsed] at hmap
      generalize hparsed' : rawRules'.mapM
        (fun rule => (normalizeRoutingFeeRuleVersionV1 rule).toOption) = o at hmap
      cases hmap with
      | @some _ parsed' hperm' =>
        refine normalizeCatalog_ok.2 ⟨record', rawRules', parsed', hrecord', hsame ▸ hschema,
          hraw', hparsed', ?_, hcatalog⟩
        refine (sortBy_of_follow hcatalog.follow ?_).symm
        rw [hrules]
        exact hperm'.symm.trans (sortBy_perm compareRules parsed).symm

/-- A normalized catalog is accepted as it is. -/
theorem normalizeCatalog_toValue {v : Value} {catalog : RoutingFeeRuleCatalogV1}
    (hv : normalizeRoutingFeeRuleCatalogV1 v = .ok catalog) :
    normalizeRoutingFeeRuleCatalogV1 catalog.toValue = .ok catalog := by
  obtain ⟨record, rawRules, parsed, -, -, hraw, hparsed, hrules, hcatalog⟩ :=
    normalizeCatalog_ok.1 hv
  have hlength : (catalog.rules.map (·.toValue)).length = rawRules.length := by
    rw [List.length_map, hrules, length_sortBy, ListOption.length_mapM hparsed]
  have hbounds := (exactArray_eq_some.mp hraw).2
  rw [← hlength] at hbounds
  refine normalizeCatalog_ok.2 ⟨_, catalog.rules.map RoutingFeeRuleVersionV1.toValue,
    catalog.rules, exactRecord_ofFields_keys rfl (by decide), rfl, exactArray_ofItems hbounds, ?_,
    (sortBy_of_follow hcatalog.follow (.refl _)).symm, hcatalog⟩
  rw [ListOption.mapM_eq_some, List.forall₂_map_left_iff, List.forall₂_same]
  intro rule _
  rw [normalizeRule_toValue]
  rfl

end Catalogs

section Resolution

/-- The rule that is in effect, and none when no rule is. -/
theorem resolve_eq {v : Value} {catalog : RoutingFeeRuleCatalogV1}
    (hv : normalizeRoutingFeeRuleCatalogV1 v = .ok catalog) (t : IsoReading.PlainTime) :
    (∀ rule ∈ catalog.rules, effectiveAt t rule = true →
      resolveRoutingFeeRuleV1 v (.string t.toISOString) = .ok rule) ∧
    ((∀ rule ∈ catalog.rules, effectiveAt t rule = false) →
      resolveRoutingFeeRuleV1 v (.string t.toISOString) = .error .noEffectiveRule) := by
  obtain ⟨-, -, -, -, -, -, -, -, hcatalog⟩ := normalizeCatalog_ok.1 hv
  rw [resolveRoutingFeeRuleV1, hv, except_ok_bind, canonicalTimestamp_text, except_ok_bind]
  constructor
  · intro rule hrule heffective
    have hmem := List.mem_filter.mpr ⟨hrule, heffective⟩
    obtain hnil | ⟨a, -, -, ha⟩ := filter_effective hcatalog.follow t
    · rw [hnil] at hmem
      cases hmem
    · rw [ha] at hmem ⊢
      rw [List.mem_singleton.mp hmem]
      rfl
  · intro hnone
    have hnil : catalog.rules.filter (effectiveAt t) = [] := by
      rw [List.filter_eq_nil_iff]
      intro rule hrule heffective
      rw [hnone rule hrule] at heffective
      cases heffective
    rw [hnil]

/-- What an accepted catalog says at every instant, whatever the order of its rules. -/
structure CatalogLaws (v : Value) (catalog : RoutingFeeRuleCatalogV1) : Prop where
  at_most_one : ∀ t, (catalog.rules.filter (effectiveAt t)).length ≤ 1
  resolved : ∀ t, ∀ rule ∈ catalog.rules, effectiveAt t rule = true →
    resolveRoutingFeeRuleV1 v (.string t.toISOString) = .ok rule
  unresolved : ∀ t, (∀ rule ∈ catalog.rules, effectiveAt t rule = false) →
    resolveRoutingFeeRuleV1 v (.string t.toISOString) = .error .noEffectiveRule
  versions_grow : ∀ a ∈ catalog.rules, ∀ b ∈ catalog.rules,
    a.effectiveFrom.toISOString < b.effectiveFrom.toISOString → a.version.value < b.version.value
  any_order : ∀ w, Relisted v w → normalizeRoutingFeeRuleCatalogV1 w = .ok catalog ∧
    ∀ atValue, resolveRoutingFeeRuleV1 w atValue = resolveRoutingFeeRuleV1 v atValue
  normal : normalizeRoutingFeeRuleCatalogV1 catalog.toValue = .ok catalog

theorem normalizeRoutingFeeRuleCatalogV1_laws {v : Value} {catalog : RoutingFeeRuleCatalogV1}
    (hv : normalizeRoutingFeeRuleCatalogV1 v = .ok catalog) : CatalogLaws v catalog := by
  obtain ⟨-, -, -, -, -, -, -, -, hcatalog⟩ := normalizeCatalog_ok.1 hv
  refine ⟨?_, fun t => (resolve_eq hv t).1, fun t => (resolve_eq hv t).2, ?_, ?_,
    normalizeCatalog_toValue hv⟩
  · intro t
    obtain hnil | ⟨a, -, -, ha⟩ := filter_effective hcatalog.follow t
    · rw [hnil]
      exact Nat.zero_le _
    · rw [ha]
      exact le_rfl
  · intro a ha b hb hlt
    have hpair := precedes_pairwise hcatalog.follow
    have hne : a ≠ b := fun hab => absurd hlt (hab ▸ lt_irrefl _)
    have hboth : catalog.rules.Pairwise (fun a b => Precedes a b ∨ Precedes b a) :=
      hpair.imp fun h => .inl h
    have hsymm : Std.Symm (fun a b => Precedes a b ∨ Precedes b a) := ⟨fun _ _ h => h.symm⟩
    obtain h | h := hboth.forall ha hb hne
    · exact h.1
    · exact absurd hlt h.begins_lt.asymm
  · intro w hw
    have hnormal := hw.normalize hv
    refine ⟨hnormal, fun atValue => ?_⟩
    rw [resolveRoutingFeeRuleV1, resolveRoutingFeeRuleV1, hnormal, hv]

def sampleRule (reference : String) (version : Int) (effectiveFrom : String)
    (effectiveUntil : Value) : Value :=
  ofFields [("schemaVersion", .integer 1), ("ruleReferenceId", .string reference),
    ("version", .integer version), ("effectiveFrom", .string effectiveFrom),
    ("effectiveUntil", effectiveUntil), ("routeClassificationVersion", .integer 1),
    ("roundingMode", .string "HALF_EVEN"),
    ("platformRates", ofFields [
      ("directCompatible", decimalRecord "0" 0),
      ("materialOrchestration", ofFields [("FREE", decimalRecord "20" 4),
        ("INDIVIDUAL", decimalRecord "12" 4), ("PRO", decimalRecord "8" 4)])])]

/-- A catalog that lists the later rule first. -/
def sampleCatalog : Value :=
  ofFields [("schemaVersion", .integer 1), ("rules", ofItems [
    sampleRule "76000000-0000-4000-8000-000000000002" 2 "2027-01-01T00:00:00.000Z" .null,
    sampleRule "76000000-0000-4000-8000-000000000001" 1 "2026-08-25T00:00:00.000Z"
      (.string "2027-01-01T00:00:00.000Z")])]

def sampleRules : RoutingFeeRuleCatalogV1 :=
  ((normalizeRoutingFeeRuleCatalogV1 sampleCatalog).toOption).getD ⟨[]⟩

theorem sampleCatalog_laws : normalizeRoutingFeeRuleCatalogV1 sampleCatalog = .ok sampleRules ∧
    CatalogLaws sampleCatalog sampleRules := by
  have haccepted : normalizeRoutingFeeRuleCatalogV1 sampleCatalog = .ok sampleRules := by
    decide
  exact ⟨haccepted, normalizeRoutingFeeRuleCatalogV1_laws haccepted⟩

end Resolution

end CryptoLending.RoutingFees.RuleCatalog
