import CryptoLending.Lib.KeyedSums
import CryptoLending.RoutingFees.RouteClassification
import CryptoLending.RoutingFees.RoutingFeeSnapshot
import CryptoLending.RoutingFees.RuleCatalog

namespace CryptoLending.RoutingFees.SnapshotTotals

open Lib Lib.JsValue Lib.Text Lib.DecimalText Lib.Sorting Lib.KeyedSums Lib.JsString
open RoutingFeeAmount RoutingFeeExactness RoutingFeeRules RoutingFeeRoute RoutingFeeSnapshot

section Totals

/-- The exact sum of the components in an asset. -/
def assetSum (id : String) (components : List RoutingFeeComponentV1) : Nat :=
  keySum (fun c : RoutingFeeComponentV1 => c.assetRevisionId.text)
    (fun c => decimalValue c.amountAtomic.toList) id components

theorem addComponent_eq : addComponent = addTo
    (fun c : RoutingFeeComponentV1 => c.assetRevisionId.text)
    (fun c => decimalValue c.amountAtomic.toList) (2 ^ 256 - 1) .numericLimitExceeded := by
  funext totals component
  rw [addComponent, addTo, maxRoutingFeeAtomicAmount_value]

theorem compareAssets_ranks (l : List (String × Nat)) : RanksBy compareAssets Prod.fst l := by
  intro a _ b _
  rw [compareAssets]
  by_cases heq : a.1 = b.1
  · simp [heq]
  · by_cases hlt : a.1 < b.1
    · simp [heq, hlt, hlt.le]
    · have hnot : ¬a.1 ≤ b.1 := fun hle => hlt (lt_of_le_of_ne hle heq)
      rw [if_neg heq, if_neg hlt]
      exact ⟨fun h => absurd rfl h, fun h => absurd h hnot⟩

/-- The totals list the assets of the components in ascending order with their exact sums. -/
structure TotalsLaws (components : List RoutingFeeComponentV1)
    (totals : List RoutingFeeAssetTotalV1) : Prop where
  ascending : totals.Pairwise (fun a b => a.assetRevisionId < b.assetRevisionId)
  assets : ∀ id, id ∈ totals.map (·.assetRevisionId) ↔
    id ∈ components.map (·.assetRevisionId.text)
  exact : ∀ total ∈ totals,
    total.amountAtomic = integerText (assetSum total.assetRevisionId components)

/-- There are totals exactly when every sum is an amount. -/
theorem totalsByAsset_cases (components : List RoutingFeeComponentV1) :
    ((∀ id, assetSum id components ≤ 2 ^ 256 - 1) ∧
      ∃ totals, totalsByAsset components = .ok totals ∧ TotalsLaws components totals) ∨
    ((∃ id, 2 ^ 256 - 1 < assetSum id components) ∧
      totalsByAsset components = .error .numericLimitExceeded) := by
  rw [totalsByAsset, addComponent_eq]
  obtain ⟨hsums, hfold⟩ | ⟨hsum, hfold⟩ := @foldlM_addTo_eq _ _ _ _
    (fun c : RoutingFeeComponentV1 => c.assetRevisionId.text)
    (fun c => decimalValue c.amountAtomic.toList) (2 ^ 256 - 1)
    RoutingFeeValidationCode.numericLimitExceeded components
  · left
    refine ⟨hsums, _, except_bind_ok.mpr ⟨_, hfold, rfl⟩, ?_, ?_, ?_⟩
    · rw [List.pairwise_map]
      exact entries_ascending _ (compareAssets_ranks _)
    · intro id
      rw [List.map_map]
      constructor
      · intro hid
        obtain ⟨⟨k, n⟩, hmem, rfl⟩ := List.mem_map.mp hid
        exact (mem_accumulate.mp (mem_sortBy.mp hmem)).1
      · intro hid
        exact List.mem_map.mpr ⟨_, mem_sortBy.mpr (mem_accumulate.mpr ⟨hid, rfl⟩), rfl⟩
    · intro total htotal
      obtain ⟨⟨k, n⟩, hmem, rfl⟩ := List.mem_map.mp htotal
      exact congrArg integerText (mem_accumulate.mp (mem_sortBy.mp hmem)).2
  · right
    refine ⟨hsum, except_bind_error.mpr (.inl hfold)⟩

end Totals

section Limits

variable {e : RoutingFeeValidationCode}

theorem parseEndpoint_ne_limit (v : Value) : parseEndpoint v ≠ .error .numericLimitExceeded :=
  except_bind_ne_error (orFail_ne_error (by decide)) fun _ =>
    except_bind_ne_error (orFail_ne_error (by decide)) fun _ =>
      except_bind_ne_error (orFail_ne_error (by decide)) fun _ h => (by cases h)

theorem parseLeg_ne_limit (v : Value) : parseLeg v ≠ .error .numericLimitExceeded := by
  refine except_bind_ne_error (orFail_ne_error (by decide)) fun record =>
    except_bind_ne_error (orFail_ne_error (by decide)) fun kind =>
    except_bind_ne_error (parseEndpoint_ne_limit _) fun source =>
    except_bind_ne_error (parseEndpoint_ne_limit _) fun destination => ?_
  split
  · exact fun h => (by cases h)
  · exact fun h => (by cases h)

theorem failWhen_ne_error {c : Prop} [Decidable c] {code : RoutingFeeValidationCode}
    (h : code ≠ e) : failWhen c code ≠ .error e := fun he => h (failWhen_error.mp he).2

theorem normalizeRoute_ne_limit (v : Value) :
    normalizeRoutingFeeRouteV1 v ≠ .error .numericLimitExceeded := by
  refine except_bind_ne_error (orFail_ne_error (by decide)) fun record =>
    except_bind_ne_error (failWhen_ne_error (by decide)) fun _ =>
    except_bind_ne_error (parseEndpoint_ne_limit _) fun source =>
    except_bind_ne_error (parseEndpoint_ne_limit _) fun destination =>
    except_bind_ne_error (orFail_ne_error (by decide)) fun rawLegs =>
    except_bind_ne_error (except_mapM_ne_error parseLeg_ne_limit rawLegs) fun legs => ?_
  split
  · exact fun h => (by cases h)
  · exact fun h => (by cases h)

theorem resolve_ne_limit (catalogValue atValue : Value) :
    resolveRoutingFeeRuleV1 catalogValue atValue ≠ .error .numericLimitExceeded := by
  apply except_bind_ne_error
  · exact except_bind_ne_error (orFail_ne_error (by decide)) fun record =>
      except_bind_ne_error (failWhen_ne_error (by decide)) fun _ =>
      except_bind_ne_error (orFail_ne_error (by decide)) fun rawRules =>
      except_bind_ne_error (orFail_ne_error (by decide)) fun parsed =>
      except_bind_ne_error (failWhen_ne_error (by decide)) fun _ =>
      except_bind_ne_error (failWhen_ne_error (by decide)) fun _ h => (by cases h)
  · intro catalog
    refine except_bind_ne_error (orFail_ne_error (by decide)) fun t => ?_
    split
    · exact fun h => (by cases h)
    · exact fun h => (by cases h)

theorem parsePassThroughComponent_ne_limit (v : Value) :
    parsePassThroughComponent v ≠ .error .numericLimitExceeded :=
  except_bind_ne_error (orFail_ne_error (by decide)) fun _ =>
    except_bind_ne_error (orFail_ne_error (by decide)) fun _ =>
    except_bind_ne_error (orFail_ne_error (by decide)) fun _ =>
    except_bind_ne_error (parseAtomicAmount_ne_error (by decide)) fun _ =>
    except_bind_ne_error (orFail_ne_error (by decide)) fun _ =>
    except_bind_ne_error (orFail_ne_error (by decide)) fun _ h => (by cases h)

theorem parseFeeBase_ne_limit (v : Value) : parseFeeBase v ≠ .error .numericLimitExceeded :=
  except_bind_ne_error (orFail_ne_error (by decide)) fun _ =>
    except_bind_ne_error (orFail_ne_error (by decide)) fun _ =>
    except_bind_ne_error (parseAtomicAmount_ne_error (by decide)) fun _ h => (by cases h)

theorem effectiveTier_ne_limit (v : Value) : effectiveTier v ≠ .error .numericLimitExceeded := by
  rw [effectiveTier.eq_def]
  split
  · exact fun h => (by cases h)
  · exact fun h => (by cases h)
  · exact orFail_ne_error (by decide)

/-- Nothing before the totals meets the limit. -/
theorem calculation_ne_limit (inputValue catalogValue : Value) :
    calculation inputValue catalogValue ≠ .error .numericLimitExceeded :=
  except_bind_ne_error (orFail_ne_error (by decide)) fun _ =>
    except_bind_ne_error (failWhen_ne_error (by decide)) fun _ =>
    except_bind_ne_error (orFail_ne_error (by decide)) fun _ =>
    except_bind_ne_error (orFail_ne_error (by decide)) fun _ =>
    except_bind_ne_error (orFail_ne_error (by decide)) fun _ =>
    except_bind_ne_error (effectiveTier_ne_limit _) fun _ =>
    except_bind_ne_error (normalizeRoute_ne_limit _) fun _ =>
    except_bind_ne_error (parseFeeBase_ne_limit _) fun _ =>
    except_bind_ne_error (orFail_ne_error (by decide)) fun _ =>
    except_bind_ne_error (except_mapM_ne_error parsePassThroughComponent_ne_limit _) fun _ =>
    except_bind_ne_error (resolve_ne_limit _ _) fun _ =>
    except_bind_ne_error (calculateRoutingFeeAtomicAmount_ne_limit _ _ _) fun _ h =>
      (by cases h)

end Limits

section Calculations

/-- What a calculation reads of its input. -/
structure Reads (inputValue catalogValue : Value) (record : Record)
    (passThroughComponents : List PassThroughComponent) (platformAmount : String)
    (c : Calculation) : Prop where
  shape : inputRecord inputValue = some record
  schema : (record.get "schemaVersion").isNumber 1 = true
  quote : uuidV4 (record.get "quoteReferenceId") .invalidCalculationInput = .ok c.quoteReferenceId
  reference : uuidV4 (record.get "routeReferenceId") .invalidCalculationInput =
    .ok c.routeReferenceId
  quotedAt : canonicalTimestamp (record.get "quotedAt") .invalidCalculationInput = .ok c.quotedAt
  tier : effectiveTier (record.get "tier") = .ok c.effectiveTier
  route : normalizeRoutingFeeRouteV1 (record.get "route") = .ok c.route
  classification : c.routeClassification = classifyNormalizedRoute c.route
  feeBase : parseFeeBase (record.get "feeBase") = .ok c.feeBase
  passThrough : ∃ raw,
    exactArray (record.get "passThroughComponents") 0 (maxFeeComponents - 1) = some raw ∧
      raw.mapM parsePassThroughComponent = .ok passThroughComponents
  rule : resolveRoutingFeeRuleV1 (catalogOrDefault catalogValue)
    (.string c.quotedAt.toISOString) = .ok c.rule
  fee : calculateRoutingFeeAtomicAmount (.string c.feeBase.amountAtomic.text)
    (rateRecord (platformRate c.rule c.routeClassification c.effectiveTier))
    (.string c.rule.roundingMode.text) = .ok platformAmount
  components : c.components =
    feeComponents c.rule c.feeBase platformAmount passThroughComponents

theorem calculation_ok {inputValue catalogValue : Value} {c : Calculation} :
    calculation inputValue catalogValue = .ok c ↔ ∃ record passThroughComponents platformAmount,
      Reads inputValue catalogValue record passThroughComponents platformAmount c := by
  constructor
  · intro h
    obtain ⟨record, hshape, h⟩ := except_bind_ok.mp h
    obtain ⟨_, hschema, h⟩ := except_bind_ok.mp h
    obtain ⟨quote, hquote, h⟩ := except_bind_ok.mp h
    obtain ⟨reference, hreference, h⟩ := except_bind_ok.mp h
    obtain ⟨quotedAt, hquotedAt, h⟩ := except_bind_ok.mp h
    obtain ⟨tier, htier, h⟩ := except_bind_ok.mp h
    obtain ⟨route, hroute, h⟩ := except_bind_ok.mp h
    obtain ⟨feeBase, hfeeBase, h⟩ := except_bind_ok.mp h
    obtain ⟨raw, hraw, h⟩ := except_bind_ok.mp h
    obtain ⟨passThrough, hpassThrough, h⟩ := except_bind_ok.mp h
    obtain ⟨rule, hrule, h⟩ := except_bind_ok.mp h
    obtain ⟨amount, hamount, h⟩ := except_bind_ok.mp h
    obtain rfl := except_pure_ok.mp h
    exact ⟨record, passThrough, amount, orFail_ok.mp hshape,
      by simpa using failWhen_ok.mp hschema, hquote, hreference, hquotedAt, htier, hroute, rfl,
      hfeeBase, ⟨raw, orFail_ok.mp hraw, hpassThrough⟩, hrule, hamount, rfl⟩
  · rintro ⟨record, passThrough, amount, h⟩
    obtain ⟨raw, hraw, hpassThrough⟩ := h.passThrough
    have hclass := h.classification
    have hcomponents := h.components
    have hfee := h.fee
    refine except_bind_ok.mpr ⟨record, orFail_ok.mpr h.shape, ?_⟩
    refine except_bind_ok.mpr ⟨(), failWhen_ok.mpr (by simp [h.schema]), ?_⟩
    refine except_bind_ok.mpr ⟨_, h.quote, except_bind_ok.mpr ⟨_, h.reference, ?_⟩⟩
    refine except_bind_ok.mpr ⟨_, h.quotedAt, except_bind_ok.mpr ⟨_, h.tier, ?_⟩⟩
    refine except_bind_ok.mpr ⟨_, h.route, except_bind_ok.mpr ⟨_, h.feeBase, ?_⟩⟩
    refine except_bind_ok.mpr ⟨raw, orFail_ok.mpr hraw, except_bind_ok.mpr ⟨_, hpassThrough, ?_⟩⟩
    refine except_bind_ok.mpr ⟨_, h.rule, except_bind_ok.mpr ⟨amount, ?_, ?_⟩⟩
    · rw [← hclass]
      exact hfee
    · rw [← hclass, ← hcomponents]
      rfl

theorem feeComponents_lines (rule : RoutingFeeRuleVersionV1) (feeBase : FeeBase)
    (platformAmount : String) (passThroughComponents : List PassThroughComponent) :
    (feeComponents rule feeBase platformAmount passThroughComponents).map (·.lineNumber) =
      List.range' 1 (passThroughComponents.length + 1) := by
  rw [feeComponents, List.map_cons, List.range'_succ]
  congr 1
  apply List.ext_getElem
  · simp
  · intro i hi hj
    simp [Nat.add_comm]

/-- The lines that are passed through, without their numbers. -/
theorem feeComponents_amounts (rule : RoutingFeeRuleVersionV1) (feeBase : FeeBase)
    (platformAmount : String) (passThroughComponents : List PassThroughComponent) :
    (feeComponents rule feeBase platformAmount passThroughComponents).map
        (fun c => (c.assetRevisionId.text, decimalValue c.amountAtomic.toList)) =
      (feeBase.assetRevisionId.text, decimalValue platformAmount.toList) ::
        passThroughComponents.map (fun c => (c.assetRevisionId.text, c.amountAtomic.value)) := by
  rw [feeComponents, List.map_cons]
  congr 1
  apply List.ext_getElem
  · simp
  · intro i hi hj
    simp [AtomicAmount.value]

/-- The sums do not depend on the order of the lines that are passed through. -/
theorem assetSum_feeComponents_perm (id : String) (rule : RoutingFeeRuleVersionV1)
    (feeBase : FeeBase) (platformAmount : String) {l m : List PassThroughComponent}
    (h : l.Perm m) : assetSum id (feeComponents rule feeBase platformAmount l) =
      assetSum id (feeComponents rule feeBase platformAmount m) := by
  have hsum : ∀ l, assetSum id (feeComponents rule feeBase platformAmount l) =
      keySum Prod.fst Prod.snd id
        ((feeBase.assetRevisionId.text, decimalValue platformAmount.toList) ::
          l.map (fun c : PassThroughComponent => (c.assetRevisionId.text, c.amountAtomic.value))) :=
    fun l => by rw [← feeComponents_amounts rule, keySum_map_pairs, assetSum]
  rw [hsum, hsum]
  exact keySum_perm id ((h.map _).cons _)

/-- Two inputs that list the same pass-through components in possibly different orders. -/
def Relisted : Value → Value → Prop :=
  RelatedFields (fun key v w => if key = "passThroughComponents" then Reordered v w else v = w)

theorem Relisted.symm {v w : Value} (h : Relisted v w) : Relisted w v := by
  refine RelatedFields.symm (fun key v w hvw => ?_) h
  by_cases hkey : key = "passThroughComponents"
  · rw [if_pos hkey] at hvw ⊢
    exact hvw.symm
  · rw [if_neg hkey] at hvw ⊢
    exact hvw.symm

theorem Relisted.inputRecord {v w : Value} (h : Relisted v w) {record : Record}
    (hv : inputRecord v = some record) : ∃ record', inputRecord w = some record' ∧
      RelatedRecord (fun key v w => if key = "passThroughComponents" then Reordered v w else v = w)
        record record' := by
  have hrefl : ∀ (key : String) (v : Value),
      if key = "passThroughComponents" then Reordered v v else v = v := by
    intro key v
    split
    · exact .same v
    · rfl
  have hshort := exactRecord_related hrefl h inputKeys
  have hlong := exactRecord_related hrefl h (inputKeys ++ ["tier"])
  rw [RoutingFeeSnapshot.inputRecord] at hv
  rw [RoutingFeeSnapshot.inputRecord]
  cases hs : exactRecord v inputKeys with
  | some r =>
    rw [hs, Option.some_or, Option.some.injEq] at hv
    rw [hs] at hshort
    generalize exactRecord w inputKeys = o at hshort
    cases hshort with
    | some hr => exact ⟨_, rfl, hv ▸ hr⟩
  | none =>
    rw [hs, Option.none_or] at hv
    rw [hs] at hshort
    rw [hv] at hlong
    generalize exactRecord w inputKeys = o at hshort
    generalize exactRecord w (inputKeys ++ ["tier"]) = o' at hlong
    cases hshort with
    | none =>
      cases hlong with
      | some hr => exact ⟨_, rfl, hr⟩

theorem except_mapM_perm {ε α β : Type} {f : α → Except ε β} {l m : List α} {r : List β}
    (h : l.Perm m) (hl : l.mapM f = .ok r) : ∃ r', m.mapM f = .ok r' ∧ r'.Perm r := by
  obtain ⟨r', hr', hperm⟩ := List.perm_comp_forall₂ h.symm (except_mapM_ok.mp hl)
  exact ⟨r', except_mapM_ok.mpr hr', hperm⟩

/-- The order of the pass-through components changes the components only. -/
theorem Relisted.calculation {v w catalogValue : Value} (h : Relisted v w) {c : Calculation}
    (hv : calculation v catalogValue = .ok c) : ∃ c', calculation w catalogValue = .ok c' ∧
      ∀ id, assetSum id c'.components = assetSum id c.components := by
  obtain ⟨record, passThrough, amount, hreads⟩ := calculation_ok.1 hv
  obtain ⟨record', hshape, hfields⟩ := h.inputRecord hreads.shape
  obtain ⟨raw, hraw, hparsed⟩ := hreads.passThrough
  have harray := exactArray_reordered (hfields "passThroughComponents") 0 (maxFeeComponents - 1)
  rw [hraw] at harray
  generalize hraw' : exactArray (record'.get "passThroughComponents") 0 (maxFeeComponents - 1) = o
    at harray
  cases harray with
  | @some _ raw' hperm =>
    obtain ⟨passThrough', hparsed', hperm'⟩ := except_mapM_perm hperm hparsed
    have hschema : record.get "schemaVersion" = record'.get "schemaVersion" :=
      hfields "schemaVersion"
    have hquote : record.get "quoteReferenceId" = record'.get "quoteReferenceId" :=
      hfields "quoteReferenceId"
    have hreference : record.get "routeReferenceId" = record'.get "routeReferenceId" :=
      hfields "routeReferenceId"
    have hquotedAt : record.get "quotedAt" = record'.get "quotedAt" := hfields "quotedAt"
    have htier : record.get "tier" = record'.get "tier" := hfields "tier"
    have hroute : record.get "route" = record'.get "route" := hfields "route"
    have hfeeBase : record.get "feeBase" = record'.get "feeBase" := hfields "feeBase"
    have hreads' : Reads w catalogValue record' passThrough' amount
        { c with components := feeComponents c.rule c.feeBase amount passThrough' } :=
      ⟨hshape, hschema ▸ hreads.schema, hquote ▸ hreads.quote, hreference ▸ hreads.reference,
        hquotedAt ▸ hreads.quotedAt, htier ▸ hreads.tier, hroute ▸ hreads.route,
        hreads.classification, hfeeBase ▸ hreads.feeBase, ⟨raw', hraw', hparsed'⟩, hreads.rule,
        hreads.fee, rfl⟩
    refine ⟨_, calculation_ok.2 ⟨_, _, _, hreads'⟩, fun id => ?_⟩
    rw [hreads.components]
    exact assetSum_feeComponents_perm id c.rule c.feeBase amount hperm'

end Calculations

section Snapshots

variable (sha256 : List UInt8 → String) (inputValue catalogValue : Value)

/-- The components and the totals of an accepted calculation. -/
structure SnapshotLaws (snapshot : RoutingFeeSnapshotV1) : Prop where
  components : ∃ record passThroughComponents platformAmount,
    Reads inputValue catalogValue record passThroughComponents platformAmount
      snapshot.toCalculation
  lines : snapshot.components.map (·.lineNumber) = List.range' 1 snapshot.components.length
  platform : ∃ line rest, snapshot.components = line :: rest ∧ line.category = .platform ∧
    line.assetRevisionId = snapshot.feeBase.assetRevisionId ∧
    ∀ other ∈ rest, other.source = .passThroughQuote
  totals : TotalsLaws snapshot.components snapshot.totalsByAsset

theorem snapshotLaws {snapshot : RoutingFeeSnapshotV1}
    (h : calculateRoutingFeeSnapshotV1 sha256 inputValue catalogValue = .ok snapshot) :
    SnapshotLaws inputValue catalogValue snapshot := by
  obtain ⟨c, hc, h⟩ := except_bind_ok.mp h
  obtain ⟨totals, htotals, h⟩ := except_bind_ok.mp h
  obtain ⟨_, -, h⟩ := except_bind_ok.mp h
  obtain rfl := except_pure_ok.mp h
  obtain ⟨record, passThrough, amount, hreads⟩ := calculation_ok.1 hc
  have hcomponents := hreads.components
  refine ⟨⟨record, passThrough, amount, hreads⟩, ?_, ?_, ?_⟩
  · have hlines := feeComponents_lines c.rule c.feeBase amount passThrough
    have hlength : c.components.length = passThrough.length + 1 := by
      rw [hcomponents, feeComponents, List.length_cons, List.length_mapIdx]
    rw [← hcomponents, ← hlength] at hlines
    exact hlines
  · refine ⟨_, _, hcomponents, rfl, rfl, ?_⟩
    intro other hother
    obtain ⟨i, hi, rfl⟩ := List.mem_mapIdx.mp hother
    rfl
  · obtain ⟨-, totals', htotals', hlaws⟩ | ⟨-, herror⟩ := totalsByAsset_cases c.components
    · rw [htotals] at htotals'
      obtain rfl := Except.ok.inj htotals'
      exact hlaws
    · rw [htotals] at herror
      cases herror

/-- The limit is met exactly when some asset's sum is above it. -/
theorem calculate_limit_iff :
    calculateRoutingFeeSnapshotV1 sha256 inputValue catalogValue = .error .numericLimitExceeded ↔
      ∃ c, calculation inputValue catalogValue = .ok c ∧
        ∃ id, 2 ^ 256 - 1 < assetSum id c.components := by
  rw [calculateRoutingFeeSnapshotV1]
  constructor
  · intro h
    obtain h | ⟨c, hc, h⟩ := except_bind_error.mp h
    · exact absurd h (calculation_ne_limit inputValue catalogValue)
    · obtain ⟨-, totals, htotals, -⟩ | ⟨hsum, -⟩ := totalsByAsset_cases c.components
      · rw [htotals, except_ok_bind] at h
        refine absurd h (except_bind_ne_error (failWhen_ne_error (by decide)) fun _ he => ?_)
        cases he
      · exact ⟨c, hc, hsum⟩
  · rintro ⟨c, hc, id, hid⟩
    obtain ⟨hsums, -⟩ | ⟨-, herror⟩ := totalsByAsset_cases c.components
    · exact absurd (hsums id) (by omega)
    · exact except_bind_error.mpr (.inr ⟨c, hc, except_bind_error.mpr (.inl herror)⟩)

/-- Accepted inputs have their components in order and exact totals of every asset; the others
among those that are otherwise valid have a sum above the limit, in whatever order their
pass-through components stand. -/
theorem calculateRoutingFeeSnapshotV1_totals :
    (∀ snapshot, calculateRoutingFeeSnapshotV1 sha256 inputValue catalogValue = .ok snapshot →
      SnapshotLaws inputValue catalogValue snapshot) ∧
    (calculateRoutingFeeSnapshotV1 sha256 inputValue catalogValue = .error .numericLimitExceeded ↔
      ∃ c, calculation inputValue catalogValue = .ok c ∧
        ∃ id, 2 ^ 256 - 1 < assetSum id c.components) ∧
    ∀ w, Relisted inputValue w →
      (calculateRoutingFeeSnapshotV1 sha256 w catalogValue = .error .numericLimitExceeded ↔
        calculateRoutingFeeSnapshotV1 sha256 inputValue catalogValue =
          .error .numericLimitExceeded) := by
  refine ⟨fun snapshot h => snapshotLaws sha256 inputValue catalogValue h,
    calculate_limit_iff sha256 inputValue catalogValue, fun w hw => ?_⟩
  have hforward : ∀ {v w : Value}, Relisted v w →
      calculateRoutingFeeSnapshotV1 sha256 v catalogValue = .error .numericLimitExceeded →
      calculateRoutingFeeSnapshotV1 sha256 w catalogValue = .error .numericLimitExceeded := by
    intro v w hvw h
    obtain ⟨c, hc, id, hid⟩ := (calculate_limit_iff sha256 v catalogValue).mp h
    obtain ⟨c', hc', hsums⟩ := hvw.calculation hc
    exact (calculate_limit_iff sha256 w catalogValue).mpr ⟨c', hc', id, (hsums id).symm ▸ hid⟩
  exact ⟨hforward hw.symm, hforward hw⟩

end Snapshots

section Sample

def sampleComponent (category assetRevisionId amountAtomic deductionMode sourceReferenceId : String) :
    Value :=
  ofFields [("category", .string category), ("assetRevisionId", .string assetRevisionId),
    ("amountAtomic", .string amountAtomic), ("deductionMode", .string deductionMode),
    ("sourceReferenceId", .string sourceReferenceId)]

/-- A quote of the free tier whose totals stand in another order than its components. -/
def sampleInput : Value :=
  ofFields [("schemaVersion", .integer 1),
    ("quoteReferenceId", .string "10000000-0000-4000-8000-000000000001"),
    ("routeReferenceId", .string "10000000-0000-4000-8000-000000000002"),
    ("quotedAt", .string "2026-09-01T00:00:00.000Z"), ("route", RouteClassification.sampleRoute),
    ("feeBase", ofFields [
      ("assetRevisionId", .string "20000000-0000-4000-8000-000000000002"),
      ("amountAtomic", .string "1000000")]),
    ("passThroughComponents", ofItems [
      sampleComponent "BRIDGE" "20000000-0000-4000-8000-000000000001" "700" "DEDUCTED_FROM_INPUT"
        "30000000-0000-4000-8000-000000000001",
      sampleComponent "DEX" "20000000-0000-4000-8000-000000000002" "30" "ADDED_ON_TOP"
        "30000000-0000-4000-8000-000000000002"])]

/-- The digest of the sample's text. -/
def sampleDigest (_ : List UInt8) : String :=
  "0a0977c40211e08db9d86b3a48c7e32072191ac56c584cc2023d4fce54bb6eff"

theorem sampleInput_totals : ∃ snapshot,
    calculateRoutingFeeSnapshotV1 sampleDigest sampleInput .undefined = .ok snapshot ∧
      SnapshotLaws sampleInput .undefined snapshot := by
  have haccepted :
      (calculateRoutingFeeSnapshotV1 sampleDigest sampleInput .undefined).isOk = true := by
    decide +kernel
  obtain ⟨snapshot, hsnapshot⟩ := except_exists_of_isOk haccepted
  exact ⟨snapshot, hsnapshot, (calculateRoutingFeeSnapshotV1_totals sampleDigest sampleInput
    .undefined).1 snapshot hsnapshot⟩

end Sample

end CryptoLending.RoutingFees.SnapshotTotals
