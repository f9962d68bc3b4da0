import CryptoLending.Lib.JsonRecord
import CryptoLending.RoutingFees.RoutingFeeAmount
import CryptoLending.RoutingFees.RoutingFeeRules

namespace CryptoLending.RoutingFees.RoutingFeeSnapshot

open Lib Lib.JsValue Lib.Text Lib.DecimalText Lib.Sorting Lib.JsString
open RoutingFeeAmount RoutingFeeRules RoutingFeeRoute

def maxFeeComponents : Nat := 32

inductive RoutingFeeCategory where
  | platform
  | network
  | dex
  | bridge
  | provider
  deriving DecidableEq

def RoutingFeeCategory.text : RoutingFeeCategory → String
  | .platform => "PLATFORM"
  | .network => "NETWORK"
  | .dex => "DEX"
  | .bridge => "BRIDGE"
  | .provider => "PROVIDER"

def routingFeePassThroughCategories : List RoutingFeeCategory := [.network, .dex, .bridge, .provider]

inductive RoutingFeeDeductionMode where
  | addedOnTop
  | deductedFromInput
  | deductedFromOutput
  deriving DecidableEq

def RoutingFeeDeductionMode.text : RoutingFeeDeductionMode → String
  | .addedOnTop => "ADDED_ON_TOP"
  | .deductedFromInput => "DEDUCTED_FROM_INPUT"
  | .deductedFromOutput => "DEDUCTED_FROM_OUTPUT"

def routingFeeDeductionModes : List RoutingFeeDeductionMode :=
  [.addedOnTop, .deductedFromInput, .deductedFromOutput]

inductive RoutingFeeComponentSource where
  | platformRule
  | passThroughQuote
  deriving DecidableEq

def RoutingFeeComponentSource.text : RoutingFeeComponentSource → String
  | .platformRule => "PLATFORM_RULE"
  | .passThroughQuote => "PASS_THROUGH_QUOTE"

structure FeeBase where
  assetRevisionId : UuidV4
  amountAtomic : AtomicAmount false
  deriving DecidableEq

def parseFeeBase (v : Value) : Except RoutingFeeValidationCode FeeBase := do
  let record ← orFail (exactRecord v ["assetRevisionId", "amountAtomic"]) .invalidCalculationInput
  return {
    assetRevisionId := ← uuidV4 (record.get "assetRevisionId") .invalidCalculationInput
    amountAtomic := ← parseAtomicAmount (record.get "amountAtomic") false .invalidAtomicAmount }

structure PassThroughComponent where
  category : RoutingFeeCategory
  assetRevisionId : UuidV4
  amountAtomic : AtomicAmount true
  deductionMode : RoutingFeeDeductionMode
  sourceReferenceId : UuidV4
  deriving DecidableEq

def parsePassThroughComponent (v : Value) :
    Except RoutingFeeValidationCode PassThroughComponent := do
  let record ← orFail (exactRecord v ["category", "assetRevisionId", "amountAtomic",
    "deductionMode", "sourceReferenceId"]) .invalidFeeComponent
  return {
    category := ← enumMember RoutingFeeCategory.text (record.get "category")
      routingFeePassThroughCategories .invalidFeeComponent
    assetRevisionId := ← uuidV4 (record.get "assetRevisionId") .invalidFeeComponent
    amountAtomic := ← parseAtomicAmount (record.get "amountAtomic") true .invalidAtomicAmount
    deductionMode := ← enumMember RoutingFeeDeductionMode.text (record.get "deductionMode")
      routingFeeDeductionModes .invalidFeeComponent
    sourceReferenceId := ← uuidV4 (record.get "sourceReferenceId") .invalidFeeComponent }

/-- A missing tier, undefined or null means the free one. -/
def effectiveTier : Value → Except RoutingFeeValidationCode RoutingFeeTier
  | .undefined => .ok .free
  | .null => .ok .free
  | v => enumMember RoutingFeeTier.text v routingFeeTiers .invalidCalculationInput

structure RoutingFeeComponentV1 where
  lineNumber : Nat
  category : RoutingFeeCategory
  assetRevisionId : UuidV4
  amountAtomic : String
  deductionMode : RoutingFeeDeductionMode
  source : RoutingFeeComponentSource
  sourceReferenceId : UuidV4
  deriving DecidableEq

structure RoutingFeeAssetTotalV1 where
  assetRevisionId : String
  amountAtomic : String
  deriving DecidableEq

/-- Add a component to the total of its asset. -/
def addComponent (totals : JsMap String Nat) (component : RoutingFeeComponentV1) :
    Except RoutingFeeValidationCode (JsMap String Nat) := do
  let next := (totals.get component.assetRevisionId.text).getD 0 +
    decimalValue component.amountAtomic.toList
  failWhen (next > decimalValue maxRoutingFeeAtomicAmount.toList) .numericLimitExceeded
  return totals.set component.assetRevisionId.text next

def compareAssets (left right : String × Nat) : Ordering :=
  if left.1 = right.1 then .eq else if left.1 < right.1 then .lt else .gt

def totalsByAsset (components : List RoutingFeeComponentV1) :
    Except RoutingFeeValidationCode (List RoutingFeeAssetTotalV1) := do
  let totals ← components.foldlM addComponent .empty
  return (sortBy compareAssets totals.entries).map (fun e => ⟨e.1, integerText e.2⟩)

/-- Everything about a calculation before its totals. -/
structure Calculation where
  quoteReferenceId : UuidV4
  routeReferenceId : UuidV4
  quotedAt : IsoReading.PlainTime
  effectiveTier : RoutingFeeTier
  rule : RoutingFeeRuleVersionV1
  route : RoutingFeeRouteV1
  routeClassification : RoutingFeeRouteClassificationV1
  feeBase : FeeBase
  components : List RoutingFeeComponentV1
  deriving DecidableEq

/-- A snapshot without its fingerprint. -/
structure SnapshotContent extends Calculation where
  totalsByAsset : List RoutingFeeAssetTotalV1
  deriving DecidableEq

structure RoutingFeeSnapshotV1 extends SnapshotContent where
  fingerprintSha256 : String
  deriving DecidableEq

def inputKeys : List String :=
  ["schemaVersion", "quoteReferenceId", "routeReferenceId", "quotedAt", "route", "feeBase",
    "passThroughComponents"]

/-- The fields of an input; the tier may be left out. -/
def inputRecord (v : Value) : Option Record :=
  (exactRecord v inputKeys).or (exactRecord v (inputKeys ++ ["tier"]))

def MaterialRates.rate (rates : MaterialRates) : RoutingFeeTier → RoutingFeeDecimalV1
  | .free => rates.free
  | .individual => rates.individual
  | .pro => rates.pro

def platformRate (rule : RoutingFeeRuleVersionV1) (classification : RoutingFeeRouteClassificationV1)
    (tier : RoutingFeeTier) : RoutingFeeDecimalV1 :=
  if classification.kind = .directCompatible then rule.platformRates.directCompatible
  else MaterialRates.rate rule.platformRates.materialOrchestration tier

/-- The platform line and the lines that are passed through. -/
def feeComponents (rule : RoutingFeeRuleVersionV1) (feeBase : FeeBase) (platformAmount : String)
    (passThroughComponents : List PassThroughComponent) : List RoutingFeeComponentV1 :=
  ⟨1, .platform, feeBase.assetRevisionId, platformAmount, .addedOnTop, .platformRule,
      rule.ruleReferenceId⟩ ::
    passThroughComponents.mapIdx (fun index component =>
      ⟨index + 2, component.category, component.assetRevisionId, component.amountAtomic.text,
        component.deductionMode, .passThroughQuote, component.sourceReferenceId⟩)

def routingFeeRuleV1 : Value :=
  ofFields [("schemaVersion", .integer 1),
    ("ruleReferenceId", .string "76000000-0000-4000-8000-000000000001"), ("version", .integer 1),
    ("effectiveFrom", .string "2026-08-25T00:00:00.000Z"), ("effectiveUntil", .null),
    ("routeClassificationVersion", .integer 1), ("roundingMode", .string "HALF_EVEN"),
    ("platformRates", ofFields [
      ("directCompatible", ofFields [("mantissa", .string "0"), ("scale", .integer 0)]),
      ("materialOrchestration", ofFields [
        ("FREE", ofFields [("mantissa", .string "20"), ("scale", .integer 4)]),
        ("INDIVIDUAL", ofFields [("mantissa", .string "12"), ("scale", .integer 4)]),
        ("PRO", ofFields [("mantissa", .string "8"), ("scale", .integer 4)])])])]

def routingFeeRuleCatalogV1 : Value :=
  ofFields [("schemaVersion", .integer 1), ("rules", ofItems [routingFeeRuleV1])]

/-- The catalog of a call; the built-in one when none is given. -/
def catalogOrDefault : Value → Value
  | .undefined => routingFeeRuleCatalogV1
  | catalogValue => catalogValue

def calculation (inputValue catalogValue : Value) :
    Except RoutingFeeValidationCode Calculation := do
  let record ← orFail (inputRecord inputValue) .invalidCalculationInput
  failWhen ((record.get "schemaVersion").isNumber 1 = false) .invalidCalculationInput
  let quoteReferenceId ← uuidV4 (record.get "quoteReferenceId") .invalidCalculationInput
  let routeReferenceId ← uuidV4 (record.get "routeReferenceId") .invalidCalculationInput
  let quotedAt ← canonicalTimestamp (record.get "quotedAt") .invalidCalculationInput
  let tier ← effectiveTier (record.get "tier")
  let route ← normalizeRoutingFeeRouteV1 (record.get "route")
  let routeClassification := classifyNormalizedRoute route
  let feeBase ← parseFeeBase (record.get "feeBase")
  let rawComponents ← orFail
    (exactArray (record.get "passThroughComponents") 0 (maxFeeComponents - 1)) .invalidFeeComponent
  let passThroughComponents ← rawComponents.mapM parsePassThroughComponent
  let rule ← resolveRoutingFeeRuleV1 (catalogOrDefault catalogValue) (.string quotedAt.toISOString)
  let platformAmount ← calculateRoutingFeeAtomicAmount (.string feeBase.amountAtomic.text)
    (rateRecord (platformRate rule routeClassification tier)) (.string rule.roundingMode.text)
  return {
    quoteReferenceId, routeReferenceId, quotedAt, effectiveTier := tier, rule, route,
    routeClassification, feeBase,
    components := feeComponents rule feeBase platformAmount passThroughComponents }

section Fingerprint

open JsonTree

def rateTree (rate : RoutingFeeDecimalV1) : JsonTree :=
  record [("mantissa", text rate.mantissa), ("scale", natural rate.scale)]

def ruleTree (rule : RoutingFeeRuleVersionV1) : JsonTree :=
  record [("schemaVersion", natural 1), ("ruleReferenceId", text rule.ruleReferenceId.text),
    ("version", natural rule.version.value),
    ("effectiveFrom", text rule.effectiveFrom.toISOString),
    ("effectiveUntil", (rule.effectiveUntil.map (text ·.toISOString)).getD .null),
    ("routeClassificationVersion", natural 1), ("roundingMode", text rule.roundingMode.text),
    ("platformRates", record [("directCompatible", rateTree rule.platformRates.directCompatible),
      ("materialOrchestration", record [
        ("FREE", rateTree rule.platformRates.materialOrchestration.free),
        ("INDIVIDUAL", rateTree rule.platformRates.materialOrchestration.individual),
        ("PRO", rateTree rule.platformRates.materialOrchestration.pro)])])]

def endpointTree (endpoint : RoutingFeeRouteEndpointV1) : JsonTree :=
  record [("networkId", text endpoint.networkId.text), ("assetId", text endpoint.assetId.text)]

def legTree (leg : RoutingFeeRouteLegV1) : JsonTree :=
  record [("kind", text leg.kind.text), ("source", endpointTree leg.source),
    ("destination", endpointTree leg.destination)]

def routeTree (route : RoutingFeeRouteV1) : JsonTree :=
  record [("schemaVersion", natural 1), ("source", endpointTree route.source),
    ("destination", endpointTree route.destination), ("legs", .array (route.legs.map legTree))]

def RoutingFeeRouteClassificationKind.text : RoutingFeeRouteClassificationKind → String
  | .directCompatible => "DIRECT_COMPATIBLE"
  | .materialOrchestration => "MATERIAL_ORCHESTRATION"

def RoutingFeeClassificationReason.text : RoutingFeeClassificationReason → String
  | .singleDirectCompatibleLeg => "SINGLE_DIRECT_COMPATIBLE_LEG"
  | .multiLegRoute => "MULTI_LEG_ROUTE"
  | .swapRequired => "SWAP_REQUIRED"
  | .bridgeRequired => "BRIDGE_REQUIRED"

def classificationTree (classification : RoutingFeeRouteClassificationV1) : JsonTree :=
  record [("version", natural 1),
    ("kind", text (RoutingFeeRouteClassificationKind.text classification.kind)),
    ("reasons", .array (classification.reasons.map
      (fun reason => text (RoutingFeeClassificationReason.text reason))))]

def feeBaseTree (feeBase : FeeBase) : JsonTree :=
  record [("assetRevisionId", text feeBase.assetRevisionId.text),
    ("amountAtomic", text feeBase.amountAtomic.text)]

def componentTree (component : RoutingFeeComponentV1) : JsonTree :=
  record [("lineNumber", natural component.lineNumber), ("category", text component.category.text),
    ("assetRevisionId", text component.assetRevisionId.text),
    ("amountAtomic", text component.amountAtomic),
    ("deductionMode", text component.deductionMode.text), ("source", text component.source.text),
    ("sourceReferenceId", text component.sourceReferenceId.text)]

def totalTree (total : RoutingFeeAssetTotalV1) : JsonTree :=
  record [("assetRevisionId", text total.assetRevisionId),
    ("amountAtomic", text total.amountAtomic)]

def contentTree (content : SnapshotContent) : JsonTree :=
  record [("schemaVersion", natural 1), ("quoteReferenceId", text content.quoteReferenceId.text),
    ("routeReferenceId", text content.routeReferenceId.text),
    ("quotedAt", text content.quotedAt.toISOString),
    ("effectiveTier", text content.effectiveTier.text), ("rule", ruleTree content.rule),
    ("route", routeTree content.route),
    ("routeClassification", classificationTree content.routeClassification),
    ("feeBase", feeBaseTree content.feeBase),
    ("components", .array (content.components.map componentTree)),
    ("totalsByAsset", .array (content.totalsByAsset.map totalTree))]

/-- The text that is hashed. -/
def fingerprintText (content : SnapshotContent) : JsString :=
  ofString "crypto-lending:routing-fee-snapshot:v1\x00" ++ stringify (contentTree content)

end Fingerprint

def isDigest (digest : String) : Bool :=
  digest.toList.length == 64 && digest.toList.all isLowerHex

def calculateRoutingFeeSnapshotV1 (sha256 : List UInt8 → String)
    (inputValue catalogValue : Value) :
    Except RoutingFeeValidationCode RoutingFeeSnapshotV1 := do
  let calculated ← calculation inputValue catalogValue
  let totals ← totalsByAsset calculated.components
  let content : SnapshotContent := { calculated with totalsByAsset := totals }
  let fingerprintSha256 := sha256 (utf8 (fingerprintText content))
  failWhen (isDigest fingerprintSha256 = false) .invalidCalculationInput
  return { content with fingerprintSha256 }

end CryptoLending.RoutingFees.RoutingFeeSnapshot
