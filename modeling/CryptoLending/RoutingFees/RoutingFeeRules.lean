import CryptoLending.Lib.JsReading
import CryptoLending.Lib.IsoReading
import CryptoLending.Lib.Sorting
import CryptoLending.RoutingFees.RoutingFeeAmount

namespace CryptoLending.RoutingFees.RoutingFeeRules

open Lib Lib.JsValue Lib.Identifier Lib.Sorting RoutingFeeAmount

deriving instance DecidableEq for IsoReading.PlainTime

abbrev UuidV4 := Matching isUuidV4

def uuidV4 (v : Value) (code : RoutingFeeValidationCode) : Except RoutingFeeValidationCode UuidV4 :=
  orFail (Matching.ofValue isUuidV4 v) code

/-- A positive safe integer. -/
structure PositiveVersion where
  value : Nat
  positive : 1 ≤ value
  safe : value < 2 ^ 53
  deriving DecidableEq

def positiveVersion (v : Value) (code : RoutingFeeValidationCode) :
    Except RoutingFeeValidationCode PositiveVersion := do
  let value ← orFail v.integer? code
  if h : 1 ≤ value.toNat ∧ value.toNat < 2 ^ 53 then .ok ⟨value.toNat, h.1, h.2⟩ else .error code

def canonicalTimestamp (v : Value) (code : RoutingFeeValidationCode) :
    Except RoutingFeeValidationCode IsoReading.PlainTime :=
  orFail (v.string?.bind IsoReading.canonicalTimestamp) code

inductive RoutingFeeTier where
  | free
  | individual
  | pro
  deriving DecidableEq

def RoutingFeeTier.text : RoutingFeeTier → String
  | .free => "FREE"
  | .individual => "INDIVIDUAL"
  | .pro => "PRO"

def routingFeeTiers : List RoutingFeeTier := [.free, .individual, .pro]

structure MaterialRates where
  free : RoutingFeeDecimalV1
  individual : RoutingFeeDecimalV1
  pro : RoutingFeeDecimalV1
  deriving DecidableEq

/-- Direct settlement costs nothing. -/
structure PlatformRates where
  directCompatible : RoutingFeeDecimalV1
  materialOrchestration : MaterialRates
  direct_zero : directCompatible.mantissa = "0"
  deriving DecidableEq

/-- A rule is in effect from an instant on, and, when it has an end, up to a later one. -/
structure RoutingFeeRuleVersionV1 where
  ruleReferenceId : UuidV4
  version : PositiveVersion
  effectiveFrom : IsoReading.PlainTime
  effectiveUntil : Option IsoReading.PlainTime
  roundingMode : RoutingFeeRoundingMode
  platformRates : PlatformRates
  ends_later : ∀ t ∈ effectiveUntil, effectiveFrom.toISOString < t.toISOString
  deriving DecidableEq

def parseRates (v : Value) : Except RoutingFeeValidationCode MaterialRates := do
  let record ← orFail (exactRecord v ["FREE", "INDIVIDUAL", "PRO"]) .invalidRule
  return {
    free := ← parseDecimal (record.get "FREE") .invalidRule
    individual := ← parseDecimal (record.get "INDIVIDUAL") .invalidRule
    pro := ← parseDecimal (record.get "PRO") .invalidRule }

def parsePlatformRates (v : Value) : Except RoutingFeeValidationCode PlatformRates := do
  let record ← orFail (exactRecord v ["directCompatible", "materialOrchestration"]) .invalidRule
  let directCompatible ← parseDecimal (record.get "directCompatible") .invalidRule
  if h : directCompatible.mantissa = "0" then
    return ⟨directCompatible, ← parseRates (record.get "materialOrchestration"), h⟩
  else .error .invalidRule

/-- A missing end is written as null. -/
def parseEffectiveUntil (v : Value) :
    Except RoutingFeeValidationCode (Option IsoReading.PlainTime) :=
  if v.isNull then .ok none else do
    return some (← canonicalTimestamp v .invalidRule)

def normalizeRoutingFeeRuleVersionV1 (v : Value) :
    Except RoutingFeeValidationCode RoutingFeeRuleVersionV1 := do
  let record ← orFail (exactRecord v ["schemaVersion", "ruleReferenceId", "version",
    "effectiveFrom", "effectiveUntil", "routeClassificationVersion", "roundingMode",
    "platformRates"]) .invalidRule
  failWhen ((record.get "schemaVersion").isNumber 1 = false ∨
    (record.get "routeClassificationVersion").isNumber 1 = false) .invalidRule
  let effectiveFrom ← canonicalTimestamp (record.get "effectiveFrom") .invalidRule
  let effectiveUntil ← parseEffectiveUntil (record.get "effectiveUntil")
  if h : ∀ t ∈ effectiveUntil, effectiveFrom.toISOString < t.toISOString then
    let platformRates ← parsePlatformRates (record.get "platformRates")
    let ruleReferenceId ← uuidV4 (record.get "ruleReferenceId") .invalidRule
    let version ← positiveVersion (record.get "version") .invalidRule
    let roundingMode ← enumMember RoutingFeeRoundingMode.text (record.get "roundingMode")
      routingFeeRoundingModes .invalidRule
    return ⟨ruleReferenceId, version, effectiveFrom, effectiveUntil, roundingMode, platformRates, h⟩
  else .error .invalidRule

/-- The rules of a catalog, one after the other in time. -/
structure RoutingFeeRuleCatalogV1 where
  rules : List RoutingFeeRuleVersionV1
  deriving DecidableEq

def compareRules (left right : RoutingFeeRuleVersionV1) : Ordering :=
  if left.effectiveFrom.toISOString = right.effectiveFrom.toISOString then
    compare left.version.value right.version.value
  else if left.effectiveFrom.toISOString < right.effectiveFrom.toISOString then .lt
  else .gt

/-- The next rule is a later version and does not begin before the end of the current one. -/
def followsRule (current next : RoutingFeeRuleVersionV1) : Bool :=
  !(decide (current.version.value ≥ next.version.value) ||
    match current.effectiveUntil with
    | none => true
    | some t => decide (next.effectiveFrom.toISOString < t.toISOString))

/-- The loop over adjacent rules. -/
def rulesFollow : List RoutingFeeRuleVersionV1 → Bool
  | current :: next :: rest => followsRule current next && rulesFollow (next :: rest)
  | _ => true

def normalizeRoutingFeeRuleCatalogV1 (v : Value) :
    Except RoutingFeeValidationCode RoutingFeeRuleCatalogV1 := do
  let record ← orFail (exactRecord v ["schemaVersion", "rules"]) .invalidRuleCatalog
  failWhen ((record.get "schemaVersion").isNumber 1 = false) .invalidRuleCatalog
  let rawRules ← orFail (exactArray (record.get "rules") 1 128) .invalidRuleCatalog
  let parsed ← orFail (rawRules.mapM fun rule => (normalizeRoutingFeeRuleVersionV1 rule).toOption)
    .invalidRuleCatalog
  let rules := sortBy compareRules parsed
  failWhen (¬(rules.map (·.ruleReferenceId)).Nodup ∨ ¬(rules.map (·.version)).Nodup)
    .invalidRuleCatalog
  failWhen (rulesFollow rules = false) .invalidRuleCatalog
  return ⟨rules⟩

/-- Whether a rule is in effect at an instant. -/
def effectiveAt (t : IsoReading.PlainTime) (rule : RoutingFeeRuleVersionV1) : Bool :=
  decide (rule.effectiveFrom.toISOString ≤ t.toISOString) &&
    rule.effectiveUntil.all (fun u => decide (t.toISOString < u.toISOString))

def resolveRoutingFeeRuleV1 (catalogValue atValue : Value) :
    Except RoutingFeeValidationCode RoutingFeeRuleVersionV1 := do
  let catalog ← normalizeRoutingFeeRuleCatalogV1 catalogValue
  let t ← canonicalTimestamp atValue .noEffectiveRule
  match catalog.rules.filter (effectiveAt t) with
  | [rule] => return rule
  | _ => .error .noEffectiveRule

section Rendering

def rateRecord (rate : RoutingFeeDecimalV1) : Value :=
  ofFields [("mantissa", .string rate.mantissa), ("scale", .integer rate.scale)]

def MaterialRates.toValue (rates : MaterialRates) : Value :=
  ofFields [("FREE", rateRecord rates.free), ("INDIVIDUAL", rateRecord rates.individual),
    ("PRO", rateRecord rates.pro)]

def PlatformRates.toValue (rates : PlatformRates) : Value :=
  ofFields [("directCompatible", rateRecord rates.directCompatible),
    ("materialOrchestration", rates.materialOrchestration.toValue)]

def RoutingFeeRuleVersionV1.toValue (rule : RoutingFeeRuleVersionV1) : Value :=
  ofFields [("schemaVersion", .integer 1), ("ruleReferenceId", .string rule.ruleReferenceId.text),
    ("version", .integer rule.version.value),
    ("effectiveFrom", .string rule.effectiveFrom.toISOString),
    ("effectiveUntil", (rule.effectiveUntil.map (Value.string ·.toISOString)).getD .null),
    ("routeClassificationVersion", .integer 1), ("roundingMode", .string rule.roundingMode.text),
    ("platformRates", rule.platformRates.toValue)]

/-- A normalized catalog as a value. -/
def RoutingFeeRuleCatalogV1.toValue (catalog : RoutingFeeRuleCatalogV1) : Value :=
  ofFields [("schemaVersion", .integer 1), ("rules", ofItems (catalog.rules.map (·.toValue)))]

end Rendering

end CryptoLending.RoutingFees.RoutingFeeRules
