import CryptoLending.Lib.Decimal
import CryptoLending.Lib.DecimalText
import CryptoLending.Lib.JsReading
import CryptoLending.Lib.JsValue
import CryptoLending.Lib.Transaction

namespace CryptoLending.RoutingFees.RoutingFeeAmount

open Lib Lib.JsValue Lib.Text Lib.Decimal Lib.DecimalText Lib.Rounding

def maxDecimalDigits : Nat := 78
def maxDecimalScale : Nat := 77

def maxRoutingFeeAtomicAmount : String :=
  "115792089237316195423570985008687907853269984665640564039457584007913129639935"

inductive RoutingFeeRoundingMode where
  | down
  | up
  | halfEven
  deriving DecidableEq

def RoutingFeeRoundingMode.text : RoutingFeeRoundingMode → String
  | .down => "DOWN"
  | .up => "UP"
  | .halfEven => "HALF_EVEN"

def routingFeeRoundingModes : List RoutingFeeRoundingMode := [.down, .up, .halfEven]

inductive RoutingFeeValidationCode where
  | invalidRule
  | invalidRuleCatalog
  | noEffectiveRule
  | invalidRoute
  | invalidCalculationInput
  | invalidFeeComponent
  | invalidAtomicAmount
  | numericLimitExceeded
  deriving DecidableEq

/-- The numerals that are amounts, of at most 256 bits. -/
def isAtomicAmount (allowZero : Bool) (text : String) : Bool :=
  (if allowZero then isCanonicalUint text.toList else isPositiveUint text.toList) &&
    !(decide (text.length > maxRoutingFeeAtomicAmount.length) ||
      text.length == maxRoutingFeeAtomicAmount.length &&
        decide (maxRoutingFeeAtomicAmount < text))

structure AtomicAmount (allowZero : Bool) where
  text : String
  accepted : isAtomicAmount allowZero text = true
  deriving DecidableEq

def AtomicAmount.value {allowZero : Bool} (amount : AtomicAmount allowZero) : Nat :=
  decimalValue amount.text.toList

/-- The mantissas and scales of rates between zero and one. -/
def isDecimal (mantissa : String) (scale : Nat) : Bool :=
  isCanonicalUint mantissa.toList && decide (mantissa.length ≤ maxDecimalDigits) &&
    decide (scale ≤ maxDecimalScale) && decide (decimalValue mantissa.toList ≤ 10 ^ scale)

/-- A rate of at most one, never a binary floating-point number. -/
structure RoutingFeeDecimalV1 where
  mantissa : String
  scale : Nat
  accepted : isDecimal mantissa scale = true
  deriving DecidableEq

def RoutingFeeDecimalV1.fixed (rate : RoutingFeeDecimalV1) : FixedDecimal :=
  ⟨decimalValue rate.mantissa.toList, rate.scale⟩

/-- The number that a rate denotes. -/
def RoutingFeeDecimalV1.value (rate : RoutingFeeDecimalV1) : ℚ := rate.fixed.value

def parseDecimal (v : Value) (code : RoutingFeeValidationCode) :
    Except RoutingFeeValidationCode RoutingFeeDecimalV1 := do
  let record ← orFail (exactRecord v ["mantissa", "scale"]) code
  let mantissa ← orFail (record.get "mantissa").string? code
  let scale ← orFail (record.get "scale").integer? code
  if h : 0 ≤ scale ∧ isDecimal mantissa scale.toNat = true then .ok ⟨mantissa, scale.toNat, h.2⟩
  else .error code

def parseAtomicAmount (v : Value) (allowZero : Bool) (code : RoutingFeeValidationCode) :
    Except RoutingFeeValidationCode (AtomicAmount allowZero) := do
  let text ← orFail v.string? code
  if h : isAtomicAmount allowZero text = true then .ok ⟨text, h⟩ else .error code

/-- The member of an enumeration that a text names. -/
def enumMember {α : Type} (text : α → String) (v : Value) (allowed : List α)
    (code : RoutingFeeValidationCode) : Except RoutingFeeValidationCode α :=
  orFail (v.string?.bind (fun s => allowed.find? (fun a => text a == s))) code

def roundRatio (numerator denominator : Nat) (roundingMode : RoutingFeeRoundingMode) : Nat :=
  let quotient := numerator / denominator
  let remainder := numerator % denominator
  if remainder = 0 ∨ roundingMode = .down then quotient
  else if roundingMode = .up then quotient + 1
  else
    let doubledRemainder := remainder * 2
    if doubledRemainder < denominator then quotient
    else if doubledRemainder > denominator then quotient + 1
    else if quotient % 2 = 0 then quotient else quotient + 1

def calculateRoutingFeeAtomicAmount (amountAtomicValue rateValue roundingModeValue : Value) :
    Except RoutingFeeValidationCode String := do
  let amountAtomic ← parseAtomicAmount amountAtomicValue true .invalidAtomicAmount
  let rate ← parseDecimal rateValue .invalidRule
  let roundingMode ← enumMember RoutingFeeRoundingMode.text roundingModeValue
    routingFeeRoundingModes .invalidRule
  let result := roundRatio (amountAtomic.value * decimalValue rate.mantissa.toList)
    (10 ^ rate.scale) roundingMode
  failWhen (result > decimalValue maxRoutingFeeAtomicAmount.toList) .numericLimitExceeded
  return integerText result

end CryptoLending.RoutingFees.RoutingFeeAmount

namespace CryptoLending.RoutingFees.RoutingFeeRoute

open Lib Lib.JsValue Lib.Text RoutingFeeAmount

def maxReferenceLength : Nat := 192
def maxRouteLegs : Nat := 32

def isAlphanumeric (c : Char) : Bool :=
  isDigit c || ('A' ≤ c && c ≤ 'Z') || ('a' ≤ c && c ≤ 'z')

def isSafeReference (cs : List Char) : Bool :=
  decide (cs.length ≤ maxReferenceLength) && cs.head?.any isAlphanumeric &&
    cs.tail.all (fun c => isAlphanumeric c || ['.', '_', ':', '/', '-'].contains c)

abbrev SafeReference := Matching isSafeReference

def safeReference (v : Value) (code : RoutingFeeValidationCode) :
    Except RoutingFeeValidationCode SafeReference :=
  orFail (Matching.ofValue isSafeReference v) code

inductive RoutingFeeRouteLegKind where
  | directSettlement
  | swap
  | bridge
  deriving DecidableEq

def RoutingFeeRouteLegKind.text : RoutingFeeRouteLegKind → String
  | .directSettlement => "DIRECT_SETTLEMENT"
  | .swap => "SWAP"
  | .bridge => "BRIDGE"

def routingFeeRouteLegKinds : List RoutingFeeRouteLegKind := [.directSettlement, .swap, .bridge]

structure RoutingFeeRouteEndpointV1 where
  networkId : SafeReference
  assetId : SafeReference
  deriving DecidableEq

def parseEndpoint (v : Value) : Except RoutingFeeValidationCode RoutingFeeRouteEndpointV1 := do
  let record ← orFail (exactRecord v ["networkId", "assetId"]) .invalidRoute
  return {
    networkId := ← safeReference (record.get "networkId") .invalidRoute
    assetId := ← safeReference (record.get "assetId") .invalidRoute }

def sameEndpoint (left right : RoutingFeeRouteEndpointV1) : Bool :=
  left.networkId == right.networkId && left.assetId == right.assetId

/-- What a leg of a kind may lead from and to. -/
def legIsValid (kind : RoutingFeeRouteLegKind) (source destination : RoutingFeeRouteEndpointV1) :
    Bool :=
  !((kind == .directSettlement && !sameEndpoint source destination) ||
    (kind == .swap && (source.networkId != destination.networkId ||
      source.assetId == destination.assetId)) ||
    (kind == .bridge && source.networkId == destination.networkId))

structure RoutingFeeRouteLegV1 where
  kind : RoutingFeeRouteLegKind
  source : RoutingFeeRouteEndpointV1
  destination : RoutingFeeRouteEndpointV1
  accepted : legIsValid kind source destination = true
  deriving DecidableEq

def parseLeg (v : Value) : Except RoutingFeeValidationCode RoutingFeeRouteLegV1 := do
  let record ← orFail (exactRecord v ["kind", "source", "destination"]) .invalidRoute
  let kind ← enumMember RoutingFeeRouteLegKind.text (record.get "kind") routingFeeRouteLegKinds
    .invalidRoute
  let source ← parseEndpoint (record.get "source")
  let destination ← parseEndpoint (record.get "destination")
  if h : legIsValid kind source destination = true then .ok ⟨kind, source, destination, h⟩
  else .error .invalidRoute

/-- The loop over adjacent legs. -/
def legsConnect : List RoutingFeeRouteLegV1 → Bool
  | leg :: next :: rest => sameEndpoint leg.destination next.source && legsConnect (next :: rest)
  | _ => true

def routeConnects (source destination : RoutingFeeRouteEndpointV1)
    (legs : List RoutingFeeRouteLegV1) : Bool :=
  legs.head?.any (fun leg => sameEndpoint source leg.source) &&
    legs.getLast?.any (fun leg => sameEndpoint destination leg.destination) && legsConnect legs

/-- A route whose legs lead from its source to its destination. -/
structure RoutingFeeRouteV1 where
  source : RoutingFeeRouteEndpointV1
  destination : RoutingFeeRouteEndpointV1
  legs : List RoutingFeeRouteLegV1
  connected : routeConnects source destination legs = true
  deriving DecidableEq

def normalizeRoutingFeeRouteV1 (v : Value) : Except RoutingFeeValidationCode RoutingFeeRouteV1 := do
  let record ← orFail (exactRecord v ["schemaVersion", "source", "destination", "legs"])
    .invalidRoute
  failWhen ((record.get "schemaVersion").isNumber 1 = false) .invalidRoute
  let source ← parseEndpoint (record.get "source")
  let destination ← parseEndpoint (record.get "destination")
  let rawLegs ← orFail (exactArray (record.get "legs") 1 maxRouteLegs) .invalidRoute
  let legs ← rawLegs.mapM parseLeg
  if h : routeConnects source destination legs = true then .ok ⟨source, destination, legs, h⟩
  else .error .invalidRoute

inductive RoutingFeeRouteClassificationKind where
  | directCompatible
  | materialOrchestration
  deriving DecidableEq

inductive RoutingFeeClassificationReason where
  | singleDirectCompatibleLeg
  | multiLegRoute
  | swapRequired
  | bridgeRequired
  deriving DecidableEq

structure RoutingFeeRouteClassificationV1 where
  kind : RoutingFeeRouteClassificationKind
  reasons : List RoutingFeeClassificationReason
  deriving DecidableEq

def classifyNormalizedRoute (route : RoutingFeeRouteV1) : RoutingFeeRouteClassificationV1 :=
  let swapRequired := route.legs.any (·.kind == .swap)
  let bridgeRequired := route.legs.any (·.kind == .bridge)
  let multiLeg := decide (route.legs.length > 1)
  if !swapRequired && !bridgeRequired && !multiLeg then
    ⟨.directCompatible, [.singleDirectCompatibleLeg]⟩
  else
    ⟨.materialOrchestration, (if multiLeg then [.multiLegRoute] else []) ++
      (if swapRequired then [.swapRequired] else []) ++
      (if bridgeRequired then [.bridgeRequired] else [])⟩

def classifyRoutingFeeRouteV1 (v : Value) :
    Except RoutingFeeValidationCode RoutingFeeRouteClassificationV1 := do
  return classifyNormalizedRoute (← normalizeRoutingFeeRouteV1 v)

end CryptoLending.RoutingFees.RoutingFeeRoute
