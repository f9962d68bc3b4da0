import CryptoLending.BuyingPower.Mantissa
import CryptoLending.Lib.CanonicalTree

namespace CryptoLending.BuyingPower.BuyingPowerCalculator

open Lib Lib.JsValue Lib.IsoReading Mantissa

def maxContributions : Nat := 512
def maxIdentifierLength : Nat := 256

inductive BuyingPowerAdjustmentUnavailableReason where
  | liquidityDataUnavailable
  | conversionCostUnavailable
  | slippageDataUnavailable
  | networkCostUnavailable
  | routingDataUnavailable
  | routeUnavailable
  deriving DecidableEq

def BuyingPowerAdjustmentUnavailableReason.text : BuyingPowerAdjustmentUnavailableReason → String
  | .liquidityDataUnavailable => "LIQUIDITY_DATA_UNAVAILABLE"
  | .conversionCostUnavailable => "CONVERSION_COST_UNAVAILABLE"
  | .slippageDataUnavailable => "SLIPPAGE_DATA_UNAVAILABLE"
  | .networkCostUnavailable => "NETWORK_COST_UNAVAILABLE"
  | .routingDataUnavailable => "ROUTING_DATA_UNAVAILABLE"
  | .routeUnavailable => "ROUTE_UNAVAILABLE"

def BuyingPowerAdjustmentUnavailableReason.toReason :
    BuyingPowerAdjustmentUnavailableReason → BuyingPowerUnavailableReason
  | .liquidityDataUnavailable => .liquidityDataUnavailable
  | .conversionCostUnavailable => .conversionCostUnavailable
  | .slippageDataUnavailable => .slippageDataUnavailable
  | .networkCostUnavailable => .networkCostUnavailable
  | .routingDataUnavailable => .routingDataUnavailable
  | .routeUnavailable => .routeUnavailable

def adjustmentUnavailableReasons : List BuyingPowerAdjustmentUnavailableReason :=
  [.liquidityDataUnavailable, .conversionCostUnavailable, .slippageDataUnavailable,
    .networkCostUnavailable, .routingDataUnavailable, .routeUnavailable]

/-- How a calculation fails: with one of the three codes, or with the error of the language at
an item that is missing from an array. -/
inductive BuyingPowerCalculationFailure where
  | invalidRequest
  | clockFailed
  | numericLimitExceeded
  | typeError
  deriving DecidableEq

section Readers

/-- At most 256 printable characters. -/
def isSafeIdentifier (cs : List Char) : Bool :=
  decide (0 < cs.length) && decide (cs.length ≤ maxIdentifierLength) &&
    cs.all fun c => decide ('\x21' ≤ c) && decide (c ≤ '\x7e')

abbrev SafeIdentifier := Matching isSafeIdentifier

def safeIdentifier (v : Value) : Option SafeIdentifier := Matching.ofValue isSafeIdentifier v

def canonicalTimestamp (v : Value) : Option PlainTime := v.string?.bind IsoReading.canonicalTimestamp

def oneOf {α : Type} (words : List α) (text : α → String) (v : Value) : Option α :=
  words.find? fun w => v.isText (text w)

def boolean? : Value → Option Bool
  | .boolean value => some value
  | _ => none

def exactDataRecordWithAllowedKeys (v : Value) (requiredKeys optionalKeys : List String) :
    Option Record := do
  let properties ← dataDescriptors v
  let record ← properties.mapM CanonicalTree.field?
  guard (∀ field ∈ record, field.1 ∈ requiredKeys ++ optionalKeys)
  guard (∀ key ∈ requiredKeys, key ∈ record.map Prod.fst)
  return record

def assertExactKeys (record : Record) (expectedKeys : List String) : Option Unit :=
  guard (record.length = expectedKeys.length ∧ ∀ key ∈ expectedKeys, key ∈ record.map Prod.fst)

def exactDataRecord (v : Value) (expectedKeys : List String) : Option Record := do
  let record ← exactDataRecordWithAllowedKeys v expectedKeys []
  assertExactKeys record expectedKeys
  return record

end Readers

/-- A contribution of the portfolio as it was read. -/
structure ParsedContribution where
  contributionId : SafeIdentifier
  walletId : SafeIdentifier
  networkId : SafeIdentifier
  assetId : SafeIdentifier
  supported : Bool
  freshness : BuyingPowerFreshness
  valuationUse : BuyingPowerValuationUse
  usdValueMantissa : Option BuyingPowerUsdMantissa
  asOf : PlainTime

def parseUsdValue (v : Value) : Option (Option BuyingPowerUsdMantissa) :=
  if v.isNull then some none else (normalizeBuyingPowerUsdMantissa v).toOption.map some

def parseContribution (v : Value) : Option ParsedContribution := do
  let record ← exactDataRecord v
    ["contributionId", "walletId", "networkId", "assetId", "supported", "freshness",
      "valuationUse", "usdValueMantissa", "asOf"]
  let supported ← boolean? (record.get "supported")
  let freshness ← oneOf [.current, .stale, .unavailable] BuyingPowerFreshness.text
    (record.get "freshness")
  let valuationUse ← oneOf [.conservativeReportingOnly, .blocked] BuyingPowerValuationUse.text
    (record.get "valuationUse")
  let contributionId ← safeIdentifier (record.get "contributionId")
  let walletId ← safeIdentifier (record.get "walletId")
  let networkId ← safeIdentifier (record.get "networkId")
  let assetId ← safeIdentifier (record.get "assetId")
  let usdValueMantissa ← parseUsdValue (record.get "usdValueMantissa")
  let asOf ← canonicalTimestamp (record.get "asOf")
  return { contributionId, walletId, networkId, assetId, supported, freshness, valuationUse,
           usdValueMantissa, asOf }

/-- Contributions with distinct identities. An item that is missing from the array has none. -/
structure ParsedRequest where
  portfolioSnapshotId : SafeIdentifier
  contributions : List (Option ParsedContribution)
  length_le : contributions.length ≤ maxContributions
  distinct : (contributions.map fun c => c.map (·.contributionId)).Nodup

/-- The items of an array as they are visited in turn, with `none` where one is missing. -/
abbrev Elements := Value → Option (List (Option Value))

/-- Read the items of an array that are not missing. -/
def parseItems {α : Type} (parse : Value → Option α) (items : List (Option Value)) :
    Option (List (Option α)) :=
  items.mapM fun item =>
    match item with
    | none => some none
    | some v => (parse v).map some

def parseRequest (elements : Elements) (v : Value) : Option ParsedRequest := do
  let record ← exactDataRecord v ["portfolioSnapshotId", "contributions"]
  let portfolioSnapshotId ← safeIdentifier (record.get "portfolioSnapshotId")
  let items ← elements (record.get "contributions")
  let contributions ← parseItems parseContribution items
  if h : contributions.length ≤ maxContributions ∧
      (contributions.map fun c => c.map (·.contributionId)).Nodup
  then return { portfolioSnapshotId, contributions, length_le := h.1, distinct := h.2 }
  else none

def contributionUnavailableReasons (contribution : ParsedContribution) :
    List BuyingPowerUnavailableReason :=
  (if contribution.supported then [] else [.unsupportedAsset] : List BuyingPowerUnavailableReason) ++
  (if contribution.usdValueMantissa.isNone then [.unpricedAsset]
    else [] : List BuyingPowerUnavailableReason) ++
  (if contribution.freshness = .stale then [.staleData]
    else [] : List BuyingPowerUnavailableReason) ++
  (if contribution.freshness = .unavailable then [.sourceUnavailable]
    else [] : List BuyingPowerUnavailableReason) ++
  (if contribution.valuationUse = .blocked then [.valuationUseBlocked]
    else [] : List BuyingPowerUnavailableReason)

inductive BuyingPowerLineAvailability where
  | available
  | unavailable
  deriving DecidableEq

/-- The line of a contribution in the result. -/
structure BuyingPowerContributionResult where
  contributionId : SafeIdentifier
  walletId : SafeIdentifier
  networkId : SafeIdentifier
  assetId : SafeIdentifier
  grossUsdValueMantissa : Option BuyingPowerUsdMantissa
  deductions : Option BuyingPowerDeductionBreakdown
  totalDeductionUsdMantissa : Option BuyingPowerUsdMantissa
  availableBuyingPowerUsdMantissa : BuyingPowerUsdMantissa
  availability : BuyingPowerLineAvailability
  unavailableReasons : List (Option BuyingPowerUnavailableReason)
  asOf : PlainTime
  adjustmentQuoteId : Option SafeIdentifier
  adjustmentQuotedAt : Option PlainTime
  adjustmentValidUntil : Option PlainTime

def unavailableContribution (contribution : ParsedContribution)
    (reasons : List (Option BuyingPowerUnavailableReason)) : BuyingPowerContributionResult where
  contributionId := contribution.contributionId
  walletId := contribution.walletId
  networkId := contribution.networkId
  assetId := contribution.assetId
  grossUsdValueMantissa := contribution.usdValueMantissa
  deductions := none
  totalDeductionUsdMantissa := none
  availableBuyingPowerUsdMantissa := zeroUsdMantissa
  availability := .unavailable
  unavailableReasons := reasons
  asOf := contribution.asOf
  adjustmentQuoteId := none
  adjustmentQuotedAt := none
  adjustmentValidUntil := none

inductive AdjustmentStatus where
  | available
  | unavailable
  deriving DecidableEq

def AdjustmentStatus.text : AdjustmentStatus → String
  | .available => "AVAILABLE"
  | .unavailable => "UNAVAILABLE"

/-- A reply of the adjustment port for the contribution that was asked for. -/
inductive Adjustment where
  | available (quoteId : SafeIdentifier) (quotedAt validUntil : PlainTime)
      (deductions : BuyingPowerDeductionBreakdown)
  | unavailable (reasons : List (Option BuyingPowerAdjustmentUnavailableReason))

def parseDeductions (v : Value) : Option BuyingPowerDeductionBreakdown := do
  let record ← exactDataRecord v (buyingPowerDeductionKinds.map BuyingPowerDeductionKind.text)
  let amount := fun kind : BuyingPowerDeductionKind =>
    (normalizeBuyingPowerUsdMantissa (record.get kind.text)).toOption
  let liquidity ← amount .liquidity
  let conversion ← amount .conversion
  let slippage ← amount .slippage
  let network ← amount .network
  let routing ← amount .routing
  return fun kind =>
    match kind with
    | .liquidity => liquidity
    | .conversion => conversion
    | .slippage => slippage
    | .network => network
    | .routing => routing

section Calculation

variable (elements : Elements)

def parseAdjustment (v : Value) (expectedContributionId : SafeIdentifier)
    (evaluatedAt : PlainTime) : Option Adjustment := do
  let base ← exactDataRecordWithAllowedKeys v ["status", "contributionId"]
    ["quoteId", "quotedAt", "validUntil", "deductions", "reasons"]
  let status ← oneOf [.available, .unavailable] AdjustmentStatus.text (base.get "status")
  let contributionId ← safeIdentifier (base.get "contributionId")
  guard (contributionId = expectedContributionId)
  match status with
  | .unavailable =>
    assertExactKeys base ["status", "contributionId", "reasons"]
    let items ← elements (base.get "reasons")
    guard (items ≠ [])
    let reasons ← parseItems
      (oneOf adjustmentUnavailableReasons BuyingPowerAdjustmentUnavailableReason.text) items
    guard reasons.Nodup
    return .unavailable reasons
  | .available =>
    assertExactKeys base
      ["status", "quoteId", "contributionId", "quotedAt", "validUntil", "deductions"]
    let quotedAt ← canonicalTimestamp (base.get "quotedAt")
    let validUntil ← canonicalTimestamp (base.get "validUntil")
    guard (¬(evaluatedAt.toISOString < quotedAt.toISOString ∨
      validUntil.toISOString < evaluatedAt.toISOString ∨
      validUntil.toISOString < quotedAt.toISOString))
    let quoteId ← safeIdentifier (base.get "quoteId")
    let deductions ← parseDeductions (base.get "deductions")
    return .available quoteId quotedAt validUntil deductions

structure BuyingPowerAdjustmentRequest where
  contributionId : SafeIdentifier
  walletId : SafeIdentifier
  networkId : SafeIdentifier
  assetId : SafeIdentifier
  grossUsdValueMantissa : BuyingPowerUsdMantissa
  evaluatedAt : PlainTime

/-- The reply to the last of the requests that were made, or `none` when it fails. -/
abbrev BuyingPowerAdjustmentPort := List BuyingPowerAdjustmentRequest → Option Value

/-- The line of a contribution for what the port replies. -/
def adjustContribution (contribution : ParsedContribution)
    (grossUsdValueMantissa : BuyingPowerUsdMantissa) (evaluatedAt : PlainTime)
    (response : Option Value) : BuyingPowerContributionResult :=
  match response with
  | none => unavailableContribution contribution [some .adjustmentSourceFailed]
  | some v =>
    match parseAdjustment elements v contribution.contributionId evaluatedAt with
    | none => unavailableContribution contribution [some .invalidAdjustmentResponse]
    | some (.unavailable reasons) =>
      unavailableContribution contribution
        (reasons.map fun r => r.map BuyingPowerAdjustmentUnavailableReason.toReason)
    | some (.available quoteId quotedAt validUntil deductions) =>
      match (do
          let total ← totalBuyingPowerDeductions deductions
          let available ← subtractBuyingPowerUsdMantissas grossUsdValueMantissa total
          return (total, available) : Except BuyingPowerValidationCode _) with
      | .error _ => unavailableContribution contribution [some .adjustmentsExceedValue]
      | .ok (total, available) =>
        { contributionId := contribution.contributionId
          walletId := contribution.walletId
          networkId := contribution.networkId
          assetId := contribution.assetId
          grossUsdValueMantissa := some grossUsdValueMantissa
          deductions := some deductions
          totalDeductionUsdMantissa := some total
          availableBuyingPowerUsdMantissa := available
          availability := .available
          unavailableReasons := []
          asOf := contribution.asOf
          adjustmentQuoteId := some quoteId
          adjustmentQuotedAt := some quotedAt
          adjustmentValidUntil := some validUntil }

/-- The value of a contribution that nothing speaks against. -/
def eligibleGross (contribution : ParsedContribution) : Option BuyingPowerUsdMantissa :=
  if contributionUnavailableReasons contribution = [] then contribution.usdValueMantissa else none

def supportedValue (contribution : ParsedContribution) : Option BuyingPowerUsdMantissa :=
  if contribution.supported then contribution.usdValueMantissa else none

def adjustmentRequest (contribution : ParsedContribution)
    (grossUsdValueMantissa : BuyingPowerUsdMantissa) (evaluatedAt : PlainTime) :
    BuyingPowerAdjustmentRequest where
  contributionId := contribution.contributionId
  walletId := contribution.walletId
  networkId := contribution.networkId
  assetId := contribution.assetId
  grossUsdValueMantissa := grossUsdValueMantissa
  evaluatedAt := evaluatedAt

/-- The lines of the contributions. The port is asked for one after the other. -/
def contributionResults (port : BuyingPowerAdjustmentPort) (evaluatedAt : PlainTime)
    (requests : List BuyingPowerAdjustmentRequest) :
    List ParsedContribution → List BuyingPowerContributionResult
  | [] => []
  | contribution :: rest =>
    match eligibleGross contribution with
    | none =>
      unavailableContribution contribution
          ((contributionUnavailableReasons contribution).map some) ::
        contributionResults port evaluatedAt requests rest
    | some gross =>
      let requests' := requests ++ [adjustmentRequest contribution gross evaluatedAt]
      adjustContribution elements contribution gross evaluatedAt (port requests') ::
        contributionResults port evaluatedAt requests' rest

def sumDeductionBreakdowns (values : List BuyingPowerDeductionBreakdown) :
    Except BuyingPowerValidationCode BuyingPowerDeductionBreakdown :=
  if values.length = 0 then .ok zeroBuyingPowerDeductions else do
    let sum := fun kind : BuyingPowerDeductionKind =>
      addBuyingPowerUsdMantissas (values.map fun deductions => deductions kind)
    let liquidity ← sum .liquidity
    let conversion ← sum .conversion
    let slippage ← sum .slippage
    let network ← sum .network
    let routing ← sum .routing
    return fun kind =>
      match kind with
      | .liquidity => liquidity
      | .conversion => conversion
      | .slippage => slippage
      | .network => network
      | .routing => routing

inductive BuyingPowerAvailability where
  | available
  | partly
  | unavailable
  deriving DecidableEq

structure BuyingPowerResult where
  portfolioSnapshotId : SafeIdentifier
  evaluatedAt : PlainTime
  supportedPortfolioValueMantissa : BuyingPowerUsdMantissa
  eligibleGrossValueMantissa : BuyingPowerUsdMantissa
  totalDeductions : BuyingPowerDeductionBreakdown
  totalDeductionUsdMantissa : BuyingPowerUsdMantissa
  availableBuyingPowerUsdMantissa : BuyingPowerUsdMantissa
  availability : BuyingPowerAvailability
  unavailableReasons : List (Option BuyingPowerUnavailableReason)
  contributions : List BuyingPowerContributionResult

/-- Visit one item of the request. A missing one has no date. -/
def visitContribution (evaluatedAt : PlainTime) :
    Option ParsedContribution → Except BuyingPowerCalculationFailure ParsedContribution
  | none => .error .typeError
  | some contribution =>
    if evaluatedAt.toISOString < contribution.asOf.toISOString then .error .invalidRequest
    else .ok contribution

def limited {α : Type} (x : Except BuyingPowerValidationCode α) :
    Except BuyingPowerCalculationFailure α := x.mapError fun _ => .numericLimitExceeded

def resultReasons (results : List BuyingPowerContributionResult) :
    List (Option BuyingPowerUnavailableReason) :=
  (results.flatMap (·.unavailableReasons)).eraseDups ++
    if results.length = 0 then [some .noEligibleContributions] else []

def resultAvailability (results : List BuyingPowerContributionResult) : BuyingPowerAvailability :=
  let availableCount := (results.filter fun r => r.availability = .available).length
  if availableCount = 0 then .unavailable
  else if availableCount = results.length then .available
  else .partly

/-- A conservative estimate of a portfolio. -/
def calculate (port : BuyingPowerAdjustmentPort) (clock : Option Value) (input : Value) :
    Except BuyingPowerCalculationFailure BuyingPowerResult := do
  let request ← orFail (parseRequest elements input) .invalidRequest
  let evaluatedAt ← orFail (clock.bind canonicalTimestamp) .clockFailed
  let contributions ← request.contributions.mapM (visitContribution evaluatedAt)
  let supportedPortfolioValueMantissa ←
    limited (addBuyingPowerUsdMantissas (contributions.filterMap supportedValue))
  let eligibleGrossValueMantissa ←
    limited (addBuyingPowerUsdMantissas (contributions.filterMap eligibleGross))
  let results := contributionResults elements port evaluatedAt [] contributions
  let totalDeductions ← limited (sumDeductionBreakdowns (results.filterMap (·.deductions)))
  let totalDeductionUsdMantissa ← limited (totalBuyingPowerDeductions totalDeductions)
  let availableBuyingPowerUsdMantissa ← limited (do
    let values ← results.mapM fun r =>
      normalizeBuyingPowerUsdMantissa (.string r.availableBuyingPowerUsdMantissa.text)
    addBuyingPowerUsdMantissas values)
  failWhen (availableBuyingPowerUsdMantissa.value > eligibleGrossValueMantissa.value ∨
    availableBuyingPowerUsdMantissa.value > supportedPortfolioValueMantissa.value)
    .numericLimitExceeded
  return {
    portfolioSnapshotId := request.portfolioSnapshotId
    evaluatedAt
    supportedPortfolioValueMantissa
    eligibleGrossValueMantissa
    totalDeductions
    totalDeductionUsdMantissa
    availableBuyingPowerUsdMantissa
    availability := resultAvailability results
    unavailableReasons := resultReasons results
    contributions := results }

end Calculation

end CryptoLending.BuyingPower.BuyingPowerCalculator
