import CryptoLending.Valuation.ValuationAssessment

namespace CryptoLending.Valuation.StablecoinValuation

open Lib Lib.JsValue Lib.Decimal ValuationRequest ValuationAssessment

def maxProductDigits : Nat := 156
def maxUsdValueDigits : Nat := 96
def usdValueScale : Nat := 18
def mediumPublishedWidthAtOrBelowBps : Nat := 25
def corroboratedAtOrBelowBps : Nat := 25
def softDisagreementAtOrBelowBps : Nat := 50
def normalAtOrBelowBps : Nat := 50
def depeggedAtOrAboveBps : Nat := 200

inductive StablecoinValuationAvailability where
  | available
  | unavailable
  deriving DecidableEq

inductive StablecoinValuationFreshness where
  | current
  | stale
  | unavailable
  deriving DecidableEq

inductive StablecoinValuationConfidenceClass where
  | medium
  | low
  | unavailable
  deriving DecidableEq

inductive StablecoinValuationDepegClass where
  | notAssessed
  | withinPolicy
  | outsidePolicy
  deriving DecidableEq

inductive StablecoinDownsideBand where
  | normal
  | watch
  | depegged
  | notAssessed
  deriving DecidableEq

inductive StablecoinSourceAgreement where
  | corroborated
  | softDisagreement
  | conflict
  | singleSource
  | notAvailable
  deriving DecidableEq

inductive StablecoinValuationSelection where
  | primary
  | fallback
  | conservativeMinimum
  | none
  deriving DecidableEq

inductive StablecoinValuationReason where
  | invalidInput
  | noEligibleSource
  | sourceConflict
  | numericLimitExceeded
  | singleSource
  | fallbackSourceSelected
  | softSourceDisagreement
  | publishedConfidenceLowerBound
  | upsideCappedAtPeg
  | watchDownside
  | depegDetected
  deriving DecidableEq

inductive ReportingUse where
  | conservativeReportingOnly
  | blocked
  deriving DecidableEq

structure StablecoinValuationResult where
  availability : StablecoinValuationAvailability
  asset : Option StablecoinValuationAssetReference
  amountAtomic : Option AtomicAmount
  evaluatedAt : Option Instant
  selection : StablecoinValuationSelection
  selectedSourceId : Option StablecoinValuationSourceId
  selectedSourceReference : Option String
  selectedSourceSequence : Option SourceSequence
  pricedAt : Option Instant
  observedAt : Option Instant
  usdRate : Option FixedDecimal
  usdValueMantissa : Option Nat
  freshnessClass : StablecoinValuationFreshness
  confidenceClass : StablecoinValuationConfidenceClass
  depegClass : StablecoinValuationDepegClass
  downsideBand : StablecoinDownsideBand
  sourceAgreement : StablecoinSourceAgreement
  reasons : List StablecoinValuationReason
  sourceAssessments : List StablecoinSourceAssessment
  reportingUse : ReportingUse

def reasonOrder : List StablecoinValuationReason :=
  [.invalidInput, .noEligibleSource, .sourceConflict, .numericLimitExceeded, .singleSource,
    .fallbackSourceSelected, .softSourceDisagreement, .publishedConfidenceLowerBound,
    .upsideCappedAtPeg, .watchDownside, .depegDetected]

def orderedReasons (reasons : List StablecoinValuationReason) : List StablecoinValuationReason :=
  Sorting.inOrder reasonOrder reasons

def unavailableResult (asset : Option StablecoinValuationAssetReference)
    (amountAtomic : Option AtomicAmount) (evaluatedAt : Option Instant)
    (sourceAgreement : StablecoinSourceAgreement) (reasons : List StablecoinValuationReason)
    (sourceAssessments : List StablecoinSourceAssessment)
    (depegClass : StablecoinValuationDepegClass) (downsideBand : StablecoinDownsideBand) :
    StablecoinValuationResult where
  availability := .unavailable
  asset := asset
  amountAtomic := amountAtomic
  evaluatedAt := evaluatedAt
  selection := .none
  selectedSourceId := none
  selectedSourceReference := none
  selectedSourceSequence := none
  pricedAt := none
  observedAt := none
  usdRate := none
  usdValueMantissa := none
  freshnessClass := .unavailable
  confidenceClass := .unavailable
  depegClass := depegClass
  downsideBand := downsideBand
  sourceAgreement := sourceAgreement
  reasons := orderedReasons reasons
  sourceAssessments := sourceAssessments
  reportingUse := .blocked

def classifySourceAgreement (first second : FixedDecimal) : StablecoinSourceAgreement :=
  let difference := absoluteDifference first second
  if !absoluteUsdAmountExceedsBps difference corroboratedAtOrBelowBps then .corroborated
  else if !absoluteUsdAmountExceedsBps difference softDisagreementAtOrBelowBps then
    .softDisagreement
  else .conflict

def pythConfidenceAllowsMedium (candidates : List SourceCandidate) : Bool :=
  let pyth := candidates.find? (fun c => c.observation.sourceId = .pythCore)
  (pyth.bind (fun c => c.observation.confidenceAmount)).any
    (fun confidence => !absoluteUsdAmountExceedsBps confidence mediumPublishedWidthAtOrBelowBps)

def classifyDownside (rate : FixedDecimal) : StablecoinDownsideBand :=
  let peg : FixedDecimal := ⟨1, 0⟩
  if compareFixed rate peg ≠ .lt then .normal
  else
    let downside := subtractFixedFloorZero peg rate
    if !absoluteUsdAmountExceedsBps downside normalAtOrBelowBps then .normal
    else if absoluteUsdAmountAtOrAboveBps downside depeggedAtOrAboveBps then .depegged
    else .watch

def mostSevereDownsideBand (bands : List StablecoinDownsideBand) : StablecoinDownsideBand :=
  if bands.contains .depegged then .depegged
  else if bands.contains .watch then .watch
  else .normal

/-- The value at scale 18, unless it has too many digits. -/
def calculateUsdValue (amountAtomic assetDecimals : Nat) (rate : FixedDecimal) : Option Nat :=
  let product := amountAtomic * rate.mantissa
  if decimalLength product > maxProductDigits then none
  else
    let numerator := product * powerOfTen usdValueScale
    let denominator := powerOfTen (assetDecimals + rate.scale)
    let value := divideRoundHalfEven numerator denominator
    if decimalLength value ≤ maxUsdValueDigits then some value else none

/-- The first of the candidates with the lowest rate. -/
def lowestCandidate (first : SourceCandidate) (rest : List SourceCandidate) : SourceCandidate :=
  rest.foldl (fun lowest candidate =>
    if compareFixed candidate.conservativeRate lowest.conservativeRate = .lt then candidate
    else lowest) first

def effectiveRate (selected : SourceCandidate) : FixedDecimal :=
  minimumFixed selected.conservativeRate ⟨100000000, 8⟩

def availableReasons (candidates : List SourceCandidate) (selected : SourceCandidate)
    (sourceAgreement : StablecoinSourceAgreement) : List StablecoinValuationReason :=
  let upsideCapped := compareFixed selected.conservativeRate (effectiveRate selected) = .gt
  let downsideBand := classifyDownside (effectiveRate selected)
  orderedReasons
    ((if candidates.length = 1 then [.singleSource] else [] : List StablecoinValuationReason) ++
      (if selected.observation.sourceId = .chainlinkDataFeeds then [.fallbackSourceSelected]
        else [] : List StablecoinValuationReason) ++
      (if sourceAgreement = .softDisagreement then [.softSourceDisagreement]
        else [] : List StablecoinValuationReason) ++
      (if selected.confidenceLowerBoundApplied then [.publishedConfidenceLowerBound]
        else [] : List StablecoinValuationReason) ++
      (if upsideCapped then [.upsideCappedAtPeg] else [] : List StablecoinValuationReason) ++
      (if downsideBand = .watch then [.watchDownside] else [] : List StablecoinValuationReason) ++
      (if downsideBand = .depegged then [.depegDetected] else [] : List StablecoinValuationReason))

/-- The result for a value that was computed at the rate of the lowest candidate. -/
def pricedResult (request : ParsedRequest) (first : SourceCandidate) (rest : List SourceCandidate)
    (assessments : List StablecoinSourceAssessment) (sourceAgreement : StablecoinSourceAgreement)
    (confidenceClass : StablecoinValuationConfidenceClass) (usdValue : Nat) :
    StablecoinValuationResult :=
  let candidates := first :: rest
  let selected := lowestCandidate first rest
  let downsideBand := classifyDownside (effectiveRate selected)
  let observation := selected.observation
  let freshnessClass : StablecoinValuationFreshness :=
    if candidates.all (fun c => c.freshness = .current) then .current else .stale
  { availability := .available
    asset := request.asset
    amountAtomic := request.amountAtomic
    evaluatedAt := request.evaluatedAt
    selection :=
      if candidates.length > 1 then .conservativeMinimum
      else if observation.sourceId = .pythCore then .primary
      else .fallback
    selectedSourceId := observation.sourceId
    selectedSourceReference := observation.sourceReference
    selectedSourceSequence := observation.sourceSequence
    pricedAt := observation.pricedAt
    observedAt := observation.observedAt
    usdRate := effectiveRate selected
    usdValueMantissa := usdValue
    freshnessClass
    confidenceClass := if freshnessClass = .stale then .low else confidenceClass
    depegClass := if downsideBand = .depegged then .outsidePolicy else .withinPolicy
    downsideBand
    sourceAgreement
    reasons := availableReasons candidates selected sourceAgreement
    sourceAssessments := assessments
    reportingUse := .conservativeReportingOnly }

/-- The result with the value, or the refusal of a value with too many digits. -/
def resultOfValue (request : ParsedRequest) (first : SourceCandidate) (rest : List SourceCandidate)
    (assessments : List StablecoinSourceAssessment) (sourceAgreement : StablecoinSourceAgreement)
    (confidenceClass : StablecoinValuationConfidenceClass) :
    Option Nat → StablecoinValuationResult
  | none =>
    unavailableResult request.asset request.amountAtomic request.evaluatedAt sourceAgreement
      [.numericLimitExceeded] assessments .notAssessed .notAssessed
  | some usdValue =>
    pricedResult request first rest assessments sourceAgreement confidenceClass usdValue

def availableResult (request : ParsedRequest) (first : SourceCandidate)
    (rest : List SourceCandidate) (assessments : List StablecoinSourceAssessment)
    (sourceAgreement : StablecoinSourceAgreement)
    (confidenceClass : StablecoinValuationConfidenceClass) : StablecoinValuationResult :=
  resultOfValue request first rest assessments sourceAgreement confidenceClass
    (calculateUsdValue request.amountAtomic.value request.asset.decimals
      (effectiveRate (lowestCandidate first rest)))

def internalAssessments (request : ParsedRequest) : List InternalAssessment :=
  sourceOrder.map (fun source => assessSource request source.1 source.2)

def selectionPool (request : ParsedRequest) : List SourceCandidate :=
  ((internalAssessments request).filterMap (·.candidate)).filter (fun c => c.freshness = .current)

def conflictResult (request : ParsedRequest) (first second : SourceCandidate)
    (assessments : List StablecoinSourceAssessment) : StablecoinValuationResult :=
  let downsideBand := mostSevereDownsideBand
    [classifyDownside first.conservativeRate, classifyDownside second.conservativeRate]
  unavailableResult request.asset request.amountAtomic request.evaluatedAt .conflict
    (if downsideBand = .depegged then [.sourceConflict, .depegDetected] else [.sourceConflict])
    assessments
    (if downsideBand = .depegged then .outsidePolicy else .notAssessed)
    (if downsideBand = .depegged then .depegged else .notAssessed)

/-- The valuation of an accepted request. -/
def valuate (request : ParsedRequest) : StablecoinValuationResult :=
  let assessments := (internalAssessments request).map (·.publicAssessment)
  match selectionPool request with
  | [] =>
    unavailableResult request.asset request.amountAtomic request.evaluatedAt .notAvailable
      [.noEligibleSource] assessments .notAssessed .notAssessed
  | [first, second] =>
    -- Everything in the pool is current, so two candidates are always compared.
    let disagreement := classifySourceAgreement first.observation.rate second.observation.rate
    if disagreement = .conflict then conflictResult request first second assessments
    else
      availableResult request first [second] assessments disagreement
        (if disagreement = .corroborated && pythConfidenceAllowsMedium [first, second] then .medium
          else .low)
  | first :: rest => availableResult request first rest assessments .singleSource .low

def evaluateStablecoinValuation (v : Value) : StablecoinValuationResult :=
  match parseRequest v with
  | none =>
    unavailableResult none none none .notAvailable [.invalidInput] [] .notAssessed .notAssessed
  | some request => valuate request

end CryptoLending.Valuation.StablecoinValuation
