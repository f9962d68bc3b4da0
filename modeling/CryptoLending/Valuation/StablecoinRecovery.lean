import CryptoLending.Valuation.StablecoinValuation
import CryptoLending.Valuation.ValuationRendering

namespace CryptoLending.Valuation.StablecoinRecovery

open Lib Lib.JsValue Lib.Decimal ValuationRequest ValuationAssessment StablecoinValuation
  ValuationRendering

def consecutiveDualCorroboratedObservations : Nat := 4
def withinPegBps : Nat := 25
def minimumSpanMs : Int := 1800000

inductive StablecoinRecoveryStatus where
  | invalidInput
  | notApplicable
  | recoveryPending
  | manualRiskClearRequired
  | recoveryCandidateCleared
  deriving DecidableEq

inductive StablecoinRecoveryReason where
  | invalidInput
  | noPriorDepegLatch
  | insufficientDistinctObservations
  | nonMonotonicEvidence
  | insufficientObservationSpan
  | depegLatchAfterRecoveryEvaluation
  | evidencePrecedesDepegLatch
  | evidenceAfterRecoveryEvaluation
  | observationNotCurrent
  | observationNotCorroborated
  | observationOutsideRepegBand
  | manualRiskClearRequired
  | manualRiskClearLatchMismatch
  | manualRiskClearPrecedesFinalSample
  | manualRiskClearAfterRecoveryEvaluation
  | localCandidateClearOnly
  deriving DecidableEq

/-- A recorded loss of the peg. -/
structure StablecoinDepegLatchReference where
  asset : StablecoinValuationAssetReference
  latchId : String
  latchedAt : Instant

/-- A decision to clear a latch. -/
structure StablecoinManualRiskClearReference where
  asset : StablecoinValuationAssetReference
  clearId : String
  latchId : String
  clearedAt : Instant

/-- The request by which a sample is valued: one unit and sources without history. -/
def sampleRequest (asset : StablecoinValuationAssetReference) (evaluatedAt : Instant)
    (observations : List StablecoinPriceObservation) : Value :=
  ofFields
    [("asset", assetValue asset), ("amountAtomic", .string "1"),
      ("evaluatedAt", .string evaluatedAt.text), ("sourceWatermarks", firstUseWatermarks),
      ("observations", ofItems (observations.map publicObservation))]

/-- A sample of the asset: one observation from each source, and their valuation. -/
structure ParsedRecoverySample (asset : StablecoinValuationAssetReference) where
  evaluatedAt : Instant
  observations : List StablecoinPriceObservation
  valuation : StablecoinValuationResult
  observations_asset : ∀ o ∈ observations, o.asset = asset
  observations_length : observations.length = 2
  sources_unique : ∀ sourceId ∈ stablecoinValuationSources,
    (observations.filter (fun o => o.sourceId = sourceId)).length = 1
  valuation_eq : valuation =
    evaluateStablecoinValuation (sampleRequest asset evaluatedAt observations)

/-- An accepted request, whose latch and risk clear are of its asset. -/
structure ParsedRecoveryRequest where
  asset : StablecoinValuationAssetReference
  evaluatedAt : Instant
  depegLatch : Option StablecoinDepegLatchReference
  manualRiskClear : Option StablecoinManualRiskClearReference
  samples : List (ParsedRecoverySample asset)
  latch_asset : ∀ latch ∈ depegLatch, latch.asset = asset
  clear_asset : ∀ clear ∈ manualRiskClear, clear.asset = asset

structure StablecoinRecoveryResult where
  status : StablecoinRecoveryStatus
  asset : Option StablecoinValuationAssetReference
  evaluatedAt : Option Instant
  depegLatch : Option StablecoinDepegLatchReference
  acceptedManualRiskClear : Option StablecoinManualRiskClearReference
  evidenceCount : Nat
  evidenceSpanMs : Option Int
  reasons : List StablecoinRecoveryReason
  manualRiskClearAccepted : Bool

def parseRecoveryEventId (v : Value) : Option String := do
  let text ← v.string?
  guard (text.toList.length = 64 ∧ text.toList.all Text.isLowerHex)
  pure text

def parseDepegLatchReference (v : Value) (requestedAsset : StablecoinValuationAssetReference) :
    Option StablecoinDepegLatchReference := do
  let record ← exactRecord v ["asset", "latchId", "latchedAt"]
  let asset ← parseAsset (record.get "asset")
  guard (asset = requestedAsset)
  let latchId ← parseRecoveryEventId (record.get "latchId")
  let latchedAt ← parseTimestamp (record.get "latchedAt")
  pure { asset, latchId, latchedAt }

def parseManualRiskClearReference (v : Value)
    (requestedAsset : StablecoinValuationAssetReference) :
    Option StablecoinManualRiskClearReference := do
  let record ← exactRecord v ["asset", "clearId", "latchId", "clearedAt"]
  let asset ← parseAsset (record.get "asset")
  guard (asset = requestedAsset)
  let clearId ← parseRecoveryEventId (record.get "clearId")
  let latchId ← parseRecoveryEventId (record.get "latchId")
  let clearedAt ← parseTimestamp (record.get "clearedAt")
  pure { asset, clearId, latchId, clearedAt }

def parseRecoverySample (v : Value) (asset : StablecoinValuationAssetReference) :
    Option (ParsedRecoverySample asset) := do
  let record ← exactRecord v ["evaluatedAt", "observations"]
  let evaluatedAt ← parseTimestamp (record.get "evaluatedAt")
  let observations ← (← exactArray (record.get "observations") 2 2).mapM (parseObservation · asset)
  -- The asset and the length were checked by the two readers above.
  if h : (∀ o ∈ observations, o.asset = asset) ∧ observations.length = 2 ∧
      ∀ sourceId ∈ stablecoinValuationSources,
        (observations.filter (fun o => o.sourceId = sourceId)).length = 1 then
    pure
      { evaluatedAt, observations,
        valuation := evaluateStablecoinValuation (sampleRequest asset evaluatedAt observations)
        observations_asset := h.1
        observations_length := h.2.1
        sources_unique := h.2.2
        valuation_eq := rfl }
  else none

def parseOptional {α : Type} (v : Value) (parse : Value → Option α) : Option (Option α) :=
  if v.isNull then some none else (parse v).map some

def parseRecoveryRequest (v : Value) : Option ParsedRecoveryRequest := do
  let record ← exactRecord v ["asset", "evaluatedAt", "depegLatch", "manualRiskClear", "samples"]
  let asset ← parseAsset (record.get "asset")
  let evaluatedAt ← parseTimestamp (record.get "evaluatedAt")
  let depegLatch ← parseOptional (record.get "depegLatch") (parseDepegLatchReference · asset)
  let manualRiskClear ←
    parseOptional (record.get "manualRiskClear") (parseManualRiskClearReference · asset)
  guard (¬(depegLatch.isNone ∧ manualRiskClear.isSome))
  guard (¬(depegLatch.any (fun latch => manualRiskClear.any (fun clear =>
    clear.clearId = latch.latchId))))
  let samples ← (← exactArray (record.get "samples") 0 maxObservations).mapM
    (parseRecoverySample · asset)
  -- The assets were compared by the readers of the latch and of the risk clear.
  if h : (∀ latch ∈ depegLatch, latch.asset = asset) ∧
      ∀ clear ∈ manualRiskClear, clear.asset = asset then
    pure { asset, evaluatedAt, depegLatch, manualRiskClear, samples, latch_asset := h.1,
           clear_asset := h.2 }
  else none

section Evidence

variable {asset : StablecoinValuationAssetReference}

def recoverySpan (samples : List (ParsedRecoverySample asset)) : Option Int := do
  let first ← samples.head?
  let last ← samples.getLast?
  pure (last.evaluatedAt.milliseconds - first.evaluatedAt.milliseconds)

def findObservation (sample : ParsedRecoverySample asset)
    (sourceId : StablecoinValuationSourceId) : Option StablecoinPriceObservation :=
  sample.observations.find? (fun o => o.sourceId = sourceId)

/-- The update ids seen from each source, with those of a sample; none when one is missing
or was seen before. -/
def addUpdateIds (sample : ParsedRecoverySample asset) :
    (StablecoinValuationSourceId → List String) → List StablecoinValuationSourceId →
    Option (StablecoinValuationSourceId → List String)
  | seen, [] => some seen
  | seen, sourceId :: rest =>
    match findObservation sample sourceId with
    | none => none
    | some o =>
      if (seen sourceId).contains o.sourceUpdateId then none
      else addUpdateIds sample
        (fun s => if s = sourceId then o.sourceUpdateId :: seen s else seen s) rest

def observationAdvances (before after : StablecoinPriceObservation) : Bool :=
  !(sequenceValue after ≤ sequenceValue before || after.sourceUpdateId == before.sourceUpdateId ||
    after.pricedAtMs < before.pricedAtMs || after.observedAtMs < before.observedAtMs)

def sampleAdvances (previous sample : ParsedRecoverySample asset) : Bool :=
  !(sample.evaluatedAt.milliseconds ≤ previous.evaluatedAt.milliseconds) &&
    stablecoinValuationSources.all (fun sourceId =>
      match findObservation previous sourceId, findObservation sample sourceId with
      | some before, some after => observationAdvances before after
      | _, _ => false)

/-- The loop over the samples, with the previous one and the update ids seen. -/
def monotonicEvidenceFrom (previous : Option (ParsedRecoverySample asset))
    (seen : StablecoinValuationSourceId → List String) :
    List (ParsedRecoverySample asset) → Bool
  | [] => true
  | sample :: rest =>
    match addUpdateIds sample seen stablecoinValuationSources with
    | none => false
    | some seen' =>
      if previous.any (fun p => !sampleAdvances p sample) then false
      else monotonicEvidenceFrom (some sample) seen' rest

def recoveryEvidenceIsStrictlyMonotonic (samples : List (ParsedRecoverySample asset)) : Bool :=
  monotonicEvidenceFrom none (fun _ => []) samples

end Evidence

def valuationWithinRecoveryBand (valuation : StablecoinValuationResult) : Bool :=
  valuation.availability = .available &&
    valuation.usdRate.any (fun rate =>
      let peg : FixedDecimal := ⟨100000000, 8⟩
      compareFixed rate peg ≠ .gt &&
        !absoluteUsdAmountExceedsBps (subtractFixedFloorZero peg rate) withinPegBps)

/-- The objections to one sample. -/
def sampleReasons {asset : StablecoinValuationAssetReference} (evaluatedAt latchedAt : Int)
    (sample : ParsedRecoverySample asset) : List StablecoinRecoveryReason :=
  (if sample.evaluatedAt.milliseconds < latchedAt || sample.observations.any (fun o =>
      o.pricedAtMs < latchedAt || o.observedAtMs < latchedAt) then [.evidencePrecedesDepegLatch]
    else [] : List StablecoinRecoveryReason) ++
  (if sample.evaluatedAt.milliseconds > evaluatedAt then [.evidenceAfterRecoveryEvaluation]
    else [] : List StablecoinRecoveryReason) ++
  (if sample.valuation.sourceAssessments.any (fun a => a.eligibility ≠ .eligibleCurrent) then
      [.observationNotCurrent]
    else [] : List StablecoinRecoveryReason) ++
  (if sample.valuation.availability ≠ .available ∨
      sample.valuation.sourceAgreement ≠ .corroborated ∨
      sample.valuation.confidenceClass ≠ .medium then [.observationNotCorroborated]
    else [] : List StablecoinRecoveryReason) ++
  (if !valuationWithinRecoveryBand sample.valuation then [.observationOutsideRepegBand]
    else [] : List StablecoinRecoveryReason)

def recoveryReasons (request : ParsedRecoveryRequest)
    (latch : StablecoinDepegLatchReference) : List StablecoinRecoveryReason :=
  (if request.samples.length < consecutiveDualCorroboratedObservations then
      [.insufficientDistinctObservations]
    else [] : List StablecoinRecoveryReason) ++
  (if !recoveryEvidenceIsStrictlyMonotonic request.samples then [.nonMonotonicEvidence]
    else [] : List StablecoinRecoveryReason) ++
  (if (recoverySpan request.samples).all (fun spanMs => spanMs < minimumSpanMs) then
      [.insufficientObservationSpan]
    else [] : List StablecoinRecoveryReason) ++
  (if latch.latchedAt.milliseconds > request.evaluatedAt.milliseconds then
      [.depegLatchAfterRecoveryEvaluation]
    else [] : List StablecoinRecoveryReason) ++
  request.samples.flatMap
    (sampleReasons request.evaluatedAt.milliseconds latch.latchedAt.milliseconds)

def recoveryReasonOrder : List StablecoinRecoveryReason :=
  [.invalidInput, .noPriorDepegLatch, .insufficientDistinctObservations, .nonMonotonicEvidence,
    .insufficientObservationSpan, .depegLatchAfterRecoveryEvaluation, .evidencePrecedesDepegLatch,
    .evidenceAfterRecoveryEvaluation, .observationNotCurrent, .observationNotCorroborated,
    .observationOutsideRepegBand, .manualRiskClearRequired, .manualRiskClearLatchMismatch,
    .manualRiskClearPrecedesFinalSample, .manualRiskClearAfterRecoveryEvaluation,
    .localCandidateClearOnly]

def orderedRecoveryReasons (reasons : List StablecoinRecoveryReason) :
    List StablecoinRecoveryReason :=
  Sorting.inOrder recoveryReasonOrder reasons

def recoveryResult (status : StablecoinRecoveryStatus)
    (asset : Option StablecoinValuationAssetReference) (evaluatedAt : Option Instant)
    (depegLatch : Option StablecoinDepegLatchReference)
    (acceptedManualRiskClear : Option StablecoinManualRiskClearReference) (evidenceCount : Nat)
    (evidenceSpanMs : Option Int) (reasons : List StablecoinRecoveryReason) :
    StablecoinRecoveryResult where
  status := status
  asset := asset
  evaluatedAt := evaluatedAt
  depegLatch := depegLatch
  acceptedManualRiskClear := acceptedManualRiskClear
  evidenceCount := evidenceCount
  evidenceSpanMs := evidenceSpanMs
  reasons := orderedRecoveryReasons reasons
  manualRiskClearAccepted := acceptedManualRiskClear.isSome

/-- The risk clear of a request with sufficient evidence, or what it lacks. -/
def acceptRiskClear (request : ParsedRecoveryRequest) (latch : StablecoinDepegLatchReference) :
    Except StablecoinRecoveryReason StablecoinManualRiskClearReference :=
  match request.manualRiskClear with
  | none => .error .manualRiskClearRequired
  | some clear =>
    if clear.latchId ≠ latch.latchId then .error .manualRiskClearLatchMismatch
    else if request.samples.getLast?.all (fun lastSample =>
        clear.clearedAt.milliseconds < lastSample.evaluatedAt.milliseconds) then
      .error .manualRiskClearPrecedesFinalSample
    else if clear.clearedAt.milliseconds > request.evaluatedAt.milliseconds then
      .error .manualRiskClearAfterRecoveryEvaluation
    else .ok clear

/-- The recovery of an accepted request. -/
def recover (request : ParsedRecoveryRequest) : StablecoinRecoveryResult :=
  let spanMs := recoverySpan request.samples
  match request.depegLatch with
  | none =>
    recoveryResult .notApplicable request.asset request.evaluatedAt none none
      request.samples.length spanMs [.noPriorDepegLatch]
  | some latch =>
    let uniqueReasons := orderedRecoveryReasons (recoveryReasons request latch)
    if uniqueReasons.length > 0 then
      recoveryResult .recoveryPending request.asset request.evaluatedAt latch none
        request.samples.length spanMs uniqueReasons
    else
      match acceptRiskClear request latch with
      | .error reason =>
        recoveryResult .manualRiskClearRequired request.asset request.evaluatedAt latch none
          request.samples.length spanMs [reason]
      | .ok clear =>
        recoveryResult .recoveryCandidateCleared request.asset request.evaluatedAt latch clear
          request.samples.length spanMs [.localCandidateClearOnly]

def evaluateStablecoinRecovery (v : Value) : StablecoinRecoveryResult :=
  match parseRecoveryRequest v with
  | none => recoveryResult .invalidInput none none none none 0 none [.invalidInput]
  | some request => recover request

end CryptoLending.Valuation.StablecoinRecovery
