import CryptoLending.Lib.Machine
import CryptoLending.MainnetActions.SchedulerRecords

namespace CryptoLending.MainnetActions.TwoQueueScheduler

open Lib Lib.JsValue Lib.IsoText SchedulerRecords

/-- The identity of an object: one that the scheduler has made, or any other. -/
inductive Identity where
  | scheduler (number : Nat)
  | foreign (number : Nat)
  deriving DecidableEq

/-- A claim request. Among its properties its abort signal counts as `other`; `signal` is the
identity of the signal, when it is an authentic one. -/
structure ClaimRequest where
  identity : Nat
  properties : Value
  signal : Option Nat

/-- A completion request. `claimCapability` is the identity of that object, unless it is none or
a proxy, and `claimRequest` is absent when it is null or undefined. -/
structure CompleteRequest where
  identity : Nat
  properties : Value
  claimCapability : Option Identity
  claimRequest : Option ClaimRequest
  signal : Option Nat

structure IssuedClaim where
  queue : Queue
  sourceCapability : Nat
  request : Nat
  signal : Nat
  view : ClaimView

structure IssuedCompletion where
  request : Nat
  signal : Nat
  result : CompletionResult

/-- What the promise of a source settles to. A value is neither null nor an authentic object. -/
inductive SourceAnswer where
  | rejected
  | null
  | value
  | object (capability : Nat)

/-- A call that waits for code outside of the scheduler: the source or the clock. -/
inductive Call where
  | claiming (queue : Queue) (request : ClaimRequest) (signal : Nat)
  | reviewingClaim (queue : Queue) (request : ClaimRequest) (signal source : Nat)
  | timingClaim (queue : Queue) (request : ClaimRequest) (signal source : Nat) (reviewed : Value)
  | timingReview (capability : Identity) (issued : IssuedClaim)
  | timingCompletion (queue : Queue) (request : CompleteRequest) (signal : Nat)
      (capability : Identity) (issued : IssuedClaim) (disposition : String)
  | completing (queue : Queue) (request : CompleteRequest) (signal : Nat) (issued : IssuedClaim)
      (disposition : String)
  | reviewingCompletion (queue : Queue) (request : CompleteRequest) (signal : Nat)
      (issued : IssuedClaim) (disposition : String)
  | ended

/-- What the scheduler does in a step. -/
inductive Action where
  | nothing
  | askSource (queue : Queue) (request : ClaimRequest)
  | reviewSource (source : Nat)
  | readClock
  | present (call : Nat) (queue : Queue) (capability : Identity) (source : Nat) (now : TimeValue)
  | reviewOutcome (call outcome : Nat)
  | issueClaim (capability : Identity) (issued : IssuedClaim)
  | issueCompletion (call : Nat) (capability : Identity) (result : CompletionResult)
  | returnNull
  | returnView (view : ClaimView)
  | returnResult (capability : Identity) (result : CompletionResult)
  | fail (code : FailureCode)
  | typeError

/-- The tables of a scheduler, the aborted signals, the number of objects that it has made, and
its calls. -/
structure State where
  claims : Identity → Option IssuedClaim
  completions : Identity → Option IssuedCompletion
  aborted : List Nat
  made : Nat
  calls : List Call

inductive Step where
  | claim (queue : Queue) (request : ClaimRequest)
  | complete (queue : Queue) (request : CompleteRequest)
  | reviewClaim (queue : Queue) (capability : Option Identity) (request : ClaimRequest)
  | reviewCompletion (capability : Option Identity) (request : CompleteRequest)
  | abort (signal : Nat)
  | sourceAnswers (call : Nat) (answer : SourceAnswer)
  | sourceReviews (call : Nat) (reviewed : Option Value)
  | clockReads (call : Nat) (reading : Option TimeValue)

section Validation

/-- The signal of a valid request that is not aborted. -/
def validateClaimRequest (aborted : List Nat) (request : ClaimRequest) (queue : Queue) :
    Except FailureCode Nat := do
  let record ← exactFrozenRecord request.properties claimRequestKeys .invalidRequest
  assertDeniedAuthority record .invalidRequest
  failWhen (!(record.get "schedulerVersion").isNumber schedulerVersion ||
    !(record.get "use").isText queue.claimUse) .invalidRequest
  let signal ← orFail request.signal .invalidRequest
  failWhen (signal ∈ aborted) .invalidRequest
  return signal

/-- The signal and the disposition of a valid request that is not aborted. -/
def validateCompletionRequest (aborted : List Nat) (request : CompleteRequest) (queue : Queue) :
    Except FailureCode (Nat × String) := do
  let record ← exactFrozenRecord request.properties completionRequestKeys .invalidRequest
  assertDeniedAuthority record .invalidRequest
  failWhen (!(record.get "schedulerVersion").isNumber schedulerVersion) .invalidRequest
  failWhen (!(record.get "use").isText queue.completionUse) .invalidRequest
  let disposition ← orFail (record.get "disposition").string? .invalidRequest
  failWhen (disposition ∉ queue.dispositions) .invalidRequest
  let signal ← orFail request.signal .invalidRequest
  failWhen (signal ∈ aborted) .invalidRequest
  return (signal, disposition)

end Validation

section Steps

variable (s : State)

def deleteClaim (capability : Identity) : State :=
  { s with claims := Function.update s.claims capability none }

/-- A call begins, and waits or has ended at once. -/
def startCall (call : Call) : State := { s with calls := s.calls ++ [call] }

def setCall (index : Nat) (call : Call) : State := { s with calls := s.calls.set index call }

/-- A call that fails. -/
def failCall (index : Nat) (code : FailureCode) : Action × State :=
  (.fail code, setCall s index .ended)

def claim (queue : Queue) (request : ClaimRequest) : Action × State :=
  match validateClaimRequest s.aborted request queue with
  | .error code => (.fail code, startCall s .ended)
  | .ok signal => (.askSource queue request, startCall s (.claiming queue request signal))

/-- The source has answered a claim. -/
def claimAnswered (index : Nat) (queue : Queue) (request : ClaimRequest) (signal : Nat)
    (answer : SourceAnswer) : Action × State :=
  match answer with
  | .rejected => failCall s index .claimUnavailable
  | .null =>
    if signal ∈ s.aborted then failCall s index .invalidRequest
    else (.returnNull, setCall s index .ended)
  | .value =>
    if signal ∈ s.aborted then failCall s index .invalidRequest
    else failCall s index .claimUnavailable
  | .object source =>
    if signal ∈ s.aborted then failCall s index .invalidRequest
    else (.reviewSource source, setCall s index (.reviewingClaim queue request signal source))

/-- The source has reviewed its claim, or has thrown. The clock is read next. -/
def claimReviewed (index : Nat) (queue : Queue) (request : ClaimRequest) (signal source : Nat)
    (reviewed : Option Value) : Action × State :=
  match reviewed with
  | none | some .null => failCall s index .claimUnavailable
  | some value => (.readClock, setCall s index (.timingClaim queue request signal source value))

/-- The clock has been read, and the capability of the claim is made. -/
def claimTimed (index : Nat) (queue : Queue) (request : ClaimRequest) (signal source : Nat)
    (reviewed : Value) (reading : Option TimeValue) : Action × State :=
  match reading with
  | none => failCall s index .invalidConfiguration
  | some now =>
    match sourceClaim reviewed queue now with
    | .error code => failCall s index code
    | .ok view =>
      let issued := ⟨queue, source, request.identity, signal, view⟩
      (.issueClaim (.scheduler s.made) issued, { setCall s index .ended with
        claims := Function.update s.claims (.scheduler s.made) (some issued)
        made := s.made + 1 })

def reviewClaim (queue : Queue) (capability : Option Identity) (request : ClaimRequest) :
    Action × State :=
  match capability.bind (fun capability => (s.claims capability).map (capability, ·)) with
  | none => (.returnNull, startCall s .ended)
  | some (capability, issued) =>
    if issued.queue ≠ queue ∨ issued.request ≠ request.identity then
      (.returnNull, startCall s .ended)
    else
      match validateClaimRequest s.aborted request queue with
      | .error _ => (.returnNull, startCall s .ended)
      | .ok _ =>
        if issued.signal ∈ s.aborted then
          (.returnNull, startCall (deleteClaim s capability) .ended)
        else (.readClock, startCall s (.timingReview capability issued))

/-- The clock has been read. A failing clock leaves the claim. -/
def reviewTimed (index : Nat) (capability : Identity) (issued : IssuedClaim)
    (reading : Option TimeValue) : Action × State :=
  match reading with
  | none => (.returnNull, setCall s index .ended)
  | some now =>
    if now.milliseconds ≥ issued.view.leaseExpiresAt.milliseconds then
      (.returnNull, setCall (deleteClaim s capability) index .ended)
    else (.returnView issued.view, setCall s index .ended)

/-- The claim is looked up before the clock is read. -/
def complete (queue : Queue) (request : CompleteRequest) : Action × State :=
  match validateCompletionRequest s.aborted request queue with
  | .error code => (.fail code, startCall s .ended)
  | .ok (signal, disposition) =>
    match request.claimRequest with
    | none => (.typeError, startCall s .ended)
    | some claimRequest =>
      if claimRequest.signal ≠ some signal then (.fail .invalidRequest, startCall s .ended)
      else
        match request.claimCapability.bind
          (fun capability => (s.claims capability).map (capability, ·)) with
        | none => (.fail .claimUnavailable, startCall s .ended)
        | some (capability, issued) =>
          if issued.queue ≠ queue then (.fail .crossQueueClaim, startCall s .ended)
          else if issued.request ≠ claimRequest.identity ∨ issued.signal ≠ signal then
            (.fail .claimUnavailable, startCall s .ended)
          else (.readClock,
            startCall s (.timingCompletion queue request signal capability issued disposition))

/-- The clock has been read: the claim is taken out of the table, and presented to the source
during its lease. -/
def completionTimed (index : Nat) (queue : Queue) (request : CompleteRequest) (signal : Nat)
    (capability : Identity) (issued : IssuedClaim) (disposition : String)
    (reading : Option TimeValue) : Action × State :=
  match reading with
  | none => failCall s index .invalidConfiguration
  | some now =>
    if now.milliseconds < issued.view.claimedAt.milliseconds then
      failCall (deleteClaim s capability) index .invalidConfiguration
    else if now.milliseconds ≥ issued.view.leaseExpiresAt.milliseconds then
      failCall (deleteClaim s capability) index .claimExpired
    else (.present index queue capability issued.sourceCapability now,
      setCall (deleteClaim s capability) index
        (.completing queue request signal issued disposition))

def completionAnswered (index : Nat) (queue : Queue) (request : CompleteRequest) (signal : Nat)
    (issued : IssuedClaim) (disposition : String) (answer : SourceAnswer) : Action × State :=
  match answer with
  | .rejected | .null | .value => failCall s index .claimUnavailable
  | .object outcome =>
    if signal ∈ s.aborted then failCall s index .claimUnavailable
    else (.reviewOutcome index outcome,
      setCall s index (.reviewingCompletion queue request signal issued disposition))

/-- The source has reviewed its completion, or has thrown. -/
def completionReviewed (index : Nat) (queue : Queue) (request : CompleteRequest) (signal : Nat)
    (issued : IssuedClaim) (disposition : String) (reviewed : Option Value) : Action × State :=
  match reviewed with
  | none | some .null => failCall s index .claimUnavailable
  | some value =>
    match sourceCompletion value queue issued.view disposition with
    | .error code => failCall s index code
    | .ok result =>
      (.issueCompletion index (.scheduler s.made) result, { setCall s index .ended with
        completions := Function.update s.completions (.scheduler s.made)
          (some ⟨request.identity, signal, result⟩)
        made := s.made + 1 })

/-- The completion is taken out of the table before anything else. -/
def reviewCompletion (capability : Option Identity) (request : CompleteRequest) :
    Action × State :=
  match capability.bind (fun capability => (s.completions capability).map (capability, ·)) with
  | none => (.returnNull, s)
  | some (capability, issued) =>
    let deleted := { s with completions := Function.update s.completions capability none }
    match validateCompletionRequest s.aborted request issued.result.queue with
    | .error _ => (.returnNull, deleted)
    | .ok (signal, _) =>
      if issued.request ≠ request.identity ∨ issued.signal ≠ signal ∨ issued.signal ∈ s.aborted then
        (.returnNull, deleted)
      else (.returnResult capability issued.result, deleted)

/-- The next state. A step that is not possible changes nothing. -/
def step : Step → Action × State
  | .claim queue request => claim s queue request
  | .complete queue request => complete s queue request
  | .reviewClaim queue capability request => reviewClaim s queue capability request
  | .reviewCompletion capability request => reviewCompletion s capability request
  | .abort signal => (.nothing, { s with aborted := signal :: s.aborted })
  | .sourceAnswers index answer =>
    match s.calls[index]? with
    | some (.claiming queue request signal) => claimAnswered s index queue request signal answer
    | some (.completing queue request signal issued disposition) =>
      completionAnswered s index queue request signal issued disposition answer
    | _ => (.nothing, s)
  | .sourceReviews index reviewed =>
    match s.calls[index]? with
    | some (.reviewingClaim queue request signal source) =>
      claimReviewed s index queue request signal source reviewed
    | some (.reviewingCompletion queue request signal issued disposition) =>
      completionReviewed s index queue request signal issued disposition reviewed
    | _ => (.nothing, s)
  | .clockReads index reading =>
    match s.calls[index]? with
    | some (.timingClaim queue request signal source reviewed) =>
      claimTimed s index queue request signal source reviewed reading
    | some (.timingReview capability issued) => reviewTimed s index capability issued reading
    | some (.timingCompletion queue request signal capability issued disposition) =>
      completionTimed s index queue request signal capability issued disposition reading
    | _ => (.nothing, s)

end Steps

def scheduler : Machine Step Action State where
  initial := ⟨fun _ => none, fun _ => none, [], 0, []⟩
  step := step

end CryptoLending.MainnetActions.TwoQueueScheduler
