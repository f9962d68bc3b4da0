import CryptoLending.Lib.Machine
import CryptoLending.Lib.IsoText
import CryptoLending.Lib.JsReading

namespace CryptoLending.MainnetPlatforms.DeadlineRunner

open Lib Lib.JsValue Lib.JsReading

inductive ErrorCode where
  | invalidConfiguration
  | invalidRequest
  | admissionAborted
  | deadlineExceeded
  | operationFailed
  | runtimeUnavailable
  | invalidAbortCapability
  deriving DecidableEq

def maxDeadlineMilliseconds : Int := 30000

section Request

def isAlphanumeric (c : Char) : Bool :=
  Text.isDigit c || ('a' ≤ c && c ≤ 'z') || ('A' ≤ c && c ≤ 'Z')

def isLowerAlphanumeric (c : Char) : Bool := Text.isDigit c || ('a' ≤ c && c ≤ 'z')

/-- Characters between an `edge` character at each end. -/
def isToken (edge inner : Char → Bool) (maximum : Nat) (cs : List Char) : Bool :=
  cs.head?.any edge && cs.getLast?.any edge && cs.all inner && decide (cs.length ≤ maximum)

def isIdentifierInner (c : Char) : Bool := isAlphanumeric c || ['.', '_', ':', '-'].contains c

def isCorrelationId : List Char → Bool := isToken isAlphanumeric isIdentifierInner 128

def isSourceFamilyId : List Char → Bool :=
  isToken isLowerAlphanumeric (fun c => isLowerAlphanumeric c || c == '-') 64

def isTargetId : List Char → Bool := isToken isAlphanumeric isIdentifierInner 192

/-- The deadline of a request. Which values are abort signals and functions is up to the platform. -/
def parseRunRequest (isAbortSignal isFunction : Value → Bool) (value : Value) : Option Int := do
  let record ← exactDataRecord value
    ["deadlineAt", "correlationId", "sourceFamilyId", "targetId", "signal", "abortAdmission"]
  let _ ← readText isCorrelationId (record.get "correlationId")
  let _ ← readText isSourceFamilyId (record.get "sourceFamilyId")
  let _ ← readText isTargetId (record.get "targetId")
  guard (isFunction (record.get "abortAdmission") = true)
  let deadlineAt ← (record.get "deadlineAt").string?
  let deadlineMilliseconds ← IsoDate.parse deadlineAt
  guard (isAbortSignal (record.get "signal") = true)
  return deadlineMilliseconds

end Request

section State

variable (α : Type)

/-- The promise of the operation. -/
inductive Operation where
  | waiting
  | started
  | fulfilled (value : α)
  | rejected

/-- Where the run is: about to continue, or waiting for the outside. -/
inductive Point where
  | starting
  | refusing (code : ErrorCode)
  | scheduling
  | scheduleFailed
  | beginning
  | operating
  | operationFailed
  | completing (outcome : Option α)
  | failing
  | cancelling (result : Except ErrorCode α)
  | cleanupFailed
  | settled (result : Except ErrorCode α)

/-- Where an activation of the timer's callback is. -/
inductive Activation where
  | readingClock
  | aborting
  deriving DecidableEq

/-- What was seen when the completion was checked. -/
structure Completion where
  reading : Int
  aborted : Bool
  deriving DecidableEq

structure State where
  point : Point α
  /-- The admission signal is aborted. -/
  aborted : Bool
  cause : Option ErrorCode := none
  startedAt : Int := 0
  /-- The abort listener was added, and not yet removed. -/
  listening : Bool := false
  /-- The scheduling of the timer was asked for. -/
  timerAsked : Bool := false
  timerCreated : Bool := false
  timerCancelled : Bool := false
  cancelThrew : Bool := false
  /-- The activations of the callback, the innermost first. -/
  activations : List Activation := []
  operation : Operation α := .waiting
  starts : Nat := 0
  /-- How often the abort capability returned or threw. -/
  abortCalls : Nat := 0
  completion : Option Completion := none

/-- What the outside does. A reading is missing when the clock fails. -/
inductive Event where
  | abort
  | fire
  | clock (reading : Option Int)
  | abortReturned (threw : Bool)
  | scheduled (threw : Bool)
  | cancelled (threw : Bool)
  | fulfil (value : α)
  | reject
  | advance

end State

section Steps

variable {α : Type} (deadline : Int)

namespace State

/-- `cause ??= code`. -/
def addCause (s : State α) (code : ErrorCode) : State α :=
  { s with cause := s.cause.orElse fun _ => some code }

/-- The listener is told once. -/
def abort (s : State α) : State α :=
  if s.aborted then s
  else if s.listening then { s with aborted := true }.addCause .admissionAborted
  else { s with aborted := true }

def fire (s : State α) : Option (State α) :=
  if s.timerAsked then
    if s.cause.isSome then some s
    else some { s with activations := .readingClock :: s.activations }
  else none

/-- The cause that the callback of the timer reports. -/
def timerCause (s : State α) (reading : Option Int) : ErrorCode :=
  match reading with
  | none => .runtimeUnavailable
  | some observedAt =>
    if observedAt < s.startedAt then .runtimeUnavailable
    else if observedAt < deadline then .runtimeUnavailable
    else .deadlineExceeded

/-- The abort capability is worth something when it returned and the signal is aborted. -/
def abortFailed (s : State α) (threw : Bool) : Bool := threw || !s.aborted

def settleAbort (s : State α) (threw : Bool) : State α :=
  { s with
    cause := if s.abortFailed threw then some .invalidAbortCapability else s.cause
    abortCalls := s.abortCalls + 1 }

/-- The `finally` block up to the cancellation of the timer. -/
def finish (s : State α) (result : Except ErrorCode α) : State α :=
  if s.timerCreated then { s with point := .cancelling result }
  else { s with listening := false, point := .settled result }

/-- Throws the cause, or goes on. -/
def failOr (s : State α) (next : State α) : State α :=
  match s.cause with
  | some code => s.finish (.error code)
  | none => next

def noticeAbort (s : State α) : State α := if s.aborted then s.addCause .admissionAborted else s

/-- The first clock reading. -/
def start (s : State α) (reading : Option Int) : State α :=
  match reading with
  | none => { s with point := .refusing .runtimeUnavailable }
  | some startedAt =>
    if deadline - startedAt ≤ 0 then { s with point := .refusing .deadlineExceeded }
    else if maxDeadlineMilliseconds < deadline - startedAt then
      { s with point := .refusing .invalidRequest }
    else
      let s := { s with startedAt, listening := true }.noticeAbort
      s.failOr { s with point := .scheduling, timerAsked := true }

def endWith (s : State α) (outcome : Option α) : State α :=
  s.failOr (match outcome with
    | some value => s.finish (.ok value)
    | none => s.finish (.error .operationFailed))

/-- The check of the completion. -/
def complete (s : State α) (outcome : Option α) (reading : Option Int) : State α :=
  match reading with
  | none => { s.addCause .runtimeUnavailable with point := .failing }
  | some completedAt =>
    if completedAt < s.startedAt then { s.addCause .runtimeUnavailable with point := .failing }
    else if s.cause ≠ some .invalidAbortCapability ∧ deadline ≤ completedAt then
      { s with cause := some .deadlineExceeded, point := .failing }
    else { s.noticeAbort with completion := some ⟨completedAt, s.aborted⟩ }.endWith outcome

def clock (s : State α) (reading : Option Int) : Option (State α) :=
  match s.activations with
  | .readingClock :: rest =>
    some { s.addCause (s.timerCause deadline reading) with activations := .aborting :: rest }
  | .aborting :: _ => none
  | [] =>
    match s.point with
    | .starting => some (s.start deadline reading)
    | .completing outcome => some (s.complete deadline outcome reading)
    | _ => none

def abortReturned (s : State α) (threw : Bool) : Option (State α) :=
  match s.activations with
  | .readingClock :: _ => none
  | .aborting :: rest => some { s.settleAbort threw with activations := rest }
  | [] =>
    match s.point with
    | .refusing code =>
      some { s with
        point := .settled (.error (if s.abortFailed threw then .invalidAbortCapability else code))
        abortCalls := s.abortCalls + 1 }
    | .scheduleFailed =>
      let s := s.settleAbort threw
      some (s.finish (.error (s.cause.getD .runtimeUnavailable)))
    | .operationFailed => some { s.settleAbort threw with point := .completing none }
    | .failing => some ((s.settleAbort threw).endWith none)
    | .cleanupFailed =>
      some { s with point := .settled (.error .runtimeUnavailable), abortCalls := s.abortCalls + 1 }
    | _ => none

def scheduled (s : State α) (threw : Bool) : Option (State α) :=
  match s.activations, s.point with
  | [], .scheduling =>
    if threw then some { s.addCause .runtimeUnavailable with point := .scheduleFailed }
    else
      let s := { s with timerCreated := true }.noticeAbort
      some (s.failOr { s with point := .beginning })
  | _, _ => none

def cancelled (s : State α) (threw : Bool) : Option (State α) :=
  match s.activations, s.point with
  | [], .cancelling result =>
    let s := { s with timerCancelled := true, listening := false, cancelThrew := threw }
    some { s with point := if threw then .cleanupFailed else .settled result }
  | _, _ => none

def settle (s : State α) (operation : Operation α) : Option (State α) :=
  match s.operation with
  | .started => some { s with operation }
  | _ => none

/-- The run continues where it waits for a turn or for the promise of the operation. -/
def advance (s : State α) : Option (State α) :=
  match s.activations, s.point with
  | [], .beginning =>
    if s.aborted then some { s.addCause .admissionAborted with point := .completing none }
    else some { s with operation := .started, starts := s.starts + 1, point := .operating }
  | [], .operating =>
    match s.operation with
    | .fulfilled value => some { s with point := .completing (some value) }
    | .rejected =>
      if s.cause.isSome then some { s with point := .completing none }
      else some { s.addCause .operationFailed with point := .operationFailed }
    | _ => none
  | _, _ => none

end State

def step (s : State α) : Event α → Option (State α)
  | .abort => some s.abort
  | .fire => s.fire
  | .clock reading => s.clock deadline reading
  | .abortReturned threw => s.abortReturned threw
  | .scheduled threw => s.scheduled threw
  | .cancelled threw => s.cancelled threw
  | .fulfil value => s.settle (.fulfilled value)
  | .reject => s.settle .rejected
  | .advance => s.advance

/-- A run before its first clock reading. -/
def initial (deadline : Option Int) (aborted : Bool) : State α :=
  match deadline with
  | none => { point := .settled (.error .invalidRequest), aborted }
  | some _ =>
    if aborted then { point := .settled (.error .admissionAborted), aborted }
    else { point := .starting, aborted }

/-- The state after some events in a run for a request. -/
def runRequest (isAbortSignal isFunction : Value → Bool) (request : Value) (aborted : Bool)
    (events : List (Event α)) : Option (State α) :=
  let deadline := parseRunRequest isAbortSignal isFunction request
  Events.run (step (deadline.getD 0)) (initial deadline aborted) events

end Steps

end CryptoLending.MainnetPlatforms.DeadlineRunner
