import CryptoLending.Lib.Machine
import CryptoLending.MainnetPlatforms.ReconciliationResult

namespace CryptoLending.MainnetPlatforms.ReconciliationLifecycle

open Lib Lib.JsValue ReconciliationResult

inductive ErrorCode where
  | invalidConfiguration
  | invalidRequest
  | alreadyRunning
  | clockUnavailable
  | timerUnavailable
  | reconciliationUnavailable
  | resultAuthenticationFailed
  | signalUnavailable
  deriving DecidableEq

def maxWorkItems : Nat := 64

def minRunMilliseconds : Int := 10

def maxRunMilliseconds : Int := 30000

def minRetryDelayMilliseconds : Int := 10

def isSafeInteger (n : Int) : Bool := decide (n.natAbs < 2 ^ 53)

/-- A policy whose bounds were checked. -/
structure ReviewedPolicy where
  maximumWorkItems : Nat
  maximumRunMilliseconds : Int
  workItems_bounds : 1 ≤ maximumWorkItems ∧ maximumWorkItems ≤ maxWorkItems
  runMilliseconds_bounds :
    minRunMilliseconds ≤ maximumRunMilliseconds ∧ maximumRunMilliseconds ≤ maxRunMilliseconds

inductive RunOutcome where
  | idle
  | workLimitReached
  | runDeadlineReached
  | deferred
  | aborted
  deriving DecidableEq

structure RunCounts where
  attempts : Nat
  resolved : Nat
  deferred : Nat
  deriving DecidableEq

structure RunResult where
  outcome : RunOutcome
  attemptCount : Nat
  resolvedIntentCount : Nat
  deferredCount : Nat
  deriving DecidableEq

def runResult (outcome : RunOutcome) (counts : RunCounts) : RunResult :=
  ⟨outcome, counts.attempts, counts.resolved, counts.deferred⟩

abbrev Answer := Except ErrorCode RunResult

section State

/-- What an object of the outside is known by. -/
abbrev Reference := Nat

/-- How far a timer has come: `schedule` was called, `schedule` returned, `cancel` was called, the
callback was called. -/
structure Timer where
  asked : Bool := false
  created : Bool := false
  cancelled : Bool := false
  fired : Bool := false

inductive WaitOutcome where
  | elapsed
  | aborted
  deriving DecidableEq

/-- A wait for a retry. Its promise is rejected with nothing. -/
structure Wait where
  retryAt : Int
  timer : Timer := {}
  /-- `schedule` has not returned yet. -/
  scheduling : Bool := false
  callbackBeforeScheduleReturn : Bool := false
  settled : Bool := false
  /-- It was settled by an abort before `schedule` returned. -/
  interrupted : Bool := false
  promise : Option (Option WaitOutcome) := none

/-- A call inside a callback that has not returned yet. -/
inductive Call where
  | deadlineClock
  | cancelRetry (outcome : WaitOutcome) (failed : Bool)

/-- What follows when the status is no reason to stop. -/
inductive Next where
  | attempt
  | invocationFailed
  | reviewed (result : ReviewedReconciliationResult)
  | waitAborted

/-- Which call of the outside the run is in, or what it waits for. -/
inductive Point where
  | starting
  | scheduling
  | checking (next : Next) (deadlineReached : Bool)
  | invoking
  | reviewing (capability : Reference)
  | timing (retryNotBefore : Int)
  | waiting
  | resuming (retryAt : Int)
  | aborting (answer : Answer)
  | cancelling (answer : Answer)
  | returning (answer : Answer)
  | settled (answer : Answer)

/-- What a run has done: readings of the clock, attempts started and answered, and results that
were authenticated. -/
inductive Mark where
  | clock (reading : Int)
  | attempted
  | answered
  | authenticated (result : ReviewedReconciliationResult)

structure Run where
  point : Point
  /-- The signal of the caller is aborted. -/
  signalAborted : Bool
  startedAt : Int := 0
  deadlineAt : Int := 0
  counts : RunCounts := ⟨0, 0, 0⟩
  /-- Whether the internal signal is aborted, once it exists. -/
  internalSignal : Option Bool := none
  externalAborted : Bool := false
  deadlineReached : Bool := false
  runtimeFailed : Bool := false
  listening : Bool := false
  deadlineTimer : Timer := {}
  /-- The calls inside callbacks, the innermost first. -/
  calls : List Call := []
  wait : Option Wait := none
  /-- The waits that are over, the latest first. -/
  ended : List Wait := []
  /-- The latest first. -/
  trace : List Mark := []

/-- What the outside does. A missing reading is a clock that fails, a missing capability an
invocation that fails, and a missing answer a review that throws. -/
inductive Event where
  | abort
  | deadlineFired
  | retryFired
  | lateRetryFired (index : Nat)
  | clock (reading : Option Int)
  | scheduled (threw : Bool)
  | cancelled (threw : Bool)
  | invoked (capability : Option Reference)
  | reviewed (answer : Option (Reference × Value))
  | advance

end State

namespace Run

/-- `settle` of a wait. -/
def settleWait (s : Run) (outcome : WaitOutcome) (failed : Bool) : Run :=
  match s.wait with
  | none => s
  | some w =>
    if w.settled then s
    else if w.timer.created then
      { s with
        wait := some { w with settled := true, timer := { w.timer with cancelled := true } }
        calls := .cancelRetry outcome failed :: s.calls }
    else
      { s with wait := some { w with
          settled := true
          interrupted := w.scheduling
          promise := some (if failed then none else some outcome) } }

/-- The wait listens to the internal signal. -/
def abortInternal (s : Run) : Run :=
  match s.internalSignal with
  | some false => { s with internalSignal := some true }.settleWait .aborted false
  | _ => s

/-- The abort of the caller's signal, which the listener is told once. -/
def abort (s : Run) : Run :=
  if s.signalAborted then s
  else if s.listening then { s with signalAborted := true, externalAborted := true }.abortInternal
  else { s with signalAborted := true }

def deadlineFired (s : Run) : Option Run :=
  if s.deadlineTimer.asked then
    let s := { s with deadlineTimer := { s.deadlineTimer with fired := true } }
    if s.deadlineTimer.created then some { s with calls := .deadlineClock :: s.calls }
    else some { s with runtimeFailed := true }.abortInternal
  else none

def retryFired (s : Run) : Option Run :=
  match s.wait with
  | none => none
  | some w =>
    if w.timer.asked then
      let w := { w with timer := { w.timer with fired := true } }
      if w.timer.created then some ({ s with wait := some w }.settleWait .elapsed false)
      else some { s with wait := some { w with callbackBeforeScheduleReturn := true } }
    else none

def lateRetryFired (s : Run) (index : Nat) : Option Run :=
  match s.ended[index]? with
  | none => none
  | some w =>
    if w.timer.asked then
      some { s with
        ended := s.ended.set index { w with timer := { w.timer with fired := true } } }
    else none

/-- The `finally` block up to the abort of the internal signal. -/
def finish (s : Run) (answer : Answer) : Run := { s.abortInternal with point := .aborting answer }

/-- The `finally` block up to the cancellation of the deadline timer. -/
def clean (s : Run) (answer : Answer) : Run :=
  let answer := if s.runtimeFailed then .error .timerUnavailable else answer
  if s.deadlineTimer.created then
    { s with
      deadlineTimer := { s.deadlineTimer with cancelled := true }
      point := .cancelling answer }
  else { s with listening := false, point := .returning answer }

def stop (s : Run) (outcome : RunOutcome) : Run := s.finish (.ok (runResult outcome s.counts))

/-- The status up to the reading of the clock. -/
def currentStatus (s : Run) (next : Next) : Run :=
  if s.runtimeFailed then s.finish (.error .timerUnavailable)
  else if s.externalAborted || s.signalAborted then s.stop .aborted
  else { s with point := .checking next s.deadlineReached }

section Policy

variable (policy : ReviewedPolicy)

/-- The head of the loop. -/
def loop (s : Run) : Run :=
  if s.counts.attempts < policy.maximumWorkItems then s.currentStatus .attempt
  else s.stop .workLimitReached

def start (s : Run) (startedAt : Int) : Run :=
  let deadlineAt := startedAt + policy.maximumRunMilliseconds
  if isSafeInteger deadlineAt then
    let s := { s with startedAt, deadlineAt, internalSignal := some false, listening := true }
    if s.signalAborted then ({ s with externalAborted := true }.abortInternal).stop .aborted
    else { s with point := .scheduling, deadlineTimer := { s.deadlineTimer with asked := true } }
  else { s with point := .returning (.error .clockUnavailable) }

/-- A result of the port that was authenticated, after the status was no reason to stop. -/
def count (s : Run) (result : ReviewedReconciliationResult) : Run :=
  match result.outcome with
  | .idle => s.stop .idle
  | .deferred =>
    let s := { s with counts := { s.counts with deferred := s.counts.deferred + 1 } }
    match result.retryNotBeforeMilliseconds with
    | none => s.stop .deferred
    | some retryNotBefore =>
      if policy.maximumWorkItems ≤ s.counts.attempts then s.stop .workLimitReached
      else { s with point := .timing retryNotBefore }
  | _ => { s with counts := { s.counts with resolved := s.counts.resolved + 1 } }.loop policy

/-- What follows a status that is no reason to stop. -/
def proceed (s : Run) : Next → Run
  | .attempt =>
    { s with
      counts := { s.counts with attempts := s.counts.attempts + 1 }
      trace := .attempted :: s.trace
      point := .invoking }
  | .invocationFailed => s.finish (.error .reconciliationUnavailable)
  | .reviewed result => s.count policy result
  | .waitAborted => s.finish (.error .timerUnavailable)

/-- `wait` up to the scheduling of its timer. -/
def enterWait (s : Run) (now retryAt : Int) : Run :=
  let s := { s with point := .waiting }
  if s.internalSignal = some true then
    { s with wait := some { retryAt, settled := true, promise := some (some .aborted) } }
  else if isSafeInteger (retryAt - now) ∧ 1 ≤ retryAt - now then
    { s with wait := some { retryAt, timer := { asked := true }, scheduling := true } }
  else { s with wait := some { retryAt, settled := true, promise := some none } }

def planRetry (s : Run) (retryNotBefore now : Int) : Run :=
  let retryAt := max retryNotBefore (now + minRetryDelayMilliseconds)
  if isSafeInteger retryAt = false ∨ s.deadlineAt ≤ retryAt then s.stop .deferred
  else s.enterWait now retryAt

/-- A reading of the clock in the main block. -/
def read (s : Run) (reading : Int) : Option Run :=
  match s.point with
  | .starting => some (s.start policy reading)
  | .checking next deadlineReached =>
    some (if reading < s.startedAt then s.finish (.error .clockUnavailable)
      else if deadlineReached || decide (s.deadlineAt ≤ reading) then s.stop .runDeadlineReached
      else s.proceed policy next)
  | .timing retryNotBefore =>
    some (if reading < s.startedAt then s.finish (.error .clockUnavailable)
      else s.planRetry retryNotBefore reading)
  | .resuming retryAt =>
    some (if reading < s.startedAt then s.finish (.error .clockUnavailable)
      else if reading < retryAt then s.finish (.error .timerUnavailable)
      else s.loop policy)
  | _ => none

/-- A clock that fails in the main block. -/
def readFailed (s : Run) : Option Run :=
  match s.point with
  | .starting => some { s with point := .returning (.error .clockUnavailable) }
  | .checking _ _ | .timing _ | .resuming _ => some (s.finish (.error .clockUnavailable))
  | _ => none

/-- The callback of the deadline timer after its reading. -/
def noteDeadline (s : Run) (reading : Option Int) : Run :=
  match reading with
  | none => { s with runtimeFailed := true }.abortInternal
  | some observedAt =>
    if observedAt < s.deadlineAt then { s with runtimeFailed := true }.abortInternal
    else { s with deadlineReached := true }.abortInternal

def clock (s : Run) (reading : Option Int) : Option Run :=
  let reading := reading.filter isSafeInteger
  let marked := { s with trace := (reading.map Mark.clock).toList ++ s.trace }
  match s.calls with
  | .deadlineClock :: rest => some ({ marked with calls := rest }.noteDeadline reading)
  | .cancelRetry _ _ :: _ => none
  | [] =>
    match reading with
    | none => marked.readFailed
    | some observedAt => marked.read policy observedAt

/-- `schedule` returns or throws. -/
def scheduled (s : Run) (threw : Bool) : Option Run :=
  match s.calls, s.point, s.wait with
  | [], .scheduling, _ =>
    if threw then some (s.finish (.error .timerUnavailable))
    else
      let s := { s with deadlineTimer := { s.deadlineTimer with created := true } }
      some (if s.runtimeFailed then s.finish (.error .timerUnavailable) else s.loop policy)
  | [], .waiting, some w =>
    if w.scheduling then
      let w := { w with scheduling := false }
      if threw then some ({ s with wait := some w }.settleWait .aborted true)
      else
        let w := { w with timer := { w.timer with created := true } }
        let s := { s with wait := some w }
        some (if w.callbackBeforeScheduleReturn then s.settleWait .elapsed true
          else if s.internalSignal = some true then s.settleWait .aborted false
          else s)
    else none
  | _, _, _ => none

/-- `cancel` returns or throws. -/
def cancelled (s : Run) (threw : Bool) : Option Run :=
  match s.calls, s.point, s.wait with
  | .cancelRetry outcome failed :: rest, _, some w =>
    some { s with
      calls := rest
      wait := some { w with promise := some (if failed || threw then none else some outcome) } }
  | [], .cancelling answer, _ =>
    some { s with
      listening := false
      point := .returning (if threw then .error .timerUnavailable else answer) }
  | _, _, _ => none

/-- The invocation of the port ends, with a capability or not. -/
def invoked (s : Run) (capability : Option Reference) : Option Run :=
  match s.calls, s.point with
  | [], .invoking =>
    let s := { s with trace := .answered :: s.trace }
    match capability with
    | none => some (s.currentStatus .invocationFailed)
    | some capability => some { s with point := .reviewing capability }
  | _, _ => none

/-- The result is authenticated when the review returns the capability itself. -/
def authenticateResult (capability : Reference) (answer : Option (Reference × Value)) :
    Option ReviewedReconciliationResult := do
  let (reviewed, contents) ← answer
  guard (reviewed = capability)
  reviewedPortResult contents

def reviewed (s : Run) (answer : Option (Reference × Value)) : Option Run :=
  match s.calls, s.point with
  | [], .reviewing capability =>
    match authenticateResult capability answer with
    | none => some (s.finish (.error .resultAuthenticationFailed))
    | some result =>
      some ({ s with trace := .authenticated result :: s.trace }.currentStatus (.reviewed result))
  | _, _ => none

/-- The run continues after a wait or an abort, or returns. -/
def advance (s : Run) : Option Run :=
  match s.calls, s.point, s.wait with
  | [], .waiting, some w =>
    match w.scheduling, w.promise with
    | false, some outcome =>
      let s := { s with wait := none, ended := w :: s.ended }
      some (match outcome with
        | none => s.finish (.error .timerUnavailable)
        | some .aborted => s.currentStatus .waitAborted
        | some .elapsed => { s with point := .resuming w.retryAt })
    | _, _ => none
  | [], .aborting answer, _ => some (s.clean answer)
  | [], .returning answer, _ => some { s with point := .settled answer }
  | _, _, _ => none

def step (s : Run) : Event → Option Run
  | .abort => some s.abort
  | .deadlineFired => s.deadlineFired
  | .retryFired => s.retryFired
  | .lateRetryFired index => s.lateRetryFired index
  | .clock reading => s.clock policy reading
  | .scheduled threw => s.scheduled policy threw
  | .cancelled threw => s.cancelled threw
  | .invoked capability => s.invoked capability
  | .reviewed answer => s.reviewed answer
  | .advance => s.advance

end Policy

/-- A run with a reviewed request. -/
def begin (aborted : Bool) : Run where
  point := if aborted then .returning (.ok (runResult .aborted ⟨0, 0, 0⟩)) else .starting
  signalAborted := aborted

def isSettled (s : Run) : Bool :=
  match s.point with
  | .settled _ => true
  | _ => false

end Run

/-- The lifecycle and every run it was ever called for, in the order of the calls. -/
structure Lifecycle where
  running : Bool := false
  runs : List Run := []

inductive LifecycleEvent where
  | call (request : Value) (aborted : Bool)
  | run (index : Nat) (event : Event)

namespace Lifecycle

section Calls

variable (isAbortSignal : Value → Bool) (policy : ReviewedPolicy)

/-- A call of `run`, with a signal that is aborted or not. -/
def call (l : Lifecycle) (request : Value) (aborted : Bool) : Except ErrorCode Lifecycle :=
  match reviewedRunRequest isAbortSignal request with
  | none => .error .invalidRequest
  | some _ =>
    if l.running then .error .alreadyRunning
    else .ok { running := true, runs := l.runs ++ [.begin aborted] }

/-- A run that settles lets the next one in. -/
def runStep (l : Lifecycle) (index : Nat) (event : Event) : Option Lifecycle :=
  match l.runs[index]? with
  | none => none
  | some s => (s.step policy event).map fun s' =>
    { running := l.running && !(s'.isSettled && !s.isSettled), runs := l.runs.set index s' }

def step (l : Lifecycle) : LifecycleEvent → Option Lifecycle
  | .call request aborted => some ((l.call isAbortSignal request aborted).toOption.getD l)
  | .run index event => l.runStep policy index event

end Calls

end Lifecycle

end CryptoLending.MainnetPlatforms.ReconciliationLifecycle
