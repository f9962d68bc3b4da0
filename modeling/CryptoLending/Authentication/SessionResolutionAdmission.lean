import CryptoLending.Lib.JsMap
import CryptoLending.Lib.JsNumber
import CryptoLending.Lib.JsValue
import CryptoLending.Lib.Machine

namespace CryptoLending.Authentication.SessionResolutionAdmission

open Lib Lib.Double Lib.JsValue

/-- The limits that the constructor accepts. -/
structure SessionResolutionAdmissionLimits where
  maxConcurrentResolutions : Nat
  maxTrackedSources : Nat
  sourceRequestLimit : Nat
  sourceWindowMilliseconds : Nat
  concurrency : 1 ≤ maxConcurrentResolutions ∧ maxConcurrentResolutions ≤ 99
  trackedSources : 1 ≤ maxTrackedSources ∧ maxTrackedSources ≤ 65536
  requestLimit : 1 ≤ sourceRequestLimit ∧ sourceRequestLimit ≤ 100000
  sourceWindow : 1000 ≤ sourceWindowMilliseconds ∧ sourceWindowMilliseconds ≤ 3600000

/-- The limits for a database pool; only a pool of 2 to 100 connections has some. -/
def defaultLimits (databasePoolCapacity : Nat)
    (h : 2 ≤ databasePoolCapacity ∧ databasePoolCapacity ≤ 100) :
    SessionResolutionAdmissionLimits where
  maxConcurrentResolutions := min 8 (databasePoolCapacity - 1)
  maxTrackedSources := 4096
  sourceRequestLimit := 300
  sourceWindowMilliseconds := 60000
  concurrency := by omega
  trackedSources := by omega
  requestLimit := by omega
  sourceWindow := by omega

structure SourceWindow where
  requestCount : Nat
  windowStartedAt : Magnitude
  deriving DecidableEq

abbrev SourceWindows := JsMap String SourceWindow

/-- The admission with the leases it handed out, each with whether it was released. -/
structure State where
  activeResolutions : Nat
  sourceWindows : SourceWindows
  leases : List Bool

inductive Failure where
  | invalidSourceAddress
  | clockUnavailable
  deriving DecidableEq

inductive Decision where
  | admitted (lease : Nat)
  | refused (retryAfterSeconds : Nat)
  deriving DecidableEq

def Decision.isAdmitted : Decision → Bool
  | .admitted _ => true
  | .refused _ => false

/-- What a source was told about its own limit. -/
inductive Verdict where
  | charged
  | limited (retryAfterSeconds : Nat)
  | early
  deriving DecidableEq

/-- The verdict on a request, and whether a window was opened for it. -/
structure Charge where
  opened : Bool
  verdict : Verdict
  deriving DecidableEq

section Sources

variable (limits : SessionResolutionAdmissionLimits)

def evictOldestSourceIfFull (windows : SourceWindows) : SourceWindows :=
  if windows.size < limits.maxTrackedSources then windows
  else (windows.firstKey.map windows.delete).getD windows

/-- One millisecond, in units of the least positive double. -/
def millisecond : Nat := 2 ^ unitExponent

/-- The double that the subtraction of an earlier reading gives. -/
def elapsed (start now : Magnitude) : Nat := roundUnits (now.units - start.units) 1

def windowUnits : Nat := limits.sourceWindowMilliseconds * millisecond

/-- `Math.ceil` of a double. -/
def ceil (units : Nat) : Nat := (units + (millisecond - 1)) / millisecond

def retryAfterSeconds (now : Magnitude) (window : SourceWindow) : Nat :=
  let remainingMilliseconds := max millisecond
    (roundUnits (windowUnits limits - elapsed window.windowStartedAt now) 1)
  max 1 (ceil (roundUnits remainingMilliseconds 1000))

/-- Store a window and charge a request to it. -/
def chargeWindow (windows : SourceWindows) (sourceAddress : String) (now : Magnitude)
    (window : SourceWindow) (opened : Bool) : Charge × SourceWindows :=
  if window.requestCount ≥ limits.sourceRequestLimit then
    (⟨opened, .limited (retryAfterSeconds limits now window)⟩, windows.set sourceAddress window)
  else
    (⟨opened, .charged⟩,
      windows.set sourceAddress ⟨window.requestCount + 1, window.windowStartedAt⟩)

def chargeSource (windows : SourceWindows) (sourceAddress : String) (now : Magnitude) :
    Charge × SourceWindows :=
  match windows.get sourceAddress with
  | none =>
    chargeWindow limits (evictOldestSourceIfFull limits windows) sourceAddress now ⟨0, now⟩ true
  | some window =>
    let rest := windows.delete sourceAddress
    if now.units < window.windowStartedAt.units then
      (⟨false, .early⟩, rest.set sourceAddress window)
    else if elapsed window.windowStartedAt now ≥ windowUnits limits then
      chargeWindow limits rest sourceAddress now ⟨0, now⟩ true
    else chargeWindow limits rest sourceAddress now window false

end Sources

/-- A call; a clock that throws has no reading. -/
inductive Call where
  | tryAcquire (sourceAddress : Value) (reading : Option JsNumber)
  | release (lease : Nat)

inductive Outcome where
  | failed (failure : Failure)
  | decided (sourceAddress : String) (now : Magnitude) (charge : Charge) (decision : Decision)
  | released
  deriving DecidableEq

section Calls

variable (isIP : String → Nat) (limits : SessionResolutionAdmissionLimits)

/-- A finite reading that is not less than zero. A negative zero is none, and counts as zero. -/
def readClock (reading : Option JsNumber) : Option Magnitude :=
  match reading with
  | some (.finite negative magnitude) =>
    if negative = true ∧ magnitude.units ≠ 0 then none else some magnitude
  | _ => none

def acquire (s : State) (sourceAddress : String) (now : Magnitude) : Outcome × State :=
  let (charge, windows) := chargeSource limits s.sourceWindows sourceAddress now
  let charged : State := { s with sourceWindows := windows }
  match charge.verdict with
  | .limited seconds => (.decided sourceAddress now charge (.refused seconds), charged)
  | .early => (.decided sourceAddress now charge (.refused 1), charged)
  | .charged =>
    if s.activeResolutions ≥ limits.maxConcurrentResolutions then
      (.decided sourceAddress now charge (.refused 1), charged)
    else
      (.decided sourceAddress now charge (.admitted s.leases.length),
        { charged with
          activeResolutions := s.activeResolutions + 1
          leases := s.leases ++ [false] })

def isSourceAddress (v : Value) : Option String :=
  v.string?.filter (fun s => !(decide (JsString.utf16Length s > 64) || isIP s == 0))

def tryAcquire (s : State) (sourceAddress : Value) (reading : Option JsNumber) : Outcome × State :=
  match isSourceAddress isIP sourceAddress with
  | none => (.failed .invalidSourceAddress, s)
  | some address =>
    match readClock reading with
    | none => (.failed .clockUnavailable, s)
    | some now => acquire limits s address now

def release (s : State) (lease : Nat) : State :=
  if s.leases[lease]? = some false then
    { s with
      activeResolutions := s.activeResolutions - 1
      leases := s.leases.set lease true }
  else s

def step (s : State) : Call → Outcome × State
  | .tryAcquire sourceAddress reading => tryAcquire isIP limits s sourceAddress reading
  | .release lease => (.released, release s lease)

/-- The admission under arbitrary calls. -/
def admission : Machine Call Outcome State where
  initial := ⟨0, .empty, []⟩
  step := step isIP limits

end Calls

end CryptoLending.Authentication.SessionResolutionAdmission
