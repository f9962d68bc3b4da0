import CryptoLending.Lib.JsMap
import CryptoLending.Lib.Machine
import CryptoLending.SmartLending.UpstreamReadPolicy

namespace CryptoLending.SmartLending.UpstreamReadAdmission

open Lib Lib.JsObject Lib.Identifier UpstreamReadPolicy

/-- What `parseAccountId` accepts. -/
abbrev AccountId := Checked isUuidV4

/-- An error of the admission itself; an upstream that failed has an outcome. -/
inductive ErrorCode where
  | upstreamReadDisabled
  | invalidAdmissionRequest
  | concurrencyRejected
  | rateRejected
  | circuitOpen
  | callerAborted
  | admissionClockInvalid
  deriving DecidableEq

section Budgets

structure RateEntry where
  startedAt : Int
  workloadUnits : Nat
  deriving DecidableEq

structure BudgetState where
  inFlightRequests : Int
  inFlightWorkloadUnits : Int
  rateEntries : List RateEntry
  retainedWorkloadUnits : Int
  deriving DecidableEq

def budgetState : BudgetState := ⟨0, 0, [], 0⟩

def unitsOf (entries : List RateEntry) : Nat := (entries.map RateEntry.workloadUnits).sum

def purgeRateWindow (state : BudgetState) (policy : BudgetPolicy) (now : Int) : BudgetState :=
  let cutoff := now - policy.rateWindowMilliseconds
  let expired := state.rateEntries.takeWhile fun entry => entry.startedAt ≤ cutoff
  { state with
    rateEntries := state.rateEntries.dropWhile fun entry => entry.startedAt ≤ cutoff
    retainedWorkloadUnits := state.retainedWorkloadUnits - unitsOf expired }

inductive BudgetResult where
  | allowed
  | concurrency
  | rate
  deriving DecidableEq

def budgetAllows (state : BudgetState) (policy : BudgetPolicy) (workloadUnits : Nat) :
    BudgetResult :=
  if state.inFlightRequests ≥ policy.maximumConcurrentRequests ∨
      state.inFlightWorkloadUnits > policy.maximumInFlightWorkloadUnits - (workloadUnits : Int) then
    .concurrency
  else if state.rateEntries.length ≥ policy.maximumStartsPerWindow ∨
      state.retainedWorkloadUnits > policy.maximumWorkloadUnitsPerWindow - (workloadUnits : Int) then
    .rate
  else .allowed

def reserveBudget (state : BudgetState) (workloadUnits : Nat) (now : Int) : BudgetState where
  inFlightRequests := state.inFlightRequests + 1
  inFlightWorkloadUnits := state.inFlightWorkloadUnits + workloadUnits
  rateEntries := state.rateEntries ++ [⟨now, workloadUnits⟩]
  retainedWorkloadUnits := state.retainedWorkloadUnits + workloadUnits

/-- The budget without a reservation, and whether that is a valid state. -/
def releaseBudget (state : BudgetState) (workloadUnits : Nat) : BudgetState × Bool :=
  let released := { state with
    inFlightRequests := state.inFlightRequests - 1
    inFlightWorkloadUnits := state.inFlightWorkloadUnits - workloadUnits }
  (released, decide (0 ≤ released.inFlightRequests ∧ 0 ≤ released.inFlightWorkloadUnits))

end Budgets

section Circuits

inductive Phase where
  | closed
  | opened
  | halfOpen
  deriving DecidableEq

structure CircuitState where
  phase : Phase
  consecutiveFailures : Nat
  generation : Nat
  openUntil : Int
  halfOpenProbeInFlight : Bool
  deriving DecidableEq

def circuitState : CircuitState := ⟨.closed, 0, 0, 0, false⟩

/-- A permit of a half-open circuit, or else of a closed one. -/
structure CircuitPermit where
  generation : Nat
  halfOpen : Bool
  deriving DecidableEq

def reserveProbe (circuit : CircuitState) : Option (CircuitPermit × CircuitState) :=
  if circuit.halfOpenProbeInFlight then none
  else some (⟨circuit.generation, true⟩, { circuit with halfOpenProbeInFlight := true })

def reserveCircuit (circuit : CircuitState) (now : Int) : Option (CircuitPermit × CircuitState) :=
  match circuit.phase with
  | .opened =>
    if now < circuit.openUntil then none
    else reserveProbe { circuit with phase := .halfOpen, halfOpenProbeInFlight := false }
  | .halfOpen => reserveProbe circuit
  | .closed => some (⟨circuit.generation, false⟩, circuit)

def releaseNeutralCircuitPermit (circuit : CircuitState) (permit : CircuitPermit) : CircuitState :=
  if permit.halfOpen = true ∧ circuit.phase = .halfOpen ∧ circuit.generation = permit.generation then
    { circuit with halfOpenProbeInFlight := false }
  else circuit

def recordCircuitSuccess (circuit : CircuitState) (permit : CircuitPermit) : CircuitState :=
  if circuit.generation ≠ permit.generation then circuit
  else if permit.halfOpen then
    if circuit.phase ≠ .halfOpen then circuit
    else {
      phase := .closed
      consecutiveFailures := 0
      generation := circuit.generation + 1
      openUntil := 0
      halfOpenProbeInFlight := false }
  else if circuit.phase = .closed then { circuit with consecutiveFailures := 0 }
  else circuit

/-- Until when a circuit that opens stays open. -/
def openDeadline (policy : DestinationPolicy) (now : Int) : Int :=
  if now > maxSafeInteger - policy.circuitOpenMilliseconds then maxSafeInteger
  else now + policy.circuitOpenMilliseconds

def openCircuit (circuit : CircuitState) (policy : DestinationPolicy) (now : Int) :
    CircuitState where
  phase := .opened
  consecutiveFailures := policy.circuitFailureThreshold
  generation := circuit.generation + 1
  openUntil := openDeadline policy now
  halfOpenProbeInFlight := false

def recordCircuitFailure (circuit : CircuitState) (permit : CircuitPermit)
    (policy : DestinationPolicy) (now : Int) : CircuitState :=
  if circuit.generation ≠ permit.generation then circuit
  else if permit.halfOpen then
    if circuit.phase ≠ .halfOpen then circuit else openCircuit circuit policy now
  else if circuit.phase ≠ .closed then circuit
  else
    let failed := { circuit with consecutiveFailures := circuit.consecutiveFailures + 1 }
    if failed.consecutiveFailures ≥ policy.circuitFailureThreshold then
      openCircuit failed policy now
    else failed

end Circuits

section Requests

/-- The signal of a caller when its request is read: none, or whether it is aborted. -/
inductive CallerSignal where
  | absent
  | given (reference : Reference)
  deriving DecidableEq

structure SharedRequest where
  destination : Destination
  workloadUnits : Nat
  signal : CallerSignal

structure AccountRequest where
  destination : Destination
  accountId : AccountId
  workloadUnits : Nat
  signal : CallerSignal

def sharedMarketReadKey : Destination → Option String
  | .aaveV3EthereumMarket => some "aave-v3-ethereum-core-market-v1"
  | .defiLlamaYields => some "defillama-ethereum-solana-market-universe-v1"
  | .lifiQuote => none

def parseSignal (value : Datum) : Option CallerSignal :=
  match value with
  | .undefined => some .absent
  | .signal reference => some (.given reference)
  | _ => none

def parseWorkloadUnits (value : Datum) : Option Nat := safeInteger value 1 maxRequestWorkloadUnits

def parseSharedRequest (value : Datum) : Option SharedRequest := do
  let record ← exactDataRecord value ["destination", "readKey", "workloadUnits"] ["signal"]
  let destination ← allDestinations.find? fun destination =>
    (sharedMarketReadKey destination).isSome &&
      (record.get "destination").isText destination.text
  let readKey ← sharedMarketReadKey destination
  guard ((record.get "readKey").isText readKey)
  let workloadUnits ← parseWorkloadUnits (record.get "workloadUnits")
  let signal ← parseSignal (record.get "signal")
  return ⟨destination, workloadUnits, signal⟩

def parseAccountRequest (value : Datum) : Option AccountRequest := do
  let record ← exactDataRecord value ["destination", "accountId", "workloadUnits"] ["signal"]
  guard ((record.get "destination").isText Destination.lifiQuote.text)
  let accountId ← readChecked isUuidV4 (record.get "accountId")
  let workloadUnits ← parseWorkloadUnits (record.get "workloadUnits")
  let signal ← parseSignal (record.get "signal")
  return ⟨.lifiQuote, accountId, workloadUnits, signal⟩

end Requests

section States

inductive CircuitDisposition where
  | pending
  | recorded
  | neutral
  deriving DecidableEq

structure Reservation where
  destination : Destination
  workloadUnits : Nat
  accountId : Option AccountId
  circuitPermit : CircuitPermit
  circuitDisposition : CircuitDisposition
  physicalReleased : Bool
  deriving DecidableEq

inductive UpstreamOutcome where
  | ok
  | upstreamTimeout
  | upstreamFailed
  | callerAborted
  | admissionClockInvalid
  deriving DecidableEq

/-- The execution of a read: its reservation, the lifecycle of its operation, and the outcome that
its promise was resolved with. `turned` tells whether the turn in which the operation may start
has come, `callerListening` whether the signal of the caller is listened to. -/
structure LeaderExecution where
  reservation : Reservation
  callerListening : Bool
  turned : Bool
  logicalSettled : Bool
  operationStarted : Bool
  physicallyComplete : Bool
  outcome : Option UpstreamOutcome
  deriving DecidableEq

/-- The admission with all executions it ever started. -/
structure State where
  globalState : BudgetState
  destinationBudgets : Destination → BudgetState
  circuits : Destination → CircuitState
  accountStates : JsMap AccountId BudgetState
  sharedFlights : JsMap Destination Nat
  lastObservedTime : Int
  clockHealthy : Bool
  leaders : List LeaderExecution

def initialState : State where
  globalState := budgetState
  destinationBudgets := fun _ => budgetState
  circuits := fun _ => circuitState
  accountStates := .empty
  sharedFlights := .empty
  lastObservedTime := -1
  clockHealthy := true
  leaders := []

/-- What a clock returned, or nothing when it threw. A reading is a value: it is assumed that a clock
does not call the admission while it is read. -/
abbrev Reading := Option Datum

def State.now (s : State) (reading : Reading) : Option Int × State :=
  match reading with
  | some (.number value) =>
    if -maxSafeInteger ≤ value ∧ value ≤ maxSafeInteger ∧ 0 ≤ value ∧ s.lastObservedTime ≤ value then
      (some value, { s with lastObservedTime := value })
    else (none, { s with clockHealthy := false })
  | _ => (none, { s with clockHealthy := false })

end States

section Reserving

variable (policy : AdmissionPolicy)

def pruneAccountStates (accounts : JsMap AccountId BudgetState) (now : Int) :
    JsMap AccountId BudgetState :=
  let policy := policy.accountScopedLifi
  if policy.maximumTrackedAccounts = 0 ∨ accounts.size = 0 then accounts
  else
    let purged := accounts.mapValues fun state => purgeRateWindow state policy.toBudgetPolicy now
    let removable := purged.entries.filter fun entry =>
      decide (entry.2.inFlightRequests = 0 ∧ entry.2.rateEntries = [])
    (removable.map Prod.fst).foldl JsMap.delete purged

/-- The budgets after all that a request at a time may count no more was dropped. -/
def State.purge (s : State) (destination : Destination) (accountId : Option AccountId) (now : Int) :
    State :=
  let accounts := pruneAccountStates policy s.accountStates now
  { s with
    globalState := purgeRateWindow s.globalState policy.global now
    destinationBudgets := Function.update s.destinationBudgets destination
      (purgeRateWindow (s.destinationBudgets destination)
        (policy.destinations destination).toBudgetPolicy now)
    accountStates := match accountId with
      | none => accounts
      | some id =>
        match accounts.get id with
        | none => accounts
        | some state =>
          accounts.set id (purgeRateWindow state policy.accountScopedLifi.toBudgetPolicy now) }

/-- Why the budgets do not admit a request. -/
def State.budgetRefusal (s : State) (destination : Destination) (workloadUnits : Nat)
    (accountId : Option AccountId) : Option ErrorCode :=
  let untracked := match accountId with
    | none => false
    | some id => (s.accountStates.get id).isNone &&
        decide (s.accountStates.size ≥ policy.accountScopedLifi.maximumTrackedAccounts)
  let accountResults := match accountId with
    | none => []
    | some id => [budgetAllows ((s.accountStates.get id).getD budgetState)
        policy.accountScopedLifi.toBudgetPolicy workloadUnits]
  let budgetResults := [budgetAllows s.globalState policy.global workloadUnits,
    budgetAllows (s.destinationBudgets destination) (policy.destinations destination).toBudgetPolicy
      workloadUnits] ++ accountResults
  if untracked then some .rateRejected
  else if .concurrency ∈ budgetResults then some .concurrencyRejected
  else if .rate ∈ budgetResults then some .rateRejected
  else none

/-- The state with the budgets of a new reservation. -/
def State.book (s : State) (destination : Destination) (workloadUnits : Nat)
    (accountId : Option AccountId) (circuit : CircuitState) (now : Int) : State :=
  { s with
    globalState := reserveBudget s.globalState workloadUnits now
    destinationBudgets := Function.update s.destinationBudgets destination
      (reserveBudget (s.destinationBudgets destination) workloadUnits now)
    circuits := Function.update s.circuits destination circuit
    accountStates := match accountId with
      | none => s.accountStates
      | some id => s.accountStates.set id
          (reserveBudget ((s.accountStates.get id).getD budgetState) workloadUnits now) }

def reserve (s : State) (destination : Destination) (workloadUnits : Nat)
    (accountId : Option AccountId) (reading : Reading) : Except ErrorCode (Int × Reservation) × State :=
  match s.now reading with
  | (none, s) => (.error .admissionClockInvalid, s)
  | (some now, s) =>
    let s := s.purge policy destination accountId now
    match s.budgetRefusal policy destination workloadUnits accountId with
    | some code => (.error code, s)
    | none =>
      match reserveCircuit (s.circuits destination) now with
      | none => (.error .circuitOpen, s)
      | some (circuitPermit, circuit) =>
        (.ok (now, {
            destination, workloadUnits, accountId, circuitPermit
            circuitDisposition := .pending
            physicalReleased := false }),
          s.book destination workloadUnits accountId circuit now)

end Reserving

section Finishing

variable (policy : AdmissionPolicy)

def State.setLeader (s : State) (i : Nat) (leader : LeaderExecution) : State :=
  { s with leaders := s.leaders.set i leader }

def State.setCircuit (s : State) (destination : Destination) (circuit : CircuitState) : State :=
  { s with circuits := Function.update s.circuits destination circuit }

/-- What an outcome makes of the disposition of a reservation; nothing when that throws. -/
def recordLogicalOutcome (s : State) (reservation : Reservation) (candidate : UpstreamOutcome)
    (reading : Reading) : Option CircuitDisposition × State :=
  if reservation.circuitDisposition ≠ .pending then (none, s)
  else if candidate = .callerAborted then (some .neutral, s)
  else
    match s.now reading with
    | (none, s) => (none, s)
    | (some now, s) =>
      let circuit := s.circuits reservation.destination
      let recorded := if candidate = .ok then recordCircuitSuccess circuit reservation.circuitPermit
        else recordCircuitFailure circuit reservation.circuitPermit
          (policy.destinations reservation.destination) now
      (some .recorded, s.setCircuit reservation.destination recorded)

def finishLogical (s : State) (i : Nat) (leader : LeaderExecution) (candidate : UpstreamOutcome)
    (reading : Reading) : State :=
  if leader.logicalSettled then s
  else
    let settled := { leader with logicalSettled := true, callerListening := false }
    match recordLogicalOutcome policy s leader.reservation candidate reading with
    | (some disposition, s) =>
      s.setLeader i { settled with
        reservation := { leader.reservation with circuitDisposition := disposition }
        outcome := some candidate }
    | (none, s) =>
      { s with clockHealthy := false }.setLeader i { settled with
        reservation := { leader.reservation with circuitDisposition := .neutral }
        outcome := some .admissionClockInvalid }

/-- The budgets without a reservation, and whether no step of that throws. -/
def releaseBudgets (s : State) (reservation : Reservation) : State × Bool :=
  let globalRelease := releaseBudget s.globalState reservation.workloadUnits
  let s := { s with globalState := globalRelease.1 }
  if globalRelease.2 = false then (s, false)
  else
    let destination := reservation.destination
    let destinationRelease :=
      releaseBudget (s.destinationBudgets destination) reservation.workloadUnits
    let s := { s with
      destinationBudgets := Function.update s.destinationBudgets destination destinationRelease.1 }
    if destinationRelease.2 = false then (s, false)
    else
      match reservation.accountId with
      | none => (s, true)
      | some id =>
        match s.accountStates.get id with
        | none => (s, false)
        | some state =>
          let accountRelease := releaseBudget state reservation.workloadUnits
          ({ s with accountStates := s.accountStates.set id accountRelease.1 }, accountRelease.2)

def releasePhysicalReservation (s : State) (reservation : Reservation) : State × Bool :=
  if reservation.physicalReleased then (s, false)
  else
    match releaseBudgets s reservation with
    | (s, false) => (s, false)
    | (s, true) =>
      if reservation.circuitDisposition = .neutral then
        (s.setCircuit reservation.destination
          (releaseNeutralCircuitPermit (s.circuits reservation.destination)
            reservation.circuitPermit), true)
      else (s, true)

def finishPhysical (s : State) (i : Nat) (leader : LeaderExecution) : State :=
  if leader.physicallyComplete then s
  else
    let completed := { leader with
      physicallyComplete := true
      reservation := { leader.reservation with physicalReleased := true } }
    match releasePhysicalReservation s leader.reservation with
    | (s, true) => s.setLeader i completed
    | (s, false) => { s with clockHealthy := false }.setLeader i completed

end Finishing

section Calls

variable (policy : AdmissionPolicy)

/-- What happens to the admission: a read with what its caller gives and the clock shows, the turn
in which the operation of a leader may start, its end, its timeout, the abort of its caller, and
the turn after its end. The readings are those that the step takes if it takes any. -/
inductive Call where
  | readSharedMarket (request : Datum) (isFunction aborted : Bool) (reading : Reading)
  | readAccountScoped (request : Datum) (isFunction aborted abortedMeanwhile : Bool)
      (reading : Reading)
  | turn (leader : Nat)
  | operationSettled (leader : Nat) (ok : Bool) (reading : Reading)
  | timeout (leader : Nat) (reading : Reading)
  | callerAborted (leader : Nat)
  | physicalCompletion (leader : Nat)

/-- A read that was admitted. -/
structure Start where
  destination : Destination
  accountId : Option AccountId
  workloadUnits : Nat
  startedAt : Int
  deriving DecidableEq

inductive Outcome where
  | refused (code : ErrorCode)
  | joined (leader : Nat)
  | admitted (leader : Nat) (start : Start)
  | done
  deriving DecidableEq

def newLeader (reservation : Reservation) (callerListening : Bool) : LeaderExecution where
  reservation := reservation
  callerListening := callerListening
  turned := false
  logicalSettled := false
  operationStarted := false
  physicallyComplete := false
  outcome := none

def State.startLeader (s : State) (reservation : Reservation) (callerListening : Bool) : State :=
  { s with leaders := s.leaders ++ [newLeader reservation callerListening] }

def State.assertEnabled (s : State) (destination : Destination) : Option ErrorCode :=
  if policy.mode ≠ .enabled ∨ (policy.destinations destination).maximumConcurrentRequests = 0 then
    some .upstreamReadDisabled
  else if s.clockHealthy = false then some .admissionClockInvalid
  else none

def startOf (now : Int) (reservation : Reservation) : Start where
  destination := reservation.destination
  accountId := reservation.accountId
  workloadUnits := reservation.workloadUnits
  startedAt := now

/-- The leader that a read of a shared market joins. -/
def State.currentFlight (s : State) (destination : Destination) : Option Nat := do
  let i ← s.sharedFlights.get destination
  let leader ← s.leaders[i]?
  if leader.physicallyComplete then none else some i

def readSharedMarket (s : State) (request : Datum) (isFunction aborted : Bool) (reading : Reading) :
    Outcome × State :=
  match parseSharedRequest request with
  | none => (.refused .invalidAdmissionRequest, s)
  | some request =>
    if isFunction = false then (.refused .invalidAdmissionRequest, s)
    else if request.signal ≠ .absent ∧ aborted = true then (.refused .callerAborted, s)
    else
      match s.assertEnabled policy request.destination with
      | some code => (.refused code, s)
      | none =>
        match s.currentFlight request.destination with
        | some i => (.joined i, s)
        | none =>
          let s := { s with sharedFlights := s.sharedFlights.delete request.destination }
          match reserve policy s request.destination request.workloadUnits none reading with
          | (.error code, s) => (.refused code, s)
          | (.ok (now, reservation), s) =>
            let i := s.leaders.length
            (.admitted i (startOf now reservation),
              { s.startLeader reservation false with
                sharedFlights := s.sharedFlights.set request.destination i })

/-- The abort of the caller of a leader. -/
def abortCaller (s : State) (i : Nat) (leader : LeaderExecution) : State :=
  let s := finishLogical policy s i leader .callerAborted none
  match s.leaders[i]? with
  | none => s
  | some leader => if leader.operationStarted then s else finishPhysical s i leader

def readAccountScoped (s : State) (request : Datum) (isFunction aborted abortedMeanwhile : Bool)
    (reading : Reading) : Outcome × State :=
  match parseAccountRequest request with
  | none => (.refused .invalidAdmissionRequest, s)
  | some request =>
    if isFunction = false then (.refused .invalidAdmissionRequest, s)
    else if request.signal ≠ .absent ∧ aborted = true then (.refused .callerAborted, s)
    else
      match s.assertEnabled policy request.destination with
      | some code => (.refused code, s)
      | none =>
        match reserve policy s request.destination request.workloadUnits (some request.accountId)
            reading with
        | (.error code, s) => (.refused code, s)
        | (.ok (now, reservation), s) =>
          let i := s.leaders.length
          let listening := decide (request.signal ≠ .absent)
          let started := s.startLeader reservation listening
          -- The clock may have aborted the signal.
          (.admitted i (startOf now reservation),
            if listening && abortedMeanwhile then
              abortCaller policy started i (newLeader reservation listening)
            else started)

def turn (s : State) (i : Nat) (leader : LeaderExecution) : State :=
  if leader.turned then s
  else if leader.logicalSettled || leader.physicallyComplete then
    s.setLeader i { leader with turned := true }
  else s.setLeader i { leader with turned := true, operationStarted := true }

def operationSettled (s : State) (i : Nat) (leader : LeaderExecution) (ok : Bool)
    (reading : Reading) : State :=
  if leader.operationStarted && !leader.physicallyComplete then
    let s := finishLogical policy s i leader (if ok then .ok else .upstreamFailed) reading
    match s.leaders[i]? with
    | none => s
    | some leader => finishPhysical s i leader
  else s

/-- A timer fires after the turn that was queued before it, unless it was cleared. -/
def timeout (s : State) (i : Nat) (leader : LeaderExecution) (reading : Reading) : State :=
  if leader.turned && !leader.logicalSettled then
    finishLogical policy s i leader .upstreamTimeout reading
  else s

def callerAborted (s : State) (i : Nat) (leader : LeaderExecution) : State :=
  if leader.callerListening then abortCaller policy s i leader else s

def physicalCompletion (s : State) (i : Nat) (leader : LeaderExecution) : State :=
  if leader.physicallyComplete ∧
      s.sharedFlights.get leader.reservation.destination = some i then
    { s with sharedFlights := s.sharedFlights.delete leader.reservation.destination }
  else s

/-- What happens to a leader, if there is such a leader. -/
def onLeader (s : State) (i : Nat) (f : LeaderExecution → State) : Outcome × State :=
  (.done, (s.leaders[i]?).elim s f)

def step (s : State) : Call → Outcome × State
  | .readSharedMarket request isFunction aborted reading =>
    readSharedMarket policy s request isFunction aborted reading
  | .readAccountScoped request isFunction aborted abortedMeanwhile reading =>
    readAccountScoped policy s request isFunction aborted abortedMeanwhile reading
  | .turn i => onLeader s i (turn s i)
  | .operationSettled i ok reading => onLeader s i fun leader =>
      operationSettled policy s i leader ok reading
  | .timeout i reading => onLeader s i fun leader => timeout policy s i leader reading
  | .callerAborted i => onLeader s i (callerAborted policy s i)
  | .physicalCompletion i => onLeader s i (physicalCompletion s i)

/-- The admission with a policy. -/
def machine : Machine Call Outcome State := ⟨initialState, step policy⟩

end Calls

end CryptoLending.SmartLending.UpstreamReadAdmission
