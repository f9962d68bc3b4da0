import CryptoLending.Lib.ListOption
import CryptoLending.Lib.Machine
import CryptoLending.Outbox.JobOutbox

namespace CryptoLending.Outbox.OutboxDispatcher

open Lib JobOutbox

structure OutboxDispatchSummary where
  claimed : Nat
  published : Nat
  retried : Nat
  failed : Nat
  leaseLost : Nat
  deriving DecidableEq

/-- The jobs that the summary accounts for. -/
def OutboxDispatchSummary.total (summary : OutboxDispatchSummary) : Nat :=
  summary.published + summary.retried + summary.failed + summary.leaseLost

/-- The transport of a dispatcher. A maximum that is no safe integer counts as absent. -/
structure OutboxTransport where
  hasPublishBatch : Bool
  maxBatchSize : Option Nat

/-- What a job of a batch waits for: the transport, or a statement on its row. -/
inductive JobTask (μ : Type) where
  | publishing (job : ClaimedOutboxJob μ)
  | marking (job : ClaimedOutboxJob μ)
  | recording (job : ClaimedOutboxJob μ) (errorCode : OutboxFailureCode)

/-- A batch in the hands of a worker: sent as a whole, or settled job by job. -/
inductive BatchTask (μ : Type) where
  | sending (jobs : List (ClaimedOutboxJob μ))
  | settling (tasks : List (JobTask μ))

def JobTask.job {μ : Type} : JobTask μ → ClaimedOutboxJob μ
  | .publishing job | .marking job | .recording job _ => job

/-- The job of a task that waits for `markPublished`. -/
def JobTask.marked {μ : Type} : JobTask μ → Option (ClaimedOutboxJob μ)
  | .marking job => some job
  | _ => none

/-- The jobs that a running batch has not accounted for. -/
def BatchTask.jobs {μ : Type} : BatchTask μ → List (ClaimedOutboxJob μ)
  | .sending jobs => jobs
  | .settling tasks => tasks.map JobTask.job

def BatchTask.marked {μ : Type} : BatchTask μ → List (ClaimedOutboxJob μ)
  | .sending _ => []
  | .settling tasks => tasks.filterMap JobTask.marked

/-- A call of `dispatchBatch` after its claim. `idle` counts the workers without a batch.
Tasks of a rejected call go on, those of a crashed call do not. -/
structure DispatchCall (μ : Type) where
  aborted : Bool
  crashed : Bool
  rejected : Bool
  jobs : List (ClaimedOutboxJob μ)
  batches : List (List (ClaimedOutboxJob μ))
  idle : Nat
  running : List (BatchTask μ)
  summary : OutboxDispatchSummary

/-- Results are index-aligned with the jobs of a batch; a result may be missing. -/
abbrev BatchResult := Option (Except OutboxFailureCode Unit)

/-- The outbox, its calls, and what has happened: deliveries that the transport confirmed,
failures that were recorded, and claims with their tokens. -/
structure OutboxState (γ μ : Type) where
  now : Nat
  rows : List (OutboxRow γ)
  calls : List (DispatchCall μ)
  delivered : List (String × μ)
  failures : List String
  claims : List (Nat × String)

variable {γ μ : Type} (options : OutboxDispatcherOptions) (transport : OutboxTransport)
  (readRow : γ → Option μ)

section Batches

def transportBatchSize : Nat :=
  if transport.hasPublishBatch && transport.maxBatchSize.any (fun size => size > 1) then
    transport.maxBatchSize.getD 1
  else 1

/-- The slices that the loop over the indexes takes, at most `left` of them. -/
def slicesFrom {α : Type} (size : Nat) : Nat → List α → List (List α)
  | _, [] => []
  | 0, _ => []
  | left + 1, jobs => jobs.take size :: slicesFrom size left (jobs.drop size)

def slices {α : Type} (size : Nat) (jobs : List α) : List (List α) :=
  slicesFrom size jobs.length jobs

def loseLeases (n : Nat) (summary : OutboxDispatchSummary) : OutboxDispatchSummary :=
  { summary with leaseLost := summary.leaseLost + n }

/-- What `recordTransportFailure` asks for. -/
def isTerminal (job : ClaimedOutboxJob μ) : Bool := job.attempts + 1 ≥ options.maxAttempts

def retryDelayMs (job : ClaimedOutboxJob μ) : Nat :=
  if isTerminal options job then 0
  else min (options.retryBaseDelayMs * 2 ^ job.attempts) options.retryMaxDelayMs

/-- The jobs of a batch before the transport is called. The signal is read once, at the
start of `dispatchMany`, since nothing runs between it and `dispatchOne`. -/
def dispatchMany (jobs : List (ClaimedOutboxJob μ)) : BatchTask μ :=
  if jobs.length = 1 ∨ transport.hasPublishBatch = false then .settling (jobs.map .publishing)
  else .sending jobs

/-- The tasks of a batch whose request failed as a whole. -/
def recordAll (errorCode : OutboxFailureCode) (jobs : List (ClaimedOutboxJob μ)) :
    List (JobTask μ) := jobs.map (.recording · errorCode)

/-- The task that a result leaves to do. -/
def settleResult (job : ClaimedOutboxJob μ) : BatchResult → JobTask μ
  | some (.ok ()) => .marking job
  | some (.error errorCode) => .recording job errorCode
  | none => .recording job .outboxTransportFailed

def isPublished (result : BatchResult) : Bool :=
  match result with
  | some (.ok ()) => true
  | _ => false

end Batches

section Calls

/-- A worker takes the batch at the cursor, or ends when there is none. -/
def takeBatch (call : DispatchCall μ) : DispatchCall μ :=
  match call.batches with
  | [] => { call with idle := call.idle - 1 }
  | jobs :: batches =>
    if call.aborted then
      { call with batches := batches, summary := loseLeases jobs.length call.summary }
    else
      { call with
        batches := batches
        idle := call.idle - 1
        running := call.running ++ [dispatchMany transport jobs] }

/-- A worker whose batch is settled looks at the cursor again. -/
def finishBatch (call : DispatchCall μ) (position : Nat) : DispatchCall μ :=
  { call with idle := call.idle + 1, running := call.running.eraseIdx position }

def setBatch (call : DispatchCall μ) (position : Nat) (task : BatchTask μ) : DispatchCall μ :=
  { call with running := call.running.set position task }

/-- `publishBatch` has failed, or returned results of another number. -/
def batchFailed (call : DispatchCall μ) (position : Nat) (jobs : List (ClaimedOutboxJob μ))
    (errorCode : OutboxFailureCode) : DispatchCall μ :=
  if call.aborted then
    { setBatch call position (.settling []) with
      summary := loseLeases jobs.length call.summary }
  else setBatch call position (.settling (recordAll errorCode jobs))

/-- After a shutdown only confirmed successes are recorded. -/
def batchReturned (call : DispatchCall μ) (position : Nat)
    (results : List (ClaimedOutboxJob μ × BatchResult)) : DispatchCall μ :=
  if call.aborted then
    let published := results.filter (fun p => isPublished p.2)
    { setBatch call position (.settling (published.map (fun p => .marking p.1))) with
      summary := loseLeases (results.length - published.length) call.summary }
  else setBatch call position (.settling (results.map (fun p => settleResult p.1 p.2)))

end Calls

section Steps

/-- How a statement ends for its caller. -/
inductive StatementOutcome where
  | answered
  | answerLost
  | notExecuted

/-- A step of the system. `call` is the number of a call, `batch` the position of a running
batch of it, and `task` the position of a task of that batch. -/
inductive OutboxStep (γ : Type) where
  | insert (id : String) (stored : γ)
  | wait (time : Nat)
  | dispatchBatch (aborted : Bool) (skipped : List String)
  | shutdown (call : Nat)
  | crash (call : Nat)
  | takeBatch (call : Nat)
  | publishBatch (call batch : Nat) (outcome : Except OutboxFailureCode (List BatchResult))
  | publish (call batch task : Nat) (outcome : Except OutboxFailureCode Unit)
  | settle (call batch task : Nat) (outcome : StatementOutcome)
  | finishBatch (call batch : Nat)

/-- The call that a step belongs to, when it is there already. -/
def OutboxStep.caller : OutboxStep γ → Option Nat
  | .insert _ _ | .wait _ | .dispatchBatch _ _ => none
  | .shutdown call | .crash call | .takeBatch call | .publishBatch call _ _
  | .publish call _ _ _ | .settle call _ _ _ | .finishBatch call _ => some call

variable (s : OutboxState γ μ)

/-- The identifier is the primary key. -/
def insertJob (id : String) (stored : γ) : OutboxState γ μ :=
  if s.rows.any (fun row => row.id = id) then s
  else { s with rows := s.rows ++ [newRow s.now id stored] }

/-- A call before its workers start. -/
def newCall (aborted rejected : Bool) (jobs : List (ClaimedOutboxJob μ)) : DispatchCall μ :=
  let batches := slices (transportBatchSize transport) jobs
  { aborted := aborted
    crashed := false
    rejected := rejected
    jobs := jobs
    batches := batches
    idle := min options.concurrency batches.length
    running := []
    summary := ⟨jobs.length, 0, 0, 0, 0⟩ }

def claimedJob (row : OutboxRow γ) : Option (ClaimedOutboxJob μ) :=
  (readRow row.stored).map (fun message => ⟨row.id, message, row.attempts⟩)

/-- A row that cannot be read ends the transaction of the claim, and with it the call. -/
def claimBatch (skipped : List String) : OutboxState γ μ :=
  let selected := candidates options s.now skipped s.rows
  match selected.mapM (claimedJob readRow) with
  | none => { s with calls := s.calls ++ [newCall options transport false true []] }
  | some jobs =>
    { s with
      rows := claimRows options s.now s.calls.length skipped s.rows
      calls := s.calls ++ [newCall options transport false false jobs]
      claims := s.claims ++ selected.map (fun row => (s.calls.length, row.id)) }

/-- A call that finds the signal aborted claims nothing. -/
def dispatchBatch (aborted : Bool) (skipped : List String) : OutboxState γ μ :=
  if aborted then { s with calls := s.calls ++ [newCall options transport true false []] }
  else claimBatch options transport readRow s skipped

/-- Change a call that has not crashed. -/
def withCall (index : Nat) (f : DispatchCall μ → OutboxState γ μ) : OutboxState γ μ :=
  match s.calls[index]? with
  | none => s
  | some call => if call.crashed then s else f call

def setCall (index : Nat) (call : DispatchCall μ) : OutboxState γ μ :=
  { s with calls := s.calls.set index call }

/-- The transport answers for a whole batch. -/
def answerBatch (index position : Nat) (outcome : Except OutboxFailureCode (List BatchResult))
    (call : DispatchCall μ) (jobs : List (ClaimedOutboxJob μ)) : OutboxState γ μ :=
  match outcome with
  | .error errorCode => setCall s index (batchFailed call position jobs errorCode)
  | .ok results =>
    if results.length ≠ jobs.length then
      setCall s index (batchFailed call position jobs .outboxTransportFailed)
    else
      let published := (jobs.zip results).filter (fun p => isPublished p.2)
      { setCall s index (batchReturned call position (jobs.zip results)) with
        delivered := s.delivered ++ published.map (fun p => (p.1.id, p.1.message)) }

/-- The transport answers for one job. -/
def answerJob (index position task : Nat) (outcome : Except OutboxFailureCode Unit)
    (call : DispatchCall μ) (tasks : List (JobTask μ)) (job : ClaimedOutboxJob μ) :
    OutboxState γ μ :=
  match outcome with
  | .ok () =>
    { setCall s index (setBatch call position (.settling (tasks.set task (.marking job)))) with
      delivered := s.delivered ++ [(job.id, job.message)] }
  | .error errorCode =>
    if call.aborted then
      setCall s index { setBatch call position (.settling (tasks.eraseIdx task)) with
        summary := loseLeases 1 call.summary }
    else
      setCall s index (setBatch call position (.settling (tasks.set task (.recording job errorCode))))

/-- The summary after `markPublished`. -/
def countMarked (marked : Bool) (summary : OutboxDispatchSummary) : OutboxDispatchSummary :=
  if marked then { summary with published := summary.published + 1 } else loseLeases 1 summary

/-- The summary after `recordFailure`. -/
def countTransition (transition : OutboxFailureTransition) (summary : OutboxDispatchSummary) :
    OutboxDispatchSummary :=
  match transition with
  | .retry => { summary with retried := summary.retried + 1 }
  | .failed => { summary with failed := summary.failed + 1 }
  | .leaseLost => loseLeases 1 summary

/-- The call after a task of a batch has ended. -/
def endTask (call : DispatchCall μ) (position task : Nat) (tasks : List (JobTask μ))
    (rejected : Bool) (summary : OutboxDispatchSummary) : DispatchCall μ :=
  { setBatch call position (.settling (tasks.eraseIdx task)) with
    rejected := call.rejected || rejected
    summary := summary }

/-- One statement on the row of a job, which ends its task. -/
def settleTask (index position task : Nat) (rejected : Bool) (call : DispatchCall μ)
    (tasks : List (JobTask μ)) : JobTask μ → OutboxState γ μ
  | .publishing _ => s
  | .marking job =>
    let (rows, marked) := markPublished s.now job.id index s.rows
    { setCall s index (endTask call position task tasks rejected
        (countMarked marked call.summary)) with
      rows := rows }
  | .recording job errorCode =>
    let (rows, transition) := recordFailure s.now job.id index errorCode (isTerminal options job)
      (retryDelayMs options job) s.rows
    { setCall s index (endTask call position task tasks rejected
        (countTransition transition call.summary)) with
      rows := rows
      failures := if transition = .leaseLost then s.failures else s.failures ++ [job.id] }

/-- A statement that fails rejects the call, whether the database has executed it or not. -/
def settle (index position task : Nat) (outcome : StatementOutcome) (call : DispatchCall μ)
    (tasks : List (JobTask μ)) (jobTask : JobTask μ) : OutboxState γ μ :=
  match outcome with
  | .answered => settleTask options s index position task false call tasks jobTask
  | .answerLost => settleTask options s index position task true call tasks jobTask
  | .notExecuted => setCall s index (endTask call position task tasks true call.summary)

/-- The tasks of a running batch. -/
def tasksOf (call : DispatchCall μ) (position : Nat) : Option (List (JobTask μ)) :=
  match call.running[position]? with
  | some (.settling tasks) => some tasks
  | _ => none

/-- The next state. A step that is not possible changes nothing. -/
def step : OutboxStep γ → OutboxState γ μ
  | .insert id stored => insertJob s id stored
  | .wait time => { s with now := max s.now time }
  | .dispatchBatch aborted skipped => dispatchBatch options transport readRow s aborted skipped
  | .shutdown index => withCall s index fun call => setCall s index { call with aborted := true }
  | .crash index => withCall s index fun call => setCall s index { call with crashed := true }
  | .takeBatch index => withCall s index fun call =>
    if call.idle = 0 then s else setCall s index (takeBatch transport call)
  | .publishBatch index position outcome => withCall s index fun call =>
    match call.running[position]? with
    | some (.sending jobs) => answerBatch s index position outcome call jobs
    | _ => s
  | .publish index position task outcome => withCall s index fun call =>
    match (tasksOf call position).bind (fun tasks => tasks[task]?.map (tasks, ·)) with
    | some (tasks, .publishing job) => answerJob s index position task outcome call tasks job
    | _ => s
  | .settle index position task outcome => withCall s index fun call =>
    match (tasksOf call position).bind (fun tasks => tasks[task]?.map (tasks, ·)) with
    | some (_, .publishing _) => s
    | some (tasks, jobTask) => settle options s index position task outcome call tasks jobTask
    | none => s
  | .finishBatch index position => withCall s index fun call =>
    match tasksOf call position with
    | some [] => setCall s index (finishBatch call position)
    | _ => s

end Steps

def outbox : Machine (OutboxStep γ) Unit (OutboxState γ μ) where
  initial := ⟨0, [], [], [], [], []⟩
  step s act := ((), step options transport readRow s act)

end CryptoLending.Outbox.OutboxDispatcher
