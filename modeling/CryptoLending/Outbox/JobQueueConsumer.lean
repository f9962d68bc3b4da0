import CryptoLending.Lib.Machine
import CryptoLending.Lib.Table
import Mathlib.Data.List.Sort
import Mathlib.Data.String.Basic

namespace CryptoLending.Outbox.JobQueueConsumer

open Lib Lib.Table

def maxAttempts : Nat := 5
def claimLimit : Nat := 25
def cleanupLimit : Nat := 100

/-- Times are microseconds. -/
def seconds (n : Nat) : Nat := 1000000 * n
def lease : Nat := seconds 30
def failedRetention : Nat := seconds (30 * 24 * 60 * 60)

inductive JobStatus where
  | queued
  | processing
  | complete
  | failed
  deriving DecidableEq

inductive JobErrorCode where
  | railwayJobHandlerDormant
  | railwayJobInvalid
  deriving DecidableEq

/-- The owner of a lock and its end are null together. -/
structure Lock where
  lockedBy : String
  lockedUntil : Nat
  deriving DecidableEq

/-- A row of the queue. `job` stands for the columns that are never updated. -/
structure QueueRow (γ : Type) where
  id : String
  job : γ
  status : JobStatus
  attempts : Nat
  availableAt : Nat
  lock : Option Lock
  enqueuedAt : Nat
  failedAt : Option Nat
  lastError : Option JobErrorCode
  deriving DecidableEq

/-- A claimed job, with its attempts counted up. -/
structure QueuedJob (γ : Type) where
  id : String
  job : γ
  attempts : Nat
  deriving DecidableEq

/-- A call of `processBatch` after its claim. -/
structure BatchCall (γ : Type) where
  consumerId : String
  unsettled : List (QueuedJob γ)
  claimed : Nat
  failed : Nat
  retried : Nat
  deriving DecidableEq

structure Queue (γ : Type) where
  now : Nat
  rows : List (QueueRow γ)
  calls : List (BatchCall γ)
  deriving DecidableEq

/-- A statement on the queue, a crash, or time passing. `skipped` are rows that other
transactions hold locked. -/
inductive QueueStep (γ : Type) where
  | publish (id : String) (job : γ)
  | wait (time : Nat)
  | claimBatch (consumerId : String) (skipped : List String)
  | settle (call job : Nat)
  | crash (call : Nat)
  | cleanupExpired (skipped : List String)

variable {γ : Type}

section Statements

/-- The defaults of a new row. -/
def newRow (now : Nat) (id : String) (job : γ) : QueueRow γ where
  id := id
  job := job
  status := .queued
  attempts := 0
  availableAt := now
  lock := none
  enqueuedAt := now
  failedAt := none
  lastError := none

def isClaimable (now : Nat) (row : QueueRow γ) : Bool :=
  row.availableAt ≤ now &&
    ((row.status = .queued && row.attempts < maxAttempts) ||
      (row.status = .processing && row.lock.any (fun lock => lock.lockedUntil ≤ now) &&
        row.attempts < maxAttempts))

/-- The order of the claims. -/
def claimedBefore (a b : QueueRow γ) : Prop :=
  a.availableAt < b.availableAt ∨ (a.availableAt = b.availableAt ∧
    (a.enqueuedAt < b.enqueuedAt ∨ (a.enqueuedAt = b.enqueuedAt ∧ a.id ≤ b.id)))

instance (a b : QueueRow γ) : Decidable (claimedBefore a b) :=
  inferInstanceAs (Decidable (_ ∨ (_ ∧ (_ ∨ (_ ∧ _)))))

def candidates (now : Nat) (skipped : List String) (rows : List (QueueRow γ)) :
    List (QueueRow γ) :=
  ((rows.filter (fun row => isClaimable now row && !skipped.contains row.id)).insertionSort
    claimedBefore).take claimLimit

def claimRow (now : Nat) (consumerId : String) (row : QueueRow γ) : QueueRow γ :=
  { row with
    status := .processing
    attempts := row.attempts + 1
    lock := some ⟨consumerId, now + lease⟩ }

def isTerminal (job : QueuedJob γ) : Bool := job.attempts ≥ maxAttempts

def delaySeconds (job : QueuedJob γ) : Nat :=
  if isTerminal job then 0 else min 60 (2 ^ (job.attempts - 1))

/-- The rows that a settlement updates. -/
def isSettledBy (consumerId : String) (job : QueuedJob γ) (row : QueueRow γ) : Bool :=
  row.id = job.id && row.status = .processing &&
    row.lock.any (fun lock => lock.lockedBy = consumerId)

def settleRow (now : Nat) (job : QueuedJob γ) (errorCode : JobErrorCode) (row : QueueRow γ) :
    QueueRow γ :=
  { row with
    status := if isTerminal job then .failed else .queued
    availableAt := if isTerminal job then row.availableAt else now + seconds (delaySeconds job)
    lock := none
    lastError := some errorCode
    failedAt := if isTerminal job then some now else none }

def isExpired (now : Nat) (row : QueueRow γ) : Bool :=
  row.status = .failed && row.failedAt.any (fun failedAt => failedAt + failedRetention < now)

def expiredBefore (a b : QueueRow γ) : Prop :=
  a.failedAt.getD 0 < b.failedAt.getD 0 ∨ (a.failedAt.getD 0 = b.failedAt.getD 0 ∧ a.id ≤ b.id)

instance (a b : QueueRow γ) : Decidable (expiredBefore a b) :=
  inferInstanceAs (Decidable (_ ∨ (_ ∧ _)))

def expired (now : Nat) (skipped : List String) (rows : List (QueueRow γ)) : List String :=
  (((rows.filter (fun row => isExpired now row && !skipped.contains row.id)).insertionSort
    expiredBefore).take cleanupLimit).map QueueRow.id

end Statements

section Steps

variable (isReviewed : γ → Bool)

/-- The error code that the checks of a job leave behind. -/
def errorCode (job : QueuedJob γ) : JobErrorCode :=
  if isReviewed job.job then .railwayJobHandlerDormant else .railwayJobInvalid

/-- A row of an identifier that is there already stays as it is. -/
def publish (s : Queue γ) (id : String) (job : γ) : Queue γ :=
  if s.rows.any (fun row => row.id = id) then s
  else { s with rows := s.rows ++ [newRow s.now id job] }

def claimBatch (s : Queue γ) (consumerId : String) (skipped : List String) : Queue γ :=
  let selected := candidates s.now skipped s.rows
  { s with
    rows := updateWhere (fun row => (selected.map QueueRow.id).contains row.id)
      (claimRow s.now consumerId) s.rows
    calls := s.calls ++ [{
      consumerId := consumerId
      unsettled := selected.map (fun row => ⟨row.id, row.job, row.attempts + 1⟩)
      claimed := selected.length
      failed := 0
      retried := 0 }] }

/-- One settlement of a call, which counts when it updated one row. -/
def settleJob (s : Queue γ) (index : Nat) (call : BatchCall γ) (job : QueuedJob γ)
    (position : Nat) : Queue γ :=
  let rowCount := (s.rows.filter (isSettledBy call.consumerId job)).length
  { s with
    rows := updateWhere (isSettledBy call.consumerId job)
      (settleRow s.now job (errorCode isReviewed job)) s.rows
    calls := s.calls.set index { call with
      unsettled := call.unsettled.eraseIdx position
      failed := if rowCount = 1 ∧ isTerminal job then call.failed + 1 else call.failed
      retried := if rowCount = 1 ∧ !isTerminal job then call.retried + 1 else call.retried } }

/-- The database may return claimed rows in any order, and they are settled in that order. -/
def settle (s : Queue γ) (index position : Nat) : Queue γ :=
  match s.calls[index]? with
  | none => s
  | some call =>
    match call.unsettled[position]? with
    | none => s
    | some job => settleJob isReviewed s index call job position

/-- What a crashed call has claimed is not settled any more. -/
def crash (s : Queue γ) (index : Nat) : Queue γ :=
  match s.calls[index]? with
  | none => s
  | some call => { s with calls := s.calls.set index { call with unsettled := [] } }

def cleanupExpired (s : Queue γ) (skipped : List String) : Queue γ :=
  let ids := expired s.now skipped s.rows
  { s with rows := s.rows.filter (fun row => !ids.contains row.id) }

def step (s : Queue γ) : QueueStep γ → Queue γ
  | .publish id job => publish s id job
  | .wait time => { s with now := max s.now time }
  | .claimBatch consumerId skipped => claimBatch s consumerId skipped
  | .settle call job => settle isReviewed s call job
  | .crash call => crash s call
  | .cleanupExpired skipped => cleanupExpired s skipped

def queue : Machine (QueueStep γ) Unit (Queue γ) where
  initial := ⟨0, [], []⟩
  step s act := ((), step isReviewed s act)

end Steps

end CryptoLending.Outbox.JobQueueConsumer
