import CryptoLending.Lib.JsNumber
import CryptoLending.Lib.Table
import Mathlib.Data.List.Nodup
import Mathlib.Data.List.Sort
import Mathlib.Data.String.Basic

namespace CryptoLending.Outbox.JobOutbox

open Lib Lib.Table

inductive OutboxStatus where
  | pending
  | published
  | failed
  deriving DecidableEq

inductive OutboxFailureCode where
  | outboxTransportFailed
  | outboxTransportTimeout
  deriving DecidableEq

inductive OutboxFailureTransition where
  | retry
  | failed
  | leaseLost
  deriving DecidableEq

/-- Claim tokens are random and never repeat: a token is the number of the claim. -/
structure OutboxLock where
  lockedBy : Nat
  lockedUntil : Nat
  deriving DecidableEq

/-- A row of the outbox. `stored` stands for the columns that are never updated. -/
structure OutboxRow (γ : Type) where
  id : String
  stored : γ
  status : OutboxStatus
  attempts : Nat
  availableAt : Nat
  lock : Option OutboxLock
  createdAt : Nat
  publishedAt : Option Nat
  failedAt : Option Nat
  lastError : Option OutboxFailureCode
  deriving DecidableEq

/-- What a dispatcher knows of a row that it has claimed. -/
structure ClaimedOutboxJob (μ : Type) where
  id : String
  message : μ
  attempts : Nat
  deriving DecidableEq

/-- Options within the ranges that the environment allows. -/
structure OutboxDispatcherOptions where
  batchSize : Nat
  concurrency : Nat
  leaseMs : Nat
  maxAttempts : Nat
  retryBaseDelayMs : Nat
  retryMaxDelayMs : Nat
  batchSize_range : 1 ≤ batchSize ∧ batchSize ≤ 100
  concurrency_range : 1 ≤ concurrency ∧ concurrency ≤ batchSize
  leaseMs_range : 1000 ≤ leaseMs ∧ leaseMs ≤ 900000
  maxAttempts_range : 1 ≤ maxAttempts ∧ maxAttempts ≤ 100
  retryBaseDelayMs_range : 1 ≤ retryBaseDelayMs ∧ retryBaseDelayMs ≤ 900000
  retryMaxDelayMs_range : 1 ≤ retryMaxDelayMs ∧ retryMaxDelayMs ≤ 900000

section Environment

/-- The number that `Number` makes of a variable, when that is set and not blank. -/
abbrev Environment := String → Option JsNumber

/-- The fallback of an option is not checked. -/
def integerFromEnvironment (environment : Environment) (name : String)
    (fallback minimum maximum : Nat) :
    Except String {value : Nat // value = fallback ∨ minimum ≤ value ∧ value ≤ maximum} :=
  match environment name with
  | none => .ok ⟨fallback, .inl rfl⟩
  | some parsed =>
    let value := parsed.safeInteger?.getD (-1)
    if h : (minimum : Int) ≤ value ∧ value ≤ maximum then
      .ok ⟨value.toNat, .inr (by omega)⟩
    else
      .error (name ++ " must be an integer between " ++ Nat.repr minimum ++ " and " ++
        Nat.repr maximum)

/-- The options of the dispatches; without a value for it, the greatest delay can be less than the
base delay. -/
def loadOutboxDispatcherOptions (environment : Environment) :
    Except String OutboxDispatcherOptions := do
  let ⟨batchSize, hbatch⟩ ← integerFromEnvironment environment "OUTBOX_BATCH_SIZE" 25 1 100
  let ⟨leaseMs, hlease⟩ ← integerFromEnvironment environment "OUTBOX_LEASE_MS" 30000 1000 900000
  let ⟨retryBaseDelayMs, hbase⟩ ←
    integerFromEnvironment environment "OUTBOX_RETRY_BASE_DELAY_MS" 1000 1 900000
  let ⟨retryMaxDelayMs, hmax⟩ ←
    integerFromEnvironment environment "OUTBOX_RETRY_MAX_DELAY_MS" 60000 retryBaseDelayMs 900000
  let ⟨concurrency, hconcurrency⟩ ←
    integerFromEnvironment environment "OUTBOX_CONCURRENCY" (min 5 batchSize) 1 batchSize
  let ⟨maxAttempts, hattempts⟩ ← integerFromEnvironment environment "OUTBOX_MAX_ATTEMPTS" 5 1 100
  return {
    batchSize
    concurrency
    leaseMs
    maxAttempts
    retryBaseDelayMs
    retryMaxDelayMs
    batchSize_range := by omega
    concurrency_range := by omega
    leaseMs_range := by omega
    maxAttempts_range := by omega
    retryBaseDelayMs_range := by omega
    retryMaxDelayMs_range := by omega }

/-- The options of an environment that sets none. -/
def defaultOptions : OutboxDispatcherOptions where
  batchSize := 25
  concurrency := 5
  leaseMs := 30000
  maxAttempts := 5
  retryBaseDelayMs := 1000
  retryMaxDelayMs := 60000
  batchSize_range := by decide
  concurrency_range := by decide
  leaseMs_range := by decide
  maxAttempts_range := by decide
  retryBaseDelayMs_range := by decide
  retryMaxDelayMs_range := by decide

theorem loadOutboxDispatcherOptions_unset :
    loadOutboxDispatcherOptions (fun _ => none) = .ok defaultOptions := rfl

end Environment

variable {γ μ : Type} (options : OutboxDispatcherOptions)

section Statements

/-- The defaults of a new row. -/
def newRow (now : Nat) (id : String) (stored : γ) : OutboxRow γ where
  id := id
  stored := stored
  status := .pending
  attempts := 0
  availableAt := now
  lock := none
  createdAt := now
  publishedAt := none
  failedAt := none
  lastError := none

def isClaimable (now : Nat) (row : OutboxRow γ) : Bool :=
  row.status = .pending && row.availableAt ≤ now &&
    row.lock.all (fun lock => lock.lockedUntil ≤ now) && row.attempts < options.maxAttempts

/-- The order of the claims. -/
def claimedBefore (a b : OutboxRow γ) : Prop :=
  a.availableAt < b.availableAt ∨ (a.availableAt = b.availableAt ∧
    (a.createdAt < b.createdAt ∨ (a.createdAt = b.createdAt ∧ a.id ≤ b.id)))

instance (a b : OutboxRow γ) : Decidable (claimedBefore a b) :=
  inferInstanceAs (Decidable (_ ∨ (_ ∧ (_ ∨ (_ ∧ _)))))

/-- The rows of a claim, but for those that other transactions hold locked. -/
def candidates (now : Nat) (skipped : List String) (rows : List (OutboxRow γ)) :
    List (OutboxRow γ) :=
  ((rows.filter (fun row => isClaimable options now row && !skipped.contains row.id)).insertionSort
    claimedBefore).take options.batchSize

/-- Times are milliseconds. -/
def claimRow (now token : Nat) (row : OutboxRow γ) : OutboxRow γ :=
  { row with lock := some ⟨token, now + options.leaseMs⟩ }

def claimRows (now token : Nat) (skipped : List String) (rows : List (OutboxRow γ)) :
    List (OutboxRow γ) :=
  updateWhere (fun row => ((candidates options now skipped rows).map OutboxRow.id).contains row.id)
    (claimRow options now token) rows

/-- The condition of both updates: the row is pending under the lock of the token. -/
def isOwnedBy (id : String) (token : Nat) (row : OutboxRow γ) : Bool :=
  row.id = id && row.status = .pending && row.lock.any (fun lock => lock.lockedBy = token)

def markRow (now : Nat) (row : OutboxRow γ) : OutboxRow γ :=
  { row with
    status := .published
    publishedAt := some now
    failedAt := none
    lastError := none
    lock := none }

/-- The rows after the update, and whether one row was updated. -/
def markPublished (now : Nat) (id : String) (token : Nat) (rows : List (OutboxRow γ)) :
    List (OutboxRow γ) × Bool :=
  (updateWhere (isOwnedBy id token) (markRow now) rows,
    (rows.filter (isOwnedBy id token)).length = 1)

def failRow (now : Nat) (errorCode : OutboxFailureCode) (terminal : Bool) (retryDelayMs : Nat)
    (row : OutboxRow γ) : OutboxRow γ :=
  { row with
    attempts := row.attempts + 1
    status := if terminal then .failed else .pending
    availableAt := if terminal then row.availableAt else now + retryDelayMs
    lastError := some errorCode
    failedAt := if terminal then some now else none
    lock := none }

/-- The rows after the update, and what the first updated row has become. -/
def recordFailure (now : Nat) (id : String) (token : Nat) (errorCode : OutboxFailureCode)
    (terminal : Bool) (retryDelayMs : Nat) (rows : List (OutboxRow γ)) :
    List (OutboxRow γ) × OutboxFailureTransition :=
  (updateWhere (isOwnedBy id token) (failRow now errorCode terminal retryDelayMs) rows,
    match rows.find? (isOwnedBy id token) with
    | none => .leaseLost
    | some _ => if terminal then .failed else .retry)

end Statements

section Ownership

theorem isOwnedBy_iff {id : String} {token : Nat} {row : OutboxRow γ} :
    isOwnedBy id token row = true ↔ row.id = id ∧ row.status = .pending ∧
      ∃ lock, row.lock = some lock ∧ lock.lockedBy = token := by
  simp only [isOwnedBy, Bool.and_eq_true, decide_eq_true_eq, Option.any_eq_true, and_assoc]

theorem mem_candidates {now : Nat} {skipped : List String} {rows : List (OutboxRow γ)}
    {row : OutboxRow γ} (h : row ∈ candidates options now skipped rows) :
    row ∈ rows ∧ isClaimable options now row = true := by
  have hsorted := List.mem_of_mem_take h
  rw [List.mem_insertionSort, List.mem_filter, Bool.and_eq_true] at hsorted
  exact ⟨hsorted.1, hsorted.2.1⟩

theorem map_id_claimRows (now token : Nat) (skipped : List String) (rows : List (OutboxRow γ)) :
    (claimRows options now token skipped rows).map OutboxRow.id = rows.map OutboxRow.id :=
  map_updateWhere fun _ => rfl

end Ownership

end CryptoLending.Outbox.JobOutbox
