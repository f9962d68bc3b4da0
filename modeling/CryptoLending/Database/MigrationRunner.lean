import Mathlib.Data.String.Basic
import CryptoLending.Lib.JsMap
import CryptoLending.Lib.JsValue
import CryptoLending.Lib.Machine
import CryptoLending.Lib.Sorting
import CryptoLending.Lib.Transaction

namespace CryptoLending.Database.MigrationRunner

open Lib Lib.JsValue Lib.Sorting

/-- One statement or a list of them. -/
inductive Sql where
  | text (sql : String)
  | statements (list : List String)
  deriving DecidableEq

def Sql.list : Sql → List String
  | .text sql => [sql]
  | .statements list => list

structure DatabaseMigration where
  id : String
  description : String
  upSql : Sql
  downSql : Sql
  verifySql : Option String
  supersedesVerificationOf : Option (List String)
  transactional : Option Bool
  deriving DecidableEq

/-- The characters that trimming removes. -/
def isWhiteSpace (c : Char) : Bool :=
  [0x9, 0xA, 0xB, 0xC, 0xD, 0x20, 0xA0, 0x1680, 0x2028, 0x2029, 0x202F, 0x205F, 0x3000,
    0xFEFF].contains c.toNat || decide (0x2000 ≤ c.toNat ∧ c.toNat ≤ 0x200A)

/-- Whether a text is left after trimming. -/
def hasText (sql : Option String) : Bool := sql.any (fun s => !s.toList.all isWhiteSpace)

def checksumSql : Sql → String
  | .text sql => sql
  | .statements list => String.intercalate "\x00statement\x00" list

/-- The text whose hash is the checksum of a migration. -/
def checksumText (m : DatabaseMigration) : String :=
  m.id ++ "\x00" ++ checksumSql m.upSql ++ "\x00" ++ checksumSql m.downSql ++
    (m.transactional.map (fun t => "\x00transactional\x00" ++ if t then "true" else "false")).getD "" ++
    (m.verifySql.map ("\x00verify\x00" ++ ·)).getD "" ++
    (m.supersedesVerificationOf.map (fun ids =>
      "\x00supersedes-verification-of\x00" ++ String.intercalate "\x00" ids)).getD ""

inductive ConfigurationError where
  | duplicateId (id : String)
  | requiresVerification (id : String)
  | mustBeTransactional (id : String)
  | supersederRequiresVerification (id : String)
  | onlyEarlier (id : String)
  | supersedesUnverified (id supersededId : String)
  | supersededTwice (supersededId : String)
  deriving DecidableEq

def ConfigurationError.message : ConfigurationError → String
  | .duplicateId id => "Duplicate database migration id: " ++ id
  | .requiresVerification id =>
    "Non-transactional database migration " ++ id ++ " requires verification SQL"
  | .mustBeTransactional id =>
    "Database migration " ++ id ++ " must be transactional to supersede a verifier"
  | .supersederRequiresVerification id =>
    "Database migration " ++ id ++ " must have verification SQL to supersede a verifier"
  | .onlyEarlier id =>
    "Database migration " ++ id ++ " can only supersede an earlier configured verifier"
  | .supersedesUnverified id supersededId =>
    "Database migration " ++ id ++ " cannot supersede migration " ++ supersededId ++
      " without verification SQL"
  | .supersededTwice supersededId =>
    "Database migration verifier " ++ supersededId ++ " is superseded more than once"

def checkIdentifiers (identifiers : List String) :
    List DatabaseMigration → Except ConfigurationError Unit
  | [] => pure ()
  | m :: rest => do
    failWhen (m.id ∈ identifiers) (.duplicateId m.id)
    failWhen (m.transactional = some false ∧ hasText m.verifySql = false)
      (.requiresVerification m.id)
    checkIdentifiers (m.id :: identifiers) rest

section Supersession

variable (migrations : List DatabaseMigration)

/-- Check one superseded verifier and remember it. -/
def checkSuperseded (m : DatabaseMigration) (index : Nat) (superseded : List String)
    (supersededId : String) : Except ConfigurationError (List String) := do
  let supersededIndex ←
    orFail (migrations.findIdx? (fun c => c.id = supersededId)) (.onlyEarlier m.id)
  failWhen (supersededIndex ≥ index) (.onlyEarlier m.id)
  failWhen ((migrations[supersededIndex]?.any (fun c => hasText c.verifySql)) = false)
    (.supersedesUnverified m.id supersededId)
  failWhen (supersededId ∈ superseded) (.supersededTwice supersededId)
  return supersededId :: superseded

def checkSupersessions (index : Nat) (superseded : List String) :
    List DatabaseMigration → Except ConfigurationError Unit
  | [] => pure ()
  | m :: rest => do
    match m.supersedesVerificationOf with
    | none => checkSupersessions (index + 1) superseded rest
    | some ids =>
      failWhen (m.transactional = some false) (.mustBeTransactional m.id)
      failWhen (ids.length = 0 ∨ hasText m.verifySql = false)
        (.supersederRequiresVerification m.id)
      let superseded ← ids.foldlM (checkSuperseded migrations m index) superseded
      checkSupersessions (index + 1) superseded rest

/-- The checks of the constructor. -/
def configure : Except ConfigurationError Unit := do
  checkIdentifiers [] migrations
  checkSupersessions migrations 0 [] migrations

end Supersession

structure AppliedMigration where
  id : String
  checksum : String
  deriving DecidableEq

/-- A row that was written to the history, or deleted from it. -/
inductive Change where
  | applied (id : String)
  | undone (id : String)
  deriving DecidableEq

/-- The history table, and how it came about. -/
structure History where
  rows : List AppliedMigration
  changes : List Change
  deriving DecidableEq

/-- What the database does with a statement: it takes effect; it fails, or the process dies before
it; it takes effect but its answer is lost; its answer is not the expected one. -/
inductive Answer where
  | done
  | failed
  | lost
  | unexpected
  deriving DecidableEq

inductive MigrationError where
  | changed (id : String)
  | unknown (id : String)
  | modified (id : String)
  | verificationFailed (id : String)
  | invalidSteps
  | lockAcquisitionFailed
  | lockAcquisitionTimedOut
  | lockReleaseFailed
  | statementFailed
  deriving DecidableEq

def MigrationError.message : MigrationError → String
  | .changed id =>
    "Applied migration " ++ id ++ " has changed; create a new migration instead"
  | .unknown id => "Cannot roll back unknown migration " ++ id
  | .modified id => "Cannot roll back modified migration " ++ id
  | .verificationFailed id => "Database migration " ++ id ++ " schema verification failed"
  | .invalidSteps => "Migration rollback steps must be a positive integer"
  | .lockAcquisitionFailed => "Database migration lock acquisition failed"
  | .lockAcquisitionTimedOut => "Database migration lock acquisition timed out"
  | .lockReleaseFailed => "Database migration lock release failed"
  | .statementFailed => ""

/-- A connection to the database during a call, with the answers that are still to come and the
migrations that were verified. -/
structure Session where
  answers : List Answer
  history : History
  verified : List String
  deriving DecidableEq

abbrev Run := Transaction Session MigrationError

/-- The answer to the next statement; without one the process is dead. -/
def answer : Run Answer := do
  let s ← get
  set { s with answers := s.answers.tail }
  return s.answers.headD .failed

/-- A statement that changes the history. -/
def change (f : History → History) : Run Unit := do
  match ← answer with
  | .done => modify fun s => { s with history := f s.history }
  | .lost =>
    modify fun s => { s with history := f s.history }
    throw .statementFailed
  | _ => throw .statementFailed

/-- A statement that does not concern the history. -/
def statement : Run Unit := do
  match ← answer with
  | .done => pure ()
  | _ => throw .statementFailed

def History.insert (row : AppliedMigration) (h : History) : History :=
  ⟨h.rows ++ [row], h.changes ++ [.applied row.id]⟩

def History.delete (id : String) (h : History) : History :=
  ⟨h.rows.filter (fun row => row.id ≠ id), h.changes ++ [.undone id]⟩

/-- The history is back at what it was, whatever the answer to the rollback. -/
def rollback (history : History) (e : MigrationError) : Run Unit := do
  modify fun s => { s with history := history }
  match ← answer with
  | .done => throw e
  | _ => throw .statementFailed

def commit (history : History) : Run Unit := do
  match ← answer with
  | .done => pure ()
  | .lost =>
    -- The commit took effect, so that there is nothing to roll back.
    let _ ← answer
    throw .statementFailed
  | _ => rollback history .statementFailed

def inTransaction (work : Run Unit) : Run Unit := do
  statement
  let before ← get
  tryCatch work (rollback before.history)
  commit before.history

def runMigration (m : DatabaseMigration) (work : Run Unit) : Run Unit :=
  if m.transactional = some false then work else inTransaction work

def executeSql (sql : Sql) : Run Unit := sql.list.forM (fun _ => statement)

def acquireMigrationLock : Run Unit := do
  match ← answer with
  | .done => pure ()
  | .unexpected => throw .lockAcquisitionTimedOut
  | _ => throw .lockAcquisitionFailed

def withMigrationLock {α : Type} (work : Run α) : Run α := do
  statement
  acquireMigrationLock
  let result ← tryCatch (do return Except.ok (← work)) (fun e => pure (.error e))
  let released ← answer
  match result with
  | .error e => throw e
  | .ok a => if released = .done then pure a else throw .lockReleaseFailed

section Runner

variable {κ : Type} [LinearOrder κ] (collation : String → κ) (sha256 : String → String)
  (migrations : List DatabaseMigration) (railwaySimpleProfile : Bool)

def expectedChecksum (m : DatabaseMigration) : String := sha256 (checksumText m)

/-- The rows in the order of their ids as texts. -/
def appliedMigrations (descending : Bool) : Run (List AppliedMigration) := do
  statement
  let s ← get
  return sortBy (fun a b =>
    if descending then compare (collation b.id) (collation a.id)
    else compare (collation a.id) (collation b.id)) s.history.rows

def supersededVerificationIds (appliedById : JsMap String String) : List String :=
  migrations.flatMap (fun m =>
    if appliedById.get m.id = some (expectedChecksum sha256 m) then
      m.supersedesVerificationOf.getD []
    else [])

def assertMigrationVerified (m : DatabaseMigration) : Run Unit := do
  if m.verifySql.getD "" = "" ∨ railwaySimpleProfile = true then pure ()
  else
    match ← answer with
    | .done => modify fun s => { s with verified := s.verified ++ [m.id] }
    | .unexpected => throw (.verificationFailed m.id)
    | _ => throw .statementFailed

def byId (rows : List AppliedMigration) : JsMap String String :=
  .ofEntries (rows.map (fun row => (row.id, row.checksum)))

def applyMigration (m : DatabaseMigration) : Run Unit :=
  runMigration m do
    executeSql m.upSql
    assertMigrationVerified railwaySimpleProfile m
    change (History.insert ⟨m.id, expectedChecksum sha256 m⟩)

/-- The loop over the configured migrations. -/
def upFrom (appliedById : JsMap String String) (superseded : List String) :
    List DatabaseMigration → Run (List String)
  | [] => pure []
  | m :: rest =>
    match appliedById.get m.id with
    | some checksum => do
      liftM (failWhen (checksum ≠ expectedChecksum sha256 m) (MigrationError.changed m.id))
      if superseded.contains m.id then pure ()
      else assertMigrationVerified railwaySimpleProfile m
      upFrom appliedById superseded rest
    | none => do
      applyMigration sha256 railwaySimpleProfile m
      return m.id :: (← upFrom appliedById superseded rest)

def up : Run (List String) :=
  withMigrationLock do
    statement
    let applied ← appliedMigrations collation false
    let appliedById := byId applied
    upFrom sha256 railwaySimpleProfile appliedById
      (supersededVerificationIds sha256 migrations appliedById) migrations

/-- After a superseding migration is gone, the verifiers that count again are run. -/
def verifyRemaining (appliedAfterRollback : JsMap String String) : Run Unit :=
  let stillSuperseded := supersededVerificationIds sha256 migrations appliedAfterRollback
  migrations.forM fun m =>
    if (appliedAfterRollback.get m.id).isSome && !stillSuperseded.contains m.id then
      assertMigrationVerified railwaySimpleProfile m
    else pure ()

def undoMigration (remainingApplied : JsMap String String) (m : DatabaseMigration) : Run Unit :=
  runMigration m do
    executeSql m.downSql
    change (History.delete m.id)
    if m.supersedesVerificationOf.isSome then
      verifyRemaining sha256 migrations railwaySimpleProfile (remainingApplied.delete m.id)
    else pure ()

/-- The loop over the rows to roll back. -/
def downFrom (remainingApplied : JsMap String String) :
    List AppliedMigration → Run (List String)
  | [] => pure []
  | row :: rest => do
    let m ← liftM (orFail (migrations.find? (fun m => m.id = row.id))
      (MigrationError.unknown row.id))
    liftM (failWhen (row.checksum ≠ expectedChecksum sha256 m) (MigrationError.modified row.id))
    undoMigration sha256 migrations railwaySimpleProfile remainingApplied m
    return m.id :: (← downFrom (remainingApplied.delete m.id) rest)

/-- How many migrations to roll back; one when nothing is said. -/
def rollbackSteps : Value → Option Nat
  | .undefined => some 1
  | steps => (steps.integer?.filter (fun n => decide (1 ≤ n))).map Int.toNat

def down (steps : Value) : Run (List String) := do
  let count ← liftM (orFail (rollbackSteps steps) MigrationError.invalidSteps)
  withMigrationLock do
    statement
    let applied ← appliedMigrations collation true
    downFrom sha256 migrations railwaySimpleProfile (byId applied) (applied.take count)

end Runner

/-- A call with the answers of the database during it. -/
inductive Call where
  | up (railwaySimpleProfile : Bool) (answers : List Answer)
  | down (steps : Value) (railwaySimpleProfile : Bool) (answers : List Answer)

/-- What a call returns or throws, and the migrations that were verified in it. -/
structure Outcome where
  result : Except MigrationError (List String)
  verified : List String

section Calls

variable {κ : Type} [LinearOrder κ] (collation : String → κ) (sha256 : String → String)
  (migrations : List DatabaseMigration)

def perform (h : History) (answers : List Answer) (work : Run (List String)) : Outcome × History :=
  let (result, s) := Transaction.exec work ⟨answers, h, []⟩
  (⟨result, s.verified⟩, s.history)

def step (h : History) : Call → Outcome × History
  | .up railwaySimpleProfile answers =>
    perform h answers (up collation sha256 migrations railwaySimpleProfile)
  | .down steps railwaySimpleProfile answers =>
    perform h answers (down collation sha256 migrations railwaySimpleProfile steps)

/-- The runner on a database that starts empty. -/
def runner : Machine Call Outcome History where
  initial := ⟨[], []⟩
  step := step collation sha256 migrations

end Calls

end CryptoLending.Database.MigrationRunner
