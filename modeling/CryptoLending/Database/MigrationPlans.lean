import CryptoLending.Database.MigrationRunner
import CryptoLending.Lib.PlannedWork

namespace CryptoLending.Database.MigrationRunner

open Lib Lib.Transaction

/-- The errors that come from the database, not from what the history says. -/
def MigrationError.ofDatabase : MigrationError → Bool
  | .changed _ => false
  | .unknown _ => false
  | .modified _ => false
  | .invalidSteps => false
  | _ => true

/-- What work does to the history. -/
abbrev Plans {α : Type} (t : History) (plan : List (History → History)) (result : α → Prop)
    (work : Run α) : Prop :=
  Performs Session.history (fun e => e.ofDatabase = true) t plan result work

section Statements

variable {t : History} {plan : List (History → History)}

theorem exec_answer (s : Session) :
    exec answer s = (.ok (s.answers.headD .failed), { s with answers := s.answers.tail }) := rfl

theorem plans_answer : Plans t [] (fun _ => True) answer where
  returned := by
    intro s a s' hs h
    cases h
    exact ⟨trivial, hs⟩
  threw := fun s e s' hs h => (by cases h)

theorem plans_statement : Plans t [] (fun _ => True) statement := by
  apply performs_first plans_answer
  intro a _
  cases a with
  | done => exact performs_pure trivial
  | failed => exact performs_throw rfl
  | lost => exact performs_throw rfl
  | unexpected => exact performs_throw rfl

theorem plans_change (f : History → History) : Plans t [f] (fun _ => True) (change f) := by
  apply performs_first plans_answer
  intro a _
  cases a with
  | done => exact performs_modify fun _ => rfl
  | failed => exact performs_throw rfl
  | lost =>
    have hfirst : Plans t [f] (fun _ => True)
        (modify fun s => { s with history := f s.history }) := performs_modify fun _ => rfl
    exact performs_last hfirst fun _ _ => performs_throw rfl
  | unexpected => exact performs_throw rfl

theorem plans_executeSql (sql : Sql) : Plans t [] (fun _ => True) (executeSql sql) := by
  rw [executeSql]
  induction sql.list with
  | nil => exact performs_pure trivial
  | cons _ rest ih =>
    rw [List.forM_eq_forM, List.forM_cons]
    exact performs_first plans_statement fun _ _ => ih

theorem exec_rollback (h : History) {e : MigrationError} (he : e.ofDatabase = true) (s : Session) :
    ∃ d s', exec (rollback h e) s = (.error d, s') ∧ d.ofDatabase = true ∧ s'.history = h := by
  rw [rollback, exec_bind_ok (exec_modify _ s), exec_bind_ok (exec_answer _)]
  cases s.answers.headD .failed with
  | done => exact ⟨e, _, exec_throw _ _, he, rfl⟩
  | failed => exact ⟨_, _, exec_throw _ _, rfl, rfl⟩
  | lost => exact ⟨_, _, exec_throw _ _, rfl, rfl⟩
  | unexpected => exact ⟨_, _, exec_throw _ _, rfl, rfl⟩

/-- After the work a transaction keeps it or is back at the beginning. -/
theorem exec_commit (h : History) (s : Session) :
    ∃ x s', exec (commit h) s = (x, s') ∧
      (x = .ok () → s'.history = s.history) ∧
      ∀ d, x = .error d → d.ofDatabase = true ∧ (s'.history = s.history ∨ s'.history = h) := by
  have hback : ∀ s : Session, ∃ x s', exec (rollback h .statementFailed) s = (x, s') ∧
      (x = .ok () → s'.history = s.history) ∧
      ∀ d, x = .error d → d.ofDatabase = true ∧ (s'.history = s.history ∨ s'.history = h) := by
    intro s
    obtain ⟨d, s', hexec, hd, hs'⟩ := exec_rollback h (e := .statementFailed) rfl s
    refine ⟨.error d, s', hexec, fun hx => (by cases hx), ?_⟩
    intro e he
    cases he
    exact ⟨hd, .inr hs'⟩
  rw [commit, exec_bind_ok (exec_answer s)]
  cases s.answers.headD .failed with
  | done => exact ⟨_, _, exec_pure _ _, fun _ => rfl, fun d hd => (by cases hd)⟩
  | failed => exact hback _
  | lost =>
    refine ⟨.error .statementFailed, _, rfl, fun hx => (by cases hx), ?_⟩
    intro d hd
    cases hd
    exact ⟨rfl, .inl rfl⟩
  | unexpected => exact hback _

/-- A transaction does all of its work or nothing. -/
theorem plans_inTransaction {work : Run Unit} (hwork : Plans t plan (fun _ => True) work) :
    Plans t plan (fun _ => True) (inTransaction work) := by
  rw [inTransaction]
  refine performs_first plans_statement fun _ _ => performs_first performs_get ?_
  intro before hbefore
  rw [hbefore]
  constructor
  · intro s a s' hs h
    obtain ⟨_, u, hu, h⟩ := returns_bind.mp h
    obtain hu | ⟨e, v, hv, hu⟩ := returns_tryCatch.mp hu
    · obtain ⟨-, hu⟩ := hwork.returned s _ u hs hu
      obtain ⟨x, s'', hexec, hkept, -⟩ := exec_commit t u
      rw [Returns, hexec] at h
      cases h
      exact ⟨trivial, (hkept rfl).trans hu⟩
    · obtain ⟨he, -⟩ := hwork.threw s e v hs hv
      obtain ⟨d, s'', hexec, -⟩ := exec_rollback t he v
      rw [Returns, hexec] at hu
      cases hu
  · intro s e s' hs h
    obtain h | ⟨_, u, hu, h⟩ := exec_bind_threw.mp h
    · obtain ⟨_, v, hv⟩ | ⟨d, v, hv⟩ := exec_cases work s
      · rw [exec_tryCatch_ok hv] at h
        cases h
      · obtain ⟨hd, -⟩ := hwork.threw s d v hs hv
        obtain ⟨d', s'', hexec, hd', hback⟩ := exec_rollback t hd v
        rw [exec_tryCatch_error hv, hexec] at h
        cases h
        exact ⟨hd', [], List.nil_prefix, hback⟩
    · obtain hu | ⟨d, v, hv, hu⟩ := returns_tryCatch.mp hu
      · obtain ⟨-, hu⟩ := hwork.returned s _ u hs hu
        obtain ⟨x, s'', hexec, -, hlost⟩ := exec_commit t u
        rw [hexec] at h
        cases h
        obtain ⟨he, hs' | hs'⟩ := hlost e rfl
        · exact ⟨he, plan, List.prefix_rfl, hs'.trans hu⟩
        · exact ⟨he, [], List.nil_prefix, hs'⟩
      · obtain ⟨hd, -⟩ := hwork.threw s d v hs hv
        obtain ⟨d', s'', hexec, -⟩ := exec_rollback t hd v
        rw [Returns, hexec] at hu
        cases hu

theorem plans_runMigration {m : DatabaseMigration} {work : Run Unit}
    (hwork : Plans t plan (fun _ => True) work) :
    Plans t plan (fun _ => True) (runMigration m work) := by
  rw [runMigration]
  split
  · exact hwork
  · exact plans_inTransaction hwork

theorem plans_acquireMigrationLock : Plans t [] (fun _ => True) acquireMigrationLock := by
  apply performs_first plans_answer
  intro a _
  cases a with
  | done => exact performs_pure trivial
  | failed => exact performs_throw rfl
  | lost => exact performs_throw rfl
  | unexpected => exact performs_throw rfl

theorem exec_attempt {α : Type} {work : Run α} {s s' : Session} {x : Except MigrationError α}
    (h : exec work s = (x, s')) :
    exec (tryCatch (do return Except.ok (← work)) (fun e => pure (.error e)) :
      Run (Except MigrationError α)) s = (.ok x, s') := by
  cases x with
  | ok a =>
    have hok : exec (do return Except.ok (← work) : Run (Except MigrationError α)) s =
        (.ok (.ok a), s') := by
      rw [exec_bind_ok h]
      rfl
    exact exec_tryCatch_ok hok _
  | error e =>
    have herror : exec (do return Except.ok (← work) : Run (Except MigrationError α)) s =
        (.error e, s') := exec_bind_error h _
    rw [exec_tryCatch_error herror]
    rfl

/-- Whether the lock can be released has no effect on the history. -/
theorem plans_withMigrationLock {α : Type} {work : Run α} {P : α → Prop}
    (hwork : Plans t plan P work) : Plans t plan P (withMigrationLock work) := by
  rw [withMigrationLock]
  refine performs_first plans_statement fun _ _ => ?_
  refine performs_first plans_acquireMigrationLock fun _ _ => ?_
  constructor
  · intro s a s' hs h
    obtain ⟨b, u, hwork'⟩ | ⟨e, u, hwork'⟩ := exec_cases work s
    · obtain ⟨hb, hu⟩ := hwork.returned s b u hs hwork'
      rw [exec_bind_ok (exec_attempt hwork'), exec_bind_ok (exec_answer u)] at h
      simp only at h
      split at h
      · cases h
        exact ⟨hb, hu⟩
      · cases h
    · rw [exec_bind_ok (exec_attempt hwork'), exec_bind_ok (exec_answer u)] at h
      cases h
  · intro s e s' hs h
    obtain ⟨b, u, hwork'⟩ | ⟨d, u, hwork'⟩ := exec_cases work s
    · obtain ⟨-, hu⟩ := hwork.returned s b u hs hwork'
      rw [exec_bind_ok (exec_attempt hwork'), exec_bind_ok (exec_answer u)] at h
      simp only at h
      split at h
      · cases h
      · cases h
        exact ⟨rfl, plan, List.prefix_rfl, hu⟩
    · rw [exec_bind_ok (exec_attempt hwork'), exec_bind_ok (exec_answer u)] at h
      cases h
      exact hwork.threw s e u hs hwork'

theorem plans_cons {work : Run (List String)} {id : String} {ids : List String}
    (hwork : Plans t plan (· = ids) work) :
    Plans t plan (· = id :: ids) (do return id :: (← work)) := by
  refine performs_last hwork ?_
  rintro _ rfl
  exact performs_pure rfl

end Statements

section Work

variable {κ : Type} [LinearOrder κ] (collation : String → κ) (sha256 : String → String)
  (migrations : List DatabaseMigration) (railwaySimpleProfile : Bool) {t : History}

/-- The row of an applied migration. -/
def record (m : DatabaseMigration) : AppliedMigration := ⟨m.id, expectedChecksum sha256 m⟩

def inDatabaseOrder (descending : Bool) (rows : List AppliedMigration) : List AppliedMigration :=
  Sorting.sortBy (fun a b =>
    if descending then compare (collation b.id) (collation a.id)
    else compare (collation a.id) (collation b.id)) rows

theorem plans_appliedMigrations (descending : Bool) :
    Plans t [] (· = inDatabaseOrder collation descending t.rows)
      (appliedMigrations collation descending) := by
  refine performs_first plans_statement fun _ _ => performs_first performs_get ?_
  rintro s rfl
  exact performs_pure rfl

theorem plans_assertMigrationVerified (m : DatabaseMigration) :
    Plans t [] (fun _ => True) (assertMigrationVerified railwaySimpleProfile m) := by
  rw [assertMigrationVerified]
  split
  · exact performs_pure trivial
  · apply performs_first plans_answer
    intro a _
    cases a with
    | done => exact performs_modify_same fun _ => rfl
    | failed => exact performs_throw rfl
    | lost => exact performs_throw rfl
    | unexpected => exact performs_throw rfl

theorem plans_applyMigration (m : DatabaseMigration) :
    Plans t [History.insert (record sha256 m)] (fun _ => True)
      (applyMigration sha256 railwaySimpleProfile m) := by
  apply plans_runMigration
  refine performs_first (plans_executeSql m.upSql) fun _ _ => ?_
  refine performs_first (plans_assertMigrationVerified railwaySimpleProfile m) fun _ _ => ?_
  exact plans_change _

/-- The loop applies the migrations without a row, in their order. -/
theorem plans_upFrom (appliedById : JsMap String String) (superseded : List String)
    (l : List DatabaseMigration)
    (hl : ∀ m ∈ l, ∀ c, appliedById.get m.id = some c → c = expectedChecksum sha256 m) :
    Plans t ((l.filter (fun m => appliedById.get m.id = none)).map
        (fun m => History.insert (record sha256 m)))
      (· = (l.filter (fun m => appliedById.get m.id = none)).map (·.id))
      (upFrom sha256 railwaySimpleProfile appliedById superseded l) := by
  induction l generalizing t with
  | nil => exact performs_pure rfl
  | cons m rest ih =>
    obtain ⟨hm, hrest⟩ := List.forall_mem_cons.mp hl
    rw [upFrom]
    cases hget : appliedById.get m.id with
    | some c =>
      obtain rfl := hm c hget
      rw [List.filter_cons_of_neg (by simp [hget])]
      apply performs_first (P := fun _ => True)
      · refine performs_lift (fun _ _ => trivial) ?_
        intro e he
        exact ((failWhen_error.mp he).1 rfl).elim
      · intro _ _
        dsimp only
        split
        · exact ih hrest
        · exact performs_first (plans_assertMigrationVerified railwaySimpleProfile m)
            fun _ _ => ih hrest
    | none =>
      rw [List.filter_cons_of_pos (by simp [hget])]
      refine performs_bind (plans_applyMigration sha256 railwaySimpleProfile m) fun _ _ => ?_
      exact plans_cons (ih hrest)

theorem plans_verifyRemaining (appliedAfterRollback : JsMap String String) :
    Plans t [] (fun _ => True)
      (verifyRemaining sha256 migrations railwaySimpleProfile appliedAfterRollback) := by
  rw [verifyRemaining]
  generalize supersededVerificationIds sha256 migrations appliedAfterRollback = superseded
  induction migrations with
  | nil => exact performs_pure trivial
  | cons m rest ih =>
    rw [List.forM_eq_forM, List.forM_cons]
    refine performs_first (P := fun _ => True) ?_ fun _ _ => ih
    split
    · exact plans_assertMigrationVerified railwaySimpleProfile m
    · exact performs_pure trivial

theorem plans_undoMigration (remainingApplied : JsMap String String) (m : DatabaseMigration) :
    Plans t [History.delete m.id] (fun _ => True)
      (undoMigration sha256 migrations railwaySimpleProfile remainingApplied m) := by
  apply plans_runMigration
  refine performs_first (plans_executeSql m.downSql) fun _ _ => ?_
  refine performs_last (plans_change _) fun _ _ => ?_
  split
  · exact plans_verifyRemaining sha256 migrations railwaySimpleProfile _
  · exact performs_pure trivial

/-- The loop undoes the rows in their order, when they are rows of configured migrations. -/
theorem plans_downFrom (remainingApplied : JsMap String String) (l : List DatabaseMigration)
    (hl : ∀ m ∈ l, migrations.find? (fun c => c.id = m.id) = some m) :
    Plans t (l.map (fun m => History.delete m.id)) (· = l.map (·.id))
      (downFrom sha256 migrations railwaySimpleProfile remainingApplied
        (l.map (record sha256))) := by
  induction l generalizing t remainingApplied with
  | nil => exact performs_pure rfl
  | cons m rest ih =>
    obtain ⟨hm, hrest⟩ := List.forall_mem_cons.mp hl
    rw [List.map_cons, List.map_cons, List.map_cons, downFrom]
    apply performs_first (P := (· = m))
    · apply performs_lift
      · intro a ha
        exact Option.some.inj ((orFail_ok.mp ha).symm.trans hm)
      · intro e he
        have hnone := (orFail_error.mp he).1
        exact absurd (hm.symm.trans hnone) (by simp)
    · rintro _ rfl
      apply performs_first (P := fun _ => True)
      · refine performs_lift (fun _ _ => trivial) ?_
        intro e he
        exact ((failWhen_error.mp he).1 rfl).elim
      · intro _ _
        refine performs_bind
          (plans_undoMigration sha256 migrations railwaySimpleProfile remainingApplied _)
          fun _ _ => ?_
        exact plans_cons (ih (remainingApplied.delete _) hrest)

end Work

end CryptoLending.Database.MigrationRunner
