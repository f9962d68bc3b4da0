import CryptoLending.Database.MigrationHistory

namespace CryptoLending.Database.MigrationRunner

open Lib Lib.JsValue Lib.Transaction

section Guarantee

variable {κ : Type} [LinearOrder κ] (collation : String → κ) (sha256 : String → String)
  (migrations : List DatabaseMigration)

/-- The applied migrations are the first ones, every one was put on top of those before it and
taken away from the top, and no migration was applied or undone twice in a row. -/
structure IsStack (h : History) : Prop where
  rows : h.rows = (migrations.take h.rows.length).map (record sha256)
  log : StackLog Change.applied Change.undone (migrations.map (·.id)) h.changes h.rows.length
  turns : ∀ id, (StackLog.movesOf Change.applied Change.undone id h.changes).IsChain (· ≠ ·)

/-- `up` applies the missing migrations in order, or the first of them when the database fails;
when it returns, every applied migration whose verifier is not superseded was verified. -/
structure UpHonours (railwaySimpleProfile : Bool) (h : History) (o : Outcome) (h' : History) :
    Prop where
  applies : ∃ part, part <+: migrations.drop h.rows.length ∧
    h'.changes = h.changes ++ part.map (fun m => .applied m.id) ∧
    ∀ ids, o.result = .ok ids → part = migrations.drop h.rows.length ∧ ids = part.map (·.id)
  failure : ∀ e, o.result = .error e → e.ofDatabase = true
  verifies : ∀ ids, o.result = .ok ids → railwaySimpleProfile = false →
    ∀ m ∈ migrations, record sha256 m ∈ h'.rows → m.verifySql.getD "" ≠ "" →
      (∀ m' ∈ migrations, record sha256 m' ∈ h'.rows →
        m.id ∉ m'.supersedesVerificationOf.getD []) →
      m.id ∈ o.verified

/-- `down` undoes the last migrations from the last one on, or the first of these when the
database fails. -/
structure DownHonours (count : Nat) (h : History) (o : Outcome) (h' : History) : Prop where
  undoes : ∃ part, part <+: (migrations.take h.rows.length).reverse.take count ∧
    h'.changes = h.changes ++ part.map (fun m => .undone m.id) ∧
    ∀ ids, o.result = .ok ids →
      part = (migrations.take h.rows.length).reverse.take count ∧ ids = part.map (·.id)
  failure : ∀ e, o.result = .error e → e.ofDatabase = true

structure CallHonours (e : Machine.Event Call Outcome History) : Prop where
  stack : IsStack sha256 migrations e.after
  up : ∀ railwaySimpleProfile answers, e.call = .up railwaySimpleProfile answers →
    UpHonours sha256 migrations railwaySimpleProfile e.before e.outcome e.after
  down : ∀ steps railwaySimpleProfile answers count,
    e.call = .down steps railwaySimpleProfile answers → rollbackSteps steps = some count →
    DownHonours migrations count e.before e.outcome e.after
  invalid : ∀ steps railwaySimpleProfile answers,
    e.call = .down steps railwaySimpleProfile answers → rollbackSteps steps = none →
    e.outcome.result = .error .invalidSteps ∧ e.after = e.before

variable {collation sha256 migrations}

theorem Stands.isStack (hids : (migrations.map (·.id)).Nodup) {h : History} {n : Nat}
    (hs : Stands sha256 migrations h n) : IsStack sha256 migrations h := by
  have hn := hs.length_rows
  subst hn
  have happlied : Function.Injective Change.applied := fun a b hab => Change.applied.inj hab
  have hundone : Function.Injective Change.undone := fun a b hab => Change.undone.inj hab
  exact ⟨hs.rows, hs.log, fun id =>
    (hs.log.moves happlied hundone (fun a b hab => (by cases hab)) hids id).2⟩

/-- What a plan of rows to write leaves behind. -/
theorem Stands.honours_up (hids : (migrations.map (·.id)).Nodup) {h : History} {n : Nat}
    (hs : Stands sha256 migrations h n) (railwaySimpleProfile : Bool) (answers : List Answer) :
    let r := step collation sha256 migrations h (.up railwaySimpleProfile answers)
    (∃ k, Stands sha256 migrations r.2 k) ∧
      UpHonours sha256 migrations railwaySimpleProfile h r.1 r.2 := by
  have hplan := @Stands.plans_up κ _ collation _ _ railwaySimpleProfile _ _ hids hs
  have hn := hs.length_rows
  subst hn
  generalize hexec : exec (up collation sha256 migrations railwaySimpleProfile)
    ⟨answers, h, []⟩ = out
  obtain ⟨x, s'⟩ := out
  have hstep : step collation sha256 migrations h (.up railwaySimpleProfile answers) =
      (⟨x, s'.verified⟩, s'.history) := by
    rw [step, perform, hexec]
  rw [hstep]
  cases x with
  | ok ids =>
    obtain ⟨hids', hview⟩ := hplan.returned _ ids s' rfl hexec
    rw [← hs.length_rows] at hs
    obtain ⟨hstands, hchanges⟩ := hs.after_inserts _ List.prefix_rfl
    rw [← hview] at hstands hchanges
    refine ⟨⟨_, hstands⟩, ⟨_, List.prefix_rfl, hchanges, ?_⟩, fun e he => (by cases he), ?_⟩
    · intro ids' hids''
      cases hids''
      exact ⟨rfl, hids'⟩
    · intro ids' _ hprofile m hm _ hsql hnone
      have hlength : h.rows.length + (migrations.drop h.rows.length).length =
          migrations.length := by
        have hle := hs.le_length
        rw [List.length_drop]
        omega
      have hall : s'.history.rows = migrations.map (record sha256) := by
        rw [hstands.rows, hlength, List.take_length]
      apply returns_up hexec hprofile m hm hsql
      intro m' hm'
      exact hnone m' hm' (hall ▸ List.mem_map_of_mem hm')
  | error e =>
    obtain ⟨he, part, hpart, hview⟩ := hplan.threw _ e s' rfl hexec
    obtain ⟨l, hl, rfl⟩ := List.prefix_map_iff.mp hpart
    obtain ⟨hstands, hchanges⟩ := hs.after_inserts l hl
    rw [← hview] at hstands hchanges
    refine ⟨⟨_, hstands⟩, ⟨l, hl, hchanges, fun ids hids => (by cases hids)⟩, ?_,
      fun ids hids => (by cases hids)⟩
    intro d hd
    cases hd
    exact he

/-- What a plan of rows to delete leaves behind. -/
theorem Stands.honours_down (hids : (migrations.map (·.id)).Nodup)
    (hascending : Ascending collation migrations) {h : History} {n : Nat}
    (hs : Stands sha256 migrations h n) {steps : Value} {count : Nat}
    (hcount : rollbackSteps steps = some count) (railwaySimpleProfile : Bool)
    (answers : List Answer) :
    let r := step collation sha256 migrations h (.down steps railwaySimpleProfile answers)
    (∃ k, Stands sha256 migrations r.2 k) ∧ DownHonours migrations count h r.1 r.2 := by
  have hplan := @Stands.plans_down κ _ collation _ _ railwaySimpleProfile _ _ hids hascending hs
    _ _ hcount
  have hn := hs.length_rows
  subst hn
  generalize hexec : exec (down collation sha256 migrations railwaySimpleProfile steps)
    ⟨answers, h, []⟩ = out
  obtain ⟨x, s'⟩ := out
  have hstep : step collation sha256 migrations h (.down steps railwaySimpleProfile answers) =
      (⟨x, s'.verified⟩, s'.history) := by
    rw [step, perform, hexec]
  rw [hstep]
  cases x with
  | ok ids =>
    obtain ⟨hids', hview⟩ := hplan.returned _ ids s' rfl hexec
    obtain ⟨hstands, hchanges⟩ := hs.after_deletes hids _ (List.take_prefix count _)
    rw [← hview] at hstands hchanges
    refine ⟨⟨_, hstands⟩, ⟨_, List.prefix_rfl, hchanges, ?_⟩, fun e he => (by cases he)⟩
    intro ids' hids''
    cases hids''
    exact ⟨rfl, hids'⟩
  | error e =>
    obtain ⟨he, part, hpart, hview⟩ := hplan.threw _ e s' rfl hexec
    obtain ⟨l, hl, rfl⟩ := List.prefix_map_iff.mp hpart
    obtain ⟨hstands, hchanges⟩ := hs.after_deletes hids l (hl.trans (List.take_prefix count _))
    rw [← hview] at hstands hchanges
    refine ⟨⟨_, hstands⟩, ⟨l, hl, hchanges, fun ids hids => (by cases hids)⟩, ?_⟩
    intro d hd
    cases hd
    exact he

theorem step_down_invalid {steps : Value} (hcount : rollbackSteps steps = none) (h : History)
    (railwaySimpleProfile : Bool) (answers : List Answer) :
    step collation sha256 migrations h (.down steps railwaySimpleProfile answers) =
      (⟨.error .invalidSteps, []⟩, h) := by
  have hexec : exec (down collation sha256 migrations railwaySimpleProfile steps)
      ⟨answers, h, []⟩ = (.error .invalidSteps, ⟨answers, h, []⟩) := down_invalid hcount _
  rw [step, perform, hexec]

theorem stands_invariant (hids : (migrations.map (·.id)).Nodup)
    (hascending : Ascending collation migrations) :
    Machine.Invariant (runner collation sha256 migrations)
      (fun h => ∃ n, Stands sha256 migrations h n) where
  initial := ⟨0, stands_initial⟩
  step := by
    rintro h c ⟨n, hs⟩
    cases c with
    | up railwaySimpleProfile answers => exact (hs.honours_up hids railwaySimpleProfile answers).1
    | down steps railwaySimpleProfile answers =>
      cases hcount : rollbackSteps steps with
      | some count =>
        exact (hs.honours_down hids hascending hcount railwaySimpleProfile answers).1
      | none =>
        have hstep : step collation sha256 migrations h
            (.down steps railwaySimpleProfile answers) = (⟨.error .invalidSteps, []⟩, h) :=
          step_down_invalid hcount h railwaySimpleProfile answers
        have hsame : ((runner collation sha256 migrations).step h
            (.down steps railwaySimpleProfile answers)).2 = h := congrArg Prod.snd hstep
        refine ⟨n, ?_⟩
        rw [hsame]
        exact hs

/-- On a database that starts empty, whatever it does with the statements of any calls, the
history stays a stack of the configured migrations, and every call does to it what it says. -/
theorem history_is_stack (hconf : configure migrations = .ok ())
    (hascending : Ascending collation migrations) (cs : List Call) :
    ∀ e ∈ (runner collation sha256 migrations).trace cs,
      CallHonours sha256 migrations e := by
  have hids := nodup_of_configure hconf
  have hinv := @stands_invariant κ _ collation sha256 migrations hids hascending
  intro e he
  obtain ⟨ds, es, -, hev⟩ := Machine.mem_events he
  obtain ⟨n, hs⟩ := hinv.reached ds
  obtain ⟨k, hafter⟩ := hinv.step _ e.call ⟨n, hs⟩
  rw [hev]
  refine ⟨hafter.isStack hids, ?_, ?_, ?_⟩
  · intro railwaySimpleProfile answers hcall
    have hcall : e.call = .up railwaySimpleProfile answers := hcall
    rw [hcall]
    exact (hs.honours_up hids railwaySimpleProfile answers).2
  · intro steps railwaySimpleProfile answers count hcall hcount
    have hcall : e.call = .down steps railwaySimpleProfile answers := hcall
    rw [hcall]
    exact (hs.honours_down hids hascending hcount railwaySimpleProfile answers).2
  · intro steps railwaySimpleProfile answers hcall hcount
    have hcall : e.call = .down steps railwaySimpleProfile answers := hcall
    rw [hcall]
    have hstep : step collation sha256 migrations ((runner collation sha256 migrations).reached ds)
        (.down steps railwaySimpleProfile answers) =
        (⟨.error .invalidSteps, []⟩, (runner collation sha256 migrations).reached ds) :=
      step_down_invalid hcount _ railwaySimpleProfile answers
    rw [Machine.event]
    exact ⟨congrArg (fun r => r.1.result) hstep, congrArg Prod.snd hstep⟩

end Guarantee

section Sample

def accounts : DatabaseMigration where
  id := "0001-accounts"
  description := "Create accounts"
  upSql := .text "CREATE TABLE accounts (id uuid)"
  downSql := .text "DROP TABLE accounts"
  verifySql := some "SELECT true AS valid"
  supersedesVerificationOf := none
  transactional := none

def balances : DatabaseMigration where
  id := "0002-balances"
  description := "Create balances"
  upSql := .text "CREATE TABLE balances (id uuid)"
  downSql := .text "DROP TABLE balances"
  verifySql := some "SELECT true AS valid"
  supersedesVerificationOf := some ["0001-accounts"]
  transactional := none

def sampleSha256 (text : String) : String :=
  if text = checksumText accounts then
    "f26443a0231e654472dc6d03fe7c864d2741b20e71d1f2cbcf512073d3ed7c73"
  else if text = checksumText balances then
    "42860fefd2cb8878f48edeb4a3e9e06ac9f098aeda90baeb1ba526d53cb53245"
  else ""

def codePoints (id : String) : List Nat := id.toList.map Char.toNat

/-- The second migration fails on its first statement, is applied at the next call, and undone. -/
def sampleCalls : List Call :=
  [.up false (List.replicate 10 .done ++ [.failed]), .up false (List.replicate 20 .done),
    .down .undefined false (List.replicate 20 .done)]

theorem sampleCalls_stack : configure [accounts, balances] = .ok () ∧
    ∀ e ∈ (runner codePoints sampleSha256 [accounts, balances]).trace sampleCalls,
      CallHonours sampleSha256 [accounts, balances] e :=
  ⟨by decide, history_is_stack (by decide) (by decide) sampleCalls⟩

/-- A configuration whose order is not that of the database. -/
def unsorted : List DatabaseMigration :=
  [⟨"b", "Create b", .text "CREATE TABLE b ()", .text "DROP TABLE b", none, none, none⟩,
    ⟨"a", "Create a", .text "CREATE TABLE a ()", .text "DROP TABLE a", none, none, none⟩]

/-- Rolling back the unsorted configuration leaves no prefix of it, and under the simple profile
`up` returns without a verification. -/
theorem unsorted_history : configure unsorted = .ok () ∧
    ((runner codePoints (fun text => text) unsorted).reached
        [.up false (List.replicate 20 .done),
          .down .undefined false (List.replicate 20 .done)]).rows.map (·.id) = ["a"] ∧
    ¬["a"] <+: unsorted.map (·.id) ∧
    ((runner codePoints sampleSha256 [accounts]).trace
        [.up true (List.replicate 20 .done)]).map
        (fun e => (e.outcome.result.toOption, e.outcome.verified)) =
      [(some ["0001-accounts"], [])] := by
  decide

end Sample

end CryptoLending.Database.MigrationRunner
