import CryptoLending.Database.MigrationPlans
import CryptoLending.Lib.StackLog

namespace CryptoLending.Database.MigrationRunner

open Lib Lib.JsValue Lib.Sorting Lib.Transaction

section Stack

variable (sha256 : String → String) (migrations : List DatabaseMigration)

/-- The first migrations are applied, and the history of that is one of a stack. -/
structure Stands (h : History) (n : Nat) : Prop where
  rows : h.rows = (migrations.take n).map (record sha256)
  log : StackLog Change.applied Change.undone (migrations.map (·.id)) h.changes n

variable {sha256 migrations} {h : History} {n : Nat}

theorem Stands.le_length (hs : Stands sha256 migrations h n) : n ≤ migrations.length := by
  have hn := hs.log.le_length
  rwa [List.length_map] at hn

theorem Stands.length_rows (hs : Stands sha256 migrations h n) : h.rows.length = n := by
  have hn := hs.le_length
  rw [hs.rows, List.length_map, List.length_take]
  omega

theorem stands_initial : Stands sha256 migrations ⟨[], []⟩ 0 := ⟨rfl, .empty⟩

theorem Stands.insert (hs : Stands sha256 migrations h n) {m : DatabaseMigration}
    (hm : migrations[n]? = some m) :
    Stands sha256 migrations (h.insert (record sha256 m)) (n + 1) where
  rows := by
    rw [History.insert, hs.rows, List.take_add_one, hm, Option.toList_some, List.map_append,
      List.map_singleton]
  log := hs.log.push (by rw [List.getElem?_map, hm, Option.map_some]; rfl)

theorem Stands.delete (hids : (migrations.map (·.id)).Nodup)
    (hs : Stands sha256 migrations h (n + 1)) {m : DatabaseMigration}
    (hm : migrations[n]? = some m) : Stands sha256 migrations (h.delete m.id) n where
  rows := by
    have hnew : m.id ∉ (migrations.take n).map (·.id) := by
      obtain ⟨hn, hm⟩ := List.getElem?_eq_some_iff.mp hm
      rw [List.map_take]
      exact StackLog.notMem_take hids (by rwa [List.length_map]) (by rw [List.getElem_map, hm])
    have hkept : ((migrations.take n).map (record sha256)).filter (fun row => row.id ≠ m.id) =
        (migrations.take n).map (record sha256) := by
      rw [List.filter_eq_self]
      intro row hrow
      obtain ⟨m', hm', rfl⟩ := List.mem_map.mp hrow
      apply decide_eq_true
      intro hid
      exact hnew (List.mem_map.mpr ⟨m', hm', hid⟩)
    rw [History.delete, hs.rows, List.take_add_one, hm, Option.toList_some, List.map_append,
      List.filter_append, hkept, List.map_singleton,
      List.filter_cons_of_neg (by simp [record]), List.filter_nil, List.append_nil]
  log := hs.log.pop (by rw [List.getElem?_map, hm, Option.map_some])

/-- After the rows of some migrations were written. -/
theorem Stands.after_inserts (hs : Stands sha256 migrations h n) (l : List DatabaseMigration)
    (hl : l <+: migrations.drop n) :
    let h' := after (l.map (fun m => History.insert (record sha256 m))) h
    Stands sha256 migrations h' (n + l.length) ∧
      h'.changes = h.changes ++ l.map (fun m => .applied m.id) := by
  induction l generalizing h n with
  | nil => exact ⟨hs, (List.append_nil _).symm⟩
  | cons m l ih =>
    obtain ⟨rest, hrest⟩ := hl
    have hm : migrations[n]? = some m := by
      rw [← List.head?_drop, ← hrest]
      rfl
    have hdrop : l <+: migrations.drop (n + 1) := by
      refine ⟨rest, ?_⟩
      rw [← List.tail_drop, ← hrest]
      rfl
    obtain ⟨hstands, hchanges⟩ := ih (hs.insert hm) hdrop
    refine ⟨?_, ?_⟩
    · rw [List.length_cons, Nat.add_comm l.length, ← Nat.add_assoc]
      exact hstands
    · refine hchanges.trans ?_
      rw [History.insert, List.append_assoc]
      rfl

/-- After the rows of the last migrations were deleted. -/
theorem Stands.after_deletes (hids : (migrations.map (·.id)).Nodup)
    (hs : Stands sha256 migrations h n) (l : List DatabaseMigration)
    (hl : l <+: (migrations.take n).reverse) :
    let h' := after (l.map (fun m => History.delete m.id)) h
    Stands sha256 migrations h' (n - l.length) ∧
      h'.changes = h.changes ++ l.map (fun m => .undone m.id) := by
  induction l generalizing h n with
  | nil => exact ⟨hs, (List.append_nil _).symm⟩
  | cons m l ih =>
    obtain ⟨rest, hrest⟩ := hl
    cases n with
    | zero => simp at hrest
    | succ n =>
      have hn : n < migrations.length := hs.le_length
      rw [List.take_add_one, List.getElem?_eq_getElem hn, Option.toList_some, List.reverse_append,
        List.reverse_singleton, List.singleton_append, List.cons_append] at hrest
      obtain ⟨hm, hrest⟩ := List.cons.inj hrest
      have hdelete := hs.delete hids (List.getElem?_eq_some_iff.mpr ⟨hn, hm.symm⟩)
      obtain ⟨hstands, hchanges⟩ := ih hdelete ⟨rest, hrest⟩
      refine ⟨?_, ?_⟩
      · rw [List.length_cons, Nat.add_sub_add_right]
        exact hstands
      · refine hchanges.trans ?_
        rw [History.delete, List.append_assoc]
        rfl

/-- The checks of the constructor tell the migrations apart. -/
theorem nodup_of_checkIdentifiers {identifiers : List String} {l : List DatabaseMigration}
    (hl : checkIdentifiers identifiers l = .ok ()) :
    (l.map (·.id)).Nodup ∧ ∀ m ∈ l, m.id ∉ identifiers := by
  induction l generalizing identifiers with
  | nil => exact ⟨List.nodup_nil, fun m hm => (by cases hm)⟩
  | cons m rest ih =>
    rw [checkIdentifiers] at hl
    obtain ⟨_, hid, hl⟩ := except_bind_ok.mp hl
    obtain ⟨_, -, hl⟩ := except_bind_ok.mp hl
    obtain ⟨hnodup, hfresh⟩ := ih hl
    constructor
    · rw [List.map_cons, List.nodup_cons]
      refine ⟨?_, hnodup⟩
      intro hmem
      obtain ⟨m', hm', hid'⟩ := List.mem_map.mp hmem
      exact hfresh m' hm' (hid' ▸ List.mem_cons_self)
    · intro m' hm'
      obtain rfl | hm' := List.mem_cons.mp hm'
      · exact failWhen_ok.mp hid
      · exact fun hmem => hfresh m' hm' (List.mem_cons_of_mem _ hmem)

theorem nodup_of_configure (hconf : configure migrations = .ok ()) :
    (migrations.map (·.id)).Nodup := by
  obtain ⟨_, hids, -⟩ := except_bind_ok.mp hconf
  exact (nodup_of_checkIdentifiers hids).1

end Stack

section Calls

variable {κ : Type} [LinearOrder κ] {collation : String → κ} {sha256 : String → String}
  {migrations : List DatabaseMigration} {railwaySimpleProfile : Bool} {h : History} {n : Nat}

/-- The database sorts the ids of the migrations as they are configured. -/
def Ascending (collation : String → κ) (migrations : List DatabaseMigration) : Prop :=
  migrations.Pairwise (fun a b => collation a.id < collation b.id)

instance : Decidable (Ascending collation migrations) :=
  inferInstanceAs (Decidable (migrations.Pairwise _))

theorem get_byId_inDatabaseOrder (descending : Bool) (hids : (h.rows.map (·.id)).Nodup)
    (id : String) :
    (byId (inDatabaseOrder collation descending h.rows)).get id = (byId h.rows).get id :=
  (JsMap.get_ofEntries_map_perm AppliedMigration.id AppliedMigration.checksum
    (sortBy_perm _ _).symm hids id).symm

theorem Stands.nodup_rows (hids : (migrations.map (·.id)).Nodup)
    (hs : Stands sha256 migrations h n) : (h.rows.map (·.id)).Nodup := by
  rw [hs.rows, List.map_map]
  exact hids.sublist ((List.take_sublist n migrations).map (·.id))

/-- What the rows say of a configured migration. -/
theorem Stands.get_byId (hids : (migrations.map (·.id)).Nodup) (hs : Stands sha256 migrations h n)
    {m : DatabaseMigration} (hm : m ∈ migrations) :
    (byId h.rows).get m.id =
      if m ∈ migrations.take n then some (expectedChecksum sha256 m) else none := by
  have hnodup := hs.nodup_rows hids
  split
  · have hrow : record sha256 m ∈ h.rows := by
      rw [hs.rows]
      exact List.mem_map_of_mem ‹_›
    exact JsMap.get_ofEntries_map AppliedMigration.id AppliedMigration.checksum h.rows hnodup hrow
  · apply JsMap.get_ofEntries_map_none AppliedMigration.id AppliedMigration.checksum h.rows hnodup
    intro row hrow hid
    rw [hs.rows] at hrow
    obtain ⟨m', hm', rfl⟩ := List.mem_map.mp hrow
    have hsame : m' = m := List.inj_on_of_nodup_map hids (List.mem_of_mem_take hm') hm hid
    exact absurd (hsame ▸ hm') ‹_›

theorem filter_missing (hids : (migrations.map (·.id)).Nodup) {appliedById : JsMap String String}
    (hget : ∀ m ∈ migrations, appliedById.get m.id =
      if m ∈ migrations.take n then some (expectedChecksum sha256 m) else none) :
    migrations.filter (fun m => appliedById.get m.id = none) = migrations.drop n := by
  have hnodup : migrations.Nodup := hids.of_map _
  have hsplit : migrations.take n ++ migrations.drop n = migrations := List.take_append_drop _ _
  have hdisjoint : ∀ m ∈ migrations.drop n, m ∉ migrations.take n := by
    rw [← hsplit, List.nodup_append] at hnodup
    exact fun m hm hmem => hnodup.2.2 m hmem m hm rfl
  have htaken : (migrations.take n).filter (fun m => appliedById.get m.id = none) = [] := by
    rw [List.filter_eq_nil_iff]
    intro m hm
    rw [hget m (List.mem_of_mem_take hm), if_pos hm]
    simp
  have hdropped : (migrations.drop n).filter (fun m => appliedById.get m.id = none) =
      migrations.drop n := by
    rw [List.filter_eq_self]
    intro m hm
    rw [hget m (List.mem_of_mem_drop hm), if_neg (hdisjoint m hm)]
    simp
  calc migrations.filter (fun m => appliedById.get m.id = none)
      = (migrations.take n ++ migrations.drop n).filter
          (fun m => appliedById.get m.id = none) := by rw [hsplit]
    _ = migrations.drop n := by rw [List.filter_append, htaken, hdropped, List.nil_append]

/-- `up` plans to apply the missing migrations. -/
theorem Stands.plans_up (hids : (migrations.map (·.id)).Nodup) (hs : Stands sha256 migrations h n) :
    Plans h ((migrations.drop n).map (fun m => History.insert (record sha256 m)))
      (· = (migrations.drop n).map (·.id))
      (up collation sha256 migrations railwaySimpleProfile) := by
  apply plans_withMigrationLock
  refine performs_first plans_statement fun _ _ => ?_
  refine performs_first (plans_appliedMigrations collation false) ?_
  rintro _ rfl
  have hget : ∀ m ∈ migrations,
      (byId (inDatabaseOrder collation false h.rows)).get m.id =
        if m ∈ migrations.take n then some (expectedChecksum sha256 m) else none := fun m hm =>
    (get_byId_inDatabaseOrder false (hs.nodup_rows hids) m.id).trans (hs.get_byId hids hm)
  rw [← filter_missing hids hget]
  apply plans_upFrom
  intro m hm c hc
  rw [hget m hm] at hc
  split at hc
  · exact (Option.some.inj hc).symm
  · cases hc

/-- The rows from the last one on. -/
theorem Stands.inDatabaseOrder_descending (hascending : Ascending collation migrations)
    (hs : Stands sha256 migrations h n) :
    inDatabaseOrder collation true h.rows =
      (migrations.take n).reverse.map (record sha256) := by
  have hranks : RanksBy (fun a b : AppliedMigration =>
      if true then compare (collation b.id) (collation a.id)
      else compare (collation a.id) (collation b.id))
      (fun a => OrderDual.toDual (collation a.id)) h.rows := by
    intro a _ b _
    exact compare_le_iff_le
  apply hranks.sortBy_eq
  · rw [hs.rows, List.map_reverse]
    exact (List.reverse_perm _).symm
  · rw [List.map_reverse, List.pairwise_reverse, List.pairwise_map]
    exact (hascending.sublist (List.take_sublist n migrations)).imp fun hlt => hlt

theorem find_id {l : List DatabaseMigration} (hids : (l.map (·.id)).Nodup) {m : DatabaseMigration}
    (hm : m ∈ l) : l.find? (fun c => c.id = m.id) = some m := by
  cases hfind : l.find? (fun c => c.id = m.id) with
  | none =>
    rw [List.find?_eq_none] at hfind
    exact absurd (decide_eq_true rfl) (hfind m hm)
  | some c =>
    have hid : c.id = m.id := by simpa using List.find?_some hfind
    rw [List.inj_on_of_nodup_map hids (List.mem_of_find?_eq_some hfind) hm hid]

/-- `down` plans to undo the last migrations. -/
theorem Stands.plans_down (hids : (migrations.map (·.id)).Nodup)
    (hascending : Ascending collation migrations) (hs : Stands sha256 migrations h n)
    {steps : Value} {count : Nat} (hcount : rollbackSteps steps = some count) :
    Plans h (((migrations.take n).reverse.take count).map (fun m => History.delete m.id))
      (· = ((migrations.take n).reverse.take count).map (·.id))
      (down collation sha256 migrations railwaySimpleProfile steps) := by
  have hread : Plans h [] (· = count)
      (liftM (orFail (rollbackSteps steps) MigrationError.invalidSteps)) := by
    apply performs_lift
    · intro a ha
      exact Option.some.inj ((orFail_ok.mp ha).symm.trans hcount)
    · intro e he
      exact absurd (hcount.symm.trans (orFail_error.mp he).1) (by simp)
  refine performs_first hread ?_
  rintro _ rfl
  apply plans_withMigrationLock
  refine performs_first plans_statement fun _ _ => ?_
  refine performs_first (plans_appliedMigrations collation true) ?_
  rintro _ rfl
  rw [hs.inDatabaseOrder_descending hascending, ← List.map_take]
  apply plans_downFrom
  intro m hm
  exact find_id hids (List.mem_of_mem_take (List.mem_reverse.mp (List.mem_of_mem_take hm)))

theorem down_invalid {steps : Value} (hcount : rollbackSteps steps = none) (s : Session) :
    exec (down collation sha256 migrations railwaySimpleProfile steps) s =
      (.error .invalidSteps, s) := by
  rw [down, hcount]
  rfl

section Verification

theorem subset_of_keeps {α : Type} {work : Run α} (hwork : Keeps Session.verified work)
    {s s' : Session} {a : α} (h : Returns work s a s') : s.verified ⊆ s'.verified := by
  have hkept := hwork s
  rw [h] at hkept
  exact fun id hid => hkept ▸ hid

theorem keeps_answer : Keeps Session.verified answer := fun _ => rfl

theorem keeps_throw {α : Type} (e : MigrationError) :
    Keeps Session.verified (throw e : Run α) := fun _ => rfl

theorem keeps_statement : Keeps Session.verified statement := by
  apply keeps_bind keeps_answer
  intro a
  cases a with
  | done => exact fun _ => rfl
  | failed => exact keeps_throw _
  | lost => exact keeps_throw _
  | unexpected => exact keeps_throw _

theorem keeps_change (f : History → History) : Keeps Session.verified (change f) := by
  apply keeps_bind keeps_answer
  intro a
  cases a with
  | done => exact fun _ => rfl
  | failed => exact keeps_throw _
  | lost => exact fun _ => rfl
  | unexpected => exact keeps_throw _

theorem keeps_executeSql (sql : Sql) : Keeps Session.verified (executeSql sql) := by
  rw [executeSql]
  induction sql.list with
  | nil => exact fun _ => rfl
  | cons _ rest ih =>
    rw [List.forM_eq_forM, List.forM_cons]
    exact keeps_bind keeps_statement fun _ => ih

/-- What a verified migration leaves behind. -/
theorem returns_assertMigrationVerified {m : DatabaseMigration} {s s' : Session} {u : Unit}
    (h : Returns (assertMigrationVerified railwaySimpleProfile m) s u s') :
    s.verified ⊆ s'.verified ∧
      (m.verifySql.getD "" ≠ "" → railwaySimpleProfile = false → m.id ∈ s'.verified) := by
  rw [assertMigrationVerified] at h
  split at h
  · obtain ⟨-, rfl⟩ := returns_pure.mp h
    refine ⟨List.Subset.refl _, ?_⟩
    intro hsql hprofile
    obtain hempty | hsimple := ‹_ ∨ _›
    · exact (hsql hempty).elim
    · exact absurd (hprofile.symm.trans hsimple) (by decide)
  · obtain ⟨a, t, ht, h⟩ := returns_bind.mp h
    have hkept : t.verified = s.verified := by
      have hkeeps := keeps_answer s
      rwa [ht] at hkeeps
    cases a with
    | done =>
      obtain rfl := returns_modify.mp h
      rw [← hkept]
      exact ⟨List.subset_append_left _ _, fun _ _ => by simp⟩
    | failed => cases h
    | lost => cases h
    | unexpected => cases h

/-- A transaction that returns did its work. -/
theorem returns_runMigration {m : DatabaseMigration} {work : Run Unit} {s s' : Session} {u : Unit}
    (h : Returns (runMigration m work) s u s') :
    ∃ t t', t.verified = s.verified ∧ Returns work t () t' ∧ t'.verified = s'.verified := by
  rw [runMigration] at h
  split at h
  · exact ⟨s, s', rfl, h, rfl⟩
  · obtain ⟨_, t, ht, h⟩ := returns_bind.mp h
    obtain ⟨before, _, hbefore, h⟩ := returns_bind.mp h
    obtain ⟨rfl, rfl⟩ := returns_get.mp hbefore
    obtain ⟨_, t', ht', h⟩ := returns_bind.mp h
    have hstart : t.verified = s.verified := by
      have hkeeps := keeps_statement s
      rwa [ht] at hkeeps
    obtain hwork | ⟨e, v, -, hback⟩ := returns_tryCatch.mp ht'
    · refine ⟨t, t', hstart, hwork, ?_⟩
      obtain ⟨a, v, hv, h⟩ := returns_bind.mp h
      cases hv
      cases hdone : t'.answers.headD .failed with
      | done =>
        rw [hdone] at h
        obtain ⟨-, rfl⟩ := returns_pure.mp h
        rfl
      | failed =>
        rw [hdone] at h
        obtain ⟨d, v, hexec, -⟩ := exec_rollback t.history (e := .statementFailed) rfl
          { t' with answers := t'.answers.tail }
        rw [Returns, hexec] at h
        cases h
      | lost =>
        rw [hdone] at h
        cases h
      | unexpected =>
        rw [hdone] at h
        obtain ⟨d, v, hexec, -⟩ := exec_rollback t.history (e := .statementFailed) rfl
          { t' with answers := t'.answers.tail }
        rw [Returns, hexec] at h
        cases h
    · rw [rollback] at hback
      obtain ⟨_, w, -, hback⟩ := returns_bind.mp hback
      obtain ⟨a, w', -, hback⟩ := returns_bind.mp hback
      cases a with
      | done => cases hback
      | failed => cases hback
      | lost => cases hback
      | unexpected => cases hback

theorem returns_applyMigration {m : DatabaseMigration} {s s' : Session} {u : Unit}
    (h : Returns (applyMigration sha256 railwaySimpleProfile m) s u s') :
    s.verified ⊆ s'.verified ∧
      (m.verifySql.getD "" ≠ "" → railwaySimpleProfile = false → m.id ∈ s'.verified) := by
  obtain ⟨t, t', ht, hwork, ht'⟩ := returns_runMigration h
  obtain ⟨_, v, hv, hwork⟩ := returns_bind.mp hwork
  obtain ⟨_, w, hw, hwork⟩ := returns_bind.mp hwork
  have hfirst := subset_of_keeps (keeps_executeSql m.upSql) hv
  obtain ⟨hmiddle, hverified⟩ := returns_assertMigrationVerified hw
  have hlast := subset_of_keeps (keeps_change _) hwork
  rw [← ht, ← ht']
  exact ⟨List.Subset.trans (List.Subset.trans hfirst hmiddle) hlast,
    fun hsql hprofile => hlast (hverified hsql hprofile)⟩

/-- The loop verifies what it passes, unless the verifier is superseded. -/
theorem returns_upFrom {appliedById : JsMap String String} {superseded ids : List String}
    {l : List DatabaseMigration} {s s' : Session}
    (h : Returns (upFrom sha256 railwaySimpleProfile appliedById superseded l) s ids s') :
    s.verified ⊆ s'.verified ∧ ∀ m ∈ l, m.verifySql.getD "" ≠ "" → m.id ∉ superseded →
      railwaySimpleProfile = false → m.id ∈ s'.verified := by
  induction l generalizing s s' ids with
  | nil =>
    obtain ⟨-, rfl⟩ := returns_pure.mp h
    exact ⟨List.Subset.refl _, fun m hm => (by cases hm)⟩
  | cons m rest ih =>
    rw [upFrom] at h
    cases hget : appliedById.get m.id with
    | some c =>
      rw [hget] at h
      obtain ⟨_, t, ht, h⟩ := returns_bind.mp h
      obtain ⟨-, rfl⟩ := returns_lift.mp ht
      dsimp only at h
      split at h
      · obtain ⟨hgrows, hrest⟩ := ih h
        refine ⟨hgrows, ?_⟩
        intro m' hm' hsql hsuper hprofile
        obtain rfl | hm' := List.mem_cons.mp hm'
        · exact (hsuper (List.contains_iff_mem.mp ‹_›)).elim
        · exact hrest m' hm' hsql hsuper hprofile
      · obtain ⟨_, t, ht, h⟩ := returns_bind.mp h
        obtain ⟨hfirst, hverified⟩ := returns_assertMigrationVerified ht
        obtain ⟨hgrows, hrest⟩ := ih h
        refine ⟨List.Subset.trans hfirst hgrows, ?_⟩
        intro m' hm' hsql hsuper hprofile
        obtain rfl | hm' := List.mem_cons.mp hm'
        · exact hgrows (hverified hsql hprofile)
        · exact hrest m' hm' hsql hsuper hprofile
    | none =>
      rw [hget] at h
      obtain ⟨_, t, ht, h⟩ := returns_bind.mp h
      obtain ⟨hfirst, hverified⟩ := returns_applyMigration ht
      obtain ⟨ids', t', ht', h⟩ := returns_bind.mp h
      obtain ⟨-, rfl⟩ := returns_pure.mp h
      obtain ⟨hgrows, hrest⟩ := ih ht'
      refine ⟨List.Subset.trans hfirst hgrows, ?_⟩
      intro m' hm' hsql hsuper hprofile
      obtain rfl | hm' := List.mem_cons.mp hm'
      · exact hgrows (hverified hsql hprofile)
      · exact hrest m' hm' hsql hsuper hprofile

theorem returns_withMigrationLock {α : Type} {work : Run α} {s s' : Session} {a : α}
    (h : Returns (withMigrationLock work) s a s') :
    ∃ t t', Returns work t a t' ∧ t'.verified = s'.verified := by
  obtain ⟨_, t₁, -, h⟩ := returns_bind.mp h
  obtain ⟨_, t, -, h⟩ := returns_bind.mp h
  obtain ⟨b, t', hwork⟩ | ⟨e, t', hwork⟩ := exec_cases work t
  · rw [Returns, exec_bind_ok (exec_attempt hwork), exec_bind_ok (exec_answer t')] at h
    simp only at h
    split at h
    · cases h
      exact ⟨t, t', hwork, rfl⟩
    · cases h
  · rw [Returns, exec_bind_ok (exec_attempt hwork), exec_bind_ok (exec_answer t')] at h
    cases h

theorem supersedes_of_mem {appliedById : JsMap String String} {id : String}
    (h : id ∈ supersededVerificationIds sha256 migrations appliedById) :
    ∃ m ∈ migrations, id ∈ m.supersedesVerificationOf.getD [] := by
  obtain ⟨m, hm, hid⟩ := List.mem_flatMap.mp h
  split at hid
  · exact ⟨m, hm, hid⟩
  · cases hid

/-- When `up` returns, what is not superseded is verified. -/
theorem returns_up {s s' : Session} {ids : List String}
    (h : Returns (up collation sha256 migrations railwaySimpleProfile) s ids s')
    (hprofile : railwaySimpleProfile = false) :
    ∀ m ∈ migrations, m.verifySql.getD "" ≠ "" →
      (∀ m' ∈ migrations, m.id ∉ m'.supersedesVerificationOf.getD []) → m.id ∈ s'.verified := by
  obtain ⟨t, t', hwork, ht'⟩ := returns_withMigrationLock h
  obtain ⟨_, _, -, hwork⟩ := returns_bind.mp hwork
  obtain ⟨_, _, -, hwork⟩ := returns_bind.mp hwork
  intro m hm hsql hnone
  rw [← ht']
  apply (returns_upFrom hwork).2 m hm hsql _ hprofile
  intro hsuper
  obtain ⟨m', hm', hid⟩ := supersedes_of_mem hsuper
  exact hnone m' hm' hid

end Verification

end Calls

end CryptoLending.Database.MigrationRunner
