import Mathlib
import CryptoLending.Outbox.OutboxEffects

namespace CryptoLending.Outbox.OutboxDelivery

open Lib Lib.Table JobOutbox OutboxDispatcher OutboxEffects

variable {γ μ : Type}

section Accounting

theorem flatten_slicesFrom {α : Type} {size : Nat} (hsize : 0 < size) {left : Nat} {jobs : List α}
    (h : jobs.length ≤ left) : (slicesFrom size left jobs).flatten = jobs := by
  induction left generalizing jobs with
  | zero =>
    obtain rfl := List.length_eq_zero_iff.mp (Nat.le_zero.mp h)
    rfl
  | succ left ih =>
    cases jobs with
    | nil => rfl
    | cons job jobs =>
      have hdrop : ((job :: jobs).drop size).length ≤ left := by
        rw [List.length_drop, List.length_cons]
        rw [List.length_cons] at h
        omega
      rw [slicesFrom, List.flatten_cons, ih hdrop, List.take_append_drop]
      simp

theorem flatten_slices {α : Type} {size : Nat} (hsize : 0 < size) (jobs : List α) :
    (slices size jobs).flatten = jobs := flatten_slicesFrom hsize le_rfl

theorem transportBatchSize_pos (transport : OutboxTransport) : 0 < transportBatchSize transport := by
  rw [transportBatchSize]
  split
  · next h =>
    obtain ⟨size, hsize, hlarge⟩ := (Option.any_eq_true _ _).mp (Bool.and_eq_true_iff.mp h).2
    rw [hsize, Option.getD_some]
    exact lt_trans Nat.zero_lt_one (of_decide_eq_true hlarge)
  · exact Nat.zero_lt_one

/-- Replacing one item changes a sum by the difference of the items. -/
theorem sum_map_set {α : Type} (f : α → Nat) {l : List α} {i : Nat} {old : α}
    (h : l[i]? = some old) (new : α) :
    ((l.set i new).map f).sum + f old = (l.map f).sum + f new := by
  induction l generalizing i with
  | nil => cases h
  | cons a l ih =>
    cases i with
    | zero =>
      obtain rfl := Option.some.inj h
      simp only [List.set_cons_zero, List.map_cons, List.sum_cons]
      omega
    | succ i =>
      have hi := ih h
      simp only [List.set_cons_succ, List.map_cons, List.sum_cons]
      omega

theorem sum_map_eraseIdx {α : Type} (f : α → Nat) {l : List α} {i : Nat} {old : α}
    (h : l[i]? = some old) : ((l.eraseIdx i).map f).sum + f old = (l.map f).sum := by
  induction l generalizing i with
  | nil => cases h
  | cons a l ih =>
    cases i with
    | zero =>
      obtain rfl := Option.some.inj h
      simp only [List.eraseIdx_cons_zero, List.map_cons, List.sum_cons]
      omega
    | succ i =>
      have hi := ih h
      simp only [List.eraseIdx_cons_succ, List.map_cons, List.sum_cons]
      omega

end Accounting

section Calls

/-- The jobs that no worker has taken, and those in work. -/
def openJobs (call : DispatchCall μ) : Nat :=
  (call.batches.map List.length).sum + (call.running.map (fun batch => batch.jobs.length)).sum

/-- A call works on the jobs it has claimed, marks what was delivered, keeps a worker while
batches wait, and accounts for every job unless it is rejected. -/
structure CallOk (delivered : List (String × μ)) (call : DispatchCall μ) : Prop where
  waiting : ∀ batch ∈ call.batches, ∀ job ∈ batch, job ∈ call.jobs
  working : ∀ batch ∈ call.running, ∀ job ∈ batch.jobs, job ∈ call.jobs
  marked : ∀ batch ∈ call.running, ∀ job ∈ batch.marked, (job.id, job.message) ∈ delivered
  workers : call.batches ≠ [] → 0 < call.idle + call.running.length
  accounted : call.rejected = false →
    call.summary.claimed = call.summary.total + openJobs call

theorem jobs_dispatchMany (transport : OutboxTransport) (jobs : List (ClaimedOutboxJob μ)) :
    (dispatchMany transport jobs).jobs = jobs ∧ (dispatchMany transport jobs).marked = [] := by
  rw [dispatchMany]
  split
  · constructor
    · rw [BatchTask.jobs, List.map_map]
      exact List.map_id jobs
    · rw [BatchTask.marked, List.filterMap_map]
      exact List.filterMap_eq_nil_iff.mpr fun _ _ => rfl
  · exact ⟨rfl, rfl⟩

theorem CallOk.mono {delivered more : List (String × μ)} {call : DispatchCall μ}
    (h : CallOk delivered call) : CallOk (delivered ++ more) call :=
  { h with marked := fun batch hbatch job hjob =>
      List.mem_append_left _ (h.marked batch hbatch job hjob) }

/-- Every move of a call keeps it in order. -/
theorem CallOk.move {transport : OutboxTransport} {delivered : List (String × μ)}
    {call call' : DispatchCall μ} {new : List (ClaimedOutboxJob μ)} (h : CallOk delivered call)
    (hmove : CallMove transport call call' new) :
    CallOk (delivered ++ new.map (fun job => (job.id, job.message))) call' := by
  cases hmove with
  | signal aborted crashed => exact CallOk.mono ⟨h.waiting, h.working, h.marked, h.workers, h.accounted⟩
  | ended hempty =>
    refine CallOk.mono ⟨h.waiting, h.working, h.marked, fun hbatches => absurd hempty hbatches,
      h.accounted⟩
  | lost jobs batches hbatches hidle =>
    refine CallOk.mono ⟨?_, h.working, h.marked, fun _ => ?_, fun hrejected => ?_⟩
    · intro batch hbatch
      apply h.waiting
      rw [hbatches]
      exact List.mem_cons_of_mem _ hbatch
    · exact Nat.add_pos_left hidle _
    · have haccounted := h.accounted hrejected
      rw [openJobs, hbatches, List.map_cons, List.sum_cons] at haccounted
      rw [total_loseLeases]
      change call.summary.claimed = _ + ((batches.map List.length).sum +
        (call.running.map (fun batch => batch.jobs.length)).sum)
      omega
  | took jobs batches hbatches hidle =>
    obtain ⟨hjobs, hmarked⟩ := jobs_dispatchMany transport jobs
    refine CallOk.mono ⟨?_, ?_, ?_, fun _ => ?_, fun hrejected => ?_⟩
    · intro batch hbatch
      apply h.waiting
      rw [hbatches]
      exact List.mem_cons_of_mem _ hbatch
    · refine List.forall_mem_append.mpr ⟨h.working, List.forall_mem_singleton.mpr ?_⟩
      rw [hjobs]
      apply h.waiting
      rw [hbatches]
      exact List.mem_cons_self
    · refine List.forall_mem_append.mpr ⟨h.marked, List.forall_mem_singleton.mpr ?_⟩
      rw [hmarked]
      simp
    · rw [List.length_append, List.length_singleton]
      omega
    · have haccounted := h.accounted hrejected
      rw [openJobs, hbatches, List.map_cons, List.sum_cons] at haccounted
      change call.summary.claimed = call.summary.total + ((batches.map List.length).sum +
        ((call.running ++ [_]).map (fun batch : BatchTask μ => batch.jobs.length)).sum)
      rw [List.map_append, List.sum_append, List.map_singleton, List.sum_singleton, hjobs]
      omega
  | worked position old new rejected summary delivered hold hjobs hmarked hclaimed hcount =>
    have holdmem := List.mem_of_getElem? hold
    refine ⟨h.waiting, ?_, ?_, ?_, fun hrejected => ?_⟩
    · intro batch hbatch job hjob
      obtain hmem | rfl := List.mem_or_eq_of_mem_set hbatch
      · exact h.working batch hmem job hjob
      · exact h.working old holdmem job (hjobs job hjob)
    · intro batch hbatch job hjob
      obtain hmem | rfl := List.mem_or_eq_of_mem_set hbatch
      · exact List.mem_append_left _ (h.marked batch hmem job hjob)
      · cases hmarked job hjob with
        | inl hbefore => exact List.mem_append_left _ (h.marked old holdmem job hbefore)
        | inr hnew => exact List.mem_append_right _ (List.mem_map.mpr ⟨job, hnew, rfl⟩)
    · intro hbatches
      change 0 < call.idle + (call.running.set position new).length
      rw [List.length_set]
      exact h.workers hbatches
    · obtain ⟨hbefore, hnow⟩ := Bool.or_eq_false_iff.mp hrejected
      have haccounted := h.accounted hbefore
      have htotal := hcount hnow
      have hsum := sum_map_set (fun batch : BatchTask μ => batch.jobs.length) hold new
      rw [openJobs] at haccounted
      change summary.claimed = summary.total + ((call.batches.map List.length).sum +
        ((call.running.set position new).map (fun batch => batch.jobs.length)).sum)
      omega
  | finished position hdone =>
    refine CallOk.mono ⟨h.waiting, ?_, ?_, fun _ => ?_, fun hrejected => ?_⟩
    · exact fun batch hbatch => h.working batch (List.mem_of_mem_eraseIdx hbatch)
    · exact fun batch hbatch => h.marked batch (List.mem_of_mem_eraseIdx hbatch)
    · exact Nat.add_pos_left (Nat.succ_pos _) _
    · have haccounted := h.accounted hrejected
      have hsum : ((call.running.eraseIdx position).map
          (fun batch : BatchTask μ => batch.jobs.length)).sum + 0 = _ :=
        sum_map_eraseIdx (fun batch : BatchTask μ => batch.jobs.length) hdone
      rw [openJobs] at haccounted
      change call.summary.claimed = call.summary.total + ((call.batches.map List.length).sum +
        ((call.running.eraseIdx position).map (fun batch => batch.jobs.length)).sum)
      omega

theorem callOk_newCall (options : OutboxDispatcherOptions) (transport : OutboxTransport)
    (delivered : List (String × μ)) (aborted rejected : Bool)
    (jobs : List (ClaimedOutboxJob μ)) :
    CallOk delivered (newCall options transport aborted rejected jobs) := by
  have hflatten := flatten_slices (transportBatchSize_pos transport) jobs
  refine ⟨?_, by simp [newCall], by simp [newCall], ?_, ?_⟩
  · intro batch hbatch job hjob
    change job ∈ jobs
    rw [← hflatten]
    exact List.mem_flatten.mpr ⟨batch, hbatch, hjob⟩
  · intro hbatches
    have hlength := List.length_pos_iff.mpr hbatches
    have hconcurrency := options.concurrency_range.1
    exact Nat.add_pos_left (lt_min hconcurrency hlength) _
  · intro _
    have hlength := congrArg List.length hflatten
    rw [List.length_flatten] at hlength
    change jobs.length = 0 + (_ + 0)
    simp only [newCall]
    omega

/-- All claimed jobs are accounted for when a call returns. -/
def Returned (call : DispatchCall μ) : Prop :=
  call.crashed = false ∧ call.rejected = false ∧ call.idle = 0 ∧ call.running = []

theorem CallOk.returned {delivered : List (String × μ)} {call : DispatchCall μ}
    (h : CallOk delivered call) (hreturned : Returned call) :
    call.summary.claimed = call.summary.total := by
  obtain ⟨-, hrejected, hidle, hrunning⟩ := hreturned
  have haccounted := h.accounted hrejected
  have hbatches : call.batches = [] := by
    by_contra hne
    have hworkers := h.workers hne
    rw [hidle, hrunning, List.length_nil] at hworkers
    omega
  rw [haccounted, openJobs, hbatches, hrunning]
  rfl

end Calls

section Rows

variable (options : OutboxDispatcherOptions) (readRow : γ → Option μ)

/-- A row counts its failures; a published row was delivered and a failed row has used its
attempts; only the latest claim can hold the lock, and only of a pending row. -/
structure RowOk (s : OutboxState γ μ) (row : OutboxRow γ) : Prop where
  attempts : row.attempts = s.failures.count row.id
  pending : row.status = .pending → row.attempts < options.maxAttempts
  published : row.status = .published →
    ∃ message, readRow row.stored = some message ∧ (row.id, message) ∈ s.delivered
  failed : row.status = .failed → row.attempts = options.maxAttempts
  locked : ∀ lock ∈ row.lock, ∀ claim ∈ s.claims, claim.2 = row.id → claim.1 ≤ lock.lockedBy

/-- The row that a job of a call was claimed from. As long as the call holds the lock, the
attempts are those of the claim. -/
def ClaimedFrom (rows : List (OutboxRow γ)) (index : Nat) (job : ClaimedOutboxJob μ) : Prop :=
  ∃ row ∈ rows, row.id = job.id ∧ readRow row.stored = some job.message ∧
    ∀ lock ∈ row.lock, lock.lockedBy = index → row.attempts = job.attempts

structure OutboxOk (s : OutboxState γ μ) : Prop where
  ids : (s.rows.map OutboxRow.id).Nodup
  rows : ∀ row ∈ s.rows, RowOk options readRow s row
  failures : ∀ id ∈ s.failures, id ∈ s.rows.map OutboxRow.id
  claims : ∀ claim ∈ s.claims, claim.1 < s.calls.length
  calls : ∀ call ∈ s.calls, CallOk s.delivered call
  jobs : ∀ index call, s.calls[index]? = some call →
    ∀ job ∈ call.jobs, ClaimedFrom readRow s.rows index job

variable {options readRow} {s : OutboxState γ μ}

theorem OutboxOk.row_eq (h : OutboxOk options readRow s) {row other : OutboxRow γ}
    (hrow : row ∈ s.rows) (hother : other ∈ s.rows) (hid : row.id = other.id) : row = other :=
  List.inj_on_of_nodup_map h.ids hrow hother hid

theorem jobs_move {transport : OutboxTransport} {call call' : DispatchCall μ}
    {new : List (ClaimedOutboxJob μ)} (h : CallMove transport call call' new) :
    call'.jobs = call.jobs := by
  cases h <;> rfl

/-- The calls after one of them has moved. -/
theorem OutboxOk.calls_move {transport : OutboxTransport} (h : OutboxOk options readRow s)
    {index : Nat} {call call' : DispatchCall μ} {new : List (ClaimedOutboxJob μ)}
    (hcall : s.calls[index]? = some call) (hmove : CallMove transport call call' new) :
    ∀ other ∈ s.calls.set index call',
      CallOk (s.delivered ++ new.map (fun job => (job.id, job.message))) other := by
  intro other hother
  obtain hmem | rfl := List.mem_or_eq_of_mem_set hother
  · exact (h.calls other hmem).mono
  · exact (h.calls call (List.mem_of_getElem? hcall)).move hmove

theorem OutboxOk.jobs_move {transport : OutboxTransport} (h : OutboxOk options readRow s)
    {index : Nat} {call call' : DispatchCall μ} {new : List (ClaimedOutboxJob μ)}
    (hcall : s.calls[index]? = some call) (hmove : CallMove transport call call' new)
    {other : Nat} {moved : DispatchCall μ}
    (hmoved : (s.calls.set index call')[other]? = some moved) :
    ∀ job ∈ moved.jobs, ClaimedFrom readRow s.rows other job := by
  rw [List.getElem?_set] at hmoved
  split at hmoved
  · next hindex =>
    obtain rfl := hindex
    rw [Option.ite_none_right_eq_some] at hmoved
    obtain rfl := Option.some.inj hmoved.2
    rw [OutboxDelivery.jobs_move hmove]
    exact h.jobs index call hcall
  · exact h.jobs other moved hmoved

/-- An update that keeps the identity of rows and takes locks away keeps the origin of jobs. -/
theorem ClaimedFrom.unlock {rows : List (OutboxRow γ)} {index : Nat} {job : ClaimedOutboxJob μ}
    {p : OutboxRow γ → Bool} {f : OutboxRow γ → OutboxRow γ}
    (hf : ∀ row, (f row).id = row.id ∧ (f row).stored = row.stored ∧ (f row).lock = none)
    (h : ClaimedFrom readRow rows index job) : ClaimedFrom readRow (updateWhere p f rows) index job := by
  obtain ⟨row, hrow, hid, hread, hattempts⟩ := h
  cases hp : p row with
  | true =>
    obtain ⟨hfid, hfstored, hflock⟩ := hf row
    refine ⟨f row, mem_updateWhere.mpr (Or.inl ⟨row, hrow, hp, rfl⟩), by rw [hfid, hid],
      by rw [hfstored, hread], ?_⟩
    rw [hflock]
    intro lock hlock
    cases hlock
  | false => exact ⟨row, mem_updateWhere.mpr (Or.inr ⟨hrow, hp⟩), hid, hread, hattempts⟩

theorem RowOk.mark {now : Nat} {job : ClaimedOutboxJob μ} {row : OutboxRow γ}
    (h : RowOk options readRow s row) (hid : row.id = job.id)
    (hread : readRow row.stored = some job.message)
    (hdelivered : (job.id, job.message) ∈ s.delivered) :
    RowOk options readRow s (markRow now row) where
  attempts := h.attempts
  pending hstatus := by cases hstatus
  published _ := ⟨job.message, hread, by rw [← hid] at hdelivered; exact hdelivered⟩
  failed hstatus := by cases hstatus
  locked lock hlock := by cases hlock

/-- The failure of a job that holds the lock with the attempts of the row. -/
theorem RowOk.fail {now delay : Nat} {errorCode : OutboxFailureCode} {job : ClaimedOutboxJob μ}
    {row : OutboxRow γ} (h : RowOk options readRow s row) (hid : row.id = job.id)
    (hpending : row.status = .pending) (hattempts : row.attempts = job.attempts) :
    RowOk options readRow { s with failures := s.failures ++ [job.id] }
      (failRow now errorCode (isTerminal options job) delay row) := by
  have hbound := h.pending hpending
  rw [hattempts] at hbound
  refine ⟨?_, ?_, ?_, ?_, ?_⟩
  · change row.attempts + 1 = (s.failures ++ [job.id]).count row.id
    rw [List.count_append, ← h.attempts, hid, List.count_singleton_self]
  · intro hstatus
    change (if isTerminal options job then OutboxStatus.failed else .pending) = .pending at hstatus
    change row.attempts + 1 < options.maxAttempts
    cases hterminal : isTerminal options job with
    | true =>
      rw [hterminal] at hstatus
      cases hstatus
    | false =>
      have hretry := of_decide_eq_false hterminal
      omega
  · intro hstatus
    change (if isTerminal options job then OutboxStatus.failed else .pending) = .published
      at hstatus
    split at hstatus
    · cases hstatus
    · cases hstatus
  · intro hstatus
    change (if isTerminal options job then OutboxStatus.failed else .pending) = .failed at hstatus
    change row.attempts + 1 = options.maxAttempts
    cases hterminal : isTerminal options job with
    | true =>
      have hlast := of_decide_eq_true hterminal
      omega
    | false =>
      rw [hterminal] at hstatus
      cases hstatus
  · intro lock hlock
    cases hlock

/-- The logs may grow by deliveries, and by failures and claims of other rows. -/
theorem RowOk.logs {t : OutboxState γ μ} {row : OutboxRow γ} (h : RowOk options readRow s row)
    (hfailures : t.failures.count row.id = s.failures.count row.id)
    (hdelivered : ∀ d ∈ s.delivered, d ∈ t.delivered)
    (hclaims : ∀ claim ∈ t.claims, claim.2 = row.id → claim ∈ s.claims) :
    RowOk options readRow t row where
  attempts := by rw [hfailures, h.attempts]
  pending := h.pending
  published hstatus := by
    obtain ⟨message, hread, hmem⟩ := h.published hstatus
    exact ⟨message, hread, hdelivered _ hmem⟩
  failed := h.failed
  locked lock hlock claim hclaim hid := h.locked lock hlock claim (hclaims claim hclaim hid) hid

theorem RowOk.claim {now token : Nat} {claims : List (Nat × String)} {row : OutboxRow γ}
    (h : RowOk options readRow s row) (hclaims : ∀ claim ∈ claims, claim.1 ≤ token) :
    RowOk options readRow { s with claims := claims } (claimRow options now token row) where
  attempts := h.attempts
  pending := h.pending
  published := h.published
  failed := h.failed
  locked lock hlock claim hclaim _ := by
    obtain rfl := Option.some.inj hlock
    exact hclaims claim hclaim

theorem rowOk_newRow {now : Nat} {id : String} {stored : γ}
    (h : OutboxOk options readRow s) (hid : ∀ row ∈ s.rows, row.id ≠ id) :
    RowOk options readRow s (newRow now id stored) where
  attempts := by
    refine (List.count_eq_zero.mpr fun hfailed => ?_).symm
    obtain ⟨row, hrow, hrowid⟩ := List.mem_map.mp (h.failures id hfailed)
    exact hid row hrow hrowid
  pending _ := options.maxAttempts_range.1
  published hstatus := by cases hstatus
  failed hstatus := by cases hstatus
  locked lock hlock := by cases hlock

end Rows

section Invariant

variable {options : OutboxDispatcherOptions} {transport : OutboxTransport}
  {readRow : γ → Option μ} {s : OutboxState γ μ}

theorem outboxOk_inserted {id : String} {stored : γ} (h : OutboxOk options readRow s)
    (hid : ∀ row ∈ s.rows, row.id ≠ id) :
    OutboxOk options readRow { s with rows := s.rows ++ [newRow s.now id stored] } := by
  refine ⟨?_, ?_, ?_, h.claims, h.calls, ?_⟩
  · rw [List.map_append, List.map_singleton, List.nodup_append]
    refine ⟨h.ids, List.nodup_singleton _, fun key hkey other hother => ?_⟩
    obtain ⟨row, hrow, rfl⟩ := List.mem_map.mp hkey
    rw [List.mem_singleton.mp hother]
    exact hid row hrow
  · change ∀ row ∈ s.rows ++ [newRow s.now id stored], RowOk options readRow _ row
    refine List.forall_mem_append.mpr ⟨?_, ?_⟩
    · exact fun row hrow => (h.rows row hrow).logs rfl (fun _ hd => hd) (fun _ hclaim _ => hclaim)
    · refine List.forall_mem_singleton.mpr ?_
      exact (rowOk_newRow h hid).logs rfl (fun _ hd => hd) (fun _ hclaim _ => hclaim)
  · intro failed hfailed
    rw [List.map_append]
    exact List.mem_append_left _ (h.failures failed hfailed)
  · intro index call hcall job hjob
    obtain ⟨row, hrow, horigin⟩ := h.jobs index call hcall job hjob
    exact ⟨row, List.mem_append_left _ hrow, horigin⟩

theorem jobs_snoc (h : OutboxOk options readRow s) {rows : List (OutboxRow γ)}
    {new : DispatchCall μ}
    (hold : ∀ index < s.calls.length, ∀ job, ClaimedFrom readRow s.rows index job →
      ClaimedFrom readRow rows index job)
    (hnew : ∀ job ∈ new.jobs, ClaimedFrom readRow rows s.calls.length job)
    {index : Nat} {call : DispatchCall μ} (hcall : (s.calls ++ [new])[index]? = some call) :
    ∀ job ∈ call.jobs, ClaimedFrom readRow rows index job := by
  rw [List.getElem?_append] at hcall
  split at hcall
  · next hlt => exact fun job hjob => hold index hlt job (h.jobs index call hcall job hjob)
  · next hge =>
    obtain ⟨hindex, hcall⟩ := List.getElem?_eq_some_iff.mp hcall
    rw [List.length_singleton] at hindex
    obtain rfl : index = s.calls.length := by omega
    rw [List.getElem_singleton] at hcall
    rw [← hcall]
    exact hnew

theorem claims_snoc (h : OutboxOk options readRow s) (new : DispatchCall μ) :
    ∀ claim ∈ s.claims, claim.1 < (s.calls ++ [new]).length := by
  intro claim hclaim
  rw [List.length_append]
  exact Nat.lt_add_right _ (h.claims claim hclaim)

theorem outboxOk_opened (h : OutboxOk options readRow s) (aborted rejected : Bool) :
    OutboxOk options readRow
      { s with calls := s.calls ++ [newCall options transport aborted rejected []] } := by
  refine ⟨h.ids, ?_, h.failures, claims_snoc h _, ?_, ?_⟩
  · exact fun row hrow => (h.rows row hrow).logs rfl (fun _ hd => hd) (fun _ hclaim _ => hclaim)
  · exact List.forall_mem_append.mpr
      ⟨h.calls, List.forall_mem_singleton.mpr (callOk_newCall options transport _ _ _ _)⟩
  · exact fun index call hcall => jobs_snoc h (fun _ _ _ horigin => horigin)
      (fun job hjob => by cases hjob) hcall

/-- A claim takes the rows from the calls that held them before. -/
theorem ClaimedFrom.relock {index token now : Nat} {skipped : List String}
    {rows : List (OutboxRow γ)} {job : ClaimedOutboxJob μ}
    (h : ClaimedFrom readRow rows index job) (hindex : index < token) :
    ClaimedFrom readRow (claimRows options now token skipped rows) index job := by
  obtain ⟨row, hrow, hid, hread, hattempts⟩ := h
  cases hp : ((candidates options now skipped rows).map OutboxRow.id).contains row.id with
  | true =>
    refine ⟨claimRow options now token row, mem_updateWhere.mpr (Or.inl ⟨row, hrow, hp, rfl⟩),
      hid, hread, fun lock hlock hlocked => ?_⟩
    obtain rfl := Option.some.inj hlock
    exact absurd hlocked (Nat.ne_of_gt hindex)
  | false => exact ⟨row, mem_updateWhere.mpr (Or.inr ⟨hrow, hp⟩), hid, hread, hattempts⟩

theorem claimedFrom_claimRows {now token : Nat} {skipped : List String}
    {rows : List (OutboxRow γ)} {jobs : List (ClaimedOutboxJob μ)}
    (h : (candidates options now skipped rows).mapM (claimedJob readRow) = some jobs) :
    ∀ job ∈ jobs, ClaimedFrom readRow (claimRows options now token skipped rows) token job := by
  intro job hjob
  obtain ⟨row, hrow, hclaimed⟩ := ListOption.mem_of_mapM h hjob
  obtain ⟨message, hread, rfl⟩ := Option.map_eq_some_iff.mp hclaimed
  have hcandidate := List.contains_iff_mem.mpr (List.mem_map_of_mem (f := OutboxRow.id) hrow)
  exact ⟨claimRow options now token row,
    mem_updateWhere.mpr (Or.inl ⟨row, (mem_candidates options hrow).1, hcandidate, rfl⟩),
    rfl, hread, fun _ _ _ => rfl⟩

theorem outboxOk_claimed {skipped : List String} {jobs : List (ClaimedOutboxJob μ)}
    (h : OutboxOk options readRow s)
    (hjobs : (candidates options s.now skipped s.rows).mapM (claimedJob readRow) = some jobs) :
    OutboxOk options readRow { s with
      rows := claimRows options s.now s.calls.length skipped s.rows
      calls := s.calls ++ [newCall options transport false false jobs]
      claims := s.claims ++
        (candidates options s.now skipped s.rows).map (fun row => (s.calls.length, row.id)) } := by
  refine ⟨?_, ?_, ?_, ?_, ?_, ?_⟩
  · change ((claimRows options _ _ _ _).map OutboxRow.id).Nodup
    rw [map_id_claimRows]
    exact h.ids
  · change ∀ row ∈ updateWhere _ _ s.rows, RowOk options readRow _ row
    refine forall_updateWhere h.rows ?_ ?_
    · intro row hrow hp hok
      refine RowOk.logs (hok.claim ?_) rfl (fun _ hd => hd) (fun _ hclaim _ => hclaim)
      refine List.forall_mem_append.mpr ⟨fun claim hclaim => le_of_lt (h.claims claim hclaim), fun claim hclaim => ?_⟩
      obtain ⟨_, _, rfl⟩ := List.mem_map.mp hclaim
      exact le_rfl
    · intro row hrow hp hok
      refine hok.logs rfl (fun _ hd => hd) ?_
      intro claim hclaim hid
      cases List.mem_append.mp hclaim with
      | inl hbefore => exact hbefore
      | inr hnow =>
        obtain ⟨other, hother, rfl⟩ := List.mem_map.mp hnow
        have hcandidate := List.contains_iff_mem.mpr (List.mem_map_of_mem (f := OutboxRow.id) hother)
        rw [show other.id = row.id from hid, hp] at hcandidate
        cases hcandidate
  · intro id hid
    change id ∈ (claimRows options _ _ _ _).map OutboxRow.id
    rw [map_id_claimRows]
    exact h.failures id hid
  · refine List.forall_mem_append.mpr ⟨claims_snoc h _, fun claim hclaim => ?_⟩
    obtain ⟨_, _, rfl⟩ := List.mem_map.mp hclaim
    rw [List.length_append]
    exact Nat.lt_add_of_pos_right Nat.zero_lt_one
  · exact List.forall_mem_append.mpr
      ⟨h.calls, List.forall_mem_singleton.mpr (callOk_newCall options transport _ _ _ _)⟩
  · exact fun index call hcall => jobs_snoc h (fun _ hlt _ horigin => horigin.relock hlt)
      (claimedFrom_claimRows hjobs) hcall

theorem outboxOk_moved {index : Nat} {call call' : DispatchCall μ}
    {delivered : List (ClaimedOutboxJob μ)} (h : OutboxOk options readRow s)
    (hcall : s.calls[index]? = some call) (hmove : CallMove transport call call' delivered) :
    OutboxOk options readRow { s with
      calls := s.calls.set index call'
      delivered := s.delivered ++ delivered.map (fun job => (job.id, job.message)) } := by
  refine ⟨h.ids, ?_, h.failures, ?_, h.calls_move hcall hmove, ?_⟩
  · exact fun row hrow => (h.rows row hrow).logs rfl (fun _ hd => List.mem_append_left _ hd)
      (fun _ hclaim _ => hclaim)
  · change ∀ claim ∈ s.claims, claim.1 < (s.calls.set index call').length
    rw [List.length_set]
    exact h.claims
  · exact fun other moved hmoved => h.jobs_move hcall hmove hmoved

theorem calls_move_nil (h : OutboxOk options readRow s) {index : Nat}
    {call call' : DispatchCall μ} (hcall : s.calls[index]? = some call)
    (hmove : CallMove transport call call' []) :
    ∀ other ∈ s.calls.set index call', CallOk s.delivered other := by
  have hcalls := h.calls_move hcall hmove
  rwa [List.map_nil, List.append_nil] at hcalls

/-- The row that a call owns is the one its job was claimed from. -/
theorem OutboxOk.owned (h : OutboxOk options readRow s) {index : Nat} {call : DispatchCall μ}
    {job : ClaimedOutboxJob μ} (hcall : s.calls[index]? = some call) (hjob : job ∈ call.jobs)
    {row : OutboxRow γ} (hrow : row ∈ s.rows) (howned : isOwnedBy job.id index row = true) :
    row.id = job.id ∧ readRow row.stored = some job.message ∧ row.status = .pending ∧
      row.attempts = job.attempts := by
  obtain ⟨hid, hpending, lock, hlock, hlocked⟩ := isOwnedBy_iff.mp howned
  obtain ⟨origin, horigin, horiginid, hread, hattempts⟩ := h.jobs index call hcall job hjob
  obtain rfl := h.row_eq hrow horigin (hid.trans horiginid.symm)
  exact ⟨hid, hread, hpending, hattempts lock hlock hlocked⟩

theorem outboxOk_marked {index : Nat} {call call' : DispatchCall μ} {batch : BatchTask μ}
    {job : ClaimedOutboxJob μ} (h : OutboxOk options readRow s)
    (hcall : s.calls[index]? = some call) (hmove : CallMove transport call call' [])
    (hbatch : batch ∈ call.running) (hjob : job ∈ batch.marked) (hwork : job ∈ call.jobs) :
    OutboxOk options readRow { s with
      calls := s.calls.set index call'
      rows := updateWhere (isOwnedBy job.id index) (markRow s.now) s.rows } := by
  have hids : (updateWhere (isOwnedBy job.id index) (markRow s.now) s.rows).map OutboxRow.id =
      s.rows.map OutboxRow.id := map_updateWhere fun _ => rfl
  have hdelivered := (h.calls call (List.mem_of_getElem? hcall)).marked batch hbatch job hjob
  refine ⟨?_, ?_, ?_, ?_, calls_move_nil h hcall hmove, ?_⟩
  · rw [hids]
    exact h.ids
  · change ∀ row ∈ updateWhere _ _ s.rows, RowOk options readRow _ row
    refine forall_updateWhere h.rows ?_ ?_
    · intro row hrow howned hok
      obtain ⟨hid, hread, -, -⟩ := h.owned hcall hwork hrow howned
      exact (hok.mark hid hread hdelivered).logs rfl (fun _ hd => hd) (fun _ hclaim _ => hclaim)
    · exact fun row _ _ hok => hok.logs rfl (fun _ hd => hd) (fun _ hclaim _ => hclaim)
  · rw [hids]
    exact h.failures
  · change ∀ claim ∈ s.claims, claim.1 < (s.calls.set index call').length
    rw [List.length_set]
    exact h.claims
  · exact fun other moved hmoved otherJob hotherJob =>
      (h.jobs_move hcall hmove hmoved otherJob hotherJob).unlock fun _ => ⟨rfl, rfl, rfl⟩

theorem outboxOk_recorded {index : Nat} {call call' : DispatchCall μ}
    {job : ClaimedOutboxJob μ} {errorCode : OutboxFailureCode} (h : OutboxOk options readRow s)
    (hcall : s.calls[index]? = some call) (hmove : CallMove transport call call' [])
    (hwork : job ∈ call.jobs) :
    OutboxOk options readRow { s with
      calls := s.calls.set index call'
      rows := updateWhere (isOwnedBy job.id index)
        (failRow s.now errorCode (isTerminal options job) (retryDelayMs options job)) s.rows
      failures := if s.rows.any (isOwnedBy job.id index) then s.failures ++ [job.id]
        else s.failures } := by
  have hids : (updateWhere (isOwnedBy job.id index) (failRow s.now errorCode
      (isTerminal options job) (retryDelayMs options job)) s.rows).map OutboxRow.id =
      s.rows.map OutboxRow.id := map_updateWhere fun _ => rfl
  refine ⟨?_, ?_, ?_, ?_, calls_move_nil h hcall hmove, ?_⟩
  · rw [hids]
    exact h.ids
  · change ∀ row ∈ updateWhere _ _ s.rows, RowOk options readRow _ row
    refine forall_updateWhere h.rows ?_ ?_
    · intro row hrow howned hok
      obtain ⟨hid, -, hpending, hattempts⟩ := h.owned hcall hwork hrow howned
      have hany : s.rows.any (isOwnedBy job.id index) = true :=
        List.any_eq_true.mpr ⟨row, hrow, howned⟩
      refine (hok.fail hid hpending hattempts).logs ?_ (fun _ hd => hd) (fun _ hclaim _ => hclaim)
      simp only [hany, if_true]
    · intro row hrow howned hok
      refine hok.logs ?_ (fun _ hd => hd) (fun _ hclaim _ => hclaim)
      cases hany : s.rows.any (isOwnedBy job.id index) with
      | false => rfl
      | true =>
        obtain ⟨other, hother, hotherowned⟩ := List.any_eq_true.mp hany
        have hne : job.id ≠ row.id := fun hid => by
          obtain rfl := h.row_eq hrow hother (hid.symm.trans (isOwnedBy_iff.mp hotherowned).1.symm)
          rw [howned] at hotherowned
          cases hotherowned
        change (s.failures ++ [job.id]).count row.id = _
        rw [List.count_append, List.count_eq_zero.mpr (fun hmem => hne (List.mem_singleton.mp hmem).symm),
          Nat.add_zero]
  · change ∀ id ∈ (if s.rows.any (isOwnedBy job.id index) then _ else _), id ∈ List.map _ _
    rw [hids]
    split
    · refine List.forall_mem_append.mpr ⟨h.failures, List.forall_mem_singleton.mpr ?_⟩
      obtain ⟨row, hrow, hid, -⟩ := h.jobs index call hcall job hwork
      exact List.mem_map.mpr ⟨row, hrow, hid⟩
    · exact h.failures
  · change ∀ claim ∈ s.claims, claim.1 < (s.calls.set index call').length
    rw [List.length_set]
    exact h.claims
  · exact fun other moved hmoved otherJob hotherJob =>
      (h.jobs_move hcall hmove hmoved otherJob hotherJob).unlock fun _ => ⟨rfl, rfl, rfl⟩

theorem BatchTask.mem_jobs_of_marked {batch : BatchTask μ} {job : ClaimedOutboxJob μ}
    (h : job ∈ batch.marked) : job ∈ batch.jobs := by
  cases batch with
  | sending jobs => cases h
  | settling tasks =>
    obtain ⟨task, htask, hmarked⟩ := List.mem_filterMap.mp h
    cases task with
    | publishing _ => cases hmarked
    | recording _ _ => cases hmarked
    | marking other =>
      obtain rfl := Option.some.inj hmarked
      exact List.mem_map.mpr ⟨_, htask, rfl⟩

/-- Every effect keeps the outbox in order. -/
theorem OutboxOk.effect {act : OutboxStep γ} {t : OutboxState γ μ}
    (h : OutboxOk options readRow s) (heffect : Effect options transport readRow s act t) :
    OutboxOk options readRow t := by
  cases heffect with
  | same => exact h
  | inserted id stored hid => exact outboxOk_inserted h hid
  | waited time =>
    exact ⟨h.ids, fun row hrow => (h.rows row hrow).logs rfl (fun _ hd => hd)
      (fun _ hclaim _ => hclaim), h.failures, h.claims, h.calls, h.jobs⟩
  | opened _ aborted rejected => exact outboxOk_opened h aborted rejected
  | claimed _ skipped jobs _ hjobs => exact outboxOk_claimed h hjobs
  | moved _ index call call' delivered _ hcall hmove => exact outboxOk_moved h hcall hmove
  | marked _ index call call' batch job _ hcall hmove hbatch hjob =>
    exact outboxOk_marked h hcall hmove hbatch hjob
      ((h.calls call (List.mem_of_getElem? hcall)).working batch hbatch job
        (BatchTask.mem_jobs_of_marked hjob))
  | recorded _ index call call' batch job errorCode _ hcall hmove hbatch hjob =>
    exact outboxOk_recorded h hcall hmove
      ((h.calls call (List.mem_of_getElem? hcall)).working batch hbatch job hjob)

theorem outbox_invariant (options : OutboxDispatcherOptions) (transport : OutboxTransport)
    (readRow : γ → Option μ) :
    (outbox options transport readRow).Invariant (OutboxOk options readRow) where
  initial := by
    refine ⟨List.nodup_nil, ?_, ?_, ?_, ?_, ?_⟩ <;> simp [outbox]
  step s act h := h.effect (step_effect act)

end Invariant

end CryptoLending.Outbox.OutboxDelivery
