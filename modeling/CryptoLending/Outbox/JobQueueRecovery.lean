import CryptoLending.Outbox.JobQueueConsumer

namespace CryptoLending.Outbox.JobQueueRecovery

open Lib Lib.Table JobQueueConsumer

variable {γ : Type}

section Rows

/-- From the end of its delay and of its lock on, the row can be claimed. -/
def Reclaimable (row : QueueRow γ) : Prop :=
  ∀ time, row.availableAt ≤ time → (∀ lock ∈ row.lock, lock.lockedUntil ≤ time) →
    isClaimable time row = true

def Held (now : Nat) (row : QueueRow γ) : Prop :=
  row.status = .processing ∧ ∃ lock, row.lock = some lock ∧ now < lock.lockedUntil

/-- The row is failed, held by a lock that has not ended, or can be claimed in time. -/
def NotStuck (now : Nat) (row : QueueRow γ) : Prop :=
  row.status = .failed ∨ Held now row ∨ Reclaimable row

/-- The shapes of rows: waiting without a lock, in work under a lock, or failed. -/
inductive Shape (row : QueueRow γ) : Prop where
  | queued (status : row.status = .queued) (lock : row.lock = none)
  | processing (lock : Lock) (status : row.status = .processing) (locked : row.lock = some lock)
  | failed (status : row.status = .failed)

/-- A waiting row has attempts left, and so has a row in work once its lock has ended. -/
def Recoverable (now : Nat) (row : QueueRow γ) : Prop :=
  (row.status = .queued → row.attempts < maxAttempts) ∧
    (row.status = .processing → maxAttempts ≤ row.attempts →
      ∀ lock ∈ row.lock, now < lock.lockedUntil)

theorem isClaimable_queued {time : Nat} {row : QueueRow γ} (hstatus : row.status = .queued) :
    isClaimable time row = true ↔ row.availableAt ≤ time ∧ row.attempts < maxAttempts := by
  simp [isClaimable, hstatus]

theorem isClaimable_processing {time : Nat} {row : QueueRow γ} {lock : Lock}
    (hstatus : row.status = .processing) (hlock : row.lock = some lock) :
    isClaimable time row = true ↔
      row.availableAt ≤ time ∧ lock.lockedUntil ≤ time ∧ row.attempts < maxAttempts := by
  simp [isClaimable, hstatus, hlock]

theorem reclaimable_of_queued {row : QueueRow γ} (hstatus : row.status = .queued)
    (hlock : row.lock = none) : Reclaimable row ↔ row.attempts < maxAttempts := by
  constructor
  · intro h
    have hclaim := h row.availableAt le_rfl (by rw [hlock]; simp)
    exact ((isClaimable_queued hstatus).mp hclaim).2
  · intro h time htime _
    exact (isClaimable_queued hstatus).mpr ⟨htime, h⟩

theorem reclaimable_of_processing {row : QueueRow γ} {lock : Lock}
    (hstatus : row.status = .processing) (hlock : row.lock = some lock) :
    Reclaimable row ↔ row.attempts < maxAttempts := by
  constructor
  · intro h
    have hclaim := h (max row.availableAt lock.lockedUntil) (le_max_left _ _) (by
      intro other hother
      rw [hlock, Option.mem_some_iff] at hother
      rw [← hother]
      exact le_max_right _ _)
    exact ((isClaimable_processing hstatus hlock).mp hclaim).2.2
  · intro h time htime huntil
    exact (isClaimable_processing hstatus hlock).mpr ⟨htime, huntil lock (by rw [hlock]; rfl), h⟩

theorem notStuck_iff {now : Nat} {row : QueueRow γ} (h : Shape row) :
    NotStuck now row ↔ Recoverable now row := by
  cases h with
  | queued hstatus hlock =>
    rw [NotStuck, reclaimable_of_queued hstatus hlock]
    simp [Held, Recoverable, hstatus]
  | processing lock hstatus hlock =>
    rw [NotStuck, reclaimable_of_processing hstatus hlock]
    simp only [Held, Recoverable, hstatus, hlock, Option.mem_some_iff, forall_eq', reduceCtorEq,
      false_or, true_and, false_implies, forall_const, Option.some.injEq, exists_eq_left']
    omega
  | failed hstatus => simp [NotStuck, Recoverable, hstatus]

end Rows

section Steps

/-- The steps after which no row is stuck: time does not outlast the lock of a row without
attempts left, and a settlement of such a row is by its last claim. -/
def Timely (s : Queue γ) : QueueStep γ → Prop
  | .wait time => ∀ row ∈ s.rows, row.status = .processing → maxAttempts ≤ row.attempts →
      ∀ lock ∈ row.lock, max s.now time < lock.lockedUntil
  | .settle index position => ∀ call ∈ s.calls[index]?, ∀ job ∈ call.unsettled[position]?,
      ∀ row ∈ s.rows, isSettledBy call.consumerId job row = true →
        maxAttempts ≤ row.attempts → maxAttempts ≤ job.attempts
  | _ => True

variable (isReviewed : γ → Bool)

def Shaped (s : Queue γ) : Prop := ∀ row ∈ s.rows, Shape row

theorem shape_newRow (now : Nat) (id : String) (job : γ) : Shape (newRow now id job) :=
  .queued rfl rfl

theorem shape_claimRow (now : Nat) (consumerId : String) (row : QueueRow γ) :
    Shape (claimRow now consumerId row) := .processing _ rfl rfl

theorem shape_settleRow (now : Nat) (job : QueuedJob γ) (code : JobErrorCode) (row : QueueRow γ) :
    Shape (settleRow now job code row) := by
  by_cases h : isTerminal job = true
  · exact .failed (by rw [settleRow, if_pos h])
  · exact .queued (by rw [settleRow, if_neg h]) rfl

/-- What a step does to the rows. -/
theorem rows_settle (s : Queue γ) (index position : Nat) :
    (settle isReviewed s index position = s ∧
      (s.calls[index]?.bind (fun call => call.unsettled[position]?)) = none) ∨
    ∃ call job, s.calls[index]? = some call ∧ call.unsettled[position]? = some job ∧
      settle isReviewed s index position = settleJob isReviewed s index call job position := by
  rw [settle]
  cases hcall : s.calls[index]? with
  | none => exact Or.inl ⟨rfl, rfl⟩
  | some call =>
    cases hjob : call.unsettled[position]? with
    | none =>
      refine Or.inl ⟨?_, hjob⟩
      simp only [hjob]
    | some job =>
      refine Or.inr ⟨call, job, rfl, hjob, ?_⟩
      simp only [hjob]

theorem now_crash (s : Queue γ) (index : Nat) :
    (crash s index).now = s.now ∧ (crash s index).rows = s.rows := by
  rw [crash]
  cases s.calls[index]? with
  | none => exact ⟨rfl, rfl⟩
  | some call => exact ⟨rfl, rfl⟩

theorem shaped_step (s : Queue γ) (act : QueueStep γ) (h : Shaped s) :
    Shaped (step isReviewed s act) := by
  cases act with
  | publish id job =>
    change ∀ row ∈ (publish s id job).rows, Shape row
    rw [publish]
    split
    · exact h
    · exact List.forall_mem_append.mpr ⟨h, List.forall_mem_singleton.mpr (shape_newRow _ _ _)⟩
  | wait time => exact h
  | claimBatch consumerId skipped =>
    exact forall_updateWhere h (fun row _ _ _ => shape_claimRow _ _ _) (fun _ _ _ hrow => hrow)
  | settle index position =>
    change Shaped (settle isReviewed s index position)
    obtain ⟨hsame, -⟩ | ⟨call, job, -, -, hsettle⟩ := rows_settle isReviewed s index position
    · rw [hsame]
      exact h
    · rw [hsettle]
      exact forall_updateWhere h (fun row _ _ _ => shape_settleRow _ _ _ _)
        (fun _ _ _ hrow => hrow)
  | crash index =>
    change ∀ row ∈ (crash s index).rows, Shape row
    rw [(now_crash s index).2]
    exact h
  | cleanupExpired skipped => exact fun row hrow => h row (List.mem_filter.mp hrow).1

theorem recoverable_claimRow (now : Nat) (consumerId : String) (row : QueueRow γ) :
    Recoverable now (claimRow now consumerId row) := by
  constructor
  · intro hstatus
    cases hstatus
  · intro _ _ lock hlock
    obtain rfl := Option.some.inj hlock
    exact Nat.lt_add_of_pos_right (by decide)

theorem recoverable_settleRow {now : Nat} {job : QueuedJob γ} {code : JobErrorCode}
    {row : QueueRow γ} : Recoverable now (settleRow now job code row) ↔
      (maxAttempts ≤ row.attempts → maxAttempts ≤ job.attempts) := by
  by_cases h : isTerminal job = true
  · have hjob : maxAttempts ≤ job.attempts := of_decide_eq_true h
    simp [Recoverable, settleRow, h, hjob]
  · have hjob : ¬ maxAttempts ≤ job.attempts := fun hle => h (decide_eq_true hle)
    simp [Recoverable, settleRow, h, hjob]

def AllRecoverable (s : Queue γ) : Prop := ∀ row ∈ s.rows, Recoverable s.now row

/-- One step leaves every row recoverable exactly when it is timely. -/
theorem recoverable_step (s : Queue γ) (act : QueueStep γ) (h : AllRecoverable s) :
    AllRecoverable (step isReviewed s act) ↔ Timely s act := by
  cases act with
  | publish id job =>
    refine iff_of_true ?_ trivial
    change AllRecoverable (publish s id job)
    rw [publish]
    split
    · exact h
    · refine List.forall_mem_append.mpr ⟨h, List.forall_mem_singleton.mpr ?_⟩
      exact ⟨fun _ => show 0 < maxAttempts by decide, fun hstatus => by cases hstatus⟩
  | wait time =>
    constructor
    · exact fun hnew row hrow => (hnew row hrow).2
    · exact fun htimely row hrow => ⟨(h row hrow).1, htimely row hrow⟩
  | claimBatch consumerId skipped =>
    refine iff_of_true ?_ trivial
    exact forall_updateWhere h (fun row _ _ _ => recoverable_claimRow _ _ _)
      (fun _ _ _ hrow => hrow)
  | settle index position =>
    change AllRecoverable (settle isReviewed s index position) ↔ _
    obtain ⟨hsame, hnone⟩ | ⟨call, job, hcall, hjob, hsettle⟩ :=
      rows_settle isReviewed s index position
    · rw [hsame]
      refine iff_of_true h fun call hcall job hjob => ?_
      rw [Option.bind_eq_none_iff] at hnone
      rw [hnone call hcall] at hjob
      cases hjob
    · rw [hsettle]
      constructor
      · intro hnew call' hcall' job' hjob' row hrow hsettled
        obtain rfl := Option.some.inj (hcall.symm.trans hcall')
        obtain rfl := Option.some.inj (hjob.symm.trans hjob')
        exact recoverable_settleRow.1 (hnew _ (mem_updateWhere.mpr
          (Or.inl ⟨row, hrow, hsettled, rfl⟩)))
      · intro htimely
        exact forall_updateWhere h
          (fun row hrow hsettled _ =>
            recoverable_settleRow.2 (htimely call hcall job hjob row hrow hsettled))
          (fun _ _ _ hrow => hrow)
  | crash index =>
    refine iff_of_true ?_ trivial
    obtain ⟨hnow, hrows⟩ := now_crash s index
    intro row hrow
    change row ∈ (crash s index).rows at hrow
    change Recoverable (crash s index).now row
    rw [hrows] at hrow
    rw [hnow]
    exact h row hrow
  | cleanupExpired skipped =>
    refine iff_of_true ?_ trivial
    exact fun row hrow => h row (List.mem_filter.mp hrow).1

end Steps

section Runs

variable (isReviewed : γ → Bool)

def NoRowStuck (s : Queue γ) : Prop := ∀ row ∈ s.rows, NotStuck s.now row

theorem noRowStuck_iff {s : Queue γ} (h : Shaped s) : NoRowStuck s ↔ AllRecoverable s :=
  forall₂_congr fun row hrow => notStuck_iff (h row hrow)

theorem shaped_invariant : Machine.Invariant (queue isReviewed) Shaped where
  initial := by simp [queue, Shaped]
  step s act h := shaped_step isReviewed s act h

/-- No row is ever stuck in a run exactly when all steps of the run are timely. -/
theorem no_row_stuck_iff_timely (acts : List (QueueStep γ)) :
    (∀ e ∈ (queue isReviewed).trace acts, NoRowStuck e.after) ↔
      ∀ e ∈ (queue isReviewed).trace acts, Timely e.before e.call := by
  apply Machine.trace_iff (shaped_invariant isReviewed)
  · simp [queue, NoRowStuck]
  · intro s act hshaped hrows
    have hstep := shaped_step isReviewed s act hshaped
    rw [noRowStuck_iff hshaped] at hrows
    exact (noRowStuck_iff hstep).trans (recoverable_step isReviewed s act hrows)

/-- Five claims of one row, after each of which the consumer crashes. -/
def fiveCrashes : List (QueueStep Unit) :=
  QueueStep.publish "job" () :: (List.range 5).flatMap (fun n =>
    [.claimBatch "consumer" [], .crash n, .wait (seconds (31 * (n + 1)))])

/-- The fifth lock ends, and no claim takes the row again. -/
theorem row_stuck_after_five_crashes :
    ∃ row ∈ ((queue (fun _ : Unit => true)).reached fiveCrashes).rows,
      ¬ NotStuck ((queue (fun _ : Unit => true)).reached fiveCrashes).now row := by
  have hrows : ((queue (fun _ : Unit => true)).reached fiveCrashes).rows =
      [⟨"job", (), .processing, 5, 0, some ⟨"consumer", seconds 154⟩, 0, none, none⟩] := by
    decide
  have hnow : ((queue (fun _ : Unit => true)).reached fiveCrashes).now = seconds 155 := by
    decide
  rw [hrows, hnow]
  refine ⟨_, List.mem_singleton_self _, ?_⟩
  rw [notStuck_iff (.processing _ rfl rfl)]
  intro h
  have hlate := h.2 rfl le_rfl _ rfl
  revert hlate
  decide

end Runs

end CryptoLending.Outbox.JobQueueRecovery
