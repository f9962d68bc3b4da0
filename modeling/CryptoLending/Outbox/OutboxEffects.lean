import CryptoLending.Outbox.OutboxDispatcher

namespace CryptoLending.Outbox.OutboxEffects

open Lib Lib.Table JobOutbox OutboxDispatcher

variable {γ μ : Type}

section Moves

/-- What one step does to a call. A batch in work keeps only jobs that it had, those it marks
have been delivered, and a call that is not rejected accounts for every job that leaves. -/
inductive CallMove (transport : OutboxTransport) (call : DispatchCall μ) :
    DispatchCall μ → List (ClaimedOutboxJob μ) → Prop where
  | signal (aborted crashed : Bool) :
    CallMove transport call { call with aborted := aborted, crashed := crashed } []
  | ended (h : call.batches = []) :
    CallMove transport call { call with idle := call.idle - 1 } []
  | lost (jobs : List (ClaimedOutboxJob μ)) (batches : List (List (ClaimedOutboxJob μ)))
      (h : call.batches = jobs :: batches) (hidle : 0 < call.idle) :
    CallMove transport call
      { call with batches := batches, summary := loseLeases jobs.length call.summary } []
  | took (jobs : List (ClaimedOutboxJob μ)) (batches : List (List (ClaimedOutboxJob μ)))
      (h : call.batches = jobs :: batches) (hidle : 0 < call.idle) :
    CallMove transport call { call with
      batches := batches
      idle := call.idle - 1
      running := call.running ++ [dispatchMany transport jobs] } []
  | worked (position : Nat) (old new : BatchTask μ) (rejected : Bool)
      (summary : OutboxDispatchSummary) (delivered : List (ClaimedOutboxJob μ))
      (hold : call.running[position]? = some old)
      (hjobs : ∀ job ∈ new.jobs, job ∈ old.jobs)
      (hmarked : ∀ job ∈ new.marked, job ∈ old.marked ∨ job ∈ delivered)
      (hclaimed : summary.claimed = call.summary.claimed)
      (hcount : rejected = false →
        summary.total + new.jobs.length = call.summary.total + old.jobs.length) :
    CallMove transport call { setBatch call position new with
      rejected := call.rejected || rejected
      summary := summary } delivered
  | finished (position : Nat) (h : call.running[position]? = some (.settling [])) :
    CallMove transport call (finishBatch call position) []

/-- What one step does to the system: the rows change with an insertion, with a claim, and with
the two statements of a job in work, under the token of its call. -/
inductive Effect (options : OutboxDispatcherOptions) (transport : OutboxTransport)
    (readRow : γ → Option μ) (s : OutboxState γ μ) : OutboxStep γ → OutboxState γ μ → Prop where
  | same (act : OutboxStep γ) : Effect options transport readRow s act s
  | inserted (id : String) (stored : γ) (h : ∀ row ∈ s.rows, row.id ≠ id) :
    Effect options transport readRow s (.insert id stored)
      { s with rows := s.rows ++ [newRow s.now id stored] }
  | waited (time : Nat) :
    Effect options transport readRow s (.wait time) { s with now := max s.now time }
  | opened (act : OutboxStep γ) (aborted rejected : Bool) (h : act.caller = none) :
    Effect options transport readRow s act
      { s with calls := s.calls ++ [newCall options transport aborted rejected []] }
  | claimed (act : OutboxStep γ) (skipped : List String) (jobs : List (ClaimedOutboxJob μ))
      (hact : act.caller = none)
      (h : (candidates options s.now skipped s.rows).mapM (claimedJob readRow) = some jobs) :
    Effect options transport readRow s act { s with
      rows := claimRows options s.now s.calls.length skipped s.rows
      calls := s.calls ++ [newCall options transport false false jobs]
      claims := s.claims ++
        (candidates options s.now skipped s.rows).map (fun row => (s.calls.length, row.id)) }
  | moved (act : OutboxStep γ) (index : Nat) (call call' : DispatchCall μ)
      (delivered : List (ClaimedOutboxJob μ)) (hact : act.caller = some index)
      (hcall : s.calls[index]? = some call) (h : CallMove transport call call' delivered) :
    Effect options transport readRow s act { s with
      calls := s.calls.set index call'
      delivered := s.delivered ++ delivered.map (fun job => (job.id, job.message)) }
  | marked (act : OutboxStep γ) (index : Nat) (call call' : DispatchCall μ) (batch : BatchTask μ)
      (job : ClaimedOutboxJob μ) (hact : act.caller = some index)
      (hcall : s.calls[index]? = some call) (h : CallMove transport call call' [])
      (hbatch : batch ∈ call.running) (hjob : job ∈ batch.marked) :
    Effect options transport readRow s act { s with
      calls := s.calls.set index call'
      rows := updateWhere (isOwnedBy job.id index) (markRow s.now) s.rows }
  | recorded (act : OutboxStep γ) (index : Nat) (call call' : DispatchCall μ)
      (batch : BatchTask μ) (job : ClaimedOutboxJob μ) (errorCode : OutboxFailureCode)
      (hact : act.caller = some index) (hcall : s.calls[index]? = some call)
      (h : CallMove transport call call' []) (hbatch : batch ∈ call.running)
      (hjob : job ∈ batch.jobs) :
    Effect options transport readRow s act { s with
      calls := s.calls.set index call'
      rows := updateWhere (isOwnedBy job.id index)
        (failRow s.now errorCode (isTerminal options job) (retryDelayMs options job)) s.rows
      failures := if s.rows.any (isOwnedBy job.id index) then s.failures ++ [job.id]
        else s.failures }

end Moves

section Moving

variable {transport : OutboxTransport} {call : DispatchCall μ} {position task : Nat}
  {tasks : List (JobTask μ)}

theorem move_takeBatch (hidle : call.idle ≠ 0) :
    CallMove transport call (takeBatch transport call) [] := by
  rw [takeBatch]
  split
  · next hbatches => exact .ended hbatches
  · next jobs batches hbatches =>
    split
    · exact .lost jobs batches hbatches (Nat.pos_of_ne_zero hidle)
    · exact .took jobs batches hbatches (Nat.pos_of_ne_zero hidle)

/-- A batch in work of a call that is not rejected by the step. -/
theorem move_worked {old new : BatchTask μ} {summary : OutboxDispatchSummary}
    {delivered : List (ClaimedOutboxJob μ)} (hold : call.running[position]? = some old)
    (hjobs : ∀ job ∈ new.jobs, job ∈ old.jobs)
    (hmarked : ∀ job ∈ new.marked, job ∈ old.marked ∨ job ∈ delivered)
    (hclaimed : summary.claimed = call.summary.claimed)
    (hcount : summary.total + new.jobs.length = call.summary.total + old.jobs.length) :
    CallMove transport call { setBatch call position new with summary := summary } delivered := by
  have h : CallMove transport call _ _ := .worked position old new false summary delivered hold
    hjobs hmarked hclaimed (fun _ => hcount)
  rwa [Bool.or_false] at h

theorem total_loseLeases (n : Nat) (summary : OutboxDispatchSummary) :
    (loseLeases n summary).total = summary.total + n := by
  simp only [OutboxDispatchSummary.total, loseLeases]
  omega

theorem jobs_recordAll (errorCode : OutboxFailureCode) (jobs : List (ClaimedOutboxJob μ)) :
    (BatchTask.settling (recordAll errorCode jobs)).jobs = jobs := by
  rw [BatchTask.jobs, recordAll, List.map_map]
  exact List.map_id jobs

theorem marked_recordAll (errorCode : OutboxFailureCode) (jobs : List (ClaimedOutboxJob μ)) :
    (BatchTask.settling (recordAll errorCode jobs)).marked = [] := by
  rw [BatchTask.marked, recordAll, List.filterMap_map]
  exact List.filterMap_eq_nil_iff.mpr fun _ _ => rfl

theorem move_batchFailed {jobs : List (ClaimedOutboxJob μ)} (errorCode : OutboxFailureCode)
    (hold : call.running[position]? = some (.sending jobs)) :
    CallMove transport call (batchFailed call position jobs errorCode) [] := by
  rw [batchFailed]
  split
  · apply move_worked hold
    · simp [BatchTask.jobs]
    · simp [BatchTask.marked]
    · rfl
    · rw [total_loseLeases]
      rfl
  · apply move_worked hold
    · rw [jobs_recordAll]
      exact fun _ hjob => hjob
    · rw [marked_recordAll]
      simp
    · rfl
    · rw [jobs_recordAll]
      rfl

theorem job_settleResult (job : ClaimedOutboxJob μ) (result : BatchResult) :
    (settleResult job result).job = job := by
  cases result with
  | none => rfl
  | some outcome => cases outcome <;> rfl

theorem marked_settleResult (job : ClaimedOutboxJob μ) (result : BatchResult) :
    (settleResult job result).marked = if isPublished result then some job else none := by
  cases result with
  | none => rfl
  | some outcome => cases outcome <;> rfl

/-- The jobs that the transport has published. -/
def publishedJobs (results : List (ClaimedOutboxJob μ × BatchResult)) :
    List (ClaimedOutboxJob μ) := (results.filter (fun p => isPublished p.2)).map Prod.fst

theorem jobs_settleResults (results : List (ClaimedOutboxJob μ × BatchResult)) :
    (BatchTask.settling (results.map (fun p => settleResult p.1 p.2))).jobs =
      results.map Prod.fst := by
  rw [BatchTask.jobs, List.map_map]
  exact List.map_congr_left fun p _ => job_settleResult p.1 p.2

theorem marked_settleResults (results : List (ClaimedOutboxJob μ × BatchResult)) :
    (BatchTask.settling (results.map (fun p => settleResult p.1 p.2))).marked =
      publishedJobs results := by
  rw [BatchTask.marked, List.filterMap_map, publishedJobs]
  induction results with
  | nil => rfl
  | cons p results ih =>
    rw [List.filterMap_cons, Function.comp_apply, marked_settleResult, ih]
    cases hp : isPublished p.2 with
    | true =>
      simp only [List.filter_cons, hp]
      rfl
    | false =>
      simp only [List.filter_cons, hp]
      rfl

theorem move_batchReturned {results : List (ClaimedOutboxJob μ × BatchResult)}
    (hold : call.running[position]? = some (.sending (results.map Prod.fst))) :
    CallMove transport call (batchReturned call position results) (publishedJobs results) := by
  have hsub : ∀ job ∈ publishedJobs results, job ∈ results.map Prod.fst :=
    fun job hjob => (List.filter_sublist.map Prod.fst).subset hjob
  rw [batchReturned]
  split
  · have hjobs : (BatchTask.settling ((results.filter (fun p => isPublished p.2)).map
        (fun p => JobTask.marking p.1))).jobs = publishedJobs results := by
      rw [BatchTask.jobs, List.map_map]
      rfl
    have hlength : (results.filter (fun p => isPublished p.2)).length ≤ results.length :=
      List.length_filter_le _ _
    apply move_worked hold
    · rw [hjobs]
      exact hsub
    · intro job hjob
      rw [BatchTask.marked, List.filterMap_map, List.mem_filterMap] at hjob
      obtain ⟨p, hp, hpjob⟩ := hjob
      obtain rfl := Option.some.inj hpjob
      exact Or.inr (List.mem_map_of_mem hp)
    · rfl
    · rw [hjobs, total_loseLeases, BatchTask.jobs, publishedJobs, List.length_map, List.length_map]
      omega
  · apply move_worked hold
    · rw [jobs_settleResults]
      exact fun _ hjob => hjob
    · rw [marked_settleResults]
      exact fun _ hjob => Or.inr hjob
    · rfl
    · rw [jobs_settleResults]
      rfl

theorem jobs_eraseIdx {jobTask : JobTask μ} (htask : tasks[task]? = some jobTask) :
    (∀ job ∈ (BatchTask.settling (tasks.eraseIdx task)).jobs,
        job ∈ (BatchTask.settling tasks).jobs) ∧
      (∀ job ∈ (BatchTask.settling (tasks.eraseIdx task)).marked,
        job ∈ (BatchTask.settling tasks).marked) ∧
      (BatchTask.settling (tasks.eraseIdx task)).jobs.length + 1 =
        (BatchTask.settling tasks).jobs.length := by
  have hsub := List.eraseIdx_sublist tasks task
  obtain ⟨hlt, -⟩ := List.getElem?_eq_some_iff.mp htask
  refine ⟨fun job hjob => (hsub.map _).subset hjob, fun job hjob => (hsub.filterMap _).subset hjob,
    ?_⟩
  rw [BatchTask.jobs, BatchTask.jobs, List.length_map, List.length_map,
    List.length_eraseIdx_of_lt hlt]
  omega

theorem tasksOf_eq_some (h : tasksOf call position = some tasks) :
    call.running[position]? = some (.settling tasks) := by
  rw [tasksOf] at h
  split at h
  · next tasks' hrunning =>
    rw [hrunning, Option.some.inj h]
  · cases h

/-- A task that ends is counted once, or rejects the call. -/
theorem move_endTask {jobTask : JobTask μ} {rejected : Bool} {summary : OutboxDispatchSummary}
    (hold : call.running[position]? = some (.settling tasks))
    (htask : tasks[task]? = some jobTask) (hclaimed : summary.claimed = call.summary.claimed)
    (hcount : rejected = false → summary.total = call.summary.total + 1) :
    CallMove transport call (endTask call position task tasks rejected summary) [] := by
  obtain ⟨hjobs, hmarked, hlength⟩ := jobs_eraseIdx htask
  rw [endTask]
  apply CallMove.worked position _ _ rejected summary [] hold hjobs
    (fun job hjob => Or.inl (hmarked job hjob)) hclaimed
  intro hanswered
  have htotal := hcount hanswered
  omega

theorem jobs_set {jobTask new : JobTask μ} (htask : tasks[task]? = some jobTask)
    (hjob : new.job = jobTask.job) :
    (BatchTask.settling (tasks.set task new)).jobs = (BatchTask.settling tasks).jobs := by
  rw [BatchTask.jobs, BatchTask.jobs, List.map_set, hjob]
  apply List.ext_getElem?
  intro n
  rw [List.getElem?_set]
  split
  · next hn =>
    obtain ⟨hlt, -⟩ := List.getElem?_eq_some_iff.mp htask
    rw [List.length_map, if_pos hlt, ← hn, List.getElem?_map, htask]
    rfl
  · rfl

theorem mem_marked_set {new : JobTask μ} {job : ClaimedOutboxJob μ}
    (h : job ∈ (BatchTask.settling (tasks.set task new)).marked) :
    job ∈ (BatchTask.settling tasks).marked ∨ new.marked = some job := by
  obtain ⟨jobTask, htask, hjob⟩ := List.mem_filterMap.mp h
  obtain hmem | rfl := List.mem_or_eq_of_mem_set htask
  · exact Or.inl (List.mem_filterMap.mpr ⟨jobTask, hmem, hjob⟩)
  · exact Or.inr hjob

/-- The task of a job changes and the job stays. -/
theorem move_setTask {jobTask new : JobTask μ} {delivered : List (ClaimedOutboxJob μ)}
    (hold : call.running[position]? = some (.settling tasks))
    (htask : tasks[task]? = some jobTask) (hjob : new.job = jobTask.job)
    (hmarked : ∀ job, new.marked = some job → job ∈ delivered) :
    CallMove transport call (setBatch call position (.settling (tasks.set task new)))
      delivered := by
  have hjobs := jobs_set htask hjob
  exact move_worked hold (fun job hj => by rwa [hjobs] at hj)
    (fun job hj => (mem_marked_set hj).imp_right (hmarked job)) rfl
    (show call.summary.total + _ = _ by rw [hjobs])

end Moving

section Inversion

variable (options : OutboxDispatcherOptions) (transport : OutboxTransport)
  (readRow : γ → Option μ) (s : OutboxState γ μ)

theorem withCall_cases (index : Nat) (f : DispatchCall μ → OutboxState γ μ) :
    withCall s index f = s ∨
      ∃ call, s.calls[index]? = some call ∧ withCall s index f = f call := by
  rw [withCall]
  cases hcall : s.calls[index]? with
  | none => exact Or.inl rfl
  | some call =>
    cases hcrashed : call.crashed with
    | true => exact Or.inl (by simp only [hcrashed, if_true])
    | false => exact Or.inr ⟨call, rfl, by simp only [hcrashed]; rfl⟩

variable {options transport readRow s}

theorem effect_setCall {act : OutboxStep γ} {index : Nat} {call call' : DispatchCall μ}
    (hact : act.caller = some index) (hcall : s.calls[index]? = some call)
    (h : CallMove transport call call' []) :
    Effect options transport readRow s act (setCall s index call') := by
  have heffect : Effect options transport readRow s act _ :=
    .moved act index call call' [] hact hcall h
  rwa [List.map_nil, List.append_nil] at heffect

theorem effect_insert (id : String) (stored : γ) :
    Effect options transport readRow s (.insert id stored) (insertJob s id stored) := by
  rw [insertJob]
  split
  · exact .same _
  · next h =>
    apply Effect.inserted
    intro row hrow hid
    exact h (List.any_eq_true.mpr ⟨row, hrow, decide_eq_true hid⟩)

theorem effect_dispatchBatch (aborted : Bool) (skipped : List String) :
    Effect options transport readRow s (.dispatchBatch aborted skipped)
      (dispatchBatch options transport readRow s aborted skipped) := by
  rw [dispatchBatch]
  split
  · exact .opened _ true false rfl
  · rw [claimBatch]
    split
    · exact .opened _ false true rfl
    · next jobs hjobs => exact .claimed _ skipped jobs rfl hjobs

theorem effect_answerBatch {act : OutboxStep γ} {index position : Nat} {call : DispatchCall μ}
    {jobs : List (ClaimedOutboxJob μ)} (outcome : Except OutboxFailureCode (List BatchResult))
    (hact : act.caller = some index) (hcall : s.calls[index]? = some call)
    (hold : call.running[position]? = some (.sending jobs)) :
    Effect options transport readRow s act (answerBatch s index position outcome call jobs) := by
  cases outcome with
  | error errorCode => exact effect_setCall hact hcall (move_batchFailed errorCode hold)
  | ok results =>
    rw [answerBatch]
    split
    · exact effect_setCall hact hcall (move_batchFailed _ hold)
    · next hlength =>
      rw [not_not] at hlength
      rw [← List.map_fst_zip hlength.ge] at hold
      have h : Effect options transport readRow s act _ :=
        .moved act index call _ _ hact hcall (move_batchReturned hold)
      rwa [publishedJobs, List.map_map] at h

theorem effect_answerJob {act : OutboxStep γ} {index position task : Nat} {call : DispatchCall μ}
    {tasks : List (JobTask μ)} {job : ClaimedOutboxJob μ}
    (outcome : Except OutboxFailureCode Unit) (hact : act.caller = some index)
    (hcall : s.calls[index]? = some call) (hold : tasksOf call position = some tasks)
    (htask : tasks[task]? = some (.publishing job)) :
    Effect options transport readRow s act
      (answerJob s index position task outcome call tasks job) := by
  have hrunning := tasksOf_eq_some hold
  cases outcome with
  | ok u =>
    have hmove : CallMove transport call
        (setBatch call position (.settling (tasks.set task (.marking job)))) [job] :=
      move_setTask hrunning htask rfl
        (fun other hother => List.mem_singleton.mpr (Option.some.inj hother).symm)
    exact Effect.moved act index call _ _ hact hcall hmove
  | error errorCode =>
    rw [answerJob]
    split
    · have hmove : CallMove transport call
          (endTask call position task tasks false (loseLeases 1 call.summary)) [] :=
        move_endTask hrunning htask rfl (fun _ => total_loseLeases 1 _)
      rw [endTask, Bool.or_false] at hmove
      exact effect_setCall hact hcall hmove
    · apply effect_setCall hact hcall
      exact move_setTask hrunning htask rfl (fun other hother => by cases hother)

theorem total_countMarked (marked : Bool) (summary : OutboxDispatchSummary) :
    (countMarked marked summary).total = summary.total + 1 := by
  cases marked with
  | true =>
    simp only [countMarked, OutboxDispatchSummary.total, if_true]
    omega
  | false => exact total_loseLeases 1 summary

theorem claimed_countMarked (marked : Bool) (summary : OutboxDispatchSummary) :
    (countMarked marked summary).claimed = summary.claimed := by
  cases marked <;> rfl

theorem total_countTransition (transition : OutboxFailureTransition)
    (summary : OutboxDispatchSummary) :
    (countTransition transition summary).total = summary.total + 1 := by
  cases transition with
  | retry =>
    simp only [countTransition, OutboxDispatchSummary.total]
    omega
  | failed =>
    simp only [countTransition, OutboxDispatchSummary.total]
    omega
  | leaseLost => exact total_loseLeases 1 summary

theorem claimed_countTransition (transition : OutboxFailureTransition)
    (summary : OutboxDispatchSummary) :
    (countTransition transition summary).claimed = summary.claimed := by
  cases transition <;> rfl

/-- A failure is recorded exactly when a row is owned by the call. -/
theorem recordFailure_leaseLost {now index delay : Nat} {id : String}
    {errorCode : OutboxFailureCode} {terminal : Bool} {rows : List (OutboxRow γ)} :
    (recordFailure now id index errorCode terminal delay rows).2 = .leaseLost ↔
      rows.any (isOwnedBy id index) = false := by
  rw [recordFailure, ← Bool.not_eq_true, List.any_eq_true]
  cases hfind : rows.find? (isOwnedBy id index) with
  | none =>
    rw [List.find?_eq_none] at hfind
    refine iff_of_true rfl ?_
    rintro ⟨row, hrow, howned⟩
    exact hfind row hrow howned
  | some row =>
    refine iff_of_false ?_ (not_not.mpr ⟨row, List.mem_of_find?_eq_some hfind,
      List.find?_some hfind⟩)
    cases terminal <;> simp

theorem effect_settleTask {act : OutboxStep γ} {index position task : Nat} {rejected : Bool}
    {call : DispatchCall μ} {tasks : List (JobTask μ)} {jobTask : JobTask μ}
    (hact : act.caller = some index) (hcall : s.calls[index]? = some call)
    (hold : tasksOf call position = some tasks) (htask : tasks[task]? = some jobTask) :
    Effect options transport readRow s act
      (settleTask options s index position task rejected call tasks jobTask) := by
  have hrunning := tasksOf_eq_some hold
  have hbatch := List.mem_of_getElem? hrunning
  have hmem := List.mem_of_getElem? htask
  cases jobTask with
  | publishing job => exact .same act
  | marking job =>
    have hmove : CallMove transport call (endTask call position task tasks rejected
        (countMarked (markPublished s.now job.id index s.rows).2 call.summary)) [] :=
      move_endTask hrunning htask (claimed_countMarked _ _) (fun _ => total_countMarked _ _)
    exact .marked act index call _ _ job hact hcall hmove hbatch
      (List.mem_filterMap.mpr ⟨_, hmem, rfl⟩)
  | recording job errorCode =>
    have hmove : CallMove transport call (endTask call position task tasks rejected
        (countTransition (recordFailure s.now job.id index errorCode (isTerminal options job)
          (retryDelayMs options job) s.rows).2 call.summary)) [] :=
      move_endTask hrunning htask (claimed_countTransition _ _)
        (fun _ => total_countTransition _ _)
    have heffect : Effect options transport readRow s act _ :=
      .recorded act index call _ _ job errorCode hact hcall hmove hbatch
        (List.mem_map.mpr ⟨_, hmem, rfl⟩)
    rw [settleTask]
    simp only [recordFailure_leaseLost]
    cases howned : s.rows.any (isOwnedBy job.id index) with
    | true =>
      rw [howned] at heffect
      exact heffect
    | false =>
      rw [howned] at heffect
      exact heffect

theorem effect_settle {act : OutboxStep γ} {index position task : Nat}
    {outcome : StatementOutcome} {call : DispatchCall μ} {tasks : List (JobTask μ)}
    {jobTask : JobTask μ} (hact : act.caller = some index) (hcall : s.calls[index]? = some call)
    (hold : tasksOf call position = some tasks) (htask : tasks[task]? = some jobTask) :
    Effect options transport readRow s act
      (settle options s index position task outcome call tasks jobTask) := by
  cases outcome with
  | answered => exact effect_settleTask hact hcall hold htask
  | answerLost => exact effect_settleTask hact hcall hold htask
  | notExecuted =>
    apply effect_setCall hact hcall
    exact move_endTask (tasksOf_eq_some hold) htask rfl (fun h => by cases h)

theorem effect_withCall {act : OutboxStep γ} {index : Nat}
    {f : DispatchCall μ → OutboxState γ μ}
    (h : ∀ call, s.calls[index]? = some call → Effect options transport readRow s act (f call)) :
    Effect options transport readRow s act (withCall s index f) := by
  obtain hsame | ⟨call, hcall, hf⟩ := withCall_cases s index f
  · rw [hsame]
    exact .same act
  · rw [hf]
    exact h call hcall

theorem task_eq_some {call : DispatchCall μ} {position task : Nat} {tasks : List (JobTask μ)}
    {jobTask : JobTask μ}
    (h : (tasksOf call position).bind (fun tasks => tasks[task]?.map (tasks, ·)) =
      some (tasks, jobTask)) :
    tasksOf call position = some tasks ∧ tasks[task]? = some jobTask := by
  obtain ⟨tasks', htasks, hmap⟩ := Option.bind_eq_some_iff.mp h
  obtain ⟨jobTask', htask, heq⟩ := Option.map_eq_some_iff.mp hmap
  obtain ⟨rfl, rfl⟩ := Prod.mk.inj heq
  exact ⟨htasks, htask⟩

/-- Every step has one of the effects. -/
theorem step_effect (act : OutboxStep γ) :
    Effect options transport readRow s act (step options transport readRow s act) := by
  cases act with
  | insert id stored => exact effect_insert id stored
  | wait time => exact .waited time
  | dispatchBatch aborted skipped => exact effect_dispatchBatch aborted skipped
  | shutdown index =>
    exact effect_withCall fun call hcall => effect_setCall rfl hcall (.signal true call.crashed)
  | crash index =>
    exact effect_withCall fun call hcall => effect_setCall rfl hcall (.signal call.aborted true)
  | takeBatch index =>
    apply effect_withCall
    intro call hcall
    split
    · exact .same _
    · next hidle => exact effect_setCall rfl hcall (move_takeBatch hidle)
  | publishBatch index position outcome =>
    apply effect_withCall
    intro call hcall
    split
    · next jobs hold => exact effect_answerBatch outcome rfl hcall hold
    · exact .same _
  | publish index position task outcome =>
    apply effect_withCall
    intro call hcall
    split
    · next tasks job htask =>
      obtain ⟨hold, htask⟩ := task_eq_some htask
      exact effect_answerJob outcome rfl hcall hold htask
    · exact .same _
  | settle index position task outcome =>
    apply effect_withCall
    intro call hcall
    split
    · exact .same _
    · next tasks jobTask _ htask =>
      obtain ⟨hold, htask⟩ := task_eq_some htask
      exact effect_settle rfl hcall hold htask
    · exact .same _
  | finishBatch index position =>
    apply effect_withCall
    intro call hcall
    split
    · next hold => exact effect_setCall rfl hcall (.finished position (tasksOf_eq_some hold))
    · exact .same _

end Inversion

end CryptoLending.Outbox.OutboxEffects
