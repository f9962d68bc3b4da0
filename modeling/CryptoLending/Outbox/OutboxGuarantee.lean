import CryptoLending.Outbox.OutboxDelivery

namespace CryptoLending.Outbox.OutboxGuarantee

open Lib Lib.Table JobOutbox OutboxDispatcher OutboxEffects OutboxDelivery

variable {γ μ : Type}

/-- What is known of a row in each of its states. -/
def Outcome (options : OutboxDispatcherOptions) (readRow : γ → Option μ) (s : OutboxState γ μ)
    (row : OutboxRow γ) : Prop :=
  match row.status with
  | .pending => row.attempts < options.maxAttempts
  | .published => ∃ message, readRow row.stored = some message ∧ (row.id, message) ∈ s.delivered
  | .failed => s.failures.count row.id = options.maxAttempts

/-- Rows stay, and those that are no longer pending stay as they are. -/
def Kept (s t : OutboxState γ μ) : Prop :=
  ∀ row ∈ s.rows, ∃ kept ∈ t.rows, kept.id = row.id ∧ kept.stored = row.stored ∧
    (row.status ≠ .pending → kept = row)

/-- A call has claimed a row, and a later call has claimed it again. -/
def TakenOver (s : OutboxState γ μ) (index : Nat) (id : String) : Prop :=
  (index, id) ∈ s.claims ∧ ∃ later, index < later ∧ (later, id) ∈ s.claims

variable {options : OutboxDispatcherOptions} {transport : OutboxTransport}
  {readRow : γ → Option μ} {s t : OutboxState γ μ}

theorem RowOk.outcome {row : OutboxRow γ} (h : RowOk options readRow s row) :
    Outcome options readRow s row := by
  rw [Outcome]
  cases hstatus : row.status with
  | pending => exact h.pending hstatus
  | published => exact h.published hstatus
  | failed => exact h.attempts.symm.trans (h.failed hstatus)

section Rows

theorem Kept.refl (s : OutboxState γ μ) : Kept s s :=
  fun row hrow => ⟨row, hrow, rfl, rfl, fun _ => rfl⟩

theorem Kept.trans {u : OutboxState γ μ} (hst : Kept s t) (htu : Kept t u) : Kept s u := by
  intro row hrow
  obtain ⟨middle, hmiddle, hid, hstored, hsame⟩ := hst row hrow
  obtain ⟨kept, hkept, hid', hstored', hsame'⟩ := htu middle hmiddle
  refine ⟨kept, hkept, hid'.trans hid, hstored'.trans hstored, fun hstatus => ?_⟩
  obtain rfl := hsame hstatus
  exact hsame' hstatus

/-- An update of pending rows keeps the rows. -/
theorem kept_updateWhere {p : OutboxRow γ → Bool} {f : OutboxRow γ → OutboxRow γ}
    (hrows : t.rows = updateWhere p f s.rows)
    (hf : ∀ row, (f row).id = row.id ∧ (f row).stored = row.stored)
    (hp : ∀ row ∈ s.rows, p row = true → row.status = .pending) : Kept s t := by
  intro row hrow
  rw [hrows]
  cases hrowp : p row with
  | true =>
    exact ⟨f row, mem_updateWhere.mpr (Or.inl ⟨row, hrow, hrowp, rfl⟩), (hf row).1, (hf row).2,
      fun hstatus => absurd (hp row hrow hrowp) hstatus⟩
  | false =>
    exact ⟨row, mem_updateWhere.mpr (Or.inr ⟨hrow, hrowp⟩), rfl, rfl, fun _ => rfl⟩

theorem kept_of_rows_eq (hrows : t.rows = s.rows) : Kept s t := by
  intro row hrow
  rw [hrows]
  exact ⟨row, hrow, rfl, rfl, fun _ => rfl⟩

theorem pending_of_candidate (h : OutboxOk options readRow s) {now : Nat}
    {skipped : List String} {row : OutboxRow γ} (hrow : row ∈ s.rows)
    (hcandidate : ((candidates options now skipped s.rows).map OutboxRow.id).contains row.id =
      true) : row.status = .pending := by
  obtain ⟨other, hother, hid⟩ := List.mem_map.mp (List.contains_iff_mem.mp hcandidate)
  obtain ⟨hmem, hclaimable⟩ := mem_candidates options hother
  obtain rfl := h.row_eq hmem hrow hid
  simp only [isClaimable, Bool.and_eq_true, decide_eq_true_eq] at hclaimable
  exact hclaimable.1.1.1

theorem effect_kept {act : OutboxStep γ} (h : OutboxOk options readRow s)
    (heffect : Effect options transport readRow s act t) : Kept s t := by
  have howned : ∀ {id : String} {index : Nat}, ∀ row ∈ s.rows,
      isOwnedBy id index row = true → row.status = .pending :=
    fun row _ hrow => (isOwnedBy_iff.mp hrow).2.1
  cases heffect with
  | same => exact Kept.refl s
  | inserted id stored _ =>
    exact fun row hrow => ⟨row, List.mem_append_left _ hrow, rfl, rfl, fun _ => rfl⟩
  | waited time => exact kept_of_rows_eq rfl
  | opened _ aborted rejected => exact kept_of_rows_eq rfl
  | claimed _ skipped jobs _ _ =>
    exact kept_updateWhere rfl (fun _ => ⟨rfl, rfl⟩) (fun row hrow => pending_of_candidate h hrow)
  | moved _ index call call' delivered _ _ _ => exact kept_of_rows_eq rfl
  | marked _ index call call' batch job _ _ _ _ _ =>
    exact kept_updateWhere rfl (fun _ => ⟨rfl, rfl⟩) howned
  | recorded _ index call call' batch job errorCode _ _ _ _ _ =>
    exact kept_updateWhere rfl (fun _ => ⟨rfl, rfl⟩) howned

theorem outbox_kept (options : OutboxDispatcherOptions) (transport : OutboxTransport)
    (readRow : γ → Option μ) :
    (outbox options transport readRow).Relates (OutboxOk options readRow) Kept where
  refl := Kept.refl
  trans _ _ _ := Kept.trans
  step _ act h := effect_kept h (step_effect act)

end Rows

section Leases

/-- A row that a later call has claimed is not owned by the earlier one. -/
theorem TakenOver.not_owned {index : Nat} {id job : String} (h : OutboxOk options readRow s)
    (htaken : TakenOver s index id) {row : OutboxRow γ} (hrow : row ∈ s.rows)
    (hid : row.id = id) : isOwnedBy job index row = false := by
  obtain ⟨-, later, hlater, hclaim⟩ := htaken
  apply Bool.eq_false_iff.mpr
  intro howned
  obtain ⟨-, -, lock, hlock, hlocked⟩ := isOwnedBy_iff.mp howned
  have hle := (h.rows row hrow).locked lock hlock (later, id) hclaim hid.symm
  change later ≤ lock.lockedBy at hle
  omega

theorem TakenOver.mem_update {index : Nat} {id job : String} (h : OutboxOk options readRow s)
    (htaken : TakenOver s index id) {f : OutboxRow γ → OutboxRow γ}
    (hf : ∀ row, (f row).id = row.id) {row : OutboxRow γ} (hid : row.id = id) :
    row ∈ updateWhere (isOwnedBy job index) f s.rows ↔ row ∈ s.rows :=
  mem_updateWhere_of_key hf (fun _ hother hotherid => htaken.not_owned h hother hotherid) hid

theorem effect_takenOver {act : OutboxStep γ} {index : Nat} {id : String}
    (h : OutboxOk options readRow s) (heffect : Effect options transport readRow s act t)
    (hact : act.caller = some index) (htaken : TakenOver s index id) {row : OutboxRow γ}
    (hid : row.id = id) : row ∈ t.rows ↔ row ∈ s.rows := by
  cases heffect with
  | same => rfl
  | inserted => cases hact
  | waited => cases hact
  | opened => rfl
  | claimed _ _ _ hnone _ =>
    rw [hnone] at hact
    cases hact
  | moved => rfl
  | marked _ caller call call' batch job hcaller _ _ _ _ =>
    obtain rfl := Option.some.inj (hcaller.symm.trans hact)
    refine htaken.mem_update h ?_ hid
    exact fun _ => rfl
  | recorded _ caller call call' batch job errorCode hcaller _ _ _ _ =>
    obtain rfl := Option.some.inj (hcaller.symm.trans hact)
    refine htaken.mem_update h ?_ hid
    exact fun _ => rfl

end Leases

theorem insert_mem (s : OutboxState γ μ) (id : String) (stored : γ) :
    ∃ row ∈ (insertJob s id stored).rows, row.id = id := by
  rw [insertJob]
  split
  · next hany =>
    obtain ⟨row, hrow, hid⟩ := List.any_eq_true.mp hany
    exact ⟨row, hrow, of_decide_eq_true hid⟩
  · exact ⟨newRow s.now id stored, List.mem_append_right _ List.mem_cons_self, rfl⟩

/-- In every run of dispatchers with the same options no inserted row is lost, each row is
pending with attempts left, published after a delivery, or failed after all its attempts, rows
leave these two states never, a call does not change a row that a later call has claimed, and
a call that returns has accounted for all its jobs. -/
theorem outbox_at_least_once (options : OutboxDispatcherOptions) (transport : OutboxTransport)
    (readRow : γ → Option μ) (acts : List (OutboxStep γ)) :
    let M := outbox options transport readRow
    (∀ e ∈ M.trace acts, ∀ id stored, e.call = .insert id stored →
      ∃ row ∈ (M.reached acts).rows, row.id = id) ∧
    (∀ row ∈ (M.reached acts).rows, Outcome options readRow (M.reached acts) row) ∧
    (∀ later, Kept (M.reached acts) (M.reached (acts ++ later))) ∧
    (∀ e ∈ M.trace acts, ∀ index id, e.call.caller = some index → TakenOver e.before index id →
      ∀ row : OutboxRow γ, row.id = id → (row ∈ e.after.rows ↔ row ∈ e.before.rows)) ∧
    (∀ call ∈ (M.reached acts).calls, Returned call → call.summary.claimed =
      call.summary.published + call.summary.retried + call.summary.failed +
        call.summary.leaseLost) := by
  intro M
  have hinvariant := outbox_invariant options transport readRow
  have hkept := outbox_kept options transport readRow
  have hok := hinvariant.reached acts
  refine ⟨?_, ?_, ?_, ?_, ?_⟩
  · intro e he id stored hcall
    refine hkept.settled hinvariant (P := fun s => ∃ row ∈ s.rows, row.id = id) ?_ he ?_
    · rintro s t hst ⟨row, hrow, hid⟩
      obtain ⟨kept, hmem, hkeptid, -⟩ := hst row hrow
      exact ⟨kept, hmem, hkeptid.trans hid⟩
    · intro _ hstep
      rw [hstep, hcall]
      exact insert_mem e.before id stored
  · exact fun row hrow => RowOk.outcome (hok.rows row hrow)
  · intro later
    rw [Machine.reached_append]
    exact hkept.run hinvariant hok later
  · intro e he index id hact htaken row hid
    obtain ⟨before, after, -, hevent⟩ := Machine.mem_events he
    have hbefore := hinvariant.reached before
    rw [hevent] at htaken ⊢
    exact effect_takenOver hbefore (step_effect e.call) hact htaken hid
  · intro call hcall hreturned
    exact (hok.calls call hcall).returned hreturned

section Sample

/-- Messages are sent one by one. -/
def sampleTransport : OutboxTransport := ⟨false, none⟩

def sampleOutbox : Machine (OutboxStep String) Unit (OutboxState String String) :=
  outbox defaultOptions sampleTransport some

/-- A job is claimed and sent, and its lease runs out. A second call claims it again. -/
def takenOver : List (OutboxStep String) :=
  [.insert "job-1" "message", .dispatchBatch false [], .takeBatch 0, .publish 0 0 0 (.ok ()),
    .wait 30000, .dispatchBatch false [], .takeBatch 1]

/-- The first call comes too late to mark the job, the second one sends and marks it. -/
def sampleRun : List (OutboxStep String) :=
  takenOver ++ [.settle 0 0 0 .answered, .finishBatch 0 0, .takeBatch 0, .publish 1 0 0 (.ok ()),
    .settle 1 0 0 .answered, .finishBatch 1 0, .takeBatch 1]

/-- The row of the job at the end. -/
def publishedRow : OutboxRow String where
  id := "job-1"
  stored := "message"
  status := .published
  attempts := 0
  availableAt := 0
  lock := none
  createdAt := 0
  publishedAt := some 30000
  failedAt := none
  lastError := none

/-- The job was delivered, the late call changed nothing, and the call that lost its lease has
counted that. -/
theorem sampleRun_at_least_once :
    ("job-1", "message") ∈ (sampleOutbox.reached sampleRun).delivered ∧
    (∀ row : OutboxRow String, row.id = "job-1" →
      (row ∈ (sampleOutbox.reached (takenOver ++ [.settle 0 0 0 .answered])).rows ↔
        row ∈ (sampleOutbox.reached takenOver).rows)) ∧
    ∃ call ∈ (sampleOutbox.reached sampleRun).calls, call.summary.leaseLost = 1 ∧
      call.summary.claimed = call.summary.published + call.summary.retried +
        call.summary.failed + call.summary.leaseLost := by
  obtain ⟨_, houtcome, _, hlate, hcounted⟩ :=
    outbox_at_least_once defaultOptions sampleTransport some sampleRun
  refine ⟨?_, ?_, ?_⟩
  · obtain ⟨message, hmessage, hdelivered⟩ := houtcome publishedRow (by decide)
    obtain rfl := Option.some.inj hmessage
    exact hdelivered
  · intro row hid
    have hevent : sampleOutbox.event (sampleOutbox.reached takenOver) (.settle 0 0 0 .answered) ∈
        sampleOutbox.trace sampleRun := by
      rw [sampleRun, Machine.trace, Machine.events_append]
      exact List.mem_append_right _ List.mem_cons_self
    rw [Machine.reached_snoc]
    exact hlate _ hevent 0 "job-1" rfl ⟨by decide, 1, by decide, by decide⟩ row hid
  · have hcall : (sampleOutbox.reached sampleRun).calls[0]? = some _ := rfl
    exact ⟨_, List.mem_of_getElem? hcall, rfl,
      hcounted _ (List.mem_of_getElem? hcall) ⟨rfl, rfl, rfl, rfl⟩⟩

end Sample

end CryptoLending.Outbox.OutboxGuarantee
