import CryptoLending.MainnetPlatforms.ReconciliationInvariant

namespace CryptoLending.MainnetPlatforms.ReconciliationGuarantee

open Lib Lib.JsValue Lib.Events ReconciliationResult ReconciliationLifecycle
  ReconciliationLifecycle.Run ReconciliationInvariant

variable {policy : ReviewedPolicy} {s s' : Run}

section Callbacks

theorem keeps_refl (s : Run) : Keeps s s := ⟨rfl, rfl, rfl, rfl, rfl, rfl, .inl rfl, ⟨[], rfl⟩, rfl⟩

theorem keeps_point (s : Run) (p : Point) : Keeps s { s with point := p } :=
  ⟨rfl, rfl, rfl, rfl, rfl, rfl, .inl rfl, ⟨[], rfl⟩, rfl⟩

theorem keeps_settleWait (s : Run) (outcome : WaitOutcome) (failed : Bool) :
    Keeps s (s.settleWait outcome failed) := by
  rw [settleWait]
  split
  case h_1 => exact keeps_refl s
  case h_2 w hw =>
    split
    case isTrue => exact keeps_refl s
    case isFalse =>
      split
      · exact ⟨rfl, rfl, rfl, rfl, rfl, rfl, .inl rfl, ⟨[], rfl⟩, by rw [hw]; rfl⟩
      · exact ⟨rfl, rfl, rfl, rfl, rfl, rfl, .inl rfl, ⟨[], rfl⟩, by rw [hw]; rfl⟩

theorem keeps_abortInternal (s : Run) : Keeps s s.abortInternal := by
  rw [abortInternal]
  split
  case h_1 hinternal =>
    refine Keeps.trans ?_ (keeps_settleWait _ .aborted false)
    exact ⟨rfl, rfl, rfl, rfl, rfl, rfl, .inr ⟨hinternal, rfl⟩, ⟨[], rfl⟩, rfl⟩
  case h_2 => exact keeps_refl s

theorem settleWait_sound {outcome : WaitOutcome} {failed : Bool} (h : WaitsSound s) :
    WaitsSound (s.settleWait outcome failed) := by
  rw [settleWait]
  split
  case h_1 => exact h
  case h_2 w hw =>
    split
    case isTrue => exact h
    case isFalse hsettled =>
      have hsound := h.wait w hw
      split
      case isTrue hcreated =>
        refine ⟨fun w' hw' => ?_, h.ended, fun _ _ _ => ⟨_, rfl, rfl⟩⟩
        obtain rfl := Option.some.inj hw'
        refine ⟨fun _ => rfl, fun _ _ => .inl rfl, fun hscheduling => ?_⟩
        rw [(hsound.scheduling hscheduling).1] at hcreated
        cases hcreated
      case isFalse hcreated =>
        refine ⟨fun w' hw' => ?_, h.ended, fun _ _ _ => ⟨_, rfl, rfl⟩⟩
        obtain rfl := Option.some.inj hw'
        exact ⟨fun _ => rfl, fun _ h => absurd h hcreated,
          fun hscheduling => ⟨(hsound.scheduling hscheduling).1, fun _ => hscheduling⟩⟩

theorem abortInternal_sound (h : WaitsSound s) : WaitsSound s.abortInternal := by
  rw [abortInternal]
  split
  case h_1 => exact settleWait_sound (h.congr rfl rfl rfl)
  case h_2 => exact h

theorem abortInternal_ne_false (s : Run) : s.abortInternal.internalSignal ≠ some false := by
  rw [abortInternal]
  split
  case h_1 =>
    rw [settleWait]
    repeat' split
    all_goals nofun
  case h_2 h => exact h

theorem settleWait_point (s : Run) (outcome : WaitOutcome) (failed : Bool) :
    (s.settleWait outcome failed).point = s.point := by
  rw [settleWait]
  repeat' split
  all_goals rfl

theorem abortInternal_point (s : Run) : s.abortInternal.point = s.point := by
  rw [abortInternal]
  split
  case h_1 => exact settleWait_point _ _ _
  case h_2 => rfl

theorem abort_consistent (h : IsConsistent policy s) : IsConsistent policy s.abort := by
  rw [Run.abort]
  split
  case isTrue => exact h
  case isFalse =>
    split
    case isTrue =>
      refine h.keeps (Keeps.trans ?_ (keeps_abortInternal _)) ?_ ?_
      · exact ⟨rfl, rfl, rfl, rfl, rfl, rfl, .inl rfl, ⟨[], rfl⟩, rfl⟩
      · exact abortInternal_point _
      · exact abortInternal_sound (h.core.waits.congr rfl rfl rfl)
    case isFalse =>
      exact h.keeps ⟨rfl, rfl, rfl, rfl, rfl, rfl, .inl rfl, ⟨[], rfl⟩, rfl⟩ rfl
        (h.core.waits.congr rfl rfl rfl)

theorem deadlineFired_consistent (h : IsConsistent policy s) (hstep : s.deadlineFired = some s') :
    IsConsistent policy s' := by
  rw [Run.deadlineFired] at hstep
  split at hstep
  case isFalse => cases hstep
  case isTrue =>
    dsimp only at hstep
    split at hstep
    case isTrue =>
      cases hstep
      refine h.keeps ⟨rfl, rfl, rfl, rfl, rfl, rfl, .inl rfl, ⟨[], rfl⟩, rfl⟩ rfl
        ⟨h.core.waits.wait, h.core.waits.ended, fun outcome failed hcall => ?_⟩
      cases hcall with
      | tail _ hcall => exact h.core.waits.calls outcome failed hcall
    case isFalse =>
      cases hstep
      refine h.keeps (Keeps.trans ?_ (keeps_abortInternal _)) ?_ ?_
      · exact ⟨rfl, rfl, rfl, rfl, rfl, rfl, .inl rfl, ⟨[], rfl⟩, rfl⟩
      · exact abortInternal_point _
      · exact abortInternal_sound (h.core.waits.congr rfl rfl rfl)

theorem waitSound_fired {w : Wait} (h : WaitSound w) :
    WaitSound { w with timer := { w.timer with fired := true } } :=
  ⟨h.promise, h.cancelled, h.scheduling⟩

theorem retryFired_consistent (h : IsConsistent policy s) (hstep : s.retryFired = some s') :
    IsConsistent policy s' := by
  rw [Run.retryFired] at hstep
  split at hstep
  case h_1 => cases hstep
  case h_2 w hw =>
    split at hstep
    case isFalse => cases hstep
    case isTrue =>
      have hsound := h.core.waits.wait w hw
      have hfired : ∀ w', WaitSound w' → w'.settled = w.settled →
          WaitsSound { s with wait := some w' } := by
        refine fun w' hw' hsettled => ⟨fun _ heq => Option.some.inj heq ▸ hw', h.core.waits.ended,
          fun outcome failed hcall => ?_⟩
        obtain ⟨old, hold, hcalled⟩ := h.core.waits.calls outcome failed hcall
        rw [hw] at hold
        exact ⟨w', rfl, by rw [hsettled, Option.some.inj hold]; exact hcalled⟩
      dsimp only at hstep
      split at hstep
      case isTrue =>
        cases hstep
        refine h.keeps (Keeps.trans ?_ (keeps_settleWait _ .elapsed false)) ?_ ?_
        · exact ⟨rfl, rfl, rfl, rfl, rfl, rfl, .inl rfl, ⟨[], rfl⟩, by rw [hw]; rfl⟩
        · exact settleWait_point _ _ _
        · exact settleWait_sound (hfired _ (waitSound_fired hsound) rfl)
      case isFalse =>
        cases hstep
        refine h.keeps ⟨rfl, rfl, rfl, rfl, rfl, rfl, .inl rfl, ⟨[], rfl⟩, by rw [hw]; rfl⟩ rfl
          (hfired _ ⟨hsound.promise, hsound.cancelled, hsound.scheduling⟩ rfl)

theorem lateRetryFired_consistent {index : Nat} (h : IsConsistent policy s)
    (hstep : s.lateRetryFired index = some s') : IsConsistent policy s' := by
  rw [Run.lateRetryFired] at hstep
  split at hstep
  case h_1 => cases hstep
  case h_2 w hw =>
    split at hstep
    case isFalse => cases hstep
    case isTrue =>
      cases hstep
      refine h.keeps ⟨rfl, rfl, rfl, rfl, rfl, rfl, .inl rfl, ⟨[], rfl⟩, rfl⟩ rfl
        ⟨h.core.waits.wait, fun w' hw' => ?_, h.core.waits.calls⟩
      obtain hmem | rfl := List.mem_or_eq_of_mem_set hw'
      · exact h.core.waits.ended w' hmem
      · exact h.core.waits.ended w (List.mem_of_getElem? hw)

theorem noteDeadline_keeps (s : Run) (reading : Option Int) : Keeps s (s.noteDeadline reading) := by
  cases reading with
  | none =>
    refine Keeps.trans ?_ (keeps_abortInternal _)
    exact ⟨rfl, rfl, rfl, rfl, rfl, rfl, .inl rfl, ⟨[], rfl⟩, rfl⟩
  | some observedAt =>
    rw [noteDeadline]
    split
    all_goals
      refine Keeps.trans ?_ (keeps_abortInternal _)
      exact ⟨rfl, rfl, rfl, rfl, rfl, rfl, .inl rfl, ⟨[], rfl⟩, rfl⟩

theorem noteDeadline_point (s : Run) (reading : Option Int) :
    (s.noteDeadline reading).point = s.point := by
  cases reading with
  | none => exact abortInternal_point _
  | some observedAt =>
    rw [noteDeadline]
    split
    all_goals exact abortInternal_point _

theorem noteDeadline_sound {reading : Option Int} (h : WaitsSound s) :
    WaitsSound (s.noteDeadline reading) := by
  cases reading with
  | none => exact abortInternal_sound (h.congr rfl rfl rfl)
  | some observedAt =>
    rw [noteDeadline]
    split
    all_goals exact abortInternal_sound (h.congr rfl rfl rfl)

/-- A reading inside the callback of the deadline timer. -/
theorem callbackClock_consistent {reading : Option Int} {rest : List Call}
    (h : IsConsistent policy s) (hcalls : s.calls = .deadlineClock :: rest) :
    IsConsistent policy (noteDeadline { s with
      trace := (reading.map Mark.clock).toList ++ s.trace, calls := rest } reading) := by
  refine h.keeps (Keeps.trans ?_ (noteDeadline_keeps _ reading)) ?_ ?_
  · refine ⟨rfl, rfl, rfl, rfl, rfl, rfl, .inl rfl, ⟨reading.toList, ?_⟩, rfl⟩
    cases reading <;> rfl
  · exact noteDeadline_point _ reading
  · refine noteDeadline_sound ⟨h.core.waits.wait, h.core.waits.ended, fun outcome failed hcall => ?_⟩
    exact h.core.waits.calls outcome failed (hcalls ▸ List.mem_cons_of_mem _ hcall)

/-- The cancellation of the timer of a wait. -/
theorem cancelRetry_consistent {outcome : WaitOutcome} {failed threw : Bool} {rest : List Call}
    {w : Wait} (h : IsConsistent policy s) (hcalls : s.calls = .cancelRetry outcome failed :: rest)
    (hw : s.wait = some w) :
    IsConsistent policy { s with
      calls := rest
      wait := some { w with promise := some (if failed || threw then none else some outcome) } } := by
  have hsound := h.core.waits.wait w hw
  have hsettled : ∀ outcome failed, Call.cancelRetry outcome failed ∈ s.calls →
      w.settled = true := by
    intro outcome failed hcall
    obtain ⟨old, hold, hcalled⟩ := h.core.waits.calls outcome failed hcall
    rw [hw] at hold
    rwa [Option.some.inj hold]
  have hw' := hsettled outcome failed (hcalls ▸ List.mem_cons_self)
  refine h.keeps ⟨rfl, rfl, rfl, rfl, rfl, rfl, .inl rfl, ⟨[], rfl⟩, by rw [hw]; rfl⟩ rfl
    ⟨fun _ heq => Option.some.inj heq ▸ ⟨fun _ => hw', hsound.cancelled, hsound.scheduling⟩,
      h.core.waits.ended, fun _ _ _ => ⟨_, rfl, hw'⟩⟩

end Callbacks

section Finishing

theorem finish_consistent {answer : Answer} (h : Core policy s) (hopen : isOpen s.trace = false)
    (hwait : s.wait = none) (hanswer : AnswerSound s answer) :
    IsConsistent policy (s.finish answer) := by
  have hkeeps := keeps_abortInternal s
  have hcore : Core policy s.abortInternal := h.keeps hkeeps (abortInternal_sound h.waits)
  refine ⟨⟨hcore.attempts, hcore.bound, hcore.deadline, hcore.deadlineAt, hcore.starts,
    hcore.waits.congr rfl rfl rfl⟩, ?_⟩
  exact ⟨hkeeps.isOpen.trans hopen, hkeeps.wait_none hwait, abortInternal_ne_false s,
    hkeeps.answerSound hanswer⟩

theorem fail_consistent {code : ErrorCode} (h : Core policy s) (hopen : isOpen s.trace = false)
    (hwait : s.wait = none) : IsConsistent policy (s.finish (.error code)) :=
  finish_consistent h hopen hwait fun _ hresult => by cases hresult

theorem resultSound_of_tally {outcome : RunOutcome} {uncounted : Nat} (h : Core policy s)
    (htally : Tally s uncounted 0) : ResultSound s.trace (runResult outcome s.counts) where
  attempts := h.attempts
  counted := (Nat.le_add_right _ _).trans htally.counted
  resolved := .inl htally.resolved

theorem stop_consistent {outcome : RunOutcome} {uncounted : Nat} (h : Core policy s)
    (hopen : isOpen s.trace = false) (hwait : s.wait = none) (htally : Tally s uncounted 0) :
    IsConsistent policy (s.stop outcome) :=
  finish_consistent h hopen hwait fun _ hresult =>
    Except.ok.inj hresult ▸ resultSound_of_tally h htally

/-- Whatever comes next, the run may be stopped before it. -/
theorem stop_next_consistent {outcome : RunOutcome} {next : Next} (h : Core policy s)
    (hopen : isOpen s.trace = false) (hwait : s.wait = none) (hnext : NextSound policy s next)
    (houtcome : outcome = .aborted ∨ outcome = .runDeadlineReached) :
    IsConsistent policy (s.stop outcome) := by
  cases next with
  | attempt => exact stop_consistent h hopen hwait hnext.1
  | invocationFailed | waitAborted => exact stop_consistent h hopen hwait hnext
  | reviewed result =>
    obtain ⟨hresult, htally⟩ := hnext
    cases hterminal : result.outcome.isTerminal with
    | false =>
      rw [uncountedOf, hterminal] at htally
      exact stop_consistent h hopen hwait htally
    | true =>
      rw [uncountedOf, hterminal] at htally
      refine finish_consistent h hopen hwait fun stopped hstopped => ?_
      obtain rfl := Except.ok.inj hstopped
      exact ⟨h.attempts, (Nat.le_add_right _ _).trans htally.counted,
        .inr ⟨houtcome, htally.resolved, result, hresult, hterminal⟩⟩

theorem currentStatus_consistent {next : Next} (h : Core policy s)
    (hopen : isOpen s.trace = false) (hwait : s.wait = none) (hinternal : s.internalSignal ≠ none)
    (hnext : NextSound policy s next) : IsConsistent policy (s.currentStatus next) := by
  rw [currentStatus]
  split
  case isTrue => exact fail_consistent h hopen hwait
  case isFalse =>
    split
    case isTrue => exact stop_next_consistent h hopen hwait hnext (.inl rfl)
    case isFalse =>
      have hkeeps := keeps_point s (.checking next s.deadlineReached)
      exact ⟨h.keeps hkeeps (h.waits.congr rfl rfl rfl), hopen, hwait, hinternal,
        hkeeps.nextSound hnext⟩

theorem loop_consistent (h : Core policy s) (hopen : isOpen s.trace = false)
    (hwait : s.wait = none) (hinternal : s.internalSignal ≠ none) (htally : Tally s 0 0)
    (hwaited : HasWaited s.trace) : IsConsistent policy (s.loop policy) := by
  rw [loop]
  split
  case isTrue hbound =>
    exact currentStatus_consistent h hopen hwait hinternal ⟨htally, hbound, hwaited⟩
  case isFalse => exact stop_consistent h hopen hwait htally

end Finishing

section Reading

theorem startsSound_of_no_attempts {deadlineAt : Int} {trace : List Mark}
    (h : attempts trace = 0) : StartsSound deadlineAt trace := by
  induction trace with
  | nil => trivial
  | cons mark older ih =>
    rw [attempts_cons] at h
    cases mark with
    | attempted => exact absurd h (Nat.succ_ne_zero _)
    | clock | answered | authenticated => exact ih (Nat.eq_zero_of_add_eq_zero_right h)

/-- The run sets its deadline before it has done anything. -/
theorem core_begun (h : Core policy s) (hinternal : s.internalSignal = none)
    (hcounts : s'.counts = s.counts) (htrace : s'.trace = s.trace)
    (hsignal : s'.internalSignal = some false)
    (hdeadline : s'.deadlineAt = s'.startedAt + policy.maximumRunMilliseconds)
    (hwaits : WaitsSound s') : Core policy s' where
  attempts := by rw [hcounts, htrace, h.attempts]
  bound := hcounts ▸ h.bound
  deadline := fun hnone => by
    rw [hsignal] at hnone
    cases hnone
  deadlineAt := fun _ => hdeadline
  starts := startsSound_of_no_attempts (by rw [htrace, ← h.attempts, h.deadline hinternal])
  waits := hwaits

theorem start_consistent {startedAt : Int} (h : Core policy s) (hpoint : AtPoint policy s .starting) :
    IsConsistent policy (s.start policy startedAt) := by
  obtain ⟨hopen, hwait, hinternal, htally, hresult, hlistening, hcreated⟩ := hpoint
  rw [start]
  split
  case isFalse =>
    refine ⟨h.keeps (keeps_point s _) (h.waits.congr rfl rfl rfl), hopen, hwait, ?_, ?_, ?_,
      hlistening⟩
    · rw [hinternal]
      nofun
    · intro _ herror
      cases herror
    · rw [hcreated]
      nofun
  case isTrue =>
    dsimp only
    split
    case isTrue =>
      have hcore : Core policy { s with
          startedAt := startedAt, deadlineAt := startedAt + policy.maximumRunMilliseconds
          internalSignal := some false, listening := true, externalAborted := true } :=
        core_begun h hinternal rfl rfl rfl rfl (h.waits.congr rfl rfl rfl)
      have hkeeps := keeps_abortInternal { s with
        startedAt := startedAt, deadlineAt := startedAt + policy.maximumRunMilliseconds
        internalSignal := some false, listening := true, externalAborted := true }
      exact stop_consistent (hcore.keeps hkeeps (abortInternal_sound hcore.waits))
        (hkeeps.isOpen.trans hopen) (hkeeps.wait_none hwait) (hkeeps.tally ⟨htally.1, htally.2⟩)
    case isFalse =>
      exact ⟨core_begun h hinternal rfl rfl rfl rfl (h.waits.congr rfl rfl rfl), hopen, hwait, nofun,
        ⟨htally.1, htally.2⟩, hresult⟩

theorem count_consistent {result : ReviewedReconciliationResult} (h : Core policy s)
    (hopen : isOpen s.trace = false) (hwait : s.wait = none) (hinternal : s.internalSignal ≠ none)
    (hresult : lastResult s.trace = some result) (htally : Tally s 1 (uncountedOf result)) :
    IsConsistent policy (s.count policy result) := by
  have hcounted := htally.counted
  have hresolved := htally.resolved
  have hcore (counts : RunCounts) (hattempts : counts.attempts = s.counts.attempts) :
      Core policy { s with counts := counts } :=
    h.congr hattempts rfl rfl rfl rfl (h.waits.congr rfl rfl rfl)
  have hterminal (hne : result.outcome ≠ .deferred) (hone : uncountedOf result = 1) :
      IsConsistent policy (loop policy
        { s with counts := { s.counts with resolved := s.counts.resolved + 1 } }) := by
    rw [hone] at hresolved
    refine loop_consistent (hcore _ rfl) hopen hwait hinternal ⟨hresolved, by dsimp only; omega⟩ ?_
    intro last hlast hdeferred
    rw [hresult] at hlast
    exact absurd (Option.some.inj hlast ▸ hdeferred) hne
  rw [count]
  cases houtcome : result.outcome with
  | idle =>
    rw [uncountedOf, houtcome] at htally
    exact stop_consistent h hopen hwait htally
  | recorded | notRecorded | deadlineViolation =>
    exact hterminal (by rw [houtcome]; nofun) (by rw [uncountedOf, houtcome]; rfl)
  | deferred =>
    rw [uncountedOf, houtcome] at hresolved
    have htally' : Tally { s with counts := { s.counts with deferred := s.counts.deferred + 1 } }
        0 0 := ⟨hresolved, by dsimp only; omega⟩
    dsimp only
    split
    case h_1 => exact stop_consistent (hcore _ rfl) hopen hwait htally'
    case h_2 retryNotBefore hretry =>
      split
      case isTrue => exact stop_consistent (hcore _ rfl) hopen hwait htally'
      case isFalse hbound =>
        refine ⟨h.congr rfl rfl rfl rfl rfl (h.waits.congr rfl rfl rfl), hopen, hwait, hinternal,
          ⟨htally'.1, htally'.2⟩, Nat.not_le.mp hbound, fun last hlast => ?_⟩
        rw [hresult] at hlast
        obtain rfl := Option.some.inj hlast
        exact ⟨retryNotBefore, hretry, le_rfl⟩

/-- No status is a reason to stop, and the clock has been read. -/
theorem proceed_consistent {next : Next} (h : Core policy s) (hopen : isOpen s.trace = false)
    (hwait : s.wait = none) (hinternal : s.internalSignal ≠ none) (hnext : NextSound policy s next)
    (hreading : ∃ reading, lastReading s.trace = some reading ∧ reading < s.deadlineAt) :
    IsConsistent policy (s.proceed policy next) := by
  cases next with
  | attempt =>
    obtain ⟨htally, hbound, hwaited⟩ := hnext
    have hcounted := htally.counted
    refine ⟨⟨?_, hbound, fun hnone => absurd hnone hinternal, h.deadlineAt,
      ⟨⟨hopen, hreading, hwaited⟩, h.starts⟩, h.waits.congr rfl rfl rfl⟩,
      hwait, hinternal, ?_, ?_⟩
    · show s.counts.attempts + 1 = attempts (.attempted :: s.trace)
      rw [attempts_cons, ← h.attempts]
      rfl
    · show terminals (.attempted :: s.trace) = s.counts.resolved + 0
      rw [terminals_cons, htally.resolved]
      rfl
    · show s.counts.resolved + s.counts.deferred + 1 ≤ s.counts.attempts + 1
      omega
  | invocationFailed | waitAborted => exact fail_consistent h hopen hwait
  | reviewed result => exact count_consistent h hopen hwait hinternal hnext.1 hnext.2

/-- A wait is entered with no other one around. -/
theorem waitsSound_enter {w : Wait} (h : WaitsSound s) (hwait : s.wait = none) (hw : WaitSound w) :
    WaitsSound { s with point := .waiting, wait := some w } where
  wait := fun _ heq => Option.some.inj heq ▸ hw
  ended := h.ended
  calls := fun outcome failed hcall => by
    obtain ⟨old, hold, _⟩ := h.calls outcome failed hcall
    rw [hwait] at hold
    cases hold

theorem planRetry_consistent {retryNotBefore now : Int} (h : Core policy s)
    (hopen : isOpen s.trace = false) (hwait : s.wait = none) (hinternal : s.internalSignal ≠ none)
    (htally : Tally s 0 0) (hbound : s.counts.attempts < policy.maximumWorkItems)
    (hretry : RetriesAt s.trace retryNotBefore) :
    IsConsistent policy (s.planRetry retryNotBefore now) := by
  have hentered (w : Wait) (hw : WaitSound w)
      (hat : w.retryAt = max retryNotBefore (now + minRetryDelayMilliseconds)) :
      IsConsistent policy { s with point := .waiting, wait := some w } := by
    refine ⟨h.congr rfl rfl rfl rfl rfl (waitsSound_enter h.waits hwait hw), hopen, hinternal,
      ⟨htally.1, htally.2⟩, hbound, w, rfl, fun result hresult => ?_⟩
    obtain ⟨earliest, hearliest, hle⟩ := hretry result hresult
    exact ⟨earliest, hearliest, hat ▸ hle.trans (le_max_left _ _)⟩
  rw [planRetry]
  split
  case isTrue => exact stop_consistent h hopen hwait htally
  case isFalse =>
    rw [enterWait]
    dsimp only
    split
    case isTrue => exact hentered _ ⟨fun _ => rfl, nofun, nofun⟩ rfl
    case isFalse =>
      split
      case isTrue => exact hentered _ ⟨nofun, nofun, fun _ => ⟨rfl, nofun⟩⟩ rfl
      case isFalse => exact hentered _ ⟨fun _ => rfl, nofun, nofun⟩ rfl

theorem read_consistent {reading : Int} {older : List Mark} (h : IsConsistent policy s)
    (htrace : s.trace = .clock reading :: older) (hstep : s.read policy reading = some s') :
    IsConsistent policy s' := by
  obtain ⟨hcore, hpoint⟩ := h
  have hlast : lastReading s.trace = some reading := by rw [htrace, lastReading]
  rw [Run.read] at hstep
  cases hp : s.point with
  | starting =>
    rw [hp] at hstep hpoint
    cases hstep
    exact start_consistent hcore hpoint
  | checking next deadlineReached =>
    rw [hp] at hstep hpoint
    obtain ⟨hopen, hwait, hinternal, hnext⟩ := hpoint
    cases hstep
    split
    case isTrue => exact fail_consistent hcore hopen hwait
    case isFalse =>
      split
      case isTrue => exact stop_next_consistent hcore hopen hwait hnext (.inr rfl)
      case isFalse hreached =>
        rw [Bool.or_eq_true, not_or, decide_eq_true_eq] at hreached
        exact proceed_consistent hcore hopen hwait hinternal hnext
          ⟨reading, hlast, Int.not_le.mp hreached.2⟩
  | timing retryNotBefore =>
    rw [hp] at hstep hpoint
    obtain ⟨hopen, hwait, hinternal, htally, hbound, hretry⟩ := hpoint
    cases hstep
    split
    case isTrue => exact fail_consistent hcore hopen hwait
    case isFalse => exact planRetry_consistent hcore hopen hwait hinternal htally hbound hretry
  | resuming retryAt =>
    rw [hp] at hstep hpoint
    obtain ⟨hopen, hwait, hinternal, htally, hbound, hretry⟩ := hpoint
    cases hstep
    split
    case isTrue => exact fail_consistent hcore hopen hwait
    case isFalse =>
      split
      case isTrue => exact fail_consistent hcore hopen hwait
      case isFalse hreached =>
        refine loop_consistent hcore hopen hwait hinternal htally ?_
        rw [htrace] at hretry ⊢
        exact @RetriesAt.hasWaited older retryAt reading hretry (Int.not_lt.mp hreached)
  | scheduling | invoking | reviewing | waiting | aborting | cancelling | returning | settled =>
    rw [hp] at hstep
    cases hstep

theorem readFailed_consistent (h : IsConsistent policy s) (hstep : s.readFailed = some s') :
    IsConsistent policy s' := by
  obtain ⟨hcore, hpoint⟩ := h
  rw [Run.readFailed] at hstep
  cases hp : s.point with
  | starting =>
    rw [hp] at hstep hpoint
    obtain ⟨hopen, hwait, hinternal, htally, hresult, hlistening, hcreated⟩ := hpoint
    cases hstep
    refine ⟨hcore.congr rfl rfl rfl rfl rfl (hcore.waits.congr rfl rfl rfl), hopen, hwait, ?_, ?_,
      ?_, hlistening⟩
    · rw [hinternal]
      nofun
    · intro _ herror
      cases herror
    · rw [hcreated]
      nofun
  | checking | timing | resuming =>
    rw [hp] at hstep hpoint
    cases hstep
    exact fail_consistent hcore hpoint.1 hpoint.2.1
  | scheduling | invoking | reviewing | waiting | aborting | cancelling | returning | settled =>
    rw [hp] at hstep
    cases hstep

theorem clock_consistent {reading : Option Int} (h : IsConsistent policy s)
    (hstep : s.clock policy reading = some s') : IsConsistent policy s' := by
  rw [Run.clock] at hstep
  dsimp only at hstep
  have hmarked : IsConsistent policy { s with
      trace := ((reading.filter isSafeInteger).map Mark.clock).toList ++ s.trace } := by
    refine h.keeps ⟨rfl, rfl, rfl, rfl, rfl, rfl, .inl rfl,
      ⟨(reading.filter isSafeInteger).toList, ?_⟩, rfl⟩ rfl (h.core.waits.congr rfl rfl rfl)
    cases reading.filter isSafeInteger <;> rfl
  split at hstep
  case h_1 rest hcalls =>
    cases hstep
    exact callbackClock_consistent h hcalls
  case h_2 => cases hstep
  case h_3 =>
    split at hstep
    case h_1 => exact readFailed_consistent hmarked hstep
    case h_2 observedAt hreading =>
      rw [hreading] at hmarked hstep
      exact read_consistent hmarked rfl hstep

end Reading

section Answers

theorem scheduled_consistent {threw : Bool} (h : IsConsistent policy s)
    (hstep : s.scheduled policy threw = some s') : IsConsistent policy s' := by
  obtain ⟨hcore, hpoint⟩ := h
  rw [Run.scheduled] at hstep
  split at hstep
  case h_1 hcalls hp =>
    rw [hp] at hpoint
    obtain ⟨hopen, hwait, hinternal, htally, hresult⟩ := hpoint
    have hwaited : HasWaited s.trace := fun result hsome => by
      rw [hresult] at hsome
      cases hsome
    split at hstep
    case isTrue =>
      cases hstep
      exact fail_consistent hcore hopen hwait
    case isFalse =>
      have hcreated : Core policy { s with
          deadlineTimer := { s.deadlineTimer with created := true } } :=
        hcore.congr rfl rfl rfl rfl rfl (hcore.waits.congr rfl rfl rfl)
      cases hstep
      split
      case isTrue => exact fail_consistent hcreated hopen hwait
      case isFalse =>
        exact loop_consistent hcreated hopen hwait hinternal ⟨htally.1, htally.2⟩ hwaited
  case h_2 w hcalls hp hw =>
    have hsound := hcore.waits.wait w hw
    have hwaits (w' : Wait) (hw' : WaitSound w') : WaitsSound { s with wait := some w' } :=
      ⟨fun _ heq => Option.some.inj heq ▸ hw', hcore.waits.ended, fun outcome failed hcall => by
        rw [hcalls] at hcall
        cases hcall⟩
    have hkeeps (w' : Wait) (hat : w'.retryAt = w.retryAt) : Keeps s { s with wait := some w' } :=
      ⟨rfl, rfl, rfl, rfl, rfl, rfl, .inl rfl, ⟨[], rfl⟩, by rw [hw]; exact congrArg some hat⟩
    have hbase : IsConsistent policy s := ⟨hcore, hpoint⟩
    split at hstep
    case isFalse => cases hstep
    case isTrue hscheduling =>
      have hinterrupted := (hsound.scheduling hscheduling).2
      split at hstep
      case isTrue =>
        have hkept := hkeeps { w with scheduling := false } rfl
        have hfailed := hwaits { w with scheduling := false }
          ⟨hsound.promise, hsound.cancelled, nofun⟩
        cases hstep
        exact hbase.keeps (hkept.trans (keeps_settleWait _ .aborted true)) (settleWait_point _ _ _)
          (settleWait_sound hfailed)
      case isFalse =>
        have hcreated := hwaits { w with
            scheduling := false, timer := { w.timer with created := true } }
          ⟨hsound.promise, fun hsettled _ => .inr (hinterrupted hsettled), nofun⟩
        have hkept := hkeeps { w with
            scheduling := false, timer := { w.timer with created := true } } rfl
        cases hstep
        split
        case isTrue =>
          exact hbase.keeps (hkept.trans (keeps_settleWait _ .elapsed true))
            (settleWait_point _ _ _) (settleWait_sound hcreated)
        case isFalse =>
          split
          case isTrue =>
            exact hbase.keeps (hkept.trans (keeps_settleWait _ .aborted false))
              (settleWait_point _ _ _) (settleWait_sound hcreated)
          case isFalse => exact hbase.keeps hkept rfl hcreated
  case h_3 => cases hstep

theorem cancelled_consistent {threw : Bool} (h : IsConsistent policy s)
    (hstep : s.cancelled threw = some s') : IsConsistent policy s' := by
  rw [Run.cancelled] at hstep
  split at hstep
  case h_1 outcome failed rest w hcalls hw =>
    cases hstep
    exact cancelRetry_consistent h hcalls hw
  case h_2 answer hcalls hp =>
    obtain ⟨hcore, hpoint⟩ := h
    rw [hp] at hpoint
    obtain ⟨hopen, hwait, hinternal, hanswer, hcancelled⟩ := hpoint
    cases hstep
    refine ⟨hcore.congr rfl rfl rfl rfl rfl (hcore.waits.congr rfl rfl rfl), hopen, hwait,
      hinternal, fun result hresult => ?_, fun _ => hcancelled, rfl⟩
    split at hresult
    · cases hresult
    · exact hanswer result hresult
  case h_3 => cases hstep

theorem invoked_consistent {capability : Option Reference} (h : IsConsistent policy s)
    (hstep : s.invoked capability = some s') : IsConsistent policy s' := by
  obtain ⟨hcore, hpoint⟩ := h
  rw [Run.invoked] at hstep
  split at hstep
  case h_1 hcalls hp =>
    rw [hp] at hpoint
    obtain ⟨hwait, hinternal, htally⟩ := hpoint
    have hcounted := htally.counted
    have hanswered : Core policy { s with trace := .answered :: s.trace } :=
      ⟨by rw [attempts_cons]; exact hcore.attempts, hcore.bound, hcore.deadline, hcore.deadlineAt,
        hcore.starts, hcore.waits.congr rfl rfl rfl⟩
    have hresolved : terminals (.answered :: s.trace) = s.counts.resolved := by
      rw [terminals_cons, htally.resolved]
      rfl
    dsimp only at hstep
    split at hstep
    case h_1 =>
      cases hstep
      refine currentStatus_consistent hanswered rfl hwait hinternal ⟨hresolved, ?_⟩
      show s.counts.resolved + s.counts.deferred + 0 ≤ s.counts.attempts
      omega
    case h_2 capability =>
      cases hstep
      exact ⟨hanswered.congr rfl rfl rfl rfl rfl (hcore.waits.congr rfl rfl rfl), rfl, hwait,
        hinternal, hresolved, hcounted⟩
  case h_2 => cases hstep

theorem reviewed_consistent {answer : Option (Reference × Value)} (h : IsConsistent policy s)
    (hstep : s.reviewed answer = some s') : IsConsistent policy s' := by
  obtain ⟨hcore, hpoint⟩ := h
  rw [Run.reviewed] at hstep
  split at hstep
  case h_1 capability hcalls hp =>
    rw [hp] at hpoint
    obtain ⟨hopen, hwait, hinternal, htally⟩ := hpoint
    split at hstep
    case h_1 =>
      cases hstep
      exact fail_consistent hcore hopen hwait
    case h_2 result hresult =>
      cases hstep
      refine currentStatus_consistent ⟨by rw [attempts_cons]; exact hcore.attempts, hcore.bound,
        hcore.deadline, hcore.deadlineAt, hcore.starts, hcore.waits.congr rfl rfl rfl⟩ hopen hwait
        hinternal ⟨rfl, ?_, htally.counted⟩
      rw [terminals_cons, htally.resolved]
      rfl
  case h_2 => cases hstep

theorem clean_consistent {answer : Answer} (h : IsConsistent policy s)
    (hp : s.point = .aborting answer) : IsConsistent policy (s.clean answer) := by
  obtain ⟨hcore, hpoint⟩ := h
  rw [hp] at hpoint
  obtain ⟨hopen, hwait, hinternal, hanswer⟩ := hpoint
  have hfinal : AnswerSound s (if s.runtimeFailed then .error .timerUnavailable else answer) := by
    intro result hresult
    split at hresult
    · cases hresult
    · exact hanswer result hresult
  rw [clean]
  dsimp only
  split
  case isTrue =>
    exact ⟨hcore.congr rfl rfl rfl rfl rfl (hcore.waits.congr rfl rfl rfl), hopen, hwait, hinternal,
      hfinal, rfl⟩
  case isFalse hcreated =>
    exact ⟨hcore.congr rfl rfl rfl rfl rfl (hcore.waits.congr rfl rfl rfl), hopen, hwait, hinternal,
      hfinal, fun htrue => absurd htrue hcreated, rfl⟩

theorem advance_consistent (h : IsConsistent policy s) (hstep : s.advance = some s') :
    IsConsistent policy s' := by
  rw [Run.advance] at hstep
  split at hstep
  case h_1 w hcalls hp hw =>
    obtain ⟨hcore, hpoint⟩ := h
    rw [hp] at hpoint
    obtain ⟨hopen, hinternal, htally, hbound, w', hw', hretry⟩ := hpoint
    rw [hw] at hw'
    obtain rfl := Option.some.inj hw'
    split at hstep
    case h_1 outcome hscheduling hpromise =>
      have hsound := hcore.waits.wait w hw
      have hsettled := hsound.promise (by rw [hpromise]; rfl)
      have hended : WaitsSound { s with wait := none, ended := w :: s.ended } := by
        constructor
        case wait => exact fun old hold => by cases hold
        case ended =>
          intro old hold
          cases hold with
          | head => exact hsound.cancelled hsettled
          | tail _ hold => exact hcore.waits.ended old hold
        case calls =>
          intro outcome failed hcall
          rw [hcalls] at hcall
          cases hcall
      have hnext : Core policy { s with wait := none, ended := w :: s.ended } :=
        hcore.congr rfl rfl rfl rfl rfl hended
      cases hstep
      cases outcome with
      | none => exact fail_consistent hnext hopen rfl
      | some outcome =>
        cases outcome with
        | aborted => exact currentStatus_consistent hnext hopen rfl hinternal ⟨htally.1, htally.2⟩
        | elapsed =>
          exact ⟨hnext.congr rfl rfl rfl rfl rfl (hended.congr rfl rfl rfl), hopen, rfl, hinternal,
            ⟨htally.1, htally.2⟩, hbound, hretry⟩
    case h_2 => cases hstep
  case h_2 answer hcalls hp =>
    cases hstep
    exact clean_consistent h hp
  case h_3 answer hcalls hp =>
    obtain ⟨hcore, hpoint⟩ := h
    rw [hp] at hpoint
    cases hstep
    exact ⟨hcore.congr rfl rfl rfl rfl rfl (hcore.waits.congr rfl rfl rfl), hpoint⟩
  case h_4 => cases hstep

theorem step_consistent {event : Event} (h : IsConsistent policy s)
    (hstep : s.step policy event = some s') : IsConsistent policy s' := by
  cases event with
  | abort => exact Option.some.inj hstep ▸ abort_consistent h
  | deadlineFired => exact deadlineFired_consistent h hstep
  | retryFired => exact retryFired_consistent h hstep
  | lateRetryFired index => exact lateRetryFired_consistent h hstep
  | clock reading => exact clock_consistent h hstep
  | scheduled threw => exact scheduled_consistent h hstep
  | cancelled threw => exact cancelled_consistent h hstep
  | invoked capability => exact invoked_consistent h hstep
  | reviewed answer => exact reviewed_consistent h hstep
  | advance => exact advance_consistent h hstep

theorem begin_consistent (policy : ReviewedPolicy) (aborted : Bool) :
    IsConsistent policy (.begin aborted) := by
  have hwaits : WaitsSound (.begin aborted) := by
    constructor
    case wait => exact fun w hw => by cases hw
    case ended => exact fun w hw => absurd hw List.not_mem_nil
    case calls => exact fun outcome failed hcall => absurd hcall List.not_mem_nil
  refine ⟨⟨rfl, Nat.zero_le _, fun _ => rfl, fun hne => absurd rfl hne, trivial, hwaits⟩, ?_⟩
  cases aborted with
  | false => exact ⟨rfl, rfl, rfl, ⟨rfl, le_rfl⟩, rfl, rfl, rfl⟩
  | true =>
    refine ⟨rfl, rfl, nofun, fun result hresult => ?_, nofun, rfl⟩
    obtain rfl := Except.ok.inj hresult
    exact ⟨rfl, le_rfl, .inl rfl⟩

end Answers

section Guarantee

/-- What a run leaves behind. An interrupted wait is one that was aborted inside its call of
`schedule`. -/
structure Cleaned (s : Run) : Prop where
  deadlineTimer : s.deadlineTimer.created = true →
    s.deadlineTimer.cancelled = true ∨ s.deadlineTimer.fired = true
  retryTimers : ∀ w ∈ s.wait.toList ++ s.ended, w.timer.created = true → w.interrupted = false →
    w.timer.cancelled = true ∨ w.timer.fired = true
  listener : s.listening = false
  internalSignal : s.internalSignal ≠ some false

structure IsBounded (policy : ReviewedPolicy) (s : Run) : Prop where
  attempts : attempts s.trace ≤ policy.maximumWorkItems
  deadline : 0 < ReconciliationInvariant.attempts s.trace →
    s.deadlineAt = s.startedAt + policy.maximumRunMilliseconds
  starts : ∀ newer older, s.trace = newer ++ .attempted :: older → StartSound s.deadlineAt older
  result : ∀ result, s.point = .settled (.ok result) → ResultSound s.trace result
  cleaned : s.isSettled = true → Cleaned s

theorem isBounded_of_consistent (h : IsConsistent policy s) : IsBounded policy s where
  attempts := h.core.attempts ▸ h.core.bound
  deadline := fun hpositive => h.core.deadlineAt fun hnone => by
    rw [← h.core.attempts, h.core.deadline hnone] at hpositive
    exact absurd hpositive (Nat.lt_irrefl 0)
  starts := fun _ _ htrace => h.core.starts.split htrace
  result := fun result hp => by
    have hpoint := h.point
    rw [hp] at hpoint
    exact hpoint.2.2.2.1 result rfl
  cleaned := fun hsettled => by
    have hpoint := h.point
    cases hp : s.point with
    | settled answer =>
      rw [hp] at hpoint
      obtain ⟨_, hwait, hinternal, _, hcancelled, hlistening⟩ := hpoint
      refine ⟨fun hcreated => .inl (hcancelled hcreated), fun w hw hcreated hinterrupted => ?_,
        hlistening, hinternal⟩
      rw [hwait] at hw
      obtain hdone | hdone := h.core.waits.ended w hw hcreated
      · exact .inl hdone
      · rw [hinterrupted] at hdone
        cases hdone
    | _ =>
      rw [isSettled, hp] at hsettled
      cases hsettled

/-- A run whose attempt is open has not settled. -/
theorem unsettled_of_open (h : IsConsistent policy s) (hopen : isOpen s.trace = true) :
    s.isSettled = false := by
  have hpoint := h.point
  cases hp : s.point with
  | settled answer =>
    rw [hp] at hpoint
    rw [hpoint.1] at hopen
    cases hopen
  | _ => rw [isSettled, hp]

theorem abort_point (s : Run) : s.abort.point = s.point := by
  rw [Run.abort]
  repeat' split
  · rfl
  · exact abortInternal_point _
  · rfl

theorem deadlineFired_point (hstep : s.deadlineFired = some s') : s'.point = s.point := by
  rw [Run.deadlineFired] at hstep
  split at hstep
  case isFalse => cases hstep
  case isTrue =>
    dsimp only at hstep
    split at hstep
    case isTrue =>
      cases hstep
      rfl
    case isFalse =>
      cases hstep
      exact abortInternal_point _

theorem retryFired_point (hstep : s.retryFired = some s') : s'.point = s.point := by
  rw [Run.retryFired] at hstep
  split at hstep
  case h_1 => cases hstep
  case h_2 =>
    split at hstep
    case isFalse => cases hstep
    case isTrue =>
      dsimp only at hstep
      split at hstep
      case isTrue =>
        cases hstep
        exact settleWait_point _ _ _
      case isFalse =>
        cases hstep
        rfl

theorem lateRetryFired_point {index : Nat} (hstep : s.lateRetryFired index = some s') :
    s'.point = s.point := by
  rw [Run.lateRetryFired] at hstep
  split at hstep
  case h_1 => cases hstep
  case h_2 =>
    split at hstep
    case isFalse => cases hstep
    case isTrue =>
      cases hstep
      rfl

/-- A run that has settled is only told of callbacks. -/
theorem step_settled {answer : Answer} {event : Event} (hp : s.point = .settled answer)
    (hstep : s.step policy event = some s') : s'.point = .settled answer := by
  cases event with
  | abort => exact Option.some.inj hstep ▸ (abort_point s).trans hp
  | deadlineFired => exact (deadlineFired_point hstep).trans hp
  | retryFired => exact (retryFired_point hstep).trans hp
  | lateRetryFired index => exact (lateRetryFired_point hstep).trans hp
  | clock reading =>
    rw [Run.step, Run.clock] at hstep
    dsimp only at hstep
    split at hstep
    case h_1 =>
      cases hstep
      exact (noteDeadline_point _ _).trans hp
    case h_2 => cases hstep
    case h_3 =>
      split at hstep
      case h_1 =>
        simp only [readFailed, hp] at hstep
        cases hstep
      case h_2 =>
        simp only [Run.read, hp] at hstep
        cases hstep
  | scheduled threw =>
    rw [Run.step, Run.scheduled] at hstep
    split at hstep
    case h_1 _ hother =>
      rw [hp] at hother
      cases hother
    case h_2 hother _ =>
      rw [hp] at hother
      cases hother
    case h_3 => cases hstep
  | cancelled threw =>
    rw [Run.step, Run.cancelled] at hstep
    split at hstep
    case h_1 =>
      cases hstep
      exact hp
    case h_2 _ hcancelling =>
      rw [hp] at hcancelling
      cases hcancelling
    case h_3 => cases hstep
  | invoked capability =>
    rw [Run.step, Run.invoked] at hstep
    split at hstep
    case h_1 _ hother =>
      rw [hp] at hother
      cases hother
    case h_2 => cases hstep
  | reviewed result =>
    rw [Run.step, Run.reviewed] at hstep
    split at hstep
    case h_1 _ _ hother =>
      rw [hp] at hother
      cases hother
    case h_2 => cases hstep
  | advance =>
    rw [Run.step, Run.advance] at hstep
    split at hstep
    case h_1 hother _ =>
      rw [hp] at hother
      cases hother
    case h_2 _ _ hother =>
      rw [hp] at hother
      cases hother
    case h_3 _ _ hother =>
      rw [hp] at hother
      cases hother
    case h_4 => cases hstep

theorem isSettled_iff : s.isSettled = true ↔ ∃ answer, s.point = .settled answer := by
  rw [isSettled]
  constructor
  · intro h
    split at h
    case h_1 answer hp => exact ⟨answer, hp⟩
    case h_2 => cases h
  · rintro ⟨answer, hp⟩
    rw [hp]

/-- At most one run has not settled: the last, while the lifecycle is running. -/
structure IsExclusive (l : Lifecycle) : Prop where
  unsettled : ∀ i s, l.runs[i]? = some s → s.isSettled = false →
    l.running = true ∧ i + 1 = l.runs.length
  running : l.running = true → ∃ s ∈ l.runs, s.isSettled = false

/-- What is promised of the lifecycle and of all its runs. -/
structure IsGuaranteed (isAbortSignal : Value → Bool) (policy : ReviewedPolicy) (l : Lifecycle) :
    Prop where
  runs : ∀ s ∈ l.runs, IsBounded policy s
  sequential : ∀ (i j : Nat) (s s' : Run), l.runs[i]? = some s → l.runs[j]? = some s' → isOpen s.trace = true →
    isOpen s'.trace = true → i = j
  running : l.running = true ↔ ∃ s ∈ l.runs, s.isSettled = false
  refused : l.running = true → ∀ request aborted,
    (∃ code, l.call isAbortSignal request aborted = .error code) ∧
      l.step isAbortSignal policy (.call request aborted) = some l
  released : l.running = false → ∀ request signal aborted,
    reviewedRunRequest isAbortSignal request = some signal →
      l.call isAbortSignal request aborted =
        .ok { running := true, runs := l.runs ++ [.begin aborted] }

variable {isAbortSignal : Value → Bool} {l l' : Lifecycle}

theorem settled_of_idle (h : IsExclusive l) (hidle : ¬ l.running = true) {i : Nat}
    (hi : l.runs[i]? = some s) : s.isSettled = true := by
  cases hsettled : s.isSettled with
  | true => rfl
  | false => exact absurd (h.unsettled i s hi hsettled).1 hidle

theorem begin_isSettled (aborted : Bool) : (Run.begin aborted).isSettled = false := by
  cases aborted <;> rfl

theorem call_eq_ok {request : Value} {aborted : Bool}
    (hcall : l.call isAbortSignal request aborted = .ok l') :
    ¬ l.running = true ∧ l' = { running := true, runs := l.runs ++ [.begin aborted] } := by
  rw [Lifecycle.call] at hcall
  split at hcall
  case h_1 => cases hcall
  case h_2 =>
    split at hcall
    case isTrue => cases hcall
    case isFalse hidle => exact ⟨hidle, (Except.ok.inj hcall).symm⟩

theorem call_exclusive {request : Value} {aborted : Bool} (h : IsExclusive l)
    (hcall : l.call isAbortSignal request aborted = .ok l') : IsExclusive l' := by
  obtain ⟨hidle, rfl⟩ := call_eq_ok hcall
  constructor
  · intro i s hi hsettled
    refine ⟨rfl, ?_⟩
    rw [List.getElem?_append] at hi
    split at hi
    case isTrue =>
      rw [settled_of_idle h hidle hi] at hsettled
      cases hsettled
    case isFalse hlength =>
      have hlt := (List.getElem?_eq_some_iff.mp hi).1
      rw [List.length_singleton] at hlt
      rw [List.length_append, List.length_singleton]
      omega
  · exact fun _ => ⟨_, List.mem_append_right _ List.mem_cons_self, begin_isSettled aborted⟩

theorem runStep_eq_some {index : Nat} {event : Event}
    (hstep : l.runStep policy index event = some l') :
    ∃ s s', l.runs[index]? = some s ∧ s.step policy event = some s' ∧
      l' = { running := l.running && !(s'.isSettled && !s.isSettled), runs := l.runs.set index s' } := by
  rw [Lifecycle.runStep] at hstep
  split at hstep
  case h_1 => cases hstep
  case h_2 s hs =>
    obtain ⟨s', hs', rfl⟩ := Option.map_eq_some_iff.mp hstep
    exact ⟨s, s', hs, hs', rfl⟩

theorem runStep_exclusive {index : Nat} {event : Event} (h : IsExclusive l)
    (hstep : l.runStep policy index event = some l') : IsExclusive l' := by
  obtain ⟨s, s', hs, hs', rfl⟩ := runStep_eq_some hstep
  have hlt := (List.getElem?_eq_some_iff.mp hs).1
  have hkept : s.isSettled = true → s'.isSettled = true := fun hsettled => by
    obtain ⟨answer, hp⟩ := isSettled_iff.1 hsettled
    exact isSettled_iff.2 ⟨answer, step_settled hp hs'⟩
  constructor
  · intro i t hi ht
    rw [List.getElem?_set] at hi
    rw [List.length_set]
    split at hi
    case isTrue heq =>
      subst heq
      obtain rfl := Option.some.inj hi
      cases hsettled : s.isSettled with
      | true => rw [hkept hsettled] at ht; cases ht
      | false =>
        obtain ⟨hrunning, hlast⟩ := h.unsettled index s hs hsettled
        exact ⟨by rw [hrunning, ht]; rfl, hlast⟩
    case isFalse hne =>
      obtain ⟨hrunning, hlast⟩ := h.unsettled i t hi ht
      refine ⟨?_, hlast⟩
      cases hsettled : s.isSettled with
      | true => rw [hrunning, hkept hsettled]; rfl
      | false => exact absurd ((h.unsettled index s hs hsettled).2.trans hlast.symm) (by omega)
  · intro hrunning
    obtain ⟨hold, hnot⟩ := Bool.and_eq_true_iff.mp hrunning
    obtain ⟨t, ht, hunsettled⟩ := h.running hold
    obtain ⟨i, hi⟩ := List.mem_iff_getElem?.mp ht
    by_cases heq : index = i
    · subst heq
      obtain rfl := Option.some.inj (hs.symm.trans hi)
      refine ⟨s', @List.mem_of_getElem? _ _ index _ ?_, ?_⟩
      · rw [List.getElem?_set_self hlt]
      · cases hsettled : s'.isSettled with
        | false => rfl
        | true =>
          rw [hsettled, hunsettled] at hnot
          cases hnot
    · refine ⟨t, @List.mem_of_getElem? _ _ i _ ?_, hunsettled⟩
      rw [List.getElem?_set_ne heq]
      exact hi

/-- Every run is consistent, and at most one has not settled. -/
structure IsSound (policy : ReviewedPolicy) (l : Lifecycle) : Prop where
  runs : ∀ s ∈ l.runs, IsConsistent policy s
  exclusive : IsExclusive l

theorem preserved_sound (isAbortSignal : Value → Bool) (policy : ReviewedPolicy) :
    Preserved (Lifecycle.step isAbortSignal policy) (IsSound policy) := by
  intro l event l' h hstep
  cases event with
  | call request aborted =>
    obtain rfl := Option.some.inj hstep
    cases hcall : l.call isAbortSignal request aborted with
    | error code => exact h
    | ok next =>
      refine ⟨fun s hs => ?_, call_exclusive h.exclusive hcall⟩
      obtain ⟨_, rfl⟩ := call_eq_ok hcall
      obtain hs | hs := List.mem_append.mp hs
      · exact h.runs s hs
      · rw [List.mem_singleton.mp hs]
        exact begin_consistent policy aborted
  | run index event =>
    refine ⟨fun t ht => ?_, runStep_exclusive h.exclusive hstep⟩
    obtain ⟨s, s', hs, hs', rfl⟩ := runStep_eq_some hstep
    obtain ht | rfl := List.mem_or_eq_of_mem_set ht
    · exact h.runs t ht
    · exact step_consistent (h.runs s (List.mem_of_getElem? hs)) hs'

theorem isGuaranteed_of_sound (h : IsSound policy l) : IsGuaranteed isAbortSignal policy l := by
  have hrunning : l.running = true ↔ ∃ s ∈ l.runs, s.isSettled = false := by
    refine ⟨h.exclusive.running, fun ⟨s, hs, hsettled⟩ => ?_⟩
    obtain ⟨i, hi⟩ := List.mem_iff_getElem?.mp hs
    exact (h.exclusive.unsettled i s hi hsettled).1
  have hrefused (hrun : l.running = true) (request : Value) (aborted : Bool) :
      ∃ code, l.call isAbortSignal request aborted = .error code := by
    cases hcall : l.call isAbortSignal request aborted with
    | error code => exact ⟨code, rfl⟩
    | ok next => exact absurd hrun (call_eq_ok hcall).1
  refine ⟨fun s hs => isBounded_of_consistent (h.runs s hs), ?_, hrunning, ?_, ?_⟩
  · intro i j s s' hi hj hopen hopen'
    have hs := unsettled_of_open (h.runs s (List.mem_of_getElem? hi)) hopen
    have hs' := unsettled_of_open (h.runs s' (List.mem_of_getElem? hj)) hopen'
    have hlast := (h.exclusive.unsettled i s hi hs).2
    have hlast' := (h.exclusive.unsettled j s' hj hs').2
    omega
  · intro hrun request aborted
    obtain ⟨code, hcode⟩ := hrefused hrun request aborted
    exact ⟨⟨code, hcode⟩, by rw [Lifecycle.step, hcode]; rfl⟩
  · intro hidle request signal aborted hrequest
    rw [Lifecycle.call, hrequest]
    simp only [hidle, Bool.false_eq_true, if_false]

theorem initial_sound (policy : ReviewedPolicy) : IsSound policy {} := by
  refine ⟨fun s hs => ?_, fun i s hi _ => ?_, fun hrunning => ?_⟩
  · cases hs
  · cases hi
  · cases hrunning

/-- Every run of the lifecycle stays within its bounds, whatever the port, the clock, the timer and
the signals do. -/
theorem run_guaranteed {events : List LifecycleEvent}
    (hrun : Events.run (Lifecycle.step isAbortSignal policy) {} events = some l) :
    IsGuaranteed isAbortSignal policy l :=
  isGuaranteed_of_sound ((preserved_sound isAbortSignal policy).run (initial_sound policy) hrun)

end Guarantee

section Sample

def samplePolicy : ReviewedPolicy := ⟨2, 1000, by decide, by decide⟩

def sampleSignal : Value := .object false []

def sampleIsAbortSignal : Value → Bool
  | .object _ [] => true
  | _ => false

def sampleRequest : Value := ofFields
  [("lifecycleVersion", .integer 1), ("use", .string lifecycleUse),
    ("mayAuthorizeFinancialAction", .boolean false), ("signal", sampleSignal)]

def sampleCommon (outcome : String) : List (String × Value) :=
  [("reconciliationVersion", .integer 1), ("use", .string reconciliationResultUse),
    ("mayAuthorizeFinancialAction", .boolean false), ("outcome", .string outcome),
    ("recordIntentFingerprintSha256", .string (String.ofList (List.replicate 64 'a'))),
    ("evidenceFingerprintSha256", .string (String.ofList (List.replicate 64 'b')))]

/-- An intent that was not recorded before its deadline. -/
def sampleNotRecorded : Value := ofFields (sampleCommon "NOT_RECORDED" ++
  [("producerDeadlineAt", .string "1970-01-01T00:00:00.000Z"),
    ("resolvedAt", .string "1970-01-01T00:00:00.001Z")])

/-- An intent to retry a tenth of a second after the epoch. -/
def sampleDeferred : Value := ofFields (sampleCommon "DEFERRED" ++
  [("knownIntentState", .string "UNKNOWN"), ("uncertainPhase", .string "RECONCILE_RECORD"),
    ("retryNotBefore", .string "1970-01-01T00:00:00.100Z")])

/-- The run is stopped, cancels its timer and settles. -/
def sampleEnd (index : Nat) : List LifecycleEvent :=
  [.run index .advance, .run index (.cancelled false), .run index .advance]

/-- A run that is aborted while its first attempt resolves an intent. -/
def sampleResolved : List LifecycleEvent :=
  [.call sampleRequest false, .run 0 (.clock (some 0)), .run 0 (.scheduled false),
    .run 0 (.clock (some 1)), .run 0 .abort, .run 0 (.invoked (some 7)),
    .run 0 (.reviewed (some (7, sampleNotRecorded)))] ++ sampleEnd 0

/-- A run that is aborted while it schedules its first retry. -/
def sampleRetried : List LifecycleEvent :=
  [.call sampleRequest false, .run 1 (.clock (some 0)), .run 1 (.scheduled false),
    .run 1 (.clock (some 1)), .run 1 (.invoked (some 8)),
    .run 1 (.reviewed (some (8, sampleDeferred))), .run 1 (.clock (some 2)),
    .run 1 (.clock (some 3)), .run 1 .abort, .run 1 (.scheduled false),
    .run 1 .advance] ++ sampleEnd 1

/-- The result of the run counts fewer resolved intents than were authenticated. -/
def isUncounted (s : Run) : Bool :=
  match s.point with
  | .settled (.ok result) => decide (result.resolvedIntentCount < terminals s.trace)
  | _ => false

/-- The run has settled and left a retry timer behind. -/
def leavesTimer (s : Run) : Bool :=
  s.isSettled && s.ended.any fun w => w.timer.created && !w.timer.cancelled && !w.timer.fired

theorem sampleRuns_any : (Events.run (Lifecycle.step sampleIsAbortSignal samplePolicy) {}
    (sampleResolved ++ sampleRetried)).any
      (fun l => l.runs.any isUncounted && l.runs.any leavesTimer) = true := by decide

/-- An abort may hide a resolved intent from the counts, and a timer from the cleanup. -/
theorem sampleRuns_leftOver : ∃ l,
    Events.run (Lifecycle.step sampleIsAbortSignal samplePolicy) {}
      (sampleResolved ++ sampleRetried) = some l ∧
    l.runs.any isUncounted = true ∧ l.runs.any leavesTimer = true := by
  obtain ⟨l, hl, hleft⟩ := (Option.any_eq_true _ _).mp sampleRuns_any
  exact ⟨l, hl, Bool.and_eq_true_iff.mp hleft⟩

theorem sampleRuns_guaranteed : ∃ l,
    Events.run (Lifecycle.step sampleIsAbortSignal samplePolicy) {}
      (sampleResolved ++ sampleRetried) = some l ∧
    IsGuaranteed sampleIsAbortSignal samplePolicy l := by
  obtain ⟨l, hl, _⟩ := (Option.any_eq_true _ _).mp sampleRuns_any
  exact ⟨l, hl, run_guaranteed hl⟩

end Sample

end CryptoLending.MainnetPlatforms.ReconciliationGuarantee
