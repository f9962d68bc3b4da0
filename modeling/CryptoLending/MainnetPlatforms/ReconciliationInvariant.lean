import CryptoLending.MainnetPlatforms.ReconciliationLifecycle

namespace CryptoLending.MainnetPlatforms.ReconciliationInvariant

open Lib Lib.JsValue Lib.Events ReconciliationResult ReconciliationLifecycle
  ReconciliationLifecycle.Run

section Trace

/-- The reading of the clock that precedes what follows. -/
def lastReading : List Mark → Option Int
  | [] => none
  | .clock reading :: _ => some reading
  | _ :: older => lastReading older

/-- An attempt was started and has not been answered. -/
def isOpen : List Mark → Bool
  | [] => false
  | .attempted :: _ => true
  | .answered :: _ => false
  | _ :: older => isOpen older

def lastResult : List Mark → Option ReviewedReconciliationResult
  | [] => none
  | .authenticated result :: _ => some result
  | _ :: older => lastResult older

/-- The readings of the clock since the last result. -/
def readingsSince : List Mark → List Int
  | [] => []
  | .authenticated _ :: _ => []
  | .clock reading :: older => reading :: readingsSince older
  | _ :: older => readingsSince older

/-- After a deferral the clock has reached the time from which a retry makes sense. -/
def HasWaited (trace : List Mark) : Prop :=
  ∀ result, lastResult trace = some result → result.outcome = .deferred →
    ∃ retryNotBefore, result.retryNotBeforeMilliseconds = some retryNotBefore ∧
      ∃ reading ∈ readingsSince trace, retryNotBefore ≤ reading

def isAttempt : Mark → Bool
  | .attempted => true
  | _ => false

def attempts (trace : List Mark) : Nat := trace.countP isAttempt

theorem attempts_cons (mark : Mark) (older : List Mark) :
    attempts (mark :: older) = attempts older + if isAttempt mark then 1 else 0 := List.countP_cons

def isTerminal : Mark → Bool
  | .authenticated result => result.outcome.isTerminal
  | _ => false

/-- The results that resolved an intent. -/
def terminals (trace : List Mark) : Nat := trace.countP isTerminal

theorem terminals_cons (mark : Mark) (older : List Mark) :
    terminals (mark :: older) = terminals older + if isTerminal mark then 1 else 0 :=
  List.countP_cons

/-- What precedes an attempt. -/
structure StartSound (deadlineAt : Int) (older : List Mark) : Prop where
  sequential : isOpen older = false
  beforeDeadline : ∃ reading, lastReading older = some reading ∧ reading < deadlineAt
  waited : HasWaited older

def StartsSound (deadlineAt : Int) : List Mark → Prop
  | [] => True
  | .attempted :: older => StartSound deadlineAt older ∧ StartsSound deadlineAt older
  | _ :: older => StartsSound deadlineAt older

theorem StartsSound.split {deadlineAt : Int} {trace newer older : List Mark}
    (h : StartsSound deadlineAt trace) (htrace : trace = newer ++ .attempted :: older) :
    StartSound deadlineAt older := by
  induction newer generalizing trace with
  | nil =>
    subst htrace
    exact h.1
  | cons mark newer ih =>
    subst htrace
    cases mark with
    | attempted => exact ih h.2 rfl
    | clock | answered | authenticated =>
      exact ih (show StartsSound deadlineAt (newer ++ .attempted :: older) from h) rfl

/-- The counts of a result. The last result that resolved an intent is missing when the run was
stopped right after it. -/
structure ResultSound (trace : List Mark) (result : RunResult) : Prop where
  attempts : result.attemptCount = attempts trace
  counted : result.resolvedIntentCount + result.deferredCount ≤ result.attemptCount
  resolved : terminals trace = result.resolvedIntentCount ∨
    (result.outcome = .aborted ∨ result.outcome = .runDeadlineReached) ∧
      terminals trace = result.resolvedIntentCount + 1 ∧
        ∃ last, lastResult trace = some last ∧ last.outcome.isTerminal = true

end Trace

section Invariant

/-- A wait that was settled has its timer cancelled, unless that timer came later. -/
structure WaitSound (w : Wait) : Prop where
  promise : w.promise.isSome = true → w.settled = true
  cancelled : w.settled = true → w.timer.created = true →
    w.timer.cancelled = true ∨ w.interrupted = true
  scheduling : w.scheduling = true → w.timer.created = false ∧
    (w.settled = true → w.interrupted = true)

structure WaitsSound (s : Run) : Prop where
  wait : ∀ w, s.wait = some w → WaitSound w
  ended : ∀ w ∈ s.ended, w.timer.created = true → w.timer.cancelled = true ∨ w.interrupted = true
  calls : ∀ outcome failed, .cancelRetry outcome failed ∈ s.calls →
    ∃ w, s.wait = some w ∧ w.settled = true

/-- What is known at every point. -/
structure Core (policy : ReviewedPolicy) (s : Run) : Prop where
  attempts : s.counts.attempts = attempts s.trace
  bound : s.counts.attempts ≤ policy.maximumWorkItems
  deadline : s.internalSignal = none → s.counts.attempts = 0
  deadlineAt : s.internalSignal ≠ none →
    s.deadlineAt = s.startedAt + policy.maximumRunMilliseconds
  starts : StartsSound s.deadlineAt s.trace
  waits : WaitsSound s

/-- How many results have not been counted yet. -/
structure Tally (s : Run) (uncounted unresolved : Nat) : Prop where
  resolved : terminals s.trace = s.counts.resolved + unresolved
  counted : s.counts.resolved + s.counts.deferred + uncounted ≤ s.counts.attempts

/-- The last result may be retried at a time. -/
def RetriesAt (trace : List Mark) (retryAt : Int) : Prop :=
  ∀ result, lastResult trace = some result →
    ∃ retryNotBefore, result.retryNotBeforeMilliseconds = some retryNotBefore ∧
      retryNotBefore ≤ retryAt

/-- The results that an outcome says nothing about. -/
def uncountedOf (result : ReviewedReconciliationResult) : Nat :=
  if result.outcome.isTerminal then 1 else 0

def NextSound (policy : ReviewedPolicy) (s : Run) : Next → Prop
  | .attempt => Tally s 0 0 ∧ s.counts.attempts < policy.maximumWorkItems ∧ HasWaited s.trace
  | .invocationFailed | .waitAborted => Tally s 0 0
  | .reviewed result => lastResult s.trace = some result ∧ Tally s 1 (uncountedOf result)

def AnswerSound (s : Run) (answer : Answer) : Prop :=
  ∀ result, answer = .ok result → ResultSound s.trace result

def AtPoint (policy : ReviewedPolicy) (s : Run) : Point → Prop
  | .starting => isOpen s.trace = false ∧ s.wait = none ∧ s.internalSignal = none ∧ Tally s 0 0 ∧
      lastResult s.trace = none ∧ s.listening = false ∧ s.deadlineTimer.created = false
  | .scheduling => isOpen s.trace = false ∧ s.wait = none ∧ s.internalSignal ≠ none ∧
      Tally s 0 0 ∧ lastResult s.trace = none
  | .checking next _ => isOpen s.trace = false ∧ s.wait = none ∧ s.internalSignal ≠ none ∧
      NextSound policy s next
  | .invoking => s.wait = none ∧ s.internalSignal ≠ none ∧ Tally s 1 0
  | .reviewing _ => isOpen s.trace = false ∧ s.wait = none ∧ s.internalSignal ≠ none ∧ Tally s 1 0
  | .timing retryNotBefore => isOpen s.trace = false ∧ s.wait = none ∧ s.internalSignal ≠ none ∧
      Tally s 0 0 ∧ s.counts.attempts < policy.maximumWorkItems ∧ RetriesAt s.trace retryNotBefore
  | .waiting => isOpen s.trace = false ∧ s.internalSignal ≠ none ∧ Tally s 0 0 ∧
      s.counts.attempts < policy.maximumWorkItems ∧
        ∃ w, s.wait = some w ∧ RetriesAt s.trace w.retryAt
  | .resuming retryAt => isOpen s.trace = false ∧ s.wait = none ∧ s.internalSignal ≠ none ∧
      Tally s 0 0 ∧ s.counts.attempts < policy.maximumWorkItems ∧ RetriesAt s.trace retryAt
  | .aborting answer => isOpen s.trace = false ∧ s.wait = none ∧ s.internalSignal ≠ some false ∧
      AnswerSound s answer
  | .cancelling answer => isOpen s.trace = false ∧ s.wait = none ∧
      s.internalSignal ≠ some false ∧ AnswerSound s answer ∧ s.deadlineTimer.cancelled = true
  | .returning answer | .settled answer => isOpen s.trace = false ∧ s.wait = none ∧
      s.internalSignal ≠ some false ∧ AnswerSound s answer ∧
        (s.deadlineTimer.created = true → s.deadlineTimer.cancelled = true) ∧ s.listening = false

structure IsConsistent (policy : ReviewedPolicy) (s : Run) : Prop where
  core : Core policy s
  point : AtPoint policy s s.point

end Invariant

section Readings

variable (readings : List Int) (trace : List Mark)

theorem isOpen_readings : isOpen (readings.map Mark.clock ++ trace) = isOpen trace := by
  induction readings with
  | nil => rfl
  | cons reading readings ih => exact ih

theorem lastResult_readings :
    lastResult (readings.map Mark.clock ++ trace) = lastResult trace := by
  induction readings with
  | nil => rfl
  | cons reading readings ih => exact ih

theorem attempts_readings : attempts (readings.map Mark.clock ++ trace) = attempts trace := by
  induction readings with
  | nil => rfl
  | cons reading readings ih => exact ih

theorem terminals_readings : terminals (readings.map Mark.clock ++ trace) = terminals trace := by
  induction readings with
  | nil => rfl
  | cons reading readings ih => exact ih

theorem startsSound_readings {deadlineAt : Int} (h : StartsSound deadlineAt trace) :
    StartsSound deadlineAt (readings.map Mark.clock ++ trace) := by
  induction readings with
  | nil => exact h
  | cons reading readings ih => exact ih

theorem mem_readingsSince_readings {reading : Int} (h : reading ∈ readingsSince trace) :
    reading ∈ readingsSince (readings.map Mark.clock ++ trace) := by
  induction readings with
  | nil => exact h
  | cons first readings ih => exact List.mem_cons_of_mem _ ih

variable {readings trace}

theorem HasWaited.addReadings (h : HasWaited trace) :
    HasWaited (readings.map Mark.clock ++ trace) := by
  intro result hresult hdeferred
  rw [lastResult_readings] at hresult
  obtain ⟨retryNotBefore, hretry, reading, hreading, hle⟩ := h result hresult hdeferred
  exact ⟨retryNotBefore, hretry, reading, mem_readingsSince_readings _ _ hreading, hle⟩

theorem ResultSound.addReadings {result : RunResult} (h : ResultSound trace result) :
    ResultSound (readings.map Mark.clock ++ trace) result where
  attempts := by rw [attempts_readings, h.attempts]
  counted := h.counted
  resolved := by
    rw [terminals_readings, lastResult_readings]
    exact h.resolved

/-- A reading that reaches the time of the retry. -/
theorem RetriesAt.hasWaited {retryAt reading : Int} (h : RetriesAt trace retryAt)
    (hreading : retryAt ≤ reading) : HasWaited (.clock reading :: trace) := by
  intro result hresult _
  obtain ⟨retryNotBefore, hretry, hle⟩ := h result hresult
  exact ⟨retryNotBefore, hretry, reading, List.mem_cons_self, hle.trans hreading⟩

end Readings

section Keeping

variable {policy : ReviewedPolicy} {s s' : Run}

/-- What no callback changes. -/
structure Keeps (s s' : Run) : Prop where
  counts : s'.counts = s.counts
  startedAt : s'.startedAt = s.startedAt
  deadlineAt : s'.deadlineAt = s.deadlineAt
  listening : s'.listening = s.listening
  created : s'.deadlineTimer.created = s.deadlineTimer.created
  cancelled : s'.deadlineTimer.cancelled = s.deadlineTimer.cancelled
  internalSignal : s'.internalSignal = s.internalSignal ∨
    s.internalSignal = some false ∧ s'.internalSignal = some true
  trace : ∃ readings : List Int, s'.trace = readings.map Mark.clock ++ s.trace
  wait : s'.wait.map Wait.retryAt = s.wait.map Wait.retryAt

theorem Keeps.trans {t : Run} (h : Keeps s s') (h' : Keeps s' t) : Keeps s t where
  counts := h'.counts.trans h.counts
  startedAt := h'.startedAt.trans h.startedAt
  deadlineAt := h'.deadlineAt.trans h.deadlineAt
  listening := h'.listening.trans h.listening
  created := h'.created.trans h.created
  cancelled := h'.cancelled.trans h.cancelled
  internalSignal := by
    obtain h₁ | ⟨h₁, h₂⟩ := h.internalSignal
    · rw [← h₁]
      exact h'.internalSignal
    · obtain h₃ | ⟨h₃, _⟩ := h'.internalSignal
      · exact .inr ⟨h₁, h₃.trans h₂⟩
      · rw [h₂] at h₃
        cases h₃
  trace := by
    obtain ⟨readings, htrace⟩ := h.trace
    obtain ⟨readings', htrace'⟩ := h'.trace
    refine ⟨readings' ++ readings, ?_⟩
    rw [htrace', htrace, List.map_append, List.append_assoc]
  wait := h'.wait.trans h.wait

theorem Keeps.internal_ne_none (h : Keeps s s') (hs : s.internalSignal ≠ none) :
    s'.internalSignal ≠ none := by
  obtain heq | ⟨_, heq⟩ := h.internalSignal
  · rwa [heq]
  · rw [heq]
    nofun

theorem Keeps.internal_ne_false (h : Keeps s s') (hs : s.internalSignal ≠ some false) :
    s'.internalSignal ≠ some false := by
  obtain heq | ⟨_, heq⟩ := h.internalSignal
  · rwa [heq]
  · rw [heq]
    nofun

theorem Keeps.internal_eq_none (h : Keeps s s') (hs : s'.internalSignal = none) :
    s.internalSignal = none := by
  obtain heq | ⟨_, heq⟩ := h.internalSignal
  · rwa [← heq]
  · rw [heq] at hs
    cases hs

theorem Keeps.internal_none (h : Keeps s s') (hs : s.internalSignal = none) :
    s'.internalSignal = none := by
  obtain heq | ⟨heq, _⟩ := h.internalSignal
  · exact heq.trans hs
  · rw [hs] at heq
    cases heq

theorem Keeps.wait_none (h : Keeps s s') (hs : s.wait = none) : s'.wait = none := by
  have hwait := h.wait
  rwa [hs, Option.map_none, Option.map_eq_none_iff] at hwait

theorem Keeps.wait_some (h : Keeps s s') {w : Wait} (hs : s.wait = some w) :
    ∃ w', s'.wait = some w' ∧ w'.retryAt = w.retryAt := by
  have hwait := h.wait
  rwa [hs, Option.map_some, Option.map_eq_some_iff] at hwait

theorem Keeps.isOpen (h : Keeps s s') : isOpen s'.trace = ReconciliationInvariant.isOpen s.trace := by
  obtain ⟨readings, htrace⟩ := h.trace
  rw [htrace, isOpen_readings]

theorem Keeps.lastResult (h : Keeps s s') :
    lastResult s'.trace = ReconciliationInvariant.lastResult s.trace := by
  obtain ⟨readings, htrace⟩ := h.trace
  rw [htrace, lastResult_readings]

theorem Keeps.hasWaited (h : Keeps s s') (hs : HasWaited s.trace) : HasWaited s'.trace := by
  obtain ⟨readings, htrace⟩ := h.trace
  rw [htrace]
  exact hs.addReadings

theorem Keeps.retriesAt (h : Keeps s s') {retryAt : Int} (hs : RetriesAt s.trace retryAt) :
    RetriesAt s'.trace retryAt := by
  intro result hresult
  rw [h.lastResult] at hresult
  exact hs result hresult

theorem Keeps.tally (h : Keeps s s') {uncounted unresolved : Nat}
    (hs : Tally s uncounted unresolved) : Tally s' uncounted unresolved := by
  obtain ⟨readings, htrace⟩ := h.trace
  refine ⟨?_, ?_⟩
  · rw [htrace, terminals_readings, h.counts]
    exact hs.resolved
  · rw [h.counts]
    exact hs.counted

theorem Keeps.answerSound (h : Keeps s s') {answer : Answer} (hs : AnswerSound s answer) :
    AnswerSound s' answer := by
  intro result hresult
  obtain ⟨readings, htrace⟩ := h.trace
  rw [htrace]
  exact (hs result hresult).addReadings

theorem Keeps.nextSound (h : Keeps s s') {next : Next} (hs : NextSound policy s next) :
    NextSound policy s' next := by
  cases next with
  | attempt =>
    obtain ⟨htally, hbound, hwaited⟩ := hs
    exact ⟨h.tally htally, h.counts ▸ hbound, h.hasWaited hwaited⟩
  | invocationFailed | waitAborted => exact h.tally hs
  | reviewed result => exact ⟨h.lastResult.trans hs.1, h.tally hs.2⟩

theorem Core.congr (h : Core policy s) (hattempts : s'.counts.attempts = s.counts.attempts)
    (hinternal : s'.internalSignal = s.internalSignal) (hstartedAt : s'.startedAt = s.startedAt)
    (hdeadlineAt : s'.deadlineAt = s.deadlineAt) (htrace : s'.trace = s.trace)
    (hwaits : WaitsSound s') : Core policy s' where
  attempts := by rw [hattempts, htrace, h.attempts]
  bound := hattempts ▸ h.bound
  deadline := by
    rw [hinternal, hattempts]
    exact h.deadline
  deadlineAt := by
    rw [hinternal, hdeadlineAt, hstartedAt]
    exact h.deadlineAt
  starts := by
    rw [hdeadlineAt, htrace]
    exact h.starts
  waits := hwaits

theorem Core.keeps (h : Core policy s) (hkeeps : Keeps s s') (hwaits : WaitsSound s') :
    Core policy s' where
  attempts := by
    obtain ⟨readings, htrace⟩ := hkeeps.trace
    rw [htrace, attempts_readings, hkeeps.counts]
    exact h.attempts
  bound := hkeeps.counts ▸ h.bound
  deadline := fun hnone => by
    rw [hkeeps.counts]
    exact h.deadline (hkeeps.internal_eq_none hnone)
  deadlineAt := fun hsome => by
    rw [hkeeps.deadlineAt, hkeeps.startedAt]
    exact h.deadlineAt fun hnone => hsome (hkeeps.internal_none hnone)
  starts := by
    obtain ⟨readings, htrace⟩ := hkeeps.trace
    rw [htrace, hkeeps.deadlineAt]
    exact startsSound_readings _ _ h.starts
  waits := hwaits

/-- What is known at a point survives callbacks. -/
theorem AtPoint.keeps {p : Point} (h : AtPoint policy s p) (hkeeps : Keeps s s') :
    AtPoint policy s' p := by
  cases p with
  | starting =>
    obtain ⟨hopen, hwait, hinternal, htally, hresult, hlistening, hcreated⟩ := h
    exact ⟨hkeeps.isOpen.trans hopen, hkeeps.wait_none hwait, hkeeps.internal_none hinternal,
      hkeeps.tally htally, hkeeps.lastResult.trans hresult, hkeeps.listening.trans hlistening,
      hkeeps.created.trans hcreated⟩
  | scheduling =>
    obtain ⟨hopen, hwait, hinternal, htally, hresult⟩ := h
    exact ⟨hkeeps.isOpen.trans hopen, hkeeps.wait_none hwait, hkeeps.internal_ne_none hinternal,
      hkeeps.tally htally, hkeeps.lastResult.trans hresult⟩
  | checking next deadlineReached =>
    obtain ⟨hopen, hwait, hinternal, hnext⟩ := h
    exact ⟨hkeeps.isOpen.trans hopen, hkeeps.wait_none hwait, hkeeps.internal_ne_none hinternal,
      hkeeps.nextSound hnext⟩
  | invoking =>
    obtain ⟨hwait, hinternal, htally⟩ := h
    exact ⟨hkeeps.wait_none hwait, hkeeps.internal_ne_none hinternal, hkeeps.tally htally⟩
  | reviewing capability =>
    obtain ⟨hopen, hwait, hinternal, htally⟩ := h
    exact ⟨hkeeps.isOpen.trans hopen, hkeeps.wait_none hwait, hkeeps.internal_ne_none hinternal,
      hkeeps.tally htally⟩
  | timing retryNotBefore | resuming retryAt =>
    obtain ⟨hopen, hwait, hinternal, htally, hbound, hretry⟩ := h
    exact ⟨hkeeps.isOpen.trans hopen, hkeeps.wait_none hwait, hkeeps.internal_ne_none hinternal,
      hkeeps.tally htally, hkeeps.counts ▸ hbound, hkeeps.retriesAt hretry⟩
  | waiting =>
    obtain ⟨hopen, hinternal, htally, hbound, w, hw, hretry⟩ := h
    obtain ⟨w', hw', hretryAt⟩ := hkeeps.wait_some hw
    exact ⟨hkeeps.isOpen.trans hopen, hkeeps.internal_ne_none hinternal, hkeeps.tally htally,
      hkeeps.counts ▸ hbound, w', hw', hretryAt ▸ hkeeps.retriesAt hretry⟩
  | aborting answer =>
    obtain ⟨hopen, hwait, hinternal, hanswer⟩ := h
    exact ⟨hkeeps.isOpen.trans hopen, hkeeps.wait_none hwait, hkeeps.internal_ne_false hinternal,
      hkeeps.answerSound hanswer⟩
  | cancelling answer =>
    obtain ⟨hopen, hwait, hinternal, hanswer, hcancelled⟩ := h
    exact ⟨hkeeps.isOpen.trans hopen, hkeeps.wait_none hwait, hkeeps.internal_ne_false hinternal,
      hkeeps.answerSound hanswer, hkeeps.cancelled.trans hcancelled⟩
  | returning answer | settled answer =>
    obtain ⟨hopen, hwait, hinternal, hanswer, hcancelled, hlistening⟩ := h
    exact ⟨hkeeps.isOpen.trans hopen, hkeeps.wait_none hwait, hkeeps.internal_ne_false hinternal,
      hkeeps.answerSound hanswer, by rwa [hkeeps.created, hkeeps.cancelled],
      hkeeps.listening.trans hlistening⟩

/-- The fields that the waits do not read. -/
theorem WaitsSound.congr (h : WaitsSound s) (hwait : s'.wait = s.wait) (hended : s'.ended = s.ended)
    (hcalls : s'.calls = s.calls) : WaitsSound s' :=
  ⟨hwait ▸ h.wait, hended ▸ h.ended, by rw [hcalls, hwait]; exact h.calls⟩

/-- A callback keeps what is known. -/
theorem IsConsistent.keeps (h : IsConsistent policy s) (hkeeps : Keeps s s')
    (hpoint : s'.point = s.point) (hwaits : WaitsSound s') : IsConsistent policy s' where
  core := h.core.keeps hkeeps hwaits
  point := by
    rw [hpoint]
    exact h.point.keeps hkeeps

end Keeping

end CryptoLending.MainnetPlatforms.ReconciliationInvariant
