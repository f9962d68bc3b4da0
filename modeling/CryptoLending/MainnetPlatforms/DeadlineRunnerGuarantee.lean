import CryptoLending.MainnetPlatforms.DeadlineRunner

namespace CryptoLending.MainnetPlatforms.DeadlineRunnerGuarantee

open Lib Lib.JsValue Lib.Events DeadlineRunner DeadlineRunner.State

variable {α : Type} {deadline : Int} {s : State α}

section Invariant

/-- The abort capability was called and has not answered yet. -/
def IsAborting (s : State α) : Prop :=
  Activation.aborting ∈ s.activations ∨ s.point = .scheduleFailed ∨ s.point = .operationFailed ∨
    s.point = .failing

/-- A cause is reported after an abort, during one, or says that the abort did not work. -/
def Reported (s : State α) (code : ErrorCode) : Prop :=
  code = .invalidAbortCapability ∨ s.aborted = true

/-- What a result rests on that the main block ends with. -/
def IsSound (deadline : Int) (s : State α) : Except ErrorCode α → Prop
  | .ok value => s.operation = .fulfilled value ∧
      ∃ t, s.completion = some ⟨t, false⟩ ∧ s.startedAt ≤ t ∧ t < deadline
  | .error code => Reported s code

/-- What is known of the operation at each point. -/
def AtPoint (deadline : Int) (s : State α) : Point α → Prop
  | .starting | .refusing _ | .scheduling | .beginning => s.operation = .waiting ∧ s.starts = 0
  | .scheduleFailed => s.operation = .waiting ∧ s.starts = 0 ∧ s.cause.isSome = true
  | .operating => s.operation ≠ .waiting ∧ s.starts = 1
  | .operationFailed => s.operation = .rejected ∧ s.starts = 1 ∧ s.cause.isSome = true
  | .completing outcome => s.operation ≠ .started ∧ s.starts ≤ 1 ∧
      (∀ value, outcome = some value → s.operation = .fulfilled value) ∧
        (outcome = none → s.cause.isSome = true)
  | .failing => s.operation ≠ .started ∧ s.starts ≤ 1 ∧ s.cause.isSome = true
  | .cancelling result => s.operation ≠ .started ∧ s.starts ≤ 1 ∧ IsSound deadline s result
  | .cleanupFailed => s.operation ≠ .started ∧ s.starts ≤ 1 ∧ s.cancelThrew = true
  | .settled result => s.operation ≠ .started ∧ s.starts ≤ 1 ∧
      (IsSound deadline s result ∨ (s.starts = 0 ∧ ∃ code, result = .error code) ∨
        result = .error .runtimeUnavailable ∧ s.cancelThrew = true ∧ 0 < s.abortCalls)

/-- What is set up before the main block, and what is left of it after. -/
def TimersAt (s : State α) : Point α → Prop
  | .starting | .refusing _ => s.listening = false ∧ s.timerCreated = false
  | .cleanupFailed => s.listening = false ∧ s.timerCancelled = true
  | .settled _ => s.listening = false ∧ (s.timerCreated = true → s.timerCancelled = true)
  | _ => True

structure IsConsistent (deadline : Int) (s : State α) : Prop where
  cause : ∀ code, s.cause = some code → Reported s code ∨ IsAborting s
  point : AtPoint deadline s s.point
  timers : TimersAt s s.point

/-- What no event outside the main block takes back. -/
structure Keeps (s s' : State α) : Prop where
  operation : s'.operation = s.operation
  starts : s'.starts = s.starts
  completion : s'.completion = s.completion
  startedAt : s'.startedAt = s.startedAt
  cancelThrew : s'.cancelThrew = s.cancelThrew
  aborted : s.aborted = true → s'.aborted = true
  cause : s.cause.isSome = true → s'.cause.isSome = true
  abortCalls : s.abortCalls ≤ s'.abortCalls

end Invariant

section Keeping

variable {s' : State α}

theorem Reported.keeps {code : ErrorCode} (h : Keeps s s') (hs : Reported s code) :
    Reported s' code := hs.imp_right h.aborted

theorem IsSound.keeps {result : Except ErrorCode α} (h : Keeps s s')
    (hs : IsSound deadline s result) : IsSound deadline s' result := by
  cases result with
  | ok value =>
    obtain ⟨hvalue, t, ht, hrange⟩ := hs
    exact ⟨h.operation.trans hvalue, t, h.completion.trans ht, h.startedAt ▸ hrange⟩
  | error code => exact Reported.keeps h hs

theorem AtPoint.keeps {p : Point α} (h : Keeps s s') (hs : AtPoint deadline s p) :
    AtPoint deadline s' p := by
  cases p with
  | starting | refusing | scheduling | beginning | operating =>
    simpa only [AtPoint, h.operation, h.starts] using hs
  | scheduleFailed | operationFailed | failing =>
    obtain ⟨hoperation, hstarts, hcause⟩ := hs
    exact ⟨by rwa [h.operation], by rwa [h.starts], h.cause hcause⟩
  | completing outcome =>
    obtain ⟨hoperation, hstarts, hvalue, hcause⟩ := hs
    refine ⟨by rwa [h.operation], by rwa [h.starts], fun value hsome => ?_, fun hnone => ?_⟩
    · exact h.operation.trans (hvalue value hsome)
    · exact h.cause (hcause hnone)
  | cancelling result =>
    obtain ⟨hoperation, hstarts, hsound⟩ := hs
    exact ⟨by rwa [h.operation], by rwa [h.starts], hsound.keeps h⟩
  | cleanupFailed =>
    obtain ⟨hoperation, hstarts, hthrew⟩ := hs
    exact ⟨by rwa [h.operation], by rwa [h.starts], by rwa [h.cancelThrew]⟩
  | settled result =>
    obtain ⟨hoperation, hstarts, hresult⟩ := hs
    refine ⟨by rwa [h.operation], by rwa [h.starts], ?_⟩
    obtain hsound | ⟨hzero, herror⟩ | ⟨hresult, hthrew, hcalls⟩ := hresult
    · exact .inl (hsound.keeps h)
    · exact .inr (.inl ⟨h.starts.trans hzero, herror⟩)
    · exact .inr (.inr ⟨hresult, h.cancelThrew.trans hthrew, hcalls.trans_le h.abortCalls⟩)

theorem keeps_addCause (s : State α) (code : ErrorCode) : Keeps s (s.addCause code) where
  operation := rfl
  starts := rfl
  completion := rfl
  startedAt := rfl
  cancelThrew := rfl
  aborted := id
  cause := fun h => by
    obtain ⟨cause, hcause⟩ := Option.isSome_iff_exists.mp h
    simp only [addCause, hcause, Option.orElse_some, Option.isSome_some]
  abortCalls := le_rfl

theorem timersAt_congr {p : Point α} (h : s'.listening = s.listening ∧
    s'.timerCreated = s.timerCreated ∧ s'.timerCancelled = s.timerCancelled) :
    TimersAt s' p ↔ TimersAt s p := by
  cases p <;> simp only [TimersAt, h.1, h.2.1, h.2.2]

/-- An event that leaves the main block where it is. -/
theorem IsConsistent.keeps (h : IsConsistent deadline s) (hkeeps : Keeps s s')
    (hpoint : s'.point = s.point)
    (htimers : s'.listening = s.listening ∧ s'.timerCreated = s.timerCreated ∧
      s'.timerCancelled = s.timerCancelled)
    (hcause : ∀ code, s'.cause = some code → Reported s' code ∨ IsAborting s') :
    IsConsistent deadline s' where
  cause := hcause
  point := by
    rw [hpoint]
    exact h.point.keeps hkeeps
  timers := by
    rw [hpoint]
    exact (timersAt_congr htimers).mpr h.timers

end Keeping

section Outside

theorem abort_consistent (h : IsConsistent deadline s) : IsConsistent deadline s.abort := by
  rw [State.abort]
  split
  case isTrue => exact h
  case isFalse =>
    have hkeeps : Keeps s { s with aborted := true } := ⟨rfl, rfl, rfl, rfl, rfl, fun _ => rfl, id, le_rfl⟩
    split
    case isTrue =>
      refine h.keeps ?_ rfl ⟨rfl, rfl, rfl⟩ fun _ _ => .inl (.inr rfl)
      exact ⟨rfl, rfl, rfl, rfl, rfl, fun _ => rfl, (keeps_addCause s _).cause, le_rfl⟩
    case isFalse => exact h.keeps hkeeps rfl ⟨rfl, rfl, rfl⟩ fun _ _ => .inl (.inr rfl)

theorem fire_consistent {s' : State α} (h : IsConsistent deadline s) (hstep : s.fire = some s') :
    IsConsistent deadline s' := by
  rw [State.fire] at hstep
  split at hstep
  case isFalse => cases hstep
  case isTrue =>
    split at hstep
    case isTrue =>
      cases hstep
      exact h
    case isFalse =>
      cases hstep
      refine h.keeps ⟨rfl, rfl, rfl, rfl, rfl, id, id, le_rfl⟩ rfl ⟨rfl, rfl, rfl⟩ ?_
      intro code hcode
      obtain hreported | haborting | hpoint := h.cause code hcode
      · exact .inl hreported
      · exact .inr (.inl (List.mem_cons_of_mem _ haborting))
      · exact .inr (.inr hpoint)

end Outside

section Finishing

/-- Every cause was reported, and the operation is not running. -/
structure IsReady (s : State α) : Prop where
  cause : ∀ code, s.cause = some code → Reported s code
  operation : s.operation ≠ .started
  starts : s.starts ≤ 1

theorem finish_consistent {result : Except ErrorCode α} (h : IsReady s)
    (hsound : IsSound deadline s result) : IsConsistent deadline (s.finish result) := by
  rw [finish]
  split
  case isTrue =>
    exact ⟨fun code hcode => .inl (h.cause code hcode), ⟨h.operation, h.starts, hsound⟩, trivial⟩
  case isFalse htimer =>
    exact ⟨fun code hcode => .inl (h.cause code hcode), ⟨h.operation, h.starts, .inl hsound⟩,
      rfl, fun hcreated => absurd hcreated htimer⟩

theorem failOr_consistent {next : State α} (h : IsReady s)
    (hnext : s.cause = none → IsConsistent deadline next) :
    IsConsistent deadline (s.failOr next) := by
  rw [failOr]
  split
  case h_1 code hcode => exact finish_consistent h (h.cause code hcode)
  case h_2 hnone => exact hnext hnone

theorem endWith_consistent {outcome : Option α} (h : IsReady s)
    (hvalue : ∀ value, outcome = some value → s.cause = none → IsSound deadline s (.ok value))
    (hcause : outcome = none → s.cause.isSome = true) :
    IsConsistent deadline (s.endWith outcome) := by
  refine failOr_consistent h fun hnone => ?_
  cases outcome with
  | none => exact absurd (hcause rfl) (by rw [hnone]; decide)
  | some value => exact finish_consistent h (hvalue value rfl hnone)

theorem noticeAbort_cause {code : ErrorCode} (h : s.noticeAbort.cause = some code) :
    s.cause = some code ∨ (s.aborted = true ∧ s.noticeAbort.aborted = true) := by
  rw [noticeAbort] at h ⊢
  split at h
  case isTrue haborted => exact .inr ⟨haborted, by rw [if_pos haborted]; exact haborted⟩
  case isFalse => exact .inl h

theorem keeps_noticeAbort (s : State α) : Keeps s s.noticeAbort := by
  rw [noticeAbort]
  split
  case isTrue => exact keeps_addCause s _
  case isFalse => exact ⟨rfl, rfl, rfl, rfl, rfl, id, id, le_rfl⟩

theorem noticeAbort_ready (h : IsReady s) : IsReady s.noticeAbort where
  cause := fun code hcode => by
    obtain hold | ⟨_, haborted⟩ := noticeAbort_cause hcode
    · exact (h.cause code hold).keeps (keeps_noticeAbort s)
    · exact .inr haborted
  operation := (keeps_noticeAbort s).operation ▸ h.operation
  starts := (keeps_noticeAbort s).starts ▸ h.starts

/-- Outside an abort every cause was reported. -/
theorem IsConsistent.reported (h : IsConsistent deadline s) (hactivations : s.activations = [])
    (hpoint : s.point ≠ .scheduleFailed ∧ s.point ≠ .operationFailed ∧ s.point ≠ .failing) :
    ∀ code, s.cause = some code → Reported s code := by
  intro code hcode
  obtain hreported | haborting | hfailed | hfailed | hfailed := h.cause code hcode
  · exact hreported
  · rw [hactivations] at haborting
    cases haborting
  · exact absurd hfailed hpoint.1
  · exact absurd hfailed hpoint.2.1
  · exact absurd hfailed hpoint.2.2

end Finishing

section Answers

variable {s' : State α}

theorem settleAbort_reported (threw : Bool) :
    ∀ code, (s.settleAbort threw).cause = some code → Reported (s.settleAbort threw) code := by
  intro code hcode
  cases hfailed : s.abortFailed threw with
  | true =>
    rw [settleAbort, hfailed] at hcode
    exact .inl (Option.some.inj hcode).symm
  | false =>
    rw [abortFailed, Bool.or_eq_false_iff, Bool.not_eq_false'] at hfailed
    exact .inr hfailed.2

theorem settleAbort_isSome (h : s.cause.isSome = true) (threw : Bool) :
    (s.settleAbort threw).cause.isSome = true := by
  rw [settleAbort]
  cases s.abortFailed threw with
  | true => rfl
  | false => exact h

theorem start_consistent {reading : Option Int} (h : IsConsistent deadline s)
    (hactivations : s.activations = []) (hpoint : s.point = .starting) :
    IsConsistent deadline (s.start deadline reading) := by
  have hcause := h.reported hactivations (by rw [hpoint]; exact ⟨nofun, nofun, nofun⟩)
  have hat := h.point
  rw [hpoint] at hat
  have htimers := h.timers
  rw [hpoint] at htimers
  have hrefuse : ∀ code, IsConsistent deadline { s with point := Point.refusing code } := fun code =>
    ⟨fun code hcode => .inl (hcause code hcode), hat, htimers⟩
  cases reading with
  | none => exact hrefuse _
  | some startedAt =>
    rw [start]
    split
    case isTrue => exact hrefuse _
    case isFalse =>
      split
      case isTrue => exact hrefuse _
      case isFalse =>
        have hready : IsReady { s with startedAt, listening := true } :=
          ⟨hcause, by rw [hat.1]; nofun, by rw [hat.2]; exact Nat.zero_le 1⟩
        have hnotice := noticeAbort_ready hready
        have hkeeps := keeps_noticeAbort { s with startedAt, listening := true }
        refine failOr_consistent hnotice fun _ => ?_
        exact ⟨fun code hcode => .inl (hnotice.cause code hcode),
          ⟨hkeeps.operation.trans hat.1, hkeeps.starts.trans hat.2⟩, trivial⟩

theorem complete_consistent {outcome : Option α} {reading : Option Int}
    (h : IsConsistent deadline s) (hactivations : s.activations = [])
    (hpoint : s.point = .completing outcome) :
    IsConsistent deadline (s.complete deadline outcome reading) := by
  have hcause := h.reported hactivations (by rw [hpoint]; exact ⟨nofun, nofun, nofun⟩)
  have hat := h.point
  rw [hpoint] at hat
  obtain ⟨hoperation, hstarts, hvalue, hfailed⟩ := hat
  have hfailing : IsConsistent deadline
      { s.addCause .runtimeUnavailable with point := Point.failing } := by
    refine ⟨fun _ _ => .inr (.inr (.inr (.inr rfl))), ⟨hoperation, hstarts, ?_⟩, trivial⟩
    cases hcode : s.cause <;> simp [addCause, hcode]
  cases reading with
  | none => exact hfailing
  | some completedAt =>
    rw [complete]
    split
    case isTrue => exact hfailing
    case isFalse hstarted =>
      split
      case isTrue =>
        exact ⟨fun _ _ => .inr (.inr (.inr (.inr rfl))), ⟨hoperation, hstarts, rfl⟩, trivial⟩
      case isFalse hdeadline =>
        have hready := noticeAbort_ready ⟨hcause, hoperation, hstarts⟩
        have hkeeps := keeps_noticeAbort s
        refine endWith_consistent ⟨hready.cause, hready.operation, hready.starts⟩ ?_ ?_
        · intro value hsome hnone
          have haborted : s.aborted = false := by
            by_contra hne
            have htrue := Bool.eq_true_of_not_eq_false hne
            simp only [noticeAbort, htrue, if_true, addCause] at hnone
            cases hcode : s.cause <;> rw [hcode] at hnone <;> cases hnone
          have hcausenone : s.cause = none := by
            simpa only [noticeAbort, haborted, Bool.false_eq_true, if_false] using hnone
          refine ⟨hkeeps.operation.trans (hvalue value hsome), completedAt, ?_, ?_, ?_⟩
          · rw [haborted]
          · change s.noticeAbort.startedAt ≤ completedAt
            rw [hkeeps.startedAt]
            exact Int.not_lt.mp hstarted
          · rw [hcausenone] at hdeadline
            exact Int.not_le.mp fun hle => hdeadline ⟨nofun, hle⟩
        · intro hnone
          exact hkeeps.cause (hfailed hnone)

theorem clock_consistent {reading : Option Int} (h : IsConsistent deadline s)
    (hstep : s.clock deadline reading = some s') : IsConsistent deadline s' := by
  rw [State.clock] at hstep
  split at hstep
  case h_1 rest hactivations =>
    cases hstep
    refine h.keeps ?_ rfl ⟨rfl, rfl, rfl⟩ fun _ _ => .inr (.inl List.mem_cons_self)
    exact ⟨rfl, rfl, rfl, rfl, rfl, id, (keeps_addCause s _).cause, le_rfl⟩
  case h_2 => cases hstep
  case h_3 hactivations =>
    split at hstep
    case h_1 hpoint =>
      cases hstep
      exact start_consistent h hactivations hpoint
    case h_2 outcome hpoint =>
      cases hstep
      exact complete_consistent h hactivations hpoint
    case h_3 => cases hstep

/-- The answer to an activation leaves the main block where it is. -/
theorem settleAbort_consistent {rest : List Activation} {threw : Bool}
    (h : IsConsistent deadline s) :
    IsConsistent deadline { s.settleAbort threw with activations := rest } := by
  refine h.keeps ?_ rfl ⟨rfl, rfl, rfl⟩ fun code hcode =>
    .inl (@settleAbort_reported α s threw code hcode)
  exact ⟨rfl, rfl, rfl, rfl, rfl, id, fun hcause => settleAbort_isSome hcause threw, Nat.le_succ _⟩

theorem abortReturned_consistent {threw : Bool} (h : IsConsistent deadline s)
    (hstep : s.abortReturned threw = some s') : IsConsistent deadline s' := by
  rw [State.abortReturned] at hstep
  split at hstep
  case h_1 => cases hstep
  case h_2 =>
    cases hstep
    exact settleAbort_consistent h
  case h_3 hactivations =>
    have hat := h.point
    have hready : s.operation ≠ .started → s.starts ≤ 1 → IsReady (s.settleAbort threw) :=
      fun hoperation hstarts => ⟨settleAbort_reported threw, hoperation, hstarts⟩
    split at hstep
    case h_1 code hpoint =>
      cases hstep
      rw [hpoint] at hat
      have htimers := h.timers
      rw [hpoint] at htimers
      have hcause := h.reported hactivations (by rw [hpoint]; exact ⟨nofun, nofun, nofun⟩)
      refine ⟨fun code hcode => .inl (hcause code hcode), ⟨?_, ?_, ?_⟩, htimers.1, ?_⟩
      · rw [hat.1]
        nofun
      · rw [hat.2]
        exact Nat.zero_le 1
      · exact .inr (.inl ⟨hat.2, _, rfl⟩)
      · intro hcreated
        rw [htimers.2] at hcreated
        cases hcreated
    case h_2 hpoint =>
      cases hstep
      rw [hpoint] at hat
      obtain ⟨hoperation, hstarts, hcause⟩ := hat
      have hready := hready (by rw [hoperation]; nofun) (by omega)
      obtain ⟨code, hcode⟩ := Option.isSome_iff_exists.mp (settleAbort_isSome hcause threw)
      refine finish_consistent hready (hready.cause _ ?_)
      rw [hcode]
      rfl
    case h_3 hpoint =>
      cases hstep
      rw [hpoint] at hat
      obtain ⟨hoperation, hstarts, hcause⟩ := hat
      refine ⟨fun code hcode => .inl (@settleAbort_reported α s threw code hcode), ?_, trivial⟩
      refine ⟨?_, hstarts.le, nofun, fun _ => settleAbort_isSome hcause threw⟩
      change s.operation ≠ .started
      rw [hoperation]
      nofun
    case h_4 hpoint =>
      cases hstep
      rw [hpoint] at hat
      obtain ⟨hoperation, hstarts, hcause⟩ := hat
      exact endWith_consistent (hready hoperation hstarts) nofun
        fun _ => settleAbort_isSome hcause threw
    case h_5 hpoint =>
      cases hstep
      rw [hpoint] at hat
      obtain ⟨hoperation, hstarts, hthrew⟩ := hat
      have htimers := h.timers
      rw [hpoint] at htimers
      have hcause := h.reported hactivations (by rw [hpoint]; exact ⟨nofun, nofun, nofun⟩)
      exact ⟨fun code hcode => .inl (hcause code hcode),
        ⟨hoperation, hstarts, .inr (.inr ⟨rfl, hthrew, Nat.succ_pos _⟩)⟩,
        htimers.1, fun _ => htimers.2⟩
    case h_6 => cases hstep

theorem scheduled_consistent {threw : Bool} (h : IsConsistent deadline s)
    (hstep : s.scheduled threw = some s') : IsConsistent deadline s' := by
  rw [State.scheduled] at hstep
  split at hstep
  case h_2 => cases hstep
  case h_1 hactivations hpoint =>
    have hat := h.point
    rw [hpoint] at hat
    have hcause := h.reported hactivations (by rw [hpoint]; exact ⟨nofun, nofun, nofun⟩)
    split at hstep
    case isTrue =>
      cases hstep
      refine ⟨fun _ _ => .inr (.inr (.inl rfl)), ⟨hat.1, hat.2, ?_⟩, trivial⟩
      cases hcode : s.cause <;> simp [addCause, hcode]
    case isFalse =>
      cases hstep
      have hready : IsReady { s with timerCreated := true } :=
        ⟨hcause, by rw [hat.1]; nofun, by rw [hat.2]; exact Nat.zero_le 1⟩
      have hnotice := noticeAbort_ready hready
      have hkeeps := keeps_noticeAbort { s with timerCreated := true }
      refine failOr_consistent hnotice fun _ => ?_
      exact ⟨fun code hcode => .inl (hnotice.cause code hcode),
        ⟨hkeeps.operation.trans hat.1, hkeeps.starts.trans hat.2⟩, trivial⟩

theorem cancelled_consistent {threw : Bool} (h : IsConsistent deadline s)
    (hstep : s.cancelled threw = some s') : IsConsistent deadline s' := by
  rw [State.cancelled] at hstep
  split at hstep
  case h_2 => cases hstep
  case h_1 result hactivations hpoint =>
    have hat := h.point
    rw [hpoint] at hat
    obtain ⟨hoperation, hstarts, hsound⟩ := hat
    have hcause := h.reported hactivations (by rw [hpoint]; exact ⟨nofun, nofun, nofun⟩)
    cases hstep
    cases threw with
    | true =>
      exact ⟨fun code hcode => .inl (hcause code hcode), ⟨hoperation, hstarts, rfl⟩, rfl, rfl⟩
    | false =>
      refine ⟨fun code hcode => .inl (hcause code hcode), ⟨hoperation, hstarts, .inl ?_⟩, rfl,
        fun _ => rfl⟩
      cases result with
      | ok value => exact hsound
      | error code => exact hsound

theorem settle_consistent {operation : Operation α} (hsettled : operation ≠ .waiting)
    (h : IsConsistent deadline s) (hstep : s.settle operation = some s') :
    IsConsistent deadline s' := by
  rw [State.settle] at hstep
  split at hstep
  case h_2 => cases hstep
  case h_1 hstarted =>
    cases hstep
    refine ⟨h.cause, ?_, h.timers⟩
    have hat := h.point
    change AtPoint deadline { s with operation } s.point
    cases hp : s.point with
    | operating =>
      rw [hp] at hat
      exact ⟨hsettled, hat.2⟩
    | starting | refusing | scheduling | beginning | scheduleFailed | operationFailed =>
      rw [hp] at hat
      have hoperation := hat.1
      rw [hstarted] at hoperation
      cases hoperation
    | completing | failing | cancelling | cleanupFailed | settled =>
      rw [hp] at hat
      exact absurd hstarted hat.1

theorem advance_consistent (h : IsConsistent deadline s) (hstep : s.advance = some s') :
    IsConsistent deadline s' := by
  rw [State.advance] at hstep
  split at hstep
  case h_3 => cases hstep
  case h_1 hactivations hpoint =>
    have hat := h.point
    rw [hpoint] at hat
    have hcause := h.reported hactivations (by rw [hpoint]; exact ⟨nofun, nofun, nofun⟩)
    split at hstep
    case isTrue haborted =>
      cases hstep
      refine ⟨fun _ _ => .inl (.inr haborted), ⟨?_, ?_, nofun, fun _ => ?_⟩, trivial⟩
      · change s.operation ≠ .started
        rw [hat.1]
        nofun
      · change s.starts ≤ 1
        rw [hat.2]
        exact Nat.zero_le 1
      · cases hcode : s.cause <;> simp [addCause, hcode]
    case isFalse =>
      cases hstep
      refine ⟨fun code hcode => .inl (hcause code hcode), ⟨nofun, ?_⟩, trivial⟩
      change s.starts + 1 = 1
      rw [hat.2]
  case h_2 hactivations hpoint =>
    have hat := h.point
    rw [hpoint] at hat
    have hcause := h.reported hactivations (by rw [hpoint]; exact ⟨nofun, nofun, nofun⟩)
    split at hstep
    case h_1 value hoperation =>
      cases hstep
      refine ⟨fun code hcode => .inl (hcause code hcode), ⟨?_, hat.2.le, ?_, nofun⟩, trivial⟩
      · change s.operation ≠ .started
        rw [hoperation]
        nofun
      · intro v hv
        cases hv
        exact hoperation
    case h_2 hoperation =>
      split at hstep
      case isTrue hsome =>
        cases hstep
        refine ⟨fun code hcode => .inl (hcause code hcode), ⟨?_, hat.2.le, nofun, fun _ => hsome⟩,
          trivial⟩
        change s.operation ≠ .started
        rw [hoperation]
        nofun
      case isFalse =>
        cases hstep
        refine ⟨fun _ _ => .inr (.inr (.inr (.inl rfl))), ⟨hoperation, hat.2, ?_⟩, trivial⟩
        cases hcode : s.cause <;> simp [addCause, hcode]
    case h_3 => cases hstep

end Answers

theorem step_preserved : Preserved (@step α deadline) (IsConsistent deadline) := by
  intro s e s' h hstep
  cases e with
  | abort =>
    cases hstep
    exact abort_consistent h
  | fire => exact fire_consistent h hstep
  | clock reading => exact clock_consistent h hstep
  | abortReturned threw => exact abortReturned_consistent h hstep
  | scheduled threw => exact scheduled_consistent h hstep
  | cancelled threw => exact cancelled_consistent h hstep
  | fulfil value => exact @settle_consistent α deadline s s' (.fulfilled value) nofun h hstep
  | reject => exact @settle_consistent α deadline s s' .rejected nofun h hstep
  | advance => exact advance_consistent h hstep

theorem initial_consistent (request : Option Int) (aborted : Bool) :
    IsConsistent deadline (initial request aborted : State α) := by
  cases request with
  | none => exact ⟨nofun, ⟨nofun, Nat.zero_le 1, .inr (.inl ⟨rfl, _, rfl⟩)⟩, rfl, nofun⟩
  | some _ =>
    cases aborted with
    | true => exact ⟨nofun, ⟨nofun, Nat.zero_le 1, .inr (.inl ⟨rfl, _, rfl⟩)⟩, rfl, nofun⟩
    | false => exact ⟨nofun, ⟨rfl, rfl⟩, rfl, rfl⟩

section Guarantee

/-- What every state of a run promises of its result. -/
structure IsGuaranteed (deadline : Int) (s : State α) : Prop where
  value : ∀ value, s.point = .settled (.ok value) → s.operation = .fulfilled value ∧
    ∃ t, s.completion = some ⟨t, false⟩ ∧ s.startedAt ≤ t ∧ t < deadline
  failure : ∀ code, s.point = .settled (.error code) → 0 < s.starts →
    s.aborted = true ∨ code = .invalidAbortCapability ∨
      (code = .runtimeUnavailable ∧ s.cancelThrew = true ∧ 0 < s.abortCalls)
  starts : s.starts ≤ 1
  drained : ∀ result, s.point = .settled result → s.operation ≠ .started
  cleaned : ∀ result, s.point = .settled result → s.listening = false ∧
    (s.timerCreated = true → s.timerCancelled = true)

theorem IsConsistent.guaranteed (h : IsConsistent deadline s) : IsGuaranteed deadline s := by
  have hat := h.point
  refine ⟨fun value hp => ?_, fun code hp hstarts => ?_, ?_, fun result hp => ?_, fun result hp => ?_⟩
  · rw [hp] at hat
    obtain ⟨_, _, hsound | ⟨_, code, hresult⟩ | ⟨hresult, _⟩⟩ := hat
    · exact hsound
    · cases hresult
    · cases hresult
  · rw [hp] at hat
    obtain ⟨_, _, hsound | ⟨hzero, _⟩ | ⟨hresult, hthrew, hcalls⟩⟩ := hat
    · exact hsound.symm.imp_right .inl
    · omega
    · exact .inr (.inr ⟨Except.error.inj hresult, hthrew, hcalls⟩)
  · cases hp : s.point <;> rw [hp] at hat <;> simp only [AtPoint] at hat <;> omega
  · rw [hp] at hat
    exact hat.1
  · have htimers := h.timers
    rw [hp] at htimers
    exact htimers

/-- Every state of a run, whatever the operation, the timer, the caller and the clock do. -/
theorem runRequest_guaranteed (isAbortSignal isFunction : Value → Bool) (request : Value)
    (aborted : Bool) (events : List (Event α)) (s : State α)
    (h : runRequest isAbortSignal isFunction request aborted events = some s) :
    IsGuaranteed ((parseRunRequest isAbortSignal isFunction request).getD 0) s :=
  (step_preserved.run (initial_consistent _ _) h).guaranteed

def sampleRequest : Value :=
  ofFields [("deadlineAt", .string "1970-01-01T00:00:02.000Z"),
    ("correlationId", .string "provider-position-read-1"),
    ("sourceFamilyId", .string "ethereum-primary"),
    ("targetId", .string "provider-position-target-1"), ("signal", .other),
    ("abortAdmission", .other)]

theorem sampleRequest_deadline :
    parseRunRequest (fun _ => true) (fun _ => true) sampleRequest = some 2000 := by decide

theorem runRequest_sample (events : List (Event α)) :
    runRequest (fun _ => true) (fun _ => true) sampleRequest false events =
      run (step 2000) (initial (some 2000) false) events := by
  rw [runRequest, sampleRequest_deadline]
  rfl

/-- The operation ends in time, and the timer is cancelled. -/
def sampleEvents : List (Event Nat) :=
  [.clock (some 1000), .scheduled false, .advance, .fulfil 7, .advance, .clock (some 1500),
    .cancelled false]

theorem sampleEvents_guaranteed : ∃ s : State Nat,
    runRequest (fun _ => true) (fun _ => true) sampleRequest false sampleEvents = some s ∧
      IsGuaranteed ((parseRunRequest (fun _ => true) (fun _ => true) sampleRequest).getD 0) s := by
  have hrun := (runRequest_sample sampleEvents).trans rfl
  exact ⟨_, hrun, runRequest_guaranteed _ _ sampleRequest false sampleEvents _ hrun⟩

/-- The cancellation of the timer throws, and the abort capability does nothing. -/
def uncancelledEvents : List (Event Nat) :=
  [.clock (some 1000), .scheduled false, .advance, .fulfil 7, .advance, .clock (some 1500),
    .cancelled true, .abortReturned false]

theorem uncancelledEvents_not_aborted : ∃ s : State Nat,
    runRequest (fun _ => true) (fun _ => true) sampleRequest false uncancelledEvents = some s ∧
      s.point = .settled (.error .runtimeUnavailable) ∧ s.starts = 1 ∧ s.aborted = false :=
  ⟨_, (runRequest_sample uncancelledEvents).trans rfl, rfl, rfl, rfl⟩

end Guarantee

end CryptoLending.MainnetPlatforms.DeadlineRunnerGuarantee
