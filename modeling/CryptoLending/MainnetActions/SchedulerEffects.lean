import CryptoLending.MainnetActions.TwoQueueScheduler

namespace CryptoLending.MainnetActions.SchedulerEffects

open Lib Lib.JsValue Lib.IsoText SchedulerRecords TwoQueueScheduler

/-- How far a completion has come: presented, its outcome in review, ended. -/
def Call.stage : Call → Nat
  | .claiming _ _ _ | .reviewingClaim _ _ _ _ | .timingClaim _ _ _ _ _ | .timingReview _ _
  | .timingCompletion _ _ _ _ _ _ => 0
  | .completing _ _ _ _ _ => 1
  | .reviewingCompletion _ _ _ _ _ => 2
  | .ended => 3

/-- The claim that a completion is about to present. -/
def Call.use : Call → Option (Queue × Identity × IssuedClaim)
  | .timingCompletion queue _ _ capability issued _ => some (queue, capability, issued)
  | _ => none

/-- The stage that an action takes a completion to. -/
def Action.mark : Action → Option (Nat × Nat)
  | .present call _ _ _ _ => some (call, 1)
  | .reviewOutcome call _ => some (call, 2)
  | .issueCompletion call _ _ => some (call, 3)
  | _ => none

def Action.presented : Action → Option Identity
  | .present _ _ capability _ _ => some capability
  | _ => none

def Action.returned : Action → Option Identity
  | .returnResult capability _ => some capability
  | _ => none

/-- An action that does not touch a claim or a completion. -/
def Action.isQuiet : Action → Bool
  | .nothing | .askSource _ _ | .reviewSource _ | .readClock | .returnNull | .returnView _
  | .fail _ | .typeError => true
  | .present _ _ _ _ _ | .reviewOutcome _ _ | .issueClaim _ _ | .issueCompletion _ _ _
  | .returnResult _ _ => false

theorem Action.quiet {action : Action} (h : Action.isQuiet action = true) :
    Action.mark action = none ∧ Action.presented action = none ∧
      Action.returned action = none ∧ ∀ capability issued, action ≠ .issueClaim capability issued := by
  cases action <;> simp_all [Action.isQuiet, Action.mark, Action.presented, Action.returned]

/-- The reading falls into the lease of a claim. -/
def IssuedClaim.Covers (issued : IssuedClaim) (now : TimeValue) : Prop :=
  issued.view.claimedAt.milliseconds ≤ now.milliseconds ∧
    now.milliseconds < issued.view.leaseExpiresAt.milliseconds

/-- A table with fewer entries. -/
def Within {α : Type} (table old : Identity → Option α) : Prop :=
  ∀ key value, table key = some value → old key = some value

theorem within_refl {α : Type} (table : Identity → Option α) : Within table table :=
  fun _ _ h => h

theorem within_delete {α : Type} (table : Identity → Option α) (key : Identity) :
    Within (Function.update table key none) table := by
  intro other value h
  by_cases hother : other = key
  · rw [hother, Function.update_self] at h
    cases h
  · rwa [Function.update_of_ne hother] at h

/-- What one step does. -/
inductive Effect (s : State) (act : Step) : Action → State → Prop where
  | quiet (action : Action) (completions : Identity → Option IssuedCompletion)
      (aborted : List Nat) (haction : Action.isQuiet action = true)
      (hcompletions : Within completions s.completions) :
    Effect s act action { s with completions := completions, aborted := aborted }
  | started (action : Action) (claims : Identity → Option IssuedClaim) (call : Call)
      (haction : Action.isQuiet action = true) (hclaims : Within claims s.claims)
      (hstage : Call.stage call = 0 ∨ Call.stage call = 3)
      (huse : ∀ queue capability issued, Call.use call = some (queue, capability, issued) →
        s.claims capability = some issued ∧ issued.queue = queue) :
    Effect s act action { s with claims := claims, calls := s.calls ++ [call] }
  | moved (action : Action) (claims : Identity → Option IssuedClaim) (index : Nat)
      (old call : Call) (haction : Action.isQuiet action = true)
      (hclaims : Within claims s.claims) (hold : s.calls[index]? = some old)
      (hstage : Call.stage old ≤ Call.stage call)
      (hlater : Call.stage call = 0 ∨ Call.stage call = 3) (huse : Call.use call = none) :
    Effect s act action { s with claims := claims, calls := s.calls.set index call }
  | claimIssued (index : Nat) (old : Call) (issued : IssuedClaim)
      (hold : s.calls[index]? = some old) :
    Effect s act (.issueClaim (.scheduler s.made) issued) { s with
      claims := Function.update s.claims (.scheduler s.made) (some issued)
      made := s.made + 1
      calls := s.calls.set index .ended }
  | presented (index : Nat) (queue : Queue) (request : CompleteRequest) (signal : Nat)
      (capability : Identity) (issued : IssuedClaim) (disposition : String) (now : TimeValue)
      (hold : s.calls[index]? =
        some (.timingCompletion queue request signal capability issued disposition))
      (hact : act = .clockReads index (some now)) (hnow : IssuedClaim.Covers issued now) :
    Effect s act (.present index queue capability issued.sourceCapability now) { s with
      claims := Function.update s.claims capability none
      calls := s.calls.set index (.completing queue request signal issued disposition) }
  | outcomeReviewed (index : Nat) (old call : Call) (outcome : Nat)
      (hold : s.calls[index]? = some old) (hstage : Call.stage old = 1)
      (hnext : Call.stage call = 2) (huse : Call.use call = none) :
    Effect s act (.reviewOutcome index outcome) { s with calls := s.calls.set index call }
  | completionIssued (index : Nat) (old : Call) (request signal : Nat)
      (result : CompletionResult) (hold : s.calls[index]? = some old)
      (hstage : Call.stage old = 2) :
    Effect s act (.issueCompletion index (.scheduler s.made) result) { s with
      completions := Function.update s.completions (.scheduler s.made)
        (some ⟨request, signal, result⟩)
      made := s.made + 1
      calls := s.calls.set index .ended }
  | resultReturned (capability : Identity) (issued : IssuedCompletion)
      (h : s.completions capability = some issued) :
    Effect s act (.returnResult capability issued.result)
      { s with completions := Function.update s.completions capability none }

section Inversion

variable {s : State} {act : Step}

/-- The effect of an action with the state after it. -/
def EffectOf (s : State) (act : Step) (r : Action × State) : Prop := Effect s act r.1 r.2

theorem effect_nothing : EffectOf s act (.nothing, s) :=
  .quiet .nothing s.completions s.aborted rfl (within_refl _)

theorem effect_startCall {action : Action} {call : Call}
    (haction : Action.isQuiet action = true)
    (hstage : Call.stage call = 0 ∨ Call.stage call = 3) (huse : Call.use call = none) :
    EffectOf s act (action, startCall s call) :=
  .started action s.claims call haction (within_refl _) hstage
    (fun _ _ _ h => by rw [huse] at h; cases h)

theorem effect_setCall {action : Action} {index : Nat} {old call : Call}
    (hold : s.calls[index]? = some old) (haction : Action.isQuiet action = true)
    (hstage : Call.stage old ≤ Call.stage call)
    (hlater : Call.stage call = 0 ∨ Call.stage call = 3) (huse : Call.use call = none) :
    EffectOf s act (action, setCall s index call) :=
  .moved action s.claims index old call haction (within_refl _) hold hstage hlater huse

theorem stage_le_ended (call : Call) : Call.stage call ≤ Call.stage .ended := by
  cases call <;> simp [Call.stage]

/-- A call that ends without a capability. -/
theorem effect_end {action : Action} {index : Nat} {old : Call}
    (hold : s.calls[index]? = some old) (haction : Action.isQuiet action = true) :
    EffectOf s act (action, setCall s index .ended) :=
  effect_setCall hold haction (stage_le_ended old) (Or.inr rfl) rfl

/-- A call that ends and takes a claim out of the table. -/
theorem effect_delete {action : Action} {index : Nat} {old : Call} (capability : Identity)
    (hold : s.calls[index]? = some old) (haction : Action.isQuiet action = true) :
    EffectOf s act (action, setCall (deleteClaim s capability) index .ended) :=
  .moved action _ index old .ended haction (within_delete _ _) hold (stage_le_ended old)
    (Or.inr rfl) rfl

theorem effect_claim (queue : Queue) (request : ClaimRequest) :
    EffectOf s act (claim s queue request) := by
  rw [claim]
  split
  · exact effect_startCall rfl (Or.inr rfl) rfl
  · exact effect_startCall rfl (Or.inl rfl) rfl

theorem effect_claimAnswered {index : Nat} {queue : Queue} {request : ClaimRequest}
    {signal : Nat} (answer : SourceAnswer)
    (hold : s.calls[index]? = some (.claiming queue request signal)) :
    EffectOf s act (claimAnswered s index queue request signal answer) := by
  cases answer with
  | rejected => exact effect_end hold rfl
  | null =>
    rw [claimAnswered]
    split
    · exact effect_end hold rfl
    · exact effect_end hold rfl
  | value =>
    rw [claimAnswered]
    split
    · exact effect_end hold rfl
    · exact effect_end hold rfl
  | object source =>
    rw [claimAnswered]
    split
    · exact effect_end hold rfl
    · exact effect_setCall hold rfl le_rfl (Or.inl rfl) rfl

theorem effect_claimReviewed {index : Nat} {queue : Queue} {request : ClaimRequest}
    {signal source : Nat} (reviewed : Option Value)
    (hold : s.calls[index]? = some (.reviewingClaim queue request signal source)) :
    EffectOf s act (claimReviewed s index queue request signal source reviewed) := by
  rw [claimReviewed.eq_def]
  split
  · exact effect_end hold rfl
  · exact effect_end hold rfl
  · exact effect_setCall hold rfl le_rfl (Or.inl rfl) rfl

theorem effect_claimTimed {index : Nat} {queue : Queue} {request : ClaimRequest}
    {signal source : Nat} {reviewed : Value} (reading : Option TimeValue)
    (hold : s.calls[index]? = some (.timingClaim queue request signal source reviewed)) :
    EffectOf s act (claimTimed s index queue request signal source reviewed reading) := by
  cases reading with
  | none => exact effect_end hold rfl
  | some now =>
    rw [claimTimed]
    split
    · exact effect_end hold rfl
    · exact .claimIssued index _ _ hold

/-- The entry that a capability names in a table. -/
theorem entry_eq_some {α : Type} {table : Identity → Option α} {named : Option Identity}
    {capability : Identity} {value : α}
    (h : named.bind (fun capability => (table capability).map (capability, ·)) =
      some (capability, value)) : table capability = some value := by
  obtain ⟨other, -, hmap⟩ := Option.bind_eq_some_iff.mp h
  obtain ⟨found, hfound, heq⟩ := Option.map_eq_some_iff.mp hmap
  obtain ⟨rfl, rfl⟩ := Prod.mk.inj heq
  exact hfound

theorem effect_reviewClaim (queue : Queue) (capability : Option Identity)
    (request : ClaimRequest) : EffectOf s act (reviewClaim s queue capability request) := by
  rw [reviewClaim]
  split
  · exact effect_startCall rfl (Or.inr rfl) rfl
  · split
    · exact effect_startCall rfl (Or.inr rfl) rfl
    · split
      · exact effect_startCall rfl (Or.inr rfl) rfl
      · split
        · exact .started .returnNull _ .ended rfl (within_delete _ _) (Or.inr rfl)
            (fun _ _ _ h => by cases h)
        · exact effect_startCall rfl (Or.inl rfl) rfl

theorem effect_reviewTimed {index : Nat} {capability : Identity} {issued : IssuedClaim}
    (reading : Option TimeValue)
    (hold : s.calls[index]? = some (.timingReview capability issued)) :
    EffectOf s act (reviewTimed s index capability issued reading) := by
  cases reading with
  | none => exact effect_end hold rfl
  | some now =>
    rw [reviewTimed]
    split
    · exact effect_delete capability hold rfl
    · exact effect_end hold rfl

theorem effect_complete (queue : Queue) (request : CompleteRequest) :
    EffectOf s act (complete s queue request) := by
  rw [complete]
  split
  · exact effect_startCall rfl (Or.inr rfl) rfl
  · split
    · exact effect_startCall rfl (Or.inr rfl) rfl
    · split
      · exact effect_startCall rfl (Or.inr rfl) rfl
      · split
        · exact effect_startCall rfl (Or.inr rfl) rfl
        · next hentry =>
          have hclaim := entry_eq_some hentry
          split
          · exact effect_startCall rfl (Or.inr rfl) rfl
          · next hqueue =>
            split
            · exact effect_startCall rfl (Or.inr rfl) rfl
            · refine .started .readClock s.claims _ rfl (within_refl _) (Or.inl rfl) ?_
              intro queue' capability' issued' huse
              obtain ⟨rfl, hrest⟩ := Prod.mk.inj (Option.some.inj huse)
              obtain ⟨rfl, rfl⟩ := Prod.mk.inj hrest
              exact ⟨hclaim, not_not.mp hqueue⟩

theorem effect_completionTimed {index : Nat} {queue : Queue} {request : CompleteRequest}
    {signal : Nat} {capability : Identity} {issued : IssuedClaim} {disposition : String}
    (reading : Option TimeValue) (hold : s.calls[index]? =
      some (.timingCompletion queue request signal capability issued disposition)) :
    EffectOf s (.clockReads index reading)
      (completionTimed s index queue request signal capability issued disposition reading) := by
  cases reading with
  | none => exact effect_end hold rfl
  | some now =>
    rw [completionTimed]
    split
    · exact effect_delete capability hold rfl
    · next hbegun =>
      split
      · exact effect_delete capability hold rfl
      · next hunexpired =>
        exact .presented index queue request signal capability issued disposition now hold
          rfl ⟨not_lt.mp hbegun, not_le.mp hunexpired⟩

theorem effect_completionAnswered {index : Nat} {queue : Queue} {request : CompleteRequest}
    {signal : Nat} {issued : IssuedClaim} {disposition : String} (answer : SourceAnswer)
    (hold : s.calls[index]? = some (.completing queue request signal issued disposition)) :
    EffectOf s act (completionAnswered s index queue request signal issued disposition answer) := by
  cases answer with
  | rejected => exact effect_end hold rfl
  | null => exact effect_end hold rfl
  | value => exact effect_end hold rfl
  | object outcome =>
    rw [completionAnswered]
    split
    · exact effect_end hold rfl
    · exact .outcomeReviewed index _ _ outcome hold rfl rfl rfl

theorem effect_completionReviewed {index : Nat} {queue : Queue} {request : CompleteRequest}
    {signal : Nat} {issued : IssuedClaim} {disposition : String} (reviewed : Option Value)
    (hold : s.calls[index]? =
      some (.reviewingCompletion queue request signal issued disposition)) :
    EffectOf s act
      (completionReviewed s index queue request signal issued disposition reviewed) := by
  rw [completionReviewed.eq_def]
  split
  · exact effect_end hold rfl
  · exact effect_end hold rfl
  · split
    · exact effect_end hold rfl
    · exact .completionIssued index _ _ _ _ hold rfl

theorem effect_reviewCompletion (capability : Option Identity) (request : CompleteRequest) :
    EffectOf s act (reviewCompletion s capability request) := by
  rw [reviewCompletion]
  split
  · exact .quiet .returnNull s.completions s.aborted rfl (within_refl _)
  · next hentry =>
    have hcompletion := entry_eq_some hentry
    split
    · exact .quiet .returnNull _ s.aborted rfl (within_delete _ _)
    · split
      · exact .quiet .returnNull _ s.aborted rfl (within_delete _ _)
      · exact .resultReturned _ _ hcompletion

/-- Every step has one of the effects. -/
theorem step_effect (s : State) (act : Step) : EffectOf s act (step s act) := by
  cases act with
  | claim queue request => exact effect_claim queue request
  | complete queue request => exact effect_complete queue request
  | reviewClaim queue capability request => exact effect_reviewClaim queue capability request
  | reviewCompletion capability request => exact effect_reviewCompletion capability request
  | abort signal => exact .quiet .nothing s.completions _ rfl (within_refl _)
  | sourceAnswers index answer =>
    rw [step]
    split
    · next hold => exact effect_claimAnswered answer hold
    · next hold => exact effect_completionAnswered answer hold
    · exact effect_nothing
  | sourceReviews index reviewed =>
    rw [step]
    split
    · next hold => exact effect_claimReviewed reviewed hold
    · next hold => exact effect_completionReviewed reviewed hold
    · exact effect_nothing
  | clockReads index reading =>
    rw [step]
    split
    · next hold => exact effect_claimTimed reading hold
    · next hold => exact effect_reviewTimed reading hold
    · next hold => exact effect_completionTimed reading hold
    · exact effect_nothing

end Inversion

end CryptoLending.MainnetActions.SchedulerEffects
