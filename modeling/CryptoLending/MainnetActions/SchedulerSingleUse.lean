import CryptoLending.MainnetActions.SchedulerEffects

namespace CryptoLending.MainnetActions.SchedulerSingleUse

open Lib Lib.JsValue Lib.IsoText SchedulerRecords TwoQueueScheduler SchedulerEffects

abbrev SchedulerEvent := Machine.Event Step Action State

variable {s : State} {es : List SchedulerEvent}

section Histories

/-- The claim capabilities that were presented to a completion of the source. -/
def presentations (es : List SchedulerEvent) : List Identity :=
  es.filterMap (fun e => Action.presented e.outcome)

/-- The completion capabilities that were reviewed into a result. -/
def results (es : List SchedulerEvent) : List Identity :=
  es.filterMap (fun e => Action.returned e.outcome)

/-- The stages of completions: presented, outcome in review, ended with a capability. -/
def marks (es : List SchedulerEvent) : List (Nat × Nat) :=
  es.filterMap (fun e => Action.mark e.outcome)

def Issued (es : List SchedulerEvent) (capability : Identity) (issued : IssuedClaim) : Prop :=
  ∃ e ∈ es, e.outcome = .issueClaim capability issued

def Completed (es : List SchedulerEvent) (call : Nat) (capability : Identity)
    (result : CompletionResult) : Prop :=
  ∃ e ∈ es, e.outcome = .issueCompletion call capability result

/-- A capability that the scheduler has made. -/
def Made (s : State) (capability : Identity) : Prop :=
  ∃ number < s.made, capability = .scheduler number

/-- What is known of a call: the claim that it is about to present was issued to its queue, and
its presentation is in the history. -/
structure CallOk (es : List SchedulerEvent) (index : Nat) (call : Call) : Prop where
  use : ∀ queue capability issued, Call.use call = some (queue, capability, issued) →
    Issued es capability issued ∧ issued.queue = queue
  presented : Call.stage call = 1 ∨ Call.stage call = 2 → (index, 1) ∈ marks es

structure SchedulerOk (es : List SchedulerEvent) (s : State) : Prop where
  claims : ∀ capability issued, s.claims capability = some issued → Issued es capability issued
  completions : ∀ capability issued, s.completions capability = some issued →
    Made s capability ∧ ∃ call, Completed es call capability issued.result
  issued : ∀ capability issued, Issued es capability issued → Made s capability
  calls : ∀ index call, s.calls[index]? = some call → CallOk es index call
  reached : ∀ m ∈ marks es, ∃ call, s.calls[m.1]? = some call ∧ m.2 ≤ Call.stage call
  marked_once : (marks es).Nodup
  reviewed : ∀ capability ∈ results es, Made s capability ∧ s.completions capability = none
  reviewed_once : (results es).Nodup

theorem Issued.mono {capability : Identity} {issued : IssuedClaim}
    (h : Issued es capability issued) (e : SchedulerEvent) :
    Issued (es ++ [e]) capability issued := by
  obtain ⟨before, hmem, houtcome⟩ := h
  exact ⟨before, List.mem_append_left _ hmem, houtcome⟩

theorem Completed.mono {call : Nat} {capability : Identity} {result : CompletionResult}
    (h : Completed es call capability result) (e : SchedulerEvent) :
    Completed (es ++ [e]) call capability result := by
  obtain ⟨before, hmem, houtcome⟩ := h
  exact ⟨before, List.mem_append_left _ hmem, houtcome⟩

theorem issued_snoc {capability : Identity} {issued : IssuedClaim} {e : SchedulerEvent}
    (h : Issued (es ++ [e]) capability issued) :
    Issued es capability issued ∨ e.outcome = .issueClaim capability issued := by
  obtain ⟨event, hmem, houtcome⟩ := h
  cases List.mem_append.mp hmem with
  | inl hbefore => exact Or.inl ⟨event, hbefore, houtcome⟩
  | inr hlast =>
    obtain rfl := List.mem_singleton.mp hlast
    exact Or.inr houtcome

theorem marks_snoc (es : List SchedulerEvent) (e : SchedulerEvent) :
    marks (es ++ [e]) = marks es ++ (Action.mark e.outcome).toList := by
  rw [marks, List.filterMap_append]
  congr 1

theorem results_snoc (es : List SchedulerEvent) (e : SchedulerEvent) :
    results (es ++ [e]) = results es ++ (Action.returned e.outcome).toList := by
  rw [results, List.filterMap_append]
  congr 1

theorem presentations_snoc (es : List SchedulerEvent) (e : SchedulerEvent) :
    presentations (es ++ [e]) = presentations es ++ (Action.presented e.outcome).toList := by
  rw [presentations, List.filterMap_append]
  congr 1

theorem CallOk.mono {index : Nat} {call : Call} (h : CallOk es index call)
    (e : SchedulerEvent) : CallOk (es ++ [e]) index call where
  use queue capability issued huse := by
    obtain ⟨hissued, hqueue⟩ := h.use queue capability issued huse
    exact ⟨hissued.mono e, hqueue⟩
  presented hstage := by
    rw [marks_snoc]
    exact List.mem_append_left _ (h.presented hstage)

theorem Made.succ {t : State} {capability : Identity} (h : Made s capability)
    (hmade : s.made ≤ t.made) : Made t capability := by
  obtain ⟨number, hnumber, rfl⟩ := h
  exact ⟨number, lt_of_lt_of_le hnumber hmade, rfl⟩

theorem Made.ne_next {capability : Identity} (h : Made s capability) :
    capability ≠ .scheduler s.made := by
  obtain ⟨number, hnumber, rfl⟩ := h
  intro heq
  exact Nat.ne_of_lt hnumber (Identity.scheduler.inj heq)

end Histories

section Steps

variable {e : SchedulerEvent} {t : State}

/-- The calls after one of them has gone on. -/
theorem calls_set (h : SchedulerOk es s) {index : Nat} {call : Call}
    (hcall : CallOk (es ++ [e]) index call) :
    ∀ other found, (s.calls.set index call)[other]? = some found →
      CallOk (es ++ [e]) other found := by
  intro other found hfound
  rw [List.getElem?_set] at hfound
  split at hfound
  · next hindex =>
    obtain rfl := hindex
    rw [Option.ite_none_right_eq_some] at hfound
    obtain rfl := Option.some.inj hfound.2
    exact hcall
  · exact (h.calls other found hfound).mono e

/-- A call that goes on keeps the marks. -/
theorem marks_set (h : SchedulerOk es s) {index : Nat} {old call : Call}
    (hold : s.calls[index]? = some old) (hstage : Call.stage old ≤ Call.stage call) :
    ∀ m ∈ marks es, ∃ found, (s.calls.set index call)[m.1]? = some found ∧
      m.2 ≤ Call.stage found := by
  intro m hm
  obtain ⟨found, hfound, hle⟩ := h.reached m hm
  by_cases hindex : index = m.1
  · subst hindex
    obtain rfl := Option.some.inj (hold.symm.trans hfound)
    refine ⟨call, ?_, le_trans hle hstage⟩
    rw [List.getElem?_set, if_pos rfl, if_pos (List.getElem?_eq_some_iff.mp hold).1]
  · refine ⟨found, ?_, hle⟩
    rw [List.getElem?_set, if_neg hindex]
    exact hfound

/-- A call that reaches a later stage was not marked with it. -/
theorem marks_fresh (h : SchedulerOk es s) {index stage : Nat} {old call : Call}
    (hold : s.calls[index]? = some old) (hbefore : Call.stage old < stage)
    (hnow : Call.stage call = stage) :
    (∀ m ∈ marks es ++ [(index, stage)], ∃ found,
      (s.calls.set index call)[m.1]? = some found ∧ m.2 ≤ Call.stage found) ∧
      (marks es ++ [(index, stage)]).Nodup := by
  have hlt := (List.getElem?_eq_some_iff.mp hold).1
  constructor
  · refine List.forall_mem_append.mpr ⟨marks_set h hold (by omega), ?_⟩
    refine List.forall_mem_singleton.mpr ⟨call, ?_, le_of_eq hnow.symm⟩
    rw [List.getElem?_set, if_pos rfl, if_pos hlt]
  · refine List.nodup_append.mpr ⟨h.marked_once, List.nodup_singleton _, ?_⟩
    intro m hm other hother heq
    obtain rfl := List.mem_singleton.mp hother
    subst heq
    obtain ⟨found, hfound, hle⟩ := h.reached _ hm
    obtain rfl := Option.some.inj (hold.symm.trans hfound)
    change stage ≤ Call.stage old at hle
    omega

theorem callOk_ended (es : List SchedulerEvent) (index : Nat) : CallOk es index .ended where
  use queue capability issued huse := by cases huse
  presented hstage := by
    cases hstage with
    | inl hone => cases hone
    | inr htwo => cases htwo

/-- Histories that grow by an event that is not seen in them. -/
theorem SchedulerOk.unseen (h : SchedulerOk es s) (hmark : Action.mark e.outcome = none)
    (hreturned : Action.returned e.outcome = none)
    (hissued : ∀ capability issued, e.outcome ≠ .issueClaim capability issued) :
    SchedulerOk (es ++ [e]) s where
  claims capability issued hclaim := (h.claims capability issued hclaim).mono e
  completions capability issued hcompletion := by
    obtain ⟨hmade, call, hcompleted⟩ := h.completions capability issued hcompletion
    exact ⟨hmade, call, hcompleted.mono e⟩
  issued capability issued hclaim := by
    obtain hbefore | hnow := issued_snoc hclaim
    · exact h.issued capability issued hbefore
    · exact absurd hnow (hissued capability issued)
  calls index call hcall := (h.calls index call hcall).mono e
  reached := by
    rw [marks_snoc, hmark, Option.toList_none, List.append_nil]
    exact h.reached
  marked_once := by
    rw [marks_snoc, hmark, Option.toList_none, List.append_nil]
    exact h.marked_once
  reviewed := by
    rw [results_snoc, hreturned, Option.toList_none, List.append_nil]
    exact h.reviewed
  reviewed_once := by
    rw [results_snoc, hreturned, Option.toList_none, List.append_nil]
    exact h.reviewed_once

theorem results_within (h : SchedulerOk es s) {completions : Identity → Option IssuedCompletion}
    (hcompletions : Within completions s.completions) {capability : Identity}
    (hcapability : capability ∈ results es) : completions capability = none := by
  apply Option.eq_none_iff_forall_ne_some.mpr
  intro issued hsome
  have hnone := (h.reviewed capability hcapability).2
  rw [hcompletions capability issued hsome] at hnone
  cases hnone

theorem schedulerOk_quiet (h : SchedulerOk es s) (haction : Action.isQuiet e.outcome = true)
    {completions : Identity → Option IssuedCompletion} {aborted : List Nat}
    (hcompletions : Within completions s.completions) :
    SchedulerOk (es ++ [e]) { s with completions := completions, aborted := aborted } := by
  obtain ⟨hmark, -, hreturned, hissued⟩ := Action.quiet haction
  have hunseen := h.unseen hmark hreturned hissued
  refine ⟨hunseen.claims, ?_, hunseen.issued, hunseen.calls, hunseen.reached, hunseen.marked_once,
    ?_, hunseen.reviewed_once⟩
  · exact fun capability issued hsome =>
      hunseen.completions capability issued (hcompletions capability issued hsome)
  · exact fun capability hcapability =>
      ⟨(hunseen.reviewed capability hcapability).1, results_within hunseen hcompletions hcapability⟩

theorem schedulerOk_started (h : SchedulerOk es s) (haction : Action.isQuiet e.outcome = true)
    {claims : Identity → Option IssuedClaim} {call : Call} (hclaims : Within claims s.claims)
    (hstage : Call.stage call = 0 ∨ Call.stage call = 3)
    (huse : ∀ queue capability issued, Call.use call = some (queue, capability, issued) →
      s.claims capability = some issued ∧ issued.queue = queue) :
    SchedulerOk (es ++ [e]) { s with claims := claims, calls := s.calls ++ [call] } := by
  obtain ⟨hmark, -, hreturned, hissued⟩ := Action.quiet haction
  have hunseen := h.unseen hmark hreturned hissued
  refine ⟨?_, hunseen.completions, hunseen.issued, ?_, ?_, hunseen.marked_once, hunseen.reviewed,
    hunseen.reviewed_once⟩
  · exact fun capability issued hsome =>
      hunseen.claims capability issued (hclaims capability issued hsome)
  · intro index found hfound
    rw [List.getElem?_append] at hfound
    split at hfound
    · exact hunseen.calls index found hfound
    · obtain rfl := List.mem_singleton.mp (List.mem_of_getElem? hfound)
      refine ⟨fun queue capability issued hused => ?_, fun hlater => ?_⟩
      · obtain ⟨hclaim, hqueue⟩ := huse queue capability issued hused
        exact ⟨hunseen.claims capability issued hclaim, hqueue⟩
      · omega
  · intro m hm
    obtain ⟨found, hfound, hle⟩ := hunseen.reached m hm
    refine ⟨found, ?_, hle⟩
    rw [List.getElem?_append_left (List.getElem?_eq_some_iff.mp hfound).1]
    exact hfound

theorem schedulerOk_moved (h : SchedulerOk es s) (haction : Action.isQuiet e.outcome = true)
    {claims : Identity → Option IssuedClaim} {index : Nat} {old call : Call}
    (hclaims : Within claims s.claims) (hold : s.calls[index]? = some old)
    (hstage : Call.stage old ≤ Call.stage call)
    (hlater : Call.stage call = 0 ∨ Call.stage call = 3) (huse : Call.use call = none) :
    SchedulerOk (es ++ [e]) { s with claims := claims, calls := s.calls.set index call } := by
  obtain ⟨hmark, -, hreturned, hissued⟩ := Action.quiet haction
  have hunseen := h.unseen hmark hreturned hissued
  have hcall : CallOk (es ++ [e]) index call :=
    ⟨fun _ _ _ hused => absurd (huse.symm.trans hused) (Option.some_ne_none _).symm,
      fun hpresented => by omega⟩
  refine ⟨?_, hunseen.completions, hunseen.issued, calls_set h hcall,
    marks_set hunseen hold hstage, hunseen.marked_once, hunseen.reviewed, hunseen.reviewed_once⟩
  exact fun capability issued hsome =>
    hunseen.claims capability issued (hclaims capability issued hsome)

theorem schedulerOk_claimIssued (h : SchedulerOk es s) {index : Nat} {old : Call}
    {issued : IssuedClaim} (hold : s.calls[index]? = some old)
    (houtcome : e.outcome = .issueClaim (.scheduler s.made) issued) :
    SchedulerOk (es ++ [e]) { s with
      claims := Function.update s.claims (.scheduler s.made) (some issued)
      made := s.made + 1
      calls := s.calls.set index .ended } := by
  have hmark : Action.mark e.outcome = none := by rw [houtcome]; rfl
  have hreturned : Action.returned e.outcome = none := by rw [houtcome]; rfl
  have hmade : ∀ {capability}, Made s capability → Made { s with made := s.made + 1 } capability :=
    fun hcapability => hcapability.succ (Nat.le_succ _)
  refine ⟨?_, ?_, ?_, calls_set h (callOk_ended _ _), ?_, ?_, ?_, ?_⟩
  · intro capability found hfound
    by_cases hcapability : capability = .scheduler s.made
    · subst hcapability
      change Function.update _ _ _ _ = _ at hfound
      rw [Function.update_self] at hfound
      obtain rfl := Option.some.inj hfound
      exact ⟨e, List.mem_append_right _ List.mem_cons_self, houtcome⟩
    · change Function.update _ _ _ _ = _ at hfound
      rw [Function.update_of_ne hcapability] at hfound
      exact (h.claims capability found hfound).mono e
  · intro capability found hfound
    obtain ⟨hold, call, hcompleted⟩ := h.completions capability found hfound
    exact ⟨hmade hold, call, hcompleted.mono e⟩
  · intro capability found hfound
    obtain hbefore | hnow := issued_snoc hfound
    · exact hmade (h.issued capability found hbefore)
    · rw [houtcome] at hnow
      exact ⟨s.made, Nat.lt_succ_self _, (Action.issueClaim.inj hnow).1.symm⟩
  · rw [marks_snoc, hmark, Option.toList_none, List.append_nil]
    exact marks_set h hold (stage_le_ended old)
  · rw [marks_snoc, hmark, Option.toList_none, List.append_nil]
    exact h.marked_once
  · rw [results_snoc, hreturned, Option.toList_none, List.append_nil]
    exact fun capability hcapability =>
      ⟨hmade (h.reviewed capability hcapability).1, (h.reviewed capability hcapability).2⟩
  · rw [results_snoc, hreturned, Option.toList_none, List.append_nil]
    exact h.reviewed_once

/-- A call that reaches the next stage of its completion. -/
theorem schedulerOk_marked (h : SchedulerOk es s) {claims : Identity → Option IssuedClaim}
    {index stage : Nat} {old call : Call} (hclaims : Within claims s.claims)
    (hold : s.calls[index]? = some old) (hbefore : Call.stage old < stage)
    (hnow : Call.stage call = stage) (huse : Call.use call = none)
    (hmark : Action.mark e.outcome = some (index, stage))
    (hpresented : stage = 1 ∨ (index, 1) ∈ marks es)
    (hreturned : Action.returned e.outcome = none)
    (hissued : ∀ capability issued, e.outcome ≠ .issueClaim capability issued) :
    SchedulerOk (es ++ [e]) { s with claims := claims, calls := s.calls.set index call } := by
  have hmarks := marks_snoc es e
  rw [hmark, Option.toList_some] at hmarks
  obtain ⟨hall, honce⟩ := marks_fresh h hold hbefore hnow
  refine ⟨?_, ?_, ?_, calls_set h ⟨?_, ?_⟩, by rwa [hmarks], by rwa [hmarks], ?_, ?_⟩
  · exact fun capability issued hsome =>
      (h.claims capability issued (hclaims capability issued hsome)).mono e
  · intro capability issued hcompletion
    obtain ⟨hmade, other, hcompleted⟩ := h.completions capability issued hcompletion
    exact ⟨hmade, other, hcompleted.mono e⟩
  · intro capability issued hclaim
    obtain hearlier | hlast := issued_snoc hclaim
    · exact h.issued capability issued hearlier
    · exact absurd hlast (hissued capability issued)
  · intro queue capability issued hused
    rw [huse] at hused
    cases hused
  · intro _
    rw [hmarks]
    cases hpresented with
    | inl hfirst => exact List.mem_append_right _ (List.mem_singleton.mpr (by rw [hfirst]))
    | inr hmem => exact List.mem_append_left _ hmem
  · rw [results_snoc, hreturned, Option.toList_none, List.append_nil]
    exact h.reviewed
  · rw [results_snoc, hreturned, Option.toList_none, List.append_nil]
    exact h.reviewed_once

theorem schedulerOk_completionIssued (h : SchedulerOk es s) {index : Nat} {old : Call}
    {request signal : Nat} {result : CompletionResult} (hold : s.calls[index]? = some old)
    (hstage : Call.stage old = 2)
    (houtcome : e.outcome = .issueCompletion index (.scheduler s.made) result) :
    SchedulerOk (es ++ [e]) { s with
      completions := Function.update s.completions (.scheduler s.made)
        (some ⟨request, signal, result⟩)
      made := s.made + 1
      calls := s.calls.set index .ended } := by
  have hmark : Action.mark e.outcome = some (index, 3) := by rw [houtcome]; rfl
  have hreturned : Action.returned e.outcome = none := by rw [houtcome]; rfl
  have hissued : ∀ capability issued, e.outcome ≠ .issueClaim capability issued := by
    rw [houtcome]
    exact fun _ _ heq => by cases heq
  have hbefore : Call.stage old < 3 := by omega
  have hended : SchedulerOk (es ++ [e]) { s with calls := s.calls.set index .ended } :=
    schedulerOk_marked h (within_refl _) hold hbefore rfl rfl hmark
      (Or.inr ((h.calls index old hold).presented (Or.inr hstage))) hreturned hissued
  have hmade : ∀ {capability}, Made s capability → Made { s with made := s.made + 1 } capability :=
    fun hcapability => hcapability.succ (Nat.le_succ _)
  refine ⟨hended.claims, ?_, ?_, hended.calls, hended.reached, hended.marked_once, ?_,
    hended.reviewed_once⟩
  · intro capability found hfound
    change Function.update _ _ _ _ = _ at hfound
    by_cases hcapability : capability = .scheduler s.made
    · subst hcapability
      rw [Function.update_self] at hfound
      obtain rfl := Option.some.inj hfound
      exact ⟨⟨s.made, Nat.lt_succ_self _, rfl⟩, index, e,
        List.mem_append_right _ List.mem_cons_self, houtcome⟩
    · rw [Function.update_of_ne hcapability] at hfound
      obtain ⟨hbefore, call, hcompleted⟩ := h.completions capability found hfound
      exact ⟨hmade hbefore, call, hcompleted.mono e⟩
  · exact fun capability issued hclaim => hmade (hended.issued capability issued hclaim)
  · intro capability hcapability
    obtain ⟨hbefore, hnone⟩ := hended.reviewed capability hcapability
    refine ⟨hmade hbefore, ?_⟩
    change Function.update _ _ _ _ = _
    have hne : capability ≠ .scheduler s.made := Made.ne_next (s := s) hbefore
    rw [Function.update_of_ne hne]
    exact hnone

theorem schedulerOk_resultReturned (h : SchedulerOk es s) {capability : Identity}
    {issued : IssuedCompletion} (hissued : s.completions capability = some issued)
    (houtcome : e.outcome = .returnResult capability issued.result) :
    SchedulerOk (es ++ [e])
      { s with completions := Function.update s.completions capability none } := by
  have hmark : Action.mark e.outcome = none := by rw [houtcome]; rfl
  have hreturned : Action.returned e.outcome = some capability := by rw [houtcome]; rfl
  have hresults := results_snoc es e
  rw [hreturned, Option.toList_some] at hresults
  refine ⟨?_, ?_, ?_, ?_, ?_, ?_, ?_, ?_⟩
  · exact fun other found hfound => (h.claims other found hfound).mono e
  · intro other found hfound
    obtain ⟨hmade, call, hcompleted⟩ := h.completions other found (within_delete _ _ _ _ hfound)
    exact ⟨hmade, call, hcompleted.mono e⟩
  · intro other found hfound
    obtain hbefore | hnow := issued_snoc hfound
    · exact h.issued other found hbefore
    · rw [houtcome] at hnow
      cases hnow
  · exact fun index call hcall => (h.calls index call hcall).mono e
  · rw [marks_snoc, hmark, Option.toList_none, List.append_nil]
    exact h.reached
  · rw [marks_snoc, hmark, Option.toList_none, List.append_nil]
    exact h.marked_once
  · rw [hresults]
    refine List.forall_mem_append.mpr ⟨fun other hother => ?_, List.forall_mem_singleton.mpr ?_⟩
    · exact ⟨(h.reviewed other hother).1, results_within h (within_delete _ _) hother⟩
    · exact ⟨(h.completions capability issued hissued).1, Function.update_self _ _ _⟩
  · rw [hresults]
    refine List.nodup_append.mpr ⟨h.reviewed_once, List.nodup_singleton _, ?_⟩
    intro other hother last hlast heq
    obtain rfl := List.mem_singleton.mp hlast
    subst heq
    have hnone := (h.reviewed _ hother).2
    rw [hissued] at hnone
    cases hnone

/-- Every effect keeps the scheduler in order. -/
theorem SchedulerOk.effect (h : SchedulerOk es s) (heffect : Effect s e.call e.outcome t) :
    SchedulerOk (es ++ [e]) t := by
  generalize houtcome : e.outcome = action at heffect
  cases heffect with
  | quiet _ completions aborted haction hcompletions =>
    exact schedulerOk_quiet h (by rwa [houtcome]) hcompletions
  | started _ claims call haction hclaims hstage huse =>
    exact schedulerOk_started h (by rwa [houtcome]) hclaims hstage huse
  | moved _ claims index old call haction hclaims hold hstage hlater huse =>
    exact schedulerOk_moved h (by rwa [houtcome]) hclaims hold hstage hlater huse
  | claimIssued index old issued hold => exact schedulerOk_claimIssued h hold houtcome
  | presented index queue request signal capability issued disposition now hold hact hnow =>
    refine schedulerOk_marked h (within_delete _ _) hold Nat.zero_lt_one rfl rfl ?_ (Or.inl rfl)
      ?_ ?_
    · rw [houtcome]
      rfl
    · rw [houtcome]
      rfl
    · rw [houtcome]
      exact fun _ _ heq => by cases heq
  | outcomeReviewed index old call outcome hold hstage hnext huse =>
    refine schedulerOk_marked h (within_refl _) hold (by omega) hnext huse ?_
      (Or.inr ((h.calls index old hold).presented (Or.inl hstage))) ?_ ?_
    · rw [houtcome]
      rfl
    · rw [houtcome]
      rfl
    · rw [houtcome]
      exact fun _ _ heq => by cases heq
  | completionIssued index old request signal result hold hstage =>
    exact schedulerOk_completionIssued h hold hstage houtcome
  | resultReturned capability issued hissued =>
    exact schedulerOk_resultReturned h hissued houtcome

theorem schedulerOk_reached (acts : List Step) :
    SchedulerOk (scheduler.trace acts) (scheduler.reached acts) := by
  apply Machine.history_induction (I := fun _ => True) ⟨trivial, fun _ _ _ => trivial⟩
  · refine ⟨?_, ?_, ?_, ?_, ?_, ?_, ?_, ?_⟩ <;> simp [scheduler, Issued, marks, results]
  · intro es s act _ hok
    exact hok.effect (e := scheduler.event s act) (step_effect s act)

end Steps

section Presentations

/-- When the clock returns to a completion, the claim that it has looked up is still in the
table: no call made during the reading has taken it out. -/
def claimHeld (s : State) : Step → Bool
  | .clockReads index (some _) =>
    match s.calls[index]? with
    | some (.timingCompletion _ _ _ capability _ _) => (s.claims capability).isSome
    | _ => true
  | _ => true

/-- Presented claims are out of the table, and their capabilities are not made again. -/
structure PresentationsOk (es : List SchedulerEvent) (s : State) : Prop where
  once : (presentations es).Nodup
  gone : ∀ capability ∈ presentations es, Made s capability ∧ s.claims capability = none

theorem gone_within (h : PresentationsOk es s) {claims : Identity → Option IssuedClaim}
    (hclaims : Within claims s.claims) {capability : Identity}
    (hcapability : capability ∈ presentations es) : claims capability = none := by
  apply Option.eq_none_iff_forall_ne_some.mpr
  intro issued hsome
  have hnone := (h.gone capability hcapability).2
  rw [hclaims capability issued hsome] at hnone
  cases hnone

theorem PresentationsOk.effect {e : SchedulerEvent} {t : State} (h : PresentationsOk es s)
    (hok : SchedulerOk es s) (heffect : Effect s e.call e.outcome t)
    (hheld : claimHeld s e.call = true) :
    PresentationsOk (es ++ [e]) t := by
  have hquiet : ∀ {u : State}, Action.presented e.outcome = none → s.made ≤ u.made →
      (∀ capability ∈ presentations es, u.claims capability = none) →
      PresentationsOk (es ++ [e]) u := by
    intro u hnone hmade hclaims
    refine ⟨?_, ?_⟩
    · rw [presentations_snoc, hnone, Option.toList_none, List.append_nil]
      exact h.once
    · rw [presentations_snoc, hnone, Option.toList_none, List.append_nil]
      exact fun capability hcapability =>
        ⟨(h.gone capability hcapability).1.succ hmade, hclaims capability hcapability⟩
  generalize houtcome : e.outcome = action at heffect
  cases heffect with
  | quiet _ completions aborted haction hcompletions =>
    refine hquiet ?_ le_rfl (fun capability hcapability => (h.gone capability hcapability).2)
    rw [houtcome]
    exact (Action.quiet haction).2.1
  | started _ claims call haction hclaims hstage huse =>
    refine hquiet ?_ le_rfl (fun capability hcapability => gone_within h hclaims hcapability)
    rw [houtcome]
    exact (Action.quiet haction).2.1
  | moved _ claims index old call haction hclaims hold hstage hlater huse =>
    refine hquiet ?_ le_rfl (fun capability hcapability => gone_within h hclaims hcapability)
    rw [houtcome]
    exact (Action.quiet haction).2.1
  | claimIssued index old issued hold =>
    refine hquiet (by rw [houtcome]; rfl) (Nat.le_succ _) (fun capability hcapability => ?_)
    obtain ⟨hmade, hnone⟩ := h.gone capability hcapability
    change Function.update _ _ _ _ = _
    rw [Function.update_of_ne hmade.ne_next]
    exact hnone
  | presented index queue request signal capability issued disposition now hold hact hnow =>
    rw [hact, claimHeld, hold] at hheld
    obtain ⟨found, hfound⟩ := Option.isSome_iff_exists.mp hheld
    have hmade := hok.issued capability found (hok.claims capability found hfound)
    have hpresentations := presentations_snoc es e
    rw [houtcome] at hpresentations
    change _ = _ ++ [capability] at hpresentations
    refine ⟨?_, ?_⟩
    · rw [hpresentations]
      refine List.nodup_append.mpr ⟨h.once, List.nodup_singleton _, ?_⟩
      intro other hother last hlast heq
      obtain rfl := List.mem_singleton.mp hlast
      subst heq
      rw [(h.gone _ hother).2] at hfound
      cases hfound
    · rw [hpresentations]
      refine List.forall_mem_append.mpr ⟨fun other hother => ?_, List.forall_mem_singleton.mpr ?_⟩
      · exact ⟨(h.gone other hother).1, gone_within h (within_delete _ _) hother⟩
      · exact ⟨hmade, Function.update_self _ _ _⟩
  | outcomeReviewed index old call outcome hold hstage hnext huse =>
    exact hquiet (by rw [houtcome]; rfl) le_rfl
      (fun capability hcapability => (h.gone capability hcapability).2)
  | completionIssued index old request signal result hold hstage =>
    exact hquiet (by rw [houtcome]; rfl) (Nat.le_succ _)
      (fun capability hcapability => (h.gone capability hcapability).2)
  | resultReturned capability issued hissued =>
    exact hquiet (by rw [houtcome]; rfl) le_rfl
      (fun capability hcapability => (h.gone capability hcapability).2)

theorem presentationsOk_reached (acts : List Step)
    (h : ∀ e ∈ scheduler.trace acts, claimHeld e.before e.call = true) :
    PresentationsOk (scheduler.trace acts) (scheduler.reached acts) := by
  induction acts using List.reverseRecOn with
  | nil => exact ⟨List.nodup_nil, fun capability hcapability => by cases hcapability⟩
  | append_singleton acts act ih =>
    rw [Machine.trace_snoc] at h ⊢
    rw [Machine.reached_snoc]
    obtain ⟨hbefore, hlast⟩ := List.forall_mem_append.mp h
    exact (ih hbefore).effect (e := scheduler.event (scheduler.reached acts) act)
      (schedulerOk_reached acts) (step_effect _ act) (hlast _ (List.mem_singleton.mpr rfl))

theorem claimHeld_startCall {call : Call} (reading : Option TimeValue)
    (h : ∀ queue capability issued, Call.use call = some (queue, capability, issued) →
      s.claims capability = some issued) :
    claimHeld (startCall s call) (.clockReads s.calls.length reading) = true := by
  cases reading with
  | none => rfl
  | some now =>
    have hcall : (startCall s call).calls[s.calls.length]? = some call := by
      rw [startCall, List.getElem?_append_right le_rfl, Nat.sub_self]
      rfl
    rw [claimHeld, hcall]
    cases call with
    | timingCompletion queue request signal capability issued disposition =>
      exact Option.isSome_iff_exists.mpr ⟨issued, h queue capability issued rfl⟩
    | _ => rfl

/-- A clock that answers a completion at once finds its claim in the table. -/
theorem claimHeld_after_complete (s : State) (queue : Queue) (request : CompleteRequest)
    (reading : Option TimeValue) :
    claimHeld (complete s queue request).2 (.clockReads s.calls.length reading) = true := by
  have hended : claimHeld (startCall s .ended) (.clockReads s.calls.length reading) = true :=
    claimHeld_startCall reading (fun _ _ _ huse => by cases huse)
  rw [complete]
  split
  · exact hended
  · split
    · exact hended
    · split
      · exact hended
      · split
        · exact hended
        · next hentry =>
          have hclaim := entry_eq_some hentry
          split
          · exact hended
          · split
            · exact hended
            · apply claimHeld_startCall reading
              intro queue' capability' issued' huse
              obtain ⟨-, hrest⟩ := Prod.mk.inj (Option.some.inj huse)
              obtain ⟨rfl, rfl⟩ := Prod.mk.inj hrest
              exact hclaim

end Presentations

section Runs

/-- The calls whose outcome was reviewed by the source. -/
def outcomesReviewed (es : List SchedulerEvent) : List Nat :=
  (marks es).filterMap (fun m => if m.2 = 2 then some m.1 else none)

/-- The calls that ended with a completion capability. -/
def completionsIssued (es : List SchedulerEvent) : List Nat :=
  (marks es).filterMap (fun m => if m.2 = 3 then some m.1 else none)

def Presented (es : List SchedulerEvent) (call : Nat) : Prop :=
  ∃ e ∈ es, ∃ queue capability source now,
    e.outcome = .present call queue capability source now

/-- Claims are presented once, as they were issued, to the source of their queue and during
their lease, and every outcome is reviewed once into one result. An outcome is that of one
completion call: a claim that two calls complete has two of them. -/
structure SingleUse (es : List SchedulerEvent) : Prop where
  presented_once : (presentations es).Nodup
  presented_in_lease : ∀ past e future call queue capability source now,
    es = past ++ e :: future → e.outcome = .present call queue capability source now →
    e.call = .clockReads call (some now) ∧ ∃ issued, Issued past capability issued ∧
      issued.queue = queue ∧ issued.sourceCapability = source ∧ IssuedClaim.Covers issued now
  outcomes_once : (outcomesReviewed es).Nodup
  completions_once : (completionsIssued es).Nodup
  completed_after : ∀ past e future call capability result, es = past ++ e :: future →
    e.outcome = .issueCompletion call capability result → Presented past call
  results_once : (results es).Nodup
  result_of_completion : ∀ past e future capability result, es = past ++ e :: future →
    e.outcome = .returnResult capability result → ∃ call, Completed past call capability result

variable {act : Step} {t : State}

theorem present_effect {call : Nat} {queue : Queue} {capability : Identity} {source : Nat}
    {now : TimeValue} (h : Effect s act (.present call queue capability source now) t) :
    act = .clockReads call (some now) ∧ ∃ request signal issued disposition,
      s.calls[call]? = some (.timingCompletion queue request signal capability issued disposition) ∧
      issued.sourceCapability = source ∧ IssuedClaim.Covers issued now := by
  cases h with
  | quiet _ _ _ haction _ => cases haction
  | started _ _ _ haction _ _ _ => cases haction
  | moved _ _ _ _ _ haction _ _ _ _ _ => cases haction
  | presented _ _ request signal _ issued disposition _ hold hact hnow =>
    exact ⟨hact, request, signal, issued, disposition, hold, rfl, hnow⟩

theorem issueCompletion_effect {call : Nat} {capability : Identity} {result : CompletionResult}
    (h : Effect s act (.issueCompletion call capability result) t) :
    ∃ old, s.calls[call]? = some old ∧ Call.stage old = 2 := by
  cases h with
  | quiet _ _ _ haction _ => cases haction
  | started _ _ _ haction _ _ _ => cases haction
  | moved _ _ _ _ _ haction _ _ _ _ _ => cases haction
  | completionIssued _ old _ _ _ hold hstage => exact ⟨old, hold, hstage⟩

theorem returnResult_effect {capability : Identity} {result : CompletionResult}
    (h : Effect s act (.returnResult capability result) t) :
    ∃ issued, s.completions capability = some issued ∧ issued.result = result := by
  cases h with
  | quiet _ _ _ haction _ => cases haction
  | started _ _ _ haction _ _ _ => cases haction
  | moved _ _ _ _ _ haction _ _ _ _ _ => cases haction
  | resultReturned _ issued hissued => exact ⟨issued, hissued, rfl⟩

theorem presented_of_mark {call : Nat} (h : (call, 1) ∈ marks es) : Presented es call := by
  obtain ⟨e, he, hmark⟩ := List.mem_filterMap.mp h
  refine ⟨e, he, ?_⟩
  cases houtcome : e.outcome with
  | present index queue capability source now =>
    rw [houtcome] at hmark
    obtain ⟨rfl, -⟩ := Prod.mk.inj (Option.some.inj hmark)
    exact ⟨queue, capability, source, now, rfl⟩
  | _ =>
    rw [houtcome] at hmark
    simp [Action.mark] at hmark

theorem stage_once (h : (marks es).Nodup) (stage : Nat) :
    ((marks es).filterMap (fun m => if m.2 = stage then some m.1 else none)).Nodup := by
  apply List.Nodup.filterMap _ h
  intro m n call hm hn
  obtain ⟨hmstage, hmcall⟩ := Option.ite_none_right_eq_some.mp (Option.mem_def.mp hm)
  obtain ⟨hnstage, hncall⟩ := Option.ite_none_right_eq_some.mp (Option.mem_def.mp hn)
  exact Prod.ext ((Option.some.inj hmcall).trans (Option.some.inj hncall).symm)
    (hmstage.trans hnstage.symm)

/-- In every run in which the clock never takes the claim of a completion away while it is
read, claims and completions are used once. Other runs may keep to that, too. -/
theorem scheduler_single_use (acts : List Step)
    (h : ∀ e ∈ scheduler.trace acts, claimHeld e.before e.call = true) :
    SingleUse (scheduler.trace acts) := by
  have hok := schedulerOk_reached acts
  refine ⟨(presentationsOk_reached acts h).once, ?_, stage_once hok.marked_once 2,
    stage_once hok.marked_once 3, ?_, hok.reviewed_once, ?_⟩
  · intro past e future call queue capability source now hsplit houtcome
    obtain ⟨ds, rfl, he⟩ := Machine.trace_split hsplit
    have hbefore := schedulerOk_reached ds
    have heffect := step_effect (scheduler.reached ds) e.call
    rw [he] at houtcome
    rw [EffectOf, show (step (scheduler.reached ds) e.call).1 = _ from houtcome] at heffect
    obtain ⟨hact, request, signal, issued, disposition, hold, hsource, hnow⟩ :=
      present_effect heffect
    obtain ⟨hissued, hqueue⟩ := (hbefore.calls call _ hold).use queue capability issued rfl
    exact ⟨hact, issued, hissued, hqueue, hsource, hnow⟩
  · intro past e future call capability result hsplit houtcome
    obtain ⟨ds, rfl, he⟩ := Machine.trace_split hsplit
    have heffect := step_effect (scheduler.reached ds) e.call
    rw [he] at houtcome
    rw [EffectOf, show (step (scheduler.reached ds) e.call).1 = _ from houtcome] at heffect
    obtain ⟨old, hold, hstage⟩ := issueCompletion_effect heffect
    exact presented_of_mark
      (((schedulerOk_reached ds).calls call old hold).presented (Or.inr hstage))
  · intro past e future capability result hsplit houtcome
    obtain ⟨ds, rfl, he⟩ := Machine.trace_split hsplit
    have heffect := step_effect (scheduler.reached ds) e.call
    rw [he] at houtcome
    rw [EffectOf, show (step (scheduler.reached ds) e.call).1 = _ from houtcome] at heffect
    obtain ⟨issued, hissued, rfl⟩ := returnResult_effect heffect
    exact ((schedulerOk_reached ds).completions capability issued hissued).2

end Runs

section Sample

def sampleAuthority : List (String × Value) := authorityKeys.map (fun key => (key, .boolean false))

def sampleClaimRequest : ClaimRequest where
  identity := 0
  properties := ofFields ([("schedulerVersion", .integer 1),
    ("use", .string Queue.preBroadcast.claimUse), ("mayPersist", .boolean false)] ++
      sampleAuthority ++ [("signal", .other)])
  signal := some 0

def sampleJob : Value := ofFields (([("schedulerVersion", .integer 1)] : List (String × Value)) ++
  sampleAuthority ++ ([("jobId", .string "11111111-1111-4111-8111-111111111111"),
    ("accountId", .string "22222222-2222-4222-8222-222222222222"),
    ("intentId", .string "33333333-3333-4333-8333-333333333333"),
    ("intentRecordFingerprintSha256",
      .string "4444444444444444444444444444444444444444444444444444444444444444"),
    ("networkId", .string "eip155:1"), ("action", .string "SUPPLY"),
    ("lifecycleRevision", .string "1"),
    ("lifecycleSnapshotSha256",
      .string "5555555555555555555555555555555555555555555555555555555555555555"),
    ("queue", .string "PRE_BROADCAST"), ("purpose", .string "PRE_BROADCAST_SAFETY_REVIEW"),
    ("lifecycleStage", .string "PREPARED"), ("transactionId", .null),
    ("reconciliationOutcome", .null)] : List (String × Value)))

def sampleSourceClaim : Value := ofFields (([("schedulerVersion", .integer 1),
  ("use", .string sourceClaimUse), ("mayPersist", .boolean false)] : List (String × Value)) ++
    sampleAuthority ++ ([("queue", .string "PRE_BROADCAST"), ("job", sampleJob), ("attempt", .integer 1),
      ("leaseId", .string "66666666-6666-4666-8666-666666666666"), ("fencingToken", .string "1"),
      ("claimedAt", .string "2026-09-06T12:00:00.000Z"),
      ("leaseExpiresAt", .string "2026-09-06T12:05:00.000Z")] : List (String × Value)))

def sampleCompleteRequest : CompleteRequest where
  identity := 1
  properties := ofFields ([("schedulerVersion", .integer 1),
    ("use", .string Queue.preBroadcast.completionUse), ("mayPersist", .boolean false)] ++
      sampleAuthority ++ [("claimCapability", .other), ("claimRequest", .other), ("signal", .other),
      ("disposition", .string "PRE_BROADCAST_REVIEW_COMPLETED")])
  claimCapability := some (.scheduler 0)
  claimRequest := some sampleClaimRequest
  signal := some 0

/-- 2026-09-06T12:01:00.000Z -/
def sampleNow : TimeValue := ⟨1788696060000, by decide⟩

/-- A claim is issued. -/
def sampleClaimRun : List Step :=
  [.claim .preBroadcast sampleClaimRequest, .sourceAnswers 0 (.object 0),
    .sourceReviews 0 (some sampleSourceClaim), .clockReads 0 (some sampleNow)]

/-- While the clock is read for the first completion of a claim, it starts another one. -/
def reentrantRun : List Step := sampleClaimRun ++
  [.complete .preBroadcast sampleCompleteRequest, .complete .preBroadcast sampleCompleteRequest,
    .clockReads 2 (some sampleNow), .clockReads 1 (some sampleNow)]

/-- The source of a claim sees it twice when the clock starts a second completion. -/
theorem reentrant_clock_presents_twice :
    presentations (scheduler.trace reentrantRun) = [.scheduler 0, .scheduler 0] ∧
      ¬SingleUse (scheduler.trace reentrantRun) := by
  have htwice : presentations (scheduler.trace reentrantRun) = [.scheduler 0, .scheduler 0] := by
    decide
  refine ⟨htwice, fun h => ?_⟩
  have honce := h.presented_once
  rw [htwice] at honce
  simp at honce

/-- A claim that is completed with a clock that only reads the time. -/
def plainRun : List Step := sampleClaimRun ++
  [.complete .preBroadcast sampleCompleteRequest, .clockReads 1 (some sampleNow),
    .complete .preBroadcast sampleCompleteRequest]

theorem plainRun_single_use :
    presentations (scheduler.trace plainRun) = [.scheduler 0] ∧
      SingleUse (scheduler.trace plainRun) := by
  refine ⟨by decide, scheduler_single_use plainRun ?_⟩
  exact List.all_eq_true.mp (by decide)

end Sample

end CryptoLending.MainnetActions.SchedulerSingleUse
