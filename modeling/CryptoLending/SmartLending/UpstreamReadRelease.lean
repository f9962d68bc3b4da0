import CryptoLending.SmartLending.UpstreamReadDrain

namespace CryptoLending.SmartLending.UpstreamReadRelease

open Lib Lib.JsObject UpstreamReadPolicy UpstreamReadAdmission UpstreamReadBudgets
  UpstreamReadUpdates UpstreamReadSteps UpstreamReadBooks UpstreamReadCircuits UpstreamReadLimits
  UpstreamReadGuarantee UpstreamReadDrain

section Releasing

/-- A call ends the operation of a read, or aborts the read before its operation started. -/
def ends (call : Call) (i : Nat) (leader : LeaderExecution) : Bool :=
  match call with
  | .operationSettled j _ _ => decide (j = i) && leader.operationStarted
  | .callerAborted j => decide (j = i) && leader.callerListening && !leader.operationStarted
  | _ => false

/-- The caller of a new read aborts it within the call. -/
def abortsMeanwhile : Call → Bool
  | .readAccountScoped _ _ _ abortedMeanwhile _ => abortedMeanwhile
  | _ => false

/-- A call releases the reads that it ends and no others, and a new one only when it is aborted. -/
structure Releases (call : Call) (s t : State) : Prop where
  kept : ∀ (i : Nat) (leader : LeaderExecution), s.leaders[i]? = some leader →
    ∃ leader', t.leaders[i]? = some leader' ∧
      leader'.physicallyComplete = (leader.physicallyComplete || ends call i leader)
  fresh : ∀ (i : Nat) (leader : LeaderExecution), s.leaders.length ≤ i →
    t.leaders[i]? = some leader → leader.physicallyComplete = true → abortsMeanwhile call = true

/-- An answer that admits a read adds its leader, and any other leaves the leaders alone. -/
def Grows (s : State) (answer : Outcome × State) (aborted : Bool) : Prop :=
  answer.2.leaders = s.leaders ∧ (∀ i start, answer.1 ≠ .admitted i start) ∨
    ∃ i start leader, answer.1 = .admitted i start ∧ answer.2.leaders = s.leaders ++ [leader] ∧
      (leader.physicallyComplete = true → aborted = true)

variable {policy : AdmissionPolicy} {s t : State} {call : Call} {i : Nat}
  {leader leader' : LeaderExecution}

theorem grows_refused (code : ErrorCode) (aborted : Bool) (h : t.leaders = s.leaders) :
    Grows s (.refused code, t) aborted := .inl ⟨h, fun _ _ h => (by cases h)⟩

theorem Grows.releases {answer : Outcome × State} (h : Grows s answer (abortsMeanwhile call))
    (hends : ∀ i leader, ends call i leader = false) : Releases call s answer.2 := by
  obtain ⟨hleaders, -⟩ | ⟨_, _, new, -, hleaders, hnew⟩ := h
  · refine ⟨fun i leader hi => ⟨leader, hleaders ▸ hi, ?_⟩, fun i leader hlt hi => ?_⟩
    · rw [hends, Bool.or_false]
    · rw [hleaders] at hi
      exact absurd (List.getElem?_eq_some_iff.mp hi).1 (not_lt.mpr hlt)
  · refine ⟨fun i leader hi => ⟨leader, ?_, ?_⟩, fun i leader hlt hi => ?_⟩
    · rw [hleaders, List.getElem?_append_left (List.getElem?_eq_some_iff.mp hi).1, hi]
    · rw [hends, Bool.or_false]
    · rw [hleaders] at hi
      have hbound := (List.getElem?_eq_some_iff.mp hi).1
      rw [List.length_append, List.length_singleton] at hbound
      obtain rfl : i = s.leaders.length := by omega
      rw [List.getElem?_concat_length] at hi
      obtain rfl := Option.some.inj hi
      exact hnew

theorem set_leader (hi : s.leaders[i]? = some leader) : s.leaders = s.leaders.set i leader := by
  obtain ⟨hlt, rfl⟩ := List.getElem?_eq_some_iff.mp hi
  exact (List.set_getElem_self hlt).symm

/-- A call for one leader. -/
theorem onLeader_releases {f : LeaderExecution → State}
    (hothers : ∀ j leader, j ≠ i → ends call j leader = false)
    (hf : ∀ leader, s.leaders[i]? = some leader → ∃ leader',
      (f leader).leaders = s.leaders.set i leader' ∧
        leader'.physicallyComplete = (leader.physicallyComplete || ends call i leader)) :
    Releases call s (onLeader s i f).2 := by
  rw [onLeader]
  cases hi : s.leaders[i]? with
  | none =>
    refine ⟨fun j leader hj => ⟨leader, hj, ?_⟩, fun j leader hlt hj => ?_⟩
    · have hji : j ≠ i := by
        rintro rfl
        rw [hi] at hj
        cases hj
      rw [hothers j leader hji, Bool.or_false]
    · exact absurd (List.getElem?_eq_some_iff.mp hj).1 (not_lt.mpr hlt)
  | some leader =>
    obtain ⟨leader', hset, hcomplete⟩ := hf leader hi
    refine ⟨fun j other hj => ?_, fun j other hlt hj => ?_⟩
    · by_cases hij : i = j
      · subst hij
        obtain rfl := Option.some.inj (hi.symm.trans hj)
        exact ⟨leader', hset ▸ set_getElem? hi leader', hcomplete⟩
      · refine ⟨other, ?_, ?_⟩
        · change (f leader).leaders[j]? = some other
          rw [hset, List.getElem?_set_ne hij, hj]
        · rw [hothers j other (Ne.symm hij), Bool.or_false]
    · change (f leader).leaders[j]? = some other at hj
      have hbound := (List.getElem?_eq_some_iff.mp hj).1
      rw [hset, List.length_set] at hbound
      exact absurd hbound (not_lt.mpr hlt)

theorem turn_releases (hi : s.leaders[i]? = some leader) : ∃ leader',
    (turn s i leader).leaders = s.leaders.set i leader' ∧
      leader'.physicallyComplete = leader.physicallyComplete := by
  rw [turn]
  split
  · exact ⟨leader, set_leader hi, rfl⟩
  · split
    · exact ⟨_, rfl, rfl⟩
    · exact ⟨_, rfl, rfl⟩

variable (policy) in
theorem timeout_releases (hs : LeadersSound s) (hi : s.leaders[i]? = some leader)
    (reading : Reading) : ∃ leader',
      (timeout policy s i leader reading).leaders = s.leaders.set i leader' ∧
        leader'.physicallyComplete = leader.physicallyComplete := by
  rw [timeout]
  split
  · rename_i hfires
    obtain ⟨hturned, hnot⟩ := (Bool.and_eq_true _ _).mp hfires
    have hsettled : leader.logicalSettled = false := by simpa using hnot
    have hstarted : leader.operationStarted = true :=
      ((hs.get hi).turned hturned).resolve_right (by simp [hsettled])
    obtain ⟨outcome, _, hleaders⟩ | ⟨_, _, hleaders⟩ :=
      finishLogical_cases policy (some reading) reading (hs.get hi) hi hsettled .upstreamTimeout
        (fun _ => hstarted) (fun _ => rfl)
    · exact ⟨_, hleaders, rfl⟩
    · exact ⟨_, hleaders, rfl⟩
  · exact ⟨leader, set_leader hi, rfl⟩

variable (policy) in
theorem abortCaller_releases (hs : LeadersSound s) (hi : s.leaders[i]? = some leader)
    (hsettled : leader.logicalSettled = false) : ∃ leader',
      (abortCaller policy s i leader).leaders = s.leaders.set i leader' ∧
        leader'.physicallyComplete = (leader.physicallyComplete || !leader.operationStarted) := by
  have hincomplete : leader.physicallyComplete = false := by
    by_contra hcomplete
    rw [(hs.get hi).released (by simpa using hcomplete)] at hsettled
    cases hsettled
  obtain ⟨outcome, _, hleaders⟩ | ⟨haborted, _⟩ :=
    finishLogical_cases policy none none (hs.get hi) hi hsettled .callerAborted
      (fun h => absurd rfl h) (fun h => absurd rfl h)
  · have hget : (finishLogical policy s i leader .callerAborted none).leaders[i]? =
        some (LeaderExecution.settle leader .neutral outcome) := by
      rw [hleaders, set_getElem? hi]
    rw [abortCaller]
    simp only [hget]
    split
    · rename_i hstarted
      have hstarted : leader.operationStarted = true := hstarted
      exact ⟨_, hleaders, by rw [hstarted, Bool.not_true, Bool.or_false]; rfl⟩
    · rename_i hstarted
      have hstarted : leader.operationStarted = false := Bool.eq_false_iff.mpr hstarted
      exact ⟨_, leaders_finishPhysical_set hleaders hincomplete,
        by rw [hstarted, Bool.not_false, Bool.or_true]; rfl⟩
  · exact absurd rfl haborted

theorem set_length_append (leaders : List LeaderExecution) (leader leader' : LeaderExecution) :
    (leaders ++ [leader]).set leaders.length leader' = leaders ++ [leader'] := by
  rw [List.set_append_right _ _ le_rfl, Nat.sub_self]
  rfl

variable (policy) in
theorem readSharedMarket_grows (s : State) (request : Datum) (isFunction aborted : Bool)
    (reading : Reading) :
    Grows s (readSharedMarket policy s request isFunction aborted reading) false := by
  unfold readSharedMarket
  split
  · exact grows_refused _ _ rfl
  split
  · exact grows_refused _ _ rfl
  split
  · exact grows_refused _ _ rfl
  split
  · exact grows_refused _ _ rfl
  split
  · exact .inl ⟨rfl, fun _ _ h => (by cases h)⟩
  rename_i parsed _ _ _ _ _ _ _
  have hleaders := reserve_leaders policy
    { s with sharedFlights := s.sharedFlights.delete parsed.destination } parsed.destination
    parsed.workloadUnits none reading
  simp only
  split
  · rename_i hreserve
    rw [hreserve] at hleaders
    exact grows_refused _ _ hleaders
  · rename_i now r s' hreserve
    rw [hreserve] at hleaders
    refine .inr ⟨_, _, newLeader r false, rfl, ?_, fun h => (by cases h)⟩
    exact congrArg (· ++ [newLeader r false]) hleaders

variable (policy) in
theorem readAccountScoped_grows (hs : LeadersSound s) (request : Datum)
    (isFunction aborted abortedMeanwhile : Bool) (reading : Reading) :
    Grows s (readAccountScoped policy s request isFunction aborted abortedMeanwhile reading)
      abortedMeanwhile := by
  unfold readAccountScoped
  split
  · exact grows_refused _ _ rfl
  split
  · exact grows_refused _ _ rfl
  split
  · exact grows_refused _ _ rfl
  split
  · exact grows_refused _ _ rfl
  rename_i parsed hparsed _ _ _ _
  have hleaders := reserve_leaders policy s parsed.destination parsed.workloadUnits
    (some parsed.accountId) reading
  split
  · rename_i hreserve
    rw [hreserve] at hleaders
    exact grows_refused _ _ hleaders
  · rename_i now r s' hreserve
    rw [hreserve] at hleaders
    obtain ⟨t, permit, circuit, hreserved⟩ := reserve_ok hreserve
    have hadmitted := hreserved.admitted (decide (parsed.signal ≠ .absent)) fun h => (by cases h)
    have hr := hreserved.reservation
    have hafter := hreserved.after
    subst hr hafter
    simp only
    split
    · rename_i habort
      obtain ⟨leader', hset, -⟩ := abortCaller_releases policy (hadmitted.leadersSound hs)
        (startLeader_getElem? _ _ _) rfl
      refine .inr ⟨_, _, leader', rfl, ?_, fun _ => ((Bool.and_eq_true _ _).mp habort).2⟩
      exact hset.trans ((set_length_append _ _ _).trans (congrArg (· ++ [leader']) hleaders))
    · exact .inr ⟨_, _, newLeader _ _, rfl, congrArg (· ++ [newLeader _ _]) hleaders,
        fun h => (by cases h)⟩

variable (policy) in
theorem step_releases (hs : LeadersSound s) (call : Call) :
    Releases call s (step policy s call).2 := by
  cases call with
  | readSharedMarket request isFunction aborted reading =>
    exact (readSharedMarket_grows policy s request isFunction aborted reading).releases
      fun _ _ => rfl
  | readAccountScoped request isFunction aborted abortedMeanwhile reading =>
    exact (readAccountScoped_grows policy hs request isFunction aborted abortedMeanwhile
      reading).releases fun _ _ => rfl
  | turn i =>
    refine onLeader_releases (fun _ _ _ => rfl) fun leader hi => ?_
    obtain ⟨leader', hset, hcomplete⟩ := turn_releases hi
    exact ⟨leader', hset, hcomplete.trans (Bool.or_false _).symm⟩
  | operationSettled i ok reading =>
    refine onLeader_releases (fun j leader hj => by simp [ends, Ne.symm hj]) fun leader hi => ?_
    cases hstarted : leader.operationStarted with
    | false =>
      rw [operationSettled, if_neg (by simp [hstarted])]
      exact ⟨leader, set_leader hi, by simp [ends, hstarted]⟩
    | true =>
      cases hcomplete : leader.physicallyComplete with
      | true =>
        rw [operationSettled, if_neg (by simp [hcomplete])]
        exact ⟨leader, set_leader hi, by simp [hcomplete]⟩
      | false =>
        obtain ⟨leader', hset, hcomplete'⟩ :=
          operationSettled_leaders policy hs hi hstarted hcomplete ok reading
        exact ⟨leader', hset, by simp [ends, hstarted, hcomplete']⟩
  | timeout i reading =>
    refine onLeader_releases (fun _ _ _ => rfl) fun leader hi => ?_
    obtain ⟨leader', hset, hcomplete⟩ := timeout_releases policy hs hi reading
    exact ⟨leader', hset, hcomplete.trans (Bool.or_false _).symm⟩
  | callerAborted i =>
    refine onLeader_releases (fun j leader hj => by simp [ends, Ne.symm hj]) fun leader hi => ?_
    rw [callerAborted]
    split
    · rename_i hlistening
      obtain ⟨leader', hset, hcomplete⟩ :=
        abortCaller_releases policy hs hi ((hs.get hi).listening hlistening)
      exact ⟨leader', hset, by simp [hcomplete, ends, hlistening]⟩
    · rename_i hlistening
      exact ⟨leader, set_leader hi, by simp [ends, hlistening]⟩
  | physicalCompletion i =>
    refine onLeader_releases (fun _ _ _ => rfl) fun leader hi => ?_
    rw [physicalCompletion]
    split
    · exact ⟨leader, set_leader hi, (Bool.or_false _).symm⟩
    · exact ⟨leader, set_leader hi, (Bool.or_false _).symm⟩

variable (policy) in
/-- What is refused adds no read. -/
theorem refused_leaders (hs : LeadersSound s) (call : Call) {code : ErrorCode}
    (h : (step policy s call).1 = .refused code) :
    (step policy s call).2.leaders = s.leaders := by
  have hgrows : ∀ {answer : Outcome × State} {aborted : Bool}, Grows s answer aborted →
      answer.1 = .refused code → answer.2.leaders = s.leaders := by
    intro answer aborted hgrows hrefused
    obtain ⟨hleaders, -⟩ | ⟨_, _, _, hadmitted, -⟩ := hgrows
    · exact hleaders
    · rw [hrefused] at hadmitted
      cases hadmitted
  cases call with
  | readSharedMarket request isFunction aborted reading =>
    exact hgrows (readSharedMarket_grows policy s request isFunction aborted reading) h
  | readAccountScoped request isFunction aborted abortedMeanwhile reading =>
    exact hgrows (readAccountScoped_grows policy hs request isFunction aborted abortedMeanwhile
      reading) h
  | turn => cases h
  | operationSettled => cases h
  | timeout => cases h
  | callerAborted => cases h
  | physicalCompletion => cases h

end Releasing

section Accounting

/-- After any run the budgets count the reads that are not released, within the limits of the
policy, and so do the starts of every window. A call that is refused changes nothing of that, and
every read is released once, when its operation ends or it is aborted before, with no fault but that
of the clock. -/
theorem admission_accounts (policy : AdmissionPolicy) (calls : List Call) :
    let s := (machine policy).reached calls
    let starts := admissions ((machine policy).trace calls)
    (∀ scope : Scope, (State.budget s scope).inFlightRequests = (held scope s.leaders).length ∧
      (State.budget s scope).inFlightWorkloadUnits = (held scope s.leaders).sum ∧
      (held scope s.leaders).length ≤ (scope.policy policy).maximumConcurrentRequests ∧
      (held scope s.leaders).sum ≤ (scope.policy policy).maximumInFlightWorkloadUnits) ∧
    (∀ (scope : Scope) (last : Int),
      (startedWithin scope (scope.policy policy) last starts).length ≤
          (scope.policy policy).maximumStartsPerWindow ∧
        ((startedWithin scope (scope.policy policy) last starts).map Start.workloadUnits).sum ≤
          (scope.policy policy).maximumWorkloadUnitsPerWindow) ∧
    (∀ (call : Call) (code : ErrorCode), (step policy s call).1 = .refused code →
      (step policy s call).2.leaders = s.leaders ∧
      admissions ((machine policy).trace (calls ++ [call])) = starts ∧
      ∀ scope, (State.budget (step policy s call).2 scope).inFlightRequests =
          (State.budget s scope).inFlightRequests ∧
        (State.budget (step policy s call).2 scope).inFlightWorkloadUnits =
          (State.budget s scope).inFlightWorkloadUnits) ∧
    (∀ call : Call, Releases call s (step policy s call).2) ∧
    (∀ (i : Nat) (leader : LeaderExecution), s.leaders[i]? = some leader →
      leader.physicallyComplete = leader.reservation.physicalReleased ∧
      (leader.physicallyComplete = false →
        (releasePhysicalReservation s leader.reservation).2 = true)) ∧
    (∀ call : Call, s.clockHealthy = true → (step policy s call).2.clockHealthy = false →
      ∃ reading, Call.reading call = some reading ∧ (s.now reading).1 = none) ∧
    ∀ (i j : Nat) (leader other : LeaderExecution),
      s.leaders[i]? = some leader → s.leaders[j]? = some other →
      IsShared leader → IsShared other →
      leader.reservation.destination = other.reservation.destination →
      leader.physicallyComplete = false → other.physicallyComplete = false → i = j := by
  intro s starts
  have hsound := reached_leadersSound policy calls
  have hbooks := reached_books policy calls
  refine ⟨inFlight_within policy calls, windows_within policy calls, fun call code hrefused => ?_,
    step_releases policy hsound,
    fun i leader hi => ⟨(hsound.get hi).complete, fun hincomplete => ?_⟩,
    clock_fault policy calls, fun i j leader other hi hj hleader hother hsame => ?_⟩
  · have hleaders := refused_leaders policy hsound call hrefused
    refine ⟨hleaders, ?_, fun scope => ?_⟩
    · rw [Machine.trace_snoc, admissions, List.filterMap_append]
      have hevent : ((machine policy).event ((machine policy).reached calls) call).outcome =
          .refused code := hrefused
      simp [hevent, admittedStart, starts, admissions]
    · obtain ⟨hrequests, hworkload, -⟩ := inFlight_within policy (calls ++ [call]) scope
      rw [Machine.reached_snoc] at hrequests hworkload
      obtain ⟨hrequests', hworkload', -⟩ := inFlight_within policy calls scope
      have hnext : ((machine policy).step s call).2.leaders = s.leaders := hleaders
      rw [hnext] at hrequests hworkload
      exact ⟨hrequests.trans hrequests'.symm, hworkload.trans hworkload'.symm⟩
  · rw [releasePhysicalReservation_eq hbooks hsound hi hincomplete]
  · exact shared_unique (reached_flightsSound policy calls) hi hj hleader hother hsame

end Accounting

end CryptoLending.SmartLending.UpstreamReadRelease
