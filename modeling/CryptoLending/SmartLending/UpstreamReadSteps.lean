import CryptoLending.SmartLending.UpstreamReadUpdates

namespace CryptoLending.SmartLending.UpstreamReadSteps

open Lib Lib.JsObject UpstreamReadPolicy UpstreamReadAdmission UpstreamReadUpdates

section Steps

variable {policy : AdmissionPolicy} {given : Option Reading} {s : State} {reading : Reading}

/-- A reading either is observed, or the clock is at fault. -/
theorem now_cases (s : State) (reading : Reading) :
    (∃ now, s.lastObservedTime ≤ now ∧
      s.now reading = (some now, { s with lastObservedTime := now })) ∨
    s.now reading = (none, { s with clockHealthy := false }) := by
  by_cases h : ∃ value, reading = some (.number value) ∧ -maxSafeInteger ≤ value ∧
      value ≤ maxSafeInteger ∧ 0 ≤ value ∧ s.lastObservedTime ≤ value
  · obtain ⟨value, rfl, hvalid⟩ := h
    exact .inl ⟨value, hvalid.2.2.2, if_pos hvalid⟩
  · right
    unfold State.now
    split
    · exact if_neg fun hvalid => h ⟨_, rfl, hvalid⟩
    · rfl

/-- What a reservation that is made finds. -/
structure Reserved (policy : AdmissionPolicy) (reading : Reading) (s : State) (start : Start)
    (r : Reservation) (s' t : State) (permit : CircuitPermit) (circuit : CircuitState) : Prop where
  updates : Updates policy (some reading) s [] t
  leaders : t.leaders = s.leaders
  flights : t.sharedFlights = s.sharedFlights
  now : start.startedAt = t.lastObservedTime
  budgets : t.budgetRefusal policy start.destination start.workloadUnits start.accountId = none
  permitted : reserveCircuit (t.circuits start.destination) start.startedAt = some (permit, circuit)
  reservation : r = reservationOf start permit
  after : s' = t.book start.destination start.workloadUnits start.accountId circuit start.startedAt

theorem observed_purged {now : Int} (hlast : s.lastObservedTime ≤ now)
    (hnow : s.now reading = (some now, { s with lastObservedTime := now }))
    (destination : Destination) (accountId : Option AccountId) :
    Updates policy (some reading) s []
      ({ s with lastObservedTime := now }.purge policy destination accountId now) :=
  (Update.observed s reading now rfl hnow hlast).single.trans
    (Update.purged { s with lastObservedTime := now } destination accountId).single

theorem reserve_error {destination : Destination} {w : Nat} {a : Option AccountId}
    {code : ErrorCode} {s' : State} (h : reserve policy s destination w a reading = (.error code, s')) :
    Updates policy (some reading) s [] s' := by
  rw [reserve] at h
  obtain ⟨now, hlast, hnow⟩ | hnow := now_cases s reading
  · rw [hnow] at h
    simp only at h
    split at h
    · obtain ⟨_, rfl⟩ := Prod.mk.inj h
      exact observed_purged hlast hnow destination a
    · split at h
      · obtain ⟨_, rfl⟩ := Prod.mk.inj h
        exact observed_purged hlast hnow destination a
      · cases h
  · rw [hnow] at h
    obtain ⟨_, rfl⟩ := Prod.mk.inj h
    exact (Update.clockFault s reading rfl (congrArg Prod.fst hnow)).single

theorem reserve_ok {destination : Destination} {w : Nat} {a : Option AccountId} {now : Int}
    {r : Reservation} {s' : State}
    (h : reserve policy s destination w a reading = (.ok (now, r), s')) :
    ∃ t permit circuit, Reserved policy reading s ⟨destination, a, w, now⟩ r s' t permit circuit := by
  rw [reserve] at h
  obtain ⟨time, hlast, hnow⟩ | hnow := now_cases s reading
  · rw [hnow] at h
    simp only at h
    split at h
    · cases h
    rename_i hbudgets
    split at h
    · cases h
    rename_i permit circuit hcircuit
    obtain ⟨hr, rfl⟩ := Prod.mk.inj h
    obtain ⟨rfl, rfl⟩ := Prod.mk.inj (Except.ok.inj hr)
    exact ⟨_, permit, circuit, ⟨observed_purged hlast hnow destination a, rfl, rfl, rfl, hbudgets,
      hcircuit, rfl, rfl⟩⟩
  · rw [hnow] at h
    cases h

/-- A read that is admitted has a new leader. -/
theorem Reserved.admitted {start : Start} {r : Reservation} {s' t : State} {permit : CircuitPermit}
    {circuit : CircuitState} (h : Reserved policy reading s start r s' t permit circuit)
    (listening : Bool)
    (hflight : start.accountId = none → s.sharedFlights.get start.destination = none) :
    Updates policy (some reading) s [.started start permit]
      (State.accept t start permit circuit listening) := by
  refine h.updates.trans (Update.admitted t start permit circuit listening h.now h.budgets
    h.permitted ?_).single
  rw [h.flights]
  exact hflight

section Settling

variable {i : Nat} {leader : LeaderExecution}

theorem set_getElem? {leaders : List LeaderExecution} (h : leaders[i]? = some leader)
    (leader' : LeaderExecution) : (leaders.set i leader')[i]? = some leader' := by
  have hlt := (List.getElem?_eq_some_iff.mp h).1
  rw [List.getElem?_set_self hlt]

theorem completed_getElem? {t : State} (h : t.leaders[i]? = some leader)
    (hincomplete : leader.physicallyComplete = false) :
    (finishPhysical t i leader).leaders[i]? = some (LeaderExecution.complete leader) := by
  rw [leaders_finishPhysical t i leader hincomplete]
  exact set_getElem? h _

/-- The end of an operation, as the circuit takes note of it. -/
def okOf (candidate : UpstreamOutcome) : Bool := decide (candidate = .ok)

variable (policy given reading) in
/-- An outcome settles a read: neutrally, or with a note of the circuit. -/
theorem finishLogical_cases (hs : LeaderSound leader) (hi : s.leaders[i]? = some leader)
    (hsettled : leader.logicalSettled = false) (candidate : UpstreamOutcome)
    (hstarted : candidate ≠ .callerAborted → leader.operationStarted = true)
    (hgiven : candidate ≠ .callerAborted → given = some reading) :
    (∃ outcome, Updates policy given s [] (finishLogical policy s i leader candidate reading) ∧
      (finishLogical policy s i leader candidate reading).leaders =
        s.leaders.set i (LeaderExecution.settle leader .neutral outcome)) ∨
    (candidate ≠ .callerAborted ∧
      Updates policy given s [.decided leader.reservation.destination leader.reservation.circuitPermit
          (okOf candidate) (finishLogical policy s i leader candidate reading).lastObservedTime]
        (finishLogical policy s i leader candidate reading) ∧
      (finishLogical policy s i leader candidate reading).leaders =
        s.leaders.set i (LeaderExecution.settle leader .recorded candidate)) := by
  have hpending := hs.pending hsettled
  rw [finishLogical, if_neg (by simp [hsettled]), recordLogicalOutcome,
    if_neg (not_not.mpr hpending)]
  by_cases haborted : candidate = .callerAborted
  · rw [if_pos haborted]
    exact .inl ⟨candidate, (Update.neutral s i leader candidate hi hsettled).single, rfl⟩
  rw [if_neg haborted]
  obtain ⟨now, hlast, hnow⟩ | hnow := now_cases s reading
  · rw [hnow]
    refine .inr ⟨haborted, ?_, rfl⟩
    have hobserved : Update policy given s [] { s with lastObservedTime := now } :=
      .observed s reading now (hgiven haborted) hnow hlast
    have hupdates := hobserved.single.trans (Update.decided { s with lastObservedTime := now } i
      leader candidate (okOf candidate) hi hsettled (hstarted haborted)).single
    by_cases hok : candidate = .ok
    · rw [recorded, if_pos (show okOf candidate = true from decide_eq_true hok)] at hupdates
      simp only [if_pos hok]
      exact hupdates
    · rw [recorded, if_neg (show ¬okOf candidate = true from mt of_decide_eq_true hok)] at hupdates
      simp only [if_neg hok]
      exact hupdates
  · rw [hnow]
    refine .inl ⟨.admissionClockInvalid, ?_, rfl⟩
    have hfault : Update policy given s [] { s with clockHealthy := false } :=
      .clockFault s reading (hgiven haborted) (congrArg Prod.fst hnow)
    exact hfault.single.trans (Update.neutral { s with clockHealthy := false } i leader
      .admissionClockInvalid hi hsettled).single

end Settling

end Steps

section Calls

variable {policy : AdmissionPolicy} {given : Option Reading} {s : State} {i : Nat}
  {leader : LeaderExecution}

theorem lastObservedTime_finishPhysical (s : State) (i : Nat) (leader : LeaderExecution) :
    (finishPhysical s i leader).lastObservedTime = s.lastObservedTime := by
  have hbudgets : (releaseBudgets s leader.reservation).1.lastObservedTime = s.lastObservedTime := by
    simp only [releaseBudgets]
    split
    · rfl
    · split
      · rfl
      · split
        · rfl
        · split
          · rfl
          · rfl
  have hrelease : (releasePhysicalReservation s leader.reservation).1.lastObservedTime =
      s.lastObservedTime := by
    rw [releasePhysicalReservation]
    split
    · rfl
    · split
      · rename_i h
        rw [← hbudgets, h]
      · rename_i h
        rw [← hbudgets, h]
        split
        · rfl
        · rfl
  rw [finishPhysical]
  split
  · rfl
  · split
    · rename_i h
      rw [← hrelease, h]
      rfl
    · rename_i h
      rw [← hrelease, h]
      rfl

theorem decidedMark_eq {t : State} {leader leader' : LeaderExecution} {ok : Bool}
    (hbefore : s.leaders[i]? = some leader) (hafter : t.leaders[i]? = some leader') :
    decidedMark s t i ok = if leader.reservation.circuitDisposition = .pending ∧
        leader'.reservation.circuitDisposition = .recorded then
      [.decided leader.reservation.destination leader.reservation.circuitPermit ok
        t.lastObservedTime]
    else [] := by
  rw [decidedMark, hbefore, hafter]

theorem decidedMark_same {t : State} {ok : Bool} (h : t.leaders = s.leaders) :
    decidedMark s t i ok = [] := by
  rw [decidedMark, h]
  split
  · rename_i leader leader' hleader hleader'
    obtain rfl := Option.some.inj (hleader.symm.trans hleader')
    apply if_neg
    rintro ⟨hpending, hrecorded⟩
    rw [hpending] at hrecorded
    cases hrecorded
  · rfl

variable (policy given) in
/-- The abort of a caller that is listened to settles its read, and releases it if its operation
did not start. -/
theorem abortCaller_updates (hs : LeadersSound s) (hi : s.leaders[i]? = some leader)
    (hsettled : leader.logicalSettled = false) :
    Updates policy given s [] (abortCaller policy s i leader) ∧
      ∃ leader', (abortCaller policy s i leader).leaders[i]? = some leader' ∧
        leader'.reservation.circuitPermit = leader.reservation.circuitPermit := by
  have hsound := hs.get hi
  obtain ⟨outcome, hupdates, hleaders⟩ | ⟨haborted, _⟩ :=
    finishLogical_cases policy given none hsound hi hsettled .callerAborted
      (fun h => absurd rfl h) (fun h => absurd rfl h)
  · have hget : (finishLogical policy s i leader .callerAborted none).leaders[i]? =
        some (LeaderExecution.settle leader .neutral outcome) := by
      rw [hleaders, set_getElem? hi]
    rw [abortCaller]
    simp only [hget]
    split
    · exact ⟨hupdates, _, hget, rfl⟩
    · have hincomplete : leader.physicallyComplete = false := by
        cases hcomplete : leader.physicallyComplete with
        | false => rfl
        | true => rw [hsound.released hcomplete] at hsettled; cases hsettled
      have hreleased := hupdates.trans (Update.released _ i _ hget rfl hincomplete).single
      exact ⟨hreleased, _, completed_getElem? hget hincomplete, rfl⟩
  · exact absurd rfl haborted

theorem turn_updates (hs : LeadersSound s) (hi : s.leaders[i]? = some leader) :
    Updates policy given s [] (turn s i leader) := by
  rw [turn]
  split
  · exact .refl s
  rename_i hturned
  have hturn : leader.turned = false := by simpa using hturned
  have hupdate : Updates policy given s [] (s.setLeader i (LeaderExecution.turn leader)) :=
    (Update.turned s i leader hi hturn).single
  have hsound := hs.get hi
  have hstarted : leader.operationStarted = false := by
    cases hstarted : leader.operationStarted with
    | false => rfl
    | true => rw [hsound.started hstarted] at hturn; cases hturn
  split
  · rename_i hover
    have hsettled : leader.logicalSettled = true := by
      obtain h | h := (Bool.or_eq_true _ _).mp hover
      · exact h
      · exact hsound.released h
    have hsame : LeaderExecution.turn leader = { leader with turned := true } := by
      rw [LeaderExecution.turn, hsettled, hstarted]
      rfl
    rwa [hsame] at hupdate
  · rename_i hover
    have hsettled : leader.logicalSettled = false := by
      cases hsettled : leader.logicalSettled with
      | false => rfl
      | true => exact absurd (by simp [hsettled]) hover
    have hsame : LeaderExecution.turn leader =
        { leader with turned := true, operationStarted := true } := by
      rw [LeaderExecution.turn, hsettled]
      rfl
    rwa [hsame] at hupdate

theorem timeout_updates (hs : LeadersSound s) (hi : s.leaders[i]? = some leader)
    (reading : Reading) :
    Updates policy (some reading) s (decidedMark s (timeout policy s i leader reading) i false)
      (timeout policy s i leader reading) := by
  by_cases hfires : (leader.turned && !leader.logicalSettled) = true
  · obtain ⟨hturned, hnot⟩ := (Bool.and_eq_true _ _).mp hfires
    have hsettled : leader.logicalSettled = false := by simpa using hnot
    have hstarted : leader.operationStarted = true := by
      obtain h | h := (hs.get hi).turned hturned
      · exact h
      · rw [h] at hsettled
        cases hsettled
    have hpending := (hs.get hi).pending hsettled
    have htimeout : timeout policy s i leader reading =
        finishLogical policy s i leader .upstreamTimeout reading := by
      rw [timeout, if_pos hfires]
    rw [htimeout]
    obtain ⟨outcome, hupdates, hleaders⟩ | ⟨_, hupdates, hleaders⟩ :=
      finishLogical_cases policy (some reading) reading (hs.get hi) hi hsettled .upstreamTimeout
        (fun _ => hstarted) (fun _ => rfl)
    · rw [decidedMark_eq hi (by rw [hleaders]; exact set_getElem? hi _),
        if_neg (fun h => by cases h.2)]
      exact hupdates
    · rw [decidedMark_eq hi (by rw [hleaders]; exact set_getElem? hi _), if_pos ⟨hpending, rfl⟩]
      exact hupdates
  · have htimeout : timeout policy s i leader reading = s := by
      rw [timeout, if_neg hfires]
    rw [htimeout, decidedMark_same rfl]
    exact .refl s

theorem operationSettled_updates (hs : LeadersSound s) (hi : s.leaders[i]? = some leader)
    (ok : Bool) (reading : Reading) :
    Updates policy (some reading) s
      (decidedMark s (operationSettled policy s i leader ok reading) i ok)
      (operationSettled policy s i leader ok reading) := by
  by_cases hends : (leader.operationStarted && !leader.physicallyComplete) = true
  · obtain ⟨hstarted, hnot⟩ := (Bool.and_eq_true _ _).mp hends
    have hincomplete : leader.physicallyComplete = false := by simpa using hnot
    let candidate : UpstreamOutcome := if ok then .ok else .upstreamFailed
    have hok : okOf candidate = ok := by
      cases ok with
      | false => rfl
      | true => rfl
    have hends' : ∀ leader', (finishLogical policy s i leader candidate reading).leaders[i]? =
        some leader' → operationSettled policy s i leader ok reading =
          finishPhysical (finishLogical policy s i leader candidate reading) i leader' := by
      intro leader' hleader'
      rw [operationSettled, if_pos hends]
      simp only
      rw [hleader']
    cases hsettled : leader.logicalSettled with
    | true =>
      have hfinish : finishLogical policy s i leader candidate reading = s := by
        rw [finishLogical, if_pos hsettled]
      rw [hends' leader (by rw [hfinish]; exact hi), hfinish]
      have hafter := completed_getElem? hi hincomplete
      have hnot : leader.reservation.circuitDisposition ≠ .pending := by
        have hdisposition := (hs.get hi).settled
        rw [hsettled] at hdisposition
        simpa using hdisposition.symm
      rw [decidedMark_eq hi hafter, if_neg (fun h => hnot h.1)]
      exact (Update.released s i leader hi hsettled hincomplete).single
    | false =>
      have hpending := (hs.get hi).pending hsettled
      obtain ⟨outcome, hupdates, hleaders⟩ | ⟨_, hupdates, hleaders⟩ :=
        finishLogical_cases policy (some reading) reading (hs.get hi) hi hsettled candidate
          (fun _ => hstarted) (fun _ => rfl)
      · have hget : (finishLogical policy s i leader candidate reading).leaders[i]? =
            some (LeaderExecution.settle leader .neutral outcome) := by
          rw [hleaders]
          exact set_getElem? hi _
        have hafter := completed_getElem? hget hincomplete
        rw [hends' _ hget, decidedMark_eq hi hafter, if_neg (fun h => by cases h.2)]
        exact hupdates.trans (Update.released _ i _ hget rfl hincomplete).single
      · have hget : (finishLogical policy s i leader candidate reading).leaders[i]? =
            some (LeaderExecution.settle leader .recorded candidate) := by
          rw [hleaders]
          exact set_getElem? hi _
        have hafter := completed_getElem? hget hincomplete
        rw [hends' _ hget, decidedMark_eq hi hafter, if_pos ⟨hpending, rfl⟩,
          lastObservedTime_finishPhysical]
        rw [hok] at hupdates
        exact hupdates.trans (Update.released _ i _ hget rfl hincomplete).single
  · have hsame : operationSettled policy s i leader ok reading = s := by
      rw [operationSettled, if_neg hends]
    rw [hsame, decidedMark_same rfl]
    exact .refl s

end Calls

section Reads

variable (policy : AdmissionPolicy) (reading : Reading) {s : State}

/-- A read changes the state as it is answered. -/
structure Answers (s : State) (r : Outcome × State) : Prop where
  updates : Updates policy (some reading) s (startedMark r.1 r.2) r.2
  leader : ∀ i start, r.1 = .admitted i start → ∃ leader, r.2.leaders[i]? = some leader

variable {policy reading}

theorem answers_refused {s' : State} (code : ErrorCode) (h : Updates policy (some reading) s [] s') :
    Answers policy reading s (.refused code, s') := ⟨h, fun _ _ hadmitted => (by cases hadmitted)⟩

theorem answers_same (code : ErrorCode) : Answers policy reading s (.refused code, s) :=
  answers_refused code (.refl s)

theorem answers_admitted {s' : State} {i : Nat} {start : Start} {permit : CircuitPermit}
    {leader : LeaderExecution} (h : Updates policy (some reading) s [.started start permit] s')
    (hleader : s'.leaders[i]? = some leader) (hpermit : leader.reservation.circuitPermit = permit) :
    Answers policy reading s (.admitted i start, s') := by
  refine ⟨?_, fun j start' hsame => ?_⟩
  · rw [startedMark, hleader]
    simpa [hpermit] using h
  · obtain ⟨rfl, _⟩ := Outcome.admitted.inj hsame
    exact ⟨leader, hleader⟩

theorem startLeader_getElem? (s : State) (r : Reservation) (listening : Bool) :
    (s.startLeader r listening).leaders[s.leaders.length]? = some (newLeader r listening) := by
  simp [State.startLeader]

theorem currentFlight_none {destination : Destination} (h : s.currentFlight destination = none)
    (i : Nat) (leader : LeaderExecution) (hi : s.sharedFlights.get destination = some i)
    (hleader : s.leaders[i]? = some leader) : leader.physicallyComplete = true := by
  rw [State.currentFlight, hi] at h
  simpa [hleader] using h

theorem readSharedMarket_answers (s : State) (request : Datum) (isFunction aborted : Bool)
    (reading : Reading) :
    Answers policy reading s (readSharedMarket policy s request isFunction aborted reading) := by
  unfold readSharedMarket
  split
  · exact answers_same _
  split
  · exact answers_same _
  split
  · exact answers_same _
  split
  · exact answers_same _
  split
  · exact ⟨.refl s, fun _ _ hjoined => (by cases hjoined)⟩
  rename_i parsed hparsed hfunction haborted _ henabled _ hflight
  have hdropped : Updates policy (some reading) s []
      { s with sharedFlights := s.sharedFlights.delete parsed.destination } :=
    (Update.dropped s parsed.destination (currentFlight_none hflight)).single
  simp only
  split
  · rename_i hreserve
    exact answers_refused _ (hdropped.trans (reserve_error hreserve))
  · rename_i now r s' hreserve
    obtain ⟨t, permit, circuit, hreserved⟩ := reserve_ok hreserve
    have hadmitted := hreserved.admitted false fun _ => by
      change (s.sharedFlights.delete parsed.destination).get parsed.destination = none
      rw [JsMap.get_delete, if_pos rfl]
    have hr := hreserved.reservation
    have hafter := hreserved.after
    subst hr hafter
    exact answers_admitted (hdropped.trans hadmitted) (startLeader_getElem? _ _ false) rfl

theorem readAccountScoped_answers (hs : LeadersSound s) (request : Datum)
    (isFunction aborted abortedMeanwhile : Bool) (reading : Reading) :
    Answers policy reading s
      (readAccountScoped policy s request isFunction aborted abortedMeanwhile reading) := by
  unfold readAccountScoped
  split
  · exact answers_same _
  split
  · exact answers_same _
  split
  · exact answers_same _
  split
  · exact answers_same _
  split
  · rename_i hreserve
    exact answers_refused _ (reserve_error hreserve)
  · rename_i parsed _ _ _ _ _ _ now r s' hreserve
    obtain ⟨t, permit, circuit, hreserved⟩ := reserve_ok hreserve
    have hadmitted := hreserved.admitted (decide (parsed.signal ≠ .absent)) fun h => (by cases h)
    have hr := hreserved.reservation
    have hafter := hreserved.after
    subst hr hafter
    simp only
    split
    · obtain ⟨haborted, leader, hleader, hpermit⟩ := abortCaller_updates policy
        (some reading) (hadmitted.leadersSound hs) (startLeader_getElem? _ _ _) rfl
      exact answers_admitted (hadmitted.trans haborted) hleader hpermit
    · exact answers_admitted hadmitted (startLeader_getElem? _ _ _) rfl

end Reads

section Runs

variable {policy : AdmissionPolicy} {given : Option Reading} {s : State} {i : Nat}

theorem callerAborted_updates {leader : LeaderExecution} (hs : LeadersSound s)
    (hi : s.leaders[i]? = some leader) :
    Updates policy given s [] (callerAborted policy s i leader) := by
  rw [callerAborted]
  split
  · rename_i hlistening
    exact (abortCaller_updates policy given hs hi ((hs.get hi).listening hlistening)).1
  · exact .refl s

theorem physicalCompletion_updates {leader : LeaderExecution} (hi : s.leaders[i]? = some leader) :
    Updates policy given s [] (physicalCompletion s i leader) := by
  rw [physicalCompletion]
  split
  · rename_i h
    refine (Update.dropped s leader.reservation.destination fun j other hj hother => ?_).single
    obtain rfl := Option.some.inj (h.2.symm.trans hj)
    obtain rfl := Option.some.inj (hi.symm.trans hother)
    exact h.1
  · exact .refl s

theorem onLeader_updates {f : LeaderExecution → State} (ms : State → List Mark)
    (hnone : s.leaders[i]? = none → ms s = [])
    (h : ∀ leader, s.leaders[i]? = some leader → Updates policy given s (ms (f leader)) (f leader)) :
    Updates policy given s (ms (onLeader s i f).2) (onLeader s i f).2 := by
  rw [onLeader]
  cases hi : s.leaders[i]? with
  | none =>
    change Updates policy given s (ms s) s
    rw [hnone hi]
    exact .refl s
  | some leader => exact h leader hi

variable (policy) in
/-- A step is one change of the state after another. -/
theorem step_updates (hs : LeadersSound s) (call : Call) :
    Updates policy (Call.reading call) s (marks ((machine policy).event s call))
      (step policy s call).2 := by
  cases call with
  | readSharedMarket request isFunction aborted reading =>
    exact (readSharedMarket_answers s request isFunction aborted reading).updates
  | readAccountScoped request isFunction aborted abortedMeanwhile reading =>
    exact (readAccountScoped_answers hs request isFunction aborted abortedMeanwhile reading).updates
  | turn i => exact onLeader_updates (fun _ => []) (fun _ => rfl) fun leader hi => turn_updates hs hi
  | operationSettled i ok reading =>
    exact onLeader_updates (fun t => decidedMark s t i ok) (fun _ => decidedMark_same rfl)
      fun leader hi => operationSettled_updates hs hi ok reading
  | timeout i reading =>
    exact onLeader_updates (fun t => decidedMark s t i false) (fun _ => decidedMark_same rfl)
      fun leader hi => timeout_updates hs hi reading
  | callerAborted i =>
    exact onLeader_updates (fun _ => []) (fun _ => rfl) fun leader hi => callerAborted_updates hs hi
  | physicalCompletion i =>
    exact onLeader_updates (fun _ => []) (fun _ => rfl)
      fun leader hi => physicalCompletion_updates hi

/-- A read that is admitted has a leader. -/
theorem admitted_leader (hs : LeadersSound s) {call : Call} {start : Start}
    (h : (step policy s call).1 = .admitted i start) :
    ∃ leader, (step policy s call).2.leaders[i]? = some leader := by
  cases call with
  | readSharedMarket request isFunction aborted reading =>
    exact (readSharedMarket_answers s request isFunction aborted reading).leader i start h
  | readAccountScoped request isFunction aborted abortedMeanwhile reading =>
    exact (readAccountScoped_answers hs request isFunction aborted abortedMeanwhile reading).leader i
      start h
  | turn => cases h
  | operationSettled => cases h
  | timeout => cases h
  | callerAborted => cases h
  | physicalCompletion => cases h

theorem leadersSound_initial : LeadersSound initialState := fun _ h => (by cases h)

theorem history_append (events events' : List Event) :
    history (events ++ events') = history events ++ history events' := List.flatMap_append

theorem events_leadersSound (hs : LeadersSound s) (calls : List Call) :
    LeadersSound ((machine policy).run s calls) := by
  induction calls generalizing s with
  | nil => exact hs
  | cons call calls ih => exact ih ((step_updates policy hs call).leadersSound hs)

theorem reached_leadersSound (policy : AdmissionPolicy) (calls : List Call) :
    LeadersSound ((machine policy).reached calls) :=
  events_leadersSound leadersSound_initial calls

variable (policy) in
/-- What every change of the state preserves holds at the end of every run. -/
theorem run_preserves {I : List Mark → State → Prop}
    (hstep : ∀ {given past s ms t}, LeadersSound s → I past s → Update policy given s ms t →
      I (past ++ ms) t)
    (past : List Mark) (hs : LeadersSound s) (h : I past s) (calls : List Call) :
    I (past ++ history ((machine policy).events s calls)) ((machine policy).run s calls) := by
  induction calls generalizing s past with
  | nil => rwa [Machine.events, history, List.flatMap_nil, List.append_nil]
  | cons call calls ih =>
    have hnext := Updates.preserves (I := fun past s => LeadersSound s ∧ I past s)
      (fun h hupdate => ⟨hupdate.leadersSound h.1, hstep h.1 h.2 hupdate⟩) past
      (step_updates policy hs call) ⟨hs, h⟩
    have hrest := ih _ hnext.1 hnext.2
    rwa [List.append_assoc] at hrest

end Runs

end CryptoLending.SmartLending.UpstreamReadSteps
