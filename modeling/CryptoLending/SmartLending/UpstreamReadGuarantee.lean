import CryptoLending.SmartLending.UpstreamReadCircuits
import CryptoLending.SmartLending.UpstreamReadLimits

namespace CryptoLending.SmartLending.UpstreamReadGuarantee

open Lib Lib.JsObject Lib.SlidingWindow UpstreamReadPolicy UpstreamReadAdmission
  UpstreamReadBudgets UpstreamReadUpdates UpstreamReadSteps UpstreamReadBooks UpstreamReadCircuits
  UpstreamReadLimits

section Flights

/-- A read that others may join: it is of no account. -/
def IsShared (leader : LeaderExecution) : Prop := leader.reservation.accountId = none

/-- The reads that can be joined are those of the flights. -/
structure FlightsSound (s : State) : Prop where
  flight : ∀ d i, s.sharedFlights.get d = some i → ∃ leader, s.leaders[i]? = some leader ∧
    IsShared leader ∧ leader.reservation.destination = d
  shared : ∀ i leader, s.leaders[i]? = some leader → IsShared leader →
    leader.physicallyComplete = false →
      s.sharedFlights.get leader.reservation.destination = some i

variable {policy : AdmissionPolicy} {given : Option Reading} {past ms : List Mark} {s t : State}
  {i : Nat} {leader leader' : LeaderExecution}

theorem flightsSound_initial : FlightsSound initialState where
  flight _ _ h := (by cases h)
  shared i leader h := (by simp [initialState] at h)

/-- A leader of the same reservation, which may be complete now. -/
theorem FlightsSound.setLeader (h : FlightsSound s) (hi : s.leaders[i]? = some leader)
    (leader' : LeaderExecution)
    (hdestination : leader'.reservation.destination = leader.reservation.destination)
    (haccount : leader'.reservation.accountId = leader.reservation.accountId)
    (hcomplete : leader'.physicallyComplete = false → leader.physicallyComplete = false) :
    FlightsSound (s.setLeader i leader') where
  flight d j hj := by
    obtain ⟨other, hother, hshared, hd⟩ := h.flight d j hj
    by_cases hij : i = j
    · subst hij
      obtain rfl := Option.some.inj (hi.symm.trans hother)
      exact ⟨leader', set_getElem? hi leader', haccount.trans hshared, hdestination.trans hd⟩
    · refine ⟨other, ?_, hshared, hd⟩
      rw [State.setLeader, List.getElem?_set_ne hij]
      exact hother
  shared j other hother hshared hincomplete := by
    by_cases hij : i = j
    · subst hij
      obtain rfl := Option.some.inj ((set_getElem? hi leader').symm.trans hother)
      rw [hdestination]
      exact h.shared i leader hi (haccount.symm.trans hshared) (hcomplete hincomplete)
    · rw [State.setLeader, List.getElem?_set_ne hij] at hother
      exact h.shared j other hother hshared hincomplete

theorem FlightsSound.dropped (h : FlightsSound s) {destination : Destination}
    (hcomplete : ∀ i leader, s.sharedFlights.get destination = some i →
      s.leaders[i]? = some leader → leader.physicallyComplete = true) :
    FlightsSound { s with sharedFlights := s.sharedFlights.delete destination } where
  flight d j hj := by
    rw [JsMap.get_delete] at hj
    split at hj
    · cases hj
    · exact h.flight d j hj
  shared j other hother hshared hincomplete := by
    have hget := h.shared j other hother hshared hincomplete
    rw [JsMap.get_delete]
    split
    · rename_i hd
      rw [hd] at hget
      rw [hcomplete j other hget hother] at hincomplete
      cases hincomplete
    · exact hget

theorem FlightsSound.admitted (h : FlightsSound s) (start : Start) (permit : CircuitPermit)
    (circuit : CircuitState) (listening : Bool)
    (hflight : start.accountId = none → s.sharedFlights.get start.destination = none) :
    FlightsSound (State.accept s start permit circuit listening) := by
  have hleaders : (State.accept s start permit circuit listening).leaders =
      s.leaders ++ [newLeader (reservationOf start permit) listening] := rfl
  have hold : ∀ {j : Nat} {other : LeaderExecution}, s.leaders[j]? = some other →
      (State.accept s start permit circuit listening).leaders[j]? = some other := by
    intro j other hother
    have hlt := (List.getElem?_eq_some_iff.mp hother).1
    rw [hleaders, List.getElem?_append_left hlt, hother]
  refine ⟨fun d j hj => ?_, fun j other hother hshared hincomplete => ?_⟩
  · have hflights : (State.accept s start permit circuit listening).sharedFlights =
        if start.accountId = none then s.sharedFlights.set start.destination s.leaders.length
        else s.sharedFlights := rfl
    rw [hflights] at hj
    split at hj
    · rename_i haccount
      rw [JsMap.get_set] at hj
      split at hj
      · rename_i hd
        obtain rfl := Option.some.inj hj
        exact ⟨newLeader (reservationOf start permit) listening, by simp [hleaders], haccount, hd.symm⟩
      · obtain ⟨other, hother, hrest⟩ := h.flight d j hj
        exact ⟨other, hold hother, hrest⟩
    · obtain ⟨other, hother, hrest⟩ := h.flight d j hj
      exact ⟨other, hold hother, hrest⟩
  · have hflights : (State.accept s start permit circuit listening).sharedFlights =
        if start.accountId = none then s.sharedFlights.set start.destination s.leaders.length
        else s.sharedFlights := rfl
    rw [hleaders] at hother
    rw [hflights]
    by_cases hlt : j < s.leaders.length
    · rw [List.getElem?_append_left hlt] at hother
      have hget := h.shared j other hother hshared hincomplete
      split
      · rename_i haccount
        rw [JsMap.get_set]
        split
        · rename_i hd
          rw [hd, hflight haccount] at hget
          cases hget
        · exact hget
      · exact hget
    · have hj : j = s.leaders.length := by
        have hbound := (List.getElem?_eq_some_iff.mp hother).1
        rw [List.length_append, List.length_singleton] at hbound
        omega
      subst hj
      rw [List.getElem?_concat_length] at hother
      obtain rfl := Option.some.inj hother
      have haccount : start.accountId = none := hshared
      rw [if_pos haccount]
      exact JsMap.get_set_self _ _ _

theorem Update.flightsSound (h : Update policy given s ms t) (hs : LeadersSound s)
    (hbooks : Books policy past s) (hflights : FlightsSound s) : FlightsSound t := by
  cases h with
  | clockFault => exact ⟨hflights.flight, hflights.shared⟩
  | observed => exact ⟨hflights.flight, hflights.shared⟩
  | purged => exact ⟨hflights.flight, hflights.shared⟩
  | dropped destination hcomplete => exact hflights.dropped hcomplete
  | admitted start permit circuit listening hstart hbudgets hreserve hflight =>
    exact hflights.admitted start permit circuit listening hflight
  | turned i leader hi => exact hflights.setLeader hi _ rfl rfl id
  | neutral i leader outcome hi => exact hflights.setLeader hi _ rfl rfl id
  | decided i leader outcome ok hi =>
    have hset := hflights.setLeader hi (LeaderExecution.settle leader .recorded outcome)
      rfl rfl id
    exact ⟨hset.flight, hset.shared⟩
  | released i leader hi hsettled hincomplete =>
    rw [finishPhysical_eq hbooks hs hi hincomplete]
    have hset := hflights.setLeader hi (LeaderExecution.complete leader) rfl rfl
      (fun h => (by cases h))
    exact ⟨hset.flight, hset.shared⟩

end Flights

section Clock

variable {policy : AdmissionPolicy} {given : Option Reading} {ms : List Mark} {s t u : State}

/-- During a call either the clock is as healthy as before, or its reading is a fault. -/
def ClockKept (given : Option Reading) (s t : State) : Prop :=
  (∃ reading, given = some reading ∧ (s.now reading).1 = none) ∨
    t.clockHealthy = s.clockHealthy ∧
      (t.lastObservedTime = s.lastObservedTime ∨
        ∃ reading, given = some reading ∧ (t.now reading).1.isSome = true)

theorem now_congr (h : t.lastObservedTime = s.lastObservedTime) (reading : Reading) :
    (t.now reading).1 = (s.now reading).1 := by
  unfold State.now
  split
  · rw [h]
    split <;> rfl
  · rfl

/-- A reading that was observed is still valid. -/
theorem now_observed {reading : Reading} {now : Int}
    (h : s.now reading = (some now, { s with lastObservedTime := now })) :
    (State.now { s with lastObservedTime := now } reading).1.isSome = true := by
  unfold State.now at h ⊢
  split
  · rename_i value
    simp only at h
    split at h
    · rename_i hvalid
      obtain rfl := Option.some.inj (Prod.mk.inj h).1
      rw [if_pos ⟨hvalid.1, hvalid.2.1, hvalid.2.2.1, le_rfl⟩]
      rfl
    · cases h
  · rename_i hother
    split at h
    · rename_i value
      exact absurd rfl (hother value)
    · cases h

theorem ClockKept.congr (h : ClockKept given s t) (hhealthy : u.clockHealthy = t.clockHealthy)
    (hlast : u.lastObservedTime = t.lastObservedTime) : ClockKept given s u := by
  obtain hfault | ⟨hsame, hclock⟩ := h
  · exact .inl hfault
  · refine .inr ⟨hhealthy.trans hsame, ?_⟩
    obtain hclock | ⟨reading, hgiven, hvalid⟩ := hclock
    · exact .inl (hlast.trans hclock)
    · refine .inr ⟨reading, hgiven, ?_⟩
      rwa [now_congr hlast]

theorem Update.clockKept {past : List Mark} (h : Update policy given t ms u) (hs : LeadersSound t)
    (hbooks : Books policy past t) (hkept : ClockKept given s t) : ClockKept given s u := by
  cases h with
  | clockFault reading hgiven hreading =>
    obtain hfault | ⟨_, hclock⟩ := hkept
    · exact .inl hfault
    · obtain hlast | ⟨other, hother, hvalid⟩ := hclock
      · exact .inl ⟨reading, hgiven, by rw [← now_congr hlast, hreading]⟩
      · obtain rfl := Option.some.inj (hgiven.symm.trans hother)
        rw [hreading] at hvalid
        cases hvalid
  | observed reading now hgiven hreading =>
    obtain hfault | ⟨hsame, _⟩ := hkept
    · exact .inl hfault
    · exact .inr ⟨hsame, .inr ⟨reading, hgiven, now_observed hreading⟩⟩
  | purged => exact hkept.congr rfl rfl
  | dropped => exact hkept.congr rfl rfl
  | admitted => exact hkept.congr rfl rfl
  | turned => exact hkept.congr rfl rfl
  | neutral => exact hkept.congr rfl rfl
  | decided => exact hkept.congr rfl rfl
  | released i leader hi hsettled hincomplete =>
    rw [finishPhysical_eq hbooks hs hi hincomplete]
    exact hkept.congr rfl rfl

/-- What a step gets to from a reached state keeps what every change of the state preserves. -/
theorem step_preserves {I : State → Prop} (policy : AdmissionPolicy) (calls : List Call)
    (call : Call)
    (hstep : ∀ {past t ms u}, LeadersSound t → Books policy past t → I t →
      Update policy (Call.reading call) t ms u → I u)
    (h : I ((machine policy).reached calls)) :
    I (step policy ((machine policy).reached calls) call).2 := by
  have hsound := reached_leadersSound policy calls
  have hpreserved := Updates.preserves
    (I := fun past t => LeadersSound t ∧ Books policy past t ∧ I t)
    (fun h hupdate => ⟨hupdate.leadersSound h.1, Update.books hupdate h.1 h.2.1,
      hstep h.1 h.2.1 h.2.2 hupdate⟩)
    (history ((machine policy).trace calls)) (step_updates policy hsound call)
    ⟨hsound, reached_books policy calls, h⟩
  exact hpreserved.2.2

/-- The admission fails by a fault of the clock only: no release, no outcome and no budget faults. -/
theorem clock_fault (policy : AdmissionPolicy) (calls : List Call) (call : Call)
    (hhealthy : ((machine policy).reached calls).clockHealthy = true)
    (hfailed : (step policy ((machine policy).reached calls) call).2.clockHealthy = false) :
    ∃ reading, Call.reading call = some reading ∧
      (((machine policy).reached calls).now reading).1 = none := by
  have hkept := step_preserves policy calls call
    (I := ClockKept (Call.reading call) ((machine policy).reached calls))
    (fun hs hbooks hkept hupdate => Update.clockKept hupdate hs hbooks hkept)
    (.inr ⟨rfl, .inl rfl⟩)
  obtain hfault | ⟨hsame, _⟩ := hkept
  · exact hfault
  · rw [hhealthy, hfailed] at hsame
    cases hsame

end Clock

section Joining

variable {policy : AdmissionPolicy}

theorem reached_flightsSound (policy : AdmissionPolicy) (calls : List Call) :
    FlightsSound ((machine policy).reached calls) := by
  have hrun := run_preserves policy
    (I := fun past s => Books policy past s ∧ FlightsSound s)
    (fun hs h hupdate => ⟨Update.books hupdate hs h.1, Update.flightsSound hupdate hs h.1 h.2⟩)
    [] leadersSound_initial ⟨books_initial policy, flightsSound_initial⟩ calls
  exact hrun.2

/-- At most one shared read of a market is in flight. -/
theorem shared_unique {s : State} (h : FlightsSound s) {i j : Nat} {leader other : LeaderExecution}
    (hi : s.leaders[i]? = some leader) (hj : s.leaders[j]? = some other) (hleader : IsShared leader)
    (hother : IsShared other)
    (hsame : leader.reservation.destination = other.reservation.destination)
    (hincomplete : leader.physicallyComplete = false)
    (hincomplete' : other.physicallyComplete = false) : i = j := by
  have hflight := h.shared i leader hi hleader hincomplete
  have hflight' := h.shared j other hj hother hincomplete'
  rw [hsame] at hflight
  exact Option.some.inj (hflight.symm.trans hflight')

theorem joined_flight {s : State} (h : FlightsSound s) {request : Datum} {isFunction aborted : Bool}
    {reading : Reading} {i : Nat}
    (hjoined : (readSharedMarket policy s request isFunction aborted reading).1 = .joined i) :
    ∃ parsed leader, parseSharedRequest request = some parsed ∧ s.leaders[i]? = some leader ∧
      IsShared leader ∧ leader.reservation.destination = parsed.destination ∧
      leader.physicallyComplete = false := by
  unfold readSharedMarket at hjoined
  split at hjoined
  · cases hjoined
  rename_i parsed hparsed
  split at hjoined
  · cases hjoined
  split at hjoined
  · cases hjoined
  split at hjoined
  · cases hjoined
  split at hjoined
  · rename_i j hflight
    obtain rfl := Outcome.joined.inj hjoined
    rw [State.currentFlight] at hflight
    obtain ⟨k, hk, hflight⟩ := Option.bind_eq_some_iff.mp hflight
    obtain ⟨leader, hleader, hflight⟩ := Option.bind_eq_some_iff.mp hflight
    split at hflight
    · cases hflight
    · rename_i hincomplete
      obtain rfl := Option.some.inj hflight
      obtain ⟨other, hother, hshared, hd⟩ := h.flight _ _ hk
      obtain rfl := Option.some.inj (hleader.symm.trans hother)
      exact ⟨parsed, leader, hparsed, hleader, hshared, hd, by simpa using hincomplete⟩
  · simp only at hjoined
    split at hjoined
    · cases hjoined
    · cases hjoined

/-- Reads of one market share one flight: no two are in flight at once, and whoever joins waits for
the one that is. -/
theorem single_flight (policy : AdmissionPolicy) (calls : List Call) :
    let s := (machine policy).reached calls
    (∀ (i j : Nat) (leader other : LeaderExecution),
      s.leaders[i]? = some leader → s.leaders[j]? = some other →
      IsShared leader → IsShared other →
      leader.reservation.destination = other.reservation.destination →
      leader.physicallyComplete = false → other.physicallyComplete = false → i = j) ∧
    ∀ (request : Datum) (isFunction aborted : Bool) (reading : Reading) (i : Nat),
      (readSharedMarket policy s request isFunction aborted reading).1 = .joined i →
        ∃ parsed leader, parseSharedRequest request = some parsed ∧ s.leaders[i]? = some leader ∧
          IsShared leader ∧ leader.reservation.destination = parsed.destination ∧
          leader.physicallyComplete = false :=
  ⟨fun _ _ _ _ hi hj hleader hother hsame hincomplete hincomplete' =>
      shared_unique (reached_flightsSound policy calls) hi hj hleader hother hsame hincomplete
        hincomplete',
    fun _ _ _ _ _ hjoined => joined_flight (reached_flightsSound policy calls) hjoined⟩

end Joining

section Waiting

variable {policy : AdmissionPolicy} {given : Option Reading} {past ms : List Mark} {s t : State}
  {d : Destination}

/-- The circuit stays open up to a time, unless that time has come. -/
def Waits (d : Destination) (deadline : Int) (s : State) : Prop :=
  (s.circuits d).phase = .opened ∧ deadline ≤ (s.circuits d).openUntil ∨
    deadline ≤ s.lastObservedTime

variable {deadline : Int}

theorem Waits.congr (h : Waits d deadline s)
    (hcircuit : (s.circuits d).phase = .opened → t.circuits d = s.circuits d)
    (hlast : s.lastObservedTime ≤ t.lastObservedTime) : Waits d deadline t := by
  obtain ⟨hphase, huntil⟩ | hpast := h
  · refine .inl ?_
    rw [hcircuit hphase]
    exact ⟨hphase, huntil⟩
  · exact .inr (hpast.trans hlast)

/-- The end of a read changes no circuit that is open. -/
theorem recorded_opened {circuit : CircuitState} (h : circuit.phase = .opened)
    (permit : CircuitPermit) (policy : DestinationPolicy) (ok : Bool) (now : Int) :
    recorded circuit permit policy ok now = circuit := by
  by_cases hstale : circuit.generation = permit.generation
  · cases ok with
    | true =>
      rw [recorded, if_pos rfl, recordCircuitSuccess, if_neg (not_not.mpr hstale), h]
      split <;> rfl
    | false =>
      rw [recorded, if_neg Bool.false_ne_true, recordCircuitFailure, if_neg (not_not.mpr hstale), h]
      split <;> rfl
  · exact recorded_stale hstale policy ok now

/-- While a circuit is open it admits no read. -/
theorem Waits.admitted (h : Waits d deadline s) {start : Start} {permit : CircuitPermit}
    {circuit : CircuitState} (hd : start.destination = d)
    (hstart : start.startedAt = s.lastObservedTime)
    (hcircuit : reserveCircuit (s.circuits start.destination) start.startedAt =
      some (permit, circuit)) : deadline ≤ start.startedAt := by
  obtain ⟨hphase, huntil⟩ | hpast := h
  · rw [hd, reserveCircuit, hphase] at hcircuit
    simp only at hcircuit
    split at hcircuit
    · cases hcircuit
    · rename_i hover
      exact huntil.trans (not_lt.mp hover)
  · rwa [hstart]

theorem Update.waits (h : Update policy given s ms t) (hs : LeadersSound s)
    (hbooks : Books policy past s) (hwaits : Waits d deadline s) :
    Waits d deadline t ∧ ∀ start ∈ startsOf ms, start.destination = d → deadline ≤ start.startedAt := by
  have hnone : ∀ start ∈ startsOf [], start.destination = d → deadline ≤ start.startedAt :=
    fun _ hstart => (by cases hstart)
  cases h with
  | clockFault => exact ⟨hwaits.congr (fun _ => rfl) le_rfl, hnone⟩
  | observed reading now hgiven hreading hlast => exact ⟨hwaits.congr (fun _ => rfl) hlast, hnone⟩
  | purged => exact ⟨hwaits.congr (fun _ => rfl) le_rfl, hnone⟩
  | dropped => exact ⟨hwaits.congr (fun _ => rfl) le_rfl, hnone⟩
  | admitted start permit circuit listening hstart hbudgets hcircuit =>
    refine ⟨?_, fun other hother hd => ?_⟩
    · by_cases hd : start.destination = d
      · exact .inr (hstart ▸ hwaits.admitted hd hstart hcircuit)
      · exact hwaits.congr (fun _ => Function.update_of_ne (Ne.symm hd) _ _) le_rfl
    · rw [List.mem_singleton.mp hother] at hd ⊢
      exact hwaits.admitted hd hstart hcircuit
  | turned => exact ⟨hwaits.congr (fun _ => rfl) le_rfl, hnone⟩
  | neutral => exact ⟨hwaits.congr (fun _ => rfl) le_rfl, hnone⟩
  | decided i leader outcome ok hi =>
    refine ⟨hwaits.congr (fun hphase => ?_) le_rfl, hnone⟩
    change Function.update s.circuits leader.reservation.destination _ d = _
    by_cases hd : leader.reservation.destination = d
    · subst hd
      rw [Function.update_self, recorded_opened hphase]
    · rw [Function.update_of_ne (Ne.symm hd)]
  | released i leader hi hsettled hincomplete =>
    rw [finishPhysical_eq hbooks hs hi hincomplete]
    refine ⟨hwaits.congr (fun hphase => ?_) le_rfl, hnone⟩
    change (State.free s leader.reservation).circuits d = _
    simp only [State.free]
    split
    · by_cases hd : leader.reservation.destination = d
      · subst hd
        rw [Function.update_self, releaseNeutralCircuitPermit]
        refine if_neg fun hhalf => ?_
        rw [hphase] at hhalf
        cases hhalf.2.1
      · rw [Function.update_of_ne (Ne.symm hd)]
    · rfl

/-- Once a circuit is open, no read for its destination starts before the time that it is open
until. -/
theorem opened_waits (policy : AdmissionPolicy) (calls more : List Call) (d : Destination)
    (hopened : (((machine policy).reached calls).circuits d).phase = .opened) :
    ∀ start ∈ admissions ((machine policy).events ((machine policy).reached calls) more),
      start.destination = d →
        (((machine policy).reached calls).circuits d).openUntil ≤ start.startedAt := by
  let s := (machine policy).reached calls
  let past := history ((machine policy).trace calls)
  let deadline := (s.circuits d).openUntil
  have hsound := reached_leadersSound policy calls
  have hrun := run_preserves policy
    (I := fun past' t => ∃ added, past' = past ++ added ∧ Books policy past' t ∧
      Waits d deadline t ∧ ∀ start ∈ startsOf added, start.destination = d →
        deadline ≤ start.startedAt)
    (fun hs h hupdate => by
      obtain ⟨added, rfl, hbooks, hwaits, hadded⟩ := h
      obtain ⟨hwaits', hnew⟩ := Update.waits hupdate hs hbooks hwaits
      refine ⟨_, List.append_assoc .., Update.books hupdate hs hbooks, hwaits', ?_⟩
      intro start hstart
      rw [startsOf_append] at hstart
      exact (List.mem_append.mp hstart).elim (hadded start) (hnew start))
    past hsound
    (show ∃ added, past = past ++ added ∧ Books policy past s ∧ Waits d deadline s ∧
        ∀ start ∈ startsOf added, start.destination = d → deadline ≤ start.startedAt from
      ⟨[], (List.append_nil _).symm, reached_books policy calls, .inl ⟨hopened, le_rfl⟩,
        fun _ hstart => (by cases hstart)⟩)
    more
  obtain ⟨added, hadded, _, _, hstarts⟩ := hrun
  rw [← startsOf_history hsound more, List.append_cancel_left hadded]
  exact hstarts

end Waiting

section Circuits

variable {policy : AdmissionPolicy}

/-- A closed circuit counts the failures since the last success of its generation, fewer than open
it. Any other was opened by a failure that made them enough, or by that of a probe, and its time is
counted from then. -/
theorem circuit_shows_history (policy : AdmissionPolicy) (calls : List Call) (d : Destination) :
    let circuit := ((machine policy).reached calls).circuits d
    let past := history ((machine policy).trace calls)
    (circuit.phase = .closed →
      circuit.consecutiveFailures = streak (closedEnds d circuit.generation past) ∧
        (0 < (policy.destinations d).circuitFailureThreshold →
          circuit.consecutiveFailures < (policy.destinations d).circuitFailureThreshold)) ∧
      (circuit.phase ≠ .closed → OpenedBy policy d circuit past) :=
  have hsound := reached_circuitsSound policy calls d
  ⟨hsound.closed, hsound.opened⟩

/-- Under a policy that was parsed, the circuit of a destination that allows reads is closed only
while fewer reads in a row failed than open it, and takes a failure to open. -/
theorem parsed_circuit_bounded {value : Datum} {policy : AdmissionPolicy}
    (hpolicy : parsePolicy value = some policy) (calls : List Call) {d : Destination}
    (hd : 0 < (policy.destinations d).maximumConcurrentRequests) :
    let circuit := ((machine policy).reached calls).circuits d
    let past := history ((machine policy).trace calls)
    (circuit.phase = .closed → streak (closedEnds d circuit.generation past) <
      (policy.destinations d).circuitFailureThreshold) ∧
      (circuit.phase ≠ .closed → ∃ permit now, .decided d permit false now ∈ past) := by
  have hsound := reached_circuitsSound policy calls d
  have henabled := (parsePolicy_accepted hpolicy).enabled hd
  refine ⟨fun hclosed => ?_, fun hopened => ?_⟩
  · obtain ⟨hfailures, hbelow⟩ := hsound.closed hclosed
    rw [← hfailures]
    exact hbelow henabled.threshold.1
  · obtain ⟨_, permit, now, _, hpast, _⟩ := hsound.opened hopened
    rw [hpast]
    exact ⟨permit, now, List.mem_append_right _ List.mem_cons_self⟩

theorem reserveCircuit_halfOpen {circuit : CircuitState} (h : circuit.phase = .halfOpen)
    (now : Int) : reserveCircuit circuit now = none ↔ circuit.halfOpenProbeInFlight = true := by
  rw [reserveCircuit, h]
  simp only [reserveProbe]
  split
  · rename_i hflag
    exact iff_of_true rfl hflag
  · rename_i hflag
    exact iff_of_false (fun h => (by cases h)) hflag

/-- A half-open circuit has one probe at most, and it admits another once that one is released. -/
theorem halfOpen_probe (policy : AdmissionPolicy) (calls : List Call) (d : Destination) (now : Int)
    (hphase : (((machine policy).reached calls).circuits d).phase = .halfOpen) :
    let s := (machine policy).reached calls
    let circuit := s.circuits d
    s.leaders.countP (isProbe d circuit) ≤ 1 ∧
      (reserveCircuit circuit now = none ↔ ∃ leader ∈ s.leaders,
        leader.reservation.destination = d ∧
        leader.reservation.circuitPermit = ⟨circuit.generation, true⟩ ∧
        leader.physicallyComplete = false) := by
  intro s circuit
  have hprobe := (reached_circuitsSound policy calls d).probe
  have hsound := reached_leadersSound policy calls
  have hcount : s.leaders.countP (isProbe d circuit) =
      if circuit.halfOpenProbeInFlight then 1 else 0 := hprobe
  have hheld : ∀ leader ∈ s.leaders, (isProbe d circuit leader = true ↔
      leader.reservation.destination = d ∧
        leader.reservation.circuitPermit = ⟨circuit.generation, true⟩ ∧
        leader.physicallyComplete = false) := by
    intro leader hleader
    rw [(hsound leader hleader).complete]
    simp [isProbe, and_assoc]
  refine ⟨?_, ?_⟩
  · rw [hcount]
    split <;> omega
  · have hpositive : circuit.halfOpenProbeInFlight = true ↔
        0 < s.leaders.countP (isProbe d circuit) := by
      rw [hcount]
      cases circuit.halfOpenProbeInFlight <;> simp
    rw [reserveCircuit_halfOpen hphase, hpositive, List.countP_pos_iff]
    constructor
    · rintro ⟨leader, hleader, hprobe⟩
      exact ⟨leader, hleader, (hheld leader hleader).mp hprobe⟩
    · rintro ⟨leader, hleader, hprobe⟩
      exact ⟨leader, hleader, (hheld leader hleader).mpr hprobe⟩

theorem halfOpen_probe_sample :
    let s := (machine samplePolicy).reached (sampleCalls ++ [sampleRead 3200])
    let circuit := s.circuits .aaveV3EthereumMarket
    s.leaders.countP (isProbe .aaveV3EthereumMarket circuit) ≤ 1 ∧
      (reserveCircuit circuit 3300 = none ↔ ∃ leader ∈ s.leaders,
        leader.reservation.destination = .aaveV3EthereumMarket ∧
        leader.reservation.circuitPermit = ⟨circuit.generation, true⟩ ∧
        leader.physicallyComplete = false) :=
  halfOpen_probe samplePolicy (sampleCalls ++ [sampleRead 3200]) .aaveV3EthereumMarket 3300 rfl

end Circuits

end CryptoLending.SmartLending.UpstreamReadGuarantee
