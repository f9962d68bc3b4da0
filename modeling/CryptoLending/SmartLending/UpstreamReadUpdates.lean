import CryptoLending.SmartLending.UpstreamReadAdmission

namespace CryptoLending.SmartLending.UpstreamReadUpdates

open Lib Lib.JsObject UpstreamReadPolicy UpstreamReadAdmission

abbrev Event := Machine.Event Call Outcome State

/-- What a call leaves in the history: a read was admitted, or the circuit took note of how an
operation ended. -/
inductive Mark where
  | started (start : Start) (permit : CircuitPermit)
  | decided (destination : Destination) (permit : CircuitPermit) (ok : Bool) (now : Int)

section Marks

def startedMark (outcome : Outcome) (after : State) : List Mark :=
  match outcome with
  | .admitted i start =>
    (after.leaders[i]?).toList.map fun leader => .started start leader.reservation.circuitPermit
  | _ => []

def decidedMark (before after : State) (i : Nat) (ok : Bool) : List Mark :=
  match before.leaders[i]?, after.leaders[i]? with
  | some leader, some leader' =>
    if leader.reservation.circuitDisposition = .pending ∧
        leader'.reservation.circuitDisposition = .recorded then
      [.decided leader.reservation.destination leader.reservation.circuitPermit ok
        after.lastObservedTime]
    else []
  | _, _ => []

def marks (e : Event) : List Mark :=
  match e.call with
  | .readSharedMarket .. => startedMark e.outcome e.after
  | .readAccountScoped .. => startedMark e.outcome e.after
  | .operationSettled i ok _ => decidedMark e.before e.after i ok
  | .timeout i _ => decidedMark e.before e.after i false
  | _ => []

def history (events : List Event) : List Mark := events.flatMap marks

end Marks

section Updates

variable (policy : AdmissionPolicy) (given : Option Reading)

/-- The reading of the clock that a call has. -/
def Call.reading : Call → Option Reading
  | .readSharedMarket _ _ _ reading => some reading
  | .readAccountScoped _ _ _ _ reading => some reading
  | .operationSettled _ _ reading => some reading
  | .timeout _ reading => some reading
  | _ => none

def LeaderExecution.settle (leader : LeaderExecution) (disposition : CircuitDisposition)
    (outcome : UpstreamOutcome) : LeaderExecution :=
  { leader with
    logicalSettled := true
    callerListening := false
    reservation := { leader.reservation with circuitDisposition := disposition }
    outcome := some outcome }

def LeaderExecution.complete (leader : LeaderExecution) : LeaderExecution :=
  { leader with
    physicallyComplete := true
    reservation := { leader.reservation with physicalReleased := true } }

/-- The turn of an operation, which starts unless its read was settled before. -/
def LeaderExecution.turn (leader : LeaderExecution) : LeaderExecution :=
  { leader with turned := true, operationStarted := !leader.logicalSettled }

/-- What a circuit makes of the end of an operation. -/
def recorded (circuit : CircuitState) (permit : CircuitPermit) (policy : DestinationPolicy)
    (ok : Bool) (now : Int) : CircuitState :=
  if ok then recordCircuitSuccess circuit permit else recordCircuitFailure circuit permit policy now

/-- A reservation of a read that is admitted. -/
def reservationOf (start : Start) (permit : CircuitPermit) : Reservation where
  destination := start.destination
  workloadUnits := start.workloadUnits
  accountId := start.accountId
  circuitPermit := permit
  circuitDisposition := .pending
  physicalReleased := false

/-- The state once a read is admitted, which others may join if it is not of an account. -/
def State.accept (s : State) (start : Start) (permit : CircuitPermit) (circuit : CircuitState)
    (listening : Bool) : State :=
  { (s.book start.destination start.workloadUnits start.accountId circuit
      start.startedAt).startLeader (reservationOf start permit) listening with
    sharedFlights :=
      if start.accountId = none then s.sharedFlights.set start.destination s.leaders.length
      else s.sharedFlights }

/-- What a single change of the state does. -/
inductive Update : State → List Mark → State → Prop
  | clockFault (s : State) (reading : Reading) (hgiven : given = some reading)
      (hreading : (s.now reading).1 = none) : Update s [] { s with clockHealthy := false }
  | observed (s : State) (reading : Reading) (now : Int) (hgiven : given = some reading)
      (hreading : s.now reading = (some now, { s with lastObservedTime := now }))
      (hlast : s.lastObservedTime ≤ now) : Update s [] { s with lastObservedTime := now }
  | purged (s : State) (destination : Destination) (accountId : Option AccountId) :
      Update s [] (s.purge policy destination accountId s.lastObservedTime)
  | dropped (s : State) (destination : Destination)
      (hcomplete : ∀ i leader, s.sharedFlights.get destination = some i →
        s.leaders[i]? = some leader → leader.physicallyComplete = true) :
      Update s [] { s with sharedFlights := s.sharedFlights.delete destination }
  | admitted (s : State) (start : Start) (permit : CircuitPermit) (circuit : CircuitState)
      (listening : Bool)
      (hstart : start.startedAt = s.lastObservedTime)
      (hbudgets : s.budgetRefusal policy start.destination start.workloadUnits start.accountId = none)
      (hcircuit : reserveCircuit (s.circuits start.destination) start.startedAt =
        some (permit, circuit))
      (hflight : start.accountId = none → s.sharedFlights.get start.destination = none) :
      Update s [.started start permit] (State.accept s start permit circuit listening)
  | turned (s : State) (i : Nat) (leader : LeaderExecution) (hleader : s.leaders[i]? = some leader)
      (hturned : leader.turned = false) :
      Update s [] (s.setLeader i (LeaderExecution.turn leader))
  | neutral (s : State) (i : Nat) (leader : LeaderExecution) (outcome : UpstreamOutcome)
      (hleader : s.leaders[i]? = some leader) (hsettled : leader.logicalSettled = false) :
      Update s [] (s.setLeader i (LeaderExecution.settle leader .neutral outcome))
  | decided (s : State) (i : Nat) (leader : LeaderExecution) (outcome : UpstreamOutcome) (ok : Bool)
      (hleader : s.leaders[i]? = some leader) (hsettled : leader.logicalSettled = false)
      (hstarted : leader.operationStarted = true) :
      Update s [.decided leader.reservation.destination leader.reservation.circuitPermit ok
          s.lastObservedTime]
        ((s.setCircuit leader.reservation.destination
          (recorded (s.circuits leader.reservation.destination) leader.reservation.circuitPermit
            (policy.destinations leader.reservation.destination) ok s.lastObservedTime)).setLeader i
            (LeaderExecution.settle leader .recorded outcome))
  | released (s : State) (i : Nat) (leader : LeaderExecution) (hleader : s.leaders[i]? = some leader)
      (hsettled : leader.logicalSettled = true) (hcomplete : leader.physicallyComplete = false) :
      Update s [] (finishPhysical s i leader)

/-- One change after another. -/
inductive Updates : State → List Mark → State → Prop
  | refl (s : State) : Updates s [] s
  | tail {s t u : State} {ms ns : List Mark} (hs : Updates s ms t) (h : Update policy given t ns u) :
      Updates s (ms ++ ns) u

variable {policy given} {s t u : State} {ms ns : List Mark}

theorem Update.single (h : Update policy given s ms t) : Updates policy given s ms t :=
  .tail (.refl s) h

theorem Updates.trans (hs : Updates policy given s ms t) (ht : Updates policy given t ns u) :
    Updates policy given s (ms ++ ns) u := by
  induction ht with
  | refl => rwa [List.append_nil]
  | tail _ h ih =>
    rw [← List.append_assoc]
    exact .tail ih h

/-- What every change preserves is preserved. -/
theorem Updates.preserves {I : List Mark → State → Prop}
    (hstep : ∀ {past s ms t}, I past s → Update policy given s ms t → I (past ++ ms) t)
    (past : List Mark) (h : Updates policy given s ms t) (hs : I past s) : I (past ++ ms) t := by
  induction h with
  | refl => rwa [List.append_nil]
  | tail _ h ih =>
    rw [← List.append_assoc]
    exact hstep ih h

end Updates

section Leaders

/-- The lifecycle of a read: it starts or is settled at its turn, its caller is listened to until it
is settled, and it completes after that; without a start it completes at once. -/
structure LeaderSound (leader : LeaderExecution) : Prop where
  complete : leader.physicallyComplete = leader.reservation.physicalReleased
  settled : leader.logicalSettled = decide (leader.reservation.circuitDisposition ≠ .pending)
  started : leader.operationStarted = true → leader.turned = true
  turned : leader.turned = true → leader.operationStarted = true ∨ leader.logicalSettled = true
  released : leader.physicallyComplete = true → leader.logicalSettled = true
  listening : leader.callerListening = true → leader.logicalSettled = false

def LeadersSound (s : State) : Prop := ∀ leader ∈ s.leaders, LeaderSound leader

variable {s : State} {i : Nat} {leader leader' : LeaderExecution}

theorem LeadersSound.get (h : LeadersSound s) (hi : s.leaders[i]? = some leader) :
    LeaderSound leader := h leader (List.mem_of_getElem? hi)

theorem LeadersSound.setLeader (h : LeadersSound s) (hleader : LeaderSound leader) :
    LeadersSound (s.setLeader i leader) := by
  intro l hl
  obtain hl | rfl := List.mem_or_eq_of_mem_set hl
  · exact h l hl
  · exact hleader

theorem LeaderSound.pending (h : LeaderSound leader) (hsettled : leader.logicalSettled = false) :
    leader.reservation.circuitDisposition = .pending := by
  have hdisposition := h.settled
  rw [hsettled] at hdisposition
  simpa using hdisposition.symm

theorem newLeader_sound (start : Start) (permit : CircuitPermit) (listening : Bool) :
    LeaderSound (newLeader (reservationOf start permit) listening) where
  complete := rfl
  settled := rfl
  started h := (by cases h)
  turned h := (by cases h)
  released h := (by cases h)
  listening _ := rfl

theorem LeaderSound.settle (h : LeaderSound leader) {disposition : CircuitDisposition}
    (hdisposition : disposition ≠ .pending) (outcome : UpstreamOutcome) :
    LeaderSound (LeaderExecution.settle leader disposition outcome) where
  complete := h.complete
  settled := by simp [LeaderExecution.settle, hdisposition]
  started := h.started
  turned _ := .inr rfl
  released _ := rfl
  listening hlistening := (by cases hlistening)

theorem LeaderSound.turn (h : LeaderSound leader) : LeaderSound (LeaderExecution.turn leader) where
  complete := h.complete
  settled := h.settled
  started _ := rfl
  turned _ := by
    cases hsettled : leader.logicalSettled with
    | false => exact .inl (by simp [LeaderExecution.turn, hsettled])
    | true => exact .inr hsettled
  released := h.released
  listening := h.listening

theorem LeaderSound.completed (h : LeaderSound leader) (hsettled : leader.logicalSettled = true) :
    LeaderSound (LeaderExecution.complete leader) where
  complete := rfl
  settled := h.settled
  started := h.started
  turned := h.turned
  released _ := hsettled
  listening := h.listening

end Leaders

section Finishing

variable {policy : AdmissionPolicy} {given : Option Reading} {s : State} {i : Nat}
  {leader : LeaderExecution}

/-- A release changes the leaders in one place. -/
theorem leaders_finishPhysical (s : State) (i : Nat) (leader : LeaderExecution)
    (hcomplete : leader.physicallyComplete = false) :
    (finishPhysical s i leader).leaders = s.leaders.set i (LeaderExecution.complete leader) := by
  have hbudgets : (releaseBudgets s leader.reservation).1.leaders = s.leaders := by
    simp only [releaseBudgets]
    split
    · rfl
    · split
      · rfl
      · split
        · rfl
        · split
          · rfl
          · rfl
  have hleaders : (releasePhysicalReservation s leader.reservation).1.leaders = s.leaders := by
    rw [releasePhysicalReservation]
    split
    · rfl
    · split
      · rename_i h
        rw [← hbudgets, h]
      · rename_i h
        rw [← hbudgets, h]
        split
        · rfl
        · rfl
  rw [finishPhysical, if_neg (by simp [hcomplete])]
  split
  · rename_i h
    rw [← hleaders, h]
    rfl
  · rename_i h
    rw [← hleaders, h]
    rfl

theorem Update.leadersSound {ms : List Mark} {t : State} (h : Update policy given s ms t)
    (hs : LeadersSound s) : LeadersSound t := by
  cases h with
  | clockFault => exact hs
  | observed => exact hs
  | purged => exact hs
  | dropped => exact hs
  | admitted start permit circuit listening =>
    intro l hl
    obtain hl | hl := List.mem_append.mp hl
    · exact hs l hl
    · rw [List.mem_singleton.mp hl]
      exact newLeader_sound start permit listening
  | turned i leader hi => exact hs.setLeader (hs.get hi).turn
  | neutral i leader outcome hi =>
    exact hs.setLeader ((hs.get hi).settle (fun h => (by cases h)) outcome)
  | decided i leader outcome ok hi =>
    exact LeadersSound.setLeader hs ((hs.get hi).settle (fun h => (by cases h)) outcome)
  | released i leader hi hsettled hcomplete =>
    intro l hl
    rw [leaders_finishPhysical s i leader hcomplete] at hl
    obtain hl | rfl := List.mem_or_eq_of_mem_set hl
    · exact hs l hl
    · exact (hs.get hi).completed hsettled

theorem Updates.leadersSound {ms : List Mark} {t : State} (h : Updates policy given s ms t)
    (hs : LeadersSound s) : LeadersSound t :=
  Updates.preserves (I := fun _ => LeadersSound) (fun hs h => h.leadersSound hs) [] h hs

end Finishing

end CryptoLending.SmartLending.UpstreamReadUpdates
