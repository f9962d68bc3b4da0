import CryptoLending.SmartLending.UpstreamReadBooks

namespace CryptoLending.SmartLending.UpstreamReadCircuits

open Lib UpstreamReadPolicy UpstreamReadAdmission UpstreamReadUpdates UpstreamReadSteps
  UpstreamReadBooks

section Ends

/-- How the reads ended that a circuit admitted while it was closed in a generation. -/
def closedEnds (d : Destination) (generation : Nat) (past : List Mark) : List Bool :=
  past.filterMap fun
    | .started .. => none
    | .decided destination permit ok _ =>
      if destination = d ∧ permit = ⟨generation, false⟩ then some ok else none

/-- How many of the last ends are failures. -/
def streak (ends : List Bool) : Nat := (ends.reverse.takeWhile not).length

variable {d : Destination} {generation : Nat} {past : List Mark}

theorem closedEnds_append (past ms : List Mark) :
    closedEnds d generation (past ++ ms) = closedEnds d generation past ++
      closedEnds d generation ms := List.filterMap_append

theorem closedEnds_decided (past : List Mark) {destination : Destination}
    {permit : CircuitPermit} {ok : Bool} {now : Int} : closedEnds d generation (past ++ [.decided destination permit ok now]) =
      closedEnds d generation past ++
        if destination = d ∧ permit = ⟨generation, false⟩ then [ok] else [] := by
  rw [closedEnds_append]
  congr 1
  by_cases h : destination = d ∧ permit = ⟨generation, false⟩
  · simp [closedEnds, h]
  · simp [closedEnds, h]

theorem streak_success (ends : List Bool) : streak (ends ++ [true]) = 0 := by
  rw [streak, List.reverse_append]
  rfl

theorem streak_failure (ends : List Bool) : streak (ends ++ [false]) = streak ends + 1 := by
  rw [streak, List.reverse_append]
  rfl

end Ends

section Soundness

/-- A read that holds the probe of the half-open circuit. -/
def isProbe (d : Destination) (circuit : CircuitState) (leader : LeaderExecution) : Bool :=
  decide (leader.reservation.destination = d) &&
    decide (leader.reservation.circuitPermit = ⟨circuit.generation, true⟩) &&
      !leader.reservation.physicalReleased

/-- The failed end that a circuit was opened by: of a probe, or of the last of as many reads in a
row as open it. -/
def OpenedBy (policy : AdmissionPolicy) (d : Destination) (circuit : CircuitState)
    (past : List Mark) : Prop :=
  ∃ before permit now after, past = before ++ .decided d permit false now :: after ∧
    permit.generation + 1 = circuit.generation ∧
    circuit.openUntil = openDeadline (policy.destinations d) now ∧
    (permit.halfOpen = true ∨ (policy.destinations d).circuitFailureThreshold ≤
      streak (closedEnds d permit.generation (before ++ [.decided d permit false now])))

/-- A circuit beside the reads so far and the permits that they hold. -/
structure CircuitSound (policy : AdmissionPolicy) (past : List Mark) (leaders : List LeaderExecution)
    (d : Destination) (circuit : CircuitState) : Prop where
  generations : ∀ leader ∈ leaders, leader.reservation.destination = d →
    leader.reservation.circuitPermit.generation ≤ circuit.generation
  phases : ∀ leader ∈ leaders, leader.reservation.destination = d →
    leader.reservation.circuitPermit.generation = circuit.generation →
      circuit.phase = if leader.reservation.circuitPermit.halfOpen then .halfOpen else .closed
  undecided : ∀ leader ∈ leaders, leader.reservation.destination = d →
    leader.reservation.circuitPermit = ⟨circuit.generation, true⟩ →
      leader.reservation.circuitDisposition ≠ .recorded
  ends : ∀ generation, circuit.generation < generation → closedEnds d generation past = []
  probe : leaders.countP (isProbe d circuit) = if circuit.halfOpenProbeInFlight then 1 else 0
  flag : circuit.halfOpenProbeInFlight = true → circuit.phase = .halfOpen
  closed : circuit.phase = .closed →
    circuit.consecutiveFailures = streak (closedEnds d circuit.generation past) ∧
      (0 < (policy.destinations d).circuitFailureThreshold →
        circuit.consecutiveFailures < (policy.destinations d).circuitFailureThreshold)
  opened : circuit.phase ≠ .closed → OpenedBy policy d circuit past

variable {policy : AdmissionPolicy} {past ms : List Mark} {leaders : List LeaderExecution}
  {d : Destination} {circuit circuit' : CircuitState} {i : Nat} {leader leader' : LeaderExecution}

theorem OpenedBy.append (h : OpenedBy policy d circuit past) (ms : List Mark) :
    OpenedBy policy d circuit (past ++ ms) := by
  obtain ⟨before, permit, now, after, rfl, hopened⟩ := h
  exact ⟨before, permit, now, after ++ ms, List.append_assoc .., hopened⟩

theorem OpenedBy.congr (h : OpenedBy policy d circuit past)
    (hgeneration : circuit'.generation = circuit.generation)
    (huntil : circuit'.openUntil = circuit.openUntil) : OpenedBy policy d circuit' past := by
  obtain ⟨before, permit, now, after, hpast, hopened⟩ := h
  refine ⟨before, permit, now, after, hpast, ?_⟩
  rwa [hgeneration, huntil]

/-- The ends of reads for another destination or of another generation do not count. -/
theorem CircuitSound.append (h : CircuitSound policy past leaders d circuit) (ms : List Mark)
    (hends : ∀ generation, circuit.generation ≤ generation → closedEnds d generation ms = []) :
    CircuitSound policy (past ++ ms) leaders d circuit where
  generations := h.generations
  phases := h.phases
  undecided := h.undecided
  ends generation hlt := by
    rw [closedEnds_append, h.ends generation hlt, hends generation hlt.le, List.append_nil]
  probe := h.probe
  flag := h.flag
  closed hclosed := by
    rw [closedEnds_append, hends _ le_rfl, List.append_nil]
    exact h.closed hclosed
  opened hopened := (h.opened hopened).append ms

theorem countP_set_probe (hi : leaders[i]? = some leader) (leader' : LeaderExecution)
    (d : Destination) (circuit : CircuitState) :
    (leaders.set i leader').countP (isProbe d circuit) +
        (if isProbe d circuit leader then 1 else 0) =
      leaders.countP (isProbe d circuit) + if isProbe d circuit leader' then 1 else 0 := by
  obtain ⟨before, after, hsplit, hset⟩ := UpstreamReadBudgets.split_leader hi
  rw [hset, hsplit, List.countP_append, List.countP_append, List.countP_cons, List.countP_cons]
  omega

/-- A leader of the same reservation, up to how it is decided. -/
theorem CircuitSound.set (h : CircuitSound policy past leaders d circuit)
    (hi : leaders[i]? = some leader)
    (hdestination : leader'.reservation.destination = leader.reservation.destination)
    (hpermit : leader'.reservation.circuitPermit = leader.reservation.circuitPermit)
    (hundecided : leader'.reservation.destination = d →
      leader'.reservation.circuitPermit = ⟨circuit.generation, true⟩ →
        leader'.reservation.circuitDisposition ≠ .recorded)
    (hprobe : isProbe d circuit leader' = isProbe d circuit leader) :
    CircuitSound policy past (leaders.set i leader') d circuit := by
  have hleader := List.mem_of_getElem? hi
  refine ⟨?_, ?_, ?_, h.ends, ?_, h.flag, h.closed, h.opened⟩
  · intro l hl
    obtain hl | rfl := List.mem_or_eq_of_mem_set hl
    · exact h.generations l hl
    · rw [hdestination, hpermit]
      exact h.generations leader hleader
  · intro l hl
    obtain hl | rfl := List.mem_or_eq_of_mem_set hl
    · exact h.phases l hl
    · rw [hdestination, hpermit]
      exact h.phases leader hleader
  · intro l hl
    obtain hl | rfl := List.mem_or_eq_of_mem_set hl
    · exact h.undecided l hl
    · exact hundecided
  · have hcount := countP_set_probe hi leader' d circuit
    rw [hprobe] at hcount
    rw [← h.probe]
    omega

end Soundness

section Admitting

variable {policy : AdmissionPolicy} {past : List Mark} {leaders : List LeaderExecution}
  {d : Destination} {circuit circuit' : CircuitState} {leader : LeaderExecution}

/-- A leader for another destination. -/
theorem CircuitSound.other (h : CircuitSound policy past leaders d circuit)
    (hother : leader.reservation.destination ≠ d) :
    CircuitSound policy past (leaders ++ [leader]) d circuit where
  generations l hl hd := by
    obtain hl | hl := List.mem_append.mp hl
    · exact h.generations l hl hd
    · exact absurd (List.mem_singleton.mp hl ▸ hd) hother
  phases l hl hd := by
    obtain hl | hl := List.mem_append.mp hl
    · exact h.phases l hl hd
    · exact absurd (List.mem_singleton.mp hl ▸ hd) hother
  undecided l hl hd := by
    obtain hl | hl := List.mem_append.mp hl
    · exact h.undecided l hl hd
    · exact absurd (List.mem_singleton.mp hl ▸ hd) hother
  ends := h.ends
  probe := by
    rw [List.countP_append, h.probe]
    simp [isProbe, hother]
  flag := h.flag
  closed := h.closed
  opened := h.opened

/-- A circuit that gives its probe to a new leader was not opened again, and no other has it. -/
theorem CircuitSound.probed (h : CircuitSound policy past leaders d circuit)
    (hphase : circuit.phase ≠ .closed) (hfree : circuit.halfOpenProbeInFlight = false)
    (hgeneration : circuit'.generation = circuit.generation)
    (huntil : circuit'.openUntil = circuit.openUntil) (hphase' : circuit'.phase = .halfOpen)
    (hflag : circuit'.halfOpenProbeInFlight = true)
    (hdestination : leader.reservation.destination = d)
    (hpermit : leader.reservation.circuitPermit = ⟨circuit.generation, true⟩)
    (hpending : leader.reservation.circuitDisposition = .pending)
    (hheld : leader.reservation.physicalReleased = false) :
    CircuitSound policy past (leaders ++ [leader]) d circuit' := by
  have hcongr : isProbe d circuit' = isProbe d circuit := by
    funext l
    rw [isProbe, isProbe, hgeneration]
  refine ⟨?_, ?_, ?_, ?_, ?_, fun _ => hphase', ?_, fun _ => (h.opened hphase).congr hgeneration huntil⟩
  · intro l hl hd
    rw [hgeneration]
    obtain hl | hl := List.mem_append.mp hl
    · exact h.generations l hl hd
    · rw [List.mem_singleton.mp hl, hpermit]
  · intro l hl hd hcurrent
    rw [hgeneration] at hcurrent
    rw [hphase']
    obtain hl | hl := List.mem_append.mp hl
    · have hphases := h.phases l hl hd hcurrent
      cases hhalf : l.reservation.circuitPermit.halfOpen with
      | true => rfl
      | false =>
        rw [hhalf] at hphases
        exact absurd hphases hphase
    · rw [List.mem_singleton.mp hl, hpermit]
      rfl
  · intro l hl hd hcurrent
    rw [hgeneration] at hcurrent
    obtain hl | hl := List.mem_append.mp hl
    · exact h.undecided l hl hd hcurrent
    · rw [List.mem_singleton.mp hl, hpending]
      exact fun hrecorded => (by cases hrecorded)
  · rw [hgeneration]
    exact h.ends
  · rw [hcongr, List.countP_append, h.probe, hfree, hflag]
    simp [isProbe, hdestination, hpermit, hheld]
  · intro hclosed
    rw [hphase'] at hclosed
    cases hclosed

/-- A circuit that admits a read knows of the permit that it gave. -/
theorem CircuitSound.reserved (h : CircuitSound policy past leaders d circuit) {now : Int}
    {permit : CircuitPermit} (hreserve : reserveCircuit circuit now = some (permit, circuit'))
    (hdestination : leader.reservation.destination = d)
    (hpermit : leader.reservation.circuitPermit = permit)
    (hpending : leader.reservation.circuitDisposition = .pending)
    (hheld : leader.reservation.physicalReleased = false) :
    CircuitSound policy past (leaders ++ [leader]) d circuit' := by
  rw [reserveCircuit] at hreserve
  split at hreserve
  · rename_i hphase
    split at hreserve
    · cases hreserve
    · rw [reserveProbe, if_neg Bool.false_ne_true] at hreserve
      obtain ⟨rfl, rfl⟩ := Prod.mk.inj (Option.some.inj hreserve)
      have hfree : circuit.halfOpenProbeInFlight = false := by
        cases hflag : circuit.halfOpenProbeInFlight with
        | false => rfl
        | true =>
          have hhalf := h.flag hflag
          rw [hphase] at hhalf
          cases hhalf
      exact h.probed (fun hc => by rw [hphase] at hc; cases hc) hfree rfl rfl rfl rfl hdestination
        hpermit hpending hheld
  · rename_i hphase
    rw [reserveProbe] at hreserve
    split at hreserve
    · cases hreserve
    · rename_i hfree
      obtain ⟨rfl, rfl⟩ := Prod.mk.inj (Option.some.inj hreserve)
      exact h.probed (fun hc => by rw [hphase] at hc; cases hc) (Bool.not_eq_true _ ▸ hfree) rfl rfl
        hphase rfl hdestination hpermit hpending hheld
  · rename_i hphase
    obtain ⟨rfl, rfl⟩ := Prod.mk.inj (Option.some.inj hreserve)
    refine ⟨?_, ?_, ?_, h.ends, ?_, h.flag, h.closed, h.opened⟩
    · intro l hl hd
      obtain hl | hl := List.mem_append.mp hl
      · exact h.generations l hl hd
      · rw [List.mem_singleton.mp hl, hpermit]
    · intro l hl hd hcurrent
      obtain hl | hl := List.mem_append.mp hl
      · exact h.phases l hl hd hcurrent
      · rw [List.mem_singleton.mp hl, hpermit]
        exact hphase
    · intro l hl hd hcurrent
      obtain hl | hl := List.mem_append.mp hl
      · exact h.undecided l hl hd hcurrent
      · rw [List.mem_singleton.mp hl, hpending]
        exact fun hrecorded => (by cases hrecorded)
    · rw [List.countP_append, h.probe]
      simp [isProbe, hpermit]

end Admitting

section Deciding

variable {policy : AdmissionPolicy} {past past' : List Mark} {leaders : List LeaderExecution}
  {d : Destination} {circuit circuit' : CircuitState} {i : Nat} {leader : LeaderExecution}

/-- No permit of a new generation was given yet. -/
theorem CircuitSound.renewed (h : CircuitSound policy past leaders d circuit)
    (hends : ∀ generation, circuit.generation < generation → closedEnds d generation past' = [])
    (hgeneration : circuit'.generation = circuit.generation + 1)
    (hflag : circuit'.halfOpenProbeInFlight = false)
    (hclosed : circuit'.phase = .closed → circuit'.consecutiveFailures = 0)
    (hopened : circuit'.phase ≠ .closed → OpenedBy policy d circuit' past') :
    CircuitSound policy past' leaders d circuit' := by
  have hold : ∀ l ∈ leaders, l.reservation.destination = d →
      l.reservation.circuitPermit.generation ≠ circuit'.generation := by
    intro l hl hd
    have hle := h.generations l hl hd
    omega
  refine ⟨?_, ?_, ?_, ?_, ?_, ?_, ?_, hopened⟩
  · intro l hl hd
    have hle := h.generations l hl hd
    omega
  · intro l hl hd hcurrent
    exact absurd hcurrent (hold l hl hd)
  · intro l hl hd hcurrent
    exact absurd (congrArg CircuitPermit.generation hcurrent) (hold l hl hd)
  · intro generation hlt
    exact hends generation (by omega)
  · rw [hflag, if_neg Bool.false_ne_true]
    apply List.countP_eq_zero.mpr
    intro l hl hprobe
    simp only [isProbe, Bool.and_eq_true, decide_eq_true_eq] at hprobe
    exact hold l hl hprobe.1.1 (congrArg CircuitPermit.generation hprobe.1.2)
  · intro htrue
    rw [hflag] at htrue
    cases htrue
  · intro hphase
    rw [hends circuit'.generation (by omega), hclosed hphase]
    exact ⟨rfl, id⟩

theorem recorded_stale {permit : CircuitPermit} (h : circuit.generation ≠ permit.generation)
    (policy : DestinationPolicy) (ok : Bool) (now : Int) :
    recorded circuit permit policy ok now = circuit := by
  cases ok with
  | true => exact if_pos h
  | false => exact if_pos h

/-- The end of a read that a closed circuit admitted in its generation. -/
theorem CircuitSound.counted (h : CircuitSound policy past leaders d circuit)
    (hphase : circuit.phase = .closed) (ok : Bool) (now : Int) :
    CircuitSound policy (past ++ [.decided d ⟨circuit.generation, false⟩ ok now]) leaders d
      (recorded circuit ⟨circuit.generation, false⟩ (policy.destinations d) ok now) := by
  obtain ⟨hfailures, hbelow⟩ := h.closed hphase
  have hends : ∀ generation, circuit.generation < generation →
      closedEnds d generation (past ++ [.decided d ⟨circuit.generation, false⟩ ok now]) = [] := by
    intro generation hlt
    rw [closedEnds_decided, h.ends generation hlt, List.nil_append]
    exact if_neg fun hsame => by simp at hsame; omega
  have hcurrent : closedEnds d circuit.generation
      (past ++ [.decided d ⟨circuit.generation, false⟩ ok now]) =
        closedEnds d circuit.generation past ++ [ok] := by
    rw [closedEnds_decided, if_pos ⟨rfl, rfl⟩]
  cases ok with
  | true =>
    have hrecorded : recorded circuit ⟨circuit.generation, false⟩ (policy.destinations d) true now =
        { circuit with consecutiveFailures := 0 } := by
      rw [recorded, if_pos rfl, recordCircuitSuccess, if_neg (not_not.mpr rfl),
        if_neg Bool.false_ne_true, if_pos hphase]
    rw [hrecorded]
    refine ⟨h.generations, h.phases, h.undecided, hends, h.probe, h.flag, fun _ => ?_,
      fun hopened => absurd hphase hopened⟩
    rw [hcurrent, streak_success]
    exact ⟨rfl, id⟩
  | false =>
    have hrecorded : recorded circuit ⟨circuit.generation, false⟩ (policy.destinations d) false now =
        if circuit.consecutiveFailures + 1 ≥ (policy.destinations d).circuitFailureThreshold then
          openCircuit { circuit with consecutiveFailures := circuit.consecutiveFailures + 1 }
            (policy.destinations d) now
        else { circuit with consecutiveFailures := circuit.consecutiveFailures + 1 } := by
      rw [recorded, if_neg Bool.false_ne_true, recordCircuitFailure, if_neg (not_not.mpr rfl),
        if_neg Bool.false_ne_true, if_neg (not_not.mpr hphase)]
    rw [hrecorded]
    split
    · rename_i hthreshold
      refine h.renewed hends rfl rfl (fun hc => (by cases hc)) fun _ => ?_
      refine ⟨past, ⟨circuit.generation, false⟩, now, [], rfl, rfl, rfl, .inr ?_⟩
      rw [hcurrent, streak_failure, ← hfailures]
      exact hthreshold
    · rename_i hthreshold
      refine ⟨h.generations, h.phases, h.undecided, hends, h.probe, h.flag, fun _ => ?_,
        fun hopened => absurd hphase hopened⟩
      rw [hcurrent, streak_failure, ← hfailures]
      exact ⟨rfl, fun _ => not_le.mp hthreshold⟩

/-- The end of the probe closes the circuit or opens it anew. -/
theorem CircuitSound.probeEnded (h : CircuitSound policy past leaders d circuit)
    (hphase : circuit.phase = .halfOpen) (ok : Bool) (now : Int) :
    CircuitSound policy (past ++ [.decided d ⟨circuit.generation, true⟩ ok now]) leaders d
        (recorded circuit ⟨circuit.generation, true⟩ (policy.destinations d) ok now) ∧
      (recorded circuit ⟨circuit.generation, true⟩ (policy.destinations d) ok now).generation =
        circuit.generation + 1 := by
  have hends : ∀ generation, circuit.generation < generation →
      closedEnds d generation (past ++ [.decided d ⟨circuit.generation, true⟩ ok now]) = [] := by
    intro generation hlt
    rw [closedEnds_decided, h.ends generation hlt, List.nil_append]
    exact if_neg fun hsame => by simp at hsame
  cases ok with
  | true =>
    have hrecorded : recorded circuit ⟨circuit.generation, true⟩ (policy.destinations d) true now =
        ⟨.closed, 0, circuit.generation + 1, 0, false⟩ := by
      rw [recorded, if_pos rfl, recordCircuitSuccess, if_neg (not_not.mpr rfl), if_pos rfl,
        if_neg (not_not.mpr hphase)]
    rw [hrecorded]
    exact ⟨h.renewed hends rfl rfl (fun _ => rfl) fun hc => absurd rfl hc, rfl⟩
  | false =>
    have hrecorded : recorded circuit ⟨circuit.generation, true⟩ (policy.destinations d) false now =
        openCircuit circuit (policy.destinations d) now := by
      rw [recorded, if_neg Bool.false_ne_true, recordCircuitFailure, if_neg (not_not.mpr rfl),
        if_pos rfl, if_neg (not_not.mpr hphase)]
    rw [hrecorded]
    exact ⟨h.renewed hends rfl rfl (fun hc => (by cases hc)) fun _ =>
      ⟨past, ⟨circuit.generation, true⟩, now, [], rfl, rfl, rfl, .inl rfl⟩, rfl⟩

/-- The end of a read leaves it with a permit that is not the probe of the circuit. -/
theorem CircuitSound.decided (h : CircuitSound policy past leaders d circuit)
    (hi : leaders[i]? = some leader) (hd : leader.reservation.destination = d) (ok : Bool)
    (now : Int) :
    CircuitSound policy (past ++ [.decided d leader.reservation.circuitPermit ok now]) leaders d
        (recorded circuit leader.reservation.circuitPermit (policy.destinations d) ok now) ∧
      leader.reservation.circuitPermit ≠ ⟨(recorded circuit leader.reservation.circuitPermit
        (policy.destinations d) ok now).generation, true⟩ := by
  have hleader := List.mem_of_getElem? hi
  by_cases hcurrent : leader.reservation.circuitPermit.generation = circuit.generation
  · have hphase := h.phases leader hleader hd hcurrent
    generalize leader.reservation.circuitPermit = permit at hcurrent hphase ⊢
    obtain ⟨generation, halfOpen⟩ := permit
    obtain rfl : generation = circuit.generation := hcurrent
    cases halfOpen with
    | true =>
      obtain ⟨hsound, hgeneration⟩ := h.probeEnded hphase ok now
      refine ⟨hsound, fun hprobe => ?_⟩
      rw [hgeneration] at hprobe
      simp at hprobe
    | false =>
      exact ⟨h.counted hphase ok now,
        fun hprobe => Bool.false_ne_true (congrArg CircuitPermit.halfOpen hprobe)⟩
  · rw [recorded_stale (Ne.symm hcurrent)]
    have hle := h.generations leader hleader hd
    refine ⟨h.append _ fun generation hge => ?_, fun hprobe => ?_⟩
    · refine (closedEnds_decided []).trans (if_neg fun hsame => ?_)
      rw [hsame.2] at hcurrent hle
      simp at hcurrent hle
      omega
    · rw [hprobe] at hcurrent
      exact hcurrent rfl

/-- Once the read is released that holds the probe, another may hold it. -/
theorem CircuitSound.released (h : CircuitSound policy past leaders d circuit)
    (hi : leaders[i]? = some leader) (hd : leader.reservation.destination = d)
    (hheld : leader.reservation.physicalReleased = false)
    (hsettled : leader.reservation.circuitDisposition ≠ .pending) :
    CircuitSound policy past (leaders.set i (LeaderExecution.complete leader)) d
      (if leader.reservation.circuitDisposition = .neutral then
        releaseNeutralCircuitPermit circuit leader.reservation.circuitPermit else circuit) := by
  have hleader := List.mem_of_getElem? hi
  by_cases hprobe : leader.reservation.circuitPermit = ⟨circuit.generation, true⟩
  · have hphase := h.phases leader hleader hd (by rw [hprobe])
    rw [hprobe] at hphase
    have hneutral : leader.reservation.circuitDisposition = .neutral := by
      cases hdisposition : leader.reservation.circuitDisposition with
      | pending => exact absurd hdisposition hsettled
      | recorded => exact absurd hdisposition (h.undecided leader hleader hd hprobe)
      | neutral => rfl
    have hrelease : releaseNeutralCircuitPermit circuit leader.reservation.circuitPermit =
        { circuit with halfOpenProbeInFlight := false } := by
      rw [releaseNeutralCircuitPermit, hprobe]
      exact if_pos ⟨rfl, hphase, rfl⟩
    rw [if_pos hneutral, hrelease]
    have hcount := countP_set_probe hi (LeaderExecution.complete leader) d circuit
    have hbefore : isProbe d circuit leader = true := by simp [isProbe, hd, hprobe, hheld]
    have hafter : isProbe d circuit (LeaderExecution.complete leader) = false := by
      simp [isProbe, LeaderExecution.complete]
    rw [hbefore, hafter, h.probe, if_pos rfl, if_neg Bool.false_ne_true, Nat.add_zero] at hcount
    refine ⟨?_, ?_, ?_, h.ends, ?_, fun htrue => (by cases htrue), h.closed,
      fun hopened => (h.opened hopened).congr rfl rfl⟩
    · intro l hl
      obtain hl | rfl := List.mem_or_eq_of_mem_set hl
      · exact h.generations l hl
      · exact h.generations leader hleader
    · intro l hl
      obtain hl | rfl := List.mem_or_eq_of_mem_set hl
      · exact h.phases l hl
      · exact h.phases leader hleader
    · intro l hl
      obtain hl | rfl := List.mem_or_eq_of_mem_set hl
      · exact h.undecided l hl
      · exact h.undecided leader hleader
    · rw [if_neg Bool.false_ne_true]
      change (leaders.set i (LeaderExecution.complete leader)).countP (isProbe d circuit) = 0
      split at hcount <;> omega
  · have hsame : (if leader.reservation.circuitDisposition = .neutral then
        releaseNeutralCircuitPermit circuit leader.reservation.circuitPermit else circuit) =
          circuit := by
      split
      · apply if_neg
        rintro ⟨hhalf, _, hgeneration⟩
        refine hprobe ?_
        rw [hgeneration, ← hhalf]
      · rfl
    rw [hsame]
    refine h.set hi rfl rfl (fun hd' hcurrent => absurd hcurrent hprobe) ?_
    simp [isProbe, LeaderExecution.complete, hprobe]

end Deciding

section Runs

variable {policy : AdmissionPolicy} {given : Option Reading} {past ms : List Mark} {s t : State}

/-- All circuits beside the reads so far. -/
def CircuitsSound (policy : AdmissionPolicy) (past : List Mark) (s : State) : Prop :=
  ∀ d, CircuitSound policy past s.leaders d (s.circuits d)

theorem circuitsSound_initial (policy : AdmissionPolicy) :
    CircuitsSound policy [] initialState := by
  intro d
  refine ⟨?_, ?_, ?_, fun _ _ => rfl, rfl, ?_, fun _ => ⟨rfl, id⟩, fun h => absurd rfl h⟩
  · exact fun _ h => (by cases h)
  · exact fun _ h => (by cases h)
  · exact fun _ h => (by cases h)
  · exact fun h => (by cases h)

theorem Update.circuitsSound (h : Update policy given s ms t) (hs : LeadersSound s)
    (hbooks : Books policy past s) (hcircuits : CircuitsSound policy past s) :
    CircuitsSound policy (past ++ ms) t := by
  intro d
  have hcircuit := hcircuits d
  cases h with
  | clockFault => rwa [List.append_nil]
  | observed => rwa [List.append_nil]
  | purged => rwa [List.append_nil]
  | dropped => rwa [List.append_nil]
  | admitted start permit circuit listening hstart hbudgets hreserve =>
    have hpast := hcircuit.append [.started start permit] fun _ _ => rfl
    change CircuitSound policy _ (s.leaders ++ [_]) d
      (Function.update s.circuits start.destination circuit d)
    by_cases hd : start.destination = d
    · subst hd
      rw [Function.update_self]
      exact hpast.reserved hreserve rfl rfl rfl rfl
    · rw [Function.update_of_ne (Ne.symm hd)]
      exact hpast.other hd
  | turned i leader hi =>
    rw [List.append_nil]
    exact hcircuit.set hi rfl rfl (hcircuit.undecided leader (List.mem_of_getElem? hi)) rfl
  | neutral i leader outcome hi =>
    rw [List.append_nil]
    exact hcircuit.set hi rfl rfl (fun _ _ h => (by cases h)) rfl
  | decided i leader outcome ok hi hsettled =>
    change CircuitSound policy _ (s.leaders.set i _) d
      (Function.update s.circuits leader.reservation.destination _ d)
    by_cases hd : leader.reservation.destination = d
    · subst hd
      rw [Function.update_self]
      obtain ⟨hsound, hprobe⟩ := hcircuit.decided hi rfl ok s.lastObservedTime
      exact hsound.set hi rfl rfl (fun _ hcurrent => absurd hcurrent hprobe) rfl
    · rw [Function.update_of_ne (Ne.symm hd)]
      have hpast := hcircuit.append [.decided leader.reservation.destination
        leader.reservation.circuitPermit ok s.lastObservedTime] fun generation _ =>
          (closedEnds_decided []).trans (if_neg fun hsame => hd hsame.1)
      exact hpast.set hi rfl rfl (fun hd' => absurd hd' hd) rfl
  | released i leader hi hsettled hincomplete =>
    rw [List.append_nil, finishPhysical_eq hbooks hs hi hincomplete]
    have hheld : leader.reservation.physicalReleased = false := by
      rw [← (hs.get hi).complete, hincomplete]
    have hdecided : leader.reservation.circuitDisposition ≠ .pending := by
      have hdisposition := (hs.get hi).settled
      rw [hsettled] at hdisposition
      simpa using hdisposition.symm
    change CircuitSound policy past (s.leaders.set i _) d
      ((State.free s leader.reservation).circuits d)
    by_cases hd : leader.reservation.destination = d
    · subst hd
      have hfreed : (State.free s leader.reservation).circuits leader.reservation.destination =
          if leader.reservation.circuitDisposition = .neutral then
            releaseNeutralCircuitPermit (s.circuits leader.reservation.destination)
              leader.reservation.circuitPermit
          else s.circuits leader.reservation.destination := by
        simp only [State.free]
        split
        · rw [Function.update_self]
        · rfl
      rw [hfreed]
      exact hcircuit.released hi rfl hheld hdecided
    · have hfreed : (State.free s leader.reservation).circuits d = s.circuits d := by
        simp only [State.free]
        split
        · rw [Function.update_of_ne (Ne.symm hd)]
        · rfl
      rw [hfreed]
      refine hcircuit.set hi rfl rfl (fun hd' => absurd hd' hd) ?_
      simp [isProbe, LeaderExecution.complete, hd]

/-- The circuits show the reads so far after any calls. -/
theorem reached_circuitsSound (policy : AdmissionPolicy) (calls : List Call) :
    CircuitsSound policy (history ((machine policy).trace calls))
      ((machine policy).reached calls) := by
  have hrun := run_preserves policy
    (I := fun past s => Books policy past s ∧ CircuitsSound policy past s)
    (fun hs h hupdate => ⟨Update.books hupdate hs h.1, Update.circuitsSound hupdate hs h.1 h.2⟩)
    [] leadersSound_initial ⟨books_initial policy, circuitsSound_initial policy⟩ calls
  exact hrun.2

end Runs

end CryptoLending.SmartLending.UpstreamReadCircuits
