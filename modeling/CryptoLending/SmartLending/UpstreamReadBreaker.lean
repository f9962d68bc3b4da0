import CryptoLending.SmartLending.UpstreamReadRelease

namespace CryptoLending.SmartLending.UpstreamReadBreaker

open Lib Lib.JsObject UpstreamReadPolicy UpstreamReadAdmission UpstreamReadBudgets
  UpstreamReadUpdates UpstreamReadSteps UpstreamReadBooks UpstreamReadCircuits UpstreamReadLimits
  UpstreamReadGuarantee UpstreamReadDrain UpstreamReadRelease

section Following

/-- A circuit keeps its generation only while it neither opens nor closes. -/
def Follows (c c' : CircuitState) : Prop :=
  c.generation < c'.generation ∨
    c.generation = c'.generation ∧ (c'.phase = c.phase ∨ c'.phase = .halfOpen)

variable {c c' c'' : CircuitState} {permit : CircuitPermit} {now : Int}

theorem Follows.refl (c : CircuitState) : Follows c c := .inr ⟨rfl, .inl rfl⟩

theorem Follows.trans (h : Follows c c') (h' : Follows c' c'') : Follows c c'' := by
  obtain hlt | ⟨heq, hphase⟩ := h
  · obtain hlt' | ⟨heq', -⟩ := h'
    · exact .inl (hlt.trans hlt')
    · exact .inl (heq' ▸ hlt)
  · obtain hlt' | ⟨heq', hphase'⟩ := h'
    · exact .inl (heq ▸ hlt')
    · refine .inr ⟨heq.trans heq', ?_⟩
      obtain hsame | hhalf := hphase'
      · rw [hsame]
        exact hphase
      · exact .inr hhalf

theorem Follows.generation_le (h : Follows c c') : c.generation ≤ c'.generation :=
  h.elim le_of_lt fun h => h.1.le

/-- A circuit that opens or closes has a new generation. -/
theorem Follows.generation_lt (h : Follows c c') (hphase : c'.phase ≠ c.phase)
    (hhalf : c'.phase ≠ .halfOpen) : c.generation < c'.generation :=
  h.elim id fun h => (h.2.elim hphase hhalf).elim

theorem reserveCircuit_changes (h : reserveCircuit c now = some (permit, c')) :
    c'.generation = c.generation ∧ permit.generation = c.generation ∧
      (c'.phase = c.phase ∨ c'.phase = .halfOpen) ∧ (c.phase = .closed → c' = c) := by
  rw [reserveCircuit] at h
  split at h
  · rename_i hphase
    split at h
    · cases h
    · rw [reserveProbe, if_neg Bool.false_ne_true] at h
      obtain ⟨rfl, rfl⟩ := Prod.mk.inj (Option.some.inj h)
      exact ⟨rfl, rfl, .inr rfl, fun hc => by rw [hphase] at hc; cases hc⟩
  · rename_i hphase
    rw [reserveProbe] at h
    split at h
    · cases h
    · obtain ⟨rfl, rfl⟩ := Prod.mk.inj (Option.some.inj h)
      exact ⟨rfl, rfl, .inl rfl, fun hc => by rw [hphase] at hc; cases hc⟩
  · obtain ⟨rfl, rfl⟩ := Prod.mk.inj (Option.some.inj h)
    exact ⟨rfl, rfl, .inl rfl, fun _ => rfl⟩

theorem recorded_follows (c : CircuitState) (permit : CircuitPermit) (policy : DestinationPolicy)
    (ok : Bool) (now : Int) : Follows c (recorded c permit policy ok now) := by
  cases ok with
  | true =>
    rw [recorded, if_pos rfl, recordCircuitSuccess]
    split
    · exact .refl c
    · split
      · split
        · exact .refl c
        · exact .inl (Nat.lt_succ_self _)
      · split
        · exact .inr ⟨rfl, .inl rfl⟩
        · exact .refl c
  | false =>
    rw [recorded, if_neg Bool.false_ne_true, recordCircuitFailure]
    split
    · exact .refl c
    · split
      · split
        · exact .refl c
        · exact .inl (Nat.lt_succ_self _)
      · split
        · exact .refl c
        · simp only
          split
          · exact .inl (Nat.lt_succ_self _)
          · exact .inr ⟨rfl, .inl rfl⟩

theorem releaseNeutralCircuitPermit_changes (c : CircuitState) (permit : CircuitPermit) :
    (releaseNeutralCircuitPermit c permit).generation = c.generation ∧
      (releaseNeutralCircuitPermit c permit).phase = c.phase ∧
      (c.phase = .closed → releaseNeutralCircuitPermit c permit = c) := by
  rw [releaseNeutralCircuitPermit]
  split
  · rename_i h
    exact ⟨rfl, rfl, fun hc => by rw [h.2.1] at hc; cases hc⟩
  · exact ⟨rfl, rfl, fun _ => rfl⟩

end Following

section Changing

/-- A read for a destination that was not decided. -/
def IsPending (d : Destination) (leader : LeaderExecution) : Prop :=
  leader.reservation.destination = d ∧ leader.reservation.circuitDisposition = .pending

/-- The undecided reads of a state are those of another. -/
def PendingFrom (d : Destination) (s t : State) : Prop :=
  ∀ leader ∈ t.leaders, IsPending d leader → ∃ old ∈ s.leaders, IsPending d old ∧
    old.reservation.circuitPermit = leader.reservation.circuitPermit

/-- What one change of the state does to a circuit and to the undecided reads of its destination. -/
inductive CircuitChange (policy : AdmissionPolicy) (d : Destination) (s : State) (ms : List Mark)
    (t : State) : Prop
  | same (hcircuit : t.circuits d = s.circuits d) (hpending : PendingFrom d s t)
  | reserved (now : Int) (permit : CircuitPermit)
      (hreserve : reserveCircuit (s.circuits d) now = some (permit, t.circuits d))
      (hpending : ∀ leader ∈ t.leaders, IsPending d leader →
        leader.reservation.circuitPermit = permit ∨ ∃ old ∈ s.leaders, IsPending d old ∧
          old.reservation.circuitPermit = leader.reservation.circuitPermit)
  | ended (i : Nat) (leader : LeaderExecution) (outcome : UpstreamOutcome) (ok : Bool)
      (hi : s.leaders[i]? = some leader) (hd : leader.reservation.destination = d)
      (hsettled : leader.logicalSettled = false)
      (hmarks : ms = [.decided d leader.reservation.circuitPermit ok s.lastObservedTime])
      (hcircuit : t.circuits d = recorded (s.circuits d) leader.reservation.circuitPermit
        (policy.destinations d) ok s.lastObservedTime)
      (hleaders : t.leaders = s.leaders.set i (LeaderExecution.settle leader .recorded outcome))
  | released (permit : CircuitPermit)
      (hcircuit : t.circuits d = releaseNeutralCircuitPermit (s.circuits d) permit)
      (hpending : PendingFrom d s t)

variable {policy : AdmissionPolicy} {given : Option Reading} {past ms : List Mark} {s t : State}
  {d : Destination} {i : Nat} {leader leader' : LeaderExecution}

theorem PendingFrom.refl (d : Destination) (h : t.leaders = s.leaders) : PendingFrom d s t :=
  fun leader hleader hpending => ⟨leader, h ▸ hleader, hpending, rfl⟩

theorem PendingFrom.set (hi : s.leaders[i]? = some leader)
    (ht : t.leaders = s.leaders.set i leader') (h : IsPending d leader' → IsPending d leader ∧
      leader.reservation.circuitPermit = leader'.reservation.circuitPermit) :
    PendingFrom d s t := by
  intro other hother hpending
  rw [ht] at hother
  obtain hother | rfl := List.mem_or_eq_of_mem_set hother
  · exact ⟨other, hother, hpending, rfl⟩
  · obtain ⟨hold, hpermit⟩ := h hpending
    exact ⟨leader, List.mem_of_getElem? hi, hold, hpermit⟩

theorem Update.circuitChange (h : Update policy given s ms t) (hs : LeadersSound s)
    (hbooks : Books policy past s) (d : Destination) : CircuitChange policy d s ms t := by
  cases h with
  | clockFault => exact .same rfl (.refl d rfl)
  | observed => exact .same rfl (.refl d rfl)
  | purged => exact .same rfl (.refl d rfl)
  | dropped => exact .same rfl (.refl d rfl)
  | admitted start permit circuit listening hstart hbudgets hreserve =>
    have hleaders : ∀ leader ∈ (State.accept s start permit circuit listening).leaders,
        leader ∈ s.leaders ∨ leader = newLeader (reservationOf start permit) listening :=
      fun leader hleader => (List.mem_append.mp hleader).imp_right List.mem_singleton.mp
    by_cases hd : start.destination = d
    · subst hd
      refine .reserved start.startedAt permit ?_ fun leader hleader hpending => ?_
      · change _ = some (permit, Function.update s.circuits start.destination circuit _)
        rw [Function.update_self, hreserve]
      · obtain hold | rfl := hleaders leader hleader
        · exact .inr ⟨leader, hold, hpending, rfl⟩
        · exact .inl rfl
    · refine .same (Function.update_of_ne (Ne.symm hd) _ _) fun leader hleader hpending => ?_
      obtain hold | rfl := hleaders leader hleader
      · exact ⟨leader, hold, hpending, rfl⟩
      · exact absurd hpending.1 hd
  | turned i leader hi => exact .same rfl (.set hi rfl fun h => ⟨h, rfl⟩)
  | neutral i leader outcome hi =>
    exact .same rfl (.set hi rfl fun h => by cases h.2)
  | decided i leader outcome ok hi hsettled =>
    by_cases hd : leader.reservation.destination = d
    · subst hd
      refine .ended i leader outcome ok hi rfl hsettled rfl ?_ rfl
      exact Function.update_self ..
    · refine .same (Function.update_of_ne (Ne.symm hd) _ _) (.set hi rfl fun h => ?_)
      cases h.2
  | released i leader hi hsettled hincomplete =>
    rw [finishPhysical_eq hbooks hs hi hincomplete]
    have hpending : PendingFrom d s
        (State.setLeader (State.free s leader.reservation) i (LeaderExecution.complete leader)) :=
      .set hi rfl fun h => ⟨h, rfl⟩
    by_cases hd : leader.reservation.destination = d ∧
        leader.reservation.circuitDisposition = .neutral
    · obtain ⟨rfl, hneutral⟩ := hd
      refine .released leader.reservation.circuitPermit ?_ hpending
      change (State.free s leader.reservation).circuits _ = _
      simp only [State.free, if_pos hneutral, Function.update_self]
    · refine .same ?_ hpending
      change (State.free s leader.reservation).circuits d = _
      simp only [State.free]
      split
      · rename_i hneutral
        exact Function.update_of_ne (fun hsame => hd ⟨hsame.symm, hneutral⟩) _ _
      · rfl

theorem CircuitChange.follows (h : CircuitChange policy d s ms t) :
    Follows (s.circuits d) (t.circuits d) := by
  cases h with
  | same hcircuit =>
    rw [hcircuit]
    exact .refl _
  | reserved now permit hreserve =>
    obtain ⟨hgeneration, -, hphase, -⟩ := reserveCircuit_changes hreserve
    exact .inr ⟨hgeneration.symm, hphase⟩
  | ended i leader outcome ok hi hd hsettled hmarks hcircuit =>
    rw [hcircuit]
    exact recorded_follows ..
  | released permit hcircuit =>
    obtain ⟨hgeneration, hphase, -⟩ := releaseNeutralCircuitPermit_changes (s.circuits d) permit
    rw [hcircuit]
    exact .inr ⟨hgeneration.symm, .inl hphase⟩

end Changing

section Probing

variable {policy : AdmissionPolicy} {past ms : List Mark} {s t : State} {d : Destination}

/-- An undecided probe is that of the current generation. -/
def ProbesCurrent (d : Destination) (s : State) : Prop :=
  ∀ leader ∈ s.leaders, IsPending d leader → leader.reservation.circuitPermit.halfOpen = true →
    leader.reservation.circuitPermit.generation = (s.circuits d).generation

theorem ProbesCurrent.of_pendingFrom (h : ProbesCurrent d s) (hpending : PendingFrom d s t)
    (hgeneration : (t.circuits d).generation = (s.circuits d).generation) : ProbesCurrent d t := by
  intro leader hleader hundecided hhalf
  obtain ⟨old, hold, holdPending, hpermit⟩ := hpending leader hleader hundecided
  rw [hgeneration, ← hpermit]
  exact h old hold holdPending (hpermit ▸ hhalf)

/-- A read that is not decided was not released. -/
theorem IsPending.held {leader : LeaderExecution} (h : IsPending d leader)
    (hsound : LeaderSound leader) : leader.reservation.physicalReleased = false := by
  by_contra hreleased
  have hcomplete := hsound.released (hsound.complete.trans (by simpa using hreleased))
  rw [hsound.settled, h.2] at hcomplete
  simp at hcomplete

theorem IsPending.isProbe {leader : LeaderExecution} {circuit : CircuitState}
    (h : IsPending d leader) (hsound : LeaderSound leader)
    (hpermit : leader.reservation.circuitPermit = ⟨circuit.generation, true⟩) :
    isProbe d circuit leader = true := by
  simp [UpstreamReadCircuits.isProbe, h.1, hpermit, h.held hsound]

/-- A circuit has one probe at most. -/
theorem probe_unique {i j : Nat} {leader other : LeaderExecution}
    (hcircuit : CircuitSound policy past s.leaders d (s.circuits d))
    (hi : s.leaders[i]? = some leader) (hj : s.leaders[j]? = some other)
    (hleader : UpstreamReadCircuits.isProbe d (s.circuits d) leader = true)
    (hother : UpstreamReadCircuits.isProbe d (s.circuits d) other = true) : i = j := by
  by_contra hij
  have hcount := countP_set_probe hi (LeaderExecution.complete leader) d (s.circuits d)
  have hafter : UpstreamReadCircuits.isProbe d (s.circuits d)
      (LeaderExecution.complete leader) = false := by
    simp [UpstreamReadCircuits.isProbe, LeaderExecution.complete]
  rw [hleader, hafter, hcircuit.probe, if_pos rfl, if_neg Bool.false_ne_true,
    Nat.add_zero] at hcount
  -- Without the one probe that there may be, no other is left.
  have hleft : 0 < (s.leaders.set i (LeaderExecution.complete leader)).countP
      (UpstreamReadCircuits.isProbe d (s.circuits d)) := by
    rw [List.countP_pos_iff]
    refine ⟨other, List.mem_of_getElem? (i := j) ?_, hother⟩
    rw [List.getElem?_set_ne hij, hj]
  split at hcount <;> omega

/-- A circuit changes its generation only at the end of its last undecided probe, if it has any. -/
theorem CircuitChange.probesCurrent (h : CircuitChange policy d s ms t) (hs : LeadersSound s)
    (hcircuit : CircuitSound policy past s.leaders d (s.circuits d)) (hprobes : ProbesCurrent d s) :
    ProbesCurrent d t := by
  cases h with
  | same hsame hpending => exact hprobes.of_pendingFrom hpending (by rw [hsame])
  | reserved now permit hreserve hpending =>
    obtain ⟨hgeneration, hpermit, -, -⟩ := reserveCircuit_changes hreserve
    intro leader hleader hundecided hhalf
    rw [hgeneration]
    obtain hnew | ⟨old, hold, holdPending, hsame⟩ := hpending leader hleader hundecided
    · rw [hnew, hpermit]
    · rw [← hsame]
      exact hprobes old hold holdPending (hsame ▸ hhalf)
  | released permit hsame hpending =>
    obtain ⟨hgeneration, -, -⟩ := releaseNeutralCircuitPermit_changes (s.circuits d) permit
    exact hprobes.of_pendingFrom hpending (by rw [hsame, hgeneration])
  | ended i leader outcome ok hi hd hsettled hmarks hended hleaders =>
    intro other hother hundecided hhalf
    have hleader := List.mem_of_getElem? hi
    obtain ⟨j, hj⟩ := List.mem_iff_getElem?.mp hother
    rw [hleaders] at hj
    have hij : i ≠ j := by
      rintro rfl
      obtain rfl := Option.some.inj ((set_getElem? hi _).symm.trans hj)
      cases hundecided.2
    rw [List.getElem?_set_ne hij] at hj
    have hmem := List.mem_of_getElem? hj
    have hcurrent := hprobes other hmem hundecided hhalf
    have hpermit : other.reservation.circuitPermit = ⟨(s.circuits d).generation, true⟩ := by
      rw [← hcurrent, ← hhalf]
    have hphase := hcircuit.phases other hmem hundecided.1 hcurrent
    rw [hhalf, if_pos rfl] at hphase
    have hpending : IsPending d leader := ⟨hd, (hs.get hi).pending hsettled⟩
    have hother : leader.reservation.circuitPermit ≠ ⟨(s.circuits d).generation, true⟩ := by
      intro hsame
      exact hij (probe_unique hcircuit hi hj (hpending.isProbe (hs.get hi) hsame)
        (hundecided.isProbe (hs.get hj) hpermit))
    have hunchanged : recorded (s.circuits d) leader.reservation.circuitPermit
        (policy.destinations d) ok s.lastObservedTime = s.circuits d := by
      by_cases hgeneration : (s.circuits d).generation = leader.reservation.circuitPermit.generation
      · have hclosed := hcircuit.phases leader hleader hd hgeneration.symm
        rw [hphase] at hclosed
        split at hclosed
        · rename_i htrue
          exact absurd (by rw [hgeneration, ← htrue]) hother
        · cases hclosed
      · exact recorded_stale hgeneration _ ok _
    rw [hended, hunchanged, hcurrent]

/-- At most one probe is undecided. -/
theorem ProbesCurrent.unique (h : ProbesCurrent d s) (hs : LeadersSound s)
    (hcircuit : CircuitSound policy past s.leaders d (s.circuits d)) {i j : Nat}
    {leader other : LeaderExecution} (hi : s.leaders[i]? = some leader)
    (hj : s.leaders[j]? = some other) (hleader : IsPending d leader) (hother : IsPending d other)
    (hhalf : leader.reservation.circuitPermit.halfOpen = true)
    (hhalf' : other.reservation.circuitPermit.halfOpen = true) : i = j := by
  by_contra hij
  have hpermit : leader.reservation.circuitPermit = ⟨(s.circuits d).generation, true⟩ := by
    rw [← h leader (List.mem_of_getElem? hi) hleader hhalf, ← hhalf]
  have hpermit' : other.reservation.circuitPermit = ⟨(s.circuits d).generation, true⟩ := by
    rw [← h other (List.mem_of_getElem? hj) hother hhalf', ← hhalf']
  exact hij (probe_unique hcircuit hi hj (hleader.isProbe (hs.get hi) hpermit)
    (hother.isProbe (hs.get hj) hpermit'))

end Probing

section Opening

variable {policy : AdmissionPolicy} {past ms : List Mark} {s t : State} {d : Destination}
  {generation : Nat}

/-- A circuit that was closed in a generation is so still, or it was opened by a failure that made
the failures of that generation, since its last success, as many as open it. -/
def StaysOrOpened (policy : AdmissionPolicy) (d : Destination) (generation : Nat)
    (since past : List Mark) (s : State) : Prop :=
  (s.circuits d).phase = .closed ∧ (s.circuits d).generation = generation ∨
    ∃ between now after,
      past = since ++ between ++ .decided d ⟨generation, false⟩ false now :: after ∧
      (policy.destinations d).circuitFailureThreshold ≤ streak (closedEnds d generation
        (since ++ between ++ [.decided d ⟨generation, false⟩ false now]))

theorem CircuitChange.staysOrOpened {since : List Mark} (h : CircuitChange policy d s ms t)
    (hcircuit : CircuitSound policy past s.leaders d (s.circuits d)) (hpast : since <+: past)
    (hstays : StaysOrOpened policy d generation since past s) :
    StaysOrOpened policy d generation since (past ++ ms) t := by
  obtain ⟨hclosed, hgeneration⟩ | ⟨between, now, after, hsplit, hthreshold⟩ := hstays
  swap
  · exact .inr ⟨between, now, after ++ ms, by rw [hsplit]; simp, hthreshold⟩
  cases h with
  | same hsame =>
    refine .inl ?_
    rw [hsame]
    exact ⟨hclosed, hgeneration⟩
  | reserved now permit hreserve =>
    refine .inl ?_
    rw [(reserveCircuit_changes hreserve).2.2.2 hclosed]
    exact ⟨hclosed, hgeneration⟩
  | released permit hsame =>
    refine .inl ?_
    rw [hsame, (releaseNeutralCircuitPermit_changes _ permit).2.2 hclosed]
    exact ⟨hclosed, hgeneration⟩
  | ended i leader outcome ok hi hd hsettled hmarks hended =>
    obtain ⟨hfailures, -⟩ := hcircuit.closed hclosed
    generalize leader.reservation.circuitPermit = permit at hmarks hended
    by_cases hstale : (s.circuits d).generation = permit.generation
    swap
    · refine .inl ?_
      rw [hended, recorded_stale hstale]
      exact ⟨hclosed, hgeneration⟩
    obtain ⟨g, halfOpen⟩ := permit
    obtain rfl : g = generation := hstale.symm.trans hgeneration
    cases halfOpen with
    | true =>
      refine .inl ?_
      have hsame : recorded (s.circuits d) ⟨g, true⟩ (policy.destinations d) ok
          s.lastObservedTime = s.circuits d := by
        cases ok with
        | true =>
          rw [recorded, if_pos rfl, recordCircuitSuccess, if_neg (not_not.mpr hgeneration),
            if_pos rfl, if_pos (by rw [hclosed]; decide)]
        | false =>
          rw [recorded, if_neg Bool.false_ne_true, recordCircuitFailure,
            if_neg (not_not.mpr hgeneration), if_pos rfl, if_pos (by rw [hclosed]; decide)]
      rw [hended, hsame]
      exact ⟨hclosed, hgeneration⟩
    | false =>
      cases ok with
      | true =>
        refine .inl ?_
        rw [hended, recorded, if_pos rfl, recordCircuitSuccess, if_neg (not_not.mpr hgeneration),
          if_neg Bool.false_ne_true, if_pos hclosed]
        exact ⟨hclosed, hgeneration⟩
      | false =>
        rw [recorded, if_neg Bool.false_ne_true, recordCircuitFailure,
          if_neg (not_not.mpr hgeneration), if_neg Bool.false_ne_true,
          if_neg (not_not.mpr hclosed)] at hended
        simp only at hended
        split at hended
        · rename_i hthreshold
          obtain ⟨between, rfl⟩ := hpast
          refine .inr ⟨between, s.lastObservedTime, [], by rw [hmarks], ?_⟩
          rw [closedEnds_decided, if_pos ⟨rfl, rfl⟩, streak_failure, ← hgeneration, ← hfailures]
          exact hthreshold
        · refine .inl ?_
          rw [hended]
          exact ⟨hclosed, hgeneration⟩

end Opening

section Staleness

variable {policy : AdmissionPolicy} {s : State} {i : Nat} {leader : LeaderExecution}

/-- The permit of a read is not of the current generation of its circuit. -/
def IsStale (s : State) (leader : LeaderExecution) : Prop :=
  (s.circuits leader.reservation.destination).generation ≠
    leader.reservation.circuitPermit.generation

/-- The leader that a call is about. -/
def leaderOf : Call → Option Nat
  | .readSharedMarket .. => none
  | .readAccountScoped .. => none
  | .turn i => some i
  | .operationSettled i _ _ => some i
  | .timeout i _ => some i
  | .callerAborted i => some i
  | .physicalCompletion i => some i

variable (policy) in
theorem recordLogicalOutcome_stale (h : IsStale s leader) (candidate : UpstreamOutcome)
    (reading : Reading) :
    (recordLogicalOutcome policy s leader.reservation candidate reading).2.circuits = s.circuits ∧
      (recordLogicalOutcome policy s leader.reservation candidate reading).2.leaders =
        s.leaders := by
  rw [recordLogicalOutcome]
  split
  · exact ⟨rfl, rfl⟩
  split
  · exact ⟨rfl, rfl⟩
  obtain ⟨now, _, hnow⟩ | hnow := now_cases s reading
  · rw [hnow]
    refine ⟨?_, rfl⟩
    have hsame : recorded (s.circuits leader.reservation.destination)
        leader.reservation.circuitPermit (policy.destinations leader.reservation.destination)
        (decide (candidate = .ok)) now = s.circuits leader.reservation.destination :=
      recorded_stale h _ _ now
    change Function.update s.circuits leader.reservation.destination _ = s.circuits
    rw [recorded] at hsame
    simp only [decide_eq_true_eq] at hsame
    rw [hsame, Function.update_eq_self]
  · rw [hnow]
    exact ⟨rfl, rfl⟩

/-- The leader at an index has the permit of a given one. -/
def KeepsPermit (i : Nat) (leader : LeaderExecution) (s : State) : Prop :=
  ∃ leader', s.leaders[i]? = some leader' ∧
    leader'.reservation.destination = leader.reservation.destination ∧
    leader'.reservation.circuitPermit = leader.reservation.circuitPermit

variable (policy) in
theorem finishLogical_stale (hi : s.leaders[i]? = some leader) (h : IsStale s leader)
    (candidate : UpstreamOutcome) (reading : Reading) :
    (finishLogical policy s i leader candidate reading).circuits = s.circuits ∧
      KeepsPermit i leader (finishLogical policy s i leader candidate reading) := by
  rw [finishLogical]
  split
  · exact ⟨rfl, leader, hi, rfl, rfl⟩
  obtain ⟨hcircuits, hleaders⟩ := recordLogicalOutcome_stale policy h candidate reading
  simp only
  split
  · rename_i hrecord
    rw [hrecord] at hcircuits hleaders
    exact ⟨hcircuits, _, set_getElem? (hleaders ▸ hi) _, rfl, rfl⟩
  · rename_i hrecord
    rw [hrecord] at hcircuits hleaders
    exact ⟨hcircuits, _, set_getElem? (hleaders ▸ hi) _, rfl, rfl⟩

theorem finishPhysical_stale (h : IsStale s leader) :
    (finishPhysical s i leader).circuits = s.circuits := by
  have hbudgets : (releaseBudgets s leader.reservation).1.circuits = s.circuits := by
    simp only [releaseBudgets]
    split
    · rfl
    · split
      · rfl
      · split
        · rfl
        · split
          · rfl
          · rfl
  have hrelease : (releasePhysicalReservation s leader.reservation).1.circuits = s.circuits := by
    rw [releasePhysicalReservation]
    split
    · rfl
    · split
      · rename_i hreleased
        rwa [hreleased] at hbudgets
      · rename_i u hreleased
        rw [hreleased] at hbudgets
        have hbudgets : u.circuits = s.circuits := hbudgets
        split
        · change Function.update u.circuits leader.reservation.destination _ = s.circuits
          rw [hbudgets, releaseNeutralCircuitPermit, if_neg fun hsame => h hsame.2.2,
            Function.update_eq_self]
        · exact hbudgets
  rw [finishPhysical]
  split
  · rfl
  · simp only
    split
    · rename_i hreleased
      rwa [hreleased] at hrelease
    · rename_i hreleased
      rwa [hreleased] at hrelease

/-- After the end of a stale read its release changes no circuit either. -/
theorem released_stale {t : State} (h : IsStale s leader) (hcircuits : t.circuits = s.circuits)
    (hkeeps : KeepsPermit i leader t) :
    (match t.leaders[i]? with
      | none => t
      | some leader => finishPhysical t i leader).circuits = s.circuits := by
  obtain ⟨leader', hi, hdestination, hpermit⟩ := hkeeps
  rw [hi]
  have hstale : IsStale t leader' := by
    rw [IsStale, hcircuits, hdestination, hpermit]
    exact h
  exact (finishPhysical_stale hstale).trans hcircuits

theorem abortCaller_stale (hi : s.leaders[i]? = some leader) (h : IsStale s leader) :
    (abortCaller policy s i leader).circuits = s.circuits := by
  obtain ⟨hcircuits, leader', hi', hdestination, hpermit⟩ :=
    finishLogical_stale policy hi h .callerAborted none
  rw [abortCaller]
  simp only [hi']
  split
  · exact hcircuits
  · refine (finishPhysical_stale ?_).trans hcircuits
    rw [IsStale, hcircuits, hdestination, hpermit]
    exact h

variable (policy) in
/-- Nothing that happens to a read changes a circuit that is in another generation. -/
theorem step_stale (hi : s.leaders[i]? = some leader) (h : IsStale s leader) {call : Call}
    (hcall : leaderOf call = some i) : (step policy s call).2.circuits = s.circuits := by
  cases call with
  | readSharedMarket => cases hcall
  | readAccountScoped => cases hcall
  | turn j =>
    obtain rfl := Option.some.inj hcall
    change (onLeader s j _).2.circuits = _
    rw [onLeader_some hi, turn]
    split
    · rfl
    · split <;> rfl
  | operationSettled j ok reading =>
    obtain rfl := Option.some.inj hcall
    change (onLeader s j _).2.circuits = _
    rw [onLeader_some hi, operationSettled]
    split
    · obtain ⟨hcircuits, hkeeps⟩ := finishLogical_stale policy hi h
        (if ok then .ok else .upstreamFailed) reading
      exact released_stale h hcircuits hkeeps
    · rfl
  | timeout j reading =>
    obtain rfl := Option.some.inj hcall
    change (onLeader s j _).2.circuits = _
    rw [onLeader_some hi, timeout]
    split
    · exact (finishLogical_stale policy hi h .upstreamTimeout reading).1
    · rfl
  | callerAborted j =>
    obtain rfl := Option.some.inj hcall
    change (onLeader s j _).2.circuits = _
    rw [onLeader_some hi, callerAborted]
    split
    · exact abortCaller_stale hi h
    · rfl
  | physicalCompletion j =>
    obtain rfl := Option.some.inj hcall
    change (onLeader s j _).2.circuits = _
    rw [onLeader_some hi, physicalCompletion]
    split <;> rfl

end Staleness

section Runs

variable {policy : AdmissionPolicy}

theorem reached_probesCurrent (policy : AdmissionPolicy) (calls : List Call) (d : Destination) :
    ProbesCurrent d ((machine policy).reached calls) := by
  have hrun := run_preserves policy
    (I := fun past s => Books policy past s ∧ CircuitsSound policy past s ∧ ProbesCurrent d s)
    (fun hs h hupdate => ⟨Update.books hupdate hs h.1, Update.circuitsSound hupdate hs h.1 h.2.1,
      (Update.circuitChange hupdate hs h.1 d).probesCurrent hs (h.2.1 d) h.2.2⟩)
    [] leadersSound_initial
    ⟨books_initial policy, circuitsSound_initial policy, fun _ h => (by cases h)⟩ calls
  exact hrun.2.2

theorem run_follows (policy : AdmissionPolicy) (calls more : List Call) (d : Destination) :
    Follows (((machine policy).reached calls).circuits d)
      (((machine policy).reached (calls ++ more)).circuits d) := by
  have hrun := run_preserves policy
    (I := fun past t => Books policy past t ∧
      Follows (((machine policy).reached calls).circuits d) (t.circuits d))
    (fun hs h hupdate => ⟨Update.books hupdate hs h.1,
      h.2.trans (Update.circuitChange hupdate hs h.1 d).follows⟩)
    (history ((machine policy).trace calls)) (reached_leadersSound policy calls)
    ⟨reached_books policy calls, .refl _⟩ more
  rw [Machine.reached_append]
  exact hrun.2

theorem run_staysOrOpened (policy : AdmissionPolicy) (calls more : List Call) (d : Destination)
    (hclosed : (((machine policy).reached calls).circuits d).phase = .closed) :
    StaysOrOpened policy d (((machine policy).reached calls).circuits d).generation
      (history ((machine policy).trace calls)) (history ((machine policy).trace (calls ++ more)))
      ((machine policy).reached (calls ++ more)) := by
  let since := history ((machine policy).trace calls)
  let g := (((machine policy).reached calls).circuits d).generation
  have hrun := run_preserves policy
    (I := fun past t => Books policy past t ∧ CircuitsSound policy past t ∧ since <+: past ∧
      StaysOrOpened policy d g since past t)
    (fun hs h hupdate => ⟨Update.books hupdate hs h.1, Update.circuitsSound hupdate hs h.1 h.2.1,
      h.2.2.1.trans (List.prefix_append _ _),
      (Update.circuitChange hupdate hs h.1 d).staysOrOpened (h.2.1 d) h.2.2.1 h.2.2.2⟩)
    since (reached_leadersSound policy calls)
    ⟨reached_books policy calls, reached_circuitsSound policy calls, List.prefix_refl _,
      .inl ⟨hclosed, rfl⟩⟩ more
  have hhistory : history ((machine policy).trace (calls ++ more)) =
      since ++ history ((machine policy).events ((machine policy).reached calls) more) := by
    rw [Machine.trace, Machine.events_append, history_append]
    rfl
  rw [Machine.reached_append, hhistory]
  exact hrun.2.2.2

theorem openDeadline_eq (policy : DestinationPolicy) (now : Int) :
    openDeadline policy now = min (now + policy.circuitOpenMilliseconds) maxSafeInteger := by
  rw [openDeadline]
  split <;> omega

/-- Between two states of a run the circuit opened, or closed. -/
def Turned (policy : AdmissionPolicy) (d : Destination) (calls more : List Call) : Prop :=
  ∃ before call after, more = before ++ call :: after ∧
    let s := (machine policy).reached (calls ++ before)
    ((step policy s call).2.circuits d).phase ≠ (s.circuits d).phase ∧
      ((step policy s call).2.circuits d).phase ≠ .halfOpen

theorem Turned.generation_lt {calls more : List Call} {d : Destination}
    (h : Turned policy d calls more) : (((machine policy).reached calls).circuits d).generation <
      (((machine policy).reached (calls ++ more)).circuits d).generation := by
  obtain ⟨before, call, after, rfl, hphase, hhalf⟩ := h
  have hbefore := (run_follows policy calls before d).generation_le
  have hcall := run_follows policy (calls ++ before) [call] d
  rw [Machine.reached_snoc] at hcall
  have hturned := hcall.generation_lt hphase hhalf
  have hafter := (run_follows policy (calls ++ before ++ [call]) after d).generation_le
  rw [Machine.reached_snoc] at hafter
  have hsplit : calls ++ (before ++ call :: after) = calls ++ before ++ [call] ++ after := by simp
  rw [hsplit]
  omega

/-- An open circuit admits no read before its time has passed since the failure that opened it, as
far as the clock goes. No two probes are undecided. What happens to a read that was admitted before
the circuit opened or closed does not change it. From closed it opens only by as many failures of
its generation as the threshold, with no success between them. And a probe that keeps a half-open
circuit waiting is still held. -/
theorem circuit_breaker (policy : AdmissionPolicy) (calls more : List Call) (d : Destination) :
    let s := (machine policy).reached calls
    let t := (machine policy).reached (calls ++ more)
    let past := history ((machine policy).trace calls)
    ((s.circuits d).phase = .opened → ∃ (permit : CircuitPermit) (now : Int),
      .decided d permit false now ∈ past ∧
      permit.generation + 1 = (s.circuits d).generation ∧
      ∀ start ∈ admissions ((machine policy).events s more), start.destination = d →
        min (now + (policy.destinations d).circuitOpenMilliseconds) maxSafeInteger ≤
          start.startedAt) ∧
    (∀ (i j : Nat) (leader other : LeaderExecution), s.leaders[i]? = some leader →
      s.leaders[j]? = some other → IsPending d leader → IsPending d other →
      leader.reservation.circuitPermit.halfOpen = true →
      other.reservation.circuitPermit.halfOpen = true → i = j) ∧
    (Turned policy d calls more → ∀ (i : Nat) (leader : LeaderExecution),
      s.leaders[i]? = some leader → leader.reservation.destination = d →
        ∀ call, leaderOf call = some i → (step policy t call).2.circuits = t.circuits) ∧
    ((s.circuits d).phase = .closed → (t.circuits d).phase ≠ .closed → ∃ between now after,
      history ((machine policy).trace (calls ++ more)) = past ++ between ++
        .decided d ⟨(s.circuits d).generation, false⟩ false now :: after ∧
      (policy.destinations d).circuitFailureThreshold ≤ streak (closedEnds d
        (s.circuits d).generation (past ++ between ++
          [.decided d ⟨(s.circuits d).generation, false⟩ false now]))) ∧
    ((s.circuits d).halfOpenProbeInFlight = true → (s.circuits d).phase = .halfOpen ∧
      ∃ leader ∈ s.leaders, leader.reservation.destination = d ∧
        leader.reservation.circuitPermit = ⟨(s.circuits d).generation, true⟩ ∧
        leader.physicallyComplete = false) := by
  intro s t past
  have hsound := reached_leadersSound policy calls
  have hcircuit := reached_circuitsSound policy calls d
  refine ⟨fun hopened => ?_, fun i j leader other hi hj hleader hother hhalf hhalf' =>
      (reached_probesCurrent policy calls d).unique hsound hcircuit hi hj hleader hother hhalf
        hhalf',
    fun hturned i leader hi hd call hcall => ?_, fun hclosed hopened => ?_, fun hflag => ?_⟩
  · obtain ⟨before, permit, now, after, hpast, hgeneration, huntil, -⟩ :=
      hcircuit.opened (by rw [hopened]; decide)
    refine ⟨permit, now, ?_, hgeneration, fun start hstart hd => ?_⟩
    · change _ ∈ history ((machine policy).trace calls)
      rw [hpast]
      exact List.mem_append_right _ List.mem_cons_self
    · have hwaits := opened_waits policy calls more d hopened start hstart hd
      rwa [huntil, openDeadline_eq] at hwaits
  · obtain ⟨leader', hi', hadvances⟩ :
        ∃ leader', t.leaders[i]? = some leader' ∧ Advances leader leader' := by
      change ∃ leader', ((machine policy).reached (calls ++ more)).leaders[i]? = some leader' ∧ _
      rw [Machine.reached_append]
      exact events_advance hsound more i leader hi
    refine step_stale policy hi' ?_ hcall
    have hle := hcircuit.generations leader (List.mem_of_getElem? hi) hd
    have hlt := hturned.generation_lt
    rw [IsStale, hadvances.destination, hadvances.circuitPermit, hd]
    exact (hle.trans_lt hlt).ne'
  · obtain ⟨hclosed', -⟩ | hopens := run_staysOrOpened policy calls more d hclosed
    · exact absurd hclosed' hopened
    · exact hopens
  · refine ⟨hcircuit.flag hflag, ?_⟩
    have hcount := hcircuit.probe
    rw [hflag, if_pos rfl] at hcount
    have hpositive : 0 < s.leaders.countP (isProbe d (s.circuits d)) := by
      change 0 < ((machine policy).reached calls).leaders.countP _
      rw [hcount]
      exact Nat.one_pos
    obtain ⟨leader, hleader, hprobe⟩ := List.countP_pos_iff.mp hpositive
    rw [isProbe, Bool.and_eq_true, Bool.and_eq_true, decide_eq_true_eq, decide_eq_true_eq,
      ← (hsound leader hleader).complete, Bool.not_eq_true'] at hprobe
    exact ⟨leader, hleader, hprobe.1.1, hprobe.1.2, hprobe.2⟩

/-- The policy of the sample with room for two reads of a destination. -/
def widePolicy : AdmissionPolicy :=
  { samplePolicy with destinations := fun _ => ⟨⟨2, 50, 1000, 2, 100⟩, 500, 1, 2000⟩ }

def sampleQuote (accountId : String) (now : Int) : Call := .readAccountScoped
  (.record 1 false false .plain
    [(.text "destination", .data (.string "LIFI_QUOTE") true),
      (.text "accountId", .data (.string accountId) true),
      (.text "workloadUnits", .data (.number 10) true)])
  true false false (some (.number now))

/-- Two reads are admitted, and the first one fails before the turn of the second one. -/
def lateTurnCalls : List Call :=
  [sampleQuote "11111111-1111-4111-8111-111111111111" 1000, .turn 0,
    sampleQuote "22222222-2222-4222-8222-222222222222" 1001,
    .operationSettled 0 false (some (.number 1002))]

/-- A read that fails near the largest time that the clock can show. -/
def cappedCalls : List Call :=
  [sampleRead 9007199254740891, .turn 0,
    .operationSettled 0 false (some (.number 9007199254740941))]

/-- The destination and the start of the operation of a leader. -/
def startOfLeader (s : State) (i : Nat) : Option (Destination × Bool) :=
  s.leaders[i]?.map fun leader => (leader.reservation.destination, leader.operationStarted)

/-- An open circuit does not stop the operation of a read that was admitted before it opened, and
near the largest time that the clock can show it admits a read earlier. -/
theorem starts_while_open :
    (((machine widePolicy).reached lateTurnCalls).circuits .lifiQuote).phase = .opened ∧
    .decided .lifiQuote ⟨0, false⟩ false 1002 ∈ history ((machine widePolicy).trace lateTurnCalls) ∧
    startOfLeader ((machine widePolicy).reached lateTurnCalls) 1 = some (.lifiQuote, false) ∧
    startOfLeader ((machine widePolicy).reached (lateTurnCalls ++ [.turn 1])) 1 =
      some (.lifiQuote, true) ∧
    ((machine widePolicy).reached (lateTurnCalls ++ [.turn 1])).lastObservedTime <
      1002 + (widePolicy.destinations .lifiQuote).circuitOpenMilliseconds ∧
    (((machine samplePolicy).reached cappedCalls).circuits .aaveV3EthereumMarket).phase = .opened ∧
    .decided .aaveV3EthereumMarket ⟨0, false⟩ false 9007199254740941 ∈
      history ((machine samplePolicy).trace cappedCalls) ∧
    ∃ start ∈ admissions ((machine samplePolicy).events ((machine samplePolicy).reached cappedCalls)
        [sampleRead 9007199254740991]),
      start.destination = .aaveV3EthereumMarket ∧ start.startedAt < 9007199254740941 +
        (samplePolicy.destinations .aaveV3EthereumMarket).circuitOpenMilliseconds := by
  exact ⟨rfl, List.mem_of_getElem? (i := 2) rfl, rfl, rfl, by decide, rfl,
    List.mem_cons_of_mem _ List.mem_cons_self, ⟨.aaveV3EthereumMarket, none, 10, 9007199254740991⟩,
    List.mem_cons_self, rfl, by decide⟩

end Runs

end CryptoLending.SmartLending.UpstreamReadBreaker
