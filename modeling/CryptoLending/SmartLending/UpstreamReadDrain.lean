import CryptoLending.SmartLending.UpstreamReadGuarantee

namespace CryptoLending.SmartLending.UpstreamReadDrain

open Lib Lib.JsObject UpstreamReadPolicy UpstreamReadAdmission UpstreamReadBudgets
  UpstreamReadUpdates UpstreamReadSteps UpstreamReadBooks UpstreamReadCircuits UpstreamReadLimits
  UpstreamReadGuarantee

section Advancing

/-- How far a read may get: what was decided of it once is not decided again. -/
structure Advances (leader leader' : LeaderExecution) : Prop where
  destination : leader'.reservation.destination = leader.reservation.destination
  workloadUnits : leader'.reservation.workloadUnits = leader.reservation.workloadUnits
  accountId : leader'.reservation.accountId = leader.reservation.accountId
  circuitPermit : leader'.reservation.circuitPermit = leader.reservation.circuitPermit
  turned : leader.turned = true →
    leader'.turned = true ∧ leader'.operationStarted = leader.operationStarted
  settled : leader.logicalSettled = true → leader'.logicalSettled = true ∧
    leader'.outcome = leader.outcome ∧
    leader'.reservation.circuitDisposition = leader.reservation.circuitDisposition
  complete : leader.physicallyComplete = true → leader'.physicallyComplete = true

/-- Every read of a state got to where it is in another. -/
def LeadersAdvance (s t : State) : Prop :=
  ∀ (i : Nat) (leader : LeaderExecution), s.leaders[i]? = some leader →
    ∃ leader', t.leaders[i]? = some leader' ∧ Advances leader leader'

variable {policy : AdmissionPolicy} {given : Option Reading} {past ms : List Mark} {s t u : State}
  {i : Nat} {leader leader' : LeaderExecution}

theorem Advances.refl (leader : LeaderExecution) : Advances leader leader :=
  ⟨rfl, rfl, rfl, rfl, fun h => ⟨h, rfl⟩, fun h => ⟨h, rfl, rfl⟩, id⟩

theorem Advances.trans {leader'' : LeaderExecution} (h : Advances leader leader')
    (h' : Advances leader' leader'') : Advances leader leader'' where
  destination := h'.destination.trans h.destination
  workloadUnits := h'.workloadUnits.trans h.workloadUnits
  accountId := h'.accountId.trans h.accountId
  circuitPermit := h'.circuitPermit.trans h.circuitPermit
  turned hturned := by
    obtain ⟨hturned', hstarted⟩ := h.turned hturned
    obtain ⟨hturned'', hstarted'⟩ := h'.turned hturned'
    exact ⟨hturned'', hstarted'.trans hstarted⟩
  settled hsettled := by
    obtain ⟨hsettled', houtcome, hdisposition⟩ := h.settled hsettled
    obtain ⟨hsettled'', houtcome', hdisposition'⟩ := h'.settled hsettled'
    exact ⟨hsettled'', houtcome'.trans houtcome, hdisposition'.trans hdisposition⟩
  complete hcomplete := h'.complete (h.complete hcomplete)

theorem LeadersAdvance.refl (s : State) : LeadersAdvance s s :=
  fun _ leader h => ⟨leader, h, .refl leader⟩

theorem LeadersAdvance.trans (h : LeadersAdvance s t) (h' : LeadersAdvance t u) :
    LeadersAdvance s u := by
  intro i leader hi
  obtain ⟨leader', hi', hadvances⟩ := h i leader hi
  obtain ⟨leader'', hi'', hadvances'⟩ := h' i leader' hi'
  exact ⟨leader'', hi'', hadvances.trans hadvances'⟩

theorem leadersAdvance_set (hi : s.leaders[i]? = some leader)
    (ht : t.leaders = s.leaders.set i leader') (h : Advances leader leader') :
    LeadersAdvance s t := by
  intro j other hj
  rw [ht]
  by_cases hij : i = j
  · subst hij
    obtain rfl := Option.some.inj (hi.symm.trans hj)
    exact ⟨leader', set_getElem? hi leader', h⟩
  · rw [List.getElem?_set_ne hij]
    exact ⟨other, hj, .refl other⟩

theorem settle_advances (hsettled : leader.logicalSettled = false)
    (disposition : CircuitDisposition) (outcome : UpstreamOutcome) :
    Advances leader (LeaderExecution.settle leader disposition outcome) :=
  ⟨rfl, rfl, rfl, rfl, fun h => ⟨h, rfl⟩, fun h => absurd (hsettled.symm.trans h) Bool.false_ne_true,
    id⟩

theorem turn_advances (hturned : leader.turned = false) :
    Advances leader (LeaderExecution.turn leader) :=
  ⟨rfl, rfl, rfl, rfl, fun h => absurd (hturned.symm.trans h) Bool.false_ne_true,
    fun h => ⟨h, rfl, rfl⟩, id⟩

theorem complete_advances (leader : LeaderExecution) :
    Advances leader (LeaderExecution.complete leader) :=
  ⟨rfl, rfl, rfl, rfl, fun h => ⟨h, rfl⟩, fun h => ⟨h, rfl, rfl⟩, fun _ => rfl⟩

theorem Update.advances (h : Update policy given s ms t) : LeadersAdvance s t := by
  cases h with
  | clockFault => exact .refl s
  | observed => exact .refl s
  | purged => exact .refl s
  | dropped => exact .refl s
  | admitted start permit circuit listening =>
    intro i leader hi
    have hlt := (List.getElem?_eq_some_iff.mp hi).1
    refine ⟨leader, ?_, .refl leader⟩
    change (s.leaders ++ [newLeader (reservationOf start permit) listening])[i]? = some leader
    rw [List.getElem?_append_left hlt, hi]
  | turned i leader hi hturned => exact leadersAdvance_set hi rfl (turn_advances hturned)
  | neutral i leader outcome hi hsettled =>
    exact leadersAdvance_set hi rfl (settle_advances hsettled .neutral outcome)
  | decided i leader outcome ok hi hsettled =>
    exact leadersAdvance_set hi rfl (settle_advances hsettled .recorded outcome)
  | released i leader hi hsettled hincomplete =>
    exact leadersAdvance_set hi (leaders_finishPhysical s i leader hincomplete)
      (complete_advances leader)

theorem Updates.advances (h : Updates policy given s ms t) : LeadersAdvance s t := by
  induction h with
  | refl => exact .refl s
  | tail _ hupdate ih => exact ih.trans (Update.advances hupdate)

theorem events_advance (hs : LeadersSound s) (calls : List Call) :
    LeadersAdvance s ((machine policy).run s calls) := by
  induction calls generalizing s with
  | nil => exact .refl s
  | cons call calls ih =>
    have hupdates := step_updates policy hs call
    exact (Updates.advances hupdates).trans (ih (hupdates.leadersSound hs))

/-- An operation that was started had its turn, and once it had it is not started again. Once a read
is answered or released this does not change, whatever happens afterwards. -/
theorem run_advances (policy : AdmissionPolicy) (calls more : List Call) :
    LeadersAdvance ((machine policy).reached calls)
        ((machine policy).reached (calls ++ more)) ∧
      ∀ leader ∈ ((machine policy).reached (calls ++ more)).leaders,
        leader.operationStarted = true → leader.turned = true := by
  refine ⟨?_, fun leader hleader => ?_⟩
  · rw [Machine.reached_append]
    exact events_advance (reached_leadersSound policy calls) more
  · exact (reached_leadersSound policy (calls ++ more) leader hleader).started

end Advancing

section Answering

/-- A read is settled by the outcome that its callers get. -/
def Answered (s : State) : Prop := ∀ leader ∈ s.leaders, leader.outcome.isSome = leader.logicalSettled

variable {policy : AdmissionPolicy} {given : Option Reading} {past ms : List Mark} {s t : State}
  {i : Nat} {leader : LeaderExecution}

theorem Answered.set (h : Answered s) (ht : t.leaders = s.leaders.set i leader)
    (hleader : leader.outcome.isSome = leader.logicalSettled) : Answered t := by
  intro other hother
  rw [ht] at hother
  obtain hother | rfl := List.mem_or_eq_of_mem_set hother
  · exact h other hother
  · exact hleader

theorem Update.answered (h : Update policy given s ms t) (hs : Answered s) : Answered t := by
  cases h with
  | clockFault => exact hs
  | observed => exact hs
  | purged => exact hs
  | dropped => exact hs
  | admitted start permit circuit listening =>
    intro leader hleader
    obtain hleader | hleader := List.mem_append.mp hleader
    · exact hs leader hleader
    · rw [List.mem_singleton.mp hleader]
      rfl
  | turned i leader hi => exact hs.set rfl (hs leader (List.mem_of_getElem? hi))
  | neutral i leader outcome => exact hs.set rfl rfl
  | decided i leader outcome => exact hs.set rfl rfl
  | released i leader hi hsettled hincomplete =>
    exact hs.set (leaders_finishPhysical s i leader hincomplete)
      (hs leader (List.mem_of_getElem? hi))

theorem reached_answered (policy : AdmissionPolicy) (calls : List Call) :
    Answered ((machine policy).reached calls) :=
  run_preserves policy (I := fun _ => Answered) (fun _ h hupdate => Update.answered hupdate h)
    [] leadersSound_initial (fun _ h => (by cases h)) calls

end Answering

section Disposing

/-- A read that was settled is released, unless its operation is still to end. -/
def Disposed (s : State) : Prop :=
  ∀ leader ∈ s.leaders, leader.logicalSettled = true →
    leader.operationStarted = true ∨ leader.physicallyComplete = true

variable {policy : AdmissionPolicy} {s t : State} {i : Nat} {leader leader' : LeaderExecution}

theorem Disposed.set (h : Disposed s) (ht : t.leaders = s.leaders.set i leader)
    (hleader : leader.logicalSettled = true →
      leader.operationStarted = true ∨ leader.physicallyComplete = true) : Disposed t := by
  intro other hother
  rw [ht] at hother
  obtain hother | rfl := List.mem_or_eq_of_mem_set hother
  · exact h other hother
  · exact hleader

variable (policy) in
theorem reserve_leaders (s : State) (destination : Destination) (w : Nat)
    (accountId : Option AccountId) (reading : Reading) :
    (reserve policy s destination w accountId reading).2.leaders = s.leaders := by
  rw [reserve]
  obtain ⟨now, _, hnow⟩ | hnow := now_cases s reading
  · rw [hnow]
    simp only
    split
    · rfl
    · split
      · rfl
      · rfl
  · rw [hnow]

theorem leaders_finishPhysical_set (ht : t.leaders = s.leaders.set i leader)
    (hincomplete : leader.physicallyComplete = false) :
    (finishPhysical t i leader).leaders = s.leaders.set i (LeaderExecution.complete leader) := by
  rw [leaders_finishPhysical t i leader hincomplete, ht, List.set_set]

/-- The abort of a caller leaves its read to the end of its operation or releases it. -/
theorem abortCaller_leaders (hs : LeadersSound s) (hi : s.leaders[i]? = some leader)
    (hsettled : leader.logicalSettled = false) :
    ∃ leader', (abortCaller policy s i leader).leaders = s.leaders.set i leader' ∧
      (leader'.operationStarted = true ∨ leader'.physicallyComplete = true) := by
  have hsound := hs.get hi
  obtain ⟨outcome, _, hleaders⟩ | ⟨haborted, _⟩ :=
    finishLogical_cases policy none none hsound hi hsettled .callerAborted
      (fun h => absurd rfl h) (fun h => absurd rfl h)
  · have hget : (finishLogical policy s i leader .callerAborted none).leaders[i]? =
        some (LeaderExecution.settle leader .neutral outcome) := by
      rw [hleaders, set_getElem? hi]
    rw [abortCaller]
    simp only [hget]
    split
    · rename_i hstarted
      exact ⟨_, hleaders, .inl hstarted⟩
    · have hincomplete : leader.physicallyComplete = false := by
        cases hcomplete : leader.physicallyComplete with
        | false => rfl
        | true => rw [hsound.released hcomplete] at hsettled; cases hsettled
      exact ⟨_, leaders_finishPhysical_set hleaders hincomplete, .inr rfl⟩
  · exact absurd rfl haborted

/-- A timeout leaves its read to the end of its operation. -/
theorem timeout_leaders (hs : LeadersSound s) (hi : s.leaders[i]? = some leader)
    (reading : Reading) :
    (timeout policy s i leader reading).leaders = s.leaders ∨
      ∃ leader', (timeout policy s i leader reading).leaders = s.leaders.set i leader' ∧
        leader'.operationStarted = true := by
  rw [timeout]
  split
  · rename_i hfires
    obtain ⟨hturned, hnot⟩ := (Bool.and_eq_true _ _).mp hfires
    have hsettled : leader.logicalSettled = false := by simpa using hnot
    have hstarted : leader.operationStarted = true := by
      obtain h | h := (hs.get hi).turned hturned
      · exact h
      · rw [h] at hsettled
        cases hsettled
    obtain ⟨outcome, _, hleaders⟩ | ⟨_, _, hleaders⟩ :=
      finishLogical_cases policy (some reading) reading (hs.get hi) hi hsettled .upstreamTimeout
        (fun _ => hstarted) (fun _ => rfl)
    · exact .inr ⟨_, hleaders, hstarted⟩
    · exact .inr ⟨_, hleaders, hstarted⟩
  · exact .inl rfl

variable (policy) in
/-- The end of its operation releases a read. -/
theorem operationSettled_leaders (hs : LeadersSound s) (hi : s.leaders[i]? = some leader)
    (hstarted : leader.operationStarted = true) (hincomplete : leader.physicallyComplete = false)
    (ok : Bool) (reading : Reading) :
    ∃ leader', (operationSettled policy s i leader ok reading).leaders = s.leaders.set i leader' ∧
      leader'.physicallyComplete = true := by
  have hends : ∀ leader', (finishLogical policy s i leader (if ok then .ok else .upstreamFailed)
      reading).leaders[i]? = some leader' → operationSettled policy s i leader ok reading =
        finishPhysical (finishLogical policy s i leader (if ok then .ok else .upstreamFailed)
          reading) i leader' := by
    intro leader' hleader'
    rw [operationSettled, if_pos (by simp [hstarted, hincomplete])]
    simp only
    rw [hleader']
  cases hsettled : leader.logicalSettled with
  | true =>
    have hfinish : finishLogical policy s i leader (if ok then .ok else .upstreamFailed) reading =
        s := by
      rw [finishLogical, if_pos hsettled]
    rw [hends leader (by rw [hfinish]; exact hi), hfinish]
    exact ⟨_, leaders_finishPhysical s i leader hincomplete, rfl⟩
  | false =>
    obtain ⟨outcome, _, hleaders⟩ | ⟨_, _, hleaders⟩ :=
      finishLogical_cases policy (some reading) reading (hs.get hi) hi hsettled
        (if ok then .ok else .upstreamFailed) (fun _ => hstarted) (fun _ => rfl)
    · have hget := set_getElem? hi (LeaderExecution.settle leader .neutral outcome)
      rw [← hleaders] at hget
      rw [hends _ hget]
      exact ⟨_, leaders_finishPhysical_set hleaders hincomplete, rfl⟩
    · have hget := set_getElem? hi (LeaderExecution.settle leader .recorded
        (if ok then .ok else .upstreamFailed))
      rw [← hleaders] at hget
      rw [hends _ hget]
      exact ⟨_, leaders_finishPhysical_set hleaders hincomplete, rfl⟩

/-- The turn of an operation decides whether it starts. -/
theorem turn_leaders (hi : s.leaders[i]? = some leader) :
    ∃ leader', (turn s i leader).leaders = s.leaders.set i leader' ∧ leader'.turned = true ∧
      (leader'.logicalSettled = true → leader.logicalSettled = true) ∧
      (leader.operationStarted = true → leader'.operationStarted = true) ∧
      (leader.physicallyComplete = true → leader'.physicallyComplete = true) := by
  rw [turn]
  split
  · rename_i hturned
    obtain ⟨hlt, rfl⟩ := List.getElem?_eq_some_iff.mp hi
    exact ⟨_, (List.set_getElem_self hlt).symm, hturned, id, id, id⟩
  · split
    · exact ⟨_, rfl, rfl, id, id, id⟩
    · exact ⟨_, rfl, rfl, id, fun _ => rfl, id⟩

theorem Disposed.started (h : Disposed s) (ht : t.leaders = s.leaders) (r : Reservation)
    (listening : Bool) : Disposed (t.startLeader r listening) := by
  intro other hother
  rw [State.startLeader, ht] at hother
  obtain hother | hother := List.mem_append.mp hother
  · exact h other hother
  · rw [List.mem_singleton.mp hother]
    intro hsettled
    cases hsettled

theorem readSharedMarket_disposed (h : Disposed s) (request : Datum) (isFunction aborted : Bool)
    (reading : Reading) :
    Disposed (readSharedMarket policy s request isFunction aborted reading).2 := by
  unfold readSharedMarket
  split
  · exact h
  split
  · exact h
  split
  · exact h
  split
  · exact h
  split
  · exact h
  rename_i parsed _ _ _ _ _ _ _
  have hleaders := reserve_leaders policy
    { s with sharedFlights := s.sharedFlights.delete parsed.destination } parsed.destination
    parsed.workloadUnits none reading
  simp only
  split
  · rename_i hreserve
    rw [hreserve] at hleaders
    intro leader hleader
    exact h leader (hleaders ▸ hleader)
  · rename_i now r s' hreserve
    rw [hreserve] at hleaders
    exact h.started hleaders r false

theorem readAccountScoped_disposed (hs : LeadersSound s) (h : Disposed s) (request : Datum)
    (isFunction aborted abortedMeanwhile : Bool) (reading : Reading) :
    Disposed (readAccountScoped policy s request isFunction aborted abortedMeanwhile reading).2 := by
  unfold readAccountScoped
  split
  · exact h
  split
  · exact h
  split
  · exact h
  split
  · exact h
  rename_i parsed hparsed _ _ _ _
  have hleaders := reserve_leaders policy s parsed.destination parsed.workloadUnits
    (some parsed.accountId) reading
  split
  · rename_i hreserve
    rw [hreserve] at hleaders
    intro leader hleader
    exact h leader (hleaders ▸ hleader)
  · rename_i now r s' hreserve
    rw [hreserve] at hleaders
    obtain ⟨t, permit, circuit, hreserved⟩ := reserve_ok hreserve
    have hadmitted := hreserved.admitted (decide (parsed.signal ≠ .absent)) fun h => (by cases h)
    have hr := hreserved.reservation
    have hafter := hreserved.after
    have hstarted := h.started hleaders r (decide (parsed.signal ≠ .absent))
    subst hr hafter
    simp only
    split
    · obtain ⟨leader', hset, hdisposed⟩ := abortCaller_leaders (hadmitted.leadersSound hs)
        (startLeader_getElem? _ _ _) rfl
      exact hstarted.set hset fun _ => hdisposed
    · exact hstarted

theorem onLeader_disposed {f : LeaderExecution → State} (h : Disposed s)
    (hf : ∀ leader, s.leaders[i]? = some leader → Disposed (f leader)) :
    Disposed (onLeader s i f).2 := by
  rw [onLeader]
  cases hi : s.leaders[i]? with
  | none => exact h
  | some leader => exact hf leader hi

variable (policy) in
theorem step_disposed (hs : LeadersSound s) (h : Disposed s) (call : Call) :
    Disposed (step policy s call).2 := by
  cases call with
  | readSharedMarket request isFunction aborted reading =>
    exact readSharedMarket_disposed h request isFunction aborted reading
  | readAccountScoped request isFunction aborted abortedMeanwhile reading =>
    exact readAccountScoped_disposed hs h request isFunction aborted abortedMeanwhile reading
  | turn i =>
    refine onLeader_disposed h fun leader hi => ?_
    obtain ⟨leader', hset, _, hsettled, hstarted, hcomplete⟩ := turn_leaders hi
    exact h.set hset fun hlogical =>
      (h leader (List.mem_of_getElem? hi) (hsettled hlogical)).imp hstarted hcomplete
  | operationSettled i ok reading =>
    refine onLeader_disposed h fun leader hi => ?_
    by_cases hends : leader.operationStarted = true ∧ leader.physicallyComplete = false
    · obtain ⟨leader', hset, hcomplete⟩ :=
        operationSettled_leaders policy hs hi hends.1 hends.2 ok reading
      exact h.set hset fun _ => .inr hcomplete
    · rw [operationSettled, if_neg (by simpa using hends)]
      exact h
  | timeout i reading =>
    refine onLeader_disposed h fun leader hi => ?_
    obtain hsame | ⟨leader', hset, hstarted⟩ := timeout_leaders hs hi reading
    · exact fun other hother => h other (hsame ▸ hother)
    · exact h.set hset fun _ => .inl hstarted
  | callerAborted i =>
    refine onLeader_disposed h fun leader hi => ?_
    rw [callerAborted]
    split
    · rename_i hlistening
      obtain ⟨leader', hset, hdisposed⟩ :=
        abortCaller_leaders hs hi ((hs.get hi).listening hlistening)
      exact h.set hset fun _ => hdisposed
    · exact h
  | physicalCompletion i =>
    refine onLeader_disposed h fun leader hi => ?_
    rw [physicalCompletion]
    split
    · exact h
    · exact h

theorem events_disposed (hs : LeadersSound s) (h : Disposed s) (calls : List Call) :
    Disposed ((machine policy).run s calls) := by
  induction calls generalizing s with
  | nil => exact h
  | cons call calls ih =>
    exact ih ((step_updates policy hs call).leadersSound hs) (step_disposed policy hs h call)

end Disposing

section Draining

/-- The turn and the end of every operation, one after another. -/
def drainCalls (n : Nat) (ends : Nat → Bool × Reading) : List Call :=
  (List.range n).flatMap fun i => [.turn i, .operationSettled i (ends i).1 (ends i).2]

variable {policy : AdmissionPolicy} {s : State} {i : Nat} {leader : LeaderExecution}

theorem onLeader_some {f : LeaderExecution → State} (hi : s.leaders[i]? = some leader) :
    (onLeader s i f).2 = f leader := by
  rw [onLeader, hi]
  rfl

variable (policy) in
/-- Once its operation ended, a read is released. -/
theorem ended_complete (hs : LeadersSound s) (h : Disposed s) (hi : s.leaders[i]? = some leader)
    (ok : Bool) (reading : Reading) :
    ∃ leader', ((machine policy).run s [.turn i, .operationSettled i ok reading]).leaders =
      s.leaders.set i leader' ∧ leader'.physicallyComplete = true := by
  have hturn : (step policy s (.turn i)).2 = turn s i leader := onLeader_some hi
  obtain ⟨turned, hset, hturned, hrest⟩ := turn_leaders hi
  have hs' := (step_updates policy hs (.turn i)).leadersSound hs
  have h' := step_disposed policy hs h (.turn i)
  change ∃ leader', (step policy (step policy s (.turn i)).2 _).2.leaders = _ ∧ _
  rw [hturn] at hs' h' ⊢
  have hi' : (turn s i leader).leaders[i]? = some turned := by
    rw [hset]
    exact set_getElem? hi turned
  have hmem := List.mem_of_getElem? hi'
  have hend : (step policy (turn s i leader) (.operationSettled i ok reading)).2 =
      operationSettled policy (turn s i leader) i turned ok reading := onLeader_some hi'
  rw [hend]
  by_cases hends : turned.operationStarted = true ∧ turned.physicallyComplete = false
  · obtain ⟨leader', hset', hcomplete⟩ := operationSettled_leaders policy hs' hi' hends.1 hends.2 ok reading
    refine ⟨leader', ?_, hcomplete⟩
    rw [hset', hset, List.set_set]
  · rw [operationSettled, if_neg (by simpa using hends)]
    refine ⟨turned, hset, ?_⟩
    have hover : turned.operationStarted = true ∨ turned.physicallyComplete = true :=
      ((hs' turned hmem).turned hturned).elim .inl (h' turned hmem)
    obtain hstarted | hcomplete := hover
    · by_contra hincomplete
      exact hends ⟨hstarted, by simpa using hincomplete⟩
    · exact hcomplete

theorem drained_complete (hs : LeadersSound s) (h : Disposed s) (ends : Nat → Bool × Reading)
    (n : Nat) (hn : n ≤ s.leaders.length) :
    let t := (machine policy).run s (drainCalls n ends)
    t.leaders.length = s.leaders.length ∧
      ∀ i < n, ∃ leader, t.leaders[i]? = some leader ∧ leader.physicallyComplete = true := by
  induction n with
  | zero => exact ⟨rfl, fun _ hi => absurd hi (Nat.not_lt_zero _)⟩
  | succ n ih =>
    obtain ⟨hlength, hcomplete⟩ := ih (by omega)
    have hcalls : drainCalls (n + 1) ends =
        drainCalls n ends ++ [.turn n, .operationSettled n (ends n).1 (ends n).2] := by
      rw [drainCalls, List.range_succ, List.flatMap_append, List.flatMap_singleton]
      rfl
    rw [hcalls, Machine.run_append]
    generalize ht : (machine policy).run s (drainCalls n ends) = t at hlength hcomplete
    have hsound : LeadersSound t := ht ▸ events_leadersSound hs _
    have hdisposed : Disposed t := ht ▸ events_disposed hs h _
    have hi : t.leaders[n]? = some (t.leaders[n]) := List.getElem?_eq_getElem _
    obtain ⟨leader', hset, hleader'⟩ :=
      ended_complete policy hsound hdisposed hi (ends n).1 (ends n).2
    intro u
    have hu : u.leaders = t.leaders.set n leader' := hset
    refine ⟨by rw [hu, List.length_set, hlength], fun i hi' => ?_⟩
    rw [hu]
    by_cases hin : n = i
    · subst hin
      exact ⟨leader', set_getElem? hi leader', hleader'⟩
    · rw [List.getElem?_set_ne hin]
      exact hcomplete i (by omega)

theorem reached_disposed (policy : AdmissionPolicy) (calls : List Call) :
    Disposed ((machine policy).reached calls) :=
  events_disposed leadersSound_initial (fun _ h => (by cases h)) calls

theorem held_complete (hs : LeadersSound s)
    (h : ∀ leader ∈ s.leaders, leader.physicallyComplete = true) (scope : Scope) :
    held scope s.leaders = [] := by
  rw [held, List.map_eq_nil_iff, List.filter_eq_nil_iff]
  intro leader hleader
  rw [← (hs leader hleader).complete, h leader hleader]
  simp

theorem currentFlight_complete (h : ∀ leader ∈ s.leaders, leader.physicallyComplete = true)
    (d : Destination) : s.currentFlight d = none := by
  rw [State.currentFlight]
  cases s.sharedFlights.get d with
  | none => rfl
  | some i =>
    cases hi : s.leaders[i]? with
    | none => simp [hi]
    | some leader => simp [hi, h leader (List.mem_of_getElem? hi)]

/-- Whatever happened before, the ends of the operations release all that was reserved: every read
is answered, no budget holds anything, and no circuit waits for a probe. -/
theorem drained_releases (policy : AdmissionPolicy) (calls : List Call)
    (ends : Nat → Bool × Reading) :
    let s := (machine policy).reached calls
    let t := (machine policy).run s (drainCalls s.leaders.length ends)
    (∀ leader ∈ t.leaders, leader.physicallyComplete = true ∧ leader.outcome.isSome = true) ∧
      (∀ scope, (State.budget t scope).inFlightRequests = 0 ∧
        (State.budget t scope).inFlightWorkloadUnits = 0) ∧
      ∀ d, (t.circuits d).halfOpenProbeInFlight = false ∧ t.currentFlight d = none := by
  intro s t
  have ht : t = (machine policy).reached (calls ++ drainCalls s.leaders.length ends) :=
    (Machine.reached_append _ _).symm
  have hsound : LeadersSound t := ht ▸ reached_leadersSound policy _
  have hcomplete : ∀ leader ∈ t.leaders, leader.physicallyComplete = true := by
    obtain ⟨hlength, hall⟩ := drained_complete (reached_leadersSound policy calls)
      (reached_disposed policy calls) ends s.leaders.length le_rfl
    intro leader hleader
    obtain ⟨i, hlt, rfl⟩ := List.mem_iff_getElem.mp hleader
    obtain ⟨leader', hi, hcomplete⟩ := hall i (hlength ▸ hlt)
    obtain rfl := Option.some.inj ((List.getElem?_eq_getElem hlt).symm.trans hi)
    exact hcomplete
  refine ⟨fun leader hleader => ⟨hcomplete leader hleader, ?_⟩, fun scope => ?_, fun d => ?_⟩
  · have hanswered : Answered t := ht ▸ reached_answered policy _
    rw [hanswered leader hleader]
    exact (hsound leader hleader).released (hcomplete leader hleader)
  · obtain ⟨hrequests, hworkload, _⟩ :=
      inFlight_within policy (calls ++ drainCalls s.leaders.length ends) scope
    rw [← ht, held_complete hsound hcomplete] at hrequests hworkload
    exact ⟨hrequests, hworkload⟩
  · refine ⟨?_, currentFlight_complete hcomplete d⟩
    have hprobe := (reached_circuitsSound policy (calls ++ drainCalls s.leaders.length ends) d).probe
    rw [← ht] at hprobe
    have hnone : t.leaders.countP (isProbe d (t.circuits d)) = 0 := by
      rw [List.countP_eq_zero]
      intro leader hleader
      rw [isProbe, ← (hsound leader hleader).complete, hcomplete leader hleader]
      simp
    rw [hnone] at hprobe
    cases hflag : (t.circuits d).halfOpenProbeInFlight with
    | false => rfl
    | true =>
      rw [hflag] at hprobe
      cases hprobe

end Draining

end CryptoLending.SmartLending.UpstreamReadDrain
