import Mathlib.Data.List.DropRight
import Mathlib.Tactic.SplitIfs
import CryptoLending.SmartLending.UpstreamReadBudgets
import CryptoLending.SmartLending.UpstreamReadSteps

namespace CryptoLending.SmartLending.UpstreamReadBooks

open Lib Lib.SlidingWindow UpstreamReadPolicy UpstreamReadAdmission UpstreamReadBudgets
  UpstreamReadUpdates UpstreamReadSteps

/-- The reads that were admitted. -/
def startsOf (past : List Mark) : List Start :=
  past.filterMap fun
    | .started start _ => some start
    | .decided .. => none

/-- What the budgets of all scopes show of the reads so far. -/
structure Books (policy : AdmissionPolicy) (past : List Mark) (s : State) : Prop where
  tracks : ∀ scope : Scope, Tracks (scope.policy policy) s.lastObservedTime (held scope s.leaders)
    (logOf scope (startsOf past)) (State.budget s scope)
  within : ∀ scope : Scope, Within (scope.policy policy) (held scope s.leaders)
    (logOf scope (startsOf past))
  last : ∀ start ∈ startsOf past, start.startedAt ≤ s.lastObservedTime
  sorted : (startsOf past).Pairwise fun a b => a.startedAt ≤ b.startedAt
  accounts : s.accountStates.size ≤ policy.accountScopedLifi.maximumTrackedAccounts

section Purging

variable {policy : AdmissionPolicy} {s : State}

theorem purgeRateWindow_idem (b : BudgetState) (policy : BudgetPolicy) (now : Int) :
    purgeRateWindow (purgeRateWindow b policy now) policy now = purgeRateWindow b policy now := by
  let p := fun entry : RateEntry => decide (entry.startedAt ≤ cutoff policy now)
  have hdrop : (b.rateEntries.dropWhile p).dropWhile p = b.rateEntries.dropWhile p :=
    List.dropWhile_idempotent ..
  have htake : (b.rateEntries.dropWhile p).takeWhile p = [] := by
    have happend := List.takeWhile_append_dropWhile (p := p) (l := b.rateEntries.dropWhile p)
    rw [hdrop] at happend
    exact List.append_left_eq_self.mp happend
  change BudgetState.mk _ _ ((b.rateEntries.dropWhile p).dropWhile p)
    (_ - (unitsOf ((b.rateEntries.dropWhile p).takeWhile p) : Int)) = _
  rw [hdrop, htake]
  simp only [unitsOf, List.map_nil, List.sum_nil, Nat.cast_zero, sub_zero]
  rfl

/-- An account without anything that counts is forgotten. -/
theorem get_pruneAccountStates {accounts : JsMap AccountId BudgetState}
    (h : accounts.size ≤ policy.accountScopedLifi.maximumTrackedAccounts) (now : Int)
    (id : AccountId) :
    (pruneAccountStates policy accounts now).get id = ((accounts.get id).map fun b =>
        purgeRateWindow b policy.accountScopedLifi.toBudgetPolicy now).filter fun b =>
      !decide (b.inFlightRequests = 0 ∧ b.rateEntries = []) := by
  simp only [pruneAccountStates]
  split
  · rename_i hempty
    rw [JsMap.get_of_size (by omega)]
    rfl
  · rw [JsMap.get_foldl_delete, JsMap.get_mapValues]
    have hmem : ∀ b, (accounts.mapValues fun b =>
        purgeRateWindow b policy.accountScopedLifi.toBudgetPolicy now).get id = some b →
        (id ∈ ((accounts.mapValues fun b => purgeRateWindow b
          policy.accountScopedLifi.toBudgetPolicy now).entries.filter fun entry =>
            decide (entry.2.inFlightRequests = 0 ∧ entry.2.rateEntries = [])).map Prod.fst ↔
          b.inFlightRequests = 0 ∧ b.rateEntries = []) := by
      intro b hb
      simp only [List.mem_map, List.mem_filter, decide_eq_true_eq]
      constructor
      · rintro ⟨⟨_, b'⟩, ⟨hentry, hidle⟩, rfl⟩
        obtain rfl := Option.some.inj (hb.symm.trans ((JsMap.get_eq_some_iff _).mpr hentry))
        exact hidle
      · intro hidle
        exact ⟨(id, b), ⟨(JsMap.get_eq_some_iff _).mp hb, hidle⟩, rfl⟩
    cases hget : accounts.get id with
    | none => exact ite_self _
    | some b =>
      rw [Option.map_some]
      have hb := hmem (purgeRateWindow b policy.accountScopedLifi.toBudgetPolicy now)
        (by rw [JsMap.get_mapValues, hget, Option.map_some])
      by_cases hidle : (purgeRateWindow b policy.accountScopedLifi.toBudgetPolicy
          now).inFlightRequests = 0 ∧ (purgeRateWindow b policy.accountScopedLifi.toBudgetPolicy
          now).rateEntries = []
      · rw [if_pos (hb.mpr hidle), Option.filter_some, decide_eq_true hidle]
        rfl
      · rw [if_neg (mt hb.mp hidle), Option.filter_some, decide_eq_false hidle]
        rfl

variable (policy) in
theorem size_pruneAccountStates_le (accounts : JsMap AccountId BudgetState) (now : Int) :
    (pruneAccountStates policy accounts now).size ≤ accounts.size := by
  simp only [pruneAccountStates]
  split
  · exact le_rfl
  · refine (JsMap.size_foldl_delete_le _ _).trans ?_
    rw [JsMap.size_mapValues]

theorem size_purge_le (destination : Destination) (accountId : Option AccountId) (now : Int) :
    (s.purge policy destination accountId now).accountStates.size ≤ s.accountStates.size := by
  have hpruned := size_pruneAccountStates_le policy s.accountStates now
  cases accountId with
  | none => exact hpruned
  | some id =>
    simp only [State.purge]
    split
    · exact hpruned
    · rename_i b hb
      rwa [JsMap.size_set _ hb]

/-- Purging the budget of the account that asks has no further effect. -/
theorem get_purge (h : s.accountStates.size ≤ policy.accountScopedLifi.maximumTrackedAccounts)
    (destination : Destination) (accountId : Option AccountId) (now : Int) (id : AccountId) :
    (s.purge policy destination accountId now).accountStates.get id =
      (pruneAccountStates policy s.accountStates now).get id := by
  cases accountId with
  | none => rfl
  | some j =>
    simp only [State.purge]
    split
    · rfl
    · rename_i b hb
      rw [JsMap.get_set]
      split
      · rename_i hid
        have hpurged := hb
        rw [get_pruneAccountStates h, Option.filter_eq_some_iff, Option.map_eq_some_iff] at hpurged
        obtain ⟨⟨b₀, _, rfl⟩, _⟩ := hpurged
        rw [purgeRateWindow_idem, hid, hb]
      · rfl

theorem budget_purge (h : s.accountStates.size ≤ policy.accountScopedLifi.maximumTrackedAccounts)
    {units : List Nat} {log : List RateEntry} {scope : Scope} (destination : Destination)
    (accountId : Option AccountId)
    (htracks : Tracks (scope.policy policy) s.lastObservedTime units log (State.budget s scope)) :
    Tracks (scope.policy policy) s.lastObservedTime units log
      (State.budget (s.purge policy destination accountId s.lastObservedTime) scope) := by
  cases scope with
  | global => exact htracks.purge le_rfl
  | destination d =>
    change Tracks _ _ _ _ (Function.update s.destinationBudgets destination _ d)
    by_cases hd : d = destination
    · subst hd
      rw [Function.update_self]
      exact htracks.purge le_rfl
    · rw [Function.update_of_ne hd]
      exact htracks
  | account id =>
    change Tracks _ _ _ _ (((s.purge policy destination accountId
      s.lastObservedTime).accountStates.get id).getD budgetState)
    rw [get_purge h, get_pruneAccountStates h]
    change Tracks _ _ _ _ ((s.accountStates.get id).getD budgetState) at htracks
    cases hget : s.accountStates.get id with
    | none =>
      rw [hget] at htracks
      exact htracks
    | some b =>
      rw [hget] at htracks
      have hpurged := htracks.purge (le_refl s.lastObservedTime)
      rw [Option.map_some, Option.filter_some]
      split
      · exact hpurged
      · rename_i hidle
        rw [Bool.not_eq_true', Bool.not_eq_false, decide_eq_true_eq] at hidle
        exact hpurged.forget hidle.1 hidle.2

end Purging

section Changing

variable {policy : AdmissionPolicy} {past : List Mark} {s : State} {i : Nat}
  {leader leader' : LeaderExecution}

theorem startsOf_append (past ms : List Mark) : startsOf (past ++ ms) = startsOf past ++ startsOf ms :=
  List.filterMap_append

theorem Books.purged (h : Books policy past s) (destination : Destination)
    (accountId : Option AccountId) :
    Books policy past (s.purge policy destination accountId s.lastObservedTime) where
  tracks scope := budget_purge h.accounts destination accountId (h.tracks scope)
  within := h.within
  last := h.last
  sorted := h.sorted
  accounts := (size_purge_le destination accountId s.lastObservedTime).trans h.accounts

theorem Books.observed (h : Books policy past s) {now : Int} (hle : s.lastObservedTime ≤ now) :
    Books policy past { s with lastObservedTime := now } where
  tracks scope := by cases scope <;> exact (h.tracks _).mono hle
  within := h.within
  last start hstart := (h.last start hstart).trans hle
  sorted := h.sorted
  accounts := h.accounts

/-- A change of a leader that keeps its reservation changes no budget. -/
theorem Books.setLeader (h : Books policy past s) (hi : s.leaders[i]? = some leader)
    (leader' : LeaderExecution) (hsame : SameHold leader leader') :
    Books policy past (s.setLeader i leader') where
  tracks scope := by
    have htracks := h.tracks scope
    rw [← held_set_same hi hsame] at htracks
    cases scope <;> exact htracks
  within scope := by
    have hwithin := h.within scope
    rw [← held_set_same hi hsame] at hwithin
    exact hwithin
  last := h.last
  sorted := h.sorted
  accounts := h.accounts

theorem budget_book (s : State) (destination : Destination) (w : Nat) (accountId : Option AccountId)
    (circuit : CircuitState) (now : Int) (scope : Scope) :
    State.budget (s.book destination w accountId circuit now) scope =
      if scope.covers destination accountId then reserveBudget (State.budget s scope) w now
      else State.budget s scope := by
  cases scope with
  | global => rfl
  | destination d =>
    simp only [State.budget, State.book, Scope.covers, decide_eq_true_eq]
    by_cases hd : destination = d
    · subst hd
      rw [Function.update_self, if_pos rfl]
    · rw [Function.update_of_ne (Ne.symm hd), if_neg hd]
  | account id =>
    cases accountId with
    | none => simp [State.budget, State.book, Scope.covers]
    | some j =>
      simp only [State.budget, State.book, Scope.covers, decide_eq_true_eq, Option.some.injEq,
        JsMap.get_set]
      by_cases hid : id = j
      · subst hid
        rw [if_pos rfl, if_pos rfl, Option.getD_some]
      · rw [if_neg hid, if_neg (Ne.symm hid)]

theorem refusals_none {p q r : Prop} [Decidable p] [Decidable q] [Decidable r] {a b c : ErrorCode}
    (h : (if p then some a else if q then some b else if r then some c else none) = none) :
    ¬p ∧ ¬q ∧ ¬r := by
  split_ifs at h with hp hq hr
  exact ⟨hp, hq, hr⟩

theorem budgetRefusal_none {destination : Destination} {w : Nat} {accountId : Option AccountId}
    (h : s.budgetRefusal policy destination w accountId = none) :
    (∀ scope : Scope, scope.covers destination accountId = true →
      budgetAllows (State.budget s scope) (scope.policy policy) w = .allowed) ∧
    ∀ id, accountId = some id → s.accountStates.get id = none →
      s.accountStates.size < policy.accountScopedLifi.maximumTrackedAccounts := by
  obtain ⟨htracked, hconcurrency, hrate⟩ := refusals_none h
  generalize hresults : (_ ++ _ : List BudgetResult) = results at hconcurrency hrate
  have hallowed : ∀ r ∈ results, r = .allowed := by
    intro r hr
    cases r with
    | allowed => rfl
    | concurrency => exact absurd hr hconcurrency
    | rate => exact absurd hr hrate
  refine ⟨fun scope hcovers => ?_, ?_⟩
  · cases scope with
    | global => exact hallowed _ (by simp [← hresults, State.budget, Scope.policy])
    | destination d =>
      obtain rfl := of_decide_eq_true hcovers
      exact hallowed _ (by simp [← hresults, State.budget, Scope.policy])
    | account id =>
      obtain rfl := of_decide_eq_true hcovers
      exact hallowed _ (by simp [← hresults, State.budget, Scope.policy])
  · rintro id rfl hnone
    simpa [hnone] using htracked

theorem held_newLeader (scope : Scope) (start : Start) (permit : CircuitPermit) (listening : Bool) :
    held scope [newLeader (reservationOf start permit) listening] =
      if scope.covers start.destination start.accountId then [start.workloadUnits] else [] := by
  by_cases hcovers : scope.covers start.destination start.accountId = true
  · simp [held, newLeader, reservationOf, hcovers]
  · simp [held, newLeader, reservationOf, hcovers]

theorem size_book_le {accountId : Option AccountId}
    (h : s.accountStates.size ≤ policy.accountScopedLifi.maximumTrackedAccounts)
    (hnew : ∀ id, accountId = some id → s.accountStates.get id = none →
      s.accountStates.size < policy.accountScopedLifi.maximumTrackedAccounts)
    (destination : Destination) (w : Nat) (circuit : CircuitState) (now : Int) :
    (s.book destination w accountId circuit now).accountStates.size ≤
      policy.accountScopedLifi.maximumTrackedAccounts := by
  cases accountId with
  | none => exact h
  | some id =>
    simp only [State.book]
    cases hget : s.accountStates.get id with
    | none =>
      rw [JsMap.size_set_fresh _ hget]
      exact hnew id rfl hget
    | some b => rwa [JsMap.size_set _ hget]

/-- What is admitted is booked in the scopes that it is in. -/
theorem Books.admitted (h : Books policy past s) {start : Start} {permit : CircuitPermit}
    {circuit : CircuitState} (listening : Bool) (hstart : start.startedAt = s.lastObservedTime)
    (hbudgets : s.budgetRefusal policy start.destination start.workloadUnits start.accountId = none) :
    Books policy (past ++ [.started start permit])
      (State.accept s start permit circuit listening) := by
  obtain ⟨hallowed, hnew⟩ := budgetRefusal_none hbudgets
  have hstarts : startsOf (past ++ [.started start permit]) = startsOf past ++ [start] :=
    startsOf_append ..
  have hheld : ∀ scope : Scope, held scope (s.leaders ++
      [newLeader (reservationOf start permit) listening]) = held scope s.leaders ++
        if scope.covers start.destination start.accountId then [start.workloadUnits] else [] := by
    intro scope
    rw [held_append, held_newLeader]
  have hbudget : ∀ scope : Scope, State.budget (State.accept s start permit circuit listening) scope =
      if scope.covers start.destination start.accountId then
        reserveBudget (State.budget s scope) start.workloadUnits start.startedAt
      else State.budget s scope := by
    intro scope
    rw [← budget_book s start.destination start.workloadUnits start.accountId circuit]
    cases scope <;> rfl
  refine ⟨fun scope => ?_, fun scope => ?_, fun other hother => ?_, ?_,
    size_book_le h.accounts hnew start.destination start.workloadUnits circuit start.startedAt⟩
  · change Tracks _ s.lastObservedTime (held scope (s.leaders ++ _)) _ _
    rw [hstarts, hheld, hbudget, logOf_append]
    split
    · rw [hstart]
      exact (h.tracks scope).reserve
    · rw [List.append_nil, List.append_nil]
      exact h.tracks scope
  · change Within _ (held scope (s.leaders ++ _)) _
    rw [hstarts, hheld, logOf_append]
    split
    · rename_i hcovers
      rw [hstart]
      exact (h.within scope).reserve (h.tracks scope) (hallowed scope hcovers) (mem_logOf h.last)
    · rw [List.append_nil, List.append_nil]
      exact h.within scope
  · rw [hstarts] at hother
    obtain hother | hother := List.mem_append.mp hother
    · exact h.last other hother
    · rw [List.mem_singleton.mp hother]
      exact hstart.le
  · rw [hstarts, List.pairwise_append]
    refine ⟨h.sorted, List.pairwise_singleton _ _, fun a ha b hb => ?_⟩
    rw [List.mem_singleton.mp hb, hstart]
    exact h.last a ha

end Changing

section Releasing

/-- The state without the reservation of a leader. -/
def State.free (s : State) (reservation : Reservation) : State :=
  { s with
    globalState := (releaseBudget s.globalState reservation.workloadUnits).1
    destinationBudgets := Function.update s.destinationBudgets reservation.destination
      (releaseBudget (s.destinationBudgets reservation.destination) reservation.workloadUnits).1
    circuits :=
      if reservation.circuitDisposition = .neutral then
        Function.update s.circuits reservation.destination (releaseNeutralCircuitPermit
          (s.circuits reservation.destination) reservation.circuitPermit)
      else s.circuits
    accountStates := match reservation.accountId with
      | none => s.accountStates
      | some id => s.accountStates.set id (releaseBudget ((s.accountStates.get id).getD budgetState)
          reservation.workloadUnits).1 }

variable {policy : AdmissionPolicy} {past : List Mark} {s : State} {i : Nat}
  {leader : LeaderExecution}

theorem budget_free (s : State) (r : Reservation) (scope : Scope) :
    State.budget (State.free s r) scope = if scope.covers r.destination r.accountId then
        (releaseBudget (State.budget s scope) r.workloadUnits).1
      else State.budget s scope := by
  cases scope with
  | global => rfl
  | destination d =>
    simp only [State.budget, State.free, Scope.covers, decide_eq_true_eq]
    by_cases hd : r.destination = d
    · subst hd
      rw [Function.update_self, if_pos rfl]
    · rw [Function.update_of_ne (Ne.symm hd), if_neg hd]
  | account id =>
    simp only [State.budget, State.free, Scope.covers, decide_eq_true_eq]
    cases r.accountId with
    | none => simp
    | some j =>
      simp only [Option.some.injEq, JsMap.get_set]
      by_cases hid : id = j
      · subst hid
        rw [if_pos rfl, if_pos rfl, Option.getD_some]
      · rw [if_neg hid, if_neg (Ne.symm hid)]

/-- The units of a leader are among those held in a scope that it is in. -/
theorem held_split (hi : s.leaders[i]? = some leader)
    (hheld : leader.reservation.physicalReleased = false) (scope : Scope)
    (hcovers : scope.covers leader.reservation.destination leader.reservation.accountId = true) :
    ∃ before after, held scope s.leaders = before ++ leader.reservation.workloadUnits :: after := by
  obtain ⟨before, after, _, hsplit⟩ := held_set_released hi hheld
    (LeaderExecution.complete leader) rfl scope
  rw [if_pos hcovers] at hsplit
  exact ⟨before, after, hsplit⟩

/-- The release of what a scope holds is valid. -/
theorem Books.releases (h : Books policy past s) (hi : s.leaders[i]? = some leader)
    (hheld : leader.reservation.physicalReleased = false) (scope : Scope)
    (hcovers : scope.covers leader.reservation.destination leader.reservation.accountId = true) :
    (releaseBudget (State.budget s scope) leader.reservation.workloadUnits).2 = true := by
  obtain ⟨before, after, hsplit⟩ := held_split hi hheld scope hcovers
  have htracks := h.tracks scope
  rw [hsplit] at htracks
  exact htracks.release.2

/-- An account with a reservation is tracked. -/
theorem Books.tracked (h : Books policy past s) (hi : s.leaders[i]? = some leader)
    (hheld : leader.reservation.physicalReleased = false) {id : AccountId}
    (hid : leader.reservation.accountId = some id) : ∃ b, s.accountStates.get id = some b := by
  cases hget : s.accountStates.get id with
  | some b => exact ⟨b, rfl⟩
  | none =>
    obtain ⟨before, after, hsplit⟩ := held_split hi hheld (.account id) (decide_eq_true hid)
    have hrequests := (h.tracks (.account id)).requests
    rw [hsplit] at hrequests
    simp only [State.budget, hget, Option.getD_none, budgetState, List.length_append,
      List.length_cons] at hrequests
    omega

/-- A release does not fault. -/
theorem releasePhysicalReservation_eq (h : Books policy past s) (hs : LeadersSound s)
    (hi : s.leaders[i]? = some leader) (hincomplete : leader.physicallyComplete = false) :
    releasePhysicalReservation s leader.reservation = (State.free s leader.reservation, true) := by
  have hheld : leader.reservation.physicalReleased = false := by
    rw [← (hs.get hi).complete, hincomplete]
  have hglobal := h.releases hi hheld .global rfl
  have hdestination := h.releases hi hheld (.destination leader.reservation.destination)
    (decide_eq_true rfl)
  simp only [State.budget] at hglobal hdestination
  rw [releasePhysicalReservation, if_neg (by simp [hheld])]
  simp only [releaseBudgets, hglobal, hdestination, Bool.true_eq_false, if_false]
  cases hid : leader.reservation.accountId with
  | none =>
    simp only [State.free, State.setCircuit, hid]
    split <;> rfl
  | some id =>
    obtain ⟨b, hb⟩ := h.tracked hi hheld hid
    have haccount := h.releases hi hheld (.account id) (decide_eq_true hid)
    simp only [State.budget, hb, Option.getD_some] at haccount
    simp only [State.free, State.setCircuit, hid, hb, haccount, Option.getD_some]
    split <;> rfl

theorem finishPhysical_eq (h : Books policy past s) (hs : LeadersSound s)
    (hi : s.leaders[i]? = some leader) (hincomplete : leader.physicallyComplete = false) :
    finishPhysical s i leader =
      State.setLeader (State.free s leader.reservation) i (LeaderExecution.complete leader) := by
  rw [finishPhysical, if_neg (by simp [hincomplete]),
    releasePhysicalReservation_eq h hs hi hincomplete]
  rfl

theorem Books.released (h : Books policy past s) (hs : LeadersSound s)
    (hi : s.leaders[i]? = some leader) (hincomplete : leader.physicallyComplete = false) :
    Books policy past (finishPhysical s i leader) := by
  have hheld : leader.reservation.physicalReleased = false := by
    rw [← (hs.get hi).complete, hincomplete]
  rw [finishPhysical_eq h hs hi hincomplete]
  have hbudget : ∀ scope, State.budget (State.setLeader (State.free s leader.reservation) i
      (LeaderExecution.complete leader)) scope = State.budget (State.free s leader.reservation) scope :=
    fun scope => by cases scope <;> rfl
  refine ⟨fun scope => ?_, fun scope => ?_, h.last, h.sorted, ?_⟩
  · obtain ⟨before, after, hset, hsplit⟩ := held_set_released hi hheld
      (LeaderExecution.complete leader) rfl scope
    have htracks := h.tracks scope
    change Tracks _ s.lastObservedTime (held scope (s.leaders.set i _)) _ _
    rw [hset, hbudget, budget_free]
    rw [hsplit] at htracks
    split
    · rename_i hcovers
      rw [if_pos hcovers] at htracks
      exact htracks.release.1
    · rename_i hcovers
      rwa [if_neg hcovers] at htracks
  · obtain ⟨before, after, hset, hsplit⟩ := held_set_released hi hheld
      (LeaderExecution.complete leader) rfl scope
    have hwithin := h.within scope
    change Within _ (held scope (s.leaders.set i _)) _
    rw [hset]
    rw [hsplit] at hwithin
    split at hwithin
    · exact hwithin.release
    · exact hwithin
  · change (State.free s leader.reservation).accountStates.size ≤ _
    simp only [State.free]
    cases hid : leader.reservation.accountId with
    | none => exact h.accounts
    | some id =>
      obtain ⟨b, hb⟩ := h.tracked hi hheld hid
      exact (JsMap.size_set _ hb _).le.trans h.accounts

end Releasing

section Runs

variable {policy : AdmissionPolicy} {given : Option Reading} {past ms : List Mark} {s t : State}

theorem books_initial (policy : AdmissionPolicy) : Books policy [] initialState where
  tracks scope := by cases scope <;> exact tracks_budgetState _ _
  within scope := within_nil _
  last _ h := (by cases h)
  sorted := .nil
  accounts := Nat.zero_le _

theorem Update.books (h : Update policy given s ms t) (hs : LeadersSound s) (hbooks : Books policy past s) :
    Books policy (past ++ ms) t := by
  cases h with
  | clockFault =>
    rw [List.append_nil]
    exact ⟨fun scope => by cases scope <;> exact hbooks.tracks _, hbooks.within, hbooks.last,
      hbooks.sorted, hbooks.accounts⟩
  | observed reading now hgiven hreading hlast =>
    rw [List.append_nil]
    exact hbooks.observed hlast
  | purged destination accountId =>
    rw [List.append_nil]
    exact hbooks.purged destination accountId
  | dropped =>
    rw [List.append_nil]
    exact ⟨fun scope => by cases scope <;> exact hbooks.tracks _, hbooks.within, hbooks.last,
      hbooks.sorted, hbooks.accounts⟩
  | admitted start permit circuit listening hstart hbudgets =>
    exact hbooks.admitted listening hstart hbudgets
  | turned i leader hi =>
    rw [List.append_nil]
    exact hbooks.setLeader hi _ ⟨rfl, rfl, rfl, rfl⟩
  | neutral i leader outcome hi =>
    rw [List.append_nil]
    exact hbooks.setLeader hi _ ⟨rfl, rfl, rfl, rfl⟩
  | decided i leader outcome ok hi =>
    have hset := hbooks.setLeader hi (LeaderExecution.settle leader .recorded outcome)
      ⟨rfl, rfl, rfl, rfl⟩
    have hstarts : startsOf (past ++ [.decided leader.reservation.destination
        leader.reservation.circuitPermit ok s.lastObservedTime]) = startsOf past :=
      (startsOf_append ..).trans (List.append_nil _)
    refine ⟨fun scope => ?_, fun scope => ?_, ?_, ?_, hset.accounts⟩
    · rw [hstarts]
      cases scope <;> exact hset.tracks _
    · rw [hstarts]
      exact hset.within scope
    · rw [hstarts]
      exact hset.last
    · rw [hstarts]
      exact hset.sorted
  | released i leader hi hsettled hincomplete =>
    rw [List.append_nil]
    exact hbooks.released hs hi hincomplete

/-- The budgets show the reads so far after any calls. -/
theorem reached_books (policy : AdmissionPolicy) (calls : List Call) :
    Books policy (history ((machine policy).trace calls)) ((machine policy).reached calls) := by
  exact run_preserves policy (I := Books policy) (fun hs h hupdate => Update.books hupdate hs h) []
    leadersSound_initial (books_initial policy) calls

end Runs

end CryptoLending.SmartLending.UpstreamReadBooks
