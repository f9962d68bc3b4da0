import Mathlib.Data.Set.Card
import CryptoLending.SmartLending.UpstreamReadBooks

namespace CryptoLending.SmartLending.UpstreamReadLimits

open Lib Lib.JsObject Lib.SlidingWindow UpstreamReadPolicy UpstreamReadAdmission
  UpstreamReadBudgets UpstreamReadUpdates UpstreamReadSteps UpstreamReadBooks

section Admissions

def admittedStart : Outcome → Option Start
  | .admitted _ start => some start
  | _ => none

/-- The reads that calls admitted, in their order. -/
def admissions (events : List Event) : List Start :=
  events.filterMap fun e => admittedStart e.outcome

variable {policy : AdmissionPolicy} {s : State}

theorem startsOf_decidedMark (before after : State) (i : Nat) (ok : Bool) :
    startsOf (decidedMark before after i ok) = [] := by
  rw [decidedMark]
  split
  · split
    · rfl
    · rfl
  · rfl

theorem startsOf_startedMark {outcome : Outcome} {after : State}
    (h : ∀ i start, outcome = .admitted i start → ∃ leader, after.leaders[i]? = some leader) :
    startsOf (startedMark outcome after) = (admittedStart outcome).toList := by
  cases outcome with
  | admitted i start =>
    obtain ⟨leader, hleader⟩ := h i start rfl
    simp [startedMark, hleader, startsOf, admittedStart]
  | refused => rfl
  | joined => rfl
  | done => rfl

theorem startsOf_marks (hs : LeadersSound s) (call : Call) :
    startsOf (marks ((machine policy).event s call)) =
      (admittedStart (step policy s call).1).toList := by
  cases call with
  | readSharedMarket => exact startsOf_startedMark fun _ _ => admitted_leader hs
  | readAccountScoped => exact startsOf_startedMark fun _ _ => admitted_leader hs
  | turn => rfl
  | operationSettled => exact startsOf_decidedMark ..
  | timeout => exact startsOf_decidedMark ..
  | callerAborted => rfl
  | physicalCompletion => rfl

theorem startsOf_history (hs : LeadersSound s) (calls : List Call) :
    startsOf (history ((machine policy).events s calls)) =
      admissions ((machine policy).events s calls) := by
  induction calls generalizing s with
  | nil => rfl
  | cons call calls ih =>
    have hrest := ih ((step_updates policy hs call).leadersSound hs)
    have hcons : admissions ((machine policy).events s (call :: calls)) =
        (admittedStart (step policy s call).1).toList ++
          admissions ((machine policy).events (step policy s call).2 calls) := by
      rw [Machine.events, admissions, List.filterMap_cons]
      cases hstart : admittedStart (step policy s call).1 with
      | none =>
        have hevent : admittedStart ((machine policy).event s call).outcome = none := hstart
        rw [hevent]
        rfl
      | some start =>
        have hevent : admittedStart ((machine policy).event s call).outcome = some start := hstart
        rw [hevent]
        rfl
    rw [hcons, ← hrest, ← startsOf_marks hs, ← startsOf_append]
    rfl

theorem startsOf_trace (policy : AdmissionPolicy) (calls : List Call) :
    startsOf (history ((machine policy).trace calls)) = admissions ((machine policy).trace calls) :=
  startsOf_history leadersSound_initial calls

end Admissions

section Counting

/-- The budgets of every scope count the reads that are in flight, which are within its limits. -/
theorem inFlight_within (policy : AdmissionPolicy) (calls : List Call) (scope : Scope) :
    let s := (machine policy).reached calls
    let units := held scope s.leaders
    (State.budget s scope).inFlightRequests = units.length ∧
      (State.budget s scope).inFlightWorkloadUnits = units.sum ∧
      units.length ≤ (scope.policy policy).maximumConcurrentRequests ∧
      units.sum ≤ (scope.policy policy).maximumInFlightWorkloadUnits := by
  have hbooks := reached_books policy calls
  have htracks := hbooks.tracks scope
  have hwithin := hbooks.within scope
  exact ⟨htracks.requests, htracks.workload, hwithin.requests, hwithin.workload⟩

/-- The reads of a scope that started in the window up to a time. -/
def startedWithin (scope : Scope) (policy : BudgetPolicy) (last : Int) (starts : List Start) :
    List Start :=
  starts.filter fun start => scope.covers start.destination start.accountId &&
    decide (cutoff policy last < start.startedAt ∧ start.startedAt ≤ last)

theorem between_logOf (scope : Scope) (first last : Int) (starts : List Start) :
    between RateEntry.startedAt first last (logOf scope starts) =
      (starts.filter fun start => scope.covers start.destination start.accountId &&
        decide (first < start.startedAt ∧ start.startedAt ≤ last)).map
          fun start => ⟨start.startedAt, start.workloadUnits⟩ := by
  rw [between, logOf, List.filter_map, List.filter_filter]
  congr 1
  exact List.filter_congr fun start _ => Bool.and_comm ..

/-- In no window more reads start, or with more units, than the limits of a scope allow. -/
theorem windows_within (policy : AdmissionPolicy) (calls : List Call) (scope : Scope) (last : Int) :
    let window := startedWithin scope (scope.policy policy) last
      (admissions ((machine policy).trace calls))
    window.length ≤ (scope.policy policy).maximumStartsPerWindow ∧
      (window.map Start.workloadUnits).sum ≤ (scope.policy policy).maximumWorkloadUnitsPerWindow := by
  have hwithin := (reached_books policy calls).within scope
  rw [startsOf_trace] at hwithin
  have hstarts := hwithin.starts last
  have hunits := hwithin.startedUnits last
  rw [between_logOf] at hstarts hunits
  rw [total_one, List.length_map] at hstarts
  rw [total, List.map_map] at hunits
  exact ⟨hstarts, hunits⟩

end Counting

section Ideal

open Classical

/-- What a budget decides that knows all reads that are in flight or started in the window. -/
def idealBudget (policy : BudgetPolicy) (units : List Nat) (window : List RateEntry)
    (workloadUnits : Nat) : BudgetResult :=
  if policy.maximumConcurrentRequests ≤ units.length ∨
      policy.maximumInFlightWorkloadUnits < units.sum + workloadUnits then .concurrency
  else if policy.maximumStartsPerWindow ≤ window.length ∨
      policy.maximumWorkloadUnitsPerWindow < unitsOf window + workloadUnits then .rate
  else .allowed

/-- The starts of a scope in the window that ends at a time. -/
def windowOf (policy : AdmissionPolicy) (scope : Scope) (starts : List Start) (now : Int) :
    List RateEntry :=
  between RateEntry.startedAt (cutoff (scope.policy policy) now) now (logOf scope starts)

/-- An account counts while a read of it is in flight or started in the window. -/
def IsTracked (policy : AdmissionPolicy) (leaders : List LeaderExecution) (starts : List Start)
    (now : Int) (id : AccountId) : Prop :=
  held (.account id) leaders ≠ [] ∨ windowOf policy (.account id) starts now ≠ []

/-- The scopes that a read is in. -/
def scopesOf (destination : Destination) (accountId : Option AccountId) : List Scope :=
  [.global, .destination destination] ++ (accountId.map Scope.account).toList

def idealResults (policy : AdmissionPolicy) (leaders : List LeaderExecution) (starts : List Start)
    (now : Int) (destination : Destination) (workloadUnits : Nat) (accountId : Option AccountId) :
    List BudgetResult :=
  (scopesOf destination accountId).map fun scope =>
    idealBudget (scope.policy policy) (held scope leaders) (windowOf policy scope starts now)
      workloadUnits

/-- Why the reads so far leave no room for another. -/
noncomputable def idealRefusal (policy : AdmissionPolicy) (leaders : List LeaderExecution)
    (starts : List Start) (now : Int) (destination : Destination) (workloadUnits : Nat)
    (accountId : Option AccountId) : Option ErrorCode :=
  let results := idealResults policy leaders starts now destination workloadUnits accountId
  if ∃ id, accountId = some id ∧ ¬IsTracked policy leaders starts now id ∧
      policy.accountScopedLifi.maximumTrackedAccounts ≤
        {id | IsTracked policy leaders starts now id}.ncard then
    some .rateRejected
  else if .concurrency ∈ results then some .concurrencyRejected
  else if .rate ∈ results then some .rateRejected
  else none

end Ideal

section Deciding

variable {policy : AdmissionPolicy} {past : List Mark} {s : State} {now : Int}

theorem budgetAllows_eq {policy : BudgetPolicy} {units : List Nat} {log : List RateEntry}
    {b : BudgetState} (h : Tracks policy now units log b) (w : Nat) :
    budgetAllows b policy w = idealBudget policy units b.rateEntries w := by
  have hrequests := h.requests
  have hworkload := h.workload
  have hretained := h.retained
  rw [budgetAllows, idealBudget]
  refine if_congr ?_ rfl (if_congr ?_ rfl rfl)
  · omega
  · omega

/-- What is left of a budget after purging is what started in the window. -/
theorem purged_eq_window (h : Books policy past s) {scope : Scope} {b : BudgetState}
    (htracks : Tracks (scope.policy policy) s.lastObservedTime (held scope s.leaders)
      (logOf scope (startsOf past)) b) :
    (purgeRateWindow b (scope.policy policy) s.lastObservedTime).rateEntries =
      windowOf policy scope (startsOf past) s.lastObservedTime := by
  rw [rateEntries_purge]
  refine htracks.entries.purge_eq le_rfl ?_ (mem_logOf h.last)
  rw [logOf, List.pairwise_map]
  exact h.sorted.filter _

theorem tracked_iff (h : Books policy past s) (destination : Destination)
    (accountId : Option AccountId) (id : AccountId) :
    ((s.purge policy destination accountId s.lastObservedTime).accountStates.get id).isSome = true ↔
      IsTracked policy s.leaders (startsOf past) s.lastObservedTime id := by
  rw [get_purge h.accounts, get_pruneAccountStates h.accounts]
  have htracks := h.tracks (.account id)
  have hwindow := purged_eq_window h htracks
  have hrequests := htracks.requests
  rw [IsTracked]
  cases hget : s.accountStates.get id with
  | none =>
    simp only [State.budget, hget, Option.getD_none] at hwindow hrequests
    have hempty : held (.account id) s.leaders = [] := by
      rw [← List.length_eq_zero_iff]
      simp only [budgetState] at hrequests
      omega
    rw [← hwindow, hempty]
    simp [budgetState, purgeRateWindow]
  | some b =>
    simp only [State.budget, hget, Option.getD_some] at hwindow hrequests
    change (purgeRateWindow b policy.accountScopedLifi.toBudgetPolicy
      s.lastObservedTime).rateEntries = _ at hwindow
    have hidle : b.inFlightRequests = 0 ↔ held (.account id) s.leaders = [] := by
      rw [← List.length_eq_zero_iff]
      omega
    rw [← hwindow, ne_eq, ← hidle, Option.map_some, Option.filter_some]
    by_cases hb : b.inFlightRequests = 0
    · simp [purgeRateWindow, hb]
    · simp [purgeRateWindow, hb]

theorem size_purge_eq (h : Books policy past s) (destination : Destination)
    (accountId : Option AccountId) :
    (s.purge policy destination accountId s.lastObservedTime).accountStates.size =
      {id | IsTracked policy s.leaders (startsOf past) s.lastObservedTime id}.ncard := by
  let accounts := (s.purge policy destination accountId s.lastObservedTime).accountStates
  have hset : {id | IsTracked policy s.leaders (startsOf past) s.lastObservedTime id} =
      (accounts.keys.toFinset : Set AccountId) := by
    ext id
    change IsTracked policy s.leaders (startsOf past) s.lastObservedTime id ↔ _
    rw [← tracked_iff h destination accountId, Finset.mem_coe, List.mem_toFinset]
    have hkeys := JsMap.get_eq_none_iff accounts (k := id)
    rw [Option.isSome_iff_ne_none]
    exact not_iff_comm.mp hkeys.symm
  have hnodup : accounts.keys.Nodup := accounts.keys_nodup
  rw [hset, Set.ncard_coe_finset, List.toFinset_card_of_nodup hnodup]
  exact (JsMap.length_keys accounts).symm

theorem entries_purge (h : Books policy past s) {destination : Destination}
    {accountId : Option AccountId} {scope : Scope} (hscope : scope ∈ scopesOf destination accountId) :
    (State.budget (s.purge policy destination accountId s.lastObservedTime) scope).rateEntries =
      windowOf policy scope (startsOf past) s.lastObservedTime := by
  have hwindow := purged_eq_window h (h.tracks scope)
  cases scope with
  | global => exact hwindow
  | destination d =>
    have hd : d = destination := by
      cases accountId <;> simpa [scopesOf] using hscope
    subst hd
    simp only [State.budget, State.purge, Function.update_self]
    exact hwindow
  | account id =>
    simp only [State.budget] at hwindow ⊢
    rw [get_purge h.accounts, get_pruneAccountStates h.accounts, ← hwindow]
    cases hget : s.accountStates.get id with
    | none => rfl
    | some b =>
      rw [Option.map_some, Option.filter_some, Option.getD_some]
      split
      · rfl
      · rename_i hidle
        rw [Bool.not_eq_true', Bool.not_eq_false, decide_eq_true_eq] at hidle
        exact hidle.2.symm

theorem budgetAllows_purge (h : Books policy past s) (destination : Destination)
    (accountId : Option AccountId) (scope : Scope) (hscope : scope ∈ scopesOf destination accountId)
    (w : Nat) :
    budgetAllows (State.budget (s.purge policy destination accountId s.lastObservedTime) scope)
        (scope.policy policy) w = idealBudget (scope.policy policy) (held scope s.leaders)
      (windowOf policy scope (startsOf past) s.lastObservedTime) w := by
  rw [budgetAllows_eq (budget_purge h.accounts destination accountId (h.tracks scope)),
    entries_purge h hscope]

/-- The budgets refuse what the reads so far leave no room for. -/
theorem budgetRefusal_eq (h : Books policy past s) (destination : Destination) (w : Nat)
    (accountId : Option AccountId) :
    (s.purge policy destination accountId s.lastObservedTime).budgetRefusal policy destination w
        accountId =
      idealRefusal policy s.leaders (startsOf past) s.lastObservedTime destination w accountId := by
  classical
  have hglobal := budgetAllows_purge h destination accountId .global
    (by cases accountId <;> simp [scopesOf]) w
  have hdestination := budgetAllows_purge h destination accountId (.destination destination)
    (by simp [scopesOf]) w
  simp only [State.budget, Scope.policy] at hglobal hdestination
  cases accountId with
  | none =>
    simp only [State.budgetRefusal, idealRefusal, idealResults, scopesOf, Option.map_none,
      Option.toList_none, hglobal, hdestination]
    apply if_congr _ rfl rfl
    simp
  | some id =>
    have haccount := budgetAllows_purge h destination (some id) (.account id)
      (by simp [scopesOf]) w
    simp only [State.budget, Scope.policy] at haccount
    simp only [State.budgetRefusal, idealRefusal, idealResults, scopesOf, Option.map_some,
      Option.toList_some, hglobal, hdestination, haccount]
    apply if_congr _ rfl rfl
    have htracked := tracked_iff h destination (some id) id
    rw [size_purge_eq h, Bool.and_eq_true, decide_eq_true_eq]
    constructor
    · rintro ⟨hnone, hsize⟩
      refine ⟨id, rfl, fun hid => ?_, hsize⟩
      have hsome := htracked.mpr hid
      rw [Option.isNone_iff_eq_none.mp hnone] at hsome
      cases hsome
    · rintro ⟨j, hj, hid, hsize⟩
      obtain rfl := Option.some.inj hj
      exact ⟨by simpa using mt htracked.mp hid, hsize⟩

/-- A read is admitted exactly when the reads so far leave room for it and the circuit permits it. -/
theorem reserve_exact (policy : AdmissionPolicy) (calls : List Call) (destination : Destination)
    (w : Nat) (accountId : Option AccountId) (reading : Reading) (now : Int)
    (hnow : (((machine policy).reached calls).now reading).1 = some now) :
    let s := (machine policy).reached calls
    (reserve policy s destination w accountId reading).1 =
      match idealRefusal policy s.leaders (admissions ((machine policy).trace calls)) now destination
        w accountId with
      | some code => .error code
      | none =>
        match reserveCircuit (s.circuits destination) now with
        | none => .error .circuitOpen
        | some (permit, _) => .ok (now, reservationOf ⟨destination, accountId, w, now⟩ permit) := by
  intro s
  have hbooks := reached_books policy calls
  obtain ⟨time, hlast, hread⟩ | hread := now_cases s reading
  · obtain rfl : time = now := by
      rw [hread] at hnow
      exact Option.some.inj hnow
    have hrefusal := budgetRefusal_eq (hbooks.observed hlast) destination w accountId
    rw [startsOf_trace] at hrefusal
    rw [reserve, hread]
    simp only at hrefusal ⊢
    rw [hrefusal]
    cases idealRefusal policy s.leaders (admissions ((machine policy).trace calls)) time destination w
      accountId with
    | some code => rfl
    | none =>
      change (match reserveCircuit (s.circuits destination) time with
        | none => _
        | some (permit, circuit) => _ : Except _ _ × State).1 = _
      cases reserveCircuit (s.circuits destination) time with
      | none => rfl
      | some r => rfl
  · rw [hread] at hnow
    cases hnow

/-- A policy of one read for each destination at a time, whose circuits open at the first failure. -/
def samplePolicy : AdmissionPolicy where
  mode := .enabled
  global := ⟨2, 100, 1000, 4, 200⟩
  accountScopedLifi := ⟨⟨1, 50, 1000, 2, 100⟩, 4⟩
  destinations := fun _ => ⟨⟨1, 50, 1000, 2, 100⟩, 500, 1, 2000⟩

def sampleRequest : Datum := .record 1 false false .plain
  [(.text "destination", .data (.string "AAVE_V3_ETHEREUM_MARKET") true),
    (.text "readKey", .data (.string "aave-v3-ethereum-core-market-v1") true),
    (.text "workloadUnits", .data (.number 10) true)]

def sampleRead (now : Int) : Call := .readSharedMarket sampleRequest true false (some (.number now))

/-- A read that fails after its turn. -/
def sampleCalls : List Call :=
  [sampleRead 1000, .turn 0, .operationSettled 0 false (some (.number 1100))]

theorem reserve_exact_sample :
    let s := (machine samplePolicy).reached sampleCalls
    (reserve samplePolicy s .defiLlamaYields 60 none (some (.number 1500))).1 =
      match idealRefusal samplePolicy s.leaders (admissions ((machine samplePolicy).trace sampleCalls))
        1500 .defiLlamaYields 60 none with
      | some code => .error code
      | none =>
        match reserveCircuit (s.circuits .defiLlamaYields) 1500 with
        | none => .error .circuitOpen
        | some (permit, _) =>
          .ok (1500, reservationOf ⟨.defiLlamaYields, none, 60, 1500⟩ permit) :=
  reserve_exact samplePolicy sampleCalls .defiLlamaYields 60 none (some (.number 1500)) 1500 rfl

end Deciding

end CryptoLending.SmartLending.UpstreamReadLimits
