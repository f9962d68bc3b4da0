import CryptoLending.Lib.SlidingWindow
import CryptoLending.SmartLending.UpstreamReadAdmission

namespace CryptoLending.SmartLending.UpstreamReadBudgets

open Lib Lib.SlidingWindow UpstreamReadPolicy UpstreamReadAdmission

section OneBudget

variable {policy : BudgetPolicy} {now now' : Int} {units : List Nat} {log : List RateEntry}
  {b : BudgetState} {w : Nat}

/-- When what a budget counts at a time counts no more. -/
def cutoff (policy : BudgetPolicy) (now : Int) : Int := now - policy.rateWindowMilliseconds

/-- A budget counts the units of the reservations that are held, and of the starts so far those that
may still count. -/
structure Tracks (policy : BudgetPolicy) (now : Int) (units : List Nat) (log : List RateEntry)
    (b : BudgetState) : Prop where
  requests : b.inFlightRequests = units.length
  workload : b.inFlightWorkloadUnits = units.sum
  retained : b.retainedWorkloadUnits = unitsOf b.rateEntries
  entries : Retains RateEntry.startedAt (cutoff policy now) log b.rateEntries

/-- What is held, and what started in any window, is within the limits. -/
structure Within (policy : BudgetPolicy) (units : List Nat) (log : List RateEntry) : Prop where
  requests : units.length ≤ policy.maximumConcurrentRequests
  workload : units.sum ≤ policy.maximumInFlightWorkloadUnits
  starts : KeepsLimit RateEntry.startedAt (fun _ => 1) policy.rateWindowMilliseconds
    policy.maximumStartsPerWindow log
  startedUnits : KeepsLimit RateEntry.startedAt RateEntry.workloadUnits policy.rateWindowMilliseconds
    policy.maximumWorkloadUnitsPerWindow log

theorem unitsOf_append (es fs : List RateEntry) : unitsOf (es ++ fs) = unitsOf es + unitsOf fs := by
  simp [unitsOf]

theorem total_one (log : List RateEntry) : total (fun _ => 1) log = log.length := by
  simp [total]

theorem tracks_budgetState (policy : BudgetPolicy) (now : Int) :
    Tracks policy now [] [] budgetState where
  requests := rfl
  workload := rfl
  retained := rfl
  entries := ⟨[], rfl, by simp⟩

theorem within_nil (policy : BudgetPolicy) : Within policy [] [] where
  requests := Nat.zero_le _
  workload := Nat.zero_le _
  starts := keepsLimit_nil _ _
  startedUnits := keepsLimit_nil _ _

theorem cutoff_mono (h : now ≤ now') : cutoff policy now ≤ cutoff policy now' := by
  rw [cutoff, cutoff]
  omega

theorem Tracks.mono (h : Tracks policy now units log b) (hle : now ≤ now') :
    Tracks policy now' units log b := { h with entries := h.entries.mono (cutoff_mono hle) }

theorem rateEntries_purge : (purgeRateWindow b policy now).rateEntries =
    purge RateEntry.startedAt (cutoff policy now) b.rateEntries := rfl

theorem Tracks.purge (h : Tracks policy now units log b) (hle : now ≤ now') :
    Tracks policy now' units log (purgeRateWindow b policy now') where
  requests := h.requests
  workload := h.workload
  retained := by
    have hsplit := congrArg unitsOf (List.takeWhile_append_dropWhile
      (p := fun entry : RateEntry => decide (entry.startedAt ≤ cutoff policy now'))
      (l := b.rateEntries))
    rw [unitsOf_append] at hsplit
    have hretained := h.retained
    change b.retainedWorkloadUnits - (unitsOf (b.rateEntries.takeWhile fun entry =>
      decide (entry.startedAt ≤ cutoff policy now')) : Int) = unitsOf (b.rateEntries.dropWhile
        fun entry => decide (entry.startedAt ≤ cutoff policy now'))
    omega
  entries := h.entries.purge (cutoff_mono hle)

/-- A budget that holds and retains nothing may be forgotten. -/
theorem Tracks.forget (h : Tracks policy now units log b) (hrequests : b.inFlightRequests = 0)
    (hentries : b.rateEntries = []) : Tracks policy now units log budgetState := by
  have hnil : units = [] := by
    rw [← List.length_eq_zero_iff]
    have hlength := h.requests
    omega
  subst hnil
  refine ⟨rfl, rfl, rfl, ?_⟩
  have hretains := h.entries
  rwa [hentries] at hretains

theorem budgetAllows_allowed (h : budgetAllows b policy w = .allowed) :
    b.inFlightRequests < policy.maximumConcurrentRequests ∧
      b.inFlightWorkloadUnits + w ≤ policy.maximumInFlightWorkloadUnits ∧
      b.rateEntries.length < policy.maximumStartsPerWindow ∧
      b.retainedWorkloadUnits + w ≤ policy.maximumWorkloadUnitsPerWindow := by
  rw [budgetAllows] at h
  split at h
  · cases h
  · split at h
    · cases h
    · omega

theorem Tracks.reserve (h : Tracks policy now units log b) :
    Tracks policy now (units ++ [w]) (log ++ [⟨now, w⟩]) (reserveBudget b w now) where
  requests := by
    rw [reserveBudget, List.length_append]
    have hrequests := h.requests
    rw [List.length_singleton, Nat.cast_add]
    simp only
    omega
  workload := by
    rw [reserveBudget, List.sum_append, List.sum_singleton, Nat.cast_add]
    have hworkload := h.workload
    simp only
    omega
  retained := by
    have hretained := h.retained
    have hone : unitsOf [⟨now, w⟩] = w := Nat.add_zero w
    rw [reserveBudget, unitsOf_append, hone, Nat.cast_add]
    simp only
    omega
  entries := h.entries.append _

/-- What a budget allows keeps it within its limits. -/
theorem Within.reserve (h : Within policy units log) (htracks : Tracks policy now units log b)
    (hallowed : budgetAllows b policy w = .allowed) (hlast : ∀ e ∈ log, e.startedAt ≤ now) :
    Within policy (units ++ [w]) (log ++ [⟨now, w⟩]) := by
  obtain ⟨hrequests, hworkload, hstarts, hunits⟩ := budgetAllows_allowed hallowed
  have hlength := htracks.requests
  have hsum := htracks.workload
  have hretained := htracks.retained
  refine ⟨?_, ?_, ?_, ?_⟩
  · rw [List.length_append, List.length_singleton]
    omega
  · rw [List.sum_append, List.sum_singleton]
    omega
  · refine h.starts.append hlast htracks.entries ?_
    rw [total_one]
    omega
  · refine h.startedUnits.append hlast htracks.entries ?_
    change unitsOf b.rateEntries + w ≤ _
    omega

/-- A reservation that is held is released without a fault. -/
theorem Tracks.release {before after : List Nat}
    (h : Tracks policy now (before ++ w :: after) log b) :
    Tracks policy now (before ++ after) log (releaseBudget b w).1 ∧ (releaseBudget b w).2 = true := by
  have hrequests := h.requests
  have hworkload := h.workload
  simp only [List.length_append, List.length_cons, List.sum_append, List.sum_cons, Nat.cast_add,
    Nat.cast_one] at hrequests hworkload
  refine ⟨⟨?_, ?_, h.retained, h.entries⟩, ?_⟩
  · simp only [releaseBudget, List.length_append, Nat.cast_add]
    omega
  · simp only [releaseBudget, List.sum_append, Nat.cast_add]
    omega
  · simp only [releaseBudget, decide_eq_true_eq]
    omega

theorem Within.release {before after : List Nat} (h : Within policy (before ++ w :: after) log) :
    Within policy (before ++ after) log := by
  have hrequests := h.requests
  have hworkload := h.workload
  simp only [List.length_append, List.length_cons, List.sum_append, List.sum_cons]
    at hrequests hworkload
  refine ⟨?_, ?_, h.starts, h.startedUnits⟩
  · rw [List.length_append]
    omega
  · rw [List.sum_append]
    omega

end OneBudget

section Scopes

/-- What a budget is for. -/
inductive Scope where
  | global
  | destination (destination : Destination)
  | account (id : AccountId)

def Scope.covers : Scope → Destination → Option AccountId → Bool
  | .global, _, _ => true
  | .destination d, destination', _ => decide (destination' = d)
  | .account id, _, accountId => decide (accountId = some id)

def Scope.policy (policy : AdmissionPolicy) : Scope → BudgetPolicy
  | .global => policy.global
  | .destination d => (policy.destinations d).toBudgetPolicy
  | .account _ => policy.accountScopedLifi.toBudgetPolicy

/-- The budget of a scope; an account without any has an empty one. -/
def State.budget (s : State) : Scope → BudgetState
  | .global => s.globalState
  | .destination d => s.destinationBudgets d
  | .account id => (s.accountStates.get id).getD budgetState

/-- The units of the reservations of a scope that were not released. -/
def held (scope : Scope) (leaders : List LeaderExecution) : List Nat :=
  (leaders.filter fun leader =>
    scope.covers leader.reservation.destination leader.reservation.accountId &&
      !leader.reservation.physicalReleased).map (·.reservation.workloadUnits)

/-- The starts of a scope, in their order. -/
def logOf (scope : Scope) (starts : List Start) : List RateEntry :=
  (starts.filter fun start => scope.covers start.destination start.accountId).map fun start =>
    ⟨start.startedAt, start.workloadUnits⟩

theorem logOf_append (scope : Scope) (starts : List Start) (start : Start) :
    logOf scope (starts ++ [start]) = logOf scope starts ++
      if scope.covers start.destination start.accountId then
        [⟨start.startedAt, start.workloadUnits⟩]
      else [] := by
  rw [logOf, List.filter_append, List.map_append]
  by_cases h : scope.covers start.destination start.accountId = true
  · simp [logOf, h]
  · simp [logOf, h]

theorem held_append (scope : Scope) (leaders leaders' : List LeaderExecution) :
    held scope (leaders ++ leaders') = held scope leaders ++ held scope leaders' := by
  simp [held]

theorem mem_logOf {scope : Scope} {starts : List Start} {last : Int}
    (h : ∀ start ∈ starts, start.startedAt ≤ last) : ∀ e ∈ logOf scope starts, e.startedAt ≤ last := by
  intro e he
  obtain ⟨start, hstart, rfl⟩ := List.mem_map.mp he
  exact h start (List.mem_of_mem_filter hstart)

/-- A leader and what is around it. -/
theorem split_leader {leaders : List LeaderExecution} {i : Nat} {leader : LeaderExecution}
    (h : leaders[i]? = some leader) :
    ∃ before after, leaders = before ++ leader :: after ∧
      ∀ leader', leaders.set i leader' = before ++ leader' :: after := by
  induction leaders generalizing i with
  | nil => simp at h
  | cons first leaders ih =>
    cases i with
    | zero =>
      obtain rfl := Option.some.inj h
      exact ⟨[], leaders, rfl, fun _ => rfl⟩
    | succ i =>
      obtain ⟨before, after, hsplit, hset⟩ := ih h
      refine ⟨first :: before, after, by rw [hsplit]; rfl, fun leader' => ?_⟩
      rw [List.set_cons_succ, hset]
      rfl

/-- What counts for the budgets of a leader. -/
def SameHold (leader leader' : LeaderExecution) : Prop :=
  leader'.reservation.destination = leader.reservation.destination ∧
    leader'.reservation.accountId = leader.reservation.accountId ∧
    leader'.reservation.workloadUnits = leader.reservation.workloadUnits ∧
    leader'.reservation.physicalReleased = leader.reservation.physicalReleased

theorem held_set_same {leaders : List LeaderExecution} {i : Nat} {leader leader' : LeaderExecution}
    (h : leaders[i]? = some leader) (hsame : SameHold leader leader') (scope : Scope) :
    held scope (leaders.set i leader') = held scope leaders := by
  obtain ⟨before, after, hsplit, hset⟩ := split_leader h
  obtain ⟨hdestination, haccount, hunits, hreleased⟩ := hsame
  rw [hset, hsplit, held_append, held_append]
  congr 1
  simp only [held, List.filter_cons, hdestination, haccount, hreleased]
  split
  · rw [List.map_cons, List.map_cons, hunits]
  · rfl

/-- Once a reservation is released, its units are no longer held in the scopes that it is in. -/
theorem held_set_released {leaders : List LeaderExecution} {i : Nat}
    {leader : LeaderExecution} (h : leaders[i]? = some leader)
    (hheld : leader.reservation.physicalReleased = false) (leader' : LeaderExecution)
    (hreleased : leader'.reservation.physicalReleased = true) (scope : Scope) :
    ∃ before after, held scope (leaders.set i leader') = before ++ after ∧
      held scope leaders =
        if scope.covers leader.reservation.destination leader.reservation.accountId then
          before ++ leader.reservation.workloadUnits :: after
        else before ++ after := by
  obtain ⟨before, after, hsplit, hset⟩ := split_leader h
  refine ⟨held scope before, held scope after, ?_, ?_⟩
  · rw [hset, held_append]
    congr 1
    simp [held, hreleased]
  · rw [hsplit, held_append]
    by_cases hcovers : scope.covers leader.reservation.destination leader.reservation.accountId = true
    · simp [held, hheld, hcovers]
    · simp [held, hcovers]

end Scopes

end CryptoLending.SmartLending.UpstreamReadBudgets
