import CryptoLending.Lib.JsObject
import CryptoLending.Lib.JsReading

namespace CryptoLending.SmartLending.UpstreamReadPolicy

open Lib Lib.JsObject

def maxConcurrentRequests : Nat := 1024
def maxWorkloadUnits : Nat := 1000000000
def maxRequestWorkloadUnits : Nat := 1000000
def maxStartsPerWindow : Nat := 1000000
def minRateWindowMilliseconds : Nat := 100
def maxRateWindowMilliseconds : Nat := 3600000
def maxTimeoutMilliseconds : Nat := 60000
def maxCircuitFailureThreshold : Nat := 100
def maxTrackedAccounts : Nat := 100000

/-- `Number.MAX_SAFE_INTEGER`. -/
def maxSafeInteger : Int := 2 ^ 53 - 1

inductive Destination where
  | aaveV3EthereumMarket
  | defiLlamaYields
  | lifiQuote
  deriving DecidableEq

def Destination.text : Destination → String
  | .aaveV3EthereumMarket => "AAVE_V3_ETHEREUM_MARKET"
  | .defiLlamaYields => "DEFILLAMA_YIELDS"
  | .lifiQuote => "LIFI_QUOTE"

def allDestinations : List Destination := [.aaveV3EthereumMarket, .defiLlamaYields, .lifiQuote]

structure BudgetPolicy where
  maximumConcurrentRequests : Nat
  maximumInFlightWorkloadUnits : Nat
  rateWindowMilliseconds : Nat
  maximumStartsPerWindow : Nat
  maximumWorkloadUnitsPerWindow : Nat
  deriving DecidableEq

structure DestinationPolicy extends BudgetPolicy where
  timeoutMilliseconds : Nat
  circuitFailureThreshold : Nat
  circuitOpenMilliseconds : Nat
  deriving DecidableEq

structure AccountPolicy extends BudgetPolicy where
  maximumTrackedAccounts : Nat
  deriving DecidableEq

inductive Mode where
  | disabled
  | enabled
  deriving DecidableEq

structure AdmissionPolicy where
  mode : Mode
  global : BudgetPolicy
  accountScopedLifi : AccountPolicy
  destinations : Destination → DestinationPolicy

section Parsing

/-- An object with all required keys and no others than the optional ones, all of them
enumerable data. -/
def exactDataRecord (value : Datum) (requiredKeys optionalKeys : List String) : Option Fields :=
  match value with
  | .record _ _ _ prototype properties => do
    guard (prototype = .plain ∨ prototype = .absent)
    let keys ← properties.mapM fun p => match p.1 with
      | .text name => some name
      | .symbol => none
    guard (keys.all fun key => requiredKeys.contains key || optionalKeys.contains key)
    guard (requiredKeys.all keys.contains)
    keys.mapM fun key => (dataValue properties key).map (key, ·)
  | _ => none

def safeInteger (value : Datum) (minimum maximum : Nat) : Option Nat :=
  match value with
  | .number n => if minimum ≤ n ∧ n ≤ maximum then some n.toNat else none
  | _ => none

def budgetKeys : List String :=
  ["maximumConcurrentRequests", "maximumInFlightWorkloadUnits", "rateWindowMilliseconds",
    "maximumStartsPerWindow", "maximumWorkloadUnitsPerWindow"]

def destinationPolicyKeys : List String :=
  budgetKeys ++ ["timeoutMilliseconds", "circuitFailureThreshold", "circuitOpenMilliseconds"]

def accountPolicyKeys : List String := budgetKeys ++ ["maximumTrackedAccounts"]

def isZeroBudget (record : Fields) : Bool := budgetKeys.all fun key => (record.get key).isNumber 0

def parseBudget (record : Fields) : Option BudgetPolicy := do
  let zero := isZeroBudget record
  let minimum := fun n => if zero then 0 else n
  let maximumConcurrentRequests ←
    safeInteger (record.get "maximumConcurrentRequests") (minimum 1) maxConcurrentRequests
  let maximumInFlightWorkloadUnits ←
    safeInteger (record.get "maximumInFlightWorkloadUnits") (minimum 1) maxWorkloadUnits
  let rateWindowMilliseconds ←
    safeInteger (record.get "rateWindowMilliseconds") (minimum minRateWindowMilliseconds)
      maxRateWindowMilliseconds
  let maximumStartsPerWindow ←
    safeInteger (record.get "maximumStartsPerWindow") (minimum 1) maxStartsPerWindow
  let maximumWorkloadUnitsPerWindow ←
    safeInteger (record.get "maximumWorkloadUnitsPerWindow") (minimum 1) maxWorkloadUnits
  return {
    maximumConcurrentRequests
    maximumInFlightWorkloadUnits
    rateWindowMilliseconds
    maximumStartsPerWindow
    maximumWorkloadUnitsPerWindow }

def parseDestinationPolicy (value : Datum) : Option DestinationPolicy := do
  let record ← exactDataRecord value destinationPolicyKeys []
  let budget ← parseBudget record
  let disabled := decide (budget.maximumConcurrentRequests = 0)
  let minimum := fun n => if disabled then 0 else n
  let timeoutMilliseconds ←
    safeInteger (record.get "timeoutMilliseconds") (minimum 1) maxTimeoutMilliseconds
  let circuitFailureThreshold ←
    safeInteger (record.get "circuitFailureThreshold") (minimum 1) maxCircuitFailureThreshold
  let circuitOpenMilliseconds ←
    safeInteger (record.get "circuitOpenMilliseconds") (minimum minRateWindowMilliseconds)
      maxRateWindowMilliseconds
  guard (disabled = decide (timeoutMilliseconds = 0 ∧ circuitFailureThreshold = 0 ∧
    circuitOpenMilliseconds = 0))
  return { budget with timeoutMilliseconds, circuitFailureThreshold, circuitOpenMilliseconds }

def parseAccountPolicy (value : Datum) : Option AccountPolicy := do
  let record ← exactDataRecord value accountPolicyKeys []
  let budget ← parseBudget record
  let maximumTrackedAccounts ← safeInteger (record.get "maximumTrackedAccounts")
    (if budget.maximumConcurrentRequests = 0 then 0 else 1) maxTrackedAccounts
  guard (decide (budget.maximumConcurrentRequests = 0) = decide (maximumTrackedAccounts = 0))
  return { budget with maximumTrackedAccounts }

def parseMode (value : Datum) : Option Mode :=
  if value.isText "disabled" then some .disabled
  else if value.isText "enabled" then some .enabled
  else none

/-- The mode of a policy fits the budgets that it gives. -/
def fitsMode (policy : AdmissionPolicy) : Bool :=
  let enabledDestinations := allDestinations.filter fun destination =>
    decide (0 < (policy.destinations destination).maximumConcurrentRequests)
  match policy.mode with
  | .disabled =>
    decide (policy.global.maximumConcurrentRequests = 0 ∧
      policy.accountScopedLifi.maximumConcurrentRequests = 0 ∧ enabledDestinations = [])
  | .enabled =>
    decide (policy.global.maximumConcurrentRequests ≠ 0 ∧ enabledDestinations ≠ []) &&
      decide (0 < (policy.destinations .lifiQuote).maximumConcurrentRequests) ==
        decide (0 < policy.accountScopedLifi.maximumConcurrentRequests)

def parsePolicy (value : Datum) : Option AdmissionPolicy := do
  let record ← exactDataRecord value ["mode", "global", "accountScopedLifi", "destinations"] []
  let mode ← parseMode (record.get "mode")
  let globalRecord ← exactDataRecord (record.get "global") budgetKeys []
  let global ← parseBudget globalRecord
  let accountScopedLifi ← parseAccountPolicy (record.get "accountScopedLifi")
  let destinationRecord ← exactDataRecord (record.get "destinations")
    (allDestinations.map Destination.text) []
  let aave ← parseDestinationPolicy
    (destinationRecord.get (Destination.text .aaveV3EthereumMarket))
  let llama ← parseDestinationPolicy (destinationRecord.get (Destination.text .defiLlamaYields))
  let lifi ← parseDestinationPolicy (destinationRecord.get (Destination.text .lifiQuote))
  let policy : AdmissionPolicy := {
    mode, global, accountScopedLifi
    destinations := fun
      | .aaveV3EthereumMarket => aave
      | .defiLlamaYields => llama
      | .lifiQuote => lifi }
  guard (fitsMode policy)
  return policy

end Parsing

section Accepted

variable {value : Datum} {record : Fields} {minimum maximum n : Nat}

/-- A budget for some reads, within the bounds. -/
structure BudgetPolicy.IsEnabled (policy : BudgetPolicy) : Prop where
  requests : 1 ≤ policy.maximumConcurrentRequests ∧
    policy.maximumConcurrentRequests ≤ maxConcurrentRequests
  units : 1 ≤ policy.maximumInFlightWorkloadUnits ∧
    policy.maximumInFlightWorkloadUnits ≤ maxWorkloadUnits
  window : minRateWindowMilliseconds ≤ policy.rateWindowMilliseconds ∧
    policy.rateWindowMilliseconds ≤ maxRateWindowMilliseconds
  starts : 1 ≤ policy.maximumStartsPerWindow ∧ policy.maximumStartsPerWindow ≤ maxStartsPerWindow
  unitsPerWindow : 1 ≤ policy.maximumWorkloadUnitsPerWindow ∧
    policy.maximumWorkloadUnitsPerWindow ≤ maxWorkloadUnits

/-- A budget for no reads. -/
def zeroBudget : BudgetPolicy := ⟨0, 0, 0, 0, 0⟩

structure DestinationPolicy.IsEnabled (policy : DestinationPolicy) : Prop where
  budget : policy.toBudgetPolicy.IsEnabled
  timeout : 1 ≤ policy.timeoutMilliseconds ∧ policy.timeoutMilliseconds ≤ maxTimeoutMilliseconds
  threshold : 1 ≤ policy.circuitFailureThreshold ∧
    policy.circuitFailureThreshold ≤ maxCircuitFailureThreshold
  openTime : minRateWindowMilliseconds ≤ policy.circuitOpenMilliseconds ∧
    policy.circuitOpenMilliseconds ≤ maxRateWindowMilliseconds

def disabledDestination : DestinationPolicy := ⟨zeroBudget, 0, 0, 0⟩

structure AccountPolicy.IsEnabled (policy : AccountPolicy) : Prop where
  budget : policy.toBudgetPolicy.IsEnabled
  accounts : 1 ≤ policy.maximumTrackedAccounts ∧ policy.maximumTrackedAccounts ≤ maxTrackedAccounts

def disabledAccounts : AccountPolicy := ⟨zeroBudget, 0⟩

theorem safeInteger_bounds (h : safeInteger value minimum maximum = some n) :
    minimum ≤ n ∧ n ≤ maximum := by
  cases value with
  | number i =>
    rw [safeInteger, Option.ite_none_right_eq_some, Option.some.injEq] at h
    obtain ⟨hbounds, rfl⟩ := h
    omega
  | _ => cases h

theorem safeInteger_zero (hzero : value.isNumber 0 = true)
    (h : safeInteger value minimum maximum = some n) : n = 0 := by
  cases value with
  | number i =>
    obtain rfl : i = 0 := by simpa [Datum.isNumber] using hzero
    rw [safeInteger, Option.ite_none_right_eq_some, Option.some.injEq] at h
    exact h.2.symm
  | _ => cases h

theorem parseBudget_cases {policy : BudgetPolicy} (h : parseBudget record = some policy) :
    policy = zeroBudget ∨ policy.IsEnabled := by
  simp only [parseBudget, Option.bind_eq_bind, Option.bind_eq_some_iff, Option.pure_def,
    Option.some.injEq] at h
  obtain ⟨_, hrequests, _, hunits, _, hwindow, _, hstarts, _, hperWindow, rfl⟩ := h
  by_cases hzero : isZeroBudget record = true
  · have hfield : ∀ key ∈ budgetKeys, (record.get key).isNumber 0 = true :=
      List.all_eq_true.mp hzero
    left
    rw [safeInteger_zero (hfield _ (by decide)) hrequests,
      safeInteger_zero (hfield _ (by decide)) hunits,
      safeInteger_zero (hfield _ (by decide)) hwindow,
      safeInteger_zero (hfield _ (by decide)) hstarts,
      safeInteger_zero (hfield _ (by decide)) hperWindow]
    rfl
  · simp only [if_neg hzero] at hrequests hunits hwindow hstarts hperWindow
    exact .inr ⟨safeInteger_bounds hrequests, safeInteger_bounds hunits,
      safeInteger_bounds hwindow, safeInteger_bounds hstarts, safeInteger_bounds hperWindow⟩

theorem BudgetPolicy.IsEnabled.ne_zero {policy : BudgetPolicy} (h : policy.IsEnabled) :
    policy.maximumConcurrentRequests ≠ 0 := Nat.one_le_iff_ne_zero.mp h.requests.1

theorem parseDestinationPolicy_cases {policy : DestinationPolicy}
    (h : parseDestinationPolicy value = some policy) :
    policy = disabledDestination ∨ policy.IsEnabled := by
  simp only [parseDestinationPolicy, Option.bind_eq_bind, Option.bind_eq_some_iff, Option.pure_def,
    Option.some.injEq, Option.guard_eq_some'] at h
  obtain ⟨_, _, budget, hbudget, _, htimeout, _, hthreshold, _, hopen, _, hsame, rfl⟩ := h
  obtain rfl | henabled := parseBudget_cases hbudget
  · obtain ⟨rfl, rfl, rfl⟩ := of_decide_eq_true hsame.symm
    exact .inl rfl
  · have hon : ¬decide (budget.maximumConcurrentRequests = 0) = true := by
      simpa using henabled.ne_zero
    rw [if_neg hon] at htimeout hthreshold hopen
    exact .inr ⟨henabled, safeInteger_bounds htimeout, safeInteger_bounds hthreshold,
      safeInteger_bounds hopen⟩

theorem parseAccountPolicy_cases {policy : AccountPolicy}
    (h : parseAccountPolicy value = some policy) :
    policy = disabledAccounts ∨ policy.IsEnabled := by
  simp only [parseAccountPolicy, Option.bind_eq_bind, Option.bind_eq_some_iff, Option.pure_def,
    Option.some.injEq, Option.guard_eq_some'] at h
  obtain ⟨_, _, budget, hbudget, _, haccounts, _, hsame, rfl⟩ := h
  obtain rfl | henabled := parseBudget_cases hbudget
  · obtain rfl := of_decide_eq_true hsame.symm
    exact .inl rfl
  · rw [if_neg henabled.ne_zero] at haccounts
    exact .inr ⟨henabled, safeInteger_bounds haccounts⟩

/-- What a policy that was parsed satisfies. -/
structure AdmissionPolicy.Accepted (policy : AdmissionPolicy) : Prop where
  global : policy.global = zeroBudget ∨ policy.global.IsEnabled
  accounts : policy.accountScopedLifi = disabledAccounts ∨ policy.accountScopedLifi.IsEnabled
  destinations : ∀ d, policy.destinations d = disabledDestination ∨ (policy.destinations d).IsEnabled
  mode : fitsMode policy = true

theorem parsePolicy_accepted {policy : AdmissionPolicy} (h : parsePolicy value = some policy) :
    policy.Accepted := by
  simp only [parsePolicy, Option.bind_eq_bind, Option.bind_eq_some_iff, Option.pure_def,
    Option.some.injEq, Option.guard_eq_some'] at h
  obtain ⟨_, _, _, _, _, _, _, hglobal, _, haccounts, _, _, _, haave, _, hllama, _, hlifi, _, hmode,
    rfl⟩ := h
  refine ⟨parseBudget_cases hglobal, parseAccountPolicy_cases haccounts, fun d => ?_, hmode⟩
  cases d with
  | aaveV3EthereumMarket => exact parseDestinationPolicy_cases haave
  | defiLlamaYields => exact parseDestinationPolicy_cases hllama
  | lifiQuote => exact parseDestinationPolicy_cases hlifi

/-- A destination that allows reads has a circuit that some failures open. -/
theorem AdmissionPolicy.Accepted.enabled {policy : AdmissionPolicy} (h : policy.Accepted)
    {d : Destination} (hd : 0 < (policy.destinations d).maximumConcurrentRequests) :
    (policy.destinations d).IsEnabled := by
  obtain hdisabled | henabled := h.destinations d
  · rw [hdisabled] at hd
    cases hd
  · exact henabled

end Accepted

end CryptoLending.SmartLending.UpstreamReadPolicy
