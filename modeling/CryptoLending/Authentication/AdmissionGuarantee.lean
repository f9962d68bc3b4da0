import CryptoLending.Authentication.AdmissionWindows

namespace CryptoLending.Authentication.AdmissionGuarantee

open Lib Lib.Double Lib.JsValue Lib.FixedWindow Lib.RecentKeys SessionResolutionAdmission
  AdmissionWindows

/-- A request that reached the limit of its source. -/
structure Served where
  source : String
  now : Magnitude
  charge : Charge
  decision : Decision
  deriving DecidableEq

def served? : Outcome → Option Served
  | .decided sourceAddress now charge decision => some ⟨sourceAddress, now, charge, decision⟩
  | _ => none

/-- The requests of a run that reached the limits of their sources. -/
def served (events : List (Machine.Event Call Outcome State)) : List Served :=
  events.filterMap (fun e => served? e.outcome)

/-- The requests of one source. -/
def servedTo (source : String) (requests : List Served) : List Served :=
  requests.filter (fun r => r.source = source)

/-- Between two requests of a source that follow each other, fewer other sources made requests
than are tracked. -/
def Uncrowded (capacity : Nat) (source : String) (sources : List String) : Prop :=
  ∀ before between after, sources = before ++ source :: between ++ source :: after →
    source ∉ between → between.dedup.length < capacity

section Requests

variable (limits : SessionResolutionAdmissionLimits)

/-- The charges of some requests are those of the windows at their turns. -/
def Serves : SourceWindows → List Served → Prop
  | _, [] => True
  | windows, r :: rest =>
    (chargeSource limits windows r.source r.now).1 = r.charge ∧
      Serves (chargeSource limits windows r.source r.now).2 rest

def windowsAfter (windows : SourceWindows) (requests : List Served) : SourceWindows :=
  requests.foldl (fun windows r => (chargeSource limits windows r.source r.now).2) windows

variable {limits}

theorem serves_append {windows : SourceWindows} {rs ss : List Served} :
    Serves limits windows (rs ++ ss) ↔
      Serves limits windows rs ∧ Serves limits (windowsAfter limits windows rs) ss := by
  induction rs generalizing windows with
  | nil => simp [Serves, windowsAfter]
  | cons r rs ih => rw [List.cons_append, Serves, Serves, ih, and_assoc]; rfl

/-- No more windows than are tracked, none of them with more requests than are allowed. -/
structure Bounded (limits : SessionResolutionAdmissionLimits) (windows : SourceWindows) : Prop where
  size : windows.size ≤ limits.maxTrackedSources
  counts : ∀ source window, windows.get source = some window →
    window.requestCount ≤ limits.sourceRequestLimit

theorem bounded_empty (limits : SessionResolutionAdmissionLimits) : Bounded limits .empty where
  size := Nat.zero_le _
  counts _ _ h := by cases h

theorem Bounded.next {windows : SourceWindows} (h : Bounded limits windows)
    (sourceAddress : String) (now : Magnitude) :
    Bounded limits (chargeSource limits windows sourceAddress now).2 where
  size := by
    rw [← JsMap.length_keys, keys_chargeSource]
    apply touch_length limits.trackedSources.1
    rw [JsMap.length_keys]
    exact h.size
  counts source window hget := by
    by_cases hsource : source = sourceAddress
    · subst hsource
      have hnext := (@chargeSource_request limits windows source now).2
      rw [hget, Option.map_some, Option.some.injEq] at hnext
      have hcount := (@request_requested Magnitude _ (windowLength limits) limits.sourceRequestLimit
        ((windows.get source).map SourceWindow.window) now).count_le (fun v hv => by
          obtain ⟨w, hw, rfl⟩ := Option.map_eq_some_iff.mp hv
          exact h.counts source w hw)
      rwa [← hnext] at hcount
    · obtain hsame | hnone := @get_chargeSource_ne limits windows sourceAddress now source hsource
      · exact h.counts source window (hsame ▸ hget)
      · rw [hnone] at hget
        cases hget

/-- What the requests of a source in a run of requests are, when the source is never dropped
between two of them. -/
theorem serves_kept {windows : SourceWindows} {source : String} {used : List String}
    {window : SourceWindow} {requests : List Served} (hserves : Serves limits windows requests)
    (hsince : UsedSince used source windows.keys) (hget : windows.get source = some window)
    (hnext : ∀ between after, requests.map (·.source) = between ++ source :: after →
      source ∉ between → (used ++ between).dedup.length < limits.maxTrackedSources)
    (huncrowded : Uncrowded limits.maxTrackedSources source (requests.map (·.source))) :
    (servedTo source requests).map (fun r => Charge.entry r.charge r.now) =
      serve (windowLength limits) limits.sourceRequestLimit (some (SourceWindow.window window))
        ((servedTo source requests).map (·.now)) := by
  induction requests generalizing windows used window with
  | nil => rfl
  | cons r rest ih =>
    obtain ⟨hcharge, hrest⟩ := hserves
    have hkeys := @keys_chargeSource limits windows r.source r.now
    have hlater : Uncrowded limits.maxTrackedSources source (rest.map (·.source)) :=
      fun before between after h => huncrowded (r.source :: before) between after (by simp [h])
    by_cases hr : r.source = source
    · obtain ⟨hentry, hwindow⟩ := @chargeSource_request limits windows r.source r.now
      rw [hr] at hentry hwindow hcharge hrest hkeys
      rw [hget, Option.map_some] at hentry hwindow
      obtain ⟨window', hget', hwindow'⟩ := Option.map_eq_some_iff.mp hwindow
      have hsince' : UsedSince [] source (chargeSource limits windows source r.now).2.keys := by
        rw [hkeys]
        exact usedSince_touch_self _ _ _
      have hrun := ih hrest hsince' hget' (fun between after h hb => by
        rw [List.nil_append]
        exact huncrowded [] between after (by simp [h, hr]) hb) hlater
      rw [hwindow'] at hrun
      simp only [servedTo, List.filter_cons, hr, decide_true, if_true, List.map_cons, serve]
      rw [← hcharge, hentry]
      exact congrArg _ hrun
    · have hskip : servedTo source (r :: rest) = servedTo source rest := by
        simp [servedTo, hr]
      rw [hskip]
      by_cases hmem : source ∈ rest.map (·.source)
      · -- The source comes back, so that it was not dropped meanwhile.
        obtain ⟨between, after, hsplit, hb⟩ := List.eq_append_cons_of_mem hmem
        have hcount := hnext (r.source :: between) after (by simp [hsplit])
          (List.not_mem_cons_of_ne_of_not_mem (Ne.symm hr) hb)
        have hfew : (used ++ [r.source]).dedup.length < limits.maxTrackedSources :=
          (dedup_length_le (by simp)).trans_lt hcount
        have hsince' := hsince.touch windows.keys_nodup hr hfew
        rw [← hkeys] at hsince'
        have hget' : (chargeSource limits windows r.source r.now).2.get source = some window := by
          obtain h | h := @get_chargeSource_ne limits windows r.source r.now source
            (Ne.symm hr)
          · rw [h, hget]
          · exact absurd hsince'.mem ((JsMap.get_eq_none_iff _).mp h)
        refine ih hrest hsince' hget' (fun between after h hb => ?_) hlater
        have hstep := hnext (r.source :: between) after (by simp [h])
          (List.not_mem_cons_of_ne_of_not_mem (Ne.symm hr) hb)
        rwa [List.append_assoc, List.singleton_append]
      · have hnone : servedTo source rest = [] := by
          apply List.filter_eq_nil_iff.mpr
          intro q hq hsource
          exact hmem (List.mem_map.mpr ⟨q, hq, of_decide_eq_true hsource⟩)
        rw [hnone]
        rfl

/-- The requests of a source that is never dropped between two of them are those of one
fixed-window limit. -/
theorem serves_fixedWindow {windows : SourceWindows} {source : String} {requests : List Served}
    (hbounded : Bounded limits windows) (hserves : Serves limits windows requests)
    (huncrowded : Uncrowded limits.maxTrackedSources source (requests.map (·.source))) :
    ∃ window : Option (Window Magnitude), (∀ v ∈ window, v.count ≤ limits.sourceRequestLimit) ∧
      (servedTo source requests).map (fun r => Charge.entry r.charge r.now) =
        serve (windowLength limits) limits.sourceRequestLimit window
          ((servedTo source requests).map (·.now)) := by
  induction requests generalizing windows with
  | nil => exact ⟨none, by simp, rfl⟩
  | cons r rest ih =>
    obtain ⟨hcharge, hrest⟩ := hserves
    have hlater : Uncrowded limits.maxTrackedSources source (rest.map (·.source)) :=
      fun before between after h => huncrowded (r.source :: before) between after (by simp [h])
    by_cases hr : r.source = source
    · obtain ⟨hentry, hwindow⟩ := @chargeSource_request limits windows r.source r.now
      have hkeys := @keys_chargeSource limits windows r.source r.now
      rw [hr] at hentry hwindow hcharge hrest hkeys
      obtain ⟨window', hget', hwindow'⟩ := Option.map_eq_some_iff.mp hwindow
      have hsince : UsedSince [] source (chargeSource limits windows source r.now).2.keys := by
        rw [hkeys]
        exact usedSince_touch_self _ _ _
      have hrun := serves_kept hrest hsince hget' (fun between after h hb => by
        rw [List.nil_append]
        exact huncrowded [] between after (by simp [h, hr]) hb) hlater
      refine ⟨(windows.get source).map SourceWindow.window, fun v hv => ?_, ?_⟩
      · obtain ⟨window, hwindow, rfl⟩ := Option.map_eq_some_iff.mp hv
        exact hbounded.counts source window hwindow
      · rw [hwindow'] at hrun
        simp only [servedTo, List.filter_cons, hr, decide_true, if_true, List.map_cons, serve]
        rw [← hcharge, hentry]
        exact congrArg _ hrun
    · have hskip : servedTo source (r :: rest) = servedTo source rest := by
        simp [servedTo, hr]
      rw [hskip]
      exact ih (hbounded.next r.source r.now) hrest hlater

end Requests

section Limits

variable {limits : SessionResolutionAdmissionLimits}

/-- What the requests of one source come to. -/
structure KeepsLimit (limits : SessionResolutionAdmissionLimits) (requests : List Served) :
    Prop where
  spaced : (requests.filter (·.charge.opened)).Pairwise fun r q =>
    windowUnits limits ≤ elapsed r.now q.now ∧
      (windowUnits limits ≤ r.now.units → r.now.units + windowUnits limits ≤ q.now.units)
  charged : ∀ before window after, requests = before ++ window ++ after →
    (∀ r ∈ window.tail, r.charge.opened = false) →
    window.countP (fun r => r.charge.verdict = .charged) ≤ limits.sourceRequestLimit
  admitted : ∀ first last : Magnitude, last.units < first.units + windowUnits limits →
    requests.countP (fun r => r.decision.isAdmitted && decide (first.units ≤ r.now.units) &&
      decide (r.now.units ≤ last.units)) ≤ 2 * limits.sourceRequestLimit

/-- A lease is only handed out for a request that was charged. -/
def Charged (r : Served) : Prop := r.decision.isAdmitted = true → r.charge.verdict = .charged

theorem keepsLimit_of_serve {requests : List Served} {window : Option (Window Magnitude)}
    (hcount : ∀ v ∈ window, v.count ≤ limits.sourceRequestLimit)
    (hserve : requests.map (fun r => Charge.entry r.charge r.now) =
      serve (windowLength limits) limits.sourceRequestLimit window (requests.map (·.now)))
    (hcharged : ∀ r ∈ requests, Charged r) : KeepsLimit limits requests where
  spaced := by
    have hspaced := @serve_spaced Magnitude _ (windowLength limits) limits.sourceRequestLimit window
      (requests.map (·.now))
    rw [← hserve, List.filter_map, List.pairwise_map] at hspaced
    refine hspaced.imp ?_
    intro r q hended
    have hpassed := (windowLength_ended limits r.now q.now).mp hended
    exact ⟨hpassed, fun hlate => add_windowUnits_le hlate hpassed⟩
  charged before part after hsplit hkept := by
    rw [hsplit, List.map_append, List.map_append] at hserve
    have hle := countP_charged_le hcount hserve.symm (by
      rw [← List.map_tail]
      intro e he
      obtain ⟨r, hr, rfl⟩ := List.mem_map.mp he
      exact hkept r hr)
    rw [List.countP_map] at hle
    exact hle
  admitted first last hshort := by
    have hle := countP_chargedWithin_le (short_of_lt hshort) hcount (requests.map (·.now))
    rw [← hserve, List.countP_map] at hle
    refine (List.countP_mono_left fun r hr h => ?_).trans hle
    simp only [Bool.and_eq_true, decide_eq_true_eq] at h
    obtain ⟨⟨hlease, hfirst⟩, hlast⟩ := h
    have hwithin : first ≤ r.now ∧ r.now ≤ last := ⟨hfirst, hlast⟩
    simp [chargedWithin, Charge.entry, hcharged r hr hlease, hwithin]

end Limits

section Retries

variable {limits : SessionResolutionAdmissionLimits} {windows : SourceWindows} {source : String}

/-- Either the source was dropped or its window is still this one, full. -/
def StillFull (limits : SessionResolutionAdmissionLimits) (windows : SourceWindows)
    (source : String) (window : SourceWindow) : Prop :=
  (windows.get source = none ∨ windows.get source = some window) ∧
    limits.sourceRequestLimit ≤ window.requestCount

theorem window_injective : Function.Injective SourceWindow.window := by
  rintro ⟨count, start⟩ ⟨count', start'⟩ h
  cases h
  rfl

theorem StillFull.next {window : SourceWindow} (h : StillFull limits windows source window)
    (sourceAddress : String) (now : Magnitude)
    (hcharged : sourceAddress = source →
      (chargeSource limits windows source now).1.verdict ≠ .charged) :
    StillFull limits (chargeSource limits windows sourceAddress now).2 source window := by
  refine ⟨?_, h.2⟩
  by_cases hsource : source = sourceAddress
  · subst hsource
    obtain ⟨hentry, hwindow⟩ := @chargeSource_request limits windows source now
    have hstep := @request_requested Magnitude _ (windowLength limits) limits.sourceRequestLimit
      ((windows.get source).map SourceWindow.window) now
    have huncharged : (Charge.entry (chargeSource limits windows source now).1 now).charged =
        false := decide_eq_false (hcharged rfl)
    rw [hentry] at huncharged
    rw [← hstep.of_uncharged limits.requestLimit.1 huncharged] at hwindow
    obtain hnone | hsome := h.1
    · rw [hnone] at hwindow
      exact .inl (Option.map_eq_none_iff.mp hwindow)
    · rw [hsome] at hwindow
      exact .inr (Option.map_injective window_injective hwindow)
  · obtain hsame | hnone := @get_chargeSource_ne limits windows sourceAddress now source hsource
    · rw [hsame]
      exact h.1
    · exact .inl hnone

theorem StillFull.after {window : SourceWindow}
    (h : StillFull limits windows source window) {requests : List Served}
    (hserves : Serves limits windows requests)
    (huncharged : ∀ r ∈ requests, r.source = source → r.charge.verdict ≠ .charged) :
    StillFull limits (windowsAfter limits windows requests) source window := by
  induction requests generalizing windows with
  | nil => exact h
  | cons r rest ih =>
    obtain ⟨hcharge, hrest⟩ := hserves
    obtain ⟨hr, hlater⟩ := List.forall_mem_cons.mp huncharged
    refine ih (h.next r.source r.now fun hsource => ?_) hrest hlater
    rw [← hsource, hcharge]
    exact hr hsource

theorem chargeWindow_fresh (windows : SourceWindows) (source : String) (now : Magnitude) :
    (chargeWindow limits windows source now ⟨0, now⟩ true).1.verdict = .charged := by
  have hlimit := limits.requestLimit.1
  have hempty : ¬0 ≥ limits.sourceRequestLimit := by omega
  rw [chargeWindow, if_neg hempty]

/-- A source is only refused by its limit while its window is full. -/
theorem chargeSource_limited {now : Magnitude} {seconds : Nat}
    (h : (chargeSource limits windows source now).1.verdict = .limited seconds) :
    ∃ window, seconds = retryAfterSeconds limits now window ∧
      window.windowStartedAt.units ≤ now.units ∧
      elapsed window.windowStartedAt now < windowUnits limits ∧
      StillFull limits (chargeSource limits windows source now).2 source window := by
  simp only [SessionResolutionAdmission.chargeSource] at h ⊢
  cases hget : windows.get source with
  | none =>
    rw [hget] at h
    cases (chargeWindow_fresh _ source now).symm.trans h
  | some window =>
    simp only [hget] at h ⊢
    split at h
    · cases h
    rename_i hearly
    rw [if_neg hearly]
    split at h
    · cases (chargeWindow_fresh _ source now).symm.trans h
    rename_i hended
    rw [if_neg hended]
    by_cases hfull : window.requestCount ≥ limits.sourceRequestLimit
    · rw [chargeWindow, if_pos hfull] at h ⊢
      exact ⟨window, (Verdict.limited.inj h).symm, not_lt.mp hearly, not_le.mp hended,
        .inr (JsMap.get_set_self _ _ _), hfull⟩
    · rw [chargeWindow, if_neg hfull] at h
      cases h

/-- What two subtractions and a division by a thousand can lose below the length of a window is less
than a millionth of a millisecond. -/
theorem rounding_slack {a b c : Nat} (ha : a < 2 ^ (unitExponent + 22))
    (hb : b < 2 ^ (unitExponent + 22)) (hc : c < 2 ^ (unitExponent + 12)) :
    (granularity a + granularity b + 1000 * granularity c) * 1000000 ≤ millisecond := by
  have hga := granularity_le ha
  have hgb := granularity_le hb
  have hgc := granularity_le hc
  have hwide : 2 ^ (unitExponent + 22 - 53) = 1024 * 2 ^ (unitExponent + 12 - 53) := by
    rw [show unitExponent + 22 - 53 = 10 + (unitExponent + 12 - 53) from rfl, Nat.pow_add]
  have hunit : millisecond = 2199023255552 * 2 ^ (unitExponent + 12 - 53) :=
    calc millisecond
        = 2 ^ (41 + (unitExponent + 12 - 53)) := congrArg (2 ^ ·) (by decide)
      _ = 2199023255552 * 2 ^ (unitExponent + 12 - 53) := by rw [Nat.pow_add]
  rw [hwide] at hga hgb
  rw [hunit]
  generalize 2 ^ (unitExponent + 12 - 53) = k at *
  omega

/-- What is left of a window and what was lost on the way to the seconds to wait cover it. -/
theorem covers_window {start now passed window left seconds told unit a b c : Nat}
    (hstart : start ≤ now) (hcurrent : passed < window) (hpassed : passed ≤ now - start + a)
    (hleft : window - passed ≤ left + b) (hseconds : left ≤ 1000 * (seconds + c))
    (htold : seconds ≤ told) (hslack : (a + b + 1000 * c) * 1000000 ≤ unit) :
    (start + window) * 1000000 ≤ (now + 1000 * told) * 1000000 + unit := by
  have hlost : start + window ≤ now + 1000 * told + (a + b + 1000 * c) := by omega
  calc (start + window) * 1000000
      ≤ (now + 1000 * told + (a + b + 1000 * c)) * 1000000 := Nat.mul_le_mul_right _ hlost
    _ = (now + 1000 * told) * 1000000 + (a + b + 1000 * c) * 1000000 := Nat.add_mul _ _ _
    _ ≤ (now + 1000 * told) * 1000000 + unit := Nat.add_le_add_left hslack _

/-- The seconds that a refused source is told reach the end of its window but for a millionth of a
millisecond. -/
theorem le_retryAfterSeconds {now : Magnitude} {window : SourceWindow}
    (hstart : window.windowStartedAt.units ≤ now.units)
    (hcurrent : elapsed window.windowStartedAt now < windowUnits limits) :
    (window.windowStartedAt.units + windowUnits limits) * 1000000 ≤
      (now.units + 1000 * retryAfterSeconds limits now window * millisecond) * 1000000 +
        millisecond := by
  have hwindow : windowUnits limits ≤ 3600000 * millisecond :=
    Nat.mul_le_mul_right _ limits.sourceWindow.2
  have hunit : millisecond ≤ windowUnits limits :=
    Nat.le_mul_of_pos_left _ (by have h := limits.sourceWindow.1; omega)
  have hshort : now.units - window.windowStartedAt.units < windowUnits limits := by
    by_contra hended
    exact absurd (windowUnits_le_elapsed limits (by omega)) (not_le.mpr hcurrent)
  obtain ⟨remaining, hremaining⟩ : ∃ remaining, remaining =
      roundUnits (windowUnits limits - elapsed window.windowStartedAt now) 1 := ⟨_, rfl⟩
  obtain ⟨seconds, hseconds⟩ : ∃ seconds, seconds = roundUnits (max millisecond remaining) 1000 :=
    ⟨_, rfl⟩
  have hlength : max millisecond remaining ≤ windowUnits limits :=
    max_le hunit (hremaining ▸ roundUnits_le_windowUnits limits (Nat.sub_le _ _))
  -- Each operation loses less than the spacing of the doubles where its result lies.
  have hpassed : elapsed window.windowStartedAt now ≤ _ := roundUnits_le_add _
  have hleft := @le_roundUnits_add 1
    (windowUnits limits - elapsed window.windowStartedAt now) Nat.one_pos
  have hdivided := @le_roundUnits_add 1000 (max millisecond remaining) (by omega)
  rw [Nat.one_mul, Nat.div_one, ← hremaining] at hleft
  rw [← hseconds] at hdivided
  have hslack := @rounding_slack (now.units - window.windowStartedAt.units)
    (windowUnits limits - elapsed window.windowStartedAt now) (max millisecond remaining / 1000)
    (lt_two_pow_of_le (hshort.le.trans hwindow)) (lt_two_pow_of_le ((Nat.sub_le _ _).trans hwindow))
    (div_lt_two_pow_of_le (hlength.trans hwindow))
  have hceil : seconds ≤ retryAfterSeconds limits now window * millisecond := by
    rw [hseconds, hremaining]
    exact (le_ceil_mul _).trans (Nat.mul_le_mul_right _ (le_max_right _ _))
  rw [Nat.mul_assoc]
  exact covers_window hstart hcurrent hpassed hleft ((le_max_right _ _).trans hdivided) hceil hslack

/-- After the seconds that it was told, and a millionth of a millisecond, a source is charged
again. -/
theorem chargeSource_after_retry {window : SourceWindow}
    (h : StillFull limits windows source window) {now : Magnitude}
    (hended : windowUnits limits ≤ elapsed window.windowStartedAt now) :
    (chargeSource limits windows source now).1.verdict = .charged := by
  have hlimit := limits.requestLimit.1
  have hentry := (@chargeSource_request limits windows source now).1
  have hcharged : (Charge.entry (chargeSource limits windows source now).1 now).charged = true := by
    rw [hentry]
    obtain hnone | hsome := h.1
    · rw [hnone]
      exact request_none hlimit now
    · rw [hsome]
      exact request_ended hlimit ((windowLength_ended limits _ _).mpr hended)
  exact of_decide_eq_true hcharged

end Retries

section Leases

variable {isIP : String → Nat} {limits : SessionResolutionAdmissionLimits}

def withOutcome (leases : List Nat) : Outcome → List Nat
  | .decided _ _ _ (.admitted lease) => leases ++ [lease]
  | _ => leases

/-- The open leases after one more call. -/
def openAfter (leases : List Nat) (e : Machine.Event Call Outcome State) : List Nat :=
  match e.call with
  | .release lease => leases.erase lease
  | .tryAcquire _ _ => withOutcome leases e.outcome

/-- The leases that were handed out and not released since. -/
def openLeases (events : List (Machine.Event Call Outcome State)) : List Nat :=
  events.foldl openAfter []

/-- The state counts the open leases. -/
structure Accounts (limits : SessionResolutionAdmissionLimits) (leases : List Nat) (s : State) :
    Prop where
  nodup : leases.Nodup
  mem : ∀ lease, lease ∈ leases ↔ s.leases[lease]? = some false
  active : s.activeResolutions = leases.length
  bounded : s.activeResolutions ≤ limits.maxConcurrentResolutions

variable {leases : List Nat} {s : State}

theorem Accounts.released (h : Accounts limits leases s) (lease : Nat) :
    Accounts limits (leases.erase lease) (release s lease) := by
  simp only [release]
  split
  · rename_i hopen
    have hmem := (h.mem lease).mpr hopen
    have hactive := h.active
    have hbounded := h.bounded
    have hlength := List.length_erase_of_mem hmem
    refine ⟨h.nodup.erase lease, fun i => ?_, ?_, ?_⟩
    · rw [h.nodup.mem_erase_iff, h.mem, List.getElem?_set]
      by_cases hi : lease = i
      · subst hi
        simp
      · simp [hi, Ne.symm hi]
    · simp only
      omega
    · simp only
      omega
  · rename_i hclosed
    have hmem : lease ∉ leases := fun hmem => hclosed ((h.mem lease).mp hmem)
    rwa [List.erase_of_not_mem hmem]

theorem Accounts.windows (h : Accounts limits leases s) (windows : SourceWindows) :
    Accounts limits leases { s with sourceWindows := windows } := ⟨h.1, h.2, h.3, h.4⟩

theorem Accounts.admitted (h : Accounts limits leases s)
    (hroom : s.activeResolutions < limits.maxConcurrentResolutions) (windows : SourceWindows) :
    Accounts limits (leases ++ [s.leases.length])
      ⟨s.activeResolutions + 1, windows, s.leases ++ [false]⟩ := by
  have hfresh : s.leases.length ∉ leases := by
    rw [h.mem, List.getElem?_eq_none le_rfl]
    simp
  refine ⟨?_, fun i => ?_, ?_, hroom⟩
  · exact List.Nodup.append h.nodup (List.nodup_singleton _) (List.disjoint_singleton.mpr hfresh)
  · rw [List.mem_append, h.mem, List.mem_singleton]
    simp only
    obtain hlt | heq | hgt := Nat.lt_trichotomy i s.leases.length
    · rw [List.getElem?_append_left hlt]
      simp [hlt.ne]
    · simp [heq]
    · have hend : (s.leases ++ [false]).length ≤ i := by
        rw [List.length_append, List.length_singleton]
        omega
      rw [List.getElem?_eq_none hend, List.getElem?_eq_none hgt.le]
      simp [hgt.ne']
  · simp [h.active]

/-- What an attempt does to the windows and to the leases. -/
theorem acquire_spec (h : Accounts limits leases s) (source : String) (now : Magnitude) :
    Accounts limits (withOutcome leases (acquire limits s source now).1)
        (acquire limits s source now).2 ∧
      ∃ r, served? (acquire limits s source now).1 = some r ∧ Charged r ∧
        chargeSource limits s.sourceWindows r.source r.now =
          (r.charge, (acquire limits s source now).2.sourceWindows) := by
  obtain ⟨⟨⟨opened, verdict⟩, windows⟩, hcharge⟩ :
      ∃ p, chargeSource limits s.sourceWindows source now = p := ⟨_, rfl⟩
  simp only [acquire, hcharge]
  cases verdict with
  | limited seconds =>
    exact ⟨h.windows windows, _, rfl, fun hadmitted => (by cases hadmitted), hcharge⟩
  | early => exact ⟨h.windows windows, _, rfl, fun hadmitted => (by cases hadmitted), hcharge⟩
  | charged =>
    by_cases hfull : s.activeResolutions ≥ limits.maxConcurrentResolutions
    · rw [if_pos hfull]
      exact ⟨h.windows windows, _, rfl, fun _ => rfl, hcharge⟩
    · rw [if_neg hfull]
      exact ⟨h.admitted (not_le.mp hfull) windows, _, rfl, fun _ => rfl, hcharge⟩

theorem release_sourceWindows (s : State) (lease : Nat) :
    (release s lease).sourceWindows = s.sourceWindows := by
  simp only [release]
  split <;> rfl

theorem step_spec (h : Accounts limits leases s) (c : Call) :
    Accounts limits (openAfter leases ((admission isIP limits).event s c))
        (step isIP limits s c).2 ∧
      ((served? (step isIP limits s c).1 = none ∧
          (step isIP limits s c).2.sourceWindows = s.sourceWindows) ∨
        ∃ r, served? (step isIP limits s c).1 = some r ∧ Charged r ∧
          chargeSource limits s.sourceWindows r.source r.now =
            (r.charge, (step isIP limits s c).2.sourceWindows)) := by
  cases c with
  | release lease => exact ⟨h.released lease, .inl ⟨rfl, release_sourceWindows s lease⟩⟩
  | tryAcquire sourceAddress reading =>
    simp only [openAfter, Machine.event, admission, step, tryAcquire]
    cases isSourceAddress isIP sourceAddress with
    | none => exact ⟨h, .inl ⟨rfl, rfl⟩⟩
    | some source =>
      cases readClock reading with
      | none => exact ⟨h, .inl ⟨rfl, rfl⟩⟩
      | some now =>
        have hspec := acquire_spec h source now
        exact ⟨hspec.1, .inr hspec.2⟩

end Leases

section Runs

variable {isIP : String → Nat} {limits : SessionResolutionAdmissionLimits}

/-- A run of the admission seen as requests to the limits of their sources. -/
theorem events_spec (calls : List Call) {leases : List Nat} {s : State}
    (h : Accounts limits leases s) :
    Accounts limits (((admission isIP limits).events s calls).foldl openAfter leases)
        ((admission isIP limits).run s calls) ∧
      Serves limits s.sourceWindows (served ((admission isIP limits).events s calls)) ∧
      ((admission isIP limits).run s calls).sourceWindows =
        windowsAfter limits s.sourceWindows (served ((admission isIP limits).events s calls)) ∧
      ∀ r ∈ served ((admission isIP limits).events s calls), Charged r := by
  induction calls generalizing leases s with
  | nil => exact ⟨h, trivial, rfl, fun r hr => absurd hr List.not_mem_nil⟩
  | cons c calls ih =>
    obtain ⟨haccounts, hstep⟩ := @step_spec isIP limits leases s h c
    obtain ⟨hrun, hserves, hwindows, hcharged⟩ := ih haccounts
    have hcons : served ((admission isIP limits).events s (c :: calls)) =
        (served? (step isIP limits s c).1).toList ++
          served ((admission isIP limits).events (step isIP limits s c).2 calls) := by
      rw [served, Machine.events, List.filterMap_cons]
      cases hserved : served? (step isIP limits s c).1 <;>
        simp [Machine.event, admission, hserved, served]
    refine ⟨hrun, ?_⟩
    rw [hcons]
    obtain ⟨hnone, hsame⟩ | ⟨r, hsome, hr, hcharge⟩ := hstep
    · rw [hnone]
      rw [hsame] at hserves hwindows
      exact ⟨hserves, hwindows, hcharged⟩
    · rw [hsome]
      simp only [Option.toList_some, List.singleton_append]
      refine ⟨⟨?_, ?_⟩, ?_, List.forall_mem_cons.mpr ⟨hr, hcharged⟩⟩
      · rw [hcharge]
      · rw [hcharge]
        exact hserves
      · rw [windowsAfter, List.foldl_cons, hcharge]
        exact hwindows

theorem accounts_initial (isIP : String → Nat) (limits : SessionResolutionAdmissionLimits) :
    Accounts limits [] (admission isIP limits).initial where
  nodup := List.nodup_nil
  mem lease := by simp [admission]
  active := rfl
  bounded := Nat.zero_le _

theorem Bounded.after {windows : SourceWindows} (h : Bounded limits windows)
    (requests : List Served) : Bounded limits (windowsAfter limits windows requests) := by
  induction requests generalizing windows with
  | nil => exact h
  | cons r rest ih => exact ih (h.next r.source r.now)

/-- What is served in a run is charged to the windows that started empty. -/
theorem trace_serves (isIP : String → Nat) (limits : SessionResolutionAdmissionLimits)
    (calls : List Call) :
    Serves limits .empty (served ((admission isIP limits).trace calls)) ∧
      ∀ r ∈ served ((admission isIP limits).trace calls), Charged r := by
  obtain ⟨_, hserves, _, hcharged⟩ := events_spec calls (accounts_initial isIP limits)
  exact ⟨hserves, hcharged⟩

/-- A part of what is served in a run keeps the limit of every source that is never dropped in
it, whatever the clock reads. -/
theorem part_keepsLimit {calls : List Call} {before part after : List Served}
    (hsplit : served ((admission isIP limits).trace calls) = before ++ part ++ after)
    {source : String}
    (huncrowded : Uncrowded limits.maxTrackedSources source (part.map (·.source))) :
    KeepsLimit limits (servedTo source part) := by
  obtain ⟨hserves, hcharged⟩ := trace_serves isIP limits calls
  rw [hsplit, List.append_assoc] at hserves
  obtain ⟨hpart, _⟩ := serves_append.1 (serves_append.1 hserves).2
  obtain ⟨window, hcount, hserve⟩ := serves_fixedWindow
    ((bounded_empty limits).after before) hpart huncrowded
  refine keepsLimit_of_serve hcount hserve fun r hr => hcharged r ?_
  rw [hsplit]
  exact List.mem_append_left _ (List.mem_append_right _ (List.mem_of_mem_filter hr))

/-- A source that waited as long as it was told is charged. -/
theorem retry_charged {calls : List Call} {before between after : List Served} {r q : Served}
    (hsplit : served ((admission isIP limits).trace calls) =
      before ++ r :: between ++ q :: after) {seconds : Nat}
    (hlimited : r.charge.verdict = .limited seconds) (hsource : q.source = r.source)
    (huncharged : ∀ p ∈ between, p.source = r.source → p.charge.verdict ≠ .charged)
    (hlate : (r.now.units + 1000 * seconds * millisecond) * 1000000 + millisecond ≤
      q.now.units * 1000000) : q.charge.verdict = .charged := by
  obtain ⟨hserves, _⟩ := trace_serves isIP limits calls
  rw [hsplit, List.append_assoc, serves_append] at hserves
  obtain ⟨_, hcharge, hrest⟩ := hserves
  obtain ⟨hbetween, hq, _⟩ := serves_append.1 hrest
  obtain ⟨window, rfl, hstart, hcurrent, hfull⟩ := chargeSource_limited (hcharge ▸ hlimited)
  have hended := (le_retryAfterSeconds hstart hcurrent).trans hlate
  rw [← hq, hsource]
  exact chargeSource_after_retry (hfull.after hbetween huncharged)
    (windowUnits_le_elapsed limits (by omega))

end Runs

/-- In every run the leases are counted and bounded, the windows of a source that is never dropped
keep its limit, and waiting as long as told and a millionth of a millisecond is enough to be charged
again. -/
theorem admission_keeps_limits (isIP : String → Nat) (limits : SessionResolutionAdmissionLimits)
    (calls : List Call) :
    (((admission isIP limits).reached calls).activeResolutions =
        (openLeases ((admission isIP limits).trace calls)).length ∧
      ((admission isIP limits).reached calls).activeResolutions ≤ limits.maxConcurrentResolutions ∧
      ((admission isIP limits).reached calls).sourceWindows.size ≤ limits.maxTrackedSources) ∧
    (∀ before part after, served ((admission isIP limits).trace calls) = before ++ part ++ after →
      ∀ source, Uncrowded limits.maxTrackedSources source (part.map (·.source)) →
        KeepsLimit limits (servedTo source part)) ∧
    ∀ before r between q after, served ((admission isIP limits).trace calls) =
        before ++ r :: between ++ q :: after →
      ∀ seconds : Nat, r.charge.verdict = .limited seconds → q.source = r.source →
        (∀ p ∈ between, p.source = r.source → p.charge.verdict ≠ .charged) →
        (r.now.units + 1000 * seconds * millisecond) * 1000000 + millisecond ≤
          q.now.units * 1000000 → q.charge.verdict = .charged := by
  obtain ⟨haccounts, _, hwindows, _⟩ := events_spec calls (accounts_initial isIP limits)
  refine ⟨⟨haccounts.active, haccounts.bounded, ?_⟩, ?_, ?_⟩
  · have hsize := ((bounded_empty limits).after
      (served ((admission isIP limits).trace calls))).size
    exact hwindows ▸ hsize
  · exact fun before part after hsplit source => part_keepsLimit hsplit
  · exact fun before r between q after hsplit seconds => retry_charged hsplit

/-- With the limits of a database pool, some connection is always left to others. -/
theorem defaultLimits_leave_connection (isIP : String → Nat) {databasePoolCapacity : Nat}
    (h : 2 ≤ databasePoolCapacity ∧ databasePoolCapacity ≤ 100) (calls : List Call) :
    ((admission isIP (defaultLimits databasePoolCapacity h)).reached calls).activeResolutions <
      databasePoolCapacity := by
  obtain ⟨haccounts, _⟩ := events_spec calls
    (accounts_initial isIP (defaultLimits databasePoolCapacity h))
  have hbounded := haccounts.bounded
  simp only [defaultLimits] at hbounded
  exact hbounded.trans_lt (by omega)

section Sample

def sampleLimits : SessionResolutionAdmissionLimits :=
  ⟨2, 2, 1, 60000, by omega, by omega, by omega, by omega⟩

def sampleIsIP (s : String) : Nat := if s = "10.0.0.1" ∨ s = "10.0.0.2" then 4 else 0

def sampleAttempt (source : String) (now : Magnitude) : Call :=
  .tryAcquire (.string source) (some (.finite false now))

/-- The reading 0.1. -/
def tenth : Magnitude := ⟨roundDecimal 1 (-1), isRepresentable_roundDecimal _ _, by decide +kernel⟩

/-- The reading 60000.1, which is less than a minute after 0.1. -/
def tenthAfterMinute : Magnitude :=
  ⟨roundDecimal 600001 (-1), isRepresentable_roundDecimal _ _, by decide +kernel⟩

/-- The reading 0.5000000000054206. -/
def aboveHalf : Magnitude :=
  ⟨roundDecimal 5000000000054206 (-16), isRepresentable_roundDecimal _ _, by decide +kernel⟩

/-- The reading 20000.5. -/
def waiting : Magnitude :=
  ⟨roundDecimal 200005 (-1), isRepresentable_roundDecimal _ _, by decide +kernel⟩

/-- The reading 60000.5. -/
def waited : Magnitude :=
  ⟨roundDecimal 600005 (-1), isRepresentable_roundDecimal _ _, by decide +kernel⟩

/-- The reading 80000. -/
def later : Magnitude :=
  ⟨roundDecimal 80000 0, isRepresentable_roundDecimal _ _, by decide +kernel⟩

/-- A source that asks twice, with another one between, and once more after the seconds that it
was told. -/
def sampleCalls : List Call :=
  [sampleAttempt "10.0.0.1" tenth, sampleAttempt "10.0.0.1" waiting,
    sampleAttempt "10.0.0.2" waiting, .release 0, .release 0, sampleAttempt "10.0.0.1" later]

theorem sampleCalls_served :
    served ((admission sampleIsIP sampleLimits).trace sampleCalls) =
      [⟨"10.0.0.1", tenth, ⟨true, .charged⟩, .admitted 0⟩,
        ⟨"10.0.0.1", waiting, ⟨false, .limited 40⟩, .refused 40⟩,
        ⟨"10.0.0.2", waiting, ⟨true, .charged⟩, .admitted 1⟩,
        ⟨"10.0.0.1", later, ⟨true, .charged⟩, .admitted 2⟩] := by
  decide +kernel

theorem uncrowded_of_others {capacity : Nat} {source : String} {sources others : List String}
    (h : ∀ s ∈ sources, s ≠ source → s ∈ others) (hfew : others.dedup.length < capacity) :
    Uncrowded capacity source sources := by
  intro before between after hsplit hb
  refine (dedup_length_le fun s hs => ?_).trans_lt hfew
  have hmem : s ∈ sources := by simp [hsplit, hs]
  exact h s hmem (fun hsource => hb (hsource ▸ hs))

theorem sampleCalls_keeps_limits :
    (((admission sampleIsIP sampleLimits).reached sampleCalls).activeResolutions =
        (openLeases ((admission sampleIsIP sampleLimits).trace sampleCalls)).length) ∧
      KeepsLimit sampleLimits (servedTo "10.0.0.1"
        (served ((admission sampleIsIP sampleLimits).trace sampleCalls))) ∧
      ∀ q ∈ (served ((admission sampleIsIP sampleLimits).trace sampleCalls)).getLast?,
        q.charge.verdict = .charged := by
  obtain ⟨hleases, hkeeps, hretry⟩ := admission_keeps_limits sampleIsIP sampleLimits sampleCalls
  refine ⟨hleases.1, hkeeps [] _ [] (by simp) "10.0.0.1" ?_, fun q hq => ?_⟩
  · refine @uncrowded_of_others 2 _ _ ["10.0.0.2"] ?_ (by decide)
    rw [sampleCalls_served]
    simp
  · rw [sampleCalls_served] at hq
    obtain rfl := Option.some.inj hq
    refine hretry [_] _ [_] _ [] (sampleCalls_served.trans rfl) 40 rfl rfl ?_ ?_
    · simp
    · decide +kernel

/-- The exact times between readings are not kept to: a window of a minute opens after less, and
who waits for 40 seconds as told is refused again. -/
theorem rounding_shortens_windows :
    served ((admission sampleIsIP sampleLimits).trace
        [sampleAttempt "10.0.0.1" tenth, sampleAttempt "10.0.0.1" tenthAfterMinute]) =
      [⟨"10.0.0.1", tenth, ⟨true, .charged⟩, .admitted 0⟩,
        ⟨"10.0.0.1", tenthAfterMinute, ⟨true, .charged⟩, .admitted 1⟩] ∧
    tenthAfterMinute.units < tenth.units + windowUnits sampleLimits ∧
    served ((admission sampleIsIP sampleLimits).trace
        [sampleAttempt "10.0.0.1" aboveHalf, sampleAttempt "10.0.0.1" waiting,
          sampleAttempt "10.0.0.1" waited]) =
      [⟨"10.0.0.1", aboveHalf, ⟨true, .charged⟩, .admitted 0⟩,
        ⟨"10.0.0.1", waiting, ⟨false, .limited 40⟩, .refused 40⟩,
        ⟨"10.0.0.1", waited, ⟨false, .limited 1⟩, .refused 1⟩] ∧
    waiting.units + 1000 * 40 * millisecond ≤ waited.units := by
  decide +kernel

end Sample

end CryptoLending.Authentication.AdmissionGuarantee
