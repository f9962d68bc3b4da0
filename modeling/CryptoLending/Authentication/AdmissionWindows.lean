import CryptoLending.Authentication.SessionResolutionAdmission
import CryptoLending.Lib.DoubleOrder
import CryptoLending.Lib.FixedWindow
import CryptoLending.Lib.RecentKeys

namespace CryptoLending.Authentication.AdmissionWindows

open Lib Lib.Double Lib.FixedWindow Lib.RecentKeys SessionResolutionAdmission

def SourceWindow.window (w : SourceWindow) : Window Magnitude :=
  ⟨w.requestCount, w.windowStartedAt⟩

def Charge.entry (c : Charge) (now : Magnitude) : Entry Magnitude :=
  ⟨now, c.opened, decide (c.verdict = .charged)⟩

section OneRequest

variable {limits : SessionResolutionAdmissionLimits} {windows : SourceWindows}
  {sourceAddress : String} {now : Magnitude}

theorem millisecond_pos : 0 < millisecond := Nat.two_pow_pos _

theorem windowUnits_pos (limits : SessionResolutionAdmissionLimits) : 0 < windowUnits limits :=
  Nat.mul_pos (by have h := limits.sourceWindow.1; omega) millisecond_pos

theorem roundUnits_zero : roundUnits 0 1 = 0 :=
  Nat.le_zero.mp ((roundUnits_exact ⟨0, rfl⟩ Nat.one_pos).le)

/-- The length of a window, as the subtraction of doubles measures it. -/
def windowLength (limits : SessionResolutionAdmissionLimits) : Length Magnitude where
  ended start now := decide (windowUnits limits ≤ elapsed start now)
  lt_of_ended := by
    intro start now h
    by_contra hle
    have hzero : now.units - start.units = 0 := Nat.sub_eq_zero_of_le (not_lt.mp hle)
    have hpos := windowUnits_pos limits
    rw [decide_eq_true_eq, elapsed, hzero, roundUnits_zero] at h
    omega
  ended_mono := by
    intro start start' now now' hstart hnow h
    rw [decide_eq_true_eq] at h ⊢
    exact h.trans (roundUnits_mono (tsub_le_tsub hnow hstart))

theorem windowLength_ended (limits : SessionResolutionAdmissionLimits) (start now : Magnitude) :
    (windowLength limits).ended start now = true ↔ windowUnits limits ≤ elapsed start now := by
  simp only [windowLength, decide_eq_true_eq]

theorem roundUnits_windowUnits (limits : SessionResolutionAdmissionLimits) :
    roundUnits (windowUnits limits) 1 = windowUnits limits := by
  have hrepresentable : IsRepresentable (windowUnits limits) :=
    isRepresentable_mul_two_pow (by have hbound := limits.sourceWindow.2; omega) _
  have hexact := roundUnits_exact hrepresentable Nat.one_pos
  rwa [Nat.mul_one] at hexact

/-- A window is over once its length has passed: no rounding hides that. -/
theorem windowUnits_le_elapsed (limits : SessionResolutionAdmissionLimits) {start now : Magnitude}
    (h : start.units + windowUnits limits ≤ now.units) : windowUnits limits ≤ elapsed start now :=
  calc windowUnits limits
    _ = roundUnits (windowUnits limits) 1 := (roundUnits_windowUnits limits).symm
    _ ≤ elapsed start now := roundUnits_mono (by omega)

theorem windowUnits_le_of_ended {limits : SessionResolutionAdmissionLimits} {start now : Magnitude}
    (h : windowUnits limits ≤ elapsed start now) : windowUnits limits ≤ now.units :=
  calc windowUnits limits ≤ elapsed start now := h
    _ ≤ roundUnits (now.units * 1) 1 := roundUnits_mono (by omega)
    _ = now.units := roundUnits_exact now.representable Nat.one_pos

/-- From the first length of a window on, no rounding lets one end early. -/
theorem add_windowUnits_le {limits : SessionResolutionAdmissionLimits} {start now : Magnitude}
    (hlate : windowUnits limits ≤ start.units) (h : windowUnits limits ≤ elapsed start now) :
    start.units + windowUnits limits ≤ now.units := by
  have hlt : start.units < now.units :=
    (windowLength limits).lt_of_ended ((windowLength_ended limits _ _).mpr h)
  by_contra hshort
  have hexact := roundUnits_sub start.representable now.representable hlt.le (by omega)
  rw [elapsed, hexact] at h
  omega

/-- In less than the length of a window, at most two windows of a source are in use. -/
theorem short_of_lt {limits : SessionResolutionAdmissionLimits} {first last : Magnitude}
    (h : last.units < first.units + windowUnits limits) :
    Short (windowLength limits) first last := by
  intro start second third hsecond hthird hfirst
  have hlate := windowUnits_le_of_ended ((windowLength_ended limits _ _).mp hsecond)
  have hnext := add_windowUnits_le hlate ((windowLength_ended limits _ _).mp hthird)
  have hlt : first.units < second.units := hfirst
  change last.units < third.units
  omega

theorem roundUnits_le_windowUnits (limits : SessionResolutionAdmissionLimits) {units : Nat}
    (h : units ≤ windowUnits limits) : roundUnits units 1 ≤ windowUnits limits :=
  (roundUnits_mono h).trans (roundUnits_windowUnits limits).le

theorem lt_two_pow_of_le {units : Nat} (h : units ≤ 3600000 * millisecond) :
    units < 2 ^ (unitExponent + 22) := by
  have hpos := millisecond_pos
  rw [Nat.pow_add, ← millisecond]
  omega

theorem div_lt_two_pow_of_le {units : Nat} (h : units ≤ 3600000 * millisecond) :
    units / 1000 < 2 ^ (unitExponent + 12) := by
  have hpos := millisecond_pos
  rw [Nat.pow_add, ← millisecond]
  omega

theorem le_ceil_mul (units : Nat) : units ≤ ceil units * millisecond := by
  have hpos := millisecond_pos
  have hlt := Nat.lt_mul_div_succ (units + (millisecond - 1)) hpos
  rw [ceil, Nat.mul_comm]
  rw [Nat.mul_succ] at hlt
  omega

/-- Charging a window is charging the fixed window that it is. -/
theorem chargeWindow_charge (windows : SourceWindows) (window : SourceWindow) (opened : Bool) :
    Charge.entry (chargeWindow limits windows sourceAddress now window opened).1 now =
        (charge limits.sourceRequestLimit (SourceWindow.window window) now opened).1 ∧
      ((chargeWindow limits windows sourceAddress now window opened).2.get sourceAddress).map
          SourceWindow.window =
        some (charge limits.sourceRequestLimit (SourceWindow.window window) now opened).2 := by
  by_cases h : window.requestCount ≥ limits.sourceRequestLimit
  · simp [chargeWindow, charge, h, SourceWindow.window, Charge.entry, not_lt.mpr h]
  · simp [chargeWindow, charge, h, SourceWindow.window, Charge.entry, not_le.mp h]

theorem chargeSource_request (windows : SourceWindows) (sourceAddress : String) (now : Magnitude) :
    Charge.entry (chargeSource limits windows sourceAddress now).1 now =
        (request (windowLength limits) limits.sourceRequestLimit
          ((windows.get sourceAddress).map SourceWindow.window) now).1 ∧
      ((chargeSource limits windows sourceAddress now).2.get sourceAddress).map
          SourceWindow.window =
        some (request (windowLength limits) limits.sourceRequestLimit
          ((windows.get sourceAddress).map SourceWindow.window) now).2 := by
  cases hget : windows.get sourceAddress with
  | none =>
    simp only [chargeSource, hget, Option.map_none, request]
    exact chargeWindow_charge _ _ _
  | some window =>
    simp only [chargeSource, hget, Option.map_some, request]
    by_cases hearly : now.units < window.windowStartedAt.units
    · have hearly' : now < (SourceWindow.window window).start := hearly
      rw [if_pos hearly, if_pos hearly']
      simp [Charge.entry]
    have hearly' : ¬now < (SourceWindow.window window).start := hearly
    have hlength := windowLength_ended limits window.windowStartedAt now
    by_cases hended : elapsed window.windowStartedAt now ≥ windowUnits limits
    · have hended' : (windowLength limits).ended (SourceWindow.window window).start now = true :=
        hlength.mpr hended
      rw [if_neg hearly, if_pos hended, if_neg hearly', if_pos hended']
      exact chargeWindow_charge _ _ _
    · have hended' :
          ¬(windowLength limits).ended (SourceWindow.window window).start now = true :=
        mt hlength.mp hended
      rw [if_neg hearly, if_neg hended, if_neg hearly', if_neg hended']
      exact chargeWindow_charge _ _ _

theorem keys_chargeWindow {windows : SourceWindows} (h : windows.get sourceAddress = none)
    (window : SourceWindow) (opened : Bool) :
    (chargeWindow limits windows sourceAddress now window opened).2.keys =
      windows.keys ++ [sourceAddress] := by
  simp only [chargeWindow]
  split
  · exact JsMap.keys_set_fresh windows h _
  · exact JsMap.keys_set_fresh windows h _

theorem keys_evictOldestSourceIfFull (windows : SourceWindows) :
    (evictOldestSourceIfFull limits windows).keys =
      if windows.keys.length < limits.maxTrackedSources then windows.keys
      else windows.keys.tail := by
  rw [JsMap.length_keys, evictOldestSourceIfFull]
  split
  · rfl
  · cases hkeys : windows.keys with
    | nil => simp [JsMap.firstKey, hkeys]
    | cons k keys => simp [JsMap.firstKey, hkeys, JsMap.keys_delete]

theorem get_evictOldestSourceIfFull (windows : SourceWindows) (j : String) :
    (evictOldestSourceIfFull limits windows).get j = windows.get j ∨
      (evictOldestSourceIfFull limits windows).get j = none := by
  rw [evictOldestSourceIfFull]
  split
  · exact .inl rfl
  · cases hfirst : windows.firstKey with
    | none => exact .inl rfl
    | some k =>
      simp only [Option.map_some, Option.getD_some, JsMap.get_delete]
      split
      · exact .inr rfl
      · exact .inl rfl

/-- A request makes its source the most recent one. -/
theorem keys_chargeSource (windows : SourceWindows) (sourceAddress : String) (now : Magnitude) :
    (chargeSource limits windows sourceAddress now).2.keys =
      touch limits.maxTrackedSources windows.keys sourceAddress := by
  cases hget : windows.get sourceAddress with
  | none =>
    have hkey := (JsMap.get_eq_none_iff windows).mp hget
    have hevicted : (evictOldestSourceIfFull limits windows).get sourceAddress = none := by
      obtain h | h := @get_evictOldestSourceIfFull limits windows sourceAddress
      · rw [h, hget]
      · exact h
    simp only [chargeSource, hget, touch, if_neg hkey]
    rw [keys_chargeWindow hevicted, keys_evictOldestSourceIfFull]
  | some window =>
    have hkey := JsMap.mem_keys_of_get hget
    have hfresh : (windows.delete sourceAddress).get sourceAddress = none := by
      rw [JsMap.get_delete, if_pos rfl]
    simp only [chargeSource, hget, touch, if_pos hkey]
    rw [← JsMap.keys_delete]
    split
    · exact JsMap.keys_set_fresh _ hfresh _
    · split
      · exact keys_chargeWindow hfresh _ _
      · exact keys_chargeWindow hfresh _ _

theorem get_chargeWindow_ne {windows : SourceWindows} {j : String} (hj : j ≠ sourceAddress)
    (window : SourceWindow) (opened : Bool) :
    (chargeWindow limits windows sourceAddress now window opened).2.get j = windows.get j := by
  simp only [chargeWindow]
  split
  · exact JsMap.get_set_ne windows hj _
  · exact JsMap.get_set_ne windows hj _

/-- A request leaves the window of another source as it is, or drops it. -/
theorem get_chargeSource_ne {j : String} (hj : j ≠ sourceAddress) :
    (chargeSource limits windows sourceAddress now).2.get j = windows.get j ∨
      (chargeSource limits windows sourceAddress now).2.get j = none := by
  cases hget : windows.get sourceAddress with
  | none =>
    simp only [chargeSource, hget]
    rw [get_chargeWindow_ne hj]
    exact get_evictOldestSourceIfFull windows j
  | some window =>
    have hdelete : (windows.delete sourceAddress).get j = windows.get j := by
      rw [JsMap.get_delete, if_neg hj]
    left
    simp only [chargeSource, hget]
    split
    · rw [JsMap.get_set_ne _ hj, hdelete]
    · split
      · rw [get_chargeWindow_ne hj, hdelete]
      · rw [get_chargeWindow_ne hj, hdelete]

end OneRequest

end CryptoLending.Authentication.AdmissionWindows
