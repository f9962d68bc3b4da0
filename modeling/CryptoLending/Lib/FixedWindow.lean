import Mathlib.Data.List.Count
import Mathlib.Data.Nat.Basic
import Mathlib.Order.Basic
import Mathlib.Order.Lattice

namespace CryptoLending.Lib.FixedWindow

/-- A window of requests: how many were charged to it, and when it started. -/
structure Window (T : Type) where
  count : Nat
  start : T

/-- What became of a request at a time. -/
structure Entry (T : Type) where
  now : T
  opened : Bool
  charged : Bool

/-- When a window that started at a time is over. How the time that has passed is computed is left
open: a window that started earlier is over when a later one is, and stays over. -/
structure Length (T : Type) [LinearOrder T] where
  ended : T → T → Bool
  lt_of_ended : ∀ {start now}, ended start now = true → start < now
  ended_mono : ∀ {start start' now now'}, start' ≤ start → now ≤ now' → ended start now = true →
    ended start' now' = true

variable {T : Type} [LinearOrder T]

/-- Charge a request to a window, unless that one is full. -/
def charge (limit : Nat) (w : Window T) (now : T) (opened : Bool) : Entry T × Window T :=
  if w.count < limit then (⟨now, opened, true⟩, ⟨w.count + 1, w.start⟩)
  else (⟨now, opened, false⟩, w)

/-- A request opens a window when there is none or it is over; before its start a window takes
no requests. -/
def request (length : Length T) (limit : Nat) (w : Option (Window T)) (now : T) :
    Entry T × Window T :=
  match w with
  | none => charge limit ⟨0, now⟩ now true
  | some w =>
    if now < w.start then (⟨now, false, false⟩, w)
    else if length.ended w.start now then charge limit ⟨0, now⟩ now true
    else charge limit w now false

/-- The entries of requests that come one after the other. -/
def serve (length : Length T) (limit : Nat) : Option (Window T) → List T → List (Entry T)
  | _, [] => []
  | w, now :: rest =>
    (request length limit w now).1 :: serve length limit (some (request length limit w now).2) rest

variable {length : Length T} {limit : Nat}

/-- What one request does to a window. -/
inductive Requested (length : Length T) (limit : Nat) :
    Option (Window T) → T → Entry T → Window T → Prop
  | opened {w : Option (Window T)} {now : T} (h : ∀ v ∈ w, length.ended v.start now = true)
      (hlimit : 0 < limit) :
      Requested length limit w now ⟨now, true, true⟩ ⟨1, now⟩
  | unlimited {w : Option (Window T)} {now : T} (h : ∀ v ∈ w, length.ended v.start now = true)
      (hlimit : limit = 0) :
      Requested length limit w now ⟨now, true, false⟩ ⟨0, now⟩
  | charged {w : Window T} {now : T} (hstart : w.start ≤ now)
      (hend : length.ended w.start now = false) (hcount : w.count < limit) :
      Requested length limit (some w) now ⟨now, false, true⟩ ⟨w.count + 1, w.start⟩
  | refused {w : Window T} {now : T} : Requested length limit (some w) now ⟨now, false, false⟩ w

theorem charge_opened {w : Option (Window T)} {now : T}
    (h : ∀ v ∈ w, length.ended v.start now = true) :
    Requested length limit w now (charge limit ⟨0, now⟩ now true).1
      (charge limit ⟨0, now⟩ now true).2 := by
  simp only [charge]
  split
  · rename_i hlimit
    exact .opened h hlimit
  · rename_i hlimit
    exact .unlimited h (by omega)

theorem request_requested (w : Option (Window T)) (now : T) :
    Requested length limit w now (request length limit w now).1 (request length limit w now).2 := by
  cases w with
  | none => exact charge_opened fun v hv => absurd hv (by simp)
  | some w =>
    simp only [request]
    split
    · exact .refused
    rename_i hstart
    split
    · rename_i hend
      refine charge_opened fun v hv => ?_
      obtain rfl := Option.mem_some.mp hv
      exact hend
    · rename_i hend
      simp only [charge]
      split
      · rename_i hcount
        exact .charged (not_lt.mp hstart) (Bool.eq_false_iff.mpr hend) hcount
      · exact .refused

/-- A request that is not charged leaves its window as it was. -/
theorem Requested.of_uncharged {w : Option (Window T)} {w' : Window T} {now : T} {e : Entry T}
    (h : Requested length limit w now e w') (hlimit : 0 < limit) (huncharged : e.charged = false) :
    w = some w' := by
  cases h with
  | opened => cases huncharged
  | unlimited _ hzero => omega
  | charged => cases huncharged
  | refused => rfl

theorem request_none (hlimit : 0 < limit) (now : T) :
    (request length limit none now).1.charged = true := by
  simp [request, charge, hlimit]

/-- A window that is over gives way to a new one. -/
theorem request_ended (hlimit : 0 < limit) {w : Window T} {now : T}
    (h : length.ended w.start now = true) :
    (request length limit (some w) now).1.charged = true := by
  have hstart : ¬now < w.start := not_lt.mpr (length.lt_of_ended h).le
  simp [request, charge, hlimit, hstart, h]

section Spacing

variable {w : Option (Window T)} {w' : Window T} {now : T} {e : Entry T}

theorem Requested.now_eq (h : Requested length limit w now e w') : e.now = now := by
  cases h <;> rfl

theorem Requested.of_opened (h : Requested length limit w now e w') (hopened : e.opened = true) :
    w'.start = e.now ∧ ∀ v ∈ w, length.ended v.start e.now = true := by
  cases h with
  | opened h => exact ⟨rfl, h⟩
  | unlimited h => exact ⟨rfl, h⟩
  | charged => cases hopened
  | refused => cases hopened

theorem Requested.of_kept (h : Requested length limit w now e w') (hopened : e.opened = false) :
    ∃ v, w = some v ∧ w'.start = v.start := by
  cases h with
  | opened => cases hopened
  | unlimited => cases hopened
  | charged => exact ⟨_, rfl, rfl⟩
  | refused => exact ⟨_, rfl, rfl⟩

/-- No window opens before the current one is over. -/
theorem ended_of_opened (v : Window T) (times : List T) :
    ∀ e ∈ serve length limit (some v) times, e.opened = true →
      length.ended v.start e.now = true := by
  induction times generalizing v with
  | nil => exact fun e he => absurd he List.not_mem_nil
  | cons now times ih =>
    intro e he hopened
    have hstep := @request_requested T _ length limit (some v) now
    obtain rfl | he := List.mem_cons.mp he
    · exact (hstep.of_opened hopened).2 v rfl
    · have hlater := ih _ e he hopened
      by_cases hfirst : (request length limit (some v) now).1.opened = true
      · obtain ⟨hstart, hprevious⟩ := hstep.of_opened hfirst
        rw [hstart] at hlater
        exact length.ended_mono le_rfl (length.lt_of_ended hlater).le (hprevious v rfl)
      · obtain ⟨u, hu, hstart⟩ := hstep.of_kept (Bool.not_eq_true _ ▸ hfirst)
        obtain rfl := Option.some.inj hu
        rwa [hstart] at hlater

/-- Windows open at least a length apart. -/
theorem serve_spaced (w : Option (Window T)) (times : List T) :
    ((serve length limit w times).filter (·.opened)).Pairwise
      (fun e f => length.ended e.now f.now = true) := by
  induction times generalizing w with
  | nil => exact List.Pairwise.nil
  | cons now times ih =>
    have hstep := @request_requested T _ length limit w now
    rw [serve, List.filter_cons]
    split
    · rename_i hopened
      refine List.pairwise_cons.mpr ⟨fun f hf => ?_, ih _⟩
      obtain ⟨hmem, hf⟩ := List.mem_filter.mp hf
      rw [← (hstep.of_opened hopened).1]
      exact ended_of_opened _ times f hmem hf
    · exact ih _

end Spacing

section Counting

variable {w : Option (Window T)} {w' : Window T} {now : T} {e : Entry T}

theorem Requested.count_le (h : Requested length limit w now e w')
    (hcount : ∀ v ∈ w, v.count ≤ limit) : w'.count ≤ limit := by
  cases h with
  | opened _ hlimit => exact hlimit
  | unlimited _ hlimit => exact Nat.zero_le _
  | charged _ _ hlimit => exact hlimit
  | refused => exact hcount _ rfl

/-- What is charged to a window is counted there. -/
theorem Requested.charged_le (h : Requested length limit w now e w') :
    (if e.charged = true then 1 else 0) ≤ w'.count := by
  cases h <;> simp

theorem Requested.count_add (h : Requested length limit w now e w') (hopened : e.opened = false) :
    ∃ v, w = some v ∧ w'.count = v.count + if e.charged then 1 else 0 := by
  cases h with
  | opened => cases hopened
  | unlimited => cases hopened
  | charged => exact ⟨_, rfl, rfl⟩
  | refused => exact ⟨_, rfl, rfl⟩

/-- While no window opens, only so many requests are charged as the current one has left. -/
theorem countP_charged_add_le (v : Window T) (hcount : v.count ≤ limit) {times : List T}
    {part rest : List (Entry T)} (h : serve length limit (some v) times = part ++ rest)
    (hkept : ∀ e ∈ part, e.opened = false) : v.count + part.countP (·.charged) ≤ limit := by
  induction part generalizing v times with
  | nil => simpa using hcount
  | cons e part ih =>
    cases times with
    | nil => cases h
    | cons now times =>
      have hstep := @request_requested T _ length limit (some v) now
      obtain ⟨rfl, hrest⟩ := List.cons.inj h
      obtain ⟨he, hpart⟩ := List.forall_mem_cons.mp hkept
      obtain ⟨u, hu, hadd⟩ := hstep.count_add he
      obtain rfl := Option.some.inj hu
      have hle := ih _ (hstep.count_le fun x hx => Option.mem_some.mp hx ▸ hcount) hrest hpart
      rw [hadd] at hle
      rw [List.countP_cons]
      omega

/-- In each window at most so many requests are charged as the limit says. -/
theorem countP_charged_le (hcount : ∀ v ∈ w, v.count ≤ limit) {times : List T}
    {before part after : List (Entry T)}
    (h : serve length limit w times = before ++ part ++ after)
    (hkept : ∀ e ∈ part.tail, e.opened = false) : part.countP (·.charged) ≤ limit := by
  induction before generalizing w times with
  | nil =>
    cases part with
    | nil => exact Nat.zero_le _
    | cons e part =>
      cases times with
      | nil => cases h
      | cons now times =>
        have hstep := @request_requested T _ length limit w now
        obtain ⟨rfl, hrest⟩ := List.cons.inj h
        have hle := countP_charged_add_le _ (hstep.count_le hcount) hrest hkept
        rw [List.countP_cons]
        -- What was charged to the window before counts against the limit, too.
        have hone := hstep.charged_le
        omega
  | cons e before ih =>
    cases times with
    | nil => cases h
    | cons now times =>
      have hstep := @request_requested T _ length limit w now
      obtain ⟨_, hrest⟩ := List.cons.inj h
      exact ih (fun v hv => Option.mem_some.mp hv ▸ hstep.count_le hcount) hrest

end Counting

section Intervals

/-- A request that was charged between two times. -/
def chargedWithin (first last : T) (e : Entry T) : Bool :=
  e.charged && decide (first ≤ e.now) && decide (e.now ≤ last)

/-- An interval is short when a window that follows another one in it has no follower there. -/
def Short (length : Length T) (first last : T) : Prop :=
  ∀ start second third, length.ended start second = true → length.ended second third = true →
    first < second → last < third

/-- What can still be charged from a time on, while the interval from there is short. -/
def remaining (length : Length T) (limit : Nat) (first : T) (w : Window T) : Nat :=
  if length.ended w.start first then 2 * limit else 2 * limit - w.count

variable {w : Option (Window T)} {w' : Window T} {now first last : T} {e : Entry T}

/-- After the interval nothing counts any more. -/
theorem Requested.after_last (h : Requested length limit w now e w') {v : Window T}
    (hv : w = some v) (hlast : last < v.start) : chargedWithin first last e = false ∧ last < w'.start := by
  have hended : length.ended v.start now = true → last < now := fun hended =>
    hlast.trans (length.lt_of_ended hended)
  subst hv
  cases h with
  | opened h =>
    have hnow := hended (h v rfl)
    exact ⟨by simp [chargedWithin, hnow], hnow⟩
  | unlimited h => exact ⟨by simp [chargedWithin], hended (h v rfl)⟩
  | charged hstart => exact ⟨by simp [chargedWithin, hlast.trans_le hstart], hlast⟩
  | refused => exact ⟨by simp [chargedWithin], hlast⟩

theorem countP_chargedWithin_eq_zero (v : Window T) (hlast : last < v.start) (times : List T) :
    (serve length limit (some v) times).countP (chargedWithin first last) = 0 := by
  induction times generalizing v with
  | nil => rfl
  | cons now times ih =>
    have hstep := @request_requested T _ length limit (some v) now
    obtain ⟨hout, hnext⟩ : chargedWithin first last (request length limit (some v) now).1 = false ∧
        last < (request length limit (some v) now).2.start := hstep.after_last rfl hlast
    rw [serve, List.countP_cons_of_neg (by simp [hout])]
    exact ih _ hnext

theorem charged_of_chargedWithin (h : chargedWithin first last e = true) : e.charged = true := by
  simp only [chargedWithin, Bool.and_eq_true] at h
  exact h.1.1

/-- A window that follows another one in a short interval is the last one there. -/
theorem countP_chargedWithin_add_le (hshort : Short length first last) {start : T} (v : Window T)
    (hended : length.ended start v.start = true) (hfirst : first < v.start)
    (hcount : v.count ≤ limit) (times : List T) :
    v.count + (serve length limit (some v) times).countP (chargedWithin first last) ≤ limit := by
  induction times generalizing v with
  | nil => exact hcount
  | cons now times ih =>
    have hstep := @request_requested T _ length limit (some v) now
    by_cases hopened : (request length limit (some v) now).1.opened = true
    · obtain ⟨hstart, hprevious⟩ := hstep.of_opened hopened
      have hlast := hshort start v.start _ hended (hprevious v rfl) hfirst
      rw [serve, List.countP_cons_of_neg (by simp [chargedWithin, hlast]),
        countP_chargedWithin_eq_zero _ (hstart ▸ hlast)]
      exact hcount
    · have hkept := Bool.not_eq_true _ ▸ hopened
      obtain ⟨u, hu, hsame⟩ := hstep.of_kept hkept
      obtain ⟨u', hu', hadd⟩ := hstep.count_add hkept
      obtain rfl := Option.some.inj hu
      obtain rfl := Option.some.inj hu'
      have hle := ih _ (hsame ▸ hended) (hsame ▸ hfirst)
        (hstep.count_le fun x hx => Option.mem_some.mp hx ▸ hcount)
      have hcharged : (if chargedWithin first last (request length limit (some v) now).1 then 1
          else 0) ≤ if (request length limit (some v) now).1.charged then 1 else 0 := by
        split
        · rename_i hwithin
          rw [if_pos (charged_of_chargedWithin hwithin)]
        · exact Nat.zero_le _
      rw [serve, List.countP_cons]
      omega

theorem remaining_le (limit : Nat) (first : T) (w : Window T) :
    remaining length limit first w ≤ 2 * limit := by
  simp only [remaining]
  split <;> omega

theorem remaining_of_le (h : first ≤ w'.start) :
    remaining length limit first w' = 2 * limit - w'.count := by
  have hend : ¬length.ended w'.start first = true := fun hended =>
    absurd (length.lt_of_ended hended) (not_lt.mpr h)
  rw [remaining, if_neg hend]

theorem remaining_of_ended (h : length.ended w'.start first = true) :
    remaining length limit first w' = 2 * limit := if_pos h

/-- The request that opens a window counts against what it allows. -/
theorem remaining_opened (hlimit : 0 < limit) :
    (if chargedWithin first last ⟨now, true, true⟩ then 1 else 0) +
      remaining length limit first ⟨1, now⟩ ≤ 2 * limit := by
  by_cases hnow : first ≤ now
  · have hrest : remaining length limit first ⟨1, now⟩ = 2 * limit - 1 := remaining_of_le hnow
    rw [hrest]
    split <;> omega
  · have hout : chargedWithin first last ⟨now, true, true⟩ = false := by simp [chargedWithin, hnow]
    rw [hout, if_neg Bool.false_ne_true, Nat.zero_add]
    exact remaining_le limit first _

/-- A request uses up what it is charged, unless it opens a window in the interval. -/
theorem Requested.remaining_le {v : Window T} (h : Requested length limit (some v) now e w')
    (hbefore : e.opened = true → now ≤ first) :
    (if chargedWithin first last e then 1 else 0) + remaining length limit first w' ≤
      remaining length limit first v := by
  cases h with
  | opened h hlimit =>
    rw [remaining_of_ended (length.ended_mono le_rfl (hbefore rfl) (h v rfl))]
    exact remaining_opened hlimit
  | unlimited h _ =>
    have hzero := @FixedWindow.remaining_le T _ length limit first ⟨0, now⟩
    rw [remaining_of_ended (length.ended_mono le_rfl (hbefore rfl) (h v rfl))]
    simpa [chargedWithin] using hzero
  | charged hstart hend hlimit =>
    have hone : (if chargedWithin first last ⟨now, false, true⟩ then 1 else 0) ≤ 1 := by
      split <;> omega
    simp only [remaining]
    by_cases hended : length.ended v.start first = true
    · -- The whole window lies before the interval.
      have hnow : ¬first ≤ now := fun hle => by
        rw [length.ended_mono le_rfl hle hended] at hend
        cases hend
      have hout : chargedWithin first last ⟨now, false, true⟩ = false := by
        simp [chargedWithin, hnow]
      simp [hout, hended]
    · rw [if_neg hended, if_neg hended]
      omega
  | refused => simp [chargedWithin]

theorem countP_chargedWithin_le_remaining (hshort : Short length first last) (v : Window T)
    (hcount : v.count ≤ limit) (times : List T) :
    (serve length limit (some v) times).countP (chargedWithin first last) ≤
      remaining length limit first v := by
  induction times generalizing v with
  | nil => exact Nat.zero_le _
  | cons now times ih =>
    have hstep := @request_requested T _ length limit (some v) now
    have hnext := hstep.count_le fun x hx => Option.mem_some.mp hx ▸ hcount
    rw [serve, List.countP_cons, Nat.add_comm]
    by_cases hopened : (request length limit (some v) now).1.opened = true → now ≤ first
    · have hle := ih _ hnext
      have hused : (if chargedWithin first last (request length limit (some v) now).1 then 1
          else 0) + remaining length limit first (request length limit (some v) now).2 ≤
          remaining length limit first v := hstep.remaining_le hopened
      omega
    · -- From the second window of the interval on, its limit is all that is left.
      obtain ⟨hopen, hlater⟩ := Classical.not_imp.mp hopened
      obtain ⟨hstart, hprevious⟩ := hstep.of_opened hopen
      have hle := countP_chargedWithin_add_le hshort (request length limit (some v) now).2
        (hstart ▸ hprevious v rfl) (by rw [hstart, hstep.now_eq]; exact not_le.mp hlater) hnext
        times
      have hcharged := hstep.charged_le
      have hwithin : (if chargedWithin first last (request length limit (some v) now).1 then 1
          else 0) ≤ (request length limit (some v) now).2.count := by
        split
        · rename_i hwithin
          rwa [if_pos (charged_of_chargedWithin hwithin)] at hcharged
        · exact Nat.zero_le _
      have hroom : limit ≤ remaining length limit first v := by
        rw [remaining]
        split <;> omega
      omega

/-- In an interval shorter than a window at most twice the limit is charged. -/
theorem countP_chargedWithin_le (hshort : Short length first last)
    (hcount : ∀ v ∈ w, v.count ≤ limit) (times : List T) :
    (serve length limit w times).countP (chargedWithin first last) ≤ 2 * limit := by
  cases w with
  | some v =>
    exact (countP_chargedWithin_le_remaining hshort v (hcount v rfl) times).trans
      (remaining_le limit first v)
  | none =>
    cases times with
    | nil => exact Nat.zero_le _
    | cons now times =>
      have hstep := @request_requested T _ length limit none now
      have hle := countP_chargedWithin_le_remaining hshort _ (hstep.count_le hcount) times
      rw [serve, List.countP_cons]
      generalize (request length limit none now).1 = e at hstep
      generalize (request length limit none now).2 = w' at hstep hle
      cases hstep with
      | opened _ hlimit =>
        have hused := @remaining_opened T _ length limit now first last hlimit
        omega
      | unlimited =>
        have hrest : remaining length limit first ⟨0, now⟩ ≤ 2 * limit := remaining_le limit first _
        simp only [chargedWithin, Bool.false_and, Bool.false_eq_true, if_false]
        omega

end Intervals

end CryptoLending.Lib.FixedWindow
