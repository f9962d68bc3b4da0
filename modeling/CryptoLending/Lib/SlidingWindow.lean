import Mathlib.Algebra.BigOperators.Group.List.Basic
import Mathlib.Algebra.Order.Ring.Int
import Mathlib.Data.List.TakeWhile
import Mathlib.Tactic.Linarith

namespace CryptoLending.Lib.SlidingWindow

variable {α : Type} (time : α → ℤ) (weight : α → ℕ)

/-- What a log has after one time and up to another. -/
def between (first last : ℤ) (log : List α) : List α :=
  log.filter fun a => decide (first < time a ∧ time a ≤ last)

/-- A log without what it has up to a cutoff at its beginning. -/
def purge (cutoff : ℤ) (log : List α) : List α := log.dropWhile fun a => time a ≤ cutoff

def total (log : List α) : ℕ := (log.map weight).sum

/-- The end of a log, from which only what happened up to a cutoff is missing. -/
def Retains (cutoff : ℤ) (log retained : List α) : Prop :=
  ∃ dropped, log = dropped ++ retained ∧ ∀ a ∈ dropped, time a ≤ cutoff

/-- No window of some length has more than a limit. -/
def KeepsLimit (length : ℤ) (limit : ℕ) (log : List α) : Prop :=
  ∀ last, total weight (between time (last - length) last log) ≤ limit

variable {time weight} {log retained : List α} {cutoff cutoff' : ℤ}

theorem total_append (log log' : List α) :
    total weight (log ++ log') = total weight log + total weight log' := by
  simp [total]

theorem total_filter_le (p : α → Bool) (log : List α) :
    total weight (log.filter p) ≤ total weight log := by
  induction log with
  | nil => exact le_rfl
  | cons a log ih =>
    by_cases ha : p a = true
    · rw [List.filter_cons_of_pos ha]
      simpa [total] using ih
    · rw [List.filter_cons_of_neg ha]
      simp only [total, List.map_cons, List.sum_cons] at ih ⊢
      omega

theorem between_append (first last : ℤ) (log log' : List α) :
    between time first last (log ++ log') =
      between time first last log ++ between time first last log' := List.filter_append ..

theorem between_eq_nil {first last : ℤ} (h : ∀ a ∈ log, time a ≤ first) :
    between time first last log = [] := by
  apply List.filter_eq_nil_iff.mpr
  intro a ha
  have hle := h a ha
  simp [not_lt.mpr hle]

theorem Retains.mono (h : Retains time cutoff log retained) (hle : cutoff ≤ cutoff') :
    Retains time cutoff' log retained := by
  obtain ⟨dropped, hlog, hdropped⟩ := h
  exact ⟨dropped, hlog, fun a ha => (hdropped a ha).trans hle⟩

theorem Retains.append (h : Retains time cutoff log retained) (a : α) :
    Retains time cutoff (log ++ [a]) (retained ++ [a]) := by
  obtain ⟨dropped, rfl, hdropped⟩ := h
  exact ⟨dropped, List.append_assoc .., hdropped⟩

/-- What is retained may be purged up to a later cutoff. -/
theorem Retains.purge (h : Retains time cutoff log retained) (hle : cutoff ≤ cutoff') :
    Retains time cutoff' log (purge time cutoff' retained) := by
  obtain ⟨dropped, rfl, hdropped⟩ := h
  refine ⟨dropped ++ retained.takeWhile fun a => time a ≤ cutoff', ?_, fun a ha => ?_⟩
  · rw [List.append_assoc, SlidingWindow.purge, List.takeWhile_append_dropWhile]
  · obtain ha | ha := List.mem_append.mp ha
    · exact (hdropped a ha).trans hle
    · simpa using List.mem_takeWhile_imp ha

/-- In a log that is in order, what is left after purging is what the window has. -/
theorem purge_eq_between (hsorted : log.Pairwise fun a b => time a ≤ time b) {last : ℤ}
    (hlast : ∀ a ∈ log, time a ≤ last) : purge time cutoff log = between time cutoff last log := by
  induction log with
  | nil => rfl
  | cons a log ih =>
    obtain ⟨hfirst, hsorted⟩ := List.pairwise_cons.mp hsorted
    obtain ⟨ha, hlog⟩ := List.forall_mem_cons.mp hlast
    by_cases hcut : time a ≤ cutoff
    · have hout : ¬(cutoff < time a ∧ time a ≤ last) := fun h => not_lt.mpr hcut h.1
      rw [purge, List.dropWhile_cons_of_pos (by simpa using hcut), between,
        List.filter_cons_of_neg (by simpa using fun h => absurd h (not_lt.mpr hcut))]
      exact ih hsorted hlog
    · have hall : between time cutoff last (a :: log) = a :: log := by
        apply List.filter_eq_self.mpr
        intro b hb
        obtain rfl | hb' := List.mem_cons.mp hb
        · simpa using ⟨not_le.mp hcut, ha⟩
        · simpa using ⟨(not_le.mp hcut).trans_le (hfirst b hb'), hlog b hb'⟩
      rw [hall, purge, List.dropWhile_cons_of_neg (by simpa using hcut)]

theorem Retains.purge_eq (h : Retains time cutoff log retained) (hle : cutoff ≤ cutoff')
    (hsorted : log.Pairwise fun a b => time a ≤ time b) {last : ℤ}
    (hlast : ∀ a ∈ log, time a ≤ last) :
    SlidingWindow.purge time cutoff' retained = between time cutoff' last log := by
  obtain ⟨dropped, rfl, hdropped⟩ := h
  have hold : between time cutoff' last dropped = [] :=
    between_eq_nil fun a ha => (hdropped a ha).trans hle
  rw [between_append, hold, List.nil_append]
  exact purge_eq_between (List.pairwise_append.mp hsorted).2.1
    fun a ha => hlast a (List.mem_append_right _ ha)

theorem keepsLimit_nil (length : ℤ) (limit : ℕ) : KeepsLimit time weight length limit [] :=
  fun _ => Nat.zero_le _

/-- One more item keeps the limit when all that is retained leaves room for it. -/
theorem KeepsLimit.append {length : ℤ} {limit : ℕ} (h : KeepsLimit time weight length limit log)
    {a : α} (hlast : ∀ b ∈ log, time b ≤ time a)
    (hretains : Retains time (time a - length) log retained)
    (hroom : total weight retained + weight a ≤ limit) :
    KeepsLimit time weight length limit (log ++ [a]) := by
  intro last
  by_cases ha : time a ≤ last
  · -- What was dropped lies before the window.
    obtain ⟨dropped, rfl, hdropped⟩ := hretains
    have hold : between time (last - length) last dropped = [] :=
      between_eq_nil fun b hb => (hdropped b hb).trans (by omega)
    rw [List.append_assoc, between_append, hold, List.nil_append]
    refine (total_filter_le _ _).trans ?_
    rw [total_append]
    simpa [total] using hroom
  · have hout : between time (last - length) last [a] = [] := by
      simp [between, ha]
    rw [between_append, hout, List.append_nil]
    exact h last

end CryptoLending.Lib.SlidingWindow
