import Mathlib.Algebra.Order.BigOperators.Group.List
import Mathlib.Algebra.Order.Ring.Int
import Mathlib.Algebra.BigOperators.Group.List.Basic
import Mathlib.Data.List.Nodup

namespace CryptoLending.Lib.Budget

open Classical

variable {α ι κ : Type}

/-- Items with an amount, charged to any number of budgets with a limit each. -/
structure Budgets (α ι : Type) where
  amount : α → Int
  charges : α → ι → Prop
  limit : ι → Int

noncomputable section

def Budgets.used (b : Budgets α ι) (i : ι) (chosen : List α) : Int :=
  ((chosen.filter (fun a => b.charges a i)).map b.amount).sum

def Budgets.Fits (b : Budgets α ι) (chosen : List α) (a : α) : Prop :=
  ∀ i, b.charges a i → b.used i chosen + b.amount a ≤ b.limit i

def Budgets.Within (b : Budgets α ι) (chosen : List α) : Prop := ∀ i, b.used i chosen ≤ b.limit i

/-- Take the first of the options that fits. -/
def Budgets.pick (b : Budgets α ι) (chosen : List α) : List α → List α
  | [] => chosen
  | a :: rest => if b.Fits chosen a then chosen ++ [a] else b.pick chosen rest

/-- Serve the groups one after the other, with at most one item each. -/
def Budgets.allocate (b : Budgets α ι) (groups : List (List α)) : List α := groups.foldl b.pick []

variable {b : Budgets α ι}

@[simp] theorem used_nil (i : ι) : b.used i [] = 0 := rfl

theorem used_append_singleton (i : ι) (chosen : List α) (a : α) :
    b.used i (chosen ++ [a]) = b.used i chosen + if b.charges a i then b.amount a else 0 := by
  by_cases h : b.charges a i <;> simp [Budgets.used, List.filter_append, h]

/-- The use of a budget, by any test for the items charged to it. -/
theorem used_eq_sum {i : ι} {q : α → Bool} (hq : ∀ a, q a = true ↔ b.charges a i)
    (chosen : List α) : b.used i chosen = ((chosen.filter q).map b.amount).sum := by
  rw [Budgets.used]
  congr 2
  exact List.filter_congr fun a _ => by rw [Bool.eq_iff_iff, hq, decide_eq_true_eq]

theorem pick_cases (chosen options : List α) :
    (∃ a ∈ options, b.Fits chosen a ∧ b.pick chosen options = chosen ++ [a]) ∨
      ((∀ a ∈ options, ¬b.Fits chosen a) ∧ b.pick chosen options = chosen) := by
  induction options with
  | nil => exact .inr ⟨by simp, rfl⟩
  | cons a rest ih =>
    by_cases h : b.Fits chosen a
    · exact .inl ⟨a, by simp, h, by simp [Budgets.pick, h]⟩
    · simp only [Budgets.pick, h, if_false]
      rcases ih with ⟨c, hc, hf, he⟩ | ⟨hn, he⟩
      · exact .inl ⟨c, by simp [hc], hf, he⟩
      · exact .inr ⟨by simpa [h] using hn, he⟩

theorem pick_within {chosen : List α} (h : b.Within chosen) (options : List α) :
    b.Within (b.pick chosen options) := by
  rcases pick_cases chosen options with ⟨a, _, hf, he⟩ | ⟨_, he⟩ <;> rw [he]
  · intro i
    rw [used_append_singleton]
    split
    · exact hf i ‹_›
    · simpa using h i
  · exact h

theorem foldl_within {chosen : List α} (h : b.Within chosen) (groups : List (List α)) :
    b.Within (groups.foldl b.pick chosen) := by
  induction groups generalizing chosen with
  | nil => exact h
  | cons g rest ih => exact ih (pick_within h g)

/-- No budget is ever overdrawn. -/
theorem allocate_within (h : ∀ i, 0 ≤ b.limit i) (groups : List (List α)) :
    b.Within (b.allocate groups) :=
  foldl_within (fun i => by simpa using h i) groups

theorem mem_foldl {chosen : List α} {groups : List (List α)} {a : α}
    (h : a ∈ groups.foldl b.pick chosen) : a ∈ chosen ∨ ∃ g ∈ groups, a ∈ g := by
  induction groups generalizing chosen with
  | nil => exact .inl h
  | cons g rest ih =>
    rcases ih h with hp | ⟨g', hg', ha⟩
    · rcases pick_cases (b := b) chosen g with ⟨c, hc, _, he⟩ | ⟨_, he⟩ <;> rw [he] at hp
      · rcases List.mem_append.mp hp with hp | hp
        · exact .inl hp
        · exact .inr ⟨g, by simp, List.mem_singleton.mp hp ▸ hc⟩
      · exact .inl hp
    · exact .inr ⟨g', by simp [hg'], ha⟩

theorem mem_allocate {groups : List (List α)} {a : α} (h : a ∈ b.allocate groups) :
    ∃ g ∈ groups, a ∈ g := (mem_foldl h).resolve_left (by simp)

/-- Groups told apart by a key never serve one key twice. -/
theorem foldl_keys_nodup (key : α → κ) {chosen : List α} {groups : List (List α)}
    (hc : (chosen.map key).Nodup) (hd : ∀ c ∈ chosen, ∀ g ∈ groups, ∀ a ∈ g, key c ≠ key a)
    (hg : groups.Pairwise (fun g h => ∀ a ∈ g, ∀ c ∈ h, key a ≠ key c)) :
    ((groups.foldl b.pick chosen).map key).Nodup := by
  induction groups generalizing chosen with
  | nil => exact hc
  | cons g rest ih =>
    rw [List.pairwise_cons] at hg
    rw [List.foldl_cons]
    rcases pick_cases (b := b) chosen g with ⟨a, ha, _, he⟩ | ⟨_, he⟩ <;> rw [he]
    · refine ih ?_ ?_ hg.2
      · rw [List.map_append, List.map_singleton]
        refine List.Nodup.append hc (by simp) (List.disjoint_singleton.mpr ?_)
        rintro hm
        obtain ⟨c, hcm, hk⟩ := List.mem_map.mp hm
        exact hd c hcm g (by simp) a ha hk
      · intro c hcm g' hg' a' ha'
        rcases List.mem_append.mp hcm with hcm | hcm
        · exact hd c hcm g' (by simp [hg']) a' ha'
        · exact hg.1 g' hg' c (List.mem_singleton.mp hcm ▸ ha) a' ha'
    · exact ih hc (fun c hcm g' hg' => hd c hcm g' (by simp [hg'])) hg.2

theorem allocate_keys_nodup (key : α → κ) {groups : List (List α)}
    (hg : groups.Pairwise (fun g h => ∀ a ∈ g, ∀ c ∈ h, key a ≠ key c)) :
    ((b.allocate groups).map key).Nodup :=
  foldl_keys_nodup key (by simp) (by simp) hg

section Exhaustion

theorem used_append (i : ι) (chosen more : List α) :
    b.used i (chosen ++ more) = b.used i chosen + b.used i more := by
  simp [Budgets.used, List.filter_append]

theorem used_nonneg (h : ∀ a, 0 ≤ b.amount a) (i : ι) (chosen : List α) : 0 ≤ b.used i chosen := by
  rw [Budgets.used]
  refine List.sum_nonneg fun x hx => ?_
  obtain ⟨a, _, rfl⟩ := List.mem_map.mp hx
  exact h a

/-- What fits after more was chosen has fitted before. -/
theorem fits_of_prefix (h : ∀ a, 0 ≤ b.amount a) {chosen later : List α} (hp : chosen <+: later)
    {a : α} (hf : b.Fits later a) : b.Fits chosen a := by
  obtain ⟨more, rfl⟩ := hp
  intro i hi
  have hlater := hf i hi
  rw [used_append] at hlater
  have hmore := used_nonneg h i more
  omega

theorem pick_isPrefix (chosen options : List α) : chosen <+: b.pick chosen options := by
  obtain ⟨a, _, _, he⟩ | ⟨_, he⟩ := pick_cases (b := b) chosen options
  · rw [he]
    exact List.prefix_append chosen [a]
  · simp only [he, List.prefix_rfl]

theorem foldl_isPrefix (chosen : List α) (groups : List (List α)) :
    chosen <+: groups.foldl b.pick chosen := by
  induction groups generalizing chosen with
  | nil => exact List.prefix_rfl
  | cons g rest ih => exact (pick_isPrefix chosen g).trans (ih _)

/-- Nothing of a group that was not served fits, in its turn or in what is left in the end. -/
theorem not_fits_of_unserved (h : ∀ a, 0 ≤ b.amount a) (before after : List (List α)) {g : List α}
    (hn : ∀ a ∈ g, a ∉ b.allocate (before ++ g :: after)) :
    ∀ a ∈ g, ¬b.Fits (before.foldl b.pick []) a ∧
      ¬b.Fits (b.allocate (before ++ g :: after)) a := by
  have hfinal : b.allocate (before ++ g :: after) =
      after.foldl b.pick (b.pick (before.foldl b.pick []) g) := by
    rw [Budgets.allocate, List.foldl_append, List.foldl_cons]
  have hinitial := foldl_isPrefix (b := b) (b.pick (before.foldl b.pick []) g) after
  rw [← hfinal] at hinitial
  have hrefused : ∀ a ∈ g, ¬b.Fits (before.foldl b.pick []) a := by
    obtain ⟨a, ha, _, he⟩ | ⟨hnone, _⟩ := pick_cases (b := b) (before.foldl b.pick []) g
    · have hmem : a ∈ b.pick (before.foldl b.pick []) g := by
        rw [he]
        exact List.mem_append_right _ (List.mem_singleton_self a)
      exact absurd (hinitial.subset hmem) (hn a ha)
    · exact hnone
  refine fun a ha => ⟨hrefused a ha, fun hf => hrefused a ha ?_⟩
  exact fits_of_prefix h ((pick_isPrefix _ g).trans hinitial) hf

end Exhaustion

end

end CryptoLending.Lib.Budget
