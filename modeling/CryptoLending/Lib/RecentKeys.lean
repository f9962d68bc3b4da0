import Mathlib.Data.List.Dedup
import Mathlib.Data.List.Perm.Subperm

namespace CryptoLending.Lib.RecentKeys

variable {κ : Type} [DecidableEq κ]

/-- Make a key the most recent one of at most so many; the oldest one makes room. -/
def touch (capacity : Nat) (keys : List κ) (k : κ) : List κ :=
  if k ∈ keys then keys.erase k ++ [k]
  else (if keys.length < capacity then keys else keys.tail) ++ [k]

section Sizes

variable {capacity : Nat} {keys : List κ}

theorem touch_length (hpos : 0 < capacity) (h : keys.length ≤ capacity) (k : κ) :
    (touch capacity keys k).length ≤ capacity := by
  simp only [touch]
  split
  · rename_i hk
    rw [List.length_append, List.length_erase_of_mem hk, List.length_singleton]
    have hne := List.length_pos_of_mem hk
    omega
  · split
    · rw [List.length_append, List.length_singleton]
      omega
    · rw [List.length_append, List.length_tail, List.length_singleton]
      omega

end Sizes

theorem dedup_length_le {l m : List κ} (h : l ⊆ m) : l.dedup.length ≤ m.dedup.length := by
  apply List.Subperm.length_le
  apply (List.nodup_dedup l).subperm
  intro k hk
  exact List.mem_dedup.mpr (h (List.mem_dedup.mp hk))

section Kept

variable {capacity : Nat} {keys used : List κ} {s : κ}

/-- Every key after `s` was used since `s` was. -/
def UsedSince (used : List κ) (s : κ) (keys : List κ) : Prop :=
  ∃ older newer, keys = older ++ s :: newer ∧ ∀ k ∈ newer, k ∈ used

theorem usedSince_touch_self (capacity : Nat) (keys : List κ) (s : κ) :
    UsedSince [] s (touch capacity keys s) := by
  simp only [touch]
  split
  · exact ⟨_, [], rfl, fun _ h => absurd h List.not_mem_nil⟩
  · exact ⟨_, [], rfl, fun _ h => absurd h List.not_mem_nil⟩

/-- A use of another key only drops `s` when enough others were used since `s` was. -/
theorem UsedSince.touch (h : UsedSince used s keys) (hnodup : keys.Nodup) {k : κ} (hk : k ≠ s)
    (hcount : (used ++ [k]).dedup.length < capacity) :
    UsedSince (used ++ [k]) s (touch capacity keys k) := by
  obtain ⟨older, newer, rfl, hnewer⟩ := h
  have hnew : ∀ {l : List κ}, (∀ j ∈ l, j ∈ newer) → ∀ j ∈ l ++ [k], j ∈ used ++ [k] := by
    intro l hl j hj
    obtain hj | hj := List.mem_append.mp hj
    · exact List.mem_append_left _ (hnewer j (hl j hj))
    · exact List.mem_append_right _ hj
  simp only [RecentKeys.touch]
  by_cases hmem : k ∈ older ++ s :: newer
  · rw [if_pos hmem]
    by_cases hold : k ∈ older
    · refine ⟨older.erase k, newer ++ [k], ?_, hnew fun _ hj => hj⟩
      rw [List.erase_append_left _ hold, List.append_assoc, List.cons_append]
    · refine ⟨older, newer.erase k ++ [k], ?_, hnew fun _ hj => List.mem_of_mem_erase hj⟩
      rw [List.erase_append_right _ hold, List.erase_cons_tail (by simpa using hk.symm),
        List.append_assoc, List.cons_append]
  · rw [if_neg hmem]
    split
    · exact ⟨older, newer ++ [k], by simp, hnew fun _ hj => hj⟩
    rename_i hfull
    cases older with
    | cons j older => exact ⟨older, newer ++ [k], by simp, hnew fun _ hj => hj⟩
    | nil =>
      -- Only here would `s` make room, but the keys after it are too few to fill the list.
      exfalso
      have hnodup' : (newer ++ [k]).Nodup :=
        List.Nodup.append (List.nodup_cons.mp hnodup).2 (List.nodup_singleton k)
          (List.disjoint_singleton.mpr fun hj => hmem (by simp [hj]))
      have hsub : newer ++ [k] ⊆ (used ++ [k]).dedup := fun j hj =>
        List.mem_dedup.mpr (hnew (fun _ hj => hj) j hj)
      have hle := (hnodup'.subperm hsub).length_le
      simp only [List.nil_append, List.length_cons, List.length_append, List.length_nil] at hle hfull
      omega

omit [DecidableEq κ] in
theorem UsedSince.mem (h : UsedSince used s keys) : s ∈ keys := by
  obtain ⟨older, newer, rfl, _⟩ := h
  simp

end Kept

end CryptoLending.Lib.RecentKeys
