import Mathlib.Data.List.Chain
import Mathlib.Data.List.Nodup

namespace CryptoLending.Lib

/-- A log of a stack on which the entries of a list come and go: what is pushed is the next entry of
the list, what is popped the last one that is on the stack. -/
inductive StackLog {α γ : Type} (push pop : α → γ) (order : List α) : List γ → Nat → Prop
  | empty : StackLog push pop order [] 0
  | push {log : List γ} {n : Nat} {a : α} (h : StackLog push pop order log n)
    (ha : order[n]? = some a) : StackLog push pop order (log ++ [push a]) (n + 1)
  | pop {log : List γ} {n : Nat} {a : α} (h : StackLog push pop order log (n + 1))
    (ha : order[n]? = some a) : StackLog push pop order (log ++ [pop a]) n

namespace StackLog

variable {α γ : Type} {push pop : α → γ} {order : List α} {log : List γ} {n : Nat}

theorem le_length (h : StackLog push pop order log n) : n ≤ order.length := by
  induction h with
  | empty => exact Nat.zero_le _
  | push h ha ih =>
    obtain ⟨hn, -⟩ := List.getElem?_eq_some_iff.mp ha
    omega
  | pop h ha ih => omega

/-- What is not on the stack yet. -/
theorem notMem_take (hnodup : order.Nodup) {a : α} (hn : n < order.length) (ha : order[n] = a) :
    a ∉ order.take n := by
  intro hmem
  obtain ⟨i, hi, hia⟩ := List.mem_iff_getElem.mp hmem
  rw [List.length_take] at hi
  rw [List.getElem_take] at hia
  have hin := hnodup.getElem_inj_iff.mp (hia.trans ha.symm)
  omega

section Alternation

variable [DecidableEq γ]

def movesOf (push pop : α → γ) (a : α) (log : List γ) : List γ :=
  log.filter (fun c => c = push a ∨ c = pop a)

variable (hpush : Function.Injective push) (hpop : Function.Injective pop)
  (hne : ∀ a b, push a ≠ pop b) (hnodup : order.Nodup)

include hpush hpop hne hnodup in
/-- The last move of an entry tells whether it is on the stack, and its moves take turns. -/
theorem moves (h : StackLog push pop order log n) (a : α) :
    ((movesOf push pop a log).getLast? = some (push a) ↔ a ∈ order.take n) ∧
      (movesOf push pop a log).IsChain (· ≠ ·) := by
  have hsnoc : ∀ (l : List γ) (c : γ), movesOf push pop a (l ++ [c]) =
      movesOf push pop a l ++ if c = push a ∨ c = pop a then [c] else [] := by
    intro l c
    rw [movesOf, List.filter_append, List.filter_singleton]
    by_cases hc : c = push a ∨ c = pop a <;> simp [hc, movesOf]
  induction h with
  | empty => simp [movesOf]
  | @push log n b h hb ih =>
    obtain ⟨hn, hb⟩ := List.getElem?_eq_some_iff.mp hb
    rw [hsnoc]
    rw [List.take_add_one, List.getElem?_eq_getElem hn, hb, Option.toList_some, List.mem_append,
      List.mem_singleton]
    by_cases hab : b = a
    · subst hab
      have hnew := notMem_take hnodup hn hb
      rw [if_pos (Or.inl rfl)]
      refine ⟨by simp, ?_⟩
      refine List.isChain_append.mpr ⟨ih.2, List.isChain_singleton _, ?_⟩
      intro x hx y hy hxy
      obtain rfl := Option.some.inj hy
      exact hnew (ih.1.mp (hxy ▸ hx))
    · have hskip : ¬(push b = push a ∨ push b = pop a) := by
        rintro (hc | hc)
        · exact hab (hpush hc)
        · exact hne b a hc
      rw [if_neg hskip, List.append_nil, or_iff_left (fun hc => hab hc.symm)]
      exact ih
  | @pop log n b h hb ih =>
    obtain ⟨hn, hb⟩ := List.getElem?_eq_some_iff.mp hb
    rw [List.take_add_one, List.getElem?_eq_getElem hn, hb, Option.toList_some, List.mem_append,
      List.mem_singleton] at ih
    rw [hsnoc]
    by_cases hab : b = a
    · subst hab
      have hgone := notMem_take hnodup hn hb
      rw [if_pos (Or.inr rfl)]
      constructor
      · rw [List.getLast?_concat, Option.some.injEq]
        exact ⟨fun hc => (hne b b hc.symm).elim, fun hc => (hgone hc).elim⟩
      · refine List.isChain_append.mpr ⟨ih.2, List.isChain_singleton _, ?_⟩
        intro x hx y hy hxy
        obtain rfl := Option.some.inj hy
        have hlast := ih.1.mpr (Or.inr rfl)
        rw [hx, Option.some.injEq] at hlast
        exact hne b b (hlast.symm.trans hxy)
    · have hskip : ¬(pop b = push a ∨ pop b = pop a) := by
        rintro (hc | hc)
        · exact hne a b hc.symm
        · exact hab (hpop hc)
      rw [if_neg hskip, List.append_nil]
      rw [or_iff_left (fun hc => hab hc.symm)] at ih
      exact ih

end Alternation

end StackLog

end CryptoLending.Lib
