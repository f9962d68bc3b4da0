import Mathlib.Data.List.Sort

namespace CryptoLending.Lib.Sorting

variable {α β κ : Type}

/-- A stable sort by a three-way comparison. -/
def sortBy (compare : α → α → Ordering) (l : List α) : List α :=
  l.insertionSort (fun a b => compare a b ≠ .gt)

theorem sortBy_perm (compare : α → α → Ordering) (l : List α) : (sortBy compare l).Perm l :=
  List.perm_insertionSort _ l

@[simp] theorem mem_sortBy {compare : α → α → Ordering} {l : List α} {a : α} :
    a ∈ sortBy compare l ↔ a ∈ l := (sortBy_perm compare l).mem_iff

@[simp] theorem length_sortBy (compare : α → α → Ordering) (l : List α) :
    (sortBy compare l).length = l.length := (sortBy_perm compare l).length_eq

theorem sortBy_map (compare : β → β → Ordering) (f : α → β) (l : List α) :
    sortBy compare (l.map f) = (sortBy (fun a b => compare (f a) (f b)) l).map f :=
  (List.map_insertionSort (fun a b => compare (f a) (f b) ≠ .gt) (fun a b => compare a b ≠ .gt)
    f l (fun _ _ _ _ => Iff.rfl)).symm

/-- The listed items, in a fixed order and without repetitions. -/
def inOrder [BEq α] (order l : List α) : List α := order.filter (fun a => l.contains a)

theorem mem_inOrder [BEq α] [LawfulBEq α] {order l : List α} {a : α} (h : a ∈ order) :
    a ∈ inOrder order l ↔ a ∈ l := by
  simp [inOrder, h]

theorem inOrder_eq_nil [BEq α] [LawfulBEq α] {order l : List α} (h : ∀ a, a ∈ order) :
    inOrder order l = [] ↔ l = [] := by
  simp only [List.eq_nil_iff_forall_not_mem, mem_inOrder (h _)]

/-- A comparison that ranks the items of a list by a key of a linear order. -/
def RanksBy [LinearOrder κ] (compare : α → α → Ordering) (key : α → κ) (l : List α) : Prop :=
  ∀ a ∈ l, ∀ b ∈ l, compare a b ≠ .gt ↔ key a ≤ key b

variable [LinearOrder κ] {compare : α → α → Ordering} {key : α → κ} {l m : List α}

theorem RanksBy.perm (h : RanksBy compare key l) (hp : l.Perm m) : RanksBy compare key m :=
  fun a ha b hb => h a (hp.mem_iff.mpr ha) b (hp.mem_iff.mpr hb)

theorem RanksBy.subset (h : RanksBy compare key l) (hs : m ⊆ l) : RanksBy compare key m :=
  fun a ha b hb => h a (hs ha) b (hs hb)

theorem RanksBy.map_sortBy (h : RanksBy compare key l) :
    (sortBy compare l).map key = (l.map key).insertionSort (· ≤ ·) :=
  List.map_insertionSort _ _ key l h

theorem RanksBy.pairwise (h : RanksBy compare key l) :
    (sortBy compare l).Pairwise (fun a b => key a ≤ key b) := by
  have hs : ((sortBy compare l).map key).Pairwise (· ≤ ·) := by
    rw [h.map_sortBy]
    exact List.pairwise_insertionSort (· ≤ ·) (l.map key)
  exact List.pairwise_map.mp hs

/-- Sorting by a key that tells the items apart forgets their original order. -/
theorem RanksBy.sortBy_eq_of_perm {compare' : α → α → Ordering} (h : RanksBy compare key l)
    (h' : RanksBy compare' key m) (hp : l.Perm m)
    (hinj : ∀ a ∈ l, ∀ b ∈ l, key a = key b → a = b) : sortBy compare l = sortBy compare' m := by
  have hpm : (sortBy compare l).Perm (sortBy compare' m) :=
    (sortBy_perm compare l).trans (hp.trans (sortBy_perm compare' m).symm)
  have hanti : ∀ a b, a ∈ sortBy compare l → b ∈ sortBy compare' m → key a ≤ key b →
      key b ≤ key a → a = b := fun a b ha hb hab hba =>
    hinj a (mem_sortBy.mp ha) b (hp.mem_iff.mpr (mem_sortBy.mp hb)) (le_antisymm hab hba)
  exact List.Perm.eq_of_pairwise hanti h.pairwise h'.pairwise hpm

/-- The sorted list is the arrangement with ascending keys. -/
theorem RanksBy.sortBy_eq (h : RanksBy compare key l) (hp : l.Perm m)
    (hm : m.Pairwise (fun a b => key a < key b)) : sortBy compare l = m := by
  have hanti : ∀ a b, a ∈ sortBy compare l → b ∈ m → key a ≤ key b → key b ≤ key a → a = b := by
    intro a b ha hb hab hba
    have hnodup : (m.map key).Nodup := List.pairwise_map.mpr (hm.imp fun hlt => hlt.ne)
    exact List.inj_on_of_nodup_map hnodup (hp.mem_iff.mp (mem_sortBy.mp ha)) hb
      (le_antisymm hab hba)
  exact List.Perm.eq_of_pairwise hanti h.pairwise (hm.imp fun hlt => hlt.le)
    ((sortBy_perm compare l).trans hp)

/-- The first item of the sorted list has the least key. -/
theorem RanksBy.head_le (h : RanksBy compare key l) {a b : α}
    (ha : (sortBy compare l).head? = some a) (hb : b ∈ l) : key a ≤ key b := by
  have hp := h.pairwise
  cases hs : sortBy compare l with
  | nil => simp [hs] at ha
  | cons c rest =>
    rw [hs, List.head?_cons, Option.some.injEq] at ha
    subst ha
    have hm : b ∈ c :: rest := hs ▸ mem_sortBy.mpr hb
    rw [hs] at hp
    rcases List.mem_cons.mp hm with rfl | hr
    · exact le_rfl
    · exact List.rel_of_pairwise_cons hp hr

theorem head?_sortBy_eq_none (compare : α → α → Ordering) (l : List α) :
    (sortBy compare l).head? = none ↔ l = [] := by
  rw [List.head?_eq_none_iff, ← List.length_eq_zero_iff, length_sortBy, List.length_eq_zero_iff]

end CryptoLending.Lib.Sorting
